import Sidereon.Foundation.Relational
import Sidereon.Ntrip.Connection

/-!
# Framing across reconnects

The message assembler is made once, when the process starts, and outlives every connection. The
process that was meant renews it whenever it connects again, as it renews the protocol machine. The
two report the same in every run in which the assembler holds no part of a frame when the process
connects again.
-/

namespace Sidereon.Ntrip

open Foundation Foundation.Program

variable {core : Core}

/-- All that an assembler yields for chunks pushed one after another. -/
def assembled : core.Assembler → List Bytes → List (Except String core.Rtcm)
  | _, [] => []
  | assembler, chunk :: chunks =>
    (core.assemblerPush assembler chunk).2 ++
      assembled (core.assemblerPush assembler chunk).1 chunks

/-- Two assemblers that yield the same for all chunks. -/
def SameFrames (assembler assembler' : core.Assembler) : Prop :=
  ∀ chunks, assembled assembler chunks = assembled assembler' chunks

/-- An assembler that yields what a new one does: it holds no part of a frame. -/
def ActsNew (assembler : core.Assembler) : Prop := SameFrames assembler core.assemblerNew

/-- The core assembler is a function of the concatenation of the chunks pushed since it was
created: the state it is in, and all that it has yielded. -/
def Concatenates (core : Core) : Prop :=
  ∃ (state : Bytes → core.Assembler) (frames : Bytes → List (Except String core.Rtcm)),
    state [] = core.assemblerNew ∧ frames [] = [] ∧
      ∀ pushed chunk, (core.assemblerPush (state pushed) chunk).1 = state (pushed ++ chunk) ∧
        frames pushed ++ (core.assemblerPush (state pushed) chunk).2 = frames (pushed ++ chunk)

/-- Assemblers that yield the same yield the same for the next chunk, and do so after it. -/
theorem SameFrames.push {assembler assembler' : core.Assembler}
    (same : SameFrames assembler assembler') (chunk : Bytes) :
    (core.assemblerPush assembler chunk).2 = (core.assemblerPush assembler' chunk).2 ∧
      SameFrames (core.assemblerPush assembler chunk).1 (core.assemblerPush assembler' chunk).1 := by
  have now : (core.assemblerPush assembler chunk).2 = (core.assemblerPush assembler' chunk).2 := by
    simpa [assembled] using same [chunk]
  refine ⟨now, fun chunks => ?_⟩
  have later := same (chunk :: chunks)
  simp only [assembled, now] at later
  exact List.append_cancel_left later

/-- A state in which a process that connects has a new assembler. -/
def State.renewed (st : State core) : Message → State core
  | .timer .connectAfterBackoff => { st with assembler := core.assemblerNew }
  | _ => st

/-- The steps of a process that renews its assembler whenever it connects again. -/
def RenewingStep (opts : Options) (system : System core) : Label → System core → Prop
  | .handle message, system' => ∃ st rest outcome world,
      system.status = .running st ∧ system.mailbox = message :: rest ∧
      (handleInfo (st.renewed message) message).Exec respond system.world outcome world ∧
      system' = {
        status := .after outcome
        mailbox := rest
        world
        received := system.handed message }
  | label, system' => Step opts system label system'

/-- Two states that differ in their assemblers only, which yield the same. -/
structure Reframed (st st' : State core) : Prop where
  opts : st'.opts = st.opts
  sink : st'.sink = st.sink
  ref : st'.ref = st.ref
  machine : st'.machine = st.machine
  assembler : SameFrames st.assembler st'.assembler
  socket : st'.socket = st.socket
  transport : st'.transport = st.transport
  attempt : st'.attempt = st.attempt
  lastRx : st'.lastRx = st.lastRx
  ggaTimerRef : st'.ggaTimerRef = st.ggaTimerRef

/-- A state is itself reframed. -/
theorem Reframed.refl (st : State core) : Reframed st st :=
  ⟨rfl, rfl, rfl, rfl, fun _ => rfl, rfl, rfl, rfl, rfl, rfl⟩

/-- Two flows that differ in such states only. -/
def Flow.Reframed : Flow core → Flow core → Prop
  | .ok st, .ok st' => Ntrip.Reframed st st'
  | .reconnect st reason, .reconnect st' reason' => Ntrip.Reframed st st' ∧ reason = reason'
  | .stop st reason, .stop st' reason' => Ntrip.Reframed st st' ∧ reason = reason'
  | _, _ => False

/-- Two replies that differ in such states only. -/
def Reply.Reframed : Reply core → Reply core → Prop
  | .noreply st, .noreply st' => Ntrip.Reframed st st'
  | .stop st, .stop st' => Ntrip.Reframed st st'
  | _, _ => False

section Callbacks

variable {st st' : State core}

/-- A program that leaves the same flow with another assembler. -/
abbrev SameFlow (program program' : Action core (Flow core)) : Prop :=
  Alike Flow.Reframed program program'

/-- A callback that leaves the same state with another assembler. -/
abbrev SameReply (program program' : Action core (Reply core)) : Prop :=
  Alike Reply.Reframed program program'

/-- A message goes to the same sink. -/
theorem Reframed.deliver (reframed : Reframed st st') (message : SinkMessage core) :
    Ntrip.deliver st' message = Ntrip.deliver st message := by
  rw [Ntrip.deliver, reframed.sink, reframed.ref, Ntrip.deliver]

/-- The same socket is closed. -/
theorem Reframed.closeStateSocket (reframed : Reframed st st') :
    Ntrip.closeStateSocket st' = Ntrip.closeStateSocket st := by
  rw [Ntrip.closeStateSocket, reframed.socket, reframed.transport, Ntrip.closeStateSocket]

/-- `down` ignores the assembler. -/
theorem down_reframed (reframed : Reframed st st') (reason : Reason core.Table) :
    SameReply (down st reason) (down st' reason) := by
  rw [down, down, reframed.deliver, reframed.closeStateSocket]
  refine .bind_left fun _ => .bind_left fun _ => .pure ?_
  exact { reframed with socket := rfl, transport := rfl, ggaTimerRef := rfl }

/-- Scheduling another attempt ignores the assembler. -/
theorem scheduleReconnect_reframed (reframed : Reframed st st') (reason : Reason core.Table) :
    SameReply (scheduleReconnect st reason) (scheduleReconnect st' reason) := by
  simp only [scheduleReconnect, reframed.deliver, reframed.closeStateSocket, reframed.attempt,
    reframed.opts, reframed.machine]
  refine .bind_left fun _ => .bind_left fun _ => .bind_left fun _ => .bind_left fun _ => .pure ?_
  exact ⟨rfl, reframed.sink, reframed.ref, rfl, reframed.assembler, rfl, rfl, rfl,
    reframed.lastRx, rfl⟩

/-- `reconnect` ignores the assembler. -/
theorem reconnect_reframed (reframed : Reframed st st') (reason : Reason core.Table) :
    SameReply (reconnect st reason) (reconnect st' reason) := by
  simp only [reconnect, reframed.opts, reframed.attempt]
  cases maxReconnects st.opts with
  | none => exact scheduleReconnect_reframed reframed reason
  | some bound =>
    by_cases reached : (st.attempt : Int) ≥ bound
    · simp only [reached, ↓reduceIte]
      exact down_reframed reframed reason
    · simp only [reached, ↓reduceIte]
      exact scheduleReconnect_reframed reframed reason

/-- The last clause of `send_gga` ignores the assembler. -/
theorem sendGgaLive_reframed (reframed : Reframed st st') (machine : core.Machine)
    (transport : Transport) (socket : Socket) :
    SameFlow (sendGgaLive st machine transport socket)
      (sendGgaLive st' machine transport socket) := by
  simp only [sendGgaLive, reframed.opts]
  refine .bind_left fun wanted => ?_
  rcases wanted with _ | (detail | position)
  · exact .pure reframed
  · exact .pure ⟨reframed, rfl⟩
  · refine .bind_left fun now => .bind_left fun day => ?_
    have renewed : Reframed
        { st with machine := some (core.machineGga machine now position day).1 }
        { st' with
          opts := st.opts
          machine := some (core.machineGga machine now position day).1 } :=
      { reframed with opts := rfl, machine := rfl }
    rcases (core.machineGga machine now position day).2 with _ | (_ | bytes)
    · exact .pure ⟨renewed, rfl⟩
    · exact .pure renewed
    · refine .bind_left fun result => ?_
      cases result with
      | ok _ => exact .pure renewed
      | error _ => exact .pure ⟨renewed, rfl⟩

/-- `send_gga` ignores the assembler. -/
theorem sendGga_reframed (reframed : Reframed st st') : SameFlow (sendGga st) (sendGga st') := by
  simp only [sendGga, reframed.machine, reframed.socket, reframed.transport]
  rcases st.machine with _ | machine
  · exact .pure reframed
  · rcases st.socket with _ | socket
    · exact .pure reframed
    · rcases st.transport with _ | transport
      · exact .pure reframed
      · exact sendGgaLive_reframed reframed machine transport socket

/-- `schedule_gga` ignores the assembler. -/
theorem scheduleGga_reframed (reframed : Reframed st st') :
    Alike Reframed (scheduleGga st) (scheduleGga st') := by
  rw [scheduleGga, scheduleGga, reframed.opts]
  refine .bind_left fun interval => ?_
  cases interval with
  | none => exact .pure { reframed with opts := rfl, ggaTimerRef := rfl }
  | some interval =>
    exact .bind_left fun _ => .bind_left fun _ => .bind_left fun _ =>
      .pure { reframed with opts := rfl, ggaTimerRef := rfl }

/-- The sink mode is the same. -/
theorem Reframed.payloadSinkMode (reframed : Reframed st st') :
    Ntrip.payloadSinkMode st' = Ntrip.payloadSinkMode st := by
  rw [Ntrip.payloadSinkMode, reframed.opts, reframed.sink, Ntrip.payloadSinkMode]

/-- Messages are ingested alike. -/
theorem Reframed.ingestMessages (reframed : Reframed st st')
    (messages : List (Except String core.Rtcm)) :
    Ntrip.ingestMessages st' messages = Ntrip.ingestMessages st messages := by
  have one : ∀ message, ingestStoreMessage st' message = ingestStoreMessage st message := by
    intro message
    rw [ingestStoreMessage, storeSink, reframed.sink, reframed.opts, ingestStoreMessage, storeSink]
  induction messages with
  | nil => rfl
  | cons message messages ih =>
    cases message with
    | ok message => simp only [Ntrip.ingestMessages, one, ih]
    | error _ => exact ih

/-- Messages are delivered alike. -/
theorem Reframed.deliverMessages (reframed : Reframed st st')
    (messages : List (Except String core.Rtcm)) :
    Ntrip.deliverMessages st' messages = Ntrip.deliverMessages st messages := by
  induction messages with
  | nil => rfl
  | cons message messages ih =>
    cases message with
    | ok message => simp only [Ntrip.deliverMessages, reframed.deliver, ih]
    | error _ => exact ih

/-- A payload yields the same messages, and leaves assemblers that yield the same. -/
theorem assemblePayload_reframed (reframed : Reframed st st') (bytes : Bytes) :
    SameFlow (assemblePayload st bytes) (assemblePayload st' bytes) := by
  obtain ⟨now, later⟩ := reframed.assembler.push bytes
  have pushed : Reframed { st with assembler := (core.assemblerPush st.assembler bytes).1 }
      { st' with assembler := (core.assemblerPush st'.assembler bytes).1 } :=
    { reframed with assembler := later }
  simp only [assemblePayload, reframed.payloadSinkMode, ← now]
  cases payloadSinkMode st with
  | rtcm =>
    simp only [reframed.deliverMessages]
    exact .bind_left fun _ => .pure pushed
  | store =>
    simp only [pushed.ingestMessages]
    refine .bind_left fun result => ?_
    cases result with
    | ok _ => exact .pure pushed
    | error _ => exact .pure ⟨pushed, rfl⟩
  | payload => exact .pure reframed

/-- A payload leads to the same flow. -/
theorem handlePayload_reframed (reframed : Reframed st st') (bytes : Bytes) :
    SameFlow (handlePayload st bytes) (handlePayload st' bytes) := by
  simp only [handlePayload, reframed.payloadSinkMode, reframed.deliver]
  split
  · exact .bind_left fun _ => assemblePayload_reframed reframed bytes
  · exact assemblePayload_reframed reframed bytes

/-- An event leads to the same flow. -/
theorem handleEvent_reframed (reframed : Reframed st st') (event : Event core.Table) :
    SameFlow (handleEvent st event) (handleEvent st' event) := by
  cases event with
  | connected =>
    refine (sendGga_reframed reframed).bind fun flow flow' alike => ?_
    cases flow with
    | ok next =>
      cases flow' with
      | ok next' => exact (scheduleGga_reframed alike).bind fun _ _ alike' => .pure alike'
      | reconnect | stop => cases alike
    | reconnect | stop =>
      cases flow' with
      | ok => cases alike
      | reconnect | stop => exact .pure alike
  | payload bytes => exact handlePayload_reframed reframed bytes
  | sourcetable table =>
    simp only [handleEvent, reframed.opts, reframed.deliver]
    split
    · exact .bind_left fun _ => .pure reframed
    · exact .pure ⟨reframed, rfl⟩
  | rejected rejection => exact .pure ⟨reframed, rfl⟩
  | streamCorrupted detail => exact .pure ⟨reframed, rfl⟩
  | streamEnded => exact .pure ⟨reframed, rfl⟩

/-- Work that goes on while its flow is fine goes on alike. -/
theorem continue_reframed {first first' : Action core (Flow core)}
    {rest : State core → Action core (Flow core)} (alike : SameFlow first first')
    (continues : ∀ st st', Reframed st st' → SameFlow (rest st) (rest st')) :
    SameFlow
      (do match ← first with
        | .ok next => rest next
        | other => return other)
      (do match ← first' with
        | .ok next => rest next
        | other => return other) := by
  refine alike.bind fun flow flow' ends => ?_
  cases flow with
  | ok next =>
    cases flow' with
    | ok next' => exact continues next next' ends
    | reconnect | stop => cases ends
  | reconnect | stop =>
    cases flow' with
    | ok => cases ends
    | reconnect | stop => exact .pure ends

/-- A list of events leads to the same flow. -/
theorem processEvents_reframed (events : List (Event core.Table)) :
    ∀ {st st' : State core}, Reframed st st' →
      SameFlow (processEvents events st) (processEvents events st') := by
  induction events with
  | nil => exact fun reframed => .pure reframed
  | cons event events ih =>
    exact fun reframed => continue_reframed (handleEvent_reframed reframed event) fun _ _ => ih

/-- Bytes lead to the same flow. -/
theorem processBytes_reframed (reframed : Reframed st st') (bytes : Bytes) :
    SameFlow (processBytes bytes st) (processBytes bytes st') := by
  simp only [processBytes, reframed.machine]
  rcases st.machine with _ | machine
  · exact .crash Crash.argument
  · exact processEvents_reframed _ { reframed with machine := rfl }

/-- `stream_reply` replies alike. -/
theorem streamReply_reframed {flow flow' : Flow core} (alike : flow.Reframed flow') :
    SameReply (streamReply flow) (streamReply flow') := by
  cases flow with
  | ok st =>
    cases flow' with
    | ok st' => exact .pure alike
    | reconnect | stop => cases alike
  | reconnect st reason =>
    cases flow' with
    | reconnect st' reason' =>
      obtain ⟨reframed, rfl⟩ := alike
      exact reconnect_reframed reframed reason
    | ok | stop => cases alike
  | stop st reason =>
    cases flow' with
    | stop st' reason' =>
      obtain ⟨reframed, rfl⟩ := alike
      exact down_reframed reframed reason
    | ok | reconnect => cases alike

/-- What replies to a good flow alike, and to the others as `stream_reply` does, replies alike. -/
theorem ended_reframed {ended : Flow core → Action core (Reply core)} {flow flow' : Flow core}
    (good : ∀ st st', Reframed st st' → SameReply (ended (.ok st)) (ended (.ok st')))
    (others : ∀ flow, (∀ st, flow ≠ .ok st) → ended flow = streamReply flow)
    (alike : flow.Reframed flow') : SameReply (ended flow) (ended flow') := by
  cases flow with
  | ok st =>
    cases flow' with
    | ok st' => exact good st st' alike
    | reconnect | stop => cases alike
  | reconnect | stop =>
    cases flow' with
    | ok => cases alike
    | reconnect | stop =>
      rw [others _ (by rintro _ ⟨⟩), others _ (by rintro _ ⟨⟩)]
      exact streamReply_reframed alike

/-- `stream_terminal` replies alike. -/
theorem streamTerminal_reframed (ending : Reason core.Table) {flow flow' : Flow core}
    (alike : flow.Reframed flow') :
    SameReply (streamTerminal ending flow) (streamTerminal ending flow') := by
  refine ended_reframed (fun _ _ reframed => down_reframed reframed ending) ?_ alike
  intro flow bad
  cases flow with
  | ok st => exact absurd rfl (bad st)
  | reconnect | stop => rfl

/-- `socket_closed` replies alike. -/
theorem socketClosed_reframed (reframed : Reframed st st') (reason : Reason core.Table) :
    SameReply (socketClosed st reason) (socketClosed st' reason) := by
  have shed : Reframed st.shed st'.shed :=
    { reframed with socket := rfl, transport := rfl, ggaTimerRef := rfl }
  simp only [socketClosed, reframed.machine]
  rcases st.machine with _ | machine
  · exact reconnect_reframed shed reason
  · have finished : Reframed { st.shed with machine := some (core.machineFinish machine).1 }
        { st'.shed with machine := some (core.machineFinish machine).1 } :=
      { shed with machine := rfl }
    refine (processEvents_reframed _ finished).bind fun flow flow' alike => ?_
    refine ended_reframed (fun _ _ reframed => reconnect_reframed reframed reason) ?_ alike
    intro flow bad
    cases flow with
    | ok st => exact absurd rfl (bad st)
    | reconnect | stop => rfl

/-- Injected chunks lead to the same flow. -/
theorem injectChunks_reframed (chunks : List Bytes) :
    ∀ {st st' : State core}, Reframed st st' →
      SameFlow (injectChunks chunks st) (injectChunks chunks st') := by
  induction chunks with
  | nil => exact fun reframed => .pure reframed
  | cons chunk chunks ih =>
    exact fun reframed => continue_reframed (processBytes_reframed reframed chunk) fun _ _ => ih

/-- An injected exchange replies alike. -/
theorem runInjected_reframed (reframed : Reframed st st') (request : Bytes) :
    SameReply (runInjected request st) (runInjected request st') := by
  refine .bind_left fun result => ?_
  cases result with
  | chunks chunks =>
    exact (injectChunks_reframed chunks reframed).bind fun _ _ => streamTerminal_reframed .normal
  | body body =>
    exact (processBytes_reframed reframed body).bind fun _ _ => streamTerminal_reframed .normal
  | failed reason => exact reconnect_reframed reframed _
  | other => exact .crash Crash.caseClause

/-- `open_socket` replies alike. -/
theorem openSocket_reframed (reframed : Reframed st st') (request : Bytes) :
    SameReply (openSocket request st) (openSocket request st') := by
  simp only [openSocket, reframed.opts]
  refine .bind_left fun timeout => .bind_left fun connected => ?_
  cases connected with
  | error reason => exact reconnect_reframed reframed _
  | ok socket =>
    refine .bind_left fun sent => ?_
    cases sent with
    | error reason => exact reconnect_reframed reframed _
    | ok _ =>
      refine .bind_left fun active => ?_
      cases active with
      | error reason => exact reconnect_reframed reframed _
      | ok _ =>
        refine .bind_left fun _ => .pure ?_
        exact { reframed with opts := rfl, socket := rfl, transport := rfl }

/-- `connect_stream` replies alike. -/
theorem connectStream_reframed (reframed : Reframed st st') :
    SameReply (connectStream st) (connectStream st') := by
  simp only [connectStream, reframed.opts]
  refine .bind_left fun result => ?_
  cases result with
  | error reason => exact down_reframed reframed reason
  | ok handle =>
    simp only [connectConfigured, reframed.opts]
    cases core.requestBytes handle with
    | error reason => exact down_reframed reframed _
    | ok request =>
      have configured : Reframed { st with machine := some (core.machineNew handle) }
          { st' with opts := st.opts, machine := some (core.machineNew handle) } :=
        { reframed with opts := rfl, machine := rfl }
      dsimp only
      split
      · exact runInjected_reframed configured request
      · exact openSocket_reframed configured request

/-- Data leads to the same reply. -/
theorem handleData_reframed (reframed : Reframed st st') (transport : Transport) (socket : Socket)
    (bytes : Bytes) :
    SameReply (handleData st transport socket bytes) (handleData st' transport socket bytes) := by
  refine .bind_left fun _ => .bind_left fun lastRx => ?_
  have received : Reframed { st with lastRx } { st' with lastRx } :=
    { reframed with lastRx := rfl }
  exact (processBytes_reframed received bytes).bind fun _ _ => streamReply_reframed

/-- A GGA tick leads to the same reply. -/
theorem ggaTick_reframed (reframed : Reframed st st') : SameReply (ggaTick st) (ggaTick st') := by
  refine (sendGga_reframed reframed).bind fun flow flow' alike => ?_
  have replied := streamReply_reframed alike
  cases flow with
  | ok next =>
    cases flow' with
    | ok next' => exact (scheduleGga_reframed alike).bind fun _ _ alike' => .pure alike'
    | reconnect | stop => cases alike
  | reconnect | stop =>
    cases flow' with
    | ok => cases alike
    | reconnect | stop => exact replied

/-- A stall check leads to the same reply. -/
theorem stallCheck_reframed (reframed : Reframed st st') :
    SameReply (stallCheck st) (stallCheck st') := by
  simp only [stallCheck, reframed.socket, reframed.opts, reframed.lastRx]
  rcases st.socket with _ | socket
  · exact .pure reframed
  · refine .bind_left fun timeout => .bind_left fun now => ?_
    split
    · exact reconnect_reframed reframed _
    · exact .bind_left fun _ => .pure reframed

/-- Every message leads to the same reply. -/
theorem handleInfo_reframed (reframed : Reframed st st') (message : Message) :
    SameReply (handleInfo st message) (handleInfo st' message) := by
  cases message with
  | data transport socket bytes =>
    simp only [handleInfo, reframed.socket, reframed.transport]
    split
    · exact handleData_reframed reframed transport socket bytes
    · exact .crash Crash.functionClause
  | closed transport socket =>
    simp only [handleInfo, reframed.socket, reframed.transport]
    split
    · exact socketClosed_reframed reframed _
    · exact .pure reframed
  | error transport socket reason => exact .crash Crash.functionClause
  | timer message =>
    cases message with
    | stallCheck => exact stallCheck_reframed reframed
    | connectAfterBackoff => exact connectStream_reframed reframed
    | ggaTick ref =>
      simp only [handleInfo, reframed.ggaTimerRef]
      split
      · exact ggaTick_reframed reframed
      · exact .pure reframed

end Callbacks

/-- Two processes of which everything but the assembler is the same. -/
def Status.SameButFraming : Status core → Status core → Prop
  | .running st, .running st' => ∃ assembler, st' = { st with assembler }
  | status, status' => status = status'

/-- Two systems of which everything but the assembler is the same, the reports among it. -/
structure SameButFraming (system system' : System core) : Prop where
  status : system.status.SameButFraming system'.status
  mailbox : system'.mailbox = system.mailbox
  world : system'.world = system.world
  received : system'.received = system.received

/-- A run whose every step a process takes too that renews its assembler whenever it connects
again: what is delivered and ingested on a connection is what a new assembler makes of it. -/
def Isolated (opts : Options) (clock : Int) (steps : List (Taken (System core) Label)) : Prop :=
  ∃ steps' last', Run (RenewingStep opts) (System.initial core clock) steps' last' ∧
    List.Forall₂ (fun step step' => step'.label = step.label ∧
      SameButFraming step.before step'.before ∧ SameButFraming step.after step'.after) steps steps'

/-- When the process connects again, its assembler holds no part of a frame. -/
def ReconnectsWhole (step : Taken (System core) Label) : Prop :=
  step.label = .handle (.timer .connectAfterBackoff) → ∀ st, step.before.status = .running st →
    ActsNew st.assembler

/-- Two processes of which the states are reframed. -/
def Status.Reframed : Status core → Status core → Prop
  | .running st, .running st' => Ntrip.Reframed st st'
  | status, status' => status = status'

/-- Two systems that go on reporting the same. -/
structure Together (system system' : System core) : Prop where
  status : system.status.Reframed system'.status
  mailbox : system'.mailbox = system.mailbox
  world : system'.world = system.world
  received : system'.received = system.received

/-- Systems that go on together differ in the assembler only. -/
theorem Together.sameButFraming {system system' : System core} (together : Together system system') :
    SameButFraming system system' := by
  refine ⟨?_, together.mailbox, together.world, together.received⟩
  have status := together.status
  revert status
  cases system.status with
  | running st =>
    cases system'.status with
    | running st' =>
      intro reframed
      refine ⟨st'.assembler, ?_⟩
      obtain ⟨opts, sink, ref, machine, _, socket, transport, attempt, lastRx, gga⟩ := reframed
      cases st'
      simp_all
    | starting | stopped | crashed => exact fun impossible => nomatch impossible
  | starting | stopped | crashed =>
    cases system'.status with
    | running => exact fun impossible => nomatch impossible
    | starting | stopped | crashed => exact id

/-- The renewed state is reframed too, when the assembler acts like a new one. -/
theorem Reframed.renewed {st st' : State core} (reframed : Reframed st st') (message : Message)
    (whole : message = .timer .connectAfterBackoff → ActsNew st.assembler) :
    Reframed st (st'.renewed message) := by
  unfold State.renewed
  split
  · exact { reframed with assembler := whole rfl }
  · exact reframed

/-- Alike outcomes leave processes that go on together. -/
theorem Status.after_reframed {outcome outcome' : Except Crash (Reply core)}
    (alike : Alike.Outcomes Reply.Reframed outcome outcome') :
    (Status.after outcome : Status core).Reframed (.after outcome') := by
  cases outcome with
  | ok reply =>
    cases outcome' with
    | ok reply' =>
      cases reply with
      | noreply st =>
        cases reply' with
        | noreply st' => exact alike
        | stop st' => cases alike
      | stop st =>
        cases reply' with
        | noreply st' => cases alike
        | stop st' => rfl
    | error fault => cases alike
  | error fault =>
    cases outcome' with
    | ok reply' => cases alike
    | error fault' =>
      obtain rfl : fault = fault' := alike
      rfl

/-- A step of the process is a step of the one that renews its assembler. -/
theorem Together.step {opts : Options} {system system' renewing : System core} {label : Label}
    (together : Together system renewing) (step : Step opts system label system')
    (whole : ReconnectsWhole ⟨system, label, system'⟩) :
    ∃ renewing', RenewingStep opts renewing label renewing' ∧ Together system' renewing' := by
  obtain ⟨status, mailbox, world, received⟩ := renewing
  obtain ⟨sameStatus, rfl, rfl, rfl⟩ := together
  cases label with
  | start =>
    obtain ⟨starting, outcome, world', started, rfl⟩ := step
    have starting' : status = .starting := by
      rw [starting] at sameStatus
      cases status with
      | starting => rfl
      | running | stopped | crashed => cases sameStatus
    refine ⟨_, ⟨starting', outcome, world', started, rfl⟩, ?_, rfl, rfl, rfl⟩
    rcases outcome with _ | st | _
    · rfl
    · exact Reframed.refl st
    · rfl
  | tick clock =>
    obtain ⟨later, rfl⟩ := step
    exact ⟨_, ⟨later, rfl⟩, sameStatus, rfl, rfl, rfl⟩
  | arrive message =>
    obtain ⟨allowed, rfl⟩ := step
    exact ⟨_, ⟨allowed, rfl⟩, sameStatus, rfl, rfl, rfl⟩
  | fire timer =>
    obtain ⟨armed, due, rfl⟩ := step
    exact ⟨_, ⟨armed, due, rfl⟩, sameStatus, rfl, rfl, rfl⟩
  | handle message =>
    obtain ⟨st, rest, outcome, world', running, queued, handled, rfl⟩ := step
    obtain ⟨st', running', reframed⟩ : ∃ st', status = .running st' ∧ Reframed st st' := by
      rw [running] at sameStatus
      cases status with
      | running st' => exact ⟨st', rfl, sameStatus⟩
      | starting | stopped | crashed => cases sameStatus
    have renewed := reframed.renewed message fun isConnect =>
      whole (by rw [isConnect]) st running
    obtain ⟨outcome', handled', alike⟩ := (handleInfo_reframed renewed message).exec handled
    refine ⟨_, ⟨st', rest, outcome', world', running', queued, handled', rfl⟩, ?_, rfl, rfl, ?_⟩
    · exact Status.after_reframed alike
    · cases message <;> rfl

/-- Over whole runs: when the assembler holds no part of a frame at any reconnect, every connection
is framed as by a new assembler. -/
theorem framing_isolated {opts : Options} {clock : Int} {steps : List (Taken (System core) Label)}
    {last : System core} (run : Run (Step opts) (System.initial core clock) steps last)
    (whole : ∀ step ∈ steps, ReconnectsWhole step) : Isolated opts clock steps := by
  suffices followed : ∃ steps' last', Together last last' ∧
      Run (RenewingStep opts) (System.initial core clock) steps' last' ∧
      List.Forall₂ (fun step step' => step'.label = step.label ∧
        SameButFraming step.before step'.before ∧ SameButFraming step.after step'.after)
        steps steps' by
    obtain ⟨steps', last', _, run', same⟩ := followed
    exact ⟨steps', last', run', same⟩
  induction run with
  | nil => exact ⟨[], _, ⟨rfl, rfl, rfl, rfl⟩, .nil, .nil⟩
  | snoc run step ih =>
    rw [List.forall_mem_append, List.forall_mem_singleton] at whole
    obtain ⟨steps', last', together, run', same⟩ := ih whole.1
    obtain ⟨next, step', together'⟩ := together.step step whole.2
    refine ⟨_, next, together', run'.snoc step', List.rel_append same ?_⟩
    exact .cons ⟨rfl, together.sameButFraming, together'.sameButFraming⟩ .nil

section Pairs

/-- Frames of two bytes, and the byte held back. -/
def pairs : Bytes → List (Except String Bytes) × Bytes
  | first :: second :: rest => (.ok [first, second] :: (pairs rest).1, (pairs rest).2)
  | held => ([], held)

/-- The bytes held back start the next frames. -/
theorem pairs_append (pushed chunk : Bytes) :
    (pairs (pushed ++ chunk)).1 = (pairs pushed).1 ++ (pairs ((pairs pushed).2 ++ chunk)).1 ∧
      (pairs (pushed ++ chunk)).2 = (pairs ((pairs pushed).2 ++ chunk)).2 := by
  fun_induction pairs pushed with
  | case1 first second rest ih =>
    simp only [List.cons_append, pairs, List.cons.injEq, true_and]
    exact ih
  | case2 held => simp

/-- A core whose payloads are the bytes received and whose frames are pairs of them. -/
def pairingCore : Core :=
  { idleCore with
    Assembler := Bytes
    Rtcm := Bytes
    machinePush := fun _ bytes => ((), [.payload bytes])
    assemblerNew := []
    assemblerPush := fun held chunk => ((pairs (held ++ chunk)).2, (pairs (held ++ chunk)).1) }

/-- Pairs are a function of the concatenation. -/
theorem pairingCore_concatenates : Concatenates pairingCore :=
  ⟨fun pushed => (pairs pushed).2, fun pushed => (pairs pushed).1, rfl, rfl, fun pushed chunk =>
    ⟨(pairs_append pushed chunk).2.symm, (pairs_append pushed chunk).1.symm⟩⟩

/-- A stream that delivers frames. -/
def rtcmOptions : Options := { casterOptions none with sinkMode := some .rtcm }

/-- The frames delivered so far. -/
def World.frames (world : World pairingCore) : List Bytes :=
  world.reports.filterMap fun report =>
    match report with
    | .delivered _ _ (.rtcm frame) => some frame
    | _ => none

/-- What a step does, the bytes held before it, and the frames delivered after it. -/
structure FrameGlance where
  label : Label
  held : Option Bytes
  frames : List Bytes
  deriving DecidableEq, Repr

/-- The glance at a step. -/
def frameGlance (step : Taken (System pairingCore) Label) : FrameGlance where
  label := step.label
  held := match step.before.status with
    | .running st => some st.assembler
    | _ => none
  frames := step.after.world.frames

/-- A frame on each of two connections. -/
theorem framing_isolated_pairs :
    ∃ steps last, Run (Step rtcmOptions) (System.initial pairingCore 0) steps last ∧
      last.world.frames = [[1, 2], [3, 4]] ∧ Isolated rtcmOptions 0 steps := by
  have glances : ((playAll rtcmOptions (System.initial pairingCore 0)
      [.start, .arrive (.data .genTcp ⟨0⟩ [1, 2]), .handle (.data .genTcp ⟨0⟩ [1, 2]),
        .arrive (.closed .genTcp ⟨0⟩), .handle (.closed .genTcp ⟨0⟩), .tick 1000,
        .fire ⟨.connectAfterBackoff, 1000⟩, .handle (.timer .connectAfterBackoff),
        .arrive (.data .genTcp ⟨1⟩ [3, 4]), .handle (.data .genTcp ⟨1⟩ [3, 4])]).map
        fun run => (run.1.map frameGlance, run.2.world.frames)) = some
        ([⟨.start, none, []⟩, ⟨.arrive (.data .genTcp ⟨0⟩ [1, 2]), some [], []⟩,
          ⟨.handle (.data .genTcp ⟨0⟩ [1, 2]), some [], [[1, 2]]⟩,
          ⟨.arrive (.closed .genTcp ⟨0⟩), some [], [[1, 2]]⟩,
          ⟨.handle (.closed .genTcp ⟨0⟩), some [], [[1, 2]]⟩, ⟨.tick 1000, some [], [[1, 2]]⟩,
          ⟨.fire ⟨.connectAfterBackoff, 1000⟩, some [], [[1, 2]]⟩,
          ⟨.handle (.timer .connectAfterBackoff), some [], [[1, 2]]⟩,
          ⟨.arrive (.data .genTcp ⟨1⟩ [3, 4]), some [], [[1, 2]]⟩,
          ⟨.handle (.data .genTcp ⟨1⟩ [3, 4]), some [], [[1, 2], [3, 4]]⟩],
          [[1, 2], [3, 4]]) := by
    decide +kernel
  obtain ⟨⟨steps, last⟩, played, seen⟩ := Option.map_eq_some_iff.mp glances
  obtain ⟨seen, frames⟩ := Prod.mk.inj seen
  have run := run_playAll _ .nil played
  rw [List.nil_append] at run
  refine ⟨steps, last, run, frames, framing_isolated run fun step member _ st running => ?_⟩
  have held : (frameGlance step).held = some st.assembler := by
    simp only [frameGlance, running]
    rfl
  have shown := List.mem_map_of_mem (f := frameGlance) member
  have none : ∀ bytes ∈ (frameGlance step).held, bytes = [] := by
    rw [seen] at shown
    generalize frameGlance step = glanced at shown
    revert glanced
    decide
  have empty : st.assembler = [] := none st.assembler held
  rw [ActsNew, empty]
  exact fun _ => rfl

/-- What a callback leaves that goes on: the assembler as it was. -/
def KeepsAssembler (st : State core) (outcome : Except Crash (Reply core)) : Prop :=
  ∀ st', outcome = .ok (.noreply st') → st'.assembler = st.assembler

/-- Going down leaves no assembler. -/
theorem down_assembler (world : World core) (st : State core) (reason : Reason core.Table) :
    (down st reason).Ensures respond world fun outcome _ => KeepsAssembler st outcome := by
  refine ensures_bind.mpr (ensures_deliver.mpr ?_)
  refine (closeStateSocket_spec st).bind ?_ (fun _ _ _ => by rintro _ ⟨⟩)
  exact fun _ _ _ => ensures_pure.mpr (by rintro _ ⟨⟩)

/-- A reconnect keeps the assembler. -/
theorem reconnect_assembler (world : World core) (st : State core) (reason : Reason core.Table) :
    (reconnect st reason).Ensures respond world fun outcome _ => KeepsAssembler st outcome := by
  have schedules : (scheduleReconnect st reason).Ensures respond world
      fun outcome _ => KeepsAssembler st outcome := by
    refine ensures_bind.mpr (ensures_deliver.mpr (ensures_bind.mpr
      (ensures_arithmetic.mpr ⟨fun backoff _ => ?_, fun _ => by rintro _ ⟨⟩⟩)))
    refine (closeStateSocket_spec st).bind ?_ (fun _ _ _ => by rintro _ ⟨⟩)
    exact fun _ _ _ => ensures_bind.mpr (ensures_sendAfter.mpr
      (ensures_pure.mpr (by rintro _ ⟨⟩; rfl)))
  unfold reconnect
  split
  · split
    · exact down_assembler world st reason
    · exact schedules
  · exact schedules

/-- Connecting a socket keeps the assembler. -/
theorem connectStream_assembler {world : World core} (st : State core)
    (socketTransport : st.opts.transportFun = false) :
    (connectStream st).Ensures respond world fun outcome _ => KeepsAssembler st outcome := by
  refine (config_spec _ _ _).bind ?_ (fun _ _ _ => by rintro _ ⟨⟩)
  intro result between _
  cases result with
  | error reason => exact down_assembler between st reason
  | ok handle =>
    simp only [connectConfigured, socketTransport, Bool.false_eq_true, ↓reduceIte]
    split
    · exact down_assembler between st _
    · refine ensures_bind.mpr (ensures_arithmetic.mpr ⟨fun _ _ => ?_, fun _ => by rintro _ ⟨⟩⟩)
      refine ensures_bind.mpr (ensures_connect.mpr fun clock _ =>
        ⟨fun _ => reconnect_assembler _ _ _, fun socket _ => ?_⟩)
      refine ensures_bind.mpr (ensures_sendBytes.mpr fun result clock' _ => ?_)
      cases result with
      | error reason => exact reconnect_assembler _ _ _
      | ok _ =>
        refine ensures_bind.mpr (ensures_setActiveOnce.mpr
          ⟨fun _ => reconnect_assembler _ _ _, ?_⟩)
        refine (scheduleStall_spec st.opts).bind ?_ (fun _ _ _ => by rintro _ ⟨⟩)
        exact fun _ _ _ => ensures_pure.mpr (by rintro _ ⟨⟩; rfl)

/-- One byte is no pair: nothing is delivered or ingested. -/
theorem assemblePayload_one {world : World pairingCore} (st : State pairingCore)
    (empty : st.assembler = []) (byte : UInt8) :
    (assemblePayload st [byte]).Ensures respond world fun outcome world' =>
      world' = world ∧ ∃ st', outcome = .ok (.ok st') := by
  have none : (pairingCore.assemblerPush st.assembler [byte]).2 = [] := by
    rw [empty]
    rfl
  simp only [assemblePayload, none]
  cases payloadSinkMode st with
  | rtcm | store | payload => exact ensures_pure.mpr ⟨rfl, _, rfl⟩

/-- One byte of payload is no frame, and the connection goes on. -/
theorem processBytes_one {world : World pairingCore} (st : State pairingCore)
    (empty : st.assembler = []) (byte : UInt8) :
    (processBytes [byte] st).Ensures respond world fun outcome world' =>
      world'.frames = world.frames ∧ ∀ flow, outcome = .ok flow → ∃ st', flow = .ok st' := by
  have payload : ∀ st : State pairingCore, st.assembler = [] →
      (handlePayload st [byte]).Ensures respond world fun outcome world' =>
        world'.frames = world.frames ∧ ∃ st', outcome = .ok (.ok st') := by
    intro st empty
    unfold handlePayload
    split
    · refine ensures_bind.mpr (ensures_deliver.mpr ?_)
      refine (assemblePayload_one st empty byte).mono fun outcome world' one => ?_
      obtain ⟨rfl, goesOn⟩ := one
      exact ⟨by simp [World.frames], goesOn⟩
    · exact (assemblePayload_one st empty byte).mono fun _ _ one => ⟨by rw [one.1], one.2⟩
  unfold processBytes
  split
  · exact ensures_crash.mpr ⟨rfl, by rintro _ ⟨⟩⟩
  · rename_i machine owned
    change (processEvents [.payload [byte]] { st with machine := some () }).Ensures _ _ _
    refine (payload { st with machine := some () } empty).bind ?_ ?_
    · intro flow between one
      obtain ⟨same, st', goesOn⟩ := one
      obtain rfl := Except.ok.inj goesOn
      exact ensures_pure.mpr ⟨same, by rintro _ ⟨⟩; exact ⟨st', rfl⟩⟩
    · intro fault between one
      obtain ⟨_, _, impossible⟩ := one
      cases impossible

/-- One byte for a process whose assembler is new delivers no frame. -/
theorem handleInfo_one {world : World pairingCore} (st : State pairingCore)
    (empty : st.assembler = []) (transport : Transport) (socket : Socket) (byte : UInt8) :
    (handleInfo st (.data transport socket [byte])).Ensures respond world fun _ world' =>
      world'.frames = world.frames := by
  have received : ∀ (active : List Socket) (lastRx : Int),
      (do streamReply (← processBytes [byte] { st with lastRx }) : Action pairingCore _).Ensures
        respond { world with active } fun _ world' => world'.frames = world.frames := by
    intro active lastRx
    refine (processBytes_one { st with lastRx } empty byte).bind ?_ ?_
    · intro flow between one
      obtain ⟨same, goesOn⟩ := one
      obtain ⟨st', rfl⟩ := goesOn flow rfl
      exact ensures_pure.mpr same
    · exact fun fault between one => one.1
  simp only [handleInfo]
  split
  · refine ensures_bind.mpr (ensures_setActiveOnce.mpr ⟨fun _ => ?_, ?_⟩)
    · exact ensures_bind.mpr (ensures_monotonicTime.mpr (received world.active _))
    · exact ensures_bind.mpr (ensures_monotonicTime.mpr (received _ _))
  · exact ensures_crash.mpr rfl

/-- Steps followed one by one end with a step followed. -/
theorem forall₂_snoc {α β : Type} {related : α → β → Prop} {steps : List α} {step : α}
    {steps' : List β} (followed : List.Forall₂ related (steps ++ [step]) steps') :
    ∃ earlier step', steps' = earlier ++ [step'] ∧ List.Forall₂ related steps earlier ∧
      related step step' := by
  induction steps generalizing steps' with
  | nil =>
    obtain _ | ⟨last, none⟩ := followed
    cases none
    exact ⟨[], _, rfl, .nil, last⟩
  | cons first steps ih =>
    obtain _ | ⟨here, later⟩ := followed
    obtain ⟨earlier, step', rfl, rest, last⟩ := ih later
    exact ⟨_ :: earlier, step', rfl, .cons here rest, last⟩

/-- A byte on one connection and a byte on the next: the process delivers the pair they make, which
no process delivers that renews its assembler. -/
theorem framing_isolated_fails :
    ¬ ∀ (core : Core) (opts : Options) (clock : Int) (steps : List (Taken (System core) Label))
      (last : System core), Concatenates core →
        (opts.sinkMode = some .rtcm ∨ opts.sinkMode = some .store) →
          Run (Step opts) (System.initial core clock) steps last → Isolated opts clock steps := by
  intro isolates
  have seen : ((playAll rtcmOptions (System.initial pairingCore 0)
      [.start, .arrive (.data .genTcp ⟨0⟩ [1]), .handle (.data .genTcp ⟨0⟩ [1]),
        .arrive (.closed .genTcp ⟨0⟩), .handle (.closed .genTcp ⟨0⟩), .tick 1000,
        .fire ⟨.connectAfterBackoff, 1000⟩]).bind fun run =>
        (play rtcmOptions run.2 (.handle (.timer .connectAfterBackoff))).bind fun connected =>
          (play rtcmOptions connected (.arrive (.data .genTcp ⟨1⟩ [2]))).bind fun arrived =>
            (play rtcmOptions arrived (.handle (.data .genTcp ⟨1⟩ [2]))).map fun handled =>
              (arrived.world.frames, handled.world.frames)) = some ([], [[1, 2]]) := by
    decide +kernel
  obtain ⟨⟨steps, waiting⟩, played, seen⟩ := Option.bind_eq_some_iff.mp seen
  obtain ⟨connected, connects, seen⟩ := Option.bind_eq_some_iff.mp seen
  obtain ⟨arrived, arrives, seen⟩ := Option.bind_eq_some_iff.mp seen
  obtain ⟨handled, handles, seen⟩ := Option.map_eq_some_iff.mp seen
  obtain ⟨before, after⟩ := Prod.mk.inj seen
  have run := run_playAll _ .nil played
  rw [List.nil_append] at run
  have linked : Linked rtcmOptions waiting :=
    run.invariant (Linked rtcmOptions) (.initial _ 0) fun _ _ _ linked step => linked.step step
  have run := ((run.snoc (step_play connects)).snoc (step_play arrives)).snoc (step_play handles)
  obtain ⟨steps', last', run', same⟩ :=
    isolates pairingCore rtcmOptions 0 _ _ pairingCore_concatenates (Or.inl rfl) run
  obtain ⟨steps', handle', rfl, same, sameHandle⟩ := forall₂_snoc same
  obtain ⟨steps', arrive', rfl, same, sameArrive⟩ := forall₂_snoc same
  obtain ⟨steps', connect', rfl, same, sameConnect⟩ := forall₂_snoc same
  obtain ⟨run', handle, _⟩ := run'.of_snoc
  obtain ⟨run', arrive, follows⟩ := run'.of_snoc
  obtain ⟨run', connect, follows'⟩ := run'.of_snoc
  rw [sameHandle.1] at handle
  rw [sameArrive.1] at arrive
  rw [sameConnect.1] at connect
  obtain ⟨st, rest, outcome, world, running, _, connecting, connected'⟩ := connect
  have socketTransport : st.opts.transportFun = false := by
    have status := sameConnect.2.1.status
    rw [running] at status
    cases waitingStatus : waiting.status with
    | running st₀ =>
      rw [waitingStatus] at status
      obtain ⟨assembler, same⟩ := status
      rw [same, (linked.connection st₀ waitingStatus).1]
      rfl
    | starting | stopped | crashed =>
      rw [waitingStatus] at status
      cases status
  have kept := connectStream_assembler { st with assembler := pairingCore.assemblerNew }
    socketTransport outcome world connecting
  obtain ⟨_, arrived'⟩ := arrive
  obtain ⟨st', _, outcome', world', running', _, handling, handled'⟩ := handle
  have empty : st'.assembler = [] := by
    have status : connect'.after.status = .running st' := by
      rw [follows', ← running', ← follows, arrived']
    rw [connected'] at status
    exact kept st' (by rcases outcome with _ | _ | _ <;> cases status; rfl)
  have none := handleInfo_one st' empty .genTcp ⟨1⟩ 2 outcome' world' handling
  have worlds : handled.world.frames = arrived.world.frames := by
    rw [← sameHandle.2.2.world, handled', ← sameHandle.2.1.world]
    exact none
  rw [before, after] at worlds
  exact absurd worlds (by decide)

end Pairs

end Sidereon.Ntrip
