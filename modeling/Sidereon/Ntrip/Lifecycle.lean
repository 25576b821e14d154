import Sidereon.Ntrip.Pending

/-!
# The life of a stream

While the process runs, it holds a live socket or waits for exactly one backoff timer. The attempts
it announces are numbered without a gap and end at the bound of the options. Its last message says
that it is down, and that message comes when it stops.
-/

namespace Sidereon.Ntrip

open Foundation Foundation.Program
open Foundation.Beam (double floatValue)

variable {core : Core}

/-- What a process as the sink is told by a report. -/
def Report.told? : Report core → Option (SinkMessage core)
  | .delivered (some (.process _)) _ message => some message
  | _ => none

/-- The messages that have reached a process as the sink, in order. -/
def World.told (world : World core) : List (SinkMessage core) :=
  world.reports.filterMap Report.told?

/-- The number of an announced attempt. -/
def SinkMessage.attempt? : SinkMessage core → Option Nat
  | .reconnecting _ attempt => some attempt
  | _ => none

/-- The last message of a stream. -/
def SinkMessage.isDown : SinkMessage core → Bool
  | .down _ => true
  | _ => false

/-- Whether a sink is a process. -/
def Sink.isProcess : Sink → Bool
  | .process _ => true
  | _ => false

/-- The life of a stream at any moment. -/
structure Lifecycle (opts : Options) (system : System core) : Prop where
  connection : match system.status with
    | .starting => system.pending .connectAfterBackoff = 0
    | .running st =>
      (∃ socket, st.socket = some socket ∧ socket ∈ system.world.sockets ∧
        socket ∉ system.world.closed ∧ system.pending .connectAfterBackoff = 0) ∨
      (st.socket = none ∧ system.pending .connectAfterBackoff = 1)
    | .stopped => system.pending .connectAfterBackoff = 0
    | .crashed _ => False
  numbered : ∃ count, system.world.told.filterMap SinkMessage.attempt? = List.range' 1 count ∧
    ∀ bound, maxReconnects opts = some bound → (count : Int) ≤ max bound 0
  alive : system.status ≠ .stopped → ∀ message ∈ system.world.told, message.isDown = false
  ended : system.status = .stopped → opts.sink.any Sink.isProcess = true →
    ∃ earlier reason, system.world.told = earlier ++ [.down reason] ∧
      ∀ message ∈ earlier, message.isDown = false

/-- A handled message has a clause. -/
def HandlesAccepted (step : Taken (System core) Label) : Prop :=
  ∀ message st, step.label = .handle message → step.before.status = .running st →
    Accepts st message

/-- The times a step may compute are in range. -/
def ComputesInRange (opts : Options) (step : Taken (System core) Label) : Prop :=
  match step.before.status with
  | .starting => TimesFit core opts 0
  | .running st => TimesFit core opts st.attempt
  | _ => True

/-- The numbers a sink is told after a number of attempts. -/
def attemptsTold (opts : Options) (attempt : Nat) : List Nat :=
  if opts.sink.any Sink.isProcess then List.range' 1 attempt else []

/-- What every reached state keeps, beside its life: the sink of the options, the attempts it has
announced, a machine with every socket, and closed sockets that were opened. -/
structure Lives (opts : Options) (system : System core) : Prop extends
    Lifecycle opts system where
  started : system.status = .starting → system.world.told = []
  sink : ∀ st, system.status = .running st → st.sink = opts.sink
  attempts : ∀ st, system.status = .running st →
    system.world.told.filterMap SinkMessage.attempt? = attemptsTold opts st.attempt ∧
      ∀ bound, maxReconnects opts = some bound → (st.attempt : Int) ≤ max bound 0
  machine : ∀ st, system.status = .running st → st.socket ≠ none → st.machine ≠ none
  closed : ∀ socket ∈ system.world.closed, socket ∈ system.world.sockets

/-- What a callback may rely on: what was told so far belongs to its state. -/
structure Ready (opts : Options) (st : State core) (world : World core) : Prop where
  sameOpts : st.opts = opts
  sameSink : st.sink = opts.sink
  told : ∀ message ∈ world.told, message.isDown = false
  numbers : world.told.filterMap SinkMessage.attempt? = attemptsTold opts st.attempt
  bound : ∀ bound, maxReconnects opts = some bound → (st.attempt : Int) ≤ max bound 0
  closed : ∀ socket ∈ world.closed, socket ∈ world.sockets
  socket : ∀ socket, st.socket = some socket → socket ∈ world.sockets

/-- A report that is no verdict tells no attempt and no end. -/
theorem told_plain {report : Report core} (plain : report.verdict? = none)
    {message : SinkMessage core} (told : report.told? = some message) :
    message.attempt? = none ∧ message.isDown = false := by
  cases report with
  | ingested => cases told
  | delivered sink ref sent =>
    have same : sent = message := by
      rcases sink with _ | (_ | _) <;> cases told
      rfl
    subst same
    cases sent with
    | payload | rtcm | sourcetable => exact ⟨rfl, rfl⟩
    | reconnecting | down => cases plain

/-- A verdict is told to a sink that is a process. -/
theorem told_verdict (sink : Option Sink) (ref : Ref) (verdict : Option (SinkMessage core)) :
    (verdict.toList.map (Report.delivered sink ref)).filterMap Report.told? =
      if sink.any Sink.isProcess then verdict.toList else [] := by
  cases verdict with
  | none => simp
  | some message => rcases sink with _ | (_ | _) <;> rfl

/-- What a course tells: nothing that matters, and then its verdict. -/
theorem Course.told {opts : Options} {st : State core} {armed : List TimerMessage}
    {verdict : Option (SinkMessage core)} {world world' : World core}
    (course : Course st armed verdict world world') (sink : st.sink = opts.sink) :
    ∃ plain, world'.told = world.told ++ plain ++
        (if opts.sink.any Sink.isProcess then verdict.toList else []) ∧
      ∀ message ∈ plain, message.attempt? = none ∧ message.isDown = false := by
  obtain ⟨plain, reports, silent⟩ := course.reports
  refine ⟨plain.filterMap Report.told?, ?_, ?_⟩
  · rw [World.told, reports, List.filterMap_append, List.filterMap_append, told_verdict, sink,
      World.told]
  · intro message member
    obtain ⟨report, ofReport, told⟩ := List.mem_filterMap.mp member
    exact told_plain (silent report ofReport) told

/-- The attempts a course tells. -/
theorem Course.attempts {opts : Options} {st : State core} {armed : List TimerMessage}
    {verdict : Option (SinkMessage core)} {world world' : World core}
    (course : Course st armed verdict world world') (sink : st.sink = opts.sink) :
    world'.told.filterMap SinkMessage.attempt? = world.told.filterMap SinkMessage.attempt? ++
      if opts.sink.any Sink.isProcess then
        verdict.toList.filterMap SinkMessage.attempt? else [] := by
  obtain ⟨plain, told, silent⟩ := course.told sink
  have none : plain.filterMap SinkMessage.attempt? = [] :=
    List.filterMap_eq_nil_iff.mpr fun message member => (silent message member).1
  rw [told, List.filterMap_append, List.filterMap_append, none, List.append_nil]
  split
  · rfl
  · rfl

/-- A course without an end tells no end. -/
theorem Course.alive {opts : Options} {st : State core} {armed : List TimerMessage}
    {verdict : Option (SinkMessage core)} {world world' : World core}
    (course : Course st armed verdict world world') (sink : st.sink = opts.sink)
    (before : ∀ message ∈ world.told, message.isDown = false)
    (goesOn : ∀ message ∈ verdict, message.isDown = false) :
    ∀ message ∈ world'.told, message.isDown = false := by
  obtain ⟨plain, told, silent⟩ := course.told sink
  rw [told]
  refine List.forall_mem_append.mpr ⟨List.forall_mem_append.mpr ⟨before, ?_⟩, ?_⟩
  · exact fun message member => (silent message member).2
  · intro message member
    split at member
    · exact goesOn message (by simpa using member)
    · cases member

/-- One more attempt, told or not. -/
theorem attemptsTold_succ (opts : Options) (attempt : Nat) (reason : Reason core.Table) :
    attemptsTold opts (attempt + 1) = attemptsTold opts attempt ++
      if opts.sink.any Sink.isProcess then (some (SinkMessage.reconnecting reason (attempt + 1) :
        SinkMessage core)).toList.filterMap SinkMessage.attempt? else [] := by
  unfold attemptsTold
  split
  · rw [List.range'_1_concat, Nat.add_comm 1]
    rfl
  · rfl

/-- The attempts told are numbered from one. -/
theorem attemptsTold_numbered {opts : Options} {attempt : Nat}
    (bound : ∀ bound, maxReconnects opts = some bound → (attempt : Int) ≤ max bound 0) :
    ∃ count, attemptsTold opts attempt = List.range' 1 count ∧
      ∀ bound, maxReconnects opts = some bound → (count : Int) ≤ max bound 0 := by
  unfold attemptsTold
  split
  · exact ⟨attempt, rfl, bound⟩
  · exact ⟨0, rfl, fun bound _ => by omega⟩

/-- A process that goes on lives when its state is ready and holds a socket or waits. -/
theorem Ready.lives {opts : Options} {st : State core} {system : System core}
    (ready : Ready opts st system.world) (status : system.status = .running st)
    (machine : st.socket ≠ none → st.machine ≠ none)
    (connection : (∃ socket, st.socket = some socket ∧ socket ∉ system.world.closed ∧
        system.pending .connectAfterBackoff = 0) ∨
      (st.socket = none ∧ system.pending .connectAfterBackoff = 1)) : Lives opts system := by
  have same : ∀ {st'}, system.status = .running st' → st' = st := by
    intro st' running
    rw [status] at running
    exact (Status.running.inj running).symm
  refine ⟨⟨?_, ?_, fun _ => ready.told, ?_⟩, ?_, ?_, ?_, ?_, ready.closed⟩
  · rw [status]
    refine connection.imp ?_ id
    rintro ⟨socket, live, opened, none⟩
    exact ⟨socket, live, ready.socket socket live, opened, none⟩
  · rw [ready.numbers]
    exact attemptsTold_numbered ready.bound
  · intro stopped
    rw [status] at stopped
    cases stopped
  · intro starting
    rw [status] at starting
    cases starting
  · intro st' running
    rw [same running, ready.sameSink]
  · intro st' running
    rw [same running]
    exact ⟨ready.numbers, ready.bound⟩
  · intro st' running
    rw [same running]
    exact machine

/-- A process that lives and goes on has a ready state. -/
theorem Lives.ready {opts : Options} {st : State core} {system : System core}
    (lives : Lives opts system) (linked : Linked opts system)
    (status : system.status = .running st) : Ready opts st system.world where
  sameOpts := (linked.connection st status).1
  sameSink := lives.sink st status
  told := lives.alive (by rw [status]; rintro ⟨⟩)
  numbers := (lives.attempts st status).1
  bound := (lives.attempts st status).2
  closed := lives.closed
  socket := by
    intro socket live
    obtain ⟨_, gone | ⟨o, member, own, _⟩⟩ := linked.connection st status
    · rw [gone.1] at live
      cases live
    · rw [own, Option.some.injEq] at live
      exact List.mem_map.mpr ⟨o, member, live⟩

section Callbacks

variable {opts : Options} {st : State core} {system' : System core} {world : World core}
  {outcome : Except Crash (Reply core)}

/-- A course closes opened sockets only. -/
theorem Ready.closes {armed : List TimerMessage} {verdict : Option (SinkMessage core)}
    {world' : World core} (ready : Ready opts st world)
    (course : Course st armed verdict world world')
    (grows : ∀ socket ∈ world.sockets, socket ∈ world'.sockets) :
    ∀ socket ∈ world'.closed, socket ∈ world'.sockets := by
  intro socket member
  rcases course.closed socket member with before | own
  · exact grows socket (ready.closed socket before)
  · exact grows socket (ready.socket socket own)

/-- A course without a verdict leaves a ready state ready, with another socket or not. -/
theorem Ready.quiet {armed : List TimerMessage} {st' : State core} {world' : World core}
    (ready : Ready opts st world) (course : Course st armed none world world')
    (grows : ∀ socket ∈ world.sockets, socket ∈ world'.sockets) (sameOpts : st'.opts = st.opts)
    (sameSink : st'.sink = st.sink) (attempt : st'.attempt = st.attempt)
    (socket : ∀ socket, st'.socket = some socket → socket ∈ world'.sockets) :
    Ready opts st' world' where
  sameOpts := sameOpts.trans ready.sameOpts
  sameSink := sameSink.trans ready.sameSink
  told := course.alive ready.sameSink ready.told (by rintro _ ⟨⟩)
  numbers := by
    rw [course.attempts ready.sameSink, ready.numbers, attempt]
    simp
  bound := attempt ▸ ready.bound
  closed := ready.closes course grows
  socket := socket

/-- Giving the connection up leaves one backoff timer, or the end. -/
theorem Ready.parts (ready : Ready opts st world)
    (parts : Parts st world outcome system'.world) (status : system'.status = .after outcome)
    (fits : ∀ fault, ¬ Unfit st fault)
    (grows : ∀ socket ∈ world.sockets, socket ∈ system'.world.sockets)
    (pending : ∀ armed verdict, Course st armed verdict world system'.world →
      system'.pending .connectAfterBackoff = armed.count .connectAfterBackoff) :
    Lives opts system' := by
  cases parts with
  | @retries st' reason _ left sameOpts sameSink gone attempt course =>
    have numbers : system'.world.told.filterMap SinkMessage.attempt? =
        attemptsTold opts st'.attempt := by
      rw [course.attempts ready.sameSink, ready.numbers, attempt,
        attemptsTold_succ opts st.attempt reason]
    have bound : ∀ bound, maxReconnects opts = some bound → (st'.attempt : Int) ≤ max bound 0 := by
      intro bound found
      have below := left bound (ready.sameOpts ▸ found)
      omega
    have alive := course.alive ready.sameSink ready.told (by rintro _ ⟨⟩; rfl)
    have ready' : Ready opts st' system'.world :=
      ⟨sameOpts.trans ready.sameOpts, sameSink.trans ready.sameSink, alive, numbers, bound,
        ready.closes course grows, by rw [gone]; rintro _ ⟨⟩⟩
    exact ready'.lives status (fun live => absurd gone live) (Or.inr ⟨gone, pending _ _ course⟩)
  | @stops st' reason _ course =>
    obtain ⟨plain, told, silent⟩ := course.told ready.sameSink
    have notRunning : ∀ st', system'.status ≠ .running st' := by
      rw [status]
      rintro st' ⟨⟩
    refine ⟨⟨?_, ?_, ?_, ?_⟩, ?_, ?_, ?_, ?_, ready.closes course grows⟩
    · rw [status]
      exact pending _ _ course
    · obtain ⟨count, numbers, bound⟩ := attemptsTold_numbered ready.bound
      refine ⟨count, ?_, bound⟩
      rw [course.attempts ready.sameSink, ready.numbers, numbers]
      simp [SinkMessage.attempt?]
    · intro alive
      exact absurd status alive
    · intro _ isProcess
      refine ⟨world.told ++ plain, reason, by rw [told, if_pos isProcess]; rfl, ?_⟩
      exact List.forall_mem_append.mpr ⟨ready.told, fun message member => (silent message member).2⟩
    · intro starting
      rw [status] at starting
      cases starting
    · exact fun st' running => absurd running (notRunning st')
    · exact fun st' running => absurd running (notRunning st')
    · exact fun st' running => absurd running (notRunning st')
  | fails because course => exact absurd because (fits _)

/-- An attempt to connect. -/
theorem Ready.attempts (ready : Ready opts st world)
    (attempts : Attempts st world outcome system'.world) (status : system'.status = .after outcome)
    (fits : ∀ fault, ¬ Unfit st fault)
    (grows : ∀ socket ∈ world.sockets, socket ∈ system'.world.sockets)
    (opened : ∀ st' socket, outcome = .ok (.noreply st') → st'.socket = some socket →
      socket ∈ system'.world.sockets)
    (pending : ∀ armed verdict, Course st armed verdict world system'.world →
      system'.pending .connectAfterBackoff = armed.count .connectAfterBackoff) :
    Lives opts system' := by
  cases attempts with
  | @connects st' _ socket sameOpts sameSink attempt machine live fresh closed course =>
    have ready' : Ready opts st' system'.world :=
      ready.quiet course grows sameOpts sameSink attempt fun socket => opened st' socket rfl
    refine ready'.lives status (fun _ => machine) (Or.inl ⟨socket, live, ?_, pending _ _ course⟩)
    rw [closed]
    exact fun member => fresh (ready.closed socket member)
  | parts parts => exact ready.parts parts status fits grows pending

/-- A message that does not connect, handled by a process that lives. -/
theorem Ready.handles {message : Message} (ready : Ready opts st world)
    (handles : Handles st message world outcome system'.world)
    (status : system'.status = .after outcome) (fits : ∀ fault, ¬ Unfit st fault)
    (grows : ∀ socket ∈ world.sockets, socket ∈ system'.world.sockets)
    (machine : st.socket ≠ none → st.machine ≠ none)
    (connection : (∃ socket, st.socket = some socket ∧ socket ∉ world.closed ∧
        ∀ armed verdict, Course st armed verdict world system'.world →
          system'.pending .connectAfterBackoff = armed.count .connectAfterBackoff) ∨
      (st.socket = none ∧ ∀ armed verdict, Course st armed verdict world system'.world →
          system'.pending .connectAfterBackoff = 1 + armed.count .connectAfterBackoff)) :
    Lives opts system' := by
  cases handles with
  | @stays st' _ carries closed course =>
    have socket : ∀ socket, st'.socket = some socket → socket ∈ system'.world.sockets := by
      intro socket live
      exact grows socket (ready.socket socket (carries.socket ▸ live))
    have ready' : Ready opts st' system'.world :=
      ready.quiet course grows carries.opts carries.sink carries.attempt socket
    refine ready'.lives status ?_ ?_
    · rw [carries.socket]
      exact fun live => carries.machine (machine live)
    · rw [carries.socket, closed]
      refine connection.imp ?_ (And.imp id fun pending => pending _ _ course)
      exact fun ⟨socket, live, opened, pending⟩ => ⟨socket, live, opened, pending _ _ course⟩
  | checks _ live closed course =>
    have ready' : Ready opts st system'.world :=
      ready.quiet course grows rfl rfl rfl fun socket live => grows socket (ready.socket socket live)
    refine ready'.lives status machine ?_
    rw [closed]
    refine connection.imp ?_ (And.imp id fun pending => pending _ _ course)
    exact fun ⟨socket, live, opened, pending⟩ => ⟨socket, live, opened, pending _ _ course⟩
  | parts live parts =>
    rcases connection with ⟨socket, _, _, pending⟩ | ⟨gone, _⟩
    · exact ready.parts parts status fits grows pending
    · exact absurd gone live
  | fails because course => exact absurd because (fits _)
  | lost live lost course => exact absurd lost (machine live)

end Callbacks

/-- Times in range and the socket transport leave no reason to crash. -/
theorem TimesFit.not_unfit {opts : Options} {st : State core} (sameOpts : st.opts = opts)
    (socketTransport : opts.transportFun = false) (fits : TimesFit core opts st.attempt)
    (fault : Crash) : ¬ Unfit st fault := by
  rintro (⟨_, unfit⟩ | injected)
  · exact unfit (sameOpts ▸ fits)
  · rw [sameOpts, socketTransport] at injected
    cases injected

/-- A step that runs no callback keeps the life of the stream. -/
theorem Lives.idle {opts : Options} {system system' : System core} (lives : Lives opts system)
    (idle : Idle system system') : Lives opts system' := by
  obtain ⟨status, opened, closed, reports, pending⟩ := idle
  have told : system'.world.told = system.world.told := congrArg (List.filterMap _) reports
  have sockets : system'.world.sockets = system.world.sockets := congrArg (List.map _) opened
  refine ⟨⟨?_, ?_, ?_, ?_⟩, ?_, ?_, ?_, ?_, ?_⟩
  · rw [status, pending, closed, sockets]
    exact lives.connection
  · rw [told]
    exact lives.numbered
  · rw [status, told]
    exact lives.alive
  · rw [status, told]
    exact lives.ended
  · rw [status, told]
    exact lives.started
  · rw [status]
    exact lives.sink
  · rw [status, told]
    exact lives.attempts
  · rw [status]
    exact lives.machine
  · rw [closed, sockets]
    exact lives.closed

/-- Before the start a stream has no life to keep. -/
theorem Lives.initial (opts : Options) (clock : Int) : Lives opts (System.initial core clock) where
  connection := rfl
  numbered := ⟨0, rfl, fun bound _ => by omega⟩
  alive _ := by simp [System.initial, World.initial, World.told]
  ended := by rintro ⟨⟩
  started _ := rfl
  sink := by rintro st ⟨⟩
  attempts := by rintro st ⟨⟩
  machine := by rintro st ⟨⟩
  closed := by simp [System.initial, World.initial]

/-- A growth of the connections keeps the opened sockets. -/
theorem sockets_grow {world world' : World core}
    (opened : world'.opened = world.opened ∨ ∃ o : Opened, o.socket ∉ world.sockets ∧
      world.clock ≤ o.openedAt ∧ o.openedAt ≤ world'.clock ∧ world'.opened = o :: world.opened) :
    ∀ socket ∈ world.sockets, socket ∈ world'.sockets := by
  intro socket member
  rcases opened with same | ⟨o, _, _, _, more⟩
  · rwa [World.sockets, same]
  · rw [World.sockets, more]
    exact List.mem_cons_of_mem _ member

/-- The start of the process begins its life. -/
theorem Lives.start {opts : Options} {system : System core} {outcome : Except Crash (Reply core)}
    {world' : World core} (lives : Lives opts system)
    (socketTransport : opts.transportFun = false) (fits : TimesFit core opts 0)
    (starting : system.status = .starting)
    (started : (Ntrip.start opts).Exec respond system.world outcome world') :
    Lives opts { system with status := .after outcome, world := world' } := by
  obtain ⟨refs, st, sameOpts, sameSink, attempt, socket, attempts⟩ :=
    start_attempts opts outcome world' started
  obtain ⟨refs', _, _, connects⟩ := start_spec opts outcome world' started
  have told : system.world.told = [] := lives.started starting
  have ready : Ready opts st { system.world with refs } := by
    refine ⟨sameOpts, sameSink, ?_, ?_, ?_, lives.closed, by rw [socket]; rintro _ ⟨⟩⟩
    · change ∀ message ∈ system.world.told, message.isDown = false
      simp [told]
    · change system.world.told.filterMap SinkMessage.attempt? = attemptsTold opts st.attempt
      simp [told, attempt, attemptsTold]
    · intro bound _
      omega
  have fits := TimesFit.not_unfit sameOpts socketTransport (attempt ▸ fits)
  refine ready.attempts attempts rfl fits (sockets_grow connects.opened) ?_ ?_
  · intro st' socket replied live
    obtain ⟨_, gone | ⟨o, _, opened, own, _⟩⟩ := connects.state st' replied
    · rw [gone.1] at live
      cases live
    · rw [own, Option.some.injEq] at live
      rw [World.sockets, opened]
      exact List.mem_map.mpr ⟨o, List.mem_cons_self, live⟩
  · intro armed verdict course
    have none := lives.connection
    rw [starting] at none
    have none : system.pending .connectAfterBackoff = 0 := none
    have counts : world'.armed .connectAfterBackoff =
        system.world.armed .connectAfterBackoff + armed.count .connectAfterBackoff :=
      course.armed .connectAfterBackoff rfl
    simp only [System.pending] at none ⊢
    omega

/-- Handling a message the process has a clause for keeps its life. -/
theorem Lives.handle {opts : Options} {system : System core} {st : State core} {message : Message}
    {rest : List Message} {outcome : Except Crash (Reply core)} {world' : World core}
    (lives : Lives opts system) (linked : Linked opts system)
    (socketTransport : opts.transportFun = false) (running : system.status = .running st)
    (queued : system.mailbox = message :: rest) (accepts : Accepts st message)
    (fits : TimesFit core opts st.attempt)
    (handled : (handleInfo st message).Exec respond system.world outcome world') :
    Lives opts ⟨.after outcome, rest, world', system.handed message⟩ := by
  have ready := lives.ready linked running
  have fits := TimesFit.not_unfit ready.sameOpts socketTransport fits
  have moves := (handleInfo_spec st message outcome world' handled).1
  have grows := sockets_grow moves.opened
  have connection := lives.connection
  rw [running] at connection
  have pending := fun armed verdict (course : Course st armed verdict system.world world') =>
    course.pending queued (.after outcome) (system.handed message) .connectAfterBackoff rfl
  rcases handleInfo_course st message accepts outcome world' handled with
    ⟨isConnect, attempts⟩ | ⟨other, handles⟩
  · have used : [message].count (.timer .connectAfterBackoff) = 1 := by rw [isConnect]; rfl
    have waiting : st.socket = none ∧ system.pending .connectAfterBackoff = 1 := by
      rcases connection with ⟨_, _, _, _, none⟩ | waiting
      · -- The message that connects is itself queued.
        have queues : 0 < system.mailbox.count (.timer .connectAfterBackoff) := by
          rw [queued, isConnect]
          exact List.count_pos_iff.mpr List.mem_cons_self
        simp only [System.pending] at none
        omega
      · exact waiting
    refine ready.attempts attempts rfl fits grows ?_ ?_
    · intro st' socket replied live
      obtain ⟨_, gone | ⟨same, _, _⟩ | ⟨o, _, opened, own, _⟩⟩ := moves.state st' replied
      · rw [gone.1] at live
        cases live
      · rw [same, waiting.1] at live
        cases live
      · rw [own, Option.some.injEq] at live
        rw [World.sockets, opened]
        exact List.mem_map.mpr ⟨o, List.mem_cons_self, live⟩
    · intro armed verdict course
      have counts := pending armed verdict course
      omega
  · have unused : [message].count (.timer .connectAfterBackoff) = 0 := by
      rw [List.count_eq_zero, List.mem_singleton]
      exact fun same => other same.symm
    refine ready.handles handles rfl fits grows (lives.machine st running) ?_
    refine connection.imp ?_ ?_
    · rintro ⟨socket, live, _, opened, none⟩
      refine ⟨socket, live, opened, fun armed verdict course => ?_⟩
      have counts := pending armed verdict course
      omega
    · rintro ⟨gone, one⟩
      refine ⟨gone, fun armed verdict course => ?_⟩
      have counts := pending armed verdict course
      omega

/-- Every step that handles an accepted message, with its times in range, keeps the life of the
stream. -/
theorem Lives.step {opts : Options} (socketTransport : opts.transportFun = false)
    {system system' : System core} {label : Label} (lives : Lives opts system)
    (linked : Linked opts system) (step : Step opts system label system')
    (accepted : HandlesAccepted ⟨system, label, system'⟩)
    (fits : ComputesInRange opts ⟨system, label, system'⟩) : Lives opts system' := by
  by_cases start : label = .start
  · subst start
    obtain ⟨starting, outcome, world', started, rfl⟩ := step
    simp only [ComputesInRange, starting] at fits
    exact lives.start socketTransport fits starting started
  by_cases handle : ∃ message, label = .handle message
  · obtain ⟨message, rfl⟩ := handle
    obtain ⟨st, rest, outcome, world', running, queued, handled, rfl⟩ := step
    simp only [ComputesInRange, running] at fits
    exact lives.handle linked socketTransport running queued (accepted message st rfl running) fits
      handled
  · exact lives.idle (step.idle start fun message same => handle ⟨message, same⟩)

/-- What a step handles, and how the process goes on: with a number of attempts, or not at all. -/
def lifeGlance (step : Taken (System core) Label) : Label × Option Nat × Option Crash :=
  (step.label,
    match step.before.status with
      | .running st => some st.attempt
      | _ => none,
    match step.after.status with
      | .crashed fault => some fault
      | _ => none)

/-- The attempts seen at a glance. -/
theorem attempt_of_glance {step : Taken (System core) Label} {st : State core}
    (running : step.before.status = .running st) : (lifeGlance step).2.1 = some st.attempt := by
  simp only [lifeGlance, running]

/-- A step that handles neither data nor an error. -/
def Label.isQuiet : Label → Bool
  | .handle (.data ..) => false
  | .handle (.error ..) => false
  | _ => true

/-- Close messages and timer messages have a clause in every state. -/
theorem HandlesAccepted.of_quiet {step : Taken (System core) Label}
    (quiet : step.label.isQuiet = true) : HandlesAccepted step := by
  intro message st handles _
  rw [handles] at quiet
  cases message with
  | data | error => cases quiet
  | closed | timer => trivial

/-- A steep policy: each backoff is to be longer than the last by a factor of ten to the power of two
hundred, up to the default cap of a minute. -/
def steepOptions : Options :=
  { casterOptions none with reconnect := some ⟨none, some (double 1.0e200), none, none⟩ }

/-- The idle core with powers by repeated multiplication. -/
def poweringCore : Core :=
  { idleCore with pow := fun base exponent =>
      (List.replicate (floatValue exponent).floor.toNat base).foldl (· * ·) 1.0 }

end Sidereon.Ntrip
