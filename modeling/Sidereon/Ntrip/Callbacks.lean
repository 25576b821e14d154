import Sidereon.Ntrip.System

/-!
# What the callbacks do to a connection

One rule for every function of the process. The functions that work on received bytes keep the
connection of the state they are given. Only `reconnect` and `down` give it up, each with one
report of its reason, and only `open_socket` makes one.
-/

namespace Sidereon.Ntrip

open Foundation Foundation.Program
open Foundation.Beam (Number double)

variable {core : Core}

section Requests

variable {world : World core}

@[simp] theorem ensures_monotonicTime {post : Except Crash Int → World core → Prop} :
    (monotonicTime : Action core Int).Ensures respond world post ↔
      post (.ok world.clock) world := by
  refine ensures_perform.trans ?_
  exact ⟨fun ensures => ensures _ _ ⟨rfl, rfl⟩, by rintro holds _ _ ⟨rfl, rfl⟩; exact holds⟩

@[simp] theorem ensures_monotonicSeconds {post : Except Crash Float → World core → Prop} :
    (monotonicSeconds : Action core Float).Ensures respond world post ↔
      ∀ now, post (.ok now) world := by
  refine ensures_perform.trans ?_
  exact ⟨fun ensures now => ensures now _ rfl, by rintro holds now _ rfl; exact holds now⟩

@[simp] theorem ensures_utcSecondsOfDay {post : Except Crash Float → World core → Prop} :
    (utcSecondsOfDay : Action core Float).Ensures respond world post ↔
      ∀ day, post (.ok day) world := by
  refine ensures_perform.trans ?_
  exact ⟨fun ensures day => ensures day _ rfl, by rintro holds day _ rfl; exact holds day⟩

@[simp] theorem ensures_makeRef {post : Except Crash Ref → World core → Prop} :
    (makeRef : Action core Ref).Ensures respond world post ↔
      post (.ok ⟨world.refs⟩) { world with refs := world.refs + 1 } := by
  refine ensures_perform.trans ?_
  exact ⟨fun ensures => ensures _ _ ⟨rfl, rfl⟩, by rintro holds _ _ ⟨rfl, rfl⟩; exact holds⟩

@[simp] theorem ensures_connect {transport : Transport} {host : String} {port timeout : Int}
    {post : Except Crash (Except String Socket) → World core → Prop} :
    (connect transport host port timeout : Action core _).Ensures respond world post ↔
      ∀ clock, world.clock ≤ clock →
        (∀ reason, post (.ok (.error reason)) { world with clock }) ∧
        ∀ socket, socket ∉ world.sockets → post (.ok (.ok socket))
          { world with clock, opened := ⟨socket, transport, clock⟩ :: world.opened } := by
  refine ensures_perform.trans ?_
  constructor
  · intro ensures clock later
    exact ⟨fun reason => ensures (.error reason) _ ⟨clock, later, rfl⟩,
      fun socket fresh => ensures (.ok socket) _ ⟨clock, later, fresh, rfl⟩⟩
  · rintro holds (reason | socket) _ ⟨clock, later, answered⟩
    · subst answered
      exact (holds clock later).1 reason
    · obtain ⟨fresh, rfl⟩ := answered
      exact (holds clock later).2 socket fresh

@[simp] theorem ensures_sendBytes {transport : Transport} {socket : Socket} {bytes : Bytes}
    {post : Except Crash (Except String Unit) → World core → Prop} :
    (sendBytes transport socket bytes : Action core _).Ensures respond world post ↔
      ∀ result clock, world.clock ≤ clock → post (.ok result) { world with clock } := by
  refine ensures_perform.trans ?_
  exact ⟨fun ensures result clock later => ensures result _ ⟨clock, later, rfl⟩,
    by rintro holds result _ ⟨clock, later, rfl⟩; exact holds result clock later⟩

@[simp] theorem ensures_setActiveOnce {transport : Transport} {socket : Socket}
    {post : Except Crash (Except String Unit) → World core → Prop} :
    (setActiveOnce transport socket : Action core _).Ensures respond world post ↔
      (∀ reason, post (.ok (.error reason)) world) ∧
        post (.ok (.ok ())) { world with active := socket :: world.active } := by
  refine ensures_perform.trans ?_
  constructor
  · intro ensures
    exact ⟨fun reason => ensures (.error reason) _ rfl, ensures (.ok ()) _ rfl⟩
  · rintro ⟨failed, done⟩ (reason | ⟨⟩) _ answered
    · subst answered
      exact failed reason
    · subst answered
      exact done

@[simp] theorem ensures_closeSocket {transport : Transport} {socket : Socket}
    {post : Except Crash Unit → World core → Prop} :
    (closeSocket transport socket : Action core Unit).Ensures respond world post ↔
      post (.ok ()) { world with closed := socket :: world.closed } := by
  refine ensures_perform.trans ?_
  exact ⟨fun ensures => ensures _ _ rfl, by rintro holds _ _ rfl; exact holds⟩

@[simp] theorem ensures_sendAfter {message : TimerMessage} {delay : Int}
    {post : Except Crash Unit → World core → Prop} :
    (sendAfter message delay : Action core Unit).Ensures respond world post ↔
      post (.ok ()) { world with
        timers := ⟨message, world.clock + delay⟩ :: world.timers } := by
  refine ensures_perform.trans ?_
  exact ⟨fun ensures => ensures _ _ rfl, by rintro holds _ _ rfl; exact holds⟩

@[simp] theorem ensures_deliver {st : State core} {message : SinkMessage core}
    {post : Except Crash Unit → World core → Prop} :
    (deliver st message).Ensures respond world post ↔
      post (.ok ()) { world with
        reports := world.reports ++ [.delivered st.sink st.ref message] } := by
  refine ensures_perform.trans ?_
  exact ⟨fun ensures => ensures _ _ rfl, by rintro holds _ _ rfl; exact holds⟩

@[simp] theorem ensures_callTransport {request : Bytes}
    {post : Except Crash Injected → World core → Prop} :
    (callTransport request : Action core Injected).Ensures respond world post ↔
      ∀ result clock, world.clock ≤ clock → post (.ok result) { world with clock } := by
  refine ensures_perform.trans ?_
  exact ⟨fun ensures result clock later => ensures result _ ⟨clock, later, rfl⟩,
    by rintro holds result _ ⟨clock, later, rfl⟩; exact holds result clock later⟩

@[simp] theorem ensures_callPosition {post : Except Crash (Option GgaPosition) → World core → Prop} :
    (callPosition : Action core _).Ensures respond world post ↔
      ∀ result clock, world.clock ≤ clock → post (.ok result) { world with clock } := by
  refine ensures_perform.trans ?_
  exact ⟨fun ensures result clock later => ensures result _ ⟨clock, later, rfl⟩,
    by rintro holds result _ ⟨clock, later, rfl⟩; exact holds result clock later⟩

@[simp] theorem ensures_callEpoch
    {post : Except Crash (Option (Int × Number)) → World core → Prop} :
    (callEpoch : Action core _).Ensures respond world post ↔
      ∀ result clock, world.clock ≤ clock → post (.ok result) { world with clock } := by
  refine ensures_perform.trans ?_
  exact ⟨fun ensures result clock later => ensures result _ ⟨clock, later, rfl⟩,
    by rintro holds result _ ⟨clock, later, rfl⟩; exact holds result clock later⟩

@[simp] theorem ensures_ingest {store : Nat} {message : core.Rtcm} {week : Int} {towS : Number}
    {post : Except Crash (Except String Unit) → World core → Prop} :
    (ingest store message week towS).Ensures respond world post ↔
      ∀ result, post (.ok result) { world with
        reports := world.reports ++ [.ingested store message week towS] } := by
  refine ensures_perform.trans ?_
  exact ⟨fun ensures result => ensures result _ rfl,
    by rintro holds result _ rfl; exact holds result⟩

@[simp] theorem ensures_arithmetic {α : Type} {result : Option α}
    {post : Except Crash α → World core → Prop} :
    (arithmetic result : Action core α).Ensures respond world post ↔
      (∀ value, result = some value → post (.ok value) world) ∧
        (result = none → post (.error .arithmetic) world) := by
  rw [arithmetic, ensures_orCrash]

end Requests

/-- The reason of a report that the stream reconnects or goes down. -/
def Report.verdict? : Report core → Option (Reason core.Table)
  | .delivered _ _ (.reconnecting reason _) => some reason
  | .delivered _ _ (.down reason) => some reason
  | _ => none

/-- A stall as a reason. -/
def Reason.IsStall {Table : Type} : Reason Table → Prop
  | .streamStalled _ => True
  | _ => False

/-- What work on received bytes does to the surroundings: time passes, GGA timers are armed, and
reports are made that are no verdicts. -/
structure Worked (world world' : World core) : Prop where
  opened : world'.opened = world.opened
  closed : world'.closed = world.closed
  clock : world.clock ≤ world'.clock
  reports : ∃ more, world'.reports = world.reports ++ more ∧
    ∀ report ∈ more, report.verdict? = none
  timers : ∃ ticks, world'.timers = ticks ++ world.timers ∧
    ∀ timer ∈ ticks, ∃ ref, timer.message = .ggaTick ref

namespace Worked

variable {world world' world'' : World core}

/-- No work. -/
theorem refl (world : World core) : Worked world world :=
  ⟨rfl, rfl, Int.le_refl _, ⟨[], by simp⟩, ⟨[], by simp⟩⟩

/-- Work after work. -/
theorem trans (first : Worked world world') (second : Worked world' world'') :
    Worked world world'' := by
  obtain ⟨more, reports, plain⟩ := first.reports
  obtain ⟨more', reports', plain'⟩ := second.reports
  obtain ⟨ticks, timers, gga⟩ := first.timers
  obtain ⟨ticks', timers', gga'⟩ := second.timers
  refine ⟨second.opened.trans first.opened, second.closed.trans first.closed,
    Int.le_trans first.clock second.clock, ⟨more ++ more', ?_, ?_⟩, ⟨ticks' ++ ticks, ?_, ?_⟩⟩
  · rw [reports', reports, List.append_assoc]
  · exact List.forall_mem_append.mpr ⟨plain, plain'⟩
  · rw [timers', timers, List.append_assoc]
  · exact List.forall_mem_append.mpr ⟨gga', gga⟩

/-- Time passes. -/
theorem later {clock : Int} (passes : world.clock ≤ clock) :
    Worked world { world with clock } :=
  ⟨rfl, rfl, passes, ⟨[], by simp⟩, ⟨[], by simp⟩⟩

/-- A report that is no verdict. -/
theorem report (report : Report core) (plain : report.verdict? = none) :
    Worked world { world with reports := world.reports ++ [report] } :=
  ⟨rfl, rfl, Int.le_refl _, ⟨[report], rfl, by simpa using plain⟩, ⟨[], by simp⟩⟩

/-- A new reference and a GGA timer. -/
theorem tick {refs : Nat} {due : Int} {ref : Ref} :
    Worked world
      { world with refs, timers := ⟨.ggaTick ref, due⟩ :: world.timers } :=
  ⟨rfl, rfl, Int.le_refl _, ⟨[], by simp⟩, ⟨[⟨.ggaTick ref, due⟩], rfl, by simp⟩⟩

end Worked

/-- Two states of one connection: only the machine, the assembler and the GGA timer differ. -/
structure SameConnection (st st' : State core) : Prop where
  opts : st'.opts = st.opts
  sink : st'.sink = st.sink
  ref : st'.ref = st.ref
  socket : st'.socket = st.socket
  transport : st'.transport = st.transport
  attempt : st'.attempt = st.attempt
  lastRx : st'.lastRx = st.lastRx

namespace SameConnection

/-- A state and itself. -/
theorem refl (st : State core) : SameConnection st st := ⟨rfl, rfl, rfl, rfl, rfl, rfl, rfl⟩

/-- One change after another. -/
theorem trans {st st' st'' : State core} (first : SameConnection st st')
    (second : SameConnection st' st'') : SameConnection st st'' :=
  ⟨second.opts.trans first.opts, second.sink.trans first.sink, second.ref.trans first.ref,
    second.socket.trans first.socket, second.transport.trans first.transport,
    second.attempt.trans first.attempt, second.lastRx.trans first.lastRx⟩

/-- Another machine. -/
theorem machine (st : State core) (machine : Option core.Machine) :
    SameConnection st { st with machine } :=
  ⟨rfl, rfl, rfl, rfl, rfl, rfl, rfl⟩

end SameConnection

/-- The state a flow carries on with. -/
def Flow.state : Flow core → State core
  | .ok st => st
  | .reconnect st _ => st
  | .stop st _ => st

/-- A flow that asks for a reconnect or a stop does not blame a stall. -/
def Flow.NoStall : Flow core → Prop
  | .ok _ => True
  | .reconnect _ reason => ¬ reason.IsStall
  | .stop _ reason => ¬ reason.IsStall

/-- The GGA interval of the options is within the range of a double and of a timer. -/
def GgaFits (opts : Options) : Prop :=
  match opts.gga with
  | some ⟨some interval, _⟩ => ∃ x seconds, interval.toFloat? = some x ∧
      Number.ofFloat? (x / 1.0) = some seconds ∧ secondsToMs seconds ≠ none
  | _ => True

/-- What a function that works on a connection returns. It fails only in a GGA interval. -/
def Working (st : State core) (world : World core) :
    Except Crash (Flow core) → World core → Prop
  | .ok flow, world' => Worked world world' ∧ SameConnection st flow.state ∧ flow.NoStall
  | .error reason, world' => Worked world world' ∧ reason = .arithmetic ∧ ¬ GgaFits st.opts

/-- Work that continues work. -/
theorem Working.from {st st' : State core} {world world' : World core}
    (worked : Worked world world') (same : SameConnection st st')
    (outcome : Except Crash (Flow core)) (world'' : World core)
    (working : Working st' world' outcome world'') : Working st world outcome world'' := by
  cases outcome with
  | ok flow => exact ⟨worked.trans working.1, same.trans working.2.1, working.2.2⟩
  | error reason =>
    exact ⟨worked.trans working.1, working.2.1, by rw [← same.opts]; exact working.2.2⟩

section Events

variable {st : State core} {world : World core}

/-- Looking for a position takes time only. -/
theorem ggaPosition_spec (opts : Options) :
    (ggaPosition opts : Action core _).Ensures respond world fun outcome world' =>
      Worked world world' ∧ ∃ position, outcome = .ok position := by
  unfold ggaPosition
  split
  · simp only [ensures_bind, ensures_callPosition]
    intro position clock later
    cases position with
    | none => simpa using Worked.later later
    | some position => simpa using Worked.later later
  · simpa using Worked.refl world
  · simpa using Worked.refl world
  · simpa using Worked.refl world

/-- The last clause of `send_gga` works on the connection. -/
theorem sendGgaLive_spec (st : State core) (machine : core.Machine) (transport : Transport)
    (socket : Socket) :
    (sendGgaLive st machine transport socket).Ensures respond world (Working st world) := by
  unfold sendGgaLive
  refine (ggaPosition_spec st.opts).bind ?_ ?_
  · rintro wanted between ⟨worked, _⟩
    split
    · exact ensures_pure.mpr ⟨worked, .refl st, trivial⟩
    · exact ensures_pure.mpr ⟨worked, .refl st, id⟩
    · rename_i position
      simp only [ensures_bind, ensures_monotonicSeconds, ensures_utcSecondsOfDay]
      intro now day
      split
      · exact ensures_pure.mpr ⟨worked, ⟨rfl, rfl, rfl, rfl, rfl, rfl, rfl⟩, id⟩
      · exact ensures_pure.mpr ⟨worked, ⟨rfl, rfl, rfl, rfl, rfl, rfl, rfl⟩, trivial⟩
      · simp only [ensures_bind, ensures_sendBytes]
        intro result clock later
        have sent := worked.trans (.later later)
        cases result with
        | ok _ => exact ensures_pure.mpr ⟨sent, ⟨rfl, rfl, rfl, rfl, rfl, rfl, rfl⟩, trivial⟩
        | error _ => exact ensures_pure.mpr ⟨sent, ⟨rfl, rfl, rfl, rfl, rfl, rfl, rfl⟩, id⟩
  · rintro reason between ⟨_, _, impossible⟩
    cases impossible

/-- `send_gga` works on the connection. -/
theorem sendGga_spec (st : State core) :
    (sendGga st).Ensures respond world (Working st world) := by
  unfold sendGga
  split
  · exact sendGgaLive_spec st _ _ _
  · exact ensures_pure.mpr ⟨.refl world, .refl st, trivial⟩

/-- The GGA interval is read off the options. -/
theorem ggaIntervalS_spec (opts : Options) :
    (ggaIntervalS opts : Action core _).Ensures respond world fun outcome world' =>
      world' = world ∧ match outcome with
        | .ok none => True
        | .ok (some seconds) => secondsToMs seconds = none → ¬ GgaFits opts
        | .error reason => reason = .arithmetic ∧ ¬ GgaFits opts := by
  unfold ggaIntervalS
  split
  · rename_i interval position gga
    refine ensures_bind.mpr (ensures_arithmetic.mpr
      ⟨fun seconds converted => ensures_pure.mpr ⟨rfl, ?_⟩, fun failed => ⟨rfl, rfl, ?_⟩⟩)
    · intro tooLong fits
      simp only [GgaFits, gga] at fits
      obtain ⟨x, seconds', isDouble, divided, fits⟩ := fits
      rw [isDouble, Option.bind_some, divided, Option.some.injEq] at converted
      exact fits (converted ▸ tooLong)
    · intro fits
      simp only [GgaFits, gga] at fits
      obtain ⟨x, seconds', isDouble, divided, _⟩ := fits
      rw [isDouble, Option.bind_some, divided] at failed
      cases failed
  · refine ensures_pure.mpr ⟨rfl, fun tooLong => absurd tooLong ?_⟩
    decide +kernel
  · exact ensures_pure.mpr ⟨rfl, trivial⟩

/-- `schedule_gga` works on the connection. -/
theorem scheduleGga_spec (st : State core) :
    (scheduleGga st).Ensures respond world fun outcome world' =>
      Worked world world' ∧ match outcome with
        | .ok st' => SameConnection st st'
        | .error reason => reason = .arithmetic ∧ ¬ GgaFits st.opts := by
  unfold scheduleGga
  refine (ggaIntervalS_spec st.opts).bind ?_ ?_
  · rintro interval between ⟨rfl, delay⟩
    split
    · exact ensures_pure.mpr ⟨.refl _, ⟨rfl, rfl, rfl, rfl, rfl, rfl, rfl⟩⟩
    · refine ensures_bind.mpr (ensures_makeRef.mpr (ensures_bind.mpr (ensures_arithmetic.mpr
        ⟨fun _ _ => ensures_bind.mpr (ensures_sendAfter.mpr ?_), fun tooLong => ?_⟩)))
      · exact ensures_pure.mpr ⟨.tick, ⟨rfl, rfl, rfl, rfl, rfl, rfl, rfl⟩⟩
      · exact ⟨⟨rfl, rfl, Int.le_refl _, ⟨[], by simp⟩, ⟨[], by simp⟩⟩, rfl, delay tooLong⟩
  · rintro reason between ⟨rfl, failed⟩
    exact ⟨.refl _, failed⟩

/-- Delivering messages works. -/
theorem deliverMessages_spec (st : State core) (messages : List (Except String core.Rtcm)) :
    ∀ world : World core, (deliverMessages st messages).Ensures respond world
      fun outcome world' => Worked world world' ∧ outcome = .ok () := by
  induction messages with
  | nil => exact fun world => ensures_pure.mpr ⟨.refl world, rfl⟩
  | cons message messages ih =>
    intro world
    cases message with
    | ok message =>
      simp only [deliverMessages, ensures_bind, ensures_deliver]
      exact (ih _).mono fun _ _ ⟨worked, finished⟩ =>
        ⟨(Worked.report _ (by rfl)).trans worked, finished⟩
    | error _ => exact ih world

/-- Ingesting a message works. -/
theorem ingestStoreMessage_spec (st : State core) (message : core.Rtcm) :
    (ingestStoreMessage st message).Ensures respond world fun outcome world' =>
      Worked world world' ∧
        ∃ result, outcome = .ok result ∧ ∀ reason, result = .error reason → ¬ reason.IsStall := by
  have epoch : ∀ source, (storeEpoch source : Action core _).Ensures respond world
      fun outcome world' => Worked world world' ∧ ∃ epoch, outcome = .ok epoch := by
    intro source
    cases source with
    | callback =>
      simp only [storeEpoch, ensures_callEpoch]
      exact fun epoch clock later => ⟨.later later, epoch, rfl⟩
    | pair week towS => exact ensures_pure.mpr ⟨.refl world, _, rfl⟩
    | other => exact ensures_pure.mpr ⟨.refl world, _, rfl⟩
  unfold ingestStoreMessage
  split
  · exact ensures_pure.mpr ⟨.refl world, _, rfl, by rintro _ ⟨⟩; exact id⟩
  · rename_i store weekFun sink
    refine (epoch _).bind ?_ ?_
    · rintro found between ⟨worked, _⟩
      cases found with
      | none => exact ensures_pure.mpr ⟨worked, _, rfl, by rintro _ ⟨⟩; exact id⟩
      | some epoch =>
        refine ensures_bind.mpr (ensures_ingest.mpr fun result => ?_)
        have ingested := worked.trans
          (.report (.ingested store message epoch.1 epoch.2) rfl)
        cases result with
        | ok _ => exact ensures_pure.mpr ⟨ingested, _, rfl, by rintro _ ⟨⟩⟩
        | error _ => exact ensures_pure.mpr ⟨ingested, _, rfl, by rintro _ ⟨⟩; exact id⟩
    · rintro reason between ⟨_, _, impossible⟩
      cases impossible

/-- Ingesting messages up to the first error works. -/
theorem ingestMessages_spec (st : State core) (messages : List (Except String core.Rtcm)) :
    ∀ world : World core, (ingestMessages st messages).Ensures respond world
      fun outcome world' => Worked world world' ∧
        ∃ result, outcome = .ok result ∧ ∀ reason, result = .error reason → ¬ reason.IsStall := by
  induction messages with
  | nil => exact fun world => ensures_pure.mpr ⟨.refl world, _, rfl, by rintro _ ⟨⟩⟩
  | cons message messages ih =>
    intro world
    cases message with
    | ok message =>
      refine (ingestStoreMessage_spec st message).bind ?_ ?_
      · rintro result between ⟨worked, _, ⟨⟩, plain⟩
        cases result with
        | ok _ => exact (ih between).mono fun _ _ ⟨more, result⟩ => ⟨worked.trans more, result⟩
        | error reason => exact ensures_pure.mpr ⟨worked, _, rfl, plain⟩
      · rintro reason between ⟨_, _, impossible, _⟩
        cases impossible
    | error _ => exact ih world

/-- Assembling a payload works on the connection. -/
theorem assemblePayload_spec (st : State core) (bytes : Bytes) :
    (assemblePayload st bytes).Ensures respond world (Working st world) := by
  unfold assemblePayload
  split
  · refine (deliverMessages_spec st _ world).bind ?_ ?_
    · rintro _ after ⟨worked, _⟩
      exact ensures_pure.mpr ⟨worked, ⟨rfl, rfl, rfl, rfl, rfl, rfl, rfl⟩, trivial⟩
    · rintro reason after ⟨_, impossible⟩
      cases impossible
  · refine (ingestMessages_spec _ _ world).bind ?_ ?_
    · rintro result after ⟨worked, _, ⟨⟩, plain⟩
      cases result with
      | ok _ => exact ensures_pure.mpr ⟨worked, ⟨rfl, rfl, rfl, rfl, rfl, rfl, rfl⟩, trivial⟩
      | error reason =>
        exact ensures_pure.mpr ⟨worked, ⟨rfl, rfl, rfl, rfl, rfl, rfl, rfl⟩, plain reason rfl⟩
    · rintro reason after ⟨_, _, impossible, _⟩
      cases impossible
  · exact ensures_pure.mpr ⟨.refl world, .refl st, trivial⟩

/-- A payload is worked on. -/
theorem handlePayload_spec (st : State core) (bytes : Bytes) :
    (handlePayload st bytes).Ensures respond world (Working st world) := by
  unfold handlePayload
  split
  · rw [ensures_bind, ensures_deliver]
    exact (assemblePayload_spec st bytes).mono (Working.from (.report _ (by rfl)) (.refl st))
  · exact assemblePayload_spec st bytes

/-- A rejection is no stall. -/
theorem mapRejection_noStall {Table : Type} (rejection : Rejection) :
    ¬ (mapRejection rejection : Reason Table).IsStall := by
  cases rejection <;> exact id

/-- An event is worked on. -/
theorem handleEvent_spec (st : State core) (event : Event core.Table) :
    (handleEvent st event).Ensures respond world (Working st world) := by
  cases event with
  | connected =>
    refine (sendGga_spec st).bind ?_ ?_
    · rintro flow between ⟨worked, same, plain⟩
      cases flow with
      | ok next =>
        refine (scheduleGga_spec next).bind ?_ ?_
        · rintro next' after ⟨more, same'⟩
          exact ensures_pure.mpr ⟨worked.trans more, same.trans same', trivial⟩
        · rintro reason after ⟨more, failed, unfit⟩
          exact ⟨worked.trans more, failed, same.opts ▸ unfit⟩
      | reconnect next reason => exact ensures_pure.mpr ⟨worked, same, plain⟩
      | stop next reason => exact ensures_pure.mpr ⟨worked, same, plain⟩
    · rintro reason between failed
      exact failed
  | payload bytes => exact handlePayload_spec st bytes
  | sourcetable table =>
    simp only [handleEvent]
    split
    · refine ensures_bind.mpr (ensures_deliver.mpr ?_)
      exact ensures_pure.mpr ⟨.report _ (by rfl), .refl st, trivial⟩
    · exact ensures_pure.mpr ⟨.refl world, .refl st, id⟩
  | rejected rejection =>
    exact ensures_pure.mpr ⟨.refl world, .refl st, mapRejection_noStall rejection⟩
  | streamCorrupted detail => exact ensures_pure.mpr ⟨.refl world, .refl st, id⟩
  | streamEnded => exact ensures_pure.mpr ⟨.refl world, .refl st, id⟩

/-- A list of events is worked on. -/
theorem processEvents_spec (events : List (Event core.Table)) :
    ∀ (st : State core) (world : World core),
      (processEvents events st).Ensures respond world (Working st world) := by
  induction events with
  | nil => exact fun st world => ensures_pure.mpr ⟨.refl world, .refl st, trivial⟩
  | cons event events ih =>
    intro st world
    refine (handleEvent_spec st event).bind ?_ ?_
    · rintro flow between ⟨worked, same, plain⟩
      cases flow with
      | ok next => exact (ih next between).mono (Working.from worked same)
      | reconnect next reason => exact ensures_pure.mpr ⟨worked, same, plain⟩
      | stop next reason => exact ensures_pure.mpr ⟨worked, same, plain⟩
    · rintro reason between failed
      exact failed

end Events

end Sidereon.Ntrip
