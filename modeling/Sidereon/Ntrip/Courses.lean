import Sidereon.Ntrip.Connection

/-!
# What the callbacks arm and announce

Beside its new state, a callback leaves timers and a verdict. The functions that work on received
bytes arm GGA timers only and announce nothing. `reconnect` arms one backoff timer and announces the
next attempt, `down` arms nothing and announces the end, and `open_socket` arms one stall check.
-/

namespace Sidereon.Ntrip

open Foundation Foundation.Program
open Foundation.Beam (Number double)

variable {core : Core}

/-- A GGA tick, as against a stall check and a connect. -/
def TimerMessage.isGgaTick : TimerMessage → Bool
  | .ggaTick _ => true
  | _ => false

/-- What a callback leaves: timers for the given messages and GGA ticks, reports that are no
verdicts and then the given verdict, and no closed socket but that of the state. -/
structure Course (st : State core) (armed : List TimerMessage) (verdict : Option (SinkMessage core))
    (world world' : World core) : Prop where
  timers : ∃ new, world'.timers = new ++ world.timers ∧
    (new.map Timer.message).filter (fun message => !message.isGgaTick) = armed
  reports : ∃ plain, world'.reports = world.reports ++ plain ++
      verdict.toList.map (.delivered st.sink st.ref) ∧
    ∀ report ∈ plain, report.verdict? = none
  closed : ∀ socket ∈ world'.closed, socket ∈ world.closed ∨ st.socket = some socket

/-- The timers work arms are GGA timers. -/
theorem filter_ticks {ticks : List Timer} (gga : ∀ timer ∈ ticks, ∃ ref, timer.message = .ggaTick ref) :
    (ticks.map Timer.message).filter (fun message => !message.isGgaTick) = [] := by
  rw [List.filter_eq_nil_iff]
  intro message member
  obtain ⟨timer, ofTimer, rfl⟩ := List.mem_map.mp member
  obtain ⟨ref, tick⟩ := gga timer ofTimer
  simp [tick, TimerMessage.isGgaTick]

/-- Work takes the plain course. -/
theorem Worked.course {world world' : World core} (worked : Worked world world')
    (st : State core) : Course st [] none world world' := by
  obtain ⟨more, reports, plain⟩ := worked.reports
  obtain ⟨ticks, timers, gga⟩ := worked.timers
  refine ⟨⟨ticks, timers, filter_ticks gga⟩, ⟨more, by simp [reports], plain⟩, ?_⟩
  intro socket member
  rw [worked.closed] at member
  exact Or.inl member

/-- A course after work. -/
theorem Course.after {st : State core} {armed : List TimerMessage}
    {verdict : Option (SinkMessage core)} {world world' world'' : World core}
    (worked : Worked world world') (course : Course st armed verdict world' world'') :
    Course st armed verdict world world'' := by
  obtain ⟨more, reports, plain⟩ := worked.reports
  obtain ⟨ticks, timers, gga⟩ := worked.timers
  obtain ⟨new, timers', armed'⟩ := course.timers
  obtain ⟨more', reports', plain'⟩ := course.reports
  refine ⟨⟨new ++ ticks, ?_, ?_⟩, ⟨more ++ more', ?_, List.forall_mem_append.mpr ⟨plain, plain'⟩⟩, ?_⟩
  · rw [timers', timers, List.append_assoc]
  · rw [List.map_append, List.filter_append, filter_ticks gga, List.append_nil, armed']
  · rw [reports', reports, List.append_assoc world.reports]
  · intro socket member
    rw [← worked.closed]
    exact course.closed socket member

/-- A course of the state without its connection. -/
theorem Course.of_shed {st : State core} {armed : List TimerMessage}
    {verdict : Option (SinkMessage core)} {world world' : World core}
    (course : Course st.shed armed verdict world world') : Course st armed verdict world world' := by
  refine ⟨course.timers, course.reports, fun socket member => ?_⟩
  rcases course.closed socket member with before | impossible
  · exact Or.inl before
  · cases impossible

/-- The times a callback may compute are in range: the connect and stall timeouts, the GGA interval,
and the backoff of the next attempt unless no attempt is left. -/
structure TimesFit (core : Core) (opts : Options) (attempt : Nat) : Prop where
  connect : connectTimeout opts ≠ none
  stall : stallTimeout opts ≠ none
  gga : GgaFits opts
  backoff : BackoffFits core opts attempt

/-- A crash on a time out of range; what a `:transport_fun` leads to may crash in other ways. -/
def Unfit (st : State core) (fault : Crash) : Prop :=
  fault = .arithmetic ∧ ¬ TimesFit core st.opts st.attempt ∨ st.opts.transportFun = true

/-- Why a callback that has a clause for its message may still crash. -/
def FailsBy (st : State core) (fault : Crash) : Prop :=
  Unfit st fault ∨ fault = .argument ∧ st.machine = none

/-- How a callback ends that gives the connection up. -/
inductive Parts (st : State core) (world : World core) :
    Except Crash (Reply core) → World core → Prop where
  | retries {st' : State core} {reason : Reason core.Table} {world' : World core}
      (left : ∀ bound, maxReconnects st.opts = some bound → (st.attempt : Int) < bound)
      (opts : st'.opts = st.opts) (sink : st'.sink = st.sink) (socket : st'.socket = none)
      (attempt : st'.attempt = st.attempt + 1)
      (course : Course st [.connectAfterBackoff] (some (.reconnecting reason (st.attempt + 1)))
        world world') : Parts st world (.ok (.noreply st')) world'
  | stops {st' : State core} {reason : Reason core.Table} {world' : World core}
      (course : Course st [] (some (.down reason)) world world') :
      Parts st world (.ok (.stop st')) world'
  | fails {fault : Crash} {verdict : Option (SinkMessage core)} {world' : World core}
      (because : Unfit st fault) (course : Course st [] verdict world world') :
      Parts st world (.error fault) world'

/-- A state that carries on: what lasts over callbacks stays, and a machine is not lost. -/
structure Carries (st st' : State core) : Prop where
  opts : st'.opts = st.opts
  sink : st'.sink = st.sink
  ref : st'.ref = st.ref
  socket : st'.socket = st.socket
  attempt : st'.attempt = st.attempt
  machine : st.machine ≠ none → st'.machine ≠ none

/-- A state carries itself on. -/
theorem Carries.refl (st : State core) : Carries st st := ⟨rfl, rfl, rfl, rfl, rfl, id⟩

/-- A state carried on and on. -/
theorem Carries.trans {st st' st'' : State core} (first : Carries st st')
    (second : Carries st' st'') : Carries st st'' :=
  ⟨second.opts.trans first.opts, second.sink.trans first.sink, second.ref.trans first.ref,
    second.socket.trans first.socket, second.attempt.trans first.attempt,
    second.machine ∘ first.machine⟩

/-- One connection whose machine is not lost carries on. -/
theorem SameConnection.carries {st st' : State core} (same : SameConnection st st')
    (machine : st.machine ≠ none → st'.machine ≠ none) : Carries st st' :=
  ⟨same.opts, same.sink, same.ref, same.socket, same.attempt, machine⟩

/-- The times of a state carried on are those of the state. -/
theorem Unfit.of_carries {st st' : State core} {fault : Crash} (carries : Carries st st')
    (unfit : Unfit st' fault) : Unfit st fault := by
  rwa [Unfit, carries.opts, carries.attempt] at unfit

/-- A state carried on crashes for the reasons of the state. -/
theorem FailsBy.of_carries {st st' : State core} {fault : Crash} (carries : Carries st st')
    (fails : FailsBy st' fault) : FailsBy st fault := by
  rcases fails with unfit | ⟨argument, lost⟩
  · exact Or.inl (unfit.of_carries carries)
  · exact Or.inr ⟨argument, by_contra fun machine => carries.machine machine lost⟩

/-- Giving up what a state carried on gives the state up. -/
theorem Parts.of_carries {st st' : State core} {world world' world'' : World core}
    {outcome : Except Crash (Reply core)} (worked : Worked world world')
    (carries : Carries st st') (parts : Parts st' world' outcome world'') :
    Parts st world outcome world'' := by
  have course : ∀ {armed : List TimerMessage} {verdict : Option (SinkMessage core)},
      Course st' armed verdict world' world'' → Course st armed verdict world world'' := by
    intro armed verdict course
    obtain ⟨plain, reports, none⟩ := (course.after worked).reports
    refine ⟨(course.after worked).timers, ⟨plain, ?_, none⟩, ?_⟩
    · rw [reports, carries.sink, carries.ref]
    · rw [← carries.socket]
      exact (course.after worked).closed
  cases parts with
  | retries left opts sink socket attempt taken =>
    rw [carries.attempt] at taken attempt left
    rw [carries.opts] at left opts
    rw [carries.sink] at sink
    exact .retries left opts sink socket attempt (course taken)
  | stops taken => exact .stops (course taken)
  | fails because taken => exact .fails (because.of_carries carries) (course taken)

/-- Giving up the state without its connection gives up the state. -/
theorem Parts.of_shed {st : State core} {world world' : World core}
    {outcome : Except Crash (Reply core)} (parts : Parts st.shed world outcome world') :
    Parts st world outcome world' := by
  cases parts with
  | retries left opts sink socket attempt taken =>
    exact .retries left opts sink socket attempt taken.of_shed
  | stops taken => exact .stops taken.of_shed
  | fails because taken => exact .fails because taken.of_shed

section GivingUp

variable {world : World core}

/-- Closing the socket of a state adds that socket to the closed ones. -/
theorem closeStateSocket_closes (st : State core) :
    (closeStateSocket st).Ensures respond world fun outcome world' =>
      outcome = .ok () ∧ ∃ closed, world' = { world with closed } ∧
        ∀ socket ∈ closed, socket ∈ world.closed ∨ st.socket = some socket := by
  unfold closeStateSocket
  split
  · rename_i socket transport live _
    refine ensures_closeSocket.mpr ⟨rfl, _, rfl, fun other member => ?_⟩
    rcases List.mem_cons.mp member with rfl | before
    · exact Or.inr live
    · exact Or.inl before
  · exact ensures_pure.mpr ⟨rfl, _, rfl, fun _ member => Or.inl member⟩

/-- Leaving a verdict, a timer at most, and a closed socket of the state. -/
theorem Course.leaves (world : World core) (st : State core) (verdict : SinkMessage core) (new : List Timer)
    {closed : List Socket}
    (only : ∀ socket ∈ closed, socket ∈ world.closed ∨ st.socket = some socket) :
    Course st ((new.map Timer.message).filter fun message => !message.isGgaTick) (some verdict)
      world { world with
        closed
        timers := new ++ world.timers
        reports := world.reports ++ [.delivered st.sink st.ref verdict] } :=
  ⟨⟨new, rfl, rfl⟩, ⟨[], by simp, by simp⟩, only⟩

/-- `down` stops. -/
theorem down_parts (st : State core) (reason : Reason core.Table) :
    (down st reason).Ensures respond world (Parts st world) := by
  refine ensures_bind.mpr (ensures_deliver.mpr ?_)
  refine (closeStateSocket_closes st).bind ?_ ?_
  · intro _ between closes
    obtain ⟨_, closed, rfl, only⟩ := closes
    exact ensures_pure.mpr (.stops (Course.leaves world st (.down reason) [] only))
  · intro fault between impossible
    cases impossible.1

/-- `reconnect` retries or stops. -/
theorem reconnect_parts (st : State core) (reason : Reason core.Table) :
    (reconnect st reason).Ensures respond world (Parts st world) := by
  have retries : (∀ bound, maxReconnects st.opts = some bound → (st.attempt : Int) < bound) →
      (scheduleReconnect st reason).Ensures respond world (Parts st world) := by
    intro left
    refine ensures_bind.mpr (ensures_deliver.mpr (ensures_bind.mpr
      (ensures_arithmetic.mpr ⟨fun backoff _ => ?_, fun overflow => ?_⟩)))
    · refine (closeStateSocket_closes st).bind ?_ ?_
      · intro _ between closes
        obtain ⟨_, closed, rfl, only⟩ := closes
        refine ensures_bind.mpr (ensures_sendAfter.mpr (ensures_pure.mpr ?_))
        exact .retries left rfl rfl rfl rfl
          (Course.leaves world st (.reconnecting reason (st.attempt + 1))
            [⟨.connectAfterBackoff, _⟩] only)
      · intro fault between impossible
        cases impossible.1
    · have unfit : ¬ TimesFit core st.opts st.attempt := by
        intro fits
        rcases fits.backoff with ⟨bound, found, reached⟩ | inRange
        · exact absurd (left bound found) (Int.not_lt.mpr reached)
        · exact inRange overflow
      exact .fails (Or.inl ⟨rfl, unfit⟩)
        (Course.leaves world st (.reconnecting reason (st.attempt + 1)) [] fun _ => Or.inl)
  unfold reconnect
  split
  · rename_i bound found
    split
    · exact down_parts st reason
    · rename_i attempts
      refine retries fun bound' found' => ?_
      rw [found, Option.some.injEq] at found'
      omega
  · rename_i unbounded
    refine retries fun bound found => ?_
    rw [unbounded] at found
    cases found

end GivingUp

/-- A machine of a state is not lost in the flow it leads to. -/
def KeepsMachine (st : State core) (outcome : Except Crash (Flow core)) : Prop :=
  ∀ flow, outcome = .ok flow → st.machine ≠ none → flow.state.machine ≠ none

section Machine

variable {world : World core}

/-- A flow that carries on with a machine. -/
theorem KeepsMachine.of_flow {st : State core} {flow : Flow core}
    (kept : st.machine ≠ none → flow.state.machine ≠ none) : KeepsMachine st (.ok flow) := by
  rintro flow' ⟨⟩
  exact kept

/-- `send_gga` keeps the machine. -/
theorem sendGga_machine (st : State core) :
    (sendGga st).Ensures respond world fun outcome _ => KeepsMachine st outcome := by
  unfold sendGga
  split
  · rename_i machine socket transport owned _ _
    unfold sendGgaLive
    refine (ggaPosition_spec st.opts).bind ?_ (fun _ _ _ => by rintro _ ⟨⟩)
    intro wanted between _
    split
    · exact ensures_pure.mpr (.of_flow id)
    · exact ensures_pure.mpr (.of_flow id)
    · simp only [ensures_bind, ensures_monotonicSeconds, ensures_utcSecondsOfDay]
      intro now day
      split
      · exact ensures_pure.mpr (.of_flow fun _ => by simp [Flow.state])
      · exact ensures_pure.mpr (.of_flow fun _ => by simp [Flow.state])
      · simp only [ensures_bind, ensures_sendBytes]
        intro result clock _
        cases result with
        | ok _ => exact ensures_pure.mpr (.of_flow fun _ => by simp [Flow.state])
        | error _ => exact ensures_pure.mpr (.of_flow fun _ => by simp [Flow.state])
  · exact ensures_pure.mpr (.of_flow id)

/-- `schedule_gga` keeps the machine. -/
theorem scheduleGga_machine (st : State core) :
    (scheduleGga st).Ensures respond world fun outcome _ =>
      ∀ st', outcome = .ok st' → st'.machine = st.machine := by
  unfold scheduleGga
  refine (ggaIntervalS_spec st.opts).bind ?_ (fun _ _ _ => by rintro _ ⟨⟩)
  intro interval between _
  split
  · exact ensures_pure.mpr (by rintro _ ⟨⟩; rfl)
  · refine ensures_bind.mpr (ensures_makeRef.mpr (ensures_bind.mpr (ensures_arithmetic.mpr
      ⟨fun _ _ => ensures_bind.mpr (ensures_sendAfter.mpr ?_), fun _ => by rintro _ ⟨⟩⟩)))
    exact ensures_pure.mpr (by rintro _ ⟨⟩; rfl)

/-- A payload keeps the machine. -/
theorem assemblePayload_machine (st : State core) (bytes : Bytes) :
    (assemblePayload st bytes).Ensures respond world fun outcome _ => KeepsMachine st outcome := by
  unfold assemblePayload
  split
  · refine (deliverMessages_spec st _ world).bind ?_ (fun _ _ _ => by rintro _ ⟨⟩)
    exact fun _ _ _ => ensures_pure.mpr (.of_flow id)
  · refine (ingestMessages_spec _ _ world).bind ?_ (fun _ _ _ => by rintro _ ⟨⟩)
    intro result _ _
    cases result with
    | ok _ => exact ensures_pure.mpr (.of_flow id)
    | error _ => exact ensures_pure.mpr (.of_flow id)
  · exact ensures_pure.mpr (.of_flow id)

/-- An event keeps the machine. -/
theorem handleEvent_machine (st : State core) (event : Event core.Table) :
    (handleEvent st event).Ensures respond world fun outcome _ => KeepsMachine st outcome := by
  cases event with
  | connected =>
    refine (sendGga_machine st).bind ?_ (fun _ _ _ => by rintro _ ⟨⟩)
    intro flow between kept
    cases flow with
    | ok next =>
      refine (scheduleGga_machine next).bind ?_ (fun _ _ _ => by rintro _ ⟨⟩)
      intro next' after same
      refine ensures_pure.mpr (.of_flow fun machine => ?_)
      have still := kept (.ok next) rfl machine
      rwa [Flow.state, ← same next' rfl] at still
    | reconnect next reason => exact ensures_pure.mpr (.of_flow (kept _ rfl))
    | stop next reason => exact ensures_pure.mpr (.of_flow (kept _ rfl))
  | payload bytes =>
    simp only [handleEvent, handlePayload]
    split
    · rw [ensures_bind, ensures_deliver]
      exact assemblePayload_machine st bytes
    · exact assemblePayload_machine st bytes
  | sourcetable table =>
    simp only [handleEvent]
    split
    · exact ensures_bind.mpr (ensures_deliver.mpr (ensures_pure.mpr (.of_flow id)))
    · exact ensures_pure.mpr (.of_flow id)
  | rejected rejection => exact ensures_pure.mpr (.of_flow id)
  | streamCorrupted detail => exact ensures_pure.mpr (.of_flow id)
  | streamEnded => exact ensures_pure.mpr (.of_flow id)

/-- A list of events keeps the machine. -/
theorem processEvents_machine (events : List (Event core.Table)) :
    ∀ (st : State core) (world : World core),
      (processEvents events st).Ensures respond world fun outcome _ => KeepsMachine st outcome := by
  induction events with
  | nil => exact fun st world => ensures_pure.mpr (.of_flow id)
  | cons event events ih =>
    intro st world
    refine (handleEvent_machine st event).bind ?_ (fun _ _ _ => by rintro _ ⟨⟩)
    intro flow between kept
    cases flow with
    | ok next =>
      refine (ih next between).mono fun _ _ later flow ended machine => ?_
      exact later flow ended (kept _ rfl machine)
    | reconnect next reason => exact ensures_pure.mpr (.of_flow (kept _ rfl))
    | stop next reason => exact ensures_pure.mpr (.of_flow (kept _ rfl))

end Machine

/-- What a function that works on a connection leads to. -/
def Carried (st : State core) (world : World core) :
    Except Crash (Flow core) → World core → Prop
  | .ok flow, world' => Worked world world' ∧ Carries st flow.state
  | .error fault, world' => Worked world world' ∧ FailsBy st fault

/-- How a message is handled that does not connect: the process carries on, after a stall check with
another one, or gives a live connection up, or crashes. -/
inductive Handles (st : State core) (message : Message) (world : World core) :
    Except Crash (Reply core) → World core → Prop where
  | stays {st' : State core} {world' : World core} (carries : Carries st st')
      (closed : world'.closed = world.closed) (course : Course st [] none world world') :
      Handles st message world (.ok (.noreply st')) world'
  | checks {world' : World core} (isCheck : message = .stallCheck) (live : st.socket ≠ none)
      (closed : world'.closed = world.closed)
      (course : Course st [.stallCheck] none world world') :
      Handles st message world (.ok (.noreply st)) world'
  | parts {outcome : Except Crash (Reply core)} {world' : World core} (live : st.socket ≠ none)
      (parts : Parts st world outcome world') : Handles st message world outcome world'
  | fails {fault : Crash} {world' : World core} (because : Unfit st fault)
      (course : Course st [] none world world') : Handles st message world (.error fault) world'
  | lost {fault : Crash} {world' : World core} (live : st.socket ≠ none) (lost : st.machine = none)
      (course : Course st [] none world world') : Handles st message world (.error fault) world'

section Handling

variable {message : Message} {world : World core}

/-- A GGA interval out of range is a time out of range. -/
theorem Unfit.of_gga {st : State core} (unfit : ¬ GgaFits st.opts) : Unfit st .arithmetic :=
  Or.inl ⟨rfl, fun fits => unfit fits.gga⟩

/-- Work that keeps the machine carries the state on. -/
theorem Working.carried {st : State core} {outcome : Except Crash (Flow core)}
    {world' : World core} (working : Working st world outcome world')
    (kept : KeepsMachine st outcome) : Carried st world outcome world' := by
  cases outcome with
  | ok flow => exact ⟨working.1, working.2.1.carries (kept flow rfl)⟩
  | error fault =>
    obtain ⟨worked, arithmetic, unfit⟩ := working
    rw [arithmetic]
    exact ⟨worked, Or.inl (.of_gga unfit)⟩

/-- Bytes carry the state on. -/
theorem processBytes_carried (bytes : Bytes) (st : State core) :
    (processBytes bytes st).Ensures respond world (Carried st world) := by
  unfold processBytes
  split
  · rename_i lost
    exact ensures_crash.mpr ⟨.refl world, Or.inr ⟨rfl, lost⟩⟩
  · rename_i machine owned
    dsimp only
    refine ((processEvents_spec _ _ world).and (processEvents_machine _ _ world)).mono ?_
    intro outcome world' both
    have carried := both.1.carried both.2
    cases outcome with
    | ok flow =>
      obtain ⟨worked, carries⟩ := carried
      exact ⟨worked, ⟨carries.opts, carries.sink, carries.ref, carries.socket, carries.attempt,
        fun _ => carries.machine (by simp)⟩⟩
    | error fault =>
      refine ⟨carried.1, carried.2.imp id fun lost => ?_⟩
      cases lost.2

/-- What `stream_reply` does with a flow of a live connection. -/
theorem streamReply_handles {st : State core} {world' : World core} (flow : Flow core)
    (live : st.socket ≠ none) (worked : Worked world world') (carries : Carries st flow.state) :
    (streamReply flow).Ensures respond world' (Handles st message world) := by
  cases flow with
  | ok next => exact ensures_pure.mpr (.stays carries worked.closed (worked.course st))
  | reconnect next reason =>
    exact (reconnect_parts next reason).mono fun _ _ parts =>
      .parts live (parts.of_carries worked carries)
  | stop next reason =>
    exact (down_parts next reason).mono fun _ _ parts =>
      .parts live (parts.of_carries worked carries)

/-- Data of the current socket. -/
theorem handleData_handles (st : State core) (transport : Transport) (socket : Socket)
    (bytes : Bytes) (live : st.socket ≠ none) :
    (handleData st transport socket bytes).Ensures respond world (Handles st message world) := by
  have received : ∀ active lastRx,
      (do streamReply (← processBytes bytes { st with lastRx }) : Action core (Reply core)).Ensures
        respond { world with active } (Handles st message world) := by
    intro active lastRx
    have same : Carries st { st with lastRx } := ⟨rfl, rfl, rfl, rfl, rfl, id⟩
    have idle : Worked world { world with active } :=
      ⟨rfl, rfl, Int.le_refl _, ⟨[], by simp⟩, ⟨[], by simp⟩⟩
    refine (processBytes_carried bytes _).bind ?_ ?_
    · intro flow between carried
      obtain ⟨worked, carries⟩ := carried
      exact streamReply_handles flow live (idle.trans worked)
        ⟨carries.opts, carries.sink, carries.ref, carries.socket, carries.attempt,
          carries.machine⟩
    · intro fault between carried
      have course := (idle.trans carried.1).course st
      rcases carried.2.of_carries same with unfit | ⟨_, gone⟩
      · exact .fails unfit course
      · exact .lost live gone course
  refine ensures_bind.mpr (ensures_setActiveOnce.mpr ⟨fun _ => ?_, ?_⟩)
  · exact ensures_bind.mpr (ensures_monotonicTime.mpr (received world.active world.clock))
  · exact ensures_bind.mpr (ensures_monotonicTime.mpr (received _ world.clock))

/-- A closed socket is given up. -/
theorem socketClosed_parts (st : State core) (reason : Reason core.Table) :
    (socketClosed st reason).Ensures respond world (Parts st world) := by
  unfold socketClosed
  split
  · exact (reconnect_parts _ _).mono fun _ _ parts => parts.of_shed
  · rename_i machine owned
    dsimp only
    refine ((processEvents_spec _ _ world).and (processEvents_machine _ _ world)).bind ?_ ?_
    · intro flow between both
      obtain ⟨worked, carries⟩ := both.1.carried both.2
      have carries : Carries st.shed flow.state :=
        ⟨carries.opts, carries.sink, carries.ref, carries.socket, carries.attempt,
          fun _ => carries.machine (by simp)⟩
      cases flow with
      | ok next =>
        exact (reconnect_parts _ _).mono fun _ _ parts => (parts.of_carries worked carries).of_shed
      | reconnect next reason =>
        exact (reconnect_parts _ _).mono fun _ _ parts => (parts.of_carries worked carries).of_shed
      | stop next reason =>
        exact (down_parts _ _).mono fun _ _ parts => (parts.of_carries worked carries).of_shed
    · intro fault between both
      obtain ⟨worked, arithmetic, unfit⟩ := both.1
      rw [arithmetic]
      exact .fails (.of_gga unfit) (worked.course st)

/-- Scheduling a stall check arms one, unless the timeout is out of range. -/
theorem scheduleStall_arms (opts : Options) :
    (scheduleStall opts : Action core Unit).Ensures respond world fun outcome world' =>
      match outcome with
      | .ok () => ∃ due, world' = { world with timers := ⟨.stallCheck, due⟩ :: world.timers }
      | .error fault => fault = .arithmetic ∧ world' = world ∧ stallTimeout opts = none := by
  refine ensures_bind.mpr (ensures_arithmetic.mpr ⟨fun timeout _ => ?_, fun overflow => ?_⟩)
  · exact ensures_sendAfter.mpr ⟨_, rfl⟩
  · exact ⟨rfl, rfl, overflow⟩

/-- One more stall check. -/
theorem Course.check (world : World core) (st : State core) (due : Int) :
    Course st [.stallCheck] none world
      { world with timers := ⟨.stallCheck, due⟩ :: world.timers } :=
  ⟨⟨[⟨.stallCheck, due⟩], rfl, rfl⟩, ⟨[], by simp, by simp⟩, fun _ => Or.inl⟩

/-- A stall check. -/
theorem stallCheck_handles (st : State core) :
    (stallCheck st).Ensures respond world (Handles st .stallCheck world) := by
  have idle := (Worked.refl world).course st
  unfold stallCheck
  split
  · exact ensures_pure.mpr (.stays (.refl st) rfl idle)
  · rename_i socket live
    have live : st.socket ≠ none := by simp [live]
    refine ensures_bind.mpr (ensures_arithmetic.mpr ⟨fun timeout _ => ?_, fun overflow => ?_⟩)
    · refine ensures_bind.mpr (ensures_monotonicTime.mpr ?_)
      dsimp only
      split
      · exact (reconnect_parts st _).mono fun _ _ parts => .parts live parts
      · refine (scheduleStall_arms st.opts).bind ?_ ?_
        · intro _ between armed
          obtain ⟨due, rfl⟩ := armed
          exact ensures_pure.mpr (.checks rfl live rfl (Course.check world st due))
        · intro fault between failed
          obtain ⟨rfl, rfl, overflow⟩ := failed
          exact .fails (Or.inl ⟨rfl, fun fits => fits.stall overflow⟩) idle
    · exact .fails (Or.inl ⟨rfl, fun fits => fits.stall overflow⟩) idle

/-- A GGA tick of the current timer. -/
theorem ggaTick_handles (st : State core) :
    (ggaTick st).Ensures respond world (Handles st message world) := by
  have silent : (sendGga st).Ensures respond world fun outcome _ =>
      st.socket = none → ∀ flow, outcome = .ok flow → flow = .ok st := by
    unfold sendGga
    split
    · rename_i live _
      intro _ _ _ closed
      rw [live] at closed
      cases closed
    · exact ensures_pure.mpr (by rintro _ _ ⟨⟩; rfl)
  refine (((sendGga_spec st).and (sendGga_machine st)).and silent).bind ?_ ?_
  · intro flow between sent
    obtain ⟨⟨working, machine⟩, calm⟩ := sent
    obtain ⟨worked, carries⟩ := working.carried machine
    cases flow with
    | ok next =>
      refine ((scheduleGga_spec next).and (scheduleGga_machine next)).bind ?_ ?_
      · intro next' after scheduled
        obtain ⟨⟨more, same⟩, machine⟩ := scheduled
        have worked := worked.trans more
        have carries : Carries st next' :=
          ⟨same.opts.trans carries.opts, same.sink.trans carries.sink, same.ref.trans carries.ref,
            same.socket.trans carries.socket, same.attempt.trans carries.attempt,
            fun owned => by rw [machine next' rfl]; exact carries.machine owned⟩
        exact ensures_pure.mpr (.stays carries worked.closed (worked.course st))
      · intro fault after scheduled
        obtain ⟨more, rfl, unfit⟩ := scheduled.1
        have opts : next.opts = st.opts := carries.opts
        rw [opts] at unfit
        exact .fails (.of_gga unfit) ((worked.trans more).course st)
    | reconnect next reason =>
      have live : st.socket ≠ none := fun closed => by cases calm closed _ rfl
      exact (reconnect_parts next reason).mono fun _ _ parts =>
        .parts live (parts.of_carries worked carries)
    | stop next reason =>
      have live : st.socket ≠ none := fun closed => by cases calm closed _ rfl
      exact (down_parts next reason).mono fun _ _ parts =>
        .parts live (parts.of_carries worked carries)
  · intro fault between sent
    obtain ⟨worked, arithmetic, unfit⟩ := sent.1.1
    rw [arithmetic]
    exact .fails (.of_gga unfit) (worked.course st)

end Handling

/-- How an attempt to connect ends: with a live socket and its stall check, or given up. -/
inductive Attempts (st : State core) (world : World core) :
    Except Crash (Reply core) → World core → Prop where
  | connects {st' : State core} {world' : World core} {socket : Socket} (opts : st'.opts = st.opts)
      (sink : st'.sink = st.sink) (attempt : st'.attempt = st.attempt)
      (machine : st'.machine ≠ none) (live : st'.socket = some socket)
      (fresh : socket ∉ world.sockets) (closed : world'.closed = world.closed)
      (course : Course st [.stallCheck] none world world') :
      Attempts st world (.ok (.noreply st')) world'
  | parts {outcome : Except Crash (Reply core)} {world' : World core}
      (parts : Parts st world outcome world') : Attempts st world outcome world'

section Connecting

variable {world : World core}

/-- A connection opened, as work: it leaves timers, reports and closed sockets. -/
theorem Course.opens {st : State core} {armed : List TimerMessage}
    {verdict : Option (SinkMessage core)} {world' : World core} {clock : Int} {opened : List Opened}
    {active : List Socket}
    (course : Course st armed verdict { world with clock, opened, active } world') :
    Course st armed verdict world world' :=
  ⟨course.timers, course.reports, course.closed⟩

/-- Giving up after a connection was opened. -/
theorem Parts.opens (world : World core) {st : State core} {outcome : Except Crash (Reply core)}
    {world' : World core} {clock : Int} {opened : List Opened}
    {active : List Socket} (parts : Parts st { world with clock, opened, active } outcome world') :
    Parts st world outcome world' := by
  cases parts with
  | retries left opts sink socket attempt taken =>
    exact .retries left opts sink socket attempt taken.opens
  | stops taken => exact .stops taken.opens
  | fails because taken => exact .fails because taken.opens

/-- `open_socket` is an attempt. -/
theorem openSocket_attempts (request : Bytes) (st : State core) (machine : st.machine ≠ none) :
    (openSocket request st).Ensures respond world (Attempts st world) := by
  refine ensures_bind.mpr (ensures_arithmetic.mpr ⟨fun timeout _ => ?_, fun overflow => ?_⟩)
  · refine ensures_bind.mpr (ensures_connect.mpr fun clock _ => ⟨fun reason => ?_, ?_⟩)
    · exact (reconnect_parts st _).mono fun _ _ parts => .parts (parts.opens world)
    · intro socket fresh
      refine ensures_bind.mpr (ensures_sendBytes.mpr fun result clock' _ => ?_)
      cases result with
      | error reason => exact (reconnect_parts st _).mono fun _ _ parts => .parts (parts.opens world)
      | ok _ =>
        refine ensures_bind.mpr (ensures_setActiveOnce.mpr ⟨fun reason => ?_, ?_⟩)
        · exact (reconnect_parts st _).mono fun _ _ parts => .parts (parts.opens world)
        · refine (scheduleStall_arms st.opts).bind ?_ ?_
          · intro _ between armed
            obtain ⟨due, rfl⟩ := armed
            exact ensures_pure.mpr (.connects rfl rfl rfl machine rfl fresh rfl
              (Course.check _ st due).opens)
          · intro fault between failed
            obtain ⟨rfl, rfl, overflow⟩ := failed
            exact .parts (.fails (Or.inl ⟨rfl, fun fits => fits.stall overflow⟩)
              ((Worked.refl _).course st).opens)
  · exact .parts (.fails (Or.inl ⟨rfl, fun fits => fits.connect overflow⟩)
      ((Worked.refl world).course st))

/-- Injected chunks carry the state on. -/
theorem injectChunks_carried (chunks : List Bytes) :
    ∀ (st : State core) (world : World core),
      (injectChunks chunks st).Ensures respond world (Carried st world) := by
  induction chunks with
  | nil => exact fun st world => ensures_pure.mpr ⟨.refl world, .refl st⟩
  | cons chunk chunks ih =>
    intro st world
    refine (processBytes_carried chunk st).bind ?_ (fun _ _ failed => failed)
    intro flow between carried
    obtain ⟨worked, carries⟩ := carried
    cases flow with
    | ok next =>
      refine (ih next between).mono fun outcome world' later => ?_
      cases outcome with
      | ok flow => exact ⟨worked.trans later.1, carries.trans later.2⟩
      | error fault => exact ⟨worked.trans later.1, later.2.of_carries carries⟩
    | reconnect next reason => exact ensures_pure.mpr ⟨worked, carries⟩
    | stop next reason => exact ensures_pure.mpr ⟨worked, carries⟩

/-- What is done with the flow of an injected exchange gives the connection up. -/
theorem streamTerminal_parts {st : State core} {world' : World core} (flow : Flow core)
    (worked : Worked world world') (carries : Carries st flow.state) :
    (streamTerminal .normal flow).Ensures respond world' (Parts st world) := by
  cases flow with
  | ok next =>
    exact (down_parts next .normal).mono fun _ _ parts => parts.of_carries worked carries
  | reconnect next reason =>
    exact (reconnect_parts next reason).mono fun _ _ parts => parts.of_carries worked carries
  | stop next reason =>
    exact (down_parts next reason).mono fun _ _ parts => parts.of_carries worked carries

/-- An injected exchange gives the connection up; it may crash on what it returns. -/
theorem runInjected_parts (request : Bytes) (st : State core)
    (injected : st.opts.transportFun = true) :
    (runInjected request st).Ensures respond world (Parts st world) := by
  refine ensures_bind.mpr (ensures_callTransport.mpr fun result clock later => ?_)
  have passed := Worked.later later
  have exchange : ∀ {bytes : Action core (Flow core)},
      bytes.Ensures respond { world with clock } (Carried st { world with clock }) →
        (bytes >>= streamTerminal .normal).Ensures respond { world with clock }
          (Parts st world) := by
    intro bytes carried
    refine carried.bind ?_ ?_
    · intro flow between carried
      exact streamTerminal_parts flow (passed.trans carried.1) carried.2
    · intro fault between carried
      exact .fails (Or.inr injected) ((passed.trans carried.1).course st)
  cases result with
  | chunks chunks => exact exchange (injectChunks_carried chunks st _)
  | body body => exact exchange (processBytes_carried body st)
  | failed reason =>
    exact (reconnect_parts st _).mono fun _ _ parts => parts.of_carries passed (.refl st)
  | other => exact ensures_crash.mpr (.fails (Or.inr injected) (passed.course st))

/-- Giving up with the machine of a configuration. -/
theorem Parts.of_machine {st : State core} {machine : core.Machine} {world' : World core}
    {outcome : Except Crash (Reply core)}
    (parts : Parts { st with machine := some machine } world outcome world') :
    Parts st world outcome world' := by
  have carries : Carries st { st with machine := some machine } :=
    ⟨rfl, rfl, rfl, rfl, rfl, fun _ => by simp⟩
  exact parts.of_carries (.refl world) carries

/-- `connect_stream` is an attempt. -/
theorem connectStream_attempts (st : State core) :
    (connectStream st).Ensures respond world (Attempts st world) := by
  have read : (config st.opts.host st.opts (rawVersion (st.opts.version.getD .auto)) :
      Action core _).Ensures respond world fun outcome world' => world' = world ∧
        ∀ fault, outcome = .error fault → fault = .arithmetic ∧ ¬ GgaFits st.opts := by
    refine (ggaIntervalS_spec st.opts).bind ?_ ?_
    · intro interval between read
      obtain ⟨rfl, _⟩ := read
      split
      · exact ensures_pure.mpr ⟨rfl, by rintro _ ⟨⟩⟩
      · exact ensures_pure.mpr ⟨rfl, by rintro _ ⟨⟩⟩
    · intro fault between failed
      obtain ⟨rfl, failed⟩ := failed
      exact ⟨rfl, by rintro _ ⟨⟩; exact failed⟩
  refine read.bind ?_ ?_
  · intro result between read
    obtain ⟨rfl, _⟩ := read
    cases result with
    | error reason => exact (down_parts st reason).mono fun _ _ parts => .parts parts
    | ok handle =>
      dsimp only
      unfold connectConfigured
      split
      · exact (down_parts st _).mono fun _ _ parts => .parts parts
      · dsimp only
        split
        · rename_i injected
          exact (runInjected_parts _ { st with machine := some (core.machineNew handle) }
            injected).mono fun _ _ parts => Attempts.parts parts.of_machine
        · refine (openSocket_attempts _ _ (by simp)).mono fun _ _ attempts => ?_
          cases attempts with
          | connects opts sink attempt machine live fresh closed course =>
            exact .connects opts sink attempt machine live fresh closed
              ⟨course.timers, course.reports, course.closed⟩
          | parts parts => exact .parts parts.of_machine
  · intro fault between read
    obtain ⟨rfl, failed⟩ := read
    obtain ⟨rfl, unfit⟩ := failed fault rfl
    exact .parts (.fails (.of_gga unfit) ((Worked.refl _).course st))

/-- The start of the process is an attempt, from a state without a socket. -/
theorem start_attempts (opts : Options) :
    (start opts : Action core _).Ensures respond world fun outcome world' =>
      ∃ refs st, st.opts = opts ∧ st.sink = opts.sink ∧ st.attempt = 0 ∧ st.socket = none ∧
        Attempts st { world with refs } outcome world' := by
  refine ensures_bind.mpr (ensures_bind.mpr (ensures_makeRef.mpr (ensures_bind.mpr
    (ensures_monotonicTime.mpr (ensures_pure.mpr ?_)))))
  exact (connectStream_attempts _).mono fun _ _ attempts => ⟨_, _, rfl, rfl, rfl, rfl, attempts⟩

end Connecting

/-- A message that `handle_info` has a clause for. -/
def Accepts (st : State core) : Message → Prop
  | .data transport socket _ => st.socket = some socket ∧ st.transport = some transport
  | .error .. => False
  | _ => True

/-- A callback without a clause for its message crashes and does nothing. -/
theorem refused {st : State core} {message : Message} {world world' : World core}
    {outcome : Except Crash (Reply core)} (refuses : ¬ Accepts st message)
    (handled : (handleInfo st message).Exec respond world outcome world') :
    outcome = .error .functionClause ∧ world' = world := by
  cases message with
  | data transport socket bytes =>
    have stale : ¬ (st.socket = some socket ∧ st.transport = some transport) := refuses
    simp only [handleInfo, if_neg stale] at handled
    exact handled
  | closed => exact absurd trivial refuses
  | error => exact handled
  | timer => exact absurd trivial refuses

/-- A status is that of a process that goes on only after a callback that goes on. -/
theorem Status.after_running {outcome : Except Crash (Reply core)} {st : State core}
    (running : (Status.after outcome : Status core) = .running st) :
    outcome = .ok (.noreply st) := by
  rcases outcome with _ | _ | _ <;> cases running
  rfl

/-- A connect of a stream: a message the process sends itself. -/
abbrev Message.connect : Message := .timer .connectAfterBackoff

/-- How the process handles a message it has a clause for. -/
theorem handleInfo_course {world : World core} (st : State core) (message : Message)
    (accepts : Accepts st message) :
    (handleInfo st message).Ensures respond world fun outcome world' =>
      (message = .connect ∧ Attempts st world outcome world') ∨
        (message ≠ .connect ∧ Handles st message world outcome world') := by
  have ignored : (pure (.noreply st) : Action core (Reply core)).Ensures respond world
      (Handles st message world) :=
    ensures_pure.mpr (.stays (.refl st) rfl ((Worked.refl world).course st))
  cases message with
  | data transport socket bytes =>
    obtain ⟨live, carried⟩ := accepts
    simp only [handleInfo, live, carried, and_self, ↓reduceIte]
    exact (handleData_handles st transport socket bytes (by simp [live])).mono
      fun _ _ handles => Or.inr ⟨by rintro ⟨⟩, handles⟩
  | closed transport socket =>
    simp only [handleInfo]
    split
    · rename_i current
      exact (socketClosed_parts st .streamEnded).mono fun _ _ parts =>
        Or.inr ⟨by rintro ⟨⟩, .parts (by simp [current.1]) parts⟩
    · exact ignored.mono fun _ _ handles => Or.inr ⟨by rintro ⟨⟩, handles⟩
  | error transport socket reason => cases accepts
  | timer message =>
    cases message with
    | stallCheck =>
      exact (stallCheck_handles st).mono fun _ _ handles => Or.inr ⟨by rintro ⟨⟩, handles⟩
    | connectAfterBackoff =>
      exact (connectStream_attempts st).mono fun _ _ attempts => Or.inl ⟨rfl, attempts⟩
    | ggaTick ref =>
      simp only [handleInfo]
      split
      · exact (ggaTick_handles st).mono fun _ _ handles => Or.inr ⟨by rintro ⟨⟩, handles⟩
      · exact ignored.mono fun _ _ handles => Or.inr ⟨by rintro ⟨⟩, handles⟩

end Sidereon.Ntrip
