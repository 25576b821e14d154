import Sidereon.Ntrip.Connection

/-!
# Messages of earlier sockets

What is queued when a socket is closed is handled after the reconnect. A close message of an earlier
socket falls through to a clause of its own. A data message of an earlier socket, and an error
message of any socket, match no clause, and the process crashes on them.
-/

namespace Sidereon.Ntrip

open Foundation Foundation.Program

variable {core : Core}

/-- A handled message matches a clause; of an earlier socket it changes and reports nothing; the
close or the error of the current socket leads to a reconnect or a down. -/
structure StaleSafe (step : Taken (System core) Label) (message : Message) (st : State core) :
    Prop where
  matched : step.after.status ≠ .crashed .functionClause
  earlier : ∀ socket transport, message.socket? = some (socket, transport) →
    st.socket ≠ some socket →
      step.after.status = .running st ∧ step.after.world.reports = step.before.world.reports
  current : ∀ socket transport, message.socket? = some (socket, transport) →
    st.socket = some socket → ¬ message.isData →
      step.after.status = .stopped ∨ ∃ st', step.after.status = .running st' ∧
        st'.socket = none ∧ st'.attempt = st.attempt + 1 ∧
        ∃ due, (⟨.connectAfterBackoff, due⟩ : Timer) ∈ step.after.world.timers

/-- Every message a step handles is handled safely. -/
def HandlesSafely (step : Taken (System core) Label) : Prop :=
  ∀ message st, step.label = .handle message → step.before.status = .running st →
    StaleSafe step message st

/-- A message the clauses provide for: no error message, data of the current socket only, and a
close of the current socket only while its times are in range. -/
structure ProvidedFor (message : Message) (st : State core) : Prop where
  noError : ∀ transport socket reason, message ≠ .error transport socket reason
  data : ∀ transport socket bytes, message = .data transport socket bytes →
    st.socket = some socket
  closed : ∀ transport socket, message = .closed transport socket → st.socket = some socket →
    BackoffFits core st.opts st.attempt ∧ GgaFits st.opts

/-- Every message a step handles is provided for. -/
def HandlesProvided (step : Taken (System core) Label) : Prop :=
  ∀ message st, step.label = .handle message → step.before.status = .running st →
    ProvidedFor message st

/-- A queued message of the current socket carries the transport of the state. -/
theorem Linked.transport {opts : Options} {system : System core} (linked : Linked opts system)
    {st : State core} {message : Message} {socket : Socket} {transport : Transport}
    (running : system.status = .running st) (queued : message ∈ system.mailbox)
    (ofSocket : message.socket? = some (socket, transport)) (current : st.socket = some socket) :
    st.transport = some transport := by
  obtain ⟨_, gone | ⟨o, member, live, carries⟩⟩ := linked.connection st running
  · rw [gone.1] at current
    cases current
  · obtain ⟨o', member', same, sameTransport⟩ :=
      linked.arrived message queued socket transport ofSocket
    rw [live, Option.some.injEq] at current
    obtain rfl := linked.unique member member' (current.trans same.symm)
    rw [carries, sameTransport]

/-- A status is the crash of an outcome that is that crash. -/
theorem Status.after_ne_crashed {outcome : Except Crash (Reply core)}
    (matched : outcome ≠ .error .functionClause) :
    (Status.after outcome : Status core) ≠ .crashed .functionClause := by
  intro crashed
  rcases outcome with fault | _ | _ <;> cases crashed
  exact matched rfl

/-- A handled timer message matches a clause. -/
theorem handleInfo_timer {world : World core} (st : State core) (message : TimerMessage) :
    (handleInfo st (.timer message)).Ensures respond world fun outcome _ =>
      outcome ≠ .error .functionClause := by
  cases message with
  | stallCheck => exact (stallCheck_spec st).mono fun _ _ ensured => ensured.1
  | connectAfterBackoff => exact (connectStream_spec st).mono fun _ _ connects => connects.matched
  | ggaTick ref =>
    simp only [handleInfo]
    split
    · exact (ggaTick_spec st).mono fun _ _ answered => answered.matched
    · exact ensures_pure.mpr (by rintro ⟨⟩)

/-- A message that is provided for is handled safely. -/
theorem Linked.handlesSafely {opts : Options} {step : Taken (System core) Label}
    (linked : Linked opts step.before) (taken : Step opts step.before step.label step.after)
    (provided : HandlesProvided step) : HandlesSafely step := by
  intro message st label running
  have provided := provided message st label running
  rw [label] at taken
  obtain ⟨st', rest, outcome, world', running', queued, handled, after⟩ := taken
  obtain rfl : st' = st := by
    rw [running] at running'
    exact (Status.running.inj running').symm
  have inMailbox : message ∈ step.before.mailbox := by
    rw [queued]
    exact List.mem_cons_self
  have status : step.after.status = .after outcome := by rw [after]
  have world : step.after.world = world' := by rw [after]
  cases message with
  | error transport socket reason => exact absurd rfl (provided.noError transport socket reason)
  | timer message =>
    refine ⟨?_, by rintro _ _ ⟨⟩, by rintro _ _ ⟨⟩⟩
    rw [status]
    exact Status.after_ne_crashed (handleInfo_timer st' message outcome world' handled)
  | data transport socket bytes =>
    have live := provided.data transport socket bytes rfl
    have carried := linked.transport running inMailbox rfl live
    simp only [handleInfo, live, carried, and_self, ↓reduceIte] at handled
    obtain ⟨active, answered⟩ :=
      handleData_spec st' transport socket bytes outcome world' handled
    refine ⟨?_, ?_, fun _ _ _ _ notData => absurd rfl notData⟩
    · rw [status]
      exact Status.after_ne_crashed answered.matched
    · rintro socket' transport' ⟨⟩ other
      exact absurd live other
  | closed transport socket =>
    by_cases live : st'.socket = some socket
    · have carried := linked.transport running inMailbox rfl live
      obtain ⟨backoff, gga⟩ := provided.closed transport socket rfl live
      simp only [handleInfo, live, carried, and_self, ↓reduceIte] at handled
      obtain ⟨answered, given⟩ := socketClosed_spec st' .streamEnded id outcome world' handled
      refine ⟨?_, ?_, ?_⟩
      · rw [status]
        exact Status.after_ne_crashed answered.matched
      · rintro socket' transport' ⟨⟩ other
        exact absurd live other
      · intro _ _ _ _ _
        rw [status, world]
        rcases outcome with fault | next | next
        · rcases given.2 with unfit | unfit
          · exact absurd backoff unfit
          · exact absurd gga unfit
        · exact Or.inr ⟨next, rfl, given⟩
        · exact Or.inl rfl
    · have stale : ¬ (st'.socket = some socket ∧ st'.transport = some transport) :=
        fun current => live current.1
      simp only [handleInfo, if_neg stale] at handled
      obtain ⟨rfl, rfl⟩ := handled
      refine ⟨?_, ?_, ?_⟩
      · rw [status]
        exact Status.after_ne_crashed (by rintro ⟨⟩)
      · intro _ _ _ _
        exact ⟨status, by rw [world]⟩
      · rintro socket' transport' ⟨⟩ current
        exact absurd current live

/-- An error message, and data of an earlier socket, is never handled safely. -/
theorem StaleSafe.provided {opts : Options} {step : Taken (System core) Label}
    {message : Message} {st : State core} (taken : Step opts step.before step.label step.after)
    (label : step.label = .handle message) (running : step.before.status = .running st)
    (safe : StaleSafe step message st) :
    (∀ transport socket reason, message ≠ .error transport socket reason) ∧
      ∀ transport socket bytes, message = .data transport socket bytes →
        st.socket = some socket := by
  rw [label] at taken
  obtain ⟨st', rest, outcome, world', running', queued, handled, after⟩ := taken
  obtain rfl : st' = st := by
    rw [running] at running'
    exact (Status.running.inj running').symm
  have status : step.after.status = .after outcome := by rw [after]
  constructor
  · rintro transport socket reason rfl
    obtain ⟨rfl, _⟩ := handled
    exact safe.matched status
  · rintro transport socket bytes rfl
    by_contra stale
    have other : ¬ (st'.socket = some socket ∧ st'.transport = some transport) :=
      fun current => stale current.1
    simp only [handleInfo, if_neg other] at handled
    obtain ⟨rfl, _⟩ := handled
    exact safe.matched status

/-- Over whole runs: when every message a run handles is provided for, every one is handled safely;
and no run that handles every message safely handles an error message or data of an earlier
socket. -/
theorem stale_messages_safe {opts : Options} {clock : Int}
    {steps : List (Taken (System core) Label)} {last : System core}
    (run : Run (Step opts) (System.initial core clock) steps last) :
    ((∀ step ∈ steps, HandlesProvided step) → ∀ step ∈ steps, HandlesSafely step) ∧
      ((∀ step ∈ steps, HandlesSafely step) → ∀ step ∈ steps, ∀ message st,
        step.label = .handle message → step.before.status = .running st →
          (∀ transport socket reason, message ≠ .error transport socket reason) ∧
            ∀ transport socket bytes, message = .data transport socket bytes →
              st.socket = some socket) := by
  have each := linked_taken run
  constructor
  · intro provided step member
    exact (each step member).1.handlesSafely (each step member).2 (provided step member)
  · intro safe step member message st label running
    exact (safe step member message st label running).provided (each step member).2 label running

/-- Two close messages of one socket: the first leads to a reconnect, the second falls through. -/
theorem stale_messages_closed :
    ∃ steps last, Run (Step (casterOptions none)) (System.initial idleCore 0) steps last ∧
      steps.length = 5 ∧ ∀ step ∈ steps, HandlesSafely step := by
  have glances : ((playAll (casterOptions none) (System.initial idleCore 0)
      [.start, .arrive (.closed .genTcp ⟨0⟩), .arrive (.closed .genTcp ⟨0⟩),
        .handle (.closed .genTcp ⟨0⟩), .handle (.closed .genTcp ⟨0⟩)]).map
        fun run => run.1.map glance) = some
        [⟨.start, 0, [], [], none⟩,
          ⟨.arrive (.closed .genTcp ⟨0⟩), 0, [⟨⟨0⟩, .genTcp, 0⟩], [], some (some ⟨0⟩, 0, 0)⟩,
          ⟨.arrive (.closed .genTcp ⟨0⟩), 0, [⟨⟨0⟩, .genTcp, 0⟩], [], some (some ⟨0⟩, 0, 0)⟩,
          ⟨.handle (.closed .genTcp ⟨0⟩), 0, [⟨⟨0⟩, .genTcp, 0⟩], [], some (some ⟨0⟩, 0, 0)⟩,
          ⟨.handle (.closed .genTcp ⟨0⟩), 0, [⟨⟨0⟩, .genTcp, 0⟩], [], some (none, 0, 1)⟩] := by
    decide +kernel
  obtain ⟨⟨steps, last⟩, played, seen⟩ := Option.map_eq_some_iff.mp glances
  have run := run_playAll _ .nil played
  rw [List.nil_append] at run
  refine ⟨steps, last, run, ?_, (stale_messages_safe run).1 fun step member => ?_⟩
  · have count := congrArg List.length seen
    rwa [List.length_map] at count
  · intro message st label running
    obtain ⟨linked, _⟩ := linked_taken run step member
    have opts := (linked.connection st running).1
    have shown := List.mem_map_of_mem (f := glance) member
    rw [seen] at shown
    have handled : (glance step).label = .handle message := label
    have attempt : (glance step).running = some (st.socket, st.lastRx, st.attempt) := by
      simp only [glance, running]
    generalize glance step = glanced at shown handled attempt
    have closes : message = .closed .genTcp ⟨0⟩ ∧ st.attempt ≤ 1 := by
      simp only [List.mem_cons, List.not_mem_nil, or_false] at shown
      rcases shown with rfl | rfl | rfl | rfl | rfl <;> cases handled <;>
        simp only [Option.some.injEq, Prod.mk.injEq] at attempt <;>
        exact ⟨rfl, by omega⟩
    obtain ⟨rfl, few⟩ := closes
    refine ⟨by rintro _ _ _ ⟨⟩, by rintro _ _ _ ⟨⟩, fun _ _ _ _ => ?_⟩
    rw [opts]
    refine ⟨Or.inr ?_, trivial⟩
    have fits : ∀ attempt ≤ 1,
        backoffMs idleCore.pow (casterOptions none) (attempt + 1) ≠ none := by
      decide +kernel
    exact fits st.attempt few

/-- Data queued behind the stall check that replaces its socket crashes the process. -/
theorem stale_messages_fail :
    ¬ ∀ (opts : Options) (clock : Int) (steps : List (Taken (System idleCore) Label))
      (last : System idleCore), Run (Step opts) (System.initial idleCore clock) steps last →
        ∀ step ∈ steps, HandlesSafely step := by
  intro safe
  have seen : ((playAll (casterOptions none) (System.initial idleCore 0)
      [.start, .tick 30000, .fire ⟨.stallCheck, 1000⟩, .arrive (.data .genTcp ⟨0⟩ [0]),
        .handle (.timer .stallCheck), .handle (.data .genTcp ⟨0⟩ [0])]).bind
        fun run => run.1.getLast?.map glance) = some
        ⟨.handle (.data .genTcp ⟨0⟩ [0]), 30000, [⟨⟨0⟩, .genTcp, 0⟩], [], some (none, 0, 1)⟩ := by
    decide +kernel
  obtain ⟨⟨steps, last⟩, played, latest⟩ := Option.bind_eq_some_iff.mp seen
  obtain ⟨step, isLast, shown⟩ := Option.map_eq_some_iff.mp latest
  have member := List.mem_of_getLast? isLast
  have run := run_playAll _ .nil played
  rw [List.nil_append] at run
  obtain ⟨_, taken⟩ := linked_taken run step member
  have label : step.label = .handle (.data .genTcp ⟨0⟩ [0]) := congrArg Glance.label shown
  obtain ⟨st, running, socket, _⟩ := running_of_glance (congrArg Glance.running shown)
  have provided := (safe _ _ _ _ run step member _ st label running).provided taken label running
  have live := provided.2 _ _ _ rfl
  rw [socket] at live
  cases live

end Sidereon.Ntrip
