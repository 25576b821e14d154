import Sidereon.Ntrip.Pending

/-!
# Stall checks over whole runs

A stall check that finds a live socket arms the next one, and every connection that is made arms
one. A chain ends only when a check comes while no socket is live, so a connection made before that
starts a second chain.
-/

namespace Sidereon.Ntrip

open Foundation
open Foundation.Beam (double)

variable {core : Core}

/-- At most one stall check is armed or queued after the step. -/
def OneStallCheck (step : Taken (System core) Label) : Prop :=
  step.after.pending .stallCheck ≤ 1

/-- If the step connects, no stall check is armed or queued before it. -/
def ConnectsUnchecked (step : Taken (System core) Label) : Prop :=
  step.label = .handle .connect → ∀ st socket, step.after.status = .running st →
    st.socket = some socket → step.before.pending .stallCheck = 0

/-- A callback that gives the connection up arms no stall check. -/
theorem Parts.checks {st : State core} {world world' : World core}
    {outcome : Except Crash (Reply core)} (parts : Parts st world outcome world') :
    ∃ armed verdict, Course st armed verdict world world' ∧ armed.count .stallCheck = 0 ∧
      ∀ st', outcome = .ok (.noreply st') → st'.socket = none := by
  cases parts with
  | retries _ _ _ socket _ course =>
    exact ⟨_, _, course, rfl, by rintro _ ⟨⟩; exact socket⟩
  | stops course => exact ⟨_, _, course, rfl, by rintro _ ⟨⟩⟩
  | fails _ course => exact ⟨_, _, course, rfl, by rintro _ ⟨⟩⟩

/-- A handled message that does not connect adds no stall check. -/
theorem Handles.checks_le {system : System core} {st : State core} {message : Message}
    {rest : List Message} {outcome : Except Crash (Reply core)} {world' : World core}
    {status : Status core} {received : List Received} (queued : system.mailbox = message :: rest)
    (handles : Handles st message system.world outcome world') :
    System.pending ⟨status, rest, world', received⟩ .stallCheck ≤ system.pending .stallCheck := by
  cases handles with
  | stays _ _ course =>
    have counts := course.pending queued status received .stallCheck rfl
    simp only [List.count_nil] at counts
    omega
  | checks isCheck _ _ course =>
    have counts := course.pending queued status received .stallCheck rfl
    have used : [message].count (.timer .stallCheck) = 1 := by rw [isCheck]; rfl
    have renewed : [TimerMessage.stallCheck].count .stallCheck = 1 := rfl
    omega
  | parts _ parts =>
    obtain ⟨armed, verdict, course, none, _⟩ := parts.checks
    have counts := course.pending queued status received .stallCheck rfl
    omega
  | fails _ course | lost _ _ course =>
    have counts := course.pending queued status received .stallCheck rfl
    simp only [List.count_nil] at counts
    omega

/-- An attempt to connect adds a stall check exactly when it leaves a live socket. -/
theorem Attempts.checks {system : System core} {st : State core} {rest : List Message}
    {outcome : Except Crash (Reply core)} {world' : World core}
    (attempts : Attempts st system.world outcome world') (received : List Received)
    (queued : system.mailbox = .connect :: rest) :
    System.pending ⟨.after outcome, rest, world', received⟩ .stallCheck =
      system.pending .stallCheck + 1 ∧
        (∃ st' socket, outcome = .ok (.noreply st') ∧ st'.socket = some socket) ∨
    System.pending ⟨.after outcome, rest, world', received⟩ .stallCheck =
      system.pending .stallCheck ∧
        ∀ st', outcome = .ok (.noreply st') → st'.socket = none := by
  have unused : [Message.connect].count (.timer .stallCheck) = 0 := rfl
  cases attempts with
  | @connects st' _ socket _ _ _ _ live _ _ course =>
    have counts := course.pending queued (.after (.ok (.noreply st'))) received .stallCheck rfl
    have one : [TimerMessage.stallCheck].count .stallCheck = 1 := rfl
    exact Or.inl ⟨by omega, st', socket, rfl, live⟩
  | parts parts =>
    obtain ⟨armed, verdict, course, none, gone⟩ := parts.checks
    have counts := course.pending queued (.after outcome) received .stallCheck rfl
    exact Or.inr ⟨by omega, gone⟩

/-- An attempt to connect arms at most one stall check. -/
theorem Attempts.armed_le {st : State core} {world world' : World core}
    {outcome : Except Crash (Reply core)} (attempts : Attempts st world outcome world') :
    world'.armed .stallCheck ≤ world.armed .stallCheck + 1 := by
  cases attempts with
  | connects _ _ _ _ _ _ _ course => exact (course.armed .stallCheck rfl).le
  | parts parts =>
    obtain ⟨armed, verdict, course, none, _⟩ := parts.checks
    have counts := course.armed .stallCheck rfl
    omega

/-- A message without a clause leaves the pending messages alone. -/
theorem pending_refused {system : System core} {message : Message} {rest : List Message}
    {status : Status core} {received : List Received} (queued : system.mailbox = message :: rest)
    (timer : TimerMessage) :
    System.pending ⟨status, rest, system.world, received⟩ timer ≤ system.pending timer := by
  simp only [System.pending, queued, List.count_cons]
  omega

/-- One step: with at most one stall check before, there is at most one after it exactly when it
connects unchecked. -/
theorem oneStallCheck_iff {opts : Options} {step : Taken (System core) Label}
    (taken : Step opts step.before step.label step.after)
    (fresh : step.before.status = .starting → step.before.pending .stallCheck = 0)
    (before : step.before.pending .stallCheck ≤ 1) :
    OneStallCheck step ↔ ConnectsUnchecked step := by
  obtain ⟨system, label, system'⟩ := step
  simp only at taken fresh before
  have trivially : label ≠ .handle .connect → system'.pending .stallCheck ≤ 1 →
      (OneStallCheck ⟨system, label, system'⟩ ↔ ConnectsUnchecked ⟨system, label, system'⟩) :=
    fun other few => iff_of_true few fun connects => absurd connects other
  cases label with
  | start =>
    refine trivially (by rintro ⟨⟩) ?_
    obtain ⟨starting, outcome, world', started, rfl⟩ := taken
    obtain ⟨refs, st, _, _, _, _, attempts⟩ := start_attempts opts outcome world' started
    have none : system.world.armed .stallCheck + system.mailbox.count (.timer .stallCheck) = 0 :=
      fresh starting
    have armed : world'.armed .stallCheck ≤ system.world.armed .stallCheck + 1 := attempts.armed_le
    simp only [System.pending]
    omega
  | tick clock =>
    refine trivially (by rintro ⟨⟩) ?_
    rw [(Step.idle taken (by rintro ⟨⟩) (by rintro _ ⟨⟩)).pending]
    exact before
  | arrive message =>
    refine trivially (by rintro ⟨⟩) ?_
    rw [(Step.idle taken (by rintro ⟨⟩) (by rintro _ ⟨⟩)).pending]
    exact before
  | fire timer =>
    refine trivially (by rintro ⟨⟩) ?_
    rw [(Step.idle taken (by rintro ⟨⟩) (by rintro _ ⟨⟩)).pending]
    exact before
  | handle message =>
    obtain ⟨st, rest, outcome, world', running, queued, handled, rfl⟩ := taken
    by_cases accepts : Accepts st message
    · rcases handleInfo_course st message accepts outcome world' handled with
        ⟨rfl, attempts⟩ | ⟨other, handles⟩
      · rcases attempts.checks (system.handed .connect) queued with
          ⟨counts, st', socket, rfl, live⟩ | ⟨counts, gone⟩
        · constructor
          · intro few _ _ _ _ _
            have few : _ ≤ 1 := few
            simp only at few ⊢
            omega
          · intro unchecked
            have none : system.pending .stallCheck = 0 := unchecked rfl st' socket rfl live
            simp only [OneStallCheck, counts, none, Nat.zero_add, Nat.le_refl]
        · refine iff_of_true (by simpa only [OneStallCheck, counts] using before) ?_
          intro _ st' socket running' live
          rw [gone st' (Status.after_running running')] at live
          cases live
      · refine trivially (by simpa using other) ?_
        exact Nat.le_trans (handles.checks_le queued) before
    · obtain ⟨rfl, rfl⟩ := refused accepts handled
      refine trivially ?_ (Nat.le_trans (pending_refused queued .stallCheck) before)
      rintro ⟨⟩
      exact accepts trivial

/-- Over whole runs: there is never more than one stall check, exactly when every connection is made
while there is none. -/
theorem stall_checks_single_iff {opts : Options} {clock : Int}
    {steps : List (Taken (System core) Label)} {last : System core}
    (run : Run (Step opts) (System.initial core clock) steps last) :
    (∀ step ∈ steps, OneStallCheck step) ↔ ∀ step ∈ steps, ConnectsUnchecked step := by
  induction run with
  | nil => simp
  | @snoc steps system system' label run step ih =>
    rw [List.forall_mem_append, List.forall_mem_append, List.forall_mem_singleton,
      List.forall_mem_singleton, ← ih]
    refine and_congr_right fun single => oneStallCheck_iff step ?_ ?_
    · exact fun starting => pending_starting run starting .stallCheck
    · -- The state before is the start, or the state after an earlier step.
      rcases run.ends with rfl | ⟨earlier, member, rfl⟩
      · exact Nat.zero_le 1
      · exact single earlier member

/-- The stall checks before and after a step, with its label. -/
def checkGlance (step : Taken (System core) Label) : Label × Nat × Nat :=
  (step.label, step.before.pending .stallCheck, step.after.pending .stallCheck)

/-- After a backoff of a second the first check has come and found no socket. -/
theorem stall_checks_single_backoff :
    ∃ steps last, Run (Step (casterOptions none)) (System.initial idleCore 0) steps last ∧
      steps.length = 8 ∧ ∀ step ∈ steps, OneStallCheck step := by
  have glances : ((playAll (casterOptions none) (System.initial idleCore 0)
      [.start, .arrive (.closed .genTcp ⟨0⟩), .handle (.closed .genTcp ⟨0⟩), .tick 1000,
        .fire ⟨.stallCheck, 1000⟩, .handle .stallCheck,
        .fire ⟨.connectAfterBackoff, 1000⟩, .handle .connect]).map
        fun run => run.1.map checkGlance) = some
        [(.start, 0, 1), (.arrive (.closed .genTcp ⟨0⟩), 1, 1),
          (.handle (.closed .genTcp ⟨0⟩), 1, 1), (.tick 1000, 1, 1),
          (.fire ⟨.stallCheck, 1000⟩, 1, 1), (.handle .stallCheck, 1, 0),
          (.fire ⟨.connectAfterBackoff, 1000⟩, 0, 0), (.handle .connect, 0, 1)] := by
    decide +kernel
  obtain ⟨⟨steps, last⟩, played, seen⟩ := Option.map_eq_some_iff.mp glances
  have run := run_playAll _ .nil played
  rw [List.nil_append] at run
  refine ⟨steps, last, run, ?_, (stall_checks_single_iff run).mpr fun step member => ?_⟩
  · have count := congrArg List.length seen
    rwa [List.length_map] at count
  · intro connects st socket _ _
    have shown := List.mem_map_of_mem (f := checkGlance) member
    have label : (checkGlance step).1 = .handle .connect := connects
    change (checkGlance step).2.1 = 0
    rw [seen] at shown
    generalize checkGlance step = glanced at shown label
    revert glanced
    decide

/-- After a backoff of half a second the first check is still armed when the second is. -/
theorem stall_checks_single_fails :
    ¬ ∀ (opts : Options) (clock : Int) (steps : List (Taken (System idleCore) Label))
      (last : System idleCore), Run (Step opts) (System.initial idleCore clock) steps last →
        ∀ step ∈ steps, OneStallCheck step := by
  intro single
  have seen : ((playAll (casterOptions (some (double 0.5))) (System.initial idleCore 0)
      [.start, .arrive (.closed .genTcp ⟨0⟩), .handle (.closed .genTcp ⟨0⟩), .tick 500,
        .fire ⟨.connectAfterBackoff, 500⟩, .handle .connect]).bind
        fun run => run.1.getLast?.map checkGlance) = some (.handle .connect, 1, 2) := by
    decide +kernel
  obtain ⟨⟨steps, last⟩, played, latest⟩ := Option.bind_eq_some_iff.mp seen
  obtain ⟨step, isLast, shown⟩ := Option.map_eq_some_iff.mp latest
  have run := run_playAll _ .nil played
  rw [List.nil_append] at run
  have one := single _ _ _ _ run step (List.mem_of_getLast? isLast)
  have two : step.after.pending .stallCheck = 2 := congrArg (fun glance => glance.2.2) shown
  rw [OneStallCheck, two] at one
  exact absurd one (by decide)

end Sidereon.Ntrip
