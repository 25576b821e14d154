import Sidereon.Ntrip.Connection

/-!
# Stalls of a connection

A stall is meant to be a property of one connection: open, and silent for the timeout. The process
measures it from the time of its last bytes, which opening a socket does not renew. The two agree
unless a check comes early in the life of a connection that has delivered nothing yet, while the
bytes before it are old enough.
-/

namespace Sidereon.Ntrip

open Foundation

variable {core : Core}

/-- The step reports a reconnect or a down for a stall. -/
def BlamesStall (step : Taken (System core) Label) : Prop :=
  ∃ more report, step.after.world.reports = step.before.world.reports ++ more ∧
    report ∈ more ∧ report.Stalls

/-- The current connection has been open and has delivered no bytes for the stall timeout. -/
def Silent (opts : Options) (system : System core) : Prop :=
  ∃ st socket timeout, system.status = .running st ∧ st.socket = some socket ∧
    stallTimeout opts = some timeout ∧
    (∃ o ∈ system.world.opened, o.socket = socket ∧ o.openedAt + timeout ≤ system.world.clock) ∧
    ∀ r ∈ system.received, r.socket = socket → r.receivedAt + timeout ≤ system.world.clock

/-- A step blames a stall only on a connection that has been silent. -/
def BlamesSilence (opts : Options) (step : Taken (System core) Label) : Prop :=
  BlamesStall step → Silent opts step.before

/-- A stall check of a connection that has delivered nothing yet comes when the connection has been
open for the timeout, or while the time of the last bytes is less than the timeout ago. -/
def ChecksInTime (opts : Options) (step : Taken (System core) Label) : Prop :=
  step.label = .handle .stallCheck → ∀ st socket timeout,
    step.before.status = .running st → st.socket = some socket →
    stallTimeout opts = some timeout → (∀ r ∈ step.before.received, r.socket ≠ socket) →
    st.lastRx + timeout ≤ step.before.world.clock →
    ∀ o ∈ step.before.world.opened, o.socket = socket →
      o.openedAt + timeout ≤ step.before.world.clock

/-- What a quiet step reports blames no stall. -/
theorem Quiet.not_blames {step : Taken (System core) Label}
    (quiet : Quiet step.before.world step.after.world) : ¬ BlamesStall step := by
  rintro ⟨more, report, reports, member, stalls⟩
  obtain ⟨more', reports', plain⟩ := quiet
  rw [reports', List.append_cancel_left_eq] at reports
  exact plain report (reports ▸ member) stalls

/-- Every step that handles no stall check is quiet. -/
theorem quiet_step {opts : Options} {system system' : System core} {label : Label}
    (step : Step opts system label system') (other : label ≠ .handle .stallCheck) :
    Quiet system.world system'.world := by
  cases label with
  | start =>
    obtain ⟨_, outcome, world', started, rfl⟩ := step
    obtain ⟨refs, st, _, connects⟩ := start_spec opts outcome world' started
    obtain ⟨more, reports, quiet⟩ := connects.quiet
    exact ⟨more, reports, quiet⟩
  | tick clock =>
    obtain ⟨_, rfl⟩ := step
    exact .of_eq rfl
  | arrive message =>
    obtain ⟨_, rfl⟩ := step
    cases message <;> exact .of_eq rfl
  | fire timer =>
    obtain ⟨_, _, rfl⟩ := step
    exact .of_eq rfl
  | handle message =>
    obtain ⟨st, rest, outcome, world', _, _, handled, rfl⟩ := step
    exact (handleInfo_spec st message outcome world' handled).2 fun same => other (same ▸ rfl)

/-- Only a stall check blames a stall. -/
theorem BlamesStall.label {opts : Options} {step : Taken (System core) Label}
    (blames : BlamesStall step) (taken : Step opts step.before step.label step.after) :
    step.label = .handle .stallCheck := by
  by_contra other
  exact (quiet_step taken other).not_blames blames

/-- For one step from a linked state: it blames silence only, exactly when it checks in time. -/
theorem Linked.blamesSilence_iff {opts : Options} {step : Taken (System core) Label}
    (linked : Linked opts step.before) (taken : Step opts step.before step.label step.after) :
    BlamesSilence opts step ↔ ChecksInTime opts step := by
  constructor
  · intro silence isCheck st socket timeout running live found _ old o member same
    obtain ⟨sameOpts, _⟩ := linked.connection st running
    rw [isCheck] at taken
    obtain ⟨st', rest, outcome, world', running', _, handled, after⟩ := taken
    obtain rfl : st' = st := by
      rw [running] at running'
      exact (Status.running.inj running').symm
    obtain ⟨_, _, _, _, ⟨_, early⟩ | ⟨_, _, _, _, left⟩⟩ :=
      stallCheck_spec st' outcome world' handled
    · have fresh := early timeout (by simp [live]) (by rw [sameOpts, found])
      omega
    · obtain ⟨report, verdict, reports⟩ := left.verdict
      obtain ⟨st'', socket', timeout', running'', live', found', ⟨o', member', same', opened⟩, _⟩ :=
        silence ⟨[report], report, by rw [after, reports], List.mem_singleton_self _, _, verdict,
          trivial⟩
      rw [running] at running''
      obtain rfl := Status.running.inj running''
      rw [live, Option.some.injEq] at live'
      rw [found, Option.some.injEq] at found'
      obtain rfl := linked.unique member member' (by rw [same, same', live'])
      omega
  · intro inTime blames
    have isCheck := blames.label taken
    rw [isCheck] at taken
    obtain ⟨st, rest, outcome, world', running, _, handled, after⟩ := taken
    obtain ⟨sameOpts, connected⟩ := linked.connection st running
    obtain ⟨_, _, _, _, ⟨quiet, _⟩ | ⟨timeout, live, found, stalled, _⟩⟩ :=
      stallCheck_spec st outcome world' handled
    · exact absurd blames (Quiet.not_blames (by rw [after]; exact quiet))
    · obtain ⟨gone, _⟩ | ⟨o, member, socket, _⟩ := connected
      · exact absurd gone live
      · rw [sameOpts] at found
        refine ⟨st, o.socket, timeout, running, socket, found, ⟨o, member, rfl, ?_⟩, ?_⟩
        · by_cases any : ∃ r ∈ step.before.received, r.socket = o.socket
          · -- Bytes of this connection renewed the time of the last bytes after it was opened.
            obtain ⟨r, memberR, ofSocket⟩ := any
            obtain ⟨_, o', member', same, since⟩ := linked.received r memberR
            obtain rfl := linked.unique member' member (same.trans ofSocket)
            have renewed := linked.lastBytes st running r memberR (by rw [socket, ofSocket])
            omega
          · have nothing : ∀ r ∈ step.before.received, r.socket ≠ o.socket :=
              fun r memberR same => any ⟨r, memberR, same⟩
            exact inTime isCheck st o.socket timeout running socket found nothing (by omega) o
              member rfl
        · intro r memberR ofSocket
          have renewed := linked.lastBytes st running r memberR (by rw [socket, ofSocket])
          omega

/-- Over whole runs: every blamed stall is one of the current connection, exactly when every stall
check of a connection without bytes comes in time. -/
theorem stalls_per_connection_iff {opts : Options} {clock : Int}
    {steps : List (Taken (System core) Label)} {last : System core}
    (run : Run (Step opts) (System.initial core clock) steps last) :
    (∀ step ∈ steps, BlamesSilence opts step) ↔ ∀ step ∈ steps, ChecksInTime opts step := by
  have each := linked_taken run
  constructor
  · intro silence step member
    exact ((each step member).1.blamesSilence_iff (each step member).2).mp (silence step member)
  · intro inTime step member
    exact ((each step member).1.blamesSilence_iff (each step member).2).mpr (inTime step member)

/-- A glance at a step that checks in time: it is no check, or every socket has been open for the
timeout. -/
theorem checksInTime_of_glance {opts : Options} {step : Taken (System core) Label} {timeout : Int}
    (found : stallTimeout opts = some timeout)
    (seen : (glance step).label = .handle .stallCheck →
      ∀ o ∈ (glance step).opened, o.openedAt + timeout ≤ (glance step).clock) :
    ChecksInTime opts step := by
  intro check st socket timeout' _ _ found' _ _ o member _
  rw [found, Option.some.injEq] at found'
  rw [← found']
  exact seen check o member

/-- A connection silent for the timeout is blamed, and rightly. -/
theorem stalls_per_connection_silent :
    ∃ steps last, Run (Step (casterOptions none)) (System.initial idleCore 0) steps last ∧
      steps.length = 4 ∧ ∀ step ∈ steps, BlamesSilence (casterOptions none) step := by
  have glances : ((playAll (casterOptions none) (System.initial idleCore 0)
      [.start, .tick 30000, .fire ⟨.stallCheck, 1000⟩, .handle .stallCheck]).map
        fun run => run.1.map glance) = some
        [⟨.start, 0, [], [], none⟩,
          ⟨.tick 30000, 0, [⟨⟨0⟩, .genTcp, 0⟩], [], some (some ⟨0⟩, 0, 0)⟩,
          ⟨.fire ⟨.stallCheck, 1000⟩, 30000, [⟨⟨0⟩, .genTcp, 0⟩], [], some (some ⟨0⟩, 0, 0)⟩,
          ⟨.handle .stallCheck, 30000, [⟨⟨0⟩, .genTcp, 0⟩], [], some (some ⟨0⟩, 0, 0)⟩] := by
    decide +kernel
  obtain ⟨⟨steps, last⟩, played, seen⟩ := Option.map_eq_some_iff.mp glances
  have run := run_playAll _ .nil played
  rw [List.nil_append] at run
  refine ⟨steps, last, run, ?_, (stalls_per_connection_iff run).mpr fun step member => ?_⟩
  · have count := congrArg List.length seen
    rwa [List.length_map] at count
  · have timeout : stallTimeout (casterOptions none) = some 30000 := by decide +kernel
    have shown := List.mem_map_of_mem (f := glance) member
    rw [seen] at shown
    refine checksInTime_of_glance timeout ?_
    generalize glance step = glanced at shown
    revert glanced
    decide

/-- After a backoff of forty seconds, the first check of the new connection blames it within its
first second. -/
theorem stalls_per_connection_fails :
    ¬ ∀ (opts : Options) (clock : Int) (steps : List (Taken (System idleCore) Label))
      (last : System idleCore), Run (Step opts) (System.initial idleCore clock) steps last →
        ∀ step ∈ steps, BlamesSilence opts step := by
  intro silence
  have seen : ((playAll (casterOptions (some longBackoff)) (System.initial idleCore 0)
      [.start, .arrive (.closed .genTcp ⟨0⟩), .handle (.closed .genTcp ⟨0⟩),
        .tick 1000, .fire ⟨.stallCheck, 1000⟩, .handle .stallCheck,
        .tick 40000, .fire ⟨.connectAfterBackoff, 40000⟩, .handle (.timer .connectAfterBackoff),
        .tick 41000, .fire ⟨.stallCheck, 41000⟩, .handle .stallCheck]).bind
        fun run => run.1.getLast?.map glance) = some
        ⟨.handle .stallCheck, 41000, [⟨⟨1⟩, .genTcp, 40000⟩, ⟨⟨0⟩, .genTcp, 0⟩], [],
          some (some ⟨1⟩, 0, 1)⟩ := by
    decide +kernel
  obtain ⟨⟨steps, last⟩, played, latest⟩ := Option.bind_eq_some_iff.mp seen
  obtain ⟨step, isLast, shown⟩ := Option.map_eq_some_iff.mp latest
  have member := List.mem_of_getLast? isLast
  have run := run_playAll _ .nil played
  rw [List.nil_append] at run
  obtain ⟨linked, taken⟩ := linked_taken run step member
  have inTime := (linked.blamesSilence_iff taken).mp (silence _ _ _ _ run step member)
  have label : step.label = .handle .stallCheck := congrArg Glance.label shown
  have clock : step.before.world.clock = 41000 := congrArg Glance.clock shown
  have opened : step.before.world.opened = [⟨⟨1⟩, .genTcp, 40000⟩, ⟨⟨0⟩, .genTcp, 0⟩] :=
    congrArg Glance.opened shown
  have received : step.before.received = [] := congrArg Glance.received shown
  obtain ⟨st, running, socket, lastRx, _⟩ := running_of_glance (congrArg Glance.running shown)
  have early := inTime label st ⟨1⟩ 30000 running socket (by decide +kernel)
    (by simp [received]) (by omega) ⟨⟨1⟩, .genTcp, 40000⟩ (by simp [opened]) rfl
  rw [clock] at early
  exact absurd early (by decide)

end Sidereon.Ntrip
