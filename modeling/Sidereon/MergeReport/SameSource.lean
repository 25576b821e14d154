import Sidereon.MergeReport.Continuity
import Sidereon.MergeReport.Rejections

/-!
# Selections that are stated more than once

The flags of a single source, the provenance and the continuity report each state how a cell was
selected. A flag is compared with the counts of its cell, so its entry has one member; which member is
not compared, and the cells of violations are compared with no entry.
-/

namespace Sidereon.MergeReport

open Foundation Sidereon.Distribution
open MergePolicy (Double Policy OrbitClass)

section Statements

variable {n : Nat}

/-- What a selection states: its kind, its one source and its members. -/
def Selection.facts (selection : Selection n) :
    SelectionKind × Option (Fin n) × List (Fin n) :=
  (selection.kind, selection.selected, selection.members)

/-- A number of seconds from J2000 is that of an epoch. -/
def Split.IsSeconds (epoch : Split) (seconds : Double) : Prop :=
  (epoch.whole.exact_ + epoch.fraction.exact_ - 2451545) * 86400 = seconds.exact_

instance : DecidableRel Split.IsSeconds := fun _ seconds =>
  inferInstanceAs (Decidable (_ = seconds.exact_))

/-- An entry of provenance is that of a flagged cell. -/
def Cell.IsFlagged (cell : Cell n) (flag : Flag n) : Prop :=
  cell.satellite = flag.satellite ∧ cell.epoch.key = flag.epoch.key

-- The epochs that are stated as seconds from J2000.
variable (atSeconds : Split → Double → Prop)

namespace Reading

variable (reading : Reading n) (violations : List (Violation n))

/-- The source of each flag of a single source is the one that the entry of its cell has selected, for
the position or, without one, for the clock. -/
def FlagsSelected : Prop :=
  ∀ flag ∈ reading.flags.singleSource, ∃ cell ∈ reading.cells, cell.IsFlagged flag ∧
    ∃ source, flag.sources.indices = [source] ∧ cell.current.selected = some source

instance : Decidable reading.FlagsSelected := by
  unfold FlagsSelected Cell.IsFlagged
  infer_instance

/-- Each cell of a violation at the epoch of an entry of its satellite states the selection of the
entry's position. -/
def CellsRestated : Prop :=
  ∀ violation ∈ violations, ∀ cell ∈ violation.cells, ∀ entry ∈ reading.cells,
    entry.satellite = violation.satellite → atSeconds entry.epoch cell.epoch →
      cell.selection.map Selection.facts = entry.position.map Selection.facts

instance [DecidableRel atSeconds] : Decidable (reading.CellsRestated atSeconds violations) := by
  unfold CellsRestated
  infer_instance

/-- Flags, provenance and violations state one selection of each cell. -/
def OneSelection : Prop :=
  reading.FlagsSelected ∧ reading.CellsRestated atSeconds violations

/-- Two selections are of one kind, with the same members and, where one is picked by precedence, the
same pick. -/
def SameChoice (selection other : Selection n) : Prop :=
  selection.kind = other.kind ∧ selection.members = other.members ∧
    (selection.kind = .precedence → selection.selected = other.selected)

/-- No flagged cell has a combined value, and each flagged source is a member of its cell; and the
cells of violations have the choices of the entries at their epochs. -/
structure Chosen : Prop where
  flags : ∀ flag ∈ reading.flags.singleSource, ∀ cell ∈ reading.cells, cell.IsFlagged flag →
    cell.current.kind ≠ .combined ∧
      ∀ source ∈ flag.sources.indices, source ∈ cell.current.members
  cells : ∀ violation ∈ violations, ∀ cell ∈ violation.cells, ∀ entry ∈ reading.cells,
    entry.satellite = violation.satellite → atSeconds entry.epoch cell.epoch →
      Option.Rel SameChoice cell.selection entry.position

end Reading

/-- A report that passes, what is read of its merge result, and its violations. -/
structure ReadsAll (result : ResultChecks) (report : Value) (n : Nat) (policy : Policy)
    (reading : Reading n) (violations : List (Violation n)) : Prop where
  reads : Reads result report n policy reading
  violations : ∃ continuity, report.path? ["merge_report", "continuity"] = some continuity ∧
    readViolations n policy continuity = .ok violations

end Statements

section Selections

variable {n : Nat}

theorem members_length_pos (selection : Selection n) : 0 < selection.members.length := by
  cases selection with
  | singleSource source => exact Nat.one_pos
  | precedence source members member => exact List.length_pos_of_mem member
  | combined members => exact List.length_pos_iff.mpr members.nonempty

/-- Of one member, a selection that is not combined has selected it. -/
theorem selected_iff {selection : Selection n} (one : selection.members.length = 1)
    {source : Fin n} :
    selection.selected = some source ↔ selection.kind ≠ .combined ∧ source ∈ selection.members := by
  obtain ⟨only, single⟩ := List.length_eq_one_iff.mp one
  cases selection with
  | singleSource own =>
    simp [Selection.selected, Selection.kind, Selection.members, eq_comm]
  | precedence own members member =>
    have members_eq : members.indices = [only] := single
    rw [members_eq] at member
    simp [Selection.selected, Selection.kind, Selection.members, members_eq,
      List.mem_singleton.mp member, eq_comm]
  | combined members => simp [Selection.selected, Selection.kind]

/-- Kind, members and the pick of a precedence say all of a selection. -/
theorem facts_eq_iff {selection other : Selection n} :
    selection.facts = other.facts ↔ Reading.SameChoice selection other := by
  constructor
  · intro same
    obtain ⟨kind, rest⟩ := Prod.mk.injEq .. ▸ same
    obtain ⟨selected, members⟩ := Prod.mk.injEq .. ▸ rest
    exact ⟨kind, members, fun _ => selected⟩
  · intro ⟨kind, members, picks⟩
    have selected : selection.selected = other.selected := by
      cases selection with
      | singleSource source =>
        cases other with
        | singleSource source' => exact congrArg some (List.singleton_inj.mp members)
        | precedence => cases kind
        | combined => cases kind
      | precedence => exact picks rfl
      | combined =>
        cases other with
        | singleSource => cases kind
        | precedence => cases kind
        | combined => rfl
    rw [Selection.facts, Selection.facts, kind, selected, members]

theorem map_facts_eq_iff {selection other : Option (Selection n)} :
    selection.map Selection.facts = other.map Selection.facts ↔
      Option.Rel Reading.SameChoice selection other := by
  cases selection with
  | none => cases other <;> simp
  | some selection =>
    cases other with
    | none => simp
    | some other =>
      rw [Option.map_some, Option.map_some, Option.some_inj, facts_eq_iff, Option.rel_some_some]

end Selections

section Entries

variable {n : Nat} {policy : Policy} {reading : Reading n}

/-- An accepted cell with the flag of a single source has one member, of its position or, without a
position, of its clock. -/
theorem single_counted (checked : reading.Checked policy) {accepted : AgreementCell n}
    (member : accepted ∈ reading.agreement.cells) {flag : Flag n}
    (flagged : flag ∈ reading.flags.singleSource) (same : accepted.place = flag.place) :
    accepted.position.members = 1 ∨
      accepted.position.members = 0 ∧ accepted.clock.members = 1 := by
  have found : (flagAt reading.flags.singleSource accepted.place).isSome = true := by
    rw [flagAt, List.find?_isSome]
    exact ⟨flag, flagged, decide_eq_true same.symm⟩
  obtain ⟨_, position, _⟩ := bind_ok.mp (checked.cellFlags accepted member)
  unfold verifyPositionCellFlags at position
  split at position
  · next unwritten =>
    obtain ⟨_, _, rest⟩ := bind_ok.mp position
    obtain ⟨_, contradictory, _⟩ := bind_ok.mp rest
    refine .inr ⟨unwritten, (ensure_ok.mp contradictory).resolve_left ?_⟩
    rw [Option.isNone_iff_eq_none]
    exact Option.isSome_iff_ne_none.mp found
  · obtain ⟨_, contradictory, _⟩ := bind_ok.mp position
    refine .inl ((ensure_ok.mp contradictory).resolve_left ?_).1
    rw [Option.isNone_iff_eq_none]
    exact Option.isSome_iff_ne_none.mp found

/-- The entry of such a cell has one member. -/
theorem current_members {cell : Cell n} {accepted : AgreementCell n}
    (agrees : cell.agrees accepted = true)
    (single : accepted.position.members = 1 ∨
      accepted.position.members = 0 ∧ accepted.clock.members = 1) :
    cell.current.members.length = 1 := by
  obtain ⟨position, clock⟩ := agrees_members agrees
  obtain ⟨satellite, epoch, written, clocked, stated⟩ := cell
  cases written with
  | some selection =>
    have members : selection.members.length = accepted.position.members := position
    have some_member := members_length_pos selection
    change selection.members.length = 1
    omega
  | none =>
    cases clocked with
    | none => cases stated
    | some selection =>
      have unwritten : 0 = accepted.position.members := position
      have members : selection.members.length = accepted.clock.members := clock
      change selection.members.length = 1
      omega

/-- The entry of a flagged cell is there, is one, and has one member. -/
theorem flagged_entry (checked : reading.Checked policy) {flag : Flag n}
    (flagged : flag ∈ reading.flags.singleSource) :
    (∃ cell ∈ reading.cells, cell.IsFlagged flag) ∧
      ∀ cell ∈ reading.cells, cell.IsFlagged flag → cell.current.members.length = 1 := by
  obtain ⟨_, _, rest⟩ := bind_ok.mp checked.joined
  obtain ⟨_, _, rest⟩ := bind_ok.mp rest
  obtain ⟨_, _, rest⟩ := bind_ok.mp rest
  obtain ⟨_, _, rest⟩ := bind_ok.mp rest
  obtain ⟨_, orphaned, _⟩ := bind_ok.mp rest
  obtain ⟨accepted, member, place⟩ :=
    List.mem_map.mp ((ensure_ok.mp orphaned).1 flag flagged)
  have epoch : accepted.epoch = flag.epoch := congrArg Prod.fst place
  have satellite : accepted.satellite = flag.satellite := congrArg Prod.snd place
  constructor
  · obtain ⟨cell, entry, agrees⟩ := forall₂_partner checked.ordered.flip member
    have same := agrees_place agrees
    exact ⟨cell, entry, same.1.trans satellite, same.2.trans (congrArg Split.key epoch)⟩
  · intro cell entry same
    have accepts : cell.IsOf accepted :=
      ⟨same.1.trans satellite.symm, same.2.trans (congrArg Split.key epoch.symm)⟩
    exact current_members (checked.agrees member entry accepts)
      (single_counted checked member flagged place)

/-- A flag of a single source has one source. -/
theorem flagged_source (checked : reading.Checked policy) {flag : Flag n}
    (flagged : flag ∈ reading.flags.singleSource) : ∃ source, flag.sources.indices = [source] := by
  obtain ⟨_, _, rest⟩ := bind_ok.mp checked.joined
  obtain ⟨_, _, rest⟩ := bind_ok.mp rest
  obtain ⟨_, single, _⟩ := bind_ok.mp rest
  exact List.length_eq_one_iff.mp (ensure_ok.mp single flag flagged)

/-- Two entries of one cell are one. -/
theorem entry_unique (checked : reading.Checked policy) {cell other : Cell n}
    (entry : cell ∈ reading.cells) (entry' : other ∈ reading.cells)
    (satellite : cell.satellite = other.satellite) (epoch : cell.epoch.key = other.epoch.key) :
    cell = other := by
  have keys : (reading.cells.map fun cell => cellKey cell.epoch cell.satellite) =
      reading.agreement.cells.map AgreementCell.key := by
    rw [← List.forall₂_eq_eq_eq, List.forall₂_map_left_iff, List.forall₂_map_right_iff]
    refine checked.ordered.imp fun cell accepted agrees => ?_
    obtain ⟨satellite, epoch⟩ := agrees_place agrees
    rw [AgreementCell.key, cellKey, cellKey, satellite, epoch]
  have distinct : (reading.cells.map fun cell => cellKey cell.epoch cell.satellite).Nodup := by
    rw [keys]
    exact checked.ascending.imp ne_of_lt
  have same : cellKey cell.epoch cell.satellite = cellKey other.epoch other.satellite := by
    rw [cellKey, cellKey, satellite, epoch]
  exact List.inj_on_of_nodup_map distinct entry entry' same

/-- By the counts, the flags name the selected sources exactly when they name members of values that
are not combined. -/
theorem flagsSelected_iff (checked : reading.Checked policy) :
    reading.FlagsSelected ↔ ∀ flag ∈ reading.flags.singleSource, ∀ cell ∈ reading.cells,
      cell.IsFlagged flag → cell.current.kind ≠ .combined ∧
        ∀ source ∈ flag.sources.indices, source ∈ cell.current.members := by
  constructor
  · intro selected flag flagged cell entry same
    obtain ⟨named, entry', same', source, single, chosen⟩ := selected flag flagged
    have one : named = cell := entry_unique checked entry' entry
      (same'.1.trans same.1.symm) (same'.2.trans same.2.symm)
    subst one
    have members := (flagged_entry checked flagged).2 named entry same
    obtain ⟨apart, member⟩ := (selected_iff members).mp chosen
    refine ⟨apart, fun other listed => ?_⟩
    rw [single, List.mem_singleton] at listed
    exact listed ▸ member
  · intro chosen flag flagged
    obtain ⟨⟨cell, entry, same⟩, members⟩ := flagged_entry checked flagged
    obtain ⟨source, single⟩ := flagged_source checked flagged
    obtain ⟨apart, named⟩ := chosen flag flagged cell entry same
    have member : source ∈ cell.current.members := named source (single ▸ List.mem_singleton_self _)
    exact ⟨cell, entry, same, source, single, (selected_iff (members cell entry same)).mpr
      ⟨apart, member⟩⟩

end Entries

section Passing

variable {n : Nat} {policy : Policy} {atSeconds : Split → Double → Prop}

theorem oneSelection_iff_chosen {reading : Reading n} (checked : reading.Checked policy)
    (violations : List (Violation n)) :
    reading.OneSelection atSeconds violations ↔ reading.Chosen atSeconds violations := by
  constructor
  · intro ⟨selected, restated⟩
    refine ⟨(flagsSelected_iff checked).mp selected, ?_⟩
    intro violation stated cell rests entry written satellite epoch
    exact map_facts_eq_iff.mp (restated violation stated cell rests entry written satellite epoch)
  · intro chosen
    refine ⟨(flagsSelected_iff checked).mpr chosen.flags, ?_⟩
    intro violation stated cell rests entry written satellite epoch
    exact map_facts_eq_iff.mpr
      (chosen.cells violation stated cell rests entry written satellite epoch)

variable {result : ResultChecks} {speedBound : OrbitClass → Option Double} {merged : Value}

/-- The violations of a merge result that passes are read. -/
theorem readViolations_passed
    (verified : verifyMergeResult (result.withContinuity speedBound) merged n policy 3 = .ok ()) :
    ∃ continuity violations, merged.path? ["continuity"] = some continuity ∧
      readViolations n policy continuity = .ok violations := by
  obtain ⟨_, agreement, _, ⟨values, fields, _, _, audit⟩, _⟩ := verifyMergeResult_passed verified
  obtain ⟨_, _, reported⟩ := verifyMergeAudit_ok audit
  unfold verifyMergeReporting at reported
  rw [if_neg (by decide)] at reported
  obtain ⟨_, continuity, _⟩ := bind_ok.mp reported
  obtain ⟨violations, read⟩ := readViolations_ok continuity
  refine ⟨values.get "continuity", violations, ?_, read⟩
  rw [path?_field, (exactFields_get fields (by decide)).1]

variable {Artifact Acquisition Identity : Type}

end Passing

section Sample

/-- A field of a map, as another value. -/
def Value.restate (value : Value) (field : String) (other : Value) : Value :=
  match value with
  | .map entries => .map (entries.map fun entry =>
      if entry.1.isAtom field then (entry.1, other) else entry)
  | value => value

theorem finite_two : (2.0 : Float).isFinite = true := by decide +kernel

theorem finite_seconds : (730555200.0 : Float).isFinite = true := by decide +kernel

/-- The epoch of the sample, in seconds from J2000. -/
def sampleSeconds : Double := ⟨730555200.0, finite_seconds⟩

/-- A continuity report with a repeated epoch, of which no source is named. -/
def sampleContinuity : Value :=
  let epoch := Double.toValue sampleSeconds
  let defect := Record.toValue
    [("kind", .atom "duplicate_epoch"), ("satellite", sampleText "G01"), ("from_j2000_s", epoch),
      ("to_j2000_s", epoch), ("magnitude", .number (.float 2.0 finite_two)), ("bound", .nil),
      ("epoch_j2000_s", epoch), ("occurrences", .int 2)]
  let violation := Record.toValue
    [("defect", defect), ("from_sources", .list []), ("to_sources", .list []),
      ("cells", .list [Record.toValue [("epoch_j2000_s", epoch), ("role", .atom "repeated_epoch"),
        ("selection", .nil)]]),
      ("sources", .list []), ("crosses_contributors", .atom "false")]
  Record.toValue
    [("defects", .list [defect]), ("attested", .atom "false"), ("pairs_checked", .int 0),
      ("residuals_checked", .int 0), ("residuals_skipped", .int 0),
      ("violations", .list [violation]), ("splices", .list [])]

/-- The result of the sample with the flag of the second source and a continuity report. -/
def otherResult : Value := (sampleResult 1 []).restate "continuity" sampleContinuity

/-- The report of that result. -/
def otherReport : Value := (sampleReport 1 []).restate "merge_report" otherResult

/-- The policy of the sample, with a request for continuity. -/
def continuousPolicy : Policy := { meanPolicy with verifyContinuity := some ⟨none, none, none⟩ }

/-- Checks that pass everything, with that policy. -/
def passingContinuous : Checks Unit Unit Policy Unit :=
  { passingMean with persistedMergePolicy := fun _ _ => .ok continuousPolicy }

/-- Whether what is read has a flag and a violation that its provenance contradicts. -/
def readsAmiss (result : ResultChecks) (merged continuity : Value) (n : Nat) (policy : Policy) :
    Bool :=
  match readResult result merged n policy, readViolations n policy continuity with
  | .ok reading, .ok violations => !decide reading.FlagsSelected &&
      !decide (reading.CellsRestated Split.IsSeconds violations)
  | _, _ => false

theorem readsAmiss_iff {result : ResultChecks} {merged continuity : Value} {n : Nat}
    {policy : Policy} (amiss : readsAmiss result merged continuity n policy = true) :
    ∃ reading violations, readResult result merged n policy = .ok reading ∧
      readViolations n policy continuity = .ok violations ∧ ¬reading.FlagsSelected ∧
        ¬reading.CellsRestated Split.IsSeconds violations := by
  unfold readsAmiss at amiss
  split at amiss
  · next reading violations read listed =>
    obtain ⟨flags, cells⟩ := Bool.and_eq_true_iff.mp amiss
    exact ⟨reading, violations, read, listed, by simpa using flags, by simpa using cells⟩
  · cases amiss

end Sample

end Sidereon.MergeReport
