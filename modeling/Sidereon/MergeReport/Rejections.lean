import Sidereon.Foundation.PositionMap
import Sidereon.MergeReport.Soundness

/-!
# Sources that are used and rejected

Full provenance names the members of each accepted cell, and five lists name the sources that were
rejected there. By the counts of the cells, no quarantined and no withheld source is a member of a
position. The members are not compared with the omitted clocks and with the outliers.
-/

namespace Sidereon.MergeReport

open Foundation Sidereon.Distribution
open MergePolicy (Policy)

section Readings

/-- What verification reads of a merge result that has provenance. -/
structure Reading (n : Nat) where
  flags : Flags n
  agreement : Agreement n
  audited : Audited n
  cells : List (Cell n)

/-- What `verify_merge_result` reads of a merge result of the third schema. -/
def readResult (result : ResultChecks) (merged : Value) (n : Nat) (policy : Policy) :
    Except Refusal (Reading n) := do
  let values ← exactFields merged (mergeResultFields 3) (.atom "merge_result")
  let flags ← verifyAllFlags result n values
  let agreement ← verifyAgreement result.offsetAt n (values.get "agreement")
  let audited ←
    verifyMergeAudit result.offsetAt n policy result.continuity values 3 agreement.cells
  let cells ← verifyList (mapValue (values.get "provenance") "cells") (.atom "provenance_cells")
    (verifyProvenanceCell result.offsetAt n (combineValue policy))
  .ok ⟨flags, agreement, audited, cells⟩

variable {n : Nat}

/-- The members of a selection, none for none. -/
def selectionMembers (selection : Option (Selection n)) : List (Fin n) :=
  (selection.map Selection.members).getD []

/-- The sources that flags name at a cell. -/
def flaggedAt (flags : List (Flag n)) (place : Place) : List (Fin n) :=
  (flags.filter fun flag => flag.place = place).flatMap fun flag => flag.sources.indices

/-- The sources whose position is withheld at a cell. -/
def withheldAt (withheld : List (Withheld n)) (place : Place) : List (Fin n) :=
  (withheld.filter fun cell => cell.place = place).flatMap fun cell => cell.sources.indices

/-- The sources whose clock is omitted at a cell. -/
def clockOmittedAt (omissions : List (ClockOmission n)) (place : Place) : List (Fin n) :=
  (omissions.filter fun omission => omission.place = place).map ClockOmission.source

/-- An entry of provenance is that of an accepted cell. -/
def Cell.IsOf (cell : Cell n) (accepted : AgreementCell n) : Prop :=
  cell.satellite = accepted.satellite ∧ cell.epoch.key = accepted.epoch.key

instance (cell : Cell n) (accepted : AgreementCell n) : Decidable (cell.IsOf accepted) := by
  unfold Cell.IsOf
  infer_instance

namespace Reading

/-- No clock member of an entry is among the omitted or the outlying clocks of its cell, and no
position member is among the outliers, the quarantined or the withheld sources there. -/
def UsedOnly (reading : Reading n) (place : Place) (cell : Cell n) : Prop :=
  (∀ source ∈ selectionMembers cell.clock,
    source ∉ clockOmittedAt reading.audited.clockOmissions place ∧
      source ∉ flaggedAt reading.flags.clockOutliers place) ∧
    ∀ source ∈ selectionMembers cell.position,
      source ∉ flaggedAt reading.flags.positionOutliers place ∧
        source ∉ flaggedAt reading.flags.quarantined place ∧
        source ∉ withheldAt reading.audited.withheld place

instance (reading : Reading n) (place : Place) (cell : Cell n) :
    Decidable (reading.UsedOnly place cell) := by
  unfold UsedOnly
  infer_instance

/-- No source is used and rejected at an accepted cell. -/
def NoneRejected (reading : Reading n) : Prop :=
  ∀ accepted ∈ reading.agreement.cells, ∀ cell ∈ reading.cells, cell.IsOf accepted →
    reading.UsedOnly accepted.place cell

instance (reading : Reading n) : Decidable reading.NoneRejected := by
  unfold NoneRejected
  infer_instance

/-- The sources whose clock or position a report calls omitted or outlying at a cell are not the
members that its provenance has there. -/
def OmittedApart (reading : Reading n) : Prop :=
  ∀ accepted ∈ reading.agreement.cells, ∀ cell ∈ reading.cells, cell.IsOf accepted →
    (selectionMembers cell.clock).Disjoint
        (clockOmittedAt reading.audited.clockOmissions accepted.place ++
          flaggedAt reading.flags.clockOutliers accepted.place) ∧
      (selectionMembers cell.position).Disjoint
        (flaggedAt reading.flags.positionOutliers accepted.place)

/-- What the counts of a report that passes say of its lists. -/
structure Counted (reading : Reading n) : Prop where
  quarantined : ∀ accepted ∈ reading.agreement.cells, 0 < accepted.position.members →
    flaggedAt reading.flags.quarantined accepted.place = []
  withheld : ∀ accepted ∈ reading.agreement.cells, 0 < accepted.position.members →
    withheldAt reading.audited.withheld accepted.place = []
  members : ∀ accepted ∈ reading.agreement.cells, ∀ cell ∈ reading.cells, cell.IsOf accepted →
    memberCount cell.position = accepted.position.members

/-- What the checks of a report that passes say of what is read. -/
structure Checked (reading : Reading n) (policy : Policy) : Prop where
  joined : verifyJoinedFlags policy reading.flags reading.agreement.cells = .ok ()
  cellFlags : ∀ accepted ∈ reading.agreement.cells,
    verifyCellFlags policy reading.flags accepted = .ok ()
  withheld : ∀ accepted ∈ reading.agreement.cells, 0 < accepted.position.members →
    withheldAt reading.audited.withheld accepted.place = []
  ordered : List.Forall₂ (fun cell accepted => cell.agrees accepted = true) reading.cells
    reading.agreement.cells
  ascending : (reading.agreement.cells.map AgreementCell.key).Pairwise (· < ·)

end Reading

/-- A report that passes, and what is read of its merge result. -/
structure Reads (result : ResultChecks) (report : Value) (n : Nat) (policy : Policy)
    (reading : Reading n) : Prop where
  sources : report.path? ["source_count"] = some (.int n)
  read : ∃ merged, report.path? ["merge_report"] = some merged ∧
    verifyMergeResult result merged n policy 3 = .ok () ∧
    readResult result merged n policy = .ok reading

end Readings

section Counts

variable {n : Nat} {policy : Policy}

theorem quarantined_counted {flags : Flags n} {cells : List (AgreementCell n)}
    (joined : verifyJoinedFlags policy flags cells = .ok ()) {accepted : AgreementCell n}
    (member : accepted ∈ cells) (written : 0 < accepted.position.members) :
    flaggedAt flags.quarantined accepted.place = [] := by
  obtain ⟨_, _, rest⟩ := bind_ok.mp joined
  obtain ⟨_, _, rest⟩ := bind_ok.mp rest
  obtain ⟨_, _, rest⟩ := bind_ok.mp rest
  obtain ⟨_, contradictory, _⟩ := bind_ok.mp rest
  have none : (flags.quarantined.filter fun flag => flag.place = accepted.place) = [] := by
    rw [List.filter_eq_nil_iff]
    intro flag flagged same
    have unwritten : accepted.position.members = 0 :=
      (ensure_ok.mp contradictory).2 flag flagged accepted member (of_decide_eq_true same).symm
    omega
  rw [flaggedAt, none, List.flatMap_nil]

theorem withheld_counted {offsetAt : Float → Option Float} {value : Value}
    {cells : List (AgreementCell n)} {withheld : List (Withheld n)}
    (verified : verifyArcWithheld offsetAt n policy value cells = .ok withheld)
    {accepted : AgreementCell n} (member : accepted ∈ cells)
    (written : 0 < accepted.position.members) : withheldAt withheld accepted.place = [] := by
  obtain ⟨read, _, rest⟩ := bind_ok.mp verified
  obtain ⟨_, _, rest⟩ := bind_ok.mp rest
  obtain ⟨_, unwritten, rest⟩ := bind_ok.mp rest
  obtain ⟨_, _, same⟩ := bind_ok.mp rest
  cases same
  have none : (withheld.filter fun cell => cell.place = accepted.place) = [] := by
    rw [List.filter_eq_nil_iff]
    intro cell listed same
    have place : cell.place = accepted.place := of_decide_eq_true same
    apply ensure_ok.mp unwritten cell listed
    rw [place]
    exact List.mem_map_of_mem (List.mem_filter.mpr ⟨member, decide_eq_true written⟩)
  rw [withheldAt, none, List.flatMap_nil]

/-- The entry of an accepted cell is the one that was compared with it. -/
theorem Reading.Checked.agrees {reading : Reading n} (checked : reading.Checked policy)
    {accepted : AgreementCell n} (member : accepted ∈ reading.agreement.cells) {cell : Cell n}
    (entry : cell ∈ reading.cells) (same : cell.IsOf accepted) : cell.agrees accepted = true := by
  obtain ⟨compared, listed, agrees⟩ := forall₂_partner checked.ordered entry
  have place := agrees_place agrees
  have keys : compared.key = accepted.key := by
    rw [AgreementCell.key, AgreementCell.key, cellKey, cellKey, ← place.1, ← place.2, same.1,
      same.2]
  have one : compared = accepted :=
    List.inj_on_of_nodup_map (checked.ascending.imp ne_of_lt) listed member keys
  exact one ▸ agrees

theorem agrees_members {cell : Cell n} {accepted : AgreementCell n}
    (agrees : cell.agrees accepted = true) :
    memberCount cell.position = accepted.position.members ∧
      memberCount cell.clock = accepted.clock.members := by
  simp only [Cell.agrees, Bool.and_eq_true, beq_iff_eq] at agrees
  exact ⟨agrees.1.2, agrees.2⟩

theorem Reading.Checked.counted {reading : Reading n} (checked : reading.Checked policy) :
    reading.Counted where
  quarantined _ member written := quarantined_counted checked.joined member written
  withheld := checked.withheld
  members _ member _ entry same := (agrees_members (checked.agrees member entry same)).1

theorem memberCount_pos {selection : Option (Selection n)} {source : Fin n}
    (member : source ∈ selectionMembers selection) : 0 < memberCount selection := by
  cases selection with
  | none => cases member
  | some selection => exact List.length_pos_of_mem member

/-- By the counts, a member of a position is neither quarantined nor withheld. -/
theorem noneRejected_of_omittedApart {reading : Reading n} (counted : reading.Counted) :
    reading.NoneRejected ↔ reading.OmittedApart := by
  constructor
  · intro free accepted member cell entry same
    obtain ⟨clock, position⟩ := free accepted member cell entry same
    constructor
    · intro source used rejected
      exact (List.mem_append.mp rejected).elim (clock source used).1 (clock source used).2
    · exact fun source used => (position source used).1
  · intro apart accepted member cell entry same
    obtain ⟨clock, position⟩ := apart accepted member cell entry same
    constructor
    · intro source used
      exact ⟨fun omitted => clock used (List.mem_append_left _ omitted),
        fun outlying => clock used (List.mem_append_right _ outlying)⟩
    · intro source used
      have written : 0 < accepted.position.members := by
        rw [← counted.members accepted member cell entry same]
        exact memberCount_pos used
      rw [counted.quarantined accepted member written, counted.withheld accepted member written]
      exact ⟨position used, List.not_mem_nil, List.not_mem_nil⟩

end Counts

section Passing

variable {result : ResultChecks} {merged mode : Value} {n : Nat} {policy : Policy}

/-- A merge result that passes with full provenance is read, and its checks hold. -/
theorem readResult_checked (stated : merged.path? ["provenance", "mode"] = some mode)
    (full : labelString mode = some (ascii "full"))
    (verified : verifyMergeResult result merged n policy 3 = .ok ()) :
    ∃ reading, readResult result merged n policy = .ok reading ∧ reading.Checked policy := by
  obtain ⟨flags, agreement, audited, ⟨values, fields, flagged, agreed, audit⟩, consistent⟩ :=
    verifyMergeResult_passed verified
  obtain ⟨withheld, _, reported⟩ := verifyMergeAudit_ok audit
  obtain ⟨_, joined, rest⟩ := bind_ok.mp consistent
  obtain ⟨_, _, rest⟩ := bind_ok.mp rest
  obtain ⟨_, _, rest⟩ := bind_ok.mp rest
  obtain ⟨_, _, rest⟩ := bind_ok.mp rest
  obtain ⟨_, cellFlags, _⟩ := bind_ok.mp rest
  have field : "provenance" ∈ mergeResultFields 3 := by decide
  rw [Value.path?, (exactFields_get fields field).1, Option.bind_some, path?_field] at stated
  obtain ⟨inner, parts, rest⟩ := bind_ok.mp (verifyMergeReporting_full stated full reported)
  obtain ⟨_, _, rest⟩ := bind_ok.mp rest
  obtain ⟨cells, celled, rest⟩ := bind_ok.mp rest
  obtain ⟨_, matched, _⟩ := bind_ok.mp rest
  obtain ⟨_, _, accepted⟩ := verifyAgreement_cells agreed
  have cellsField : mapValue (values.get "provenance") "cells" = inner.get "cells" := by
    rw [mapValue, (exactFields_get parts (by decide)).1, Option.getD_some]
  refine ⟨⟨flags, agreement, audited, cells⟩, ?_, joined, forM_ok cellFlags, ?_,
    ordered_of_verified rfl matched, (verifyAgreementCells_ok accepted).2⟩
  · refine bind_ok.mpr ⟨values, fields, bind_ok.mpr ⟨flags, flagged, bind_ok.mpr ⟨agreement, agreed,
      bind_ok.mpr ⟨audited, audit, bind_ok.mpr ⟨cells, ?_, rfl⟩⟩⟩⟩⟩
    rw [cellsField]
    exact celled
  · exact fun accepted member written => withheld_counted withheld member written

variable {Artifact Acquisition Identity : Type}

variable {checks : Checks Artifact Acquisition Policy Identity} {offsets : OffsetSyntax}

/-- A report of the third schema that passes with full provenance has such a merge result. -/
theorem verifyMergeReport_full {report : Value}
    (schema : report.path? ["schema_version"] = some (.int 3))
    (stated : report.path? ["merge_report", "provenance", "mode"] = some mode)
    (verified : verifyMergeReport (checks.withResult result) offsets report = .ok ()) :
    ∃ merged n policy, report.path? ["merge_report"] = some merged ∧
      report.path? ["source_count"] = some (.int (n : Nat)) ∧
      merged.path? ["provenance", "mode"] = some mode ∧
      verifyMergeResult result merged n policy 3 = .ok () := by
  obtain ⟨merged, n, policy, version, found, sources, versioned, passed⟩ :=
    verifyMergeReport_result verified
  have third : version = 3 := by
    rw [path?_field, versioned] at schema
    cases schema
    rfl
  subst third
  rw [Value.path?, found, Option.bind_some] at stated
  refine ⟨merged, n, policy, ?_, ?_, stated, passed⟩
  · rw [path?_field, found]
  · rw [path?_field, sources]

end Passing

section Sample

/-- The clock of the first source, omitted at the one cell of the sample. -/
def sampleOmission : Value :=
  Record.toValue
    [("epoch", sampleEpoch), ("satellite", sampleText "G01"), ("source", .int 0),
      ("reason", .atom "no_consensus"), ("preferred", .nil), ("cell_has_clock", .atom "true")]

/-- Whether what is read has a source that is used and rejected. -/
def readsRejected (result : ResultChecks) (merged : Value) (n : Nat) (policy : Policy) : Bool :=
  match readResult result merged n policy with
  | .ok reading => !decide reading.NoneRejected
  | .error _ => false

theorem readsRejected_iff {result : ResultChecks} {merged : Value} {n : Nat} {policy : Policy}
    (rejected : readsRejected result merged n policy = true) :
    ∃ reading, readResult result merged n policy = .ok reading ∧ ¬reading.NoneRejected := by
  unfold readsRejected at rejected
  split at rejected
  · next reading read => exact ⟨reading, read, by simpa using rejected⟩
  · cases rejected

end Sample

end Sidereon.MergeReport
