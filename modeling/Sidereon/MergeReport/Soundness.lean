import Sidereon.MergeReport.Result

/-!
# Soundness of provenance

A report of the third schema that passes with full provenance documents accepted cells, their
provenance, transitions and coverage, each as the report states it. The provenance is in the order of
the cells, and the transitions and the coverage are those of each satellite and each source alone.
-/

namespace Sidereon.MergeReport

open Foundation Sidereon.Distribution
open MergePolicy (Double Policy)

section Statements

variable {n : Nat} (offsetAt : Float → Option Float)

/-- A report states accepted cells, their provenance, its transitions and its coverage. -/
structure Documents (report : Value) (agreement : List (AgreementCell n)) (cells : List (Cell n))
    (transitions : List (Transition n)) (entries : List Value) : Prop where
  sources : report.path? ["source_count"] = some (.int n)
  agreement : ∃ items, report.path? ["merge_report", "agreement", "cells"] = some (.list items) ∧
    List.Forall₂ StatesAgreement items agreement
  cells : ∃ items, report.path? ["merge_report", "provenance", "cells"] = some (.list items) ∧
    List.Forall₂ (StatesCell offsetAt) items cells
  transitions : ∃ items,
    report.path? ["merge_report", "provenance", "transitions"] = some (.list items) ∧
      List.Forall₂ (StatesTransition offsetAt) items transitions
  coverage : report.path? ["merge_report", "provenance", "coverage"] = some (.list entries)

/-- The provenance has an entry for each accepted cell in their order, and what it states of each
source and of each satellite is so. -/
structure Sound (agreement : List (AgreementCell n)) (cells : List (Cell n))
    (transitions : List (Transition n)) (entries : List Value) : Prop where
  ordered : List.Forall₂ (fun cell accepted =>
    cell.satellite = accepted.satellite ∧ cell.epoch.key = accepted.epoch.key) cells agreement
  each : entries.length = n
  covers : ∀ source : Fin n, ∃ entry tally absent, entries[source.val]? = some entry ∧
    StatesCoverage offsetAt entry source tally absent ∧ Covers cells source tally absent
  moves : Moves cells transitions

end Statements

section Proofs

variable {n : Nat} {offsetAt : Float → Option Float}

/-- The entries of full provenance stand for the accepted cells in their order. -/
theorem ordered_of_verified {mode : Binary} {cells : List (Cell n)}
    {agreement : List (AgreementCell n)} (full : mode = ascii "full")
    (verified : verifyProvenanceCells mode cells agreement = .ok ()) :
    List.Forall₂ (fun cell accepted => cell.agrees accepted = true) cells agreement := by
  have differs : ¬(mode = ascii "summary" ∧ cells = []) := by
    rw [full]
    exact fun both => absurd both.1 (by decide)
  unfold verifyProvenanceCells at verified
  dsimp only at verified
  rw [if_neg differs] at verified
  split at verified
  · next lengths =>
    rw [List.forall₂_iff_zip]
    refine ⟨lengths.2, fun {cell accepted} member => ?_⟩
    exact List.all_eq_true.mp (ensure_ok.mp verified) (cell, accepted) member
  · cases verified

theorem agrees_place {cell : Cell n} {accepted : AgreementCell n}
    (agrees : cell.agrees accepted = true) :
    cell.satellite = accepted.satellite ∧ cell.epoch.key = accepted.epoch.key := by
  simp only [Cell.agrees, Bool.and_eq_true, beq_iff_eq] at agrees
  exact agrees.1.1

/-- Full provenance that passes is sound, as its map states it. -/
theorem verifyProvenance_sound {combine provenance : Value} {requested : Binary}
    {agreement : List (AgreementCell n)} {epochs : List Split} (full : requested = ascii "full")
    (verified : verifyProvenance offsetAt combine provenance requested agreement = .ok epochs) :
    ∃ cells transitions entries,
      (∃ items, provenance.field? "cells" = some (.list items) ∧
        List.Forall₂ (StatesCell offsetAt) items cells) ∧
      (∃ items, provenance.field? "transitions" = some (.list items) ∧
        List.Forall₂ (StatesTransition offsetAt) items transitions) ∧
      provenance.field? "coverage" = some (.list entries) ∧
      Sound offsetAt agreement cells transitions entries := by
  obtain ⟨values, fields, rest⟩ := bind_ok.mp verified
  obtain ⟨_, _, rest⟩ := bind_ok.mp rest
  obtain ⟨cells, celled, rest⟩ := bind_ok.mp rest
  obtain ⟨_, matched, rest⟩ := bind_ok.mp rest
  obtain ⟨transitions, moved, rest⟩ := bind_ok.mp rest
  obtain ⟨_, _, rest⟩ := bind_ok.mp rest
  obtain ⟨_, implied, rest⟩ := bind_ok.mp rest
  obtain ⟨_, covered, _⟩ := bind_ok.mp rest
  have agrees := ordered_of_verified full matched
  rw [← agrees.length_eq] at covered
  obtain ⟨cellItems, cellList, statedCells⟩ :=
    verifyList_ok celled fun _ _ _ read => verifyProvenanceCell_stated read
  obtain ⟨transitionItems, transitionList, statedTransitions⟩ :=
    verifyList_ok moved fun _ _ _ read => verifyProvenanceTransition_stated read
  obtain ⟨entries, entryList, length, covers⟩ := verifyProvenanceCoverage_covers full covered
  refine ⟨cells, transitions, entries, ⟨cellItems, ?_, statedCells⟩,
    ⟨transitionItems, ?_, statedTransitions⟩, ?_, ?_⟩
  · rw [(exactFields_get fields (by decide)).1, cellList]
  · rw [(exactFields_get fields (by decide)).1, transitionList]
  · rw [(exactFields_get fields (by decide)).1, entryList]
  · exact ⟨agrees.imp fun _ _ => agrees_place, length, covers, moves_of_verified full implied⟩

/-- The audit of a report of the third schema checks its withheld cells, its omitted clocks and its
provenance. -/
theorem verifyMergeAudit_ok {policy : Policy} {continuity : ContinuityCheck} {values : Record}
    {cells : List (AgreementCell n)} {audited : Audited n}
    (verified : verifyMergeAudit offsetAt n policy continuity values 3 cells = .ok audited) :
    verifyArcWithheld offsetAt n policy (values.get "arc_withheld") cells = .ok audited.withheld ∧
      verifyClockOmissions offsetAt n policy (values.get "clock_omissions") cells =
        .ok audited.clockOmissions ∧
      verifyMergeReporting offsetAt n policy continuity values 3 cells =
        .ok audited.provenance := by
  unfold verifyMergeAudit at verified
  rw [if_neg (by decide)] at verified
  obtain ⟨_, _, rest⟩ := bind_ok.mp verified
  obtain ⟨_, _, rest⟩ := bind_ok.mp rest
  obtain ⟨_, withheld, rest⟩ := bind_ok.mp rest
  obtain ⟨_, clockOmissions, rest⟩ := bind_ok.mp rest
  obtain ⟨_, provenance, rest⟩ := bind_ok.mp rest
  obtain ⟨_, _, same⟩ := bind_ok.mp rest
  cases same
  exact ⟨withheld, clockOmissions, provenance⟩

/-- Provenance in full mode is checked as it was requested. -/
theorem verifyMergeReporting_full {policy : Policy} {continuity : ContinuityCheck} {values : Record}
    {cells : List (AgreementCell n)} {epochs : List Split} {mode : Value}
    (stated : (values.get "provenance").field? "mode" = some mode)
    (full : labelString mode = some (ascii "full"))
    (verified : verifyMergeReporting offsetAt n policy continuity values 3 cells = .ok epochs) :
    verifyProvenance offsetAt (combineValue policy) (values.get "provenance") (ascii "full") cells =
      .ok epochs := by
  unfold verifyMergeReporting at verified
  rw [if_neg (by decide)] at verified
  obtain ⟨_, _, checked⟩ := bind_ok.mp verified
  unfold verifyMergeProvenance at checked
  split at checked
  · next absent _ =>
    rw [absent] at stated
    cases stated
  · next entries requested given _ =>
    have requestedFull : requested = ascii "full" := by
      obtain ⟨inner, fields, rest⟩ := bind_ok.mp checked
      obtain ⟨_, compared, _⟩ := bind_ok.mp rest
      have field := (exactFields_get fields (List.mem_cons_self (a := "mode"))).1
      rw [given] at stated
      have same : mode = inner.get "mode" := Option.some_inj.mp (stated.symm.trans field)
      rw [same, ensure_ok.mp compared] at full
      exact Option.some_inj.mp full
    rw [given, ← requestedFull]
    exact checked
  · cases checked

end Proofs

section Report

variable {Artifact Acquisition Identity : Type}

theorem finite_epoch : (2460000.5 : Float).isFinite = true := by decide +kernel

theorem nonneg_zero : 0 ≤ zero.exact_ := by decide +kernel

theorem two_positive : (0 : Int) < 2 := by decide

theorem five_positive : (0 : Int) < 5 := by decide

theorem noSystems_ascending : Ascending MergePolicy.System.key [] := .nil

theorem noLabelSets_ascending : Ascending MergePolicy.LabelSet.key [] := .nil

/-- The mean of two sources, with full provenance. -/
def meanPolicy : Policy where
  positionToleranceM := MergePolicy.canonicalZero zero nonneg_zero
  clockToleranceS := MergePolicy.canonicalZero zero nonneg_zero
  minAgree := ⟨2, two_positive⟩
  clockMinCommon := ⟨5, five_positive⟩
  combine := .mean
  precedenceScope := .cell
  outlierReject := none
  epochIntervalS := none
  systems := ⟨[], noSystems_ascending⟩
  assertedFrameLabelSets := ⟨[], noLabelSets_ascending⟩
  helmert := false
  verifyContinuity := none
  provenance := some .full

/-- Checks that pass everything, with the policy. -/
def passingMean : Checks Unit Unit Policy Unit where
  centerEntry _ := .ok ()
  persistedArtifact _ _ := .ok ()
  persistedAcquisition _ _ _ := .ok ()
  verifyContributorMetadata _ _ _ _ _ := .ok ()
  sharedPolicy policy := .ok policy
  persistedMergePolicy _ _ := .ok meanPolicy
  validatePersistedPrecedence _ _ := .ok ()
  mergeInputIdentity _ _ := .ok ()
  verifyReportIdentity _ _ _ _ := .ok ()
  verifyMergeResult _ _ _ _ := .ok ()

/-- No leap seconds, no frame reconciliations and no continuity report. -/
def plainResult : ResultChecks where
  offsetAt _ := some 37.0
  frames _ value _ := match value with
    | .list [] => .ok ()
    | _ => .error (.atom "invalid_merge_report")
  continuity _ _ _ _ := .error (invalidField (.atom "continuity"))

/-- A text. -/
def sampleText (text : String) : Value := .text (ascii text)

/-- The epoch of the sample, as a pair of fields. -/
def sampleJd : Record := [("jd_whole", Double.toValue ⟨2460000.5, finite_epoch⟩),
  ("jd_fraction", zero.toValue)]

/-- The epoch of the sample. -/
def sampleEpoch : Value := Record.toValue (("time_scale", sampleText "GPST") :: sampleJd)

/-- A contributor of the sample. -/
def sampleContributor (center : String) : Value :=
  let absent := fun field : String => (field, Value.nil)
  Record.toValue
    [("center", sampleText center), ("filename", sampleText "f.SP3"),
      ("date", sampleText "2023-02-25"), ("issue", .nil), ("pattern", sampleText "canonical"),
      ("artifact_identity", Record.toValue
        (("schema_version", .int 1) :: sharedArtifactFields.map absent)),
      ("acquisition_facts", Record.toValue
        (("schema_version", .int 1) :: ("retrieved_at", sampleText "2023-02-26T00:00:00+00:00") ::
          (sharedAcquisitionFields.drop 1).map absent))]

/-- The merge result of the sample: one cell, whose position and clock are from the first of two
sources, a flag of a single source, and omitted clocks. -/
def sampleResult (single : Int) (clockOmissions : List Value) : Value :=
  let satellite := ("satellite", sampleText "G01")
  let metrics := fun value : Value => [("position_rms_m", value), ("position_max_m", value),
    ("clock_rms_s", value), ("clock_max_s", value)]
  let selection := Record.toValue [("kind", .atom "single_source"), ("source", .int 0)]
  let coverage := fun (source contributed absent : Int) (epoch : Value) => Record.toValue
    [("source", .int source), ("cells_contributed", .int contributed),
      ("cells_selected", .int contributed), ("first_epoch", epoch), ("last_epoch", epoch),
      ("cells_absent", .int absent)]
  Record.toValue
    [("frame_reconciliations", .list []), ("quarantined", .list []),
      ("single_source", .list [Record.toValue
        (satellite :: ("sources", .list [.int single]) :: sampleJd)]),
      ("position_outliers", .list []), ("clock_outliers", .list []),
      ("agreement", Record.toValue
        [("position_rms_m", .nil), ("position_max_m", zero.toValue), ("clock_rms_s", .nil),
          ("clock_max_s", zero.toValue),
          ("cells", .list [Record.toValue (satellite :: ("position_members", .int 1) ::
            ("clock_members", .int 1) :: (metrics zero.toValue ++ sampleJd))]),
          ("epochs", .list [Record.toValue
            (("satellites", .int 0) :: (metrics .nil ++ sampleJd))])]),
      ("dropped_input_epochs", .list []), ("omitted_epochs", .list []),
      ("arc_withheld", .list []), ("clock_omissions", .list clockOmissions),
      ("continuity", .nil),
      ("provenance", Record.toValue
        [("mode", .atom "full"),
          ("cells", .list [Record.toValue
            [("epoch", sampleEpoch), satellite, ("position", selection), ("clock", selection)]]),
          ("transitions", .list [Record.toValue
            [satellite, ("epoch", sampleEpoch), ("from_source", .nil), ("to_source", .int 0),
              ("reason", .atom "sole_availability")]]),
          ("coverage", .list [coverage 0 1 0 sampleEpoch, coverage 1 0 1 .nil])])]

/-- The report of the sample. -/
def sampleReport (single : Int) (clockOmissions : List Value) : Value :=
  Record.toValue
    [("schema_version", .int 3),
      ("requested_centers", .list [sampleText "cod", sampleText "gfz"]),
      ("input_identity_schema_version", .int 1), ("stable_input_identity", sampleText "id"),
      ("merge_policy", .nil), ("source_count", .int 2), ("single_product", .atom "false"),
      ("merged", .atom "true"),
      ("contributors", .list [sampleContributor "cod", sampleContributor "gfz"]),
      ("absent", .list []), ("merge_report", sampleResult single clockOmissions)]

end Report

end Sidereon.MergeReport
