import Sidereon.MergeReport.Flags

/-!
# Merge results

`verify_merge_result` reads the lists of a merge result and joins them. The lists of a full report
that passes are sound: its provenance states what each source covers and how the sources of each
satellite change.
-/

namespace Sidereon.MergeReport

open Foundation Sidereon.Distribution
open MergePolicy (Double Policy)

section Model

/-- What verification takes from elsewhere: the offsets of the core's time scales, and its checks of
frame reconciliations and of a continuity report. -/
structure ResultChecks where
  offsetAt : Float → Option Float
  frames : Nat → Value → Policy → Except Refusal Unit
  continuity : ContinuityCheck

/-- The fields of a merge result. -/
def mergeResultFields (schemaVersion : Nat) : List String :=
  ["frame_reconciliations", "quarantined", "single_source", "position_outliers", "clock_outliers",
      "agreement"] ++
    (if 2 ≤ schemaVersion then
      ["dropped_input_epochs", "omitted_epochs", "arc_withheld", "clock_omissions"] else []) ++
    if 3 ≤ schemaVersion then ["continuity", "provenance"] else []

variable (result : ResultChecks)

/-- The four lists of flags of a merge result. -/
def verifyAllFlags (n : Nat) (values : Record) : Except Refusal (Flags n) := do
  let flags := fun kind => verifyFlags result.offsetAt n (values.get kind) kind
  let quarantined ← flags "quarantined"
  let singleSource ← flags "single_source"
  let positionOutliers ← flags "position_outliers"
  let clockOutliers ← flags "clock_outliers"
  .ok ⟨quarantined, singleSource, positionOutliers, clockOutliers⟩

/-- `verify_merge_result`. -/
def verifyMergeResult (report : Value) (n : Nat) (policy : Policy) (schemaVersion : Nat) :
    Except Refusal Unit := do
  let values ← exactFields report (mergeResultFields schemaVersion) (.atom "merge_result")
  result.frames n (values.get "frame_reconciliations") policy
  let flags ← verifyAllFlags result n values
  let agreement ← verifyAgreement result.offsetAt n (values.get "agreement")
  let audited ←
    verifyMergeAudit result.offsetAt n policy result.continuity values schemaVersion agreement.cells
  verifyMergeResultConsistency policy flags agreement audited

variable {Artifact Acquisition Identity : Type}

/-- The checks of a report, with those of its merge result. -/
def Checks.withResult (checks : Checks Artifact Acquisition Policy Identity) :
    Checks Artifact Acquisition Policy Identity :=
  { checks with verifyMergeResult := MergeReport.verifyMergeResult result }

end Model

section Reading

/-- A field inside fields. -/
def Value.path? (value : Value) : List String → Option Value
  | [] => some value
  | field :: fields => (value.field? field).bind (·.path? fields)

theorem path?_field (value : Value) (field : String) : value.path? [field] = value.field? field := by
  rw [Value.path?]
  cases value.field? field with
  | none => rfl
  | some found => rfl

variable {result : ResultChecks} {n : Nat} {policy : Policy}

/-- What is read of a merge result that passes, and the checks it passes. -/
structure PassedResult (result : ResultChecks) (report : Value) (n : Nat) (policy : Policy)
    (schemaVersion : Nat) (flags : Flags n) (agreement : Agreement n) (audited : Audited n) :
    Prop where
  read : ∃ values, exactFields report (mergeResultFields schemaVersion) (.atom "merge_result") =
      .ok values ∧ verifyAllFlags result n values = .ok flags ∧
    verifyAgreement result.offsetAt n (values.get "agreement") = .ok agreement ∧
    verifyMergeAudit result.offsetAt n policy result.continuity values schemaVersion
      agreement.cells = .ok audited
  consistent : verifyMergeResultConsistency policy flags agreement audited = .ok ()

theorem verifyMergeResult_passed {report : Value} {schemaVersion : Nat}
    (verified : verifyMergeResult result report n policy schemaVersion = .ok ()) :
    ∃ flags agreement audited,
      PassedResult result report n policy schemaVersion flags agreement audited := by
  obtain ⟨values, fields, rest⟩ := bind_ok.mp verified
  obtain ⟨_, _, rest⟩ := bind_ok.mp rest
  obtain ⟨flags, flagged, rest⟩ := bind_ok.mp rest
  obtain ⟨agreement, agreed, rest⟩ := bind_ok.mp rest
  obtain ⟨audited, audit, rest⟩ := bind_ok.mp rest
  exact ⟨flags, agreement, audited, ⟨values, fields, flagged, agreed, audit⟩, rest⟩

theorem persistedSchemaVersion_int {value : Value} {version : Nat}
    (read : persistedSchemaVersion value = .ok version) : value = .int version := by
  unfold persistedSchemaVersion at read
  split at read
  · cases read
    rfl
  · cases read
    rfl
  · cases read
    rfl
  · cases read

theorem verifyReportCounts_sources {Artifact : Type} {values : Record} {artifacts : List Artifact}
    {found : Unit} (verified : verifyReportCounts values artifacts = .ok found) :
    values.get "source_count" = .int artifacts.length := by
  unfold verifyReportCounts at verified
  dsimp only at verified
  split at verified
  · next count _ _ =>
    rw [count, (ensure_ok.mp verified).1, Value.int]
  · cases verified

variable {Artifact Acquisition Identity : Type}
variable {checks : Checks Artifact Acquisition Policy Identity} {offsets : OffsetSyntax}

/-- A report that is verified has a merge result that is. -/
theorem verifyMergeReport_result {report : Value}
    (verified : verifyMergeReport (checks.withResult result) offsets report = .ok ()) :
    ∃ merged n policy schemaVersion, report.field? "merge_report" = some merged ∧
      report.field? "source_count" = some (.int (n : Nat)) ∧
      report.field? "schema_version" = some (.int (schemaVersion : Nat)) ∧
      verifyMergeResult result merged n policy schemaVersion = .ok () := by
  obtain ⟨values, fields, rest⟩ := bind_ok.mp verified
  obtain ⟨schemaVersion, version, rest⟩ := bind_ok.mp rest
  obtain ⟨_, _, rest⟩ := bind_ok.mp rest
  obtain ⟨_, _, rest⟩ := bind_ok.mp rest
  obtain ⟨_, _, rest⟩ := bind_ok.mp rest
  obtain ⟨⟨artifacts, _⟩, _, rest⟩ := bind_ok.mp rest
  obtain ⟨policy, _, rest⟩ := bind_ok.mp rest
  obtain ⟨_, _, rest⟩ := bind_ok.mp rest
  obtain ⟨_, _, rest⟩ := bind_ok.mp rest
  obtain ⟨_, _, rest⟩ := bind_ok.mp rest
  obtain ⟨_, counts, rest⟩ := bind_ok.mp rest
  obtain ⟨_, _, rest⟩ := bind_ok.mp rest
  obtain ⟨_, _, merged⟩ := bind_ok.mp rest
  refine ⟨values.get "merge_report", artifacts.length, policy, schemaVersion, ?_, ?_, ?_, merged⟩
  · exact (exactFields_get fields (by decide)).1
  · rw [(exactFields_get fields (by decide)).1, verifyReportCounts_sources counts]
  · rw [(exactFields_get fields (by decide)).1, persistedSchemaVersion_int version]

end Reading

end Sidereon.MergeReport
