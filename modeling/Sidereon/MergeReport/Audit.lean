import Sidereon.MergeReport.Provenance

/-!
# What a merge did not write

The input epochs a merge dropped, the epochs and the cells it left out, and the clocks it omitted.
Each list is checked against the accepted cells and the policy. Then the provenance follows, and all
epochs that are stated have one time scale.
-/

namespace Sidereon.MergeReport

open Foundation Sidereon.Distribution
open MergePolicy (Double Policy Combine PrecedenceScope Named Continuity)

section Audit

/-- A cell of a merge: an epoch and a satellite. -/
abbrev Place : Type := Split × Satellite

instance lawfulPlace : LawfulBEq Place := inferInstance

/-- The cell of an accepted one. -/
def AgreementCell.place {n : Nat} (cell : AgreementCell n) : Place := (cell.epoch, cell.satellite)

/-- What cells are ordered by. -/
def Place.key (place : Place) : (Rat ×ₗ Rat) ×ₗ (Nat ×ₗ Nat) := cellKey place.1 place.2

/-- A cell whose position was withheld from some sources. -/
structure Withheld (n : Nat) where
  place : Place
  sources : Sources n

/-- A clock of a source that was not used in a cell. -/
structure ClockOmission (n : Nat) where
  place : Place
  source : Fin n

/-- What a merge did not write, and the epochs of its provenance. -/
structure Audited (n : Nat) where
  omitted : List Split
  withheld : List (Withheld n)
  clockOmissions : List (ClockOmission n)
  provenance : List Split

variable (offsetAt : Float → Option Float) (n : Nat) (policy : Policy)

/-- The rule of combination as the policy records it. -/
def combineValue : Value := Named.toText policy.combine

/-- `verify_dropped_epoch`, with the source, the index and the reason. -/
def verifyDroppedEpoch (dropped context : Value) : Except Refusal (Fin n × Int × Binary) := do
  let values ← exactFields dropped ["source", "epoch_index", "epoch", "reason"] context
  let source ← sourceIndex n (values.get "source") (inside context "source")
  let index ← nonnegativeInteger (values.get "epoch_index") (inside context "epoch_index")
  discard (mergeEpochSplit offsetAt (values.get "epoch") (inside context "epoch"))
  let reason ← omissionReason ["off_target_grid", "not_on_tick_axis"] (values.get "reason")
    (inside context "reason")
  .ok (source, index, reason)

/-- `verify_dropped_input_epochs`. -/
def verifyDroppedInputEpochs (dropped : Value) : Except Refusal Unit := do
  let verified ← verifyList dropped (.atom "dropped_input_epochs") (verifyDroppedEpoch offsetAt n)
  ensure (policy.epochIntervalS.isSome = true ∨
    ∀ epoch ∈ verified, epoch.2.2 ≠ ascii "off_target_grid")
    (.atom "dropped_epoch_without_target_grid")
  ensure (strictlyAscending (verified.map fun epoch => toLex (epoch.1, epoch.2.1)) = true)
    (invalidField (.atom "dropped_input_epochs"))

/-- `verify_omitted_epochs`. -/
def verifyOmittedEpochs (omitted : Value) (accepted : List Split) : Except Refusal (List Split) := do
  let epochs ← verifyList omitted (.atom "omitted_epochs") (mergeEpochSplit offsetAt)
  ensure (strictlyAscending (epochs.map Split.key) = true)
    (invalidField (.atom "omitted_epochs"))
  ensure (∀ epoch ∈ epochs, epoch ∉ accepted) (.atom "omitted_epoch_accepted")
  .ok epochs

/-- `verify_withheld_cell`. -/
def verifyWithheldCell (cell context : Value) : Except Refusal (Withheld n) := do
  let values ← exactFields cell ["satellite", "epoch", "sources"] context
  let satellite ← satelliteId (values.get "satellite") (inside context "satellite")
  let epoch ← mergeEpochSplit offsetAt (values.get "epoch") (inside context "epoch")
  let sources ← sourceIndices n (values.get "sources") (inside context "sources")
  .ok ⟨(epoch, satellite), sources⟩

variable {n} in
/-- The cells that have a position. -/
def orbitPlaces (cells : List (AgreementCell n)) : List Place :=
  (cells.filter fun cell => 0 < cell.position.members).map AgreementCell.place

/-- `verify_arc_withheld`. -/
def verifyArcWithheld (withheld : Value) (cells : List (AgreementCell n)) :
    Except Refusal (List (Withheld n)) := do
  let verified ← verifyList withheld (.atom "arc_withheld") (verifyWithheldCell offsetAt n)
  ensure (verified.isEmpty = true ∨
    policy.combine = Combine.precedence ∧ policy.precedenceScope = PrecedenceScope.satelliteArc)
    (.atom "withheld_cells_without_satellite_arc_precedence")
  ensure (∀ cell ∈ verified, cell.place ∉ orbitPlaces cells) (.atom "withheld_position_written")
  ensure (strictlyAscending (verified.map fun cell => cell.place.key) = true)
    (invalidField (.atom "arc_withheld"))
  .ok verified

variable {n} in
/-- The number of clock members of a cell, none for a cell that is not accepted. -/
def clockMembersAt (cells : List (AgreementCell n)) (place : Place) : Nat :=
  ((cells.find? fun cell => cell.place = place).map fun cell => cell.clock.members).getD 0

/-- The reasons of omitted clocks. -/
def clockReasons : List String :=
  ["datum_not_observable", "preferred_source_without_clock", "no_consensus"]

/-- The conditions of `verify_clock_omission` on what is read. -/
def clockOmissionConditions (source : Fin n) (reason : Binary) (preferred : Option (Fin n))
    (cellHasClock : Bool) (members : Nat) (context : Value) : Except Refusal Unit := do
  ensure (reason ≠ ascii "preferred_source_without_clock" ∨ policy.combine = Combine.precedence)
    (invalidField (inside context "reason"))
  ensure (reason = ascii "preferred_source_without_clock" ∨ preferred.isNone = true)
    (invalidField (inside context "preferred"))
  ensure (reason ≠ ascii "datum_not_observable" ∨ source.val ≠ 0)
    (invalidField (inside context "source"))
  ensure (cellHasClock = decide (0 < members)) (invalidField (inside context "cell_has_clock"))

/-- A boolean. -/
def booleanField (value field : Value) : Except Refusal Bool :=
  match value with
  | .atom "true" => .ok true
  | .atom "false" => .ok false
  | _ => .error (invalidField field)

/-- `verify_clock_omission`. -/
def verifyClockOmission (cells : List (AgreementCell n)) (omission context : Value) :
    Except Refusal (ClockOmission n) := do
  let values ← exactFields omission
    ["epoch", "satellite", "source", "reason", "preferred", "cell_has_clock"] context
  let epoch ← mergeEpochSplit offsetAt (values.get "epoch") (inside context "epoch")
  let satellite ← satelliteId (values.get "satellite") (inside context "satellite")
  let source ← sourceIndex n (values.get "source") (inside context "source")
  let reason ← omissionReason clockReasons (values.get "reason") (inside context "reason")
  let preferred ← optionalSourceIndex n (values.get "preferred") (inside context "preferred")
  let cellHasClock ← booleanField (values.get "cell_has_clock") (inside context "cell_has_clock")
  clockOmissionConditions n policy source reason preferred cellHasClock
    (clockMembersAt cells (epoch, satellite)) context
  .ok ⟨(epoch, satellite), source⟩

/-- `verify_clock_omissions`. -/
def verifyClockOmissions (omissions : Value) (cells : List (AgreementCell n)) :
    Except Refusal (List (ClockOmission n)) := do
  let verified ← verifyList omissions (.atom "clock_omissions")
    (verifyClockOmission offsetAt n policy cells)
  ensure (strictlyAscending (verified.map fun omission =>
    toLex (omission.place.key, omission.source)) = true) (invalidField (.atom "clock_omissions"))
  ensure (∀ omission ∈ verified, clockMembersAt cells omission.place +
    (verified.filter fun other => other.place = omission.place).length ≤ n)
    (.atom "clock_omissions_exceed_sources")
  .ok verified

/-- What the checks of the continuity report decide, of `NIF.sp3_orbit_class_speed_bound_m_s`. -/
abbrev ContinuityCheck : Type := Nat → Value → Continuity → Policy → Except Refusal Unit

variable (continuityCheck : ContinuityCheck)

/-- `verify_merge_continuity`. -/
def verifyMergeContinuity (report : Value) : Except Refusal Unit :=
  match report, policy.verifyContinuity with
  | .atom "nil", none => .ok ()
  | .map entries, some requested => continuityCheck n (.map entries) requested policy
  | _, _ => .error (invalidField (.atom "continuity"))

/-- `verify_merge_reporting`. -/
def verifyMergeReporting (values : Record) (schemaVersion : Nat) (cells : List (AgreementCell n)) :
    Except Refusal (List Split) :=
  if schemaVersion < 3 then .ok []
  else do
    verifyMergeContinuity n policy continuityCheck (values.get "continuity")
    verifyMergeProvenance offsetAt (combineValue policy) (values.get "provenance")
      ((policy.provenance.map Named.toText).getD .nil) cells

/-- The items of a list. -/
def listItems : Value → List Value
  | .list items => items
  | _ => []

/-- `audit_epochs`. -/
def auditEpochs (values : Record) (schemaVersion : Nat) : List Value :=
  let epochOf := fun field => (listItems (values.get field)).map fun item => mapValue item "epoch"
  let epochs := epochOf "dropped_input_epochs" ++ listItems (values.get "omitted_epochs") ++
    (epochOf "arc_withheld" ++ epochOf "clock_omissions")
  if schemaVersion < 3 then epochs
  else match values.get "provenance" with
    | .map entries =>
      let items := fun field => listItems (mapValue (.map entries) field)
      epochs ++ (items "cells" ++ items "transitions").map (fun item => mapValue item "epoch") ++
        (items "coverage").flatMap fun coverage =>
          [mapValue coverage "first_epoch", mapValue coverage "last_epoch"].filter
            fun epoch => !epoch.isAtom "nil"
    | _ => epochs

/-- `verify_audit_time_scale`. The time scales are texts. -/
def verifyAuditTimeScale (values : Record) (schemaVersion : Nat) : Except Refusal Unit :=
  let scales := (auditEpochs values schemaVersion).map fun epoch => (mapValue epoch "time_scale").text?
  ensure ((uniq scales).length ≤ 1) (.atom "merge_report_time_scales_disagree")

/-- `verify_merge_audit`. -/
def verifyMergeAudit (values : Record) (schemaVersion : Nat) (cells : List (AgreementCell n)) :
    Except Refusal (Audited n) :=
  if schemaVersion = 1 then .ok ⟨[], [], [], []⟩
  else do
    verifyDroppedInputEpochs offsetAt n policy (values.get "dropped_input_epochs")
    let omitted ← verifyOmittedEpochs offsetAt (values.get "omitted_epochs")
      (cells.map AgreementCell.epoch)
    let withheld ← verifyArcWithheld offsetAt n policy (values.get "arc_withheld") cells
    let clockOmissions ←
      verifyClockOmissions offsetAt n policy (values.get "clock_omissions") cells
    let provenance ←
      verifyMergeReporting offsetAt n policy continuityCheck values schemaVersion cells
    verifyAuditTimeScale values schemaVersion
    .ok ⟨omitted, withheld, clockOmissions, provenance⟩

end Audit

end Sidereon.MergeReport
