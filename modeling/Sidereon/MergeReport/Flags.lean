import Sidereon.MergeReport.Audit
import Sidereon.MergeReport.EpochGrid

/-!
# Flags of merge results

A merge flags cells: those it quarantined, those of a single source, and those with position or clock
outliers. Verification joins the flags with the accepted cells by their epoch and satellite and
checks them against the counts of members and the policy.
-/

namespace Sidereon.MergeReport

open Foundation Sidereon.Distribution
open MergePolicy (Double Policy Combine PrecedenceScope)

section Model

/-- A flag: a cell and some sources. -/
structure Flag (n : Nat) where
  satellite : Satellite
  epoch : Split
  sources : Sources n

/-- The cell of a flag. -/
def Flag.place {n : Nat} (flag : Flag n) : Place := (flag.epoch, flag.satellite)

/-- The four lists of flags. -/
structure Flags (n : Nat) where
  quarantined : List (Flag n)
  singleSource : List (Flag n)
  positionOutliers : List (Flag n)
  clockOutliers : List (Flag n)

variable (offsetAt : Float → Option Float) (n : Nat)

/-- A flag of `verify_flags`. -/
def verifyFlag (flag context : Value) : Except Refusal (Flag n) := do
  let values ← exactFields flag ["satellite", "jd_whole", "jd_fraction", "sources"] context
  let satellite ← satelliteId (values.get "satellite") (inside context "satellite")
  let epoch ← canonicalSplit offsetAt (values.get "jd_whole") (values.get "jd_fraction") context
  let sources ← sourceIndices n (values.get "sources") (inside context "sources")
  .ok ⟨satellite, epoch, sources⟩

/-- `verify_flags`. -/
def verifyFlags (flags : Value) (kind : String) : Except Refusal (List (Flag n)) :=
  match flags with
  | .list items => do
    let verified ← checkEach (fun index item => verifyFlag offsetAt n item (contextAt kind index))
      0 items
    ensure (strictlyAscending (verified.map fun flag => flag.place.key) = true)
      (invalidField (.atom kind))
    .ok verified
  | _ => .error (invalidField (.atom kind))

variable {n} (policy : Policy)

/-- `Map.get` of flags by their cells. -/
def flagAt (flags : List (Flag n)) (place : Place) : Option (Flag n) :=
  flags.find? fun flag => flag.place = place

/-- `contested_minimum`. -/
def contestedMinimum : Int :=
  if policy.combine = Combine.precedence ∧ policy.outlierReject.isSome = true then
    max policy.minAgree.value 2
  else policy.minAgree.value

/-- `clock_refusal?`. -/
def clockRefusal (flag : Flag n) : Prop :=
  policy.combine = Combine.precedence ∧ policy.outlierReject.isSome = true ∧
    2 ≤ flag.sources.indices.length

instance (flag : Flag n) : Decidable (clockRefusal policy flag) := by
  unfold clockRefusal
  infer_instance

section Dispersion

/-- `effective_agreement_tolerances`. -/
def effectiveAgreementTolerances : Double × Double :=
  match policy.combine, policy.outlierReject with
  | .precedence, some (position, clock) => (position.double, clock.double)
  | _, _ => (policy.positionToleranceM.double, policy.clockToleranceS.double)

/-- `within_scaled_relative_policy_bound?`, unless an operation raises. -/
def withinScaledBound? (value bound : Double) (scale : Float) : Option Bool :=
  if bound.exact_ = 0 then some (value.exact_ == 0)
  else do
    let scaled ← finite? (value.value / (scale * (1.0 + 1.0e-12)))
    some (scaled.exact_ ≤ bound.exact_)

/-- `verify_selected_position_dispersion` and `verify_selected_clock_dispersion`. -/
def selectedDispersion (agreed : Agreed n) (selects : Bool) (field : String) :
    Except Refusal Unit :=
  if selects = true ∧ agreed.members ≠ 0 then
    memberMetricBound agreed.rms agreed.max agreed.members (agreed.members - 1) (.atom field)
  else .ok ()

/-- A distance, if there is one, is within a tolerance. -/
def maxWithin (distance : Option Double) (tolerance : Double) : Prop :=
  ∀ found ∈ distance, found.exact_ ≤ tolerance.exact_

instance (distance : Option Double) (tolerance : Double) :
    Decidable (maxWithin distance tolerance) := by
  unfold maxWithin
  infer_instance

/-- A distance is within a scaled tolerance. -/
def scaledWithin (distance : Option Double) (tolerance : Double) (scale : Float)
    (refusal : Refusal) : Except Refusal Unit :=
  match distance with
  | none => .ok ()
  | some found => do
    let within ← orArithmetic (withinScaledBound? found tolerance scale)
    ensure (within = true) refusal

/-- `verify_agreement_policy`, of a cell. -/
def verifyCellPolicy (cell : AgreementCell n) : Except Refusal Unit :=
  match policy.combine with
  | .mean => .ok ()
  | .precedence => do
    selectedDispersion cell.position true "selected_position_dispersion"
    selectedDispersion cell.clock true "selected_clock_dispersion"
    ensure (maxWithin cell.position.max (effectiveAgreementTolerances policy).1)
      (.atom "position_agreement_exceeds_policy")
    ensure (maxWithin cell.clock.max (effectiveAgreementTolerances policy).2)
      (.atom "clock_agreement_exceeds_policy")
  | .median => do
    selectedDispersion cell.clock (cell.clock.members % 2 == 1) "selected_clock_dispersion"
    scaledWithin cell.position.max policy.positionToleranceM.double (Float.sqrt 3.0)
      (.atom "position_agreement_exceeds_policy")
    scaledWithin cell.clock.max policy.clockToleranceS.double 1.0
      (.atom "clock_agreement_exceeds_policy")

end Dispersion

section Joins

/-- A clock-only cell and its flags. -/
def verifyClockOnlyFlags (clockMembers : Nat) (single outlier clockOutlier : Option (Flag n)) :
    Except Refusal Unit := do
  ensure (outlier.isNone = true) (.atom "invalid_position_outlier")
  ensure (single.isNone = true ∨ clockMembers = 1) (.atom "contradictory_single_source_flags")
  ensure (clockMembers ≠ 1 ∨ single.isSome = true ∨ clockOutlier.isSome = true)
    (.atom "unexplained_single_member_cell")

/-- A cell with a position and its flags. -/
def verifyPositionFlags (members : Nat) (single outlier : Option (Flag n)) :
    Except Refusal Unit := do
  ensure (single.isNone = true ∨ members = 1 ∧ outlier.isNone = true)
    (.atom "contradictory_single_source_flags")
  ensure (outlier.isNone = true ∨ 2 ≤ n) (.atom "invalid_position_outlier")
  ensure (∀ flag ∈ outlier, members + flag.sources.indices.length ≤ n)
    (.atom "invalid_position_outlier")
  ensure (outlier.isNone = true ∨ contestedMinimum policy ≤ members)
    (.atom "invalid_position_outlier_consensus")
  ensure (members ≠ 1 ∨ single.isSome = true ∨ outlier.isSome = true)
    (.atom "unexplained_single_member_cell")
  ensure (members ≤ 1 ∨ single.isNone = true) (.atom "invalid_single_source_flags")
  ensure (members ≤ 1 ∨ policy.minAgree.value ≤ members) (.atom "invalid_position_consensus")

/-- `verify_position_cell_flags`. -/
def verifyPositionCellFlags (cell : AgreementCell n)
    (single outlier clockOutlier : Option (Flag n)) : Except Refusal Unit :=
  if cell.position.members = 0 then
    verifyClockOnlyFlags cell.clock.members single outlier clockOutlier
  else verifyPositionFlags policy cell.position.members single outlier

/-- `verify_clock_cell_flags`. -/
def verifyClockCellFlags (members : Nat) (outlier : Option (Flag n)) : Except Refusal Unit :=
  match outlier with
  | none => ensure (members ≤ 1 ∨ policy.minAgree.value ≤ members) (.atom "invalid_clock_consensus")
  | some flag => do
    ensure (2 ≤ n) (.atom "invalid_clock_outlier")
    ensure (members = 0 ∨ members + flag.sources.indices.length ≤ n)
      (.atom "invalid_clock_outlier")
    ensure (members = 0 ∨ contestedMinimum policy ≤ members)
      (.atom "invalid_clock_outlier_consensus")
    ensure (members ≠ 0 ∨ clockRefusal policy flag) (.atom "invalid_clock_outlier")

/-- `verify_accepted_cell_flags`, of a cell. -/
def verifyCellFlags (flags : Flags n) (cell : AgreementCell n) : Except Refusal Unit := do
  let clockOutlier := flagAt flags.clockOutliers cell.place
  verifyPositionCellFlags policy cell (flagAt flags.singleSource cell.place)
    (flagAt flags.positionOutliers cell.place) clockOutlier
  verifyClockCellFlags policy cell.clock.members clockOutlier

/-- The sources that own the single cells of a satellite. -/
def arcOwners (flags : Flags n) (satellite : Satellite) : List (Fin n) :=
  uniq ((flags.singleSource.filter fun flag => flag.satellite = satellite).filterMap fun flag =>
    flag.sources.indices.head?)

/-- All flags. -/
def Flags.all (flags : Flags n) : List (Flag n) :=
  flags.quarantined ++ flags.singleSource ++ flags.positionOutliers ++ flags.clockOutliers

/-- A satellite of `verify_satellite_arc_flags`. -/
def verifyArcFlags (flags : Flags n) (satellite : Satellite) : Except Refusal Unit :=
  match arcOwners flags satellite with
  | [owner] =>
    ensure ((∀ flag ∈ flags.all, flag.satellite = satellite →
        ∀ source ∈ flag.sources.indices, owner ≤ source) ∧
      (policy.outlierReject.isSome = true ∨
        ∀ flag ∈ flags.positionOutliers ++ flags.clockOutliers,
          flag.satellite = satellite → owner ∉ flag.sources.indices))
      (.atom "satellite_arc_precedence_mismatch")
  | _ => .error (.atom "satellite_arc_precedence_mismatch")

/-- `verify_precedence_flags`. -/
def verifyPrecedenceFlags (flags : Flags n) : Except Refusal Unit :=
  if policy.combine ≠ Combine.precedence then .ok ()
  else do
    ensure (policy.outlierReject.isSome = true ∨
      ∀ flag ∈ flags.positionOutliers ++ flags.clockOutliers,
        ∀ source ∈ flag.sources.indices, source.val ≠ 0)
      (.atom "precedence_outlier_contains_preferred_source")
    if policy.precedenceScope ≠ PrecedenceScope.satelliteArc then .ok ()
    else (uniq (flags.singleSource.map Flag.satellite)).forM (verifyArcFlags policy flags)

/-- `verify_single_source_report`. -/
def verifySingleSourceReport (cells : List (AgreementCell n)) (flags : Flags n) :
    Except Refusal Unit :=
  if n = 1 then
    ensure (flags.quarantined.isEmpty = true ∧ flags.positionOutliers.isEmpty = true ∧
      flags.clockOutliers.isEmpty = true ∧
      (∀ cell ∈ cells, cell.place ∈ flags.singleSource.map Flag.place) ∧
      (∀ flag ∈ flags.singleSource, flag.place ∈ cells.map AgreementCell.place) ∧
      ∀ cell ∈ cells, cell.position.members = 1 ∧ cell.clock.members ≤ 1 ∨
        cell.position.members = 0 ∧ cell.clock.members = 1)
      (.atom "invalid_single_product_merge_report")
  else .ok ()

/-- `verify_report_systems`. -/
def verifyReportSystems (satellites : List Satellite) : Except Refusal Unit :=
  if policy.systems.systems.isEmpty then .ok ()
  else
    ensure (∀ satellite ∈ satellites, ∃ system ∈ policy.systems.systems,
      system.letter = satellite.text.take 1) (.atom "merge_report_system_mismatch")

/-- The grid check, of epochs as exact Julian dates. -/
def verifySplitGrid (epochs : List Split) : Except Refusal Unit :=
  let records := epochs.map fun epoch => Epoch.mk epoch.whole.exact_ epoch.fraction.exact_
  match verifyEpochGrid records (policy.epochIntervalS.map Double.exact_) with
  | .ok (.ok ()) => .ok ()
  | .ok (.error .mergeReportEpochAliasMismatch) =>
    .error (.atom "merge_report_epoch_alias_mismatch")
  | .ok (.error .mergeReportEpochGridMismatch) => .error (.atom "merge_report_epoch_grid_mismatch")
  | .error .arithmetic => orArithmetic none

/-- The epochs that are on the grid of a report. -/
def gridEpochs (flags : Flags n) (agreement : Agreement n) (audited : Audited n) : List Split :=
  flags.all.map Flag.epoch ++ agreement.cells.map AgreementCell.epoch ++
    agreement.epochs.map EpochAgreement.epoch ++
    (audited.omitted ++ audited.withheld.map (fun cell => cell.place.1) ++
      audited.clockOmissions.map (fun omission => omission.place.1) ++ audited.provenance)

/-- The satellites of a report. -/
def reportSatellites (flags : Flags n) (agreement : Agreement n) (audited : Audited n) :
    List Satellite :=
  flags.all.map Flag.satellite ++ (audited.withheld.map (fun cell => cell.place.2) ++
    audited.clockOmissions.map (fun omission => omission.place.2)) ++
    agreement.cells.map AgreementCell.satellite

/-- The checks of `verify_merge_result_consistency` that join flags with accepted cells. -/
def verifyJoinedFlags (flags : Flags n) (cells : List (AgreementCell n)) : Except Refusal Unit := do
  ensure (∀ flag ∈ flags.quarantined, 2 ≤ flag.sources.indices.length)
    (.atom "invalid_quarantined_flags")
  ensure (flags.quarantined.isEmpty = true ∨ 2 ≤ contestedMinimum policy)
    (.atom "invalid_quarantined_consensus")
  ensure (∀ flag ∈ flags.singleSource, flag.sources.indices.length = 1)
    (.atom "invalid_single_source_flags")
  ensure ((∀ flag ∈ flags.quarantined, flag.place ∉ flags.positionOutliers.map Flag.place) ∧
    ∀ flag ∈ flags.quarantined, ∀ cell ∈ cells, cell.place = flag.place → cell.position.members = 0)
    (.atom "contradictory_quarantined_flags")
  ensure ((∀ flag ∈ flags.singleSource, flag.place ∈ cells.map AgreementCell.place) ∧
    (∀ flag ∈ flags.positionOutliers, flag.place ∈ cells.map AgreementCell.place) ∧
    ∀ flag ∈ flags.clockOutliers, flag.place ∉ cells.map AgreementCell.place →
      clockRefusal policy flag) (.atom "orphaned_merge_flags")
  ensure ((∀ flag ∈ flags.singleSource, flag.place ∉ flags.positionOutliers.map Flag.place) ∧
    ∀ flag ∈ flags.singleSource, flag.place ∈ flags.clockOutliers.map Flag.place →
      ∀ cell ∈ cells, cell.place = flag.place → cell.position.members = 1)
    (.atom "contradictory_single_source_flags")

/-- `verify_merge_result_consistency`. -/
def verifyMergeResultConsistency (flags : Flags n) (agreement : Agreement n) (audited : Audited n) :
    Except Refusal Unit := do
  verifyJoinedFlags policy flags agreement.cells
  agreement.cells.forM (verifyCellPolicy policy)
  verifySplitGrid policy (gridEpochs flags agreement audited)
  verifyPrecedenceFlags policy flags
  agreement.cells.forM (verifyCellFlags policy flags)
  verifySingleSourceReport agreement.cells flags
  verifyReportSystems policy (reportSatellites flags agreement audited)

end Joins

end Model

end Sidereon.MergeReport
