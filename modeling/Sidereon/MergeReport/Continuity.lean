import Mathlib
import Sidereon.MergeReport.Result

/-!
# Continuity reports

A merge that is asked to checks the continuity of its product. Each defect that it finds restates the
fields of its kind, each violation names the cells that its defect rests on and the sources they were
written from, and the splices are the violations that cross contributors.
-/

namespace Sidereon.MergeReport

open Foundation Sidereon.Distribution
open MergePolicy (Double Policy OrbitClass Continuity)

section Equality

mutual

/-- `==`, of numbers by their values and of maps in any order. -/
def Value.same : Value → Value → Bool
  | .atom name, .atom other => name == other
  | .number own, .number other => own.value == other.value
  | .text bytes, .text other => bytes == other
  | .list items, .list others => sameItems items others
  | .tuple items, .tuple others => sameItems items others
  | .map entries, .map others => entries.length == others.length && sameEntries entries others
  | _, _ => false

/-- Item by item. -/
def sameItems : List Value → List Value → Bool
  | [], [] => true
  | item :: items, other :: others => item.same other && sameItems items others
  | _, _ => false

/-- Every entry is among others. -/
def sameEntries : List (Value × Value) → List (Value × Value) → Bool
  | [], _ => true
  | (key, value) :: entries, others =>
    others.any (fun other => key.same other.1 && value.same other.2) && sameEntries entries others

end

/-- `===` with a double or `nil`. -/
def Value.isExactly (value : Value) (expected : Option Double) : Bool :=
  match value, expected with
  | .number own, some x => own == x.number
  | .atom name, none => name == "nil"
  | _, _ => false

end Equality

section Defects

/-- What a defect rests on. -/
inductive Finding where
  | duplicateEpoch (epoch : Double)
  | singleSampleSeries
  | unusableSample
  | speedBound (first last bound : Double)
  | holdOutResidual (epoch tolerance : Double) (nodes : List Double)

/-- A defect of a satellite. -/
structure Defect where
  satellite : Satellite
  finding : Finding

/-- `optional_finite_float`, with the double. -/
def optionalFiniteFloat (value field : Value) : Except Refusal (Option Double) :=
  match value with
  | .atom "nil" => .ok none
  | value => (finiteFloat value field).map some

/-- `nonnegative_float`, with the double. -/
def nonnegativeFloat (value field : Value) : Except Refusal Double := do
  let x ← finiteFloat value field
  ensure (0 ≤ x.exact_) (invalidField field)
  .ok x

/-- `ascending_epochs`, with the epochs. -/
def ascendingEpochs (value field : Value) : Except Refusal (List Double) :=
  match value with
  | .list items => do
    let epochs ← checkEach (fun _ item => finiteFloat item field) 0 items
    ensure (strictlyAscending (epochs.map Double.exact_) = true) (invalidField field)
    .ok epochs
  | _ => .error (invalidField field)

variable (values : Record) (context : Value)

/-- The summary fields restate those of a kind. -/
def verifySummary (first last magnitude bound : Option Double) : Except Refusal Unit :=
  ensure ((values.get "from_j2000_s").isExactly first = true ∧
    (values.get "to_j2000_s").isExactly last = true ∧
    (values.get "magnitude").isExactly magnitude = true ∧
    (values.get "bound").isExactly bound = true) (invalidField (inside context "summary"))

/-- A field of a defect that is a finite double. -/
def defectFloat (field : String) : Except Refusal Double :=
  finiteFloat (values.get field) (inside context field)

/-- A field of a defect that is a double and not negative. -/
def defectSize (field : String) : Except Refusal Double :=
  nonnegativeFloat (values.get field) (inside context field)

/-- `verify_defect_fields` of `duplicate_epoch`. -/
def verifyDuplicateEpoch : Except Refusal Finding := do
  let epoch ← defectFloat values context "epoch_j2000_s"
  match values.get "occurrences" with
  | .number (.int occurrences) => do
    ensure (2 ≤ occurrences) (invalidField (inside context "occurrences"))
    let magnitude ← orArithmetic ((Foundation.Beam.Number.int occurrences).toFloat?.bind finite?)
    verifySummary values context (some epoch) (some epoch) (some magnitude) none
    .ok (.duplicateEpoch epoch)
  | _ => .error (invalidField (inside context "occurrences"))

/-- `verify_defect_fields` of `unusable_sample`. -/
def verifyUnusableSample : Except Refusal Finding := do
  let epoch ← optionalFiniteFloat (values.get "epoch_j2000_s") (inside context "epoch_j2000_s")
  discard (nonnegativeInteger (values.get "sample_index") (inside context "sample_index"))
  let reason ← omissionReason ["epoch_not_placed", "non_finite_position"] (values.get "reason")
    (inside context "reason")
  ensure (reason = ascii "epoch_not_placed" ↔ epoch.isNone = true)
    (invalidField (inside context "reason_epoch"))
  verifySummary values context epoch epoch none none
  .ok .unusableSample

/-- The interval, and the speed from it, are formed as the core forms them, and the speed is above the
bound. -/
def speedFormed? (first last interval displacement speed bound : Double) : Option Bool :=
  if interval.exact_ ≤ 0 then some false
  else do
    let between ← finite? (last.value - first.value)
    if between ≠ interval then some false
    else do
      let formed ← finite? (displacement.value / interval.value)
      some (formed = speed ∧ bound.exact_ < speed.exact_)

/-- `verify_defect_fields` of `speed_bound`. -/
def verifySpeedBound : Except Refusal Finding := do
  let first ← defectFloat values context "from_j2000_s"
  let last ← defectFloat values context "to_j2000_s"
  let interval ← defectFloat values context "interval_s"
  let displacement ← defectSize values context "displacement_m"
  let speed ← defectFloat values context "implied_speed_m_s"
  let bound ← defectSize values context "bound_m_s"
  let formed ← orArithmetic (speedFormed? first last interval displacement speed bound)
  ensure (formed = true) (invalidField (inside context "implied_speed_m_s"))
  verifySummary values context (some first) (some last) (some speed) (some bound)
  .ok (.speedBound first last bound)

/-- `verify_defect_fields` of `hold_out_residual`. -/
def verifyHoldOutResidual : Except Refusal Finding := do
  let epoch ← defectFloat values context "epoch_j2000_s"
  let preceding ← defectFloat values context "preceding_j2000_s"
  let residual ← defectSize values context "residual_m"
  let tolerance ← defectFloat values context "tolerance_m"
  let nodes ← ascendingEpochs (values.get "node_epochs_j2000_s")
    (inside context "node_epochs_j2000_s")
  ensure (preceding.exact_ < epoch.exact_ ∧ tolerance.exact_ < residual.exact_)
    (invalidField (inside context "residual_m"))
  verifySummary values context (some preceding) (some epoch) (some residual) (some tolerance)
  .ok (.holdOutResidual epoch tolerance nodes)

/-- The fields of `@continuity_defect_kind_fields` and the checks of `verify_defect_fields`, by kind. -/
def defectKinds : List (String × List String × (Record → Value → Except Refusal Finding)) := [
  ("duplicate_epoch", ["epoch_j2000_s", "occurrences"], verifyDuplicateEpoch),
  ("single_sample_series", [], fun values context => do
    verifySummary values context none none none none
    .ok .singleSampleSeries),
  ("unusable_sample", ["epoch_j2000_s", "sample_index", "reason"], verifyUnusableSample),
  ("speed_bound", ["interval_s", "displacement_m", "implied_speed_m_s", "bound_m_s"],
    verifySpeedBound),
  ("hold_out_residual", ["epoch_j2000_s", "preceding_j2000_s", "residual_m", "tolerance_m",
    "node_epochs_j2000_s"], verifyHoldOutResidual)]

/-- `@continuity_defect_summary`. -/
def defectSummary : List String :=
  ["kind", "satellite", "from_j2000_s", "to_j2000_s", "magnitude", "bound"]

/-- `verify_continuity_defect`. -/
def verifyContinuityDefect (defect context : Value) : Except Refusal Defect :=
  match defect with
  | .map entries =>
    let kind := labelString (mapValue (.map entries) "kind")
    match defectKinds.find? fun known => kind = some (ascii known.1) with
    | some (_, fields, verify) => do
      let values ← exactFields (.map entries) (defectSummary ++ fields) context
      let satellite ← satelliteId (values.get "satellite") (inside context "satellite")
      let finding ← verify values context
      .ok ⟨satellite, finding⟩
    | none => .error (invalidField (inside context "kind"))
  | _ => .error (invalidField context)

/-- `defect_cells`. -/
def Finding.cells : Finding → List (Double × Binary)
  | .duplicateEpoch epoch => [(epoch, ascii "repeated_epoch")]
  | .singleSampleSeries => []
  | .unusableSample => []
  | .speedBound first last _ => [(first, ascii "pair_end"), (last, ascii "pair_end")]
  | .holdOutResidual epoch _ nodes =>
    sortBy (fun cell : Double × Binary => cell.1.exact_)
      ((epoch, ascii "held_out") :: nodes.map fun node => (node, ascii "interpolation_node"))

end Defects

section Violations

variable {n : Nat}

/-- The sources that a value was written from. -/
def Selection.written : Selection n → List (Fin n)
  | .singleSource source => [source]
  | .precedence source _ _ => [source]
  | .combined members => members.indices

/-- A record that a defect rests on, and how its position was arrived at. -/
structure ContinuityCell (n : Nat) where
  epoch : Double
  role : Binary
  selection : Option (Selection n)

/-- A defect with its cells, and whether it crosses contributors. -/
structure Violation (n : Nat) where
  stated : Value
  satellite : Satellite
  cells : List (ContinuityCell n)
  crosses : Bool

/-- The sources of each written cell. -/
def writtenCells (cells : List (ContinuityCell n)) : List (List (Fin n)) :=
  cells.filterMap fun cell => cell.selection.map Selection.written

/-- The sources of the last written cell at an epoch, none for none. -/
def writtenAt (cells : List (ContinuityCell n)) (epoch : Double) : List (Fin n) :=
  ((cells.reverse.filter fun cell => cell.epoch = epoch).findSome? fun cell =>
    cell.selection.map Selection.written).getD []

/-- The sources at the ends of a speed-gated pair are those written there. -/
def Finding.endsWritten (cells : List (ContinuityCell n)) (first last : List (Fin n)) :
    Finding → Prop
  | .speedBound start stop _ => first = writtenAt cells start ∧ last = writtenAt cells stop
  | _ => True

instance (cells : List (ContinuityCell n)) (first last : List (Fin n)) (finding : Finding) :
    Decidable (finding.endsWritten cells first last) := by
  cases finding <;> unfold Finding.endsWritten <;> infer_instance

/-- Two consecutive written cells are from different sources. -/
def crossesContributors (written : List (List (Fin n))) : Bool :=
  (written.zip (written.drop 1)).any fun pair => pair.1 != pair.2

variable (n) (policy : Policy)

/-- `optional_source_indices`, with the indices. -/
def optionalSourceIndices (value field : Value) : Except Refusal (List (Fin n)) :=
  match value with
  | .list [] => .ok []
  | value => (sourceIndices n value field).map Sources.indices

/-- `verify_continuity_cell`. -/
def verifyContinuityCell (cell context : Value) : Except Refusal (ContinuityCell n) := do
  let values ← exactFields cell ["epoch_j2000_s", "role", "selection"] context
  let epoch ← finiteFloat (values.get "epoch_j2000_s") (inside context "epoch_j2000_s")
  let role ← omissionReason ["held_out", "interpolation_node", "pair_end", "repeated_epoch"]
    (values.get "role") (inside context "role")
  let selection ← verifyOptionalSelection n (combineValue policy) (values.get "selection")
    (inside context "selection")
  .ok ⟨epoch, role, selection⟩

/-- `verify_continuity_violation`. -/
def verifyContinuityViolation (violation context : Value) : Except Refusal (Violation n) := do
  let values ← exactFields violation
    ["defect", "from_sources", "to_sources", "cells", "sources", "crosses_contributors"] context
  let defect ← verifyContinuityDefect (values.get "defect") (inside context "defect")
  let indices := fun field => optionalSourceIndices n (values.get field) (inside context field)
  let first ← indices "from_sources"
  let last ← indices "to_sources"
  let sources ← indices "sources"
  let cells ← verifyList (values.get "cells") (inside context "cells")
    (verifyContinuityCell n policy)
  ensure (cells.map (fun cell => (cell.epoch.exact_, cell.role)) =
    defect.finding.cells.map fun cell => (cell.1.exact_, cell.2))
    (invalidField (inside context "cells"))
  let crosses ← booleanField (values.get "crosses_contributors")
    (inside context "crosses_contributors")
  ensure (defect.finding.endsWritten cells first last)
    (invalidField (inside context "pair_sources"))
  ensure (sources = sortBy id (uniq (writtenCells cells).flatten))
    (invalidField (inside context "sources"))
  ensure (crosses = crossesContributors (writtenCells cells))
    (invalidField (inside context "crosses_contributors"))
  .ok ⟨values.get "defect", defect.satellite, cells, crosses⟩

end Violations

section Report

-- `NIF.sp3_orbit_class_speed_bound_m_s`.
variable (speedBound : OrbitClass → Option Double)

/-- `canonical_speed_findings?`, of the bounds that speed findings state. -/
def canonicalSpeedFindings (bounds : List Double) (orbitClass : OrbitClass) (pairsChecked : Int) :
    Prop :=
  bounds.length ≤ pairsChecked ∧
    (speedBound orbitClass).any (fun bound => bounds.all (· = bound)) = true

/-- The findings and the checks that a request for a class of orbits allows. -/
def speedConsistent (bounds : List Double) (requested : Option OrbitClass) (pairsChecked : Int) :
    Prop :=
  match requested with
  | none => bounds = [] ∧ pairsChecked = 0
  | some orbitClass => canonicalSpeedFindings speedBound bounds orbitClass pairsChecked

/-- The findings and the checks that a request for residuals allows. -/
def residualConsistent (tolerances : List Double) (requested : Option Double)
    (checked skipped : Int) : Prop :=
  match requested with
  | none => tolerances = [] ∧ checked = 0 ∧ skipped = 0
  | some tolerance => tolerances.length ≤ checked ∧ ∀ stated ∈ tolerances, stated = tolerance

instance (bounds : List Double) (requested : Option OrbitClass) (pairsChecked : Int) :
    Decidable (speedConsistent speedBound bounds requested pairsChecked) := by
  cases requested <;> unfold speedConsistent <;> first
    | infer_instance
    | unfold canonicalSpeedFindings
      infer_instance

instance (tolerances : List Double) (requested : Option Double) (checked skipped : Int) :
    Decidable (residualConsistent tolerances requested checked skipped) := by
  cases requested <;> unfold residualConsistent <;> infer_instance

/-- `verify_continuity_request`. -/
def verifyContinuityRequest (defects : List Defect) (requested : Continuity)
    (pairsChecked checked skipped : Int) : Except Refusal Unit :=
  let bounds := defects.filterMap fun defect =>
    match defect.finding with
    | .speedBound _ _ bound => some bound
    | _ => none
  let tolerances := defects.filterMap fun defect =>
    match defect.finding with
    | .holdOutResidual _ tolerance _ => some tolerance
    | _ => none
  ensure (speedConsistent speedBound bounds requested.orbitClass pairsChecked ∧
    residualConsistent tolerances (requested.residualToleranceM.map (·.double)) checked skipped)
    (.atom "continuity_request_mismatch")

/-- The splices are the violations that cross contributors, as they are stated. -/
def verifySplices {n : Nat} (stated : List Value) (violations : List (Violation n)) :
    Value → Except Refusal Unit
  | .list splices =>
    let crossing := (stated.zip violations).filterMap fun violation =>
      if violation.2.crosses then some violation.1 else none
    ensure (sameItems splices crossing = true) (.atom "continuity_splice_mismatch")
  | _ => .error (invalidField (inside (.atom "continuity") "splices"))

/-- `verify_merge_continuity` of a report that was requested. -/
def verifyContinuityReport : ContinuityCheck := fun n report requested policy => do
  let field := inside (.atom "continuity")
  let values ← exactFields report ["defects", "attested", "pairs_checked", "residuals_checked",
    "residuals_skipped", "violations", "splices"] (.atom "continuity")
  let defects ← verifyList (values.get "defects") (.atom "continuity_defects")
    verifyContinuityDefect
  ensure ((values.get "attested").isAtom (toString defects.isEmpty) = true)
    (invalidField (field "attested"))
  let pairsChecked ← nonnegativeInteger (values.get "pairs_checked") (field "pairs_checked")
  let checked ← nonnegativeInteger (values.get "residuals_checked") (field "residuals_checked")
  let skipped ← nonnegativeInteger (values.get "residuals_skipped") (field "residuals_skipped")
  let violations ← verifyList (values.get "violations") (.atom "continuity_violations")
    (verifyContinuityViolation n policy)
  ensure (sameItems (violations.map Violation.stated) (listItems (values.get "defects")) = true)
    (.atom "continuity_violation_defect_mismatch")
  verifyContinuityRequest speedBound defects requested pairsChecked checked skipped
  verifySplices (listItems (values.get "violations")) violations (values.get "splices")

/-- The checks of a merge result, with those of its continuity report. -/
def ResultChecks.withContinuity (result : ResultChecks) : ResultChecks :=
  { result with continuity := verifyContinuityReport speedBound }

/-- The violations of a continuity report, none for none. -/
def readViolations (n : Nat) (policy : Policy) (continuity : Value) :
    Except Refusal (List (Violation n)) :=
  match continuity with
  | .map entries => verifyList (mapValue (.map entries) "violations")
      (.atom "continuity_violations") (verifyContinuityViolation n policy)
  | _ => .ok []

end Report

section Reading

variable {n : Nat} {speedBound : OrbitClass → Option Double} {policy : Policy} {report : Value}

/-- The violations of a continuity report that passes are read. -/
theorem readViolations_ok
    (verified : verifyMergeContinuity n policy (verifyContinuityReport speedBound) report = .ok ()) :
    ∃ violations, readViolations n policy report = .ok violations := by
  unfold verifyMergeContinuity at verified
  split at verified
  · exact ⟨[], rfl⟩
  · next entries requested _ =>
    obtain ⟨values, fields, rest⟩ := bind_ok.mp verified
    obtain ⟨_, _, rest⟩ := bind_ok.mp rest
    obtain ⟨_, _, rest⟩ := bind_ok.mp rest
    obtain ⟨_, _, rest⟩ := bind_ok.mp rest
    obtain ⟨_, _, rest⟩ := bind_ok.mp rest
    obtain ⟨_, _, rest⟩ := bind_ok.mp rest
    obtain ⟨violations, read, _⟩ := bind_ok.mp rest
    refine ⟨violations, ?_⟩
    rw [readViolations, mapValue, (exactFields_get fields (by decide)).1, Option.getD_some]
    exact read
  · cases verified

end Reading

end Sidereon.MergeReport
