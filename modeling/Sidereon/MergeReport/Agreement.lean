import Sidereon.MergeReport.Selections

/-!
# Agreement of merge results

The accepted cells of a merge, each with the number of sources that agree on its position and on its
clock and with how far they are apart, and what these come to for each epoch and for all. The sums
are of doubles in the order of the report.
-/

namespace Sidereon.MergeReport

open Foundation Sidereon.Distribution
open Foundation.Beam (Number floatValue)
open MergePolicy (Double)

section Order

variable {κ : Type} [LinearOrder κ]

/-- `strictly_ascending?`. -/
def strictlyAscending : List κ → Bool
  | [] => true
  | [_] => true
  | first :: second :: rest => first < second && strictlyAscending (second :: rest)

theorem pairwise_of_strictlyAscending {keys : List κ} :
    strictlyAscending keys = true → keys.Pairwise (· < ·) := by
  fun_induction strictlyAscending keys with
  | case1 => exact fun _ => .nil
  | case2 key => exact fun _ => List.pairwise_singleton _ key
  | case3 first second rest ih =>
    intro ascending
    rw [Bool.and_eq_true, decide_eq_true_eq] at ascending
    have later := ih ascending.2
    refine .cons (fun key member => ?_) later
    rcases List.mem_cons.mp member with same | after
    · exact same ▸ ascending.1
    · exact ascending.1.trans ((List.pairwise_cons.mp later).1 key after)

end Order

section Doubles

/-- A computed double, unless the operation raises. -/
def finite? (x : Float) : Option Double := if finite : x.isFinite = true then some ⟨x, finite⟩ else none

/-- `0.0`. -/
def zero : Double := ⟨0.0, MergePolicy.finite_zero⟩

/-- `repeated_float_sum`. -/
def repeatedFloatSum (value : Double) : Nat → Option Double
  | 0 => some zero
  | terms + 1 => do
    let sum ← repeatedFloatSum value terms
    finite? (sum.value + value.value)

/-- `:math.sqrt` of a quotient by an integer. -/
def sqrtQuotient (dividend : Double) (divisor : Nat) : Option Double := do
  let divisor ← (Number.int divisor).toFloat?
  let quotient ← finite? (dividend.value / divisor)
  finite? quotient.value.sqrt

/-- The bounds of `verify_member_metric_bound`, unless an operation raises. -/
def metricBounds? (max : Double) (members upperTerms : Nat) : Option (Double × Double) := do
  let square ← finite? (max.value * max.value)
  let upperSum ← repeatedFloatSum square upperTerms
  let lower ← sqrtQuotient square members
  let upper ← sqrtQuotient upperSum members
  some (lower, upper)

/-- `verify_member_metric_bound` of floats. -/
def withinMetricBounds (rms max : Double) (members upperTerms : Nat) : Bool :=
  match metricBounds? max members upperTerms with
  | some (lower, upper) => lower.exact_ ≤ rms.exact_ && rms.exact_ ≤ upper.exact_
  | none => false

/-- The sum of squares and the count of `pooled_rms`. -/
def poolSquares : List (Double × Nat) → Double → Nat → Option (Double × Nat)
  | [], sum, members => some (sum, members)
  | (rms, count) :: metrics, sum, members => do
    let times ← (Number.int count).toFloat?
    let square ← finite? (rms.value * rms.value)
    let weighted ← finite? (square.value * times)
    let sum ← finite? (sum.value + weighted.value)
    poolSquares metrics sum (members + count)

/-- `pooled_rms`. -/
def pooledRms (metrics : List (Double × Nat)) : Except Refusal (Option Double) :=
  match metrics with
  | [] => .ok none
  | metrics => do
    let (sum, members) ← orArithmetic (poolSquares metrics zero 0)
    let rms ← orArithmetic (sqrtQuotient sum members)
    .ok (some rms)

/-- `optional_max`. -/
def optionalMax : List Double → Option Double
  | [] => none
  | value :: values =>
    some (values.foldl (fun greatest value =>
      if greatest.exact_ < value.exact_ then value else greatest) value)

/-- `exact_number?`. -/
def exactNumber : Option Double → Option Double → Bool
  | none, none => true
  | some left, some right => left.exact_ == right.exact_
  | _, _ => false

/-- `optional_nonnegative_float`, with the double. -/
def optionalNonnegativeFloat (value field : Value) : Except Refusal (Option Double) :=
  match value with
  | .atom "nil" => .ok none
  | value => do
    let x ← finiteFloat value field
    ensure (0 ≤ x.exact_) (invalidField field)
    .ok (some x)

end Doubles

section Cells

/-- What the sources of a cell agree on, for its position or for its clock. -/
structure Agreed (n : Nat) where
  members : Nat
  bounded : members ≤ n
  rms : Option Double
  max : Option Double

/-- An accepted cell. -/
structure AgreementCell (n : Nat) where
  satellite : Satellite
  epoch : Split
  position : Agreed n
  clock : Agreed n
  accepted : 0 < position.members ∨ 0 < clock.members

/-- What cells are ordered by. -/
def AgreementCell.key {n : Nat} (cell : AgreementCell n) : (Rat ×ₗ Rat) ×ₗ (Nat ×ₗ Nat) :=
  cellKey cell.epoch cell.satellite

variable (offsetAt : Float → Option Float) (n : Nat)

theorem toNat_le {count : Int} {n : Nat} (bounded : count ≤ n ∧ 0 ≤ count) : count.toNat ≤ n := by
  omega

/-- `bounded_count`, with the count. -/
def boundedCount (value field : Value) : Except Refusal {count : Nat // count ≤ n} :=
  match value with
  | .number (.int count) =>
    if bounded : count ≤ n ∧ 0 ≤ count then .ok ⟨count.toNat, toNat_le bounded⟩
    else .error (invalidField field)
  | _ => .error (invalidField field)

/-- The count and the metrics of a cell's position or clock. -/
def agreedFields (values : Record) (members rms max : String) (context : Value) :
    Except Refusal (Agreed n) := do
  let count ← boundedCount n (values.get members) (inside context members)
  let rms ← optionalNonnegativeFloat (values.get rms) (inside context rms)
  let max ← optionalNonnegativeFloat (values.get max) (inside context max)
  .ok ⟨count.val, count.property, rms, max⟩

/-- `verify_position_metric_presence` and `verify_clock_metric_presence`. -/
def metricPresence {n : Nat} (agreed : Agreed n) (field : Value) : Except Refusal Unit :=
  ensure (agreed.members = 0 ∧ agreed.rms.isNone = true ∧ agreed.max.isNone = true ∨
    0 < agreed.members ∧ agreed.rms.isSome = true ∧ agreed.max.isSome = true) (invalidField field)

/-- `verify_optional_metric_pair`. -/
def optionalMetricPair (rms max : Option Double) (field : Value) : Except Refusal Unit :=
  ensure (rms.isSome = max.isSome) (invalidField field)

/-- `verify_member_metric_bound`. -/
def memberMetricBound (rms max : Option Double) (members upperTerms : Nat) (field : Value) :
    Except Refusal Unit :=
  match rms, max with
  | none, none => ensure (members = 0) (invalidField field)
  | some rms, some max =>
    ensure (0 < members ∧ withinMetricBounds rms max members upperTerms = true) (invalidField field)
  | _, _ => .error (invalidField field)

/-- Half of `verify_cell_dispersion`. -/
def cellDispersion {n : Nat} (agreed : Agreed n) (pair dispersion : Value) : Except Refusal Unit := do
  optionalMetricPair agreed.rms agreed.max pair
  memberMetricBound agreed.rms agreed.max agreed.members agreed.members dispersion
  ensure (agreed.members ≠ 1 ∨
    exactNumber agreed.rms (some zero) = true ∧ exactNumber agreed.max (some zero) = true)
    (invalidField dispersion)

/-- A cell of `verify_agreement_cells`. -/
def verifyAgreementCell (cell context : Value) : Except Refusal (AgreementCell n) := do
  let values ← exactFields cell
    ["satellite", "jd_whole", "jd_fraction", "position_members", "position_rms_m",
      "position_max_m", "clock_members", "clock_rms_s", "clock_max_s"] context
  let satellite ← satelliteId (values.get "satellite") (inside context "satellite")
  let epoch ← canonicalSplit offsetAt (values.get "jd_whole") (values.get "jd_fraction") context
  let position ← agreedFields n values "position_members" "position_rms_m" "position_max_m" context
  let clock ← agreedFields n values "clock_members" "clock_rms_s" "clock_max_s" context
  metricPresence position (inside context "position_metrics")
  metricPresence clock (inside context "clock_metrics")
  if accepted : 0 < position.members ∨ 0 < clock.members then do
    cellDispersion position (inside context "position") (inside context "position_dispersion")
    cellDispersion clock (inside context "clock") (inside context "clock_dispersion")
    .ok ⟨satellite, epoch, position, clock, accepted⟩
  else .error (invalidField (inside context "members"))

/-- `verify_agreement_cells`. -/
def verifyAgreementCells (cells : Value) : Except Refusal (List (AgreementCell n)) :=
  match cells with
  | .list items => do
    let verified ← checkEach
      (fun index item => verifyAgreementCell offsetAt n item (contextAt "agreement_cell" index))
      0 items
    ensure (strictlyAscending (verified.map AgreementCell.key) = true)
      (invalidField (.atom "agreement_cells"))
    .ok verified
  | _ => .error (invalidField (.atom "agreement_cells"))

end Cells

section Aggregates

/-- What the cells of an epoch come to. -/
structure EpochAgreement where
  epoch : Split
  satellites : Int
  positionRms : Option Double
  positionMax : Option Double
  clockRms : Option Double
  clockMax : Option Double

/-- `==` of what epochs come to. -/
def EpochAgreement.same (left right : EpochAgreement) : Bool :=
  left.epoch.key == right.epoch.key && left.satellites == right.satellites &&
    exactNumber left.positionRms right.positionRms &&
    exactNumber left.positionMax right.positionMax &&
    exactNumber left.clockRms right.clockRms && exactNumber left.clockMax right.clockMax

variable (offsetAt : Float → Option Float)

/-- `nonnegative_integer`, with the integer. -/
def nonnegativeInteger (value field : Value) : Except Refusal Int :=
  match value with
  | .number (.int n) => if 0 ≤ n then .ok n else .error (invalidField field)
  | _ => .error (invalidField field)

/-- An epoch of `verify_agreement_epochs`. -/
def verifyAgreementEpoch (epoch context : Value) : Except Refusal EpochAgreement := do
  let values ← exactFields epoch
    ["jd_whole", "jd_fraction", "satellites", "position_rms_m", "position_max_m", "clock_rms_s",
      "clock_max_s"] context
  let split ← canonicalSplit offsetAt (values.get "jd_whole") (values.get "jd_fraction") context
  let satellites ← nonnegativeInteger (values.get "satellites") (inside context "satellites")
  let metric := fun field => optionalNonnegativeFloat (values.get field) (inside context field)
  let positionRms ← metric "position_rms_m"
  let positionMax ← metric "position_max_m"
  let clockRms ← metric "clock_rms_s"
  let clockMax ← metric "clock_max_s"
  optionalMetricPair positionRms positionMax (inside context "position")
  optionalMetricPair clockRms clockMax (inside context "clock")
  .ok ⟨split, satellites, positionRms, positionMax, clockRms, clockMax⟩

/-- `verify_agreement_epochs`. -/
def verifyAgreementEpochs (epochs : Value) : Except Refusal (List EpochAgreement) :=
  match epochs with
  | .list items => do
    let verified ← checkEach
      (fun index item => verifyAgreementEpoch offsetAt item (contextAt "agreement_epoch" index))
      0 items
    ensure (strictlyAscending (verified.map fun epoch => epoch.epoch.key) = true)
      (invalidField (.atom "agreement_epochs"))
    .ok verified
  | _ => .error (invalidField (.atom "agreement_epochs"))

variable {n : Nat}

/-- The metrics of what at least two sources agree on. -/
def pooled (agreed : List (Agreed n)) : Except Refusal (Option Double) :=
  pooledRms ((agreed.filter fun agreed => 2 ≤ agreed.members).filterMap fun agreed =>
    agreed.rms.map fun rms => (rms, agreed.members))

/-- The greatest distance of what at least some sources agree on. -/
def greatest (least : Nat) (agreed : List (Agreed n)) : Option Double :=
  optionalMax ((agreed.filter fun agreed => least ≤ agreed.members).filterMap Agreed.max)

/-- What `agreement_epoch_aggregates` makes of the cells of an epoch. -/
def epochAggregate (epoch : Split) (cells : List (AgreementCell n)) :
    Except Refusal EpochAgreement := do
  let positions := cells.map AgreementCell.position
  let clocks := cells.map AgreementCell.clock
  let positionRms ← pooled positions
  let clockRms ← pooled clocks
  .ok ⟨epoch, (positions.filter fun agreed => 2 ≤ agreed.members).length, positionRms,
    greatest 2 positions, clockRms, greatest 2 clocks⟩

/-- `Enum.chunk_by` of the epochs of cells. -/
def epochChunks (cells : List (AgreementCell n)) : List (List (AgreementCell n)) :=
  cells.splitBy fun left right => left.epoch.key == right.epoch.key

/-- `agreement_epoch_aggregates`. -/
def agreementEpochAggregates (cells : List (AgreementCell n)) :
    Except Refusal (List EpochAgreement) :=
  (epochChunks cells).flatMap (fun chunk => chunk.head?.toList.map fun first => (first.epoch, chunk))
    |>.mapM fun chunk => epochAggregate chunk.1 chunk.2

/-- The agreement of a merge. -/
structure Agreement (n : Nat) where
  cells : List (AgreementCell n)
  epochs : List EpochAgreement

/-- `verify_agreement_consistency`. -/
def verifyAgreementConsistency (positionRms positionMax clockRms clockMax : Option Double)
    (agreement : Agreement n) : Except Refusal Unit := do
  let positions := agreement.cells.map AgreementCell.position
  let clocks := agreement.cells.map AgreementCell.clock
  let expectedPositionRms ← pooled positions
  let expectedClockRms ← pooled clocks
  let expectedEpochs ← agreementEpochAggregates agreement.cells
  let aggregateMatches := exactNumber positionRms expectedPositionRms &&
    exactNumber positionMax (greatest 1 positions) && exactNumber clockRms expectedClockRms &&
    exactNumber clockMax (greatest 1 clocks)
  let epochsMatch := agreement.epochs.length == expectedEpochs.length &&
    (agreement.epochs.zip expectedEpochs).all fun pair => pair.1.same pair.2
  ensure (aggregateMatches = true ∧ epochsMatch = true) (.atom "merge_agreement_mismatch")

variable (n)

/-- `verify_agreement`. -/
def verifyAgreement (agreement : Value) : Except Refusal (Agreement n) := do
  let values ← exactFields agreement
    ["position_rms_m", "position_max_m", "clock_rms_s", "clock_max_s", "cells", "epochs"]
    (.atom "agreement")
  let metric := fun field =>
    optionalNonnegativeFloat (values.get field) (inside (.atom "agreement") field)
  let positionRms ← metric "position_rms_m"
  let positionMax ← metric "position_max_m"
  let clockRms ← metric "clock_rms_s"
  let clockMax ← metric "clock_max_s"
  let cells ← verifyAgreementCells offsetAt n (values.get "cells")
  let epochs ← verifyAgreementEpochs offsetAt (values.get "epochs")
  verifyAgreementConsistency positionRms positionMax clockRms clockMax ⟨cells, epochs⟩
  .ok ⟨cells, epochs⟩

end Aggregates

section Reading

variable {n : Nat}

/-- A map states an accepted cell: its satellite, its epoch and its counts of members. -/
structure StatesAgreement (value : Value) (cell : AgreementCell n) : Prop where
  satellite : value.field? "satellite" = some (.text cell.satellite.text)
  whole : value.field? "jd_whole" = some cell.epoch.whole.toValue
  fraction : value.field? "jd_fraction" = some cell.epoch.fraction.toValue
  position : value.field? "position_members" = some (.int cell.position.members)
  clock : value.field? "clock_members" = some (.int cell.clock.members)

theorem agreedFields_members {values : Record} {members rms max : String} {context : Value}
    {agreed : Agreed n} (read : agreedFields n values members rms max context = .ok agreed) :
    values.get members = .int agreed.members := by
  obtain ⟨count, counted, rest⟩ := bind_ok.mp read
  obtain ⟨_, _, rest⟩ := bind_ok.mp rest
  obtain ⟨_, _, same⟩ := bind_ok.mp rest
  cases same
  unfold boundedCount at counted
  split at counted
  · next number stated =>
    split at counted
    · next bounded =>
      cases counted
      rw [stated, Value.int, Int.toNat_of_nonneg bounded.2]
    · cases counted
  · cases counted

/-- A cell that is read is the one that the map states. -/
theorem verifyAgreementCell_stated {offsetAt : Float → Option Float} {value context : Value}
    {cell : AgreementCell n} (read : verifyAgreementCell offsetAt n value context = .ok cell) :
    StatesAgreement value cell := by
  obtain ⟨values, fields, rest⟩ := bind_ok.mp read
  obtain ⟨satellite, identified, rest⟩ := bind_ok.mp rest
  obtain ⟨epoch, split, rest⟩ := bind_ok.mp rest
  obtain ⟨position, positions, rest⟩ := bind_ok.mp rest
  obtain ⟨clock, clocks, rest⟩ := bind_ok.mp rest
  obtain ⟨_, _, rest⟩ := bind_ok.mp rest
  obtain ⟨_, _, rest⟩ := bind_ok.mp rest
  split at rest
  · obtain ⟨_, _, rest⟩ := bind_ok.mp rest
    obtain ⟨_, _, same⟩ := bind_ok.mp rest
    cases same
    have parts := canonicalSplit_parts split
    constructor
    · rw [(exactFields_get fields (by decide)).1, satelliteId_text identified]
    · rw [(exactFields_get fields (by decide)).1, parts.1]
    · rw [(exactFields_get fields (by decide)).1, parts.2]
    · rw [(exactFields_get fields (by decide)).1, agreedFields_members positions]
    · rw [(exactFields_get fields (by decide)).1, agreedFields_members clocks]
  · cases rest

/-- The cells that are read are those of the list, in strictly ascending order. -/
theorem verifyAgreementCells_ok {offsetAt : Float → Option Float} {value : Value}
    {cells : List (AgreementCell n)} (read : verifyAgreementCells offsetAt n value = .ok cells) :
    (∃ items, value = .list items ∧ List.Forall₂ StatesAgreement items cells) ∧
      (cells.map AgreementCell.key).Pairwise (· < ·) := by
  unfold verifyAgreementCells at read
  split at read
  · next items =>
    obtain ⟨verified, each, rest⟩ := bind_ok.mp read
    obtain ⟨_, ascending, same⟩ := bind_ok.mp rest
    cases same
    have stated := checkEach_imp each fun _ _ _ passed => verifyAgreementCell_stated passed
    exact ⟨⟨items, rfl, stated⟩, pairwise_of_strictlyAscending (ensure_ok.mp ascending)⟩
  · cases read

/-- The agreement that is read has the cells of its map. -/
theorem verifyAgreement_cells {offsetAt : Float → Option Float} {value : Value}
    {agreement : Agreement n} (read : verifyAgreement offsetAt n value = .ok agreement) :
    ∃ cells, value.field? "cells" = some cells ∧
      verifyAgreementCells offsetAt n cells = .ok agreement.cells := by
  obtain ⟨values, fields, rest⟩ := bind_ok.mp read
  obtain ⟨_, _, rest⟩ := bind_ok.mp rest
  obtain ⟨_, _, rest⟩ := bind_ok.mp rest
  obtain ⟨_, _, rest⟩ := bind_ok.mp rest
  obtain ⟨_, _, rest⟩ := bind_ok.mp rest
  obtain ⟨cells, found, rest⟩ := bind_ok.mp rest
  obtain ⟨_, _, rest⟩ := bind_ok.mp rest
  obtain ⟨_, _, same⟩ := bind_ok.mp rest
  cases same
  exact ⟨values.get "cells", (exactFields_get fields (by decide)).1, found⟩

end Reading

end Sidereon.MergeReport
