import Sidereon.MergePolicy.Recorded

/-!
# Reading recorded policies

Each value of a normalised policy is read back from what is recorded of it, and normalised again from
the option that is read.
-/

namespace Sidereon.MergePolicy

open Foundation Sidereon.Distribution MergeReport
open Foundation.Beam (Number double floatValue)
open Foundation.Doubles
open Ftp (trim)

section Ticks

/-- The core's rule for an interval: positive, below 100000 s and a whole number of ticks of 10 ns,
in doubles. -/
def InTicks (interval : Double) : Prop :=
  0 < interval.exact_ ∧ interval.exact_ < 100000 ∧
    ∃ ticks : ℕ, rounded (interval.exact_ * 100000000) = ticks

theorem floatValue_ticks : floatValue 100000000.0 = 100000000 := by decide +kernel

/-- The greatest number of ticks is a double. -/
theorem ticks_lt_range : (10000000000000 : ℚ) < range := by
  have power : (10000000000000 : ℚ) < 2 ^ (53 : ℤ) := by norm_num
  exact power.trans (two_zpow_lt_range.mpr (by norm_num))

theorem rounded_ticks {ticks : ℕ} (small : ticks ≤ 10000000000000) :
    rounded (ticks : ℚ) = ticks :=
  Rounding.rounded_natCast (by norm_num) (small.trans_lt (by norm_num))

/-- An interval that is exactly a multiple of 10 ns meets the rule. -/
theorem inTicks_of_multiple {interval : Double} {ticks : ℕ} (positive : 0 < ticks)
    (small : ticks < 10000000000000) (multiple : interval.exact_ = ticks / 100000000) :
    InTicks interval := by
  have above : (0 : ℚ) < ticks := by exact_mod_cast positive
  have below : (ticks : ℚ) < 10000000000000 := by exact_mod_cast small
  have product : interval.exact_ * 100000000 = ticks := by rw [multiple]; ring
  refine ⟨by linarith, by linarith, ticks, ?_⟩
  rw [product, rounded_ticks small.le]

/-- A whole number is its own nearest integer, as a double again. -/
theorem floatRound?_whole {y : Float} (finite : y.isFinite = true) {ticks : ℕ}
    (small : ticks ≤ 10000000000000) (whole : floatValue y = ticks) :
    ∃ nearest : Number, floatRound? (.float y finite) = some nearest ∧ nearest.value = ticks := by
  have bound : (ticks : ℚ) ≤ 10000000000000 := by exact_mod_cast small
  have within := bound.trans_lt ticks_lt_range
  have half : ⌊(ticks : ℚ) + 1 / 2⌋ = ticks := by
    rw [Int.floor_eq_iff]
    push_cast
    constructor <;> linarith
  have nearest : (Number.float y finite).round = ticks := by
    rw [Number.round, whole, if_pos ticks.cast_nonneg, half]
  have finite' := (isFinite_ofInt ticks).mpr within
  have converts : (Number.int ticks).toFloat? = some (Float.ofModel (.ofInt ticks)) :=
    Number.toFloat?_eq_some.mpr ⟨finite', rfl⟩
  refine ⟨.float _ finite', ?_, ?_⟩
  · rw [floatRound?, nearest, converts]
    exact Number.ofFloat?_eq_some.mpr ⟨finite', rfl⟩
  · exact (floatValue_ofInt within).trans (rounded_ticks small)

/-- What meets the rule of the core passes the check of records. -/
theorem inTicks?_eq_true {interval : Double} (rule : InTicks interval) :
    inTicks? interval = some true := by
  obtain ⟨positive, below, ticks, whole⟩ := rule
  have exact_ : interval.exact_ = floatValue interval.value := rfl
  rw [exact_] at positive below whole
  have unit : (0 : ℚ) ≤ floatValue 100000000.0 := by rw [floatValue_ticks]; norm_num
  have bound : floatValue interval.value * 100000000 ≤ (10000000000000 : ℕ) := by
    push_cast
    linarith
  have within : floatValue interval.value * floatValue 100000000.0 < range := by
    rw [floatValue_ticks]
    push_cast at bound
    exact bound.trans_lt ticks_lt_range
  have finite := (isFinite_mul interval.finite finite_ticks positive.le unit).mpr within
  have product := floatValue_mul interval.finite finite_ticks positive.le unit within
  rw [floatValue_ticks, whole] at product
  have small : ticks ≤ 10000000000000 := by
    have monotone : rounded (floatValue interval.value * 100000000) ≤
        rounded ((10000000000000 : ℕ) : ℚ) :=
      Rounding.rounded_mono (mul_nonneg positive.le (by norm_num)) bound
    have kept : rounded ((10000000000000 : ℕ) : ℚ) = (10000000000000 : ℕ) := rounded_ticks le_rfl
    rw [whole, kept] at monotone
    exact_mod_cast monotone
  obtain ⟨nearest, rounds, same⟩ := floatRound?_whole finite small product
  have multiplies : interval.number.mul? (.float 100000000.0 finite_ticks) =
      some (.float (interval.value * 100000000.0) finite) :=
    (Number.mul?_float_eq_some finite_ticks).mpr ⟨interval.finite, finite, rfl⟩
  have equal : (Number.float (interval.value * 100000000.0) finite).value = nearest.value := by
    rw [same]
    exact product
  have passes := congrArg some (decide_eq_true (⟨positive, below, equal⟩ :
    0 < interval.exact_ ∧ interval.exact_ < 100000 ∧
      (Number.float (interval.value * 100000000.0) finite).value = nearest.value))
  exact Option.bind_eq_some_iff.mpr
    ⟨_, multiplies, Option.bind_eq_some_iff.mpr ⟨nearest, rounds, passes⟩⟩

end Ticks

section Lists

variable {α : Type} {toValue : α → Value}

/-- Items that are each read are read in their list. -/
theorem mapM_map {β : Type} {read : Value → Option β} {found : α → β} {items : List α}
    (reads : ∀ item ∈ items, read (toValue item) = some (found item)) :
    (items.map toValue).mapM read = some (items.map found) := by
  induction items with
  | nil => rfl
  | cons item items ih =>
    have first := reads item List.mem_cons_self
    have rest := ih fun item member => reads item (List.mem_cons_of_mem _ member)
    rw [List.map_cons, List.mapM_cons, first, rest]
    rfl

/-- Items that are each read back are read back in their list. -/
theorem mapM_back {read : Value → Option α} (back : ∀ item, read (toValue item) = some item)
    (items : List α) : (items.map toValue).mapM read = some items := by
  have same : (items.map toValue).mapM read = some (items.map id) :=
    mapM_map fun item _ => back item
  rwa [List.map_id] at same

/-- Items that each pass their check pass it in their list. -/
theorem checkEach_map {check : Nat → Value → Except Refusal α}
    (passes : ∀ index item, check index (toValue item) = .ok item) (items : List α) :
    ∀ index, checkEach check index (items.map toValue) = .ok items := by
  induction items with
  | nil => exact fun index => rfl
  | cons item items ih =>
    intro index
    rw [List.map_cons, checkEach, passes]
    exact bind_ok.mpr ⟨item, rfl, bind_ok.mpr ⟨items, ih (index + 1), rfl⟩⟩

end Lists

/-- A chain goes on with what its first check found. -/
theorem bind_of_ok {ε α β : Type} {check : Except ε α} {next : α → Except ε β} {found : α}
    {result : Except ε β} (checked : check = .ok found) (rest : next found = result) :
    check >>= next = result := by
  rw [checked]
  exact rest

section Options

variable (inspect : Value → Binary)

theorem orRaise_overOne {x : Double} (nonneg : 0 ≤ x.exact_) :
    orRaise (overOne? x.number) = .ok x := by
  rw [overOne?_number nonneg, orRaise]

theorem normalizeNonnegativeFloat_double (tolerance : Tolerance) (field : String) :
    normalizeNonnegativeFloat inspect tolerance.double.toValue field = .ok tolerance := by
  have divides := orRaise_overOne tolerance.nonneg
  rw [Double.toValue, normalizeNonnegativeFloat, divides]
  exact (dif_pos tolerance.nonneg).trans (congrArg Except.ok (canonicalZero_double tolerance))

theorem normalizePositiveInteger_value (count : Count) (field : String) :
    normalizePositiveInteger (.int count.value) field = .ok count := dif_pos count.positive

theorem normalizeNamed_toAtom {α : Type} [Named α] (item : α) (reason : Refusal) :
    normalizeNamed (Named.toAtom item) reason = .ok item := by
  rw [normalizeNamed, Named.toAtom, Named.ofAtom?_atom]

theorem normalizeProvenance_toAtom (provenance : Option Provenance) :
    normalizeProvenance (optional Named.toAtom provenance) = .ok provenance := by
  cases provenance with
  | none => rfl
  | some provenance => cases provenance <;> rfl

theorem normalizeBoolean_ofBool (value : Bool) (field : String) :
    normalizeBoolean (ofBool value) field = .ok value := by
  cases value <;> rfl

theorem normalizeEpochInterval_toValue {interval : Option Double}
    (nonneg : ∀ x ∈ interval, 0 ≤ x.exact_) :
    normalizeEpochInterval (optional Double.toValue interval) = .ok interval := by
  cases interval with
  | none => rfl
  | some x => exact congrArg (Except.map some) (orRaise_overOne (nonneg x rfl))

theorem normalizeOutlierReject_map (tolerances : Option (Tolerance × Tolerance)) :
    normalizeOutlierReject inspect (outlierRejectMap tolerances) = .ok tolerances := by
  cases tolerances with
  | none => rfl
  | some tolerances =>
    have position := normalizeNonnegativeFloat_double inspect tolerances.1
      "outlier_position_tolerance_m"
    have clock := normalizeNonnegativeFloat_double inspect tolerances.2
      "outlier_clock_tolerance_s"
    have both : normalizeOutlierMap inspect
        [(.atom "position_tolerance_m", tolerances.1.double.toValue),
          (.atom "clock_tolerance_s", tolerances.2.double.toValue)] = .ok tolerances :=
      bind_of_ok position (bind_of_ok clock rfl)
    exact congrArg (Except.map some) both

theorem normalizeMergeSystem_toValue (system : System) :
    normalizeMergeSystem system.toValue = .ok system := by
  cases system <;> rfl

/-- Systems in order and once each stay as they are. -/
theorem normalizeMergeSystems_letters (systems : Systems) :
    normalizeMergeSystems (listOf System.toValue systems.systems) = .ok systems := by
  have found : checkEach (fun _ => normalizeMergeSystem) 0
      (systems.systems.map System.toValue) = .ok systems.systems :=
    checkEach_map (fun _ => normalizeMergeSystem_toValue) systems.systems 0
  rw [listOf, normalizeMergeSystems, found]
  obtain ⟨systems, ascending⟩ := systems
  simp only [Except.map, ascending.sortBy_uniq_eq]

theorem normalizeFrameLabel?_toValue (label : Label) :
    normalizeFrameLabel? label.toValue = some label := by
  obtain ⟨text, trimmed, nonempty⟩ := label
  simp only [Label.toValue, normalizeFrameLabel?, trimmed]
  exact dif_pos nonempty

theorem normalizeFrameLabelSet_toValue (index : Nat) (set : LabelSet) :
    normalizeFrameLabelSet index set.toValue = .ok set := by
  have read := mapM_back normalizeFrameLabel?_toValue set.labels
  have long : ¬ (set.labels.map Label.toValue).length < 2 := by
    rw [List.length_map]
    exact not_lt.mpr set.two
  rw [LabelSet.toValue, normalizeFrameLabelSet, if_neg long, normalizeFrameLabels, read]
  obtain ⟨labels, ascending, two⟩ := set
  simp only [ascending.sortBy_uniq_eq]
  exact dif_pos two

theorem normalizeAssertedFrameLabelSets_listOf (sets : LabelSets) :
    normalizeAssertedFrameLabelSets (listOf LabelSet.toValue sets.sets) = .ok sets := by
  refine bind_of_ok (checkEach_map normalizeFrameLabelSet_toValue sets.sets 0) ?_
  obtain ⟨sets, ascending⟩ := sets
  simp only [sortedSets, ascending.sortBy_eq]
  exact dif_pos ascending.nodup

theorem residual?_number (residual : Residual) :
    residual? ⟨residual.double.number, residual.nonneg⟩ = some residual := by
  have divides := overOne?_number residual.nonneg
  unfold residual?
  split
  · next x divided =>
    cases divided.symm.trans divides
    rfl
  · next divided => cases divided.symm.trans divides

theorem normalizeOrbitClass_toAtom (orbitClass : Option OrbitClass) :
    normalizeOrbitClass (optional Named.toAtom orbitClass) = .ok orbitClass := by
  cases orbitClass with
  | none => rfl
  | some orbitClass => cases orbitClass <;> rfl

theorem normalizeResidual_toValue (residual : Option Residual) :
    normalizeResidual inspect (optional (·.double.toValue) residual) =
      .ok (residual.map fun residual => ⟨residual.double.number, residual.nonneg⟩) := by
  cases residual with
  | none => rfl
  | some residual => exact dif_pos residual.nonneg

theorem normalizeGap_toValue (factor : Option Double) :
    normalizeGap (optional Double.toValue factor) = .ok (factor.map Double.number) := by
  cases factor <;> rfl

/-- The options of continuity are read as the caller's are. -/
theorem normalizeVerifyContinuity_option {continuity : Option Continuity}
    (nonneg : ∀ given ∈ continuity, ∀ factor ∈ given.gapThresholdFactor, 0 ≤ factor.exact_) :
    normalizeVerifyContinuity inspect (continuityOption continuity) = .ok continuity := by
  cases continuity with
  | none => rfl
  | some given =>
    obtain ⟨orbitClass, residual, factor⟩ := given
    have residuals : convert residual?
        (residual.map fun residual => ⟨residual.double.number, residual.nonneg⟩) =
          .ok residual := by
      cases residual with
      | none => rfl
      | some residual =>
        exact congrArg (fun converted => (orRaise converted).map some) (residual?_number residual)
    have factors : convert overOne? (factor.map Double.number) = .ok factor := by
      cases factor with
      | none => rfl
      | some factor =>
        exact congrArg (Except.map some) (orRaise_overOne (nonneg _ rfl factor rfl))
    have read : normalizeContinuityOptions inspect
        [.tuple [.atom "orbit_class", optional Named.toAtom orbitClass],
          .tuple [.atom "residual_tolerance_m", optional (·.double.toValue) residual],
          .tuple [.atom "gap_threshold_factor", optional Double.toValue factor]] =
        .ok ⟨orbitClass, residual, factor⟩ :=
      bind_of_ok rfl (bind_of_ok rfl (bind_of_ok rfl
        (bind_of_ok (congrArg refusal (normalizeOrbitClass_toAtom orbitClass))
          (bind_of_ok (congrArg refusal (normalizeResidual_toValue inspect residual))
            (bind_of_ok (congrArg refusal (normalizeGap_toValue factor))
              (bind_of_ok residuals (bind_of_ok factors rfl)))))))
    exact congrArg (fun outcome => invalidVerifyContinuity (Except.map some outcome)) read

end Options

section Records

/-- How the names of fields are spelled: as a record is made, or as it is read from JSON. -/
inductive Spelling where
  | atoms
  | texts

/-- A name. -/
def Spelling.key : Spelling → String → Value
  | atoms, name => .atom name
  | texts, name => .text (ascii name)

/-- A record as a map of a spelling. -/
def spelled (spelling : Spelling) (values : Record) : Value :=
  .map (values.map fun value => (spelling.key value.1, value.2))

theorem spelled_atoms (values : Record) : spelled .atoms values = values.toValue := rfl

variable (spelling : Spelling)

/-- A pair of tolerances in a spelling. -/
def spelledOutliers : Option (Tolerance × Tolerance) → Value :=
  optional fun tolerances => spelled spelling (tolerancesMap tolerances)

/-- The options of continuity in a spelling. -/
def spelledContinuity : Option Continuity → Value :=
  optional fun continuity => spelled spelling (continuityMap continuity)

theorem persistedNonnegativeFloat_double (tolerance : Tolerance) (field : String) :
    persistedNonnegativeFloat tolerance.double.toValue field = .ok tolerance :=
  (dif_pos tolerance.nonneg).trans (congrArg Except.ok (canonicalZero_double tolerance))

theorem positiveInteger_value (count : Count) (field : String) :
    positiveInteger (.int count.value) field = .ok count := dif_pos count.positive

theorem persistedNamed_toText {α : Type} [Named α] (item : α) (reason : Refusal) :
    persistedNamed (Named.toText item) reason = .ok item := by
  rw [persistedNamed, Named.ofEither?_toText]

theorem persistedOutlierReject_spelled (tolerances : Option (Tolerance × Tolerance)) :
    persistedOutlierReject (spelledOutliers spelling tolerances) = .ok tolerances := by
  cases tolerances with
  | none => rfl
  | some tolerances =>
    have position := persistedNonnegativeFloat_double tolerances.1 "outlier_position_tolerance_m"
    have clock := persistedNonnegativeFloat_double tolerances.2 "outlier_clock_tolerance_s"
    have read : exactFields (spelled spelling (tolerancesMap tolerances))
        ["position_tolerance_m", "clock_tolerance_s"]
        (.tuple [.atom "merge_policy", .atom "outlier_reject"]) =
          .ok (tolerancesMap tolerances) := by
      cases spelling <;> rfl
    exact bind_of_ok read (bind_of_ok position (bind_of_ok clock rfl))

theorem persistedEpochInterval_toValue {interval : Option Double}
    (rule : ∀ x ∈ interval, InTicks x) :
    persistedEpochInterval (optional Double.toValue interval) = .ok interval := by
  cases interval with
  | none => rfl
  | some x => exact bind_of_ok (congrArg orRaise (inTicks?_eq_true (rule x rfl))) rfl

theorem persistedSystems_letters (systems : Systems) :
    persistedSystems (listOf System.toValue systems.systems) = .ok systems := by
  have read : (systems.systems.map System.toValue).mapM systemOfLetter? = some systems.systems :=
    mapM_back System.ofLetter?_letter systems.systems
  have canonical : canonicalSystems? systems.systems = some systems :=
    dif_pos systems.ascending.sortBy_uniq_eq.symm
  rw [listOf, persistedSystems, read, Option.bind_some, canonical]

theorem persistedLabel?_toValue (label : Label) : persistedLabel? label.toValue = some label :=
  dif_pos ⟨label.trimmed, label.nonempty⟩

theorem persistedLabelSet?_toValue (set : LabelSet) :
    persistedLabelSet? set.toValue = some set := by
  have canonical : canonicalLabels? set.labels = some set :=
    dif_pos ⟨set.two, set.ascending.sortBy_uniq_eq.symm⟩
  rw [LabelSet.toValue, persistedLabelSet?, mapM_back persistedLabel?_toValue, Option.bind_some,
    canonical]

theorem persistedLabelSets_listOf (sets : LabelSets) :
    persistedLabelSets (listOf LabelSet.toValue sets.sets) = .ok sets := by
  have canonical : canonicalSets? sets.sets = some sets :=
    dif_pos ⟨sets.ascending.sortBy_eq.symm, sets.ascending.nodup⟩
  rw [listOf, persistedLabelSets, mapM_back persistedLabelSet?_toValue, Option.bind_some, canonical]

theorem persistedBoolean_ofBool (value : Bool) : persistedBoolean (ofBool value) = .ok value := by
  cases value <;> rfl

theorem validDigestValue_toValue (digest : Digest) : validDigestValue digest.toValue = true := by
  have last : digest.text.getLast? ≠ some 10 := by
    intro feed
    have digit := List.all_eq_true.mp digest.digits 10 (List.mem_of_getLast? feed)
    exact absurd digit (by decide)
  simp only [Digest.toValue, validDigestValue, if_neg last, digest.sized, digest.digits]
  rfl

/-- The digests of contributors, when there are any, are a precedence. -/
theorem persistedPrecedenceList_listOf {precedence : Option (List Digest)}
    (nonempty : ∀ digests ∈ precedence, digests ≠ []) :
    persistedPrecedenceList (optional (listOf Digest.toValue) precedence) = .ok () := by
  cases precedence with
  | none => rfl
  | some digests =>
    cases digests with
    | nil => exact absurd rfl (nonempty [] rfl)
    | cons digest digests =>
      have valid : ((digest :: digests).map Digest.toValue).all validDigestValue = true := by
        rw [List.all_map, List.all_eq_true]
        exact fun digest _ => validDigestValue_toValue digest
      exact if_pos valid

theorem persistedOrbitClass_toText (orbitClass : Option OrbitClass) :
    persistedOrbitClass (optional Named.toText orbitClass) = .ok orbitClass := by
  cases orbitClass with
  | none => rfl
  | some orbitClass => cases orbitClass <;> rfl

theorem persistedResidual_toValue (residual : Option Residual) :
    persistedResidual (optional (·.double.toValue) residual) = .ok residual := by
  cases residual with
  | none => rfl
  | some residual => exact dif_pos residual.nonneg

theorem persistedGapThresholdFactor_toValue {factor : Option Double}
    (above : ∀ x ∈ factor, 1 < x.exact_) :
    persistedGapThresholdFactor (optional Double.toValue factor) = .ok factor := by
  cases factor with
  | none => rfl
  | some x => exact if_pos (above x rfl)

theorem persistedVerifyContinuity_spelled {continuity : Option Continuity}
    (above : ∀ given ∈ continuity, ∀ factor ∈ given.gapThresholdFactor, 1 < factor.exact_) :
    persistedVerifyContinuity (spelledContinuity spelling continuity) = .ok continuity := by
  cases continuity with
  | none => rfl
  | some given =>
    have read : exactFields (spelled spelling (continuityMap given))
        ["orbit_class", "residual_tolerance_m", "gap_threshold_factor"]
        (.tuple [.atom "merge_policy", .atom "verify_continuity"]) =
          .ok (continuityMap given) := by
      cases spelling <;> rfl
    exact bind_of_ok read (bind_of_ok (persistedOrbitClass_toText given.orbitClass)
      (bind_of_ok (persistedResidual_toValue given.residualToleranceM)
        (bind_of_ok (persistedGapThresholdFactor_toValue (above given rfl)) rfl)))

theorem persistedProvenance_toText (provenance : Option Provenance) :
    persistedProvenance (optional Named.toText provenance) = .ok provenance := by
  cases provenance with
  | none => rfl
  | some provenance => cases provenance <;> rfl

end Records

end Sidereon.MergePolicy
