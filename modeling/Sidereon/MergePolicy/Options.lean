import Sidereon.MergePolicy.Policy
import Sidereon.MergeReport.Centers

/-!
# Options of merge policies

`normalize_merge_policy` of the SP3 facade reads the options of a caller. It refuses an unknown or
repeated option and every value without a normalised form; conversions of integers that no double
reaches raise.
-/

namespace Sidereon.MergePolicy

open Foundation Sidereon.Distribution MergeReport
open Foundation.Beam (Number double floatValue)
open Foundation.Doubles
open Ftp (trim)

/-- Why no policy is returned. -/
inductive Failure where
  | refused (reason : Refusal)
  | raised

/-- Return a refusal. -/
def refuse {α : Type} (reason : Refusal) : Except Failure α := .error (.refused reason)

/-- A check that does not raise. -/
def refusal {α : Type} : Except Refusal α → Except Failure α
  | .ok value => .ok value
  | .error reason => refuse reason

/-- Raise unless there is a result. -/
def orRaise {α : Type} : Option α → Except Failure α
  | some value => .ok value
  | none => .error .raised

/-- `{:invalid_merge_policy, what}`. -/
def invalidMergePolicy (what : String) : Refusal :=
  .tuple [.atom "invalid_merge_policy", .atom what]

/-- The options of a keyword list. -/
abbrev Keywords := List (String × Value)

namespace Keywords

/-- A keyword list as a term. -/
def toValue (opts : Keywords) : Value :=
  .list (opts.map fun option => .tuple [.atom option.1, option.2])

/-- `Keyword.keys`. -/
def keys (opts : Keywords) : List String := opts.map (·.1)

/-- `Keyword.get`. -/
def get (opts : Keywords) (key : String) (default : Value) : Value :=
  (opts.lookup key).getD default

end Keywords

/-- A pair of an atom and a term. -/
def keyword? : Value → Option (String × Value)
  | .tuple [.atom key, value] => some (key, value)
  | _ => none

/-- The options of a list, when `Keyword.keyword?` holds of it. -/
def keywords? (items : List Value) : Option Keywords := items.mapM keyword?

/-- `length(keys) == MapSet.size(MapSet.new(keys))`. -/
def keysOnce (opts : Keywords) : Prop := opts.keys.length = opts.keys.toFinset.card

instance (opts : Keywords) : Decidable (keysOnce opts) :=
  inferInstanceAs (Decidable (opts.keys.length = opts.keys.toFinset.card))

/-- Whether a term is a tuple whose first item is an atom of a name. -/
def startsWith (key : String) : Value → Bool
  | .tuple (first :: _) => first.isAtom key
  | _ => false

/-- `Keyword.get` of any list: it finds the first tuple of the atom, and raises when that is no
pair. -/
def keywordGet (items : List Value) (key : String) (default : Value) : Except Failure Value :=
  match items.find? (startsWith key) with
  | none => .ok default
  | some (.tuple [_, value]) => .ok value
  | some _ => .error .raised

section Numbers

/-- `value / 1.0`, unless it raises. -/
def overOne? (n : Number) : Option Double :=
  n.toFloat?.bind fun x => if finite : (x / 1.0).isFinite = true then some ⟨x / 1.0, finite⟩ else none

/-- What divides by one is the double the number converts to. -/
theorem overOne?_eq_some {n : Number} {x : Double} (nonneg : 0 ≤ n.value)
    (divided : overOne? n = some x) : x.value = n.toFloat ∧ 0 ≤ floatValue n.toFloat := by
  obtain ⟨y, converts, quotient⟩ := Option.bind_eq_some_iff.mp divided
  obtain ⟨finite, rfl⟩ := Number.toFloat?_eq_some.mp converts
  have within := (Number.isFinite_toFloat nonneg).mp finite
  have nonneg' : 0 ≤ floatValue n.toFloat := by
    rw [Number.floatValue_toFloat nonneg within]
    exact Rounding.rounded_nonneg nonneg
  rw [div_one finite nonneg', dif_pos finite] at quotient
  cases quotient
  exact ⟨rfl, nonneg'⟩

theorem overOne?_nonneg {n : Number} {x : Double} (nonneg : 0 ≤ n.value)
    (divided : overOne? n = some x) : 0 ≤ x.exact_ := by
  obtain ⟨same, nonneg'⟩ := overOne?_eq_some nonneg divided
  rw [Double.exact_, same]
  exact nonneg'

/-- A double that is not negative is left as it is. -/
theorem overOne?_number {x : Double} (nonneg : 0 ≤ x.exact_) : overOne? x.number = some x := by
  obtain ⟨value, finite⟩ := x
  have same : value / 1.0 = value := div_one finite nonneg
  have divided : overOne? (.float value finite) =
      if finite : (value / 1.0).isFinite = true then some ⟨value / 1.0, finite⟩ else none := rfl
  rw [Double.number, divided, dif_pos (same.symm ▸ finite)]
  congr 2

theorem finite_nano : (1.0e-9 : Float).isFinite = true := by decide +kernel

theorem nano_nonneg : 0 ≤ floatValue 1.0e-9 := by decide +kernel

/-- A product with nanoseconds is not negative. -/
theorem nonneg_of_mul_nano {tolerance : Tolerance} {x : Float} {finite : x.isFinite = true}
    (product : tolerance.double.number.mul? (.float 1.0e-9 finite_nano) =
      some (.float x finite)) : 0 ≤ floatValue x := by
  obtain ⟨finite', finite'', same⟩ := (Number.mul?_float_eq_some finite_nano).mp product
  cases same
  have within := (isFinite_mul tolerance.double.finite finite_nano tolerance.nonneg nano_nonneg).mp
    finite''
  change 0 ≤ floatValue (tolerance.double.value * 1.0e-9)
  rw [floatValue_mul tolerance.double.finite finite_nano tolerance.nonneg nano_nonneg within]
  exact Rounding.rounded_nonneg (mul_nonneg tolerance.nonneg nano_nonneg)

/-- `canonical_zero(clock_ns * 1.0e-9)`, unless it raises. -/
def secondsOfNano? (clockNs : Tolerance) : Option Tolerance :=
  match product : clockNs.double.number.mul? (.float 1.0e-9 finite_nano) with
  | some (.float x finite) => some (canonicalZero ⟨x, finite⟩ (nonneg_of_mul_nano product))
  | _ => none

end Numbers

section Options

-- `inspect/1`.
variable (inspect : Value → Binary)

/-- `{:sp3_merge_tolerance, detail}`. -/
def toleranceRefusal (field : String) (value : Value) (reason : String) : Refusal :=
  .tuple [.atom "sp3_merge_tolerance", Record.toValue
    [("field", .atom field), ("value", value), ("reason", .atom reason)]]

/-- `normalize_nonnegative_float`. The quotient is finite, so that it less itself is `0.0`. -/
def normalizeNonnegativeFloat (value : Value) (field : String) : Except Failure Tolerance :=
  match value with
  | .number n => do
    let x ← orRaise (overOne? n)
    if nonneg : 0 ≤ x.exact_ then .ok (canonicalZero x nonneg)
    else refuse (toleranceRefusal field x.toValue "negative")
  | value => refuse (toleranceRefusal field (.text (inspect value)) "not_numeric")

/-- `normalize_positive_integer`. -/
def normalizePositiveInteger (value : Value) (field : String) : Except Refusal Count :=
  match value with
  | .number (.int n) =>
    if positive : 0 < n then .ok ⟨n, positive⟩ else .error (invalidMergePolicy field)
  | _ => .error (invalidMergePolicy field)

/-- A value that an atom names. -/
def normalizeNamed {α : Type} [Named α] (value : Value) (reason : Refusal) : Except Refusal α :=
  match Named.ofAtom? value with
  | some item => .ok item
  | none => .error reason

/-- `normalize_combine`. -/
def normalizeCombine (value : Value) : Except Refusal Combine :=
  normalizeNamed value (invalidMergePolicy "combine")

/-- `normalize_precedence_scope`. -/
def normalizePrecedenceScope (value : Value) : Except Refusal PrecedenceScope :=
  normalizeNamed value (.tuple [.atom "invalid_precedence_scope", value])

/-- `normalize_provenance`. -/
def normalizeProvenance (value : Value) : Except Refusal (Option Provenance) :=
  match value with
  | .atom "nil" => .ok none
  | value => (normalizeNamed value (invalidMergePolicy "provenance")).map some

/-- `normalize_boolean`. -/
def normalizeBoolean (value : Value) (field : String) : Except Refusal Bool :=
  match value with
  | .atom "true" => .ok true
  | .atom "false" => .ok false
  | _ => .error (invalidMergePolicy field)

/-- `normalize_epoch_interval`. The core checks the interval. -/
def normalizeEpochInterval (value : Value) : Except Failure (Option Double) :=
  match value with
  | .atom "nil" => .ok none
  | .number n => (orRaise (overOne? n)).map some
  | _ => refuse (invalidMergePolicy "epoch_interval_s")

/-- `{:invalid_outlier_reject, value}`. -/
def invalidOutlierReject (value : Value) : Refusal := .tuple [.atom "invalid_outlier_reject", value]

/-- The tolerances of a map of `:position_m` and `:clock_ns`. -/
def outlierTolerances (position clock : Value) : Except Failure (Tolerance × Tolerance) := do
  let position ← normalizeNonnegativeFloat inspect position "outlier_position_m"
  let clock ← normalizeNonnegativeFloat inspect clock "outlier_clock_ns"
  let clock ← orRaise (secondsOfNano? clock)
  .ok (position, clock)

/-- `with … else _ -> {:error, reason}`, which does not rescue. -/
def elseRefuse {α : Type} (reason : Refusal) : Except Failure α → Except Failure α
  | .error (.refused _) => refuse reason
  | outcome => outcome

/-- `normalize_outlier_reject` of a map. -/
def normalizeOutlierMap (entries : List (Value × Value)) : Except Failure (Tolerance × Tolerance) :=
  match fetchAtom entries "position_tolerance_m", fetchAtom entries "clock_tolerance_s",
      entries.length with
  | some position, some clock, 2 => do
    let position ← normalizeNonnegativeFloat inspect position "outlier_position_tolerance_m"
    let clock ← normalizeNonnegativeFloat inspect clock "outlier_clock_tolerance_s"
    .ok (position, clock)
  | _, _, 2 =>
    elseRefuse (invalidOutlierReject (.map entries))
      (outlierTolerances inspect ((fetchAtom entries "position_m").getD .nil)
        ((fetchAtom entries "clock_ns").getD .nil))
  | _, _, _ => refuse (invalidOutlierReject (.map entries))

/-- `normalize_outlier_reject`. -/
def normalizeOutlierReject (value : Value) : Except Failure (Option (Tolerance × Tolerance)) :=
  match value with
  | .atom "nil" => .ok none
  | .list items =>
    match keywords? items with
    | some opts =>
      if keysOnce opts then
        (normalizeOutlierMap inspect (opts.map fun option => (.atom option.1, option.2))).map some
      else refuse (invalidOutlierReject value)
    | none => refuse (invalidOutlierReject value)
  | .map entries => (normalizeOutlierMap inspect entries).map some
  | value => refuse (invalidOutlierReject value)

/-- `String.upcase` of one byte. -/
def upcase (byte : UInt8) : UInt8 := if 97 ≤ byte ∧ byte ≤ 122 then byte - 32 else byte

/-- `{:unsupported_system, value}`. -/
def unsupportedSystem (value : Value) : Refusal := .tuple [.atom "unsupported_system", value]

/-- `normalize_merge_system`, with the system of the letter. -/
def normalizeMergeSystem (system : Value) : Except Refusal System :=
  match system with
  | .atom name => normalizeNamed (.atom name) (unsupportedSystem (.atom name))
  | .text [byte] =>
    match System.ofLetter? [upcase byte] with
    | some system => .ok system
    | none => .error (unsupportedSystem (.text [upcase byte]))
  | other => .error (unsupportedSystem other)

/-- `normalize_merge_systems`. -/
def normalizeMergeSystems (systems : Value) : Except Refusal Systems :=
  match systems with
  | .list items =>
    (checkEach (fun _ => normalizeMergeSystem) 0 items).map fun found =>
      ⟨sortBy System.key (uniq found), ascending_sortBy_uniq System.key_injective found⟩
  | system => .error (.tuple [.atom "unsupported_systems_filter", system])

/-- `normalize_policy_systems`. -/
def normalizePolicySystems (opts : Keywords) : Except Refusal Systems :=
  match opts.lookup "systems" with
  | none => .ok ⟨[], .nil⟩
  | some (.atom "nil") => .ok ⟨[], .nil⟩
  | some (.list []) => .error (invalidMergePolicy "systems")
  | some systems => normalizeMergeSystems systems

/-- `{:invalid_frame_label_set, index, labels}`. -/
def invalidFrameLabelSet (index : Nat) (labels : Value) : Refusal :=
  .tuple [.atom "invalid_frame_label_set", .int index, labels]

/-- A label, trimmed. -/
def normalizeFrameLabel? : Value → Option Label
  | .text bytes =>
    if nonempty : trim bytes ≠ [] then some ⟨trim bytes, trim_trim bytes, nonempty⟩ else none
  | _ => none

/-- `normalize_frame_labels`. -/
def normalizeFrameLabels (labels : List Value) (index : Nat) : Except Refusal LabelSet :=
  match labels.mapM normalizeFrameLabel? with
  | some found =>
    if two : 2 ≤ (sortBy Label.key (uniq found)).length then
      .ok ⟨sortBy Label.key (uniq found), ascending_sortBy_uniq Label.key_injective found, two⟩
    else .error (invalidFrameLabelSet index (.list labels))
  | none => .error (invalidFrameLabelSet index (.list labels))

/-- A set of labels in its position. -/
def normalizeFrameLabelSet (index : Nat) (labels : Value) : Except Refusal LabelSet :=
  match labels with
  | .list items =>
    if items.length < 2 then .error (invalidFrameLabelSet index labels)
    else normalizeFrameLabels items index
  | labels => .error (invalidFrameLabelSet index labels)

/-- The sets in order, unless two are the same. -/
def sortedSets (sets : List LabelSet) (reason : Refusal) : Except Refusal LabelSets :=
  if nodup : (sortBy LabelSet.key sets).Nodup then
    .ok ⟨sortBy LabelSet.key sets,
      ascending_of_sorted LabelSet.key_injective nodup (pairwise_sortBy _ _)⟩
  else .error reason

/-- `normalize_asserted_frame_label_sets`. -/
def normalizeAssertedFrameLabelSets (value : Value) : Except Refusal LabelSets :=
  match value with
  | .atom "nil" => .ok ⟨[], .nil⟩
  | .list labelSets => do
    let sets ← checkEach normalizeFrameLabelSet 0 labelSets
    sortedSets sets (.tuple [.atom "invalid_frame_label_sets", .atom "duplicate"])
  | value => .error (.tuple [.atom "invalid_frame_label_sets", value])

/-- The orbit class of `normalize_continuity_options`. -/
def normalizeOrbitClass (value : Value) : Except Refusal (Option OrbitClass) :=
  match value with
  | .atom "nil" => .ok none
  | value => (normalizeNamed value (.tuple [.atom "bad_orbit_class", value])).map some

/-- `{:continuity_options, detail}` of the residual tolerance. -/
def residualRefusal (value : Value) (reason : String) : Refusal :=
  .tuple [.atom "continuity_options", Record.toValue
    [("field", .atom "residual_tolerance_m"), ("value", value), ("reason", .atom reason)]]

/-- A residual tolerance of a continuity option. -/
def normalizeResidual (value : Value) : Except Refusal (Option {n : Number // 0 ≤ n.value}) :=
  match value with
  | .atom "nil" => .ok none
  | .number n =>
    if nonneg : 0 ≤ n.value then .ok (some ⟨n, nonneg⟩)
    else .error (residualRefusal (.number n) "negative")
  | value => .error (residualRefusal (.text (inspect value)) "not_numeric_or_finite")

/-- A gap threshold factor of a continuity option. -/
def normalizeGap (value : Value) : Except Refusal (Option Number) :=
  match value with
  | .atom "nil" => .ok none
  | .number n => .ok (some n)
  | value => .error (.tuple [.atom "bad_gap_threshold_factor", value])

/-- A residual tolerance as a double. -/
def residual? (tolerance : {n : Number // 0 ≤ n.value}) : Option Residual :=
  match divided : overOne? tolerance.val with
  | some x => some ⟨x, overOne?_nonneg tolerance.property divided⟩
  | none => none

/-- Convert what is there. -/
def convert {α β : Type} (conversion : α → Option β) : Option α → Except Failure (Option β)
  | some value => (orRaise (conversion value)).map some
  | none => .ok none

/-- `normalize_continuity_options` of a list. -/
def normalizeContinuityOptions (opts : List Value) : Except Failure Continuity := do
  let orbitClass ← keywordGet opts "orbit_class" (.atom "meo_gnss")
  let tolerance ← keywordGet opts "residual_tolerance_m" (.number (double 1.0))
  let gapThresholdFactor ← keywordGet opts "gap_threshold_factor" .nil
  let orbitClass ← refusal (normalizeOrbitClass orbitClass)
  let tolerance ← refusal (normalizeResidual inspect tolerance)
  let gapThresholdFactor ← refusal (normalizeGap gapThresholdFactor)
  let tolerance ← convert residual? tolerance
  let gapThresholdFactor ← convert overOne? gapThresholdFactor
  .ok ⟨orbitClass, tolerance, gapThresholdFactor⟩

/-- A refusal of the options of continuity. -/
def invalidVerifyContinuity {α : Type} : Except Failure α → Except Failure α
  | .error (.refused reason) => refuse (.tuple [.atom "invalid_verify_continuity", reason])
  | outcome => outcome

/-- `normalize_verify_continuity`. -/
def normalizeVerifyContinuity (value : Value) : Except Failure (Option Continuity) :=
  match value with
  | .atom "nil" => .ok none
  | .atom "false" => .ok none
  | .atom "true" => invalidVerifyContinuity ((normalizeContinuityOptions inspect []).map some)
  | .list opts => invalidVerifyContinuity ((normalizeContinuityOptions inspect opts).map some)
  | value => refuse (.tuple [.atom "invalid_verify_continuity", value])

/-- `@merge_policy_keys`. -/
def mergePolicyKeys : List String :=
  ["position_tolerance_m", "clock_tolerance_s", "min_agree", "clock_min_common", "combine",
    "precedence_scope", "outlier_reject", "epoch_interval_s", "systems",
    "asserted_frame_label_sets", "helmert", "verify_continuity", "provenance"]

/-- The checks of the values of the options. -/
def normalizeValues (opts : Keywords) : Except Failure Policy := do
  let positionToleranceM ← normalizeNonnegativeFloat inspect
    (opts.get "position_tolerance_m" (.number (double 0.5))) "position_tolerance_m"
  let clockToleranceS ← normalizeNonnegativeFloat inspect
    (opts.get "clock_tolerance_s" (.number (double 5.0e-9))) "clock_tolerance_s"
  let minAgree ← refusal (normalizePositiveInteger (opts.get "min_agree" (.int 2)) "min_agree")
  let clockMinCommon ← refusal
    (normalizePositiveInteger (opts.get "clock_min_common" (.int 5)) "clock_min_common")
  let combine ← refusal (normalizeCombine (opts.get "combine" (.atom "mean")))
  let precedenceScope ← refusal
    (normalizePrecedenceScope (opts.get "precedence_scope" (.atom "cell")))
  let outlierReject ← normalizeOutlierReject inspect (opts.get "outlier_reject" .nil)
  let epochIntervalS ← normalizeEpochInterval (opts.get "epoch_interval_s" .nil)
  let systems ← refusal (normalizePolicySystems opts)
  let assertedFrameLabelSets ← refusal
    (normalizeAssertedFrameLabelSets (opts.get "asserted_frame_label_sets" (.list [])))
  let helmert ← refusal (normalizeBoolean (opts.get "helmert" (.atom "false")) "helmert")
  let verifyContinuity ← normalizeVerifyContinuity inspect
    (opts.get "verify_continuity" (.atom "false"))
  let provenance ← refusal (normalizeProvenance (opts.get "provenance" .nil))
  .ok { positionToleranceM, clockToleranceS, minAgree, clockMinCommon, combine, precedenceScope,
        outlierReject, epochIntervalS, systems, assertedFrameLabelSets, helmert, verifyContinuity,
        provenance }

/-- `normalize_merge_policy`. `Keyword.keys` raises on a list that is not of keywords, before
`Keyword.keyword?` is asked. -/
def normalizeMergePolicy (opts : Value) : Except Failure Policy :=
  match opts with
  | .list items => do
    let opts ← orRaise (keywords? items)
    refusal (ensure (∀ key ∈ opts.keys, key ∈ mergePolicyKeys)
      (invalidMergePolicy "unknown_option"))
    refusal (ensure (keysOnce opts) (invalidMergePolicy "duplicate_option"))
    normalizeValues inspect opts
  | _ => refuse (invalidMergePolicy "not_keyword")

end Options

end Sidereon.MergePolicy
