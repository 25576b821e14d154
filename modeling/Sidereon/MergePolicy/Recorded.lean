import Sidereon.MergePolicy.Options

/-!
# Recorded merge policies

The facade records a normalised policy as a map, `shared_merge_policy` lays the map out as the shared
schema does, and verification reads it back: `shared_policy` into the layout of the earlier schemas
and `persisted_merge_policy` into options and the recorded policy again.
-/

namespace Sidereon.MergePolicy

open Foundation Sidereon.Distribution MergeReport
open Foundation.Beam (Number double floatValue)
open Ftp (trim)

section Written

/-- A hexadecimal digit in lower case. -/
def lowerHex (byte : UInt8) : Bool := (48 ≤ byte && byte ≤ 57) || (97 ≤ byte && byte ≤ 102)

/-- The SHA-256 of a contributor's product, in hexadecimal digits. -/
structure Digest where
  text : Binary
  sized : text.length = 64
  digits : text.all lowerHex = true

/-- The digest as a term. -/
def Digest.toValue (digest : Digest) : Value := .text digest.text

/-- What may be `nil`. -/
def optional {α : Type} (toValue : α → Value) (value : Option α) : Value :=
  (value.map toValue).getD .nil

/-- A list. -/
def listOf {α : Type} (toValue : α → Value) (items : List α) : Value := .list (items.map toValue)

/-- A boolean is an atom. -/
def ofBool (value : Bool) : Value := .atom (if value then "true" else "false")

/-- The letter of a system as a term. -/
def System.toValue (system : System) : Value := .text system.letter

/-- A pair of tolerances as a map. -/
def tolerancesMap (tolerances : Tolerance × Tolerance) : Record :=
  [("position_tolerance_m", tolerances.1.double.toValue),
    ("clock_tolerance_s", tolerances.2.double.toValue)]

/-- `outlier_reject_map`. -/
def outlierRejectMap : Option (Tolerance × Tolerance) → Value :=
  optional fun tolerances => (tolerancesMap tolerances).toValue

/-- The options of continuity as a map. -/
def continuityMap (continuity : Continuity) : Record :=
  [("orbit_class", optional Named.toText continuity.orbitClass),
    ("residual_tolerance_m", optional (·.double.toValue) continuity.residualToleranceM),
    ("gap_threshold_factor", optional Double.toValue continuity.gapThresholdFactor)]

/-- `continuity_policy_map`. -/
def continuityPolicyMap : Option Continuity → Value :=
  optional fun continuity => (continuityMap continuity).toValue

/-- The contributors that the core returns in their order when it combines them by precedence. -/
def precedenceContributors (policy : Policy) (contributors : List Digest) : Option (List Digest) :=
  if policy.combine = .precedence then some contributors else none

/-- `merge_policy_map`, of the digests of the contributors in precedence. -/
def mergePolicyMap (policy : Policy) (precedence : Option (List Digest)) : Record :=
  [("position_tolerance_m", policy.positionToleranceM.double.toValue),
    ("clock_tolerance_s", policy.clockToleranceS.double.toValue),
    ("min_agree", .int policy.minAgree.value),
    ("clock_min_common", .int policy.clockMinCommon.value),
    ("combine", Named.toText policy.combine),
    ("precedence_artifact_sha256", optional (listOf Digest.toValue) precedence),
    ("precedence_scope", Named.toText policy.precedenceScope),
    ("outlier_reject", outlierRejectMap policy.outlierReject),
    ("epoch_interval_s", optional Double.toValue policy.epochIntervalS),
    ("systems", listOf System.toValue policy.systems.systems),
    ("asserted_frame_label_sets", listOf LabelSet.toValue policy.assertedFrameLabelSets.sets),
    ("helmert", ofBool policy.helmert),
    ("verify_continuity", continuityPolicyMap policy.verifyContinuity),
    ("provenance", optional Named.toText policy.provenance)]

/-- `if(policy.systems != [], do: policy.systems)`. -/
def filterOrNil : Value → Value
  | .list [] => .nil
  | systems => systems

/-- `digests || []`. -/
def orEmpty : Value → Value
  | .atom "nil" => .list []
  | .atom "false" => .list []
  | digests => digests

/-- `shared_merge_policy`. -/
def sharedMergePolicy (policy : Record) : Record :=
  [("schema_version", .int 2),
    ("position_tolerance_m", policy.get "position_tolerance_m"),
    ("clock_tolerance_s", policy.get "clock_tolerance_s"),
    ("min_agree", policy.get "min_agree"),
    ("clock_min_common", policy.get "clock_min_common"),
    ("combine", policy.get "combine"),
    ("precedence_scope", policy.get "precedence_scope"),
    ("outlier_reject", policy.get "outlier_reject"),
    ("target_epoch_interval_s", policy.get "epoch_interval_s"),
    ("systems", filterOrNil (policy.get "systems")),
    ("asserted_frame_label_sets", policy.get "asserted_frame_label_sets"),
    ("helmert", policy.get "helmert"),
    ("precedence_artifact_sha256", orEmpty (policy.get "precedence_artifact_sha256")),
    ("verify_continuity", policy.get "verify_continuity"),
    ("provenance", policy.get "provenance")]

end Written

section Shared

/-- `{:invalid_field, {:merge_policy, field}}`. -/
def invalidPolicyField (field : String) : Refusal :=
  invalidField (.tuple [.atom "merge_policy", .atom field])

/-- `shared_systems`. -/
def sharedSystems : Value → Except Refusal Value
  | .atom "nil" => .ok (.list [])
  | .list (system :: systems) => .ok (.list (system :: systems))
  | _ => .error (invalidPolicyField "systems")

/-- `shared_precedence`. -/
def sharedPrecedence (digests combine : Value) : Except Refusal Value :=
  match combine.isAtom "precedence" || combine.isText "precedence", digests with
  | true, .list items => .ok (.list items)
  | _, .list [] => .ok .nil
  | _, _ => .error (invalidPolicyField "precedence_artifact_sha256")

/-- The fields of a policy in the shared layout. -/
def sharedPolicyFields : List String :=
  ["schema_version", "position_tolerance_m", "clock_tolerance_s", "min_agree", "clock_min_common",
    "combine", "precedence_scope", "outlier_reject", "target_epoch_interval_s", "systems",
    "asserted_frame_label_sets", "helmert", "precedence_artifact_sha256", "verify_continuity",
    "provenance"]

/-- `shared_policy`. -/
def sharedPolicy (policy : Value) : Except Refusal Record := do
  let values ← exactFields policy sharedPolicyFields (.atom "merge_policy")
  exactValue (values.get "schema_version") 2
    (.tuple [.atom "merge_policy", .atom "schema_version"])
  let systems ← sharedSystems (values.get "systems")
  let precedence ← sharedPrecedence (values.get "precedence_artifact_sha256")
    (values.get "combine")
  .ok (((((values.delete "schema_version").delete "target_epoch_interval_s").put
    "epoch_interval_s" (values.get "target_epoch_interval_s")).put "systems" systems).put
    "precedence_artifact_sha256" precedence)

end Shared

section Persisted

/-- `persisted_nonnegative_float`. -/
def persistedNonnegativeFloat (value : Value) (field : String) : Except Refusal Tolerance :=
  match Double.ofValue? value with
  | some x =>
    if nonneg : 0 ≤ x.exact_ then .ok (canonicalZero x nonneg)
    else .error (invalidPolicyField field)
  | none => .error (invalidPolicyField field)

/-- `positive_integer`, with the integer. -/
def positiveInteger (value : Value) (field : String) : Except Refusal Count :=
  match value with
  | .number (.int n) =>
    if positive : 0 < n then .ok ⟨n, positive⟩ else .error (invalidPolicyField field)
  | _ => .error (invalidPolicyField field)

/-- A value that an atom or a text names. -/
def persistedNamed {α : Type} [Named α] (value : Value) (reason : Refusal) : Except Refusal α :=
  match Named.ofEither? value with
  | some item => .ok item
  | none => .error reason

/-- `persisted_combine`. -/
def persistedCombine (value : Value) : Except Refusal Combine :=
  persistedNamed value (.atom "invalid_merge_policy")

/-- `persisted_precedence_scope`. -/
def persistedPrecedenceScope (value : Value) : Except Refusal PrecedenceScope :=
  persistedNamed value (.atom "invalid_merge_policy")

/-- `persisted_outlier_reject`, with the tolerances both of its maps are made of. -/
def persistedOutlierReject (value : Value) : Except Refusal (Option (Tolerance × Tolerance)) :=
  match value with
  | .atom "nil" => .ok none
  | .map entries => do
    let values ← exactFields (.map entries) ["position_tolerance_m", "clock_tolerance_s"]
      (.tuple [.atom "merge_policy", .atom "outlier_reject"])
    let position ← persistedNonnegativeFloat (values.get "position_tolerance_m")
      "outlier_position_tolerance_m"
    let clock ← persistedNonnegativeFloat (values.get "clock_tolerance_s")
      "outlier_clock_tolerance_s"
    .ok (some (position, clock))
  | _ => .error (.atom "invalid_outlier_reject")

theorem finite_ticks : (100000000.0 : Float).isFinite = true := by decide +kernel

/-- `Float.round`: the nearest integer, as a double again. -/
def floatRound? (x : Number) : Option Number :=
  (Number.int x.round).toFloat?.bind Number.ofFloat?

/-- Whether an interval is within its range and a whole number of ticks of 10 ns, unless a product
raises. -/
def inTicks? (interval : Double) : Option Bool := do
  let tickCount ← interval.number.mul? (.float 100000000.0 finite_ticks)
  let nearest ← floatRound? tickCount
  some (decide (0 < interval.exact_ ∧ interval.exact_ < 100000 ∧ tickCount.value = nearest.value))

/-- `persisted_epoch_interval`. -/
def persistedEpochInterval (value : Value) : Except Failure (Option Double) :=
  match value with
  | .atom "nil" => .ok none
  | .number (.float x finite) => do
    let whole ← orRaise (inTicks? ⟨x, finite⟩)
    if whole then .ok (some ⟨x, finite⟩) else refuse (invalidPolicyField "epoch_interval_s")
  | _ => refuse (invalidPolicyField "epoch_interval_s")

/-- The system of a letter. -/
def systemOfLetter? : Value → Option System
  | .text letter => System.ofLetter? letter
  | _ => none

/-- Systems in order and once each. -/
def canonicalSystems? (systems : List System) : Option Systems :=
  if same : systems = sortBy System.key (uniq systems) then
    some ⟨systems, same ▸ ascending_sortBy_uniq System.key_injective systems⟩
  else none

/-- `persisted_systems`, with the systems of the letters. -/
def persistedSystems (systems : Value) : Except Refusal Systems :=
  match systems with
  | .list items =>
    match (items.mapM systemOfLetter?).bind canonicalSystems? with
    | some systems => .ok systems
    | none => .error (invalidPolicyField "systems")
  | _ => .error (invalidPolicyField "systems")

/-- A text that is a label as it is. -/
def persistedLabel? : Value → Option Label
  | .text bytes =>
    if form : trim bytes = bytes ∧ bytes ≠ [] then some ⟨bytes, form.1, form.2⟩ else none
  | _ => none

/-- Labels in order and once each, at least two. -/
def canonicalLabels? (labels : List Label) : Option LabelSet :=
  if form : 2 ≤ labels.length ∧ labels = sortBy Label.key (uniq labels) then
    some ⟨labels, form.2 ▸ ascending_sortBy_uniq Label.key_injective labels, form.1⟩
  else none

/-- A set of labels as it is. -/
def persistedLabelSet? : Value → Option LabelSet
  | .list items => (items.mapM persistedLabel?).bind canonicalLabels?
  | _ => none

/-- Sets in order and once each. -/
def canonicalSets? (sets : List LabelSet) : Option LabelSets :=
  if form : sets = sortBy LabelSet.key sets ∧ sets.Nodup then
    some ⟨sets, ascending_of_sorted LabelSet.key_injective form.2
      (form.1 ▸ pairwise_sortBy LabelSet.key sets)⟩
  else none

/-- `persisted_label_sets`. -/
def persistedLabelSets (labelSets : Value) : Except Refusal LabelSets :=
  match labelSets with
  | .list items =>
    match (items.mapM persistedLabelSet?).bind canonicalSets? with
    | some sets => .ok sets
    | none => .error (invalidPolicyField "asserted_frame_label_sets")
  | _ => .error (invalidPolicyField "asserted_frame_label_sets")

/-- A boolean. -/
def persistedBoolean (value : Value) : Except Refusal Bool :=
  match value with
  | .atom "true" => .ok true
  | .atom "false" => .ok false
  | _ => .error (invalidPolicyField "helmert")

/-- `valid_digest_value?`: the end of the pattern also stands before a last line feed. -/
def validDigestValue : Value → Bool
  | .text bytes =>
    let line := if bytes.getLast? = some 10 then bytes.dropLast else bytes
    line.length == 64 && line.all lowerHex
  | _ => false

/-- `persisted_precedence_list`. -/
def persistedPrecedenceList (values : Value) : Except Refusal Unit :=
  match values with
  | .atom "nil" => .ok ()
  | .list (item :: items) =>
    ensure ((item :: items).all validDigestValue = true)
      (invalidPolicyField "precedence_artifact_sha256")
  | _ => .error (invalidPolicyField "precedence_artifact_sha256")

/-- `{:invalid_field, {:merge_policy, :verify_continuity, field}}`. -/
def invalidContinuityField (field : String) : Refusal :=
  invalidField (.tuple [.atom "merge_policy", .atom "verify_continuity", .atom field])

/-- `persisted_orbit_class`. -/
def persistedOrbitClass (value : Value) : Except Refusal (Option OrbitClass) :=
  match value with
  | .atom "nil" => .ok none
  | value => (persistedNamed value (invalidContinuityField "orbit_class")).map some

/-- `optional_nonnegative_float` of the residual tolerance, with the tolerance. -/
def persistedResidual (value : Value) : Except Refusal (Option Residual) :=
  match value with
  | .atom "nil" => .ok none
  | .number (.float x finite) =>
    if nonneg : 0 ≤ floatValue x then .ok (some ⟨⟨x, finite⟩, nonneg⟩)
    else .error (invalidField (.tuple [.tuple [.atom "merge_policy", .atom "verify_continuity"],
      .atom "residual_tolerance_m"]))
  | _ => .error (invalidField (.tuple [.tuple [.atom "merge_policy", .atom "verify_continuity"],
      .atom "residual_tolerance_m"]))

/-- `persisted_gap_threshold_factor`, with the factor. -/
def persistedGapThresholdFactor (value : Value) : Except Refusal (Option Double) :=
  match value with
  | .atom "nil" => .ok none
  | .number (.float x finite) =>
    if 1 < floatValue x then .ok (some ⟨x, finite⟩)
    else .error (invalidContinuityField "gap_threshold_factor")
  | _ => .error (invalidContinuityField "gap_threshold_factor")

/-- `persisted_verify_continuity`, with what both its options and its map are made of. -/
def persistedVerifyContinuity (value : Value) : Except Refusal (Option Continuity) :=
  match value with
  | .atom "nil" => .ok none
  | .map entries => do
    let values ← exactFields (.map entries)
      ["orbit_class", "residual_tolerance_m", "gap_threshold_factor"]
      (.tuple [.atom "merge_policy", .atom "verify_continuity"])
    let orbitClass ← persistedOrbitClass (values.get "orbit_class")
    let residualToleranceM ← persistedResidual (values.get "residual_tolerance_m")
    let gapThresholdFactor ← persistedGapThresholdFactor (values.get "gap_threshold_factor")
    .ok (some ⟨orbitClass, residualToleranceM, gapThresholdFactor⟩)
  | _ => .error (invalidPolicyField "verify_continuity")

/-- `persisted_provenance`. -/
def persistedProvenance (value : Value) : Except Refusal (Option Provenance) :=
  match value with
  | .atom "nil" => .ok none
  | value => (persistedNamed value (invalidPolicyField "provenance")).map some

/-- A name as an atom. -/
def Named.toAtom {α : Type} [Named α] (item : α) : Value := .atom (Named.name item)

/-- The options that verify continuity. -/
def continuityOption : Option Continuity → Value
  | none => .atom "false"
  | some continuity => Keywords.toValue
      [("orbit_class", optional Named.toAtom continuity.orbitClass),
        ("residual_tolerance_m", optional (·.double.toValue) continuity.residualToleranceM),
        ("gap_threshold_factor", optional Double.toValue continuity.gapThresholdFactor)]

/-- `persisted_reporting_options`. -/
def persistedReportingOptions (values : Record) (schemaVersion : Nat) :
    Except Refusal (Keywords × Record) :=
  if schemaVersion < 3 then .ok ([], [])
  else do
    let continuity ← persistedVerifyContinuity (values.get "verify_continuity")
    let provenance ← persistedProvenance (values.get "provenance")
    .ok ([("verify_continuity", continuityOption continuity),
        ("provenance", optional Named.toAtom provenance)],
      [("verify_continuity", continuityPolicyMap continuity),
        ("provenance", optional Named.toText provenance)])

/-- The fields of a policy in the earlier layout. -/
def persistedPolicyFields (schemaVersion : Nat) : List String :=
  ["position_tolerance_m", "clock_tolerance_s", "min_agree", "clock_min_common", "combine",
    "precedence_artifact_sha256", "precedence_scope", "outlier_reject", "epoch_interval_s",
    "systems", "asserted_frame_label_sets", "helmert"] ++
    if schemaVersion ≥ 3 then ["verify_continuity", "provenance"] else []

/-- `Keyword.put` of the systems, unless there are none. -/
def putSystems (systems : Systems) (opts : Keywords) : Keywords :=
  match systems.systems with
  | [] => opts
  | _ => ("systems", listOf System.toValue systems.systems) ::
      opts.filter fun option => option.1 != "systems"

/-- What a persisted policy is read as: options, the policy as it is recorded, and its
precedence. -/
structure Persisted where
  opts : Keywords
  normalized : Record
  precedence : Value

/-- `persisted_merge_policy`. -/
def persistedMergePolicy (policy : Value) (schemaVersion : Nat) : Except Failure Persisted :=
  match policy with
  | .map entries => do
    let values ← refusal (exactFields (.map entries) (persistedPolicyFields schemaVersion)
      (.atom "merge_policy"))
    let positionToleranceM ← refusal (persistedNonnegativeFloat
      (values.get "position_tolerance_m") "position_tolerance_m")
    let clockToleranceS ← refusal (persistedNonnegativeFloat
      (values.get "clock_tolerance_s") "clock_tolerance_s")
    let minAgree ← refusal (positiveInteger (values.get "min_agree") "min_agree")
    let clockMinCommon ← refusal
      (positiveInteger (values.get "clock_min_common") "clock_min_common")
    let combine ← refusal (persistedCombine (values.get "combine"))
    let precedenceScope ← refusal (persistedPrecedenceScope (values.get "precedence_scope"))
    let outlierReject ← refusal (persistedOutlierReject (values.get "outlier_reject"))
    let epochIntervalS ← persistedEpochInterval (values.get "epoch_interval_s")
    let systems ← refusal (persistedSystems (values.get "systems"))
    let labelSets ← refusal (persistedLabelSets (values.get "asserted_frame_label_sets"))
    let helmert ← refusal (persistedBoolean (values.get "helmert"))
    refusal (persistedPrecedenceList (values.get "precedence_artifact_sha256"))
    let (reportingOpts, reportingPolicy) ← refusal (persistedReportingOptions values schemaVersion)
    let opts : Keywords :=
      [("position_tolerance_m", positionToleranceM.double.toValue),
        ("clock_tolerance_s", clockToleranceS.double.toValue),
        ("min_agree", .int minAgree.value),
        ("clock_min_common", .int clockMinCommon.value),
        ("combine", Named.toAtom combine),
        ("precedence_scope", Named.toAtom precedenceScope),
        ("outlier_reject", outlierRejectMap outlierReject),
        ("epoch_interval_s", optional Double.toValue epochIntervalS),
        ("asserted_frame_label_sets", listOf LabelSet.toValue labelSets.sets),
        ("helmert", ofBool helmert)]
    let normalized : Record :=
      [("position_tolerance_m", positionToleranceM.double.toValue),
        ("clock_tolerance_s", clockToleranceS.double.toValue),
        ("min_agree", .int minAgree.value),
        ("clock_min_common", .int clockMinCommon.value),
        ("combine", Named.toText combine),
        ("precedence_artifact_sha256", values.get "precedence_artifact_sha256"),
        ("precedence_scope", Named.toText precedenceScope),
        ("outlier_reject", outlierRejectMap outlierReject),
        ("epoch_interval_s", optional Double.toValue epochIntervalS),
        ("systems", listOf System.toValue systems.systems),
        ("asserted_frame_label_sets", listOf LabelSet.toValue labelSets.sets),
        ("helmert", ofBool helmert)]
    .ok { opts := putSystems systems (opts ++ reportingOpts),
          normalized := normalized ++ reportingPolicy,
          precedence := values.get "precedence_artifact_sha256" }
  | _ => refuse (.atom "invalid_merge_policy")

end Persisted

end Sidereon.MergePolicy
