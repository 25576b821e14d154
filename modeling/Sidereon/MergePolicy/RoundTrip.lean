import Sidereon.MergePolicy.Reading

/-!
# The round trip of merge policies

The policy that normalising an option list makes is recorded, laid out, read back and normalised
again. What comes back is the policy and its record, whether the layout is read as it was made or
from JSON.
-/

namespace Sidereon.MergePolicy

open Foundation Sidereon.Distribution MergeReport
open Foundation.Beam (Number double floatValue)

section Layout

variable (spelling : Spelling) (policy : Policy) (precedence : Option (List Digest))

/-- The policy in the shared layout, in a spelling. -/
def layout : Record :=
  [("schema_version", .int 2),
    ("position_tolerance_m", policy.positionToleranceM.double.toValue),
    ("clock_tolerance_s", policy.clockToleranceS.double.toValue),
    ("min_agree", .int policy.minAgree.value),
    ("clock_min_common", .int policy.clockMinCommon.value),
    ("combine", Named.toText policy.combine),
    ("precedence_scope", Named.toText policy.precedenceScope),
    ("outlier_reject", spelledOutliers spelling policy.outlierReject),
    ("target_epoch_interval_s", optional Double.toValue policy.epochIntervalS),
    ("systems", filterOrNil (listOf System.toValue policy.systems.systems)),
    ("asserted_frame_label_sets", listOf LabelSet.toValue policy.assertedFrameLabelSets.sets),
    ("helmert", ofBool policy.helmert),
    ("precedence_artifact_sha256", orEmpty (optional (listOf Digest.toValue) precedence)),
    ("verify_continuity", spelledContinuity spelling policy.verifyContinuity),
    ("provenance", optional Named.toText policy.provenance)]

/-- The policy in the earlier layout, in a spelling. -/
def recordIn : Record :=
  [("position_tolerance_m", policy.positionToleranceM.double.toValue),
    ("clock_tolerance_s", policy.clockToleranceS.double.toValue),
    ("min_agree", .int policy.minAgree.value),
    ("clock_min_common", .int policy.clockMinCommon.value),
    ("combine", Named.toText policy.combine),
    ("precedence_artifact_sha256", optional (listOf Digest.toValue) precedence),
    ("precedence_scope", Named.toText policy.precedenceScope),
    ("outlier_reject", spelledOutliers spelling policy.outlierReject),
    ("epoch_interval_s", optional Double.toValue policy.epochIntervalS),
    ("systems", listOf System.toValue policy.systems.systems),
    ("asserted_frame_label_sets", listOf LabelSet.toValue policy.assertedFrameLabelSets.sets),
    ("helmert", ofBool policy.helmert),
    ("verify_continuity", spelledContinuity spelling policy.verifyContinuity),
    ("provenance", optional Named.toText policy.provenance)]

/-- What `shared_merge_policy` lays out of a recorded policy. -/
theorem sharedMergePolicy_mergePolicyMap :
    sharedMergePolicy (mergePolicyMap policy precedence) = layout .atoms policy precedence := rfl

theorem exactFields_layout :
    exactFields (spelled spelling (layout spelling policy precedence)) sharedPolicyFields
      (.atom "merge_policy") = .ok (layout spelling policy precedence) := by
  cases spelling <;> rfl

theorem sharedSystems_listOf (systems : List System) :
    sharedSystems (filterOrNil (listOf System.toValue systems)) =
      .ok (listOf System.toValue systems) := by
  cases systems <;> rfl

/-- The precedence of a policy by precedence is a list, and there is none of the others. -/
theorem sharedPrecedence_contributors (contributors : List Digest) :
    sharedPrecedence
        (orEmpty (optional (listOf Digest.toValue) (precedenceContributors policy contributors)))
        (Named.toText policy.combine) =
      .ok (optional (listOf Digest.toValue) (precedenceContributors policy contributors)) := by
  unfold precedenceContributors
  cases policy.combine <;> rfl

end Layout

section Persisted

variable {spelling : Spelling} {policy : Policy} {contributors : List Digest}

/-- What the core accepts of a policy: an interval in ticks, and a gap threshold factor above 1. -/
structure CoreAccepts (policy : Policy) : Prop where
  interval : ∀ interval ∈ policy.epochIntervalS, InTicks interval
  factor : ∀ continuity ∈ policy.verifyContinuity,
    ∀ factor ∈ continuity.gapThresholdFactor, 1 < factor.exact_

/-- The options of a policy but its systems. -/
def plainOptions (policy : Policy) : Keywords :=
  [("position_tolerance_m", policy.positionToleranceM.double.toValue),
    ("clock_tolerance_s", policy.clockToleranceS.double.toValue),
    ("min_agree", .int policy.minAgree.value),
    ("clock_min_common", .int policy.clockMinCommon.value),
    ("combine", Named.toAtom policy.combine),
    ("precedence_scope", Named.toAtom policy.precedenceScope),
    ("outlier_reject", outlierRejectMap policy.outlierReject),
    ("epoch_interval_s", optional Double.toValue policy.epochIntervalS),
    ("asserted_frame_label_sets", listOf LabelSet.toValue policy.assertedFrameLabelSets.sets),
    ("helmert", ofBool policy.helmert),
    ("verify_continuity", continuityOption policy.verifyContinuity),
    ("provenance", optional Named.toAtom policy.provenance)]

/-- The options that a recorded policy is read as. -/
def options (policy : Policy) : Keywords := putSystems policy.systems (plainOptions policy)

theorem persistedReportingOptions_recordIn (precedence : Option (List Digest))
    (core : CoreAccepts policy) :
    persistedReportingOptions (recordIn spelling policy precedence) 3 =
      .ok ([("verify_continuity", continuityOption policy.verifyContinuity),
          ("provenance", optional Named.toAtom policy.provenance)],
        [("verify_continuity", continuityPolicyMap policy.verifyContinuity),
          ("provenance", optional Named.toText policy.provenance)]) :=
  bind_of_ok (persistedVerifyContinuity_spelled spelling core.factor)
    (bind_of_ok (persistedProvenance_toText policy.provenance) rfl)

/-- What is left of the shared layout. -/
def sharedValues (spelling : Spelling) (policy : Policy) (precedence : Option (List Digest)) :
    Record :=
  [("precedence_artifact_sha256", optional (listOf Digest.toValue) precedence),
    ("systems", listOf System.toValue policy.systems.systems),
    ("epoch_interval_s", optional Double.toValue policy.epochIntervalS),
    ("position_tolerance_m", policy.positionToleranceM.double.toValue),
    ("clock_tolerance_s", policy.clockToleranceS.double.toValue),
    ("min_agree", .int policy.minAgree.value),
    ("clock_min_common", .int policy.clockMinCommon.value),
    ("combine", Named.toText policy.combine),
    ("precedence_scope", Named.toText policy.precedenceScope),
    ("outlier_reject", spelledOutliers spelling policy.outlierReject),
    ("asserted_frame_label_sets", listOf LabelSet.toValue policy.assertedFrameLabelSets.sets),
    ("helmert", ofBool policy.helmert),
    ("verify_continuity", spelledContinuity spelling policy.verifyContinuity),
    ("provenance", optional Named.toText policy.provenance)]

theorem sharedPolicy_layout (contributors : List Digest) :
    sharedPolicy (spelled spelling
      (layout spelling policy (precedenceContributors policy contributors))) =
        .ok (sharedValues spelling policy (precedenceContributors policy contributors)) :=
  bind_of_ok (exactFields_layout spelling policy _) (bind_of_ok rfl
    (bind_of_ok (sharedSystems_listOf policy.systems.systems)
      (bind_of_ok (sharedPrecedence_contributors policy contributors) rfl)))

theorem exactFields_sharedValues (precedence : Option (List Digest)) :
    exactFields (sharedValues spelling policy precedence).toValue (persistedPolicyFields 3)
      (.atom "merge_policy") = .ok (recordIn spelling policy precedence) := rfl

/-- The recorded policy is read back, with options that state it. -/
theorem persistedMergePolicy_sharedValues {precedence : Option (List Digest)}
    (core : CoreAccepts policy) (nonempty : ∀ digests ∈ precedence, digests ≠ []) :
    persistedMergePolicy (sharedValues spelling policy precedence).toValue 3 = .ok
      { opts := options policy
        normalized := mergePolicyMap policy precedence
        precedence := optional (listOf Digest.toValue) precedence } :=
  bind_of_ok (congrArg refusal (exactFields_sharedValues precedence))
    (bind_of_ok (congrArg refusal
      (persistedNonnegativeFloat_double policy.positionToleranceM "position_tolerance_m"))
    (bind_of_ok (congrArg refusal
      (persistedNonnegativeFloat_double policy.clockToleranceS "clock_tolerance_s"))
    (bind_of_ok (congrArg refusal (positiveInteger_value policy.minAgree "min_agree"))
    (bind_of_ok (congrArg refusal
      (positiveInteger_value policy.clockMinCommon "clock_min_common"))
    (bind_of_ok (congrArg refusal (persistedNamed_toText policy.combine _))
    (bind_of_ok (congrArg refusal (persistedNamed_toText policy.precedenceScope _))
    (bind_of_ok (congrArg refusal (persistedOutlierReject_spelled spelling policy.outlierReject))
    (bind_of_ok (persistedEpochInterval_toValue core.interval)
    (bind_of_ok (congrArg refusal (persistedSystems_letters policy.systems))
    (bind_of_ok (congrArg refusal (persistedLabelSets_listOf policy.assertedFrameLabelSets))
    (bind_of_ok (congrArg refusal (persistedBoolean_ofBool policy.helmert))
    (bind_of_ok (congrArg refusal (persistedPrecedenceList_listOf nonempty))
    (bind_of_ok (congrArg refusal (persistedReportingOptions_recordIn precedence core))
      rfl)))))))))))))

end Persisted

section Normalised

variable {inspect : Value → Binary} {policy : Policy}

/-- The systems stand apart from the other options. -/
theorem putSystems_get {systems : Systems} {opts : Keywords} {key : String} (default : Value)
    (other : key ≠ "systems") : (putSystems systems opts).get key default = opts.get key default := by
  unfold putSystems
  split
  · rfl
  · exact congrArg (Option.getD · default) (lookup_put other)

theorem normalizePolicySystems_options :
    normalizePolicySystems (options policy) = .ok policy.systems := by
  have read := normalizeMergeSystems_letters policy.systems
  unfold options putSystems
  cases filtered : policy.systems.systems with
  | nil =>
    have empty : policy.systems = ⟨[], .nil⟩ := by
      cases same : policy.systems with
      | mk systems ascending =>
        rw [same] at filtered
        cases filtered
        rfl
    rw [empty]
    rfl
  | cons system systems =>
    rw [filtered] at read
    exact read

/-- The keys of the options but the systems. -/
def plainKeys : List String :=
  ["position_tolerance_m", "clock_tolerance_s", "min_agree", "clock_min_common", "combine",
    "precedence_scope", "outlier_reject", "epoch_interval_s", "asserted_frame_label_sets",
    "helmert", "verify_continuity", "provenance"]

theorem options_keys (policy : Policy) :
    (options policy).keys = plainKeys ∨ (options policy).keys = "systems" :: plainKeys := by
  unfold options putSystems
  split
  · exact .inl rfl
  · exact .inr rfl

theorem keysOnce_of_nodup {opts : Keywords} (nodup : opts.keys.Nodup) : keysOnce opts :=
  (List.toFinset_card_of_nodup nodup).symm

/-- The options that a recorded policy is read as normalise to the policy. -/
theorem normalizeValues_options (core : CoreAccepts policy) :
    normalizeValues inspect (options policy) = .ok policy := by
  have get : ∀ key default, key ≠ "systems" →
      (options policy).get key default = (plainOptions policy).get key default :=
    fun key default other => putSystems_get default other
  have interval : ∀ x ∈ policy.epochIntervalS, 0 ≤ x.exact_ :=
    fun x member => (core.interval x member).1.le
  have factor : ∀ given ∈ policy.verifyContinuity, ∀ factor ∈ given.gapThresholdFactor,
      0 ≤ factor.exact_ :=
    fun given member factor inside => zero_le_one.trans (core.factor given member factor inside).le
  simp only [normalizeValues, get _ _ (by decide : "position_tolerance_m" ≠ "systems"),
    get _ _ (by decide : "clock_tolerance_s" ≠ "systems"),
    get _ _ (by decide : "min_agree" ≠ "systems"),
    get _ _ (by decide : "clock_min_common" ≠ "systems"),
    get _ _ (by decide : "combine" ≠ "systems"),
    get _ _ (by decide : "precedence_scope" ≠ "systems"),
    get _ _ (by decide : "outlier_reject" ≠ "systems"),
    get _ _ (by decide : "epoch_interval_s" ≠ "systems"),
    get _ _ (by decide : "asserted_frame_label_sets" ≠ "systems"),
    get _ _ (by decide : "helmert" ≠ "systems"),
    get _ _ (by decide : "verify_continuity" ≠ "systems"),
    get _ _ (by decide : "provenance" ≠ "systems")]
  exact bind_of_ok (normalizeNonnegativeFloat_double inspect policy.positionToleranceM _)
    (bind_of_ok (normalizeNonnegativeFloat_double inspect policy.clockToleranceS _)
    (bind_of_ok (congrArg refusal (normalizePositiveInteger_value policy.minAgree _))
    (bind_of_ok (congrArg refusal (normalizePositiveInteger_value policy.clockMinCommon _))
    (bind_of_ok (congrArg refusal (normalizeNamed_toAtom policy.combine _))
    (bind_of_ok (congrArg refusal (normalizeNamed_toAtom policy.precedenceScope _))
    (bind_of_ok (normalizeOutlierReject_map inspect policy.outlierReject)
    (bind_of_ok (normalizeEpochInterval_toValue interval)
    (bind_of_ok (congrArg refusal normalizePolicySystems_options)
    (bind_of_ok (congrArg refusal
      (normalizeAssertedFrameLabelSets_listOf policy.assertedFrameLabelSets))
    (bind_of_ok (congrArg refusal (normalizeBoolean_ofBool policy.helmert _))
    (bind_of_ok (normalizeVerifyContinuity_option inspect factor)
    (bind_of_ok (congrArg refusal (normalizeProvenance_toAtom policy.provenance))
      rfl))))))))))))

theorem normalizeMergePolicy_options (core : CoreAccepts policy) :
    normalizeMergePolicy inspect (options policy).toValue = .ok policy := by
  have read : keywords? ((options policy).map fun option => .tuple [.atom option.1, option.2]) =
      some (options policy) := by
    rw [keywords?]
    exact @mapM_back (String × Value) (fun option => .tuple [.atom option.1, option.2]) keyword?
      (fun _ => rfl) (options policy)
  have known : ∀ key ∈ (options policy).keys, key ∈ mergePolicyKeys := by
    rcases options_keys policy with same | same
    · rw [same]
      decide
    · rw [same]
      decide
  have once : keysOnce (options policy) := by
    apply keysOnce_of_nodup
    rcases options_keys policy with same | same
    · rw [same]
      decide
    · rw [same]
      decide
  exact bind_of_ok (congrArg orRaise read)
    (bind_of_ok (congrArg refusal (if_pos known))
      (bind_of_ok (congrArg refusal (if_pos once)) (normalizeValues_options core)))

end Normalised

section Json

/-- What `Jason` makes of a term that it encodes and decodes: `nil`, booleans and numbers stay as
they are and so do texts, which have to be UTF-8; a map comes back with texts for its atoms. -/
structure JsonRoundTrip (reread : Value → Option Value) : Prop where
  nil : reread .nil = some .nil
  boolean : ∀ value, reread (ofBool value) = some (ofBool value)
  number : ∀ n, reread (.number n) = some (.number n)
  text : ∀ bytes, reread (.text bytes) = if isUtf8 bytes = true then some (.text bytes) else none
  list : ∀ items, reread (.list items) = (items.mapM reread).map .list
  map : ∀ values : Record, (values.map (·.1)).Nodup → reread values.toValue =
    (values.mapM fun value => (reread value.2).map fun read => (value.1, read)).map
      (spelled .texts)

theorem nodup_tolerancesMap (tolerances : Tolerance × Tolerance) :
    ((tolerancesMap tolerances).map (·.1)).Nodup := by
  change ["position_tolerance_m", "clock_tolerance_s"].Nodup
  decide

theorem nodup_continuityMap (continuity : Continuity) :
    ((continuityMap continuity).map (·.1)).Nodup := by
  change ["orbit_class", "residual_tolerance_m", "gap_threshold_factor"].Nodup
  decide

theorem nodup_layout (spelling : Spelling) (policy : Policy)
    (precedence : Option (List Digest)) :
    ((layout spelling policy precedence).map (·.1)).Nodup := by
  change sharedPolicyFields.Nodup
  decide

/-- Every label is UTF-8. -/
def Encodable (policy : Policy) : Prop :=
  ∀ set ∈ policy.assertedFrameLabelSets.sets, ∀ label ∈ set.labels, isUtf8 label.text = true

variable {reread : Value → Option Value}

namespace JsonRoundTrip

variable (json : JsonRoundTrip reread)
include json

theorem utf8 {bytes : Binary} (valid : isUtf8 bytes = true) :
    reread (.text bytes) = some (.text bytes) := by
  rw [json.text, if_pos valid]

theorem name {α : Type} [Named α] (item : α) :
    reread (Named.toText item) = some (Named.toText item) := json.utf8 (isUtf8_ascii _)

theorem option {α : Type} {toValue again : α → Value} {value : Option α}
    (same : ∀ item ∈ value, reread (toValue item) = some (again item)) :
    reread (optional toValue value) = some (optional again value) := by
  cases value with
  | none => exact json.nil
  | some item => exact same item rfl

theorem items {α : Type} {toValue : α → Value} {items : List α}
    (same : ∀ item ∈ items, reread (toValue item) = some (toValue item)) :
    reread (listOf toValue items) = some (listOf toValue items) := by
  rw [listOf, json.list, mapM_map same]
  rfl

/-- The fields of a record are read one by one. -/
theorem fields {values read : Record} (distinct : (values.map (·.1)).Nodup)
    (each : List.Forall₂ (fun value read => reread value.2 = some read.2 ∧ value.1 = read.1)
      values read) : reread values.toValue = some (spelled .texts read) := by
  have found : (values.mapM fun value => (reread value.2).map fun read => (value.1, read)) =
      some read := by
    clear distinct
    induction each with
    | nil => rfl
    | @cons value again values read first _ ih =>
      obtain ⟨name, item⟩ := again
      obtain ⟨reads, same⟩ := first
      rw [List.mapM_cons, ih, reads, same]
      rfl
  rw [json.map values distinct, found]
  rfl

/-- A record that is read has every field read. -/
theorem field {values : Record} {decoded : Value} (distinct : (values.map (·.1)).Nodup)
    (reads : reread values.toValue = some decoded) :
    ∀ value ∈ values, (reread value.2).isSome = true := by
  rw [json.map values distinct] at reads
  obtain ⟨read, found, -⟩ := Option.map_eq_some_iff.mp reads
  clear reads distinct
  induction values generalizing read with
  | nil => nofun
  | cons value values ih =>
    rw [List.mapM_cons] at found
    obtain ⟨first, head, later⟩ := Option.bind_eq_some_iff.mp found
    obtain ⟨rest, tail, -⟩ := Option.bind_eq_some_iff.mp later
    obtain ⟨again, here, -⟩ := Option.map_eq_some_iff.mp head
    intro other member
    rcases List.mem_cons.mp member with rfl | inside
    · exact Option.isSome_iff_exists.mpr ⟨again, here⟩
    · exact ih rest tail other inside

/-- Items that are read in their list are each read. -/
theorem item {items : List Value} (reads : (reread (.list items)).isSome = true) :
    ∀ item ∈ items, (reread item).isSome = true := by
  rw [json.list, Option.isSome_map] at reads
  induction items with
  | nil => nofun
  | cons first items ih =>
    obtain ⟨read, found⟩ := Option.isSome_iff_exists.mp reads
    rw [List.mapM_cons] at found
    obtain ⟨again, head, later⟩ := Option.bind_eq_some_iff.mp found
    obtain ⟨rest, tail, -⟩ := Option.bind_eq_some_iff.mp later
    intro item member
    rcases List.mem_cons.mp member with rfl | inside
    · exact Option.isSome_iff_exists.mpr ⟨again, head⟩
    · exact ih (Option.isSome_iff_exists.mpr ⟨rest, tail⟩) item inside

/-- The labels are read when they are UTF-8. -/
theorem labels {policy : Policy} (encodable : Encodable policy) :
    reread (listOf LabelSet.toValue policy.assertedFrameLabelSets.sets) =
      some (listOf LabelSet.toValue policy.assertedFrameLabelSets.sets) :=
  json.items fun set member => json.items fun label inside =>
    json.utf8 (encodable set member label inside)

/-- Labels that are read are UTF-8. -/
theorem encodable {policy : Policy}
    (reads : (reread (listOf LabelSet.toValue policy.assertedFrameLabelSets.sets)).isSome = true) :
    Encodable policy := by
  intro set member label inside
  have ofSet := json.item reads set.toValue (List.mem_map.mpr ⟨set, member, rfl⟩)
  have ofLabel := json.item ofSet label.toValue (List.mem_map.mpr ⟨label, inside, rfl⟩)
  rw [Label.toValue, json.text] at ofLabel
  by_contra invalid
  rw [if_neg invalid] at ofLabel
  cases ofLabel

theorem digest (digest : Digest) : reread digest.toValue = some digest.toValue := by
  apply json.utf8
  apply isUtf8_of_lt
  intro byte member
  have digit := List.all_eq_true.mp digest.digits byte member
  simp only [lowerHex, Bool.or_eq_true, Bool.and_eq_true, decide_eq_true_eq] at digit
  have small : byte.toNat ≤ 102 := by
    rcases digit with ⟨_, high⟩ | ⟨_, high⟩
    · exact (UInt8.le_iff_toNat_le.mp high).trans (by decide)
    · exact UInt8.le_iff_toNat_le.mp high
  exact UInt8.lt_iff_toNat_lt.mpr (small.trans_lt (by decide))

theorem system (system : System) : reread system.toValue = some system.toValue := by
  apply json.utf8
  cases system <;> exact isUtf8_ascii _

theorem filterOrNil (systems : List System) :
    reread (filterOrNil (listOf System.toValue systems)) =
      some (MergePolicy.filterOrNil (listOf System.toValue systems)) := by
  cases systems with
  | nil => exact json.nil
  | cons system systems => exact json.items fun system _ => json.system system

theorem orEmpty (precedence : Option (List Digest)) :
    reread (orEmpty (optional (listOf Digest.toValue) precedence)) =
      some (MergePolicy.orEmpty (optional (listOf Digest.toValue) precedence)) := by
  cases precedence with
  | none => exact json.list []
  | some digests => exact json.items fun digest _ => json.digest digest

theorem outliers (tolerances : Option (Tolerance × Tolerance)) :
    reread (spelledOutliers .atoms tolerances) = some (spelledOutliers .texts tolerances) :=
  json.option fun tolerances _ => json.fields (nodup_tolerancesMap tolerances)
    (.cons ⟨json.number _, rfl⟩ (.cons ⟨json.number _, rfl⟩ .nil))

theorem continuity (continuity : Option Continuity) :
    reread (spelledContinuity .atoms continuity) = some (spelledContinuity .texts continuity) :=
  json.option fun given _ => json.fields (nodup_continuityMap given)
    (.cons ⟨json.option fun item _ => json.name item, rfl⟩
      (.cons ⟨json.option fun _ _ => json.number _, rfl⟩
        (.cons ⟨json.option fun _ _ => json.number _, rfl⟩ .nil)))

/-- The layout is read as the layout of texts. -/
theorem layout {policy : Policy} (precedence : Option (List Digest))
    (encodable : Encodable policy) :
    reread (layout .atoms policy precedence).toValue =
      some (spelled .texts (MergePolicy.layout .texts policy precedence)) :=
  json.fields (nodup_layout .atoms policy precedence)
    (.cons ⟨json.number _, rfl⟩
    (.cons ⟨json.number _, rfl⟩
    (.cons ⟨json.number _, rfl⟩
    (.cons ⟨json.number _, rfl⟩
    (.cons ⟨json.number _, rfl⟩
    (.cons ⟨json.name _, rfl⟩
    (.cons ⟨json.name _, rfl⟩
    (.cons ⟨json.outliers _, rfl⟩
    (.cons ⟨json.option fun _ _ => json.number _, rfl⟩
    (.cons ⟨json.filterOrNil _, rfl⟩
    (.cons ⟨json.labels encodable, rfl⟩
    (.cons ⟨json.boolean _, rfl⟩
    (.cons ⟨json.orEmpty _, rfl⟩
    (.cons ⟨json.continuity _, rfl⟩
    (.cons ⟨json.option fun item _ => json.name item, rfl⟩ .nil)))))))))))))))

end JsonRoundTrip

end Json

section RoundTrip

/-- What is written of a policy is read back: it is accepted, as the policy that was recorded, and
its options normalise to the policy. -/
def RoundTrips (inspect : Value → Binary) (policy : Policy) (contributors : List Digest)
    (written : Value) : Prop :=
  ∃ values persisted, sharedPolicy written = .ok values ∧
    persistedMergePolicy values.toValue 3 = .ok persisted ∧
    persisted.normalized = mergePolicyMap policy (precedenceContributors policy contributors) ∧
    normalizeMergePolicy inspect persisted.opts.toValue = .ok policy

/-- What is recorded and written of a policy with some contributors. -/
def written (policy : Policy) (contributors : List Digest) : Value :=
  (sharedMergePolicy
    (mergePolicyMap policy (precedenceContributors policy contributors))).toValue

variable {inspect : Value → Binary} {policy : Policy} {contributors : List Digest}

/-- In either spelling the layout is read back. -/
theorem roundTrips_layout (spelling : Spelling) (core : CoreAccepts policy)
    (nonempty : contributors ≠ []) : RoundTrips inspect policy contributors (spelled spelling
      (layout spelling policy (precedenceContributors policy contributors))) := by
  have precedence : ∀ digests ∈ precedenceContributors policy contributors, digests ≠ [] := by
    unfold precedenceContributors
    intro digests member
    split at member
    · cases member
      exact nonempty
    · cases member
  exact ⟨_, _, sharedPolicy_layout contributors,
    persistedMergePolicy_sharedValues core precedence, rfl, normalizeMergePolicy_options core⟩

mutual

/-- A term as `Jason` encodes and decodes it, in which the keys of maps are atoms or texts. -/
def jason : Value → Option Value
  | .atom name =>
    some (if name ∈ ["nil", "true", "false"] then .atom name else .text (ascii name))
  | .number n => some (.number n)
  | .text bytes => if isUtf8 bytes = true then some (.text bytes) else none
  | .list items => (jasonItems items).map .list
  | .map entries => (jasonEntries entries).map .map
  | .tuple _ => none

/-- The items of a list. -/
def jasonItems : List Value → Option (List Value)
  | [] => some []
  | item :: items => do
    let first ← jason item
    let rest ← jasonItems items
    some (first :: rest)

/-- The entries of a map. -/
def jasonEntries : List (Value × Value) → Option (List (Value × Value))
  | [] => some []
  | (key, value) :: entries => do
    let name ← match key with
      | .atom name => some (ascii name)
      | .text name => some name
      | _ => none
    let first ← jason value
    let rest ← jasonEntries entries
    some ((.text name, first) :: rest)

end

theorem jasonItems_mapM (items : List Value) : jasonItems items = items.mapM jason := by
  induction items with
  | nil => rw [jasonItems, List.mapM_nil]; rfl
  | cons item items ih => rw [jasonItems, List.mapM_cons, ih]; rfl

theorem jasonEntries_record (values : Record) :
    jasonEntries (values.map fun value => (.atom value.1, value.2)) =
      (values.mapM fun value => (jason value.2).map fun read => (value.1, read)).map
        (·.map fun value => (.text (ascii value.1), value.2)) := by
  induction values with
  | nil => rw [List.map_nil, jasonEntries, List.mapM_nil]; rfl
  | cons value values ih =>
    rw [List.map_cons, jasonEntries, ih, List.mapM_cons]
    cases jason value.2 with
    | none => rfl
    | some first =>
      cases values.mapM fun value => (jason value.2).map fun read => (value.1, read) with
      | none => rfl
      | some rest => rfl

theorem jsonRoundTrip_jason : JsonRoundTrip jason where
  nil := by rw [jason]; rfl
  boolean value := by cases value <;> (rw [ofBool, jason]; rfl)
  number n := by rw [jason]
  text bytes := by rw [jason]
  list items := by rw [jason, jasonItems_mapM]
  map values _ := by
    rw [Record.toValue, jason, jasonEntries_record, Option.map_map]
    rfl

theorem finite_half : (0.5 : Float).isFinite = true := by decide +kernel

theorem nonneg_half : 0 ≤ floatValue 0.5 := by decide +kernel

/-- Half a unit. -/
def half : Tolerance := canonicalZero ⟨0.5, finite_half⟩ nonneg_half

theorem finite_interval : (300.0 : Float).isFinite = true := by decide +kernel

theorem floatValue_interval : floatValue 300.0 = 300 := by decide +kernel

theorem finite_factor : (1.5 : Float).isFinite = true := by decide +kernel

theorem one_lt_factor : 1 < floatValue 1.5 := by decide +kernel

/-- The frame labels of two realizations. -/
def realizations : LabelSet where
  labels := [⟨ascii "IGS20", by decide, by decide⟩, ⟨ascii "ITRF", by decide, by decide⟩]
  ascending := by decide
  two := by decide

/-- A policy by precedence, with every option. -/
def byPrecedence : Policy where
  positionToleranceM := half
  clockToleranceS := half
  minAgree := ⟨2, by decide⟩
  clockMinCommon := ⟨5, by decide⟩
  combine := .precedence
  precedenceScope := .satelliteArc
  outlierReject := some (half, half)
  epochIntervalS := some ⟨300.0, finite_interval⟩
  systems := ⟨[.galileo, .gps], by decide⟩
  assertedFrameLabelSets := ⟨[realizations], by decide⟩
  helmert := true
  verifyContinuity := some ⟨some .meoGnss, some ⟨half.double, half.nonneg⟩,
    some ⟨1.5, finite_factor⟩⟩
  provenance := some .summary

theorem coreAccepts_byPrecedence : CoreAccepts byPrecedence where
  interval := by
    intro interval given
    cases given
    have multiple : floatValue 300.0 = (30000000000 : ℕ) / 100000000 :=
      floatValue_interval.trans (by norm_num)
    exact inTicks_of_multiple (by decide) (by decide) multiple
  factor := by
    intro continuity given factor stated
    cases given
    cases stated
    exact one_lt_factor

/-- A digest. -/
def digestOfAs : Digest where
  text := List.replicate 64 97
  sized := by decide
  digits := by decide

end RoundTrip

end Sidereon.MergePolicy
