import Mathlib.Data.List.Perm.Basic
import Sidereon.MergePolicy.RoundTrip
import Sidereon.MergeReport.Coherence
import Sidereon.MergeReport.Stated

/-!
# Binding of inputs

The identity of a report that passes is the one that the core has of the artifacts and the policy
that the report states: what is read of the policy normalises to it again, and what is read of the
contributors is what they state, in every schema. So two reports have one identity exactly when they
state the same inputs, whatever else they state.
-/

namespace Sidereon.MergePolicy

open Foundation Sidereon.Distribution MergeReport
open Foundation.Beam (Number floatValue)
open Foundation.Doubles

section Ticks

variable {interval : Double}

/-- An interval in its range has ticks in theirs, which its product with the ticks of a second is. -/
theorem floatValue_tickCount (positive : 0 < interval.exact_) (below : interval.exact_ < 100000) :
    floatValue (interval.value * 100000000.0) = rounded (interval.exact_ * 100000000) ∧
      rounded (interval.exact_ * 100000000) ≤ 10000000000000 := by
  have unit : (0 : ℚ) ≤ floatValue 100000000.0 := by rw [floatValue_ticks]; norm_num
  have bound : interval.exact_ * 100000000 ≤ (10000000000000 : ℕ) := by
    push_cast
    linarith
  have within : floatValue interval.value * floatValue 100000000.0 < range := by
    rw [floatValue_ticks]
    exact bound.trans_lt (by exact_mod_cast ticks_lt_range)
  constructor
  · rw [floatValue_mul interval.finite finite_ticks positive.le unit within, floatValue_ticks]
    rfl
  · have monotone : rounded (interval.exact_ * 100000000) ≤
        rounded ((10000000000000 : ℕ) : ℚ) :=
      Rounding.rounded_mono (mul_nonneg positive.le (by norm_num)) bound
    rw [rounded_ticks le_rfl] at monotone
    exact_mod_cast monotone

/-- A nearest integer, as a double again, is a whole number of ticks when it is in their range. -/
theorem floatRound?_ticks {y : Float} {finite : y.isFinite = true} {nearest : Number}
    (nonneg : 0 ≤ floatValue y) (small : floatValue y ≤ 10000000000000)
    (rounds : floatRound? (.float y finite) = some nearest) :
    ∃ ticks : ℕ, nearest.value = ticks := by
  have above : 0 ≤ ⌊floatValue y + 1 / 2⌋ := Int.floor_nonneg.mpr (by linarith)
  obtain ⟨ticks, floor⟩ := Int.eq_ofNat_of_zero_le above
  have few : ticks ≤ 10000000000000 := by
    have least : ⌊floatValue y + 1 / 2⌋ < 10000000000001 := Int.floor_lt.mpr (by
      norm_num
      linarith)
    omega
  have round : (Number.float y finite).round = ticks := by
    rw [Number.round, if_pos nonneg, floor]
  have within : (ticks : ℚ) < range :=
    (by exact_mod_cast few : (ticks : ℚ) ≤ 10000000000000).trans_lt ticks_lt_range
  rw [floatRound?, round] at rounds
  obtain ⟨z, converts, whole⟩ := Option.bind_eq_some_iff.mp rounds
  obtain ⟨_, rfl⟩ := Number.toFloat?_eq_some.mp converts
  obtain ⟨finite', rfl⟩ := Number.ofFloat?_eq_some.mp whole
  exact ⟨ticks, (floatValue_ofInt within).trans (rounded_ticks few)⟩

/-- What passes the check of records meets the rule of the core. -/
theorem inTicks_of_passed (passed : inTicks? interval = some true) : InTicks interval := by
  obtain ⟨tickCount, multiplied, rest⟩ := Option.bind_eq_some_iff.mp passed
  obtain ⟨nearest, rounds, same⟩ := Option.bind_eq_some_iff.mp rest
  obtain ⟨positive, below, equal⟩ := of_decide_eq_true (Option.some_inj.mp same)
  obtain ⟨_, finite, rfl⟩ := (Number.mul?_float_eq_some finite_ticks).mp multiplied
  obtain ⟨product, small⟩ := floatValue_tickCount positive below
  have nonneg : 0 ≤ floatValue (interval.value * 100000000.0) := by
    rw [product]
    exact Rounding.rounded_nonneg (mul_nonneg positive.le (by norm_num))
  obtain ⟨ticks, whole⟩ := floatRound?_ticks nonneg (product.trans_le small) rounds
  refine ⟨positive, below, ticks, ?_⟩
  rw [← product, ← whole]
  exact equal

end Ticks

section Accepted

theorem persistedEpochInterval_inTicks {value : Value} {interval : Option Double}
    (read : persistedEpochInterval value = .ok interval) : ∀ x ∈ interval, InTicks x := by
  unfold persistedEpochInterval at read
  split at read
  · cases read
    nofun
  · obtain ⟨whole, passed, rest⟩ := failure_bind_ok read
    split at rest
    · next true =>
      cases rest
      intro x same
      cases same
      subst true
      refine inTicks_of_passed ?_
      unfold orRaise at passed
      split at passed
      · next found =>
        cases passed
        exact found
      · cases passed
    · cases rest
  · cases read

theorem persistedGapThresholdFactor_above {value : Value} {factor : Option Double}
    (read : persistedGapThresholdFactor value = .ok factor) : ∀ x ∈ factor, 1 < x.exact_ := by
  unfold persistedGapThresholdFactor at read
  split at read
  · cases read
    nofun
  · split at read
    · next above =>
      cases read
      intro x same
      cases same
      exact above
    · cases read
  · cases read

theorem persistedVerifyContinuity_above {value : Value} {continuity : Option Continuity}
    (read : persistedVerifyContinuity value = .ok continuity) :
    ∀ given ∈ continuity, ∀ factor ∈ given.gapThresholdFactor, 1 < factor.exact_ := by
  unfold persistedVerifyContinuity at read
  split at read
  · cases read
    nofun
  · obtain ⟨_, _, rest⟩ := bind_ok.mp read
    obtain ⟨_, _, rest⟩ := bind_ok.mp rest
    obtain ⟨_, _, rest⟩ := bind_ok.mp rest
    obtain ⟨factor, above, same⟩ := bind_ok.mp rest
    cases same
    intro given stated
    cases stated
    exact persistedGapThresholdFactor_above above
  · cases read

/-- A policy that is read is one that the core accepts. The earlier schemas have none that ask for a
report. -/
theorem readPolicy_accepts {values : Record} {schemaVersion : Nat} {policy : Policy}
    (read : readPolicy values schemaVersion = .ok policy) :
    CoreAccepts policy ∧
      (schemaVersion < 3 → policy.verifyContinuity = none ∧ policy.provenance = none) := by
  obtain ⟨_, _, rest⟩ := failure_bind_ok read
  obtain ⟨_, _, rest⟩ := failure_bind_ok rest
  obtain ⟨_, _, rest⟩ := failure_bind_ok rest
  obtain ⟨_, _, rest⟩ := failure_bind_ok rest
  obtain ⟨_, _, rest⟩ := failure_bind_ok rest
  obtain ⟨_, _, rest⟩ := failure_bind_ok rest
  obtain ⟨_, _, rest⟩ := failure_bind_ok rest
  obtain ⟨interval, spaced, rest⟩ := failure_bind_ok rest
  obtain ⟨_, _, rest⟩ := failure_bind_ok rest
  obtain ⟨_, _, rest⟩ := failure_bind_ok rest
  obtain ⟨_, _, rest⟩ := failure_bind_ok rest
  obtain ⟨_, _, rest⟩ := failure_bind_ok rest
  obtain ⟨⟨continuity, provenance⟩, reporting, same⟩ := failure_bind_ok rest
  cases same
  have reported := refusal_ok reporting
  unfold readReporting at reported
  split at reported
  · next early =>
    cases reported
    exact ⟨⟨persistedEpochInterval_inTicks spaced, nofun⟩, fun _ => ⟨rfl, rfl⟩⟩
  · next late =>
    obtain ⟨_, continuous, rest⟩ := bind_ok.mp reported
    obtain ⟨_, _, same⟩ := bind_ok.mp rest
    cases same
    exact ⟨⟨persistedEpochInterval_inTicks spaced, persistedVerifyContinuity_above continuous⟩,
      fun early => absurd early late⟩

end Accepted

section Options

variable {inspect : Value → Binary} {policy : Policy} {schemaVersion : Nat}

/-- Options of known keys, once each, normalise as their values do. -/
theorem normalizeMergePolicy_keywords {opts : Keywords}
    (known : ∀ key ∈ opts.keys, key ∈ mergePolicyKeys) (once : opts.keys.Nodup) :
    normalizeMergePolicy inspect opts.toValue = normalizeValues inspect opts := by
  have read : keywords? (opts.map fun option => .tuple [.atom option.1, option.2]) = some opts := by
    rw [keywords?]
    exact @mapM_back (String × Value) (fun option => .tuple [.atom option.1, option.2]) keyword?
      (fun _ => rfl) opts
  exact bind_of_ok (congrArg orRaise read) (bind_of_ok (congrArg refusal (if_pos known))
    (bind_of_ok (congrArg refusal (if_pos (keysOnce_of_nodup once))) rfl))

/-- Without the options that ask for a report, and a policy that asks for none, every option is as it
is in all of them. -/
theorem persistedOptions_early (early : schemaVersion < 3) (silent : policy.verifyContinuity = none)
    (unprovided : policy.provenance = none) :
    normalizeValues inspect (persistedOptions schemaVersion policy) =
      normalizeValues inspect (options policy) := by
  unfold persistedOptions options normalizeValues normalizePolicySystems plainOptions
  rw [if_pos early, silent, unprovided]
  unfold putSystems
  cases policy.systems.systems <;> rfl

/-- What is persisted of a policy that is read normalises to it. -/
theorem normalizeMergePolicy_persisted {values : Record}
    (read : readPolicy values schemaVersion = .ok policy) :
    normalizeMergePolicy inspect (persistedOptions schemaVersion policy).toValue = .ok policy := by
  obtain ⟨accepts, early⟩ := readPolicy_accepts read
  by_cases old : schemaVersion < 3
  · obtain ⟨silent, unprovided⟩ := early old
    have keys : (persistedOptions schemaVersion policy).keys = plainKeys.take 10 ∨
        (persistedOptions schemaVersion policy).keys = "systems" :: plainKeys.take 10 := by
      unfold persistedOptions putSystems
      rw [if_pos old]
      split
      · exact .inl rfl
      · exact .inr rfl
    rw [normalizeMergePolicy_keywords, persistedOptions_early old silent unprovided,
      normalizeValues_options accepts]
    · rcases keys with same | same
      · rw [same]
        decide
      · rw [same]
        decide
    · rcases keys with same | same
      · rw [same]
        decide
      · rw [same]
        decide
  · have all : persistedOptions schemaVersion policy = options policy := by
      unfold persistedOptions
      rw [if_neg old]
      rfl
    rw [all, normalizeMergePolicy_options accepts]

end Options

end Sidereon.MergePolicy

namespace Sidereon.MergeReport

open Foundation Sidereon.Distribution
open MergePolicy (Double Failure OrbitClass Policy failure_bind_ok normalizeMergePolicy
  normalizeMergePolicy_persisted persistedOf readPolicy)

section Statements

/-- A contributor states an artifact. -/
def StatesContributor (contributor : Value) (artifact : Artifact) : Prop :=
  ∃ stated, contributor.field? "artifact_identity" = some stated ∧
    StatesArtifact stated.field? artifact

/-- A report states the artifacts of its contributors, in their order, and its policy. -/
structure StatesInputs (report : Value) (artifacts : List Artifact) (policy : Policy) : Prop where
  contributors : ∃ items, report.field? "contributors" = some (.list items) ∧
    List.Forall₂ StatesContributor items artifacts
  readsPolicy : ReadsPolicy report policy

/-- A policy without what it asks to be reported. -/
def unreported (policy : Policy) : Policy :=
  { policy with verifyContinuity := none, provenance := none }

/-- The inputs of two merges are one: the same artifacts, in the same order when it is by precedence,
and the same policy but for what is reported. -/
structure SameInputs (artifacts : List Artifact) (policy : Policy) (artifacts' : List Artifact)
    (policy' : Policy) : Prop where
  together : artifacts.Perm artifacts'
  inOrder : policy.combine = .precedence → artifacts = artifacts'
  alike : unreported policy = unreported policy'

/-- The identities of a core tell the inputs of merges apart. -/
def Identifies (core : ReportCore) : Prop :=
  ∀ {artifacts policy identity artifacts' policy' identity'},
    core.inputIdentity artifacts policy = .ok identity →
    core.inputIdentity artifacts' policy' = .ok identity' →
      (identity.stableId = identity'.stableId ↔ SameInputs artifacts policy artifacts' policy')

end Statements

section Artifacts

/-- What states an artifact is its fields alone. -/
theorem StatesArtifact.of_fields {read read' : String → Option Value} {artifact : Artifact}
    (same : ∀ name ∈ sharedArtifactFields, read' name = read name)
    (states : StatesArtifact read artifact) : StatesArtifact read' artifact := by
  constructor
  · rw [same _ (by decide)]
    exact states.requestedIdentity
  · rw [same _ (by decide)]
    exact states.resolvedIdentity
  · rw [same _ (by decide)]
    exact states.distributionSource
  · rw [same _ (by decide)]
    exact states.officialFilename
  · rw [same _ (by decide)]
    exact states.productSha256
  · rw [same _ (by decide)]
    exact states.productByteLength
  · rw [same _ (by decide)]
    exact states.archiveSha256
  · rw [same _ (by decide)]
    exact states.archiveByteLength
  · rw [same _ (by decide)]
    exact states.compression

variable {core : ReportCore} {inspect : Value → Binary}
variable {catalog : Frame → Frame → Except Refusal CatalogEntry}
variable {speedBound : OrbitClass → Option Double} {offsetAt : Float → Option Float}
variable {offsets : OffsetSyntax}

/-- A contributor that is read states its artifact. -/
theorem persistedContributor_states {schemaVersion index : Nat} {contributor : Value}
    {read : Artifact × Binary}
    (passed : persistedContributor (reportChecks core inspect catalog speedBound offsetAt offsets)
      schemaVersion index contributor = .ok read) : StatesContributor contributor read.1 := by
  obtain ⟨values, fields, rest⟩ := bind_ok.mp passed
  obtain ⟨_, _, rest⟩ := bind_ok.mp rest
  obtain ⟨_, _, rest⟩ := bind_ok.mp rest
  obtain ⟨_, _, rest⟩ := bind_ok.mp rest
  obtain ⟨_, _, rest⟩ := bind_ok.mp rest
  obtain ⟨_, _, rest⟩ := bind_ok.mp rest
  obtain ⟨artifact, stated, rest⟩ := bind_ok.mp rest
  obtain ⟨_, _, rest⟩ := bind_ok.mp rest
  obtain ⟨_, _, same⟩ := bind_ok.mp rest
  cases same
  exact ⟨_, (exactFields_get fields (by decide)).1, (persistedArtifact_stated stated).1⟩

/-- A record of the first schema is read with its own fields. -/
theorem recordSchema1_field {record context : Value} {fields : List String} {values : Record}
    (read : recordSchema1 record fields context = .ok values) {field : String}
    (asked : field ∈ fields) (other : field ≠ "schema_version") :
    record.field? field = values.toValue.field? field := by
  obtain ⟨all, exactly, rest⟩ := bind_ok.mp read
  obtain ⟨_, _, same⟩ := bind_ok.mp rest
  cases same
  have stated := exactFields_get exactly (List.mem_cons_of_mem _ asked)
  rw [toValue_field, lookup_delete other, stated.1, stated.2]

/-- A contributor of the shared layout states what the layout it is read into states. -/
theorem sharedContributor_states {index : Nat} {contributor converted : Value} {artifact : Artifact}
    (passed : sharedContributor offsets index contributor = .ok converted)
    (states : StatesContributor converted artifact) : StatesContributor contributor artifact := by
  obtain ⟨values, fields, rest⟩ := bind_ok.mp passed
  obtain ⟨record, recorded, rest⟩ := bind_ok.mp rest
  obtain ⟨_, _, rest⟩ := bind_ok.mp rest
  obtain ⟨_, _, same⟩ := bind_ok.mp rest
  cases same
  obtain ⟨stated, found, states⟩ := states
  rw [toValue_field, lookup_put (by decide), Record.put, List.lookup_cons_self, Option.some_inj]
    at found
  subst found
  refine ⟨_, (exactFields_get fields (by decide)).1, states.of_fields fun name asked => ?_⟩
  have other : name ≠ "schema_version" := by
    rintro rfl
    exact absurd asked (by decide)
  exact recordSchema1_field recorded asked other

/-- The contributors of a layout that is read state the artifacts, in either layout. -/
theorem persistedLayout_states {schemaVersion : Nat} {contributors layout : List Value}
    {policy laid : Value} {artifacts : List Artifact}
    (passed : persistedLayout (reportChecks core inspect catalog speedBound offsetAt offsets) offsets
      contributors policy schemaVersion = .ok (layout, laid))
    (states : List.Forall₂ StatesContributor layout artifacts) :
    List.Forall₂ StatesContributor contributors artifacts := by
  unfold persistedLayout at passed
  split at passed
  · cases passed
    exact states
  · obtain ⟨converted, each, rest⟩ := bind_ok.mp passed
    obtain ⟨_, _, same⟩ := bind_ok.mp rest
    cases same
    have kept : List.Forall₂ (fun contributor converted => ∀ artifact,
        StatesContributor converted artifact → StatesContributor contributor artifact)
        contributors layout :=
      checkEach_imp each fun _ _ _ shared _ => sharedContributor_states shared
    clear each passed rest
    induction kept generalizing artifacts with
    | nil => exact states
    | cons first _ ih =>
      cases states with
      | cons state states => exact .cons (first _ state) (ih states)

end Artifacts

section Identity

variable {core : ReportCore} {inspect : Value → Binary}
variable {catalog : Frame → Frame → Except Refusal CatalogEntry}
variable {speedBound : OrbitClass → Option Double} {offsetAt : Float → Option Float}
variable {offsets : OffsetSyntax}

theorem rescued_ok {α : Type} {check : Except Failure α} {found : α}
    (passed : rescued check = .ok found) : check = .ok found := by
  cases check with
  | error failure => cases failure <;> cases passed
  | ok value =>
    cases passed
    rfl

/-- What is persisted of a policy that is read is of the policy. -/
theorem persistedPolicy_read {policy : Value} {schemaVersion : Nat} {read : ReadPolicy}
    (persisted : persistedPolicy policy schemaVersion = .ok read) :
    ∃ values, readPolicy values schemaVersion = .ok read.policy ∧
      read.persisted = persistedOf schemaVersion read.policy
        (values.get "precedence_artifact_sha256") := by
  unfold persistedPolicy at persisted
  split at persisted
  · obtain ⟨values, _, mapped⟩ := failure_bind_ok (rescued_ok persisted)
    cases found : readPolicy values schemaVersion with
    | error failure =>
      rw [found] at mapped
      cases mapped
    | ok policy =>
      rw [found] at mapped
      cases mapped
      exact ⟨values, found, rfl⟩
  · cases persisted

/-- The policy that is read is the one the core is asked of. -/
theorem mergeInputIdentity_persisted {policy : Value} {schemaVersion : Nat} {read : ReadPolicy}
    {artifacts : List Artifact} {recomputed : InputIdentity}
    (persisted : persistedPolicy policy schemaVersion = .ok read)
    (computed : mergeInputIdentity core inspect artifacts read.persisted.opts.toValue =
      .ok recomputed) :
    ∃ identity, core.inputIdentity artifacts read.policy = .ok identity ∧
      recomputed.stableId = identity.stableId := by
  obtain ⟨values, found, same⟩ := persistedPolicy_read persisted
  have normalized : normalizeMergePolicy inspect read.persisted.opts.toValue = .ok read.policy := by
    rw [same]
    exact normalizeMergePolicy_persisted found
  obtain ⟨asked, normalised, rest⟩ := bind_ok.mp computed
  obtain ⟨_, _, rest⟩ := bind_ok.mp rest
  obtain ⟨identity, identified, same⟩ := bind_ok.mp rest
  cases same
  rw [normalized] at normalised
  cases normalised
  exact ⟨identity, identified, rfl⟩

/-- The identity that a report is compared with is the one it states. -/
theorem verifyReportIdentity_stable {values : Record} {recomputed : InputIdentity}
    {policy : ReadPolicy} {schemaVersion : Nat}
    (passed : verifyReportIdentity values recomputed policy schemaVersion = .ok ()) :
    values.get "stable_input_identity" = .text recomputed.stableId := by
  unfold verifyReportIdentity at passed
  split at passed
  · next stated =>
    obtain ⟨_, _, rest⟩ := bind_ok.mp passed
    obtain ⟨_, same, _⟩ := bind_ok.mp rest
    rw [stated, ensure_ok.mp same]
  · cases passed
  · cases passed

/-- The identity of a report that passes is the one of the inputs it states. -/
theorem verifyReport_inputs {report : Value}
    (verified : verifyReport core inspect catalog speedBound offsetAt offsets report = .ok ()) :
    ∃ artifacts policy identity, StatesInputs report artifacts policy ∧
      core.inputIdentity artifacts policy = .ok identity ∧
      report.field? "stable_input_identity" = some (.text identity.stableId) := by
  obtain ⟨values, fields, rest⟩ := bind_ok.mp verified
  obtain ⟨schemaVersion, version, rest⟩ := bind_ok.mp rest
  obtain ⟨items, listed, rest⟩ := bind_ok.mp rest
  obtain ⟨⟨layout, laid⟩, laidOut, rest⟩ := bind_ok.mp rest
  obtain ⟨_, _, rest⟩ := bind_ok.mp rest
  obtain ⟨⟨artifacts, _⟩, contributed, rest⟩ := bind_ok.mp rest
  obtain ⟨policy, read, rest⟩ := bind_ok.mp rest
  obtain ⟨_, _, rest⟩ := bind_ok.mp rest
  obtain ⟨recomputed, computed, rest⟩ := bind_ok.mp rest
  obtain ⟨_, compared, rest⟩ := bind_ok.mp rest
  obtain ⟨identity, identified, same⟩ := mergeInputIdentity_persisted read computed
  refine ⟨artifacts, policy.policy, identity, ⟨⟨items, ?_, ?_⟩, ?_⟩, identified, ?_⟩
  · rw [(exactFields_get fields (by decide)).1, reportContributors_list listed]
  · obtain ⟨persisted, each, rest⟩ := bind_ok.mp contributed
    obtain ⟨_, _, same⟩ := bind_ok.mp rest
    cases same
    refine persistedLayout_states laidOut (List.forall₂_map_right_iff.mpr ?_)
    exact checkEach_imp each fun _ _ _ passed => persistedContributor_states passed
  · exact readsPolicy_of_layout fields version laidOut read
  · rw [(exactFields_get fields (by decide)).1, verifyReportIdentity_stable compared, same]

end Identity

section Sample

deriving instance DecidableEq for MergePolicy.Count, Artifact

theorem one_positive : (0 : Int) < 1 := by decide

/-- The artifacts of the day. -/
def dayArtifacts : List Artifact :=
  [ascii "cod", ascii "gfz"].map fun center =>
    { requestedIdentity := dayIdentity center
      resolvedIdentity := dayIdentity center
      distributionSource := .direct
      officialFilename := ascii "product.SP3"
      productSha256 := List.replicate 64 97
      productByteLength := ⟨2, two_positive⟩
      archiveSha256 := List.replicate 64 98
      archiveByteLength := ⟨1, one_positive⟩
      compression := .gzip }

/-- A policy is the mean of the sample, whatever it reports. -/
def asksMean (policy : Policy) : Bool :=
  policy.positionToleranceM.double.exact_ == 0 && policy.clockToleranceS.double.exact_ == 0 &&
    policy.minAgree == meanPolicy.minAgree && policy.clockMinCommon == meanPolicy.clockMinCommon &&
    policy.combine == .mean && policy.precedenceScope == .cell && policy.outlierReject.isNone &&
    policy.epochIntervalS.isNone && policy.systems.systems == [] &&
    policy.assertedFrameLabelSets.sets == [] && !policy.helmert

theorem tolerance_zero {tolerance : MergePolicy.Tolerance} (zeroed : tolerance.double.exact_ = 0) :
    tolerance = MergePolicy.canonicalZero zero nonneg_zero := by
  have same : zero.exact_ = 0 := by decide +kernel
  rw [← MergePolicy.canonicalZero_double tolerance, MergePolicy.canonicalZero,
    MergePolicy.canonicalZero, dif_pos zeroed, dif_pos same]

theorem unreported_of_asksMean {policy : Policy} (asks : asksMean policy = true) :
    unreported policy = unreported meanPolicy := by
  simp only [asksMean, Bool.and_eq_true, beq_iff_eq, Option.isNone_iff_eq_none,
    Bool.not_eq_true'] at asks
  obtain ⟨⟨⟨⟨⟨⟨⟨⟨⟨⟨position, clock⟩, agree⟩, common⟩, combine⟩, scope⟩, outliers⟩, interval⟩,
    systems⟩, sets⟩, helmert⟩ := asks
  obtain ⟨_, _, _, _, _, _, _, _, ⟨_, _⟩, ⟨_, _⟩, _, _, _⟩ := policy
  cases tolerance_zero position
  cases tolerance_zero clock
  cases agree
  cases common
  cases combine
  cases scope
  cases outliers
  cases interval
  cases systems
  cases sets
  cases helmert
  rfl

/-- A core that has the identity of that mean of the artifacts of the day alone. -/
def identifyingCore : ReportCore :=
  { dayCore with
    inputIdentity := fun artifacts policy =>
      if artifacts.isPerm dayArtifacts && asksMean policy then .ok ⟨1, ascii "id", none⟩
      else .error (.atom "invalid_merge_contributor") }

theorem identifies_identifyingCore : Identifies identifyingCore := by
  have known : ∀ {artifacts policy identity},
      identifyingCore.inputIdentity artifacts policy = .ok identity →
        artifacts.Perm dayArtifacts ∧ asksMean policy = true ∧ identity.stableId = ascii "id" := by
    intro artifacts policy identity found
    simp only [identifyingCore] at found
    split at found
    · next both =>
      cases found
      obtain ⟨perm, asks⟩ := (Bool.and_eq_true _ _).mp both
      exact ⟨List.isPerm_iff.mp perm, asks, rfl⟩
    · cases found
  intro artifacts policy identity artifacts' policy' identity' found found'
  obtain ⟨perm, asks, same⟩ := known found
  obtain ⟨perm', asks', same'⟩ := known found'
  refine iff_of_true (same.trans same'.symm) ⟨perm.trans perm'.symm, fun precedence => ?_, ?_⟩
  · have mean : (unreported policy).combine = .mean :=
      congrArg Policy.combine (unreported_of_asksMean asks)
    cases mean.symm.trans precedence
  · rw [unreported_of_asksMean asks, unreported_of_asksMean asks']

/-- The report of the day, of contributors in the other order. -/
def turnedMap : Value :=
  (mergeReportToMap calendarOffsets
    { dayReport meanPolicy (sampleResult 0 []) with
      requestedCenters := [ascii "gfz", ascii "cod", ascii "igs"]
      contributors := [dayContributor (ascii "gfz"), dayContributor (ascii "cod")] }).getD .nil

end Sample

end Sidereon.MergeReport
