import Sidereon.MergeReport.Contributors
import Sidereon.MergeReport.Frames

/-!
# Verification of merge reports

The checks of a report are put together: its policy is read into a record, its contributors and the
identity of its inputs are compared with the core, and its merge result with both. What is left open
is what the core answers.
-/

namespace Sidereon.MergePolicy

open Foundation Sidereon.Distribution MergeReport

section Policy

variable (values : Record) (schemaVersion : Nat)

/-- The two options of a policy that ask for a report. -/
def readReporting : Except Refusal (Option Continuity × Option Provenance) :=
  if schemaVersion < 3 then .ok (none, none)
  else do
    let continuity ← persistedVerifyContinuity (values.get "verify_continuity")
    let provenance ← persistedProvenance (values.get "provenance")
    .ok (continuity, provenance)

/-- The policy that recorded values state. -/
def readPolicy : Except Failure Policy := do
  let positionToleranceM ← refusal (persistedNonnegativeFloat
    (values.get "position_tolerance_m") "position_tolerance_m")
  let clockToleranceS ← refusal (persistedNonnegativeFloat
    (values.get "clock_tolerance_s") "clock_tolerance_s")
  let minAgree ← refusal (positiveInteger (values.get "min_agree") "min_agree")
  let clockMinCommon ← refusal
    (positiveInteger (values.get "clock_min_common") "clock_min_common")
  let combine ← refusal (persistedCombine (values.get "combine"))
  let precedenceScope ← refusal (persistedPrecedenceScope (values.get "precedence_scope"))
  let outlierReject ← refusal (persistedOutlierReject (values.get "outlier_reject"))
  let epochIntervalS ← persistedEpochInterval (values.get "epoch_interval_s")
  let systems ← refusal (persistedSystems (values.get "systems"))
  let assertedFrameLabelSets ←
    refusal (persistedLabelSets (values.get "asserted_frame_label_sets"))
  let helmert ← refusal (persistedBoolean (values.get "helmert"))
  refusal (persistedPrecedenceList (values.get "precedence_artifact_sha256"))
  let (verifyContinuity, provenance) ← refusal (readReporting values schemaVersion)
  .ok { positionToleranceM, clockToleranceS, minAgree, clockMinCommon, combine, precedenceScope,
        outlierReject, epochIntervalS, systems, assertedFrameLabelSets, helmert, verifyContinuity,
        provenance }

variable (policy : Policy) (precedence : Value)

/-- The options that state a policy to a schema. -/
def persistedOptions : Keywords :=
  putSystems policy.systems
    ([("position_tolerance_m", policy.positionToleranceM.double.toValue),
      ("clock_tolerance_s", policy.clockToleranceS.double.toValue),
      ("min_agree", .int policy.minAgree.value),
      ("clock_min_common", .int policy.clockMinCommon.value),
      ("combine", Named.toAtom policy.combine),
      ("precedence_scope", Named.toAtom policy.precedenceScope),
      ("outlier_reject", outlierRejectMap policy.outlierReject),
      ("epoch_interval_s", optional Double.toValue policy.epochIntervalS),
      ("asserted_frame_label_sets", listOf LabelSet.toValue policy.assertedFrameLabelSets.sets),
      ("helmert", ofBool policy.helmert)] ++
    if schemaVersion < 3 then []
    else [("verify_continuity", continuityOption policy.verifyContinuity),
      ("provenance", optional Named.toAtom policy.provenance)])

/-- A policy as a schema records it. -/
def normalizedRecord : Record :=
  [("position_tolerance_m", policy.positionToleranceM.double.toValue),
    ("clock_tolerance_s", policy.clockToleranceS.double.toValue),
    ("min_agree", .int policy.minAgree.value),
    ("clock_min_common", .int policy.clockMinCommon.value),
    ("combine", Named.toText policy.combine),
    ("precedence_artifact_sha256", precedence),
    ("precedence_scope", Named.toText policy.precedenceScope),
    ("outlier_reject", outlierRejectMap policy.outlierReject),
    ("epoch_interval_s", optional Double.toValue policy.epochIntervalS),
    ("systems", listOf System.toValue policy.systems.systems),
    ("asserted_frame_label_sets", listOf LabelSet.toValue policy.assertedFrameLabelSets.sets),
    ("helmert", ofBool policy.helmert)] ++
  if schemaVersion < 3 then []
  else [("verify_continuity", continuityPolicyMap policy.verifyContinuity),
    ("provenance", optional Named.toText policy.provenance)]

/-- What is persisted of a policy. -/
def persistedOf : Persisted where
  opts := persistedOptions schemaVersion policy
  normalized := normalizedRecord schemaVersion policy precedence
  precedence := precedence

theorem map_bind_eq {ε α β γ : Type} (first : Except ε α) (rest : α → Except ε β) (f : β → γ) :
    (first >>= rest).map f = first >>= fun found => (rest found).map f := by
  cases first <;> rfl

theorem refusal_ok {α : Type} {check : Except Refusal α} {found : α}
    (passed : refusal check = .ok found) : check = .ok found := by
  cases check with
  | error reason => cases passed
  | ok value =>
    cases passed
    rfl

/-- A chain that returns has found what it went on with. -/
theorem failure_bind_ok {α β : Type} {check : Except Failure α} {next : α → Except Failure β}
    {result : β} (passed : check >>= next = .ok result) :
    ∃ found, check = .ok found ∧ next found = .ok result := by
  cases check with
  | error failure => cases passed
  | ok found => exact ⟨found, rfl, passed⟩

theorem refusal_bind {α β : Type} (first : Except Refusal α) (rest : α → Except Refusal β) :
    refusal (first >>= rest) = refusal first >>= fun found => refusal (rest found) := by
  cases first <;> rfl

/-- `persisted_merge_policy` reads a policy, and lays it out. -/
theorem persistedMergePolicy_readPolicy (entries : List (Value × Value)) :
    persistedMergePolicy (.map entries) schemaVersion =
      (refusal (exactFields (.map entries) (persistedPolicyFields schemaVersion)
        (.atom "merge_policy")) >>= fun values => (readPolicy values schemaVersion).map fun policy =>
          persistedOf schemaVersion policy (values.get "precedence_artifact_sha256")) := by
  unfold persistedMergePolicy readPolicy readReporting persistedReportingOptions
  by_cases early : schemaVersion < 3
  · simp only [if_pos early, map_bind_eq, persistedOf, persistedOptions, normalizedRecord]
    rfl
  · simp only [if_neg early, map_bind_eq, refusal_bind, bind_assoc, persistedOf, persistedOptions,
      normalizedRecord]
    rfl

end Policy

end Sidereon.MergePolicy

namespace Sidereon.MergeReport

open Foundation Sidereon.Distribution
open MergePolicy (Failure OrbitClass Persisted Policy Double mergePolicyMap normalizeMergePolicy
  persistedMergePolicy persistedOf persistedPolicyFields readPolicy refusal)

section Model

/-- A policy that is read, and what is persisted of it. -/
structure ReadPolicy where
  policy : Policy
  persisted : Persisted

/-- `verify_merge_report` rescues an `ArithmeticError`. -/
def rescued {α : Type} : Except Failure α → Except Refusal α
  | .ok result => .ok result
  | .error (.refused reason) => .error reason
  | .error .raised => .error (.atom "invalid_numeric_arithmetic")

/-- `persisted_merge_policy`, with the policy. -/
def persistedPolicy (policy : Value) (schemaVersion : Nat) : Except Refusal ReadPolicy :=
  match policy with
  | .map entries => rescued do
    let values ← refusal (exactFields (.map entries) (persistedPolicyFields schemaVersion)
      (.atom "merge_policy"))
    (readPolicy values schemaVersion).map fun policy =>
      ⟨policy, persistedOf schemaVersion policy (values.get "precedence_artifact_sha256")⟩
  | _ => .error (.atom "invalid_merge_policy")

/-- What is persisted of the policy is what `persisted_merge_policy` returns. -/
theorem persistedPolicy_persisted (policy : Value) (schemaVersion : Nat) :
    (persistedPolicy policy schemaVersion).map ReadPolicy.persisted =
      rescued (persistedMergePolicy policy schemaVersion) := by
  cases policy with
  | map entries =>
    rw [MergePolicy.persistedMergePolicy_readPolicy, persistedPolicy]
    cases refusal (exactFields (.map entries) (persistedPolicyFields schemaVersion)
      (.atom "merge_policy")) with
    | error failure => cases failure <;> rfl
    | ok values =>
      change (rescued ((readPolicy values schemaVersion).map _)).map _ =
        rescued ((readPolicy values schemaVersion).map _)
      cases readPolicy values schemaVersion with
      | error failure => cases failure <;> rfl
      | ok policy => rfl
  | atom | number | text | list | tuple => rfl

/-- `validate_persisted_precedence`. -/
def validatePersistedPrecedence (artifacts : List Artifact) (policy : ReadPolicy) :
    Except Refusal Unit :=
  match policy.persisted.precedence with
  | .atom "nil" =>
    ensure (policy.policy.combine ≠ .precedence) (.atom "merge_precedence_mismatch")
  | .list digests =>
    ensure (policy.policy.combine = .precedence ∧
      sameItems (artifacts.map fun artifact => .text artifact.productSha256) digests = true)
        (.atom "merge_precedence_mismatch")
  | _ => .error (.atom "invalid_merge_policy")

/-- The identity of the inputs of a merge. -/
structure InputIdentity where
  schemaVersion : Int
  stableId : Binary
  mergePolicy : Record

/-- The policy of an identity, without what the earlier schemas do not record. -/
def InputIdentity.policyOf (identity : InputIdentity) (schemaVersion : Nat) : Record :=
  if schemaVersion ≥ 3 then identity.mergePolicy
  else (identity.mergePolicy.delete "verify_continuity").delete "provenance"

/-- `verify_report_identity`. -/
def verifyReportIdentity (values : Record) (recomputed : InputIdentity) (policy : ReadPolicy)
    (schemaVersion : Nat) : Except Refusal Unit :=
  match values.get "input_identity_schema_version", values.get "stable_input_identity" with
  | .number (.int version), .text stable => do
    ensure (recomputed.schemaVersion = version) (.atom "merge_input_identity_mismatch")
    ensure (recomputed.stableId = stable) (.atom "merge_input_identity_mismatch")
    ensure ((recomputed.policyOf schemaVersion).toValue.same policy.persisted.normalized.toValue =
      true) (.atom "merge_policy_mismatch")
  | .number (.int _), _ => .error (invalidField (.atom "stable_input_identity"))
  | _, _ => .error (invalidField (.atom "input_identity_schema_version"))

variable (core : ReportCore) (inspect : Value → Binary)

/-- `merge_input_identity`. -/
def mergeInputIdentity (artifacts : List Artifact) (opts : Value) : Except Refusal InputIdentity := do
  let policy ← rescued (normalizeMergePolicy inspect opts)
  core.validateTargetInterval policy.epochIntervalS
  let identity ← core.inputIdentity artifacts policy
  .ok ⟨identity.schemaVersion, identity.stableId, mergePolicyMap policy identity.precedence⟩

variable (catalog : Frame → Frame → Except Refusal CatalogEntry)
variable (speedBound : OrbitClass → Option Double) (offsetAt : Float → Option Float)
variable (offsets : OffsetSyntax)

/-- The checks of a merge result. -/
def resultChecks : ResultChecks where
  offsetAt := offsetAt
  frames := verifyFrames catalog
  continuity := verifyContinuityReport speedBound

/-- The checks of a report. -/
def reportChecks : Checks Artifact Acquisition ReadPolicy InputIdentity where
  centerEntry := fun center => discard (core.centerIssues center)
  persistedArtifact := persistedArtifact
  persistedAcquisition := persistedAcquisition offsets
  verifyContributorMetadata := verifyContributorMetadata core
  sharedPolicy := fun policy => (MergePolicy.sharedPolicy policy).map Record.toValue
  persistedMergePolicy := persistedPolicy
  validatePersistedPrecedence := validatePersistedPrecedence
  mergeInputIdentity := fun artifacts policy =>
    mergeInputIdentity core inspect artifacts policy.persisted.opts.toValue
  verifyReportIdentity := verifyReportIdentity
  verifyMergeResult := fun report sources policy =>
    verifyMergeResult (resultChecks catalog speedBound offsetAt) report sources policy.policy

/-- `verify_merge_report`, on what the core answers. -/
def verifyReport (report : Value) : Except Refusal Unit :=
  verifyMergeReport (reportChecks core inspect catalog speedBound offsetAt offsets) offsets report

end Model

end Sidereon.MergeReport
