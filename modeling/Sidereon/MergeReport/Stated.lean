import Sidereon.MergePolicy.Reading
import Sidereon.MergeReport.Layout

/-!
# What contributors state

A record of a contributor is read exactly when it states something that may be stated. Each reader of
a field is characterised, then the product identity, the artifact, the attempts and the acquisition
that are read from fields.
-/

namespace Sidereon.MergeReport

open Foundation Sidereon.Distribution
open MergePolicy (Count Named bind_of_ok ofBool optional validDigestValue)

section Readers

/-- A condition that holds passes. -/
theorem ensure_of {condition : Prop} [Decidable condition] {refusal : Refusal} (holds : condition) :
    ensure condition refusal = .ok () := if_pos holds

variable {value field : Value}

theorem nonemptyBinary_iff {bytes : Binary} :
    nonemptyBinary value field = .ok bytes ↔ value = .text bytes ∧ bytes ≠ [] := by
  constructor
  · intro read
    unfold nonemptyBinary at read
    split at read
    · cases read
      exact ⟨rfl, List.cons_ne_nil _ _⟩
    · cases read
  · rintro ⟨rfl, nonempty⟩
    cases bytes with
    | nil => exact absurd rfl nonempty
    | cons byte bytes => rfl

theorem optionalBinary_iff {text : Option Binary} :
    optionalBinary value field = .ok text ↔ value = optional .text text ∧ text ≠ some [] := by
  constructor
  · intro read
    unfold optionalBinary at read
    split at read
    · cases read
      exact ⟨rfl, nofun⟩
    · cases found : nonemptyBinary value field with
      | error refusal =>
        rw [found] at read
        cases read
      | ok bytes =>
        rw [found] at read
        cases read
        obtain ⟨same, nonempty⟩ := nonemptyBinary_iff.mp found
        exact ⟨same, fun empty => nonempty (Option.some_inj.mp empty)⟩
  · rintro ⟨rfl, nonempty⟩
    cases text with
    | none => rfl
    | some bytes =>
      have read : nonemptyBinary (.text bytes) field = .ok bytes :=
        nonemptyBinary_iff.mpr ⟨rfl, fun empty => nonempty (congrArg some empty)⟩
      exact congrArg (Except.map some) read

theorem nonnegativeInteger_iff {n : Int} :
    nonnegativeInteger value field = .ok n ↔ value = .int n ∧ 0 ≤ n := by
  constructor
  · exact nonnegativeInteger_int
  · rintro ⟨rfl, nonneg⟩
    exact if_pos nonneg

theorem optionalNonnegativeInteger_iff {n : Option Nat} :
    optionalNonnegativeInteger value field = .ok n ↔
      value = optional (fun n : Nat => .int n) n := by
  constructor
  · intro read
    unfold optionalNonnegativeInteger at read
    split at read
    · cases read
      rfl
    · cases found : nonnegativeInteger value field with
      | error refusal =>
        rw [found] at read
        cases read
      | ok count =>
        rw [found] at read
        cases read
        obtain ⟨same, nonneg⟩ := nonnegativeInteger_iff.mp found
        rw [same]
        exact congrArg Value.int (Int.toNat_of_nonneg nonneg).symm
  · rintro rfl
    cases n with
    | none => rfl
    | some n =>
      have read : nonnegativeInteger (.int n) field = .ok (n : Int) :=
        nonnegativeInteger_iff.mpr ⟨rfl, Int.natCast_nonneg n⟩
      exact congrArg (Except.map fun n => some n.toNat) read

theorem persistedDate_iff {date : Date} :
    persistedDate value = .ok date ↔
      ∃ text, value = .text text ∧ Date.fromIso8601 text = some date := by
  constructor
  · intro read
    unfold persistedDate at read
    split at read
    · split at read
      · next found =>
        cases read
        exact ⟨_, rfl, found⟩
      · cases read
    · cases read
  · rintro ⟨text, rfl, found⟩
    unfold persistedDate
    simp only [found]

theorem persistedNamed_iff {α : Type} [Named α] {reason : Refusal} {item : α} :
    MergePolicy.persistedNamed value reason = .ok item ↔ Named.ofEither? value = some item := by
  unfold MergePolicy.persistedNamed
  constructor
  · intro read
    split at read
    · next found =>
      cases read
      exact found
    · cases read
  · intro found
    rw [found]

/-- The compressions of contributors, by the terms that state them. -/
def statedCompression? (value : Value) : Option Compression :=
  if value.isAtom "gzip" || value.isText "gzip" then some .gzip
  else if value.isAtom "none" || value.isText "none" then some .none
  else none

theorem persistedCompression_iff {compression : Compression} :
    persistedCompression value = .ok compression ↔ statedCompression? value = some compression := by
  unfold persistedCompression statedCompression?
  split
  · rw [Except.ok.injEq, Option.some_inj]
  · split
    · rw [Except.ok.injEq, Option.some_inj]
    · exact iff_of_false nofun nofun

theorem validDigest_iff {bytes : Binary} :
    validDigest value field = .ok bytes ↔
      value = .text bytes ∧ validDigestValue (.text bytes) = true := by
  constructor
  · intro read
    unfold validDigest at read
    split at read
    · split at read
      · next valid =>
        cases read
        exact ⟨rfl, valid⟩
      · cases read
    · cases read
  · rintro ⟨rfl, valid⟩
    exact if_pos valid

theorem positiveCount_iff {count : Count} :
    positiveCount value field = .ok count ↔ value = .int count.value := by
  constructor
  · intro read
    unfold positiveCount at read
    split at read
    · split at read
      · cases read
        rfl
      · cases read
    · cases read
  · rintro rfl
    exact dif_pos count.positive

theorem booleanField_iff {read : Bool} :
    booleanField value field = .ok read ↔ value = ofBool read := by
  constructor
  · intro passed
    unfold booleanField at passed
    split at passed
    · cases passed
      rfl
    · cases passed
      rfl
    · cases passed
  · rintro rfl
    cases read <;> rfl

/-- A URL that names a host over HTTP and nothing else that is secret. -/
def PublicUrl (bytes : Binary) : Prop :=
  let uri := Uri.parse bytes
  (uri.scheme = some (ascii "http") ∨ uri.scheme = some (ascii "https")) ∧
    uri.host ≠ none ∧ uri.host ≠ some [] ∧ uri.userinfo = none ∧ uri.query = none ∧
    uri.fragment = none

theorem publicUrl_iff {url : Option Binary} :
    publicUrl value field = .ok url ↔ value = optional .text url ∧ ∀ bytes ∈ url, PublicUrl bytes := by
  constructor
  · intro read
    unfold publicUrl at read
    split at read
    · cases read
      exact ⟨rfl, nofun⟩
    · dsimp only at read
      split at read
      · next plain =>
        cases read
        refine ⟨rfl, fun bytes same => ?_⟩
        cases same
        exact plain
      · cases read
    · cases read
  · rintro ⟨rfl, plain⟩
    cases url with
    | none => rfl
    | some bytes => exact if_pos (plain bytes rfl)

theorem optionalHttpStatus_iff {status : Option Int} :
    optionalHttpStatus value field = .ok status ↔
      value = optional .int status ∧ ∀ n ∈ status, 100 ≤ n ∧ n ≤ 599 := by
  constructor
  · intro read
    unfold optionalHttpStatus at read
    split at read
    · cases read
      exact ⟨rfl, nofun⟩
    · split at read
      · next within =>
        cases read
        refine ⟨rfl, fun n same => ?_⟩
        cases same
        exact within
      · cases read
    · cases read
  · rintro ⟨rfl, within⟩
    cases status with
    | none => rfl
    | some n => exact if_pos (within n rfl)

theorem validTimestamp_iff {offsets : OffsetSyntax} {bytes : Binary} :
    validTimestamp offsets value field = .ok bytes ↔
      value = .text bytes ∧ (fromIso8601 offsets bytes).isSome = true := by
  constructor
  · intro read
    unfold validTimestamp at read
    split at read
    · split at read
      · next accepted =>
        cases read
        exact ⟨rfl, accepted⟩
      · cases read
    · cases read
  · rintro ⟨rfl, accepted⟩
    exact if_pos accepted

end Readers

section Products

/-- The fields of a map or a record state a product identity. -/
structure StatesProduct (read : String → Option Value) (identity : ProductIdentity) : Prop where
  family : read "family" = some (.text identity.family)
  analysisCenter : read "analysis_center" = some (.text identity.analysisCenter)
  publisher : read "publisher" = some (.text identity.publisher)
  solutionClass : read "solution_class" = some (.text identity.solutionClass)
  campaign : read "campaign" = some (.text identity.campaign)
  filenameVersion : read "filename_version" = some (.int identity.filenameVersion)
  date : ∃ text, read "date" = some (.text text) ∧ Date.fromIso8601 text = some identity.date
  issue : read "issue" = some (optional .text identity.issue)
  span : read "span" = some (.text identity.span)
  sample : read "sample" = some (.text identity.sample)
  officialFilename : read "official_filename" = some (.text identity.officialFilename)
  format : read "format" = some (.text identity.format)
  formatVersion : read "format_version" = some (optional .text identity.formatVersion)
  predictionHorizonDays : read "prediction_horizon_days" =
    some (optional (fun n : Nat => .int n) identity.predictionHorizonDays)

/-- No text of an identity is empty. -/
structure Whole (identity : ProductIdentity) : Prop where
  family : identity.family ≠ []
  analysisCenter : identity.analysisCenter ≠ []
  publisher : identity.publisher ≠ []
  solutionClass : identity.solutionClass ≠ []
  campaign : identity.campaign ≠ []
  issue : identity.issue ≠ some []
  span : identity.span ≠ []
  sample : identity.sample ≠ []
  officialFilename : identity.officialFilename ≠ []
  format : identity.format ≠ []
  formatVersion : identity.formatVersion ≠ some []

/-- A product identity that is read is stated. -/
theorem persistedProductIdentity_stated {value context : Value} {identity : ProductIdentity}
    (read : persistedProductIdentity value context = .ok identity) :
    StatesProduct value.field? identity ∧ Whole identity := by
  obtain ⟨values, fields, rest⟩ := bind_ok.mp read
  obtain ⟨family, familyRead, rest⟩ := bind_ok.mp rest
  obtain ⟨analysisCenter, centerRead, rest⟩ := bind_ok.mp rest
  obtain ⟨publisher, publisherRead, rest⟩ := bind_ok.mp rest
  obtain ⟨solutionClass, classRead, rest⟩ := bind_ok.mp rest
  obtain ⟨campaign, campaignRead, rest⟩ := bind_ok.mp rest
  obtain ⟨version, versionRead, rest⟩ := bind_ok.mp rest
  obtain ⟨date, dateRead, rest⟩ := bind_ok.mp rest
  obtain ⟨issue, issueRead, rest⟩ := bind_ok.mp rest
  obtain ⟨span, spanRead, rest⟩ := bind_ok.mp rest
  obtain ⟨sample, sampleRead, rest⟩ := bind_ok.mp rest
  obtain ⟨filename, filenameRead, rest⟩ := bind_ok.mp rest
  obtain ⟨format, formatRead, rest⟩ := bind_ok.mp rest
  obtain ⟨formatVersion, formatVersionRead, rest⟩ := bind_ok.mp rest
  obtain ⟨horizon, horizonRead, same⟩ := bind_ok.mp rest
  cases same
  have field : ∀ {name}, name ∈ productIdentityFields → value.field? name = some (values.get name) :=
    fun asked => (exactFields_get fields asked).1
  obtain ⟨versioned, nonneg⟩ := nonnegativeInteger_iff.mp versionRead
  obtain ⟨text, dated, found⟩ := persistedDate_iff.mp dateRead
  constructor
  · constructor
    · rw [field (by decide), (nonemptyBinary_iff.mp familyRead).1]
    · rw [field (by decide), (nonemptyBinary_iff.mp centerRead).1]
    · rw [field (by decide), (nonemptyBinary_iff.mp publisherRead).1]
    · rw [field (by decide), (nonemptyBinary_iff.mp classRead).1]
    · rw [field (by decide), (nonemptyBinary_iff.mp campaignRead).1]
    · rw [field (by decide), versioned, Int.toNat_of_nonneg nonneg]
    · exact ⟨text, (field (by decide)).trans (congrArg some dated), found⟩
    · rw [field (by decide), (optionalBinary_iff.mp issueRead).1]
    · rw [field (by decide), (nonemptyBinary_iff.mp spanRead).1]
    · rw [field (by decide), (nonemptyBinary_iff.mp sampleRead).1]
    · rw [field (by decide), (nonemptyBinary_iff.mp filenameRead).1]
    · rw [field (by decide), (nonemptyBinary_iff.mp formatRead).1]
    · rw [field (by decide), (optionalBinary_iff.mp formatVersionRead).1]
    · rw [field (by decide), optionalNonnegativeInteger_iff.mp horizonRead]
  · constructor
    · exact (nonemptyBinary_iff.mp familyRead).2
    · exact (nonemptyBinary_iff.mp centerRead).2
    · exact (nonemptyBinary_iff.mp publisherRead).2
    · exact (nonemptyBinary_iff.mp classRead).2
    · exact (nonemptyBinary_iff.mp campaignRead).2
    · exact (optionalBinary_iff.mp issueRead).2
    · exact (nonemptyBinary_iff.mp spanRead).2
    · exact (nonemptyBinary_iff.mp sampleRead).2
    · exact (nonemptyBinary_iff.mp filenameRead).2
    · exact (nonemptyBinary_iff.mp formatRead).2
    · exact (optionalBinary_iff.mp formatVersionRead).2

/-- The layout of a whole identity is read back. -/
theorem persistedProductIdentity_toMap {identity : ProductIdentity} (whole : Whole identity)
    (context : Value) :
    persistedProductIdentity (productIdentityToMap identity).toValue context = .ok identity := by
  have text {bytes : Binary} (nonempty : bytes ≠ []) (field : Value) :
      nonemptyBinary (.text bytes) field = .ok bytes := nonemptyBinary_iff.mpr ⟨rfl, nonempty⟩
  have version : nonnegativeInteger (.int identity.filenameVersion)
      (inside context "filename_version") = .ok (identity.filenameVersion : Int) :=
    nonnegativeInteger_iff.mpr ⟨rfl, Int.natCast_nonneg _⟩
  have fields : exactFields (productIdentityToMap identity).toValue productIdentityFields context =
      .ok (productIdentityToMap identity) := rfl
  exact bind_of_ok fields (bind_of_ok (text whole.family _) (bind_of_ok (text whole.analysisCenter _)
    (bind_of_ok (text whole.publisher _) (bind_of_ok (text whole.solutionClass _)
    (bind_of_ok (text whole.campaign _) (bind_of_ok version
    (bind_of_ok (persistedDate_iff.mpr ⟨_, rfl, Date.fromIso8601_toIso8601 identity.date⟩)
    (bind_of_ok (optionalBinary_iff.mpr ⟨rfl, whole.issue⟩) (bind_of_ok (text whole.span _)
    (bind_of_ok (text whole.sample _) (bind_of_ok (text whole.officialFilename _)
    (bind_of_ok (text whole.format _) (bind_of_ok (optionalBinary_iff.mpr ⟨rfl, whole.formatVersion⟩)
    (bind_of_ok (optionalNonnegativeInteger_iff.mpr rfl) rfl))))))))))))))

end Products

section Artifacts

/-- The fields of a map or a record state an artifact. -/
structure StatesArtifact (read : String → Option Value) (artifact : Artifact) : Prop where
  requestedIdentity : ∃ value, read "requested_identity" = some value ∧
    StatesProduct value.field? artifact.requestedIdentity
  resolvedIdentity : ∃ value, read "resolved_identity" = some value ∧
    StatesProduct value.field? artifact.resolvedIdentity
  distributionSource : ∃ value, read "distribution_source" = some value ∧
    Named.ofEither? value = some artifact.distributionSource
  officialFilename : read "official_filename" = some (.text artifact.officialFilename)
  productSha256 : read "product_sha256" = some (.text artifact.productSha256)
  productByteLength : read "product_byte_length" = some (.int artifact.productByteLength.value)
  archiveSha256 : read "archive_sha256" = some (.text artifact.archiveSha256)
  archiveByteLength : read "archive_byte_length" = some (.int artifact.archiveByteLength.value)
  compression : ∃ value, read "compression" = some value ∧
    statedCompression? value = some artifact.compression

/-- What every artifact of a report is. -/
structure Artifact.Valid (artifact : Artifact) : Prop where
  requestedIdentity : Whole artifact.requestedIdentity
  resolvedIdentity : Whole artifact.resolvedIdentity
  officialFilename : artifact.officialFilename ≠ []
  productSha256 : validDigestValue (.text artifact.productSha256) = true
  archiveSha256 : validDigestValue (.text artifact.archiveSha256) = true
  compression : artifact.compression ≠ .unixCompress

theorem statedCompression?_ne {value : Value} {compression : Compression}
    (stated : statedCompression? value = some compression) : compression ≠ .unixCompress := by
  unfold statedCompression? at stated
  split at stated
  · cases stated
    decide
  · split at stated
    · cases stated
      decide
    · cases stated

/-- An artifact that is read is stated. -/
theorem persistedArtifact_stated {value : Value} {index : Nat} {artifact : Artifact}
    (read : persistedArtifact value index = .ok artifact) :
    StatesArtifact value.field? artifact ∧ artifact.Valid := by
  obtain ⟨values, fields, rest⟩ := bind_ok.mp read
  obtain ⟨requested, requestedRead, rest⟩ := bind_ok.mp rest
  obtain ⟨resolved, resolvedRead, rest⟩ := bind_ok.mp rest
  obtain ⟨source, sourceRead, rest⟩ := bind_ok.mp rest
  obtain ⟨filename, filenameRead, rest⟩ := bind_ok.mp rest
  obtain ⟨productDigest, productDigestRead, rest⟩ := bind_ok.mp rest
  obtain ⟨productLength, productLengthRead, rest⟩ := bind_ok.mp rest
  obtain ⟨archiveDigest, archiveDigestRead, rest⟩ := bind_ok.mp rest
  obtain ⟨archiveLength, archiveLengthRead, rest⟩ := bind_ok.mp rest
  obtain ⟨compression, compressionRead, same⟩ := bind_ok.mp rest
  cases same
  have field : ∀ {name}, name ∈ sharedArtifactFields → value.field? name = some (values.get name) :=
    fun asked => (exactFields_get fields asked).1
  obtain ⟨statesRequested, wholeRequested⟩ := persistedProductIdentity_stated requestedRead
  obtain ⟨statesResolved, wholeResolved⟩ := persistedProductIdentity_stated resolvedRead
  have compressed := persistedCompression_iff.mp compressionRead
  constructor
  · constructor
    · exact ⟨_, field (by decide), statesRequested⟩
    · exact ⟨_, field (by decide), statesResolved⟩
    · exact ⟨_, field (by decide), persistedNamed_iff.mp sourceRead⟩
    · rw [field (by decide), (nonemptyBinary_iff.mp filenameRead).1]
    · rw [field (by decide), (validDigest_iff.mp productDigestRead).1]
    · rw [field (by decide), positiveCount_iff.mp productLengthRead]
    · rw [field (by decide), (validDigest_iff.mp archiveDigestRead).1]
    · rw [field (by decide), positiveCount_iff.mp archiveLengthRead]
    · exact ⟨_, field (by decide), compressed⟩
  · constructor
    · exact wholeRequested
    · exact wholeResolved
    · exact (nonemptyBinary_iff.mp filenameRead).2
    · exact (validDigest_iff.mp productDigestRead).2
    · exact (validDigest_iff.mp archiveDigestRead).2
    · exact statedCompression?_ne compressed

/-- An artifact as the identity of a contributor. -/
def Artifact.identity (artifact : Artifact) : ArtifactIdentity where
  requestedIdentity := artifact.requestedIdentity
  resolvedIdentity := artifact.resolvedIdentity
  distributionSource := artifact.distributionSource
  officialFilename := .text artifact.officialFilename
  productSha256 := .text artifact.productSha256
  productByteLength := .number (.int artifact.productByteLength.value)
  archiveSha256 := .text artifact.archiveSha256
  archiveByteLength := .number (.int artifact.archiveByteLength.value)
  compression := artifact.compression

theorem ofEither?_toAtom {α : Type} [Named α] (item : α) :
    Named.ofEither? (Named.toAtom item) = some item := by
  rw [← Named.ofAtom?_atom item]
  unfold Named.ofEither? Named.ofAtom? Named.toAtom
  refine List.find?_congr fun other _ => ?_
  exact Bool.or_false _

theorem statedCompression?_atom {compression : Compression} (other : compression ≠ .unixCompress) :
    statedCompression? (.atom (compressionAtomName compression)) = some compression := by
  cases compression with
  | none => rfl
  | gzip => rfl
  | unixCompress => exact absurd rfl other

/-- The layout of a valid artifact is read back. -/
theorem persistedArtifact_toMap {artifact : Artifact} (valid : artifact.Valid) (index : Nat) :
    persistedArtifact (artifactIdentityToMap artifact.identity).toValue index = .ok artifact := by
  have fields : exactFields (artifactIdentityToMap artifact.identity).toValue sharedArtifactFields
      (contextAt "artifact" index) = .ok (artifactIdentityToMap artifact.identity) := rfl
  exact bind_of_ok fields
    (bind_of_ok (persistedProductIdentity_toMap valid.requestedIdentity _)
    (bind_of_ok (persistedProductIdentity_toMap valid.resolvedIdentity _)
    (bind_of_ok (persistedNamed_iff.mpr (ofEither?_toAtom artifact.distributionSource))
    (bind_of_ok (nonemptyBinary_iff.mpr ⟨rfl, valid.officialFilename⟩)
    (bind_of_ok (validDigest_iff.mpr ⟨rfl, valid.productSha256⟩)
    (bind_of_ok (positiveCount_iff.mpr rfl)
    (bind_of_ok (validDigest_iff.mpr ⟨rfl, valid.archiveSha256⟩)
    (bind_of_ok (positiveCount_iff.mpr rfl)
    (bind_of_ok (persistedCompression_iff.mpr (statedCompression?_atom valid.compression))
      rfl)))))))))

end Artifacts

section Acquisitions

/-- An integer or `nil`, as a term of a record. -/
def statusTerm : Option Int → Term
  | none => .nil
  | some n => .number (.int n)

theorem termValue_status (status : Option Int) :
    termValue (statusTerm status) = optional .int status := by
  cases status with
  | none => rw [statusTerm, termValue]; rfl
  | some n => rw [statusTerm, termValue]; rfl

/-- A recorded failure is an attempt of a report. -/
structure IsAttempt (failure : SourceFailure) (attempt : Attempt) : Prop where
  source : failure.source = attempt.source
  errorType : attempt.errorType = sharedFailureSpelling failure.errorType
  message : failure.message = .text attempt.message ∧ attempt.message ≠ []
  url : failure.url = .ofOption attempt.url ∧ ∀ bytes ∈ attempt.url, PublicUrl bytes
  status : failure.status = statusTerm attempt.status ∧
    ∀ n ∈ attempt.status, 100 ≤ n ∧ n ≤ 599
  httpStatus : failure.errorType = .httpStatus → attempt.status ≠ none
  detail : if failure.errorType = .unclassifiedFailure then
      ∃ detail, failure.detail = .text detail ∧ detail ≠ [] ∧ attempt.detail = some detail
    else attempt.detail = none

theorem sharedFailureSpelling_known (type : FailureType) :
    sharedFailureSpelling type ∈ (failureTypes 3).map ascii := by
  cases type <;> decide

theorem sharedFailureSpelling_unclassified (type : FailureType) :
    sharedFailureSpelling type = ascii "unclassified_failure" ↔ type = .unclassifiedFailure := by
  cases type <;> decide

theorem sharedFailureSpelling_httpStatus (type : FailureType) :
    sharedFailureSpelling type = ascii "http_status" ↔ type = .httpStatus := by
  cases type <;> decide

/-- The fields of an attempt that is laid out, and its detail. -/
theorem sharedAttempt_fields {failure : SourceFailure} {attempt : Attempt}
    (same : IsAttempt failure attempt) (context : Value) :
    let unclassified := decide (failure.errorType = .unclassifiedFailure)
    exactFields (sharedAttempt failure).toValue (["source", "error_type", "message", "url", "status"] ++
        if unclassified then ["detail"] else []) context = .ok (sharedAttempt failure) ∧
      attemptDetail unclassified (sharedAttempt failure) context = .ok attempt.detail := by
  have detailed := same.detail
  by_cases known : failure.errorType = .unclassifiedFailure
  · have spelled := (sharedFailureSpelling_unclassified failure.errorType).mpr known
    rw [if_pos known] at detailed
    obtain ⟨detail, stated, nonempty, found⟩ := detailed
    have text : nonemptyBinary (termValue (.text detail)) (inside context "detail") = .ok detail := by
      rw [termValue]
      exact nonemptyBinary_iff.mpr ⟨rfl, nonempty⟩
    simp only [sharedAttempt, decide_eq_true known, if_pos spelled, if_true, stated, found]
    exact ⟨rfl, congrArg (Except.map some) text⟩
  · have spelled := mt (sharedFailureSpelling_unclassified failure.errorType).mp known
    rw [if_neg known] at detailed
    simp only [sharedAttempt, decide_eq_false known, if_neg spelled, Bool.false_eq_true, if_false,
      List.append_nil, detailed]
    exact ⟨rfl, rfl⟩

/-- The layout of an attempt is read back. -/
theorem persistedAttempt_shared {failure : SourceFailure} {attempt : Attempt}
    (same : IsAttempt failure attempt) (index attemptIndex : Nat) :
    persistedAttempt index 3 attemptIndex (sharedAttempt failure).toValue = .ok attempt := by
  have label : labelString (mapValue (sharedAttempt failure).toValue "error_type") =
      some (sharedFailureSpelling failure.errorType) := rfl
  have unclassified : decide (3 ≤ 3 ∧
      labelString (mapValue (sharedAttempt failure).toValue "error_type") =
        some (ascii "unclassified_failure")) =
      decide (failure.errorType = .unclassifiedFailure) := by
    refine decide_eq_decide.mpr ?_
    rw [label, Option.some_inj, sharedFailureSpelling_unclassified]
    exact and_iff_right le_rfl
  obtain ⟨fields, detail⟩ := sharedAttempt_fields same
    (.tuple [.atom "attempt", .int index, .int attemptIndex])
  unfold persistedAttempt
  simp only [unclassified]
  have source : MergePolicy.persistedNamed ((sharedAttempt failure).get "source")
      (.atom "invalid_distribution_source") = .ok attempt.source :=
    persistedNamed_iff.mpr (same.source ▸ ofEither?_toAtom failure.source)
  have type (context : Value) : failureType ((sharedAttempt failure).get "error_type")
      (failureTypes 3) context = .ok attempt.errorType :=
    same.errorType ▸ if_pos (sharedFailureSpelling_known failure.errorType)
  have message : (sharedAttempt failure).get "message" = .text attempt.message := by
    change termValue failure.message = _
    rw [same.message.1, termValue]
  have url : (sharedAttempt failure).get "url" = optional .text attempt.url := by
    change termValue failure.url = _
    rw [same.url.1, termValue_ofOption]
  have status : (sharedAttempt failure).get "status" = optional .int attempt.status := by
    change termValue failure.status = _
    rw [same.status.1, termValue_status]
  have answered : 3 < 3 ∨ attempt.errorType ≠ ascii "http_status" ∨
      ((sharedAttempt failure).get "status").isInteger = true := by
    by_cases http : failure.errorType = .httpStatus
    · refine .inr (.inr ?_)
      obtain ⟨n, found⟩ := Option.ne_none_iff_exists'.mp (same.httpStatus http)
      rw [status, found]
      rfl
    · refine .inr (.inl ?_)
      rw [same.errorType]
      exact mt (sharedFailureSpelling_httpStatus failure.errorType).mp http
  exact bind_of_ok fields (bind_of_ok detail (bind_of_ok source (bind_of_ok (type _)
    (bind_of_ok (ensure_of answered)
    (bind_of_ok (nonemptyBinary_iff.mpr ⟨message, same.message.2⟩)
    (bind_of_ok (publicUrl_iff.mpr ⟨url, same.url.2⟩)
    (bind_of_ok (optionalHttpStatus_iff.mpr ⟨status, same.status.2⟩) rfl)))))))

theorem persistedAttempts_shared {failures : List SourceFailure} {attempts : List Attempt}
    (same : List.Forall₂ IsAttempt failures attempts) (index : Nat) :
    persistedAttempts (MergePolicy.listOf (fun attempt => (sharedAttempt attempt).toValue) failures)
      index 3 = .ok attempts := by
  change checkEach (persistedAttempt index 3) 0 (failures.map _) = _
  generalize 0 = start
  induction same generalizing start with
  | nil => rfl
  | cons first _ ih =>
    exact bind_of_ok (persistedAttempt_shared first index start) (bind_of_ok (ih (start + 1)) rfl)

variable {offsets : OffsetSyntax}

/-- The facts of a contributor are an acquisition of a report, at the time in its shared form. -/
structure IsAcquisition (offsets : OffsetSyntax) (facts : AcquisitionFacts)
    (acquisition : Acquisition) : Prop where
  retrievedAt : ∃ text, facts.retrievedAt = .text text ∧
    (fromIso8601 offsets text).isSome = true ∧
    acquisition.retrievedAt = sharedTimestamp offsets text
  cacheHit : facts.cacheHit = .bool acquisition.cacheHit
  originalUrl : facts.originalUrl = .ofOption acquisition.originalUrl ∧
    ∀ bytes ∈ acquisition.originalUrl, PublicUrl bytes
  finalUrl : facts.finalUrl = .ofOption acquisition.finalUrl ∧
    ∀ bytes ∈ acquisition.finalUrl, PublicUrl bytes
  etag : facts.etag = .ofOption acquisition.etag ∧ acquisition.etag ≠ some []
  lastModified : facts.lastModified = .ofOption acquisition.lastModified ∧
    acquisition.lastModified ≠ some []
  attempts : List.Forall₂ IsAttempt facts.attempts acquisition.attempts

/-- The layout of an acquisition is read back. -/
theorem persistedAcquisition_toMap {facts : AcquisitionFacts} {acquisition : Acquisition}
    (same : IsAcquisition offsets facts acquisition) (index : Nat) :
    persistedAcquisition offsets (acquisitionToMap offsets facts).toValue index 3 =
      .ok acquisition := by
  obtain ⟨text, retrieved, accepted, shared⟩ := same.retrievedAt
  obtain ⟨⟨datetime, offset⟩, found⟩ := Option.isSome_iff_exists.mp accepted
  have fields : exactFields (acquisitionToMap offsets facts).toValue sharedAcquisitionFields
      (contextAt "acquisition" index) = .ok (acquisitionToMap offsets facts) := rfl
  have time : (acquisitionToMap offsets facts).get "retrieved_at" = .text acquisition.retrievedAt := by
    change sharedTimestampTerm offsets facts.retrievedAt = _
    rw [retrieved, sharedTimestampTerm, shared]
  have restated : (fromIso8601 offsets acquisition.retrievedAt).isSome = true := by
    rw [shared, shared_accepted found]
    rfl
  have hit : (acquisitionToMap offsets facts).get "cache_hit" = ofBool acquisition.cacheHit := by
    change termValue facts.cacheHit = _
    rw [same.cacheHit, termValue]
  have original : (acquisitionToMap offsets facts).get "original_url" =
      optional .text acquisition.originalUrl := by
    change termValue facts.originalUrl = _
    rw [same.originalUrl.1, termValue_ofOption]
  have final : (acquisitionToMap offsets facts).get "final_url" =
      optional .text acquisition.finalUrl := by
    change termValue facts.finalUrl = _
    rw [same.finalUrl.1, termValue_ofOption]
  have etag : (acquisitionToMap offsets facts).get "etag" = optional .text acquisition.etag := by
    change termValue facts.etag = _
    rw [same.etag.1, termValue_ofOption]
  have modified : (acquisitionToMap offsets facts).get "last_modified" =
      optional .text acquisition.lastModified := by
    change termValue facts.lastModified = _
    rw [same.lastModified.1, termValue_ofOption]
  exact bind_of_ok fields (bind_of_ok (validTimestamp_iff.mpr ⟨time, restated⟩)
    (bind_of_ok (booleanField_iff.mpr hit)
    (bind_of_ok (publicUrl_iff.mpr ⟨original, same.originalUrl.2⟩)
    (bind_of_ok (publicUrl_iff.mpr ⟨final, same.finalUrl.2⟩)
    (bind_of_ok (optionalBinary_iff.mpr ⟨etag, same.etag.2⟩)
    (bind_of_ok (optionalBinary_iff.mpr ⟨modified, same.lastModified.2⟩)
    (bind_of_ok (persistedAttempts_shared same.attempts index) rfl)))))))

end Acquisitions

end Sidereon.MergeReport
