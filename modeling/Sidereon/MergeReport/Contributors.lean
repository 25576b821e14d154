import Sidereon.Distribution.Merge
import Sidereon.MergePolicy.Recorded
import Sidereon.MergeReport.Result

/-!
# Contributors of merge reports

A contributor of a persisted report states the artifact that was merged and how it was acquired. Its
records are read field by field and compared with the catalog. The policy of the report is read into a
record of its own, and the identity of the inputs is computed again.
-/

namespace Sidereon.MergeReport

open Foundation Sidereon.Distribution
open MergePolicy (Count Digest Double Named Policy persistedNamed validDigestValue)

section Artifacts

/-- The names of source types. -/
def sourceName : SourceType → String
  | .direct => "direct"
  | .nasaCddis => "nasa_cddis"
  | .localFile => "local_file"
  | .inMemory => "in_memory"

instance : Named SourceType where
  all := [.direct, .nasaCddis, .localFile, .inMemory]
  name := sourceName
  found := by rintro ⟨⟩ <;> rfl
  foundText := by rintro ⟨⟩ <;> rfl

/-- `persisted_source`. -/
def persistedSource (value : Value) : Except Refusal SourceType :=
  persistedNamed value (.atom "invalid_distribution_source")

/-- `persisted_compression`: what a contributor is compressed with. -/
def persistedCompression (value : Value) : Except Refusal Compression :=
  if value.isAtom "gzip" || value.isText "gzip" then .ok .gzip
  else if value.isAtom "none" || value.isText "none" then .ok .none
  else .error (.atom "invalid_compression")

/-- `valid_digest`, with the digest. -/
def validDigest (value field : Value) : Except Refusal Binary :=
  match value with
  | .text bytes =>
    if validDigestValue (.text bytes) then .ok bytes else .error (.atom "invalid_digest")
  | _ => .error (invalidField field)

/-- `positive_integer`, with the integer. -/
def positiveCount (value field : Value) : Except Refusal Count :=
  match value with
  | .number (.int n) => if positive : 0 < n then .ok ⟨n, positive⟩ else .error (invalidField field)
  | _ => .error (invalidField field)

/-- `optional_nonnegative_integer`, with the integer. -/
def optionalNonnegativeInteger (value field : Value) : Except Refusal (Option Nat) :=
  match value with
  | .atom "nil" => .ok none
  | value => (nonnegativeInteger value field).map fun n => some n.toNat

/-- The fields of a product identity. -/
def productIdentityFields : List String :=
  ["family", "analysis_center", "publisher", "solution_class", "campaign", "filename_version",
    "date", "issue", "span", "sample", "official_filename", "format", "format_version",
    "prediction_horizon_days"]

/-- `persisted_product_identity`. -/
def persistedProductIdentity (identity context : Value) : Except Refusal ProductIdentity := do
  let values ← exactFields identity productIdentityFields context
  let text := fun name => nonemptyBinary (values.get name) (inside context name)
  let family ← text "family"
  let analysisCenter ← text "analysis_center"
  let publisher ← text "publisher"
  let solutionClass ← text "solution_class"
  let campaign ← text "campaign"
  let filenameVersion ←
    nonnegativeInteger (values.get "filename_version") (inside context "filename_version")
  let date ← persistedDate (values.get "date")
  let issue ← optionalBinary (values.get "issue") (inside context "issue")
  let span ← text "span"
  let sample ← text "sample"
  let officialFilename ← text "official_filename"
  let format ← text "format"
  let formatVersion ← optionalBinary (values.get "format_version") (inside context "format_version")
  let predictionHorizonDays ← optionalNonnegativeInteger (values.get "prediction_horizon_days")
    (inside context "prediction_horizon_days")
  .ok { family, analysisCenter, publisher, solutionClass, campaign,
        filenameVersion := filenameVersion.toNat, date, issue, span, sample, officialFilename,
        format, formatVersion, predictionHorizonDays }

/-- An artifact that was merged. -/
structure Artifact where
  requestedIdentity : ProductIdentity
  resolvedIdentity : ProductIdentity
  distributionSource : SourceType
  officialFilename : Binary
  productSha256 : Binary
  productByteLength : Count
  archiveSha256 : Binary
  archiveByteLength : Count
  compression : Compression

/-- `persisted_artifact`. -/
def persistedArtifact (artifact : Value) (index : Nat) : Except Refusal Artifact := do
  let field := fieldAt "artifact" index
  let values ← exactFields artifact sharedArtifactFields (contextAt "artifact" index)
  let requestedIdentity ←
    persistedProductIdentity (values.get "requested_identity") (field "requested")
  let resolvedIdentity ←
    persistedProductIdentity (values.get "resolved_identity") (field "resolved")
  let distributionSource ← persistedSource (values.get "distribution_source")
  let officialFilename ← nonemptyBinary (values.get "official_filename") (field "official_filename")
  let productSha256 ← validDigest (values.get "product_sha256") (field "product_sha256")
  let productByteLength ←
    positiveCount (values.get "product_byte_length") (field "product_byte_length")
  let archiveSha256 ← validDigest (values.get "archive_sha256") (field "archive_sha256")
  let archiveByteLength ←
    positiveCount (values.get "archive_byte_length") (field "archive_byte_length")
  let compression ← persistedCompression (values.get "compression")
  .ok { requestedIdentity, resolvedIdentity, distributionSource, officialFilename, productSha256,
        productByteLength, archiveSha256, archiveByteLength, compression }

end Artifacts

section Acquisitions

/-- The failure types of the third schema. -/
def sharedFailureTypes : List String :=
  ["authentication_required", "authentication_failed", "authorization_denied",
    "product_not_published", "retired_endpoint", "redirect_policy_failure", "malformed_url",
    "transport_failure", "http_client_failure", "http_status", "invalid_content_type",
    "error_document", "content_length_mismatch", "download_size_exceeded", "checksum_mismatch",
    "decompression_failure", "product_validation_failure", "cache_read_failure",
    "cache_write_failure", "offline_cache_miss", "unsupported_distribution",
    "unclassified_failure"]

/-- The failure types that the earlier schemas have besides. -/
def legacyFailureTypes : List String :=
  ["transport", "decompression_failed", "product_validation_failed", "cache_read_failed",
    "cache_write_failed", "acquisition", "unknown", "acquisition_error", "all_distributors_failed",
    "exact_product_set_error"]

/-- The failure types of a schema. -/
def failureTypes (schemaVersion : Nat) : List String :=
  if schemaVersion ≥ 3 then sharedFailureTypes
  else sharedFailureTypes.erase "unclassified_failure" ++ legacyFailureTypes

/-- An attempt that failed. -/
structure Attempt where
  source : SourceType
  errorType : Binary
  message : Binary
  url : Option Binary
  status : Option Int
  detail : Option Binary

/-- `failure_type`, with its name. -/
def failureType (value : Value) (types : List String) (context : Value) : Except Refusal Binary :=
  match labelString value with
  | some name =>
    if name ∈ types.map ascii then .ok name else .error (invalidField (inside context "error_type"))
  | none => .error (invalidField (inside context "error_type"))

/-- The detail that an unclassified failure has. -/
def attemptDetail (unclassified : Bool) (values : Record) (context : Value) :
    Except Refusal (Option Binary) :=
  if unclassified then (nonemptyBinary (values.get "detail") (inside context "detail")).map some
  else .ok none

/-- Whether a term is an integer. -/
def Value.isInteger : Value → Bool
  | .number (.int _) => true
  | _ => false

/-- An attempt of `persisted_attempts`. -/
def persistedAttempt (index schemaVersion attemptIndex : Nat) (attempt : Value) :
    Except Refusal Attempt := do
  let context := .tuple [.atom "attempt", .int index, .int attemptIndex]
  let unclassified := decide (3 ≤ schemaVersion ∧
    labelString (mapValue attempt "error_type") = some (ascii "unclassified_failure"))
  let values ← exactFields attempt (["source", "error_type", "message", "url", "status"] ++
    if unclassified then ["detail"] else []) context
  let detail ← attemptDetail unclassified values context
  let source ← persistedSource (values.get "source")
  let errorType ← failureType (values.get "error_type") (failureTypes schemaVersion) context
  ensure (schemaVersion < 3 ∨ errorType ≠ ascii "http_status" ∨
    (values.get "status").isInteger = true) (invalidField (inside context "status"))
  let message ← nonemptyBinary (values.get "message") (inside context "message")
  let url ← publicUrl (values.get "url") (inside context "url")
  let status ← optionalHttpStatus (values.get "status") (inside context "status")
  .ok { source, errorType, message, url, status, detail }

/-- `persisted_attempts`. -/
def persistedAttempts (attempts : Value) (index schemaVersion : Nat) :
    Except Refusal (List Attempt) :=
  match attempts with
  | .list items => checkEach (persistedAttempt index schemaVersion) 0 items
  | _ => .error (invalidField (fieldAt "acquisition" index "attempts"))

/-- How an artifact was acquired. -/
structure Acquisition where
  retrievedAt : Binary
  cacheHit : Bool
  originalUrl : Option Binary
  finalUrl : Option Binary
  etag : Option Binary
  lastModified : Option Binary
  attempts : List Attempt

variable (offsets : OffsetSyntax)

/-- `valid_timestamp`, with the timestamp. -/
def validTimestamp (value field : Value) : Except Refusal Binary :=
  match value with
  | .text bytes =>
    if (fromIso8601 offsets bytes).isSome then .ok bytes else .error (invalidField field)
  | _ => .error (invalidField field)

/-- `persisted_acquisition`. -/
def persistedAcquisition (acquisition : Value) (index schemaVersion : Nat) :
    Except Refusal Acquisition := do
  let field := fieldAt "acquisition" index
  let values ← exactFields acquisition sharedAcquisitionFields (contextAt "acquisition" index)
  let retrievedAt ← validTimestamp offsets (values.get "retrieved_at") (field "retrieved_at")
  let cacheHit ← booleanField (values.get "cache_hit") (field "cache_hit")
  let originalUrl ← publicUrl (values.get "original_url") (field "original_url")
  let finalUrl ← publicUrl (values.get "final_url") (field "final_url")
  let etag ← optionalBinary (values.get "etag") (field "etag")
  let lastModified ← optionalBinary (values.get "last_modified") (field "last_modified")
  let attempts ← persistedAttempts (values.get "attempts") index schemaVersion
  .ok { retrievedAt, cacheHit, originalUrl, finalUrl, etag, lastModified, attempts }

end Acquisitions

section Catalog

/-- What the core answers of the inputs of a merge: the digests in order when it is by precedence. -/
structure CoreIdentity where
  schemaVersion : Int
  stableId : Binary
  precedence : Option (List Digest)

/-- What verification asks of the core: the issues of a center, the identity of a product, the
ultra-rapid products of a date, whether an interval is one, and the identity of some inputs. -/
structure ReportCore where
  centerIssues : Binary → Except Refusal (List Binary)
  identity : Product → Except Refusal ProductIdentity
  ultraSp3Locations : Binary → Date → Binary → Except Refusal (List UltraLocation)
  validateTargetInterval : Option Double → Except Refusal Unit
  inputIdentity : List Artifact → Policy → Except Refusal CoreIdentity

variable (core : ReportCore)

/-- `{:contributor_mismatch, index, part}`. -/
def contributorMismatch (index : Nat) (part : String) : Refusal :=
  .tuple [.atom "contributor_mismatch", .int index, .atom part]

/-- The catalog's row of an ultra-rapid contributor. -/
def ultraRow (values : Record) (artifact : Artifact) (acquisition : Acquisition)
    (row : UltraLocation) : Bool :=
  (values.get "pattern").text? == some row.pattern &&
    (values.get "filename").text? == some row.filename &&
    row.span == artifact.requestedIdentity.span && row.sample == artifact.requestedIdentity.sample &&
    acquisition.originalUrl == some row.url && row.compression == artifact.compression.name

/-- `verify_contributor_catalog`, of a canonical product or a requested sample or else of an
ultra-rapid product. -/
def verifyContributorCatalog (values : Record) (date : Date) (artifact : Artifact)
    (acquisition : Acquisition) (index : Nat) : Except Refusal Unit :=
  let requested := artifact.requestedIdentity
  let center := ((values.get "center").text?).getD []
  let issue := (values.get "issue").text?
  if (values.get "pattern").isText "canonical" || (values.get "pattern").isText "requested_sample"
  then do
    let issues ← core.centerIssues center
    ensure ((values.get "pattern").isText "canonical" = issues.isEmpty)
      (contributorMismatch index "pattern")
    let identity ← core.identity
      { center, date, sample := requested.sample,
        issue := if issues = [] ∧ (issue = none ∨ issue = some [] ∨ issue = some (ascii "0000"))
          then none else issue }
    ensure (identity = requested) (contributorMismatch index "requested_identity")
    ensure ((values.get "filename").text? = some identity.officialFilename ∧
        (values.get "filename").text? = some artifact.officialFilename)
      (.atom "contributor_filename_mismatch")
  else
    -- Whatever does not match is refused as a mismatch with the catalog. The issue is stated, since it
    -- was compared with that of the contributor.
    match acquisition.originalUrl, core.ultraSp3Locations requested.analysisCenter requested.date
        (requested.issue.getD []) with
    | some _, .ok rows => ensure (requested.solutionClass = ascii "ultra_rapid" ∧
        rows.any (ultraRow values artifact acquisition) = true) (contributorMismatch index "catalog")
    | _, _ => .error (contributorMismatch index "catalog")

/-- `verify_contributor_metadata`. The issue of a product without one is `0000`. -/
def verifyContributorMetadata (values : Record) (date : Date) (artifact : Artifact)
    (acquisition : Acquisition) (index : Nat) : Except Refusal Unit := do
  let requested := artifact.requestedIdentity
  let resolved := artifact.resolvedIdentity
  let mismatch := contributorMismatch index
  ensure ((values.get "center").text? = some requested.analysisCenter) (mismatch "center")
  ensure ((values.get "center").text? = some resolved.analysisCenter) (mismatch "center")
  ensure (date = requested.date) (mismatch "date")
  ensure (date = resolved.date) (mismatch "date")
  ensure (some (((values.get "issue").text?.filter (!·.isEmpty)).getD (ascii "0000")) =
    requested.issue) (mismatch "issue")
  verifyContributorCatalog core values date artifact acquisition index

end Catalog

end Sidereon.MergeReport
