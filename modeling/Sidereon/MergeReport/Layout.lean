import Sidereon.MergeReport.Report
import Sidereon.MergeReport.Soundness

/-!
# Layout of merge reports

`merge_report_to_map` lays out a report that a merge returned, in the shared layout of the third
schema: the artifacts and the acquisitions of its contributors, its absent centers and what the core
reports of the merge.
-/

namespace Sidereon.MergeReport

open Foundation Sidereon.Distribution
open MergePolicy (Named Policy listOf ofBool optional sharedMergePolicy)

section Terms

mutual

/-- A term of a record, as a persisted value. -/
def termValue : Term → Value
  | .nil => .nil
  | .bool value => ofBool value
  | .number n => .number n
  | .text bytes => .text bytes
  | .list items => .list (termValues items)
  | .map fields => .map (termEntries fields)

/-- The items of a list. -/
def termValues : List Term → List Value
  | [] => []
  | item :: items => termValue item :: termValues items

/-- The fields of a map, under texts. -/
def termEntries : List (Binary × Term) → List (Value × Value)
  | [] => []
  | (key, term) :: fields => (.text key, termValue term) :: termEntries fields

end

theorem termValue_ofOption (text : Option Binary) :
    termValue (.ofOption text) = optional .text text := by
  cases text with
  | none => rw [Term.ofOption, termValue]; rfl
  | some bytes => rw [Term.ofOption, termValue]; rfl

end Terms

section Contributors

/-- `product_identity_to_map`. -/
def productIdentityToMap (identity : ProductIdentity) : Record :=
  [("family", .text identity.family), ("analysis_center", .text identity.analysisCenter),
    ("publisher", .text identity.publisher), ("solution_class", .text identity.solutionClass),
    ("campaign", .text identity.campaign), ("filename_version", .int identity.filenameVersion),
    ("date", .text identity.date.toIso8601), ("issue", optional .text identity.issue),
    ("span", .text identity.span), ("sample", .text identity.sample),
    ("official_filename", .text identity.officialFilename), ("format", .text identity.format),
    ("format_version", optional .text identity.formatVersion),
    ("prediction_horizon_days", optional (fun n : Nat => .int n) identity.predictionHorizonDays)]

/-- The atom of a compression. -/
def compressionAtomName : Compression → String
  | .none => "none"
  | .gzip => "gzip"
  | .unixCompress => "unix_compress"

/-- `artifact_identity_to_map`. -/
def artifactIdentityToMap (artifact : ArtifactIdentity) : Record :=
  [("requested_identity", (productIdentityToMap artifact.requestedIdentity).toValue),
    ("resolved_identity", (productIdentityToMap artifact.resolvedIdentity).toValue),
    ("distribution_source", Named.toAtom artifact.distributionSource),
    ("official_filename", termValue artifact.officialFilename),
    ("product_sha256", termValue artifact.productSha256),
    ("product_byte_length", termValue artifact.productByteLength),
    ("archive_sha256", termValue artifact.archiveSha256),
    ("archive_byte_length", termValue artifact.archiveByteLength),
    ("compression", .atom (compressionAtomName artifact.compression))]

/-- `shared_failure_spelling`. -/
def sharedFailureSpelling : FailureType → Binary
  | .transport => ascii "transport_failure"
  | .decompressionFailed => ascii "decompression_failure"
  | .productValidationFailed => ascii "product_validation_failure"
  | .cacheReadFailed => ascii "cache_read_failure"
  | .cacheWriteFailed => ascii "cache_write_failure"
  | type => type.name

/-- `shared_attempt`. The detail is stated of an unclassified failure only. -/
def sharedAttempt (attempt : SourceFailure) : Record :=
  let type := sharedFailureSpelling attempt.errorType
  [("source", Named.toAtom attempt.source), ("error_type", .text type),
    ("message", termValue attempt.message), ("url", termValue attempt.url),
    ("status", termValue attempt.status)] ++
  if type = ascii "unclassified_failure" then [("detail", termValue attempt.detail)] else []

variable (offsets : OffsetSyntax)

/-- `shared_timestamp` of a term. -/
def sharedTimestampTerm : Term → Value
  | .text bytes => .text (sharedTimestamp offsets bytes)
  | value => termValue value

/-- `acquisition_to_map`, in the shared layout. -/
def acquisitionToMap (facts : AcquisitionFacts) : Record :=
  [("retrieved_at", sharedTimestampTerm offsets facts.retrievedAt),
    ("cache_hit", termValue facts.cacheHit), ("original_url", termValue facts.originalUrl),
    ("final_url", termValue facts.finalUrl), ("etag", termValue facts.etag),
    ("last_modified", termValue facts.lastModified),
    ("attempts", listOf (fun attempt => (sharedAttempt attempt).toValue) facts.attempts)]

/-- `contributor_to_map`. -/
def contributorToMap (contributor : Contributor) : Value :=
  Record.toValue
    [("center", .text contributor.center), ("filename", termValue contributor.filename),
      ("date", .text contributor.date.toIso8601), ("issue", optional .text contributor.issue),
      ("pattern", .text contributor.pattern),
      ("artifact_identity",
        ((artifactIdentityToMap contributor.artifactIdentity).put "schema_version" (.int 1)).toValue),
      ("acquisition_facts",
        ((acquisitionToMap offsets contributor.acquisition).put "schema_version"
          (.int 1)).toValue)]

end Contributors

section Report

/-- `absent_to_map`. The detail is stated of an unclassified reason only. -/
def absentToMap (absent : AbsentCenter) : Record :=
  [("center", .text absent.center), ("filename", optional .text absent.filename),
    ("pattern", optional .text absent.pattern), ("reason", .text absent.reason),
    ("url", optional .text absent.url), ("http_status", optional .int absent.httpStatus)] ++
  if absent.reason = ascii "unclassified" then [("detail", optional .text absent.detail)] else []

/-- `Map.update!` of an atom, which raises without it. -/
def updateField (field : String) (update : Value → Option Value)
    (entries : List (Value × Value)) : Option (List (Value × Value)) :=
  if (fetchAtom entries field).isSome then
    entries.mapM fun entry =>
      if entry.1.isAtom field then (update entry.2).map fun value => (entry.1, value)
      else some entry
  else none

/-- `Map.delete` of an atom. -/
def deleteField (field : String) (entries : List (Value × Value)) : List (Value × Value) :=
  entries.filter fun entry => !entry.1.isAtom field

/-- `persisted_continuity`. -/
def persistedContinuity : Value → Option Value
  | .atom "nil" => some .nil
  | .map entries => do
    let attested ← fetchAtom entries "attested?"
    some (.map ((.atom "attested", attested) ::
      deleteField "attested" (deleteField "attested?" entries)))
  | _ => none

/-- The span of a reconciliation, which is a list when it is persisted. -/
def persistedEpochYearSpan : Value → Option Value
  | .atom "nil" => some .nil
  | .tuple [first, last] => some (.list [first, last])
  | .list [first, last] => some (.list [first, last])
  | _ => none

/-- A reconciliation as it is persisted. -/
def persistedReconciliation : Value → Option Value
  | .map entries => (updateField "epoch_year_span" persistedEpochYearSpan entries).map .map
  | _ => none

/-- `merge_result_to_map`. It raises when the core's report lacks its fields. -/
def mergeResultToMap : Value → Option Value
  | .map entries => do
    let entries := deleteField "handle" entries
    let entries ←
      if (fetchAtom entries "continuity").isSome then
        updateField "continuity" persistedContinuity entries
      else some ((.atom "continuity", .nil) :: entries)
    let entries ← updateField "frame_reconciliations" (fun
      | .list items => (items.mapM persistedReconciliation).map .list
      | _ => none) entries
    some (.map entries)
  | report => some report

variable (offsets : OffsetSyntax)

/-- `merge_report_to_map`. -/
def mergeReportToMap (report : MergeReport Value InputIdentity) : Option Value :=
  (mergeResultToMap report.mergeReport).map fun mergeReport => Record.toValue
    [("schema_version", .int 3), ("requested_centers", listOf .text report.requestedCenters),
      ("input_identity_schema_version", .int report.inputIdentity.schemaVersion),
      ("stable_input_identity", .text report.inputIdentity.stableId),
      ("merge_policy", (sharedMergePolicy report.inputIdentity.mergePolicy).toValue),
      ("source_count", .int report.sourceCount), ("single_product", ofBool report.singleProduct),
      ("merged", ofBool report.merged),
      ("contributors", listOf (contributorToMap offsets) report.contributors),
      ("absent", listOf (fun absent => (absentToMap absent).toValue) report.absent),
      ("merge_report", mergeReport)]

end Report

section Sample

/-- The product of a center on the day of the sample. -/
def dayIdentity (center : Binary) : ProductIdentity :=
  { plainIdentity with
    analysisCenter := center
    date := ⟨2023, 2, 25, by decide, by decide, by decide⟩
    issue := some (ascii "0000") }

/-- A core that knows that day. -/
def dayCore : ReportCore where
  centerIssues _ := .ok []
  identity product := .ok (dayIdentity product.center)
  ultraSp3Locations _ _ _ := .ok []
  validateTargetInterval _ := .ok ()
  inputIdentity _ _ := .ok ⟨1, ascii "id", none⟩

/-- A contributor of the day, after an archive that did not have it. -/
def dayContributor (center : Binary) : Contributor where
  center
  filename := .text (ascii "product.SP3")
  date := (dayIdentity center).date
  issue := none
  pattern := ascii "canonical"
  artifactIdentity :=
    { requestedIdentity := dayIdentity center
      resolvedIdentity := dayIdentity center
      distributionSource := .direct
      officialFilename := .text (ascii "product.SP3")
      productSha256 := .text (List.replicate 64 97)
      productByteLength := .count 2
      archiveSha256 := .text (List.replicate 64 98)
      archiveByteLength := .count 1
      compression := .gzip }
  acquisition :=
    { retrievedAt := .text (ascii "2023-02-26T00:00:00.500Z")
      cacheHit := .bool false
      originalUrl := .text (ascii "https://igs.bkg.bund.de/product")
      finalUrl := .nil
      etag := .nil
      lastModified := .nil
      attempts := [{
        source := .direct
        errorType := .productNotPublished
        message := .text (ascii "product_not_published")
        url := .text (ascii "https://igs.bkg.bund.de/earlier")
        status := .number (.int 404)
        detail := .nil }] }

/-- The report of a merge of two centers, without a third. -/
def dayReport (policy : Policy) (result : Value) : MergeReport Value InputIdentity where
  requestedCenters := [ascii "cod", ascii "gfz", ascii "igs"]
  contributors := [dayContributor (ascii "cod"), dayContributor (ascii "gfz")]
  absent := [{ center := ascii "igs", reason := ascii "no_candidate" }]
  sourceCount := 2
  singleProduct := false
  merged := true
  mergeReport := result
  inputIdentity := ⟨1, ascii "id", MergePolicy.mergePolicyMap policy none⟩

/-- The report laid out. -/
def dayMap (policy : Policy) (result : Value) : Value :=
  (mergeReportToMap calendarOffsets (dayReport policy result)).getD .nil

/-- No transform is in the catalog. -/
def noCatalog : Frame → Frame → Except Refusal CatalogEntry :=
  fun _ _ => .error (.atom "unsupported_frame")

end Sample

end Sidereon.MergeReport
