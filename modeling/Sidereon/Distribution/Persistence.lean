import Sidereon.Distribution.Json
import Sidereon.Distribution.World

/-!
# Keeping a provenance

An acquisition encodes the provenance it has built and a later one decodes it. Every provenance is
built of simple terms, and decoder and encoder agree on their fields, so what was kept is the
provenance again unless a text in it cannot be encoded. Header values are kept as the server sent
them.
-/

namespace Sidereon.Distribution

open Foundation

/-- The plain library with the texts of JSON. -/
def jsonLibrary : Library :=
  { plainLibrary with encode := Json.encode, decode := Json.decode }

/-- The printer and the reader of JSON do what is relied on. -/
theorem jason_jsonLibrary : Jason jsonLibrary where
  encodes := by
    intro term simple
    change (Json.encode term).isSome = term.utf8
    simp only [Json.encode, simple, true_and]
    cases term.utf8 <;> rfl
  decodes := by
    intro term json simple encoded
    change Json.encode term = some json at encoded
    simp only [Json.encode, simple, true_and] at encoded
    split at encoded
    · cases encoded
      exact Json.decode_print simple
    · cases encoded

section Built

variable {library : Library}

/-- An optional text is simple. -/
@[simp] theorem simple_ofOption (text : Option Binary) : (Term.ofOption text).simple = true := by
  cases text <;> rfl

/-- A count is simple. -/
@[simp] theorem simple_count (n : Nat) : (Term.count n).simple = true :=
  rfl

/-- A text is simple. -/
@[simp] theorem simple_text (text : Binary) : (Term.text text).simple = true :=
  rfl

/-- Fields are simple when their keys are names of different texts and their values are simple. -/
theorem simple_map {fields : List (Binary × Term)} (names : List String)
    (keys : fields.map (·.1) = names.map ascii) (distinct : names.Nodup)
    (values : Term.fieldsSimple fields = true) : (Term.map fields).simple = true := by
  have different : (fields.map (·.1)).Nodup := by
    rw [keys]
    exact List.Pairwise.map ascii (fun _ _ differ same => differ (ascii_inj.mp same)) distinct
  rw [Term.simple, decide_eq_true different, values]
  rfl

/-- An encoded identity is simple. -/
theorem simple_identityToMap (identity : ProductIdentity) :
    (identityToMap identity).simple = true := by
  have horizon : (identity.predictionHorizonDays.elim .nil Term.count).simple = true := by
    cases identity.predictionHorizonDays <;> rfl
  apply simple_map ["family", "analysis_center", "publisher", "solution_class", "campaign",
    "filename_version", "date", "issue", "span", "sample", "official_filename", "format",
    "format_version", "prediction_horizon_days"] rfl (by decide)
  simp [Term.fieldsSimple, horizon]

/-- A recorded failure has simple terms. -/
theorem simple_sourceFailure (inspect : Reason → Binary) (source : SourceType) (reason : Reason) :
    [(sourceFailure inspect source reason).message, (sourceFailure inspect source reason).url,
      (sourceFailure inspect source reason).status,
      (sourceFailure inspect source reason).detail].all Term.simple = true := by
  have detail (type : FailureType) :
      (if type = .unclassifiedFailure then Term.text (inspect reason) else .nil).simple = true := by
    split <;> rfl
  simp only [sourceFailure, List.all_cons, List.all_nil, detail, Bool.and_true]
  unfold failureFields
  split
  · split <;> rfl
  all_goals rfl

/-- An encoded failure is simple when its terms are. -/
theorem simple_failureToMap {failure : SourceFailure}
    (terms : [failure.message, failure.url, failure.status, failure.detail].all Term.simple = true) :
    (failureToMap failure).simple = true := by
  obtain ⟨source, type, message, url, status, detail⟩ := failure
  let plainFields := [(ascii "source", Term.text source.name),
    (ascii "error_type", .text type.name), (ascii "message", message), (ascii "url", url),
    (ascii "status", status)]
  have plain : Term.fieldsSimple plainFields = true → (Term.map plainFields).simple = true :=
    simple_map ["source", "error_type", "message", "url", "status"] rfl (by decide)
  let detailedFields := plainFields ++ [(ascii "detail", detail)]
  have detailed : Term.fieldsSimple detailedFields = true →
      (Term.map detailedFields).simple = true :=
    simple_map ["source", "error_type", "message", "url", "status", "detail"] rfl (by decide)
  simp only [plainFields, detailedFields, List.cons_append, List.nil_append] at plain detailed
  simp only [List.all_cons, List.all_nil, Bool.and_true, Bool.and_eq_true] at terms
  simp only [Term.fieldsSimple, simple_text, terms, Bool.and_true] at plain detailed
  cases detail <;> first | exact plain trivial | exact detailed trivial

/-- The provenance of an acquisition is encoded as a simple term. -/
theorem simple_provenance {identity resolved : ProductIdentity} {source : SourceType}
    {fetched : Fetched} {compression : Compression} {content retrievedAt : Binary}
    {failed : List (SourceType × Reason)} :
    (provenanceToMap (provenance library identity resolved source fetched compression content
      (failed.map fun failure => sourceFailure library.inspect failure.1 failure.2)
      retrievedAt)).simple = true := by
  have attempts (failed : List (SourceType × Reason)) :
      Term.listSimple ((failed.map fun failure =>
        sourceFailure library.inspect failure.1 failure.2).map failureToMap) = true := by
    induction failed with
    | nil => rfl
    | cons failure failed ih =>
      rw [List.map_cons, List.map_cons, Term.listSimple, ih,
        simple_failureToMap (simple_sourceFailure library.inspect failure.1 failure.2)]
      rfl
  have reversed := attempts failed.reverse
  rw [List.map_reverse] at reversed
  apply simple_map ["schema_version", "requested_identity", "resolved_identity", "publisher",
    "distribution_source", "official_filename", "original_url", "final_url", "retrieved_at",
    "byte_length", "sha256", "etag", "last_modified", "cache_hit", "archive_compression",
    "archive_byte_length", "archive_sha256", "attempts"] rfl (by decide)
  simpa [Term.fieldsSimple, provenance, simple_identityToMap, Term.simple] using reversed

/-- What acquisition builds a provenance from is UTF-8: the identities, what the source and the
server said, the digests, and what is recorded of the sources that failed. -/
structure Legible (library : Library) (identity resolved : ProductIdentity) (fetched : Fetched)
    (content retrievedAt : Binary) (failed : List (SourceType × Reason)) : Prop where
  identities : identity.utf8 = true ∧ resolved.utf8 = true
  originalUrl : fetched.originalUrl.all isUtf8 = true
  finalUrl : fetched.finalUrl.all isUtf8 = true
  etag : (headerValue library fetched.headers (ascii "etag")).all isUtf8 = true
  lastModified : (headerValue library fetched.headers (ascii "last-modified")).all isUtf8 = true
  retrievedAt : isUtf8 retrievedAt = true
  digests : isUtf8 (library.sha256 content) = true ∧ isUtf8 (library.sha256 fetched.archive) = true
  failures : ∀ failure ∈ failed,
    (sourceFailure library.inspect failure.1 failure.2).utf8 = true

/-- The texts of a provenance are UTF-8 when what it is built from is. -/
theorem utf8_provenance {identity resolved : ProductIdentity} (source : SourceType)
    {fetched : Fetched} (compression : Compression) {content retrievedAt : Binary}
    {failed : List (SourceType × Reason)} :
    (provenance library identity resolved source fetched compression content
      (failed.map fun failure => sourceFailure library.inspect failure.1 failure.2)
      retrievedAt).utf8 = true ↔
      Legible library identity resolved fetched content retrievedAt failed := by
  have optional (text : Option Binary) : (Term.ofOption text).utf8 = text.all isUtf8 := by
    cases text <;> rfl
  have counted (n : Nat) : (Term.count n).utf8 = true := rfl
  have copied (utf8 : identity.utf8 = true) :
      isUtf8 identity.publisher = true ∧ isUtf8 identity.officialFilename = true := by
    simp only [ProductIdentity.utf8, List.all_cons, List.all_nil, Bool.and_true,
      Bool.and_eq_true] at utf8
    simp only [utf8, and_self]
  simp only [Provenance.utf8, provenance, List.all_cons, List.all_nil, Term.utf8, optional, counted,
    List.all_reverse, List.all_map, Bool.and_true, Bool.true_and, Bool.and_eq_true]
  constructor
  · rintro ⟨⟨⟨first, second⟩, -, -, original, final, retrieved, product, etag, modified, archive⟩,
      failures⟩
    exact ⟨⟨first, second⟩, original, final, etag, modified, retrieved, ⟨product, archive⟩,
      List.all_eq_true.mp failures⟩
  · intro legible
    have identities := legible.identities
    have texts := copied identities.1
    exact ⟨⟨identities, texts.1, texts.2, legible.originalUrl, legible.finalUrl,
      legible.retrievedAt, legible.digests.1, legible.etag, legible.lastModified,
      legible.digests.2⟩, List.all_eq_true.mpr legible.failures⟩

end Built

/-- Whatever an acquisition builds a provenance from, the provenance is encoded and decoded as it was
if and only if all of it is UTF-8. -/
theorem provenance_persists {library : Library} (jason : Jason library)
    (identity resolved : ProductIdentity) (source : SourceType) (fetched : Fetched)
    (compression : Compression) (content retrievedAt : Binary)
    (failed : List (SourceType × Reason)) :
    (∃ json,
      library.encode (provenanceToMap (provenance library identity resolved source fetched
        compression content
        (failed.map fun failure => sourceFailure library.inspect failure.1 failure.2)
        retrievedAt)) = some json ∧
      (library.decode json).bind provenanceFromMap = some (provenance library identity resolved
        source fetched compression content
        (failed.map fun failure => sourceFailure library.inspect failure.1 failure.2)
        retrievedAt)) ↔
      Legible library identity resolved fetched content retrievedAt failed := by
  have simple : (provenanceToMap (provenance library identity resolved source fetched compression
      content (failed.map fun failure => sourceFailure library.inspect failure.1 failure.2)
      retrievedAt)).simple = true := simple_provenance
  have legible : _ ↔ Legible library identity resolved fetched content retrievedAt failed :=
    utf8_provenance source compression
  rw [← legible, ← utf8_provenanceToMap, ← jason.encodes _ simple]
  constructor
  · rintro ⟨json, encoded, -⟩
    rw [encoded]
    rfl
  · intro encodes
    obtain ⟨json, encoded⟩ := Option.isSome_iff_exists.mp encodes
    refine ⟨json, encoded, ?_⟩
    rw [jason.decodes _ json simple encoded, Option.bind_some, provenanceFromMap_provenanceToMap]

/-- With a failed source before it, an in-memory product keeps its provenance. -/
theorem provenance_persists_plain :
    ∃ json, jsonLibrary.encode (provenanceToMap (provenance jsonLibrary plainIdentity plainIdentity
        .inMemory (localFetch plainContent) .none plainContent
        ([(SourceType.direct, Reason.offlineCacheMiss)].map fun failure =>
          sourceFailure jsonLibrary.inspect failure.1 failure.2)
        (ascii "2024-01-03T00:00:00Z"))) = some json ∧
      (jsonLibrary.decode json).bind provenanceFromMap = some (provenance jsonLibrary plainIdentity
        plainIdentity .inMemory (localFetch plainContent) .none plainContent
        ([(SourceType.direct, Reason.offlineCacheMiss)].map fun failure =>
          sourceFailure jsonLibrary.inspect failure.1 failure.2)
        (ascii "2024-01-03T00:00:00Z")) := by
  apply (provenance_persists jason_jsonLibrary plainIdentity plainIdentity .inMemory
    (localFetch plainContent) .none plainContent (ascii "2024-01-03T00:00:00Z")
    [(.direct, .offlineCacheMiss)]).mpr
  constructor <;> decide +kernel

/-- A download whose server sent an entity tag that is not UTF-8. -/
def taggedFetch : Fetched :=
  { localFetch plainContent with headers := [(ascii "etag", [[255]])] }

/-- The provenance of such a download cannot be encoded. -/
theorem provenance_tagged :
    ¬ ∃ json, jsonLibrary.encode (provenanceToMap (provenance jsonLibrary plainIdentity
        plainIdentity .direct taggedFetch .none plainContent []
        (ascii "2024-01-03T00:00:00Z"))) = some json ∧
      (jsonLibrary.decode json).bind provenanceFromMap = some (provenance jsonLibrary plainIdentity
        plainIdentity .direct taggedFetch .none plainContent []
        (ascii "2024-01-03T00:00:00Z")) := by
  have refused : jsonLibrary.encode (provenanceToMap (provenance jsonLibrary plainIdentity
      plainIdentity .direct taggedFetch .none plainContent []
      (ascii "2024-01-03T00:00:00Z"))) = none := by decide +kernel
  rintro ⟨json, encoded, -⟩
  rw [refused] at encoded
  cases encoded

end Sidereon.Distribution
