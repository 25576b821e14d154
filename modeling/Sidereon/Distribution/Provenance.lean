import Sidereon.Distribution.Surroundings

/-!
# Provenance as JSON

Encoder and decoder of a provenance list its fields, atoms and failures separately. What the encoder
builds is decoded to the same provenance, and `Jason` encodes it unless a text in it is not UTF-8.
-/

namespace Sidereon.Distribution

open Foundation

/-- `identity_to_map`. -/
def identityToMap (identity : ProductIdentity) : Term :=
  .map [
    (ascii "family", .text identity.family),
    (ascii "analysis_center", .text identity.analysisCenter),
    (ascii "publisher", .text identity.publisher),
    (ascii "solution_class", .text identity.solutionClass),
    (ascii "campaign", .text identity.campaign),
    (ascii "filename_version", .count identity.filenameVersion),
    (ascii "date", .text identity.date.toIso8601),
    (ascii "issue", .ofOption identity.issue),
    (ascii "span", .text identity.span),
    (ascii "sample", .text identity.sample),
    (ascii "official_filename", .text identity.officialFilename),
    (ascii "format", .text identity.format),
    (ascii "format_version", .ofOption identity.formatVersion),
    (ascii "prediction_horizon_days", identity.predictionHorizonDays.elim .nil Term.count)]

/-- `identity_from_map`, for fields of their declared types: a map with a field of another type is
the identity of no request. -/
def identityFromMap (map : Term) : Option ProductIdentity := do
  let .map fields := map | none
  let field key := (fields.lookup (ascii key)).getD .nil
  let date ← (field "date").text?.bind Date.fromIso8601
  return {
    family := ← (field "family").text?
    analysisCenter := ← (field "analysis_center").text?
    publisher := ← (field "publisher").text?
    solutionClass := ← (field "solution_class").text?
    campaign := ← (field "campaign").text?
    filenameVersion := ← (field "filename_version").natural?
    date
    issue := ← (field "issue").optionalText?
    span := ← (field "span").text?
    sample := ← (field "sample").text?
    officialFilename := ← (field "official_filename").text?
    format := ← (field "format").text?
    formatVersion := ← (field "format_version").optionalText?
    predictionHorizonDays := ← (field "prediction_horizon_days").optionalNatural? }

/-- Valid UTF-8, as `Jason` requires of every text. -/
def isUtf8 (bytes : Binary) : Bool := ByteArray.validateUTF8 ⟨bytes.toArray⟩

mutual

/-- Every text of a term is UTF-8. -/
def Term.utf8 : Term → Bool
  | .text bytes => isUtf8 bytes
  | .list items => Term.listUtf8 items
  | .map fields => Term.fieldsUtf8 fields
  | _ => true

/-- Every text of the terms is UTF-8. -/
def Term.listUtf8 : List Term → Bool
  | [] => true
  | item :: items => item.utf8 && Term.listUtf8 items

/-- Every key and every text of the fields is UTF-8. -/
def Term.fieldsUtf8 : List (Binary × Term) → Bool
  | [] => true
  | (key, value) :: fields => isUtf8 key && value.utf8 && Term.fieldsUtf8 fields

end

/-- `source_atom`. -/
def sourceAtom (term : Term) : Option SourceType :=
  [SourceType.direct, .nasaCddis, .localFile, .inMemory].find? fun source => term.isText source.name

/-- `compression_atom`. -/
def compressionAtom (term : Term) : Option Compression :=
  [Compression.gzip, .none, .unixCompress].find? fun compression => term.isText compression.name

/-- `@failure_atoms`. -/
def failureAtoms : List FailureType := [
  .authenticationRequired, .authenticationFailed, .authorizationDenied, .productNotPublished,
  .retiredEndpoint, .redirectPolicyFailure, .malformedUrl, .transport, .httpClientFailure,
  .httpStatus, .invalidContentType, .errorDocument, .contentLengthMismatch, .downloadSizeExceeded,
  .decompressionFailed, .checksumMismatch, .productValidationFailed, .cacheReadFailed,
  .cacheWriteFailed, .offlineCacheMiss, .unsupportedDistribution, .unclassifiedFailure]

/-- `failure_atom`. -/
def failureAtom (term : Term) : Option FailureType :=
  failureAtoms.find? fun type => term.isText type.name

/-- `failure_to_map`. -/
def failureToMap (failure : SourceFailure) : Term :=
  let fields := [
    (ascii "source", Term.text failure.source.name),
    (ascii "error_type", .text failure.errorType.name),
    (ascii "message", failure.message),
    (ascii "url", failure.url),
    (ascii "status", failure.status)]
  match failure.detail with
  | .nil => .map fields
  | detail => .map (fields ++ [(ascii "detail", detail)])

/-- A failure of `failures_from_maps`. -/
def failureFromMap (map : Term) : Option SourceFailure := do
  return {
    source := ← sourceAtom (← map.access (ascii "source"))
    errorType := ← failureAtom (← map.access (ascii "error_type"))
    message := ← map.access (ascii "message")
    url := ← map.access (ascii "url")
    status := ← map.access (ascii "status")
    detail := ← map.access (ascii "detail") }

/-- `failures_from_maps`. -/
def failuresFromMaps : Term → Option (List SourceFailure)
  | .list maps => maps.mapM failureFromMap
  | _ => none

/-- `provenance_to_map`. -/
def provenanceToMap (provenance : Provenance) : Term :=
  .map [
    (ascii "schema_version", .count 1),
    (ascii "requested_identity", identityToMap provenance.requestedIdentity),
    (ascii "resolved_identity", identityToMap provenance.resolvedIdentity),
    (ascii "publisher", provenance.publisher),
    (ascii "distribution_source", .text provenance.distributionSource.name),
    (ascii "official_filename", provenance.officialFilename),
    (ascii "original_url", provenance.originalUrl),
    (ascii "final_url", provenance.finalUrl),
    (ascii "retrieved_at", provenance.retrievedAt),
    (ascii "byte_length", provenance.byteLength),
    (ascii "sha256", provenance.sha256),
    (ascii "etag", provenance.etag),
    (ascii "last_modified", provenance.lastModified),
    (ascii "cache_hit", provenance.cacheHit),
    (ascii "archive_compression", .text provenance.archiveCompression.name),
    (ascii "archive_byte_length", provenance.archiveByteLength),
    (ascii "archive_sha256", provenance.archiveSha256),
    (ascii "attempts", .list (provenance.attempts.map failureToMap))]

/-- `term || []`. -/
def orEmpty : Term → Term
  | .nil => .list []
  | .bool false => .list []
  | term => term

/-- `provenance_from_map`. Every error and every exception is refused alike. -/
def provenanceFromMap (map : Term) : Option Provenance := do
  let requested ← identityFromMap (← map.access (ascii "requested_identity"))
  let resolved ← identityFromMap (← map.access (ascii "resolved_identity"))
  let source ← sourceAtom (← map.access (ascii "distribution_source"))
  let compression ← compressionAtom (← map.access (ascii "archive_compression"))
  let attempts ← failuresFromMaps (orEmpty (← map.access (ascii "attempts")))
  return {
    requestedIdentity := requested
    resolvedIdentity := resolved
    publisher := ← map.access (ascii "publisher")
    distributionSource := source
    officialFilename := ← map.access (ascii "official_filename")
    originalUrl := ← map.access (ascii "original_url")
    finalUrl := ← map.access (ascii "final_url")
    retrievedAt := ← map.access (ascii "retrieved_at")
    byteLength := ← map.access (ascii "byte_length")
    sha256 := ← map.access (ascii "sha256")
    etag := ← map.access (ascii "etag")
    lastModified := ← map.access (ascii "last_modified")
    cacheHit := ← map.access (ascii "cache_hit")
    archiveCompression := compression
    archiveByteLength := ← map.access (ascii "archive_byte_length")
    archiveSha256 := ← map.access (ascii "archive_sha256")
    attempts }

section RoundTrip

namespace Date

/-- Digits are read back. -/
theorem number_digits (digits : List Nat) :
    number? (digits.map digit) = some (digits.foldl (fun n d => 10 * n + d % 10) 0) := by
  have each : ∀ d, isDigit (digit d) = true ∧ (digit d).toNat - 48 = d % 10 := by
    intro d
    have small : ∀ r < 10, isDigit (UInt8.ofNat (48 + r)) = true ∧
        (UInt8.ofNat (48 + r)).toNat - 48 = r := by decide
    exact small (d % 10) (Nat.mod_lt _ (by decide))
  have all : (digits.map digit).all isDigit = true := by
    rw [List.all_map, List.all_eq_true]
    exact fun d _ => (each d).1
  have value : Uri.ofDigits (digits.map digit) = digits.foldl (fun n d => 10 * n + d % 10) 0 := by
    rw [Uri.ofDigits, List.foldl_map]
    congr
    funext n d
    rw [(each d).2]
  rw [number?, if_pos all, value]

/-- Two digits are read back. -/
theorem number_two {n : Nat} (small : n < 100) : number? (two n) = some n := by
  have read := number_digits [n / 10, n]
  simp only [List.map_cons, List.map_nil, List.foldl_cons, List.foldl_nil] at read
  rw [two, read]
  congr
  omega

/-- Four digits are read back. -/
theorem number_four {n : Nat} (small : n < 10000) : number? (four n) = some n := by
  have read := number_digits [n / 100 / 10, n / 100, n / 10, n]
  simp only [List.map_cons, List.map_nil, List.foldl_cons, List.foldl_nil] at read
  rw [four, two, two, List.cons_append, List.cons_append, List.nil_append, read]
  congr
  omega

/-- A printed date is read back behind its sign. -/
theorem unsigned_printed (date : Date) (sign : Int) (signed : sign * date.year.natAbs = date.year) :
    unsigned? sign (four date.year.natAbs ++ 45 :: two date.month ++ 45 :: two date.day) =
      some date := by
  have year := number_four (n := date.year.natAbs) (by have := date.years; omega)
  have month := number_two (n := date.month) (by have := date.months; omega)
  have dayBound : daysInMonth date.year date.month ≤ 31 := by
    unfold daysInMonth
    split
    · split <;> omega
    · split <;> omega
  have day := number_two (n := date.day) (by have := date.days; omega)
  simp only [four, two, List.cons_append, List.nil_append] at year month day ⊢
  simp only [unsigned?, year, month, day, Option.bind_eq_bind, Option.bind_some, signed]
  rw [new?, dif_pos date.years, dif_pos date.months, dif_pos date.days]

/-- A printed date is read back. -/
theorem fromIso8601_toIso8601 (date : Date) : fromIso8601 date.toIso8601 = some date := by
  by_cases negative : date.year < 0
  · have printed := unsigned_printed date (-1) (by omega)
    rw [toIso8601, if_pos negative]
    exact printed
  · have printed := unsigned_printed date 1 (by omega)
    rw [toIso8601, if_neg negative, List.nil_append, ← printed]
    have plain : ∀ n, digit n ≠ 45 ∧ digit n ≠ 43 := by
      intro n
      have small : ∀ r < 10, UInt8.ofNat (48 + r) ≠ 45 ∧ UInt8.ofNat (48 + r) ≠ 43 := by decide
      exact small (n % 10) (Nat.mod_lt _ (by decide))
    simp only [four, two, List.cons_append, List.nil_append, fromIso8601]
    split
    · next same => exact absurd (List.cons.inj same).1 (plain _).1
    · next same => exact absurd (List.cons.inj same).1 (plain _).2
    · rfl

end Date

/-- The bytes of a text tell the text. -/
theorem ascii_inj {a b : String} : ascii a = ascii b ↔ a = b := by
  constructor
  · intro same
    have bytes : a.toByteArray = b.toByteArray := ByteArray.ext (Array.toList_inj.mp same)
    exact String.toByteArray_inj.mp bytes
  · rintro rfl
    rfl

/-- A field is looked up by its name. -/
theorem lookup_ascii {α : Type} (key name : String) (value : α) (rest : List (Binary × α)) :
    ((ascii name, value) :: rest).lookup (ascii key) =
      if key = name then some value else rest.lookup (ascii key) := by
  rw [List.lookup_cons]
  by_cases same : key = name
  · simp [same]
  · have differs : (ascii key == ascii name) = false :=
      beq_eq_false_iff_ne.mpr fun equal => same (ascii_inj.mp equal)
    simp only [differs, same, if_false]

/-- A source is read back. -/
theorem sourceAtom_name (source : SourceType) : sourceAtom (.text source.name) = some source := by
  cases source <;> rfl

/-- A compression is read back. -/
theorem compressionAtom_name (compression : Compression) :
    compressionAtom (.text compression.name) = some compression := by
  cases compression <;> rfl

/-- Every failure type is in the decoder's list. -/
theorem failureAtom_name (type : FailureType) : failureAtom (.text type.name) = some type := by
  cases type <;> rfl

/-- An optional text is read back. -/
theorem optionalText_ofOption (text : Option Binary) :
    (Term.ofOption text).optionalText? = some text := by
  cases text <;> rfl

/-- An identity is read back. -/
theorem identityFromMap_identityToMap (identity : ProductIdentity) :
    identityFromMap (identityToMap identity) = some identity := by
  have horizon : (identity.predictionHorizonDays.elim .nil Term.count).optionalNatural? =
      some identity.predictionHorizonDays := by
    cases identity.predictionHorizonDays <;> rfl
  simp [identityFromMap, identityToMap, lookup_ascii, Term.text?, Term.count, Term.natural?,
    optionalText_ofOption, horizon, Date.fromIso8601_toIso8601]

/-- A failure is read back. -/
theorem failureFromMap_failureToMap (failure : SourceFailure) :
    failureFromMap (failureToMap failure) = some failure := by
  obtain ⟨source, type, message, url, status, detail⟩ := failure
  cases detail <;>
    simp [failureFromMap, failureToMap, Term.access, lookup_ascii, sourceAtom_name,
      failureAtom_name]

/-- Failures are read back. -/
theorem failuresFromMaps_failureToMap (failures : List SourceFailure) :
    failuresFromMaps (.list (failures.map failureToMap)) = some failures := by
  rw [failuresFromMaps]
  induction failures with
  | nil => rfl
  | cons failure failures ih =>
    simp [List.mapM_cons, failureFromMap_failureToMap, ih]

/-- A provenance is read back. -/
theorem provenanceFromMap_provenanceToMap (provenance : Provenance) :
    provenanceFromMap (provenanceToMap provenance) = some provenance := by
  simp [provenanceFromMap, provenanceToMap, Term.access, lookup_ascii,
    identityFromMap_identityToMap, sourceAtom_name, compressionAtom_name, orEmpty,
    failuresFromMaps_failureToMap]

end RoundTrip

section Encoding

/-- The texts of an identity are UTF-8. -/
def ProductIdentity.utf8 (identity : ProductIdentity) : Bool :=
  [identity.family, identity.analysisCenter, identity.publisher, identity.solutionClass,
    identity.campaign, identity.span, identity.sample, identity.officialFilename,
    identity.format].all isUtf8 && identity.issue.all isUtf8 && identity.formatVersion.all isUtf8

/-- The texts of a failure are UTF-8. -/
def SourceFailure.utf8 (failure : SourceFailure) : Bool :=
  [failure.message, failure.url, failure.status, failure.detail].all Term.utf8

/-- The texts of a provenance are UTF-8. -/
def Provenance.utf8 (provenance : Provenance) : Bool :=
  provenance.requestedIdentity.utf8 && provenance.resolvedIdentity.utf8 &&
    [provenance.publisher, provenance.officialFilename, provenance.originalUrl,
      provenance.finalUrl, provenance.retrievedAt, provenance.byteLength, provenance.sha256,
      provenance.etag, provenance.lastModified, provenance.cacheHit, provenance.archiveByteLength,
      provenance.archiveSha256].all Term.utf8 && provenance.attempts.all SourceFailure.utf8

/-- The bytes of a text are UTF-8. -/
@[simp] theorem isUtf8_ascii (text : String) : isUtf8 (ascii text) = true := by
  rw [isUtf8, ByteArray.validateUTF8_eq_true_iff]
  exact text.isValidUTF8

/-- UTF-8 and UTF-8 are UTF-8. -/
theorem isUtf8_append {front back : Binary} (first : isUtf8 front = true)
    (second : isUtf8 back = true) : isUtf8 (front ++ back) = true := by
  rw [isUtf8, ByteArray.validateUTF8_eq_true_iff] at *
  have joined : (⟨(front ++ back).toArray⟩ : ByteArray) = ⟨front.toArray⟩ ++ ⟨back.toArray⟩ := by
    apply ByteArray.ext
    rw [ByteArray.data_append]
    simp
  rw [joined]
  exact first.append second

/-- ASCII is UTF-8. -/
theorem isUtf8_of_lt {bytes : Binary} (small : ∀ byte ∈ bytes, byte < 128) :
    isUtf8 bytes = true := by
  have single : ∀ byte : UInt8, byte < 128 → isUtf8 [byte] = true :=
    Uri.forall_byte (by decide +kernel)
  induction bytes with
  | nil => rfl
  | cons byte bytes ih =>
    rw [List.forall_mem_cons] at small
    exact isUtf8_append (single byte small.1) (ih small.2)

/-- A printed date is ASCII. -/
theorem isUtf8_toIso8601 (date : Date) : isUtf8 date.toIso8601 = true := by
  have digits : ∀ n, Date.digit n < 128 := by
    intro n
    have small : ∀ r < 10, UInt8.ofNat (48 + r) < 128 := by decide
    exact small (n % 10) (Nat.mod_lt _ (by decide))
  have minus : (45 : UInt8) < 128 := by decide
  apply isUtf8_of_lt
  unfold Date.toIso8601
  split
  · simp [Date.four, Date.two, digits, minus]
  · simp [Date.four, Date.two, digits, minus]

/-- The encoded identity holds the texts of the identity. -/
theorem utf8_identityToMap (identity : ProductIdentity) :
    (identityToMap identity).utf8 = identity.utf8 := by
  have horizon : (identity.predictionHorizonDays.elim .nil Term.count).utf8 = true := by
    cases identity.predictionHorizonDays <;> rfl
  have optional : ∀ text : Option Binary, (Term.ofOption text).utf8 = text.all isUtf8 := by
    intro text
    cases text <;> rfl
  simp only [identityToMap, Term.utf8, Term.fieldsUtf8, isUtf8_ascii, isUtf8_toIso8601, horizon,
    optional, Term.count, ProductIdentity.utf8, List.all_cons, List.all_nil, Bool.and_true,
    Bool.true_and]
  grind

/-- The encoded failure holds the texts of the failure. -/
theorem utf8_failureToMap (failure : SourceFailure) :
    (failureToMap failure).utf8 = failure.utf8 := by
  have source : isUtf8 failure.source.name = true := by
    cases failure.source <;> exact isUtf8_ascii _
  have type : isUtf8 failure.errorType.name = true := by
    cases failure.errorType <;> exact isUtf8_ascii _
  obtain ⟨source', type', message, url, status, detail⟩ := failure
  cases detail <;>
    simp_all [failureToMap, Term.utf8, Term.fieldsUtf8, SourceFailure.utf8]

/-- The encoded provenance holds the texts of the provenance. -/
theorem utf8_provenanceToMap (provenance : Provenance) :
    (provenanceToMap provenance).utf8 = provenance.utf8 := by
  have source : isUtf8 provenance.distributionSource.name = true := by
    cases provenance.distributionSource <;> exact isUtf8_ascii _
  have compression : isUtf8 provenance.archiveCompression.name = true := by
    cases provenance.archiveCompression <;> exact isUtf8_ascii _
  have attempts : ∀ failures : List SourceFailure,
      Term.listUtf8 (failures.map failureToMap) = failures.all SourceFailure.utf8 := by
    intro failures
    induction failures with
    | nil => rfl
    | cons failure failures ih =>
      rw [List.map_cons, Term.listUtf8, utf8_failureToMap, ih, List.all_cons]
  simp only [provenanceToMap, Term.utf8, Term.fieldsUtf8, isUtf8_ascii, utf8_identityToMap,
    source, compression, attempts, Term.count, Provenance.utf8, List.all_cons, List.all_nil,
    Bool.and_true, Bool.true_and]
  grind

end Encoding

end Sidereon.Distribution
