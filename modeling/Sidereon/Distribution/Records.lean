import Sidereon.Foundation.BeamNumber
import Sidereon.Foundation.Uri

/-!
# Records of the distribution layer

An exact product identity says what is acquired, an ordered list of sources says from where, and a
failure reason says why one of them gave nothing. A success comes with its provenance, which is kept
in the cache as JSON.
-/

namespace Sidereon.Distribution

open Foundation
open Foundation.Beam (Number)

/-- A term that JSON can hold. -/
inductive Term where
  | nil
  | bool (value : Bool)
  | number (value : Number)
  | text (bytes : Binary)
  | list (items : List Term)
  | map (fields : List (Binary × Term))

namespace Term

/-- A count. -/
def count (n : Nat) : Term := .number (.int n)

/-- A text or `nil`. -/
def ofOption : Option Binary → Term
  | none => .nil
  | some bytes => .text bytes

/-- `term[key]`, unless the term cannot be accessed by a text. -/
def access : Term → Binary → Option Term
  | .map fields, key => some ((fields.lookup key).getD .nil)
  | .nil, _ => some .nil
  | _, _ => none

/-- A text. -/
def text? : Term → Option Binary
  | .text bytes => some bytes
  | _ => none

/-- A text or `nil`. -/
def optionalText? : Term → Option (Option Binary)
  | .nil => some none
  | .text bytes => some (some bytes)
  | _ => none

/-- A non-negative integer. -/
def natural? : Term → Option Nat
  | .number (.int (.ofNat n)) => some n
  | _ => none

/-- A non-negative integer or `nil`. -/
def optionalNatural? : Term → Option (Option Nat)
  | .nil => some none
  | .number (.int (.ofNat n)) => some (some n)
  | _ => none

/-- `term == bytes`. -/
def isText (term : Term) (bytes : Binary) : Bool := term.text? == some bytes

/-- `term == n`, which does not tell `1` from `1.0`. -/
def isCount (term : Term) (n : Nat) : Bool :=
  match term with
  | .number value => value.value == n
  | _ => false

/-- A text is itself. -/
@[simp] theorem isText_text (bytes : Binary) : (text bytes).isText bytes = true := by
  simp [isText, text?]

/-- A count is itself. -/
@[simp] theorem isCount_count (n : Nat) : (count n).isCount n = true := by
  simp [isCount, count, Number.value]

end Term

/-- The days of a month. -/
def daysInMonth (year : Int) (month : Nat) : Nat :=
  if month = 2 then
    if year % 4 = 0 ∧ (year % 100 ≠ 0 ∨ year % 400 = 0) then 29 else 28
  else if month ∈ [4, 6, 9, 11] then 30 else 31

/-- A date of the ISO calendar. -/
structure Date where
  year : Int
  month : Nat
  day : Nat
  years : -9999 ≤ year ∧ year ≤ 9999
  months : 1 ≤ month ∧ month ≤ 12
  days : 1 ≤ day ∧ day ≤ daysInMonth year month
  deriving DecidableEq

namespace Date

/-- `Date.new`. -/
def new? (year : Int) (month day : Nat) : Option Date :=
  if years : -9999 ≤ year ∧ year ≤ 9999 then
    if months : 1 ≤ month ∧ month ≤ 12 then
      if days : 1 ≤ day ∧ day ≤ daysInMonth year month then
        some ⟨year, month, day, years, months, days⟩
      else none
    else none
  else none

/-- A digit of a number. -/
def digit (n : Nat) : UInt8 := UInt8.ofNat (48 + n % 10)

/-- Two digits. -/
def two (n : Nat) : Binary := [digit (n / 10), digit n]

/-- Four digits. -/
def four (n : Nat) : Binary := two (n / 100) ++ two n

/-- `Date.to_iso8601`. -/
def toIso8601 (date : Date) : Binary :=
  (if date.year < 0 then [45] else []) ++ four date.year.natAbs ++ 45 :: two date.month ++
    45 :: two date.day

/-- The value of digits, when they are. -/
def number? (digits : Binary) : Option Nat :=
  if digits.all isDigit then some (Uri.ofDigits digits) else none

/-- A date without its sign. -/
def unsigned? (sign : Int) : Binary → Option Date
  | [y₁, y₂, y₃, y₄, 45, m₁, m₂, 45, d₁, d₂] => do
    let year ← number? [y₁, y₂, y₃, y₄]
    let month ← number? [m₁, m₂]
    let day ← number? [d₁, d₂]
    new? (sign * year) month day
  | _ => none

/-- `Date.from_iso8601`. -/
def fromIso8601 (text : Binary) : Option Date :=
  match text with
  | 45 :: rest => unsigned? (-1) rest
  | 43 :: rest => unsigned? 1 rest
  | _ => unsigned? 1 text

end Date

/-- `ProductIdentity`. -/
structure ProductIdentity where
  family : Binary
  analysisCenter : Binary
  publisher : Binary
  solutionClass : Binary
  campaign : Binary
  filenameVersion : Nat
  date : Date
  issue : Option Binary
  span : Binary
  sample : Binary
  officialFilename : Binary
  format : Binary
  formatVersion : Option Binary
  predictionHorizonDays : Option Nat
  deriving DecidableEq

/-- `Source.source_type`. -/
inductive SourceType where
  | direct
  | nasaCddis
  | localFile
  | inMemory
  deriving DecidableEq, Repr

/-- The atom of a source type. -/
def SourceType.name : SourceType → Binary
  | .direct => ascii "direct"
  | .nasaCddis => ascii "nasa_cddis"
  | .localFile => ascii "local_file"
  | .inMemory => ascii "in_memory"

/-- The compression of an archive. -/
inductive Compression where
  | none
  | gzip
  | unixCompress
  deriving DecidableEq, Repr

/-- The atom of a compression. -/
def Compression.name : Compression → Binary
  | .none => ascii "none"
  | .gzip => ascii "gzip"
  | .unixCompress => ascii "unix_compress"

/-- `Source`. A compression that is left open is `:auto`. -/
structure Source where
  type : SourceType
  path : Option Binary := none
  content : Option Binary := none
  compression : Option Compression := none
  deriving DecidableEq

/-- What a caller may put in a source list: a source, or the atom of one. -/
inductive SourceInput where
  | source (source : Source)
  | direct
  | nasaCddis
  | other (inspected : Binary)

/-- `Request`. -/
structure Request where
  identity : ProductIdentity
  sources : List SourceInput

/-- `EarthdataAuth`. -/
structure EarthdataAuth where
  bearerToken : Option Binary := none
  netrcPath : Option Binary := none
  useNetrc : Bool := false

/-- The error types of recorded failures. -/
inductive FailureType where
  | authenticationRequired
  | authenticationFailed
  | authorizationDenied
  | productNotPublished
  | retiredEndpoint
  | redirectPolicyFailure
  | malformedUrl
  | transport
  | httpClientFailure
  | httpStatus
  | invalidContentType
  | errorDocument
  | contentLengthMismatch
  | downloadSizeExceeded
  | decompressionFailed
  | checksumMismatch
  | productValidationFailed
  | cacheReadFailed
  | cacheWriteFailed
  | offlineCacheMiss
  | unsupportedDistribution
  | unclassifiedFailure
  deriving DecidableEq, Repr

/-- The atom of a failure type. -/
def FailureType.name : FailureType → Binary
  | .authenticationRequired => ascii "authentication_required"
  | .authenticationFailed => ascii "authentication_failed"
  | .authorizationDenied => ascii "authorization_denied"
  | .productNotPublished => ascii "product_not_published"
  | .retiredEndpoint => ascii "retired_endpoint"
  | .redirectPolicyFailure => ascii "redirect_policy_failure"
  | .malformedUrl => ascii "malformed_url"
  | .transport => ascii "transport"
  | .httpClientFailure => ascii "http_client_failure"
  | .httpStatus => ascii "http_status"
  | .invalidContentType => ascii "invalid_content_type"
  | .errorDocument => ascii "error_document"
  | .contentLengthMismatch => ascii "content_length_mismatch"
  | .downloadSizeExceeded => ascii "download_size_exceeded"
  | .decompressionFailed => ascii "decompression_failed"
  | .checksumMismatch => ascii "checksum_mismatch"
  | .productValidationFailed => ascii "product_validation_failed"
  | .cacheReadFailed => ascii "cache_read_failed"
  | .cacheWriteFailed => ascii "cache_write_failed"
  | .offlineCacheMiss => ascii "offline_cache_miss"
  | .unsupportedDistribution => ascii "unsupported_distribution"
  | .unclassifiedFailure => ascii "unclassified_failure"

/-- `SourceFailure`. -/
structure SourceFailure where
  source : SourceType
  errorType : FailureType
  message : Term
  url : Term
  status : Term
  detail : Term

/-- `Provenance`. -/
structure Provenance where
  requestedIdentity : ProductIdentity
  resolvedIdentity : ProductIdentity
  publisher : Term
  distributionSource : SourceType
  officialFilename : Term
  originalUrl : Term
  finalUrl : Term
  retrievedAt : Term
  byteLength : Term
  sha256 : Term
  etag : Term
  lastModified : Term
  cacheHit : Term
  archiveCompression : Compression
  archiveByteLength : Term
  archiveSha256 : Term
  attempts : List SourceFailure

/-- `Result`. -/
structure Result where
  path : Binary
  provenance : Provenance

/-- The reasons that carry a response status. -/
inductive ResponseFailure where
  | authenticationRequired
  | authenticationFailed
  | authorizationDenied
  | productNotPublished
  | retiredEndpoint
  | redirectPolicyFailure
  | httpStatus
  deriving DecidableEq, Repr

/-- The failure type of a response failure. -/
def ResponseFailure.type : ResponseFailure → FailureType
  | .authenticationRequired => .authenticationRequired
  | .authenticationFailed => .authenticationFailed
  | .authorizationDenied => .authorizationDenied
  | .productNotPublished => .productNotPublished
  | .retiredEndpoint => .retiredEndpoint
  | .redirectPolicyFailure => .redirectPolicyFailure
  | .httpStatus => .httpStatus

/-- The kinds of `:transport`. -/
inductive TransportKind where
  | timeout
  | connection
  | other
  deriving DecidableEq, Repr

/-- The atom of a transport kind. -/
def TransportKind.name : TransportKind → Binary
  | .timeout => ascii "timeout"
  | .connection => ascii "connection"
  | .other => ascii "other"

/-- The kinds of `:http_client_failure`. -/
inductive ClientFailure where
  | raised
  | thrown
  | exited
  | reportedFailure
  | invalidResponse
  | invalidOption
  deriving DecidableEq, Repr

/-- The atom of a client failure. -/
def ClientFailure.name : ClientFailure → Binary
  | .raised => ascii "raised"
  | .thrown => ascii "thrown"
  | .exited => ascii "exited"
  | .reportedFailure => ascii "reported_failure"
  | .invalidResponse => ascii "invalid_response"
  | .invalidOption => ascii "invalid_option"

/-- The details of `:cache_write_failed`. -/
inductive WriteDetail where
  | lockTimeout (name : Binary)
  | lock (reason : Binary)
  | publish (reason : Binary)
  | invalidLockTimeout
  deriving DecidableEq, Repr

/-- `error_reason`, with the errors of the catalog last. Details that nothing inspects are texts. -/
inductive Reason where
  | offlineCacheMiss
  | invalidOption (option : Binary)
  | unsupportedDistribution (source detail : Binary)
  | response (type : ResponseFailure) (status : Int) (url : Binary)
  | malformedUrl (url : Binary)
  | transport (kind : TransportKind) (url : Binary)
  | httpClientFailure (kind : ClientFailure) (url : Binary)
  | invalidContentType (type url : Binary)
  | errorDocument (url : Binary)
  | contentLengthMismatch (expected : Option Int) (got : Nat) (url : Binary)
  | downloadSizeExceeded (limit : Int)
  | decompressionFailed (detail : Binary)
  | checksumMismatch (expected got : Binary)
  | productValidationFailed (detail : Binary)
  | cacheReadFailed (detail : Binary)
  | cacheWriteFailed (detail : WriteDetail)
  | allDistributorsFailed (attempts : List SourceFailure)
  | unknownCenter (code : Binary)
  | unsupportedProduct (detail : Binary)
  | catalog (inspected : Binary)

/-- `retryable?`. -/
def retryable : Reason → Bool
  | .transport _ _ => true
  | .response .httpStatus status _ =>
    status == 408 || status == 429 || (500 ≤ status && status ≤ 599)
  | _ => false

/-- An integer in decimal. -/
def integerText (n : Int) : Binary :=
  if n < 0 then 45 :: decimal n.natAbs else decimal n.natAbs

/-- `failure_fields`, over any `inspect`. -/
def failureFields (inspect : Reason → Binary) (reason : Reason) :
    FailureType × Term × Term × Term :=
  match reason with
  | .response type status url =>
    if type = .httpStatus ∧ ¬ (100 ≤ status ∧ status ≤ 599) then
      (.transport, .text (ascii "transport:http_" ++ integerText status), .text url, .nil)
    else (type.type, .text type.type.name, .text url, .number (.int status))
  | .transport kind url => (.transport, .text (ascii "transport:" ++ kind.name), .text url, .nil)
  | .httpClientFailure kind url =>
    (.httpClientFailure, .text (ascii "http_client_failure:" ++ kind.name), .text url, .nil)
  | .malformedUrl url => (.malformedUrl, .text (ascii "malformed_url"), .text url, .nil)
  | .checksumMismatch _ _ =>
    (.checksumMismatch, .text FailureType.checksumMismatch.name, .nil, .nil)
  | .unsupportedDistribution _ _ =>
    (.unsupportedDistribution, .text FailureType.unsupportedDistribution.name, .nil, .nil)
  | .contentLengthMismatch _ _ url =>
    (.contentLengthMismatch, .text FailureType.contentLengthMismatch.name, .text url, .nil)
  | .invalidContentType _ url =>
    (.invalidContentType, .text FailureType.invalidContentType.name, .text url, .nil)
  | .errorDocument url => (.errorDocument, .text FailureType.errorDocument.name, .text url, .nil)
  | .downloadSizeExceeded _ =>
    (.downloadSizeExceeded, .text FailureType.downloadSizeExceeded.name, .nil, .nil)
  | .decompressionFailed _ =>
    (.decompressionFailed, .text FailureType.decompressionFailed.name, .nil, .nil)
  | .productValidationFailed _ =>
    (.productValidationFailed, .text FailureType.productValidationFailed.name, .nil, .nil)
  | .cacheReadFailed _ => (.cacheReadFailed, .text FailureType.cacheReadFailed.name, .nil, .nil)
  | .cacheWriteFailed _ => (.cacheWriteFailed, .text FailureType.cacheWriteFailed.name, .nil, .nil)
  | .offlineCacheMiss => (.offlineCacheMiss, .text (ascii "offline_cache_miss"), .nil, .nil)
  | .invalidOption _ | .allDistributorsFailed _ | .unknownCenter _ | .unsupportedProduct _
  | .catalog _ =>
    (.unclassifiedFailure, .text (inspect reason), .nil, .nil)

/-- `source_failure`. -/
def sourceFailure (inspect : Reason → Binary) (source : SourceType) (reason : Reason) :
    SourceFailure :=
  let (type, message, url, status) := failureFields inspect reason
  { source
    errorType := type
    message
    url
    status
    detail := if type = .unclassifiedFailure then .text (inspect reason) else .nil }

end Sidereon.Distribution
