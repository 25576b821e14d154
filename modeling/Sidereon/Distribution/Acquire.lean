import Sidereon.Distribution.Http
import Sidereon.Distribution.Provenance

/-!
# Acquisition of an exact product

The sources of a request are tried in order, each under the lock of its cache slot. A valid cache
entry is a hit. Otherwise the source is read, decompressed and validated, and what it gave is
committed with its provenance.
-/

namespace Sidereon.Distribution

open Foundation

section Identity

variable (library : Library)

/-- `ExactCache.identity_fields`. -/
def identityFields (identity : ProductIdentity) : List Binary := [
  identity.family, identity.analysisCenter, identity.publisher, identity.solutionClass,
  identity.campaign, decimal identity.filenameVersion, integerText identity.date.year,
  decimal identity.date.month, decimal identity.date.day, identity.issue.getD [], identity.span,
  identity.sample, identity.officialFilename, identity.format, identity.formatVersion.getD [],
  identity.predictionHorizonDays.elim [] decimal]

/-- `identity_key`. -/
def identityKey (identity : ProductIdentity) : Binary :=
  let payload := [0].intercalate [
    identity.family, identity.analysisCenter, identity.publisher, identity.solutionClass,
    identity.campaign, decimal identity.filenameVersion, identity.date.toIso8601,
    identity.issue.getD [], identity.span, identity.sample, identity.officialFilename,
    identity.format, identity.formatVersion.getD [],
    identity.predictionHorizonDays.elim [] decimal]
  library.downcase identity.publisher ++ ascii "-" ++ identity.solutionClass ++ ascii "-" ++
    (library.sha256 payload).take 20

/-- `Path.join`. -/
def joinPath (root : Binary) (parts : List Binary) : Binary :=
  [47].intercalate ((root.reverse.dropWhile (· == 47)).reverse :: parts)

/-- `Path.basename`. -/
def basename (path : Binary) : Binary := (path.reverse.takeWhile (· != 47)).reverse

/-- `cache_path`. -/
def cachePath (identity : ProductIdentity) (source : SourceType) (opts : Options) : Binary :=
  joinPath opts.cacheDir [ascii "products", ascii "v1", source.name, identity.family,
    identityKey library identity, identity.officialFilename]

/-- The cache slot of an identity and a source. -/
def slotOf (identity : ProductIdentity) (opts : Options) (source : SourceType) : Slot where
  path := cachePath library identity source opts
  fields := identityFields identity
  source

/-- `validate_filename`. -/
def validateFilename (filename : Binary) : Except Reason Unit :=
  if filename ∉ [[], ascii ".", ascii ".."] ∧ 47 ∉ filename ∧ 0 ∉ filename ∧ 92 ∉ filename ∧
      ¬ ascii ".." <:+: filename then .ok ()
  else .error (.malformedUrl (ascii "invalid official filename"))

/-- `validate_core_identity`. -/
def validateCoreIdentity (identity : ProductIdentity) : Except Reason Unit := do
  validateFilename identity.officialFilename
  match library.validateExactProductSet (identityFields identity) with
  | .ok () => .ok ()
  | .error (.unknownCenter code) => .error (.unknownCenter code)
  | .error (.unsupportedProduct combination) =>
    if combination = identity.analysisCenter ++ ascii "/" ++ identity.family then
      .error (.unsupportedProduct combination)
    else .error (.productValidationFailed (ascii "requested_identity"))
  | .error .other => .error (.productValidationFailed (ascii "requested_identity"))

/-- `validate_request_identity`. -/
def validateRequestIdentity (identity : ProductIdentity) : Except Reason Unit :=
  if identity.family ∈ [ascii "sp3", ascii "ionex"] then validateCoreIdentity library identity
  else .error (.unsupportedProduct identity.family)

/-- `location` of a network source. -/
def location (identity : ProductIdentity) (source : SourceType) : Except Reason Location := do
  validateCoreIdentity library identity
  match library.distributionLocation (identityFields identity) source with
  | .ok location => .ok location
  | .error inspected => .error (.catalog inspected)

end Identity

section Options

/-- `validate_positive_byte_limit`. -/
def validatePositiveByteLimit (value : Option Int) (option : Binary) : Except Reason Unit :=
  if value.any fun value => 0 < value then .ok () else .error (.invalidOption option)

/-- `validate_size_limits`. -/
def validateSizeLimits (opts : Options) : Except Reason Unit := do
  validatePositiveByteLimit opts.maxArchiveBytes (ascii "max_archive_bytes")
  validatePositiveByteLimit opts.maxProductBytes (ascii "max_product_bytes")

/-- `validate_cache_lock_timeout`. -/
def validateCacheLockTimeout (opts : Options) : Except Reason Unit :=
  if opts.cacheLockTimeoutMs.any fun value => 0 ≤ value then .ok ()
  else .error (.cacheWriteFailed .invalidLockTimeout)

/-- `normalize_source`. -/
def normalizeSource : SourceInput → Except Reason Source
  | .source source =>
    let valid : Bool :=
      match source.type with
      | .direct => source.path.isNone && source.content.isNone && source.compression.isNone
      | .nasaCddis =>
        source.path.isNone && source.content.isNone && source.compression == some .gzip
      | .localFile => (source.path.any fun path => path ≠ []) && source.content.isNone
      | .inMemory => source.path.isNone && source.content.isSome
    if valid then .ok source
    else .error (.unsupportedDistribution source.type.name (ascii "source input is invalid"))
  | .direct => .ok { type := .direct }
  | .nasaCddis => .ok { type := .nasaCddis, compression := some .gzip }
  | .other inspected => .error (.unsupportedDistribution inspected (ascii "unknown source"))

/-- `normalize_sources`. -/
def normalizeSources (sources : List SourceInput) : Except Reason (List Source) :=
  sources.mapM normalizeSource

end Options

section Content

variable (library : Library)

/-- `verify_checksum`. -/
def verifyChecksum (bytes : Binary) : Pin → Except Reason Unit
  | .absent => .ok ()
  | .digest text =>
    let expected := library.downcase text
    let got := library.sha256 bytes
    if got = expected then .ok () else .error (.checksumMismatch expected got)
  | .other inspected => .error (.checksumMismatch inspected [])

/-- `sp3_version`. -/
def sp3Version : Binary → Except Reason Binary
  | 35 :: version :: _ =>
    if version ∈ ascii "aAbBcCdD" then .ok [lower version]
    else .error (.productValidationFailed (ascii "sp3_version"))
  | _ => .error (.productValidationFailed (ascii "sp3_version"))

/-- `validate_requested_format_version`. -/
def validateRequestedFormatVersion (requested : Option Binary) (resolved : Binary) :
    Except Reason Unit :=
  if requested.all fun version => version = resolved then .ok ()
  else .error (.productValidationFailed (ascii "format_version"))

/-- A parser's error as a reason. -/
def validated {α : Type} : Except Binary α → Except Reason α
  | .ok value => .ok value
  | .error detail => .error (.productValidationFailed detail)

/-- `validate_product`: the identity with the format version of the content. -/
def validateProduct (identity : ProductIdentity) (bytes : Binary) :
    Except Reason ProductIdentity := do
  if identity.family = ascii "sp3" then
    validated (library.parseSp3 identity bytes)
    let resolved := ascii "SP3-" ++ (← sp3Version bytes)
    validateRequestedFormatVersion identity.formatVersion resolved
    return { identity with formatVersion := some resolved }
  else if identity.family = ascii "ionex" then
    let resolved := ascii "IONEX-" ++ (← validated (library.readIonex identity bytes))
    validateRequestedFormatVersion identity.formatVersion resolved
    return { identity with formatVersion := some resolved }
  else .error (.unsupportedDistribution (ascii "validation") identity.family)

/-- `resolve_compression`. -/
def resolveCompression (compression : Option Compression) (bytes : Binary) : Compression :=
  match compression, bytes with
  | some compression, _ => compression
  | none, 31 :: 139 :: _ => .gzip
  | none, 31 :: 157 :: _ => .unixCompress
  | none, _ => .none

/-- `source_compression`. -/
def sourceCompression (source : Source) (fetched : Fetched) : Option Compression :=
  if source.type ∈ [.direct, .nasaCddis] then fetched.compression.or source.compression
  else source.compression

/-- `decompress`. -/
def decompress (bytes : Binary) (compression : Compression) (limit : Int) :
    Except Reason Binary :=
  match library.decompress bytes compression limit with
  | .ok content => .ok content
  | .error detail => .error (.decompressionFailed detail)

/-- `provenance`. -/
def provenance (identity resolved : ProductIdentity) (source : SourceType) (fetched : Fetched)
    (compression : Compression) (content : Binary) (attempts : List SourceFailure)
    (retrievedAt : Binary) : Provenance where
  requestedIdentity := identity
  resolvedIdentity := resolved
  publisher := .text identity.publisher
  distributionSource := source
  officialFilename := .text identity.officialFilename
  originalUrl := .ofOption fetched.originalUrl
  finalUrl := .ofOption fetched.finalUrl
  retrievedAt := .text retrievedAt
  byteLength := .count content.length
  sha256 := .text (library.sha256 content)
  etag := .ofOption (headerValue library fetched.headers (ascii "etag"))
  lastModified := .ofOption (headerValue library fetched.headers (ascii "last-modified"))
  cacheHit := .bool false
  archiveCompression := compression
  archiveByteLength := .count fetched.archive.length
  archiveSha256 := .text (library.sha256 fetched.archive)
  attempts := attempts.reverse

end Content

section Cache

variable (library : Library)

/-- `commit_cache`. -/
def commitCache (slot : Slot) (content archive : Binary) (provenance : Provenance) :
    Action (Except Reason Binary) := do
  let json ← Program.orCrash .encode (library.encode (provenanceToMap provenance))
  match ← call (.publish slot content archive json) with
  | .ok files => return .ok files.product
  | .error reason => return .error (.cacheWriteFailed (.publish reason))

/-- What `cache_files` finds. -/
inductive FoundFiles where
  | miss
  | files (files : CacheFiles) (legacy : Bool)
  | error

/-- `cache_files`. -/
def cacheFiles (slot : Slot) : Action FoundFiles := do
  match ← call (.readCache slot) with
  | .files files => return .files files false
  | .miss =>
    if ← call (.fileExists slot.path) then
      return .files {
        product := slot.path
        archive := slot.path ++ ascii ".archive"
        provenance := slot.path ++ ascii ".provenance.json"
        productBytes := none
        archiveBytes := none
        provenanceBytes := none } true
    else return .miss
  | .error _ => return .error

/-- `cache_content` and `cache_provenance`. -/
def cacheContent (bytes : Option Binary) (path : Binary) : Action (Option Binary) :=
  match bytes with
  | some bytes => return some bytes
  | none => call (.readFile path)

/-- Why an entry is no hit: a reason that `load_cache` keeps, or any other. -/
abbrev Unusable := Option Reason

/-- The checks of `load_cache` on what it has read. -/
def checkEntry (identity : ProductIdentity) (source : SourceType) (pin : Pin)
    (content archive json : Binary) : Except Unusable Provenance :=
  match (library.decode json).bind provenanceFromMap with
  | none => .error none
  | some provenance =>
    if provenance.requestedIdentity = identity ∧ provenance.distributionSource = source ∧
        provenance.sha256.isText (library.sha256 content) ∧
        provenance.byteLength.isCount content.length ∧
        provenance.archiveSha256.isText (library.sha256 archive) ∧
        provenance.archiveByteLength.isCount archive.length then
      match verifyChecksum library content pin with
      | .error reason => .error (some reason)
      | .ok () =>
        match validateProduct library identity content with
        | .error _ => .error none
        | .ok resolved =>
          if resolved = provenance.resolvedIdentity then .ok provenance else .error none
    else .error none

/-- `maybe_migrate_cache`. -/
def maybeMigrateCache (slot : Slot) (content archive : Binary) (provenance : Provenance)
    (files : CacheFiles) (legacy : Bool) : Action (Except Reason Binary) :=
  if legacy then commitCache library slot content archive provenance
  else return .ok files.product

/-- What `load_cache` finds. -/
inductive Loaded where
  | hit (result : Result)
  | miss
  | error (reason : Reason)

/-- The files of an entry, read one after the other and checked. -/
def readEntry (identity : ProductIdentity) (slot : Slot) (attempts : List SourceFailure)
    (opts : Options) (files : CacheFiles) (legacy : Bool) : Action (Except Unusable Result) := do
  match ← cacheContent files.productBytes files.product with
  | none => return .error none
  | some content =>
    match ← cacheContent files.archiveBytes files.archive with
    | none => return .error none
    | some archive =>
      match ← cacheContent files.provenanceBytes files.provenance with
      | none => return .error none
      | some json =>
        match checkEntry library identity slot.source opts.sha256 content archive json with
        | .error unusable => return .error unusable
        | .ok provenance =>
          match ← maybeMigrateCache library slot content archive provenance files legacy with
          | .error reason => return .error (some reason)
          | .ok path =>
            return .ok {
              path
              provenance :=
                { provenance with cacheHit := .bool true, attempts := attempts.reverse } }

/-- `load_cache`. -/
def loadCache (identity : ProductIdentity) (slot : Slot) (attempts : List SourceFailure)
    (opts : Options) : Action Loaded := do
  match ← cacheFiles slot with
  | .miss => return .miss
  | .error => return .error (.cacheReadFailed (basename slot.path))
  | .files files legacy =>
    match ← readEntry library identity slot attempts opts files legacy with
    | .ok result => return .hit result
    | .error (some reason) => return .error reason
    | .error none => return .error (.cacheReadFailed (basename slot.path))

end Cache

section Sources

variable (library : Library)

/-- A resolved URL and the compression of its archive. -/
structure DirectLocation where
  url : Binary
  compression : Option Compression

/-- `local_fetch`. -/
def localFetch (bytes : Binary) : Fetched :=
  { archive := bytes, originalUrl := none, finalUrl := none, headers := [], compression := none }

/-- The location of a network source in the catalog. -/
def catalogLocation (identity : ProductIdentity) (source : SourceType) :
    Except Reason DirectLocation := do
  let location ← location library identity source
  match location.originalUrl with
  | some url => return { url, compression := some location.compression }
  | none => .error (.unsupportedDistribution source.name identity.family)

/-- `direct_location`. -/
def directLocation (identity : ProductIdentity) (given : Option DirectLocation) :
    Except Reason DirectLocation :=
  match given with
  | some location => .ok location
  | none => catalogLocation library identity .direct

/-- A download from a resolved location. -/
def downloadFrom (source : SourceType) (opts : Options) :
    Except Reason DirectLocation → Action (Except Reason Fetched)
  | .error reason => return .error reason
  | .ok location => do
    match ← download library location.url source opts.earthdataAuth opts with
    | .error reason => return .error reason
    | .ok fetched => return .ok { fetched with compression := location.compression }

/-- `read_source`. -/
def readSource (identity : ProductIdentity) (source : Source) (opts : Options)
    (given : Option DirectLocation) : Action (Except Reason Fetched) :=
  match source.type with
  | .direct => downloadFrom library .direct opts (directLocation library identity given)
  | .nasaCddis => downloadFrom library .nasaCddis opts (catalogLocation library identity .nasaCddis)
  | .localFile =>
    match source.path with
    | some path => do
      match ← call (.readLocal path (archiveLimit opts)) with
      | .bytes bytes => return .ok (localFetch bytes)
      | .sizeExceeded limit => return .error (.downloadSizeExceeded limit)
      | .failed => return .error (.cacheReadFailed (ascii "local_file"))
    | none =>
      return .error (.unsupportedDistribution source.type.name (ascii "source input is invalid"))
  | .inMemory =>
    match source.content with
    | some bytes => return .ok (localFetch bytes)
    | none =>
      return .error (.unsupportedDistribution source.type.name (ascii "source input is invalid"))

/-- The checks of `acquire_source` on what it has read: the compression, the content and the
resolved identity. -/
def checkFetched (identity : ProductIdentity) (source : Source) (opts : Options)
    (fetched : Fetched) : Except Reason (Compression × Binary × ProductIdentity) := do
  enforceSize fetched.archive (archiveLimit opts)
  let compression := resolveCompression (sourceCompression source fetched) fetched.archive
  let content ← decompress library fetched.archive compression (productLimit opts)
  verifyChecksum library content opts.sha256
  let resolved ← validateProduct library identity content
  return (compression, content, resolved)

/-- `acquire_source`. -/
def acquireSource (identity : ProductIdentity) (source : Source) (slot : Slot)
    (attempts : List SourceFailure) (opts : Options) (given : Option DirectLocation) :
    Action (Except Reason Result) := do
  match ← readSource library identity source opts given with
  | .error reason => return .error reason
  | .ok fetched =>
    match checkFetched library identity source opts fetched with
    | .error reason => return .error reason
    | .ok (compression, content, resolved) =>
      let retrievedAt ← call .utcNow
      let provenance := provenance library identity resolved source.type fetched compression
        content attempts retrievedAt
      match ← commitCache library slot content fetched.archive provenance with
      | .error reason => return .error reason
      | .ok path => return .ok { path, provenance }

/-- A network source. -/
def SourceType.isNetwork : SourceType → Bool
  | .direct | .nasaCddis => true
  | .localFile | .inMemory => false

/-- `acquire_after_cache_miss`. -/
def acquireAfterCacheMiss (identity : ProductIdentity) (source : Source) (slot : Slot)
    (attempts : List SourceFailure) (opts : Options) (cacheError : Option Reason)
    (given : Option DirectLocation) : Action (Except Reason Result) :=
  if source.type.isNetwork && opts.offline then
    return .error (cacheError.getD .offlineCacheMiss)
  else do
    match ← acquireSource library identity source slot attempts opts given with
    | .ok result => return .ok result
    | .error reason => return .error (cacheError.getD reason)

/-- `acquire_locked`. -/
def acquireLocked (identity : ProductIdentity) (source : Source) (slot : Slot)
    (attempts : List SourceFailure) (opts : Options) (given : Option DirectLocation) :
    Action (Except Reason Result) := do
  match ← loadCache library identity slot attempts opts with
  | .hit result => return .ok result
  | .miss => acquireAfterCacheMiss library identity source slot attempts opts none given
  | .error (.cacheWriteFailed detail) => return .error (.cacheWriteFailed detail)
  | .error cacheError =>
    acquireAfterCacheMiss library identity source slot attempts opts (some cacheError) given

/-- `ExactCache.with_lock`. -/
def withLock {α : Type} (slot : Slot) (timeoutMs : Option Int)
    (operation : Action (Except Reason α)) : Action (Except Reason α) := do
  match ← call (.openCache slot timeoutMs) with
  | .ok () => operation.afterwards (call (.closeCache slot))
  | .error reason =>
    let detail :=
      if ascii "timed out" <:+: reason then WriteDetail.lockTimeout (basename slot.path)
      else .lock reason
    return .error (.cacheWriteFailed detail)

/-- `ExactCache.cleanup_abandoned`, which must succeed. -/
def cleanupAbandoned (slot : Slot) : Action Unit := do
  match ← call (.cleanupCache slot) with
  | .ok () => return ()
  | .error _ => Program.crash .cleanup

/-- What `do_acquire` does with one source. -/
def contact (identity : ProductIdentity) (opts : Options) (given : Option DirectLocation)
    (source : Source) (attempts : List SourceFailure) : Action (Except Reason Result) :=
  let slot := slotOf library identity opts source.type
  withLock slot opts.cacheLockTimeoutMs do
    cleanupAbandoned slot
    acquireLocked library identity source slot attempts opts given

end Sources

section Fallback

variable (library : Library)

/-- The kinds of failures after which the next source is tried. -/
inductive FallbackKind where
  | absence
  | availability
  deriving DecidableEq, Repr

/-- `distributor_fallback_kind`. -/
def distributorFallbackKind (reason : Reason) : Option FallbackKind :=
  match reason with
  | .offlineCacheMiss => some .absence
  | .response .productNotPublished 404 _ => some .absence
  | .response .retiredEndpoint 410 _ => some .absence
  | reason => if retryable reason then some .availability else none

/-- What `do_acquire` keeps while it tries the sources. -/
structure Progress where
  attempts : List SourceFailure := []
  lastError : Option Reason := none
  firstAvailabilityError : Option Reason := none

/-- `finish_acquisition` of sources that all failed. -/
def finishAcquisition (progress : Progress) : Reason :=
  match progress.firstAvailabilityError, progress.attempts, progress.lastError with
  | some reason, _, _ => reason
  | none, [_], some reason => reason
  | none, attempts, _ => .allDistributorsFailed attempts.reverse

/-- A failed source. -/
def Progress.fail (progress : Progress) (source : Source) (reason : Reason) (kind : FallbackKind) :
    Progress where
  attempts := sourceFailure library.inspect source.type reason :: progress.attempts
  lastError := some reason
  firstAvailabilityError :=
    if kind = .availability ∧ progress.firstAvailabilityError.isNone then some reason
    else progress.firstAvailabilityError

/-- `do_acquire` from a source on. -/
def doAcquire (identity : ProductIdentity) (opts : Options) (given : Option DirectLocation) :
    List Source → Progress → Action (Except Reason Result)
  | [], progress => return .error (finishAcquisition progress)
  | source :: rest, progress => do
    match ← contact library identity opts given source progress.attempts with
    | .ok success => return .ok success
    | .error reason =>
      match distributorFallbackKind reason with
      | none => return .error reason
      | some kind => doAcquire identity opts given rest (progress.fail library source reason kind)

/-- The checks of `acquire` before any source is contacted. -/
def checkRequest (request : Request) (opts : Options) : Except Reason (List Source) := do
  validateRequestIdentity library request.identity
  validateSizeLimits opts
  validateCacheLockTimeout opts
  let sources ← normalizeSources request.sources
  if sources ≠ [] then return sources
  else .error (.unsupportedDistribution (ascii "none") (ascii "source list is empty"))

/-- `acquire`. -/
def acquire (request : Request) (opts : Options) : Action (Except Reason Result) :=
  match checkRequest library request opts with
  | .error reason => return .error reason
  | .ok sources => doAcquire library request.identity opts none sources {}

end Fallback

end Sidereon.Distribution
