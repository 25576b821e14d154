import Sidereon.Distribution.Records
import Sidereon.Foundation.Program

/-!
# What acquisition asks of its surroundings

Acquisition calls the exact cache, the file system, an HTTP client, an FTP client and the clock. Its
options say how, and the functions of other libraries and of the native core that it uses are
arbitrary ones.
-/

namespace Sidereon.Distribution

open Foundation

/-- Where an exact product is cached: the path, the identity fields and the source. -/
structure Slot where
  path : Binary
  fields : List Binary
  source : SourceType
  deriving DecidableEq

/-- The files of a cache entry, with the bytes that were read of them. -/
structure CacheFiles where
  product : Binary
  archive : Binary
  provenance : Binary
  productBytes : Option Binary
  archiveBytes : Option Binary
  provenanceBytes : Option Binary
  deriving DecidableEq

/-- What the exact cache has for a slot. -/
inductive CacheRead where
  | miss
  | files (files : CacheFiles)
  | error (reason : Binary)

/-- Response headers: each name with its values. -/
abbrev Headers := List (Binary × List Binary)

/-- A request header. -/
abbrev Header := Binary × Binary

/-- What keeps a client from a response. -/
inductive NetworkReason where
  | timeout
  | econnrefused
  | nxdomain
  | other
  deriving DecidableEq, Repr

/-- What a custom HTTP client does. A body that is no iodata is absent, and a reported reason is a
`Req.TransportError` or a bare term. -/
inductive CustomAnswer where
  | response (status : Int) (headers : Headers) (body : Option Binary)
  | failed (transportError : Bool) (reason : NetworkReason)
  | invalid
  | raised
  | thrown
  | exited

/-- What `Req` does, with whether the body was cut off at the limit. -/
inductive ReqAnswer where
  | response (status : Int) (headers : Headers) (body : Binary) (overflow : Bool)
  | failed (reason : NetworkReason)
  | raised

/-- What `Data.ftp_fetch` does. -/
inductive FtpAnswer where
  | fetched (archive : Binary)
  | notFound
  | sizeExceeded (limit : Int)
  | ehost
  | etimedout
  | network
  | other

/-- What `ArchiveIngress.read_file` does. -/
inductive LocalRead where
  | bytes (bytes : Binary)
  | sizeExceeded (limit : Int)
  | failed

/-- The calls of an acquisition. -/
inductive Call where
  | openCache (slot : Slot) (timeoutMs : Option Int)
  | cleanupCache (slot : Slot)
  | readCache (slot : Slot)
  | publish (slot : Slot) (content archive provenance : Binary)
  | closeCache (slot : Slot)
  | fileExists (path : Binary)
  | readFile (path : Binary)
  | readLocal (path : Binary) (limit : Int)
  | getCustom (url : Binary) (headers : List Header)
  | getReq (url : Binary) (headers : List Header) (limit : Int)
  | ftpFetch (url : Binary)
  | sleep (milliseconds : Nat)
  | utcNow
  | userHome

/-- The answer to each call. -/
abbrev Answer : Call → Type
  | .openCache _ _ => Except Binary Unit
  | .cleanupCache _ => Except Binary Unit
  | .readCache _ => CacheRead
  | .publish _ _ _ _ => Except Binary CacheFiles
  | .closeCache _ => Unit
  | .fileExists _ => Bool
  | .readFile _ => Option Binary
  | .readLocal _ _ => LocalRead
  | .getCustom _ _ => CustomAnswer
  | .getReq _ _ _ => ReqAnswer
  | .ftpFetch _ => FtpAnswer
  | .sleep _ => Unit
  | .utcNow => Binary
  | .userHome => Option Binary

/-- Exceptions that leave an acquisition: `URI.to_string` of a path that cannot follow its host,
`Jason.encode!` of a text that is not UTF-8, a cleanup that does not match `:ok`, a backoff that is
no time to sleep, and `System.user_home!` without a home. -/
inductive Raised where
  | uri
  | encode
  | cleanup
  | backoff
  | home
  deriving DecidableEq, Repr

/-- A program of the distribution layer. -/
abbrev Action (α : Type) := Program Call Answer Raised α

/-- A single call. -/
abbrev call (request : Call) : Action (Answer request) := Program.perform request

/-- The `:sha256` option. -/
inductive Pin where
  | absent
  | digest (text : Binary)
  | other (inspected : Binary)
  deriving DecidableEq, Repr

/-- The `:http_client` option. -/
inductive HttpClient where
  | custom
  | req
  | invalid
  deriving DecidableEq, Repr

/-- The options of an acquisition. A limit that is no integer is absent, `offline` is what
`truthy?` says of its option, and `backoff` gives the time to sleep after each attempt. -/
structure Options where
  earthdataAuth : EarthdataAuth := {}
  offline : Bool := false
  cacheDir : Binary
  cacheLockTimeoutMs : Option Int := some 30000
  maxArchiveBytes : Option Int := some 67108864
  maxProductBytes : Option Int := some 524288000
  sha256 : Pin := .absent
  retries : Int := 3
  backoff : Nat → Option Nat := fun attempt => some (500 * 2 ^ (attempt - 1))
  httpClient : HttpClient := .req

/-- The errors of the core that identity validation tells apart. -/
inductive CoreError where
  | unknownCenter (code : Binary)
  | unsupportedProduct (combination : Binary)
  | other
  deriving DecidableEq, Repr

/-- A location of the catalog. -/
structure Location where
  originalUrl : Option Binary
  compression : Compression
  deriving DecidableEq

/-- The functions of other libraries and of the core: the SHA-256 in lower-case hex, Base64, the
text functions of `String`, `Jason`, the archive decompressors, `inspect`, the catalog, and the
product parsers, of which the IONEX one also checks the metadata and finds the version. -/
structure Library where
  sha256 : Binary → Binary
  base64 : Binary → Binary
  downcase : Binary → Binary
  trim : Binary → Binary
  trimLeading : Binary → Binary
  split : Binary → List Binary
  encode : Term → Option Binary
  decode : Binary → Option Term
  decompress : Binary → Compression → Int → Except Binary Binary
  inspect : Reason → Binary
  allowedHosts : List Binary
  ftpHosts : List Binary
  validateExactProductSet : List Binary → Except CoreError Unit
  distributionLocation : List Binary → SourceType → Except Binary Location
  parseSp3 : ProductIdentity → Binary → Except Binary Unit
  readIonex : ProductIdentity → Binary → Except Binary Binary

end Sidereon.Distribution
