import Sidereon.Cache.Library
import Sidereon.Foundation.Program

/-!
# Classification of cached products

A product is cached as a data file and a provenance sidecar. The classifiers of `GNSS.Data` read
the data, then the sidecar, and say whether the cached bytes may be used. They are programs over
the calls the cache makes of the file system, the clock and the archives.
-/

namespace Sidereon.Cache

open Foundation
open Foundation.Beam (Number)

/-- A file name in a directory. -/
structure CachePath where
  directory : String
  name : String
  deriving DecidableEq, Repr

/-- The files of the cache by their role: the product at a path, the file at
`provenance_path(path)`, and a file named by `write_temp`. The names of products never have the
form of the other two. -/
inductive File where
  | product (path : CachePath)
  | sidecar (path : CachePath)
  | temp (directory : String) (unique time : Nat)
  deriving DecidableEq, Repr

/-- Why a file operation fails. -/
inductive Posix where
  | enoent
  | eexist
  | other (reason : String)
  deriving DecidableEq, Repr

/-- The details of `:cache_not_writable`. -/
inductive CacheDetail where
  | read (file : CachePath) (reason : Posix)
  | mkdir (directory : String) (reason : Posix)
  | openFile (file : File) (reason : Posix)
  | write (file : File) (reason : Posix)
  | rename (source target : File) (reason : Posix)
  | unsafeName (component : String)
  deriving DecidableEq, Repr

/-- The details of `:decompress`. -/
inductive DecompressDetail where
  | decompressedSizeExceeded (limit : Nat)
  | dataError
  | unknownCompression (compression : String)
  | other (detail : String)
  deriving DecidableEq, Repr

/-- The reasons of `error_reason` that the cached fetches return. -/
inductive Reason where
  | cacheNotWritable (detail : CacheDetail)
  | checksumMismatch (expected got : String)
  | expired
  | offlineCacheMiss
  | decompress (detail : DecompressDetail)
  | download (detail : String)
  | notFoundOnArchive (url : String)
  | product (detail : String)
  | posix (reason : Posix)
  | parse (detail : String)
  deriving DecidableEq, Repr

/-- The calls of the cached fetches. An open file is named by its path. -/
inductive Request where
  | read (file : File)
  | makeDir (directory : String)
  | tempStamp
  | openExclusive (file : File)
  | write (file : File) (data : Bytes)
  | sync (file : File)
  | close (file : File)
  | rename (source target : File)
  | remove (file : File)
  | download (url protocol : String)
  | now
  deriving DecidableEq, Repr

/-- The answer to each call. -/
abbrev Answer : Request → Type
  | .read _ => Except Posix Bytes
  | .makeDir _ => Except Posix Unit
  | .tempStamp => Nat × Nat
  | .openExclusive _ => Except Posix Unit
  | .write _ _ => Except Posix Unit
  | .sync _ => Except Posix Unit
  | .close _ => Except Posix Unit
  | .rename _ _ => Except Posix Unit
  | .remove _ => Except Posix Unit
  | .download _ _ => Except Reason Bytes
  | .now => DateTime

/-- Exceptions of the cached fetches: `Access` on a value that is neither a map nor `nil`, and
`DateTime.from_iso8601` of a value that is not text. -/
inductive Raised where
  | access
  | notText
  deriving DecidableEq, Repr

/-- A program of the cache. -/
abbrev Action (α : Type) := Program Request Answer Raised α

/-- A single call. -/
abbrev call (request : Request) : Action (Answer request) := Program.perform request

/-- `File.read`. -/
def readFile (file : File) : Action (Except Posix Bytes) := call (.read file)

/-- `DateTime.utc_now`. -/
def utcNow : Action DateTime := call .now

/-- The `:sha256` option. -/
inductive Pin where
  | absent
  | digest (text : String)
  | other (inspected : String)
  deriving DecidableEq, Repr

/-- What a classifier says of a cached product. -/
inductive Classification where
  | hit (path : CachePath)
  | absent
  | unverified (path : CachePath)
  | stale (reason : Reason)
  | error (reason : Reason)
  deriving DecidableEq, Repr

variable (library : Library)

/-- `read_json`. -/
def readJson (file : File) : Action (Option Json) := do
  match ← readFile file with
  | .ok bytes => pure (library.decode bytes)
  | .error _ => pure none

/-- `provenance["sha256_data"] || provenance["sha256_decompressed"]`. -/
def expectedDigest (provenance : Json) : Option Json := do
  let data ← provenance.access "sha256_data"
  if data.truthy then pure data else provenance.access "sha256_decompressed"

/-- `classify_with_provenance`. -/
def classifyWithProvenance (path : CachePath) (got : String) : Action Classification := do
  match ← readJson library (.sidecar path) with
  | some provenance =>
    match ← Program.orCrash .access (expectedDigest provenance) with
    | .string expected =>
      if got = library.downcase expected then pure (.hit path)
      else pure (.stale (.checksumMismatch (library.downcase expected) got))
    | _ => pure (.unverified path)
  | none => pure (.unverified path)

/-- `classify_data_file`. -/
def classifyDataFile (path : CachePath) (expected : Pin) : Action Classification := do
  match ← readFile (.product path) with
  | .ok data =>
    let got := library.sha256 data
    match expected with
    | .digest text =>
      if got = library.downcase text then pure (.hit path)
      else pure (.stale (.checksumMismatch (library.downcase text) got))
    | _ => classifyWithProvenance library path got
  | .error .enoent => pure .absent
  | .error reason => pure (.error (.cacheNotWritable (.read path reason)))

/-- The `"fetched_at"` of a map that has one. -/
def fetchedAt : Json → Option Json
  | .object fields => fields.lookup "fetched_at"
  | _ => none

/-- `fresh_provenance?`; an age that is not a number is `none`. -/
def freshProvenance (provenance : Json) (maxAge : Option Number) : Action Bool :=
  match fetchedAt provenance, maxAge with
  | some (.string text), some age =>
    match library.fromIso8601 text with
    | some time => do
      let now ← utcNow
      pure (decide ((now.diffSeconds time : Rat) ≤ age.value))
    | none => pure false
  | some _, some _ => .crash .notText
  | _, _ => pure false

/-- `classify_space_weather_with_provenance`. -/
def classifySpaceWeatherWithProvenance (path : CachePath) (got : String) (maxAge : Option Number)
    (offline : Bool) : Action Classification := do
  match ← readJson library (.sidecar path) with
  | some provenance =>
    match ← Program.orCrash .access (expectedDigest provenance) with
    | .string expected =>
      if got ≠ library.downcase expected then
        pure (.error (.checksumMismatch (library.downcase expected) got))
      else if offline then pure (.hit path)
      else do
        if ← freshProvenance library provenance maxAge then pure (.hit path)
        else pure (.stale .expired)
    | _ => pure (.unverified path)
  | none => pure (.unverified path)

/-- `classify_space_weather`. -/
def classifySpaceWeather (path : CachePath) (expected : Pin) (maxAge : Option Number)
    (offline : Bool) : Action Classification := do
  match ← readFile (.product path) with
  | .ok data =>
    let got := library.sha256 data
    match expected with
    | .digest text =>
      if got = library.downcase text then pure (.hit path)
      else pure (.error (.checksumMismatch (library.downcase text) got))
    | _ => classifySpaceWeatherWithProvenance library path got maxAge offline
  | .error .enoent => pure .absent
  | .error reason => pure (.error (.cacheNotWritable (.read path reason)))

end Sidereon.Cache
