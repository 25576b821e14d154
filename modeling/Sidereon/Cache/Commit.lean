import Sidereon.Cache.Classify

/-!
# Commits and fetches

`commit_file` writes the data and the sidecar to temporary files and renames the sidecar, then the
data, into place. The cached fetches classify what is there, and download, verify and commit what
is missing, expired or wrong.
-/

namespace Sidereon.Cache

open Foundation
open Foundation.Beam (Number)

variable (library : Library)

/-- `ensure_dir`. -/
def ensureDir (directory : String) : Action (Except Reason Unit) := do
  match ← call (.makeDir directory) with
  | .ok _ => pure (.ok ())
  | .error reason => pure (.error (.cacheNotWritable (.mkdir directory reason)))

/-- `remove_file`, whose failures are ignored. -/
def removeFile (file : File) : Action Unit := do
  let _ ← call (.remove file)

/-- The `:file` calls of `write_temp` on the open file. -/
def writeOut (file : File) (data : Bytes) : Action (Except Posix Unit) := do
  match ← call (.write file data) with
  | .ok _ =>
    match ← call (.sync file) with
    | .ok _ => call (.close file)
    | .error reason => pure (.error reason)
  | .error reason => pure (.error reason)

/-- `write_temp`. -/
def writeTemp (directory : String) (data : Bytes) : Action (Except Reason File) := do
  let (unique, time) ← call .tempStamp
  let path := File.temp directory unique time
  match ← call (.openExclusive path) with
  | .ok _ =>
    match ← writeOut path data with
    | .ok _ => pure (.ok path)
    | .error reason => do
      let _ ← call (.close path)
      removeFile path
      pure (.error (.cacheNotWritable (.write path reason)))
  | .error reason => pure (.error (.cacheNotWritable (.openFile path reason)))

/-- `rename_file`. -/
def renameFile (source target : File) : Action (Except Reason Unit) := do
  match ← call (.rename source target) with
  | .ok _ => pure (.ok ())
  | .error reason => pure (.error (.cacheNotWritable (.rename source target reason)))

/-- `commit_file`. -/
def commitFile (path : CachePath) (data : Bytes) (provenance : Json) :
    Action (Except Reason Unit) := do
  let json := library.encode provenance
  match ← ensureDir path.directory with
  | .ok _ =>
    match ← writeTemp path.directory data with
    | .ok dataTmp =>
      match ← writeTemp path.directory json with
      | .ok provenanceTmp =>
        match ← renameFile provenanceTmp (.sidecar path) with
        | .ok _ => renameFile dataTmp (.product path)
        | .error reason => pure (.error reason)
      | .error reason => pure (.error reason)
    | .error reason => pure (.error reason)
  | .error reason => pure (.error reason)

/-- `verify_sha256`. -/
def verifySha256 (data : Bytes) : Pin → Except Reason Unit
  | .absent => .ok ()
  | .digest expected =>
    if library.sha256 data = library.downcase expected then .ok ()
    else .error (.checksumMismatch (library.downcase expected) (library.sha256 data))
  | .other inspected => .error (.checksumMismatch inspected "")

/-- `decompress_if_needed`. -/
def decompressIfNeeded (data : Bytes) (compression : String) (maxBytes : Nat) :
    Except Reason Bytes :=
  if compression = "gzip" then
    match library.decompress data .gzip maxBytes with
    | .ok decompressed => .ok decompressed
    | .error .sizeLimit => .error (.decompress (.decompressedSizeExceeded maxBytes))
    | .error .invalidGzip => .error (.decompress .dataError)
    | .error (.unixCompress reason) => .error (.decompress (.other reason))
    | .error (.other detail) => .error (.decompress (.other detail))
  else if compression = "none" then
    if data.length > maxBytes then .error (.decompress (.decompressedSizeExceeded maxBytes))
    else .ok data
  else if compression = "unix_compress" then
    match library.decompress data .unixCompress maxBytes with
    | .ok decompressed => .ok decompressed
    | .error .sizeLimit => .error (.decompress (.other "size_limit"))
    | .error .invalidGzip => .error (.decompress (.other "invalid_gzip"))
    | .error (.unixCompress reason) => .error (.decompress (.other reason))
    | .error (.other detail) => .error (.decompress (.other detail))
  else .error (.decompress (.unknownCompression compression))

/-- Where a product is cached and served. -/
structure Route where
  path : CachePath
  url : String
  protocol : String
  compression : String
  deriving DecidableEq, Repr

/-- A call of `fetch`: where the product is, or why there is no such place, and the options. -/
structure GnssCall where
  route : Except Reason Route
  center : String
  productType : String
  sha256 : Pin
  offline : Bool
  maxDecompressedBytes : Nat

/-- A call of `fetch_space_weather`. -/
structure SpaceWeatherCall where
  route : Except Reason Route
  product : String
  sha256 : Pin
  maxAge : Option Number
  offline : Bool
  maxDecompressedBytes : Nat

/-- What the fetches return. -/
inductive Fetched where
  | path (path : CachePath)
  | spaceWeather (table : SpaceWeather)
  deriving DecidableEq, Repr

/-- An integer of a provenance map. -/
def sizeField (data : Bytes) : Json := .number (.int data.length)

/-- `gnss_provenance` at a time. -/
def gnssProvenance (request : GnssCall) (route : Route) (downloaded data : Bytes)
    (now : DateTime) : Json :=
  let digest := library.sha256 data
  .object
    [("source_url", .string route.url),
     ("protocol", .string route.protocol),
     ("compression", .string route.compression),
     ("sha256_data", .string digest),
     ("size_data", sizeField data),
     ("sha256_downloaded", .string (library.sha256 downloaded)),
     ("sha256_compressed", .string (library.sha256 downloaded)),
     ("sha256_decompressed", .string digest),
     ("size_downloaded", sizeField downloaded),
     ("size_compressed", sizeField downloaded),
     ("size_decompressed", sizeField data),
     ("center", .string request.center),
     ("product_type", .string request.productType),
     ("fetched_at", .string (library.toIso8601 now)),
     ("fetcher", .string "Sidereon.GNSS.Data")]

/-- `space_weather_provenance` at a time. -/
def spaceWeatherProvenance (request : SpaceWeatherCall) (route : Route) (downloaded data : Bytes)
    (now : DateTime) : Json :=
  .object
    [("source_url", .string route.url),
     ("protocol", .string route.protocol),
     ("compression", .string route.compression),
     ("sha256_data", .string (library.sha256 data)),
     ("size_data", sizeField data),
     ("sha256_downloaded", .string (library.sha256 downloaded)),
     ("size_downloaded", sizeField downloaded),
     ("product", .string request.product),
     ("fetched_at", .string (library.toIso8601 now)),
     ("fetcher", .string "Sidereon.GNSS.Data")]

/-- The download half the two fetches share: download, decompress, verify, and commit with the
provenance of the moment. -/
def downloadAndCache (route : Route) (pin : Pin) (maxBytes : Nat)
    (provenance : Bytes → Bytes → DateTime → Json) : Action (Except Reason Unit) := do
  match ← call (.download route.url route.protocol) with
  | .ok downloaded =>
    match decompressIfNeeded library downloaded route.compression maxBytes with
    | .ok data =>
      match verifySha256 library data pin with
      | .ok _ => do
        let now ← utcNow
        commitFile library route.path data (provenance downloaded data now)
      | .error reason => pure (.error reason)
    | .error reason => pure (.error reason)
  | .error reason => pure (.error reason)

/-- `download_and_cache_gnss`. -/
def downloadAndCacheGnss (request : GnssCall) (route : Route) :
    Action (Except Reason Fetched) := do
  match ← downloadAndCache library route request.sha256 request.maxDecompressedBytes
      (gnssProvenance library request route) with
  | .ok _ => pure (.ok (.path route.path))
  | .error reason => pure (.error reason)

/-- `SpaceWeather.load`. -/
def loadSpaceWeather (path : CachePath) : Action (Except Reason Fetched) := do
  match ← readFile (.product path) with
  | .ok bytes =>
    match library.parse bytes with
    | .ok table => pure (.ok (.spaceWeather table))
    | .error detail => pure (.error (.parse detail))
  | .error reason => pure (.error (.posix reason))

/-- `download_and_cache_space_weather`. -/
def downloadAndCacheSpaceWeather (request : SpaceWeatherCall) (route : Route) :
    Action (Except Reason Fetched) := do
  match ← downloadAndCache library route request.sha256 request.maxDecompressedBytes
      (spaceWeatherProvenance library request route) with
  | .ok _ => loadSpaceWeather library route.path
  | .error reason => pure (.error reason)

/-- `fetch_on_miss`. -/
def fetchOnMiss (request : GnssCall) (route : Route) : Action (Except Reason Fetched) :=
  if request.offline then pure (.error .offlineCacheMiss)
  else downloadAndCacheGnss library request route

/-- `fetch_space_weather_on_miss`. -/
def fetchSpaceWeatherOnMiss (request : SpaceWeatherCall) (route : Route) :
    Action (Except Reason Fetched) :=
  if request.offline then pure (.error .offlineCacheMiss)
  else downloadAndCacheSpaceWeather library request route

/-- What `fetch` does with a classified product. -/
def fetchClassified (request : GnssCall) (route : Route) :
    Classification → Action (Except Reason Fetched)
  | .hit _ => pure (.ok (.path route.path))
  | .absent => fetchOnMiss library request route
  | .unverified _ => fetchOnMiss library request route
  | .stale reason =>
    if request.offline then pure (.error reason)
    else downloadAndCacheGnss library request route
  | .error reason => pure (.error reason)

/-- `fetch`. -/
def fetch (request : GnssCall) : Action (Except Reason Fetched) := do
  match request.route with
  | .ok route =>
    let classified ← classifyDataFile library route.path request.sha256
    fetchClassified library request route classified
  | .error reason => pure (.error reason)

/-- What `fetch_space_weather` does with a classified product. -/
def fetchSpaceWeatherClassified (request : SpaceWeatherCall) (route : Route) :
    Classification → Action (Except Reason Fetched)
  | .hit _ => loadSpaceWeather library route.path
  | .absent => fetchSpaceWeatherOnMiss library request route
  | .unverified _ => fetchSpaceWeatherOnMiss library request route
  | .stale _ =>
    if request.offline then loadSpaceWeather library route.path
    else downloadAndCacheSpaceWeather library request route
  | .error reason => pure (.error reason)

/-- `fetch_space_weather`. -/
def fetchSpaceWeather (request : SpaceWeatherCall) : Action (Except Reason Fetched) := do
  match request.route with
  | .ok route =>
    let classified ← classifySpaceWeather library route.path request.sha256 request.maxAge
      request.offline
    fetchSpaceWeatherClassified library request route classified
  | .error reason => pure (.error reason)

/-- A call of either fetch. -/
inductive Job where
  | fetch (request : GnssCall)
  | fetchSpaceWeather (request : SpaceWeatherCall)

/-- Where a call's product is. -/
def Job.route : Job → Except Reason Route
  | .fetch request => request.route
  | .fetchSpaceWeather request => request.route

/-- The digest a call pins. -/
def Job.sha256 : Job → Pin
  | .fetch request => request.sha256
  | .fetchSpaceWeather request => request.sha256

/-- The size limit of a call. -/
def Job.maxDecompressedBytes : Job → Nat
  | .fetch request => request.maxDecompressedBytes
  | .fetchSpaceWeather request => request.maxDecompressedBytes

/-- The classification a call with a product starts with. -/
def Job.classification (path : CachePath) : Job → Action Classification
  | .fetch request => classifyDataFile library path request.sha256
  | .fetchSpaceWeather request =>
    classifySpaceWeather library path request.sha256 request.maxAge request.offline

/-- The program of a call. -/
def Job.program : Job → Action (Except Reason Fetched)
  | .fetch request => Cache.fetch library request
  | .fetchSpaceWeather request => Cache.fetchSpaceWeather library request

end Sidereon.Cache
