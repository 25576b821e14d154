import Sidereon.Cache.Commit

/-!
# Terrain tiles

`fetch_dted_tile` caches a tile like the other products, and remembers in a marker beside the tile
that the archive has none. The marker is consulted only when there is no data file, and removed
after a tile is committed.
-/

namespace Sidereon.Cache

open Foundation

/-- Where a tile is cached and served. -/
structure TileRoute where
  tileId : String
  path : CachePath
  url : String
  protocol : String
  compression : String
  latIndex : Int
  lonIndex : Int
  deriving DecidableEq, Repr

/-- A call of `fetch_dted_tile`: where the tile is, or why there is no such place, and the
options. -/
structure TileCall where
  route : Except Reason TileRoute
  sha256 : Pin
  offline : Bool
  maxDecompressedBytes : Nat

/-- What `fetch_dted_tile` returns. -/
inductive Tile where
  | cached (path : CachePath)
  | fetched (path : CachePath)
  | noCoverage (tileId : String)
  deriving DecidableEq, Repr

/-- What `classify_terrain` says of a tile. -/
inductive TerrainClassification where
  | data (classification : Classification)
  | noCoverage (tileId : String)
  deriving DecidableEq, Repr

/-- `no_coverage_marker_path`. -/
def noCoverageMarkerPath (path : CachePath) : CachePath :=
  { path with name := path.name ++ ".no_coverage.json" }

/-- The marker of a tile, a file under a name of its own. -/
def markerFile (path : CachePath) : File := .product (noCoverageMarkerPath path)

/-- A marker is another file than its tile. -/
theorem noCoverageMarkerPath_ne (path : CachePath) : noCoverageMarkerPath path ≠ path := by
  intro same
  have names : path.name ++ ".no_coverage.json" = path.name := congrArg CachePath.name same
  have lengths := congrArg String.length names
  rw [String.length_append] at lengths
  have longer : 0 < ".no_coverage.json".length := by decide
  omega

/-- A field that is a given text. -/
def isText (expected : String) : Option Json → Bool
  | some (.string text) => text == expected
  | _ => false

/-- A field that is the integer 404. -/
def isNotFoundStatus : Option Json → Bool
  | some (.number (.int status)) => status == 404
  | _ => false

/-- The map that `classify_marker` matches. -/
def marksNoCoverage (route : TileRoute) : Json → Bool
  | .object fields => isNotFoundStatus (fields.lookup "status") &&
      isText route.tileId (fields.lookup "tile_id") &&
      isText route.url (fields.lookup "source_url") &&
      isText route.protocol (fields.lookup "protocol")
  | _ => false

/-- The payload of `commit_no_coverage_marker` at a time. -/
def noCoveragePayload (library : Library) (route : TileRoute) (now : DateTime) :
    List (String × Json) :=
  [("source_url", .string route.url),
   ("protocol", .string route.protocol),
   ("status", .number (.int 404)),
   ("tile_id", .string route.tileId),
   ("fetched_at", .string (library.toIso8601 now))]

/-- `terrain_provenance` at a time. -/
def terrainProvenance (library : Library) (route : TileRoute) (hgtGz hgt dt2 : Bytes)
    (now : DateTime) : Json :=
  let digest := library.sha256 dt2
  .object
    [("source_url", .string route.url),
     ("protocol", .string route.protocol),
     ("compression", .string route.compression),
     ("sha256_data", .string digest),
     ("size_data", sizeField dt2),
     ("sha256_hgt_gz", .string (library.sha256 hgtGz)),
     ("sha256_hgt", .string (library.sha256 hgt)),
     ("sha256_dt2", .string digest),
     ("size_downloaded", sizeField hgtGz),
     ("size_compressed", sizeField hgtGz),
     ("size_decompressed", sizeField hgt),
     ("size_dt2", sizeField dt2),
     ("converter", .string "sidereon-core hgt_to_dted v1"),
     ("tile_id", .string route.tileId),
     ("lat_index", .number (.int route.latIndex)),
     ("lon_index", .number (.int route.lonIndex)),
     ("fetched_at", .string (library.toIso8601 now)),
     ("fetcher", .string "Sidereon.GNSS.Data")]

variable (library : Library) (hgtToDted : Int → Int → Bytes → Except Reason Bytes)

/-- `classify_marker`. -/
def classifyMarker (route : TileRoute) : Action TerrainClassification := do
  match ← readJson library (markerFile route.path) with
  | some json =>
    if marksNoCoverage route json then pure (.noCoverage route.tileId) else pure (.data .absent)
  | none => pure (.data .absent)

/-- `classify_terrain`. -/
def classifyTerrain (route : TileRoute) (expected : Pin) : Action TerrainClassification := do
  match ← classifyDataFile library route.path expected with
  | .absent => classifyMarker library route
  | other => pure (.data other)

/-- `commit_no_coverage_marker`. -/
def commitNoCoverageMarker (route : TileRoute) : Action (Except Reason Unit) := do
  let now ← utcNow
  match ← ensureDir (noCoverageMarkerPath route.path).directory with
  | .ok _ =>
    match ← writeTemp (noCoverageMarkerPath route.path).directory
        (library.encode (.object (noCoveragePayload library route now))) with
    | .ok tmp => renameFile tmp (markerFile route.path)
    | .error reason => pure (.error reason)
  | .error reason => pure (.error reason)

/-- The part of `download_and_cache_dted` from a downloaded archive on. -/
def cacheDted (request : TileCall) (route : TileRoute) (hgtGz : Bytes) :
    Action (Except Reason Tile) :=
  match decompressIfNeeded library hgtGz route.compression request.maxDecompressedBytes with
  | .ok hgt =>
    match hgtToDted route.latIndex route.lonIndex hgt with
    | .ok dt2 =>
      match verifySha256 library dt2 request.sha256 with
      | .ok _ => do
        let now ← utcNow
        match ← commitFile library route.path dt2
            (terrainProvenance library route hgtGz hgt dt2 now) with
        | .ok _ => do
          removeFile (markerFile route.path)
          pure (.ok (.fetched route.path))
        | .error reason => pure (.error reason)
      | .error reason => pure (.error reason)
    | .error reason => pure (.error reason)
  | .error reason => pure (.error reason)

/-- `download_and_cache_dted`. -/
def downloadAndCacheDted (request : TileCall) (route : TileRoute) :
    Action (Except Reason Tile) := do
  match ← call (.download route.url route.protocol) with
  | .ok hgtGz => cacheDted library hgtToDted request route hgtGz
  | .error (.notFoundOnArchive _) =>
    match ← commitNoCoverageMarker library route with
    | .ok _ => pure (.ok (.noCoverage route.tileId))
    | .error reason => pure (.error reason)
  | .error reason => pure (.error reason)

/-- `fetch_dted_on_miss`. -/
def fetchDtedOnMiss (request : TileCall) (route : TileRoute) : Action (Except Reason Tile) :=
  if request.offline then pure (.error .offlineCacheMiss)
  else downloadAndCacheDted library hgtToDted request route

/-- What `fetch_dted_tile` does with a classified tile. -/
def fetchDtedClassified (request : TileCall) (route : TileRoute) :
    TerrainClassification → Action (Except Reason Tile)
  | .data (.hit _) => pure (.ok (.cached route.path))
  | .noCoverage tileId => pure (.ok (.noCoverage tileId))
  | .data .absent => fetchDtedOnMiss library hgtToDted request route
  | .data (.unverified _) => fetchDtedOnMiss library hgtToDted request route
  | .data (.stale reason) =>
    if request.offline then pure (.error reason)
    else downloadAndCacheDted library hgtToDted request route
  | .data (.error reason) => pure (.error reason)

/-- `fetch_dted_tile`. -/
def fetchDtedTile (request : TileCall) : Action (Except Reason Tile) := do
  match request.route with
  | .ok route =>
    let classified ← classifyTerrain library route request.sha256
    fetchDtedClassified library hgtToDted request route classified
  | .error reason => pure (.error reason)

end Sidereon.Cache
