import Sidereon.Cache.TileStore
import Sidereon.Foundation.Looping
import Sidereon.Foundation.PositionMap

/-!
# Prefetching terrain

`prefetch_dted_tiles` fetches one tile after another and goes on past every failure; its report
says of each tile in turn whether it was fetched, was cached already, is not covered or is in error.
`prefetch_dted_bbox` does so for the tiles of a box, and `fetch_dted` fetches the tile of a point.
-/

namespace Sidereon.Cache

open Foundation
open Foundation.Beam (Number)

/-- A tile as a caller names it: by its Skadi id, by its indices, or by neither. -/
inductive TileName where
  | skadi (tileId : String)
  | indices (latIndex lonIndex : Int)
  | other (inspected : String)
  deriving DecidableEq, Repr

/-- A coordinate of a box: a number or something else. -/
inductive Coordinate where
  | number (value : Number)
  | other (inspected : String)

/-- The number that a coordinate is. -/
def Coordinate.number? : Coordinate → Option Number
  | .number value => some value
  | .other _ => none

/-- A box: its least latitude and longitude, and its greatest. -/
structure Bbox where
  minLat : Coordinate
  minLon : Coordinate
  maxLat : Coordinate
  maxLon : Coordinate

/-- The errors of the terrain functions. -/
inductive TerrainError where
  | invalidTileId (tile : String)
  | invalidCoordinate (lat lon : Coordinate)
  | invalidBbox (bbox : Bbox)
  | unsupportedRegion (inspected : String)
  | noCoverage (tileId : String)
  | fetch (reason : Reason)

/-- What the terrain functions take from the core: the indices of a Skadi id, the id of a pair of
indices, the indices of a point, and the place of a tile as `fetch_dted_tile` composes it. -/
structure TerrainCatalog where
  parseSkadiTileId : String → Except TerrainError (Int × Int)
  skadiTileId : Int → Int → Except TerrainError String
  terrainTileIndex : Number → Number → Except TerrainError (Int × Int)
  route : Int → Int → Except Reason TileRoute

/-- The options that the terrain functions read. -/
structure TerrainOptions where
  sha256 : Pin
  offline : Bool
  strict : Bool
  maxDecompressedBytes : Nat

/-- `TerrainFetchReport`. -/
structure TerrainFetchReport where
  fetched : List CachePath := []
  cached : List CachePath := []
  noCoverage : List String := []
  errors : List (TileName × TerrainError) := []

/-- What `fetch_dted` returns. -/
inductive PointTile where
  | path (path : CachePath)
  | noCoverage (tileId : String)
  deriving DecidableEq, Repr

/-- What a prefetch is told of one tile: the result of its fetch, or the error with the name it is
reported under. -/
abbrev Outcome := Except (TileName × TerrainError) Tile

/-- The report with one more outcome in front. -/
def TerrainFetchReport.add (report : TerrainFetchReport) : Outcome → TerrainFetchReport
  | .ok (.cached path) => { report with cached := path :: report.cached }
  | .ok (.fetched path) => { report with fetched := path :: report.fetched }
  | .ok (.noCoverage tileId) => { report with noCoverage := tileId :: report.noCoverage }
  | .error error => { report with errors := error :: report.errors }

/-- The report in the order of the tiles. -/
def TerrainFetchReport.reverse (report : TerrainFetchReport) : TerrainFetchReport where
  fetched := report.fetched.reverse
  cached := report.cached.reverse
  noCoverage := report.noCoverage.reverse
  errors := report.errors.reverse

/-- A range of integers, which descends when it ends below its start. -/
def range (first last : Int) : List Int :=
  if first ≤ last then
    (List.range (last - first + 1).toNat).map fun offset : Nat => first + offset
  else (List.range (first - last + 1).toNat).map fun offset : Nat => first - offset

section Model

variable (library : Library) (hgtToDted : Int → Int → Bytes → Except Reason Bytes)
  (catalog : TerrainCatalog) (options : TerrainOptions)

/-- `normalize_tile`. -/
def normalizeTile : TileName → Except TerrainError (Int × Int × String)
  | .skadi tileId => (catalog.parseSkadiTileId tileId).map fun pair => (pair.1, pair.2, tileId)
  | .indices latIndex lonIndex =>
    (catalog.skadiTileId latIndex lonIndex).map fun tileId => (latIndex, lonIndex, tileId)
  | .other inspected => .error (.invalidTileId inspected)

/-- The call of `fetch_dted_tile` for a pair of indices. -/
def tileCall (latIndex lonIndex : Int) : TileCall where
  route := catalog.route latIndex lonIndex
  sha256 := options.sha256
  offline := options.offline
  maxDecompressedBytes := options.maxDecompressedBytes

/-- `no_coverage_result`. -/
def noCoverageResult (tileId : String) : Except TerrainError PointTile :=
  if options.strict then .error (.noCoverage tileId) else .ok (.noCoverage tileId)

/-- `fetch_dted`. -/
def fetchDted (lat lon : Number) : Action (Except TerrainError PointTile) := do
  match catalog.terrainTileIndex lat lon with
  | .ok (latIndex, lonIndex) =>
    match ← fetchDtedTile library hgtToDted (tileCall catalog options latIndex lonIndex) with
    | .ok (.cached path) => pure (.ok (.path path))
    | .ok (.fetched path) => pure (.ok (.path path))
    | .ok (.noCoverage tileId) => pure (noCoverageResult options tileId)
    | .error reason => pure (.error (.fetch reason))
  | .error error => pure (.error error)

/-- What `prefetch_dted_tiles` does for one tile. -/
def visitTile (tile : TileName) : Action Outcome := do
  match normalizeTile catalog tile with
  | .ok (latIndex, lonIndex, tileId) =>
    match ← fetchDtedTile library hgtToDted (tileCall catalog options latIndex lonIndex) with
    | .ok result => pure (.ok result)
    | .error reason => pure (.error (.skadi tileId, .fetch reason))
  | .error error => pure (.error (tile, error))

/-- The report with one more tile. -/
def prefetchTile (report : TerrainFetchReport) (tile : TileName) : Action TerrainFetchReport := do
  let outcome ← visitTile library hgtToDted catalog options tile
  pure (report.add outcome)

/-- `prefetch_dted_tiles`. -/
def prefetchDtedTiles (tiles : List TileName) : Action TerrainFetchReport := do
  let report ← tiles.foldlM (prefetchTile library hgtToDted catalog options) {}
  pure report.reverse

/-- The tiles between two pairs of indices, row by row. -/
def tilesBetween (first last : Int × Int) : List TileName :=
  (range first.1 last.1).flatMap fun latIndex =>
    (range first.2 last.2).map fun lonIndex => .indices latIndex lonIndex

/-- `prefetch_dted_bbox`. -/
def prefetchDtedBbox (bbox : Bbox) : Action (Except TerrainError TerrainFetchReport) :=
  match bbox.minLat.number?, bbox.minLon.number?, bbox.maxLat.number?, bbox.maxLon.number? with
  | some minLat, some minLon, some maxLat, some maxLon =>
    if maxLat.value < minLat.value ∨ maxLon.value < minLon.value then
      pure (.error (.invalidBbox bbox))
    else
      match catalog.terrainTileIndex minLat minLon with
      | .ok first =>
        match catalog.terrainTileIndex maxLat maxLon with
        | .ok last => do
          let report ← prefetchDtedTiles library hgtToDted catalog options (tilesBetween first last)
          pure (.ok report)
        | .error error => pure (.error error)
      | .error error => pure (.error error)
  | _, _, _, _ => pure (.error (.invalidCoordinate bbox.minLat bbox.minLon))

/-- A region to populate a cache with. -/
inductive Region where
  | bbox (bbox : Bbox)
  | tiles (tiles : List TileName)
  | other (inspected : String)

/-- `populate_terrain_cache`. -/
def populateTerrainCache : Region → Action (Except TerrainError TerrainFetchReport)
  | .bbox bbox => prefetchDtedBbox library hgtToDted catalog options bbox
  | .tiles tiles => do
    let report ← prefetchDtedTiles library hgtToDted catalog options tiles
    pure (.ok report)
  | .other inspected => pure (.error (.unsupportedRegion inspected))

end Model

section Outcomes

/-- The path an outcome says was fetched. -/
def fetchedPath : Outcome → Option CachePath
  | .ok (.fetched path) => some path
  | _ => none

/-- The path an outcome says was cached already. -/
def cachedPath : Outcome → Option CachePath
  | .ok (.cached path) => some path
  | _ => none

/-- The tile an outcome says is not covered. -/
def uncoveredTile : Outcome → Option String
  | .ok (.noCoverage tileId) => some tileId
  | _ => none

/-- The error of an outcome. -/
def faultOf : Outcome → Option (TileName × TerrainError)
  | .error error => some error
  | _ => none

/-- The report of some outcomes, in their order. -/
def reportOf (outcomes : List Outcome) : TerrainFetchReport where
  fetched := outcomes.filterMap fetchedPath
  cached := outcomes.filterMap cachedPath
  noCoverage := outcomes.filterMap uncoveredTile
  errors := outcomes.filterMap faultOf

/-- Outcomes added one by one and turned round are the report. -/
theorem foldl_add (outcomes : List Outcome) :
    (outcomes.foldl TerrainFetchReport.add {}).reverse = reportOf outcomes := by
  have added : ∀ (outcomes : List Outcome) (report : TerrainFetchReport),
      outcomes.foldl TerrainFetchReport.add report =
        ⟨(reportOf outcomes).fetched.reverse ++ report.fetched,
          (reportOf outcomes).cached.reverse ++ report.cached,
          (reportOf outcomes).noCoverage.reverse ++ report.noCoverage,
          (reportOf outcomes).errors.reverse ++ report.errors⟩ := by
    intro outcomes
    induction outcomes with
    | nil => exact fun report => rfl
    | cons outcome outcomes ih =>
      intro report
      rw [List.foldl_cons, ih]
      cases outcome with
      | error error =>
        simp [reportOf, List.filterMap_cons, TerrainFetchReport.add, fetchedPath, cachedPath,
          uncoveredTile, faultOf]
      | ok tile =>
        cases tile <;>
          simp [reportOf, List.filterMap_cons, TerrainFetchReport.add, fetchedPath, cachedPath,
          uncoveredTile, faultOf]
  rw [added]
  simp [TerrainFetchReport.reverse]

theorem fetchedPath_eq {outcome : Outcome} {path : CachePath} :
    fetchedPath outcome = some path ↔ outcome = .ok (.fetched path) := by
  cases outcome with
  | error error => simp [fetchedPath]
  | ok tile => cases tile <;> simp [fetchedPath]

theorem cachedPath_eq {outcome : Outcome} {path : CachePath} :
    cachedPath outcome = some path ↔ outcome = .ok (.cached path) := by
  cases outcome with
  | error error => simp [cachedPath]
  | ok tile => cases tile <;> simp [cachedPath]

theorem uncoveredTile_eq {outcome : Outcome} {tileId : String} :
    uncoveredTile outcome = some tileId ↔ outcome = .ok (.noCoverage tileId) := by
  cases outcome with
  | error error => simp [uncoveredTile]
  | ok tile => cases tile <;> simp [uncoveredTile]

theorem faultOf_eq {outcome : Outcome} {error : TileName × TerrainError} :
    faultOf outcome = some error ↔ outcome = .error error := by
  cases outcome with
  | error error => simp [faultOf]
  | ok tile => simp [faultOf]

variable {outcomes : List Outcome}

theorem mem_fetched {path : CachePath} :
    path ∈ (reportOf outcomes).fetched ↔ .ok (.fetched path) ∈ outcomes := by
  simp [reportOf, List.mem_filterMap, fetchedPath_eq]

theorem mem_cached {path : CachePath} :
    path ∈ (reportOf outcomes).cached ↔ .ok (.cached path) ∈ outcomes := by
  simp [reportOf, List.mem_filterMap, cachedPath_eq]

theorem mem_noCoverage {tileId : String} :
    tileId ∈ (reportOf outcomes).noCoverage ↔ .ok (.noCoverage tileId) ∈ outcomes := by
  simp [reportOf, List.mem_filterMap, uncoveredTile_eq]

theorem mem_errors {error : TileName × TerrainError} :
    error ∈ (reportOf outcomes).errors ↔ .error error ∈ outcomes := by
  simp [reportOf, List.mem_filterMap, faultOf_eq]

end Outcomes

section Places

variable (catalog : TerrainCatalog)

/-- The place of a tile, if it has one. -/
def placeOf (tile : TileName) : Option TileRoute :=
  match normalizeTile catalog tile with
  | .ok (latIndex, lonIndex, _) => (catalog.route latIndex lonIndex).toOption
  | .error _ => none

/-- The name that a tile is reported under when it is in error. -/
def labelOf (tile : TileName) : TileName :=
  match normalizeTile catalog tile with
  | .ok (_, _, tileId) => .skadi tileId
  | .error _ => tile

/-- Each tile of a list lies apart from those before it. -/
def Spread (tiles : List TileName) : Prop :=
  tiles.Pairwise fun tile other => ∀ route route', placeOf catalog tile = some route →
    placeOf catalog other = some route' → route'.path ≠ route.path ∧ Apart route route'

/-- Only temporary files and the files of the tile have changed, if it has a place. -/
def SameBut (tile : TileName) (before after : Directory) : Prop :=
  ∀ file, ¬file.IsTemp → (∀ route, placeOf catalog tile = some route → ¬OfTile route.path file) →
    after file = before file

/-- The outcome of a tile is so in a directory. -/
def Accounted (library : Library) (pin : Pin) (directory : Directory) (tile : TileName) :
    Outcome → Prop
  | .ok (.cached path) => ∃ route, placeOf catalog tile = some route ∧ path = route.path ∧
      Covered library pin route.path directory
  | .ok (.fetched path) => ∃ route, placeOf catalog tile = some route ∧ path = route.path ∧
      Covered library pin route.path directory
  | .ok (.noCoverage tileId) => ∃ route, placeOf catalog tile = some route ∧
      tileId = route.tileId ∧ Uncovered library route directory
  | .error error => error.1 = labelOf catalog tile

end Places

variable {library : Library} {hgtToDted : Int → Int → Bytes → Except Reason Bytes}
  {catalog : TerrainCatalog} {options options' : TerrainOptions} {directory : Directory}
  {tile : TileName} {tiles : List TileName}

section Visits

/-- A fetch of a tile leaves the files of other tiles as they were. -/
theorem yields_sameElsewhere {request : TileCall} {route : TileRoute}
    (routed : request.route = .ok route) :
    (fetchDtedTile library hgtToDted request).Yields Respond directory fun _ after =>
      SameElsewhere route.path directory after := by
  have uses : (fetchDtedTile library hgtToDted request).Uses (StaysWithin route.path) :=
    uses_fetchDtedTile routed
  apply uses.yields
  · exact fun _ _ _ _ => rfl
  · intro before between after first second file plain elsewhere
    rw [second file plain elsewhere, first file plain elsewhere]
  · exact fun _ _ _ _ within responded => within.sameElsewhere responded

/-- A tile without a place is visited by no call. -/
theorem visitTile_unplaced (library : Library)
    (hgtToDted : Int → Int → Bytes → Except Reason Bytes) (options : TerrainOptions)
    (unplaced : placeOf catalog tile = none) :
    ∃ error, visitTile library hgtToDted catalog options tile =
      pure (.error (labelOf catalog tile, error)) := by
  unfold visitTile labelOf
  unfold placeOf at unplaced
  cases normalized : normalizeTile catalog tile with
  | error error => exact ⟨error, rfl⟩
  | ok triple =>
    obtain ⟨latIndex, lonIndex, tileId⟩ := triple
    rw [normalized] at unplaced
    dsimp only at unplaced ⊢
    cases routed : catalog.route latIndex lonIndex with
    | ok route =>
      rw [routed] at unplaced
      cases unplaced
    | error reason =>
      have unrouted : fetchDtedTile library hgtToDted (tileCall catalog options latIndex lonIndex) =
          pure (.error reason) := by
        rw [fetchDtedTile, tileCall, routed]
      rw [unrouted]
      exact ⟨.fetch reason, rfl⟩

/-- A tile with a place is visited by a fetch of it. -/
theorem visitTile_placed (library : Library)
    (hgtToDted : Int → Int → Bytes → Except Reason Bytes) (options : TerrainOptions)
    {route : TileRoute} (placed : placeOf catalog tile = some route) :
    ∃ request : TileCall, request.route = .ok route ∧ request.sha256 = options.sha256 ∧
      request.offline = options.offline ∧
      visitTile library hgtToDted catalog options tile =
        fetchDtedTile library hgtToDted request >>= fun result =>
          match result with
          | .ok tile => pure (.ok tile)
          | .error reason => pure (.error (labelOf catalog tile, .fetch reason)) := by
  unfold visitTile labelOf
  unfold placeOf at placed
  cases normalized : normalizeTile catalog tile with
  | error error =>
    rw [normalized] at placed
    cases placed
  | ok triple =>
    obtain ⟨latIndex, lonIndex, tileId⟩ := triple
    rw [normalized] at placed
    dsimp only at placed ⊢
    cases routed : catalog.route latIndex lonIndex with
    | error reason =>
      rw [routed] at placed
      cases placed
    | ok found =>
      rw [routed] at placed
      cases placed
      exact ⟨tileCall catalog options latIndex lonIndex, routed, rfl, rfl, rfl⟩

/-- A visit of a tile accounts for it and changes no other tile. -/
theorem yields_visitTile (faithful : Faithful library) :
    (visitTile library hgtToDted catalog options tile).Yields Respond directory
      fun outcome after => Accounted catalog library options.sha256 after tile outcome ∧
        SameBut catalog tile directory after := by
  cases placed : placeOf catalog tile with
  | none =>
    obtain ⟨error, same⟩ := visitTile_unplaced library hgtToDted options placed
    rw [same]
    exact ⟨rfl, fun _ _ _ => rfl⟩
  | some route =>
    obtain ⟨request, routed, pinned, _, same⟩ :=
      visitTile_placed library hgtToDted options placed
    have settled : (fetchDtedTile library hgtToDted request).Yields Respond directory
        fun result after => Settles library route request.sha256 after result :=
      yields_fetchDtedTile faithful routed
    rw [same]
    apply (settled.and (yields_sameElsewhere routed)).bind
    rintro result after ⟨settles, elsewhere⟩
    have frame : SameBut catalog tile directory after := fun file plain other =>
      elsewhere file plain (other route placed)
    rw [← pinned]
    cases result with
    | error reason => exact ⟨rfl, frame⟩
    | ok tile =>
      cases tile with
      | cached path => exact ⟨⟨route, placed, settles⟩, frame⟩
      | fetched path => exact ⟨⟨route, placed, settles⟩, frame⟩
      | noCoverage tileId => exact ⟨⟨route, placed, settles⟩, frame⟩

/-- What is accounted for stays so while only tiles that lie apart are visited. -/
theorem Accounted.frame {pin : Pin} {before after : Directory} {other : TileName}
    {outcome : Outcome} (accounted : Accounted catalog library pin before tile outcome)
    (same : SameBut catalog other before after)
    (apart : ∀ route route', placeOf catalog tile = some route →
      placeOf catalog other = some route' → route'.path ≠ route.path ∧ Apart route route') :
    Accounted catalog library pin after tile outcome := by
  have holds : ∀ (route : TileRoute) (verdict : Verdict), placeOf catalog tile = some route →
      (⟨route, pin, verdict⟩ : Entry).Holds library before →
      (⟨route, pin, verdict⟩ : Entry).Holds library after := by
    intro route verdict placed holds
    apply holds.same
    intro file own
    apply same file own.plain
    intro route' placed'
    obtain ⟨different, apart⟩ := apart route route' placed placed'
    exact Apart.disjoint ⟨apart.2, apart.1⟩ different.symm own
  cases outcome with
  | error error => exact accounted
  | ok result =>
    cases result with
    | cached path =>
      obtain ⟨route, placed, same, covered⟩ := accounted
      exact ⟨route, placed, same, holds route .covered placed covered⟩
    | fetched path =>
      obtain ⟨route, placed, same, covered⟩ := accounted
      exact ⟨route, placed, same, holds route .covered placed covered⟩
    | noCoverage tileId =>
      obtain ⟨route, placed, same, uncovered⟩ := accounted
      exact ⟨route, placed, same, holds route .uncovered placed uncovered⟩

/-- So do the tiles of a list. -/
theorem Accounted.frames {pin : Pin} {before after : Directory} {other : TileName}
    {outcomes : List Outcome}
    (accounted : List.Forall₂ (Accounted catalog library pin before) tiles outcomes)
    (same : SameBut catalog other before after)
    (apart : ∀ tile ∈ tiles, ∀ route route', placeOf catalog tile = some route →
      placeOf catalog other = some route' → route'.path ≠ route.path ∧ Apart route route') :
    List.Forall₂ (Accounted catalog library pin after) tiles outcomes := by
  induction accounted with
  | nil => exact .nil
  | cons first _ ih =>
    rw [List.forall_mem_cons] at apart
    exact .cons (first.frame same apart.1) (ih apart.2)

/-- An offline fetch of a tile reads only, and fetches nothing. -/
theorem yields_offline {request : TileCall} {route : TileRoute} (routed : request.route = .ok route)
    (offline : request.offline = true) :
    (fetchDtedTile library hgtToDted request).Yields Respond directory fun result after =>
      after = directory ∧ ∀ path, result ≠ .ok (.fetched path) := by
  have missed : fetchDtedOnMiss library hgtToDted request route = pure (.error .offlineCacheMiss) := by
    rw [fetchDtedOnMiss, if_pos offline]
  rw [fetchDtedTile, routed]
  apply yields_classifyTerrain.bind
  rintro classified _ ⟨rfl, _, _⟩
  cases classified with
  | noCoverage tileId => exact ⟨rfl, by simp⟩
  | data classification =>
    cases classification with
    | hit found => exact ⟨rfl, by simp⟩
    | absent =>
      rw [fetchDtedClassified, missed]
      exact ⟨rfl, by simp⟩
    | unverified found =>
      rw [fetchDtedClassified, missed]
      exact ⟨rfl, by simp⟩
    | stale reason =>
      rw [fetchDtedClassified, if_pos offline]
      exact ⟨rfl, by simp⟩
    | error reason => exact ⟨rfl, by simp⟩

/-- What is settled of a tile is what a later visit says of it. -/
def SettledBy (catalog : TerrainCatalog) (library : Library) (pin : Pin) (settled : Directory)
    (tile : TileName) (outcome : Outcome) : Prop :=
  ∀ route, placeOf catalog tile = some route →
    (Covered library pin route.path settled → outcome = .ok (.cached route.path)) ∧
      (Uncovered library route settled → settled (.product route.path) = none →
        outcome = .ok (.noCoverage route.tileId))

/-- A visit of a tile whose files are as they were settled serves what is settled, changes no other
tile, and nothing at all when it is offline. -/
theorem yields_visitAgain {settled : Directory}
    (same : ∀ route, placeOf catalog tile = some route → ∀ file, OfTile route.path file →
      directory file = settled file) :
    (visitTile library hgtToDted catalog options tile).Yields Readable directory
      fun outcome after => SettledBy catalog library options.sha256 settled tile outcome ∧
        SameBut catalog tile directory after ∧
        (options.offline = true → after = directory ∧ fetchedPath outcome = none) := by
  cases placed : placeOf catalog tile with
  | none =>
    obtain ⟨error, visited⟩ := visitTile_unplaced library hgtToDted options placed
    rw [visited]
    refine ⟨?_, fun _ _ _ => rfl, fun _ => ⟨rfl, rfl⟩⟩
    intro route placed'
    rw [placed] at placed'
    cases placed'
  | some route =>
    obtain ⟨request, routed, pinned, offline, visited⟩ :=
      visitTile_placed library hgtToDted options placed
    have answered : ∀ request world (answer : Answer request) world',
        Readable request world answer world' → Respond request world answer world' :=
      fun _ _ _ _ responded => responded.1
    have frame : (fetchDtedTile library hgtToDted request).Yields Readable directory
        fun _ after => SameElsewhere route.path directory after :=
      (yields_sameElsewhere routed).among answered
    have quiet : request.offline = true →
        (fetchDtedTile library hgtToDted request).Yields Readable directory
          fun result after => after = directory ∧ ∀ path, result ≠ .ok (.fetched path) :=
      fun offline => (yields_offline routed offline).among answered
    have hit : Covered library options.sha256 route.path settled →
        (fetchDtedTile library hgtToDted request).Yields Readable directory
          fun result _ => result = .ok (.cached route.path) := by
      intro covered
      have held : (⟨route, options.sha256, .covered⟩ : Entry).Holds library settled := covered
      have here : Covered library request.sha256 route.path directory := by
        rw [pinned]
        exact held.same (same route placed)
      have served : (fetchDtedTile library hgtToDted request).Ensures Readable directory
          fun outcome after => outcome = .ok (.ok (.cached route.path)) ∧ after = directory :=
        readable_covered routed here
      exact served.yields.mono fun _ _ returned => Except.ok.inj returned.1
    have marked : Uncovered library route settled ∧ settled (.product route.path) = none →
        (fetchDtedTile library hgtToDted request).Yields Readable directory
          fun result _ => result = .ok (.noCoverage route.tileId) := by
      rintro ⟨uncovered, absent⟩
      have held : (⟨route, options.sha256, .uncovered⟩ : Entry).Holds library settled := uncovered
      have here : Uncovered library route directory := held.same (same route placed)
      have missing : directory (.product route.path) = none := by
        rw [same route placed _ (.inl rfl), absent]
      have served : (fetchDtedTile library hgtToDted request).Ensures Readable directory
          fun outcome after =>
            outcome = .ok (.ok (.noCoverage route.tileId)) ∧ after = directory :=
        readable_uncovered routed here missing
      exact served.yields.mono fun _ _ returned => Except.ok.inj returned.1
    rw [visited]
    apply ((Program.Yields.imp hit).and ((Program.Yields.imp marked).and
      (frame.and (Program.Yields.imp quiet)))).bind
    rintro result after ⟨hit, marked, elsewhere, quiet⟩
    have others : SameBut catalog tile directory after := fun file plain other =>
      elsewhere file plain (other route placed)
    have served : ∀ outcome : Outcome, (∀ tile, result = .ok tile → outcome = .ok tile) →
        SettledBy catalog library options.sha256 settled tile outcome := by
      intro outcome same route' placed'
      rw [placed, Option.some.injEq] at placed'
      subst placed'
      constructor
      · exact fun covered => same _ (hit covered)
      · exact fun uncovered absent => same _ (marked ⟨uncovered, absent⟩)
    cases result with
    | error reason =>
      refine ⟨served _ (by simp), others, fun online => ⟨(quiet (offline.trans online)).1, rfl⟩⟩
    | ok tile =>
      refine ⟨served _ (by simp), others, fun online => ?_⟩
      obtain ⟨unchanged, nothing⟩ := quiet (offline.trans online)
      apply And.intro unchanged
      cases tile with
      | fetched path => exact absurd rfl (nothing path)
      | cached path => rfl
      | noCoverage tileId => rfl

end Visits

section Reports

/-- A prefetch accounts for every tile in turn. -/
theorem prefetch_accounts (faithful : Faithful library) (spread : Spread catalog tiles) :
    (prefetchDtedTiles library hgtToDted catalog options tiles).Yields Respond directory
      fun report after => ∃ outcomes, report = reportOf outcomes ∧
        List.Forall₂ (Accounted catalog library options.sha256 after) tiles outcomes := by
  rw [prefetchDtedTiles]
  apply Program.Yields.bind
    (Program.yields_foldlM (fun done report after => ∃ outcomes : List Outcome,
      report = outcomes.foldl TerrainFetchReport.add {} ∧
        List.Forall₂ (Accounted catalog library options.sha256 after) done outcomes) ?_ ?_)
  · rintro report after ⟨outcomes, rfl, accounted⟩
    exact ⟨outcomes, foldl_add outcomes, accounted⟩
  · exact ⟨[], rfl, .nil⟩
  · rintro before tile later report directory rfl ⟨outcomes, rfl, accounted⟩
    rw [prefetchTile]
    apply (yields_visitTile faithful).bind
    rintro outcome after ⟨settled, same⟩
    have apart : ∀ earlier ∈ before, ∀ route route', placeOf catalog earlier = some route →
        placeOf catalog tile = some route' → route'.path ≠ route.path ∧ Apart route route' :=
      fun earlier member => (List.pairwise_append.mp spread).2.2 earlier member tile (by simp)
    have kept := Accounted.frames accounted same apart
    have added : (outcomes.foldl TerrainFetchReport.add {}).add outcome =
        (outcomes ++ [outcome]).foldl TerrainFetchReport.add {} := by
      rw [List.foldl_append]
      rfl
    exact ⟨outcomes ++ [outcome], added, List.rel_append kept (.cons settled .nil)⟩

/-- A prefetch of tiles, some of them settled, says of each what is settled, and changes nothing when
it is offline. -/
theorem prefetch_serves {settled : Directory} (spread : Spread catalog tiles) :
    (prefetchDtedTiles library hgtToDted catalog options tiles).Yields Readable settled
      fun report after => (options.offline = true → after = settled ∧ report.fetched = []) ∧
        ∃ outcomes, report = reportOf outcomes ∧
          List.Forall₂ (SettledBy catalog library options.sha256 settled) tiles outcomes := by
  rw [prefetchDtedTiles]
  apply Program.Yields.bind
    (Program.yields_foldlM (fun done report after => ∃ outcomes : List Outcome,
      report = outcomes.foldl TerrainFetchReport.add {} ∧
        List.Forall₂ (SettledBy catalog library options.sha256 settled) done outcomes ∧
        (∀ file, ¬file.IsTemp → (∀ tile ∈ done, ∀ route, placeOf catalog tile = some route →
          ¬OfTile route.path file) → after file = settled file) ∧
        (options.offline = true → after = settled ∧
          ∀ outcome ∈ outcomes, fetchedPath outcome = none)) ?_ ?_)
  · rintro report after ⟨outcomes, rfl, served, _, quiet⟩
    rw [Program.yields_pure, foldl_add]
    refine ⟨fun offline => ⟨(quiet offline).1, ?_⟩, outcomes, rfl, served⟩
    exact List.filterMap_eq_nil_iff.mpr (quiet offline).2
  · exact ⟨[], rfl, .nil, fun _ _ _ => rfl, fun _ => ⟨rfl, by simp⟩⟩
  · rintro before tile later report directory rfl ⟨outcomes, rfl, served, frame, quiet⟩
    have untouched : ∀ route, placeOf catalog tile = some route → ∀ file, OfTile route.path file →
        directory file = settled file := by
      intro route placed file own
      apply frame file own.plain
      intro earlier member route' placed'
      obtain ⟨different, apart⟩ := (List.pairwise_append.mp spread).2.2 earlier member tile
        (by simp) route' route placed' placed
      exact apart.disjoint different own
    rw [prefetchTile]
    apply (yields_visitAgain untouched).bind
    rintro outcome after ⟨serves, others, unchanged⟩
    have added : (outcomes.foldl TerrainFetchReport.add {}).add outcome =
        (outcomes ++ [outcome]).foldl TerrainFetchReport.add {} := by
      rw [List.foldl_append]
      rfl
    refine ⟨outcomes ++ [outcome], added, List.rel_append served (.cons serves .nil), ?_, ?_⟩
    · intro file plain elsewhere
      rw [others file plain (elsewhere tile (by simp))]
      exact frame file plain fun earlier member => elsewhere earlier (by simp [member])
    · intro offline
      obtain ⟨same, nothing⟩ := quiet offline
      obtain ⟨same', nothing'⟩ := unchanged offline
      apply And.intro (same'.trans same)
      intro other member
      rcases List.mem_append.mp member with earlier | latest
      · exact nothing other earlier
      · rw [List.mem_singleton.mp latest]
        exact nothing'

/-- What a report promises of a repeated one. -/
structure Repeats (catalog : TerrainCatalog) (tiles : List TileName) (settled : Directory)
    (report repeated : TerrainFetchReport) : Prop where
  available : ∀ path ∈ report.fetched ++ report.cached, path ∈ repeated.cached
  uncovered : ∀ tileId ∈ report.noCoverage, tileId ∈ repeated.noCoverage ∨
    ∃ tile ∈ tiles, ∃ route, placeOf catalog tile = some route ∧ route.tileId = tileId ∧
      settled (.product route.path) ≠ none

/-- Whatever failed during a prefetch, a later one of the same tiles with the same pin finds in the
cache every path that the first reported, and finds uncovered what the first did unless a product
lies there, as long as files can be read; offline it fetches and changes nothing. -/
theorem prefetch_repeats (faithful : Faithful library) (spread : Spread catalog tiles)
    {before after last : Directory} {report repeated : TerrainFetchReport}
    (executed : (prefetchDtedTiles library hgtToDted catalog options tiles).Exec Respond before
      (.ok report) after)
    (again : (prefetchDtedTiles library hgtToDted catalog options' tiles).Exec Readable after
      (.ok repeated) last) (pinned : options'.sha256 = options.sha256) :
    Repeats catalog tiles after report repeated ∧
      (options'.offline = true → last = after ∧ repeated.fetched = []) := by
  obtain ⟨outcomes, rfl, accounted⟩ := (prefetch_accounts faithful spread).exec executed
  obtain ⟨quiet, outcomes', rfl, served⟩ := (prefetch_serves spread).exec again
  rw [pinned] at served
  have located : ∀ path, (∃ tile ∈ tiles, ∃ route, placeOf catalog tile = some route ∧
      path = route.path ∧ Covered library options.sha256 route.path after) →
      path ∈ (reportOf outcomes').cached := by
    rintro path ⟨tile, member, route, placed, rfl, covered⟩
    obtain ⟨outcome, member', serves⟩ := forall₂_partner served member
    rw [(serves route placed).1 covered] at member'
    exact mem_cached.mpr member'
  refine ⟨⟨?_, ?_⟩, quiet⟩
  · intro path member
    apply located
    rcases List.mem_append.mp member with fetched | cached
    · obtain ⟨tile, listed, holds⟩ := forall₂_partner accounted.flip (mem_fetched.mp fetched)
      exact ⟨tile, listed, holds⟩
    · obtain ⟨tile, listed, holds⟩ := forall₂_partner accounted.flip (mem_cached.mp cached)
      exact ⟨tile, listed, holds⟩
  · intro tileId member
    obtain ⟨tile, listed, route, placed, rfl, uncovered⟩ :=
      forall₂_partner accounted.flip (mem_noCoverage.mp member)
    by_cases absent : after (.product route.path) = none
    · left
      obtain ⟨outcome, member', serves⟩ := forall₂_partner served listed
      rw [(serves route placed).2 uncovered absent] at member'
      exact mem_noCoverage.mpr member'
    · exact .inr ⟨tile, listed, route, placed, rfl, absent⟩

end Reports

section Boxes

theorem Apart.symm {route other : TileRoute} (apart : Apart route other) : Apart other route :=
  ⟨apart.2, apart.1⟩

/-- Different indices have places that lie apart. -/
def Layout (catalog : TerrainCatalog) : Prop :=
  ∀ (first second : Int × Int) (route route' : TileRoute), first ≠ second → catalog.route first.1 first.2 = .ok route →
    catalog.route second.1 second.2 = .ok route' → route'.path ≠ route.path ∧ Apart route route'

/-- The indices of a point grow with its coordinates. -/
def Monotone (catalog : TerrainCatalog) : Prop :=
  ∀ lat lon lat' lon' index index', catalog.terrainTileIndex lat lon = .ok index →
    catalog.terrainTileIndex lat' lon' = .ok index' → lat.value ≤ lat'.value →
    lon.value ≤ lon'.value → index.1 ≤ index'.1 ∧ index.2 ≤ index'.2

/-- A point lies in a box. -/
structure Bbox.Contains (bbox : Bbox) (lat lon : Number) : Prop where
  minLat : ∀ bound, bbox.minLat.number? = some bound → bound.value ≤ lat.value
  minLon : ∀ bound, bbox.minLon.number? = some bound → bound.value ≤ lon.value
  maxLat : ∀ bound, bbox.maxLat.number? = some bound → lat.value ≤ bound.value
  maxLon : ∀ bound, bbox.maxLon.number? = some bound → lon.value ≤ bound.value

theorem mem_range {first last n : Int} (above : first ≤ n) (below : n ≤ last) :
    n ∈ range first last := by
  have ordered : first ≤ last := by omega
  rw [range, if_pos ordered, List.mem_map]
  refine ⟨(n - first).toNat, List.mem_range.mpr (by omega), by omega⟩

theorem nodup_range (first last : Int) : (range first last).Nodup := by
  unfold range
  split
  · apply List.Nodup.map ?_ List.nodup_range
    intro n m same
    dsimp only at same
    omega
  · apply List.Nodup.map ?_ List.nodup_range
    intro n m same
    dsimp only at same
    omega

/-- The tiles between two pairs of indices are those of all pairs between them. -/
theorem mem_tilesBetween {first last : Int × Int} {latIndex lonIndex : Int}
    (lat : first.1 ≤ latIndex ∧ latIndex ≤ last.1) (lon : first.2 ≤ lonIndex ∧ lonIndex ≤ last.2) :
    .indices latIndex lonIndex ∈ tilesBetween first last := by
  rw [tilesBetween, List.mem_flatMap]
  refine ⟨latIndex, mem_range lat.1 lat.2, ?_⟩
  exact List.mem_map_of_mem (mem_range lon.1 lon.2)

/-- No tile is named twice. -/
theorem nodup_tilesBetween (first last : Int × Int) : (tilesBetween first last).Nodup := by
  rw [tilesBetween, List.nodup_flatMap]
  constructor
  · intro latIndex _
    exact List.Nodup.map (fun n m same => (TileName.indices.inj same).2) (nodup_range _ _)
  · apply (nodup_range first.1 last.1).imp
    intro latIndex latIndex' different tile member member'
    obtain ⟨lonIndex, _, rfl⟩ := List.mem_map.mp member
    obtain ⟨lonIndex', _, same⟩ := List.mem_map.mp member'
    exact different (TileName.indices.inj same).1.symm

theorem placeOf_indices {latIndex lonIndex : Int} {route : TileRoute}
    (placed : placeOf catalog (.indices latIndex lonIndex) = some route) :
    catalog.route latIndex lonIndex = .ok route := by
  unfold placeOf normalizeTile at placed
  dsimp only at placed
  cases named : catalog.skadiTileId latIndex lonIndex with
  | error error =>
    rw [named] at placed
    cases placed
  | ok tileId =>
    rw [named] at placed
    change (catalog.route latIndex lonIndex).toOption = some route at placed
    cases routed : catalog.route latIndex lonIndex with
    | error reason =>
      rw [routed] at placed
      cases placed
    | ok found =>
      rw [routed] at placed
      cases placed
      rfl

/-- The tiles of a box lie apart. -/
theorem Layout.spread (layout : Layout catalog) (first last : Int × Int) :
    Spread catalog (tilesBetween first last) := by
  have named : ∀ tile ∈ tilesBetween first last, ∃ latIndex lonIndex,
      tile = .indices latIndex lonIndex := by
    intro tile member
    rw [tilesBetween, List.mem_flatMap] at member
    obtain ⟨latIndex, _, member⟩ := member
    obtain ⟨lonIndex, _, rfl⟩ := List.mem_map.mp member
    exact ⟨latIndex, lonIndex, rfl⟩
  refine List.Pairwise.imp_of_mem ?_ (nodup_tilesBetween first last)
  intro tile other member member' different route route' placed placed'
  obtain ⟨latIndex, lonIndex, rfl⟩ := named tile member
  obtain ⟨latIndex', lonIndex', rfl⟩ := named other member'
  apply layout (latIndex, lonIndex) (latIndex', lonIndex') route route' ?_
    (placeOf_indices placed) (placeOf_indices placed')
  rintro ⟨rfl, rfl⟩
  exact different rfl

/-- A prefetch of a box that returns a report has prefetched the tiles between its corners. -/
theorem prefetchDtedBbox_exec {bbox : Bbox} {before after : Directory} {report : TerrainFetchReport}
    (executed : (prefetchDtedBbox library hgtToDted catalog options bbox).Exec Respond before
      (.ok (.ok report)) after) :
    ∃ minLat minLon maxLat maxLon first last, bbox.minLat.number? = some minLat ∧
      bbox.minLon.number? = some minLon ∧ bbox.maxLat.number? = some maxLat ∧
      bbox.maxLon.number? = some maxLon ∧ catalog.terrainTileIndex minLat minLon = .ok first ∧
      catalog.terrainTileIndex maxLat maxLon = .ok last ∧
      (prefetchDtedTiles library hgtToDted catalog options (tilesBetween first last)).Exec Respond
        before (.ok report) after := by
  unfold prefetchDtedBbox at executed
  split at executed
  · next minLat minLon maxLat maxLon first second third fourth =>
    split at executed
    · cases (Program.exec_pure.mp executed).1
    · split at executed
      · next low indexed =>
        split at executed
        · next high indexed' =>
          obtain ⟨found, between, prefetched, ended⟩ := Program.exec_bind.mp executed
          obtain ⟨same, rfl⟩ := Program.exec_pure.mp ended
          cases same
          exact ⟨minLat, minLon, maxLat, maxLon, low, high, first, second, third, fourth, indexed,
            indexed', prefetched⟩
        · cases (Program.exec_pure.mp executed).1
      · cases (Program.exec_pure.mp executed).1
  · cases (Program.exec_pure.mp executed).1

/-- What a report of a prefetch promises of a point. -/
inductive PointServed (library : Library) (hgtToDted : Int → Int → Bytes → Except Reason Bytes)
    (catalog : TerrainCatalog) (options : TerrainOptions) (lat lon : Number)
    (report : TerrainFetchReport) (after : Directory) (latIndex lonIndex : Int) : Prop where
  | inError (error : TerrainError)
      (reported : (labelOf catalog (.indices latIndex lonIndex), error) ∈ report.errors)
  | located (route : TileRoute) (routed : catalog.route latIndex lonIndex = .ok route)
      (reported : route.path ∈ report.fetched ++ report.cached)
      (served : (fetchDted library hgtToDted catalog options lat lon).Ensures Readable after
        fun outcome last => outcome = .ok (.ok (.path route.path)) ∧ last = after)
  | uncovered (route : TileRoute) (routed : catalog.route latIndex lonIndex = .ok route)
      (reported : route.tileId ∈ report.noCoverage)
      (served : after (.product route.path) = none →
        (fetchDted library hgtToDted catalog options lat lon).Ensures Readable after
          fun outcome last => outcome = .ok (noCoverageResult options route.tileId) ∧ last = after)

/-- After a prefetch of a box, every point in it that has indices is served from the cache: its tile
was reported in error, or a fetch with the same pin returns the path that was reported, or says no
coverage as was reported unless a product lies there, and changes nothing. -/
theorem prefetchDtedBbox_serves (faithful : Faithful library) (layout : Layout catalog)
    (monotone : Monotone catalog) {bbox : Bbox} {before after : Directory}
    {report : TerrainFetchReport} {lat lon : Number} {latIndex lonIndex : Int}
    (executed : (prefetchDtedBbox library hgtToDted catalog options bbox).Exec Respond before
      (.ok (.ok report)) after)
    (inside : bbox.Contains lat lon)
    (indexed : catalog.terrainTileIndex lat lon = .ok (latIndex, lonIndex))
    (pinned : options'.sha256 = options.sha256) :
    PointServed library hgtToDted catalog options' lat lon report after latIndex lonIndex := by
  obtain ⟨minLat, minLon, maxLat, maxLon, first, last, least, least', most, most', low, high,
    prefetched⟩ := prefetchDtedBbox_exec executed
  have above := monotone _ _ _ _ _ _ low indexed (inside.minLat _ least) (inside.minLon _ least')
  have below := monotone _ _ _ _ _ _ indexed high (inside.maxLat _ most) (inside.maxLon _ most')
  have listed : .indices latIndex lonIndex ∈ tilesBetween first last :=
    mem_tilesBetween ⟨above.1, below.1⟩ ⟨above.2, below.2⟩
  obtain ⟨outcomes, rfl, accounted⟩ :=
    (prefetch_accounts faithful (layout.spread first last)).exec prefetched
  obtain ⟨outcome, member, holds⟩ := forall₂_partner accounted listed
  have found : ∀ route, placeOf catalog (.indices latIndex lonIndex) = some route →
      (tileCall catalog options' latIndex lonIndex).route = .ok route :=
    fun route placed => placeOf_indices placed
  have located : ∀ path, path ∈ (reportOf outcomes).fetched ++ (reportOf outcomes).cached →
      (∃ route, placeOf catalog (.indices latIndex lonIndex) = some route ∧ path = route.path ∧
        Covered library options.sha256 route.path after) →
      PointServed library hgtToDted catalog options' lat lon (reportOf outcomes) after latIndex
        lonIndex := by
    rintro _ reported ⟨route, placed, rfl, covered⟩
    rw [← pinned] at covered
    refine .located route (placeOf_indices placed) reported ?_
    unfold fetchDted
    rw [indexed]
    exact (readable_covered (found route placed) covered).andThen
      (Program.ensures_pure.mpr ⟨rfl, rfl⟩)
  cases outcome with
  | error error =>
    obtain ⟨label, error⟩ := error
    cases (show label = labelOf catalog (.indices latIndex lonIndex) from holds)
    exact .inError error (mem_errors.mpr member)
  | ok result =>
    cases result with
    | cached path =>
      exact located path (List.mem_append_right _ (mem_cached.mpr member)) holds
    | fetched path =>
      exact located path (List.mem_append_left _ (mem_fetched.mpr member)) holds
    | noCoverage tileId =>
      obtain ⟨route, placed, rfl, uncovered⟩ := holds
      refine .uncovered route (placeOf_indices placed) (mem_noCoverage.mpr member) ?_
      intro absent
      unfold fetchDted
      rw [indexed]
      exact (readable_uncovered (found route placed) uncovered absent).andThen
        (Program.ensures_pure.mpr ⟨rfl, rfl⟩)

end Boxes

section Sample

/-- A core that knows two tiles. -/
def twoTiles : TerrainCatalog where
  parseSkadiTileId tileId :=
    if tileId = rockiesRoute.tileId then .ok (36, -107) else .error (.invalidTileId tileId)
  skadiTileId latIndex lonIndex :=
    if (latIndex, lonIndex) = (36, -107) then .ok rockiesRoute.tileId else .ok oceanRoute.tileId
  terrainTileIndex lat lon := .ok (lat.value.floor, lon.value.floor)
  route latIndex lonIndex :=
    if (latIndex, lonIndex) = (36, -107) then .ok rockiesRoute
    else if (latIndex, lonIndex) = (0, -161) then .ok oceanRoute
    else .error (.product "tile")

theorem twoTiles_route {index : Int × Int} {route : TileRoute}
    (routed : twoTiles.route index.1 index.2 = .ok route) :
    index = (36, -107) ∧ route = rockiesRoute ∨ index = (0, -161) ∧ route = oceanRoute := by
  simp only [twoTiles] at routed
  by_cases rockies : (index.1, index.2) = (36, -107)
  · rw [if_pos rockies] at routed
    cases routed
    exact .inl ⟨rockies, rfl⟩
  · rw [if_neg rockies] at routed
    by_cases ocean : (index.1, index.2) = (0, -161)
    · rw [if_pos ocean] at routed
      cases routed
      exact .inr ⟨ocean, rfl⟩
    · rw [if_neg ocean] at routed
      cases routed

theorem rockies_apart : oceanRoute.path ≠ rockiesRoute.path ∧ Apart rockiesRoute oceanRoute :=
  ⟨by decide, by decide, by decide⟩

theorem layout_twoTiles : Layout twoTiles := by
  intro first second route route' different routed routed'
  rcases twoTiles_route routed with ⟨rfl, rfl⟩ | ⟨rfl, rfl⟩
  · rcases twoTiles_route routed' with ⟨rfl, rfl⟩ | ⟨rfl, rfl⟩
    · exact absurd rfl different
    · exact rockies_apart
  · rcases twoTiles_route routed' with ⟨rfl, rfl⟩ | ⟨rfl, rfl⟩
    · exact ⟨rockies_apart.1.symm, rockies_apart.2.symm⟩
    · exact absurd rfl different

theorem monotone_twoTiles : Monotone twoTiles := by
  intro lat lon lat' lon' index index' indexed indexed' lats lons
  cases indexed
  cases indexed'
  exact ⟨Rat.floor_monotone lats, Rat.floor_monotone lons⟩

/-- Plain options, online or offline. -/
def plainOptions (offline : Bool) : TerrainOptions where
  sha256 := .absent
  offline := offline
  strict := false
  maxDecompressedBytes := 1000

/-- Two tiles and a name that is none. -/
def namedTiles : List TileName := [.skadi "N36W107", .indices 0 (-161), .skadi "bad"]

/-- The answers from a cache while the archive has no tile. -/
abbrev answers : (request : Request) → Directory → Answer request × Directory := reply noTile

theorem readable_answers (request : Request) (directory : Directory) :
    Readable request directory (answers request directory).1 (answers request directory).2 := by
  apply And.intro (respond_reply noTile request directory)
  cases request with
  | read file =>
    cases found : directory file with
    | none => simp [answers, reply, found, reads]
    | some data => simp [answers, reply, found, reads]
  | _ => trivial

/-- The prefetch of the tiles. -/
def prefetchNamed (offline : Bool) : Action TerrainFetchReport :=
  prefetchDtedTiles rockiesLibrary noDted twoTiles (plainOptions offline) namedTiles

/-- What a report is of the tiles. -/
def isPartition : Except Raised TerrainFetchReport → Bool
  | .ok report => report.fetched.isEmpty && report.cached == [rockiesRoute.path] &&
      report.noCoverage == ["N00W161"] && report.errors.map (·.1) == [.skadi "bad"]
  | .error _ => false

/-- The cache after the online prefetch. -/
def prefetchedCache : Directory := ((prefetchNamed false).replay answers rockiesCache).2

theorem partitions : isPartition ((prefetchNamed false).replay answers rockiesCache).1 = true ∧
    isPartition ((prefetchNamed true).replay answers prefetchedCache).1 = true := by
  decide +kernel

/-- The two tiles that have places lie apart. -/
theorem spread_named : Spread twoTiles namedTiles := by
  have rockies : placeOf twoTiles (.skadi "N36W107") = some rockiesRoute := by decide +kernel
  have ocean : placeOf twoTiles (.indices 0 (-161)) = some oceanRoute := by decide +kernel
  have unplaced : placeOf twoTiles (.skadi "bad") = none := by decide +kernel
  refine .cons ?_ (.cons ?_ (.cons ?_ .nil))
  · intro other member route route' placed placed'
    rcases List.mem_pair.mp member with rfl | rfl
    · rw [rockies, Option.some.injEq] at placed
      rw [ocean, Option.some.injEq] at placed'
      rw [← placed, ← placed']
      exact rockies_apart
    · rw [unplaced] at placed'
      cases placed'
  · intro other member route route' placed placed'
    rw [List.mem_singleton.mp member, unplaced] at placed'
    cases placed'
  · intro other member
    cases member

theorem isPartition_report {outcome : Except Raised TerrainFetchReport}
    (partitions : isPartition outcome = true) : ∃ report, outcome = .ok report ∧
      report.cached = [rockiesRoute.path] ∧ report.noCoverage = ["N00W161"] := by
  cases outcome with
  | error reason => cases partitions
  | ok report =>
    simp only [isPartition, Bool.and_eq_true, beq_iff_eq] at partitions
    exact ⟨report, rfl, partitions.1.1.2, partitions.1.2⟩

/-- The prefetch of the tiles is repeated offline. -/
theorem prefetch_repeats_offline :
    ∃ report repeated last, report.cached = [rockiesRoute.path] ∧
      report.noCoverage = ["N00W161"] ∧
      Repeats twoTiles namedTiles prefetchedCache report repeated ∧
      ((plainOptions true).offline = true → last = prefetchedCache ∧ repeated.fetched = []) := by
  obtain ⟨report, first, cached, uncovered⟩ := isPartition_report partitions.1
  obtain ⟨repeated, second, _, _⟩ := isPartition_report partitions.2
  have executed := Program.exec_replay (respond_reply noTile) (prefetchNamed false) rockiesCache
  rw [first] at executed
  have again := Program.exec_replay readable_answers (prefetchNamed true) prefetchedCache
  rw [second] at again
  have repeats := prefetch_repeats faithful_rockies spread_named executed again rfl
  exact ⟨report, repeated, _, cached, uncovered, repeats⟩

/-- The box of the tile in the cache. -/
def rockiesBox : Bbox where
  minLat := .number (.int 36)
  minLon := .number (.int (-107))
  maxLat := .number (.int 36)
  maxLon := .number (.int (-107))

/-- The prefetch of that box. -/
def prefetchBox : Action (Except TerrainError TerrainFetchReport) :=
  prefetchDtedBbox rockiesLibrary noDted twoTiles (plainOptions false) rockiesBox

/-- What a report is of the box. -/
def isBoxReport : Except Raised (Except TerrainError TerrainFetchReport) → Bool
  | .ok (.ok report) => report.cached == [rockiesRoute.path]
  | _ => false

theorem boxReport : isBoxReport (prefetchBox.replay answers rockiesCache).1 = true := by
  decide +kernel

/-- After the prefetch of the box its corner is served offline. -/
theorem prefetchDtedBbox_serves_corner :
    ∃ report after, report.cached = [rockiesRoute.path] ∧
      PointServed rockiesLibrary noDted twoTiles (plainOptions true) (.int 36) (.int (-107)) report
        after 36 (-107) := by
  have executed := Program.exec_replay (respond_reply noTile) prefetchBox rockiesCache
  have inside : rockiesBox.Contains (.int 36) (.int (-107)) := by
    constructor
    · intro bound same
      cases same
      exact le_rfl
    · intro bound same
      cases same
      exact le_rfl
    · intro bound same
      cases same
      exact le_rfl
    · intro bound same
      cases same
      exact le_rfl
  have indexed : twoTiles.terrainTileIndex (.int 36) (.int (-107)) = .ok (36, -107) := by
    exact congrArg Except.ok (Prod.ext (Rat.floor_intCast 36) (Rat.floor_intCast (-107)))
  have box := boxReport
  cases returned : (prefetchBox.replay answers rockiesCache).1 with
  | error reason =>
    rw [returned] at box
    cases box
  | ok result =>
    cases result with
    | error error =>
      rw [returned] at box
      cases box
    | ok report =>
      rw [returned] at box executed
      have cached : report.cached = [rockiesRoute.path] := by simpa [isBoxReport] using box
      exact ⟨report, _, cached, prefetchDtedBbox_serves faithful_rockies layout_twoTiles
        monotone_twoTiles executed inside indexed rfl⟩

end Sample

end Sidereon.Cache
