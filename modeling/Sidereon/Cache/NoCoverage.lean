import Sidereon.Cache.Effects
import Sidereon.Cache.Evidence
import Sidereon.Cache.Terrain

/-!
# No coverage is never invented

Calls for one tile follow each other, each of them completed or cut off after any of its answered
calls. A marker holds what a call wrote that the archive answered not-found, and it is consulted
only after the data file was found missing.
-/

namespace Sidereon.Cache

open Foundation

variable {library : Library} {hgtToDted : Int → Int → Bytes → Except Reason Bytes}
  {path : CachePath} {route : TileRoute}

/-- The archive answered a call not-found for the URL and protocol of a tile. -/
def NotFound (route : TileRoute) (past : Past) : Prop :=
  ∃ url, (⟨.download route.url route.protocol, .error (.notFoundOnArchive url)⟩ :
    Event Request Answer) ∈ past

/-- What a call writes to a marker at one of the times it was told. -/
def IsPayload (library : Library) (route : TileRoute) (past : Past) (bytes : Bytes) : Prop :=
  ∃ now, (⟨.now, now⟩ : Event Request Answer) ∈ past ∧
    bytes = library.encode (.object (noCoveragePayload library route now))

/-- The renames of a call: onto the marker, only a payload after a not-found. -/
def TileRenames (library : Library) (route : TileRoute) (past : Past) (source target : File) :
    Prop :=
  target = markerFile route.path →
    NotFound route past ∧ ∃ bytes, grip past source = .holds bytes ∧
      IsPayload library route past bytes

/-- The calls of a fetch of a tile: those of the other fetches, and the removal of the marker. -/
def TilePermits (library : Library) (route : TileRoute) (past : Past) (request : Request) : Prop :=
  Permits (TileRenames library route) past request ∨ request = .remove (markerFile route.path)

/-- The history of a call that finds no data file and reads the marker. -/
def consulted (path : CachePath) (bytes : Bytes) : Past :=
  [⟨.read (markerFile path), .ok bytes⟩, ⟨.read (.product path), .error .enoent⟩]

/-- A marker says that a tile is not covered. -/
def ReadsNoCoverage (library : Library) (route : TileRoute) (bytes : Bytes) : Prop :=
  ∃ json, library.decode bytes = some json ∧ marksNoCoverage route json = true

/-- No coverage is said of the tile asked for, after a not-found or by the marker alone. -/
def Founded (library : Library) (route : TileRoute) (past : Past) (tileId : String) : Prop :=
  tileId = route.tileId ∧ (NotFound route past ∨
    ∃ bytes, past = consulted route.path bytes ∧ ReadsNoCoverage library route bytes)

section Contract

variable {past past' : Past}

/-- A not-found stays known. -/
theorem NotFound.later (found : NotFound route past) (suffix : past <:+ past') :
    NotFound route past' := by
  obtain ⟨url, member⟩ := found
  exact ⟨url, suffix.subset member⟩

/-- A payload stays one. -/
theorem IsPayload.later {bytes : Bytes} (payload : IsPayload library route past bytes)
    (suffix : past <:+ past') : IsPayload library route past' bytes := by
  obtain ⟨now, member, same⟩ := payload
  exact ⟨now, suffix.subset member, same⟩

/-- A classification by the sidecar is never that the product is absent. -/
theorem returns_classifyWithProvenance {got : String} :
    (classifyWithProvenance library path got).Returns (· ≠ .absent) := by
  rw [classifyWithProvenance]
  apply (Program.returns_any _).bind
  intro read _
  cases read with
  | none => simp
  | some provenance =>
    apply (Program.returns_any _).bind
    intro digest _
    cases digest with
    | string expected =>
      dsimp only
      split
      · simp
      · simp
    | _ => simp

/-- A classification by the sidecar reads. -/
theorem uses_classifyWithProvenance {got : String} :
    (classifyWithProvenance library path got).Uses (∃ file, · = .read file) := by
  rw [classifyWithProvenance, readJson]
  apply Program.Uses.bind
  · apply Program.Uses.bind
    · exact Program.uses_perform.mpr ⟨_, rfl⟩
    · intro answer
      cases answer with
      | ok bytes => simp
      | error reason => simp
  · intro read
    cases read with
    | none => simp
    | some provenance =>
      apply Program.Uses.bind Program.uses_orCrash
      intro digest
      cases digest with
      | string expected =>
        dsimp only
        split
        · simp
        · simp
      | _ => simp

/-- A product is absent only when its read says so. -/
theorem keeps_classifyAbsent {pin : Pin} :
    Program.Keeps (TilePermits library route) Expects
      (fun past outcome => outcome = .ok .absent →
        past = [⟨.read (.product path), .error .enoent⟩]) []
      (classifyDataFile library path pin) := by
  have bySidecar : ∀ (past : Past) (got : String),
      Program.Keeps (TilePermits library route) Expects
        (fun past outcome => outcome = .ok .absent →
          past = [⟨.read (.product path), .error .enoent⟩]) past
        (classifyWithProvenance library path got) := by
    intro past got
    have reads : Program.Keeps (TilePermits library route) Expects (fun _ _ => True) past
        (classifyWithProvenance library path got) := by
      apply uses_classifyWithProvenance.keeps
      · rintro _ _ _ ⟨file, rfl⟩
        exact .inl trivial
      · exact fun _ _ _ _ _ => trivial
      · trivial
    apply (reads.and_returns returns_classifyWithProvenance).mono
    intro history outcome returned absent
    exact absurd rfl (returned.2 _ absent)
  rw [classifyDataFile, Program.keeps_bind, keeps_readFile]
  apply And.intro (.inl trivial)
  intro answer _
  cases answer with
  | error reason =>
    cases reason with
    | enoent => exact fun _ => rfl
    | eexist => simp
    | other reason => simp
  | ok data =>
    cases pin with
    | digest text =>
      dsimp only
      split
      · simp
      · simp
    | absent => exact bySidecar _ _
    | other inspected => exact bySidecar _ _

/-- A classification as not covered rests on the marker. -/
theorem keeps_classifyTerrain {pin : Pin} :
    Program.Keeps (TilePermits library route) Expects
      (fun past outcome => ∀ tileId, outcome = .ok (.noCoverage tileId) →
        Founded library route past tileId) []
      (classifyTerrain library route pin) := by
  rw [classifyTerrain]
  apply keeps_classifyAbsent.bind
  case crashes => simp
  intro past classified absent
  cases classified with
  | absent =>
    obtain rfl := absent rfl
    change Program.Keeps _ _ _ _ (classifyMarker library route)
    rw [classifyMarker, Program.keeps_bind]
    apply keeps_readJson (.inl trivial)
    case unread => simp
    intro bytes
    cases decoded : library.decode bytes with
    | none => simp
    | some json =>
      dsimp only
      split
      · next marks =>
        intro tileId same
        cases same
        exact ⟨rfl, .inr ⟨bytes, rfl, json, decoded, marks⟩⟩
      · simp
  | _ => simp

/-- The marker is written after a not-found, and holds the payload. -/
theorem keeps_commitNoCoverageMarker {post : Past → Except Raised (Except Reason Unit) → Prop}
    (found : NotFound route past) (any : ∀ after result, past <:+ after → post after (.ok result)) :
    Program.Keeps (Permits (TileRenames library route)) Expects post past
      (commitNoCoverageMarker library route) := by
  rw [commitNoCoverageMarker, Program.keeps_bind, keeps_utcNow]
  apply And.intro trivial
  intro now _
  have told : past <:+ ⟨.now, now⟩ :: past := List.suffix_cons _ _
  change Program.Keeps _ _ _ _ (ensureDir _ >>= _)
  rw [Program.keeps_bind]
  apply keeps_ensureDir
  case failed => exact fun after reason spoiled => any after _ (told.trans spoiled.later)
  intro ready made
  change Program.Keeps _ _ _ _ (writeTemp _ _ >>= _)
  rw [Program.keeps_bind]
  apply keeps_writeTemp
  case spoiled =>
    intro after reason spoiled
    exact any after _ ((told.trans made.later).trans spoiled.later)
  intro written tmp _ _ wrote
  have onward := made.later.trans wrote.later
  have holds : grip written tmp =
      .holds (library.encode (.object (noCoveragePayload library route now))) := by
    rw [wrote.has, Function.update_self]
  have payload : IsPayload library route written
      (library.encode (.object (noCoveragePayload library route now))) :=
    ⟨now, onward.subset (List.mem_cons_self ..), rfl⟩
  apply keeps_renameFile
  case permitted =>
    constructor
    · simp [holds]
    · exact ⟨id, fun _ => ⟨found.later (told.trans onward), _, holds, payload⟩⟩
  case renamed => exact any _ _ ((told.trans onward).trans (List.suffix_cons _ _))
  case failed =>
    intro reason result
    exact any _ _ ((told.trans onward).trans (List.suffix_cons _ _))

/-- A tile is committed under its own name and its sidecar's. -/
theorem keeps_commitTile (data : Bytes) (provenance : Json) :
    Program.Keeps (Permits (TileRenames library route)) Expects
      (fun after outcome => ∃ result, outcome = .ok result ∧ Committed past after result) past
      (commitFile library route.path data provenance) := by
  apply keeps_commitFile
  · intro after file _ _ same
    cases same
  · intro after file _ _ _ same
    exact absurd (File.product.inj same).symm (noCoverageMarkerPath_ne route.path)

/-- What follows a download says nothing of coverage. -/
theorem keeps_cacheDted {request : TileCall} {hgtGz : Bytes}
    {post : Past → Except Raised (Except Reason Tile) → Prop}
    (fetched : ∀ after, post after (.ok (.ok (.fetched route.path))))
    (failed : ∀ after reason, post after (.ok (.error reason))) :
    Program.Keeps (TilePermits library route) Expects post past
      (cacheDted library hgtToDted request route hgtGz) := by
  unfold cacheDted
  split
  · split
    · split
      · rw [Program.keeps_bind, keeps_utcNow]
        apply And.intro (.inl trivial)
        intro now _
        change Program.Keeps _ _ _ _ (commitFile _ _ _ _ >>= _)
        apply ((keeps_commitTile _ _).allow fun _ _ => .inl).bind
        · intro after result _
          cases result with
          | error reason => exact failed after reason
          | ok done => exact ⟨.inr rfl, fun answer _ => fetched _⟩
        · rintro after reason ⟨result, impossible, _⟩
          cases impossible
      · exact failed past _
    · exact failed past _
  · exact failed past _

/-- A download says no coverage after a not-found only. -/
theorem keeps_downloadAndCacheDted {request : TileCall} :
    Program.Keeps (TilePermits library route) Expects
      (fun past outcome => ∀ tileId, outcome = .ok (.ok (.noCoverage tileId)) →
        Founded library route past tileId) past
      (downloadAndCacheDted library hgtToDted request route) := by
  rw [downloadAndCacheDted, Program.keeps_bind, Program.keeps_perform]
  apply And.intro (.inl trivial)
  intro answer _
  cases answer with
  | ok hgtGz =>
    apply keeps_cacheDted
    · simp
    · simp
  | error reason =>
    cases reason with
    | notFoundOnArchive url =>
      have found : NotFound route (⟨.download route.url route.protocol,
          .error (.notFoundOnArchive url)⟩ :: past) :=
        ⟨url, List.mem_cons_self ..⟩
      change Program.Keeps _ _ _ _ (commitNoCoverageMarker library route >>= _)
      rw [Program.keeps_bind]
      apply (keeps_commitNoCoverageMarker found _).allow fun _ _ => .inl
      intro after result suffix
      cases result with
      | error reason => simp
      | ok done =>
        intro tileId same
        cases same
        exact ⟨rfl, .inl (found.later suffix)⟩
    | _ => simp

/-- A fetch of a tile keeps its contract and says no coverage on grounds only. -/
theorem keeps_fetchDtedTile {request : TileCall} (routed : request.route = .ok route) :
    Program.Keeps (TilePermits library route) Expects
      (fun past outcome => ∀ tileId, outcome = .ok (.ok (.noCoverage tileId)) →
        Founded library route past tileId) []
      (fetchDtedTile library hgtToDted request) := by
  have missing : ∀ past, Program.Keeps (TilePermits library route) Expects
      (fun past outcome => ∀ tileId, outcome = .ok (.ok (.noCoverage tileId)) →
        Founded library route past tileId) past
      (fetchDtedOnMiss library hgtToDted request route) := by
    intro past
    unfold fetchDtedOnMiss
    split
    · simp
    · exact keeps_downloadAndCacheDted
  rw [fetchDtedTile, routed]
  apply keeps_classifyTerrain.bind
  case crashes => simp
  intro past classified founded
  cases classified with
  | noCoverage tileId =>
    intro tileId' same
    cases same
    exact founded tileId rfl
  | data classification =>
    cases classification with
    | hit found => simp [fetchDtedClassified]
    | absent => exact missing past
    | unverified found => exact missing past
    | stale reason =>
      simp only [fetchDtedClassified]
      split
      · simp
      · exact keeps_downloadAndCacheDted
    | error reason => simp [fetchDtedClassified]

end Contract

section Attempts

variable {past : Past} {before after : Directory}

/-- What an attempt at a tile has done: a data file stays, a committed one is there, and the marker
is as it was or gone, or holds the payload of a not-found. -/
structure TileWork (library : Library) (route : TileRoute) (before : Directory) (past : Past)
    (after : Directory) : Prop where
  holding : Holding past after
  kept : before (.product route.path) ≠ none → after (.product route.path) ≠ none
  committed : Placed past (.product route.path) → after (.product route.path) ≠ none
  unmarked : ¬Placed past (markerFile route.path) →
    after (markerFile route.path) = none ∨
      after (markerFile route.path) = before (markerFile route.path)
  marked : Placed past (markerFile route.path) → NotFound route past ∧
    (after (markerFile route.path) = none ∨
      ∃ bytes, after (markerFile route.path) = some bytes ∧ IsPayload library route past bytes)

/-- Before its first call an attempt has done nothing. -/
theorem TileWork.nil : TileWork library route before [] before := by
  have unplaced : ∀ file, ¬Placed [] file := by
    rintro file ⟨source, member⟩
    cases member
  constructor
  · exact .nil
  · exact id
  · exact fun placed => absurd placed (unplaced _)
  · exact fun _ => .inr rfl
  · exact fun placed => absurd placed (unplaced _)

/-- A call that keeps a tile there and writes no marker. -/
theorem TileWork.unmarking {between : Directory} {event : Event Request Answer}
    (work : TileWork library route before past between) (holding : Holding (event :: past) after)
    (stays : between (.product route.path) ≠ none → after (.product route.path) ≠ none)
    (placed : Placed (event :: past) (.product route.path) →
      Placed past (.product route.path) ∨ after (.product route.path) ≠ none)
    (marker : after (markerFile route.path) = none ∨
      after (markerFile route.path) = between (markerFile route.path))
    (unplaced' : Placed (event :: past) (markerFile route.path) ↔
      Placed past (markerFile route.path)) :
    TileWork library route before (event :: past) after where
  holding := holding
  kept present := stays (work.kept present)
  committed latest := (placed latest).elim (fun earlier => stays (work.committed earlier)) id
  unmarked placed := by
    rcases marker with gone | same
    · exact .inl gone
    · rw [same]
      exact work.unmarked fun earlier => placed (unplaced'.mpr earlier)
  marked placed := by
    obtain ⟨found, cases⟩ := work.marked (unplaced'.mp placed)
    have suffix : past <:+ event :: past := List.suffix_cons _ _
    apply And.intro (found.later suffix)
    rcases marker with gone | same
    · exact .inl gone
    · rw [same]
      rcases cases with gone | ⟨bytes, held, payload⟩
      · exact .inl gone
      · exact .inr ⟨bytes, held, payload.later suffix⟩

/-- The removal of the marker. -/
theorem TileWork.removed {between : Directory} {answer : Except Posix Unit}
    (work : TileWork library route before past between)
    (responded : Respond (.remove (markerFile route.path)) between answer after) :
    TileWork library route before (⟨.remove (markerFile route.path), answer⟩ :: past) after := by
  have free : grip past (markerFile route.path) = .free := by
    by_contra has
    exact work.holding.temp _ has
  have held : grip (⟨.remove (markerFile route.path), answer⟩ :: past) = grip past := by
    cases answer with
    | error reason => rfl
    | ok done =>
      change Function.update (grip past) _ Grip.free = _
      rw [← free, Function.update_eq_self]
  have different : File.product route.path ≠ markerFile route.path := by
    intro same
    exact noCoverageMarkerPath_ne route.path (File.product.inj same).symm
  have unplaced : ∀ file, Placed (⟨.remove (markerFile route.path), answer⟩ :: past) file ↔
      Placed past file := by
    intro file
    rw [placed_cons]
    simp
  have changed : after = between ∨
      after = Function.update between (markerFile route.path) none := by
    cases answer with
    | ok done => exact .inr responded.2
    | error reason =>
      cases reason with
      | enoent => exact .inl responded.2
      | eexist => exact .inl responded
      | other reason => exact .inl responded
  have others : ∀ file, file ≠ markerFile route.path → after file = between file := by
    intro file other
    rcases changed with same | gone
    · rw [same]
    · rw [gone, Function.update_of_ne other]
  apply work.unmarking
  · constructor
    · rw [held]
      exact work.holding.temp
    · rw [held]
      intro file has
      rw [others file fun same => has (same ▸ free)]
      exact work.holding.present file has
    · rw [held]
      intro file data holds
      rw [others file fun same => by rw [same, free] at holds; cases holds]
      exact work.holding.contents file data holds
  · rw [others _ different]
    exact id
  · exact fun placed => .inl ((unplaced _).mp placed)
  · rcases changed with same | gone
    · exact .inr (by rw [same])
    · exact .inl (by rw [gone, Function.update_self])
  · exact unplaced _

/-- Every call of an attempt adds to its work. -/
theorem TileWork.answered {between : Directory} {request : Request} {answer : Answer request}
    (work : TileWork library route before past between)
    (permitted : TilePermits library route past request)
    (responded : Respond request between answer after) :
    Expects past request answer ∧ TileWork library route before (⟨request, answer⟩ :: past) after := by
  rcases permitted with plain | rfl
  · obtain ⟨expected, effect⟩ := respond_effect work.holding plain responded
    apply And.intro expected
    have holding := effect.holding work.holding
    rcases effect.plain work.holding (.product route.path) id with
      ⟨product, placed⟩ | ⟨source, contents, renamed, _, found, now⟩
    · rcases effect.plain work.holding (markerFile route.path) id with
        ⟨marker, placed'⟩ | ⟨source, contents, renamed, _, found, now⟩
      · apply work.unmarking holding
        · rw [product]
          exact id
        · exact fun latest => .inl (placed.mp latest)
        · exact .inr marker
        · exact placed'
      · -- The call renamed a payload onto the marker.
        cases renamed
        obtain ⟨missing, bytes, holds, payload⟩ := plain.2.2 rfl
        have same := work.holding.contents source bytes holds
        rw [found, Option.some.injEq] at same
        have suffix : past <:+ ⟨.rename source (markerFile route.path), .ok ()⟩ :: past :=
          List.suffix_cons _ _
        constructor
        · exact holding
        · exact fun present => product ▸ work.kept present
        · exact fun earlier => product ▸ work.committed (placed.mp earlier)
        · exact fun unplaced => absurd ⟨source, List.mem_cons_self ..⟩ unplaced
        · intro _
          apply And.intro (missing.later suffix)
          exact .inr ⟨bytes, by rw [now, same], payload.later suffix⟩
    · -- The call renamed a tile into place.
      have present : after (.product route.path) ≠ none := by simp [now]
      rcases effect.plain work.holding (markerFile route.path) id with
        ⟨marker, placed'⟩ | ⟨source', _, renamed', _⟩
      · apply work.unmarking holding
        · exact fun _ => present
        · exact fun _ => .inr present
        · exact .inr marker
        · exact placed'
      · rw [renamed] at renamed'
        simp only [Event.mk.injEq, Request.rename.injEq] at renamed'
        exact absurd (File.product.inj renamed'.1.2).symm (noCoverageMarkerPath_ne route.path)
  · constructor
    · cases answer <;> trivial
    · exact work.removed responded

/-- An attempt at a tile, wherever it is cut off, does such work, and what it returns is founded. -/
theorem tileWork_attempt {request : TileCall} {rest : Action (Except Reason Tile)}
    (routed : request.route = .ok route)
    (attempt : (fetchDtedTile library hgtToDted request).Attempt Respond before past rest after) :
    TileWork library route before past after ∧
      ∀ tileId, rest = .done (.ok (.noCoverage tileId)) → Founded library route past tileId := by
  have keeps : Program.Keeps (TilePermits library route) Expects
      (fun past outcome => ∀ tileId, outcome = .ok (.ok (.noCoverage tileId)) →
        Founded library route past tileId) []
      (fetchDtedTile library hgtToDted request) :=
    keeps_fetchDtedTile routed
  have reached := keeps.attempt (fun past after => TileWork library route before past after) .nil
    (fun _ _ _ _ _ work permitted responded => work.answered permitted responded) attempt
  apply And.intro reached.1
  rintro tileId rfl
  exact reached.2 tileId rfl

/-- A call that only consults the marker finds no data file and changes nothing. -/
theorem attempt_consulted {program rest : Action (Except Reason Tile)} {bytes : Bytes}
    (attempt : program.Attempt Respond before (consulted path bytes) rest after) :
    before (.product path) = none ∧ before (markerFile path) = some bytes ∧ after = before := by
  obtain ⟨_, between, earlier, held, rfl⟩ := attempt.last
  obtain ⟨_, first, unasked, absent, rfl⟩ := earlier.last
  obtain rfl := unasked.unanswered
  exact ⟨absent, held, rfl⟩

end Attempts

section Runs

/-- A call for a tile: the request, what it was answered, and what it has left. -/
structure TileAttempt where
  request : TileCall
  past : Past
  rest : Action (Except Reason Tile)

/-- One call for the tile at a path, completed or cut off. -/
def TileStep (library : Library) (hgtToDted : Int → Int → Bytes → Except Reason Bytes)
    (path : CachePath) (before : Directory) (attempt : TileAttempt) (after : Directory) : Prop :=
  (∀ route, attempt.request.route = .ok route → route.path = path) ∧
    (fetchDtedTile library hgtToDted attempt.request).Attempt Respond before attempt.past
      attempt.rest after

/-- The calls of a run for a tile. -/
abbrev TileCalls := List (Taken Directory TileAttempt)

/-- A call placed a file. -/
def Places (file : File) (taken : Taken Directory TileAttempt) : Prop :=
  Placed taken.label.past file

/-- A call wrote the marker of its tile after a not-found. -/
structure Marks (library : Library) (asked : TileRoute) (bytes : Bytes)
    (writer : Taken Directory TileAttempt) : Prop where
  routed : writer.label.request.route = .ok asked
  placed : Places (markerFile asked.path) writer
  found : NotFound asked writer.label.past
  payload : IsPayload library asked writer.label.past bytes

/-- The last call that placed the marker wrote these bytes after a not-found. -/
def MarkedBy (library : Library) (path : CachePath) (calls : TileCalls) (asked : TileRoute)
    (bytes : Bytes) : Prop :=
  ∃ earlier writer later, calls = earlier ++ writer :: later ∧ asked.path = path ∧
    Marks library asked bytes writer ∧ ∀ between ∈ later, ¬Places (markerFile path) between

variable {start last : Directory} {calls : TileCalls}

/-- A call without a tile is answered nothing. -/
theorem attempt_unrouted {request : TileCall} {reason : Reason} {past : Past}
    {before after : Directory} {rest : Action (Except Reason Tile)}
    (unrouted : request.route = .error reason)
    (attempt : (fetchDtedTile library hgtToDted request).Attempt Respond before past rest after) :
    past = [] ∧ rest = .done (.error reason) ∧ after = before := by
  rw [fetchDtedTile, unrouted] at attempt
  exact Program.attempt_done attempt

/-- A call for a tile does its work, or none when there is no such place. -/
theorem tileStep_work {before after : Directory} {attempt : TileAttempt}
    (step : TileStep library hgtToDted path before attempt after) :
    (∃ route, attempt.request.route = .ok route ∧ route.path = path ∧
      TileWork library route before attempt.past after) ∨ attempt.past = [] ∧ after = before := by
  obtain ⟨onPath, made⟩ := step
  cases routed : attempt.request.route with
  | error reason =>
    have nothing := attempt_unrouted routed made
    exact .inr ⟨nothing.1, nothing.2.2⟩
  | ok route => exact .inl ⟨route, rfl, onPath route routed, (tileWork_attempt routed made).1⟩

/-- Once some call has committed a tile, the tile stays. -/
theorem run_committed (run : Run (TileStep library hgtToDted path) start calls last)
    (committed : ∃ taken ∈ calls, Places (.product path) taken) : last (.product path) ≠ none := by
  induction run with
  | nil => simp at committed
  | snoc run step ih =>
    obtain ⟨taken, member, places⟩ := committed
    rcases tileStep_work step with ⟨route, _, rfl, work⟩ | ⟨nothing, rfl⟩
    · rcases List.mem_append.mp member with earlier | latest
      · exact work.kept (ih ⟨taken, earlier, places⟩)
      · rw [List.mem_singleton.mp latest] at places
        exact work.committed places
    · rcases List.mem_append.mp member with earlier | latest
      · exact ih ⟨taken, earlier, places⟩
      · rw [List.mem_singleton.mp latest, Places, nothing] at places
        obtain ⟨source, impossible⟩ := places
        cases impossible

/-- A marker that was not there at the start was written after a not-found. -/
theorem run_marked (noMarker : start (markerFile path) = none)
    (run : Run (TileStep library hgtToDted path) start calls last) :
    ∀ bytes, last (markerFile path) = some bytes →
      ∃ asked, MarkedBy library path calls asked bytes := by
  induction run with
  | nil =>
    intro bytes present
    rw [noMarker] at present
    cases present
  | @snoc calls state state' attempt run step ih =>
    intro bytes present
    have older : ¬Placed attempt.past (markerFile path) → state (markerFile path) = some bytes →
        ∃ asked, MarkedBy library path (calls ++ [⟨state, attempt, state'⟩]) asked bytes := by
      intro unplaced held
      obtain ⟨asked, earlier, writer, later, rfl, onPath, marks, quiet⟩ := ih bytes held
      refine ⟨asked, earlier, writer, later ++ [⟨state, attempt, state'⟩], ?_, onPath, marks, ?_⟩
      · simp
      intro between member
      rcases List.mem_append.mp member with before | latest
      · exact quiet between before
      · rw [List.mem_singleton.mp latest]
        exact unplaced
    rcases tileStep_work step with ⟨route, routed, rfl, work⟩ | ⟨nothing, rfl⟩
    · by_cases placed : Placed attempt.past (markerFile route.path)
      · obtain ⟨found, gone | ⟨written, held, payload⟩⟩ := work.marked placed
        · rw [gone] at present
          cases present
        · rw [held, Option.some.injEq] at present
          exact ⟨route, calls, _, [], rfl, rfl, ⟨routed, placed, found, present ▸ payload⟩, by simp⟩
      · rcases work.unmarked placed with gone | same
        · rw [gone] at present
          cases present
        · exact older placed (same ▸ present)
    · refine older ?_ present
      rintro ⟨source, impossible⟩
      rw [nothing] at impossible
      cases impossible

/-- A map reads back with the fields it was written with. -/
def ReadsBack (library : Library) (fields : List (String × Json)) : Prop :=
  ∃ read, library.decode (library.encode (.object fields)) = some (.object read) ∧
    ∀ key, read.lookup key = fields.lookup key

/-- A field that is a given text. -/
@[simp] theorem isText_string {expected text : String} :
    isText expected (some (.string text)) = true ↔ text = expected := by
  simp [isText]

/-- A payload that reads back marks only the tile, URL and protocol it was written for. -/
theorem marks_same {asked : TileRoute} {now : DateTime}
    (readsBack : ReadsBack library (noCoveragePayload library asked now))
    (reads : ReadsNoCoverage library route
      (library.encode (.object (noCoveragePayload library asked now)))) :
    asked.tileId = route.tileId ∧ asked.url = route.url ∧ asked.protocol = route.protocol := by
  obtain ⟨fields, decoded, same⟩ := readsBack
  obtain ⟨json, decoded', marks⟩ := reads
  rw [decoded, Option.some.injEq] at decoded'
  subst decoded'
  simp only [marksNoCoverage, same, Bool.and_eq_true] at marks
  obtain ⟨⟨⟨_, tileId⟩, url⟩, protocol⟩ := marks
  simp only [noCoveragePayload, List.lookup_cons, String.reduceBEq, isText_string] at tileId url protocol
  exact ⟨tileId, url, protocol⟩

/-- No coverage is said by a marker: the call found no data file, read the marker that an earlier
call wrote after a not-found for the same tile, URL and protocol, and changed nothing. -/
structure FromMarker (library : Library) (path : CachePath) (earlier : TileCalls)
    (route : TileRoute) (taken : Taken Directory TileAttempt) : Prop where
  absent : taken.before (.product path) = none
  unchanged : taken.after = taken.before
  written : ∃ asked bytes, taken.label.past = consulted path bytes ∧
    MarkedBy library path earlier asked bytes ∧ asked.tileId = route.tileId ∧
    asked.url = route.url ∧ asked.protocol = route.protocol

/-- In every run of calls for a tile that starts without a marker, no coverage is said of the tile
asked for, and only when the archive answered not-found, in this call or in the one that wrote the
marker; once a tile is committed it is said only when this call was answered so. -/
theorem noCoverage_founded (noMarker : start (markerFile path) = none)
    (readsBack : ∀ taken ∈ calls, ∀ route now, taken.label.request.route = .ok route →
      (⟨.now, now⟩ : Event Request Answer) ∈ taken.label.past →
      ReadsBack library (noCoveragePayload library route now))
    (run : Run (TileStep library hgtToDted path) start calls last) :
    ∀ earlier taken later tileId, calls = earlier ++ taken :: later →
      taken.label.rest = .done (.ok (.noCoverage tileId)) →
      ∃ route, taken.label.request.route = .ok route ∧ tileId = route.tileId ∧
        (NotFound route taken.label.past ∨ FromMarker library path earlier route taken) ∧
        ((∃ committed ∈ earlier, Places (.product path) committed) →
          NotFound route taken.label.past) := by
  rintro earlier taken later tileId rfl returned
  obtain ⟨before, step⟩ := run.split
  cases routed : taken.label.request.route with
  | error reason =>
    have nothing := (attempt_unrouted routed step.2).2.1
    rw [returned] at nothing
    cases nothing
  | ok route =>
    obtain rfl := step.1 route routed
    obtain ⟨same, grounds⟩ := (tileWork_attempt routed step.2).2 tileId returned
    refine ⟨route, rfl, same, ?_⟩
    rcases grounds with found | ⟨bytes, consults, reads⟩
    · exact ⟨.inl found, fun _ => found⟩
    · have attempt := step.2
      rw [consults] at attempt
      obtain ⟨absent, held, unchanged⟩ := attempt_consulted attempt
      constructor
      · right
        obtain ⟨asked, marked⟩ := run_marked noMarker before bytes held
        obtain ⟨first, writer, between, rfl, onPath, marks, quiet⟩ := marked
        obtain ⟨now, told, rfl⟩ := marks.payload
        have member : writer ∈ (first ++ writer :: between) ++ taken :: later := by simp
        have agree := marks_same (readsBack writer member asked now marks.routed told) reads
        exact ⟨absent, unchanged, asked, _, consults,
          ⟨first, writer, between, rfl, onPath, marks, quiet⟩, agree⟩
      · intro committed
        exact absurd absent (run_committed before committed)

end Runs

section Sample

/-- The place of a tile in the ocean. -/
def oceanRoute : TileRoute where
  tileId := "N00W161"
  path := ⟨"cache/terrain/N00", "N00W161.dt2"⟩
  url := "https://s3.amazonaws.com/elevation-tiles-prod/skadi/N00/N00W161.hgt.gz"
  protocol := "https"
  compression := "gzip"
  latIndex := 0
  lonIndex := -161

/-- A fetch of that tile, online or offline. -/
def oceanCall (offline : Bool) : TileCall where
  route := .ok oceanRoute
  sha256 := .absent
  offline := offline
  maxDecompressedBytes := 1000

/-- The time of the marker. -/
def oceanLibrary : Library :=
  sampleLibrary [] [(⟨1782864000000000⟩, "2026-07-01T00:00:00.000000Z")]

/-- An archive that has no such tile. -/
def noTile : Setting where
  stamp := (1, 0)
  archive := .error (.notFoundOnArchive oceanRoute.url)
  time := ⟨1782864000000000⟩

/-- A fetch of the tile from a directory, answered a number of calls. -/
def oceanFetch (offline : Bool) (answers : Nat) (before : Directory) :
    Taken Directory TileAttempt :=
  let followed := Program.follow (fun setting => reply setting) (List.replicate answers noTile) []
    (fetchDtedTile oceanLibrary (fun _ _ _ => .ok []) (oceanCall offline)) before
  ⟨before, ⟨oceanCall offline, followed.1, followed.2.1⟩, followed.2.2⟩

/-- Such a fetch is a call for the tile. -/
theorem oceanFetch_step (offline : Bool) (answers : Nat) (before : Directory) :
    TileStep oceanLibrary (fun _ _ _ => .ok []) oceanRoute.path before
      (oceanFetch offline answers before).label (oceanFetch offline answers before).after := by
  constructor
  · intro route routed
    cases routed
    rfl
  · exact Program.attempt_follow respond_reply _ .start

/-- The online fetch that the archive answers not-found. -/
def asks : Taken Directory TileAttempt := oceanFetch false 11 fun _ => none

/-- The offline fetch after it. -/
def remembers : Taken Directory TileAttempt := oceanFetch true 2 asks.after

/-- The offline fetch says no coverage. -/
theorem remembers_returned : remembers.label.rest = .done (.ok (.noCoverage "N00W161")) := by
  rfl

/-- The times of the library. -/
theorem oceanLibrary_times (now : DateTime) :
    oceanLibrary.toIso8601 now = "2026-07-01T00:00:00.000000Z" ∨
      oceanLibrary.toIso8601 now = "" := by
  by_cases same : now = ⟨1782864000000000⟩
  · left
    subst same
    decide +kernel
  · right
    have missing : (now == (⟨1782864000000000⟩ : DateTime)) = false := by simpa using same
    simp [oceanLibrary, sampleLibrary, List.lookup_cons, missing]

/-- Every payload for the tile reads back. -/
theorem ocean_readsBack (now : DateTime) :
    ReadsBack oceanLibrary (noCoveragePayload oceanLibrary oceanRoute now) := by
  unfold noCoveragePayload
  rcases oceanLibrary_times now with time | time
  · rw [time]
    exact ⟨_, rfl, fun _ => rfl⟩
  · rw [time]
    exact ⟨_, rfl, fun _ => rfl⟩

/-- The offline fetch of a tile says no coverage by the marker of the online one. -/
theorem noCoverage_founded_offline :
    ∃ route, remembers.label.request.route = .ok route ∧ "N00W161" = route.tileId ∧
      (NotFound route remembers.label.past ∨
        FromMarker oceanLibrary oceanRoute.path [asks] route remembers) ∧
      ((∃ committed ∈ [asks], Places (.product oceanRoute.path) committed) →
        NotFound route remembers.label.past) := by
  have run : Run (TileStep oceanLibrary (fun _ _ _ => .ok []) oceanRoute.path) (fun _ => none)
      [asks, remembers] remembers.after :=
    (Run.nil.snoc (oceanFetch_step false 11 _)).snoc (oceanFetch_step true 2 _)
  have readsBack : ∀ taken ∈ [asks, remembers], ∀ route now,
      taken.label.request.route = .ok route →
      (⟨.now, now⟩ : Event Request Answer) ∈ taken.label.past →
      ReadsBack oceanLibrary (noCoveragePayload oceanLibrary route now) := by
    intro taken member route now routed _
    have same : route = oceanRoute := by
      rcases List.mem_pair.mp member with rfl | rfl
      · cases routed
        rfl
      · cases routed
        rfl
    rw [same]
    exact ocean_readsBack now
  exact noCoverage_founded rfl readsBack run [asks] remembers [] "N00W161" rfl remembers_returned

end Sample

end Sidereon.Cache
