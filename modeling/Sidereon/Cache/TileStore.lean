import Mathlib.Data.List.Nodup
import Sidereon.Cache.NoCoverage
import Sidereon.Distribution.Json

/-!
# The store of terrain tiles

A ledger says of each tile what the last call for it has settled: that the tile is covered, or that
the archive has none. The directory upholds the ledger through every run of calls, completed or cut
off, and what the ledger says is served from the directory alone.
-/

namespace Sidereon.Cache

open Foundation

variable {library : Library} {hgtToDted : Int → Int → Bytes → Except Reason Bytes}
  {path : CachePath} {route : TileRoute} {pin : Pin} {directory : Directory}

/-- A value of a flat map that `Jason` prints and reads back as it is. -/
def Json.isScalar : Json → Bool
  | .string _ => true
  | .number (.int _) => true
  | _ => false

/-- What the cache relies on in its libraries: digests are lower-case, and flat maps read back. -/
structure Faithful (library : Library) : Prop where
  lowercase : ∀ data, library.downcase (library.sha256 data) = library.sha256 data
  readsBack : ∀ fields : List (String × Json), (fields.map (·.1)).Nodup →
    (∀ field ∈ fields, field.2.isScalar = true) → ReadsBack library fields

section Frame

/-- The files of a tile: its product, its sidecar and its marker. -/
def OfTile (path : CachePath) (file : File) : Prop :=
  file = .product path ∨ file = .sidecar path ∨ file = markerFile path

/-- The calls of a fetch of a tile: they change temporary files and the files of the tile. -/
def StaysWithin (path : CachePath) : Request → Prop
  | .openExclusive file => file.IsTemp
  | .write file _ => file.IsTemp
  | .sync file => file.IsTemp
  | .close file => file.IsTemp
  | .rename source target => source.IsTemp ∧ OfTile path target
  | .remove file => file.IsTemp ∨ OfTile path file
  | _ => True

/-- Only temporary files and the files of a tile have changed. -/
def SameElsewhere (path : CachePath) (before after : Directory) : Prop :=
  ∀ file, ¬file.IsTemp → ¬OfTile path file → after file = before file

/-- A damaged temporary file is the only file that has changed. -/
theorem Damaged.sameElsewhere {before after : Directory} {file : File} (temp : file.IsTemp)
    (damaged : Damaged before file after) : SameElsewhere path before after := by
  intro other plain _
  rcases damaged with same | ⟨_, contents, changed⟩
  · rw [same]
  · have different : other ≠ file := fun same => plain (same ▸ temp)
    rw [changed, Function.update_of_ne different]

/-- Such a call changes no other file. -/
theorem StaysWithin.sameElsewhere {request : Request} {answer : Answer request}
    {before after : Directory} (within : StaysWithin path request)
    (responded : Respond request before answer after) : SameElsewhere path before after := by
  have unchanged : after = before → SameElsewhere path before after := by
    intro same file _ _
    rw [same]
  have updated : ∀ (file : File) (contents : Option Bytes), file.IsTemp ∨ OfTile path file →
      after = Function.update before file contents → SameElsewhere path before after := by
    intro file contents own same other plain elsewhere
    have different : other ≠ file := by
      rintro rfl
      exact own.elim plain elsewhere
    rw [same, Function.update_of_ne different]
  cases request with
  | read file =>
    cases answer with
    | ok data => exact unchanged responded.2
    | error reason =>
      cases reason with
      | enoent => exact unchanged responded.2
      | eexist => exact unchanged responded
      | other reason => exact unchanged responded
  | makeDir folder => exact unchanged responded
  | tempStamp => exact unchanged responded
  | openExclusive file =>
    cases answer with
    | ok done => exact updated file _ (.inl within) responded.2
    | error reason => exact unchanged responded
  | write file data =>
    cases answer with
    | ok done => exact updated file _ (.inl within) responded
    | error reason => exact responded.sameElsewhere within
  | sync file =>
    cases answer with
    | ok done => exact unchanged responded
    | error reason => exact responded.sameElsewhere within
  | close file =>
    cases answer with
    | ok done => exact unchanged responded
    | error reason => exact responded.sameElsewhere within
  | rename source target =>
    cases answer with
    | error reason => exact unchanged responded
    | ok done =>
      obtain ⟨contents, _, same⟩ := responded
      intro other plain elsewhere
      have fromSource : other ≠ source := fun clash => plain (clash ▸ within.1)
      have fromTarget : other ≠ target := fun clash => elsewhere (clash ▸ within.2)
      rw [same, Function.update_of_ne fromTarget, Function.update_of_ne fromSource]
  | remove file =>
    cases answer with
    | ok done => exact updated file _ within responded.2
    | error reason =>
      cases reason with
      | enoent => exact unchanged responded.2
      | eexist => exact unchanged responded
      | other reason => exact unchanged responded
  | download url protocol => exact unchanged responded
  | now => exact unchanged responded

theorem uses_writeOut {file : File} {data : Bytes} (temp : file.IsTemp) :
    (writeOut file data).Uses (StaysWithin path) := by
  rw [writeOut]
  apply Program.uses_perform_bind.mpr
  apply And.intro temp
  intro answer
  cases answer with
  | error reason => exact Program.uses_pure
  | ok done =>
    apply Program.uses_perform_bind.mpr
    apply And.intro temp
    intro answer
    cases answer with
    | error reason => exact Program.uses_pure
    | ok done => exact Program.uses_perform.mpr temp

theorem uses_removeFile {file : File} (own : file.IsTemp ∨ OfTile path file) :
    (removeFile file).Uses (StaysWithin path) := by
  rw [removeFile]
  exact Program.uses_perform_bind.mpr ⟨own, fun _ => Program.uses_pure⟩

theorem uses_writeTemp {folder : String} {data : Bytes} :
    (writeTemp folder data).Uses (StaysWithin path) := by
  rw [writeTemp]
  apply Program.uses_perform_bind.mpr
  apply And.intro trivial
  rintro ⟨unique, time⟩
  apply Program.uses_perform_bind.mpr
  apply And.intro trivial
  intro answer
  cases answer with
  | error reason => exact Program.uses_pure
  | ok done =>
    have temp : (File.temp folder unique time).IsTemp := trivial
    apply Program.Uses.bind (uses_writeOut temp)
    intro written
    cases written with
    | ok done => exact Program.uses_pure
    | error reason =>
      apply Program.uses_perform_bind.mpr
      apply And.intro temp
      intro _
      exact Program.Uses.bind (uses_removeFile (.inl temp)) fun _ => Program.uses_pure

/-- What `write_temp` yields is a temporary file. -/
theorem returns_writeTemp {folder : String} {data : Bytes} :
    (writeTemp folder data).Returns fun result => ∀ file, result = .ok file → file.IsTemp := by
  rw [writeTemp]
  apply (Program.returns_any _).bind
  rintro ⟨unique, time⟩ _
  apply (Program.returns_any _).bind
  intro answer _
  cases answer with
  | error reason => simp
  | ok done =>
    apply (Program.returns_any _).bind
    intro written _
    cases written with
    | error reason =>
      apply (Program.returns_any _).bind
      intro _ _
      apply (Program.returns_any _).bind
      simp
    | ok done =>
      intro file same
      cases same
      trivial

theorem uses_renameFile {source target : File} (temp : source.IsTemp) (own : OfTile path target) :
    (renameFile source target).Uses (StaysWithin path) := by
  rw [renameFile]
  apply Program.uses_perform_bind.mpr
  apply And.intro ⟨temp, own⟩
  intro answer
  cases answer with
  | ok done => exact Program.uses_pure
  | error reason => exact Program.uses_pure

theorem uses_ensureDir {folder : String} : (ensureDir folder).Uses (StaysWithin path) := by
  rw [ensureDir]
  apply Program.uses_perform_bind.mpr
  apply And.intro trivial
  intro answer
  cases answer with
  | ok done => exact Program.uses_pure
  | error reason => exact Program.uses_pure

/-- A commit changes the product and the sidecar. -/
theorem uses_commitFile {data : Bytes} {provenance : Json} :
    (commitFile library path data provenance).Uses (StaysWithin path) := by
  rw [commitFile]
  apply Program.Uses.bind uses_ensureDir
  intro made
  cases made with
  | error reason => exact Program.uses_pure
  | ok done =>
    apply uses_writeTemp.bind_of returns_writeTemp
    intro written temp
    cases written with
    | error reason => exact Program.uses_pure
    | ok dataTmp =>
      apply uses_writeTemp.bind_of returns_writeTemp
      intro written temp'
      cases written with
      | error reason => exact Program.uses_pure
      | ok provenanceTmp =>
        apply Program.Uses.bind (uses_renameFile (temp' _ rfl) (.inr (.inl rfl)))
        intro renamed
        cases renamed with
        | error reason => exact Program.uses_pure
        | ok done => exact uses_renameFile (temp _ rfl) (.inl rfl)

theorem uses_commitNoCoverageMarker :
    (commitNoCoverageMarker library route).Uses (StaysWithin route.path) := by
  rw [commitNoCoverageMarker]
  apply Program.uses_perform_bind.mpr
  apply And.intro trivial
  intro now
  apply Program.Uses.bind uses_ensureDir
  intro made
  cases made with
  | error reason => exact Program.uses_pure
  | ok done =>
    apply uses_writeTemp.bind_of returns_writeTemp
    intro written temp
    cases written with
    | error reason => exact Program.uses_pure
    | ok tmp => exact uses_renameFile (temp _ rfl) (.inr (.inr rfl))

theorem uses_readJson {file : File} : (readJson library file).Uses (StaysWithin path) := by
  rw [readJson]
  apply Program.uses_perform_bind.mpr
  apply And.intro trivial
  intro answer
  cases answer with
  | ok bytes => exact Program.uses_pure
  | error reason => exact Program.uses_pure

theorem uses_classifyTerrain : (classifyTerrain library route pin).Uses (StaysWithin route.path) := by
  have reads : ∀ request, (∃ file, request = .read file) → StaysWithin route.path request := by
    rintro _ ⟨file, rfl⟩
    trivial
  have data : (classifyDataFile library route.path pin).Uses (StaysWithin route.path) := by
    rw [classifyDataFile]
    apply Program.uses_perform_bind.mpr
    apply And.intro trivial
    intro answer
    cases answer with
    | error reason => cases reason <;> exact Program.uses_pure
    | ok data =>
      cases pin with
      | digest text =>
        dsimp only
        split
        · exact Program.uses_pure
        · exact Program.uses_pure
      | absent => exact uses_classifyWithProvenance.mono reads
      | other inspected => exact uses_classifyWithProvenance.mono reads
  rw [classifyTerrain]
  apply data.bind
  intro classified
  cases classified with
  | absent =>
    change (classifyMarker library route).Uses _
    rw [classifyMarker]
    apply Program.Uses.bind uses_readJson
    intro read
    cases read with
    | none => exact Program.uses_pure
    | some json =>
      dsimp only
      split
      · exact Program.uses_pure
      · exact Program.uses_pure
  | _ => exact Program.uses_pure

/-- A download changes temporary files and the files of its tile. -/
theorem uses_downloadAndCacheDted {request : TileCall} :
    (downloadAndCacheDted library hgtToDted request route).Uses (StaysWithin route.path) := by
  rw [downloadAndCacheDted]
  apply Program.uses_perform_bind.mpr
  apply And.intro trivial
  intro answer
  cases answer with
  | error reason =>
    cases reason with
    | notFoundOnArchive url =>
      apply Program.Uses.bind uses_commitNoCoverageMarker
      intro committed
      cases committed with
      | ok done => exact Program.uses_pure
      | error reason => exact Program.uses_pure
    | _ => exact Program.uses_pure
  | ok hgtGz =>
    change (cacheDted library hgtToDted request route hgtGz).Uses _
    unfold cacheDted
    split
    · split
      · split
        · apply Program.uses_perform_bind.mpr
          apply And.intro trivial
          intro now
          apply Program.Uses.bind uses_commitFile
          intro committed
          cases committed with
          | error reason => exact Program.uses_pure
          | ok done =>
            apply Program.Uses.bind (uses_removeFile (.inr (.inr (.inr rfl))))
            exact fun _ => Program.uses_pure
        · exact Program.uses_pure
      · exact Program.uses_pure
    · exact Program.uses_pure

/-- A fetch of a tile changes temporary files and the files of that tile. -/
theorem uses_fetchDtedTile {request : TileCall} (routed : request.route = .ok route) :
    (fetchDtedTile library hgtToDted request).Uses (StaysWithin route.path) := by
  have missing : (fetchDtedOnMiss library hgtToDted request route).Uses
      (StaysWithin route.path) := by
    unfold fetchDtedOnMiss
    split
    · exact Program.uses_pure
    · exact uses_downloadAndCacheDted
  rw [fetchDtedTile, routed]
  apply uses_classifyTerrain.bind
  intro classified
  cases classified with
  | noCoverage tileId => exact Program.uses_pure
  | data classification =>
    cases classification with
    | absent => exact missing
    | unverified found => exact missing
    | stale reason =>
      rw [fetchDtedClassified]
      split
      · exact Program.uses_pure
      · exact uses_downloadAndCacheDted
    | hit found => exact Program.uses_pure
    | error reason => exact Program.uses_pure

/-- Wherever it is cut off, a fetch of a tile leaves the files of other tiles as they were. -/
theorem sameElsewhere_attempt {request : TileCall} {past : Past} {before after : Directory}
    {rest : Action (Except Reason Tile)} (routed : request.route = .ok route)
    (attempt : (fetchDtedTile library hgtToDted request).Attempt Respond before past rest after) :
    SameElsewhere route.path before after := by
  have uses : (fetchDtedTile library hgtToDted request).Uses (StaysWithin route.path) :=
    uses_fetchDtedTile routed
  apply uses.attempt (fun _ _ _ _ => rfl) ?_ attempt
  intro before request answer between after far within responded file plain elsewhere
  rw [within.sameElsewhere responded file plain elsewhere]
  exact far file plain elsewhere

end Frame

section Outcomes

/-- The product of a path is there, and it is the pinned one, or the one its sidecar describes. -/
def Covered (library : Library) (pin : Pin) (path : CachePath) (directory : Directory) : Prop :=
  ∃ data, directory (.product path) = some data ∧
    match pin with
    | .digest text => library.sha256 data = library.downcase text
    | _ => ∃ json, directory (.sidecar path) = some json ∧ Describes library json data

/-- The marker of a tile says that the archive has none. -/
def Uncovered (library : Library) (route : TileRoute) (directory : Directory) : Prop :=
  ∃ bytes, directory (markerFile route.path) = some bytes ∧ ReadsNoCoverage library route bytes

theorem yields_readFile {file : File} {post : Except Posix Bytes → Directory → Prop}
    (read : ∀ data, directory file = some data → post (.ok data) directory)
    (unread : ∀ reason, post (.error reason) directory) :
    (readFile file).Yields Respond directory post := by
  intro answer between responded
  cases answer with
  | ok data =>
    obtain ⟨found, rfl⟩ := responded
    exact read data found
  | error reason =>
    cases reason with
    | enoent =>
      obtain ⟨_, rfl⟩ := responded
      exact unread _
    | eexist =>
      cases responded
      exact unread _
    | other reason =>
      cases responded
      exact unread _

theorem yields_utcNow {post : DateTime → Directory → Prop} (told : ∀ now, post now directory) :
    utcNow.Yields Respond directory post := by
  intro now between responded
  cases responded
  exact told now

/-- The `:file` calls that succeed have written the data. -/
theorem yields_writeOut {file : File} {data : Bytes} {post : Except Posix Unit → Directory → Prop}
    (wrote : post (.ok ()) (Function.update directory file ((directory file).map (· ++ data))))
    (failed : ∀ reason after, post (.error reason) after) :
    (writeOut file data).Yields Respond directory post := by
  rw [writeOut, Program.yields_perform_bind]
  intro answer between responded
  cases answer with
  | error reason => exact failed reason between
  | ok done =>
    cases responded
    dsimp only
    rw [Program.yields_perform_bind]
    intro answer between responded
    cases answer with
    | error reason => exact failed reason between
    | ok done =>
      cases responded
      intro answer between responded
      cases answer with
      | error reason => exact failed reason between
      | ok done =>
        cases responded
        exact wrote

/-- What `write_temp` yields holds the data. -/
theorem yields_writeTemp {folder : String} {data : Bytes}
    {post : Except Reason File → Directory → Prop}
    (wrote : ∀ file, file.IsTemp → directory file = none →
      post (.ok file) (Function.update directory file (some data)))
    (failed : ∀ reason after, post (.error reason) after) :
    (writeTemp folder data).Yields Respond directory post := by
  rw [writeTemp, Program.yields_perform_bind]
  rintro ⟨unique, time⟩ between responded
  cases responded
  dsimp only
  rw [Program.yields_perform_bind]
  intro answer between responded
  cases answer with
  | error reason => exact failed _ between
  | ok done =>
    obtain ⟨absent, rfl⟩ := responded
    dsimp only
    rw [Program.yields_bind]
    apply yields_writeOut
    · simp only [Function.update_self, Option.map_some, List.nil_append, Function.update_idem,
        Program.yields_pure]
      exact wrote _ trivial absent
    · -- The clean-up closes and removes the file, whatever it is answered.
      intro reason after _ _ _ _ _ _
      exact failed _ _

theorem yields_renameFile {source target : File} {post : Except Reason Unit → Directory → Prop}
    (renamed : ∀ contents, directory source = some contents → post (.ok ())
      (Function.update (Function.update directory source none) target (some contents)))
    (failed : ∀ reason, post (.error reason) directory) :
    (renameFile source target).Yields Respond directory post := by
  rw [renameFile, Program.yields_perform_bind]
  intro answer between responded
  cases answer with
  | error reason =>
    cases responded
    exact failed _
  | ok done =>
    obtain ⟨contents, found, rfl⟩ := responded
    exact renamed contents found

theorem yields_ensureDir {folder : String} {post : Except Reason Unit → Directory → Prop}
    (made : post (.ok ()) directory) (failed : ∀ reason, post (.error reason) directory) :
    (ensureDir folder).Yields Respond directory post := by
  rw [ensureDir, Program.yields_perform_bind]
  intro answer between responded
  cases responded
  cases answer with
  | ok done => exact made
  | error reason => exact failed _

/-- A commit that succeeds has put the data and the provenance in place. -/
theorem yields_commitFile {data : Bytes} {provenance : Json}
    {post : Except Reason Unit → Directory → Prop}
    (committed : ∀ after, after (.product path) = some data →
      after (.sidecar path) = some (library.encode provenance) → post (.ok ()) after)
    (failed : ∀ reason after, post (.error reason) after) :
    (commitFile library path data provenance).Yields Respond directory post := by
  rw [commitFile, Program.yields_bind]
  apply yields_ensureDir
  case failed => exact fun reason => failed reason _
  dsimp only
  rw [Program.yields_bind]
  apply yields_writeTemp
  case failed => exact failed
  intro dataTmp temp _
  dsimp only
  rw [Program.yields_bind]
  apply yields_writeTemp
  case failed => exact failed
  intro provenanceTmp temp' absent
  have different : dataTmp ≠ provenanceTmp := by
    rintro rfl
    rw [Function.update_self] at absent
    cases absent
  have plain : ∀ file : File, ¬file.IsTemp → file ≠ dataTmp := by
    rintro file plain rfl
    exact plain temp
  dsimp only
  rw [Program.yields_bind]
  apply yields_renameFile
  case failed => exact fun reason => failed reason _
  intro json found
  have wrote : json = library.encode provenance := by
    rw [Function.update_self, Option.some.injEq] at found
    exact found.symm
  apply yields_renameFile
  case failed => exact fun reason => failed reason _
  intro contents found
  have kept : contents = data := by
    rw [Function.update_of_ne (plain (.sidecar path) id).symm, Function.update_of_ne different,
      Function.update_of_ne different, Function.update_self, Option.some.injEq] at found
    exact found.symm
  apply committed
  · rw [Function.update_self, kept]
  · rw [Function.update_of_ne, Function.update_of_ne (plain _ id), Function.update_self, wrote]
    simp

/-- A classification reads only, and says hit of what is covered. -/
theorem yields_classifyDataFile :
    (classifyDataFile library path pin).Yields Respond directory fun classified after =>
      after = directory ∧ ∀ found, classified = .hit found → Covered library pin path directory := by
  rw [classifyDataFile, Program.yields_bind]
  apply yields_readFile
  case unread =>
    intro reason
    cases reason <;> exact ⟨rfl, by simp⟩
  intro data product
  have bySidecar : (∀ text, pin ≠ .digest text) →
      (classifyWithProvenance library path (library.sha256 data)).Yields Respond directory
        fun classified after => after = directory ∧
          ∀ found, classified = .hit found → Covered library pin path directory := by
    intro unpinned
    rw [classifyWithProvenance, Program.yields_bind, readJson, Program.yields_bind]
    apply yields_readFile
    case unread => exact fun reason => ⟨rfl, by simp⟩
    intro json sidecar
    rw [Program.yields_pure]
    cases decoded : library.decode json with
    | none => exact ⟨rfl, by simp⟩
    | some provenance =>
      dsimp only
      rw [Program.yields_bind]
      apply Program.yields_orCrash
      intro digest named
      cases digest with
      | string expected =>
        by_cases same : library.sha256 data = library.downcase expected
        · dsimp only
          rw [if_pos same]
          apply And.intro rfl
          intro _ _
          have describes : Describes library json data := by
            rw [Describes, namedDigest_eq decoded named, same]
            rfl
          apply Exists.intro data
          apply And.intro product
          cases pin with
          | digest text => exact absurd rfl (unpinned text)
          | absent => exact ⟨json, sidecar, describes⟩
          | other inspected => exact ⟨json, sidecar, describes⟩
        · dsimp only
          rw [if_neg same]
          exact ⟨rfl, by simp⟩
      | _ => exact ⟨rfl, by simp⟩
  cases pin with
  | digest text =>
    by_cases same : library.sha256 data = library.downcase text
    · dsimp only
      rw [if_pos same]
      exact ⟨rfl, fun _ _ => ⟨data, product, same⟩⟩
    · dsimp only
      rw [if_neg same]
      exact ⟨rfl, by simp⟩
  | absent => exact bySidecar (by simp)
  | other inspected => exact bySidecar (by simp)

/-- A flat map describes the data whose digest it names. -/
theorem describes_object (faithful : Faithful library) {fields : List (String × Json)} {data : Bytes}
    (distinct : (fields.map (·.1)).Nodup) (scalars : ∀ field ∈ fields, field.2.isScalar = true)
    (named : fields.lookup "sha256_data" = some (.string (library.sha256 data))) :
    Describes library (library.encode (.object fields)) data := by
  obtain ⟨read, decoded, same⟩ := faithful.readsBack fields distinct scalars
  have expected : expectedDigest (.object read) = some (.string (library.sha256 data)) := by
    simp [expectedDigest, Json.access, same, named, Json.truthy]
  rw [Describes, namedDigest_eq decoded expected, Option.map_some, faithful.lowercase]

/-- The provenance of a tile describes it. -/
theorem describes_terrainProvenance (faithful : Faithful library) (hgtGz hgt dt2 : Bytes)
    (now : DateTime) :
    Describes library (library.encode (terrainProvenance library route hgtGz hgt dt2 now)) dt2 := by
  apply describes_object faithful
  · simp only [List.map_cons, List.map_nil]
    decide
  · simp [Json.isScalar, sizeField]
  · rfl

/-- The payload of a marker says that the tile is not covered. -/
theorem readsNoCoverage_payload (faithful : Faithful library) (now : DateTime) :
    ReadsNoCoverage library route
      (library.encode (.object (noCoveragePayload library route now))) := by
  have distinct : ((noCoveragePayload library route now).map (·.1)).Nodup := by
    simp only [noCoveragePayload, List.map_cons, List.map_nil]
    decide
  have scalars : ∀ field ∈ noCoveragePayload library route now, field.2.isScalar = true := by
    simp [noCoveragePayload, Json.isScalar]
  obtain ⟨read, decoded, same⟩ := faithful.readsBack _ distinct scalars
  refine ⟨_, decoded, ?_⟩
  simp [marksNoCoverage, same, noCoveragePayload, List.lookup_cons, isNotFoundStatus, isText]

/-- What a completed call for a tile returns is so in the directory it leaves. -/
def Settles (library : Library) (route : TileRoute) (pin : Pin) (directory : Directory) :
    Except Reason Tile → Prop
  | .ok (.cached path) => path = route.path ∧ Covered library pin route.path directory
  | .ok (.fetched path) => path = route.path ∧ Covered library pin route.path directory
  | .ok (.noCoverage tileId) => tileId = route.tileId ∧ Uncovered library route directory
  | .error _ => True

theorem yields_classifyMarker :
    (classifyMarker library route).Yields Respond directory fun classified after =>
      after = directory ∧ (∀ found, classified ≠ .data (.hit found)) ∧ ∀ tileId,
        classified = .noCoverage tileId →
          tileId = route.tileId ∧ Uncovered library route directory := by
  rw [classifyMarker, Program.yields_bind, readJson, Program.yields_bind]
  apply yields_readFile
  case unread => exact fun reason => ⟨rfl, by simp, by simp⟩
  intro bytes held
  rw [Program.yields_pure]
  cases decoded : library.decode bytes with
  | none => exact ⟨rfl, by simp, by simp⟩
  | some json =>
    by_cases marks : marksNoCoverage route json = true
    · dsimp only
      rw [if_pos marks]
      refine ⟨rfl, by simp, ?_⟩
      intro tileId same
      cases same
      exact ⟨rfl, bytes, held, json, decoded, marks⟩
    · dsimp only
      rw [if_neg marks]
      exact ⟨rfl, by simp, by simp⟩

/-- The classification of a tile changes nothing, and is so in the directory. -/
theorem yields_classifyTerrain :
    (classifyTerrain library route pin).Yields Respond directory fun classified after =>
      after = directory ∧
        (∀ found, classified = .data (.hit found) → Covered library pin route.path directory) ∧
        ∀ tileId, classified = .noCoverage tileId →
          tileId = route.tileId ∧ Uncovered library route directory := by
  rw [classifyTerrain]
  apply yields_classifyDataFile.bind
  rintro classified _ ⟨rfl, covered⟩
  cases classified with
  | absent =>
    apply yields_classifyMarker.mono
    rintro classified _ ⟨rfl, missed, uncovered⟩
    exact ⟨rfl, fun found same => absurd same (missed found), uncovered⟩
  | hit found => exact ⟨rfl, fun _ _ => covered found rfl, by simp⟩
  | _ => exact ⟨rfl, by simp, by simp⟩

/-- A marker that is written says that the tile is not covered. -/
theorem yields_commitNoCoverageMarker (faithful : Faithful library) :
    (commitNoCoverageMarker library route).Yields Respond directory fun result after =>
      result = .ok () → Uncovered library route after := by
  rw [commitNoCoverageMarker, Program.yields_bind]
  apply yields_utcNow
  intro now
  rw [Program.yields_bind]
  apply yields_ensureDir
  case failed => simp
  dsimp only
  rw [Program.yields_bind]
  apply yields_writeTemp
  case failed => simp
  intro tmp temp _
  apply yields_renameFile
  case failed => simp
  intro contents found _
  rw [Function.update_self, Option.some.injEq] at found
  refine ⟨contents, Function.update_self .., ?_⟩
  rw [← found]
  exact readsNoCoverage_payload faithful now

/-- The removal of a marker leaves its tile covered. -/
theorem yields_removeMarker (covered : Covered library pin route.path directory) :
    (removeFile (markerFile route.path)).Yields Respond directory fun _ after =>
      Covered library pin route.path after := by
  have kept : ∀ after, (∀ file, file ≠ markerFile route.path → after file = directory file) →
      Covered library pin route.path after := by
    intro after same
    have product := same (.product route.path) fun clash =>
      noCoverageMarkerPath_ne route.path (File.product.inj clash).symm
    have sidecar := same (.sidecar route.path) nofun
    rw [Covered, product, sidecar]
    exact covered
  rw [removeFile, Program.yields_perform_bind]
  intro answer after responded
  apply kept
  intro file other
  cases answer with
  | ok done => rw [responded.2, Function.update_of_ne other]
  | error reason =>
    cases reason with
    | enoent => rw [responded.2]
    | eexist => rw [responded]
    | other reason => rw [responded]

/-- What a fetch has verified and described is covered. -/
theorem covered_of_verified {data : Bytes} {passed : Unit}
    (product : directory (.product path) = some data)
    (verified : verifySha256 library data pin = .ok passed)
    (sidecar : ∃ json, directory (.sidecar path) = some json ∧ Describes library json data) :
    Covered library pin path directory := by
  apply Exists.intro data
  apply And.intro product
  cases pin with
  | absent => exact sidecar
  | other inspected => cases verified
  | digest text =>
    by_cases same : library.sha256 data = library.downcase text
    · exact same
    · rw [verifySha256, if_neg same] at verified
      cases verified

/-- What follows a download settles the tile. -/
theorem yields_cacheDted (faithful : Faithful library) {request : TileCall} {hgtGz : Bytes} :
    (cacheDted library hgtToDted request route hgtGz).Yields Respond directory fun result after =>
      Settles library route request.sha256 after result := by
  unfold cacheDted
  split
  · split
    · next dt2 _ =>
      split
      · next verified =>
        rw [Program.yields_bind]
        apply yields_utcNow
        intro now
        rw [Program.yields_bind]
        apply yields_commitFile
        case failed => exact fun reason after => trivial
        intro after product sidecar
        have covered : Covered library request.sha256 route.path after :=
          covered_of_verified product verified ⟨_, sidecar, describes_terrainProvenance faithful ..⟩
        apply (yields_removeMarker covered).bind
        intro _ last still
        exact ⟨rfl, still⟩
      · trivial
    · trivial
  · trivial

/-- A download settles the tile. -/
theorem yields_downloadAndCacheDted (faithful : Faithful library) {request : TileCall} :
    (downloadAndCacheDted library hgtToDted request route).Yields Respond directory
      fun result after => Settles library route request.sha256 after result := by
  rw [downloadAndCacheDted, Program.yields_perform_bind]
  intro answer between responded
  cases responded
  cases answer with
  | ok hgtGz => exact yields_cacheDted faithful
  | error reason =>
    cases reason with
    | notFoundOnArchive url =>
      apply (yields_commitNoCoverageMarker faithful).bind
      intro result after uncovered
      cases result with
      | ok done => exact ⟨rfl, uncovered rfl⟩
      | error reason => trivial
    | _ => trivial

/-- A completed call for a tile settles it. -/
theorem yields_fetchDtedTile (faithful : Faithful library) {request : TileCall}
    (routed : request.route = .ok route) :
    (fetchDtedTile library hgtToDted request).Yields Respond directory fun result after =>
      Settles library route request.sha256 after result := by
  have missing : (fetchDtedOnMiss library hgtToDted request route).Yields Respond directory
      fun result after => Settles library route request.sha256 after result := by
    unfold fetchDtedOnMiss
    split
    · trivial
    · exact yields_downloadAndCacheDted faithful
  rw [fetchDtedTile, routed]
  apply yields_classifyTerrain.bind
  rintro classified _ ⟨rfl, covered, uncovered⟩
  cases classified with
  | noCoverage tileId => exact uncovered tileId rfl
  | data classification =>
    cases classification with
    | hit found => exact ⟨rfl, covered found rfl⟩
    | absent => exact missing
    | unverified found => exact missing
    | stale reason =>
      rw [fetchDtedClassified]
      split
      · trivial
      · exact yields_downloadAndCacheDted faithful
    | error reason => trivial

/-- What an attempt at a tile has returned is so in the directory it leaves. -/
theorem settles_attempt (faithful : Faithful library) {request : TileCall} {past : Past}
    {before after : Directory} {result : Except Reason Tile} (routed : request.route = .ok route)
    (attempt : (fetchDtedTile library hgtToDted request).Attempt Respond before past (.done result)
      after) : Settles library route request.sha256 after result :=
  (yields_fetchDtedTile faithful routed).exec (attempt.exec ⟨rfl, rfl⟩)

end Outcomes

section Serving

/-- A sidecar that describes some data reads as a provenance that names its digest. -/
theorem Describes.named {json data : Bytes} (describes : Describes library json data) :
    ∃ provenance digest, library.decode json = some provenance ∧
      expectedDigest provenance = some (.string digest) ∧
      library.sha256 data = library.downcase digest := by
  unfold Describes namedDigest at describes
  cases decoded : library.decode json with
  | none => simp [decoded] at describes
  | some provenance =>
    cases expected : expectedDigest provenance with
    | none => simp [decoded, expected] at describes
    | some value =>
      cases value with
      | string digest =>
        simp only [decoded, expected, Option.bind_some, Option.map_some,
          Option.some.injEq] at describes
        exact ⟨provenance, digest, rfl, expected, describes.symm⟩
      | _ => simp [decoded, expected] at describes

/-- Files can be read; other calls may fail. -/
def reads : (request : Request) → Answer request → Prop
  | .read _, .error reason => reason = .enoent
  | _, _ => True

/-- How the file system and the archive answer while files can be read. -/
def Readable (request : Request) (directory : Directory) (answer : Answer request)
    (directory' : Directory) : Prop :=
  Respond request directory answer directory' ∧ reads request answer

theorem readable_readFile {file : File}
    {post : Except Raised (Except Posix Bytes) → Directory → Prop}
    (read : post (.ok ((directory file).elim (.error .enoent) .ok)) directory) :
    (readFile file).Ensures Readable directory post := by
  have each : ∀ answer between, Readable (.read file) directory answer between →
      post (.ok answer) between := by
    rintro answer between ⟨responded, readable⟩
    cases answer with
    | ok data =>
      obtain ⟨found, rfl⟩ := responded
      rw [found] at read
      exact read
    | error reason =>
      cases readable
      obtain ⟨absent, rfl⟩ := responded
      rw [absent] at read
      exact read
  exact Program.ensures_perform.mpr each

/-- A covered product is a hit. -/
theorem readable_classifyDataFile (covered : Covered library pin path directory) :
    (classifyDataFile library path pin).Ensures Readable directory fun outcome after =>
      outcome = .ok (.hit path) ∧ after = directory := by
  obtain ⟨data, product, vouched⟩ := covered
  have bySidecar : (∃ json, directory (.sidecar path) = some json ∧ Describes library json data) →
      (classifyWithProvenance library path (library.sha256 data)).Ensures Readable directory
        fun outcome after => outcome = .ok (.hit path) ∧ after = directory := by
    rintro ⟨json, sidecar, describes⟩
    obtain ⟨provenance, digest, decoded, named, same⟩ := describes.named
    rw [classifyWithProvenance, readJson, Program.ensures_bind, Program.ensures_bind]
    apply readable_readFile
    rw [sidecar]
    dsimp only [Option.elim_some]
    rw [Program.ensures_pure, decoded]
    dsimp only
    rw [named, Program.ensures_bind, Program.orCrash, Program.ensures_done]
    dsimp only
    rw [if_pos same]
    exact Program.ensures_pure.mpr ⟨rfl, rfl⟩
  rw [classifyDataFile, Program.ensures_bind]
  apply readable_readFile
  rw [product]
  dsimp only [Option.elim_some]
  cases pin with
  | digest text =>
    dsimp only at vouched ⊢
    rw [if_pos vouched, Program.ensures_pure]
    exact ⟨rfl, rfl⟩
  | absent => exact bySidecar vouched
  | other inspected => exact bySidecar vouched

/-- A product that is not there is absent. -/
theorem readable_classifyAbsent (absent : directory (.product path) = none) :
    (classifyDataFile library path pin).Ensures Readable directory fun outcome after =>
      outcome = .ok .absent ∧ after = directory := by
  rw [classifyDataFile, Program.ensures_bind]
  apply readable_readFile
  rw [absent]
  exact Program.ensures_pure.mpr ⟨rfl, rfl⟩

/-- A marker that says so is believed. -/
theorem readable_classifyMarker (uncovered : Uncovered library route directory) :
    (classifyMarker library route).Ensures Readable directory fun outcome after =>
      outcome = .ok (.noCoverage route.tileId) ∧ after = directory := by
  obtain ⟨bytes, held, json, decoded, marks⟩ := uncovered
  rw [classifyMarker, Program.ensures_bind, readJson, Program.ensures_bind]
  apply readable_readFile
  rw [held]
  dsimp only [Option.elim_some]
  rw [Program.ensures_pure, decoded]
  dsimp only
  rw [if_pos marks]
  exact Program.ensures_pure.mpr ⟨rfl, rfl⟩

/-- A covered tile is served from the directory. -/
theorem readable_covered {request : TileCall} (routed : request.route = .ok route)
    (covered : Covered library request.sha256 route.path directory) :
    (fetchDtedTile library hgtToDted request).Ensures Readable directory fun outcome after =>
      outcome = .ok (.ok (.cached route.path)) ∧ after = directory := by
  have classified : (classifyTerrain library route request.sha256).Ensures Readable directory
      fun outcome after => outcome = .ok (.data (.hit route.path)) ∧ after = directory := by
    rw [classifyTerrain]
    exact (readable_classifyDataFile covered).andThen (Program.ensures_pure.mpr ⟨rfl, rfl⟩)
  rw [fetchDtedTile, routed]
  exact classified.andThen (Program.ensures_pure.mpr ⟨rfl, rfl⟩)

/-- A tile without a product whose marker says so is not covered. -/
theorem readable_uncovered {request : TileCall} (routed : request.route = .ok route)
    (uncovered : Uncovered library route directory)
    (absent : directory (.product route.path) = none) :
    (fetchDtedTile library hgtToDted request).Ensures Readable directory fun outcome after =>
      outcome = .ok (.ok (.noCoverage route.tileId)) ∧ after = directory := by
  have classified : (classifyTerrain library route request.sha256).Ensures Readable directory
      fun outcome after => outcome = .ok (.noCoverage route.tileId) ∧ after = directory := by
    rw [classifyTerrain]
    exact (readable_classifyAbsent absent).andThen (readable_classifyMarker uncovered)
  rw [fetchDtedTile, routed]
  exact classified.andThen (Program.ensures_pure.mpr ⟨rfl, rfl⟩)

end Serving

section Ledger

/-- What a call has settled of its tile. -/
inductive Verdict where
  | covered
  | uncovered
  deriving DecidableEq, Repr

/-- An entry of the ledger: the tile, the digest its call pinned, and the verdict. -/
structure Entry where
  route : TileRoute
  pin : Pin
  verdict : Verdict
  deriving DecidableEq, Repr

/-- What is settled of the tile at each path. -/
abbrev Ledger := CachePath → Option Entry

/-- The verdict of a call that has returned. -/
def verdictOf : Action (Except Reason Tile) → Option Verdict
  | .done (.ok (.cached _)) => some .covered
  | .done (.ok (.fetched _)) => some .covered
  | .done (.ok (.noCoverage _)) => some .uncovered
  | _ => none

/-- The ledger after one more call: nothing is settled of its tile but what it has returned. -/
def Ledger.note (ledger : Ledger) (attempt : TileAttempt) : Ledger :=
  match attempt.request.route with
  | .ok route => Function.update ledger route.path
      ((verdictOf attempt.rest).map fun verdict => ⟨route, attempt.request.sha256, verdict⟩)
  | .error _ => ledger

/-- The ledger of a run of calls. -/
def ledgerOf (calls : TileCalls) : Ledger :=
  (calls.map (·.label)).foldl Ledger.note fun _ => none

/-- What an entry says is so in the directory. -/
def Entry.Holds (library : Library) (directory : Directory) (entry : Entry) : Prop :=
  match entry.verdict with
  | .covered => Covered library entry.pin entry.route.path directory
  | .uncovered => Uncovered library entry.route directory

/-- The directory upholds the ledger: every entry holds, of the tile it is entered for. -/
def Ledger.Upheld (library : Library) (ledger : Ledger) (directory : Directory) : Prop :=
  ∀ path entry, ledger path = some entry → entry.route.path = path ∧ entry.Holds library directory

/-- No tile lies where another has its marker. -/
def Apart (route other : TileRoute) : Prop :=
  other.path ≠ noCoverageMarkerPath route.path ∧ route.path ≠ noCoverageMarkerPath other.path

/-- Different tiles have different markers. -/
theorem noCoverageMarkerPath_inj {first second : CachePath}
    (same : noCoverageMarkerPath first = noCoverageMarkerPath second) : first = second := by
  obtain ⟨folder, name⟩ := first
  obtain ⟨folder', name'⟩ := second
  simp only [noCoverageMarkerPath, CachePath.mk.injEq] at same ⊢
  exact ⟨same.1, String.append_left_inj _ |>.mp same.2⟩

/-- What holds of a tile holds wherever its files are the same. -/
theorem Entry.Holds.same {entry : Entry} {before after : Directory}
    (holds : entry.Holds library before)
    (same : ∀ file, OfTile entry.route.path file → after file = before file) :
    entry.Holds library after := by
  have product := same (.product entry.route.path) (.inl rfl)
  have sidecar := same (.sidecar entry.route.path) (.inr (.inl rfl))
  have marker := same (markerFile entry.route.path) (.inr (.inr rfl))
  unfold Entry.Holds at holds ⊢
  cases verdict : entry.verdict with
  | covered =>
    rw [verdict] at holds
    dsimp only at holds ⊢
    rw [Covered, product, sidecar]
    exact holds
  | uncovered =>
    rw [verdict] at holds
    dsimp only at holds ⊢
    rw [Uncovered, marker]
    exact holds

theorem OfTile.plain {file : File} (own : OfTile path file) : ¬file.IsTemp := by
  intro temp
  rcases own with rfl | rfl | rfl
  · exact temp
  · exact temp
  · exact temp

/-- Tiles that lie apart under different names have no file in common. -/
theorem Apart.disjoint {other : TileRoute} {file : File} (apart : Apart route other)
    (different : other.path ≠ route.path) (own : OfTile other.path file) :
    ¬OfTile route.path file := by
  rintro (clash | clash | clash)
  · rcases own with rfl | rfl | rfl
    · exact different (File.product.inj clash)
    · cases clash
    · exact apart.2 (File.product.inj clash).symm
  · rcases own with rfl | rfl | rfl
    · cases clash
    · exact different (File.sidecar.inj clash)
    · cases clash
  · rcases own with rfl | rfl | rfl
    · exact apart.1 (File.product.inj clash)
    · cases clash
    · exact different (noCoverageMarkerPath_inj (File.product.inj clash))

/-- What holds of a tile still holds when only another tile was worked on. -/
theorem Entry.Holds.elsewhere {entry : Entry} {before after : Directory}
    (holds : entry.Holds library before) (same : SameElsewhere route.path before after)
    (other : entry.route.path ≠ route.path) (apart : Apart route entry.route) :
    entry.Holds library after :=
  holds.same fun file own => same file own.plain (apart.disjoint other own)

/-- A call for some tile, completed or cut off. -/
def StoreStep (library : Library) (hgtToDted : Int → Int → Bytes → Except Reason Bytes)
    (before : Directory) (attempt : TileAttempt) (after : Directory) : Prop :=
  (fetchDtedTile library hgtToDted attempt.request).Attempt Respond before attempt.past
    attempt.rest after

/-- One more call, wherever it is cut off, leaves a directory that upholds the ledger with it. -/
theorem Ledger.Upheld.note {ledger : Ledger} {attempt : TileAttempt} {before after : Directory}
    (faithful : Faithful library) (upheld : ledger.Upheld library before)
    (step : StoreStep library hgtToDted before attempt after)
    (apart : ∀ path entry route, ledger path = some entry → attempt.request.route = .ok route →
      Apart route entry.route) : (ledger.note attempt).Upheld library after := by
  unfold Ledger.note
  cases routed : attempt.request.route with
  | error reason =>
    obtain ⟨_, _, rfl⟩ := attempt_unrouted routed step
    exact upheld
  | ok route =>
    intro path entry entered
    dsimp only at entered
    by_cases same : path = route.path
    · subst same
      rw [Function.update_self, Option.map_eq_some_iff] at entered
      obtain ⟨verdict, returned, rfl⟩ := entered
      apply And.intro rfl
      unfold verdictOf at returned
      unfold StoreStep at step
      split at returned
      · next ended =>
        cases returned
        rw [ended] at step
        exact (settles_attempt faithful routed step).2
      · next ended =>
        cases returned
        rw [ended] at step
        exact (settles_attempt faithful routed step).2
      · next ended =>
        cases returned
        rw [ended] at step
        exact (settles_attempt faithful routed step).2
      · cases returned
    · rw [Function.update_of_ne same] at entered
      obtain ⟨rfl, holds⟩ := upheld path entry entered
      apply And.intro rfl
      exact holds.elsewhere (sameElsewhere_attempt routed step) same
        (apart _ entry route entered routed)

/-- Every entry is about a tile that some call was for. -/
theorem ledgerOf_route {calls : TileCalls} {entry : Entry}
    (entered : ledgerOf calls path = some entry) :
    ∃ taken ∈ calls, taken.label.request.route = .ok entry.route := by
  induction calls using List.reverseRecOn generalizing path with
  | nil => cases entered
  | append_singleton calls taken ih =>
    have last : ledgerOf (calls ++ [taken]) = (ledgerOf calls).note taken.label := by
      simp [ledgerOf]
    rw [last, Ledger.note] at entered
    cases routed : taken.label.request.route with
    | error reason =>
      rw [routed] at entered
      obtain ⟨earlier, member, same⟩ := ih entered
      exact ⟨earlier, List.mem_append_left _ member, same⟩
    | ok route =>
      rw [routed] at entered
      dsimp only at entered
      by_cases same : path = route.path
      · rw [same, Function.update_self, Option.map_eq_some_iff] at entered
        obtain ⟨verdict, _, rfl⟩ := entered
        exact ⟨taken, by simp, routed⟩
      · rw [Function.update_of_ne same] at entered
        obtain ⟨earlier, member, same⟩ := ih entered
        exact ⟨earlier, List.mem_append_left _ member, same⟩

variable {start last : Directory} {calls : TileCalls}

/-- The tiles of a run lie apart. -/
def LieApart (calls : TileCalls) : Prop :=
  ∀ taken ∈ calls, ∀ other ∈ calls, ∀ route route', taken.label.request.route = .ok route →
    other.label.request.route = .ok route' → Apart route route'

/-- In every run of calls the directory upholds their ledger. -/
theorem run_upheld (faithful : Faithful library) (apart : LieApart calls)
    (run : Run (StoreStep library hgtToDted) start calls last) :
    (ledgerOf calls).Upheld library last := by
  induction run with
  | nil =>
    intro path entry entered
    cases entered
  | @snoc calls state state' attempt run step ih =>
    have upheld := ih fun taken member other member' =>
      apart taken (List.mem_append_left _ member) other (List.mem_append_left _ member')
    have onward := upheld.note faithful step (by
      intro path entry route entered routed
      obtain ⟨taken, member, same⟩ := ledgerOf_route entered
      exact apart ⟨state, attempt, state'⟩ (by simp) taken (List.mem_append_left _ member) route
        entry.route routed same)
    have last : ledgerOf (calls ++ [⟨state, attempt, state'⟩]) =
        (ledgerOf calls).note attempt := by
      simp [ledgerOf]
    rw [last]
    exact onward

/-- What an entry promises of a later call for its tile. -/
def Entry.Promises (directory : Directory) (entry : Entry)
    (outcome : Except Raised (Except Reason Tile)) (after : Directory) : Prop :=
  match entry.verdict with
  | .covered => outcome = .ok (.ok (.cached entry.route.path)) ∧ after = directory
  | .uncovered => directory (.product entry.route.path) = none →
      outcome = .ok (.ok (.noCoverage entry.route.tileId)) ∧ after = directory

/-- What holds is served from the directory. -/
theorem Entry.Holds.promises {entry : Entry} {request : TileCall}
    (holds : entry.Holds library directory) (routed : request.route = .ok entry.route)
    (pinned : request.sha256 = entry.pin) :
    (fetchDtedTile library hgtToDted request).Ensures Readable directory
      (entry.Promises directory) := by
  unfold Entry.Holds at holds
  unfold Entry.Promises
  cases verdict : entry.verdict with
  | covered =>
    rw [verdict] at holds
    dsimp only at holds ⊢
    rw [← pinned] at holds
    exact readable_covered routed holds
  | uncovered =>
    rw [verdict] at holds
    dsimp only at holds ⊢
    intro outcome after executed absent
    exact readable_uncovered routed holds absent outcome after executed

/-- In every run of calls for terrain tiles, whatever fails and wherever calls are cut off, the last
call for a tile that said it fetched or cached is kept to: while files can be read, a call for the
tile with the same pin returns the path of the product and changes nothing, and after no coverage it
says so again unless a product lies there. -/
theorem terrainStore_serves (faithful : Faithful library) (apart : LieApart calls)
    (run : Run (StoreStep library hgtToDted) start calls last) {entry : Entry} {request : TileCall}
    (entered : ledgerOf calls path = some entry) (routed : request.route = .ok entry.route)
    (pinned : request.sha256 = entry.pin) :
    (fetchDtedTile library hgtToDted request).Ensures Readable last (entry.Promises last) :=
  (run_upheld faithful apart run path entry entered).2.promises routed pinned

end Ledger

section Printing

open Distribution (Term)

/-- A scalar as a term. -/
def Json.term : Json → Term
  | .string text => .text (utf8 text)
  | .number value => .number value
  | _ => .nil

/-- The text of some bytes. -/
def ofUtf8 (bytes : Bytes) : String := (String.fromUTF8? ⟨bytes.toArray⟩).getD ""

/-- The scalar that a term is. -/
def Json.ofTerm : Term → Json
  | .text bytes => .string (ofUtf8 bytes)
  | .number value => .number value
  | _ => .null

/-- A flat map as it is printed. -/
def printMap (fields : List (String × Json)) : Bytes :=
  Distribution.Json.print (.map (fields.map fun field => (utf8 field.1, field.2.term)))

/-- The flat map that a text is. -/
def readMap (bytes : Bytes) : Option Json :=
  match Distribution.Json.decode bytes with
  | some (.map fields) =>
    some (.object (fields.map fun field => (ofUtf8 field.1, .ofTerm field.2)))
  | _ => none

/-- A library of which the JSON is that of flat maps. -/
def printedLibrary (digests : List (Bytes × String)) (times : List (DateTime × String)) : Library :=
  { sampleLibrary digests times with
    encode := fun
      | .object fields => printMap fields
      | _ => []
    decode := readMap }

theorem ofUtf8_utf8 (text : String) : ofUtf8 (utf8 text) = text := by
  have bytes : (⟨(utf8 text).toArray⟩ : ByteArray) = text.toUTF8 := by
    simp [utf8]
  rw [ofUtf8, bytes, String.fromUTF8?, String.toUTF8_eq_toByteArray, dif_pos text.isValidUTF8]
  rfl

theorem utf8_inj {first second : String} (same : utf8 first = utf8 second) : first = second := by
  rw [← ofUtf8_utf8 first, same, ofUtf8_utf8]

theorem ofTerm_term {json : Json} (scalar : json.isScalar = true) : Json.ofTerm json.term = json := by
  cases json with
  | string text => simp [Json.term, Json.ofTerm, ofUtf8_utf8]
  | number value => rfl
  | _ => cases scalar

theorem simple_term {json : Json} (scalar : json.isScalar = true) : json.term.simple = true := by
  cases json with
  | string text => rfl
  | number value =>
    cases value with
    | int n => rfl
    | float _ _ => cases scalar
  | _ => cases scalar

/-- What is printed of a flat map is simple. -/
theorem simple_printed {fields : List (String × Json)} (distinct : (fields.map (·.1)).Nodup)
    (scalars : ∀ field ∈ fields, field.2.isScalar = true) :
    (Term.map (fields.map fun field => (utf8 field.1, field.2.term))).simple = true := by
  have keys : ((fields.map fun field => (utf8 field.1, field.2.term)).map (·.1)).Nodup := by
    rw [List.map_map]
    have names : (fields.map fun field => utf8 field.1) = (fields.map (·.1)).map utf8 := by
      rw [List.map_map]
      rfl
    change (fields.map fun field => utf8 field.1).Nodup
    rw [names]
    exact List.Nodup.map (fun _ _ => utf8_inj) distinct
  have values : ∀ fields : List (String × Json), (∀ field ∈ fields, field.2.isScalar = true) →
      Term.fieldsSimple (fields.map fun field => (utf8 field.1, field.2.term)) = true := by
    intro fields scalars
    induction fields with
    | nil => rfl
    | cons field fields ih =>
      rw [List.forall_mem_cons] at scalars
      rw [List.map_cons, Term.fieldsSimple, simple_term scalars.1, ih scalars.2]
      rfl
  rw [Term.simple, decide_eq_true keys, values fields scalars]
  rfl

/-- A flat map is read as it was printed. -/
theorem readMap_printMap {fields : List (String × Json)} (distinct : (fields.map (·.1)).Nodup)
    (scalars : ∀ field ∈ fields, field.2.isScalar = true) :
    readMap (printMap fields) = some (.object fields) := by
  have same : ∀ field ∈ fields,
      (ofUtf8 (utf8 field.1), Json.ofTerm field.2.term) = field := by
    intro field member
    rw [ofUtf8_utf8, ofTerm_term (scalars field member)]
  rw [readMap, printMap, Distribution.Json.decode_print (simple_printed distinct scalars)]
  dsimp only
  rw [List.map_map]
  have restored := (List.map_congr_left same).trans (List.map_id fields)
  exact congrArg (fun fields => some (Json.object fields)) restored

/-- Such a library is faithful when its digests are lower-case. -/
theorem faithful_printed {digests : List (Bytes × String)} {times : List (DateTime × String)}
    (lowercase : ∀ digest ∈ digests, digest.2.toLower = digest.2) :
    Faithful (printedLibrary digests times) := by
  constructor
  · intro data
    change ((digests.lookup data).getD "").toLower = (digests.lookup data).getD ""
    cases found : digests.lookup data with
    | none => decide +kernel
    | some digest =>
      obtain ⟨before, after, rfl, _⟩ := List.lookup_eq_some_iff.mp found
      exact lowercase (data, digest) (by simp)
  · intro fields distinct scalars
    exact ⟨fields, readMap_printMap distinct scalars, fun _ => rfl⟩

end Printing

section Sample

/-- The place of a tile of the Rocky Mountains. -/
def rockiesRoute : TileRoute where
  tileId := "N36W107"
  path := ⟨"cache/terrain/n30_w100", "n36_w107_1arc_v3.dt2"⟩
  url := "https://s3.amazonaws.com/elevation-tiles-prod/skadi/N36/N36W107.hgt.gz"
  protocol := "https"
  compression := "gzip"
  latIndex := 36
  lonIndex := -107

/-- The file that lies there. -/
def rockiesTile : Bytes := utf8 "not-a-real-dted"

/-- Its digest, and the time of a marker. -/
def rockiesLibrary : Library :=
  printedLibrary
    [(rockiesTile, "4b8025af2de92580f66fb10198abfba23f0eeb4289ab93454417bab46e8a4aa0")]
    [(⟨1782864000000000⟩, "2026-07-01T00:00:00.000000Z")]

theorem faithful_rockies : Faithful rockiesLibrary := by
  apply faithful_printed
  decide +kernel

/-- A cache with that file and its sidecar. -/
def rockiesCache : Directory := fun file =>
  if file = .product rockiesRoute.path then some rockiesTile
  else if file = .sidecar rockiesRoute.path then
    some (printMap
      [("compression", .string "none"), ("protocol", .string "https"),
       ("sha256_data",
        .string "4b8025af2de92580f66fb10198abfba23f0eeb4289ab93454417bab46e8a4aa0"),
       ("size_data", .number (.int 15)), ("source_url", .string "test")])
  else none

/-- No archive file converts. -/
def noDted (_ _ : Int) (_ : Bytes) : Except Reason Bytes :=
  .error (.decompress (.other "bad_hgt_length"))

/-- A fetch of a tile from a directory, answered a number of calls. -/
def tileFetch (route : TileRoute) (offline : Bool) (answers : Nat) (before : Directory) :
    Taken Directory TileAttempt :=
  let request : TileCall := ⟨.ok route, .absent, offline, 1000⟩
  let followed := Program.follow (fun setting => reply setting) (List.replicate answers noTile) []
    (fetchDtedTile rockiesLibrary noDted request) before
  ⟨before, ⟨request, followed.1, followed.2.1⟩, followed.2.2⟩

/-- Such a fetch is a call for a tile. -/
theorem tileFetch_step (route : TileRoute) (offline : Bool) (answers : Nat) (before : Directory) :
    StoreStep rockiesLibrary noDted before (tileFetch route offline answers before).label
      (tileFetch route offline answers before).after :=
  Program.attempt_follow respond_reply _ .start

/-- The fetch of the tile in the cache. -/
def finds : Taken Directory TileAttempt := tileFetch rockiesRoute false 2 rockiesCache

/-- A fetch of the tile in the ocean after it, killed before its marker is in place. -/
def isKilled : Taken Directory TileAttempt := tileFetch oceanRoute false 9 finds.after

/-- The tile in the cache is settled. -/
theorem finds_settled : ledgerOf [finds, isKilled] rockiesRoute.path =
    some ⟨rockiesRoute, .absent, .covered⟩ := by
  decide +kernel

/-- After the two calls the tile is served offline. -/
theorem terrainStore_serves_offline :
    (fetchDtedTile rockiesLibrary noDted ⟨.ok rockiesRoute, .absent, true, 1000⟩).Ensures Readable
      isKilled.after
      ((⟨rockiesRoute, .absent, .covered⟩ : Entry).Promises isKilled.after) := by
  have run : Run (StoreStep rockiesLibrary noDted) rockiesCache [finds, isKilled]
      isKilled.after :=
    (Run.nil.snoc (tileFetch_step rockiesRoute false 2 _)).snoc
      (tileFetch_step oceanRoute false 9 _)
  have apart : LieApart [finds, isKilled] := by
    intro taken member other member' route route' routed routed'
    have known : ∀ taken ∈ [finds, isKilled], ∀ route,
        taken.label.request.route = .ok route → route = rockiesRoute ∨ route = oceanRoute := by
      intro taken member route routed
      rcases List.mem_pair.mp member with rfl | rfl
      · left
        cases routed
        rfl
      · right
        cases routed
        rfl
    rcases known taken member route routed with rfl | rfl
    · rcases known other member' route' routed' with rfl | rfl
      · exact ⟨by decide, by decide⟩
      · exact ⟨by decide, by decide⟩
    · rcases known other member' route' routed' with rfl | rfl
      · exact ⟨by decide, by decide⟩
      · exact ⟨by decide, by decide⟩
  exact terrainStore_serves faithful_rockies apart run finds_settled rfl rfl

end Sample

end Sidereon.Cache
