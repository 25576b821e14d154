import Sidereon.Cache.Soundness

/-!
# When the product cache heals

An online fetch of space weather with no pinned digest should replace whatever it cannot use. It
does unless the sidecar beside the data names another digest, or names the right one of data that
do not parse. A run of fetches keeps away from such pairs when none of its renames makes one.
-/

namespace Sidereon.Cache

open Foundation
open Foundation.Beam (Number)

variable {library : Library} {path : CachePath} {directory : Directory}

/-- Operations succeed, and the archive serves what is valid. -/
def Succeeds (valid : Bytes → Prop) : (request : Request) → Answer request → Prop
  | .read _, .error reason => reason = .enoent
  | .makeDir _, .error _ => False
  | .openExclusive _, .error _ => False
  | .write _ _, .error _ => False
  | .sync _, .error _ => False
  | .close _, .error _ => False
  | .rename _ _, .error _ => False
  | .remove _, .error _ => False
  | .download _ _, .ok archive => valid archive
  | .download _ _, .error _ => False
  | _, _ => True

/-- How the file system and the archive answer a fetch that nothing disturbs. -/
def Undisturbed (valid : Bytes → Prop) (request : Request) (directory : Directory)
    (answer : Answer request) (directory' : Directory) : Prop :=
  Respond request directory answer directory' ∧ Succeeds valid request answer

/-- An archive reply that decompresses to a table. -/
def ValidArchive (library : Library) (request : SpaceWeatherCall) (route : Route)
    (archive : Bytes) : Prop :=
  ∃ data table, decompressIfNeeded library archive route.compression
    request.maxDecompressedBytes = .ok data ∧ library.parse data = .ok table

/-- Every later online fetch with no pinned digest that nothing disturbs returns a table. -/
def Heals (library : Library) (path : CachePath) (directory : Directory) : Prop :=
  ∀ (request : SpaceWeatherCall) (route : Route), request.route = .ok route → route.path = path →
    request.sha256 = .absent → request.offline = false →
    (fetchSpaceWeather library request).Ensures
      (Undisturbed (ValidArchive library request route)) directory
      fun outcome _ => ∃ table, outcome = .ok (.ok (.spaceWeather table))

/-- The time of a provenance is no use, or the data it may be fresh for parse. -/
def Usable (library : Library) (provenance : Json) (data : Bytes) : Prop :=
  match fetchedAt provenance with
  | none => True
  | some (.string text) => (library.fromIso8601 text).isSome →
      ∃ table, library.parse data = .ok table
  | some _ => False

/-- A sidecar that lets a fetch go on: it cannot be read or names no digest, or it names that of the
data and they are usable. -/
def Trusty (library : Library) (json data : Bytes) : Prop :=
  match library.decode json with
  | none => True
  | some provenance =>
    match expectedDigest provenance with
    | none => False
    | some (.string digest) =>
      library.sha256 data = library.downcase digest ∧ Usable library provenance data
    | some _ => True

/-- No product has a sidecar that keeps a fetch from going on. -/
def Mendable (library : Library) (directory : Directory) (path : CachePath) : Prop :=
  ∀ data json, directory (.product path) = some data → directory (.sidecar path) = some json →
    Trusty library json data

section Undisturbed

variable {valid : Bytes → Prop}

/-- A file is read as it is. -/
theorem ensures_readFile {file : File}
    {post : Except Raised (Except Posix Bytes) → Directory → Prop} :
    (readFile file).Ensures (Undisturbed valid) directory post ↔
      post (.ok ((directory file).elim (.error .enoent) .ok)) directory := by
  have single : (readFile file).Ensures (Undisturbed valid) directory post ↔
      ∀ answer between, Undisturbed valid (.read file) directory answer between →
        post (.ok answer) between :=
    Program.ensures_perform
  rw [single]
  cases found : directory file with
  | none =>
    constructor
    · intro ensures
      exact ensures (.error .enoent) directory ⟨⟨found, rfl⟩, rfl⟩
    · rintro holds answer between ⟨responded, succeeds⟩
      cases answer with
      | ok data =>
        rw [responded.1] at found
        cases found
      | error reason =>
        cases succeeds
        rw [responded.2]
        exact holds
  | some data =>
    constructor
    · intro ensures
      exact ensures (.ok data) directory ⟨⟨found, rfl⟩, trivial⟩
    · rintro holds answer between ⟨responded, succeeds⟩
      cases answer with
      | ok data' =>
        rw [responded.1] at found
        cases found
        rw [responded.2]
        exact holds
      | error reason =>
        cases succeeds
        rw [responded.1] at found
        cases found

/-- The clock may say anything. -/
theorem ensures_utcNow {post : Except Raised DateTime → Directory → Prop} :
    utcNow.Ensures (Undisturbed valid) directory post ↔ ∀ now, post (.ok now) directory := by
  have single : utcNow.Ensures (Undisturbed valid) directory post ↔
      ∀ answer between, Undisturbed valid .now directory answer between →
        post (.ok answer) between :=
    Program.ensures_perform
  rw [single]
  constructor
  · intro ensures now
    exact ensures now directory ⟨rfl, trivial⟩
  · rintro holds now between ⟨responded, _⟩
    rw [show between = directory from responded]
    exact holds now

/-- Undisturbed, the `:file` calls append the data. -/
theorem ensures_writeOut {file : File} {data : Bytes}
    {post : Except Raised (Except Posix Unit) → Directory → Prop}
    (wrote : post (.ok (.ok ()))
      (Function.update directory file ((directory file).map (· ++ data)))) :
    (writeOut file data).Ensures (Undisturbed valid) directory post := by
  rw [writeOut, Program.ensures_bind, Program.ensures_perform]
  rintro answer between ⟨responded, succeeds⟩
  cases answer with
  | error reason => exact succeeds.elim
  | ok done =>
    cases responded
    simp only [Program.ensures_bind, Program.ensures_perform]
    rintro answer between ⟨responded, succeeds⟩
    cases answer with
    | error reason => exact succeeds.elim
    | ok synced =>
      cases responded
      change (call (.close file)).Ensures _ _ _
      rw [Program.ensures_perform]
      rintro answer between ⟨responded, succeeds⟩
      cases answer with
      | error reason => exact succeeds.elim
      | ok closed =>
        cases responded
        exact wrote

/-- Undisturbed, `write_temp` yields a new file with the data. -/
theorem ensures_writeTemp {folder : String} {data : Bytes}
    {post : Except Raised (Except Reason File) → Directory → Prop}
    (wrote : ∀ file, file.IsTemp → directory file = none →
      post (.ok (.ok file)) (Function.update directory file (some data))) :
    (writeTemp folder data).Ensures (Undisturbed valid) directory post := by
  rw [writeTemp, Program.ensures_bind, Program.ensures_perform]
  rintro ⟨unique, time⟩ between ⟨responded, _⟩
  cases responded
  simp only [Program.ensures_bind, Program.ensures_perform]
  rintro answer between ⟨responded, succeeds⟩
  cases answer with
  | error reason => exact succeeds.elim
  | ok opened =>
    cases responded.2
    change (writeOut _ data >>= _).Ensures _ _ _
    rw [Program.ensures_bind]
    apply ensures_writeOut
    simp only [Function.update_self, Option.map_some, List.nil_append, Function.update_idem,
      Program.ensures_pure]
    exact wrote _ trivial responded.1

/-- Undisturbed, `rename_file` puts a file in the place of another. -/
theorem ensures_renameFile {source target : File} {contents : Bytes}
    {post : Except Raised (Except Reason Unit) → Directory → Prop}
    (found : directory source = some contents)
    (renamed : post (.ok (.ok ()))
      (Function.update (Function.update directory source none) target (some contents))) :
    (renameFile source target).Ensures (Undisturbed valid) directory post := by
  rw [renameFile, Program.ensures_bind, Program.ensures_perform]
  rintro answer between ⟨responded, succeeds⟩
  cases answer with
  | error reason => exact succeeds.elim
  | ok done =>
    obtain ⟨contents', found', moved⟩ := responded
    rw [found] at found'
    cases found'
    cases moved
    exact Program.ensures_pure.mpr renamed

/-- Undisturbed, a commit puts its data in place. -/
theorem ensures_commitFile {data : Bytes} {provenance : Json} {valid : Bytes → Prop}
    {post : Except Raised (Except Reason Unit) → Directory → Prop}
    (committed : ∀ directory', directory' (.product path) = some data →
      post (.ok (.ok ())) directory') :
    (commitFile library path data provenance).Ensures (Undisturbed valid) directory post := by
  rw [commitFile, ensureDir]
  simp only [Program.ensures_bind, Program.ensures_perform]
  rintro answer between ⟨responded, succeeds⟩
  cases answer with
  | error reason => exact succeeds.elim
  | ok made =>
    cases responded
    simp only [Program.ensures_pure, Program.ensures_bind]
    apply ensures_writeTemp
    intro dataTmp isTemp _
    simp only [Program.ensures_bind]
    apply ensures_writeTemp
    intro provenanceTmp isTemp' absent
    have different : provenanceTmp ≠ dataTmp := by
      intro same
      simp [same] at absent
    simp only [Program.ensures_bind]
    refine ensures_renameFile (Function.update_self ..) ?_
    have stillData : Function.update (Function.update (Function.update (Function.update directory
        dataTmp (some data)) provenanceTmp (some (library.encode provenance))) provenanceTmp none)
        (.sidecar path) (some (library.encode provenance)) dataTmp = some data := by
      have plain : dataTmp ≠ .sidecar path := by
        intro same
        exact (same ▸ isTemp : (File.sidecar path).IsTemp)
      simp [Function.update_of_ne plain, Function.update_of_ne different.symm]
    refine ensures_renameFile stillData ?_
    exact committed _ (Function.update_self ..)

end Undisturbed

/-- The download of a valid archive puts a table in place. -/
theorem ensures_downloadAndCache {request : SpaceWeatherCall} {route : Route}
    {post : Except Raised (Except Reason Fetched) → Directory → Prop}
    (unpinned : request.sha256 = .absent)
    (loaded : ∀ directory' table, post (.ok (.ok (.spaceWeather table))) directory') :
    (downloadAndCacheSpaceWeather library request route).Ensures
      (Undisturbed (ValidArchive library request route)) directory post := by
  rw [downloadAndCacheSpaceWeather, downloadAndCache]
  simp only [Program.ensures_bind, Program.ensures_perform]
  rintro answer between ⟨responded, succeeds⟩
  cases answer with
  | error reason => exact succeeds.elim
  | ok archive =>
    cases responded
    obtain ⟨data, table, decompressed, parsed⟩ := succeeds
    simp only [decompressed, unpinned, verifySha256, Program.ensures_bind, ensures_utcNow]
    intro now
    apply ensures_commitFile
    intro directory' stored
    simp only [loadSpaceWeather, Program.ensures_bind, ensures_readFile, stored, Option.elim_some,
      parsed, Program.ensures_pure]
    exact loaded directory' table

section Classification

variable {valid : Bytes → Prop} {maxAge : Option Number}

/-- What `fresh_provenance?` says at a time. -/
def freshAt (library : Library) (provenance : Json) (maxAge : Option Number) (now : DateTime) :
    Except Raised Bool :=
  match fetchedAt provenance, maxAge with
  | some (.string text), some age =>
    match library.fromIso8601 text with
    | some time => .ok (decide ((now.diffSeconds time : Rat) ≤ age.value))
    | none => .ok false
  | some _, some _ => .error .notText
  | _, _ => .ok false

/-- What `classify_space_weather` says of a product and a sidecar at a time, with no pinned digest
and online. -/
def classifiedAt (library : Library) (path : CachePath) (maxAge : Option Number) (now : DateTime) :
    Option Bytes → Option Json → Except Raised Classification
  | none, _ => .ok .absent
  | some _, none => .ok (.unverified path)
  | some data, some provenance =>
    match expectedDigest provenance with
    | none => .error .access
    | some (.string digest) =>
      if library.sha256 data = library.downcase digest then
        (freshAt library provenance maxAge now).map
          fun fresh => if fresh then .hit path else .stale .expired
      else .ok (.error (.checksumMismatch (library.downcase digest) (library.sha256 data)))
    | some _ => .ok (.unverified path)

/-- `fresh_provenance?` depends on the time alone. -/
theorem ensures_freshProvenance {provenance : Json}
    {post : Except Raised Bool → Directory → Prop} :
    (freshProvenance library provenance maxAge).Ensures (Undisturbed valid) directory post ↔
      ∀ now, post (freshAt library provenance maxAge now) directory := by
  unfold freshProvenance freshAt
  cases fetched : fetchedAt provenance with
  | none => simp
  | some value =>
    cases maxAge with
    | none => simp
    | some age =>
      cases value with
      | string text =>
        cases time : library.fromIso8601 text with
        | none => simp [time]
        | some time' =>
          simp only [time, Program.ensures_bind, ensures_utcNow, Program.ensures_pure]
      | _ => simp

/-- The classification depends on the pair and on the time alone. -/
theorem ensures_classifySpaceWeather {post : Except Raised Classification → Directory → Prop} :
    (classifySpaceWeather library path .absent maxAge false).Ensures (Undisturbed valid) directory
      post ↔
      ∀ now, post (classifiedAt library path maxAge now (directory (.product path))
        ((directory (.sidecar path)).bind library.decode)) directory := by
  simp only [classifySpaceWeather, Program.ensures_bind, ensures_readFile]
  cases product : directory (.product path) with
  | none => simp only [Option.elim_none, Program.ensures_pure, classifiedAt, forall_const]
  | some data =>
    simp only [Option.elim_some, classifySpaceWeatherWithProvenance, readJson,
      Program.ensures_bind, ensures_readFile]
    cases sidecar : directory (.sidecar path) with
    | none =>
      simp only [Option.elim_none, Program.ensures_pure, classifiedAt, Option.bind_none,
        forall_const]
    | some json =>
      simp only [Option.elim_some, Program.ensures_pure, Option.bind_some]
      cases decoded : library.decode json with
      | none => simp only [Program.ensures_pure, classifiedAt, forall_const]
      | some provenance =>
        simp only [Program.ensures_bind, Program.ensures_orCrash, classifiedAt]
        cases named : expectedDigest provenance with
        | none => simp
        | some value =>
          cases value with
          | string digest =>
            by_cases same : library.sha256 data = library.downcase digest
            · simp only [Option.some.injEq, reduceCtorEq, false_implies, and_true, forall_eq', same,
                ne_eq, not_true_eq_false, if_false, if_true, Bool.false_eq_true,
                Program.ensures_bind, ensures_freshProvenance]
              apply forall_congr'
              intro now
              cases freshAt library provenance maxAge now with
              | error reason => rfl
              | ok fresh => cases fresh <;> simp [Except.map]
            · simp [same]
          | _ => simp

end Classification

/-- A fetch with no more use for what is cached returns a table. -/
theorem ensures_refetched {request : SpaceWeatherCall} {route : Route}
    (unpinned : request.sha256 = .absent) :
    (downloadAndCacheSpaceWeather library request route).Ensures
      (Undisturbed (ValidArchive library request route)) directory
      fun outcome _ => ∃ table, outcome = .ok (.ok (.spaceWeather table)) :=
  ensures_downloadAndCache unpinned fun _ table => ⟨table, rfl⟩

/-- What a fetch makes of a classification when it is online and not disturbed. -/
def Served (library : Library) (directory : Directory) (path : CachePath) :
    Except Raised Classification → Prop
  | .ok (.hit _) => ∃ data table, directory (.product path) = some data ∧
      library.parse data = .ok table
  | .ok (.error _) => False
  | .ok _ => True
  | .error _ => False

/-- An undisturbed online fetch returns a table exactly when every classification it can make is
served. -/
theorem ensures_fetch_iff {request : SpaceWeatherCall} {route : Route}
    (routed : request.route = .ok route) (unpinned : request.sha256 = .absent)
    (online : request.offline = false) :
    (fetchSpaceWeather library request).Ensures
        (Undisturbed (ValidArchive library request route)) directory
        (fun outcome _ => ∃ table, outcome = .ok (.ok (.spaceWeather table))) ↔
      ∀ now, Served library directory route.path (classifiedAt library route.path request.maxAge
        now (directory (.product route.path))
        ((directory (.sidecar route.path)).bind library.decode)) := by
  simp only [fetchSpaceWeather, routed, unpinned, online, Program.ensures_bind,
    ensures_classifySpaceWeather]
  apply forall_congr'
  intro now
  cases classifiedAt library route.path request.maxAge now (directory (.product route.path))
      ((directory (.sidecar route.path)).bind library.decode) with
  | error reason => simp [Served]
  | ok classified =>
    cases classified with
    | hit path =>
      simp only [fetchSpaceWeatherClassified, loadSpaceWeather, Program.ensures_bind,
        ensures_readFile, Served]
      cases product : directory (.product route.path) with
      | none => simp
      | some data =>
        cases parsed : library.parse data with
        | error detail => simp [parsed]
        | ok table => simp [parsed]
    | absent =>
      simp only [fetchSpaceWeatherClassified, fetchSpaceWeatherOnMiss, online, Served]
      exact iff_of_true (ensures_refetched unpinned) trivial
    | unverified path =>
      simp only [fetchSpaceWeatherClassified, fetchSpaceWeatherOnMiss, online, Served]
      exact iff_of_true (ensures_refetched unpinned) trivial
    | stale reason =>
      simp only [fetchSpaceWeatherClassified, online, Served]
      exact iff_of_true (ensures_refetched unpinned) trivial
    | error reason => simp [fetchSpaceWeatherClassified, Served]

/-- An online call with no pinned digest for the product at a path. -/
def laterCall (path : CachePath) (maxAge : Option Number) : SpaceWeatherCall where
  route := .ok ⟨path, "", "", "none"⟩
  product := "sw_all"
  sha256 := .absent
  maxAge := maxAge
  offline := false
  maxDecompressedBytes := 0

/-- Where a directory heals, no classification of the product fails. -/
theorem Heals.served (heals : Heals library path directory) (maxAge : Option Number)
    (now : DateTime) :
    Served library directory path (classifiedAt library path maxAge now
      (directory (.product path)) ((directory (.sidecar path)).bind library.decode)) := by
  have later := heals (laterCall path maxAge) ⟨path, "", "", "none"⟩ rfl rfl rfl rfl
  exact (ensures_fetch_iff rfl rfl rfl).mp later now

/-- The one pair of a path decides whether its product is mendable. -/
theorem mendable_iff {data json : Bytes} (product : directory (.product path) = some data)
    (sidecar : directory (.sidecar path) = some json) :
    Mendable library directory path ↔ Trusty library json data := by
  constructor
  · intro mendable
    exact mendable data json product sidecar
  · intro trusty data' json' product' sidecar'
    rw [product] at product'
    rw [sidecar] at sidecar'
    cases product'
    cases sidecar'
    exact trusty

/-- A product with the digest its sidecar names is served at every time exactly when it is usable. -/
theorem served_iff_usable {provenance : Json} {data : Bytes}
    (product : directory (.product path) = some data) :
    (∀ maxAge now, Served library directory path ((freshAt library provenance maxAge now).map
      fun fresh => if fresh then .hit path else .stale .expired)) ↔
      Usable library provenance data := by
  unfold Usable
  cases fetched : fetchedAt provenance with
  | none => simp [freshAt, fetched, Except.map, Served]
  | some value =>
    cases value with
    | string text =>
      constructor
      · intro served readable
        obtain ⟨time, read⟩ := Option.isSome_iff_exists.mp readable
        -- At the time of the fetch itself the file counts as fresh.
        have hit := served (some (.int 0)) time
        have fresh : freshAt library provenance (some (.int 0)) time = .ok true := by
          simp [freshAt, fetched, read, DateTime.diffSeconds, Number.value]
        simp only [fresh, Except.map, if_true, Served, product] at hit
        obtain ⟨data', table, found, parsed⟩ := hit
        cases found
        exact ⟨table, parsed⟩
      · intro usable maxAge now
        cases maxAge with
        | none => simp [freshAt, fetched, Except.map, Served]
        | some age =>
          cases read : library.fromIso8601 text with
          | none => simp [freshAt, fetched, read, Except.map, Served]
          | some time =>
            obtain ⟨table, parsed⟩ := usable (by simp [read])
            by_cases fresh : (now.diffSeconds time : Rat) ≤ age.value
            · simp [freshAt, fetched, read, fresh, Except.map, Served, product, parsed]
            · simp [freshAt, fetched, read, fresh, Except.map, Served]
    | _ =>
      constructor
      · intro served
        have raised := served (some (.int 0)) ⟨0⟩
        simp [freshAt, fetched, Except.map, Served] at raised
      · intro impossible
        exact impossible.elim

/-- A directory heals a product exactly when no sidecar keeps a fetch from going on. -/
theorem heals_iff : Heals library path directory ↔ Mendable library directory path := by
  have served_all : Heals library path directory ↔ ∀ maxAge now, Served library directory path
      (classifiedAt library path maxAge now (directory (.product path))
        ((directory (.sidecar path)).bind library.decode)) := by
    constructor
    · exact Heals.served
    · intro served request route routed samePath unpinned online
      subst samePath
      exact (ensures_fetch_iff routed unpinned online).mpr (served request.maxAge)
  rw [served_all]
  cases product : directory (.product path) with
  | none => simp [classifiedAt, Served, Mendable, product]
  | some data =>
    cases sidecar : directory (.sidecar path) with
    | none => simp [classifiedAt, Served, Mendable, product, sidecar]
    | some json =>
      rw [mendable_iff product sidecar, Option.bind_some]
      unfold Trusty
      cases library.decode json with
      | none => simp [classifiedAt, Served]
      | some provenance =>
        simp only [classifiedAt]
        cases expectedDigest provenance with
        | none => simp [Served]
        | some value =>
          cases value with
          | string digest =>
            by_cases same : library.sha256 data = library.downcase digest
            · simp only [if_pos same]
              exact (served_iff_usable product).trans (and_iff_right same).symm
            · simp [same, Served]
          | _ => simp [Served]

/-- A sidecar that can be trusted names the digest of its data, if any. -/
theorem Trusty.named {json data : Bytes} {digest : String} (trusty : Trusty library json data)
    (named : namedDigest library json = some digest) :
    library.sha256 data = library.downcase digest := by
  unfold Trusty at trusty
  unfold namedDigest at named
  cases decoded : library.decode json with
  | none => simp [decoded] at named
  | some provenance =>
    simp only [decoded, Option.bind_some] at named trusty
    cases expected : expectedDigest provenance with
    | none => simp [expected] at named
    | some value =>
      cases value with
      | string text =>
        simp only [expected, Option.some.injEq] at named trusty
        rw [← named]
        exact trusty.1
      | _ => simp [expected] at named

/-- Where a directory heals, a sidecar names no digest but that of its data. -/
theorem Heals.named {data json : Bytes} {digest : String} (heals : Heals library path directory)
    (product : directory (.product path) = some data)
    (sidecar : directory (.sidecar path) = some json)
    (named : namedDigest library json = some digest) :
    library.sha256 data = library.downcase digest :=
  ((mendable_iff product sidecar).mp (heals_iff.mp heals)).named named

section Runs

variable {before after start last : Fetches} {happening : Happening Job Request Answer}
  {steps : List (Taken Fetches (Happening Job Request Answer))}
  {earlier : CachePath → Bytes → Prop}

/-- Whether a step, if it renames a file onto a sidecar or a product, puts it beside one that it
can be trusted with. -/
def Meets (library : Library) (taken : Taken Fetches (Happening Job Request Answer)) : Prop :=
  ∀ pid source target, taken.label = .answered pid ⟨.rename source target, .ok ()⟩ →
    match target with
    | .sidecar path => ∀ data json, taken.before.world (.product path) = some data →
        taken.before.world source = some json → Trusty library json data
    | .product path => ∀ data json, taken.before.world source = some data →
        taken.before.world (.sidecar path) = some json → Trusty library json data
    | .temp _ _ _ => True

/-- A step changes a product or a sidecar only by renaming a file onto it. -/
theorem fetchStep_plain (sound : Sound library earlier before.world before.record)
    (keeping : FetchKeeping library before) (step : FetchStep library before happening after)
    {file : File} (plain : ¬file.IsTemp) :
    after.world file = before.world file ∨ ∃ pid source contents,
      happening = .answered pid ⟨.rename source file, .ok ()⟩ ∧
        before.world source = some contents ∧ after.world file = some contents := by
  cases step with
  | launch job fresh => exact .inl rfl
  | kill => exact .inl rfl
  | answer known runs responded =>
    have holding := sound.holding _ _ _ known
    have permitted := (keeping _ _ _ _ known runs).1
    have effect := (respond_effect holding permitted responded).2
    rcases effect.plain holding file plain with ⟨same, _⟩ | ⟨source, contents, renamed, _, found, now⟩
    · exact .inl same
    · exact .inr ⟨_, source, contents, by rw [renamed], found, now⟩

/-- A successful rename puts what the source holds onto the target. -/
theorem fetchStep_renamed {pid : Nat} {source target : File}
    (step : FetchStep library before (.answered pid ⟨.rename source target, .ok ()⟩) after) :
    ∃ contents, before.world source = some contents ∧ after.world target = some contents := by
  cases step with
  | answer known runs responded =>
    obtain ⟨contents, found, moved⟩ := responded
    exact ⟨contents, found, by simp [moved]⟩

/-- A step from a mendable directory leaves one exactly when it meets the condition. -/
theorem meets_iff (sound : Sound library earlier before.world before.record)
    (keeping : FetchKeeping library before) (step : FetchStep library before happening after)
    (mendable : ∀ path, Mendable library before.world path) :
    Meets library ⟨before, happening, after⟩ ↔ ∀ path, Mendable library after.world path := by
  have changes := fun (file : File) (plain : ¬file.IsTemp) =>
    fetchStep_plain sound keeping step plain
  constructor
  · intro meets path data json product sidecar
    rcases changes (.product path) id with same | ⟨pid, source, contents, label, found, now⟩
    · rw [same] at product
      rcases changes (.sidecar path) id with same' | ⟨pid, source, contents, label, found, now⟩
      · rw [same'] at sidecar
        exact mendable path data json product sidecar
      · rw [now] at sidecar
        exact meets pid source (.sidecar path) label data json product (found.trans sidecar)
    · rw [now] at product
      rcases changes (.sidecar path) id with same' | ⟨pid', source', _, label', _, _⟩
      · rw [same'] at sidecar
        exact meets pid source (.product path) label data json (found.trans product) sidecar
      · rw [label] at label'
        cases label'
  · intro mended pid source target label
    change happening = _ at label
    subst label
    obtain ⟨contents, found, now⟩ := fetchStep_renamed step
    cases target with
    | temp folder unique time => trivial
    | sidecar path =>
      intro data json product sidecar
      rw [found] at sidecar
      cases sidecar
      rcases changes (.product path) id with same | ⟨_, _, _, label, _, _⟩
      · exact mended path data contents (same.trans product) now
      · cases label
    | product path =>
      intro data json product sidecar
      rw [found] at product
      cases product
      rcases changes (.sidecar path) id with same | ⟨_, _, _, label, _, _⟩
      · exact mended path contents json now (same.trans sidecar)
      · cases label

/-- Every step of a run from an empty cache meets the condition exactly when every state after a
step is mendable. -/
theorem mendable_run_iff (empty : start.record = fun _ => none)
    (nothing : start.world = fun _ => none) (run : Run (FetchStep library) start steps last) :
    (∀ taken ∈ steps, Meets library taken) ↔
      ∀ taken ∈ steps, ∀ path, Mendable library taken.after.world path := by
  have stored : ∀ path data, start.world (.product path) = some data → False := by
    intro path data stored
    rw [nothing] at stored
    cases stored
  induction run with
  | nil => simp
  | @snoc steps state state' label run step ih =>
    have invariant := run_sound empty stored run
    have onward : (∀ taken ∈ steps, ∀ path, Mendable library taken.after.world path) →
        (Meets library ⟨state, label, state'⟩ ↔ ∀ path, Mendable library state'.world path) := by
      intro mended
      apply meets_iff invariant.1 invariant.2 step
      rcases run.ends with atStart | ⟨taken, member, same⟩
      · intro path data json product
        rw [atStart] at product
        exact (stored path data product).elim
      · rw [← same]
        exact mended taken member
    simp only [List.forall_mem_append, List.forall_mem_singleton]
    constructor
    · rintro ⟨met, meets⟩
      have mended := ih.mp met
      exact ⟨mended, (onward mended).mp meets⟩
    · rintro ⟨mended, mendable⟩
      exact ⟨ih.mpr mended, (onward mended).mpr mendable⟩

end Runs

section Sample

/-- A space-weather file of two days, and one of three. -/
def weatherFile (days : Nat) : Bytes :=
  utf8 "DATE,BSRN,ND,KP1,KP2,KP3,KP4,KP5,KP6,KP7,KP8,KP_SUM,AP1,AP2,AP3,AP4,AP5,AP6,AP7,AP8,AP_AVG,"
  ++ utf8 "CP,C9,ISN,F10.7_OBS,F10.7_ADJ,F10.7_DATA_TYPE,F10.7_OBS_CENTER81,F10.7_OBS_LAST81,"
  ++ utf8 "F10.7_ADJ_CENTER81,F10.7_ADJ_LAST81\n"
  ++ utf8 "2000-01-01,1,1,10,10,10,10,10,10,10,10,80,4,4,4,4,4,4,4,4,4,0.0,0,10,100.0,101.0,OBS,"
  ++ utf8 "99.0,98.0,102.0,103.0\n"
  ++ utf8 "2000-01-02,1,2,20,20,20,20,20,20,20,20,160,5,6,7,8,9,10,11,12,8,0.1,1,11,110.0,111.0,OBS,"
  ++ utf8 "109.0,108.0,112.0,113.0\n"
  ++ if days = 2 then [] else
    utf8 "2000-01-03,1,3,30,30,30,30,30,30,30,30,240,13,14,15,16,17,18,19,20,16,0.2,2,12,120.0,"
    ++ utf8 "121.0,OBS,119.0,118.0,122.0,123.0\n"

/-- The digests of the two files and the time of their commits. -/
def weatherLibrary : Library :=
  sampleLibrary
    [(weatherFile 2, "57f45d9053098926289f3ec13bef4b8209631301d9cecaa69aecde896b9f8860"),
     (weatherFile 3, "7792dbfe5571e0c10a4c0fc3e42afbcea8dd2d6019239af0e25a53fc7d467ea3")]
    [(⟨1782864000000000⟩, "2026-07-01T00:00:00.000000Z")]

/-- The place of the space-weather file. -/
def weatherRoute : Route where
  path := ⟨"cache/space_weather", "SW-All.csv"⟩
  url := "https://celestrak.org/SpaceData/SW-All.csv"
  protocol := "https"
  compression := "none"

/-- A fetch of that file. -/
def weatherCall : SpaceWeatherCall where
  route := .ok weatherRoute
  product := "sw_all"
  sha256 := .absent
  maxAge := some (.int 86400)
  offline := false
  maxDecompressedBytes := 1000000

/-- One fetch, started on an empty cache. -/
def started : Fetches := playFetches weatherLibrary [(0, .launch (.fetchSpaceWeather weatherCall))]

/-- Two fetches that find the cache empty: the first one commits, the second one is served a newer
file and is killed after the rename of its sidecar. -/
def killedFetch : List (Nat × Move Job Setting) :=
  let serving := fun days n => (⟨(n, 0), .ok (weatherFile days), ⟨1782864000000000⟩⟩ : Setting)
  [(0, .launch (.fetchSpaceWeather weatherCall)), (1, .launch (.fetchSpaceWeather weatherCall)),
    (0, .answer (serving 2 0)), (1, .answer (serving 3 0))] ++
  (List.range 16).map (fun n => (0, .answer (serving 2 (n + 1)))) ++
  (List.range 14).map (fun n => (1, .answer (serving 3 (n + 17)))) ++ [(1, .kill)]

/-- The state after the kill. -/
def afterKill : Fetches := playFetches weatherLibrary killedFetch

/-- The sidecar of the newer file. -/
def newerSidecar : Bytes :=
  weatherLibrary.encode (spaceWeatherProvenance weatherLibrary weatherCall weatherRoute
    (weatherFile 3) (weatherFile 3) ⟨1782864000000000⟩)

/-- The sidecar of the newer file lies beside the older file. -/
theorem afterKill_pair : afterKill.world (.product weatherRoute.path) = some (weatherFile 2) ∧
    afterKill.world (.sidecar weatherRoute.path) = some newerSidecar := by
  decide +kernel

/-- It names the digest of the newer file. -/
theorem newerSidecar_named : namedDigest weatherLibrary newerSidecar =
    some "7792dbfe5571e0c10a4c0fc3e42afbcea8dd2d6019239af0e25a53fc7d467ea3" := by
  decide +kernel

/-- It does not describe the older file. -/
theorem older_differs : weatherLibrary.sha256 (weatherFile 2) ≠ weatherLibrary.downcase
    "7792dbfe5571e0c10a4c0fc3e42afbcea8dd2d6019239af0e25a53fc7d467ea3" := by
  decide +kernel

end Sample

end Sidereon.Cache
