import Sidereon.Cache.Effects
import Sidereon.Cache.Evidence

/-!
# Cache hits among concurrent fetches

Any number of fetches run against one directory, each call a step of its own. Only its own process
touches a temporary file, and a product changes only by the rename of a file that holds what the
renaming process downloaded and verified. So whatever bytes a fetch reads are the data of one
committed download, and a hit is said of such bytes alone.
-/

namespace Sidereon.Cache

open Foundation

variable {library : Library}

/-- A process has downloaded, decompressed and verified some data for a path. -/
def Downloaded (library : Library) (job : Job) (past : Past) (path : CachePath) (data : Bytes) :
    Prop :=
  ∃ route archive, job.route = .ok route ∧ route.path = path ∧
    (⟨.download route.url route.protocol, .ok archive⟩ : Event Request Answer) ∈ past ∧
    decompressIfNeeded library archive route.compression job.maxDecompressedBytes = .ok data ∧
    verifySha256 library data job.sha256 = .ok ()

/-- The renames of a fetch: onto a product, only a file that holds its download. -/
def FetchRenames (library : Library) (job : Job) (past : Past) (source : File) : File → Prop
  | .product path => ∃ data, grip past source = .holds data ∧ Downloaded library job past path data
  | _ => True

/-- A download stays known. -/
theorem Downloaded.later {job : Job} {past past' : Past} {path : CachePath} {data : Bytes}
    (downloaded : Downloaded library job past path data) (later : past <:+ past') :
    Downloaded library job past' path data := by
  obtain ⟨route, archive, routed, same, member, rest⟩ := downloaded
  exact ⟨route, archive, routed, same, later.subset member, rest⟩

section Contracts

variable {past : Past} {route : Route}

/-- The download half of a fetch commits only what it downloaded. -/
theorem keeps_downloadAndCache (job : Job) {provenance : Bytes → Bytes → DateTime → Json}
    {post : Past → Except Raised (Except Reason Unit) → Prop} (routed : job.route = .ok route)
    (any : ∀ past result, post past (.ok result)) :
    Program.Keeps (Permits (FetchRenames library job)) Expects post past
      (downloadAndCache library route job.sha256 job.maxDecompressedBytes provenance) := by
  rw [downloadAndCache, Program.keeps_bind, Program.keeps_perform]
  apply And.intro trivial
  intro answer _
  cases answer with
  | error reason => exact any _ _
  | ok archive =>
    cases decompressed : decompressIfNeeded library archive route.compression
        job.maxDecompressedBytes with
    | error reason => simpa [decompressed] using any _ _
    | ok data =>
      cases verified : verifySha256 library data job.sha256 with
      | error reason => simpa [decompressed, verified] using any _ _
      | ok done =>
        simp only [decompressed, verified]
        rw [Program.keeps_bind, keeps_utcNow]
        apply And.intro trivial
        intro now _
        apply Program.Keeps.mono
        · apply keeps_commitFile
          · intro after file _ _
            trivial
          · intro after file later holds _
            apply Exists.intro data
            apply And.intro holds
            refine ⟨route, archive, routed, rfl, later.subset ?_, decompressed, verified⟩
            simp
        · rintro after outcome ⟨result, rfl, _⟩
          exact any after result

/-- `SpaceWeather.load` reads a file. -/
theorem keeps_loadSpaceWeather {job : Job} {path : CachePath} :
    Program.Keeps (Permits (FetchRenames library job)) Expects (fun _ _ => True) past
      (loadSpaceWeather library path) := by
  rw [loadSpaceWeather, Program.keeps_bind, keeps_readFile]
  apply And.intro trivial
  intro answer _
  cases answer with
  | error reason => trivial
  | ok bytes =>
    dsimp only
    split
    · trivial
    · trivial

/-- What a `fetch` does with a classified product keeps its contract. -/
theorem keeps_fetchClassified {request : GnssCall} (routed : request.route = .ok route)
    (classified : Classification) :
    Program.Keeps (Permits (FetchRenames library (.fetch request))) Expects (fun _ _ => True) past
      (fetchClassified library request route classified) := by
  have downloads : Program.Keeps (Permits (FetchRenames library (.fetch request))) Expects
      (fun _ _ => True) past (downloadAndCacheGnss library request route) := by
    rw [downloadAndCacheGnss, Program.keeps_bind]
    apply keeps_downloadAndCache (.fetch request) routed
    intro after result
    cases result with
    | ok done => trivial
    | error reason => trivial
  have missing : Program.Keeps (Permits (FetchRenames library (.fetch request))) Expects
      (fun _ _ => True) past (fetchOnMiss library request route) := by
    unfold fetchOnMiss
    split
    · trivial
    · exact downloads
  cases classified with
  | hit path => trivial
  | absent => exact missing
  | unverified path => exact missing
  | stale reason =>
    simp only [fetchClassified]
    split
    · trivial
    · exact downloads
  | error reason => trivial

/-- What a `fetch_space_weather` does with a classified product keeps its contract. -/
theorem keeps_fetchSpaceWeatherClassified {request : SpaceWeatherCall}
    (routed : request.route = .ok route) (classified : Classification) :
    Program.Keeps (Permits (FetchRenames library (.fetchSpaceWeather request))) Expects
      (fun _ _ => True) past (fetchSpaceWeatherClassified library request route classified) := by
  have downloads : Program.Keeps (Permits (FetchRenames library (.fetchSpaceWeather request)))
      Expects (fun _ _ => True) past (downloadAndCacheSpaceWeather library request route) := by
    rw [downloadAndCacheSpaceWeather, Program.keeps_bind]
    apply keeps_downloadAndCache (.fetchSpaceWeather request) routed
    intro after result
    cases result with
    | ok done => exact keeps_loadSpaceWeather
    | error reason => trivial
  have missing : Program.Keeps (Permits (FetchRenames library (.fetchSpaceWeather request)))
      Expects (fun _ _ => True) past (fetchSpaceWeatherOnMiss library request route) := by
    unfold fetchSpaceWeatherOnMiss
    split
    · trivial
    · exact downloads
  cases classified with
  | hit path => exact keeps_loadSpaceWeather
  | absent => exact missing
  | unverified path => exact missing
  | stale reason =>
    simp only [fetchSpaceWeatherClassified]
    split
    · exact keeps_loadSpaceWeather
    · exact downloads
  | error reason => trivial

/-- A fetch keeps its contract. -/
theorem keeps_program (job : Job) :
    Program.Keeps (Permits (FetchRenames library job)) Expects (fun _ _ => True) []
      (job.program library) := by
  cases job with
  | fetch request =>
    cases routed : request.route with
    | error reason =>
      simp only [Job.program, fetch, routed]
      trivial
    | ok route =>
      simp only [Job.program, fetch, routed]
      rw [Program.keeps_bind]
      apply (keeps_classifyDataFile fun _ _ => trivial).mono
      intro after outcome _
      cases outcome with
      | ok classified => exact keeps_fetchClassified routed classified
      | error reason => trivial
  | fetchSpaceWeather request =>
    cases routed : request.route with
    | error reason =>
      simp only [Job.program, fetchSpaceWeather, routed]
      trivial
    | ok route =>
      simp only [Job.program, fetchSpaceWeather, routed]
      rw [Program.keeps_bind]
      apply (keeps_classifySpaceWeather (fun _ _ => trivial) fun _ => trivial).mono
      intro after outcome _
      cases outcome with
      | ok classified => exact keeps_fetchSpaceWeatherClassified routed classified
      | error reason => trivial

end Contracts

/-- What each process was started with and answered. -/
abbrev Record := Nat → Option (Job × Past)

/-- Some process downloaded and verified the data for a path and renamed it into place. -/
def CommittedData (library : Library) (record : Record) (path : CachePath) (data : Bytes) : Prop :=
  ∃ pid job past source, record pid = some (job, past) ∧ Downloaded library job past path data ∧
    (⟨.rename source (.product path), .ok ()⟩ : Event Request Answer) ∈ past

/-- The data of one committed download, in this run or before it. -/
def Known (library : Library) (earlier : CachePath → Bytes → Prop) (record : Record)
    (path : CachePath) (data : Bytes) : Prop :=
  earlier path data ∨ CommittedData library record path data

/-- What holds between the directory and the histories of the processes. -/
structure Sound (library : Library) (earlier : CachePath → Bytes → Prop) (directory : Directory)
    (record : Record) : Prop where
  holding : ∀ pid job past, record pid = some (job, past) → Holding past directory
  apart : ∀ pid other job job' past past' file, pid ≠ other → record pid = some (job, past) →
    record other = some (job', past') → grip past file ≠ .free → grip past' file = .free
  stored : ∀ path data, directory (.product path) = some data →
    Known library earlier record path data
  seen : ∀ pid job past path data, record pid = some (job, past) →
    data ∈ readsOf (.product path) past → Known library earlier record path data

section Invariant

variable {earlier : CachePath → Bytes → Prop} {record : Record} {directory directory' : Directory}
  {job : Job} {past : Past}

/-- What is known stays known when a process starts or has a call answered. -/
theorem Known.update {path : CachePath} {data : Bytes} {pid : Nat} {past' : Past}
    (known : Known library earlier record path data)
    (later : ∀ job' before, record pid = some (job', before) → job' = job ∧ before <:+ past') :
    Known library earlier (Function.update record pid (some (job, past'))) path data := by
  rcases known with before | ⟨other, job', before, source, recorded, downloaded, member⟩
  · exact .inl before
  · by_cases same : other = pid
    · subst same
      obtain ⟨sameJob, suffix⟩ := later job' before recorded
      subst sameJob
      exact .inr ⟨other, job', past', source, Function.update_self .., downloaded.later suffix,
        suffix.subset member⟩
    · refine .inr ⟨other, job', before, source, ?_, downloaded, member⟩
      rw [Function.update_of_ne same]
      exact recorded

/-- A process that starts has nothing and has seen nothing. -/
theorem Sound.launch {pid : Nat} (sound : Sound library earlier directory record)
    (fresh : record pid = none) :
    Sound library earlier directory (Function.update record pid (some (job, []))) := by
  have stays : ∀ path data, Known library earlier record path data →
      Known library earlier (Function.update record pid (some (job, []))) path data := by
    intro path data known
    apply known.update
    intro job' before recorded
    rw [fresh] at recorded
    cases recorded
  -- An entry of the new record is the one just made or one of the old record.
  have entries : ∀ other job' past', Function.update record pid (some (job, [])) other =
      some (job', past') → past' = [] ∨ record other = some (job', past') := by
    intro other job' past' recorded
    by_cases same : other = pid
    · subst same
      rw [Function.update_self] at recorded
      cases recorded
      exact .inl rfl
    · rw [Function.update_of_ne same] at recorded
      exact .inr recorded
  constructor
  · intro other job' past' recorded
    rcases entries other job' past' recorded with new | old
    · subst new
      exact Holding.nil
    · exact sound.holding other job' past' old
  · intro one other job' job'' past' past'' file different first second has
    rcases entries one job' past' first with new | old
    · subst new
      exact absurd rfl has
    · rcases entries other job'' past'' second with new | old'
      · subst new
        rfl
      · exact sound.apart one other job' job'' past' past'' file different old old' has
  · intro path data stored
    exact stays path data (sound.stored path data stored)
  · intro other job' past' path data recorded read
    rcases entries other job' past' recorded with new | old
    · subst new
      cases read
    · exact stays path data (sound.seen other job' past' path data old read)

/-- Every permitted call keeps the directory sound. -/
theorem Sound.answer {pid : Nat} {request : Request} {answer : Answer request}
    (sound : Sound library earlier directory record) (known : record pid = some (job, past))
    (permitted : Permits (FetchRenames library job) past request)
    (responded : Respond request directory answer directory') :
    Expects past request answer ∧ Sound library earlier directory'
      (Function.update record pid (some (job, ⟨request, answer⟩ :: past))) := by
  have had := sound.holding pid job past known
  obtain ⟨expected, effect⟩ := respond_effect had permitted responded
  apply And.intro expected
  have stays : ∀ path data, Known library earlier record path data → Known library earlier
      (Function.update record pid (some (job, ⟨request, answer⟩ :: past))) path data := by
    intro path data before
    apply before.update
    intro job' past' recorded
    rw [known] at recorded
    cases recorded
    exact ⟨rfl, List.suffix_cons _ _⟩
  -- What another process has is neither had nor gained by this one.
  have others : ∀ other job' past' file, other ≠ pid → record other = some (job', past') →
      grip past' file ≠ .free → grip past file = .free ∧
        grip (⟨request, answer⟩ :: past) file = .free := by
    intro other job' past' file different recorded has
    have free := sound.apart other pid job' job past' past file different recorded known has
    apply And.intro free
    by_contra gained
    rcases effect.gained gained with had | absent
    · exact had free
    · exact (sound.holding other job' past' recorded).present file has absent
  constructor
  case holding =>
    intro other job' past' recorded
    by_cases same : other = pid
    · subst same
      rw [Function.update_self] at recorded
      cases recorded
      exact effect.holding had
    · rw [Function.update_of_ne same] at recorded
      have holding := sound.holding other job' past' recorded
      have kept : ∀ file, grip past' file ≠ .free → directory' file = directory file := by
        intro file has
        exact effect.frame (holding.temp file has)
          (others other job' past' file same recorded has).1 (holding.present file has)
      constructor
      · exact holding.temp
      · intro file has
        rw [kept file has]
        exact holding.present file has
      · intro file data holds
        rw [kept file (by simp [holds])]
        exact holding.contents file data holds
  case apart =>
    intro one other job' job'' past' past'' file different first second has
    by_cases same : one = pid
    · subst same
      rw [Function.update_self] at first
      cases first
      rw [Function.update_of_ne different.symm] at second
      by_contra hasToo
      exact has (others other job'' past'' file different.symm second hasToo).2
    · rw [Function.update_of_ne same] at first
      by_cases same' : other = pid
      · subst same'
        rw [Function.update_self] at second
        cases second
        exact (others one job' past' file same first has).2
      · rw [Function.update_of_ne same'] at second
        exact sound.apart one other job' job'' past' past'' file different first second has
  case stored =>
    intro path data stored
    rcases effect.plain had (.product path) id with
      ⟨same, _⟩ | ⟨source, contents, renamed, _, found, now⟩
    · rw [same] at stored
      exact stays path data (sound.stored path data stored)
    · cases renamed
      obtain ⟨downloadedData, holds, downloaded⟩ := permitted.2.2
      have contentsEq := had.contents source downloadedData holds
      rw [found] at contentsEq
      cases contentsEq
      rw [now] at stored
      cases stored
      exact .inr ⟨pid, job, _, source, Function.update_self ..,
        downloaded.later (List.suffix_cons _ _), List.mem_cons_self ..⟩
  case seen =>
    intro other job' past' path data recorded read
    by_cases same : other = pid
    · subst same
      rw [Function.update_self] at recorded
      cases recorded
      rcases List.mem_cons.mp (mem_readsOf.mp read) with latest | earlierRead
      · cases latest
        exact stays path data (sound.stored path data responded.1)
      · exact stays path data (sound.seen other job past path data known
          (mem_readsOf.mpr earlierRead))
    · rw [Function.update_of_ne same] at recorded
      exact stays path data (sound.seen other job' past' path data recorded read)

end Invariant

/-- The fetches that run against one directory. -/
abbrev Fetches := Processes Job Request Answer Raised Directory (Except Reason Fetched)

/-- A step of any fetch. -/
abbrev FetchStep (library : Library) :
    Fetches → Happening Job Request Answer → Fetches → Prop :=
  Processes.Step (Job.program library) Respond

/-- The contracts of all fetches. -/
abbrev FetchKeeping (library : Library) (fetches : Fetches) : Prop :=
  fetches.Keeping (fun job => Permits (FetchRenames library job)) Expects

/-- Every run of fetches keeps the directory sound, and the fetches keep their contracts. -/
theorem run_sound {earlier : CachePath → Bytes → Prop} {start last : Fetches}
    {steps : List (Taken Fetches (Happening Job Request Answer))}
    (empty : start.record = fun _ => none)
    (committed : ∀ path data, start.world (.product path) = some data → earlier path data)
    (run : Run (FetchStep library) start steps last) :
    Sound library earlier last.world last.record ∧ FetchKeeping library last := by
  have initial : Sound library earlier start.world start.record := by
    constructor
    · intro pid job past recorded
      simp [empty] at recorded
    · intro pid other job job' past past' file _ recorded
      simp [empty] at recorded
    · intro path data stored
      exact .inl (committed path data stored)
    · intro pid job past path data recorded
      simp [empty] at recorded
  exact Processes.run_preserves (Sound library earlier) keeps_program empty initial
    (fun directory record pid job sound fresh => sound.launch fresh)
    (fun directory record pid job past request answer directory' sound known permitted responded =>
      sound.answer known permitted responded)
    run

/-- Whenever a fetch says hit, it read one version of the product, the pinned digest or the sidecar
it read vouches for that version, and it is the data of one committed download. -/
theorem hit_sound {earlier : CachePath → Bytes → Prop} {start last : Fetches}
    {steps : List (Taken Fetches (Happening Job Request Answer))}
    (empty : start.record = fun _ => none)
    (committed : ∀ path data, start.world (.product path) = some data → earlier path data)
    (run : Run (FetchStep library) start steps last) {pid : Nat} {job : Job} {past seen : Past}
    {path hit : CachePath} (known : last.record pid = some (job, past)) (part : seen <:+ past)
    (classified : (job.classification library path).Reaches seen (.done (.hit hit))) :
    ∃ data, readsOf (.product path) seen = [data] ∧ Vouched library path job.sha256 seen data ∧
      Known library earlier last.record path data := by
  have sound := (run_sound empty committed run).1
  have keeps : Program.Keeps (fun _ _ => True) (fun _ _ _ => True)
      (HitEvidence library path job.sha256) [] (job.classification library path) :=
    keeps_classification (fun _ _ => trivial) fun _ => trivial
  have evidence : HitEvidence library path job.sha256 seen (.ok (.hit hit)) :=
    keeps.reaches classified
  obtain ⟨data, read, vouched⟩ := evidence hit rfl
  refine ⟨data, read, vouched, ?_⟩
  have member : data ∈ readsOf (.product path) seen := by
    rw [read]
    exact List.mem_singleton_self data
  exact sound.seen pid job past path data known
    (mem_readsOf.mpr (part.subset (mem_readsOf.mp member)))

section Sample

/-- The schedule of a fetch that is started and has its first calls answered. -/
def fetchFor (pid calls : Nat) (job : Job) (archive : Bytes) (time : DateTime) :
    List (Nat × Move Job Setting) :=
  (pid, .launch job) :: (List.range calls).map fun n => (pid, .answer ⟨(n, 0), .ok archive, time⟩)

/-- A run of fetches from an empty cache. -/
def playFetches (library : Library) (moves : List (Nat × Move Job Setting)) : Fetches :=
  moves.foldl (fun processes move => processes.move (Job.program library) reply move.1 move.2)
    ⟨fun _ => none, fun _ => none, fun _ => none⟩

/-- A fetch that pins the digest of the first product. -/
def pinnedCall : GnssCall :=
  { orbitCall with
    sha256 := .digest "ca978112ca1bbdcafac231b39a23dc4da786eff8147c4e72b9807785afee48bb" }

/-- A fetch that finds the cache empty and commits a download, and then one that finds the file. -/
def twoFetches : Fetches :=
  playFetches pairLibrary
    (fetchFor 0 16 (.fetch orbitCall) [97] ⟨1782864000000000⟩ ++
      fetchFor 1 1 (.fetch pinnedCall) [] ⟨1782864000000000⟩)

/-- The second fetch says hit of what the first one committed. -/
theorem hit_sound_second :
    ∃ data, readsOf (.product orbitRoute.path)
        [⟨.read (.product orbitRoute.path), .ok [97]⟩] = [data] ∧
      Vouched pairLibrary orbitRoute.path pinnedCall.sha256
        [⟨.read (.product orbitRoute.path), .ok [97]⟩] data ∧
      Known pairLibrary (fun _ _ => False) twoFetches.record orbitRoute.path data := by
  have pinned : pairLibrary.sha256 [97] = pairLibrary.downcase
      "ca978112ca1bbdcafac231b39a23dc4da786eff8147c4e72b9807785afee48bb" := by
    decide +kernel
  obtain ⟨steps, run⟩ := Processes.run_moves respond_reply
    (.nil : Run (FetchStep pairLibrary) ⟨fun _ => none, fun _ => none, fun _ => none⟩ [] _)
    (fetchFor 0 16 (.fetch orbitCall) [97] ⟨1782864000000000⟩ ++
      fetchFor 1 1 (.fetch pinnedCall) [] ⟨1782864000000000⟩)
  have known : twoFetches.record 1 =
      some (.fetch pinnedCall, [⟨.read (.product orbitRoute.path), .ok [97]⟩]) := rfl
  have nothing : ∀ (path : CachePath) (data : Bytes), (none : Option Bytes) = some data → False := by
    intro path data stored
    cases stored
  exact hit_sound rfl nothing run known (List.suffix_refl _) (reaches_hit pinned)

end Sample

end Sidereon.Cache
