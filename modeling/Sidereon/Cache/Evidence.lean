import Sidereon.Cache.Contract

/-!
# What a hit rests on

Both classifiers read the product once and say hit only of bytes whose digest is the pinned one, or
the one named in the sidecar they read. No branch passes bytes that neither vouches for.
-/

namespace Sidereon.Cache

open Foundation

variable {library : Library} {path : CachePath} {pin : Pin}

/-- The contents a process was answered for a file, latest first. -/
def readsOf (file : File) : Past → List Bytes :=
  List.filterMap fun
    | ⟨.read other, .ok data⟩ => if other = file then some data else none
    | _ => none

/-- The contents read are those of the answered reads. -/
theorem mem_readsOf {file : File} {past : Past} {data : Bytes} :
    data ∈ readsOf file past ↔ (⟨.read file, .ok data⟩ : Event Request Answer) ∈ past := by
  rw [readsOf, List.mem_filterMap]
  constructor
  · rintro ⟨event, member, found⟩
    split at found
    · next other answered =>
      by_cases same : other = file
      · rw [if_pos same, Option.some.injEq] at found
        rw [← same, ← found]
        exact member
      · rw [if_neg same] at found
        cases found
    · cases found
  · intro member
    exact ⟨_, member, by simp⟩

/-- The digest of some data is the pinned one, or the one named in the only sidecar read. -/
def Vouched (library : Library) (path : CachePath) (pin : Pin) (past : Past) (data : Bytes) :
    Prop :=
  match pin with
  | .digest text => library.sha256 data = library.downcase text
  | _ => ∃ json, readsOf (.sidecar path) past = [json] ∧ Describes library json data

/-- What a hit rests on: the only data read is vouched for. -/
def Evidence (library : Library) (path : CachePath) (pin : Pin) (past : Past) : Prop :=
  ∃ data, readsOf (.product path) past = [data] ∧ Vouched library path pin past data

/-- An outcome that is a hit rests on evidence for this product. -/
def HitEvidence (library : Library) (path : CachePath) (pin : Pin) (past : Past)
    (outcome : Except Raised Classification) : Prop :=
  ∀ path', outcome = .ok (.hit path') → Evidence library path pin past

/-- An outcome other than a hit needs none. -/
theorem HitEvidence.of_ne {past : Past} {outcome : Except Raised Classification}
    (other : ∀ path', outcome ≠ .ok (.hit path')) :
    HitEvidence library path pin past outcome := by
  intro path' hit
  exact absurd hit (other path')

/-- The digest of a sidecar whose provenance is at hand. -/
theorem namedDigest_eq {json : Bytes} {provenance : Json} {digest : String}
    (decoded : library.decode json = some provenance)
    (expected : expectedDigest provenance = some (.string digest)) :
    namedDigest library json = some digest := by
  simp [namedDigest, decoded, expected]

section Classifiers

variable {permits : Past → Request → Prop}
  {expects : Past → (request : Request) → Answer request → Prop} {data : Bytes}

/-- `File.read`, for whatever is done with its answer. -/
theorem keeps_readFile {file : File} {past : Past}
    {post : Past → Except Raised (Except Posix Bytes) → Prop} :
    Program.Keeps permits expects post past (readFile file) ↔
      permits past (.read file) ∧ ∀ answer, expects past (.read file) answer →
        post (⟨.read file, answer⟩ :: past) (.ok answer) :=
  Iff.rfl

/-- `DateTime.utc_now`, for whatever is done with its answer. -/
theorem keeps_utcNow {past : Past} {post : Past → Except Raised DateTime → Prop} :
    Program.Keeps permits expects post past utcNow ↔
      permits past .now ∧ ∀ now, expects past .now now → post (⟨.now, now⟩ :: past) (.ok now) :=
  Iff.rfl

/-- The reading of the sidecar, for whatever is done with the provenance. -/
theorem keeps_readJson {file : File} {past : Past} {post : Past → Except Raised (Option Json) → Prop}
    (reads : permits past (.read file))
    (read : ∀ bytes, post (⟨.read file, .ok bytes⟩ :: past) (.ok (library.decode bytes)))
    (unread : ∀ reason, post (⟨.read file, .error reason⟩ :: past) (.ok none)) :
    Program.Keeps permits expects post past (readJson library file) := by
  rw [readJson, Program.keeps_bind, keeps_readFile]
  apply And.intro reads
  intro answer _
  cases answer with
  | ok bytes => exact read bytes
  | error reason => exact unread reason

/-- A computation that crashes when it fails. -/
theorem keeps_orCrash {α : Type} {reason : Raised} {result : Option α} {past : Past}
    {post : Past → Except Raised α → Prop}
    (value : ∀ value, result = some value → post past (.ok value))
    (crash : post past (.error reason)) :
    Program.Keeps permits expects post past (Program.orCrash reason result) := by
  cases result with
  | some found => exact value found rfl
  | none => exact crash

/-- The evidence of a hit by the sidecar: the answers to the two reads, and possibly the time. -/
theorem evidence_of_sidecar {json : Bytes} {past : Past}
    (unpinned : ∀ text, pin ≠ .digest text)
    (products : readsOf (.product path) past = [data])
    (sidecars : readsOf (.sidecar path) past = [json])
    (describes : Describes library json data) : Evidence library path pin past := by
  apply Exists.intro data
  apply And.intro products
  cases pin with
  | digest text => exact absurd rfl (unpinned text)
  | absent => exact ⟨json, sidecars, describes⟩
  | other inspected => exact ⟨json, sidecars, describes⟩

/-- `classify_with_provenance`, after the product was read and found unpinned. -/
theorem keeps_classifyWithProvenance (reads : ∀ past file, permits past (.read file))
    (unpinned : ∀ text, pin ≠ .digest text) :
    Program.Keeps permits expects (HitEvidence library path pin)
      [⟨.read (.product path), .ok data⟩]
      (classifyWithProvenance library path (library.sha256 data)) := by
  rw [classifyWithProvenance, Program.keeps_bind]
  apply keeps_readJson (reads _ _)
  case unread => exact fun reason => HitEvidence.of_ne (by simp)
  intro json
  cases decoded : library.decode json with
  | none => exact HitEvidence.of_ne (by simp)
  | some provenance =>
    change Program.Keeps _ _ _ _ (_ >>= _)
    rw [Program.keeps_bind]
    apply keeps_orCrash
    case crash => exact HitEvidence.of_ne (by simp)
    intro value named
    cases value with
    | string expected =>
      by_cases same : library.sha256 data = library.downcase expected
      · simp only [if_pos same]
        intro path' _
        have describes : Describes library json data := by
          rw [Describes, namedDigest_eq decoded named, same]
          rfl
        exact evidence_of_sidecar unpinned (by simp [readsOf]) (by simp [readsOf]) describes
      · simp only [if_neg same]
        exact HitEvidence.of_ne (by simp)
    | _ => exact HitEvidence.of_ne (by simp)

/-- `classify_data_file` says hit on evidence only. -/
theorem keeps_classifyDataFile (reads : ∀ past file, permits past (.read file)) :
    Program.Keeps permits expects (HitEvidence library path pin) []
      (classifyDataFile library path pin) := by
  rw [classifyDataFile, Program.keeps_bind, keeps_readFile]
  apply And.intro (reads _ _)
  intro answer _
  cases answer with
  | error reason =>
    cases reason with
    | enoent => exact HitEvidence.of_ne (by simp)
    | eexist => exact HitEvidence.of_ne (by simp)
    | other reason => exact HitEvidence.of_ne (by simp)
  | ok data =>
    cases pin with
    | digest text =>
      by_cases same : library.sha256 data = library.downcase text
      · simp only [if_pos same]
        intro path' _
        exact ⟨data, by simp [readsOf], same⟩
      · simp only [if_neg same]
        exact HitEvidence.of_ne (by simp)
    | absent => exact keeps_classifyWithProvenance reads (by simp)
    | other inspected => exact keeps_classifyWithProvenance reads (by simp)

/-- `fresh_provenance?` asks for the time at most. -/
theorem keeps_freshProvenance {provenance : Json} {maxAge : Option Foundation.Beam.Number}
    {past : Past} {post : Past → Except Raised Bool → Prop} (clock : permits past .now)
    (answered : ∀ now fresh, post (⟨.now, now⟩ :: past) (.ok fresh))
    (stale : post past (.ok false)) (crash : post past (.error .notText)) :
    Program.Keeps permits expects post past (freshProvenance library provenance maxAge) := by
  unfold freshProvenance
  split
  · split
    · rw [Program.keeps_bind, keeps_utcNow]
      exact ⟨clock, fun now _ => answered now _⟩
    · exact stale
  · exact crash
  · exact stale

/-- `classify_space_weather_with_provenance`, after the product was read and found unpinned. -/
theorem keeps_classifySpaceWeatherWithProvenance {maxAge : Option Foundation.Beam.Number}
    {offline : Bool} (reads : ∀ past file, permits past (.read file))
    (clock : ∀ past, permits past .now) (unpinned : ∀ text, pin ≠ .digest text) :
    Program.Keeps permits expects (HitEvidence library path pin)
      [⟨.read (.product path), .ok data⟩]
      (classifySpaceWeatherWithProvenance library path (library.sha256 data) maxAge offline) := by
  rw [classifySpaceWeatherWithProvenance, Program.keeps_bind]
  apply keeps_readJson (reads _ _)
  case unread => exact fun reason => HitEvidence.of_ne (by simp)
  intro json
  cases decoded : library.decode json with
  | none => exact HitEvidence.of_ne (by simp)
  | some provenance =>
    change Program.Keeps _ _ _ _ (_ >>= _)
    rw [Program.keeps_bind]
    apply keeps_orCrash
    case crash => exact HitEvidence.of_ne (by simp)
    intro value named
    cases value with
    | string expected =>
      by_cases same : library.sha256 data = library.downcase expected
      · have describes : Describes library json data := by
          rw [Describes, namedDigest_eq decoded named, same]
          rfl
        simp only [same, ne_eq, not_true_eq_false, if_false]
        cases offline with
        | true =>
          intro path' _
          exact evidence_of_sidecar unpinned (by simp [readsOf]) (by simp [readsOf]) describes
        | false =>
          change Program.Keeps _ _ _ _ (_ >>= _)
          rw [Program.keeps_bind]
          apply keeps_freshProvenance (clock _)
          case stale => exact HitEvidence.of_ne (by simp)
          case crash => exact HitEvidence.of_ne (by simp)
          intro now fresh
          cases fresh with
          | false => exact HitEvidence.of_ne (by simp)
          | true =>
            intro path' _
            exact evidence_of_sidecar unpinned (by simp [readsOf]) (by simp [readsOf]) describes
      · simp only [ne_eq, same, not_false_eq_true, if_true]
        exact HitEvidence.of_ne (by simp)
    | _ => exact HitEvidence.of_ne (by simp)

/-- `classify_space_weather` says hit on evidence only. -/
theorem keeps_classifySpaceWeather {maxAge : Option Foundation.Beam.Number} {offline : Bool}
    (reads : ∀ past file, permits past (.read file)) (clock : ∀ past, permits past .now) :
    Program.Keeps permits expects (HitEvidence library path pin) []
      (classifySpaceWeather library path pin maxAge offline) := by
  rw [classifySpaceWeather, Program.keeps_bind, keeps_readFile]
  apply And.intro (reads _ _)
  intro answer _
  cases answer with
  | error reason =>
    cases reason with
    | enoent => exact HitEvidence.of_ne (by simp)
    | eexist => exact HitEvidence.of_ne (by simp)
    | other reason => exact HitEvidence.of_ne (by simp)
  | ok data =>
    cases pin with
    | digest text =>
      by_cases same : library.sha256 data = library.downcase text
      · simp only [if_pos same]
        intro path' _
        exact ⟨data, by simp [readsOf], same⟩
      · simp only [if_neg same]
        exact HitEvidence.of_ne (by simp)
    | absent => exact keeps_classifySpaceWeatherWithProvenance reads clock (by simp)
    | other inspected => exact keeps_classifySpaceWeatherWithProvenance reads clock (by simp)

/-- The classification a call starts with says hit on evidence only. -/
theorem keeps_classification {job : Job} (reads : ∀ past file, permits past (.read file))
    (clock : ∀ past, permits past .now) :
    Program.Keeps permits expects (HitEvidence library path job.sha256) []
      (job.classification library path) := by
  cases job with
  | fetch request => exact keeps_classifyDataFile reads
  | fetchSpaceWeather request => exact keeps_classifySpaceWeather reads clock

end Classifiers

/-- The pinned digest is enough for a hit. -/
theorem reaches_hit {data : Bytes} {text : String}
    (pinned : library.sha256 data = library.downcase text) :
    (classifyDataFile library path (.digest text)).Reaches [⟨.read (.product path), .ok data⟩]
      (.done (.hit path)) := by
  have reading : (classifyDataFile library path (.digest text)).Reaches []
      (.call (.read (.product path)) _) :=
    .start
  have compared : (classifyDataFile library path (.digest text)).Reaches
      [⟨.read (.product path), .ok data⟩]
      (if library.sha256 data = library.downcase text then pure (.hit path)
      else pure (.stale (.checksumMismatch (library.downcase text) (library.sha256 data)))) :=
    reading.answered (.ok data)
  rw [if_pos pinned] at compared
  exact compared

end Sidereon.Cache
