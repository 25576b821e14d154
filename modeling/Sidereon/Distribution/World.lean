import Mathlib.Logic.Function.Basic
import Sidereon.Distribution.Acquire

/-!
# A world to acquire in

A cache keeps for each slot what was committed there, or something that cannot be read. Files may be
missing, unreadable or read. Everything else that an acquisition asks is answered by an arbitrary
automaton. Locks are obtained and commits succeed, so what loading an entry does follows from what
the world holds for its slot.
-/

namespace Sidereon.Distribution

open Foundation

/-- The bytes of a cache entry. -/
structure Entry where
  content : Binary
  archive : Binary
  json : Binary
  deriving DecidableEq

/-- The paths of a cache entry. -/
structure Place where
  product : Binary
  archive : Binary
  provenance : Binary
  deriving DecidableEq

/-- The files of an entry at its place. -/
def Place.files (place : Place) (entry : Entry) : CacheFiles where
  product := place.product
  archive := place.archive
  provenance := place.provenance
  productBytes := some entry.content
  archiveBytes := some entry.archive
  provenanceBytes := some entry.json

/-- The files at a place, none of which has been read. -/
def Place.unread (place : Place) : CacheFiles where
  product := place.product
  archive := place.archive
  provenance := place.provenance
  productBytes := none
  archiveBytes := none
  provenanceBytes := none

/-- What the exact cache keeps for a slot. -/
inductive Stored where
  | nothing
  | committed (place : Place) (entry : Entry)
  | unreadable (reason : Binary)
  deriving DecidableEq

/-- What reading a slot gives. -/
def Stored.read : Stored → CacheRead
  | .nothing => .miss
  | .committed place entry => .files (place.files entry)
  | .unreadable reason => .error reason

/-- The state of the surroundings. A file is missing, unreadable, or read as bytes. -/
structure World (Outside : Type) where
  stored : Slot → Stored
  files : Binary → Option (Option Binary)
  outside : Outside

/-- How the surroundings answer: where a new entry is placed, and what everything outside the cache
and the files says. -/
structure Environment (Outside : Type) where
  place : World Outside → Slot → Place
  answer : (request : Call) → Outside → Answer request × Outside

namespace Environment

variable {Outside : Type} (environment : Environment Outside)

/-- The world after a commit. -/
def commit (world : World Outside) (slot : Slot) (entry : Entry) : World Outside :=
  { world with
    stored := Function.update world.stored slot
      (.committed (environment.place world slot) entry) }

/-- The answer to a call, and the world after it. -/
def reply : (request : Call) → World Outside → Answer request × World Outside
  | .openCache _ _, world => (.ok (), world)
  | .cleanupCache _, world => (.ok (), world)
  | .readCache slot, world => ((world.stored slot).read, world)
  | .publish slot content archive json, world =>
    (.ok ((environment.place world slot).files ⟨content, archive, json⟩),
      environment.commit world slot ⟨content, archive, json⟩)
  | .closeCache _, world => ((), world)
  | .fileExists path, world => ((world.files path).isSome, world)
  | .readFile path, world => ((world.files path).join, world)
  | request, world =>
    let (answer, outside) := environment.answer request world.outside
    (answer, { world with outside })

end Environment

/-- The legacy files of a slot. -/
def Slot.legacy (slot : Slot) : Place where
  product := slot.path
  archive := slot.path ++ ascii ".archive"
  provenance := slot.path ++ ascii ".provenance.json"

/-- What is held for a slot: nothing, something that is no entry, or an entry, with whether it is in
legacy files. -/
inductive Held where
  | nothing
  | broken
  | entry (product : Binary) (entry : Entry) (legacy : Bool)

/-- What a world holds for a slot. -/
def World.held {Outside : Type} (world : World Outside) (slot : Slot) : Held :=
  match world.stored slot with
  | .committed place entry => .entry place.product entry false
  | .unreadable _ => .broken
  | .nothing =>
    match world.files slot.path with
    | none => .nothing
    | some none => .broken
    | some (some content) =>
      match (world.files slot.legacy.archive).join, (world.files slot.legacy.provenance).join with
      | some archive, some json => .entry slot.path ⟨content, archive, json⟩ true
      | _, _ => .broken

/-- The reason that `load_cache` gives for an entry it cannot use. -/
def Unusable.reason (slot : Slot) (unusable : Unusable) : Reason :=
  unusable.getD (.cacheReadFailed (basename slot.path))

/-- A library for plain texts: nothing is hashed, packed or changed, and every product is valid. -/
def plainLibrary : Library where
  sha256 bytes := bytes
  base64 bytes := bytes
  downcase text := text.map lower
  trim text := text
  trimLeading text := text
  split text := text.splitOn 32
  encode _ := some []
  decode _ := none
  decompress bytes _ _ := .ok bytes
  inspect _ := []
  allowedHosts := [ascii "igs.bkg.bund.de"]
  ftpHosts := []
  validateExactProductSet _ := .ok ()
  distributionLocation _ source := .ok {
    originalUrl := some (if source = .nasaCddis then ascii "https://cddis.nasa.gov/product"
      else ascii "https://igs.bkg.bund.de/product")
    compression := .none }
  parseSp3 _ _ := .ok ()
  readIonex _ _ := .ok (ascii "1.0")

/-- The identity of an SP3 product. -/
def plainIdentity : ProductIdentity where
  family := ascii "sp3"
  analysisCenter := ascii "COD"
  publisher := ascii "COD"
  solutionClass := ascii "final"
  campaign := ascii "OPS"
  filenameVersion := 0
  date := ⟨2024, 1, 2, by decide, by decide, by decide⟩
  issue := none
  span := ascii "01D"
  sample := ascii "05M"
  officialFilename := ascii "product.SP3"
  format := ascii "SP3"
  formatVersion := none
  predictionHorizonDays := none

/-- A plain SP3 product. -/
def plainContent : Binary := ascii "#d"

/-- A copy of the plain product. -/
def plainCopy : Source := { type := .inMemory, content := some plainContent }

/-- Options with a cache. -/
def plainOptions : Options := { cacheDir := ascii "/cache" }

/-- Surroundings in which no network source has the product. -/
def unpublished : Environment Unit where
  place _ slot := slot.legacy
  answer
    | .openCache _ _, _ => (.ok (), ())
    | .cleanupCache _, _ => (.ok (), ())
    | .readCache _, _ => (.miss, ())
    | .publish slot _ _ _, _ => (.ok slot.legacy.unread, ())
    | .closeCache _, _ => ((), ())
    | .fileExists _, _ => (false, ())
    | .readFile _, _ => (none, ())
    | .readLocal _ _, _ => (.failed, ())
    | .getCustom _ _, _ => (.response 404 [] (some []), ())
    | .getReq _ _ _, _ => (.response 404 [] [] false, ())
    | .ftpFetch _, _ => (.notFound, ())
    | .sleep _, _ => ((), ())
    | .utcNow, _ => (ascii "2024-01-03T00:00:00Z", ())
    | .userHome, _ => (none, ())

/-- A world without files in which the exact cache has unreadable entries for one source. -/
def unreadableWorld (source : SourceType) : World Unit where
  stored slot := if slot.source = source then .unreadable (ascii "digest mismatch") else .nothing
  files _ := none
  outside := ()

section Replay

variable {Outside : Type} {environment : Environment Outside} {world : World Outside}
  {library : Library} {identity : ProductIdentity} {opts : Options} {slot : Slot}
  {attempts : List SourceFailure} {given : Option DirectLocation}

/-- A commit encodes the provenance and keeps the entry. -/
theorem play_commitCache (content archive : Binary) (provenance : Provenance) :
    (commitCache library slot content archive provenance).replay environment.reply world =
      match library.encode (provenanceToMap provenance) with
      | none => (.error .encode, world)
      | some json => (.ok (.ok (environment.place world slot).product),
          environment.commit world slot ⟨content, archive, json⟩) := by
  unfold commitCache
  cases library.encode (provenanceToMap provenance) with
  | none => simp
  | some json => simp [Environment.reply, Place.files]

/-- A lock is obtained and released. -/
theorem play_withLock {α : Type} (timeoutMs : Option Int) (operation : Action (Except Reason α)) :
    (withLock slot timeoutMs operation).replay environment.reply world =
      operation.replay environment.reply world := by
  unfold withLock
  rw [Program.replay_bind]
  simp [Program.replay_afterwards, Environment.reply]

/-- The provenance of a hit. -/
def Provenance.hit (provenance : Provenance) (attempts : List SourceFailure) : Provenance :=
  { provenance with cacheHit := .bool true, attempts := attempts.reverse }

/-- A usable entry is a hit, which moves legacy files into the cache. -/
def useEntry (environment : Environment Outside) (library : Library) (slot : Slot)
    (attempts : List SourceFailure) (world : World Outside) (product : Binary) (bytes : Entry)
    (legacy : Bool) (provenance : Provenance) : Except Raised Result × World Outside :=
  if legacy then
    match library.encode (provenanceToMap provenance) with
    | none => (.error .encode, world)
    | some json =>
      (.ok ⟨(environment.place world slot).product, provenance.hit attempts⟩,
        environment.commit world slot ⟨bytes.content, bytes.archive, json⟩)
  else (.ok ⟨product, provenance.hit attempts⟩, world)

/-- Bytes that were read are kept, others are read from their file. -/
theorem play_cacheContent (bytes : Option Binary) (path : Binary) :
    (cacheContent bytes path).replay environment.reply world =
      (.ok (bytes.or (world.files path).join), world) := by
  cases bytes <;> simp [cacheContent, Environment.reply]

/-- The files of an entry are read, checked and used. -/
theorem play_readEntry {files : CacheFiles} {legacy : Bool} {bytes : Entry}
    (content : files.productBytes.or (world.files files.product).join = some bytes.content)
    (archive : files.archiveBytes.or (world.files files.archive).join = some bytes.archive)
    (json : files.provenanceBytes.or (world.files files.provenance).join = some bytes.json) :
    (readEntry library identity slot attempts opts files legacy).replay environment.reply world =
      match checkEntry library identity slot.source opts.sha256 bytes.content bytes.archive
          bytes.json with
      | .error unusable => (.ok (.error unusable), world)
      | .ok provenance =>
        let used := useEntry environment library slot attempts world files.product bytes legacy
          provenance
        (used.1.map .ok, used.2) := by
  unfold readEntry
  simp only [Program.replay_bind, play_cacheContent, content, archive, json]
  cases checkEntry library identity slot.source opts.sha256 bytes.content bytes.archive
      bytes.json with
  | error unusable => rfl
  | ok provenance =>
    cases legacy with
    | false => rfl
    | true =>
      simp only [maybeMigrateCache, useEntry, if_pos, Program.replay_bind, play_commitCache]
      cases library.encode (provenanceToMap provenance) with
      | none => rfl
      | some json => rfl

/-- An entry of which a file cannot be read is none. -/
theorem play_readBroken {files : CacheFiles} {legacy : Bool}
    (broken : files.productBytes.or (world.files files.product).join = none ∨
      files.archiveBytes.or (world.files files.archive).join = none ∨
      files.provenanceBytes.or (world.files files.provenance).join = none) :
    (readEntry library identity slot attempts opts files legacy).replay environment.reply world =
      (.ok (.error none), world) := by
  unfold readEntry
  simp only [Program.replay_bind, play_cacheContent]
  cases content : files.productBytes.or (world.files files.product).join with
  | none => rfl
  | some content' =>
    simp only [Program.replay_bind, play_cacheContent]
    cases archive : files.archiveBytes.or (world.files files.archive).join with
    | none => rfl
    | some archive' =>
      simp only [Program.replay_bind, play_cacheContent]
      cases json : files.provenanceBytes.or (world.files files.provenance).join with
      | none => rfl
      | some json' => simp [content, archive, json] at broken

/-- What an entry that was read is for `load_cache`. -/
def Loaded.of (slot : Slot) : Except Unusable Result → Loaded
  | .ok result => .hit result
  | .error unusable => .error (unusable.reason slot)

/-- What is loaded is what was read. -/
theorem play_loadFiles {read : Except Raised (Except Unusable Result) × World Outside}
    {files : CacheFiles} {legacy : Bool}
    (found : (cacheFiles slot).replay environment.reply world = (.ok (.files files legacy), world))
    (entry : (readEntry library identity slot attempts opts files legacy).replay environment.reply
      world = read) :
    (loadCache library identity slot attempts opts).replay environment.reply world =
      (read.1.map (Loaded.of slot), read.2) := by
  unfold loadCache
  simp only [Program.replay_bind, found, entry]
  obtain ⟨outcome, world'⟩ := read
  match outcome with
  | .ok (.ok result) => rfl
  | .ok (.error none) => rfl
  | .ok (.error (some reason)) => rfl
  | .error raised => rfl

/-- What `load_cache` makes of what is held. -/
def loadHeld (environment : Environment Outside) (library : Library) (identity : ProductIdentity)
    (slot : Slot) (attempts : List SourceFailure) (opts : Options) (world : World Outside) :
    Held → Except Raised Loaded × World Outside
  | .nothing => (.ok .miss, world)
  | .broken => (.ok (.error (Unusable.reason slot none)), world)
  | .entry product bytes legacy =>
    match checkEntry library identity slot.source opts.sha256 bytes.content bytes.archive
        bytes.json with
    | .error unusable => (.ok (.error (unusable.reason slot)), world)
    | .ok provenance =>
      let used := useEntry environment library slot attempts world product bytes legacy provenance
      (used.1.map .hit, used.2)

/-- An entry with all its files is loaded as it is. -/
theorem play_loadEntry {files : CacheFiles} {legacy : Bool} (bytes : Entry)
    (found : (cacheFiles slot).replay environment.reply world = (.ok (.files files legacy), world))
    (content : files.productBytes.or (world.files files.product).join = some bytes.content)
    (archive : files.archiveBytes.or (world.files files.archive).join = some bytes.archive)
    (json : files.provenanceBytes.or (world.files files.provenance).join = some bytes.json) :
    (loadCache library identity slot attempts opts).replay environment.reply world =
      loadHeld environment library identity slot attempts opts world
        (.entry files.product bytes legacy) := by
  rw [play_loadFiles found (play_readEntry content archive json)]
  unfold loadHeld
  dsimp only
  cases checkEntry library identity slot.source opts.sha256 bytes.content bytes.archive
      bytes.json with
  | error unusable => rfl
  | ok provenance =>
    dsimp only
    cases useEntry environment library slot attempts world files.product bytes legacy
      provenance with
    | mk outcome world' => cases outcome <;> rfl

/-- Loading an entry goes by what the world holds. -/
theorem play_loadCache :
    (loadCache library identity slot attempts opts).replay environment.reply world =
      loadHeld environment library identity slot attempts opts world (world.held slot) := by
  unfold World.held
  cases stored : world.stored slot with
  | unreadable reason =>
    simp [loadCache, loadHeld, cacheFiles, Environment.reply, stored, Stored.read, Unusable.reason]
  | committed place entry =>
    have found : (cacheFiles slot).replay environment.reply world =
        (.ok (.files (place.files entry) false), world) := by
      simp [cacheFiles, Environment.reply, stored, Stored.read]
    exact play_loadEntry entry found rfl rfl rfl
  | nothing =>
    cases product : world.files slot.path with
    | none =>
      simp [loadCache, loadHeld, cacheFiles, Environment.reply, stored, Stored.read, product]
    | some readable =>
      have found : (cacheFiles slot).replay environment.reply world =
          (.ok (.files slot.legacy.unread true), world) := by
        simp [cacheFiles, Environment.reply, stored, Stored.read, product, Slot.legacy,
          Place.unread]
      have read : (world.files slot.legacy.product).join = readable := by
        rw [Slot.legacy, product]
        rfl
      cases readable with
      | none => exact play_loadFiles found (play_readBroken (.inl read))
      | some content =>
        cases archive : (world.files slot.legacy.archive).join with
        | none => exact play_loadFiles found (play_readBroken (.inr (.inl archive)))
        | some archive' =>
          cases json : (world.files slot.legacy.provenance).join with
          | none => exact play_loadFiles found (play_readBroken (.inr (.inr json)))
          | some json' =>
            exact play_loadEntry ⟨content, archive', json'⟩ found read archive json

end Replay

end Sidereon.Distribution
