import Sidereon.Distribution.Fetching

/-!
# Damaged cache entries

An entry that fails its validation is fetched anew. What a source gives does not depend on the entry
that is replaced, so the source that supplies a product repairs its own entry. A source that fails
with a damaged entry ends the acquisition with the error of the cache, and no later source is tried.
-/

namespace Sidereon.Distribution

open Foundation

section Damage

variable {Outside : Type}

/-- Why what is held for a slot is refused, if it is. -/
def Held.refusal (library : Library) (identity : ProductIdentity) (opts : Options) (slot : Slot) :
    Held → Option Reason
  | .nothing => none
  | .broken => some (Unusable.reason slot none)
  | .entry _ bytes _ =>
    match checkEntry library identity slot.source opts.sha256 bytes.content bytes.archive
        bytes.json with
    | .error unusable => some (unusable.reason slot)
    | .ok _ => none

/-- The error of a damaged cache entry of a source. -/
def damage (library : Library) (identity : ProductIdentity) (opts : Options)
    (world : World Outside) (source : SourceType) : Option Reason :=
  let slot := slotOf library identity opts source
  (world.held slot).refusal library identity opts slot

/-- The files that a slot had before there was an exact cache. -/
def Slot.legacyFiles (slot : Slot) : List Binary :=
  [slot.legacy.product, slot.legacy.archive, slot.legacy.provenance]

/-- A world without the entries of some slots. -/
def World.without (world : World Outside) (slots : List Slot) : World Outside where
  stored slot := if slot ∈ slots then .nothing else world.stored slot
  files path := if slots.any fun slot => path ∈ slot.legacyFiles then none else world.files path
  outside := world.outside

variable {library : Library} {identity : ProductIdentity} {opts : Options} {world : World Outside}
  {slots : List Slot}

/-- A cache error. -/
inductive Integrity : Reason → Prop where
  | unread (detail : Binary) : Integrity (.cacheReadFailed detail)
  | checksum (expected got : Binary) : Integrity (.checksumMismatch expected got)

/-- A cache error ends an acquisition. -/
theorem Integrity.settled {reason : Reason} (integrity : Integrity reason) :
    distributorFallbackKind reason = none := by
  cases integrity <;> rfl

/-- A reason that an entry is refused for is a cache error. -/
theorem checkEntry_integrity {source : SourceType} {pin : Pin} {content archive json : Binary}
    {unusable : Unusable} (slot : Slot)
    (refused : checkEntry library identity source pin content archive json = .error unusable) :
    Integrity (unusable.reason slot) := by
  unfold checkEntry at refused
  have other : Integrity (Unusable.reason slot none) := .unread _
  split at refused
  · cases refused
    exact other
  · split at refused
    · split at refused
      · next reason mismatch =>
        cases refused
        unfold verifyChecksum at mismatch
        split at mismatch
        · cases mismatch
        · dsimp only at mismatch
          split at mismatch
          · cases mismatch
          · cases mismatch
            exact .checksum _ _
        · cases mismatch
          exact .checksum _ _
      · split at refused
        · cases refused
          exact other
        · split at refused
          · cases refused
          · cases refused
            exact other
    · cases refused
      exact other

/-- The error of a damaged entry is a cache error. -/
theorem damage_integrity {source : SourceType} {reason : Reason}
    (damaged : damage library identity opts world source = some reason) : Integrity reason := by
  unfold damage Held.refusal at damaged
  dsimp only at damaged
  split at damaged
  · cases damaged
  · cases damaged
    exact .unread _
  · split at damaged
    · next refused =>
      cases damaged
      exact checkEntry_integrity _ refused
    · cases damaged

/-- Without an entry nothing is held for its slot. -/
theorem held_without {slot : Slot} (member : slot ∈ slots) :
    (world.without slots).held slot = .nothing := by
  have absent : (slots.any fun other => slot.path ∈ other.legacyFiles) = true := by
    simp only [List.any_eq_true, decide_eq_true_eq]
    exact ⟨slot, member, by simp [Slot.legacyFiles, Slot.legacy]⟩
  unfold World.held World.without
  simp only [if_pos member, absent, if_true]

/-- The paths of the cache differ in the name of the source. -/
theorem cachePath_split (library : Library) (identity : ProductIdentity) (opts : Options) :
    ∃ front back, ∀ source, (slotOf library identity opts source).path =
      front ++ (source.name ++ back) := by
  refine ⟨(opts.cacheDir.reverse.dropWhile (· == 47)).reverse ++ 47 :: ascii "products" ++
    47 :: ascii "v1" ++ [47], 47 :: identity.family ++ 47 :: identityKey library identity ++
    47 :: identity.officialFilename, fun source => ?_⟩
  simp [slotOf, cachePath, joinPath, List.intercalate]

/-- Two sources have no legacy file in common. -/
theorem legacyFiles_apart {source other : SourceType} {path : Binary}
    (first : path ∈ (slotOf library identity opts source).legacyFiles)
    (second : path ∈ (slotOf library identity opts other).legacyFiles) : source = other := by
  obtain ⟨front, back, split⟩ := cachePath_split library identity opts
  have suffixed (type : SourceType)
      (member : path ∈ (slotOf library identity opts type).legacyFiles) :
      ∃ suffix, (suffix.length = 0 ∨ suffix.length = 8 ∨ suffix.length = 16) ∧
        path = front ++ (type.name ++ (back ++ suffix)) := by
    simp only [Slot.legacyFiles, Slot.legacy, split, List.mem_cons, List.not_mem_nil,
      or_false] at member
    rcases member with rfl | rfl | rfl
    · exact ⟨[], by decide, by simp⟩
    · exact ⟨ascii ".archive", by decide +kernel, by simp⟩
    · exact ⟨ascii ".provenance.json", by decide +kernel, by simp⟩
  obtain ⟨suffix, size, same⟩ := suffixed source first
  obtain ⟨suffix', size', same'⟩ := suffixed other second
  have names : source.name ++ (back ++ suffix) = other.name ++ (back ++ suffix') :=
    List.append_cancel_left (same.symm.trans same')
  have lengths := congrArg List.length names
  simp only [List.length_append] at lengths
  have short (type : SourceType) : 6 ≤ type.name.length ∧ type.name.length ≤ 10 := by
    cases type <;> decide +kernel
  have equal : source.name.length = other.name.length := by
    have bounds := short source
    have bounds' := short other
    omega
  have same_name : source.name = other.name := (List.append_inj names equal).1
  revert same_name
  cases source <;> cases other <;> decide +kernel

/-- The slots of some sources. -/
def slotsOf (library : Library) (identity : ProductIdentity) (opts : Options)
    (sources : List SourceType) : List Slot :=
  sources.map (slotOf library identity opts)

/-- The entries of other sources are held as before. -/
theorem held_outside (library : Library) (identity : ProductIdentity) (opts : Options)
    (world : World Outside) {sources : List SourceType} {source : SourceType}
    (outside : source ∉ sources) :
    (world.without (slotsOf library identity opts sources)).held
        (slotOf library identity opts source) =
      world.held (slotOf library identity opts source) := by
  have other_slot : slotOf library identity opts source ∉
      slotsOf library identity opts sources := by
    intro member
    obtain ⟨other, listed, same⟩ := List.mem_map.mp member
    have same_source : other = source := congrArg Slot.source same
    exact outside (same_source ▸ listed)
  have same_file (path : Binary)
      (legacy : path ∈ (slotOf library identity opts source).legacyFiles) :
      (world.without (slotsOf library identity opts sources)).files path = world.files path := by
    have kept : ((slotsOf library identity opts sources).any fun slot =>
        path ∈ slot.legacyFiles) = false := by
      rw [List.any_eq_false]
      intro slot member shared
      obtain ⟨other, listed, rfl⟩ := List.mem_map.mp member
      have same_source : other = source := legacyFiles_apart (by simpa using shared) legacy
      exact outside (same_source ▸ listed)
    simp only [World.without, kept, Bool.false_eq_true, if_false]
  have same_stored : (world.without (slotsOf library identity opts sources)).stored
      (slotOf library identity opts source) =
        world.stored (slotOf library identity opts source) :=
    if_neg other_slot
  have product := same_file (slotOf library identity opts source).path
    (by simp [Slot.legacyFiles, Slot.legacy])
  have archive := same_file (slotOf library identity opts source).legacy.archive
    (by simp [Slot.legacyFiles])
  have json := same_file (slotOf library identity opts source).legacy.provenance
    (by simp [Slot.legacyFiles])
  unfold World.held
  rw [same_stored, product, archive, json]

/-- What a fetch does without some entries it does with them, or it has failed without a file. -/
theorem fetch_alongside {α : Type} (environment : Environment Outside) (world : World Outside)
    (slots : List Slot) {program : Action (Except Reason α)} (fetches : Fetches program) :
    (program.replay environment.reply (world.without slots)).1 = .ok (.error netrcFailure) ∨
      ∃ outcome outside,
        program.replay environment.reply (world.without slots) =
          (outcome, { world with outside }.without slots) ∧
        program.replay environment.reply world = (outcome, { world with outside }) := by
  let Alongside (clean damaged : World Outside) : Prop :=
    ∃ outside, damaged = { world with outside } ∧ clean = { world with outside }.without slots
  have answers (request : Call) (clean damaged : World Outside) (outer : Outer request)
      (alongside : Alongside clean damaged) :
      Missing request (environment.reply request clean).1 ∨
        (environment.reply request clean).1 = (environment.reply request damaged).1 ∧
          Alongside (environment.reply request clean).2 (environment.reply request damaged).2 := by
    obtain ⟨outside, rfl, rfl⟩ := alongside
    cases request with
    | readFile path =>
      by_cases legacy : (slots.any fun slot => path ∈ slot.legacyFiles) = true
      · left
        simp only [Missing, Environment.reply, World.without, legacy, if_true]
        rfl
      · right
        refine ⟨?_, outside, rfl, rfl⟩
        simp only [Environment.reply, World.without, legacy, Bool.false_eq_true, if_false]
    | openCache => exact outer.elim
    | cleanupCache => exact outer.elim
    | readCache => exact outer.elim
    | publish => exact outer.elim
    | closeCache => exact outer.elim
    | fileExists => exact outer.elim
    | readLocal path limit => exact .inr ⟨rfl, _, rfl, rfl⟩
    | getCustom url headers => exact .inr ⟨rfl, _, rfl, rfl⟩
    | getReq url headers limit => exact .inr ⟨rfl, _, rfl, rfl⟩
    | ftpFetch url => exact .inr ⟨rfl, _, rfl, rfl⟩
    | sleep milliseconds => exact .inr ⟨rfl, _, rfl, rfl⟩
    | utcNow => exact .inr ⟨rfl, _, rfl, rfl⟩
    | userHome => exact .inr ⟨rfl, _, rfl, rfl⟩
  have initial : Alongside (world.without slots) world := ⟨world.outside, rfl, rfl⟩
  cases fetches.agree Alongside answers initial with
  | inl lost =>
    obtain ⟨rest, between, gone, same⟩ := lost
    left
    rw [same, gone]
    rfl
  | inr same =>
    obtain ⟨outcome, outside, damaged, clean⟩ := same
    right
    refine ⟨(program.replay environment.reply world).1, outside, ?_, ?_⟩
    · exact Prod.ext outcome clean
    · exact Prod.ext rfl damaged

end Damage

section Repairing

variable {Outside : Type} {environment : Environment Outside} {library : Library}
  {identity : ProductIdentity} {opts : Options} {given : Option DirectLocation} {source : Source}
  {slot : Slot} {attempts : List SourceFailure} {world : World Outside} {slots : List Slot}

/-- An entry that loads as a provenance, provided its JSON can be decoded again. -/
structure Fresh (library : Library) (identity : ProductIdentity) (opts : Options)
    (source : SourceType) (bytes : Entry) (provenance : Provenance) : Prop where
  encoded : library.encode (provenanceToMap provenance) = some bytes.json
  loads : library.decode bytes.json = some (provenanceToMap provenance) →
    checkEntry library identity source opts.sha256 bytes.content bytes.archive bytes.json =
      .ok provenance

/-- What was checked when it was fetched is accepted when it is loaded. -/
theorem checkFetched_fresh {fetched : Fetched} {compression : Compression} {content json : Binary}
    {resolved : ProductIdentity} (retrievedAt : Binary)
    (checked : checkFetched library identity source opts fetched =
      .ok (compression, content, resolved))
    (encoded : library.encode (provenanceToMap (provenance library identity resolved source.type
      fetched compression content attempts retrievedAt)) = some json) :
    Fresh library identity opts source.type ⟨content, fetched.archive, json⟩
      (provenance library identity resolved source.type fetched compression content attempts
        retrievedAt) where
  encoded := encoded
  loads := by
    intro decoded
    have digest : verifyChecksum library content opts.sha256 = .ok () ∧
        validateProduct library identity content = .ok resolved := by
      unfold checkFetched at checked
      cases size : enforceSize fetched.archive (archiveLimit opts) with
      | error reason => rw [size] at checked; cases checked
      | ok _ =>
        rw [size] at checked
        dsimp only [Bind.bind, Except.bind] at checked
        split at checked
        · cases checked
        · next content' _ =>
          split at checked
          · cases checked
          · next _ verified =>
            split at checked
            · cases checked
            · next resolved' valid =>
              cases checked
              exact ⟨verified, valid⟩
    unfold checkEntry
    rw [decoded, Option.bind_some, provenanceFromMap_provenanceToMap]
    simp [provenance, digest]

/-- A source supplies an entry: it was asked outside the cache, and what it gave is committed. -/
structure Supplies (environment : Environment Outside) (library : Library)
    (identity : ProductIdentity) (opts : Options) (slot : Slot) (world : World Outside)
    (result : Result) (world' : World Outside) : Prop where
  supplied : ∃ outside bytes, Fresh library identity opts slot.source bytes result.provenance ∧
    result.path = (environment.place { world with outside } slot).product ∧
    world' = environment.commit { world with outside } slot bytes

/-- What is done without some entries is done with them: a failure that passes the request on is the
failure of a network source, and a success supplies the same provenance. -/
structure Alongside (environment : Environment Outside) (library : Library)
    (identity : ProductIdentity) (opts : Options) (source : SourceType) (slot : Slot)
    (slots : List Slot) (cacheError : Option Reason) (world : World Outside)
    (clean damaged : Except Raised (Except Reason Result) × World Outside) : Prop where
  fails : ∀ reason between, clean = (.ok (.error reason), between) → ¬ Settled reason →
    source.isNetwork = true ∧ ∃ outside, between = { world with outside }.without slots ∧
      damaged = (.ok (.error (cacheError.getD reason)), { world with outside })
  succeeds : ∀ result between, clean = (.ok (.ok result), between) →
    ∃ repaired world', damaged = (.ok (.ok repaired), world') ∧
      repaired.provenance = result.provenance ∧
      Supplies environment library identity opts slot world repaired world'

/-- What was fetched is checked, dated and committed. -/
def finishFetched (library : Library) (identity : ProductIdentity) (source : Source) (slot : Slot)
    (attempts : List SourceFailure) (opts : Options) :
    Except Reason Fetched → Action (Except Reason Result)
  | .error reason => return .error reason
  | .ok fetched =>
    match checkFetched library identity source opts fetched with
    | .error reason => return .error reason
    | .ok (compression, content, resolved) => do
      let retrievedAt ← call .utcNow
      let provenance := provenance library identity resolved source.type fetched compression
        content attempts retrievedAt
      match ← commitCache library slot content fetched.archive provenance with
      | .error reason => return .error reason
      | .ok path => return .ok { path, provenance }

/-- It is what `acquire_source` does after it has read its source. -/
theorem acquireSource_eq :
    acquireSource library identity source slot attempts opts given =
      readSource library identity source opts given >>=
        finishFetched library identity source slot attempts opts :=
  rfl

variable (environment library identity opts given attempts world slots)

/-- What was fetched supplies the same entry in any world with the same outside. -/
theorem finishFetched_alongside (slotted : slot.source = source.type)
    (fetched : Except Reason Fetched)
    (settles : source.type.isNetwork = false → Settles fetched) :
    Alongside environment library identity opts source.type slot slots none world
      ((finishFetched library identity source slot attempts opts fetched).replay environment.reply
        (world.without slots))
      ((finishFetched library identity source slot attempts opts fetched).replay environment.reply
        world) := by
  unfold finishFetched
  cases fetched with
  | error reason =>
    constructor
    · rintro _ _ ⟨⟩ passes
      have network : source.type.isNetwork = true := by
        cases network : source.type.isNetwork with
        | true => rfl
        | false => exact absurd (settles network reason rfl) passes
      exact ⟨network, world.outside, rfl, rfl⟩
    · rintro _ _ ⟨⟩
  | ok fetched =>
    dsimp only
    cases checked : checkFetched library identity source opts fetched with
    | error reason =>
      constructor
      · rintro _ _ ⟨⟩ passes
        exact absurd (checkFetched_settles source fetched reason checked) passes
      · rintro _ _ ⟨⟩
    | ok found =>
      obtain ⟨compression, content, resolved⟩ := found
      simp only [Program.replay_bind, Program.replay_perform, Environment.reply,
        play_commitCache, World.without]
      cases encoded : library.encode (provenanceToMap (provenance library identity resolved
        source.type fetched compression content attempts
          (environment.answer .utcNow world.outside).1)) with
      | none => constructor <;> rintro _ _ ⟨⟩
      | some json =>
        constructor
        · rintro _ _ ⟨⟩
        · rintro _ _ ⟨⟩
          refine ⟨_, _, rfl, rfl, ⟨_, _, ?_, rfl, rfl⟩⟩
          rw [slotted]
          exact checkFetched_fresh _ checked encoded

/-- A source does the same without some entries. -/
theorem acquireSource_alongside (slotted : slot.source = source.type) :
    Alongside environment library identity opts source.type slot slots none world
      ((acquireSource library identity source slot attempts opts given).replay environment.reply
        (world.without slots))
      ((acquireSource library identity source slot attempts opts given).replay environment.reply
        world) := by
  rw [acquireSource_eq, Program.replay_bind, Program.replay_bind]
  cases fetch_alongside environment world slots
    (readSource_fetches library identity opts source given) with
  | inl lost =>
    generalize (readSource library identity source opts given).replay environment.reply
      (world.without slots) = read at lost
    obtain ⟨_, between⟩ := read
    cases lost
    constructor
    · rintro _ _ ⟨⟩ passes
      exact absurd rfl passes
    · rintro _ _ ⟨⟩
  | inr same =>
    obtain ⟨outcome, outside, clean, damaged⟩ := same
    rw [clean, damaged]
    cases outcome with
    | error raised => constructor <;> rintro _ _ ⟨⟩
    | ok fetched =>
      have settles (isLocal : source.type.isNetwork = false) : Settles fetched :=
        (readSource_settles isLocal).replay damaged
      have finished := finishFetched_alongside environment library identity opts attempts
        { world with outside } slots slotted fetched settles
      constructor
      · intro reason between failed passes
        obtain ⟨network, outside, rest⟩ := finished.fails reason between failed passes
        exact ⟨network, outside, rest⟩
      · intro result between succeeded
        obtain ⟨repaired, world', same, kept, ⟨outside, bytes, fresh⟩⟩ :=
          finished.succeeds result between succeeded
        exact ⟨repaired, world', same, kept, ⟨outside, bytes, fresh⟩⟩

/-- After a cache miss or a settled cache error without some entries, and another with them. -/
theorem acquireAfterCacheMiss_alongside (source : Source) (slot : Slot)
    (slotted : slot.source = source.type) (cleanError cacheError : Option Reason)
    (settled : ∀ reason ∈ cleanError, Settled reason) :
    Alongside environment library identity opts source.type slot slots cacheError world
      ((acquireAfterCacheMiss library identity source slot attempts opts cleanError given).replay
        environment.reply (world.without slots))
      ((acquireAfterCacheMiss library identity source slot attempts opts cacheError given).replay
        environment.reply world) := by
  have unsettled {reason : Reason} (passes : ¬ Settled (cleanError.getD reason)) :
      cleanError.getD reason = reason := by
    cases cleanError with
    | none => rfl
    | some error => exact absurd (settled error rfl) passes
  unfold acquireAfterCacheMiss
  by_cases offline : (source.type.isNetwork && opts.offline) = true
  · rw [if_pos offline, if_pos offline]
    constructor
    · rintro _ _ ⟨⟩ passes
      rw [Bool.and_eq_true] at offline
      rw [unsettled passes]
      exact ⟨offline.1, world.outside, rfl, rfl⟩
    · rintro _ _ ⟨⟩
  · rw [if_neg offline, if_neg offline, Program.replay_bind, Program.replay_bind]
    have supplied := acquireSource_alongside environment library identity opts given attempts world
      slots slotted
    generalize (acquireSource library identity source slot attempts opts given).replay
      environment.reply (world.without slots) = clean at supplied
    obtain ⟨outcome, between⟩ := clean
    cases outcome with
    | error raised => constructor <;> rintro _ _ ⟨⟩
    | ok acquired =>
      cases acquired with
      | error reason =>
        constructor
        · rintro _ _ ⟨⟩ passes
          have same := unsettled passes
          rw [same] at passes ⊢
          obtain ⟨network, outside, first, second⟩ := supplied.fails reason between rfl passes
          rw [second]
          exact ⟨network, outside, first, rfl⟩
        · rintro _ _ ⟨⟩
      | ok result =>
        constructor
        · rintro _ _ ⟨⟩
        · rintro _ _ ⟨⟩
          obtain ⟨repaired, world', same, rest⟩ := supplied.succeeds result between rfl
          rw [same]
          exact ⟨repaired, world', rfl, rest⟩

/-- A contact loads what is held for its slot. -/
theorem play_contact (source : Source) :
    (contact library identity opts given source attempts).replay environment.reply world =
      (acquireLocked library identity source (slotOf library identity opts source.type) attempts
        opts given).replay environment.reply world := by
  unfold contact
  rw [play_withLock]
  simp [cleanupAbandoned, Environment.reply]

/-- Where nothing is held the source is asked. -/
theorem play_contact_nothing (source : Source)
    (nothing : world.held (slotOf library identity opts source.type) = .nothing) :
    (contact library identity opts given source attempts).replay environment.reply world =
      (acquireAfterCacheMiss library identity source (slotOf library identity opts source.type)
        attempts opts none given).replay environment.reply world := by
  rw [play_contact]
  unfold acquireLocked
  rw [Program.replay_bind, play_loadCache, nothing]
  rfl

/-- What is refused is loaded as an error. -/
theorem loadHeld_refused {held : Held} {reason : Reason}
    (refused : held.refusal library identity opts slot = some reason) :
    loadHeld environment library identity slot attempts opts world held =
      (.ok (.error reason), world) := by
  cases held with
  | nothing => cases refused
  | broken =>
    cases refused
    rfl
  | entry product bytes legacy =>
    unfold Held.refusal at refused
    unfold loadHeld
    dsimp only at refused ⊢
    cases checked : checkEntry library identity slot.source opts.sha256 bytes.content bytes.archive
        bytes.json with
    | error unusable =>
      rw [checked] at refused
      cases refused
      rfl
    | ok provenance =>
      rw [checked] at refused
      cases refused

/-- Where an entry is refused the source is asked too, and its failure is the cache's. -/
theorem play_contact_damaged (source : Source) {reason : Reason}
    (damaged : damage library identity opts world source.type = some reason) :
    (contact library identity opts given source attempts).replay environment.reply world =
      (acquireAfterCacheMiss library identity source (slotOf library identity opts source.type)
        attempts opts (some reason) given).replay environment.reply world := by
  rw [play_contact]
  unfold acquireLocked
  rw [Program.replay_bind, play_loadCache]
  have integrity := damage_integrity damaged
  have loaded := loadHeld_refused environment library identity opts attempts world damaged
  rw [loaded]
  cases integrity <;> rfl

/-- What may be held for a slot: nothing, an entry that is refused, or one that is used. -/
theorem held_cases (source : SourceType) :
    world.held (slotOf library identity opts source) = .nothing ∨
      (∃ reason, damage library identity opts world source = some reason) ∨
      ∃ product bytes legacy provenance,
        world.held (slotOf library identity opts source) = .entry product bytes legacy ∧
        checkEntry library identity source opts.sha256 bytes.content bytes.archive bytes.json =
          .ok provenance := by
  cases held : world.held (slotOf library identity opts source) with
  | nothing => exact .inl rfl
  | broken =>
    have damaged : damage library identity opts world source =
        some (Unusable.reason (slotOf library identity opts source) none) := by
      simp only [damage, held, Held.refusal]
    exact .inr (.inl ⟨_, damaged⟩)
  | entry product bytes legacy =>
    right
    cases checked : checkEntry library identity source opts.sha256 bytes.content bytes.archive
        bytes.json with
    | error unusable =>
      have damaged : damage library identity opts world source =
          some (unusable.reason (slotOf library identity opts source)) := by
        simp only [damage, held, Held.refusal]
        simp only [slotOf, checked]
      exact .inl ⟨_, damaged⟩
    | ok provenance => exact .inr ⟨product, bytes, legacy, provenance, rfl, checked⟩

/-- An entry that is used is a hit. -/
theorem play_contact_used (source : Source) {product : Binary} {bytes : Entry} {legacy : Bool}
    {provenance : Provenance}
    (held : world.held (slotOf library identity opts source.type) = .entry product bytes legacy)
    (checked : checkEntry library identity source.type opts.sha256 bytes.content bytes.archive
      bytes.json = .ok provenance) :
    (contact library identity opts given source attempts).replay environment.reply world =
      ((useEntry environment library (slotOf library identity opts source.type) attempts world
          product bytes legacy provenance).1.map .ok,
        (useEntry environment library (slotOf library identity opts source.type) attempts world
          product bytes legacy provenance).2) := by
  rw [play_contact]
  unfold acquireLocked
  rw [Program.replay_bind, play_loadCache, held]
  have loaded : loadHeld environment library identity (slotOf library identity opts source.type)
      attempts opts world (.entry product bytes legacy) =
        ((useEntry environment library (slotOf library identity opts source.type) attempts world
            product bytes legacy provenance).1.map .hit,
          (useEntry environment library (slotOf library identity opts source.type) attempts world
            product bytes legacy provenance).2) := by
    unfold loadHeld slotOf
    simp only [checked]
  rw [loaded]
  cases useEntry environment library (slotOf library identity opts source.type) attempts world
    product bytes legacy provenance with
  | mk outcome world' => cases outcome <;> rfl

/-- A cache error is what a source fails with after it. -/
theorem acquireAfterCacheMiss_returns (source : Source) (slot : Slot) (cacheError : Reason) :
    (acquireAfterCacheMiss library identity source slot attempts opts (some cacheError)
      given).Returns fun acquired => ∀ reason, acquired = .error reason → reason = cacheError := by
  unfold acquireAfterCacheMiss
  split
  · rintro _ ⟨⟩
    rfl
  · refine (Program.returns_any _).bind fun acquired _ => ?_
    cases acquired with
    | ok result => rintro _ ⟨⟩
    | error reason =>
      rintro _ ⟨⟩
      rfl

/-- A source that passes the request on has nothing in the cache. -/
theorem nothing_of_passes {source : Source} {reason : Reason} {world' : World Outside}
    (contacted : (contact library identity opts given source attempts).replay environment.reply
      world = (.ok (.error reason), world')) (passes : ¬ Settled reason) :
    world.held (slotOf library identity opts source.type) = .nothing := by
  obtain nothing | ⟨cacheError, damaged⟩ | ⟨product, bytes, legacy, provenance, held, checked⟩ :=
    held_cases library identity opts world source.type
  · exact nothing
  · rw [play_contact_damaged environment library identity opts given attempts world source damaged]
      at contacted
    have same := (acquireAfterCacheMiss_returns library identity opts given attempts source _
      cacheError).replay contacted reason rfl
    exact absurd (same ▸ (damage_integrity damaged).settled) passes
  · rw [play_contact_used environment library identity opts given attempts world source held
      checked] at contacted
    unfold useEntry at contacted
    split at contacted
    · split at contacted <;> cases contacted
    · cases contacted

/-- A source that passes the request on without the entries passes it on with them, unless its own
entry is refused. -/
theorem contact_fails (damaged : List SourceType) {source : Source} {reason : Reason}
    {between : World Outside}
    (contacted : (contact library identity opts given source attempts).replay environment.reply
      (world.without (slotsOf library identity opts damaged)) = (.ok (.error reason), between))
    (passes : ¬ Settled reason) :
    source.type.isNetwork = true ∧ ∃ outside,
      between = { world with outside }.without (slotsOf library identity opts damaged) ∧
      (source.type ∉ damaged →
        world.held (slotOf library identity opts source.type) = .nothing ∧
        (contact library identity opts given source attempts).replay environment.reply world =
          (.ok (.error reason), { world with outside })) ∧
      ∀ cacheError, damage library identity opts world source.type = some cacheError →
        (contact library identity opts given source attempts).replay environment.reply world =
          (.ok (.error cacheError), { world with outside }) := by
  have nothing := nothing_of_passes environment library identity opts given attempts _ contacted
    passes
  rw [play_contact_nothing environment library identity opts given attempts _ source nothing]
    at contacted
  have alongside (cacheError : Option Reason) :=
    acquireAfterCacheMiss_alongside environment library identity opts given attempts world
      (slotsOf library identity opts damaged) source (slotOf library identity opts source.type) rfl
      none cacheError (by simp)
  obtain ⟨network, outside, clean, failed⟩ := (alongside none).fails reason between contacted passes
  refine ⟨network, outside, clean, ?_, ?_⟩
  · intro undamaged
    rw [held_outside library identity opts world undamaged] at nothing
    rw [play_contact_nothing environment library identity opts given attempts world source nothing]
    exact ⟨nothing, failed⟩
  · intro cacheError refused
    obtain ⟨-, outside', clean', failed'⟩ :=
      (alongside (some cacheError)).fails reason between contacted passes
    have same : outside' = outside := congrArg World.outside (clean'.symm.trans clean)
    rw [play_contact_damaged environment library identity opts given attempts world source refused,
      ← same]
    exact failed'

/-- Whatever JSON a provenance was written as is read as that provenance. -/
def Rereads (library : Library) (provenance : Provenance) : Prop :=
  ∀ written json, Provenance.hit written [] = provenance.hit [] →
    library.encode (provenanceToMap written) = some json →
    library.decode json = some (provenanceToMap written)

/-- The entry of a source is a hit with the provenance of a result, and others are as before. -/
structure Repaired (library : Library) (identity : ProductIdentity) (opts : Options)
    (source : SourceType) (world world' : World Outside) (result : Result) : Prop where
  entry : ∃ bytes provenance,
    world'.held (slotOf library identity opts source) = .entry result.path bytes false ∧
    checkEntry library identity source opts.sha256 bytes.content bytes.archive bytes.json =
      .ok provenance ∧
    provenance.hit [] = result.provenance.hit []
  others : ∀ other ≠ source, world'.held (slotOf library identity opts other) =
    world.held (slotOf library identity opts other)

/-- What is committed for a slot is held for it. -/
theorem held_commit (slot : Slot) (bytes : Entry) :
    (environment.commit world slot bytes).held slot =
      .entry (environment.place world slot).product bytes false := by
  simp only [World.held, Environment.commit, Function.update_self]

/-- Other slots hold what they held. -/
theorem held_commit_other {slot other : Slot} (bytes : Entry) (apart : other ≠ slot) :
    (environment.commit world slot bytes).held other = world.held other := by
  simp only [World.held, Environment.commit, Function.update_of_ne apart]

/-- A commit whose entry loads repairs the entry of its source. -/
theorem commit_repaired (source : SourceType) (bytes : Entry) {provenance : Provenance}
    {result : Result}
    (loads : checkEntry library identity source opts.sha256 bytes.content bytes.archive bytes.json =
      .ok provenance) (outside : Outside)
    (path : result.path = (environment.place { world with outside }
      (slotOf library identity opts source)).product)
    (same : provenance.hit [] = result.provenance.hit []) :
    Repaired library identity opts source world
      (environment.commit { world with outside } (slotOf library identity opts source) bytes)
      result where
  entry := by
    refine ⟨bytes, provenance, ?_, loads, same⟩
    rw [held_commit, path]
  others := by
    intro other apart
    apply held_commit_other
    intro same_slot
    exact apart (congrArg Slot.source same_slot)

/-- An entry is accepted with any JSON of its provenance. -/
theorem checkEntry_reread {source : SourceType} {pin : Pin} {content archive json json' : Binary}
    {provenance : Provenance}
    (checked : checkEntry library identity source pin content archive json = .ok provenance)
    (decoded : library.decode json' = some (provenanceToMap provenance)) :
    checkEntry library identity source pin content archive json' = .ok provenance := by
  have read : (library.decode json).bind provenanceFromMap = some provenance := by
    unfold checkEntry at checked
    split at checked
    · cases checked
    · next found =>
      split at checked
      · split at checked
        · cases checked
        · split at checked
          · cases checked
          · split at checked
            · cases checked
              exact found
            · cases checked
      · cases checked
  have read' : (library.decode json').bind provenanceFromMap = some provenance := by
    rw [decoded, Option.bind_some, provenanceFromMap_provenanceToMap]
  unfold checkEntry at checked ⊢
  rw [read] at checked
  rw [read']
  exact checked

/-- A source that supplies the product without the entries supplies it with them, and its entry is
repaired. -/
theorem contact_succeeds (damaged : List SourceType)
    (refused : ∀ source ∈ damaged, (damage library identity opts world source).isSome)
    {source : Source} {result : Result} {between : World Outside}
    (rereads : Rereads library result.provenance)
    (contacted : (contact library identity opts given source attempts).replay environment.reply
      (world.without (slotsOf library identity opts damaged)) = (.ok (.ok result), between)) :
    ∃ repaired world', (contact library identity opts given source attempts).replay
        environment.reply world = (.ok (.ok repaired), world') ∧
      repaired.provenance = result.provenance ∧
      Repaired library identity opts source.type world world' repaired := by
  have supplied (cleanError cacheError : Option Reason)
      (settled : ∀ reason ∈ cleanError, Settled reason)
      (clean : (acquireAfterCacheMiss library identity source
        (slotOf library identity opts source.type) attempts opts cleanError given).replay
          environment.reply (world.without (slotsOf library identity opts damaged)) =
            (.ok (.ok result), between))
      (same : (contact library identity opts given source attempts).replay environment.reply world =
        (acquireAfterCacheMiss library identity source (slotOf library identity opts source.type)
          attempts opts cacheError given).replay environment.reply world) :
      ∃ repaired world', (contact library identity opts given source attempts).replay
          environment.reply world = (.ok (.ok repaired), world') ∧
        repaired.provenance = result.provenance ∧
        Repaired library identity opts source.type world world' repaired := by
    obtain ⟨repaired, world', succeeded, provenance, ⟨outside, bytes, fresh, path, rfl⟩⟩ :=
      (acquireAfterCacheMiss_alongside environment library identity opts given attempts world
        (slotsOf library identity opts damaged) source (slotOf library identity opts source.type)
        rfl cleanError cacheError settled).succeeds result between clean
    have decoded := rereads repaired.provenance bytes.json (by rw [provenance]) fresh.encoded
    refine ⟨repaired, _, same.trans succeeded, provenance, ?_⟩
    exact commit_repaired environment library identity opts world source.type bytes
      (fresh.loads decoded) outside path rfl
  have held_damaged (listed : source.type ∈ damaged) :
      (world.without (slotsOf library identity opts damaged)).held
        (slotOf library identity opts source.type) = .nothing :=
    held_without (List.mem_map_of_mem listed)
  by_cases listed : source.type ∈ damaged
  · obtain ⟨reason, unusable⟩ := Option.isSome_iff_exists.mp (refused source.type listed)
    rw [play_contact_nothing environment library identity opts given attempts _ source
      (held_damaged listed)] at contacted
    exact supplied none (some reason) (by simp) contacted
      (play_contact_damaged environment library identity opts given attempts world source unusable)
  · have same_held := held_outside library identity opts world listed
    obtain nothing | ⟨reason, unusable⟩ | ⟨product, bytes, legacy, provenance, held, checked⟩ :=
      held_cases library identity opts world source.type
    · rw [play_contact_nothing environment library identity opts given attempts _ source
        (same_held.trans nothing)] at contacted
      exact supplied none none (by simp) contacted
        (play_contact_nothing environment library identity opts given attempts world source nothing)
    · have clean_unusable : damage library identity opts
          (world.without (slotsOf library identity opts damaged)) source.type = some reason := by
        simp only [damage, same_held]
        exact unusable
      rw [play_contact_damaged environment library identity opts given attempts _ source
        clean_unusable] at contacted
      have settled : ∀ other ∈ some reason, Settled other := by
        rintro _ ⟨⟩
        exact (damage_integrity unusable).settled
      exact supplied (some reason) (some reason) settled contacted
        (play_contact_damaged environment library identity opts given attempts world source
          unusable)
    · rw [play_contact_used environment library identity opts given attempts _ source
        (same_held.trans held) checked] at contacted
      rw [play_contact_used environment library identity opts given attempts world source held
        checked]
      cases legacy with
      | false =>
        cases contacted
        exact ⟨_, _, rfl, rfl, ⟨⟨bytes, provenance, held, checked, rfl⟩, fun _ _ => rfl⟩⟩
      | true =>
        simp only [useEntry, if_true] at contacted ⊢
        cases encoded : library.encode (provenanceToMap provenance) with
        | none =>
          rw [encoded] at contacted
          cases contacted
        | some json =>
          rw [encoded] at contacted
          cases contacted
          have decoded := rereads provenance json rfl encoded
          have loads := checkEntry_reread library identity checked decoded
          exact ⟨_, _, rfl, rfl, commit_repaired environment library identity opts world
            source.type ⟨bytes.content, bytes.archive, json⟩ loads world.outside rfl rfl⟩

/-- Sources that pass the request on without the entries pass it on with them, unless their own
entries are refused. -/
theorem passedOn_alongside (damaged : List SourceType) {failed : List Failed}
    {between : World Outside}
    (passed : PassedOn (Program.Replies environment.reply) library identity opts given
      (world.without (slotsOf library identity opts damaged)) failed between)
    (undamaged : ∀ failure ∈ failed, failure.source.type ∉ damaged) :
    (∃ outside, between = { world with outside }.without (slotsOf library identity opts damaged) ∧
      PassedOn (Program.Replies environment.reply) library identity opts given world failed
        { world with outside }) ∧
    ∀ failure ∈ failed, failure.source.type.isNetwork = true ∧
      world.held (slotOf library identity opts failure.source.type) = .nothing := by
  induction passed with
  | none => exact ⟨⟨world.outside, rfl, .none⟩, by simp⟩
  | @next failed between after source reason _ contacted passes ih =>
    obtain ⟨⟨outside, rfl, before⟩, idle⟩ :=
      ih fun failure member => undamaged failure (List.mem_append_left _ member)
    have settles : ¬ Settled reason := not_settled passes
    obtain ⟨network, outside', rfl, alongside, -⟩ :=
      contact_fails environment library identity opts given _ { world with outside } damaged
        (Program.exec_replies.mp contacted) settles
    obtain ⟨nothing, contacted'⟩ := alongside (undamaged ⟨source, reason⟩ (by simp))
    refine ⟨⟨outside', rfl, before.next (Program.exec_replies.mpr contacted') passes⟩, ?_⟩
    intro failure member
    rw [List.mem_append, List.mem_singleton] at member
    cases member with
    | inl earlier => exact idle failure earlier
    | inr last =>
      rw [last]
      exact ⟨network, nothing⟩

/-- Of sources that passed the request on, each was contacted after those before it. -/
theorem PassedOn.contacted {World : Type}
    {respond : (request : Call) → World → Answer request → World → Prop} {start world : World}
    {before after : List Failed} {failure : Failed}
    (passed : PassedOn respond library identity opts given start (before ++ failure :: after)
      world) :
    ∃ between between', PassedOn respond library identity opts given start before between ∧
      Contacted respond library identity opts given before failure.source between
        (.error failure.reason) between' ∧
      (Absence failure.reason ∨ Unavailable failure.reason) := by
  generalize split : before ++ failure :: after = failed at passed
  induction passed generalizing after with
  | none => simp at split
  | @next failed between after' source reason earlier contacted passes ih =>
    obtain rfl | ⟨rest, last, rfl⟩ := List.eq_nil_or_concat after
    · obtain ⟨rfl, same⟩ := List.append_inj' split rfl
      cases same
      exact ⟨between, after', earlier, contacted, passes⟩
    · have same : before ++ failure :: rest = failed := by
        rw [List.concat_eq_append, ← List.cons_append, ← List.append_assoc] at split
        exact (List.append_inj' split rfl).1
      exact ih same

/-- Offline, a network source with nothing in the cache passes the request on. -/
theorem play_contact_offline (source : Source) (network : source.type.isNetwork = true)
    (nothing : world.held (slotOf library identity opts source.type) = .nothing) :
    (contact library identity { opts with offline := true } given source attempts).replay
      environment.reply world = (.ok (.error .offlineCacheMiss), world) := by
  rw [play_contact_nothing environment library identity { opts with offline := true } given attempts
    world source nothing]
  unfold acquireAfterCacheMiss
  rw [network]
  rfl

/-- So do several. -/
theorem passedOn_offline (sources : List Source) {failed : List Failed}
    (before : PassedOn (Program.Replies environment.reply) library identity
      { opts with offline := true } given world failed world)
    (idle : ∀ source ∈ sources, source.type.isNetwork = true ∧
      world.held (slotOf library identity opts source.type) = .nothing) :
    PassedOn (Program.Replies environment.reply) library identity { opts with offline := true }
      given world (failed ++ sources.map fun source => ⟨source, .offlineCacheMiss⟩) world := by
  induction sources generalizing failed with
  | nil => simpa using before
  | cons source sources ih =>
    have first := idle source (by simp)
    have contacted := play_contact_offline environment library identity opts given
      (recorded library failed).reverse world source first.1 first.2
    have next := before.next (Program.exec_replies.mpr contacted) (.inl .offlineMiss)
    have rest := ih next fun other member => idle other (List.mem_cons_of_mem _ member)
    simpa using rest

/-- A repaired entry is a hit, also offline. -/
theorem play_contact_repaired {source : Source} {type : SourceType} (same : source.type = type)
    {before : World Outside} {result : Result}
    (repaired : Repaired library identity opts type before world result) :
    ∃ hit, (contact library identity { opts with offline := true } given source attempts).replay
        environment.reply world = (.ok (.ok hit), world) ∧
      hit.path = result.path ∧ hit.provenance = result.provenance.hit attempts := by
  obtain ⟨bytes, provenance, held, checked, kept⟩ := repaired.entry
  subst same
  have used := play_contact_used environment library identity { opts with offline := true } given
    attempts world source held checked
  refine ⟨_, used, rfl, ?_⟩
  have rebuilt : (provenance.hit []).hit attempts = (result.provenance.hit []).hit attempts := by
    rw [kept]
  exact rebuilt

/-- An acquisition that succeeds has a source that supplies its product. -/
theorem acquire_supplied {request : Request} {result : Result} {world' : World Outside}
    (succeeded : (acquire library request opts).replay environment.reply world =
      (.ok (.ok result), world')) :
    ∃ sources failed source rest between, checkRequest library request opts = .ok sources ∧
      sources = failed.map (·.source) ++ source :: rest ∧
      PassedOn (Program.Replies environment.reply) library request.identity opts none world failed
        between ∧
      Contacted (Program.Replies environment.reply) library request.identity opts none failed source
        between (.ok result) world' ∧
      result.provenance.attempts = recorded library failed := by
  unfold acquire at succeeded
  cases accepted : checkRequest library request opts with
  | error reason =>
    rw [accepted] at succeeded
    cases succeeded
  | ok sources =>
    rw [accepted] at succeeded
    have law := doAcquire_obeys sources ⟨rfl, rfl, rfl⟩ rfl .none (Program.exec_replies.mpr succeeded)
    cases law with
    | success order before contacted lists =>
      exact ⟨sources, _, _, _, _, rfl, order, before, contacted, lists⟩

/-- What the law of the source list allows is what an acquisition does. -/
theorem play_acquire {request : Request} {sources : List Source} {outcome : Except Reason Result}
    {world' : World Outside} (accepted : checkRequest library request opts = .ok sources)
    (law : Fallback (Program.Replies environment.reply) library request.identity opts none sources
      world outcome world') :
    (acquire library request opts).replay environment.reply world = (.ok outcome, world') := by
  unfold acquire
  rw [accepted]
  exact Program.exec_replies.mp law.executes

/-- Offline, a repaired entry is hit by the first source of its type when the sources before it have
nothing in the cache. -/
theorem acquire_offline {request : Request} {sources idle rest : List Source} {source : Source}
    {result : Result} {before : World Outside}
    (accepted : checkRequest library request opts = .ok sources)
    (order : sources = idle ++ source :: rest)
    (repaired : Repaired library request.identity opts source.type before world result)
    (nothing : ∀ other ∈ idle, other.type.isNetwork = true ∧
      before.held (slotOf library request.identity opts other.type) = .nothing) :
    ∃ hit, (acquire library request { opts with offline := true }).replay environment.reply world =
        (.ok (.ok hit), world) ∧
      hit.path = result.path ∧
      hit.provenance = result.provenance.hit hit.provenance.attempts.reverse := by
  obtain ⟨front, first, back, split, same, others⟩ : ∃ front first back,
      sources = front ++ first :: back ∧ first.type = source.type ∧
        ∀ other ∈ front, other ∈ idle ∧ other.type ≠ source.type := by
    cases found : idle.find? fun other => other.type = source.type with
    | none =>
      rw [List.find?_eq_none] at found
      exact ⟨idle, source, rest, order, rfl, fun other member =>
        ⟨member, by simpa using found other member⟩⟩
    | some first =>
      obtain ⟨same, front, back, split, others⟩ := List.find?_eq_some_iff_append.mp found
      refine ⟨front, first, back ++ source :: rest, ?_, by simpa using same, fun other member =>
        ⟨?_, by simpa using others other member⟩⟩
      · rw [order, split]
        simp
      · rw [split]
        exact List.mem_append_left _ member
  have passed := passedOn_offline environment library request.identity opts none world front .none
    fun other member => by
      obtain ⟨listed, apart⟩ := others other member
      rw [repaired.others other.type apart]
      exact nothing other listed
  obtain ⟨hit, contacted, path, provenance⟩ := play_contact_repaired environment library
    request.identity opts none (recorded library
      (front.map fun source => ⟨source, .offlineCacheMiss⟩)).reverse world same repaired
  have attempts : hit.provenance.attempts = recorded library
      (front.map fun source => ⟨source, .offlineCacheMiss⟩) := by
    rw [provenance]
    exact List.reverse_reverse _
  refine ⟨hit, ?_, path, ?_⟩
  · apply play_acquire environment library { opts with offline := true } world accepted
    have ordered : sources = (front.map fun source =>
        (⟨source, .offlineCacheMiss⟩ : Failed)).map (·.source) ++ first :: back := by
      simp [split, Function.comp_def]
    exact .success ordered passed (Program.exec_replies.mpr contacted) attempts
  · rw [attempts]
    exact provenance

end Repairing

section Law

variable {Outside : Type} {environment : Environment Outside} {library : Library} {opts : Options}
  {world : World Outside}

/-- With damaged entries, an acquisition that succeeds without them succeeds too and repairs the entry
it hits later, when no source that fails before the one that supplies the product has a damaged entry;
otherwise it ends with the error of the first damaged entry. -/
theorem acquire_damaged {request : Request} {damaged : List SourceType} {result : Result}
    {between : World Outside}
    (refused : ∀ source ∈ damaged, (damage library request.identity opts world source).isSome)
    (rereads : Rereads library result.provenance)
    (succeeded : (acquire library request opts).replay environment.reply
      (world.without (slotsOf library request.identity opts damaged)) =
        (.ok (.ok result), between)) :
    ((∀ failure ∈ result.provenance.attempts, failure.source ∉ damaged) →
      ∃ repaired world' hit,
        (acquire library request opts).replay environment.reply world =
          (.ok (.ok repaired), world') ∧
        repaired.provenance = result.provenance ∧
        (acquire library request { opts with offline := true }).replay environment.reply world' =
          (.ok (.ok hit), world') ∧
        hit.path = repaired.path ∧
        hit.provenance = { repaired.provenance with
          cacheHit := .bool true, attempts := hit.provenance.attempts }) ∧
    ∀ before failure after, result.provenance.attempts = before ++ failure :: after →
      (∀ earlier ∈ before, earlier.source ∉ damaged) → failure.source ∈ damaged →
      ∃ reason world', damage library request.identity opts world failure.source = some reason ∧
        (acquire library request opts).replay environment.reply world =
          (.ok (.error reason), world') := by
  obtain ⟨sources, failed, source, rest, last, accepted, order, passed, contacted, lists⟩ :=
    acquire_supplied environment library opts _ succeeded
  constructor
  · intro undamaged
    have intact : ∀ failure ∈ failed, failure.source.type ∉ damaged := by
      intro failure member
      rw [lists] at undamaged
      exact undamaged _ (List.mem_map_of_mem member)
    obtain ⟨⟨outside, rfl, before⟩, idle⟩ :=
      passedOn_alongside environment library request.identity opts none world damaged passed intact
    obtain ⟨repaired, world', contacted', provenance, entry⟩ :=
      contact_succeeds environment library request.identity opts none _ { world with outside }
        damaged refused rereads (Program.exec_replies.mp contacted)
    have nothing : ∀ other ∈ failed.map (·.source), other.type.isNetwork = true ∧
        world.held (slotOf library request.identity opts other.type) = .nothing := by
      intro other member
      obtain ⟨failure, listed, rfl⟩ := List.mem_map.mp member
      exact idle failure listed
    obtain ⟨hit, replayed, path, kept⟩ :=
      acquire_offline environment library opts world' accepted order entry nothing
    refine ⟨repaired, world', hit, ?_, provenance, replayed, path, ?_⟩
    · apply play_acquire environment library opts world accepted
      exact .success order before (Program.exec_replies.mpr contacted') (provenance ▸ lists)
    · rw [kept]
      simp [Provenance.hit]
  · intro earlier failure later split intact listed
    rw [lists] at split
    obtain ⟨before, after, rfl, rfl, tail⟩ := List.map_eq_append_iff.mp split
    obtain ⟨stopped, others, rfl, rfl, -⟩ := List.map_eq_cons_iff.mp tail
    have undamaged : ∀ failure ∈ before, failure.source.type ∉ damaged := by
      intro failure member
      exact intact _ (List.mem_map_of_mem member)
    obtain ⟨_, _, passed', stopped', passes⟩ := passed.contacted
    obtain ⟨⟨outside, rfl, alongside⟩, -⟩ :=
      passedOn_alongside environment library request.identity opts none world damaged passed'
        undamaged
    obtain ⟨reason, unusable⟩ := Option.isSome_iff_exists.mp (refused stopped.source.type listed)
    obtain ⟨-, outside', -, -, fails⟩ :=
      contact_fails environment library request.identity opts none _ { world with outside } damaged
        (Program.exec_replies.mp stopped') (not_settled passes)
    have ends := (fallback_none reason).mp (damage_integrity unusable).settled
    have ordered : sources = before.map (·.source) ++ stopped.source ::
        (others.map (·.source) ++ source :: rest) := by
      rw [order, List.map_append, List.map_cons, List.append_assoc, List.cons_append]
    have contacted' := Program.exec_replies.mpr (fails reason unusable)
    exact ⟨reason, _, unusable, play_acquire environment library opts world accepted
      (.stopped ordered alongside contacted' ends)⟩

/-- The provenance of the plain copy. -/
def plainProvenance : Provenance :=
  provenance plainLibrary plainIdentity { plainIdentity with formatVersion := some (ascii "SP3-d") }
    .inMemory (localFetch plainContent) .none plainContent [] (ascii "2024-01-03T00:00:00Z")

/-- The plain library with the JSON of that provenance. -/
def rereadingLibrary : Library :=
  { plainLibrary with
    encode term :=
      match term.access (ascii "cache_hit"), term.access (ascii "attempts") with
      | some (.bool false), some (.list []) => some (ascii "\x7b\x7d")
      | _, _ => none
    decode _ := some (provenanceToMap plainProvenance) }

/-- It reads what it wrote. -/
theorem rereadingLibrary_rereads : Rereads rereadingLibrary plainProvenance := by
  intro written json same encoded
  have cache : (provenanceToMap written).access (ascii "cache_hit") = some written.cacheHit := by
    simp [provenanceToMap, Term.access, lookup_ascii]
  have attempts : (provenanceToMap written).access (ascii "attempts") =
      some (.list (written.attempts.map failureToMap)) := by
    simp [provenanceToMap, Term.access, lookup_ascii]
  have fresh : written.cacheHit = .bool false ∧ written.attempts = [] := by
    simp only [rereadingLibrary, cache, attempts] at encoded
    split at encoded
    · next first second =>
      exact ⟨Option.some_inj.mp first, List.map_eq_nil_iff.mp (Term.list.inj (Option.some_inj.mp second))⟩
    · cases encoded
  have rebuilt : written = plainProvenance := by
    have restored := congrArg (fun provenance : Provenance =>
      { provenance with cacheHit := .bool false, attempts := [] }) same
    obtain ⟨miss, none⟩ := fresh
    cases written
    cases miss
    cases none
    exact restored
  rw [rebuilt]
  rfl

/-- A request for the plain copy. -/
def copyRequest : Request := ⟨plainIdentity, [.source plainCopy]⟩

/-- A request for the archive and then the plain copy. -/
def archiveRequest : Request := ⟨plainIdentity, [.direct, .source plainCopy]⟩

/-- The world with an unreadable entry of the copy, without that entry. -/
def copyWorld : World Unit :=
  (unreadableWorld .inMemory).without
    (slotsOf rereadingLibrary copyRequest.identity plainOptions [.inMemory])

/-- Without it the copy is acquired. -/
theorem play_copyRequest :
    (acquire rereadingLibrary copyRequest plainOptions).replay unpublished.reply copyWorld =
      (.ok (.ok ⟨(slotOf rereadingLibrary plainIdentity plainOptions .inMemory).path,
          plainProvenance⟩),
        unpublished.commit copyWorld (slotOf rereadingLibrary plainIdentity plainOptions .inMemory)
          ⟨plainContent, plainContent, ascii "\x7b\x7d"⟩) := by
  rfl

/-- An unreadable entry of a local copy is repaired and hit later. -/
theorem acquire_damaged_repaired :
    ∃ repaired world' hit,
      (acquire rereadingLibrary copyRequest plainOptions).replay unpublished.reply
        (unreadableWorld .inMemory) = (.ok (.ok repaired), world') ∧
      repaired.provenance = plainProvenance ∧
      (acquire rereadingLibrary copyRequest { plainOptions with offline := true }).replay
        unpublished.reply world' = (.ok (.ok hit), world') ∧
      hit.path = repaired.path ∧
      hit.provenance = { repaired.provenance with
        cacheHit := .bool true, attempts := hit.provenance.attempts } := by
  have refused : ∀ source ∈ [SourceType.inMemory], (damage rereadingLibrary copyRequest.identity
      plainOptions (unreadableWorld .inMemory) source).isSome := by
    intro source member
    rw [List.mem_singleton] at member
    rw [member]
    rfl
  have none_before : ∀ failure ∈ plainProvenance.attempts,
      failure.source ∉ [SourceType.inMemory] := by
    intro failure member
    cases member
  exact (acquire_damaged refused rereadingLibrary_rereads play_copyRequest).1 none_before

/-- A success. -/
def supplied {Outside : Type} (ended : Except Raised (Except Reason Result) × World Outside) :
    Bool :=
  match ended.1 with
  | .ok (.ok _) => true
  | _ => false

/-- The file that a cache error names. -/
def unreadFile {Outside : Type} (ended : Except Raised (Except Reason Result) × World Outside) :
    Option Binary :=
  match ended.1 with
  | .ok (.error (.cacheReadFailed name)) => some name
  | _ => none

/-- An unreadable entry of a source that has become absent ends an acquisition that succeeds with the
copy after it when the entry is not there. -/
theorem acquire_damaged_absent :
    (damage plainLibrary plainIdentity plainOptions (unreadableWorld .direct) .direct).isSome ∧
      supplied ((acquire plainLibrary archiveRequest plainOptions).replay unpublished.reply
        ((unreadableWorld .direct).without
          (slotsOf plainLibrary plainIdentity plainOptions [.direct]))) ∧
      unreadFile ((acquire plainLibrary archiveRequest plainOptions).replay unpublished.reply
        (unreadableWorld .direct)) = some (ascii "product.SP3") := by
  decide +kernel

end Law

end Sidereon.Distribution
