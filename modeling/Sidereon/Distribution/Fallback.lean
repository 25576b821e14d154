import Sidereon.Distribution.World

/-!
# Which source supplies a product

The sources of a request are contacted one after the other. Absence and trouble on the way to a
source pass the request on to the next one, and anything else ends it. What `acquire` returns is
described here without the accumulators it is computed with: by the list of the sources that failed.
-/

namespace Sidereon.Distribution

open Foundation

section Kinds

/-- The source does not have the product. -/
inductive Absence : Reason → Prop where
  | offlineMiss : Absence .offlineCacheMiss
  | notPublished (url : Binary) : Absence (.response .productNotPublished 404 url)
  | retired (url : Binary) : Absence (.response .retiredEndpoint 410 url)

/-- The source could not be asked, or asks to be asked again. -/
inductive Unavailable : Reason → Prop where
  | transport (kind : TransportKind) (url : Binary) : Unavailable (.transport kind url)
  | status {status : Int} (url : Binary)
      (transient : status = 408 ∨ status = 429 ∨ 500 ≤ status ∧ status ≤ 599) :
      Unavailable (.response .httpStatus status url)

/-- What is retried is unavailability. -/
theorem retryable_iff (reason : Reason) : retryable reason = true ↔ Unavailable reason := by
  constructor
  · intro retried
    unfold retryable at retried
    split at retried
    · exact .transport _ _
    · next status url =>
      have transient : status = 408 ∨ status = 429 ∨ 500 ≤ status ∧ status ≤ 599 := by
        simp only [Bool.or_eq_true, Bool.and_eq_true, beq_iff_eq, decide_eq_true_eq] at retried
        omega
      exact .status url transient
    · cases retried
  · intro unavailable
    cases unavailable with
    | transport kind url => rfl
    | status url transient =>
      simp only [retryable, Bool.or_eq_true, Bool.and_eq_true, beq_iff_eq, decide_eq_true_eq]
      omega

/-- `distributor_fallback_kind` tells absence. -/
theorem fallback_absence (reason : Reason) :
    distributorFallbackKind reason = some .absence ↔ Absence reason := by
  constructor
  · intro kind
    unfold distributorFallbackKind at kind
    split at kind
    · exact .offlineMiss
    · exact .notPublished _
    · exact .retired _
    · split at kind <;> cases kind
  · intro absent
    cases absent <;> rfl

/-- What is absent is not unavailable. -/
theorem Absence.not_unavailable {reason : Reason} (absent : Absence reason) :
    ¬ Unavailable reason := by
  intro unavailable
  cases absent <;> cases unavailable

/-- `distributor_fallback_kind` tells unavailability. -/
theorem fallback_availability (reason : Reason) :
    distributorFallbackKind reason = some .availability ↔ Unavailable reason := by
  constructor
  · intro kind
    unfold distributorFallbackKind at kind
    split at kind
    · cases kind
    · cases kind
    · cases kind
    · split at kind
      · next retried => exact (retryable_iff reason).mp retried
      · cases kind
  · intro unavailable
    have retried : retryable reason = true := (retryable_iff reason).mpr unavailable
    unfold distributorFallbackKind
    split
    · cases unavailable
    · cases unavailable
    · cases unavailable
    · rw [if_pos retried]

/-- Every other failure has no kind. -/
theorem fallback_none (reason : Reason) :
    distributorFallbackKind reason = none ↔ ¬ Absence reason ∧ ¬ Unavailable reason := by
  rw [← fallback_absence, ← fallback_availability]
  cases distributorFallbackKind reason with
  | none => simp
  | some kind => cases kind <;> simp

end Kinds

section Attempts

variable {library : Library} {identity : ProductIdentity} {source : Source} {slot : Slot}
  {attempts : List SourceFailure} {opts : Options} {given : Option DirectLocation}

/-- A result lists the attempts that were made before it. -/
def Lists (attempts : List SourceFailure) : Except Reason Result → Prop
  | .ok result => result.provenance.attempts = attempts.reverse
  | .error _ => True

/-- A cache hit lists the attempts before it. -/
theorem readEntry_lists (files : CacheFiles) (legacy : Bool) :
    (readEntry library identity slot attempts opts files legacy).Returns fun loaded =>
      ∀ result, loaded = .ok result → result.provenance.attempts = attempts.reverse := by
  unfold readEntry
  refine (Program.returns_any _).bind fun content _ => ?_
  cases content with
  | none => simp
  | some content =>
    refine (Program.returns_any _).bind fun archive _ => ?_
    cases archive with
    | none => simp
    | some archive =>
      refine (Program.returns_any _).bind fun json _ => ?_
      cases json with
      | none => simp
      | some json =>
        dsimp only
        cases checkEntry library identity slot.source opts.sha256 content archive json with
        | error unusable => simp
        | ok provenance =>
          refine (Program.returns_any _).bind fun path _ => ?_
          cases path with
          | error reason => simp
          | ok path =>
            intro result same
            cases same
            rfl

/-- What the cache gives lists the attempts before it. -/
theorem loadCache_lists :
    (loadCache library identity slot attempts opts).Returns fun loaded =>
      ∀ result, loaded = .hit result → result.provenance.attempts = attempts.reverse := by
  unfold loadCache
  refine (Program.returns_any _).bind fun found _ => ?_
  cases found with
  | miss => simp
  | error => simp
  | files files legacy =>
    refine (readEntry_lists files legacy).bind fun read listed => ?_
    cases read with
    | ok result => simpa using listed
    | error unusable => cases unusable <;> simp

/-- What a source gives lists the attempts before it. -/
theorem acquireSource_lists :
    (acquireSource library identity source slot attempts opts given).Returns (Lists attempts) := by
  unfold acquireSource
  refine (Program.returns_any _).bind fun fetched _ => ?_
  cases fetched with
  | error reason => trivial
  | ok fetched =>
    dsimp only
    cases checkFetched library identity source opts fetched with
    | error reason => trivial
    | ok checked =>
      refine (Program.returns_any _).bind fun retrievedAt _ => ?_
      refine (Program.returns_any _).bind fun path _ => ?_
      cases path with
      | error reason => trivial
      | ok path => rfl

/-- So does what comes after a cache miss. -/
theorem acquireAfterCacheMiss_lists (cacheError : Option Reason) :
    (acquireAfterCacheMiss library identity source slot attempts opts cacheError given).Returns
      (Lists attempts) := by
  unfold acquireAfterCacheMiss
  split
  · trivial
  · refine acquireSource_lists.bind fun acquired listed => ?_
    cases acquired with
    | ok result => exact listed
    | error reason => trivial

/-- A contact that succeeds lists the attempts before it. -/
theorem contact_lists :
    (contact library identity opts given source attempts).Returns (Lists attempts) := by
  unfold contact withLock
  refine (Program.returns_any _).bind fun opened _ => ?_
  cases opened with
  | error reason => trivial
  | ok _ =>
    apply Program.Returns.afterwards
    refine (Program.returns_any _).bind fun _ _ => ?_
    unfold acquireLocked
    refine loadCache_lists.bind fun loaded listed => ?_
    split
    · exact listed _ rfl
    · exact acquireAfterCacheMiss_lists none
    · trivial
    · exact acquireAfterCacheMiss_lists _

end Attempts

section Law

variable {World : Type}
  (respond : (request : Call) → World → Answer request → World → Prop)
  (library : Library) (identity : ProductIdentity) (opts : Options)
  (given : Option DirectLocation)

/-- A source that failed, and why. -/
structure Failed where
  source : Source
  reason : Reason

/-- What is recorded of failed sources. -/
def recorded (failed : List Failed) : List SourceFailure :=
  failed.map fun failure => sourceFailure library.inspect failure.source.type failure.reason

/-- A contact to a source, after others that failed, gives an outcome. -/
def Contacted (failed : List Failed) (source : Source) (world : World)
    (outcome : Except Reason Result) (world' : World) : Prop :=
  (contact library identity opts given source (recorded library failed).reverse).Exec respond world
    (.ok outcome) world'

/-- Sources were contacted one after the other, and each passed the request on. -/
inductive PassedOn (start : World) : List Failed → World → Prop where
  | none : PassedOn start [] start
  | next {failed : List Failed} {between after : World} {source : Source} {reason : Reason}
      (before : PassedOn start failed between)
      (contacted : Contacted respond library identity opts given failed source between
        (.error reason) after)
      (passes : Absence reason ∨ Unavailable reason) :
      PassedOn start (failed ++ [⟨source, reason⟩]) after

/-- What is said of sources that all failed. -/
inductive Verdict : List Failed → Reason → Prop where
  | unavailable {before after : List Failed} {first : Failed}
      (absent : ∀ failure ∈ before, ¬ Unavailable failure.reason)
      (unavailable : Unavailable first.reason) :
      Verdict (before ++ first :: after) first.reason
  | alone {failure : Failed} (absent : ¬ Unavailable failure.reason) :
      Verdict [failure] failure.reason
  | all {failed : List Failed} (absent : ∀ failure ∈ failed, ¬ Unavailable failure.reason)
      (several : failed.length ≠ 1) :
      Verdict failed (.allDistributorsFailed (recorded library failed))

/-- The law of an ordered list of sources: sources that pass the request on, and then the first
success, the first other failure, or the end of the list. -/
inductive Fallback (sources : List Source) (start : World) :
    Except Reason Result → World → Prop where
  | success {failed : List Failed} {source : Source} {rest : List Source} {between world' : World}
      {result : Result} (order : sources = failed.map (·.source) ++ source :: rest)
      (before : PassedOn respond library identity opts given start failed between)
      (contacted : Contacted respond library identity opts given failed source between (.ok result)
        world')
      (lists : result.provenance.attempts = recorded library failed) :
      Fallback sources start (.ok result) world'
  | stopped {failed : List Failed} {source : Source} {rest : List Source} {between world' : World}
      {reason : Reason} (order : sources = failed.map (·.source) ++ source :: rest)
      (before : PassedOn respond library identity opts given start failed between)
      (contacted : Contacted respond library identity opts given failed source between
        (.error reason) world')
      (stops : ¬ Absence reason ∧ ¬ Unavailable reason) :
      Fallback sources start (.error reason) world'
  | exhausted {failed : List Failed} {world' : World} {reason : Reason}
      (order : sources = failed.map (·.source))
      (before : PassedOn respond library identity opts given start failed world')
      (verdict : Verdict library failed reason) :
      Fallback sources start (.error reason) world'

/-- What `do_acquire` has kept of the sources that failed. -/
structure Kept (progress : Progress) (failed : List Failed) : Prop where
  attempts : progress.attempts = (recorded library failed).reverse
  lastError : progress.lastError = failed.getLast?.map (·.reason)
  first : progress.firstAvailabilityError = (failed.find? (retryable ·.reason)).map (·.reason)

end Law

section Progress

variable {library : Library} {progress : Progress} {failed : List Failed}

/-- A source that fails is kept. -/
theorem Kept.fail (kept : Kept library progress failed) (source : Source) {reason : Reason}
    {kind : FallbackKind} (fallback : distributorFallbackKind reason = some kind) :
    Kept library (progress.fail library source reason kind) (failed ++ [⟨source, reason⟩]) where
  attempts := by simp [Progress.fail, recorded, kept.attempts]
  lastError := by simp [Progress.fail]
  first := by
    have retried : retryable reason = decide (kind = .availability) := by
      rw [Bool.eq_iff_iff, retryable_iff, ← fallback_availability, fallback, Option.some_inj,
        decide_eq_true_eq]
    rw [List.find?_append, Progress.fail, kept.first]
    cases failed.find? (retryable ·.reason) with
    | some first => simp
    | none => cases kind <;> simp [retried]

/-- Something is said of all sources that fail. -/
theorem exists_verdict (library : Library) (failed : List Failed) :
    ∃ reason, Verdict library failed reason := by
  cases found : failed.find? (retryable ·.reason) with
  | some first =>
    obtain ⟨retried, before, after, split, others⟩ := List.find?_eq_some_iff_append.mp found
    have absent : ∀ failure ∈ before, ¬ Unavailable failure.reason := by
      intro failure member
      rw [← retryable_iff]
      simpa using others failure member
    exact ⟨first.reason, split ▸ .unavailable absent ((retryable_iff _).mp retried)⟩
  | none =>
    have absent : ∀ failure ∈ failed, ¬ Unavailable failure.reason := by
      intro failure member
      rw [← retryable_iff]
      exact List.find?_eq_none.mp found failure member
    by_cases single : failed.length = 1
    · obtain ⟨failure, rfl⟩ := List.length_eq_one_iff.mp single
      exact ⟨failure.reason, .alone (absent failure (List.mem_singleton_self failure))⟩
    · exact ⟨_, .all absent single⟩

/-- `finish_acquisition` says it. -/
theorem Kept.finishes (kept : Kept library progress failed) {reason : Reason}
    (verdict : Verdict library failed reason) : finishAcquisition progress = reason := by
  have none_first (absent : ∀ failure ∈ failed, ¬ Unavailable failure.reason) :
      progress.firstAvailabilityError = none := by
    rw [kept.first, Option.map_eq_none_iff, List.find?_eq_none]
    intro failure member
    rw [retryable_iff]
    exact absent failure member
  cases verdict with
  | @unavailable before after first absent unavailable =>
    have passed : before.find? (retryable ·.reason) = none := by
      rw [List.find?_eq_none]
      intro failure member
      rw [retryable_iff]
      exact absent failure member
    have found : progress.firstAvailabilityError = some first.reason := by
      have retried : retryable first.reason = true := (retryable_iff _).mpr unavailable
      simp only [kept.first, List.find?_append, passed, Option.none_or, List.find?_cons, retried,
        Option.map_some]
    rw [finishAcquisition, found]
  | @alone failure absent =>
    have first := none_first fun _ member => List.mem_singleton.mp member ▸ absent
    simp [finishAcquisition, first, kept.attempts, kept.lastError, recorded]
  | all absent several =>
    have first := none_first absent
    have length : progress.attempts.length ≠ 1 := by
      simpa [kept.attempts, recorded] using several
    have reversed : progress.attempts.reverse = recorded library failed := by
      rw [kept.attempts, List.reverse_reverse]
    unfold finishAcquisition
    split
    · next found => simp [first] at found
    · next single _ => simp [single] at length
    · rw [reversed]

/-- So it says what is said of the sources that failed. -/
theorem Kept.verdict (kept : Kept library progress failed) :
    Verdict library failed (finishAcquisition progress) := by
  obtain ⟨reason, verdict⟩ := exists_verdict library failed
  rw [kept.finishes verdict]
  exact verdict

end Progress

section Execution

variable {World : Type} {respond : (request : Call) → World → Answer request → World → Prop}
  {library : Library} {identity : ProductIdentity} {opts : Options}
  {given : Option DirectLocation} {start world world' : World} {progress : Progress}
  {failed : List Failed} {outcome : Except Reason Result}

/-- A contact is made with the attempts that are kept. -/
theorem Kept.contacted (kept : Kept library progress failed) (source : Source) :
    (contact library identity opts given source progress.attempts).Exec respond world (.ok outcome)
        world' ↔
      Contacted respond library identity opts given failed source world outcome world' := by
  rw [Contacted, kept.attempts]

/-- What a source list gives that is contacted to its end obeys the law. -/
theorem doAcquire_obeys {sources : List Source} (rest : List Source)
    (kept : Kept library progress failed) (order : sources = failed.map (·.source) ++ rest)
    (before : PassedOn respond library identity opts given start failed world)
    (executed : (doAcquire library identity opts given rest progress).Exec respond world
      (.ok outcome) world') :
    Fallback respond library identity opts given sources start outcome world' := by
  induction rest generalizing progress failed world with
  | nil =>
    obtain ⟨rfl, rfl⟩ := Program.exec_pure.mp executed
    exact .exhausted (by simpa using order) before kept.verdict
  | cons source rest ih =>
    obtain ⟨contacted, between, first, later⟩ := Program.exec_bind.mp executed
    have first' := (kept.contacted source).mp first
    cases contacted with
    | ok result =>
      obtain ⟨rfl, rfl⟩ := Program.exec_pure.mp later
      have lists : result.provenance.attempts = recorded library failed := by
        simpa [Lists] using contact_lists.exec first'
      exact .success order before first' lists
    | error reason =>
      dsimp only at later
      cases fallback : distributorFallbackKind reason with
      | none =>
        rw [fallback] at later
        obtain ⟨rfl, rfl⟩ := Program.exec_pure.mp later
        exact .stopped order before first' ((fallback_none reason).mp fallback)
      | some kind =>
        rw [fallback] at later
        have passes : Absence reason ∨ Unavailable reason := by
          cases kind with
          | absence => exact .inl ((fallback_absence reason).mp fallback)
          | availability => exact .inr ((fallback_availability reason).mp fallback)
        exact ih (kept.fail source fallback) (by simpa using order) (before.next first' passes) later

/-- Sources that passed the request on leave the rest of the list to be contacted. -/
theorem PassedOn.continues
    (passed : PassedOn respond library identity opts given start failed world)
    (rest : List Source) :
    ∃ progress, Kept library progress failed ∧ ∀ outcome world',
      (doAcquire library identity opts given rest progress).Exec respond world (.ok outcome)
          world' →
        (doAcquire library identity opts given (failed.map (·.source) ++ rest) {}).Exec respond
          start (.ok outcome) world' := by
  induction passed generalizing rest with
  | none => exact ⟨{}, ⟨rfl, rfl, rfl⟩, fun _ _ executed => executed⟩
  | @next failed between after source reason _ contacted passes ih =>
    obtain ⟨progress, kept, continues⟩ := ih (source :: rest)
    obtain ⟨kind, fallback⟩ : ∃ kind, distributorFallbackKind reason = some kind := by
      cases passes with
      | inl absent => exact ⟨.absence, (fallback_absence reason).mpr absent⟩
      | inr unavailable => exact ⟨.availability, (fallback_availability reason).mpr unavailable⟩
    refine ⟨_, kept.fail source fallback, fun outcome world' executed => ?_⟩
    have step : (doAcquire library identity opts given (source :: rest) progress).Exec respond
        between (.ok outcome) world' := by
      refine Program.exec_bind.mpr ⟨_, after, (kept.contacted source).mpr contacted, ?_⟩
      dsimp only
      rw [fallback]
      exact executed
    simpa using continues outcome world' step

/-- Whatever the law allows, contacting the sources in order gives. -/
theorem Fallback.executes {sources : List Source}
    (fallback : Fallback respond library identity opts given sources start outcome world') :
    (doAcquire library identity opts given sources {}).Exec respond start (.ok outcome) world' := by
  cases fallback with
  | success order before contacted lists =>
    obtain ⟨progress, kept, continues⟩ := before.continues (_ :: _)
    rw [order]
    apply continues
    exact Program.exec_bind.mpr
      ⟨_, _, (kept.contacted _).mpr contacted, Program.exec_pure.mpr ⟨rfl, rfl⟩⟩
  | stopped order before contacted stops =>
    obtain ⟨progress, kept, continues⟩ := before.continues (_ :: _)
    rw [order]
    apply continues
    refine Program.exec_bind.mpr ⟨_, _, (kept.contacted _).mpr contacted, ?_⟩
    dsimp only
    rw [(fallback_none _).mpr stops]
    exact Program.exec_pure.mpr ⟨rfl, rfl⟩
  | exhausted order before verdict =>
    obtain ⟨progress, kept, continues⟩ := before.continues []
    rw [order, ← kept.finishes verdict, ← List.append_nil (List.map _ _)]
    exact continues _ _ (Program.exec_pure.mpr ⟨rfl, rfl⟩)

/-- `acquire` obeys the law of its source list, and whatever the law allows it gives. -/
theorem acquire_fallback {request : Request} {sources : List Source}
    (accepted : checkRequest library request opts = .ok sources) :
    (acquire library request opts).Exec respond start (.ok outcome) world' ↔
      Fallback respond library request.identity opts none sources start outcome world' := by
  unfold acquire
  rw [accepted]
  constructor
  · intro executed
    exact doAcquire_obeys sources ⟨rfl, rfl, rfl⟩ rfl .none executed
  · exact Fallback.executes

end Execution

/-- The law of a request with two network sources and a local copy. -/
theorem acquire_fallback_plain :
    let request : Request := ⟨plainIdentity, [.direct, .nasaCddis, .source ⟨.inMemory, none, some [], none⟩]⟩
    let opts : Options := { cacheDir := ascii "/cache" }
    let sources : List Source := [{ type := .direct },
      { type := .nasaCddis, compression := some .gzip }, ⟨.inMemory, none, some [], none⟩]
    checkRequest plainLibrary request opts = .ok sources ∧
      ∀ (environment : Environment Unit) (start world' : World Unit)
        (outcome : Except Reason Result),
        (acquire plainLibrary request opts).Exec
          (fun call world answer after => (answer, after) = environment.reply call world) start
          (.ok outcome) world' ↔
        Fallback (fun call world answer after => (answer, after) = environment.reply call world)
          plainLibrary plainIdentity opts none sources start outcome world' := by
  intro request opts sources
  have accepted : checkRequest plainLibrary request opts = .ok sources := by rfl
  exact ⟨accepted, fun _ _ _ _ => acquire_fallback accepted⟩

end Sidereon.Distribution
