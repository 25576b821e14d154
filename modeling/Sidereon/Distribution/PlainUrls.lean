import Sidereon.Distribution.Confinement
import Sidereon.Distribution.Fetching
import Sidereon.Distribution.Persistence

/-!
# URLs without user information, query and fragment

Every URL that an acquisition reports is sanitized: in its error, in the attempts it records and in
the provenance it commits. A provenance from the cache was committed by an acquisition before, so the
URLs in it are plain as well.
-/

namespace Sidereon.Distribution

open Foundation

section Statements

/-- A URL without user information, query and fragment, or none. -/
def Term.PlainUrl : Term → Prop
  | .nil => True
  | .text url => Uri.IsPlain url
  | _ => False

/-- The URL of an attempt is plain. -/
def SourceFailure.Plain (failure : SourceFailure) : Prop := failure.url.PlainUrl

/-- The URLs of a reason are plain. -/
def Reason.Plain : Reason → Prop
  | .response _ _ url | .malformedUrl url | .transport _ url | .httpClientFailure _ url
  | .invalidContentType _ url | .errorDocument url | .contentLengthMismatch _ _ url =>
    Uri.IsPlain url
  | .allDistributorsFailed attempts => ∀ attempt ∈ attempts, attempt.Plain
  | _ => True

/-- The URLs of a provenance are plain. -/
structure Provenance.Plain (provenance : Provenance) : Prop where
  originalUrl : provenance.originalUrl.PlainUrl
  finalUrl : provenance.finalUrl.PlainUrl
  attempts : ∀ attempt ∈ provenance.attempts, attempt.Plain

/-- The URLs of what was fetched are plain. -/
def Fetched.Plain (fetched : Fetched) : Prop :=
  (Term.ofOption fetched.originalUrl).PlainUrl ∧ (Term.ofOption fetched.finalUrl).PlainUrl

/-- A value whose URLs are plain, or a reason whose URLs are. -/
def PlainOr {α : Type} (plain : α → Prop) : Except Reason α → Prop
  | .ok value => plain value
  | .error reason => reason.Plain

/-- The bytes of provenance that the cache has answered. -/
inductive Cached (past : Past) (json : Binary) : Prop where
  | inline {slot : Slot} {files : CacheFiles} (found : ⟨.readCache slot, .files files⟩ ∈ past)
      (read : files.provenanceBytes = some json)
  | file {slot : Slot} {files : CacheFiles} (found : ⟨.readCache slot, .files files⟩ ∈ past)
      (read : ⟨.readFile files.provenance, some json⟩ ∈ past)
  | legacy {slot : Slot} (missed : ⟨.readCache slot, .miss⟩ ∈ past)
      (read : ⟨.readFile slot.legacy.provenance, some json⟩ ∈ past)

/-- The bytes of provenance that acquisitions commit, over caches that hold no others. -/
inductive Written (library : Library) : Binary → Prop where
  | publish {identity : ProductIdentity} {opts : Options} {given : Option DirectLocation}
      {sources : List Source} {past : Past} {slot : Slot} {content archive json : Binary}
      {next : Except Binary CacheFiles → Action (Except Reason Result)}
      (reached : (doAcquire library identity opts given sources {}).Reaches past
        (.call (.publish slot content archive json) next))
      (cached : ∀ earlier, Cached past earlier → Written library earlier) : Written library json

/-- Bytes that are read as a provenance whose URLs are plain, of simple terms. -/
def ReadsPlain (library : Library) (json : Binary) : Prop :=
  ∃ provenance, (library.decode json).bind provenanceFromMap = some provenance ∧
    provenance.Plain ∧ (provenanceToMap provenance).simple = true

end Statements

section Sanitized

variable {library : Library} {opts : Options} {source : SourceType} {auth : EarthdataAuth}

/-- A sanitized URL is plain, whatever it is made of. -/
theorem sanitizeUrl_plain (url : Binary) : Uri.IsPlain (sanitizeUrl url) := by
  have invalid : Uri.IsPlain invalidUrl := ⟨by decide +kernel, by decide +kernel, by decide +kernel⟩
  unfold sanitizeUrl
  dsimp only
  split
  · next hosted =>
    obtain ⟨host, found⟩ := Option.isSome_iff_exists.mp hosted
    cases printed : Uri.toString?
        { Uri.parse url with userinfo := none, query := none, fragment := none } with
    | none => exact invalid
    | some text => exact Uri.parse_stripped found printed
  · exact invalid

/-- The failure without a netrc file has a plain URL. -/
theorem netrcFailure_plain : netrcFailure.Plain :=
  ⟨by decide +kernel, by decide +kernel, by decide +kernel⟩

/-- The reason of a refusal is plain. -/
theorem plainOr_error {α : Type} {plain : α → Prop} {result : Except Reason α} {reason : Reason}
    (holds : PlainOr plain result) (refused : result = .error reason) : reason.Plain := by
  rw [refused] at holds
  exact holds

/-- A condition, or a plain reason. -/
theorem plainOr_if {α : Type} {condition : Prop} [Decidable condition] {value : α}
    {reason : Reason} (plain : reason.Plain) :
    PlainOr (fun _ => True) (if condition then .ok value else .error reason) := by
  split
  · trivial
  · exact plain

theorem validateUrl_plain (url : Binary) :
    PlainOr (fun _ => True) (validateUrl library url source) :=
  plainOr_if (sanitizeUrl_plain url)

/-- Credentials are read, or the failure is that of a netrc file. -/
theorem authHeaders_plain (url : Binary) :
    (authHeaders library url source auth).Returns (PlainOr fun _ => True) := by
  have netrc : (readNetrc library auth).Returns (PlainOr fun _ => True) := by
    unfold readNetrc
    refine (Program.returns_any _).bind fun path _ => ?_
    intro contents
    dsimp only [Program.bind]
    split
    · trivial
    · exact netrcFailure_plain
  unfold authHeaders
  cases source with
  | nasaCddis =>
    dsimp only
    split
    · trivial
    · cases auth.bearerToken with
      | some token => trivial
      | none =>
        dsimp only
        split
        · refine netrc.bind fun read plain => ?_
          cases read with
          | ok credentials => trivial
          | error reason => exact plain
        · trivial
  | direct => trivial
  | localFile => trivial
  | inMemory => trivial

/-- A request is answered, or its failure has a sanitized URL. -/
theorem requestHttp_plain (url : Binary) (headers : List Header) :
    (requestHttp url headers opts).Returns (PlainOr fun _ => True) := by
  have plain := sanitizeUrl_plain url
  unfold requestHttp
  cases opts.httpClient with
  | invalid => exact plain
  | custom =>
    intro answer
    cases answer with
    | response status headers body =>
      cases body with
      | none => exact plain
      | some body => trivial
    | failed transportError reason =>
      dsimp only [Program.bind]
      cases customRetryableTransportKind transportError reason <;> exact plain
    | invalid => exact plain
    | raised => exact plain
    | thrown => exact plain
    | exited => exact plain
  | req =>
    intro answer
    cases answer with
    | response status headers body overflow =>
      dsimp only [Program.bind]
      cases overflowed : enforceStreamedSize status overflow (archiveLimit opts) with
      | ok _ => trivial
      | error reason =>
        unfold enforceStreamedSize at overflowed
        split at overflowed <;> cases overflowed
        trivial
    | failed reason => exact plain
    | raised => exact plain

/-- A response that is accepted or refused has sanitized URLs. -/
theorem concluded_plain (response : Response) (current original : Binary) :
    PlainOr Fetched.Plain (concluded library response current original auth opts) := by
  have plain := sanitizeUrl_plain current
  have accepted :
      PlainOr Fetched.Plain (acceptResponse library response current original opts) := by
    unfold acceptResponse enforceSize
    split
    · have length : PlainOr (fun _ => True)
          (verifyContentLength library response.headers response.body current) := by
        unfold verifyContentLength
        split
        · trivial
        · split
          · split
            · trivial
            · exact plain
          · exact plain
      have document : PlainOr (fun _ => True)
          (rejectErrorDocument library response.headers response.body current) := by
        unfold rejectErrorDocument
        dsimp only
        split
        · exact plain
        · split
          · exact plain
          · trivial
      cases measured : verifyContentLength library response.headers response.body current with
      | error reason => exact plainOr_error length measured
      | ok _ =>
        cases rejected : rejectErrorDocument library response.headers response.body current with
        | error reason => exact plainOr_error document rejected
        | ok _ => exact ⟨sanitizeUrl_plain original, plain⟩
    · trivial
  unfold concluded
  dsimp only
  repeat' split
  all_goals first | exact accepted | exact plain

/-- A response is followed or concluded. -/
theorem handleResponse_plain (response : Response) (current original : Binary)
    {follow : Option (Binary → Action (Except Reason Fetched))}
    (follows : ∀ next ∈ follow, ∀ target, (next target).Returns (PlainOr Fetched.Plain)) :
    (handleResponse library response current original source auth opts follow).Returns
      (PlainOr Fetched.Plain) := by
  have ended : PlainOr Fetched.Plain (concluded library response current original auth opts) :=
    concluded_plain response current original
  cases handleResponse_cases library response current original source auth opts follow with
  | inr concluded =>
    rw [concluded]
    exact ended
  | inl redirected =>
    obtain ⟨next, location, known, _, _, redirected⟩ := redirected
    rw [redirected]
    refine (Program.returns_any _).bind fun target _ => ?_
    cases target with
    | ok target => exact follows next known target
    | error reason => exact ended

/-- A hop has plain URLs when what follows it has. -/
theorem hop_plain {original : Binary} {redirectsLeft : Nat} (current : Binary) (cookies : Jar)
    (follows : ∀ cookies, ∀ next ∈ followed library original source auth opts cookies redirectsLeft,
      ∀ target, (next target).Returns (PlainOr Fetched.Plain)) :
    (doDownloadOnce library original source auth opts redirectsLeft current cookies).Returns
      (PlainOr Fetched.Plain) := by
  rw [doDownloadOnce_eq]
  cases valid : validateUrl library current source with
  | error reason => exact plainOr_error (validateUrl_plain current) valid
  | ok _ =>
    refine (authHeaders_plain current).bind fun headers plain => ?_
    cases headers with
    | error reason => exact plain
    | ok headers =>
      refine (requestHttp_plain _ _).bind fun response plain => ?_
      cases response with
      | error reason => exact plain
      | ok response => exact handleResponse_plain _ _ _ (follows _)

/-- A download has plain URLs, however many redirects are left. -/
theorem doDownloadOnce_plain (original : Binary) (redirectsLeft : Nat) (current : Binary)
    (cookies : Jar) :
    (doDownloadOnce library original source auth opts redirectsLeft current cookies).Returns
      (PlainOr Fetched.Plain) := by
  induction redirectsLeft generalizing current cookies with
  | zero =>
    apply hop_plain
    intro cookies next absent
    cases absent
  | succ redirectsLeft ih =>
    apply hop_plain
    intro cookies next given target
    cases given
    exact ih target cookies

theorem downloadFtp_plain (current : Binary) :
    (downloadFtp library current source opts).Returns (PlainOr Fetched.Plain) := by
  have plain := sanitizeUrl_plain current
  unfold downloadFtp
  cases valid : validateUrl library current source with
  | error reason => exact plainOr_error (validateUrl_plain current) valid
  | ok _ =>
    intro answer
    cases answer with
    | fetched archive =>
      dsimp only [Program.bind]
      unfold enforceSize
      split
      · next refused =>
        split at refused
        · cases refused
        · cases refused
          trivial
      · exact ⟨plain, plain⟩
    | notFound => exact plain
    | sizeExceeded limit => trivial
    | ehost => exact plain
    | etimedout => exact plain
    | network => exact plain
    | other => exact plain

/-- So has a download that is retried. -/
theorem doDownload_plain (url : Binary) (retriesLeft attempt : Nat) :
    (doDownload library url source auth opts retriesLeft attempt).Returns
      (PlainOr Fetched.Plain) := by
  have once : (downloadOnce library url source auth opts).Returns (PlainOr Fetched.Plain) := by
    unfold downloadOnce
    split
    · exact downloadFtp_plain url
    · exact doDownloadOnce_plain url maxRedirects url []
  induction retriesLeft generalizing attempt with
  | zero =>
    unfold doDownload
    refine once.bind fun fetched plain => ?_
    cases fetched <;> exact plain
  | succ retriesLeft ih =>
    unfold doDownload
    refine once.bind fun fetched plain => ?_
    cases fetched with
    | ok fetched => exact plain
    | error reason =>
      dsimp only
      split
      · exact (Program.returns_any _).bind fun _ _ => ih _
      · exact plain

end Sanitized

section Fetched

variable {library : Library} {identity : ProductIdentity} {opts : Options}

theorem validateFilename_plain (filename : Binary) :
    PlainOr (fun _ => True) (validateFilename filename) :=
  plainOr_if ⟨by decide +kernel, by decide +kernel, by decide +kernel⟩

/-- What the catalog refuses names no URL of a request. -/
theorem validateCoreIdentity_plain :
    PlainOr (fun _ => True) (validateCoreIdentity library identity) := by
  unfold validateCoreIdentity
  cases named : validateFilename identity.officialFilename with
  | error reason => exact plainOr_error (validateFilename_plain _) named
  | ok _ =>
    cases library.validateExactProductSet (identityFields identity) with
    | ok _ => trivial
    | error refusal =>
      cases refusal with
      | unknownCenter code => trivial
      | unsupportedProduct combination =>
        change PlainOr _
          (if combination = identity.analysisCenter ++ ascii "/" ++ identity.family then
            .error (.unsupportedProduct combination)
          else .error (.productValidationFailed (ascii "requested_identity")))
        split <;> trivial
      | other => trivial

theorem catalogLocation_plain (source : SourceType) :
    PlainOr (fun _ => True) (catalogLocation library identity source) := by
  unfold catalogLocation location
  cases valid : validateCoreIdentity library identity with
  | error reason => exact plainOr_error validateCoreIdentity_plain valid
  | ok _ =>
    cases library.distributionLocation (identityFields identity) source with
    | error inspected => trivial
    | ok location =>
      obtain ⟨url, compression⟩ := location
      cases url <;> trivial

theorem directLocation_plain (given : Option DirectLocation) :
    PlainOr (fun _ => True) (directLocation library identity given) := by
  cases given with
  | some location => trivial
  | none => exact catalogLocation_plain .direct

/-- Reading a source has plain URLs. -/
theorem readSource_plain (source : Source) (given : Option DirectLocation) :
    (readSource library identity source opts given).Returns (PlainOr Fetched.Plain) := by
  have from_location (type : SourceType) (location : Except Reason DirectLocation)
      (plain : PlainOr (fun _ => True) location) :
      (downloadFrom library type opts location).Returns (PlainOr Fetched.Plain) := by
    cases location with
    | error reason => exact plain
    | ok location =>
      refine (doDownload_plain _ _ _).bind fun fetched plain => ?_
      cases fetched <;> exact plain
  unfold readSource
  cases source.type with
  | direct => exact from_location _ _ (directLocation_plain given)
  | nasaCddis => exact from_location _ _ (catalogLocation_plain .nasaCddis)
  | localFile =>
    cases source.path with
    | none => trivial
    | some path =>
      intro answer
      cases answer with
      | bytes bytes => exact ⟨trivial, trivial⟩
      | sizeExceeded limit => trivial
      | failed => trivial
  | inMemory =>
    cases source.content with
    | none => trivial
    | some bytes => exact ⟨trivial, trivial⟩

/-- A sequence of checks whose reasons are plain. -/
theorem plainOr_bind {α β : Type} {plain : α → Prop} {plain' : β → Prop}
    {first : Except Reason α} {rest : α → Except Reason β} (holds : PlainOr plain first)
    (values : ∀ value, PlainOr plain' (rest value)) : PlainOr plain' (first >>= rest) := by
  cases first with
  | error reason => exact holds
  | ok value => exact values value

theorem verifyChecksum_plain (content : Binary) (pin : Pin) :
    PlainOr (fun _ => True) (verifyChecksum library content pin) := by
  unfold verifyChecksum
  split
  · trivial
  · exact plainOr_if trivial
  · trivial

/-- What was fetched is refused without naming a URL. -/
theorem checkFetched_plain (source : Source) (fetched : Fetched) :
    PlainOr (fun _ => True) (checkFetched library identity source opts fetched) := by
  have size : PlainOr (fun _ => True) (enforceSize fetched.archive (archiveLimit opts)) :=
    plainOr_if trivial
  have unpacked (compression : Compression) : PlainOr (fun _ => True)
      (decompress library fetched.archive compression (productLimit opts)) := by
    unfold decompress
    split <;> trivial
  have parsed {α : Type} (read : Except Binary α) : PlainOr (fun _ => True) (validated read) := by
    cases read <;> trivial
  have version (requested : Option Binary) (resolved : Binary) :
      PlainOr (fun _ => True) (validateRequestedFormatVersion requested resolved) :=
    plainOr_if trivial
  have sp3 (content : Binary) : PlainOr (fun _ => True) (sp3Version content) := by
    unfold sp3Version
    split
    · split <;> trivial
    · trivial
  have product (content : Binary) :
      PlainOr (fun _ => True) (validateProduct library identity content) := by
    unfold validateProduct
    split
    · exact plainOr_bind (parsed _) fun _ => plainOr_bind (sp3 _) fun _ =>
        plainOr_bind (version _ _) fun _ => trivial
    · split
      · exact plainOr_bind (parsed _) fun _ => plainOr_bind (version _ _) fun _ => trivial
      · trivial
  unfold checkFetched
  refine plainOr_bind size fun _ => plainOr_bind (unpacked _) fun content => ?_
  exact plainOr_bind (verifyChecksum_plain content _) fun _ => plainOr_bind (product content) fun _ => trivial

/-- The limits of options are refused without naming a URL. -/
theorem validateLimits_plain :
    PlainOr (fun _ => True) (validateSizeLimits opts) ∧
      PlainOr (fun _ => True) (validateCacheLockTimeout opts) := by
  have limit (value : Option Int) (option : Binary) :
      PlainOr (fun _ => True) (validatePositiveByteLimit value option) := plainOr_if trivial
  exact ⟨plainOr_bind (limit _ _) fun _ => limit _ _, plainOr_if trivial⟩

theorem validateRequestIdentity_plain :
    PlainOr (fun _ => True) (validateRequestIdentity library identity) := by
  unfold validateRequestIdentity
  split
  · exact validateCoreIdentity_plain
  · trivial

/-- A request is refused without naming a URL of it. -/
theorem checkRequest_plain (request : Request) :
    PlainOr (fun _ => True) (checkRequest library request opts) := by
  have source (input : SourceInput) : PlainOr (fun _ => True) (normalizeSource input) := by
    cases input with
    | source source => exact plainOr_if trivial
    | direct => trivial
    | nasaCddis => trivial
    | other inspected => trivial
  have sources (inputs : List SourceInput) :
      PlainOr (fun _ => True) (normalizeSources inputs) := by
    unfold normalizeSources
    induction inputs with
    | nil => trivial
    | cons input inputs ih =>
      rw [List.mapM_cons]
      exact plainOr_bind (source input) fun _ => plainOr_bind ih fun _ => trivial
  unfold checkRequest
  refine plainOr_bind validateRequestIdentity_plain fun _ =>
    plainOr_bind validateLimits_plain.1 fun _ => plainOr_bind validateLimits_plain.2 fun _ =>
      plainOr_bind (sources _) fun sources => ?_
  split <;> trivial

/-- A product of the catalog is refused without naming a URL of it. -/
theorem checkCatalogProduct_plain {Sp3 Merged Report InputIdentity : Type}
    (core : Core Sp3 Merged Report InputIdentity) (product : Product) :
    PlainOr (fun _ => True) (checkCatalogProduct core library product opts) := by
  have identified : PlainOr (fun _ => True) (catalogProductIdentity core product) := by
    unfold catalogProductIdentity
    split <;> trivial
  have located (identity : ProductIdentity) :
      PlainOr (fun _ => True) (catalogDirectLocation core library product identity) := by
    unfold catalogDirectLocation
    dsimp only
    split
    · exact directLocation_plain none
    · repeat' split
      all_goals trivial
  unfold checkCatalogProduct
  exact plainOr_bind identified fun identity => plainOr_bind validateRequestIdentity_plain fun _ =>
    plainOr_bind (located identity) fun _ => plainOr_bind validateLimits_plain.1 fun _ =>
      plainOr_bind validateLimits_plain.2 fun _ => trivial

/-- The attempt that is recorded of a plain reason is plain. -/
theorem sourceFailure_plain {reason : Reason} (plain : reason.Plain) (source : SourceType) :
    (sourceFailure library.inspect source reason).Plain := by
  unfold SourceFailure.Plain sourceFailure failureFields
  cases reason with
  | response type status url =>
    dsimp only
    split <;> exact plain
  | malformedUrl url => exact plain
  | transport kind url => exact plain
  | httpClientFailure kind url => exact plain
  | invalidContentType type url => exact plain
  | errorDocument url => exact plain
  | contentLengthMismatch expected got url => exact plain
  | _ => trivial

end Fetched

section Committed

variable {library : Library} {identity : ProductIdentity} {opts : Options}

/-- The committed provenance has the URLs of what was fetched and of the attempts before. -/
theorem provenance_plain {resolved : ProductIdentity} {source : SourceType} {fetched : Fetched}
    {compression : Compression} {content retrievedAt : Binary} {attempts : List SourceFailure}
    (plain : fetched.Plain) (recorded : ∀ attempt ∈ attempts, attempt.Plain) :
    (provenance library identity resolved source fetched compression content attempts
      retrievedAt).Plain where
  originalUrl := plain.1
  finalUrl := plain.2
  attempts attempt member := recorded attempt (List.mem_reverse.mp member)

/-- What is committed is read as it was. -/
theorem readsPlain_encoded (jason : Jason library) {provenance : Provenance} {json : Binary}
    (encoded : library.encode (provenanceToMap provenance) = some json) (plain : provenance.Plain)
    (simple : (provenanceToMap provenance).simple = true) : ReadsPlain library json := by
  refine ⟨provenance, ?_, plain, simple⟩
  rw [jason.decodes _ json simple encoded, Option.bind_some, provenanceFromMap_provenanceToMap]

end Committed

section Contract

variable {library : Library} {identity : ProductIdentity} {opts : Options} {past : Past}

/-- An acquisition commits plain provenance. -/
def CommitsPlain (library : Library) (_ : Past) : Call → Prop
  | .publish _ _ _ json => ReadsPlain library json
  | _ => True

/-- The provenance that the cache has answered is plain. -/
def AnswersPlain (library : Library) (past : Past) (request : Call) (answer : Answer request) :
    Prop :=
  ∀ json, Cached (⟨request, answer⟩ :: past) json → ReadsPlain library json

/-- A value as the condition says, or a crash. -/
def Ends {α : Type} (condition : α → Prop) : Except Raised α → Prop
  | .ok value => condition value
  | .error _ => True

/-- A value whose URLs are plain, a reason whose URLs are, or a crash. -/
abbrev EndsPlain {α : Type} (plain : α → Prop) : Except Raised (Except Reason α) → Prop :=
  Ends (PlainOr plain)

/-- A program that commits plain provenance and ends as the condition says, over a cache that answers
plain provenance. -/
abbrev KeepsPlain {α : Type} (library : Library) (post : Except Raised α → Prop) (past : Past)
    (program : Action α) : Prop :=
  program.Keeps (CommitsPlain library) (AnswersPlain library) (fun _ => post) past

/-- The attempts of an acquisition are recorded of plain reasons. -/
def Recorded (library : Library) (attempts : List SourceFailure) : Prop :=
  ∃ failed : List (SourceType × Reason), (∀ failure ∈ failed, failure.2.Plain) ∧
    attempts = failed.map fun failure => sourceFailure library.inspect failure.1 failure.2

theorem Recorded.plain {attempts : List SourceFailure} (recorded : Recorded library attempts) :
    ∀ attempt ∈ attempts, attempt.Plain := by
  obtain ⟨failed, plain, rfl⟩ := recorded
  intro attempt member
  obtain ⟨failure, listed, rfl⟩ := List.mem_map.mp member
  exact sourceFailure_plain (plain failure listed) failure.1

/-- A source that failed is recorded. -/
theorem Recorded.fail {attempts : List SourceFailure} {reason : Reason} (source : SourceType)
    (recorded : Recorded library attempts) (plain : reason.Plain) :
    Recorded library (sourceFailure library.inspect source reason :: attempts) := by
  obtain ⟨failed, plains, rfl⟩ := recorded
  refine ⟨(source, reason) :: failed, ?_, rfl⟩
  rw [List.forall_mem_cons]
  exact ⟨plain, plains⟩

/-- Outside the cache nothing is committed. -/
theorem fetch_keepsPlain {α : Type} {plain : α → Prop} {program : Action (Except Reason α)}
    (uses : program.Uses Outer) (returns : program.Returns (PlainOr plain)) :
    KeepsPlain library (EndsPlain plain) past program := by
  have outer : program.Keeps (CommitsPlain library) (AnswersPlain library) (fun _ _ => True)
      past := by
    refine uses.keeps ?_ (fun _ _ _ _ _ => trivial) trivial
    intro past request _ allowed
    cases request <;> trivial
  refine (outer.and_returns returns).mono fun after outcome ended => ?_
  cases outcome with
  | ok value => exact ended.2 value rfl
  | error raised => trivial

/-- A plain provenance is committed, or the reason names no URL. -/
theorem commitCache_plain (jason : Jason library) (slot : Slot) (content archive : Binary)
    {provenance : Provenance} (plain : provenance.Plain)
    (simple : (provenanceToMap provenance).simple = true) :
    KeepsPlain library (EndsPlain fun _ => True) past
      (commitCache library slot content archive provenance) := by
  unfold commitCache
  cases encoded : library.encode (provenanceToMap provenance) with
  | none => trivial
  | some json =>
    refine ⟨readsPlain_encoded jason encoded plain simple, fun answer _ => ?_⟩
    cases answer <;> trivial

/-- What is built of a plain fetch is committed and returned. -/
theorem acquireSource_plain (jason : Jason library) (source : Source) (slot : Slot)
    {attempts : List SourceFailure} (given : Option DirectLocation)
    (recorded : Recorded library attempts) :
    KeepsPlain library (EndsPlain fun result => result.provenance.Plain) past
      (acquireSource library identity source slot attempts opts given) := by
  unfold acquireSource
  refine Program.Keeps.bind (fetch_keepsPlain
    (readSource_fetches library identity opts source given).uses (readSource_plain source given))
    (fun past fetched plain => ?_) fun _ _ _ => trivial
  cases fetched with
  | error reason => exact plain
  | ok fetched =>
    dsimp only
    cases checked : checkFetched library identity source opts fetched with
    | error reason => exact plainOr_error (checkFetched_plain source fetched) checked
    | ok found =>
      refine ⟨trivial, fun retrievedAt _ => ?_⟩
      dsimp only [Program.bind]
      have built : (provenance library identity found.2.2 source.type fetched found.1 found.2.1
          attempts retrievedAt).Plain := provenance_plain plain recorded.plain
      obtain ⟨failed, _, rfl⟩ := recorded
      refine Program.Keeps.bind (commitCache_plain jason slot found.2.1 fetched.archive built
        simple_provenance) (fun past path committed => ?_) fun _ _ _ => trivial
      cases path with
      | error reason => exact committed
      | ok path => exact built

/-- What reading an entry gives has plain URLs. -/
def UsablePlain : Except Unusable Result → Prop
  | .ok result => result.provenance.Plain
  | .error unusable => ∀ reason ∈ unusable, reason.Plain

/-- What loading an entry gives has plain URLs. -/
def Loaded.Plain : Loaded → Prop
  | .hit result => result.provenance.Plain
  | .miss => True
  | .error reason => reason.Plain

/-- What checking an entry gives has plain URLs and simple terms. -/
def CheckedPlain : Except Unusable Provenance → Prop
  | .ok provenance => provenance.Plain ∧ (provenanceToMap provenance).simple = true
  | .error unusable => ∀ reason ∈ unusable, reason.Plain

/-- An entry that is checked has the provenance of its bytes, or the reason names no URL. -/
theorem checkEntry_plain {source : SourceType} {pin : Pin} {content archive json : Binary}
    (reads : ReadsPlain library json) :
    CheckedPlain (checkEntry library identity source pin content archive json) := by
  obtain ⟨provenance, read, plain, simple⟩ := reads
  have unusable : CheckedPlain (.error none) := nofun
  unfold checkEntry
  rw [read]
  dsimp only
  split
  · cases summed : verifyChecksum library content pin with
    | error reason =>
      rintro _ ⟨⟩
      exact plainOr_error (verifyChecksum_plain content pin) summed
    | ok _ =>
      dsimp only
      cases validateProduct library identity content with
      | error reason => exact unusable
      | ok resolved =>
        dsimp only
        split
        · exact ⟨plain, simple⟩
        · exact unusable
  · exact unusable

/-- Bytes of an entry are there, or are read later on. -/
theorem cacheContent_extends (bytes : Option Binary) (path : Binary) :
    (cacheContent bytes path).Keeps (CommitsPlain library) (AnswersPlain library)
      (fun after _ => past ⊆ after) past := by
  cases bytes with
  | some bytes => exact List.Subset.refl past
  | none => exact ⟨trivial, fun answer _ => List.subset_cons_self _ past⟩

/-- The provenance of an entry is plain when the cache answers plain provenance. -/
theorem readEntry_plain (jason : Jason library) (slot : Slot) {attempts : List SourceFailure}
    {files : CacheFiles} (legacy : Bool) (recorded : Recorded library attempts)
    (inline : ∀ json, files.provenanceBytes = some json → ReadsPlain library json)
    (later : ∀ after json, past ⊆ after →
      Cached (⟨.readFile files.provenance, some json⟩ :: after) json) :
    KeepsPlain library (Ends UsablePlain) past
      (readEntry library identity slot attempts opts files legacy) := by
  have unreadable : UsablePlain (.error none) := nofun
  unfold readEntry
  refine Program.Keeps.bind (cacheContent_extends _ _) (fun past₁ product more₁ => ?_)
    fun _ _ _ => trivial
  cases product with
  | none => exact unreadable
  | some product =>
    refine Program.Keeps.bind (cacheContent_extends _ _) (fun past₂ archive more₂ => ?_)
      fun _ _ _ => trivial
    cases archive with
    | none => exact unreadable
    | some archive =>
      have provenanceRead : (cacheContent files.provenanceBytes files.provenance).Keeps
          (CommitsPlain library) (AnswersPlain library)
          (fun _ outcome => ∀ json, outcome = .ok (some json) → ReadsPlain library json) past₂ := by
        cases given : files.provenanceBytes with
        | some bytes =>
          rintro _ ⟨⟩
          exact inline bytes given
        | none =>
          refine ⟨trivial, fun answer answered json same => ?_⟩
          cases same
          exact answered json (later past₂ json (List.Subset.trans more₁ more₂))
      refine Program.Keeps.bind provenanceRead (fun past₃ json plain => ?_) fun _ _ _ => trivial
      cases json with
      | none => exact unreadable
      | some json =>
        have entry : CheckedPlain
            (checkEntry library identity slot.source opts.sha256 product archive json) :=
          checkEntry_plain (plain json rfl)
        dsimp only
        cases checked : checkEntry library identity slot.source opts.sha256 product archive json with
        | error unusable =>
          rw [checked] at entry
          exact entry
        | ok provenance =>
          rw [checked] at entry
          have hit : Provenance.Plain
              { provenance with cacheHit := .bool true, attempts := attempts.reverse } :=
            ⟨entry.1.originalUrl, entry.1.finalUrl, fun attempt member =>
              recorded.plain attempt (List.mem_reverse.mp member)⟩
          have migrated : KeepsPlain library (EndsPlain fun _ => True) past₃
              (maybeMigrateCache library slot product archive provenance files legacy) := by
            unfold maybeMigrateCache
            split
            · exact commitCache_plain jason slot product archive entry.1 entry.2
            · trivial
          refine Program.Keeps.bind migrated (fun past₄ path committed => ?_) fun _ _ _ => trivial
          cases path with
          | error reason =>
            rintro _ ⟨⟩
            exact committed
          | ok path => exact hit

/-- The files of a slot are found with the provenance they have. -/
theorem cacheFiles_plain (slot : Slot) :
    (cacheFiles slot).Keeps (CommitsPlain library) (AnswersPlain library)
      (fun after outcome => ∀ files legacy, outcome = .ok (.files files legacy) →
        (∀ json, files.provenanceBytes = some json → ReadsPlain library json) ∧
          ∀ later json, after ⊆ later →
            Cached (⟨.readFile files.provenance, some json⟩ :: later) json) past := by
  unfold cacheFiles
  refine ⟨trivial, fun answer answered => ?_⟩
  cases answer with
  | files found =>
    rintro files legacy ⟨⟩
    constructor
    · exact fun json inline => answered json (.inline (List.mem_cons_self ..) inline)
    · intro later json earlier
      exact .file (List.mem_cons_of_mem _ (earlier (List.mem_cons_self ..)))
        (List.mem_cons_self ..)
  | error reason => exact nofun
  | miss =>
    refine ⟨trivial, fun found _ => ?_⟩
    cases found with
    | false => exact nofun
    | true =>
      rintro files legacy ⟨⟩
      constructor
      · exact nofun
      · intro later json earlier
        have missed : ⟨.readCache slot, .miss⟩ ∈ later :=
          earlier (List.mem_cons_of_mem _ (List.mem_cons_self ..))
        exact .legacy (List.mem_cons_of_mem _ missed) (List.mem_cons_self ..)

/-- What loading an entry gives is plain when the cache answers plain provenance. -/
theorem loadCache_plain (jason : Jason library) (slot : Slot) {attempts : List SourceFailure}
    (recorded : Recorded library attempts) :
    KeepsPlain library (Ends Loaded.Plain) past
      (loadCache library identity slot attempts opts) := by
  unfold loadCache
  refine Program.Keeps.bind (cacheFiles_plain slot) (fun after found plain => ?_)
    fun _ _ _ => trivial
  cases found with
  | miss => trivial
  | error => trivial
  | files files legacy =>
    obtain ⟨inline, later⟩ := plain files legacy rfl
    refine Program.Keeps.bind (readEntry_plain jason slot legacy recorded inline later)
      (fun after read plain => ?_) fun _ _ _ => trivial
    cases read with
    | ok result => exact plain
    | error unusable =>
      cases unusable with
      | none => trivial
      | some reason => exact plain reason rfl

/-- The result of an acquisition has plain provenance, or its reason is plain. -/
abbrev ResultPlain (outcome : Except Raised (Except Reason Result)) : Prop :=
  EndsPlain (fun result => result.provenance.Plain) outcome

theorem acquireAfterCacheMiss_plain (jason : Jason library) (source : Source) (slot : Slot)
    {attempts : List SourceFailure} {cacheError : Option Reason} (given : Option DirectLocation)
    (recorded : Recorded library attempts) (plain : ∀ reason ∈ cacheError, reason.Plain) :
    KeepsPlain library ResultPlain past
      (acquireAfterCacheMiss library identity source slot attempts opts cacheError given) := by
  have kept (reason : Reason) (other : reason.Plain) : (cacheError.getD reason).Plain := by
    cases cacheError with
    | none => exact other
    | some cached => exact plain cached rfl
  unfold acquireAfterCacheMiss
  split
  · exact kept .offlineCacheMiss trivial
  · refine Program.Keeps.bind (acquireSource_plain jason source slot given recorded)
      (fun after acquired plain => ?_) fun _ _ _ => trivial
    cases acquired with
    | ok result => exact plain
    | error reason => exact kept reason plain

theorem acquireLocked_plain (jason : Jason library) (source : Source) (slot : Slot)
    {attempts : List SourceFailure} (given : Option DirectLocation)
    (recorded : Recorded library attempts) :
    KeepsPlain library ResultPlain past
      (acquireLocked library identity source slot attempts opts given) := by
  unfold acquireLocked
  refine Program.Keeps.bind (loadCache_plain jason slot recorded) (fun after loaded plain => ?_)
    fun _ _ _ => trivial
  cases loaded with
  | hit result => exact plain
  | miss => exact acquireAfterCacheMiss_plain jason source slot given recorded nofun
  | error reason =>
    have failed : ∀ cached ∈ some reason, cached.Plain := by
      rintro _ ⟨⟩
      exact plain
    cases reason <;> first
      | exact acquireAfterCacheMiss_plain jason source slot given recorded failed
      | trivial

/-- A source is contacted, and whatever comes of it is plain. -/
theorem contact_plain (jason : Jason library) (source : Source) {attempts : List SourceFailure}
    (given : Option DirectLocation) (recorded : Recorded library attempts) :
    KeepsPlain library ResultPlain past
      (contact library identity opts given source attempts) := by
  unfold contact withLock
  refine ⟨trivial, fun answer _ => ?_⟩
  cases answer with
  | error reason => trivial
  | ok _ =>
    refine Program.Keeps.closing ?_ fun _ outcome plain => ⟨trivial, fun _ _ => plain⟩
    refine ⟨trivial, fun cleaned _ => ?_⟩
    cases cleaned with
    | error reason => trivial
    | ok _ => exact acquireLocked_plain jason source _ given recorded

/-- The sources are contacted one after the other, and what is kept of their failures is plain. -/
theorem doAcquire_plain (jason : Jason library) (given : Option DirectLocation)
    (sources : List Source) {progress : Progress} (recorded : Recorded library progress.attempts)
    (last : ∀ reason ∈ progress.lastError, reason.Plain)
    (first : ∀ reason ∈ progress.firstAvailabilityError, reason.Plain) :
    KeepsPlain library ResultPlain past
      (doAcquire library identity opts given sources progress) := by
  induction sources generalizing progress past with
  | nil =>
    unfold doAcquire finishAcquisition
    split
    · next reason found => exact first reason found
    · next found => exact last _ found
    · exact fun attempt member => recorded.plain attempt (List.mem_reverse.mp member)
  | cons source rest ih =>
    unfold doAcquire
    refine Program.Keeps.bind (contact_plain jason source given recorded)
      (fun after contacted plain => ?_) fun _ _ _ => trivial
    cases contacted with
    | ok result => exact plain
    | error reason =>
      dsimp only
      cases distributorFallbackKind reason with
      | none => exact plain
      | some kind =>
        refine ih (recorded.fail source.type plain) ?_ ?_
        · rintro _ ⟨⟩
          exact plain
        · intro other found
          simp only [Progress.fail] at found
          split at found
          · cases found
            exact plain
          · exact first other found

end Contract

section Runs

variable {library : Library}

theorem cached_cons {past : Past} {event : Event Call Answer} {json : Binary}
    (cached : Cached past json) : Cached (event :: past) json := by
  cases cached with
  | inline found read => exact .inline (List.mem_cons_of_mem _ found) read
  | file found read =>
    exact .file (List.mem_cons_of_mem _ found) (List.mem_cons_of_mem _ read)
  | legacy missed read =>
    exact .legacy (List.mem_cons_of_mem _ missed) (List.mem_cons_of_mem _ read)

/-- Where a program that keeps to plain URLs has come over a cache of plain provenance. -/
theorem plain_reaches {program rest : Action (Except Reason Result)} {past : Past}
    (keeps : KeepsPlain library ResultPlain [] program) (reached : program.Reaches past rest)
    (cached : ∀ json, Cached past json → ReadsPlain library json) :
    KeepsPlain library ResultPlain past rest :=
  keeps.expected (fun past => ∀ json, Cached past json → ReadsPlain library json) reached
    (fun _ _ good json cached => good json (cached_cons cached)) (fun _ _ _ good => good) cached

/-- An acquisition keeps to plain URLs from its start. -/
theorem doAcquire_keepsPlain (jason : Jason library) {identity : ProductIdentity} {opts : Options}
    (given : Option DirectLocation) (sources : List Source) :
    KeepsPlain library ResultPlain [] (doAcquire library identity opts given sources {}) :=
  doAcquire_plain jason given sources ⟨[], nofun, rfl⟩ nofun nofun

/-- The provenance that acquisitions commit is plain. -/
theorem written_plain (jason : Jason library) {json : Binary} (written : Written library json) :
    ReadsPlain library json := by
  induction written with
  | publish reached _ ih => exact (plain_reaches (doAcquire_keepsPlain jason _ _) reached ih).1

end Runs

end Sidereon.Distribution
