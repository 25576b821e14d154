import Sidereon.Foundation.Lockstep
import Sidereon.Distribution.PlainUrls

/-!
# Acquisitions that differ in secrets

Two acquisitions of a request with the same options, but for their bearer tokens or for what their
netrc files say, that are answered alike make the same calls but for the credentials in them, commit
the same provenance but for the time in it, and end alike. No URL that an acquisition reports has
user information, a query or a fragment.
-/

namespace Sidereon.Distribution

open Foundation

section Statements

/-- Credentials with another bearer token. -/
def EarthdataAuth.withToken (auth : EarthdataAuth) (token : Option Binary) : EarthdataAuth :=
  { auth with bearerToken := token }

/-- Options with another bearer token. -/
def Options.withToken (opts : Options) (token : Option Binary) : Options :=
  { opts with earthdataAuth := opts.earthdataAuth.withToken token }

/-- The netrc file, for a home directory. -/
def netrcFile (auth : EarthdataAuth) (home : Option Binary) : Option Binary :=
  auth.netrcPath.or (home.map fun home => home ++ ascii "/.netrc")

/-- A netrc file with an entry for the login host. -/
def ReadableNetrc (library : Library) (contents : Option Binary) : Prop :=
  (contents.bind (netrcCredentials library)).isSome = true

/-- An answer that two runs may have in common: the home directory stays what it is, the clock answers
UTF-8, and the netrc file is none of the files of the cache. -/
def Common (auth : EarthdataAuth) (home : Option Binary) : (request : Call) → Answer request → Prop
  | .userHome, answer => answer = home
  | .utcNow, time => isUtf8 time = true
  | .readCache _, .files files =>
    netrcFile auth home ∉ [some files.product, some files.archive, some files.provenance]
  | .fileExists path, found => found = true →
    netrcFile auth home ∉ [some path, some (path ++ ascii ".archive"),
      some (path ++ ascii ".provenance.json")]
  | _, _ => True

/-- Calls of two runs that are answered alike. Responses do not depend on the credentials of their
requests, and netrc files are readable but may differ. -/
inductive SameAnswer (library : Library) (auth : EarthdataAuth) (home : Option Binary) :
    Event Call Answer → Event Call Answer → Prop where
  | common {request : Call} {answer : Answer request} (common : Common auth home request answer) :
      SameAnswer library auth home ⟨request, answer⟩ ⟨request, answer⟩
  | netrc {path : Binary} {contents contents' : Option Binary}
      (file : netrcFile auth home = some path) (readable : ReadableNetrc library contents)
      (readable' : ReadableNetrc library contents') :
      SameAnswer library auth home ⟨.readFile path, contents⟩ ⟨.readFile path, contents'⟩
  | custom {url : Binary} {headers headers' : List Header} {answer : CustomAnswer} :
      SameAnswer library auth home ⟨.getCustom url headers, answer⟩ ⟨.getCustom url headers', answer⟩
  | req {url : Binary} {headers headers' : List Header} {limit : Int} {answer : ReqAnswer} :
      SameAnswer library auth home ⟨.getReq url headers limit, answer⟩
        ⟨.getReq url headers' limit, answer⟩
  | clock {time time' : Binary} (utf8 : isUtf8 time = true) (utf8' : isUtf8 time' = true) :
      SameAnswer library auth home ⟨.utcNow, time⟩ ⟨.utcNow, time'⟩
  | publish {slot : Slot} {content archive json json' : Binary}
      {answer answer' : Except Binary CacheFiles}
      (same : answer.map CacheFiles.product = answer'.map CacheFiles.product) :
      SameAnswer library auth home ⟨.publish slot content archive json, answer⟩
        ⟨.publish slot content archive json', answer'⟩

/-- Headers that differ in credentials only. -/
def SameHeaders (headers headers' : List Header) : Prop :=
  List.Forall₂ (fun header header' => header.1 = header'.1 ∧
    (header.1 ≠ authorization → header.2 = header'.2)) headers headers'

/-- A provenance with another time of retrieval. -/
def Provenance.withTime (provenance : Provenance) (time : Term) : Provenance :=
  { provenance with retrievedAt := time }

/-- Calls that differ in credentials, or in the time of retrieval of a provenance, only. -/
inductive Linked (library : Library) : Call → Call → Prop where
  | same (request : Call) : Linked library request request
  | custom {url : Binary} {headers headers' : List Header} (same : SameHeaders headers headers') :
      Linked library (.getCustom url headers) (.getCustom url headers')
  | req {url : Binary} {headers headers' : List Header} {limit : Int}
      (same : SameHeaders headers headers') :
      Linked library (.getReq url headers limit) (.getReq url headers' limit)
  | publish {slot : Slot} {content archive json json' : Binary} (provenance : Provenance)
      (time time' : Term)
      (encoded : library.encode (provenanceToMap (provenance.withTime time)) = some json)
      (encoded' : library.encode (provenanceToMap (provenance.withTime time')) = some json') :
      Linked library (.publish slot content archive json) (.publish slot content archive json')

/-- Results that differ in the time of retrieval only. -/
def SameResult (result result' : Result) : Prop :=
  ∃ (path : Binary) (provenance : Provenance) (time time' : Term),
    result = ⟨path, provenance.withTime time⟩ ∧ result' = ⟨path, provenance.withTime time'⟩

/-- Outcomes that are alike: related values, the same reason, or the same crash. -/
inductive Related {α β : Type} (related : α → β → Prop) :
    Except Raised (Except Reason α) → Except Raised (Except Reason β) → Prop where
  | value {value : α} {value' : β} (same : related value value') :
      Related related (.ok (.ok value)) (.ok (.ok value'))
  | refused (reason : Reason) : Related related (.ok (.error reason)) (.ok (.error reason))
  | crashed (raised : Raised) : Related related (.error raised) (.error raised)

/-- What is left of two runs that were answered alike: both have ended alike, or both go on with a
call. -/
inductive GoOn (library : Library) :
    Action (Except Reason Result) → Action (Except Reason Result) → Prop where
  | ended {ended ended' : Except Reason Result}
      (same : Related SameResult (.ok ended) (.ok ended')) :
      GoOn library (.done ended) (.done ended')
  | crashed (raised : Raised) : GoOn library (.crash raised) (.crash raised)
  | called {request request' : Call} {next : Answer request → Action (Except Reason Result)}
      {next' : Answer request' → Action (Except Reason Result)}
      (linked : Linked library request request') :
      GoOn library (.call request next) (.call request' next')

/-- What is acquired: the product of a request, or one of the catalog. -/
inductive Wanted where
  | request (request : Request)
  | product (product : Product)

/-- `acquire` and `acquire_catalog_product`. -/
def Wanted.acquire {Sp3 Merged Report InputIdentity : Type}
    (core : Core Sp3 Merged Report InputIdentity) (library : Library) (opts : Options) :
    Wanted → Action (Except Reason Result)
  | .request made => Distribution.acquire library made opts
  | .product listed => acquireCatalogProduct core library listed opts

/-- Where a run has come, no URL has user information, a query or a fragment: in the provenance that
it commits there, or in the result or the error that it ends with there. -/
def PlainThere (library : Library) : Action (Except Reason Result) → Prop
  | .done (.ok result) => result.provenance.Plain
  | .done (.error reason) => reason.Plain
  | .crash _ => True
  | .call (.publish _ _ _ json) _ => ReadsPlain library json
  | .call _ _ => True

end Statements

section Together

variable {library : Library} {auth : EarthdataAuth} {home : Option Binary} {past : Past}
  {α β : Type}

/-- Two programs that make linked calls while they are answered alike, and end as the condition
says. -/
abbrev Together (library : Library) (auth : EarthdataAuth) (home : Option Binary)
    (post : Except Raised α → Except Raised β → Prop) (past : Past) (program : Action α)
    (program' : Action β) : Prop :=
  program.InStep (Linked library) (fun _ => SameAnswer library auth home) (fun _ => post) past
    program'

/-- An outcome is alike to itself. -/
theorem related_refl {related : α → α → Prop} (refl : ∀ value, related value value)
    (outcome : Except Raised (Except Reason α)) : Related related outcome outcome := by
  match outcome with
  | .ok (.ok value) => exact .value (refl value)
  | .ok (.error reason) => exact .refused reason
  | .error raised => exact .crashed raised

/-- Programs in sequence: the rest from related values and from each reason. -/
theorem together_bind {related : α → α → Prop} {related' : β → β → Prop}
    {program program' : Action (Except Reason α)}
    {rest rest' : Except Reason α → Action (Except Reason β)}
    (first : Together library auth home (Related related) past program program')
    (values : ∀ past value value', related value value' →
      Together library auth home (Related related') past (rest (.ok value)) (rest' (.ok value')))
    (refused : ∀ past reason,
      Together library auth home (Related related') past (rest (.error reason))
        (rest' (.error reason))) :
    Together library auth home (Related related') past (program >>= rest) (program' >>= rest') := by
  refine first.bind (fun past value value' same => ?_) fun _ _ _ same => ?_
  · cases same with
    | value same => exact values past _ _ same
    | refused reason => exact refused past reason
  · cases same
    exact .crashed _

/-- Programs in sequence, the first of which is the same for both. -/
theorem together_after {post : Except Raised β → Except Raised β → Prop} {program : Action α}
    {rest rest' : α → Action β}
    (first : Together library auth home Eq past program program)
    (values : ∀ past value, Together library auth home post past (rest value) (rest' value))
    (crashed : ∀ raised, post (.error raised) (.error raised)) :
    Together library auth home post past (program >>= rest) (program >>= rest') := by
  refine first.bind (fun past value value' same => ?_) fun _ _ _ same => ?_
  · cases same
    exact values past value
  · cases same
    exact crashed _

/-- A call that is answered the same in both runs. -/
def Shared : Call → Prop
  | .openCache _ _ | .cleanupCache _ | .closeCache _ | .readLocal _ _ | .ftpFetch _ | .sleep _ =>
    True
  | _ => False

theorem sameAnswer_shared {request : Call} {answer answer' : Answer request}
    (shared : Shared request)
    (same : SameAnswer library auth home ⟨request, answer⟩ ⟨request, answer'⟩) :
    answer = answer' := by
  cases same with
  | common => rfl
  | netrc => exact shared.elim
  | custom => rfl
  | req => rfl
  | clock => exact shared.elim
  | publish => exact shared.elim

/-- A program whose calls are answered the same runs together with itself. -/
theorem shared_together {program : Action α} (uses : program.Uses Shared) :
    Together library auth home Eq past program program := by
  have inStep : Together library auth home (fun outcome outcome' => outcome = outcome' ∧ True) past
      program program :=
    uses.inStep (fun request _ => .same request)
      (fun _ _ _ _ shared _ same => sameAnswer_shared shared same) (fun _ _ _ _ _ => trivial) trivial
  exact inStep.mono fun _ _ _ same => same.1

end Together

section Downloads

variable {library : Library} {auth : EarthdataAuth} {home : Option Binary} {opts : Options}
  {source : SourceType} {past : Past} {token token' : Option Binary}

/-- The netrc file is found and read: both runs have a login, or both fail. -/
theorem readNetrc_together {configured : EarthdataAuth} :
    Together library auth home (Related fun _ _ => True) past (readNetrc library configured)
      (readNetrc library configured) := by
  have path : Together library auth home Eq past (netrcPath configured) (netrcPath configured) := by
    unfold netrcPath
    cases configured.netrcPath with
    | some path => rfl
    | none =>
      refine ⟨.same _, fun answer answer' same => ?_⟩
      have equal : answer = answer' := by
        cases same
        rfl
      cases equal
      cases answer with
      | none => rfl
      | some home => rfl
  unfold readNetrc
  refine together_after path (fun past path => ?_) fun raised => .crashed raised
  refine ⟨.same _, fun contents contents' same => ?_⟩
  dsimp only [Program.bind]
  cases same with
  | common =>
    split
    · exact .value trivial
    · exact .refused _
  | netrc _ readable readable' =>
    obtain ⟨credentials, read⟩ := Option.isSome_iff_exists.mp readable
    obtain ⟨credentials', read'⟩ := Option.isSome_iff_exists.mp readable'
    rw [read, read']
    exact .value trivial

@[simp] theorem withToken_bearerToken : (auth.withToken token).bearerToken = token := rfl

theorem sameHeaders_refl (headers : List Header) : SameHeaders headers headers :=
  List.forall₂_same.mpr fun _ _ => ⟨rfl, fun _ => rfl⟩

/-- A header with credentials is like one with others. -/
theorem sameHeaders_credentials (value value' : Binary) :
    SameHeaders [(authorization, value)] [(authorization, value')] :=
  .cons ⟨rfl, fun other => absurd rfl other⟩ .nil

/-- Credentials are sent to the same hosts, or both runs fail. -/
theorem authHeaders_together (url : Binary) (same : token.isSome = token'.isSome) :
    Together library auth home (Related SameHeaders) past
      (authHeaders library url source (auth.withToken token))
      (authHeaders library url source (auth.withToken token')) := by
  have none : Related SameHeaders (.ok (.ok [])) (.ok (.ok [])) := .value (sameHeaders_refl [])
  unfold authHeaders
  cases source with
  | nasaCddis =>
    dsimp only
    split
    · exact none
    · rw [withToken_bearerToken, withToken_bearerToken]
      cases token with
      | some token =>
        obtain ⟨token', rfl⟩ := Option.isSome_iff_exists.mp same.symm
        exact .value (sameHeaders_credentials _ _)
      | none =>
        obtain rfl := Option.not_isSome_iff_eq_none.mp (by simp [← same] : ¬token'.isSome = true)
        dsimp only
        split
        · refine together_bind readNetrc_together (fun _ _ _ _ => ?_) fun _ reason => .refused reason
          exact .value (sameHeaders_credentials _ _)
        · exact none
  | direct => exact none
  | localFile => exact none
  | inMemory => exact none

theorem related_eq {α : Type} (outcome : Except Raised (Except Reason α)) :
    Related Eq outcome outcome :=
  related_refl (fun _ => rfl) outcome

theorem archiveLimit_withToken : archiveLimit (opts.withToken token) = archiveLimit opts := rfl

theorem httpClient_withToken : (opts.withToken token).httpClient = opts.httpClient := rfl

/-- Requests are sent together and answered the same. -/
theorem requestHttp_together (url : Binary) {headers headers' : List Header}
    (same : SameHeaders headers headers') :
    Together library auth home (Related Eq) past (requestHttp url headers (opts.withToken token))
      (requestHttp url headers' (opts.withToken token')) := by
  unfold requestHttp
  rw [httpClient_withToken, httpClient_withToken]
  cases opts.httpClient with
  | invalid => exact related_eq _
  | custom =>
    refine ⟨.custom same, fun answer answer' agrees => ?_⟩
    have equal : answer = answer' := by
      cases agrees <;> rfl
    cases equal
    cases answer with
    | response status headers body => cases body <;> exact related_eq _
    | failed transportError reason =>
      dsimp only [Program.bind]
      cases customRetryableTransportKind transportError reason <;> exact related_eq _
    | invalid => exact related_eq _
    | raised => exact related_eq _
    | thrown => exact related_eq _
    | exited => exact related_eq _
  | req =>
    refine ⟨.req same, fun answer answer' agrees => ?_⟩
    have equal : answer = answer' := by
      cases agrees <;> rfl
    cases equal
    cases answer with
    | response status headers body overflow =>
      dsimp only [Program.bind]
      rw [archiveLimit_withToken, archiveLimit_withToken]
      cases enforceStreamedSize status overflow (archiveLimit opts) <;> exact related_eq _
    | failed reason => exact related_eq _
    | raised => exact related_eq _

/-- A response is followed together, or concluded in the same way. -/
theorem handleResponse_together {response : Response} {current original : Binary}
    {configured configured' : EarthdataAuth}
    {follow follow' : Option (Binary → Action (Except Reason Fetched))}
    (same : authConfigured configured = authConfigured configured')
    (follows : Option.Rel (fun next next' => ∀ past target,
      Together library auth home (Related Eq) past (next target) (next' target)) follow follow') :
    Together library auth home (Related Eq) past
      (handleResponse library response current original source configured (opts.withToken token)
        follow)
      (handleResponse library response current original source configured' (opts.withToken token')
        follow') := by
  change Together library auth home (Related Eq) past
    (handleResponse library response current original source configured opts follow)
    (handleResponse library response current original source configured' opts follow')
  unfold handleResponse
  rw [same]
  dsimp only
  by_cases redirect : 300 ≤ response.status ∧ response.status ≤ 399
  · rw [if_pos redirect, if_pos redirect]
    cases follows with
    | none => exact related_eq _
    | some follows =>
      cases headerValue library response.headers (ascii "location") with
      | none => exact related_eq _
      | some location =>
        refine together_after (shared_together (redirectTarget_uses _ _ _ _)) (fun past target => ?_)
          fun raised => .crashed raised
        cases target with
        | ok target => exact follows past target
        | error reason => exact related_eq _
  · rw [if_neg redirect, if_neg redirect]
    repeat' split
    all_goals exact related_eq _

/-- A hop is taken together when what follows it is. -/
theorem hop_together {original : Binary} {redirectsLeft : Nat} (current : Binary) (cookies : Jar)
    (same : token.isSome = token'.isSome)
    (follows : ∀ cookies, Option.Rel (fun next next' => ∀ past target,
      Together library auth home (Related Eq) past (next target) (next' target))
      (followed library original source (auth.withToken token) (opts.withToken token) cookies
        redirectsLeft)
      (followed library original source (auth.withToken token') (opts.withToken token') cookies
        redirectsLeft)) :
    Together library auth home (Related Eq) past
      (doDownloadOnce library original source (auth.withToken token) (opts.withToken token)
        redirectsLeft current cookies)
      (doDownloadOnce library original source (auth.withToken token') (opts.withToken token')
        redirectsLeft current cookies) := by
  have configured : authConfigured (auth.withToken token) =
      authConfigured (auth.withToken token') := by
    rw [authConfigured, authConfigured, withToken_bearerToken, withToken_bearerToken, same]
    rfl
  rw [doDownloadOnce_eq, doDownloadOnce_eq]
  cases validateUrl library current source with
  | error reason => exact related_eq _
  | ok _ =>
    refine together_bind (authHeaders_together current same)
      (fun past headers headers' alike => ?_) fun _ reason => .refused reason
    have sent : SameHeaders (headers ++ cookieHeaders library cookies current)
        (headers' ++ cookieHeaders library cookies current) :=
      List.rel_append alike (sameHeaders_refl _)
    refine together_bind (requestHttp_together current sent)
      (fun past response response' equal => ?_) fun _ reason => .refused reason
    cases equal
    exact handleResponse_together configured (follows _)

/-- A download is made together, however many redirects are left. -/
theorem doDownloadOnce_together (original : Binary) (redirectsLeft : Nat) (current : Binary)
    (cookies : Jar) (same : token.isSome = token'.isSome) :
    Together library auth home (Related Eq) past
      (doDownloadOnce library original source (auth.withToken token) (opts.withToken token)
        redirectsLeft current cookies)
      (doDownloadOnce library original source (auth.withToken token') (opts.withToken token')
        redirectsLeft current cookies) := by
  induction redirectsLeft generalizing current cookies past with
  | zero => exact hop_together current cookies same fun _ => .none
  | succ redirectsLeft ih =>
    exact hop_together current cookies same fun cookies => .some fun _ target => ih target cookies

/-- A fetch over FTP is the same in both runs. -/
theorem downloadFtp_together (current : Binary) :
    Together library auth home Eq past (downloadFtp library current source (opts.withToken token))
      (downloadFtp library current source (opts.withToken token')) := by
  change Together library auth home Eq past (downloadFtp library current source opts)
    (downloadFtp library current source opts)
  apply shared_together
  unfold downloadFtp
  cases validateUrl library current source with
  | error reason => trivial
  | ok _ =>
    refine (Program.uses_perform.mpr trivial).bind fun answer => ?_
    cases answer with
    | fetched archive =>
      dsimp only
      cases enforceSize archive (archiveLimit opts) <;> trivial
    | notFound => trivial
    | sizeExceeded limit => trivial
    | ehost => trivial
    | etimedout => trivial
    | network => trivial
    | other => trivial

/-- What is the same in both runs is alike. -/
theorem together_alike {α : Type} {program program' : Action (Except Reason α)}
    (together : Together library auth home Eq past program program') :
    Together library auth home (Related Eq) past program program' := by
  refine together.mono fun _ outcome outcome' same => ?_
  rw [same]
  exact related_eq outcome'

/-- A download is retried together. -/
theorem doDownload_together (url : Binary) (retriesLeft attempt : Nat)
    (same : token.isSome = token'.isSome) :
    Together library auth home (Related Eq) past
      (doDownload library url source (auth.withToken token) (opts.withToken token)
        retriesLeft attempt)
      (doDownload library url source (auth.withToken token') (opts.withToken token')
        retriesLeft attempt) := by
  have once (past : Past) : Together library auth home (Related Eq) past
      (downloadOnce library url source (auth.withToken token) (opts.withToken token))
      (downloadOnce library url source (auth.withToken token') (opts.withToken token')) := by
    unfold downloadOnce
    split
    · exact together_alike (downloadFtp_together url)
    · exact doDownloadOnce_together url maxRedirects url [] same
  induction retriesLeft generalizing attempt past with
  | zero =>
    unfold doDownload
    refine together_bind (once past) (fun past fetched fetched' equal => ?_)
      fun _ reason => .refused reason
    cases equal
    exact related_eq _
  | succ retriesLeft ih =>
    unfold doDownload
    refine together_bind (once past) (fun past fetched fetched' equal => ?_) fun past reason => ?_
    · cases equal
      exact related_eq _
    · dsimp only
      split
      · refine together_after (shared_together ?_) (fun past _ => ih (attempt + 1))
          fun raised => .crashed raised
        exact Program.uses_orCrash.bind fun _ => Program.uses_perform.mpr trivial
      · exact .refused reason

end Downloads

section Acquisitions

variable {library : Library} {auth : EarthdataAuth} {home : Option Binary} {opts : Options}
  {identity : ProductIdentity} {past : Past} {token token' : Option Binary}

/-- Failures of sources, as they are recorded. -/
abbrev sourceFailures (library : Library) (failed : List (SourceType × Reason)) :
    List SourceFailure :=
  failed.map fun failure => sourceFailure library.inspect failure.1 failure.2

/-- Two runs of one program with the options of two tokens. -/
abbrev SideBySide {α : Type} (library : Library) (opts : Options) (home : Option Binary)
    (related : α → α → Prop) (past : Past) (program program' : Action (Except Reason α)) : Prop :=
  Together library opts.earthdataAuth home (Related related) past program program'

/-- A source is read together. -/
theorem readSource_together (source : Source) (given : Option DirectLocation)
    (same : token.isSome = token'.isSome) :
    SideBySide library opts home Eq past
      (readSource library identity source (opts.withToken token) given)
      (readSource library identity source (opts.withToken token') given) := by
  have downloads (type : SourceType) (location : Except Reason DirectLocation) :
      SideBySide library opts home Eq past (downloadFrom library type (opts.withToken token) location)
        (downloadFrom library type (opts.withToken token') location) := by
    cases location with
    | error reason => exact related_eq _
    | ok location =>
      have fetched : SideBySide library opts home Eq past
          (download library location.url type (opts.withToken token).earthdataAuth
            (opts.withToken token))
          (download library location.url type (opts.withToken token').earthdataAuth
            (opts.withToken token')) :=
        doDownload_together location.url _ 1 same
      refine together_bind fetched (fun past fetched fetched' equal => ?_)
        fun _ reason => .refused reason
      cases equal
      exact related_eq _
  unfold readSource
  cases source.type with
  | direct => exact downloads _ _
  | nasaCddis => exact downloads _ _
  | localFile =>
    cases source.path with
    | none => exact related_eq _
    | some path =>
      refine ⟨.same _, fun answer answer' same => ?_⟩
      cases sameAnswer_shared (show Shared (.readLocal path (archiveLimit opts)) from trivial) same
      cases answer <;> exact related_eq _
  | inMemory => cases source.content <;> exact related_eq _

theorem related_same {α : Type} {outcome outcome' : Except Raised (Except Reason α)}
    (related : Related Eq outcome outcome') : outcome = outcome' := by
  cases related with
  | value same => rw [same]
  | refused reason => rfl
  | crashed raised => rfl

/-- A provenance is committed at each of two times, or cannot be encoded at either. -/
theorem commitCache_together (slot : Slot) (content archive : Binary) (provenance : Provenance)
    (time time' : Term)
    (encodes : (library.encode (provenanceToMap (provenance.withTime time))).isSome =
      (library.encode (provenanceToMap (provenance.withTime time'))).isSome) :
    SideBySide library opts home Eq past
      (commitCache library slot content archive (provenance.withTime time))
      (commitCache library slot content archive (provenance.withTime time')) := by
  unfold commitCache
  cases encoded : library.encode (provenanceToMap (provenance.withTime time)) with
  | none =>
    rw [encoded] at encodes
    rw [Option.isSome_eq_false_iff.mp encodes.symm |> Option.isNone_iff_eq_none.mp]
    exact .crashed .encode
  | some json =>
    rw [encoded] at encodes
    obtain ⟨json', encoded'⟩ := Option.isSome_iff_exists.mp encodes.symm
    rw [encoded']
    refine ⟨.publish provenance time time' encoded encoded', fun answer answer' agrees => ?_⟩
    have same : answer.map CacheFiles.product = answer'.map CacheFiles.product := by
      cases agrees with
      | common => rfl
      | publish same => exact same
    cases answer with
    | ok files =>
      cases answer' with
      | ok files' =>
        have path : files.product = files'.product := Except.ok.inj same
        exact .value path
      | error reason => cases same
    | error reason =>
      cases answer' with
      | ok files => cases same
      | error reason' =>
        cases same
        exact .refused _

/-- Whether a provenance is UTF-8 does not depend on its time when that is. -/
theorem utf8_withTime (provenance : Provenance) {time time' : Binary} (utf8 : isUtf8 time = true)
    (utf8' : isUtf8 time' = true) :
    (provenance.withTime (.text time)).utf8 = (provenance.withTime (.text time')).utf8 := by
  simp only [Provenance.utf8, Provenance.withTime, List.all_cons, Term.utf8, utf8, utf8']

/-- What is fetched together is committed and returned with the time of each run. -/
theorem acquireSource_together (jason : Jason library) (source : Source) (slot : Slot)
    {failed : List (SourceType × Reason)} (given : Option DirectLocation)
    (same : token.isSome = token'.isSome) :
    SideBySide library opts home SameResult past
      (acquireSource library identity source slot
        (sourceFailures library failed)
        (opts.withToken token) given)
      (acquireSource library identity source slot
        (sourceFailures library failed)
        (opts.withToken token') given) := by
  unfold acquireSource
  refine together_bind (readSource_together source given same)
    (fun past fetched fetched' equal => ?_) fun _ reason => .refused reason
  cases equal
  have checks (token : Option Binary) : checkFetched library identity source
      (opts.withToken token) fetched = checkFetched library identity source opts fetched := rfl
  dsimp only
  rw [checks, checks]
  cases checkFetched library identity source opts fetched with
  | error reason => exact .refused reason
  | ok found =>
    obtain ⟨compression, content, resolved⟩ := found
    refine ⟨.same _, fun time time' agrees => ?_⟩
    dsimp only [Program.bind]
    have times : isUtf8 time = true ∧ isUtf8 time' = true := by
      cases agrees with
      | common text => exact ⟨text, text⟩
      | clock utf8 utf8' => exact ⟨utf8, utf8'⟩
    let built (time : Binary) : Provenance := provenance library identity resolved source.type
      fetched compression content
      (sourceFailures library failed) time
    have encodes : (library.encode (provenanceToMap ((built time).withTime (.text time)))).isSome =
        (library.encode (provenanceToMap ((built time).withTime (.text time')))).isSome := by
      have simple (time : Binary) : (provenanceToMap (built time)).simple = true :=
        simple_provenance
      have first := jason.encodes _ (simple time)
      have second := jason.encodes _ (simple time')
      rw [utf8_provenanceToMap] at first second
      exact first.trans ((utf8_withTime (built time) times.1 times.2).trans second.symm)
    refine together_bind (commitCache_together slot content fetched.archive (built time) _ _ encodes)
      (fun past path path' equal => ?_) fun _ reason => .refused reason
    cases equal
    exact .value ⟨path, built time, .text time, .text time', rfl, rfl⟩

/-- A cached file is read together: it is not the netrc file. -/
theorem cacheContent_together (bytes : Option Binary) {path : Binary}
    (other : netrcFile auth home ≠ some path) :
    Together library auth home Eq past (cacheContent bytes path) (cacheContent bytes path) := by
  cases bytes with
  | some bytes => rfl
  | none =>
    refine ⟨.same _, fun answer answer' agrees => ?_⟩
    cases agrees with
    | common => rfl
    | netrc file => exact absurd file other

/-- The files of a slot are found together, and the netrc file is not among them. -/
theorem cacheFiles_together (slot : Slot) :
    Together library auth home
      (fun outcome outcome' => outcome = outcome' ∧ ∀ files legacy,
        outcome = .ok (.files files legacy) →
          netrcFile auth home ∉ [some files.product, some files.archive, some files.provenance])
      past (cacheFiles slot) (cacheFiles slot) := by
  unfold cacheFiles
  refine ⟨.same _, fun answer answer' agrees => ?_⟩
  cases agrees with
  | common other =>
    cases answer with
    | files found =>
      refine ⟨rfl, fun files legacy same => ?_⟩
      cases same
      exact other
    | error reason => exact ⟨rfl, nofun⟩
    | miss =>
      refine ⟨.same _, fun found found' agrees => ?_⟩
      cases agrees with
      | common other =>
        cases found with
        | false => exact ⟨rfl, nofun⟩
        | true =>
          refine ⟨rfl, fun files legacy same => ?_⟩
          cases same
          exact other rfl

/-- An entry is read, checked and migrated together. -/
theorem readEntry_together (slot : Slot) (attempts : List SourceFailure) {files : CacheFiles}
    (legacy : Bool) (other : netrcFile opts.earthdataAuth home ∉
      [some files.product, some files.archive, some files.provenance]) :
    Together library opts.earthdataAuth home Eq past
      (readEntry library identity slot attempts opts files legacy)
      (readEntry library identity slot attempts opts files legacy) := by
  simp only [List.mem_cons, List.not_mem_nil, or_false, not_or] at other
  obtain ⟨product, archive, provenance⟩ := other
  unfold readEntry
  refine together_after (cacheContent_together _ product) (fun past content => ?_) fun _ => rfl
  cases content with
  | none => rfl
  | some content =>
    refine together_after (cacheContent_together _ archive) (fun past archive => ?_) fun _ => rfl
    cases archive with
    | none => rfl
    | some archive =>
      refine together_after (cacheContent_together _ provenance) (fun past json => ?_) fun _ => rfl
      cases json with
      | none => rfl
      | some json =>
        dsimp only
        cases checkEntry library identity slot.source opts.sha256 content archive json with
        | error unusable => rfl
        | ok provenance =>
          have migrated : Together library opts.earthdataAuth home Eq past
              (maybeMigrateCache library slot content archive provenance files legacy)
              (maybeMigrateCache library slot content archive provenance files legacy) := by
            unfold maybeMigrateCache
            split
            · have committed : SideBySide library opts home Eq past
                  (commitCache library slot content archive provenance)
                  (commitCache library slot content archive provenance) :=
                commitCache_together slot content archive provenance provenance.retrievedAt
                  provenance.retrievedAt rfl
              exact committed.mono fun _ _ _ => related_same
            · rfl
          refine together_after migrated (fun past path => ?_) fun _ => rfl
          cases path <;> rfl

/-- An entry is loaded together. -/
theorem loadCache_together (slot : Slot) (attempts : List SourceFailure) :
    Together library opts.earthdataAuth home Eq past
      (loadCache library identity slot attempts opts)
      (loadCache library identity slot attempts opts) := by
  unfold loadCache
  refine (cacheFiles_together slot).bind (fun past found found' same => ?_) fun _ _ _ same => ?_
  · obtain ⟨equal, other⟩ := same
    cases equal
    cases found with
    | miss => rfl
    | error => rfl
    | files files legacy =>
      refine together_after (readEntry_together slot attempts legacy (other files legacy rfl))
        (fun past read => ?_) fun _ => rfl
      match read with
      | .ok result => rfl
      | .error (some reason) => rfl
      | .error none => rfl
  · cases same.1
    rfl

/-- A source is acquired from together, or both runs end with the error of the cache. -/
theorem acquireAfterCacheMiss_together (jason : Jason library) (source : Source) (slot : Slot)
    {failed : List (SourceType × Reason)} (cacheError : Option Reason)
    (given : Option DirectLocation) (same : token.isSome = token'.isSome) :
    SideBySide library opts home SameResult past
      (acquireAfterCacheMiss library identity source slot
        (sourceFailures library failed)
        (opts.withToken token) cacheError given)
      (acquireAfterCacheMiss library identity source slot
        (sourceFailures library failed)
        (opts.withToken token') cacheError given) := by
  unfold acquireAfterCacheMiss
  have offline (token : Option Binary) : (opts.withToken token).offline = opts.offline := rfl
  rw [offline, offline]
  by_cases refused : (source.type.isNetwork && opts.offline) = true
  · rw [if_pos refused, if_pos refused]
    exact .refused _
  · rw [if_neg refused, if_neg refused]
    exact together_bind (acquireSource_together jason source slot given same)
      (fun _ _ _ same => .value same) fun _ _ => .refused _

/-- What is done under the lock of a slot is done together. -/
theorem acquireLocked_together (jason : Jason library) (source : Source) (slot : Slot)
    {failed : List (SourceType × Reason)} (given : Option DirectLocation)
    (same : token.isSome = token'.isSome) :
    SideBySide library opts home SameResult past
      (acquireLocked library identity source slot
        (sourceFailures library failed)
        (opts.withToken token) given)
      (acquireLocked library identity source slot
        (sourceFailures library failed)
        (opts.withToken token') given) := by
  have missed (past : Past) (cacheError : Option Reason) : SideBySide library opts home SameResult
      past
      (acquireAfterCacheMiss library identity source slot (sourceFailures library failed)
        (opts.withToken token) cacheError given)
      (acquireAfterCacheMiss library identity source slot (sourceFailures library failed)
        (opts.withToken token') cacheError given) :=
    acquireAfterCacheMiss_together jason source slot cacheError given same
  unfold acquireLocked
  refine together_after (loadCache_together slot _) (fun past loaded => ?_) fun _ => .crashed _
  cases loaded with
  | hit result => exact .value ⟨result.path, result.provenance, _, _, rfl, rfl⟩
  | miss => exact missed past none
  | error reason =>
    cases reason <;> first
      | exact missed past (some _)
      | exact .refused _

/-- A source is contacted together. -/
theorem contact_together (jason : Jason library) (source : Source)
    {failed : List (SourceType × Reason)} (given : Option DirectLocation)
    (same : token.isSome = token'.isSome) :
    SideBySide library opts home SameResult past
      (contact library identity (opts.withToken token) given source
        (sourceFailures library failed))
      (contact library identity (opts.withToken token') given source
        (sourceFailures library failed)) := by
  unfold contact withLock
  refine ⟨.same _, fun answer answer' agrees => ?_⟩
  cases sameAnswer_shared (show Shared (.openCache _ _) from trivial) agrees
  cases answer with
  | error reason => exact .refused _
  | ok _ =>
    refine Program.InStep.afterwards ?_ (fun past => shared_together ?_) fun raised => .crashed raised
    · refine together_after (shared_together ?_)
        (fun past _ => acquireLocked_together jason source _ given same) fun raised => .crashed raised
      refine (Program.uses_perform.mpr trivial).bind fun cleaned => ?_
      cases cleaned <;> trivial
    · exact Program.uses_perform.mpr trivial

/-- The sources are contacted together, one after the other. -/
theorem doAcquire_together (jason : Jason library) (given : Option DirectLocation)
    (sources : List Source) {progress : Progress} {failed : List (SourceType × Reason)}
    (recorded : progress.attempts =
      sourceFailures library failed)
    (same : token.isSome = token'.isSome) :
    SideBySide library opts home SameResult past
      (doAcquire library identity (opts.withToken token) given sources progress)
      (doAcquire library identity (opts.withToken token') given sources progress) := by
  induction sources generalizing progress failed past with
  | nil => exact .refused _
  | cons source rest ih =>
    unfold doAcquire
    rw [recorded]
    refine together_bind (contact_together jason source given same) (fun _ _ _ same => .value same)
      fun past reason => ?_
    dsimp only
    cases distributorFallbackKind reason with
    | none => exact .refused reason
    | some kind =>
      have another : (progress.fail library source reason kind).attempts =
          sourceFailures library ((source.type, reason) :: failed) :=
        congrArg (sourceFailure library.inspect source.type reason :: ·) recorded
      exact ih another

/-- An acquisition is made together with one that has another token. -/
theorem acquire_together {Sp3 Merged Report InputIdentity : Type}
    (core : Core Sp3 Merged Report InputIdentity) (jason : Jason library) (wanted : Wanted)
    (same : token.isSome = token'.isSome) :
    SideBySide library opts home SameResult past
      (wanted.acquire core library (opts.withToken token))
      (wanted.acquire core library (opts.withToken token')) := by
  have nothing : Progress.attempts {} = sourceFailures library [] := rfl
  cases wanted with
  | request request =>
    have checks (token : Option Binary) :
        checkRequest library request (opts.withToken token) = checkRequest library request opts :=
      rfl
    dsimp only [Wanted.acquire]
    unfold acquire
    rw [checks, checks]
    cases checkRequest library request opts with
    | error reason => exact .refused reason
    | ok sources => exact doAcquire_together jason none sources nothing same
  | product product =>
    have checks (token : Option Binary) :
        checkCatalogProduct core library product (opts.withToken token) =
          checkCatalogProduct core library product opts :=
      rfl
    dsimp only [Wanted.acquire]
    unfold acquireCatalogProduct
    rw [checks, checks]
    cases checkCatalogProduct core library product opts with
    | error reason => exact .refused reason
    | ok checked => exact doAcquire_together jason (some checked.2) _ nothing same

/-- An acquisition keeps to plain URLs. -/
theorem acquire_keepsPlain {Sp3 Merged Report InputIdentity : Type}
    (core : Core Sp3 Merged Report InputIdentity) (jason : Jason library) (wanted : Wanted) :
    KeepsPlain library ResultPlain [] (wanted.acquire core library opts) := by
  cases wanted with
  | request request =>
    dsimp only [Wanted.acquire]
    unfold acquire
    cases checked : checkRequest library request opts with
    | error reason => exact plainOr_error (checkRequest_plain request) checked
    | ok sources => exact doAcquire_keepsPlain jason none sources
  | product product =>
    dsimp only [Wanted.acquire]
    unfold acquireCatalogProduct
    cases checked : checkCatalogProduct core library product opts with
    | error reason => exact plainOr_error (checkCatalogProduct_plain core product) checked
    | ok found => exact doAcquire_keepsPlain jason (some found.2) _

/-- What is left of a run that keeps to plain URLs is plain where the run has come. -/
theorem plainThere_keeps {rest : Action (Except Reason Result)}
    (keeps : KeepsPlain library ResultPlain past rest) : PlainThere library rest := by
  cases rest with
  | done ended => cases ended <;> exact keeps
  | crash raised => trivial
  | call request next => cases request <;> exact keeps.1

/-- What is left of two runs together goes on together, or has ended alike. -/
theorem goOn_together {rest rest' : Action (Except Reason Result)}
    (together : SideBySide library opts home SameResult past rest rest') :
    GoOn library rest rest' := by
  cases rest with
  | done ended =>
    cases rest' with
    | done ended' => exact .ended together
    | crash raised => exact together.elim
    | call request next => exact together.elim
  | crash raised =>
    cases rest' with
    | done ended => exact together.elim
    | crash raised' =>
      cases together
      exact .crashed raised
    | call request next => exact together.elim
  | call request next =>
    cases rest' with
    | done ended => exact together.elim
    | crash raised => exact together.elim
    | call request' next' => exact .called together.1

/-- Two acquisitions of a request or of a product that differ in their bearer tokens or in what their
netrc files say, and are answered alike, make linked calls and end alike. No URL that an acquisition
commits in a provenance or ends with has user information, a query or a fragment, over a cache that
acquisitions have written. -/
theorem secrets_do_not_interfere {Sp3 Merged Report InputIdentity : Type}
    (core : Core Sp3 Merged Report InputIdentity) (jason : Jason library) (wanted : Wanted)
    (opts : Options) :
    (∀ (home : Option Binary) (token token' : Option Binary) (history history' : Past)
        (rest rest' : Action (Except Reason Result)),
      token.isSome = token'.isSome →
      Agreeing (fun _ => SameAnswer library opts.earthdataAuth home) history history' →
      (wanted.acquire core library (opts.withToken token)).Reaches history rest →
      (wanted.acquire core library (opts.withToken token')).Reaches history' rest' →
        List.Forall₂ (fun event event' => Linked library event.request event'.request) history
          history' ∧ GoOn library rest rest') ∧
    ∀ (history : Past) (rest : Action (Except Reason Result)),
      (wanted.acquire core library opts).Reaches history rest →
      (∀ json, Cached history json → Written library json) → PlainThere library rest := by
  constructor
  · intro home token token' history history' rest rest' same agreeing reached reached'
    have together := (acquire_together core jason wanted same).reaches agreeing reached reached'
    exact ⟨together.1, goOn_together together.2⟩
  · intro history rest reached written
    exact plainThere_keeps (plain_reaches (acquire_keepsPlain core jason wanted) reached
      fun json cached => written_plain jason (written json cached))

/-- A request for the plain product from the Earthdata source. -/
def plainRequest : Request := { identity := plainIdentity, sources := [.nasaCddis] }

/-- The URL of the plain product. -/
def plainUrl : Binary := ascii "https://cddis.nasa.gov/product"

/-- The slot of the plain product. -/
def plainSlot : Slot := slotOf jsonLibrary plainIdentity plainOptions .nasaCddis

/-- The request for the plain product, with a token. -/
def plainGet (token : Binary) : Call :=
  .getReq plainUrl [(authorization, ascii "Bearer " ++ token)] (archiveLimit plainOptions)

/-- A server that has no such product. -/
def unlisted (token : Binary) : Event Call Answer :=
  let answer : Answer (plainGet token) := .response 404 [] [] false
  ⟨plainGet token, answer⟩

/-- The plain product is not published. -/
def refusal : Reason := .response .productNotPublished 404 plainUrl

/-- The calls of an acquisition of the plain product, latest first. -/
def refusedHistory (token : Binary) : Past :=
  [⟨.closeCache plainSlot, ()⟩, unlisted token, ⟨.fileExists plainSlot.path, false⟩,
    ⟨.readCache plainSlot, .miss⟩, ⟨.cleanupCache plainSlot, .ok ()⟩,
    ⟨.openCache plainSlot plainOptions.cacheLockTimeoutMs, .ok ()⟩]

theorem download_refused {opts : Options} {token : Binary}
    (given : opts = plainOptions.withToken (some token)) :
    (download jsonLibrary plainUrl .nasaCddis opts.earthdataAuth opts).Reaches [unlisted token]
      (.done (.error refusal)) := by
  subst given
  rw [download]
  unfold doDownload
  rw [downloadOnce, if_neg (by decide +kernel), doDownloadOnce_eq]
  exact Program.Reaches.leaves .start rfl

/-- A token is sent to the server, and the acquisition ends with its refusal. -/
theorem refusedHistory_reached (token : Binary) :
    (acquire jsonLibrary plainRequest (plainOptions.withToken (some token))).Reaches
      (refusedHistory token) (.done (.error refusal)) := by
  let opts : Options := plainOptions.withToken (some token)
  let source : Source := { type := .nasaCddis, compression := some .gzip }
  have loaded : (loadCache jsonLibrary plainIdentity plainSlot [] opts).Reaches
      [⟨.fileExists plainSlot.path, false⟩, ⟨.readCache plainSlot, .miss⟩] (.done .miss) :=
    Program.Reaches.leaves (Program.Reaches.leaves .start rfl) rfl
  have read : (readSource jsonLibrary plainIdentity source opts none).Reaches [unlisted token]
      (.done (.error refusal)) := (download_refused rfl).bind
  have acquired : (acquireSource jsonLibrary plainIdentity source plainSlot [] opts none).Reaches
      [unlisted token] (.done (.error refusal)) := read.bind
  have locked : (acquireLocked jsonLibrary plainIdentity source plainSlot [] opts none).Reaches
      ([unlisted token] ++ [⟨.fileExists plainSlot.path, false⟩, ⟨.readCache plainSlot, .miss⟩])
      (.done (.error refusal)) := loaded.bind.trans acquired.bind
  let working : Action (Except Reason Result) := do
    cleanupAbandoned plainSlot
    acquireLocked jsonLibrary plainIdentity source plainSlot [] opts none
  have cleaned : (cleanupAbandoned plainSlot).Reaches [⟨.cleanupCache plainSlot, .ok ()⟩]
      (.done ()) := Program.Reaches.leaves .start rfl
  have worked : working.Reaches
      ([unlisted token, ⟨.fileExists plainSlot.path, false⟩, ⟨.readCache plainSlot, .miss⟩] ++
        [⟨.cleanupCache plainSlot, .ok ()⟩]) (.done (.error refusal)) := cleaned.bind.trans locked
  have closed : (working.afterwards (call (.closeCache plainSlot))).Reaches
      [⟨.closeCache plainSlot, ()⟩, unlisted token, ⟨.fileExists plainSlot.path, false⟩,
        ⟨.readCache plainSlot, .miss⟩, ⟨.cleanupCache plainSlot, .ok ()⟩]
      (.done (.error refusal)) := Program.Reaches.leaves worked.afterwards rfl
  have opened : (contact jsonLibrary plainIdentity opts none source []).Reaches
      [⟨.openCache plainSlot plainOptions.cacheLockTimeoutMs, .ok ()⟩]
      (working.afterwards (call (.closeCache plainSlot))) := Program.Reaches.leaves .start rfl
  exact (opened.trans closed).bind

/-- Nothing has been read of the cache. -/
theorem refusedHistory_uncached (token json : Binary) : ¬Cached (refusedHistory token) json := by
  have missed (slot : Slot) (files : CacheFiles) :
      ⟨.readCache slot, .files files⟩ ∉ refusedHistory token := by
    simp [refusedHistory, unlisted, plainGet]
  intro cached
  cases cached with
  | inline found => exact missed _ _ found
  | file found => exact missed _ _ found
  | legacy _ read => simp [refusedHistory, unlisted, plainGet] at read

/-- Two tokens that a server refuses alike lead to the same calls but for the tokens, and to the same
error, which has a plain URL. -/
theorem secrets_do_not_interfere_refused :
    (List.Forall₂ (fun event event' => Linked jsonLibrary event.request event'.request)
      (refusedHistory (ascii "one")) (refusedHistory (ascii "other")) ∧
      GoOn jsonLibrary (.done (.error refusal)) (.done (.error refusal))) ∧
    PlainThere jsonLibrary (.done (.error refusal)) := by
  have contract := secrets_do_not_interfere plainCore jason_jsonLibrary (.request plainRequest)
  have agreeing : Agreeing (fun _ => SameAnswer jsonLibrary plainOptions.earthdataAuth none)
      (refusedHistory (ascii "one")) (refusedHistory (ascii "other")) := by
    refine .answered (.answered (.answered ?_ (.common nofun)) .req) (.common trivial)
    exact .answered (.answered (.answered .start (.common trivial)) (.common trivial))
      (.common trivial)
  constructor
  · exact (contract plainOptions).1 none (some (ascii "one")) (some (ascii "other")) _ _ _ _ rfl
      agreeing (refusedHistory_reached _) (refusedHistory_reached _)
  · exact (contract (plainOptions.withToken (some (ascii "one")))).2 _ _
      (refusedHistory_reached _) fun json cached => (refusedHistory_uncached _ json cached).elim

end Acquisitions

end Sidereon.Distribution
