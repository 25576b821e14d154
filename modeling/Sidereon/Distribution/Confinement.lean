import Sidereon.Distribution.Merge
import Sidereon.Foundation.Interleaving

/-!
# Where credentials are sent

Whatever the servers answer, a request goes only to a URL that is valid for the source whose slot is
open, and carries credentials only to the Earthdata hosts. The invariant counts the requests of an
attempt against the redirects that are left and knows that every later one is a redirect to `https`.
-/

namespace Sidereon.Distribution

open Foundation

/-- The answered calls of an acquisition, latest first. -/
abbrev Past := History Call Answer

/-- The source whose slot is open. -/
def contacted : Past → Option SourceType
  | ⟨.openCache slot _, .ok _⟩ :: _ => some slot.source
  | ⟨.openCache _ _, .error _⟩ :: _ => none
  | ⟨.closeCache _, _⟩ :: _ => none
  | _ :: past => contacted past
  | [] => none

/-- The URLs that were requested in the running attempt, latest first. An attempt begins with an
open slot or after a wait. -/
def requested : Past → List Binary
  | ⟨.openCache _ _, _⟩ :: _ => []
  | ⟨.sleep _, _⟩ :: _ => []
  | ⟨.getCustom url _, _⟩ :: past => url :: requested past
  | ⟨.getReq url _ _, _⟩ :: past => url :: requested past
  | ⟨.ftpFetch url, _⟩ :: past => url :: requested past
  | _ :: past => requested past
  | [] => []

/-- What `https` is called. -/
def https : Binary := ascii "https"

/-- The credentials that a request to a host may carry. -/
inductive Carries (auth : EarthdataAuth) (host : Option Binary) (value : Binary) : Prop where
  | bearer (token : Binary) (configured : auth.bearerToken = some token)
      (sent : value = ascii "Bearer " ++ token)
      (earthdata : host = some cddisHost ∨ host = some ursHost)
  | basic (encoded : Binary) (configured : auth.bearerToken = none ∧ auth.useNetrc = true)
      (sent : value = ascii "Basic " ++ encoded) (login : host = some ursHost)

/-- A header that a request may have: the cookies, or credentials of the Earthdata source. -/
def Permitted (auth : EarthdataAuth) (source : SourceType) (url : Binary) (header : Header) : Prop :=
  header.1 = ascii "cookie" ∨
    header.1 = authorization ∧ source = .nasaCddis ∧ (Uri.parse url).scheme = some https ∧
      Carries auth (Uri.parse url).host header.2

/-- A request for a source, after those of the running attempt. -/
structure Confined (library : Library) (auth : EarthdataAuth) (source : SourceType)
    (earlier : List Binary) (url : Binary) (headers : List Header) : Prop where
  accepted : validateUrl library url source = .ok ()
  headers : ∀ header ∈ headers, Permitted auth source url header
  redirected : earlier ≠ [] → (Uri.parse url).scheme = some https
  bounded : earlier.length ≤ maxRedirects

/-- What an acquisition may call: a request is confined to the source whose slot is open, and a
fetch over FTP is the only one of its attempt. -/
def Confines (library : Library) (auth : EarthdataAuth) (past : Past) : Call → Prop
  | .getCustom url headers => ∃ source, contacted past = some source ∧
      Confined library auth source (requested past) url headers
  | .getReq url headers _ => ∃ source, contacted past = some source ∧
      Confined library auth source (requested past) url headers
  | .ftpFetch url => ∃ source, contacted past = some source ∧
      validateUrl library url source = .ok () ∧ requested past = []
  | _ => True

/-- A program that keeps its requests confined, whatever it is answered. -/
abbrev KeepsConfined {α : Type} (library : Library) (auth : EarthdataAuth)
    (post : Past → Except Raised α → Prop) (past : Past) (program : Action α) : Prop :=
  program.Keeps (Confines library auth) (fun _ _ _ => True) post past

section Quiet

/-- A call that neither opens or closes a slot, nor sends a request, nor waits. -/
def Quiet : Call → Prop
  | .openCache _ _ | .closeCache _ | .getCustom _ _ | .getReq _ _ _ | .ftpFetch _ | .sleep _ => False
  | _ => True

variable {library : Library} {auth : EarthdataAuth} {opts : Options} {α : Type} {past : Past}

/-- A quiet call leaves the open slot as it is. -/
theorem contacted_quiet {request : Call} (answer : Answer request) (quiet : Quiet request) :
    contacted (⟨request, answer⟩ :: past) = contacted past := by
  cases request <;> first | rfl | exact quiet.elim

/-- A quiet call is no request. -/
theorem requested_quiet {request : Call} (answer : Answer request) (quiet : Quiet request) :
    requested (⟨request, answer⟩ :: past) = requested past := by
  cases request <;> first | rfl | exact quiet.elim

/-- Where an attempt stands: the open slot, and what was requested in it. -/
def Standing (source : Option SourceType) (earlier : List Binary) (past : Past) : Prop :=
  contacted past = source ∧ requested past = earlier

/-- Quiet programs are confined and leave an attempt where it stands. -/
theorem quiet_keeps {program : Action α} (quiet : program.Uses Quiet) {source : Option SourceType}
    {earlier : List Binary} (standing : Standing source earlier past) :
    KeepsConfined library auth (fun past _ => Standing source earlier past) past program := by
  refine quiet.keeps ?_ ?_ standing
  · intro past request _ allowed
    cases request <;> trivial
  · intro past request answer allowed standing
    exact ⟨(contacted_quiet answer allowed).trans standing.1,
      (requested_quiet answer allowed).trans standing.2⟩

/-- Credentials are read quietly. -/
theorem authHeaders_quiet (url : Binary) (source : SourceType) :
    (authHeaders library url source auth).Uses Quiet := by
  have path : (netrcPath auth).Uses Quiet := by
    unfold netrcPath
    cases auth.netrcPath with
    | some path => trivial
    | none => exact (Program.uses_perform.mpr trivial).bind fun home =>
        Program.uses_orCrash.bind fun _ => trivial
  have netrc : (readNetrc library auth).Uses Quiet := by
    unfold readNetrc
    refine path.bind fun path => (Program.uses_perform.mpr trivial).bind fun contents => ?_
    cases contents.bind (netrcCredentials library) <;> trivial
  unfold authHeaders
  cases source with
  | nasaCddis =>
    dsimp only
    split
    · trivial
    · cases auth.bearerToken with
      | some token => trivial
      | none =>
        dsimp only
        split
        · refine netrc.bind fun read => ?_
          cases read <;> trivial
        · trivial
  | direct => trivial
  | localFile => trivial
  | inMemory => trivial

/-- Redirects are resolved without any call. -/
theorem redirectTarget_uses {allowed : Call → Prop} (current : Binary) (status : Int)
    (location : Binary) (source : SourceType) :
    (redirectTarget library current status location source).Uses allowed := by
  unfold redirectTarget
  refine Program.uses_orCrash.bind fun target => ?_
  dsimp only
  split
  · exact Program.uses_orCrash.bind fun _ => trivial
  · trivial

/-- Publication is quiet. -/
theorem commitCache_quiet (slot : Slot) (content archive : Binary) (provenance : Provenance) :
    (commitCache library slot content archive provenance).Uses Quiet := by
  unfold commitCache
  refine Program.uses_orCrash.bind fun json => (Program.uses_perform.mpr trivial).bind fun files => ?_
  cases files <;> trivial

/-- The cache is looked up quietly. -/
theorem loadCache_quiet (identity : ProductIdentity) (slot : Slot) (attempts : List SourceFailure) :
    (loadCache library identity slot attempts opts).Uses Quiet := by
  have found : (cacheFiles slot).Uses Quiet := by
    unfold cacheFiles
    refine (Program.uses_perform.mpr trivial).bind fun read => ?_
    cases read with
    | files files => trivial
    | error reason => trivial
    | miss =>
      refine (Program.uses_perform.mpr trivial).bind fun there => ?_
      cases there <;> trivial
  have content (bytes : Option Binary) (path : Binary) : (cacheContent bytes path).Uses Quiet := by
    cases bytes with
    | some bytes => trivial
    | none => exact Program.uses_perform.mpr trivial
  have entry (files : CacheFiles) (legacy : Bool) :
      (readEntry library identity slot attempts opts files legacy).Uses Quiet := by
    unfold readEntry
    refine (content _ _).bind fun product => ?_
    cases product with
    | none => trivial
    | some product =>
      refine (content _ _).bind fun archive => ?_
      cases archive with
      | none => trivial
      | some archive =>
        refine (content _ _).bind fun json => ?_
        cases json with
        | none => trivial
        | some json =>
          dsimp only
          cases checkEntry library identity slot.source opts.sha256 product archive json with
          | error unusable => trivial
          | ok provenance =>
            dsimp only
            refine Program.Uses.bind ?_ fun path => ?_
            · unfold maybeMigrateCache
              split
              · exact commitCache_quiet _ _ _ _
              · trivial
            · cases path <;> trivial
  unfold loadCache
  refine found.bind fun found => ?_
  cases found with
  | miss => trivial
  | error => trivial
  | files files legacy =>
    refine (entry files legacy).bind fun result => ?_
    cases result with
    | ok result => trivial
    | error unusable => cases unusable <;> trivial

end Quiet

section Requests

variable {library : Library} {auth : EarthdataAuth} {opts : Options} {source : SourceType}
  {past : Past}

/-- A valid URL of the Earthdata source is an `https` one. -/
theorem validateUrl_earthdata {url : Binary}
    (valid : validateUrl library url .nasaCddis = .ok ()) : (Uri.parse url).scheme = some https := by
  unfold validateUrl at valid
  dsimp only at valid
  split at valid
  · next accepted =>
    simp only [Bool.and_eq_true] at accepted
    exact eq_of_beq accepted.1.1.1
  · cases valid

/-- Every header with credentials is a permitted one. -/
theorem authHeaders_permitted {url : Binary} (valid : validateUrl library url source = .ok ()) :
    (authHeaders library url source auth).Returns fun outcome =>
      ∀ headers, outcome = .ok headers → ∀ header ∈ headers, Permitted auth source url header := by
  unfold authHeaders
  cases source with
  | nasaCddis =>
    have secure := validateUrl_earthdata valid
    dsimp only
    split
    · simp
    · next earthdata =>
      have host : (Uri.parse url).host = some cddisHost ∨ (Uri.parse url).host = some ursHost := by
        simpa [or_iff_not_imp_left] using earthdata
      cases configured : auth.bearerToken with
      | some token =>
        rintro _ ⟨⟩ header member
        rw [List.mem_singleton] at member
        rw [member]
        exact .inr ⟨rfl, rfl, secure, .bearer token configured rfl host⟩
      | none =>
        dsimp only
        split
        · next login =>
          refine (Program.returns_any _).bind fun read _ => ?_
          cases read with
          | error reason => simp
          | ok credentials =>
            rintro _ ⟨⟩ header member
            rw [List.mem_singleton] at member
            rw [member]
            exact .inr ⟨rfl, rfl, secure, .basic _ ⟨configured, login.1⟩ rfl login.2⟩
        · simp
  | direct => simp
  | localFile => simp
  | inMemory => simp

/-- The cookies are one header. -/
theorem cookieHeaders_permitted (cookies : Jar) (url : Binary) :
    ∀ header ∈ cookieHeaders library cookies url, Permitted auth source url header := by
  intro header member
  left
  unfold cookieHeaders at member
  dsimp only at member
  split at member
  · cases member
  · split at member
    · cases member
    · rw [List.mem_singleton] at member
      rw [member]

/-- A redirect that is allowed goes to an `https` URL. -/
theorem redirectTarget_https (current : Binary) (status : Int) (location : Binary) :
    (redirectTarget library current status location source).Returns fun outcome =>
      ∀ target, outcome = .ok target → (Uri.parse target).scheme = some https := by
  have spelled : https = [104, 116, 116, 112, 115] := by decide +kernel
  have scheme : Uri.IsScheme https ∧ https.map lower = https := by
    rw [spelled]
    exact ⟨⟨by decide, by decide +kernel⟩, by decide +kernel⟩
  unfold redirectTarget
  refine (Program.returns_any _).bind fun target _ => ?_
  dsimp only
  split
  · next allowed =>
    have secure : target.scheme = some https := eq_of_beq (Bool.and_eq_true_iff.mp allowed).1
    cases printed : target.toString? with
    | none => trivial
    | some text =>
      rintro _ ⟨⟩
      exact Uri.toString_scheme printed secure scheme.1 scheme.2
  · rintro _ ⟨⟩

/-- Where a hop of an attempt stands: it may be requested next. -/
structure Hop (source : SourceType) (redirectsLeft : Nat) (current : Binary) (past : Past) :
    Prop where
  contacted : contacted past = some source
  left : (requested past).length + redirectsLeft ≤ maxRedirects
  redirected : requested past ≠ [] → (Uri.parse current).scheme = some https

/-- A confined request is sent, and what it is answered is all that happens. -/
theorem requestHttp_confined {redirectsLeft : Nat} {current : Binary} {headers : List Header}
    (hop : Hop source redirectsLeft current past)
    (valid : validateUrl library current source = .ok ())
    (permitted : ∀ header ∈ headers, Permitted auth source current header) :
    KeepsConfined library auth
      (fun after outcome => contacted after = some source ∧
        ∀ response, outcome = .ok (.ok response) → requested after = current :: requested past)
      past (requestHttp current headers opts) := by
  have confined : Confined library auth source (requested past) current headers := by
    have within := hop.left
    exact ⟨valid, permitted, hop.redirected, by omega⟩
  unfold requestHttp
  cases opts.httpClient with
  | invalid =>
    refine ⟨hop.contacted, ?_⟩
    rintro _ ⟨⟩
  | custom =>
    refine ⟨⟨source, hop.contacted, confined⟩, fun answer _ => ?_⟩
    have asked : Standing (some source) (current :: requested past)
        (⟨.getCustom current headers, answer⟩ :: past) := ⟨hop.contacted, rfl⟩
    refine (quiet_keeps ?_ asked).mono fun after outcome standing => ?_
    · cases answer with
      | response status headers body => cases body <;> trivial
      | failed transportError reason =>
        dsimp only [Program.bind]
        cases customRetryableTransportKind transportError reason <;> trivial
      | invalid => trivial
      | raised => trivial
      | thrown => trivial
      | exited => trivial
    · exact ⟨standing.1, fun _ _ => standing.2⟩
  | req =>
    refine ⟨⟨source, hop.contacted, confined⟩, fun answer _ => ?_⟩
    have asked : Standing (some source) (current :: requested past)
        (⟨.getReq current headers (archiveLimit opts), answer⟩ :: past) := ⟨hop.contacted, rfl⟩
    refine (quiet_keeps ?_ asked).mono fun after outcome standing => ?_
    · cases answer with
      | response status headers body overflow =>
        dsimp only [Program.bind]
        cases enforceStreamedSize status overflow (archiveLimit opts) <;> trivial
      | failed reason => trivial
      | raised => trivial
    · exact ⟨standing.1, fun _ _ => standing.2⟩

/-- After an attempt its slot is still open. -/
def Open (source : SourceType) {α : Type} (past : Past) (_ : Except Raised α) : Prop :=
  contacted past = some source

/-- A response is followed by an `https` request or concluded. -/
theorem handleResponse_confined {response : Response} {current original : Binary}
    {follow : Option (Binary → Action (Except Reason Fetched))}
    (held : contacted past = some source)
    (follows : ∀ next ∈ follow, ∀ target after, (Uri.parse target).scheme = some https →
      Standing (some source) (requested past) after →
      KeepsConfined library auth (Open source) after (next target)) :
    KeepsConfined library auth (Open source) past
      (handleResponse library response current original source auth opts follow) := by
  cases handleResponse_cases library response current original source auth opts follow with
  | inr concluded =>
    rw [concluded]
    exact held
  | inl redirected =>
    obtain ⟨next, location, known, _, _, redirected⟩ := redirected
    rw [redirected]
    have resolved : KeepsConfined library auth (fun after outcome =>
        Standing (some source) (requested past) after ∧
          ∀ value, outcome = .ok value → ∀ target, value = .ok target →
            (Uri.parse target).scheme = some https)
        past (redirectTarget library current response.status location source) :=
      (quiet_keeps (redirectTarget_uses current response.status location source)
        ⟨held, rfl⟩).and_returns (redirectTarget_https current response.status location)
    refine resolved.bind (fun after outcome standing => ?_) fun after _ standing => standing.1.1
    cases outcome with
    | ok target => exact follows next known target after (standing.2 _ rfl target rfl) standing.1
    | error reason => exact standing.1.1

/-- A hop is confined when what follows it is. -/
theorem hop_confined {original current : Binary} {redirectsLeft : Nat} (cookies : Jar)
    (hop : Hop source redirectsLeft current past)
    (follows : ∀ cookies, ∀ next ∈ followed library original source auth opts cookies redirectsLeft,
      ∀ target after, (Uri.parse target).scheme = some https →
        Standing (some source) (current :: requested past) after →
        KeepsConfined library auth (Open source) after (next target)) :
    KeepsConfined library auth (Open source) past
      (doDownloadOnce library original source auth opts redirectsLeft current cookies) := by
  rw [doDownloadOnce_eq]
  cases valid : validateUrl library current source with
  | error reason => exact hop.contacted
  | ok _ =>
    have credentials : KeepsConfined library auth (fun after outcome =>
        Standing (some source) (requested past) after ∧
          ∀ value, outcome = .ok value → ∀ headers, value = .ok headers →
            ∀ header ∈ headers, Permitted auth source current header)
        past (authHeaders library current source auth) :=
      (quiet_keeps (authHeaders_quiet current source) ⟨hop.contacted, rfl⟩).and_returns
        (authHeaders_permitted valid)
    refine credentials.bind (fun before outcome standing => ?_) fun _ _ standing => standing.1.1
    cases outcome with
    | error reason => exact standing.1.1
    | ok headers =>
      have permitted : ∀ header ∈ headers ++ cookieHeaders library cookies current,
          Permitted auth source current header := by
        intro header member
        cases List.mem_append.mp member with
        | inl credential => exact standing.2 _ rfl headers rfl header credential
        | inr cookie => exact cookieHeaders_permitted cookies current header cookie
      have still : Hop source redirectsLeft current before := by
        refine ⟨standing.1.1, ?_, ?_⟩
        · rw [standing.1.2]
          exact hop.left
        · rw [standing.1.2]
          exact hop.redirected
      refine (requestHttp_confined still valid permitted).bind (fun after outcome asked => ?_)
        fun _ _ asked => asked.1
      cases outcome with
      | error reason => exact asked.1
      | ok response =>
        have sent := asked.2 response rfl
        rw [standing.1.2] at sent
        refine handleResponse_confined asked.1 fun next known target later secure standing => ?_
        rw [sent] at standing
        exact follows _ next known target later secure standing

/-- An attempt is confined, however many redirects are left. -/
theorem doDownloadOnce_confined {original current : Binary} {redirectsLeft : Nat} (cookies : Jar)
    (hop : Hop source redirectsLeft current past) :
    KeepsConfined library auth (Open source) past
      (doDownloadOnce library original source auth opts redirectsLeft current cookies) := by
  induction redirectsLeft generalizing current cookies past with
  | zero =>
    apply hop_confined cookies hop
    intro cookies next absent
    cases absent
  | succ redirectsLeft ih =>
    apply hop_confined cookies hop
    intro cookies next given target after secure standing
    cases given
    have within := hop.left
    refine ih cookies ⟨standing.1, ?_, fun _ => secure⟩
    rw [standing.2, List.length_cons]
    omega

/-- A fetch over FTP is confined. -/
theorem downloadFtp_confined {current : Binary} (standing : Standing (some source) [] past) :
    KeepsConfined library auth (Open source) past (downloadFtp library current source opts) := by
  unfold downloadFtp
  cases valid : validateUrl library current source with
  | error reason => exact standing.1
  | ok _ =>
    refine ⟨⟨source, standing.1, valid, standing.2⟩, fun answer _ => ?_⟩
    have fetched : Standing (some source) [current] (⟨.ftpFetch current, answer⟩ :: past) :=
      ⟨standing.1, congrArg _ standing.2⟩
    refine (quiet_keeps ?_ fetched).mono fun after outcome standing => standing.1
    cases answer with
    | fetched archive =>
      dsimp only [Program.bind]
      cases enforceSize archive (archiveLimit opts) <;> trivial
    | notFound => trivial
    | sizeExceeded limit => trivial
    | ehost => trivial
    | etimedout => trivial
    | network => trivial
    | other => trivial

/-- A download is confined, and so is every retry, which is an attempt of its own. -/
theorem doDownload_confined {url : Binary} (retriesLeft attempt : Nat)
    (standing : Standing (some source) [] past) :
    KeepsConfined library auth (Open source) past
      (doDownload library url source auth opts retriesLeft attempt) := by
  have once {past : Past} (standing : Standing (some source) [] past) :
      KeepsConfined library auth (Open source) past (downloadOnce library url source auth opts) := by
    unfold downloadOnce
    split
    · exact downloadFtp_confined standing
    · apply doDownloadOnce_confined
      refine ⟨standing.1, ?_, fun later => absurd standing.2 later⟩
      rw [standing.2, List.length_nil, Nat.zero_add]
  induction retriesLeft generalizing attempt past with
  | zero =>
    unfold doDownload
    refine (once standing).bind (fun after outcome held => ?_) fun _ _ held => held
    cases outcome <;> exact held
  | succ retriesLeft ih =>
    unfold doDownload
    refine (once standing).bind (fun after outcome held => ?_) fun _ _ held => held
    cases outcome with
    | ok fetched => exact held
    | error reason =>
      dsimp only
      split
      · unfold sleepBackoff
        cases opts.backoff attempt with
        | none => exact held
        | some milliseconds => exact ⟨trivial, fun _ _ => ih (attempt + 1) ⟨held, rfl⟩⟩
      · exact held

end Requests

section Acquisitions

variable {library : Library} {identity : ProductIdentity} {opts : Options} {past : Past}

/-- A program of an acquisition with its credentials. -/
abbrev Contacts {α : Type} (library : Library) (opts : Options)
    (post : Past → Except Raised α → Prop) (past : Past) (program : Action α) : Prop :=
  KeepsConfined library opts.earthdataAuth post past program

/-- A source is read while its slot is open. -/
theorem readSource_confined (source : Source) (given : Option DirectLocation)
    (standing : Standing (some source.type) [] past) :
    Contacts library opts (Open source.type) past (readSource library identity source opts given) := by
  have downloads (type : SourceType) (location : Except Reason DirectLocation)
      (standing : Standing (some type) [] past) :
      Contacts library opts (Open type) past (downloadFrom library type opts location) := by
    cases location with
    | error reason => exact standing.1
    | ok location =>
      refine (doDownload_confined _ _ standing).bind (fun after outcome held => ?_)
        fun _ _ held => held
      cases outcome <;> exact held
  unfold readSource
  cases type : source.type with
  | direct =>
    rw [type] at standing
    exact downloads .direct _ standing
  | nasaCddis =>
    rw [type] at standing
    exact downloads .nasaCddis _ standing
  | localFile =>
    cases source.path with
    | none => exact standing.1.trans (congrArg some type)
    | some path =>
      refine ⟨trivial, fun answer _ => ?_⟩
      cases answer <;> exact standing.1.trans (congrArg some type)
  | inMemory =>
    cases source.content <;> exact standing.1.trans (congrArg some type)

/-- What a source gave is checked and committed. -/
theorem acquireSource_confined (source : Source) (slot : Slot) (attempts : List SourceFailure)
    (given : Option DirectLocation) (standing : Standing (some source.type) [] past) :
    Contacts library opts (Open source.type) past
      (acquireSource library identity source slot attempts opts given) := by
  unfold acquireSource
  refine (readSource_confined source given standing).bind (fun after outcome held => ?_)
    fun _ _ held => held
  cases outcome with
  | error reason => exact held
  | ok fetched =>
    dsimp only
    cases checkFetched library identity source opts fetched with
    | error reason => exact held
    | ok checked =>
      refine Program.Keeps.mono (quiet_keeps ?_ ⟨held, rfl⟩) fun _ _ standing => standing.1
      refine (Program.uses_perform.mpr trivial).bind fun retrievedAt => ?_
      refine (commitCache_quiet _ _ _ _).bind fun path => ?_
      cases path <;> trivial

/-- The lookup and what follows a miss are confined. -/
theorem acquireLocked_confined (source : Source) (slot : Slot) (attempts : List SourceFailure)
    (given : Option DirectLocation) (standing : Standing (some source.type) [] past) :
    Contacts library opts (Open source.type) past
      (acquireLocked library identity source slot attempts opts given) := by
  have missed (cacheError : Option Reason) {past : Past}
      (standing : Standing (some source.type) [] past) :
      Contacts library opts (Open source.type) past
        (acquireAfterCacheMiss library identity source slot attempts opts cacheError given) := by
    unfold acquireAfterCacheMiss
    split
    · exact standing.1
    · refine (acquireSource_confined source slot attempts given standing).bind
        (fun after outcome held => ?_) fun _ _ held => held
      cases outcome <;> exact held
  unfold acquireLocked
  refine (quiet_keeps (loadCache_quiet identity slot attempts) standing).bind
    (fun after loaded standing => ?_) fun _ _ standing => standing.1
  cases loaded with
  | hit result => exact standing.1
  | miss => exact missed none standing
  | error reason =>
    cases reason <;> first | exact missed _ standing | exact standing.1

/-- A source is contacted with its slot open, wherever the last one was left. -/
theorem contact_confined (given : Option DirectLocation) (source : Source)
    (attempts : List SourceFailure) :
    Contacts library opts (fun _ _ => True) past
      (contact library identity opts given source attempts) := by
  unfold contact withLock
  refine ⟨trivial, fun answer _ => ?_⟩
  cases answer with
  | error reason => trivial
  | ok _ =>
    have standing : Standing (some source.type) []
        (⟨.openCache (slotOf library identity opts source.type) opts.cacheLockTimeoutMs, .ok ()⟩ ::
          past) := ⟨rfl, rfl⟩
    have cleaned : (cleanupAbandoned (slotOf library identity opts source.type)).Uses Quiet := by
      refine (Program.uses_perform.mpr trivial).bind fun cleaned => ?_
      cases cleaned <;> trivial
    refine Program.Keeps.afterwards ((quiet_keeps cleaned standing).bind
      (fun after _ standing => acquireLocked_confined source _ attempts given standing)
      fun _ _ standing => standing.1) fun after _ => ⟨trivial, fun _ _ => trivial⟩

/-- The sources are contacted one after the other. -/
theorem doAcquire_confined (given : Option DirectLocation) (sources : List Source)
    (progress : Progress) :
    Contacts library opts (fun _ _ => True) past
      (doAcquire library identity opts given sources progress) := by
  induction sources generalizing progress past with
  | nil => trivial
  | cons source rest ih =>
    unfold doAcquire
    refine (contact_confined given source progress.attempts).bind (fun after outcome _ => ?_)
      fun _ _ _ => trivial
    cases outcome with
    | ok success => trivial
    | error reason =>
      dsimp only
      cases distributorFallbackKind reason with
      | none => trivial
      | some kind => exact ih (progress.fail library source reason kind)

/-- Whatever an acquisition or a candidate of a merge is answered, every request goes to a URL that
is valid for the source it is made for, carries an authorization header only for the Earthdata
source, over `https`, a bearer token to the CDDIS or the login host and basic credentials to the
login host, and every request after the first of an attempt is one of at most eight redirects to
`https`. -/
theorem requests_confined {Sp3 Merged Report InputIdentity : Type}
    (core : Core Sp3 Merged Report InputIdentity) (library : Library) (opts : Options) :
    (∀ request, Program.Keeps (Confines library opts.earthdataAuth) (fun _ _ _ => True)
      (fun _ _ => True) [] (acquire library request opts)) ∧
    ∀ product, Program.Keeps (Confines library opts.earthdataAuth) (fun _ _ _ => True)
      (fun _ _ => True) [] (acquireCatalogProduct core library product opts) := by
  constructor
  · intro request
    unfold acquire
    cases checkRequest library request opts with
    | error reason => trivial
    | ok sources => exact doAcquire_confined none sources {}
  · intro product
    unfold acquireCatalogProduct
    cases checkCatalogProduct core library product opts with
    | error reason => trivial
    | ok checked => exact doAcquire_confined (some checked.2) [{ type := .direct }] {}

end Acquisitions

end Sidereon.Distribution
