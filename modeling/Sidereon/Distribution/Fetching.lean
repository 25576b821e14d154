import Sidereon.Distribution.Fallback
import Sidereon.Foundation.Relational

/-!
# What asking a source does

A source is asked outside the cache. A download that misses its netrc file has failed, and so has
every download that it is part of. What fails after the bytes of a source are there, or with a local
source, is settled: no other source is tried after it.
-/

namespace Sidereon.Distribution

open Foundation

section Fetching

/-- A call that is not about the cache. -/
def Outer : Call → Prop
  | .openCache _ _ | .cleanupCache _ | .readCache _ | .publish _ _ _ _ | .closeCache _
  | .fileExists _ => False
  | _ => True

/-- A file that cannot be read. -/
def Missing : (request : Call) → Answer request → Prop
  | .readFile _, answer => answer = none
  | _, _ => False

/-- The failure without a netrc file. -/
def netrcFailure : Reason :=
  .response .authenticationFailed 0 (ascii "https://urs.earthdata.nasa.gov/")

/-- A program that has failed without a netrc file. -/
def Lost {α : Type} (program : Action (Except Reason α)) : Prop :=
  program = pure (.error netrcFailure)

/-- A program that leaves the cache alone and fails without the file it reads. -/
abbrev Fetches {α : Type} (program : Action (Except Reason α)) : Prop :=
  program.Guarded Outer Missing Lost

/-- A program that leaves the cache alone and reads no file. -/
abbrev Asks {α : Type} (program : Action α) : Prop :=
  program.Guarded Outer Missing fun _ => False

variable {α β : Type} {library : Library} {opts : Options} {source : SourceType}
  {auth : EarthdataAuth}

/-- A fetch that goes on passes its failure on. -/
theorem fetches_bind {program : Action (Except Reason α)}
    {rest : Except Reason α → Action (Except Reason β)} (first : Fetches program)
    (fails : rest (.error netrcFailure) = pure (.error netrcFailure))
    (values : ∀ value, Fetches (rest value)) : Fetches (program >>= rest) := by
  apply first.bind _ values
  intro lost same
  rw [Lost] at same
  rw [same]
  exact fails

/-- A fetch may ask first. -/
theorem fetches_ask {program : Action α} {rest : α → Action (Except Reason β)}
    (first : Asks program) (values : ∀ value, Fetches (rest value)) : Fetches (program >>= rest) :=
  first.bind (fun _ => False.elim) values

/-- Questions in sequence. -/
theorem asks_bind {program : Action α} {rest : α → Action β} (first : Asks program)
    (values : ∀ value, Asks (rest value)) : Asks (program >>= rest) :=
  first.bind (fun _ => False.elim) values

/-- A single question. -/
theorem asks_call {request : Call} (outer : Outer request)
    (present : ∀ answer, ¬ Missing request answer) : Asks (call request) :=
  Program.guarded_perform outer present

/-- The netrc file is read, and without it the fetch has failed. -/
theorem readNetrc_fetches : Fetches (readNetrc library auth) := by
  unfold readNetrc
  refine fetches_ask ?_ fun path => ?_
  · unfold netrcPath
    cases auth.netrcPath with
    | some path => trivial
    | none =>
      refine asks_bind (asks_call trivial fun _ => id) fun home => ?_
      exact asks_bind Program.guarded_orCrash fun _ => trivial
  · refine ⟨trivial, fun contents => ⟨?_, fun absent => ?_⟩⟩
    · dsimp only [Program.bind]
      split <;> trivial
    · cases absent
      rfl

/-- Headers with credentials are fetched. -/
theorem authHeaders_fetches (url : Binary) : Fetches (authHeaders library url source auth) := by
  unfold authHeaders
  cases source with
  | nasaCddis =>
    dsimp only
    split
    · trivial
    · cases auth.bearerToken with
      | some token => trivial
      | none =>
        dsimp only
        split
        · refine fetches_bind readNetrc_fetches rfl fun read => ?_
          cases read <;> trivial
        · trivial
  | direct => trivial
  | localFile => trivial
  | inMemory => trivial

/-- An answer decides the rest. -/
theorem fetches_answer {request : Call} {rest : Answer request → Action (Except Reason β)}
    (outer : Outer request) (present : ∀ answer, ¬ Missing request answer)
    (values : ∀ answer, Fetches (rest answer)) : Fetches (call request >>= rest) :=
  fetches_ask (asks_call outer present) values

/-- Requests are answered. -/
theorem requestHttp_fetches (url : Binary) (headers : List Header) :
    Fetches (requestHttp url headers opts) := by
  unfold requestHttp
  cases opts.httpClient with
  | invalid => trivial
  | custom =>
    refine fetches_answer trivial (fun _ => id) fun answer => ?_
    cases answer with
    | response status headers body => cases body <;> trivial
    | failed transportError reason =>
      dsimp only
      cases customRetryableTransportKind transportError reason <;> trivial
    | invalid => trivial
    | raised => trivial
    | thrown => trivial
    | exited => trivial
  | req =>
    refine fetches_answer trivial (fun _ => id) fun answer => ?_
    cases answer with
    | response status headers body overflow =>
      dsimp only
      cases enforceStreamedSize status overflow (archiveLimit opts) <;> trivial
    | failed reason => trivial
    | raised => trivial

/-- A response is followed or concluded. -/
theorem handleResponse_fetches (response : Response) (current original : Binary)
    {follow : Option (Binary → Action (Except Reason Fetched))}
    (follows : ∀ next ∈ follow, ∀ target, Fetches (next target)) :
    Fetches (handleResponse library response current original source auth opts follow) := by
  cases handleResponse_cases library response current original source auth opts follow with
  | inr concluded =>
    rw [concluded]
    trivial
  | inl redirected =>
    obtain ⟨next, location, known, _, _, redirected⟩ := redirected
    rw [redirected]
    refine fetches_ask ?_ fun target => ?_
    · unfold redirectTarget
      refine asks_bind Program.guarded_orCrash fun target => ?_
      dsimp only
      split
      · exact asks_bind Program.guarded_orCrash fun _ => trivial
      · trivial
    · cases target with
      | ok target => exact follows _ known target
      | error reason => trivial

/-- A hop is a fetch when what follows it is. -/
theorem hop_fetches {original : Binary} {redirectsLeft : Nat} (current : Binary) (cookies : Jar)
    (follows : ∀ cookies, ∀ next ∈ followed library original source auth opts cookies redirectsLeft,
      ∀ target, Fetches (next target)) :
    Fetches (doDownloadOnce library original source auth opts redirectsLeft current cookies) := by
  rw [doDownloadOnce_eq]
  cases validateUrl library current source with
  | error reason => trivial
  | ok _ =>
    refine fetches_bind (authHeaders_fetches current) rfl fun headers => ?_
    cases headers with
    | error reason => trivial
    | ok headers =>
      refine fetches_bind (requestHttp_fetches _ _) rfl fun response => ?_
      cases response with
      | error reason => trivial
      | ok response => exact handleResponse_fetches _ _ _ (follows _)

/-- A download is a fetch, however many redirects are left. -/
theorem doDownloadOnce_fetches (original : Binary) (redirectsLeft : Nat) (current : Binary)
    (cookies : Jar) :
    Fetches (doDownloadOnce library original source auth opts redirectsLeft current cookies) := by
  induction redirectsLeft generalizing current cookies with
  | zero =>
    apply hop_fetches
    intro cookies next absent
    cases absent
  | succ redirectsLeft ih =>
    apply hop_fetches
    intro cookies next given target
    cases given
    exact ih target cookies

/-- So is a download over FTP. -/
theorem downloadFtp_fetches (current : Binary) :
    Fetches (downloadFtp library current source opts) := by
  unfold downloadFtp
  cases validateUrl library current source with
  | error reason => trivial
  | ok _ =>
    refine fetches_answer trivial (fun _ => id) fun answer => ?_
    cases answer with
    | fetched archive =>
      dsimp only
      cases enforceSize archive (archiveLimit opts) <;> trivial
    | notFound => trivial
    | sizeExceeded limit => trivial
    | ehost => trivial
    | etimedout => trivial
    | network => trivial
    | other => trivial

/-- So is a download that is retried. -/
theorem doDownload_fetches (url : Binary) (retriesLeft attempt : Nat) :
    Fetches (doDownload library url source auth opts retriesLeft attempt) := by
  have once : Fetches (downloadOnce library url source auth opts) := by
    unfold downloadOnce
    split
    · exact downloadFtp_fetches url
    · exact doDownloadOnce_fetches url maxRedirects url []
  induction retriesLeft generalizing attempt with
  | zero =>
    unfold doDownload
    refine fetches_bind once rfl fun fetched => ?_
    cases fetched <;> trivial
  | succ retriesLeft ih =>
    unfold doDownload
    refine fetches_bind once rfl fun fetched => ?_
    cases fetched with
    | ok fetched => trivial
    | error reason =>
      dsimp only
      split
      · refine fetches_ask ?_ fun _ => ih _
        refine asks_bind Program.guarded_orCrash fun _ => ?_
        exact asks_call trivial fun _ => id
      · trivial

/-- So is reading a source. -/
theorem readSource_fetches (library : Library) (identity : ProductIdentity) (opts : Options)
    (source : Source) (given : Option DirectLocation) : Fetches (readSource library identity source opts given) := by
  have from_location (type : SourceType) (location : Except Reason DirectLocation) :
      Fetches (downloadFrom library type opts location) := by
    cases location with
    | error reason => trivial
    | ok location =>
      refine fetches_bind (doDownload_fetches _ _ _) rfl fun fetched => ?_
      cases fetched <;> trivial
  unfold readSource
  cases source.type with
  | direct => exact from_location _ _
  | nasaCddis => exact from_location _ _
  | localFile =>
    cases source.path with
    | none => trivial
    | some path =>
      refine fetches_answer trivial (fun _ => id) fun answer => ?_
      cases answer <;> trivial
  | inMemory => cases source.content <;> trivial

end Fetching

section Settled

variable {library : Library} {identity : ProductIdentity} {opts : Options}

/-- A failure after which no other source is tried. -/
abbrev Settled (reason : Reason) : Prop := distributorFallbackKind reason = none

/-- What passes the request on is not settled. -/
theorem not_settled {reason : Reason} (passes : Absence reason ∨ Unavailable reason) :
    ¬ Settled reason := by
  intro settled
  have neither := (fallback_none reason).mp settled
  cases passes with
  | inl absent => exact neither.1 absent
  | inr unavailable => exact neither.2 unavailable

/-- The errors of a computation are settled. -/
def Settles {α : Type} (computation : Except Reason α) : Prop :=
  ∀ reason, computation = .error reason → Settled reason

/-- A sequence of settled computations. -/
theorem Settles.bind {α β : Type} {first : Except Reason α} {rest : α → Except Reason β}
    (settles : Settles first) (values : ∀ value, Settles (rest value)) :
    Settles (first >>= rest) := by
  cases first with
  | error reason =>
    intro other same
    cases same
    exact settles reason rfl
  | ok value => exact values value

/-- A value is settled. -/
theorem settles_ok {α : Type} (value : α) : Settles (.ok value : Except Reason α) := by
  intro reason same
  cases same

/-- A settled error. -/
theorem settles_error {α : Type} {reason : Reason} (settled : Settled reason) :
    Settles (.error reason : Except Reason α) := by
  intro other same
  cases same
  exact settled

/-- What fails after the bytes of a source are there is settled. -/
theorem checkFetched_settles (source : Source) (fetched : Fetched) :
    Settles (checkFetched library identity source opts fetched) := by
  have size : Settles (enforceSize fetched.archive (archiveLimit opts)) := by
    unfold enforceSize
    split
    · exact settles_ok _
    · exact settles_error rfl
  have unpacked (compression : Compression) :
      Settles (decompress library fetched.archive compression (productLimit opts)) := by
    unfold decompress
    split
    · exact settles_ok _
    · exact settles_error rfl
  have digest (content : Binary) : Settles (verifyChecksum library content opts.sha256) := by
    unfold verifyChecksum
    split
    · exact settles_ok _
    · dsimp only
      split
      · exact settles_ok _
      · exact settles_error rfl
    · exact settles_error rfl
  have parsed {α : Type} (read : Except Binary α) : Settles (validated read) := by
    cases read with
    | ok value => exact settles_ok _
    | error detail => exact settles_error rfl
  have version (requested : Option Binary) (resolved : Binary) :
      Settles (validateRequestedFormatVersion requested resolved) := by
    unfold validateRequestedFormatVersion
    split
    · exact settles_ok _
    · exact settles_error rfl
  have sp3 (content : Binary) : Settles (sp3Version content) := by
    unfold sp3Version
    split
    · split
      · exact settles_ok _
      · exact settles_error rfl
    · exact settles_error rfl
  have product (content : Binary) : Settles (validateProduct library identity content) := by
    unfold validateProduct
    split
    · refine (parsed _).bind fun _ => (sp3 _).bind fun _ => ?_
      exact (version _ _).bind fun _ => settles_ok _
    · split
      · exact (parsed _).bind fun _ => (version _ _).bind fun _ => settles_ok _
      · exact settles_error rfl
  unfold checkFetched
  refine size.bind fun _ => (unpacked _).bind fun content => ?_
  exact (digest content).bind fun _ => (product content).bind fun _ => settles_ok _

/-- A local source that fails is settled. -/
theorem readSource_settles {source : Source} {given : Option DirectLocation}
    (isLocal : source.type.isNetwork = false) :
    (readSource library identity source opts given).Returns Settles := by
  unfold readSource
  cases type : source.type with
  | direct => rw [type] at isLocal; cases isLocal
  | nasaCddis => rw [type] at isLocal; cases isLocal
  | localFile =>
    cases source.path with
    | none => exact settles_error rfl
    | some path =>
      intro answer
      cases answer with
      | bytes bytes => exact settles_ok _
      | sizeExceeded limit => exact settles_error rfl
      | failed => exact settles_error rfl
  | inMemory =>
    cases source.content with
    | none => exact settles_error rfl
    | some bytes => exact settles_ok _

end Settled

end Sidereon.Distribution
