import Sidereon.Distribution.Confinement
import Sidereon.Distribution.Ionex
import Sidereon.Ftp.Limits

/-!
# Byte limits of the transports

An archive comes over HTTP or over FTP. Over HTTP its bytes are taken in up to the limit of the
options and one more. Over FTP the data layer takes them in up to its own default limit, since the
options that reach a download do not have the name it reads, and only then the limit of the options
is enforced.
-/

namespace Sidereon.Distribution

open Foundation

section Ingress

/-- `ArchiveIngress`: chunks, latest first, up to a limit and one more byte. -/
structure ArchiveIngress where
  limit : Nat
  size : Nat := 0
  chunks : List Binary := []
  overflow : Bool := false

namespace ArchiveIngress

/-- `append`, with whether more chunks are taken. -/
def append (state : ArchiveIngress) (chunk : Binary) : Bool × ArchiveIngress :=
  if state.overflow then (false, state)
  else
    let keptSize := min chunk.length (state.limit + 1 - state.size)
    let chunks := if keptSize = 0 then state.chunks else chunk.take keptSize :: state.chunks
    let size := state.size + keptSize
    let overflow : Bool := decide (size > state.limit)
    (!overflow, { state with chunks, size, overflow })

/-- `finish`. -/
def finish (state : ArchiveIngress) : Binary × Bool :=
  (state.chunks.reverse.flatten, state.overflow)

/-- The chunks of a response, as long as they are taken. -/
def feed : ArchiveIngress → List Binary → ArchiveIngress
  | state, [] => state
  | state, chunk :: chunks =>
    let (onward, state) := state.append chunk
    if onward then state.feed chunks else state

/-- A state that has taken in the first bytes of a body. -/
structure TakenIn (state : ArchiveIngress) (taken : Binary) : Prop where
  kept : state.chunks.reverse.flatten = taken
  size : state.size = taken.length
  overflow : state.overflow = decide (state.limit < taken.length)
  within : taken.length ≤ state.limit + 1

/-- A chunk is taken in up to the limit and one more byte. -/
theorem TakenIn.append {state : ArchiveIngress} {taken : Binary} (before : TakenIn state taken)
    (chunk : Binary) :
    TakenIn (state.append chunk).2 ((taken ++ chunk).take (state.limit + 1)) ∧
      (state.append chunk).2.limit = state.limit ∧
      (state.append chunk).1 = decide ((taken ++ chunk).length ≤ state.limit) := by
  have within := before.within
  have overflow := before.overflow
  rw [ArchiveIngress.append]
  by_cases over_limit : state.limit < taken.length
  · have whole : (taken ++ chunk).take (state.limit + 1) = taken :=
      List.take_left' (by omega)
    rw [overflow, decide_eq_true over_limit, if_pos rfl, whole]
    refine ⟨before, rfl, ?_⟩
    rw [List.length_append, eq_comm, decide_eq_false_iff_not]
    omega
  · have parts : (taken ++ chunk).take (state.limit + 1) =
        taken ++ chunk.take (min chunk.length (state.limit + 1 - state.size)) := by
      rw [List.take_append, List.take_of_length_le (by omega), before.size, Nat.min_comm,
        ← List.take_eq_take_min]
    have counted : ((taken ++ chunk).take (state.limit + 1)).length =
        state.size + min chunk.length (state.limit + 1 - state.size) := by
      rw [parts, List.length_append, List.length_take, before.size]
      omega
    rw [overflow, decide_eq_false over_limit, if_neg Bool.false_ne_true]
    refine ⟨⟨?_, counted.symm, ?_, List.length_take_le _ _⟩, rfl, ?_⟩
    · rw [parts]
      dsimp only
      split
      · next none_kept => rw [none_kept, List.take_zero, List.append_nil, before.kept]
      · rw [List.reverse_cons, List.flatten_append, before.kept]
        simp
    · rw [counted]
    · dsimp only
      rw [List.length_append, ← before.size, ← decide_not, decide_eq_decide]
      omega

/-- Chunks are taken in up to the limit and one more byte. -/
theorem TakenIn.feed {chunks : List Binary} {state : ArchiveIngress} {taken : Binary}
    (before : TakenIn state taken) :
    (state.feed chunks).finish = ((taken ++ chunks.flatten).take (state.limit + 1),
      decide (state.limit < (taken ++ chunks.flatten).length)) := by
  induction chunks generalizing state taken with
  | nil =>
    have whole := List.take_of_length_le before.within
    rw [ArchiveIngress.feed, finish, List.flatten_nil, List.append_nil, whole, before.kept,
      before.overflow]
  | cons chunk chunks ih =>
    obtain ⟨after, limit, onward⟩ := before.append chunk
    rw [ArchiveIngress.feed, List.flatten_cons, ← List.append_assoc]
    dsimp only
    by_cases fits : (taken ++ chunk).length ≤ state.limit
    · have whole : (taken ++ chunk).take (state.limit + 1) = taken ++ chunk :=
        List.take_of_length_le (by omega)
      rw [onward, decide_eq_true fits, if_pos rfl, ih after, limit, whole]
    · have longer : state.limit + 1 ≤ (taken ++ chunk).length := by omega
      have taken_in : ((taken ++ chunk).take (state.limit + 1)).length = state.limit + 1 :=
        List.length_take_of_le longer
      have past : state.limit < ((taken ++ chunk) ++ chunks.flatten).length := by
        rw [List.length_append]
        omega
      rw [onward, decide_eq_false fits, if_neg Bool.false_ne_true, finish, after.kept,
        after.overflow, limit, taken_in, List.take_append_of_le_length longer,
        decide_eq_true past, decide_eq_true (Nat.lt_succ_self _)]

/-- A body is taken in up to the limit and one more byte, and overflows past the limit. -/
theorem feed_finish (limit : Nat) (chunks : List Binary) :
    (feed { limit } chunks).finish =
      (chunks.flatten.take (limit + 1), decide (limit < chunks.flatten.length)) := by
  have empty : TakenIn { limit } [] := ⟨rfl, rfl, rfl, Nat.zero_le _⟩
  exact empty.feed

end ArchiveIngress

end Ingress

section Options

/-- `exact_sp3_opts`, which drops what acquisition does not read. -/
def exactSp3Opts (opts : DataOptions) : Options :=
  { opts.exact with
    maxArchiveBytes := renameOption opts.maxCompressedBytes opts.exact.maxArchiveBytes
    maxProductBytes := renameOption opts.maxDecompressedBytes opts.exact.maxProductBytes }

/-- The ways to give a limit: as `:max_archive_bytes`, or as `:max_compressed_bytes` through an
entry point of the data layer. -/
inductive Given (limit : Nat) : Options → Prop where
  | archive (opts : Options) (given : opts.maxArchiveBytes = some (limit : Int)) : Given limit opts
  | sp3 (opts : DataOptions) (given : opts.maxCompressedBytes = some (some (limit : Int))) :
    Given limit (exactSp3Opts opts)
  | ionex (opts : DataOptions) (given : opts.maxCompressedBytes = some (some (limit : Int))) :
    Given limit (exactIonexOpts opts)

/-- A limit that is given is the limit on archives. -/
theorem Given.archiveLimit {limit : Nat} {opts : Options} (given : Given limit opts) :
    archiveLimit opts = limit := by
  cases given with
  | archive _ given =>
    rw [Distribution.archiveLimit, given]
    rfl
  | sp3 opts given =>
    rw [Distribution.archiveLimit, exactSp3Opts, given]
    rfl
  | ionex opts given =>
    rw [Distribution.archiveLimit, exactIonexOpts, given]
    rfl

/-- `max_compressed_bytes` of the options that reach a download: they do not have the name, so it
is `@default_max_compressed_bytes`. -/
def ftpLimit : Nat := 64 * 1024 * 1024

/-- `Data.ftp_fetch` with the client of the library, as the exact path tells its results apart. -/
def ftpAnswer : Except Ftp.FetchError Binary → FtpAnswer
  | .ok archive => .fetched archive
  | .error (.notFoundOnArchive _) => .notFound
  | .error (.downloadSizeExceeded limit) => .sizeExceeded limit
  | .error (.network (.ftp (.net (.other "ehost")))) => .ehost
  | .error (.network (.ftp (.net (.other "etimedout")))) => .etimedout
  | .error (.network _) => .network

/-- A download that is not refused for the size of its body. -/
def AcceptsSize (outcome : Except Reason Fetched) : Prop :=
  ∀ limit, outcome ≠ .error (.downloadSizeExceeded limit)

/-- A successful response whose body has some bytes. -/
def ServesOverHttp (body : Binary) : Event Call Answer → Prop
  | ⟨.getCustom _ _, .response status _ (some sent)⟩ => (200 ≤ status ∧ status ≤ 299) ∧ sent = body
  | ⟨.getReq _ _ limit, .response status _ kept overflow⟩ => (200 ≤ status ∧ status ≤ 299) ∧
      ∃ chunks, chunks.flatten = body ∧
        (ArchiveIngress.feed { limit := limit.toNat } chunks).finish = (kept, overflow)
  | _ => False

/-- A fetch that received a body, or its first bytes until it was given up for its size. -/
def ServesOverFtp (body : Binary) (record : Ftp.Record) (result : Except Ftp.FetchError Binary) :
    Prop :=
  result = .ok body ∨
    (∃ limit, result = .error (.downloadSizeExceeded limit)) ∧ Ftp.receivedData record <+: body

end Options

section Http

variable {library : Library} {auth : EarthdataAuth} {opts : Options} {source : SourceType}
  {limit : Nat} {body : Binary}

/-- A size is enforced against the limit. -/
theorem enforceSize_ok {bytes : Binary} : enforceSize bytes limit = .ok () ↔ bytes.length ≤ limit := by
  unfold enforceSize
  by_cases fits : (bytes.length : Int) ≤ limit
  · rw [if_pos fits]
    exact iff_of_true rfl (by omega)
  · rw [if_neg fits]
    exact iff_of_false nofun (by omega)

/-- A declared length is no limit. -/
theorem verifyContentLength_size {headers : Headers} {bytes url : Binary} {n : Int} :
    verifyContentLength library headers bytes url ≠ .error (.downloadSizeExceeded n) := by
  unfold verifyContentLength
  split
  · exact nofun
  · split
    · split <;> exact nofun
    · exact nofun

/-- A kind of document is no limit. -/
theorem rejectErrorDocument_size {headers : Headers} {bytes url : Binary} {n : Int} :
    rejectErrorDocument library headers bytes url ≠ .error (.downloadSizeExceeded n) := by
  unfold rejectErrorDocument
  dsimp only
  split
  · exact nofun
  · split <;> exact nofun

/-- The checks of a response refuse the size of its body when it is past the limit. -/
theorem acceptResponse_size {response : Response} {current original : Binary}
    (limited : archiveLimit opts = limit) :
    AcceptsSize (acceptResponse library response current original opts) ↔
      response.body.length ≤ limit := by
  unfold acceptResponse
  rw [limited]
  by_cases fits : response.body.length ≤ limit
  · rw [enforceSize_ok.mpr fits]
    refine iff_of_true (fun n refused => ?_) fits
    change (verifyContentLength library response.headers response.body current >>= fun _ => _) =
      _ at refused
    cases declared : verifyContentLength library response.headers response.body current with
    | error reason =>
      rw [declared] at refused
      cases refused
      exact verifyContentLength_size declared
    | ok _ =>
      rw [declared] at refused
      change (rejectErrorDocument library response.headers response.body current >>= fun _ => _) =
        _ at refused
      cases kind : rejectErrorDocument library response.headers response.body current with
      | error reason =>
        rw [kind] at refused
        cases refused
        exact rejectErrorDocument_size kind
      | ok _ =>
        rw [kind] at refused
        cases refused
  · have exceeded : ¬ (response.body.length : Int) ≤ limit := by omega
    rw [enforceSize, if_neg exceeded]
    exact iff_of_false (fun accepted => accepted limit rfl) fits

/-- A served response is given with its body, or refused for a size past the limit. -/
theorem requestHttp_served {url : Binary} {headers : List Header} {event : Event Call Answer}
    {result : Except Reason Response} (limited : archiveLimit opts = limit)
    (served : ServesOverHttp body event)
    (ends : (requestHttp url headers opts).Ends [event] result) :
    (∃ response, result = .ok response ∧ (200 ≤ response.status ∧ response.status ≤ 299) ∧
      response.body = body) ∨
      limit < body.length ∧ result = .error (.downloadSizeExceeded limit) := by
  unfold requestHttp at ends
  cases client : opts.httpClient with
  | invalid =>
    rw [client] at ends
    cases ends.1
  | custom =>
    rw [client] at ends
    obtain ⟨answer, later, same, ends⟩ := ends
    obtain ⟨same_event, same_later⟩ := List.cons.inj same
    rw [same_event] at served
    cases answer with
    | response status received sent =>
      cases sent with
      | none => exact served.elim
      | some sent =>
        obtain ⟨_, same⟩ := ends
        exact .inl ⟨_, same, served.1, served.2⟩
    | failed transportError reason => exact served.elim
    | invalid => exact served.elim
    | raised => exact served.elim
    | thrown => exact served.elim
    | exited => exact served.elim
  | req =>
    rw [client] at ends
    obtain ⟨answer, later, same, ends⟩ := ends
    obtain ⟨same_event, same_later⟩ := List.cons.inj same
    rw [same_event] at served
    cases answer with
    | failed reason => exact served.elim
    | raised => exact served.elim
    | response status received kept overflow =>
      obtain ⟨success, chunks, whole, finished⟩ := served
      rw [limited, Int.toNat_natCast, ArchiveIngress.feed_finish, whole, Prod.mk.injEq] at finished
      obtain ⟨kept_eq, overflow_eq⟩ := finished
      dsimp only [Program.bind] at ends
      by_cases fits : body.length ≤ limit
      · have checked : enforceStreamedSize status overflow (archiveLimit opts) = .ok () := by
          rw [enforceStreamedSize, ← overflow_eq, decide_eq_false (by omega)]
          exact if_neg fun both => Bool.false_ne_true both.1
        rw [checked] at ends
        obtain ⟨_, same⟩ := ends
        refine .inl ⟨_, same, success, ?_⟩
        rw [← kept_eq]
        exact List.take_of_length_le (by omega)
      · have checked : enforceStreamedSize status overflow (archiveLimit opts) =
            .error (.downloadSizeExceeded limit) := by
          rw [enforceStreamedSize, ← overflow_eq, decide_eq_true (by omega), limited]
          exact if_pos ⟨rfl, success⟩
        rw [checked] at ends
        exact .inr ⟨by omega, ends.2⟩

/-- Credentials are no response. -/
theorem authHeaders_unserved {url : Binary} {record : List (Event Call Answer)}
    {result : Except Reason (List Header)}
    (ends : (authHeaders library url source auth).Ends record result) :
    ∀ event ∈ record, ¬ ServesOverHttp body event := by
  intro event member served
  have quiet := (authHeaders_quiet url source).ends ends event member
  obtain ⟨request, answer⟩ := event
  cases request with
  | getCustom url headers => exact quiet
  | getReq url headers limit => exact quiet
  | _ => exact served

/-- A request is a single call, or none that fails. -/
theorem requestHttp_single {url : Binary} {headers : List Header}
    {record : List (Event Call Answer)} {result : Except Reason Response}
    (ends : (requestHttp url headers opts).Ends record result) :
    (record = [] ∧ ∃ reason, result = .error reason) ∨ ∃ event, record = [event] := by
  unfold requestHttp at ends
  cases client : opts.httpClient with
  | invalid =>
    rw [client] at ends
    exact .inl ⟨ends.1, _, ends.2⟩
  | custom =>
    rw [client] at ends
    obtain ⟨answer, later, same, ends⟩ := ends
    dsimp only [Program.bind] at ends
    have nothing : later = [] := by
      cases answer with
      | response status received sent => cases sent <;> exact ends.1
      | failed transportError reason =>
        dsimp only at ends
        cases kind : customRetryableTransportKind transportError reason with
        | none =>
          rw [kind] at ends
          exact ends.1
        | some kind' =>
          rw [kind] at ends
          exact ends.1
      | invalid => exact ends.1
      | raised => exact ends.1
      | thrown => exact ends.1
      | exited => exact ends.1
    rw [nothing] at same
    exact .inr ⟨_, same⟩
  | req =>
    rw [client] at ends
    obtain ⟨answer, later, same, ends⟩ := ends
    dsimp only [Program.bind] at ends
    have nothing : later = [] := by
      cases answer with
      | response status received kept overflow =>
        dsimp only at ends
        cases checked : enforceStreamedSize status overflow (archiveLimit opts) with
        | error reason =>
          rw [checked] at ends
          exact ends.1
        | ok _ =>
          rw [checked] at ends
          exact ends.1
      | failed reason => exact ends.1
      | raised => exact ends.1
    rw [nothing] at same
    exact .inr ⟨_, same⟩

/-- A last event is that of the second of two parts, or the second is empty. -/
theorem last_of_append {α : Type} {record first later : List α} {event : α}
    (same : record ++ [event] = first ++ later) :
    (later = [] ∧ event ∈ first) ∨ ∃ earlier, later = earlier ++ [event] := by
  cases later.eq_nil_or_concat with
  | inl empty =>
    rw [empty, List.append_nil] at same
    exact .inl ⟨empty, same ▸ List.mem_append_right _ List.mem_cons_self⟩
  | inr ends =>
    obtain ⟨earlier, last, later_eq⟩ := ends
    rw [List.concat_eq_append] at later_eq
    rw [later_eq, ← List.append_assoc] at same
    have last_eq := (List.append_inj' same rfl).2
    exact .inr ⟨earlier, by rw [later_eq, last_eq]⟩

/-- A response that is served is accepted within the limit, also when it is a redirect that leads to
it. -/
theorem handleResponse_size {response : Response} {current original : Binary}
    {record : List (Event Call Answer)} {event : Event Call Answer}
    {follow : Option (Binary → Action (Except Reason Fetched))} {outcome : Except Reason Fetched}
    (limited : archiveLimit opts = limit) (served : ServesOverHttp body event)
    (follows : ∀ next ∈ follow, ∀ target record, (next target).Ends (record ++ [event]) outcome →
      (AcceptsSize outcome ↔ body.length ≤ limit))
    (own : record = [] → (200 ≤ response.status ∧ response.status ≤ 299) ∧ response.body = body)
    (last : record = [] ∨ ∃ earlier, record = earlier ++ [event])
    (ends : (handleResponse library response current original source auth opts follow).Ends record
      outcome) : AcceptsSize outcome ↔ body.length ≤ limit := by
  cases handleResponse_cases library response current original source auth opts follow with
  | inr finished =>
    rw [finished] at ends
    obtain ⟨success, same⟩ := own ends.1
    rw [ends.2, concluded, if_neg (by omega), if_neg (by omega), if_neg (by omega),
      if_neg (by omega), if_neg (by omega), if_pos success, ← same]
    exact acceptResponse_size limited
  | inl redirected =>
    obtain ⟨next, location, known, redirect, _, redirected⟩ := redirected
    rw [redirected] at ends
    obtain ⟨resolved, first, later, split_record, resolves, ends⟩ := Program.ends_bind.mp ends
    have quiet : ∀ event ∈ first, Quiet event.request :=
      (redirectTarget_uses current response.status location source).ends resolves
    have nonempty : record ≠ [] := by
      intro empty
      have success := (own empty).1
      omega
    obtain ⟨earlier, record_eq⟩ := last.resolve_left nonempty
    rw [record_eq] at split_record
    obtain ⟨before, later_eq⟩ : ∃ before, later = before ++ [event] := by
      cases last_of_append split_record with
      | inr onward => exact onward
      | inl within =>
        have silent := quiet event within.2
        obtain ⟨request, answer⟩ := event
        cases request with
        | getCustom url headers => exact silent.elim
        | getReq url headers limit => exact silent.elim
        | _ => exact served.elim
    rw [later_eq] at ends
    cases resolved with
    | ok target => exact follows next known target before ends
    | error reason => exact absurd ends.1 (by simp)

/-- A hop accepts the size of a body within the limit when what follows it does. -/
theorem hop_size {original : Binary} {redirectsLeft : Nat} {current : Binary} {jar : Jar}
    {record : List (Event Call Answer)} {event : Event Call Answer}
    {outcome : Except Reason Fetched} (limited : archiveLimit opts = limit)
    (served : ServesOverHttp body event)
    (follows : ∀ jar, ∀ next ∈ followed library original source auth opts jar redirectsLeft,
      ∀ target record, (next target).Ends (record ++ [event]) outcome →
        (AcceptsSize outcome ↔ body.length ≤ limit))
    (ends : (doDownloadOnce library original source auth opts redirectsLeft current jar).Ends
      (record ++ [event]) outcome) :
    AcceptsSize outcome ↔ body.length ≤ limit := by
  rw [doDownloadOnce_eq] at ends
  cases valid : validateUrl library current source with
  | error reason =>
    rw [valid] at ends
    exact absurd ends.1 (by simp)
  | ok _ =>
    rw [valid] at ends
    obtain ⟨read, first, later, split_record, reads, ends⟩ := Program.ends_bind.mp ends
    have unserved : ∀ event ∈ first, ¬ ServesOverHttp body event := authHeaders_unserved reads
    obtain ⟨earlier, later_eq⟩ : ∃ earlier, later = earlier ++ [event] := by
      cases last_of_append split_record with
      | inl within => exact absurd served (unserved event within.2)
      | inr onward => exact onward
    rw [later_eq] at ends
    cases read with
    | error reason => exact absurd ends.1 (by simp)
    | ok headers =>
      obtain ⟨result, sent, rest, split_later, requests, ends⟩ := Program.ends_bind.mp ends
      cases requestHttp_single requests with
      | inl none_sent =>
        obtain ⟨empty, reason, failed⟩ := none_sent
        rw [failed] at ends
        rw [empty, ends.1] at split_later
        exact absurd split_later (by simp)
      | inr one_sent =>
        obtain ⟨own, sent_eq⟩ := one_sent
        have answered (empty : rest = []) : own = event := by
          rw [sent_eq, empty, List.append_nil, ← List.nil_append [own]] at split_later
          have same := (List.append_inj' split_later rfl).2
          exact (List.cons.inj same).1.symm
        rw [sent_eq] at requests
        cases result with
        | error reason =>
          rw [answered ends.1] at requests
          cases requestHttp_served limited served requests with
          | inl given =>
            obtain ⟨_, same, _⟩ := given
            cases same
          | inr refused =>
            obtain ⟨past, same⟩ := refused
            cases same
            rw [ends.2]
            exact iff_of_false (fun accepted => accepted limit rfl) (by omega)
        | ok response =>
          have success (empty : rest = []) :
              (200 ≤ response.status ∧ response.status ≤ 299) ∧ response.body = body := by
            rw [answered empty] at requests
            cases requestHttp_served limited served requests with
            | inl given =>
              obtain ⟨_, same, success⟩ := given
              cases same
              exact success
            | inr refused => cases refused.2
          have last : rest = [] ∨ ∃ earlier, rest = earlier ++ [event] := by
            cases last_of_append split_later with
            | inl within => exact .inl within.1
            | inr onward => exact .inr onward
          exact handleResponse_size limited served (follows _) success last ends

/-- Over HTTP the size of a body is accepted when it is within the limit. -/
theorem doDownloadOnce_size {original : Binary} {redirectsLeft : Nat} {current : Binary} {jar : Jar}
    {record : List (Event Call Answer)} {event : Event Call Answer}
    {outcome : Except Reason Fetched} (limited : archiveLimit opts = limit)
    (served : ServesOverHttp body event)
    (ends : (doDownloadOnce library original source auth opts redirectsLeft current jar).Ends
      (record ++ [event]) outcome) :
    AcceptsSize outcome ↔ body.length ≤ limit := by
  induction redirectsLeft generalizing current jar record with
  | zero =>
    refine hop_size limited served (fun jar next absent => ?_) ends
    cases absent
  | succ redirectsLeft ih =>
    refine hop_size limited served (fun jar next given target record ends => ?_) ends
    cases given
    exact ih ends

end Http

section Transports

/-- Over FTP the size of a body is accepted when it is within both limits. -/
theorem downloadFtp_size {library : Library} {opts : Options} {source : SourceType} {limit fuel : Nat}
    {url body : Binary} {record : Ftp.Record} {result : Except Ftp.FetchError Binary}
    {outcome : Except Reason Fetched} (limited : archiveLimit opts = limit)
    (fetches : (Ftp.ftpDownload fuel url ftpLimit).Ends record result)
    (served : ServesOverFtp body record result)
    (ends : (downloadFtp library url source opts).Ends [⟨.ftpFetch url, ftpAnswer result⟩] outcome) :
    AcceptsSize outcome ↔ body.length ≤ ftpLimit ∧ body.length ≤ limit := by
  unfold downloadFtp at ends
  cases valid : validateUrl library url source with
  | error reason =>
    rw [valid] at ends
    cases ends.1
  | ok _ =>
    rw [valid] at ends
    obtain ⟨answer, later, same, ends⟩ := ends
    obtain ⟨same_event, same_later⟩ := List.cons.inj same
    cases same_event
    dsimp only [Program.bind] at ends
    cases served with
    | inl whole =>
      rw [whole] at ends fetches
      have within := (Ftp.ends_ftpDownload fetches).2
      dsimp only [ftpAnswer] at ends
      rw [limited] at ends
      by_cases fits : body.length ≤ limit
      · rw [enforceSize_ok.mpr fits] at ends
        rw [ends.2]
        exact iff_of_true (fun n => nofun) ⟨within, fits⟩
      · have exceeded : ¬ (body.length : Int) ≤ limit := by omega
        rw [enforceSize, if_neg exceeded] at ends
        rw [ends.2]
        exact iff_of_false (fun accepted => accepted limit rfl) fun both => fits both.2
    | inr part =>
      obtain ⟨⟨n, refused⟩, began⟩ := part
      rw [refused] at ends fetches
      have exceeded := (Ftp.ftpDownload_exceeded fetches).2
      have longer := began.length_le
      rw [ends.2]
      exact iff_of_false (fun accepted => accepted n rfl) (by omega)

/-- Over HTTP a body's size is accepted if and only if it is at most the limit that was given. Over
FTP that holds exactly when the size is not past the data layer's default limit and within the limit
that was given. -/
theorem download_limits (library : Library) (auth : EarthdataAuth) (source : SourceType)
    {limit : Nat} {opts : Options} (given : Given limit opts) (url body : Binary) :
    (∀ record event outcome, ¬ (ascii "ftp://").isPrefixOf url = true →
      ServesOverHttp body event →
      (downloadOnce library url source auth opts).Ends (record ++ [event]) outcome →
        (AcceptsSize outcome ↔ body.length ≤ limit)) ∧
    ∀ fuel record result outcome, (ascii "ftp://").isPrefixOf url = true →
      (Ftp.ftpDownload fuel url ftpLimit).Ends record result → ServesOverFtp body record result →
      (downloadOnce library url source auth opts).Ends [⟨.ftpFetch url, ftpAnswer result⟩] outcome →
        ((AcceptsSize outcome ↔ body.length ≤ limit) ↔
          ¬ (ftpLimit < body.length ∧ body.length ≤ limit)) := by
  constructor
  · intro record event outcome other served ends
    rw [downloadOnce, if_neg other] at ends
    exact doDownloadOnce_size given.archiveLimit served ends
  · intro fuel record result outcome scheme fetches served ends
    rw [downloadOnce, if_pos scheme] at ends
    rw [downloadFtp_size given.archiveLimit fetches served ends]
    omega

end Transports

section Sample

/-- A library whose only host serves FTP. -/
def ftpLibrary : Library :=
  { plainLibrary with allowedHosts := [ascii "h"], ftpHosts := [ascii "h"] }

/-- Options with a limit of 100 MiB. -/
def roomyOptions : Options := { plainOptions with maxArchiveBytes := some 104857600 }

/-- A body of one byte more than 64 MiB. -/
def largeBody : Binary := List.replicate 67108865 0

/-- The size of the large body. -/
theorem length_largeBody : largeBody.length = 67108865 := List.length_replicate

/-- The large body is given up over FTP. -/
theorem largeBody_ends :
    (Ftp.ftpDownload 5 (ascii "ftp://h/a") ftpLimit).Ends (Ftp.largeRecord largeBody)
      (.error (.downloadSizeExceeded ftpLimit)) := by
  have large : ftpLimit < largeBody.length := by
    rw [length_largeBody]
    decide
  exact Ftp.largeRecord_ends large

/-- Its first bytes were received. -/
theorem largeBody_served : ServesOverFtp largeBody (Ftp.largeRecord largeBody)
    (.error (.downloadSizeExceeded ftpLimit)) := by
  refine .inr ⟨⟨ftpLimit, rfl⟩, ?_⟩
  rw [Ftp.receivedData_largeRecord]

/-- The download of the large body is refused. -/
theorem largeBody_refused :
    (downloadOnce ftpLibrary (ascii "ftp://h/a") .direct {} roomyOptions).Ends
      [⟨.ftpFetch (ascii "ftp://h/a"), ftpAnswer (.error (.downloadSizeExceeded ftpLimit))⟩]
      (.error (.downloadSizeExceeded ftpLimit)) := by
  have valid : validateUrl ftpLibrary (ascii "ftp://h/a") .direct = .ok () := by rfl
  rw [downloadOnce, if_pos (by decide +kernel), downloadFtp, valid]
  exact Program.Ends.answer ⟨rfl, rfl⟩

/-- Not every body within the limit that was given is accepted over FTP. -/
theorem download_limits_fails :
    ¬ ∀ (library : Library) (auth : EarthdataAuth) (source : SourceType) (limit : Nat)
      (opts : Options), Given limit opts → ∀ (url body : Binary) (fuel : Nat) (record : Ftp.Record)
      (result : Except Ftp.FetchError Binary) (outcome : Except Reason Fetched),
      (Ftp.ftpDownload fuel url ftpLimit).Ends record result → ServesOverFtp body record result →
      (downloadOnce library url source auth opts).Ends [⟨.ftpFetch url, ftpAnswer result⟩] outcome →
        (AcceptsSize outcome ↔ body.length ≤ limit) := by
  intro agreed
  have accepted := agreed ftpLibrary {} .direct 104857600 roomyOptions (.archive roomyOptions rfl)
    (ascii "ftp://h/a") largeBody 5 _ _ _ largeBody_ends largeBody_served largeBody_refused
  rw [length_largeBody] at accepted
  exact accepted.mpr (by decide) _ rfl

/-- The large body is past the default limit and within the one that was given. -/
theorem download_limits_large :
    (AcceptsSize (.error (.downloadSizeExceeded ftpLimit)) ↔ largeBody.length ≤ 104857600) ↔
      ¬ (ftpLimit < largeBody.length ∧ largeBody.length ≤ 104857600) :=
  (download_limits ftpLibrary {} .direct (.archive roomyOptions rfl) (ascii "ftp://h/a")
    largeBody).2 5 _ _ _ (by decide +kernel) largeBody_ends largeBody_served largeBody_refused

end Sample

end Sidereon.Distribution
