import Sidereon.Data.Transport
import Sidereon.Foundation.UriHost
import Sidereon.Ftp.Peers

/-!
# Hosts of the data transport

Whatever the servers answer, a download requests its cataloged URL, and after it only what AIUB's
hosts redirect to: the download host or the object store. The invariant counts the requests of an
attempt against the redirects that are left.
-/

namespace Sidereon.Data

open Foundation

/-- The answered calls of a download, latest first. -/
abbrev Past := History Call Answer

/-- The URLs that were requested in the running attempt, latest first. An attempt begins at the
start or after a wait. -/
def requested : Past → List Binary
  | ⟨.sleep _, _⟩ :: _ => []
  | ⟨.getCustom url, _⟩ :: past => url :: requested past
  | ⟨.getReq url _, _⟩ :: past => url :: requested past
  | _ :: past => requested past
  | [] => []

/-- The FTP session of the running attempt. -/
def session : Past → Ftp.Past
  | ⟨.ftp request, answer⟩ :: past => ⟨request, answer⟩ :: session past
  | _ => []

/-- A host of AIUB that redirects. -/
def Redirects (library : Library) (url : Binary) : Prop :=
  hostOf library (Uri.parse url) = some aiubWebHost ∨
    hostOf library (Uri.parse url) = some aiubDownloadHost

/-- A redirect over `https` from one of AIUB's hosts to its download host or its object store. -/
structure Hop (library : Library) (previous url : Binary) : Prop where
  from_secure : (Uri.parse previous).scheme = some https
  to_secure : (Uri.parse url).scheme = some https
  source : Redirects library previous
  target : hostOf library (Uri.parse url) = some aiubDownloadHost ∨
    ∃ host, hostOf library (Uri.parse url) = some host ∧ aiubObjectStoreSuffix <:+ host

/-- A request after those of the running attempt: the cataloged URL, or what the latest one was
redirected to. -/
structure Confined (library : Library) (original : Binary) (earlier : List Binary) (url : Binary) :
    Prop where
  start : earlier = [] → url = original
  redirected : ∀ previous rest, earlier = previous :: rest → Hop library previous url
  bounded : earlier.length ≤ maxRedirects

/-- What a download of a cataloged URL may call. -/
def Confines (library : Library) (original : Binary) (past : Past) : Call → Prop
  | .fetchListing _ => False
  | .getCustom url => Confined library original (requested past) url
  | .getReq url _ => Confined library original (requested past) url
  | .ftpCustom url => url = original
  | .ftp request => Ftp.Directed (Uri.parse original).host (session past) request
  | .sleep _ => True

/-- A cataloged URL that is accepted: its host is in the catalog and its scheme is its protocol. -/
def Accepted (library : Library) (original protocol : Binary) : Prop :=
  (∃ host ∈ library.allowedHosts, (Uri.parse original).host = some host) ∧
    (Uri.parse original).scheme = some protocol

/-- A program that keeps to the hosts of a cataloged URL, whatever it is answered. -/
abbrev KeepsConfined {α : Type} (library : Library) (original : Binary)
    (post : Past → Except Raised α → Prop) (past : Past) (program : Action α) : Prop :=
  program.Keeps (Confines library original) (fun _ _ _ => True) post past

variable {library : Library} {opts : Options} {original current : Binary} {past : Past}

/-- An empty host is empty in lower case. -/
theorem downcase_nil (library : Library) : library.downcase [] = [] :=
  library.downcase_ascii [] (by simp)

/-- The merged host is the host of the redirect, when it is one of AIUB's. -/
theorem hostOf_merged {uri : Uri} {location text host : Binary}
    (merged : (Uri.parse current).merge? (Uri.parse location) = some uri)
    (known : hostOf library uri = some host) (nonempty : host ≠ [])
    (printed : uri.toString? = some text) : hostOf library (Uri.parse text) = some host := by
  obtain ⟨raw, hosted, same⟩ := Option.map_eq_some_iff.mp known
  have filled : raw ≠ [] := by
    rintro rfl
    rw [downcase_nil] at same
    exact nonempty same.symm
  rw [hostOf, Uri.merge_host merged hosted filled printed, Option.map_some, same]

/-- A redirect that is validated is one of AIUB's. -/
theorem validatedRedirectUrl_hop (current : Binary) (status : Int) (location : Binary) :
    (validatedRedirectUrl library current status location).Returns fun outcome =>
      ∀ target, outcome = .ok target → Hop library current target := by
  have spelled : https = [104, 116, 116, 112, 115] := by decide +kernel
  have scheme : Uri.IsScheme https ∧ https.map lower = https := by
    rw [spelled]
    exact ⟨⟨by decide, by decide +kernel⟩, by decide +kernel⟩
  have named : aiubDownloadHost ≠ [] := by decide +kernel
  have suffixed : aiubObjectStoreSuffix ≠ [] := by decide +kernel
  unfold validatedRedirectUrl
  apply Program.returns_orCrash.bind
  intro target merged
  dsimp only
  split
  · next allowed =>
    apply Program.returns_orCrash.bind
    intro text printed
    rintro _ ⟨⟩
    simp only [Bool.and_eq_true, Bool.or_eq_true, beq_iff_eq] at allowed
    obtain ⟨⟨from_secure, to_secure⟩, hosts⟩ := allowed
    have secure := Uri.toString_scheme printed to_secure scheme.1 scheme.2
    rcases hosts with ⟨web, download⟩ | ⟨source, store⟩
    · have placed := hostOf_merged merged download named printed
      exact ⟨from_secure, secure, .inl web, .inl placed⟩
    · obtain ⟨host, known, suffix⟩ := (Option.any_eq_true _ _).mp store
      have ending : aiubObjectStoreSuffix <:+ host := List.isSuffixOf_iff_suffix.mp suffix
      have filled : host ≠ [] := by
        rintro rfl
        exact suffixed (List.suffix_nil.mp ending)
      have placed := hostOf_merged merged known filled printed
      exact ⟨from_secure, secure, source, .inr ⟨host, placed, ending⟩⟩
  · rintro _ ⟨⟩

section Requests

/-- Where a hop of an attempt stands: it may be requested next. -/
structure Standing (library : Library) (original : Binary) (redirectsLeft : Nat) (current : Binary)
    (past : Past) : Prop where
  confined : Confined library original (requested past) current
  left : (requested past).length + redirectsLeft ≤ maxRedirects

/-- A response is read without any call. -/
theorem normalizeHttpResponse_quiet (answer : CustomAnswer) :
    (normalizeHttpResponse answer).Uses fun _ => False := by
  cases answer with
  | response status headers body => cases body <;> trivial
  | failed reason => trivial
  | invalid => trivial
  | raised => trivial

/-- Programs without calls keep any contract, and the history. -/
theorem quiet_keeps {α : Type} {program : Action α} (quiet : program.Uses fun _ => False) :
    KeepsConfined library original (fun after _ => after = past) past program := by
  cases program with
  | done value => rfl
  | crash reason => rfl
  | call request next => exact quiet.1.elim

/-- A confined request is sent, and its answer is all that happens. -/
theorem httpRequest_confined (confined : Confined library original (requested past) current) :
    KeepsConfined library original
      (fun after outcome => ∀ value, outcome = .ok value → requested after = current :: requested past)
      past (httpRequest opts current) := by
  unfold httpRequest
  cases opts.httpClient with
  | invalid => rintro _ ⟨⟩
  | custom =>
    refine ⟨confined, fun answer _ => ?_⟩
    apply (quiet_keeps (normalizeHttpResponse_quiet answer)).mono
    rintro _ outcome rfl _ _
    rfl
  | builtIn =>
    refine ⟨confined, fun answer _ => ?_⟩
    refine (quiet_keeps ?_).mono ?_
    · cases answer with
      | response status headers body overflow =>
        dsimp only [Program.bind]
        cases enforceStreamedSize status overflow opts.maxCompressedBytes <;> trivial
      | failed reason => trivial
      | raised => trivial
    · rintro _ outcome rfl _ _
      rfl

/-- A response is followed by one of AIUB's redirects or ends the download. -/
theorem handleHttpResponse_confined {response : Except Reason Response}
    {follow : Option (Binary → Action (Except Reason Binary))}
    (follows : ∀ next, follow = some next → ∀ target, Hop library current target →
      KeepsConfined library original (fun _ _ => True) past (next target)) :
    KeepsConfined library original (fun _ _ => True) past
      (handleHttpResponse library current follow response) := by
  cases response with
  | error reason => trivial
  | ok response =>
    unfold handleHttpResponse
    dsimp only
    split
    · trivial
    · split
      · trivial
      · split
        · split
          · next next location _ =>
            apply ((quiet_keeps (validatedRedirectUrl_quiet library current response.status _)).and_returns
              (validatedRedirectUrl_hop current response.status _)).bind ?_ fun _ _ _ => trivial
            intro after outcome kept
            obtain ⟨rfl, hop⟩ := kept
            cases outcome with
            | ok target => exact follows next rfl target (hop _ rfl target rfl)
            | error reason => trivial
          · trivial
        · trivial

/-- An attempt over HTTP keeps to the hosts, however many redirects are left. -/
theorem doDownloadOnce_confined {redirectsLeft : Nat}
    (standing : Standing library original redirectsLeft current past) :
    KeepsConfined library original (fun _ _ => True) past
      (doDownloadOnce library opts redirectsLeft current) := by
  have once {follow : Option (Binary → Action (Except Reason Binary))}
      {past : Past} {current : Binary} (confined : Confined library original (requested past) current)
      (follows : ∀ next, follow = some next → ∀ target after, Hop library current target →
        requested after = current :: requested past →
        KeepsConfined library original (fun _ _ => True) after (next target)) :
      KeepsConfined library original (fun _ _ => True) past (Program.rescue (do
        handleHttpResponse library current follow (← httpRequest opts current))
        fun _ => pure (.error (.network .exception))) := by
    apply Program.Keeps.rescue
    apply (httpRequest_confined confined).bind ?_ fun _ _ _ => trivial
    intro after response sent
    apply (handleHttpResponse_confined fun next known target hop =>
      follows next known target after hop (sent response rfl)).mono
    intro later outcome _
    cases outcome <;> trivial
  induction redirectsLeft generalizing current past with
  | zero =>
    unfold doDownloadOnce
    apply once standing.confined
    intro next absent
    cases absent
  | succ redirectsLeft ih =>
    unfold doDownloadOnce
    apply once standing.confined
    intro next given target after hop sent
    cases given
    have within := standing.left
    apply ih
    constructor
    · rw [sent]
      constructor
      · intro absent
        cases absent
      · intro previous rest same
        cases same
        exact hop
      · rw [List.length_cons]
        omega
    · rw [sent, List.length_cons]
      omega

end Requests

section Downloads

variable {fuel : Nat} {protocol : Binary}

/-- Where an attempt begins: nothing was requested in it. -/
structure Fresh (past : Past) : Prop where
  requested : requested past = []
  session : session past = []

/-- A fetch over FTP connects to the host of the cataloged URL, or where the replies lead it. -/
theorem ftpDownload_confined (fresh : Fresh past) :
    KeepsConfined library original (fun _ _ => True) past (ftpDownload fuel opts original) := by
  unfold ftpDownload
  cases opts.ftpClient with
  | invalid => trivial
  | custom =>
    refine ⟨rfl, fun answer _ => ?_⟩
    cases answer <;> trivial
  | builtIn =>
    have fetched := Ftp.ftpDownload_directed fuel opts.maxCompressedBytes original
    have lifted : KeepsConfined library original (fun _ _ => True) past
        (overFtp (Ftp.ftpDownload fuel original opts.maxCompressedBytes)) :=
      fetched.embed session (fun _ _ _ => rfl) (fun _ _ directed => directed) fresh.session
    apply lifted.bind ?_ fun _ _ _ => trivial
    intro after outcome _
    cases outcome <;> trivial

/-- An attempt keeps to the hosts. -/
theorem downloadOnce_confined (fresh : Fresh past) :
    KeepsConfined library original (fun _ _ => True) past
      (downloadOnce fuel library opts original) := by
  unfold downloadOnce
  split
  · exact ftpDownload_confined fresh
  · apply doDownloadOnce_confined
    constructor
    · constructor
      · intro _
        rfl
      · intro previous rest later
        rw [fresh.requested] at later
        cases later
      · rw [fresh.requested]
        exact Nat.zero_le _
    · rw [fresh.requested, List.length_nil, Nat.zero_add]

/-- A download keeps to the hosts, and so does every retry, which is an attempt of its own. -/
theorem doDownload_confined {retriesLeft attempt : Nat} (fresh : Fresh past) :
    KeepsConfined library original (fun _ _ => True) past
      (doDownload fuel library opts original retriesLeft attempt) := by
  induction retriesLeft generalizing attempt past with
  | zero =>
    unfold doDownload
    apply (downloadOnce_confined fresh).bind ?_ fun _ _ _ => trivial
    intro after outcome _
    cases outcome with
    | ok body =>
      dsimp only
      split <;> trivial
    | error reason => trivial
  | succ retriesLeft ih =>
    unfold doDownload
    apply (downloadOnce_confined fresh).bind ?_ fun _ _ _ => trivial
    intro after outcome _
    cases outcome with
    | ok body =>
      dsimp only
      split <;> trivial
    | error reason =>
      dsimp only
      split
      · unfold sleepBackoff
        cases opts.backoff attempt with
        | none => trivial
        | some milliseconds => exact ⟨trivial, fun _ _ => ih ⟨rfl, rfl⟩⟩
      · trivial

/-- A URL that passes the check is accepted. -/
theorem checkHost_accepted (checked : checkHost library original protocol = .ok ()) :
    Accepted library original protocol := by
  unfold checkHost at checked
  dsimp only at checked
  split at checked
  · cases checked
  · next listed =>
    split at checked
    · cases checked
    · next schemed =>
      rw [Decidable.not_not, Option.any_eq_true] at listed
      obtain ⟨host, known, member⟩ := listed
      exact ⟨⟨host, of_decide_eq_true member, known⟩, Decidable.not_not.mp schemed⟩

/-- Whatever it is answered, a download calls nothing unless its URL is accepted, and then requests
that URL, or what at most five redirects over `https` from AIUB's web or download host to the
download host or the object store lead to; over FTP it connects to the host of the URL, and for its
data to the same host or to the address that the reply just read to `PASV` names. -/
theorem download_confined (fuel : Nat) (library : Library) (opts : Options)
    (original protocol : Binary) :
    Program.Keeps
      (fun past request => Accepted library original protocol ∧ Confines library original past request)
      (fun _ _ _ => True) (fun _ _ => True) [] (download fuel library opts original protocol) := by
  unfold download
  cases checked : checkHost library original protocol with
  | error reason => trivial
  | ok _ =>
    have accepted := checkHost_accepted checked
    have confined : KeepsConfined library original (fun _ _ => True) []
        (doDownload fuel library opts original (opts.retries - 1) 1) := doDownload_confined ⟨rfl, rfl⟩
    exact confined.allow fun past request allowed => ⟨accepted, allowed⟩

end Downloads

section Sample

/-- A catalog of one host. -/
def catalog : Library := asciiLibrary [ascii "igs.gnsswhu.cn"]

/-- A cataloged file. -/
def catalogedUrl : Binary := ascii "ftp://igs.gnsswhu.cn/a"

/-- A command of a session and the line that answers it. -/
def exchanged (cmd reply : String) : List (Event Call Answer) :=
  [⟨.ftp (.send (ascii cmd)), .ok ()⟩, ⟨.ftp .recvLine, .ok (ascii reply)⟩]

/-- A session whose server names another address for the data. -/
def elsewhere : List (Event Call Answer) :=
  [⟨.ftp (.connect (.name (ascii "igs.gnsswhu.cn"))), .ok ()⟩,
    ⟨.ftp .recvLine, .ok (ascii "220 Ready\r\n")⟩] ++
    exchanged "USER anonymous\r\n" "230 in\r\n" ++ exchanged "TYPE I\r\n" "200 ok\r\n" ++
    exchanged "PASV\r\n" "227 (10,0,0,9,4,1)\r\n" ++
    [⟨.ftp (.connectData (.address 10 0 0 9) 1025), .error .timeout⟩,
      ⟨.ftp (.send (ascii "QUIT\r\n")), .ok ()⟩, ⟨.ftp .closeControl, ()⟩]

/-- A download follows the address of the reply to `PASV`, which is not the control host. -/
theorem download_elsewhere :
    (∃ result, (download 5 catalog { retries := 1 } catalogedUrl (ascii "ftp")).Ends elsewhere
      result) ∧
    (∃ event ∈ elsewhere, event.request = .ftp (.connectData (.address 10 0 0 9) 1025)) ∧
    ∀ event ∈ elsewhere, ∀ host, event.request = .ftp (.connect host) →
      host = .name (ascii "igs.gnsswhu.cn") := by
  refine ⟨⟨.error (.network (.ftp (.ftp (.net .timeout)))), ?_⟩, ?_, ?_⟩
  · have checked : checkHost catalog catalogedUrl (ascii "ftp") = .ok () := by decide +kernel
    have prefixed : (ascii "ftp://").isPrefixOf catalogedUrl = true := by decide +kernel
    rw [download, checked]
    change Program.Ends (doDownload _ _ _ _ 0 1) _ _
    rw [doDownload, downloadOnce, if_pos prefixed]
    iterate 11 apply Program.Ends.answer
    exact ⟨rfl, rfl⟩
  · refine ⟨⟨.ftp (.connectData (.address 10 0 0 9) 1025), .error .timeout⟩, ?_, rfl⟩
    simp [elsewhere]
  · intro event member host same
    simp only [elsewhere, exchanged, List.cons_append, List.nil_append, List.mem_cons,
      List.not_mem_nil, or_false] at member
    rcases member with rfl | rfl | rfl | rfl | rfl | rfl | rfl | rfl | rfl | rfl | rfl
    · cases same
      rfl
    all_goals cases same

end Sample

end Sidereon.Data
