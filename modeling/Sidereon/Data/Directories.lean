import Sidereon.Data.Publication
import Sidereon.Ftp.Absence
import Sidereon.Ftp.Transfer

/-!
# Walks over the directories of an archive

A publication query passes over the directories that are absent or listed without the product, and
stops at the first that holds it or cannot be read. What a directory answered is in the record of
its fetch: the response that ended it, or the replies of an FTP session.
-/

namespace Sidereon.Data

open Foundation

/-- The answered calls of a fetch, first to last. -/
abbrev Record := List (Event Call Answer)

/-- A response with a status and a body. -/
inductive Responds (status : Int) (body : Binary) : Event Call Answer → Prop where
  | custom (url : Binary) (headers : Headers) :
      Responds status body ⟨.getCustom url, .response status headers (some body)⟩
  | req (url : Binary) (limit : Nat) (headers : Headers) (overflow : Bool) :
      Responds status body ⟨.getReq url limit, .response status headers body overflow⟩

/-- A response that redirects. -/
def IsRedirect (event : Event Call Answer) : Prop :=
  ∃ status body, 300 ≤ status ∧ status ≤ 399 ∧ Responds status body event

/-- Redirects, and a response that ends them. -/
def Concluded (record : Record) (status : Int) (body : Binary) : Prop :=
  ∃ redirects last, record = redirects ++ [last] ∧ (∀ event ∈ redirects, IsRedirect event) ∧
    Responds status body last

/-- A call of an FTP session among those of the data layer. -/
def ftpEvent (event : Event Ftp.Request Ftp.Answer) : Event Call Answer :=
  ⟨.ftp event.request, event.answer⟩

/-- A directory that says that it is not there: 404 or 410 over HTTP, 550 over FTP, or what a client
or a fetcher of the caller says. -/
inductive Absent (status : Int) : Record → Prop where
  | http {record : Record} {body : Binary} (concluded : Concluded record status body)
      (authoritative : status = 404 ∨ status = 410) : Absent status record
  | ftp {session : Ftp.Record} (refused : Ftp.Refused session) :
      Absent status (session.map ftpEvent)
  | ftpClient (url : Binary) (reason : Reason)
      (authoritative : (∃ url, reason = .notFoundOnArchive url) ∨ ∃ url, reason = .httpStatus 410 url) :
      Absent status [⟨.ftpCustom url, .result (.error reason)⟩]
  | fetcher (url : Binary) : Absent status [⟨.fetchListing url, .notPosted status⟩]

/-- A directory that gives a body: a response of success over HTTP, a complete transfer over FTP, or
what a client or a fetcher of the caller gives. -/
inductive Delivered (body : Binary) : Record → Prop where
  | http {record : Record} {status : Int} (concluded : Concluded record status body)
      (success : 200 ≤ status ∧ status ≤ 299) : Delivered body record
  | ftp {session : Ftp.Record} (complete : Ftp.Complete session body) :
      Delivered body (session.map ftpEvent)
  | ftpClient (url : Binary) : Delivered body [⟨.ftpCustom url, .result (.ok body)⟩]
  | fetcher (url : Binary) : Delivered body [⟨.fetchListing url, .listed body⟩]

/-- What the record of a fetch shows of its answer. -/
def Shows (record : Record) : FetchedListing → Prop
  | .ok body => Delivered body record
  | .notPosted status => Absent status record
  | _ => True

section Http

variable {library : Library} {opts : Options} {url : Binary} {record : Record}

/-- What the record of a download over HTTP shows of its result. -/
def HttpShows (record : Record) : Except Reason Binary → Prop
  | .ok body => ∃ status, Concluded record status body ∧ 200 ≤ status ∧ status ≤ 299
  | .error (.notFoundOnArchive _) => ∃ body, Concluded record 404 body
  | .error (.httpStatus status _) => ∃ body, Concluded record status body
  | _ => True

/-- A request has one answer: a response, or an error of its own. -/
theorem ends_httpRequest {answered : Except Reason Response}
    (ends : (httpRequest opts url).Ends record answered) :
    (∃ response event, answered = .ok response ∧ record = [event] ∧
      Responds response.status response.body event) ∨
    ∃ reason, answered = .error reason ∧ HttpShows record (.error reason) := by
  unfold httpRequest at ends
  cases given : opts.httpClient with
  | invalid =>
    rw [given] at ends
    exact ends.elim
  | custom =>
    rw [given] at ends
    obtain ⟨answer, later, rfl, ends⟩ := ends
    cases answer with
    | response status headers body =>
      cases body with
      | none => exact ends.elim
      | some body =>
        obtain ⟨rfl, rfl⟩ := ends
        exact .inl ⟨_, _, rfl, rfl, .custom url headers⟩
    | failed reason =>
      obtain ⟨rfl, rfl⟩ := ends
      exact .inr ⟨_, rfl, trivial⟩
    | invalid =>
      obtain ⟨rfl, rfl⟩ := ends
      exact .inr ⟨_, rfl, trivial⟩
    | raised => exact ends.elim
  | builtIn =>
    rw [given] at ends
    obtain ⟨answer, later, rfl, ends⟩ := ends
    cases answer with
    | response status headers body overflow =>
      dsimp only [Program.bind] at ends
      unfold enforceStreamedSize at ends
      split at ends
      · next limited =>
        obtain ⟨rfl, rfl⟩ := ends
        exact .inl ⟨_, _, rfl, rfl, .req url _ headers overflow⟩
      · next reason limited =>
        obtain ⟨rfl, rfl⟩ := ends
        right
        split at limited
        · cases limited
          exact ⟨_, rfl, trivial⟩
        · cases limited
    | failed reason =>
      obtain ⟨rfl, rfl⟩ := ends
      exact .inr ⟨_, rfl, trivial⟩
    | raised => exact ends.elim

/-- What follows a redirect shows the same of the whole. -/
theorem HttpShows.redirected {event : Event Call Answer} {result : Except Reason Binary}
    (redirect : IsRedirect event) (shows : HttpShows record result) :
    HttpShows (event :: record) result := by
  have longer {status : Int} {body : Binary} (concluded : Concluded record status body) :
      Concluded (event :: record) status body := by
    obtain ⟨redirects, last, rfl, all, responds⟩ := concluded
    refine ⟨event :: redirects, last, rfl, ?_, responds⟩
    intro other member
    rcases List.mem_cons.mp member with rfl | onward
    · exact redirect
    · exact all other onward
  cases result with
  | ok body =>
    obtain ⟨status, concluded, success⟩ := shows
    exact ⟨status, longer concluded, success⟩
  | error reason =>
    cases reason with
    | notFoundOnArchive url =>
      obtain ⟨body, concluded⟩ := shows
      exact ⟨body, longer concluded⟩
    | httpStatus status url =>
      obtain ⟨body, concluded⟩ := shows
      exact ⟨body, longer concluded⟩
    | redirectNotAllowed status url => trivial
    | downloadSizeExceeded limit => trivial
    | network detail => trivial

/-- A response that is not followed is the last one. -/
theorem ends_handleHttpResponse {response : Response} {event : Event Call Answer}
    {follow : Option (Binary → Action (Except Reason Binary))} {result : Except Reason Binary}
    (responds : Responds response.status response.body event)
    (follows : ∀ next, follow = some next → ∀ target record,
      (next target).Ends record result → HttpShows record result)
    (ends : (handleHttpResponse library url follow (.ok response)).Ends record result) :
    HttpShows (event :: record) result := by
  have alone : Concluded [event] response.status response.body :=
    ⟨[], event, rfl, by simp, responds⟩
  unfold handleHttpResponse at ends
  dsimp only at ends
  split at ends
  · next success =>
    obtain ⟨rfl, rfl⟩ := ends
    exact ⟨_, alone, success⟩
  · split at ends
    · next missing =>
      obtain ⟨rfl, rfl⟩ := ends
      exact ⟨_, missing ▸ alone⟩
    · split at ends
      · next redirect =>
        split at ends
        · next next location _ =>
          obtain ⟨validated, first, later, rfl, validates, ends⟩ := Program.ends_bind.mp ends
          have quiet := (validatedRedirectUrl_quiet library url response.status _).ends validates
          obtain rfl : first = [] := List.eq_nil_iff_forall_not_mem.mpr quiet
          cases validated with
          | ok target =>
            have shows := follows next rfl target later ends
            exact shows.redirected ⟨_, _, redirect.1, redirect.2, responds⟩
          | error reason =>
            obtain ⟨rfl, rfl⟩ := ends
            trivial
        · obtain ⟨rfl, rfl⟩ := ends
          trivial
      · obtain ⟨rfl, rfl⟩ := ends
        exact ⟨_, alone⟩

/-- A download over HTTP gives the body of the response that ended it, or its status. -/
theorem ends_doDownloadOnce {redirectsLeft : Nat} {result : Except Reason Binary}
    (ends : (doDownloadOnce library opts redirectsLeft url).Ends record result) :
    HttpShows record result := by
  have once {follow : Option (Binary → Action (Except Reason Binary))} {url : Binary}
      {record : Record}
      (follows : ∀ next, follow = some next → ∀ target record,
        (next target).Ends record result → HttpShows record result)
      (ends : (Program.rescue (do handleHttpResponse library url follow (← httpRequest opts url))
        fun _ => pure (.error (.network .exception))).Ends record result) :
      HttpShows record result := by
    by_cases raised : result = .error (.network .exception)
    · subst raised
      trivial
    · have downloads : (do handleHttpResponse library url follow (← httpRequest opts url)).Ends
          record result := by
        apply Program.ends_rescue ?_ ends
        intro reason record handled
        exact raised handled.2
      obtain ⟨answered, first, later, rfl, requests, handles⟩ := Program.ends_bind.mp downloads
      rcases ends_httpRequest requests with ⟨response, event, rfl, rfl, responds⟩ | ⟨reason, rfl, shows⟩
      · exact ends_handleHttpResponse responds follows handles
      · obtain ⟨rfl, rfl⟩ := handles
        rw [List.append_nil]
        exact shows
  induction redirectsLeft generalizing url record with
  | zero =>
    unfold doDownloadOnce at ends
    apply once ?_ ends
    intro next absent
    cases absent
  | succ redirectsLeft ih =>
    unfold doDownloadOnce at ends
    apply once ?_ ends
    intro next given target record ends
    cases given
    exact ih ends

end Http

section Fetches

variable {fuel : Nat} {library : Library} {opts : Options} {listingFetcher : Bool} {url : Binary}
  {record : Record}

/-- A session over the data layer is the session. -/
theorem ends_overFtp {α : Type} {program : Ftp.Action α} {value : α}
    (ends : (overFtp program).Ends record value) :
    ∃ session : Ftp.Record, record = session.map ftpEvent ∧ program.Ends session value := by
  induction program generalizing record with
  | done result =>
    obtain ⟨rfl, rfl⟩ := ends
    exact ⟨[], rfl, rfl, rfl⟩
  | crash reason => exact ends.elim
  | call request next ih =>
    obtain ⟨answer, later, rfl, ends⟩ := ends
    obtain ⟨session, rfl, continues⟩ := ih answer ends
    exact ⟨⟨request, answer⟩ :: session, rfl, answer, session, rfl, continues⟩

/-- What a listing shows, as the result of the transport it is read of. -/
def TransportShows (record : Record) : Except Reason Binary → Prop
  | .ok body => Delivered body record
  | .error (.notFoundOnArchive _) => Absent 404 record
  | .error (.httpStatus 410 _) => Absent 410 record
  | _ => True

/-- A fetch over FTP gives the body of a complete transfer, or finds the object absent. -/
theorem ends_fetchFtp {result : Except Reason Binary}
    (ends : (ftpDownload fuel opts url).Ends record result) : TransportShows record result := by
  unfold ftpDownload at ends
  cases given : opts.ftpClient with
  | invalid =>
    rw [given] at ends
    obtain ⟨rfl, rfl⟩ := ends
    trivial
  | custom =>
    rw [given] at ends
    obtain ⟨answer, later, rfl, ends⟩ := ends
    cases answer with
    | raised =>
      obtain ⟨rfl, rfl⟩ := ends
      trivial
    | result answered =>
      obtain ⟨rfl, rfl⟩ := ends
      unfold TransportShows
      split
      · exact .ftpClient url
      · next missing => exact .ftpClient url _ (.inl ⟨missing, rfl⟩)
      · next gone => exact .ftpClient url _ (.inr ⟨gone, rfl⟩)
      · trivial
  | builtIn =>
    rw [given] at ends
    obtain ⟨fetched, first, later, rfl, fetches, ends⟩ := Program.ends_bind.mp ends
    obtain ⟨session, rfl, served⟩ := ends_overFtp fetches
    cases fetched with
    | ok body =>
      obtain ⟨rfl, rfl⟩ := ends
      rw [List.append_nil]
      exact .ftp (Ftp.ends_ftpDownload served).1
    | error reason =>
      obtain ⟨rfl, rfl⟩ := ends
      rw [List.append_nil]
      cases reason with
      | notFoundOnArchive missing =>
        exact .ftp (Ftp.ftpDownload_blames session _ served ⟨missing, rfl⟩)
      | network detail => trivial
      | downloadSizeExceeded limit => trivial

/-- A download by either protocol shows its result. -/
theorem ends_downloadOnce {result : Except Reason Binary}
    (ends : (downloadOnce fuel library opts url).Ends record result) :
    TransportShows record result := by
  unfold downloadOnce at ends
  split at ends
  · exact ends_fetchFtp ends
  · have shows := ends_doDownloadOnce ends
    unfold TransportShows
    split
    · obtain ⟨status, concluded, success⟩ := shows
      exact .http concluded success
    · obtain ⟨body, concluded⟩ := shows
      exact .http concluded (.inl rfl)
    · obtain ⟨body, concluded⟩ := shows
      exact .http concluded (.inr rfl)
    · trivial

/-- The record of a directory's fetch shows its answer. -/
theorem ends_fetchListingBody {answer : FetchedListing}
    (ends : (fetchListingBody fuel library opts listingFetcher url).Ends record answer) :
    Shows record answer := by
  unfold fetchListingBody at ends
  split at ends
  · obtain ⟨answered, later, rfl, ends⟩ := ends
    cases answered with
    | listed body =>
      obtain ⟨rfl, rfl⟩ := ends
      exact .fetcher url
    | notPosted status =>
      obtain ⟨rfl, rfl⟩ := ends
      exact .fetcher url
    | failed reason =>
      obtain ⟨rfl, rfl⟩ := ends
      trivial
    | raised => exact ends.elim
  · obtain ⟨result, first, later, rfl, downloads, ends⟩ := Program.ends_bind.mp ends
    have shows := ends_downloadOnce downloads
    split at ends
    · obtain ⟨rfl, rfl⟩ := ends
      rw [List.append_nil]
      exact shows
    · obtain ⟨rfl, rfl⟩ := ends
      rw [List.append_nil]
      exact shows
    · obtain ⟨rfl, rfl⟩ := ends
      rw [List.append_nil]
      exact shows
    · obtain ⟨rfl, rfl⟩ := ends
      trivial

end Fetches

section Walks

variable {Objects Issue Time : Type} (fuel : Nat) (library : Library) (opts : Options)
  (listings : Listings Objects Issue Time) (center productType : Binary) (now : Time)
  (listingFetcher : Bool)

/-- A directory that was asked: its URL, the record of the fetch and its answer. -/
structure Visit where
  url : Binary
  record : Record
  answer : FetchedListing

/-- The directory was fetched with that record and answer, and the record shows the answer. -/
structure Visit.Made (visit : Visit) : Prop where
  fetched : (fetchListingBody fuel library opts listingFetcher visit.url).Ends visit.record
    visit.answer
  shown : Shows visit.record visit.answer

/-- A directory that is not posted, or is readable without an issue of the product. -/
def PassedOver : FetchedListing → Prop
  | .notPosted _ => True
  | .ok body => ∃ objects, listings.parseArchiveListing body = .ok objects ∧
      listings.newestPublishedProduct center productType objects = .ok none
  | _ => False

/-- A readable directory whose newest issue of the product is the given one. -/
def Holds (issue : Issue) : FetchedListing → Prop
  | .ok body => ∃ objects, listings.parseArchiveListing body = .ok objects ∧
      listings.newestPublishedProduct center productType objects = .ok (some issue)
  | _ => False

/-- A directory whose fetch failed, or whose body the core refuses. -/
def Unread (reason : Unreachable) : FetchedListing → Prop
  | .notPosted _ => False
  | .ok body => ∃ refusal, reason = .core refusal ∧
      (listings.parseArchiveListing body = .error refusal ∨
        ∃ objects, listings.parseArchiveListing body = .ok objects ∧
          listings.newestPublishedProduct center productType objects = .error refusal)
  | .error failure => reason = .transport failure
  | .failed failure => reason = .fetcher failure

/-- What a query returns for a directory that it stops at. -/
def Stops (url : Binary) (answer : FetchedListing) : PublicationStatus Issue → Prop
  | .published issue listingUrl behind => listingUrl = url ∧
      Holds listings center productType issue answer ∧
      listings.publishedIssueAgeMinutes issue now = .ok behind
  | .unreachable failed reason => failed = url ∧ Unread listings center productType reason answer
  | _ => False

/-- What a query over directories returns after its visits: the first directory that is not passed
over decides, and without one nothing is published. -/
def Decided (allUrls urls : List Binary) (visits : List Visit) : PublicationStatus Issue → Prop
  | .nothingPublished listed => listed = allUrls ∧ visits.map Visit.url = urls ∧
      ∀ visit ∈ visits, PassedOver listings center productType visit.answer
  | status => ∃ newer last older, urls = newer.map Visit.url ++ last.url :: older ∧
      visits = newer ++ [last] ∧
      (∀ visit ∈ newer, PassedOver listings center productType visit.answer) ∧
      Stops listings center productType now last.url last.answer status

variable {fuel library opts listings center productType now listingFetcher}
variable {allUrls urls : List Binary} {url : Binary} {record : Record}
  {status : PublicationStatus Issue}

/-- A query over directories is decided by the first of them, or by the others after it is passed
over. -/
theorem decided_cons {visits : List Visit} :
    Decided listings center productType now allUrls (url :: urls) visits status ↔
      ∃ visit later, visits = visit :: later ∧ visit.url = url ∧
        (PassedOver listings center productType visit.answer ∧
            Decided listings center productType now allUrls urls later status ∨
          later = [] ∧ Stops listings center productType now visit.url visit.answer status) := by
  have stopping : (∃ newer last older, url :: urls = newer.map Visit.url ++ last.url :: older ∧
      visits = newer ++ [last] ∧
      (∀ visit ∈ newer, PassedOver listings center productType visit.answer) ∧
      Stops listings center productType now last.url last.answer status) ↔
      ∃ visit later, visits = visit :: later ∧ visit.url = url ∧
        (PassedOver listings center productType visit.answer ∧
            (∃ newer last older, urls = newer.map Visit.url ++ last.url :: older ∧
              later = newer ++ [last] ∧
              (∀ visit ∈ newer, PassedOver listings center productType visit.answer) ∧
              Stops listings center productType now last.url last.answer status) ∨
          later = [] ∧ Stops listings center productType now visit.url visit.answer status) := by
    constructor
    · rintro ⟨newer, last, older, listed, rfl, passed, stops⟩
      cases newer with
      | nil =>
        obtain ⟨rfl, rfl⟩ := List.cons.inj listed
        exact ⟨last, [], rfl, rfl, .inr ⟨rfl, stops⟩⟩
      | cons visit newer =>
        obtain ⟨rfl, behind⟩ := List.cons.inj listed
        obtain ⟨first, passed⟩ := List.forall_mem_cons.mp passed
        exact ⟨visit, _, rfl, rfl, .inl ⟨first, newer, last, older, behind, rfl, passed, stops⟩⟩
    · rintro ⟨visit, later, rfl, rfl, ⟨first, newer, last, older, rfl, rfl, passed, stops⟩ |
        ⟨rfl, stops⟩⟩
      · exact ⟨visit :: newer, last, older, rfl, rfl, List.forall_mem_cons.mpr ⟨first, passed⟩, stops⟩
      · exact ⟨[], visit, urls, rfl, rfl, by simp, stops⟩
  cases status with
  | nothingPublished listed =>
    constructor
    · rintro ⟨same, visited, passed⟩
      cases visits with
      | nil => cases visited
      | cons visit later =>
        obtain ⟨rfl, behind⟩ := List.cons.inj visited
        obtain ⟨first, passed⟩ := List.forall_mem_cons.mp passed
        exact ⟨visit, later, rfl, rfl, .inl ⟨first, same, behind, passed⟩⟩
    · rintro ⟨visit, later, rfl, rfl, ⟨first, same, rfl, passed⟩ | ⟨_, stops⟩⟩
      · exact ⟨same, rfl, List.forall_mem_cons.mpr ⟨first, passed⟩⟩
      · exact stops.elim
  | published issue listingUrl behind => exact stopping
  | unreachable failed reason => exact stopping
  | error reason => exact stopping

/-- What a query does with an answer: it walks back after a directory that is passed over, and stops
at any other. -/
theorem ends_afterListing {walkBack : Action (PublicationStatus Issue)} {answer : FetchedListing} :
    (afterListing listings center productType now url walkBack answer).Ends record status ↔
      PassedOver listings center productType answer ∧ walkBack.Ends record status ∨
        record = [] ∧ Stops listings center productType now url answer status := by
  cases answer with
  | notPosted code =>
    have goes : ¬Stops listings center productType now url (.notPosted code) status := by
      cases status <;> simp [Stops, Holds, Unread]
    simp [afterListing, PassedOver, goes]
  | error reason =>
    rw [afterListing, Program.ends_pure]
    cases status <;> simp [PassedOver, Stops, Holds, Unread]
  | failed reason =>
    rw [afterListing, Program.ends_pure]
    cases status <;> simp [PassedOver, Stops, Holds, Unread]
  | ok body =>
    rw [afterListing]
    cases parsed : listings.parseArchiveListing body with
    | error reason =>
      dsimp only
      rw [Program.ends_pure]
      cases status <;> simp [PassedOver, Stops, Holds, Unread, parsed, eq_comm]
    | ok objects =>
      dsimp only
      cases searched : listings.newestPublishedProduct center productType objects with
      | error reason =>
        dsimp only
        rw [Program.ends_pure]
        cases status <;> simp [PassedOver, Stops, Holds, Unread, parsed, searched, eq_comm]
      | ok newest =>
        cases newest with
        | none =>
          have goes : ¬Stops listings center productType now url (.ok body) status := by
            cases status <;> simp [Stops, Holds, Unread, parsed, searched]
          simp [PassedOver, parsed, searched, goes]
        | some newest =>
          have passed : ¬PassedOver listings center productType (.ok body) := by
            simp [PassedOver, parsed, searched]
          have stops : Stops listings center productType now url (.ok body) status ↔
              ∃ behind, listings.publishedIssueAgeMinutes newest now = .ok behind ∧
                status = .published newest url behind := by
            cases status with
            | published issue listingUrl behind =>
              simp only [Stops, Holds, parsed, searched, Except.ok.injEq, Option.some.injEq,
                exists_eq_left', PublicationStatus.published.injEq]
              constructor
              · rintro ⟨rfl, rfl, aged⟩
                exact ⟨behind, aged, rfl, rfl, rfl⟩
              · rintro ⟨_, aged, rfl, rfl, rfl⟩
                exact ⟨rfl, rfl, aged⟩
            | nothingPublished listed => simp [Stops]
            | unreachable failed reason => simp [Stops, Unread, parsed, searched]
            | error reason => simp [Stops]
          dsimp only
          rw [stops, Program.ends_bind]
          constructor
          · rintro ⟨behind, first, later, rfl, ages, rfl, rfl⟩
            obtain ⟨rfl, aged⟩ := Program.ends_orCrash.mp ages
            cases known : listings.publishedIssueAgeMinutes newest now with
            | error reason =>
              rw [known] at aged
              cases aged
            | ok minutes =>
              rw [known] at aged
              cases aged
              exact .inr ⟨rfl, behind, rfl, rfl⟩
          · rintro (⟨goes, _⟩ | ⟨rfl, behind, aged, rfl⟩)
            · exact absurd goes passed
            · refine ⟨behind, [], [], rfl, Program.ends_orCrash.mpr ⟨rfl, ?_⟩, rfl, rfl⟩
              rw [aged]
              rfl

/-- A walk over directories visits them one by one, and what it returns is decided by its visits. -/
theorem ends_walk :
    (walkPublicationListings fuel library opts listings center productType now listingFetcher allUrls
      urls).Ends record status ↔
    ∃ visits : List Visit, record = visits.flatMap Visit.record ∧
      (∀ visit ∈ visits, visit.Made fuel library opts listingFetcher) ∧
      Decided listings center productType now allUrls urls visits status := by
  induction urls generalizing record with
  | nil =>
    rw [walkPublicationListings, Program.ends_pure]
    constructor
    · rintro ⟨rfl, rfl⟩
      exact ⟨[], rfl, by simp, rfl, rfl, by simp⟩
    · rintro ⟨visits, rfl, _, decided⟩
      cases status with
      | nothingPublished listed =>
        obtain ⟨rfl, visited, _⟩ := decided
        obtain rfl := List.map_eq_nil_iff.mp visited
        exact ⟨rfl, rfl⟩
      | _ =>
        obtain ⟨newer, last, older, listed, _⟩ := decided
        simp at listed
  | cons url rest ih =>
    rw [walkPublicationListings, Program.ends_bind]
    constructor
    · rintro ⟨answer, first, later, rfl, fetches, continues⟩
      have made : Visit.Made fuel library opts listingFetcher ⟨url, first, answer⟩ :=
        ⟨fetches, ends_fetchListingBody fetches⟩
      rcases ends_afterListing.mp continues with ⟨passed, walks⟩ | ⟨rfl, stops⟩
      · obtain ⟨visits, rfl, all, decided⟩ := ih.mp walks
        refine ⟨⟨url, first, answer⟩ :: visits, rfl, List.forall_mem_cons.mpr ⟨made, all⟩, ?_⟩
        exact decided_cons.mpr ⟨_, _, rfl, rfl, .inl ⟨passed, decided⟩⟩
      · refine ⟨[⟨url, first, answer⟩], rfl, List.forall_mem_cons.mpr ⟨made, by simp⟩, ?_⟩
        exact decided_cons.mpr ⟨_, _, rfl, rfl, .inr ⟨rfl, stops⟩⟩
    · rintro ⟨visits, rfl, all, decided⟩
      obtain ⟨visit, later, rfl, rfl, outcome⟩ := decided_cons.mp decided
      obtain ⟨made, others⟩ := List.forall_mem_cons.mp all
      refine ⟨visit.answer, visit.record, later.flatMap Visit.record, rfl, made.fetched, ?_⟩
      rcases outcome with ⟨passed, decided⟩ | ⟨rfl, stops⟩
      · exact ends_afterListing.mpr (.inl ⟨passed, ih.mpr ⟨later, rfl, others, decided⟩⟩)
      · exact ends_afterListing.mpr (.inr ⟨rfl, stops⟩)

end Walks

section Sample

/-- A library without hosts. -/
def hostless : Library := asciiLibrary []

/-- Two directories, of which a nonempty body is the listing of one issue, an hour old. -/
def twoListings : Listings Binary Binary Unit where
  publicationListingUrls _ _ _ := .ok [ascii "ftp://h/2/", ascii "ftp://h/1/"]
  parseArchiveListing body := .ok body
  newestPublishedProduct _ _ objects := .ok (nillify objects)
  publishedIssueAgeMinutes _ _ := .ok 60

/-- A session up to the data connection. -/
def openSession : Record :=
  [⟨.ftp (.connect (.name (ascii "h"))), .ok ()⟩, ⟨.ftp .recvLine, .ok (ascii "220 Ready\r\n")⟩,
    ⟨.ftp (.send (ascii "USER anonymous\r\n")), .ok ()⟩, ⟨.ftp .recvLine, .ok (ascii "230 in\r\n")⟩,
    ⟨.ftp (.send (ascii "TYPE I\r\n")), .ok ()⟩, ⟨.ftp .recvLine, .ok (ascii "200 ok\r\n")⟩,
    ⟨.ftp (.send (ascii "PASV\r\n")), .ok ()⟩,
    ⟨.ftp .recvLine, .ok (ascii "227 (127,0,0,1,4,1)\r\n")⟩,
    ⟨.ftp (.connectData (.address 127 0 0 1) 1025), .ok 1⟩]

/-- The end of a session. -/
def endSession : Record := [⟨.ftp (.send (ascii "QUIT\r\n")), .ok ()⟩, ⟨.ftp .closeControl, ()⟩]

/-- The newer directory does not exist. -/
def refusedSession : Record :=
  openSession ++ [⟨.ftp (.send (ascii "LIST /2/\r\n")), .ok ()⟩,
    ⟨.ftp .recvLine, .ok (ascii "550 no\r\n")⟩] ++ endSession

/-- The older one is listed. -/
def listedSession : Record :=
  openSession ++ [⟨.ftp (.send (ascii "LIST /1/\r\n")), .ok ()⟩,
    ⟨.ftp .recvLine, .ok (ascii "150 here\r\n")⟩, ⟨.ftp (.recv 1), .ok (ascii "x")⟩,
    ⟨.ftp (.recv 1), .error .closed⟩, ⟨.ftp (.close 1), ()⟩,
    ⟨.ftp .recvLine, .ok (ascii "226 done\r\n")⟩] ++ endSession

end Sample

end Sidereon.Data
