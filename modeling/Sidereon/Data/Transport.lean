import Sidereon.Foundation.Embedding
import Sidereon.Ftp.Fetch

/-!
# The transport of the data layer

A cataloged URL is fetched over HTTP or FTP. An HTTP response is followed while redirects are left
and their targets are allowed, a 404 and an FTP 550 say that the archive does not have the object,
and a failed attempt is made again from the cataloged URL.
-/

namespace Sidereon.Data

open Foundation

/-- Response headers: each name with its values. -/
abbrev Headers := List (Binary × List Binary)

/-- What an HTTP client of the caller does. A body that is no iodata is absent. -/
inductive CustomAnswer where
  | response (status : Int) (headers : Headers) (body : Option Binary)
  | failed (reason : Binary)
  | invalid
  | raised

/-- What `Req` does, with whether the body was cut off at the limit. -/
inductive ReqAnswer where
  | response (status : Int) (headers : Headers) (body : Binary) (overflow : Bool)
  | failed (reason : Binary)
  | raised

/-- The details of a network error. -/
inductive NetworkDetail where
  | client (reason : Binary)
  | badHttpResponse
  | hostNotAllowed (host : Option Binary)
  | schemeMismatch (scheme : Option Binary) (protocol url : Binary)
  | ftp (detail : Ftp.NetworkDetail)
  | exception
  deriving DecidableEq, Repr

/-- The errors of the transport. -/
inductive Reason where
  | notFoundOnArchive (url : Binary)
  | redirectNotAllowed (status : Int) (url : Binary)
  | httpStatus (status : Int) (url : Binary)
  | downloadSizeExceeded (limit : Nat)
  | network (detail : NetworkDetail)
  deriving DecidableEq, Repr

/-- What an FTP client of the caller does. -/
inductive FtpAnswer where
  | result (result : Except Reason Binary)
  | raised

/-- What a listing fetcher of the caller does. An answer that no clause takes is a raise too. -/
inductive ListingAnswer where
  | listed (body : Binary)
  | notPosted (status : Int)
  | failed (reason : Binary)
  | raised

/-- The calls of the data layer. -/
inductive Call where
  | fetchListing (url : Binary)
  | getCustom (url : Binary)
  | getReq (url : Binary) (limit : Nat)
  | ftpCustom (url : Binary)
  | ftp (request : Ftp.Request)
  | sleep (milliseconds : Nat)

/-- The answer to each call. -/
abbrev Answer : Call → Type
  | .fetchListing _ => ListingAnswer
  | .getCustom _ => CustomAnswer
  | .getReq _ _ => ReqAnswer
  | .ftpCustom _ => FtpAnswer
  | .ftp request => Ftp.Answer request
  | .sleep _ => Unit

/-- Exceptions: of `URI`, of a client or its answer, an option that no clause takes, a backoff that
is no time to sleep, and those of an FTP session. -/
inductive Raised where
  | uri
  | client
  | noClause
  | backoff
  | ftp (reason : Ftp.Raised)
  deriving DecidableEq, Repr

/-- A program of the data layer. -/
abbrev Action (α : Type) := Program Call Answer Raised α

/-- A single call. -/
abbrev call (request : Call) : Action (Answer request) := Program.perform request

/-- The `:http_client` or the `:ftp_client` option. -/
inductive Client where
  | custom
  | builtIn
  | invalid
  deriving DecidableEq, Repr

/-- The options of a download. `backoff` gives the time to sleep after each attempt. -/
structure Options where
  httpClient : Client := .builtIn
  ftpClient : Client := .builtIn
  maxCompressedBytes : Nat := 67108864
  retries : Nat := 3
  backoff : Nat → Option Nat := fun attempt => some (500 * Nat.pow 2 (attempt - 1))

/-- `String.downcase`, which maps the letters of ASCII as it should, and the hosts of the
catalog. -/
structure Library where
  downcase : Binary → Binary
  downcase_ascii : ∀ text, (∀ byte ∈ text, byte < 128) → downcase text = text.map lower
  allowedHosts : List Binary

/-- The library of a catalog of these hosts, whose texts are all ASCII. -/
def asciiLibrary (allowedHosts : List Binary) : Library where
  downcase text := text.map lower
  downcase_ascii _ _ := rfl
  allowedHosts := allowedHosts

/-- `@max_redirects`. -/
def maxRedirects : Nat := 5

/-- `@aiub_web_host`. -/
def aiubWebHost : Binary := ascii "www.aiub.unibe.ch"

/-- `@aiub_download_host`. -/
def aiubDownloadHost : Binary := ascii "download.aiub.unibe.ch"

/-- `@aiub_object_store_suffix`. -/
def aiubObjectStoreSuffix : Binary := ascii ".s3.cloud.switch.ch"

/-- What `https` is called. -/
def https : Binary := ascii "https"

/-- A response. -/
structure Response where
  status : Int
  headers : Headers
  body : Binary

section Http

variable (library : Library) (opts : Options)

/-- The host of a URL in lower case. -/
def hostOf (uri : Uri) : Option Binary := uri.host.map library.downcase

/-- `header_value`. -/
def headerValue (headers : Headers) (name : Binary) : Option Binary :=
  headers.findSome? fun header => if library.downcase header.1 = name then header.2.head? else none

/-- `normalize_http_response`. -/
def normalizeHttpResponse : CustomAnswer → Action (Except Reason Response)
  | .response status headers (some body) => pure (.ok { status, headers, body })
  | .response _ _ none => .crash .client
  | .failed reason => pure (.error (.network (.client reason)))
  | .invalid => pure (.error (.network .badHttpResponse))
  | .raised => .crash .client

/-- `enforce_streamed_size`. -/
def enforceStreamedSize (status : Int) (overflow : Bool) (limit : Nat) : Except Reason Unit :=
  if overflow ∧ 200 ≤ status ∧ status ≤ 299 then .error (.downloadSizeExceeded limit) else .ok ()

/-- `req_download`. -/
def reqDownload (url : Binary) : Action (Except Reason Response) := do
  match ← call (.getReq url opts.maxCompressedBytes) with
  | .response status headers body overflow =>
    match enforceStreamedSize status overflow opts.maxCompressedBytes with
    | .ok _ => pure (.ok { status, headers, body })
    | .error reason => pure (.error reason)
  | .failed reason => pure (.error (.network (.client reason)))
  | .raised => .crash .client

/-- The response to a request of `do_download_once`. -/
def httpRequest (url : Binary) : Action (Except Reason Response) :=
  match opts.httpClient with
  | .custom => do normalizeHttpResponse (← call (.getCustom url))
  | .builtIn => reqDownload opts url
  | .invalid => .crash .noClause

/-- `validated_redirect_url`. -/
def validatedRedirectUrl (sourceUrl : Binary) (status : Int) (location : Binary) :
    Action (Except Reason Binary) := do
  let source := Uri.parse sourceUrl
  let target ← Program.orCrash .uri (source.merge? (Uri.parse location))
  let sourceHost := hostOf library source
  let targetHost := hostOf library target
  let allowed := source.scheme == some https && target.scheme == some https &&
    ((sourceHost == some aiubWebHost && targetHost == some aiubDownloadHost) ||
      ((sourceHost == some aiubWebHost || sourceHost == some aiubDownloadHost) &&
        targetHost.any fun host => aiubObjectStoreSuffix.isSuffixOf host))
  if allowed then
    let text ← Program.orCrash .uri target.toString?
    pure (.ok text)
  else pure (.error (.redirectNotAllowed status sourceUrl))

/-- A redirect is validated without any call. -/
theorem validatedRedirectUrl_quiet (current : Binary) (status : Int) (location : Binary) :
    (validatedRedirectUrl library current status location).Uses fun _ => False := by
  unfold validatedRedirectUrl
  apply Program.uses_orCrash.bind
  intro target
  dsimp only
  split
  · exact Program.uses_orCrash.bind fun _ => trivial
  · trivial

/-- `handle_http_response`, with what a redirect is followed by while one is left. -/
def handleHttpResponse (url : Binary) (follow : Option (Binary → Action (Except Reason Binary))) :
    Except Reason Response → Action (Except Reason Binary)
  | .error reason => pure (.error reason)
  | .ok response =>
    let status := response.status
    let refused : Action (Except Reason Binary) := pure (.error (.redirectNotAllowed status url))
    if 200 ≤ status ∧ status ≤ 299 then pure (.ok response.body)
    else if status = 404 then pure (.error (.notFoundOnArchive url))
    else if 300 ≤ status ∧ status ≤ 399 then
      match follow, headerValue library response.headers (ascii "location") with
      | some follow, some location => do
        match ← validatedRedirectUrl library url status location with
        | .ok target => follow target
        | .error _ => refused
      | _, _ => refused
    else pure (.error (.httpStatus status url))

/-- `do_download_once`, with the redirects that are left. An exception is an error. -/
def doDownloadOnce : Nat → Binary → Action (Except Reason Binary)
  | redirectsLeft, url =>
    let downloaded : Action (Except Reason Binary) := do
      handleHttpResponse library url
        (match redirectsLeft with
        | 0 => none
        | redirectsLeft + 1 => some fun target => doDownloadOnce redirectsLeft target)
        (← httpRequest opts url)
    downloaded.rescue fun _ => pure (.error (.network .exception))

end Http

section Downloads

variable (fuel : Nat) (library : Library) (opts : Options)

/-- The error of a fetch over FTP. -/
def ftpReason : Ftp.FetchError → Reason
  | .notFoundOnArchive url => .notFoundOnArchive url
  | .network detail => .network (.ftp detail)
  | .downloadSizeExceeded limit => .downloadSizeExceeded limit

/-- A fetch over FTP as a program of the data layer. -/
def overFtp {α : Type} : Ftp.Action α → Action α :=
  Program.embed .ftp (fun _ answer => answer) .ftp

/-- `ftp_download`, by the client of the options or the library's own. -/
def ftpDownload (url : Binary) : Action (Except Reason Binary) :=
  match opts.ftpClient with
  | .custom => do
    match ← call (.ftpCustom url) with
    | .result result => pure result
    | .raised => pure (.error (.network .exception))
  | .builtIn => do
    match ← overFtp (Ftp.ftpDownload fuel url opts.maxCompressedBytes) with
    | .ok body => pure (.ok body)
    | .error reason => pure (.error (ftpReason reason))
  | .invalid => pure (.error (.network .exception))

/-- `download_once`. -/
def downloadOnce (url : Binary) : Action (Except Reason Binary) :=
  if (ascii "ftp://").isPrefixOf url then ftpDownload fuel opts url
  else doDownloadOnce library opts maxRedirects url

/-- The errors after which `do_download` makes another attempt. -/
def retryable : Reason → Bool
  | .httpStatus status _ => status = 408 || status = 429 || 500 ≤ status
  | .network _ => true
  | _ => false

/-- `sleep_backoff`. -/
def sleepBackoff (attempt : Nat) : Action Unit := do
  call (.sleep (← Program.orCrash .backoff (opts.backoff attempt)))

/-- `do_download`, with the retries that are left after an attempt. -/
def doDownload (url : Binary) : Nat → Nat → Action (Except Reason Binary)
  | retriesLeft, attempt => do
    match ← downloadOnce fuel library opts url with
    | .ok body =>
      if body.length > opts.maxCompressedBytes then
        pure (.error (.downloadSizeExceeded opts.maxCompressedBytes))
      else pure (.ok body)
    | .error reason =>
      match retriesLeft with
      | 0 => pure (.error reason)
      | retriesLeft + 1 =>
        if retryable reason then do
          sleepBackoff opts attempt
          doDownload url retriesLeft (attempt + 1)
        else pure (.error reason)

/-- `check_host`. -/
def checkHost (url protocol : Binary) : Except Reason Unit :=
  let uri := Uri.parse url
  if ¬uri.host.any (· ∈ library.allowedHosts) then .error (.network (.hostNotAllowed uri.host))
  else if uri.scheme ≠ some protocol then
    .error (.network (.schemeMismatch uri.scheme protocol url))
  else .ok ()

/-- `download`. -/
def download (url protocol : Binary) : Action (Except Reason Binary) :=
  match checkHost library url protocol with
  | .error reason => pure (.error reason)
  | .ok _ => doDownload fuel library opts url (opts.retries - 1) 1

end Downloads

end Sidereon.Data
