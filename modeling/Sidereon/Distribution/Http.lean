import Sidereon.Distribution.Surroundings

/-!
# Authenticated downloads

A download sends a request, follows redirects that the policy of its source allows, and checks the
response. Every hop validates its URL and derives its credentials and cookies anew. What a failure
says of a URL is sanitized first.
-/

namespace Sidereon.Distribution

open Foundation

/-- The text for a URL without a host. -/
def invalidUrl : Binary := ascii "<invalid-url>"

/-- `sanitize_url`. -/
def sanitizeUrl (url : Binary) : Binary :=
  let uri := Uri.parse url
  if uri.host.isSome then
    (Uri.toString? { uri with userinfo := none, query := none, fragment := none }).getD invalidUrl
  else invalidUrl

/-- `@cddis_host`. -/
def cddisHost : Binary := ascii "cddis.nasa.gov"

/-- `@urs_host`. -/
def ursHost : Binary := ascii "urs.earthdata.nasa.gov"

/-- `@aiub_web_host`. -/
def aiubWebHost : Binary := ascii "www.aiub.unibe.ch"

/-- `@aiub_download_host`. -/
def aiubDownloadHost : Binary := ascii "download.aiub.unibe.ch"

/-- `@aiub_object_store_suffix`. -/
def aiubObjectStoreSuffix : Binary := ascii ".s3.cloud.switch.ch"

/-- `@max_redirects`. -/
def maxRedirects : Nat := 8

/-- The limit on archives, which is a positive integer once the options are validated. -/
def archiveLimit (opts : Options) : Int := opts.maxArchiveBytes.getD 0

/-- The limit on products. -/
def productLimit (opts : Options) : Int := opts.maxProductBytes.getD 0

/-- `enforce_size`. -/
def enforceSize (bytes : Binary) (limit : Int) : Except Reason Unit :=
  if (bytes.length : Int) ≤ limit then .ok () else .error (.downloadSizeExceeded limit)

/-- What a download gives. -/
structure Fetched where
  archive : Binary
  originalUrl : Option Binary
  finalUrl : Option Binary
  headers : Headers
  compression : Option Compression
  deriving DecidableEq

/-- A response. -/
structure Response where
  status : Int
  headers : Headers
  body : Binary

section Policy

variable (library : Library)

/-- The host of a URL in lower case. -/
def hostOf (uri : Uri) : Option Binary := uri.host.map library.downcase

/-- `validate_url`. Only the two network sources have URLs. -/
def validateUrl (url : Binary) (source : SourceType) : Except Reason Unit :=
  let uri := Uri.parse url
  let host := hostOf library uri
  let schemeOk :=
    match source with
    | .nasaCddis => uri.scheme == some (ascii "https")
    | .direct =>
      uri.scheme == some (ascii "http") || uri.scheme == some (ascii "https") ||
        (uri.scheme == some (ascii "ftp") && host.any fun host => host ∈ library.ftpHosts)
    | _ => false
  let hostOk :=
    match source with
    | .nasaCddis => host.any fun host => host ∈ [cddisHost, ursHost]
    | .direct =>
      host.any fun host => host ∈ library.allowedHosts || aiubObjectStoreSuffix.isSuffixOf host
    | _ => false
  if schemeOk && host.isSome && uri.userinfo.isNone && hostOk then .ok ()
  else .error (.malformedUrl (sanitizeUrl url))

/-- `redirect_target`. -/
def redirectTarget (current : Binary) (status : Int) (location : Binary) (source : SourceType) :
    Action (Except Reason Binary) := do
  let sourceUri := Uri.parse current
  let target ← Program.orCrash .uri (sourceUri.merge? (Uri.parse location))
  let sourceHost := hostOf library sourceUri
  let targetHost := hostOf library target
  let allowed := target.scheme == some (ascii "https") && targetHost.any fun targetHost =>
    match source with
    | .nasaCddis =>
      (sourceHost.any fun host => host ∈ [cddisHost, ursHost]) &&
        decide (targetHost ∈ [cddisHost, ursHost])
    | .direct =>
      sourceHost == some targetHost ||
        (sourceHost == some aiubWebHost && targetHost == aiubDownloadHost) ||
        ((sourceHost.any fun host => host ∈ [aiubWebHost, aiubDownloadHost]) &&
          aiubObjectStoreSuffix.isSuffixOf targetHost)
    | _ => false
  if allowed then
    return .ok (← Program.orCrash .uri target.toString?)
  else
    return .error (.response .redirectPolicyFailure status (sanitizeUrl current))

end Policy

section Credentials

variable (library : Library)

/-- The entry of a machine in a netrc file. -/
structure NetrcEntry where
  login : Option Binary := none
  password : Option Binary := none

/-- `netrc_entry`. -/
def netrcEntry (host : Binary) : List Binary → Bool → NetrcEntry → Option NetrcEntry
  | [], found, entry => if found then some entry else none
  | [_], found, entry => netrcEntry host [] found entry
  | key :: value :: rest, found, entry =>
    if key = ascii "machine" then
      if found ∧ value ≠ host then some entry else netrcEntry host rest (value == host) {}
    else if found ∧ key = ascii "login" then
      netrcEntry host rest found { entry with login := some value }
    else if found ∧ key = ascii "password" then
      netrcEntry host rest found { entry with password := some value }
    else netrcEntry host (value :: rest) found entry

/-- The netrc file. -/
def netrcPath (auth : EarthdataAuth) : Action Binary :=
  match auth.netrcPath with
  | some path => return path
  | none => do
    let home ← Program.orCrash .home (← call .userHome)
    return home ++ ascii "/.netrc"

/-- The login and the password in a netrc file. -/
def netrcCredentials (contents : Binary) : Option (Binary × Binary) := do
  let entry ← netrcEntry ursHost (library.split contents) false {}
  return (← entry.login, ← entry.password)

/-- `read_netrc`. -/
def readNetrc (auth : EarthdataAuth) : Action (Except Reason (Binary × Binary)) := do
  let contents ← call (.readFile (← netrcPath auth))
  match contents.bind (netrcCredentials library) with
  | some credentials => return .ok credentials
  | none =>
    return .error (.response .authenticationFailed 0 (ascii "https://urs.earthdata.nasa.gov/"))

/-- The name of the header that carries credentials. -/
def authorization : Binary := ascii "authorization"

/-- `auth_headers`. -/
def authHeaders (url : Binary) (source : SourceType) (auth : EarthdataAuth) :
    Action (Except Reason (List Header)) :=
  match source with
  | .nasaCddis =>
    let host := (Uri.parse url).host
    if host ∉ [some cddisHost, some ursHost] then return .ok []
    else
      match auth.bearerToken with
      | some token => return .ok [(authorization, ascii "Bearer " ++ token)]
      | none => do
        if auth.useNetrc ∧ host = some ursHost then
          match ← readNetrc library auth with
          | .ok (login, password) =>
            return .ok [(authorization,
              ascii "Basic " ++ library.base64 (login ++ ascii ":" ++ password))]
          | .error reason => return .error reason
        else return .ok []
  | _ => return .ok []

/-- `auth_configured?`. -/
def authConfigured (auth : EarthdataAuth) : Bool := auth.bearerToken.isSome || auth.useNetrc

end Credentials

section Headers

variable (library : Library)

/-- `header_values`. -/
def headerValues (headers : Headers) (name : Binary) : List Binary :=
  headers.flatMap fun header => if library.downcase header.1 = name then header.2 else []

/-- `header_value`. -/
def headerValue (headers : Headers) (name : Binary) : Option Binary :=
  (headerValues library headers name).head?

/-- A cookie. -/
structure Cookie where
  name : Binary
  value : Binary
  domain : Binary
  path : Binary
  hostOnly : Bool
  secure : Bool

/-- The key of a cookie: domain, path and name. -/
abbrev CookieKey := Binary × Binary × Binary

/-- The cookies by key, in the order of the keys. -/
abbrev Jar := List (CookieKey × Cookie)

/-- The order of byte strings. -/
def below (a b : Binary) : Bool := List.lex a b fun x y => decide (x < y)

/-- The order of keys. -/
def keyBelow (a b : CookieKey) : Bool :=
  below a.1 b.1 || (a.1 == b.1 && (below a.2.1 b.2.1 || (a.2.1 == b.2.1 && below a.2.2 b.2.2)))

/-- `Map.put`. -/
def Jar.put (key : CookieKey) (cookie : Cookie) : Jar → Jar
  | [] => [(key, cookie)]
  | (other, kept) :: jar =>
    if key = other then (key, cookie) :: jar
    else if keyBelow key other then (key, cookie) :: (other, kept) :: jar
    else (other, kept) :: Jar.put key cookie jar

/-- `cookie_attributes`, latest first. An attribute without a value is `true`. -/
def cookieAttributes (parts : List Binary) : List (Binary × Option Binary) :=
  parts.foldl (fun attributes part =>
    let text := library.trim part
    match text.dropWhile (· != 61) with
    | _ :: value =>
      (library.downcase (text.takeWhile (· != 61)), some (library.trim value)) :: attributes
    | [] => (library.downcase text, none) :: attributes) []

/-- `cookie_domain`. -/
def cookieDomain (attributes : List (Binary × Option Binary)) (requestHost : Binary) :
    Binary × Bool :=
  match attributes.lookup (ascii "domain") with
  | some (some domain) => (library.downcase (domain.dropWhile (· == 46)), false)
  | _ => (requestHost, true)

/-- `cookie_domain_matches?`. -/
def cookieDomainMatches (host domain : Binary) (hostOnly : Bool) : Bool :=
  host == domain || (!hostOnly && (46 :: domain).isSuffixOf host)

/-- `default_cookie_path`. -/
def defaultCookiePath (requestPath : Binary) : Binary :=
  match requestPath with
  | 47 :: _ =>
    match ((requestPath.reverse.dropWhile (· != 47)).drop 1).reverse with
    | [] => [47]
    | path => path
  | _ => [47]

/-- `cookie_path`. -/
def cookiePath (attributes : List (Binary × Option Binary)) (requestPath : Binary) : Binary :=
  match attributes.lookup (ascii "path") with
  | some (some (47 :: path)) => 47 :: path
  | _ => defaultCookiePath requestPath

/-- `cookie_path_matches?`. -/
def cookiePathMatches (requestPath cookiePath : Binary) : Bool :=
  requestPath == cookiePath ||
    (cookiePath.getLast? == some 47 && cookiePath.isPrefixOf requestPath) ||
    (cookiePath ++ [47]).isPrefixOf requestPath

/-- `cookie_available?`. -/
def cookieAvailable (cookie : Cookie) (host : Option Binary) (path : Binary)
    (scheme : Option Binary) : Bool :=
  (host.any fun host => cookieDomainMatches host cookie.domain cookie.hostOnly) &&
    cookiePathMatches path cookie.path && (!cookie.secure || scheme == some (ascii "https"))

/-- `cookie_headers`. -/
def cookieHeaders (cookies : Jar) (url : Binary) : List Header :=
  if cookies.isEmpty then []
  else
    let uri := Uri.parse url
    let available := (cookies.map (·.2)).filter fun cookie =>
      cookieAvailable cookie (hostOf library uri) (uri.path.getD [47]) uri.scheme
    let sorted := available.mergeSort fun a b => !below b.name a.name
    let value := (ascii "; ").intercalate (sorted.map fun cookie =>
      cookie.name ++ ascii "=" ++ cookie.value)
    if value = [] then [] else [(ascii "cookie", value)]

/-- `parse_set_cookie` and what `collect_cookies` does with it. -/
def setCookie (url : Binary) (cookies : Jar) (value : Binary) : Jar :=
  let uri := Uri.parse url
  let pieces := value.splitOn 59
  let pair := library.trim (pieces.headD [])
  let name := pair.takeWhile (· != 61)
  match hostOf library uri, pair.dropWhile (· != 61) with
  | some requestHost, _ :: cookieValue =>
    let attributes := cookieAttributes library pieces.tail
    let (domain, hostOnly) := cookieDomain library attributes requestHost
    if name ≠ [] ∧ cookieDomainMatches requestHost domain hostOnly then
      let path := cookiePath attributes (uri.path.getD [47])
      if attributes.lookup (ascii "max-age") = some (some (ascii "0")) then
        cookies.filter (·.1 ≠ (domain, path, name))
      else
        Jar.put (domain, path, name)
          { name, value := cookieValue, domain, path, hostOnly
            secure := (attributes.lookup (ascii "secure")).isSome } cookies
    else cookies
  | _, _ => cookies

/-- `collect_cookies`. -/
def collectCookies (headers : Headers) (cookies : Jar) (url : Binary) : Jar :=
  (headerValues library headers (ascii "set-cookie")).foldl (setCookie library url) cookies

/-- `Integer.parse` of a text that is an integer as a whole. -/
def wholeInteger? (text : Binary) : Option Int :=
  let digits (bytes : Binary) : Option Nat :=
    if bytes ≠ [] ∧ bytes.all isDigit then some (Uri.ofDigits bytes) else none
  match text with
  | 45 :: rest => (digits rest).map fun n => -n
  | 43 :: rest => (digits rest).map fun n => n
  | _ => (digits text).map fun n => n

/-- `verify_content_length`. -/
def verifyContentLength (headers : Headers) (body url : Binary) : Except Reason Unit :=
  match headerValue library headers (ascii "content-length") with
  | none => .ok ()
  | some declared =>
    match wholeInteger? declared with
    | some expected =>
      if expected = body.length then .ok ()
      else .error (.contentLengthMismatch (some expected) body.length (sanitizeUrl url))
    | none => .error (.contentLengthMismatch none body.length (sanitizeUrl url))

/-- `reject_error_document`. -/
def rejectErrorDocument (headers : Headers) (body url : Binary) : Except Reason Unit :=
  let declared := (headerValue library headers (ascii "content-type")).getD []
  let contentType := library.downcase (declared.takeWhile (· != 59))
  let start := library.downcase (library.trimLeading (body.take 512))
  if contentType ∈ [ascii "text/html", ascii "application/xhtml+xml"] then
    .error (.invalidContentType contentType (sanitizeUrl url))
  else if [ascii "<!doctype html", ascii "<html", ascii "<head", ascii "<body"].any
      (·.isPrefixOf start) then
    .error (.errorDocument (sanitizeUrl url))
  else .ok ()

end Headers

section Transport

variable (library : Library)

/-- `transport_kind`. -/
def transportKind : NetworkReason → TransportKind
  | .timeout => .timeout
  | .econnrefused | .nxdomain => .connection
  | .other => .other

/-- `http_client_failure`. -/
def httpClientFailure {α : Type} (kind : ClientFailure) (url : Binary) : Except Reason α :=
  .error (.httpClientFailure kind (sanitizeUrl url))

/-- `custom_retryable_transport_kind`. -/
def customRetryableTransportKind (transportError : Bool) : NetworkReason → Option TransportKind
  | .other => if transportError then some .other else none
  | reason => some (transportKind reason)

/-- `request_custom_http`. The diagnostics of a raised client go to a callback only. -/
def requestCustomHttp (url : Binary) (headers : List Header) :
    Action (Except Reason Response) := do
  match ← call (.getCustom url headers) with
  | .response status headers (some body) => return .ok { status, headers, body }
  | .response _ _ none => return httpClientFailure .invalidResponse url
  | .failed transportError reason =>
    match customRetryableTransportKind transportError reason with
    | some kind => return .error (.transport kind (sanitizeUrl url))
    | none => return httpClientFailure .reportedFailure url
  | .invalid => return httpClientFailure .invalidResponse url
  | .raised => return httpClientFailure .raised url
  | .thrown => return httpClientFailure .thrown url
  | .exited => return httpClientFailure .exited url

/-- `enforce_streamed_size`. -/
def enforceStreamedSize (status : Int) (overflow : Bool) (limit : Int) : Except Reason Unit :=
  if overflow ∧ 200 ≤ status ∧ status ≤ 299 then .error (.downloadSizeExceeded limit) else .ok ()

/-- `request_req_http`. -/
def requestReqHttp (url : Binary) (headers : List Header) (opts : Options) :
    Action (Except Reason Response) := do
  match ← call (.getReq url headers (archiveLimit opts)) with
  | .response status headers body overflow =>
    match enforceStreamedSize status overflow (archiveLimit opts) with
    | .ok () => return .ok { status, headers, body }
    | .error reason => return .error reason
  | .failed reason => return .error (.transport (transportKind reason) (sanitizeUrl url))
  | .raised => return .error (.transport .other (sanitizeUrl url))

/-- `request_http`. -/
def requestHttp (url : Binary) (headers : List Header) (opts : Options) :
    Action (Except Reason Response) :=
  match opts.httpClient with
  | .custom => requestCustomHttp url headers
  | .req => requestReqHttp url headers opts
  | .invalid => return httpClientFailure .invalidOption url

/-- The checks on a successful response. -/
def acceptResponse (response : Response) (current original : Binary) (opts : Options) :
    Except Reason Fetched := do
  enforceSize response.body (archiveLimit opts)
  verifyContentLength library response.headers response.body current
  rejectErrorDocument library response.headers response.body current
  return {
    archive := response.body
    originalUrl := some (sanitizeUrl original)
    finalUrl := some (sanitizeUrl current)
    headers := response.headers
    compression := none }

/-- `handle_response`, with what a redirect is followed by while one is left. -/
def handleResponse (response : Response) (current original : Binary) (source : SourceType)
    (auth : EarthdataAuth) (opts : Options)
    (follow : Option (Binary → Action (Except Reason Fetched))) :
    Action (Except Reason Fetched) :=
  let status := response.status
  let refused : Action (Except Reason Fetched) :=
    return .error (.response .redirectPolicyFailure status (sanitizeUrl current))
  let failed (type : ResponseFailure) : Action (Except Reason Fetched) :=
    return .error (.response type status (sanitizeUrl current))
  if 300 ≤ status ∧ status ≤ 399 then
    match follow, headerValue library response.headers (ascii "location") with
    | some follow, some location => do
      match ← redirectTarget library current status location source with
      | .ok target => follow target
      | .error _ => refused
    | _, _ => refused
  else if status = 401 then
    failed (if authConfigured auth then .authenticationFailed else .authenticationRequired)
  else if status = 403 then failed .authorizationDenied
  else if status = 404 then failed .productNotPublished
  else if status = 410 then failed .retiredEndpoint
  else if 200 ≤ status ∧ status ≤ 299 then
    return acceptResponse library response current original opts
  else failed .httpStatus

/-- `do_download_once`, with the redirects that are left. -/
def doDownloadOnce (original : Binary) (source : SourceType) (auth : EarthdataAuth)
    (opts : Options) : Nat → Binary → Jar → Action (Except Reason Fetched)
  | redirectsLeft, current, cookies => do
    match validateUrl library current source with
    | .error reason => return .error reason
    | .ok () =>
      match ← authHeaders library current source auth with
      | .error reason => return .error reason
      | .ok authHeaders =>
        let headers := authHeaders ++ cookieHeaders library cookies current
        match ← requestHttp current headers opts with
        | .error reason => return .error reason
        | .ok response =>
          let cookies := collectCookies library response.headers cookies current
          handleResponse library response current original source auth opts <|
            match redirectsLeft with
            | 0 => none
            | redirectsLeft + 1 =>
              some fun target => doDownloadOnce original source auth opts redirectsLeft target cookies

/-- What a response that is not followed comes to. -/
def concluded (response : Response) (current original : Binary) (auth : EarthdataAuth)
    (opts : Options) : Except Reason Fetched :=
  let status := response.status
  let failed (type : ResponseFailure) : Except Reason Fetched :=
    .error (.response type status (sanitizeUrl current))
  if 300 ≤ status ∧ status ≤ 399 then failed .redirectPolicyFailure
  else if status = 401 then
    failed (if authConfigured auth then .authenticationFailed else .authenticationRequired)
  else if status = 403 then failed .authorizationDenied
  else if status = 404 then failed .productNotPublished
  else if status = 410 then failed .retiredEndpoint
  else if 200 ≤ status ∧ status ≤ 299 then acceptResponse library response current original opts
  else failed .httpStatus

/-- A response is followed, if it is a redirect with a location and one is left, or concluded. -/
theorem handleResponse_cases (response : Response) (current original : Binary)
    (source : SourceType) (auth : EarthdataAuth) (opts : Options)
    (follow : Option (Binary → Action (Except Reason Fetched))) :
    (∃ next location, follow = some next ∧ (300 ≤ response.status ∧ response.status ≤ 399) ∧
      headerValue library response.headers (ascii "location") = some location ∧
      handleResponse library response current original source auth opts follow = (do
        match ← redirectTarget library current response.status location source with
        | .ok target => next target
        | .error _ => return concluded library response current original auth opts)) ∨
    handleResponse library response current original source auth opts follow =
      pure (concluded library response current original auth opts) := by
  unfold handleResponse concluded
  by_cases redirect : 300 ≤ response.status ∧ response.status ≤ 399
  · simp only [if_pos redirect]
    cases follow with
    | none => exact .inr rfl
    | some next =>
      cases given : headerValue library response.headers (ascii "location") with
      | none => exact .inr rfl
      | some location => exact .inl ⟨next, location, rfl, redirect, rfl, rfl⟩
  · simp only [if_neg redirect]
    right
    split
    · rfl
    · split
      · rfl
      · split
        · rfl
        · split
          · rfl
          · split <;> rfl

/-- What a redirect is followed by. -/
def followed (original : Binary) (source : SourceType) (auth : EarthdataAuth) (opts : Options)
    (cookies : Jar) : Nat → Option (Binary → Action (Except Reason Fetched))
  | 0 => none
  | redirectsLeft + 1 =>
    some fun target => doDownloadOnce library original source auth opts redirectsLeft target cookies

/-- One hop: the URL is validated, the request is sent, and the response is handled. -/
theorem doDownloadOnce_eq (original : Binary) (source : SourceType) (auth : EarthdataAuth)
    (opts : Options) (redirectsLeft : Nat) (current : Binary) (cookies : Jar) :
    doDownloadOnce library original source auth opts redirectsLeft current cookies =
      (match validateUrl library current source with
      | .error reason => return .error reason
      | .ok () => do
        match ← authHeaders library current source auth with
        | .error reason => return .error reason
        | .ok authHeaders =>
          let headers := authHeaders ++ cookieHeaders library cookies current
          match ← requestHttp current headers opts with
          | .error reason => return .error reason
          | .ok response =>
            handleResponse library response current original source auth opts
              (followed library original source auth opts
                (collectCookies library response.headers cookies current) redirectsLeft)) := by
  cases redirectsLeft with
  | zero =>
    unfold doDownloadOnce
    rfl
  | succ redirectsLeft =>
    unfold doDownloadOnce
    rfl

/-- `download_once` of a cataloged FTP URL. -/
def downloadFtp (current : Binary) (source : SourceType) (opts : Options) :
    Action (Except Reason Fetched) :=
  match validateUrl library current source with
  | .error reason => return .error reason
  | .ok () => do
    let transport (kind : TransportKind) : Except Reason Fetched :=
      .error (.transport kind (sanitizeUrl current))
    match ← call (.ftpFetch current) with
    | .fetched archive =>
      match enforceSize archive (archiveLimit opts) with
      | .error reason => return .error reason
      | .ok () =>
        return .ok {
          archive
          originalUrl := some (sanitizeUrl current)
          finalUrl := some (sanitizeUrl current)
          headers := []
          compression := none }
    | .notFound => return .error (.response .productNotPublished 404 (sanitizeUrl current))
    | .sizeExceeded limit => return .error (.downloadSizeExceeded limit)
    | .ehost => return transport .connection
    | .etimedout => return transport .timeout
    | .network => return transport .other
    | .other => return transport .other

/-- `download_once`. -/
def downloadOnce (url : Binary) (source : SourceType) (auth : EarthdataAuth) (opts : Options) :
    Action (Except Reason Fetched) :=
  if (ascii "ftp://").isPrefixOf url then downloadFtp library url source opts
  else doDownloadOnce library url source auth opts maxRedirects url []

/-- `sleep_backoff`. -/
def sleepBackoff (opts : Options) (attempt : Nat) : Action Unit := do
  call (.sleep (← Program.orCrash .backoff (opts.backoff attempt)))

/-- `do_download`, with the retries that are left after an attempt. -/
def doDownload (url : Binary) (source : SourceType) (auth : EarthdataAuth) (opts : Options) :
    Nat → Nat → Action (Except Reason Fetched)
  | retriesLeft, attempt => do
    match ← downloadOnce library url source auth opts with
    | .ok fetched => return .ok fetched
    | .error reason =>
      match retriesLeft with
      | 0 => return .error reason
      | retriesLeft + 1 =>
        if retryable reason then do
          sleepBackoff opts attempt
          doDownload url source auth opts retriesLeft (attempt + 1)
        else return .error reason

/-- `download`. -/
def download (url : Binary) (source : SourceType) (auth : EarthdataAuth) (opts : Options) :
    Action (Except Reason Fetched) :=
  doDownload library url source auth opts (opts.retries - 1).toNat 1

end Transport

end Sidereon.Distribution
