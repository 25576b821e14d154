import Sidereon.Ftp.Client

/-!
# Fetches over FTP

`ftp_fetch` opens a session, logs in, and reads a listing or a file of bounded size. A path that
ends in a slash is listed.
-/

namespace Sidereon.Ftp

open Foundation

/-- The details of a network error. -/
inductive NetworkDetail where
  | ftp (reason : FtpError)
  | exception (reason : Raised)
  deriving DecidableEq, Repr

/-- The errors of a fetch. -/
inductive FetchError where
  | notFoundOnArchive (url : Binary)
  | network (detail : NetworkDetail)
  | downloadSizeExceeded (limit : Nat)
  deriving DecidableEq, Repr

variable (fuel : Nat) (url : Binary) (limit : Nat)

/-- The error of a reply that is one. -/
def fetchError : FtpError → FetchError
  | .epath => .notFoundOnArchive url
  | reason => .network (.ftp reason)

/-- `ftp_step`. -/
def ftpStep : Reply → Action (Except FetchError Unit)
  | .ok => pure (.ok ())
  | .error reason => pure (.error (fetchError url reason))
  | .data _ => .crash .noClause

/-- `ftp_recv_chunks`. -/
def ftpRecvChunks : Nat → State → List Binary → Nat → Action (Except FetchError Binary × State)
  | 0, _, _, _ => .crash .unending
  | steps + 1, state, acc, size => do
    match ← handleRecvChunk fuel state with
    | (.ok, state) => pure (.ok acc.reverse.flatten, state)
    | (.data chunk, state) =>
      let size := size + chunk.length
      if size > limit then pure (.error (.downloadSizeExceeded limit), state)
      else ftpRecvChunks steps state (chunk :: acc) size
    | (.error reason, state) => pure (.error (fetchError url reason), state)

/-- `ftp_fetch_path`. -/
def ftpFetchPath (path : Binary) (state : State) : Action (Except FetchError Binary × State) := do
  if path.getLast? = some 47 then
    match ← handleLs fuel path state with
    | (.data body, state) =>
      if body.length > limit then pure (.error (.downloadSizeExceeded limit), state)
      else pure (.ok body, state)
    | (.error reason, state) => pure (.error (fetchError url reason), state)
    | (.ok, _) => .crash .noClause
  else
    match ← handleRecvChunkStart fuel path state with
    | (.ok, state) => ftpRecvChunks fuel url limit fuel state [] 0
    | (.error reason, state) => pure (.error (fetchError url reason), state)
    | (.data _, _) => .crash .noClause

/-- The part of `ftp_download_via_otp` from an open session on, up to its end. -/
def ftpSession (path : Binary) (state : State) : Action (Except FetchError Binary × State) := do
  let (reply, state) ← handleUser fuel (ascii "anonymous") (ascii "sidereon@") state
  match ← ftpStep url reply with
  | .ok _ =>
    let (reply, state) ← handleType fuel .binary state
    match ← ftpStep url reply with
    | .ok _ => ftpFetchPath fuel url limit path state
    | .error reason => pure (.error reason, state)
  | .error reason => pure (.error reason, state)

/-- `ftp_download_via_otp`. -/
def ftpDownloadViaOtp : Action (Except FetchError Binary) := do
  let uri := Uri.parse url
  let host ← Program.orCrash .noHost uri.host
  match ← openConnection fuel (.name host) with
  | .ok state =>
    let (result, state) ← ftpSession fuel url limit (uri.path.getD (ascii "/")) state
    terminate state
    pure result
  | .error reason => pure (.error (.network (.ftp reason)))

/-- `ftp_download`: an exception is an error. -/
def ftpDownload : Action (Except FetchError Binary) :=
  (ftpDownloadViaOtp fuel url limit).rescue fun
    | .unending => .crash .unending
    | reason => pure (.error (.network (.exception reason)))

end Sidereon.Ftp
