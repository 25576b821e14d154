import Sidereon.Foundation.Program
import Sidereon.Ftp.Replies

/-!
# The FTP client

`FtpClient` holds one control connection and at most one data connection in its state. Each call of
the server is a program over the sockets. The loops that read lines and chunks go on as long as the
server does, so they run with fuel and a run out of fuel is none that returns.
-/

namespace Sidereon.Ftp

open Foundation
open Foundation.Uri (ofDigits)

/-- The calls of the client. The control connection is the only one of its session; a data
connection is named by its socket. -/
inductive Request where
  | connect (host : Host)
  | send (cmd : Binary)
  | recvLine
  | closeControl
  | connectData (host : Host) (port : Int)
  | recv (socket : Nat)
  | close (socket : Nat)
  deriving DecidableEq, Repr

/-- The answer to each call. -/
abbrev Answer : Request → Type
  | .connect _ => Except NetError Unit
  | .send _ => Except NetError Unit
  | .recvLine => Except NetError Binary
  | .closeControl => Unit
  | .connectData _ _ => Except NetError Nat
  | .recv _ => Except NetError Binary
  | .close _ => Unit

/-- Why a call does not return: `String.to_integer` of another text, `String.to_charlist` of a
missing host, a reply that no clause takes, or a loop that outlasts its fuel. -/
inductive Raised where
  | notInteger
  | noHost
  | noClause
  | unending
  deriving DecidableEq, Repr

/-- A program of the client. -/
abbrev Action (α : Type) := Program Request Answer Raised α

/-- A single call. -/
abbrev call (request : Request) : Action (Answer request) := Program.perform request

/-- The state of the server. -/
structure State where
  dataSocket : Option Nat
  host : Host
  deriving DecidableEq, Repr

/-- The transfer modes of `type`. -/
inductive Mode where
  | binary
  | ascii
  deriving DecidableEq, Repr

/-- The calls of the server. -/
inductive Call where
  | user (user pass : Binary)
  | type (mode : Mode)
  | ls (path : Binary)
  | recvChunkStart (path : Binary)
  | recvChunk
  deriving DecidableEq, Repr

/-- What the server replies. -/
inductive Reply where
  | ok
  | data (bytes : Binary)
  | error (reason : FtpError)
  deriving DecidableEq, Repr

/-- A code and the text of its reply, or why there is none. -/
abbrev Read := Except FtpError (Nat × Binary)

section Replies

variable (fuel : Nat)

/-- `read_multiline_reply`. -/
def readMultilineReply (code : Nat) (codeStr : Binary) : Nat → List Binary → Action Read
  | 0, _ => .crash .unending
  | fuel + 1, acc => do
    match ← call .recvLine with
    | .ok line =>
      if checkMultilineEnd line codeStr then pure (.ok (code, (line :: acc).reverse.flatten))
      else readMultilineReply code codeStr fuel (line :: acc)
    | .error reason => pure (.error (.net reason))

/-- `read_reply`. -/
def readReply : Action Read := do
  match ← call .recvLine with
  | .ok line =>
    match parseReplyLine line with
    | .singleLine code rest => pure (.ok (code, rest))
    | .multilineStart code codeStr rest => readMultilineReply code codeStr fuel [rest]
    | .invalid line => pure (.error (.badReply line))
  | .error reason => pure (.error (.net reason))

/-- `send_and_read`. -/
def sendAndRead (cmd : Binary) : Action Read := do
  match ← call (.send cmd) with
  | .ok _ => readReply fuel
  | .error reason => pure (.error (.net reason))

/-- A command line. -/
def commandLine (verb argument : Binary) : Binary := verb ++ argument ++ [13, 10]

/-- The reason of a code that is none of success. -/
def refused (code : Nat) (msg : Binary) : FtpError :=
  if code = 550 then .epath else .ftpError code msg

/-- The reply to a call after a code: one for the codes from 200 to 299, and the errors. -/
def concluded (success : Reply) : Read → Reply
  | .ok (code, msg) => if 200 ≤ code ∧ code ≤ 299 then success else .error (refused code msg)
  | .error reason => .error reason

/-- `enter_passive_mode`. -/
def enterPassiveMode (state : State) : Action (Except FtpError (Host × Int)) := do
  match ← sendAndRead fuel (commandLine (ascii "PASV") []) with
  | .ok (227, msg) => Program.orCrash .notInteger (parsePasv msg state.host)
  | .ok (550, _) => pure (.error .epath)
  | _ =>
    match ← sendAndRead fuel (commandLine (ascii "EPSV") []) with
    | .ok (229, msg) => pure (parseEpsv msg state.host)
    | .ok (550, _) => pure (.error .epath)
    | .ok (code, msg) => pure (.error (.ftpError code msg))
    | .error reason => pure (.error reason)

/-- `recv_all_acc`. -/
def recvAllAcc (socket : Nat) : Nat → List Binary → Action (Except FtpError Binary)
  | 0, _ => .crash .unending
  | fuel + 1, acc => do
    match ← call (.recv socket) with
    | .ok data => recvAllAcc socket fuel (data :: acc)
    | .error .closed => pure (.ok acc.reverse.flatten)
    | .error reason => pure (.error (.net reason))

/-- `recv_all_closing`. -/
def recvAllClosing (socket : Nat) : Action (Except FtpError Binary) := do
  let result ← recvAllAcc socket fuel []
  call (.close socket)
  pure result

/-- `close_data_socket`. -/
def closeDataSocket (state : State) : Action State :=
  match state.dataSocket with
  | some socket => do
    call (.close socket)
    pure { state with dataSocket := none }
  | none => pure state

/-- A data connection on which a command is sent, and the reply to it. A refused transfer leaves
the connection. -/
def startTransfer (verb path : Binary) (state : State) : Action (Except FtpError Nat) := do
  match ← enterPassiveMode fuel state with
  | .ok (dataHost, dataPort) =>
    match ← call (.connectData dataHost dataPort) with
    | .ok dataSocket =>
      match ← sendAndRead fuel (commandLine verb path) with
      | .ok (code, msg) =>
        if 100 ≤ code ∧ code ≤ 299 then pure (.ok dataSocket)
        else pure (.error (refused code msg))
      | .error reason => pure (.error reason)
    | .error reason => pure (.error (.net reason))
  | .error reason => pure (.error reason)

/-- `handle_call({:user, user, pass}, …)`. -/
def handleUser (user pass : Binary) (state : State) : Action (Reply × State) := do
  match ← sendAndRead fuel (commandLine (ascii "USER ") user) with
  | .ok (331, _) =>
    let read ← sendAndRead fuel (commandLine (ascii "PASS ") pass)
    pure (concluded .ok read, state)
  | read => pure (concluded .ok read, state)

/-- `handle_call({:type, mode}, …)`. -/
def handleType (mode : Mode) (state : State) : Action (Reply × State) := do
  let typeStr := if mode = .binary then ascii "I" else ascii "A"
  let read ← sendAndRead fuel (commandLine (ascii "TYPE ") typeStr)
  pure (concluded .ok read, state)

/-- `handle_call({:ls, path}, …)`. -/
def handleLs (path : Binary) (state : State) : Action (Reply × State) := do
  match ← startTransfer fuel (ascii "LIST ") path state with
  | .ok dataSocket =>
    match ← recvAllClosing fuel dataSocket with
    | .ok listing =>
      let read ← readReply fuel
      pure (concluded (.data listing) read, state)
    | .error reason => pure (.error reason, state)
  | .error reason => pure (.error reason, state)

/-- `handle_call({:recv_chunk_start, path}, …)`. -/
def handleRecvChunkStart (path : Binary) (state : State) : Action (Reply × State) := do
  let state ← closeDataSocket state
  match ← startTransfer fuel (ascii "RETR ") path state with
  | .ok dataSocket => pure (.ok, { state with dataSocket := some dataSocket })
  | .error reason => pure (.error reason, state)

/-- `handle_call(:recv_chunk, …)`. -/
def handleRecvChunk (state : State) : Action (Reply × State) :=
  match state.dataSocket with
  | none => pure (.error .noDataConnection, state)
  | some dataSocket => do
    match ← call (.recv dataSocket) with
    | .ok chunk => pure (.data chunk, state)
    | .error .closed =>
      call (.close dataSocket)
      let read ← readReply fuel
      pure (concluded .ok read, { state with dataSocket := none })
    | .error reason =>
      call (.close dataSocket)
      pure (.error (.net reason), { state with dataSocket := none })

/-- `handle_call`. -/
def handleCall : Call → State → Action (Reply × State)
  | .user user pass => handleUser fuel user pass
  | .type mode => handleType fuel mode
  | .ls path => handleLs fuel path
  | .recvChunkStart path => handleRecvChunkStart fuel path
  | .recvChunk => handleRecvChunk fuel

/-- `open`, with the state of the server it starts. -/
def openConnection (host : Host) : Action (Except FtpError State) := do
  match ← call (.connect host) with
  | .ok _ =>
    match ← readReply fuel with
    | .ok (code, msg) =>
      if 200 ≤ code ∧ code ≤ 299 then pure (.ok ⟨none, host⟩)
      else do
        call .closeControl
        pure (.error (refused code msg))
    | .error reason => do
      call .closeControl
      pure (.error reason)
  | .error reason => pure (.error (.net reason))

/-- `terminate`. -/
def terminate (state : State) : Action Unit := do
  let _ ← closeDataSocket state
  let _ ← call (.send (commandLine (ascii "QUIT") []))
  call .closeControl

end Replies

end Sidereon.Ftp
