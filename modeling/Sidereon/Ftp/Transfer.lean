import Sidereon.Ftp.Exchanges

/-!
# Complete transfers

The record of a fetch that ends with a body has one data connection, on which the chunks of the
body were received until it was closed, and a reply between 200 and 299 after that.
-/

namespace Sidereon.Ftp

open Foundation

/-- A call on the control connection. -/
def IsControl : Request → Prop
  | .connect _ => True
  | .send _ => True
  | .recvLine => True
  | .closeControl => True
  | _ => False

/-- The record of calls on the control connection. -/
def Controls (record : Record) : Prop := ∀ event ∈ record, IsControl event.request

/-- The chunks of a data connection as they were received. -/
def chunkEvents (socket : Nat) (chunks : List Binary) : Record :=
  chunks.map fun chunk => ⟨.recv socket, .ok chunk⟩

/-- The end of a transfer: chunks, the close of the data connection by the server and by the client,
and a reply between 200 and 299. -/
def Concludes (socket : Nat) (chunks : List Binary) (record : Record) : Prop :=
  ∃ code lines, Replies code lines ∧ 200 ≤ code ∧ code ≤ 299 ∧
    record = chunkEvents socket chunks ++
      ⟨.recv socket, .error .closed⟩ :: ⟨.close socket, ()⟩ :: lineEvents lines

/-- The record of a fetch whose only data connection delivered exactly a body. -/
def Complete (record : Record) (body : Binary) : Prop :=
  ∃ before host port socket accepted chunks transfer after,
    record = before ++ ⟨.connectData host port, .ok socket⟩ ::
      (accepted ++ transfer ++ after) ∧
    Controls before ∧ Controls accepted ∧ Controls after ∧
    Concludes socket chunks transfer ∧ body = chunks.flatten

section Controls

variable {fuel : Nat} {record first later : Record} {state : State}

/-- An exchange is made on the control connection. -/
theorem IsExchange.control {request : Request} (exchange : IsExchange request) :
    IsControl request := by
  cases request with
  | send cmd => trivial
  | recvLine => trivial
  | _ => exact exchange.elim

/-- The record of a program that makes exchanges only. -/
theorem controls_of_exchanges {α : Type} {program : Action α} {value : α}
    (uses : program.Uses IsExchange) (ends : program.Ends record value) : Controls record :=
  (uses.mono fun _ => IsExchange.control).ends ends

/-- Parts on the control connection make a whole. -/
theorem Controls.append (front : Controls first) (back : Controls later) :
    Controls (first ++ later) :=
  List.forall_mem_append.mpr ⟨front, back⟩

/-- A session is opened on the control connection. -/
theorem uses_openConnection {host : Host} : (openConnection fuel host).Uses IsControl := by
  rw [openConnection]
  apply Program.Uses.bind (Program.uses_perform.mpr trivial)
  intro answer
  cases answer with
  | error reason => trivial
  | ok done =>
    apply Program.Uses.bind (uses_readReply.mono fun _ => IsExchange.control)
    intro read
    cases read with
    | error reason => exact Program.Uses.bind (Program.uses_perform.mpr trivial) fun _ => trivial
    | ok reply =>
      obtain ⟨code, msg⟩ := reply
      dsimp only
      split
      · trivial
      · exact Program.Uses.bind (Program.uses_perform.mpr trivial) fun _ => trivial

/-- A session without data connection ends on the control connection. -/
theorem uses_terminate (idle : state.dataSocket = none) : (terminate state).Uses IsControl := by
  rw [terminate, closeDataSocket, idle]
  exact ⟨trivial, fun sent => ⟨trivial, fun closed => trivial⟩⟩

end Controls

section Transfers

variable {fuel limit socket : Nat} {verb path url body : Binary} {record : Record}
  {state state' : State}

/-- An accepted transfer opens one data connection. -/
theorem ends_startTransfer (ends : (startTransfer fuel verb path state).Ends record (.ok socket)) :
    ∃ before host port accepted,
      record = before ++ ⟨.connectData host port, .ok socket⟩ :: accepted ∧
        Controls before ∧ Controls accepted := by
  rw [startTransfer, Program.ends_bind] at ends
  obtain ⟨passive, before, later, rfl, first, ends⟩ := ends
  have quiet := controls_of_exchanges uses_enterPassiveMode first
  cases passive with
  | error reason => cases ends.2
  | ok address =>
    obtain ⟨dataHost, dataPort⟩ := address
    obtain ⟨answer, later, rfl, ends⟩ := ends
    cases answer with
    | error reason => cases ends.2
    | ok opened =>
      change Program.Ends (sendAndRead fuel (commandLine verb path) >>= _) _ _ at ends
      rw [Program.ends_bind] at ends
      obtain ⟨read, accepted, last, rfl, sent, ends⟩ := ends
      have quiet' := controls_of_exchanges uses_sendAndRead sent
      cases read with
      | error reason => cases ends.2
      | ok reply =>
        obtain ⟨code, msg⟩ := reply
        dsimp only at ends
        split at ends
        · obtain ⟨rfl, same⟩ := ends
          cases same
          exact ⟨before, dataHost, dataPort, accepted, by simp, quiet, quiet'⟩
        · cases ends.2

/-- A call that is concluded without an error had a reply between 200 and 299. -/
theorem concluded_eq {success reply : Reply} {read : Read}
    (succeeds : ∀ reason, reply ≠ .error reason) (same : reply = concluded success read) :
    reply = success ∧ ∃ code msg, read = .ok (code, msg) ∧ 200 ≤ code ∧ code ≤ 299 := by
  cases read with
  | error reason => exact absurd same (succeeds _)
  | ok answer =>
    obtain ⟨code, msg⟩ := answer
    simp only [concluded] at same
    split at same
    · next within => exact ⟨same, code, msg, rfl, within⟩
    · exact absurd same (succeeds _)

/-- A data connection that is read to its end delivers its chunks and is closed. -/
theorem ends_recvAllAcc {acc : List Binary}
    (ends : (recvAllAcc socket fuel acc).Ends record (.ok body)) :
    ∃ chunks, record = chunkEvents socket chunks ++ [⟨.recv socket, .error .closed⟩] ∧
      body = acc.reverse.flatten ++ chunks.flatten := by
  induction fuel generalizing acc record with
  | zero => exact ends.elim
  | succ fuel ih =>
    rw [recvAllAcc, Program.ends_bind] at ends
    obtain ⟨answer, _, later, rfl, read, ends⟩ := ends
    obtain rfl := Program.ends_perform.mp read
    cases answer with
    | ok data =>
      obtain ⟨chunks, rfl, rfl⟩ := ih ends
      refine ⟨data :: chunks, rfl, ?_⟩
      simp
    | error reason =>
      cases reason with
      | closed =>
        obtain ⟨rfl, same⟩ := ends
        cases same
        exact ⟨[], rfl, by simp⟩
      | timeout => cases ends.2
      | other reason => cases ends.2

/-- A listing is complete. -/
theorem ends_handleLs (idle : state.dataSocket = none)
    (ends : (handleLs fuel path state).Ends record (.data body, state')) :
    ∃ before host port socket accepted chunks transfer,
      record = before ++ ⟨.connectData host port, .ok socket⟩ :: (accepted ++ transfer) ∧
        Controls before ∧ Controls accepted ∧ Concludes socket chunks transfer ∧
        body = chunks.flatten ∧ state'.dataSocket = none := by
  rw [handleLs, Program.ends_bind] at ends
  obtain ⟨started, first, later, rfl, starts, ends⟩ := ends
  cases started with
  | error reason => cases ends.2
  | ok socket =>
    obtain ⟨before, host, port, accepted, rfl, quiet, quiet'⟩ := ends_startTransfer starts
    change Program.Ends (recvAllClosing fuel socket >>= _) _ _ at ends
    rw [Program.ends_bind] at ends
    obtain ⟨received, reading, last, rfl, receives, ends⟩ := ends
    cases received with
    | error reason => cases ends.2
    | ok listing =>
      rw [recvAllClosing, Program.ends_bind] at receives
      obtain ⟨result, chunked, closing, rfl, delivers, closes⟩ := receives
      obtain ⟨_, _, rfl, rfl, same⟩ := closes
      cases same
      obtain ⟨chunks, rfl, rfl⟩ := ends_recvAllAcc delivers
      change Program.Ends (readReply fuel >>= _) _ _ at ends
      rw [Program.ends_bind] at ends
      obtain ⟨read, lines, nothing, rfl, reads, rfl, same⟩ := ends
      obtain ⟨replied, rfl⟩ := Prod.mk.inj same
      have concludes : Reply.data body = concluded (.data _) read := replied
      obtain ⟨delivered, code, msg, rfl, low, high⟩ := concluded_eq (by simp) concludes
      obtain rfl := Reply.data.inj delivered
      obtain ⟨lines, replies, rfl, _⟩ := ends_readReply reads
      refine ⟨before, host, port, socket, accepted, chunks, _, ?_, quiet, quiet',
        ⟨code, lines, replies, low, high, rfl⟩, by simp, idle⟩
      simp

/-- The chunks of a file are received one by one until the transfer concludes, and stay within the
limit. -/
theorem ends_ftpRecvChunks {steps size : Nat} {acc : List Binary}
    (opened : state.dataSocket = some socket) (sized : size = acc.reverse.flatten.length)
    (within : size ≤ limit)
    (ends : (ftpRecvChunks fuel url limit steps state acc size).Ends record (.ok body, state')) :
    ∃ chunks, Concludes socket chunks record ∧ body = acc.reverse.flatten ++ chunks.flatten ∧
      body.length ≤ limit ∧ state'.dataSocket = none := by
  induction steps generalizing state acc size record with
  | zero => exact ends.elim
  | succ steps ih =>
    rw [ftpRecvChunks, handleRecvChunk, opened, Program.ends_bind] at ends
    obtain ⟨replied, first, later, rfl, receives, ends⟩ := ends
    obtain ⟨answer, more, rfl, receives⟩ := receives
    cases answer with
    | ok chunk =>
      obtain ⟨rfl, rfl⟩ := receives
      dsimp only at ends
      split at ends
      · cases ends.2
      · next fits =>
        have sized' : size + chunk.length = (chunk :: acc).reverse.flatten.length := by
          simp [sized]
        obtain ⟨chunks, ⟨code, lines, replies, low, high, rfl⟩, rfl, bound, closed⟩ :=
          ih opened sized' (Nat.not_lt.mp fits) ends
        refine ⟨chunk :: chunks, ⟨code, lines, replies, low, high, rfl⟩, ?_, bound, closed⟩
        simp
    | error reason =>
      cases reason with
      | closed =>
        obtain ⟨_, rest, rfl, receives⟩ := receives
        change Program.Ends (readReply fuel >>= _) _ _ at receives
        rw [Program.ends_bind] at receives
        obtain ⟨read, lines, nothing, rfl, reads, rfl, rfl⟩ := receives
        dsimp only at ends
        split at ends
        · next state'' same =>
          obtain ⟨replied, rfl⟩ := Prod.mk.inj same
          obtain ⟨_, code, msg, rfl, low, high⟩ := concluded_eq (by simp) replied.symm
          obtain ⟨lines, replies, rfl, _⟩ := ends_readReply reads
          obtain ⟨rfl, same⟩ := ends
          cases same
          refine ⟨[], ⟨code, lines, replies, low, high, by simp [chunkEvents]⟩, by simp, ?_, rfl⟩
          exact sized ▸ within
        · next chunk state'' same =>
          obtain ⟨replied, rfl⟩ := Prod.mk.inj same
          have impossible := (concluded_eq (by simp) replied.symm).1
          cases impossible
        · cases ends.2
      | timeout =>
        obtain ⟨_, rest, rfl, rfl, rfl⟩ := receives
        cases ends.2
      | other reason =>
        obtain ⟨_, rest, rfl, rfl, rfl⟩ := receives
        cases ends.2

/-- A body is read from the only data connection of a session. -/
theorem ends_ftpFetchPath (idle : state.dataSocket = none)
    (ends : (ftpFetchPath fuel url limit path state).Ends record (.ok body, state')) :
    ∃ before host port socket accepted chunks transfer,
      record = before ++ ⟨.connectData host port, .ok socket⟩ :: (accepted ++ transfer) ∧
        Controls before ∧ Controls accepted ∧ Concludes socket chunks transfer ∧
        body = chunks.flatten ∧ body.length ≤ limit ∧ state'.dataSocket = none := by
  unfold ftpFetchPath at ends
  split at ends
  · rw [Program.ends_bind] at ends
    obtain ⟨⟨reply, left⟩, first, later, rfl, lists, ends⟩ := ends
    cases reply with
    | ok => exact ends.elim
    | error reason => cases ends.2
    | data listing =>
      dsimp only at ends
      split at ends
      · cases ends.2
      · next fits =>
        obtain ⟨rfl, same⟩ := ends
        cases same
        obtain ⟨before, host, port, socket, accepted, chunks, transfer, rfl, quiet, quiet',
          concludes, delivered, closed⟩ := ends_handleLs idle lists
        refine ⟨before, host, port, socket, accepted, chunks, transfer, ?_, quiet, quiet', concludes,
          delivered, Nat.not_lt.mp fits, closed⟩
        simp
  · rw [Program.ends_bind] at ends
    obtain ⟨⟨reply, left⟩, first, later, rfl, starts, ends⟩ := ends
    cases reply with
    | data listing => exact ends.elim
    | error reason => cases ends.2
    | ok =>
      rw [handleRecvChunkStart, closeDataSocket, idle] at starts
      change Program.Ends (startTransfer fuel (ascii "RETR ") path state >>= _) _ _ at starts
      rw [Program.ends_bind] at starts
      obtain ⟨started, opening, nothing, rfl, starts, replied⟩ := starts
      cases started with
      | error reason => cases replied.2
      | ok socket =>
        obtain ⟨rfl, same⟩ := replied
        cases same
        obtain ⟨before, host, port, accepted, rfl, quiet, quiet'⟩ := ends_startTransfer starts
        have opened : ({ state with dataSocket := some socket } : State).dataSocket =
            some socket := rfl
        obtain ⟨chunks, concludes, rfl, bound, closed⟩ :=
          ends_ftpRecvChunks opened (by simp) (Nat.zero_le _) ends
        refine ⟨before, host, port, socket, accepted, chunks, later, ?_, quiet, quiet', concludes,
          by simp, bound, closed⟩
        simp

/-- A session starts without a data connection. -/
theorem returns_openConnection {host : Host} :
    (openConnection fuel host).Returns fun opened =>
      ∀ state, opened = .ok state → state.dataSocket = none := by
  rw [openConnection]
  apply (Program.returns_any _).bind
  intro answer _
  cases answer with
  | error reason => simp
  | ok done =>
    apply (Program.returns_any _).bind
    intro read _
    cases read with
    | error reason => exact (Program.returns_any _).bind fun _ _ => by simp
    | ok reply =>
      obtain ⟨code, msg⟩ := reply
      dsimp only
      split
      · intro state same
        cases same
        rfl
      · exact (Program.returns_any _).bind fun _ _ => by simp

/-- A step of a session makes no call. -/
theorem ends_ftpStep {reply : Reply} {result : Except FetchError Unit}
    (ends : (ftpStep url reply).Ends record result) : record = [] := by
  cases reply with
  | ok => exact ends.1
  | error reason => exact ends.1
  | data bytes => exact ends.elim

/-- A session reads a body from its only data connection, after it logged in. -/
theorem ends_ftpSession (idle : state.dataSocket = none)
    (ends : (ftpSession fuel url limit path state).Ends record (.ok body, state')) :
    ∃ before host port socket accepted chunks transfer,
      record = before ++ ⟨.connectData host port, .ok socket⟩ :: (accepted ++ transfer) ∧
        Controls before ∧ Controls accepted ∧ Concludes socket chunks transfer ∧
        body = chunks.flatten ∧ body.length ≤ limit ∧ state'.dataSocket = none := by
  rw [ftpSession, Program.ends_bind] at ends
  obtain ⟨⟨reply, left⟩, login, later, rfl, logs, ends⟩ := ends
  obtain rfl : left = state := returns_handleUser.ends logs
  have quiet := controls_of_exchanges uses_handleUser logs
  dsimp only at ends
  rw [Program.ends_bind] at ends
  obtain ⟨stepped, nothing, later, rfl, steps, ends⟩ := ends
  obtain rfl := ends_ftpStep steps
  cases stepped with
  | error reason => cases ends.2
  | ok done =>
    change Program.Ends (handleType fuel .binary left >>= _) _ _ at ends
    rw [Program.ends_bind] at ends
    obtain ⟨⟨reply, left'⟩, mode, later, rfl, sets, ends⟩ := ends
    obtain rfl : left' = left := returns_handleType.ends sets
    have quiet' := controls_of_exchanges uses_handleType sets
    dsimp only at ends
    rw [Program.ends_bind] at ends
    obtain ⟨stepped, nothing, later, rfl, steps, ends⟩ := ends
    obtain rfl := ends_ftpStep steps
    cases stepped with
    | error reason => cases ends.2
    | ok done =>
      obtain ⟨before, host, port, socket, accepted, chunks, transfer, rfl, quiet'', accepts,
        concludes, delivered, bound, closed⟩ := ends_ftpFetchPath idle ends
      refine ⟨login ++ (mode ++ before), host, port, socket, accepted, chunks, transfer, by simp,
        ?_, accepts, concludes, delivered, bound, closed⟩
      exact Controls.append quiet (Controls.append quiet' quiet'')

/-- A fetch that ends with a body is complete. -/
theorem ends_ftpDownload (ends : (ftpDownload fuel url limit).Ends record (.ok body)) :
    Complete record body ∧ body.length ≤ limit := by
  have fetched : (ftpDownloadViaOtp fuel url limit).Ends record (.ok body) := by
    apply Program.ends_rescue ?_ ends
    intro reason record handled
    cases reason with
    | unending => exact handled
    | _ => cases handled.2
  rw [ftpDownloadViaOtp, Program.ends_bind] at fetched
  obtain ⟨host, nothing, later, rfl, named, fetched⟩ := fetched
  obtain ⟨rfl, _⟩ := Program.ends_orCrash.mp named
  rw [Program.ends_bind] at fetched
  obtain ⟨opened, opening, later, rfl, opens, fetched⟩ := fetched
  have quiet := uses_openConnection.ends opens
  cases opened with
  | error reason => cases fetched.2
  | ok state =>
    have idle : state.dataSocket = none := returns_openConnection.ends opens state rfl
    change Program.Ends (ftpSession _ _ _ _ state >>= _) _ _ at fetched
    rw [Program.ends_bind] at fetched
    obtain ⟨⟨result, left⟩, session, later, rfl, sessions, fetched⟩ := fetched
    dsimp only at fetched
    rw [Program.ends_bind] at fetched
    obtain ⟨done, closing, nothing, rfl, closes, rfl, rfl⟩ := fetched
    obtain ⟨before, host', port, socket, accepted, chunks, transfer, rfl, quiet', accepts, concludes,
      delivered, bound, closed⟩ := ends_ftpSession idle sessions
    have quiet'' := (uses_terminate closed).ends closes
    refine ⟨⟨opening ++ before, host', port, socket, accepted, chunks, transfer, closing, by simp,
      Controls.append quiet quiet', accepts, quiet'', concludes, delivered⟩, bound⟩

end Transfers

section Sample

/-- A command that is sent, and the line that answers it. -/
def exchange (cmd reply : String) : Record :=
  [⟨.send (ascii cmd), .ok ()⟩, ⟨.recvLine, .ok (ascii reply)⟩]

/-- A fetch of a file of three bytes. -/
def fileRecord : Record :=
  [⟨.connect (.name (ascii "h")), .ok ()⟩, ⟨.recvLine, .ok (ascii "220 Ready\r\n")⟩] ++
    exchange "USER anonymous\r\n" "230 in\r\n" ++ exchange "TYPE I\r\n" "200 ok\r\n" ++
    exchange "PASV\r\n" "227 (127,0,0,1,4,1)\r\n" ++
    [⟨.connectData (.address 127 0 0 1) 1025, .ok 1⟩] ++
    exchange "RETR /a\r\n" "150 here\r\n" ++
    [⟨.recv 1, .ok (ascii "ab")⟩, ⟨.recv 1, .ok (ascii "c")⟩, ⟨.recv 1, .error .closed⟩,
      ⟨.close 1, ()⟩, ⟨.recvLine, .ok (ascii "226 done\r\n")⟩] ++
    [⟨.send (ascii "QUIT\r\n"), .ok ()⟩, ⟨.closeControl, ()⟩]

/-- The fetch ends with the file. -/
theorem fileRecord_ends :
    (ftpDownload 5 (ascii "ftp://h/a") 3).Ends fileRecord (.ok (ascii "abc")) := by
  iterate 18 apply Program.Ends.answer
  exact ⟨rfl, rfl⟩

end Sample

end Sidereon.Ftp
