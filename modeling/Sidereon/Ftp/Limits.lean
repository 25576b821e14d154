import Sidereon.Ftp.Transfer

/-!
# Sizes over FTP

A fetch is given up for its size only after more than the limit was received on its data connection,
and a body that goes past the limit in its first chunk is given up there.
-/

namespace Sidereon.Ftp

open Foundation

/-- The bytes that a call receives on a data connection. -/
def receivedBytes : Event Request Answer → Binary
  | ⟨.recv _, .ok chunk⟩ => chunk
  | _ => []

/-- The bytes that were received on data connections. -/
def receivedData (record : Record) : Binary := record.flatMap receivedBytes

section Excess

variable {fuel limit n : Nat} {path url : Binary} {record first later : Record}
  {state state' : State}

/-- What is received in two parts. -/
theorem receivedData_append :
    receivedData (first ++ later) = receivedData first ++ receivedData later :=
  List.flatMap_append

/-- What is received by a call and after it. -/
theorem receivedData_cons (event : Event Request Answer) :
    receivedData (event :: record) = receivedBytes event ++ receivedData record :=
  rfl

/-- Chunks are received as they are. -/
theorem receivedData_chunks (socket : Nat) (chunks : List Binary) :
    receivedData (chunkEvents socket chunks) = chunks.flatten := by
  induction chunks with
  | nil => rfl
  | cons chunk chunks ih =>
    rw [List.flatten_cons, ← ih]
    rfl

/-- The error of a reply is no excess. -/
theorem fetchError_size {reason : FtpError} : fetchError url reason ≠ .downloadSizeExceeded n := by
  unfold fetchError
  split <;> exact nofun

/-- Chunks are given up when more than the limit was received with them. -/
theorem exceeded_ftpRecvChunks {steps size : Nat} {acc : List Binary}
    (ends : (ftpRecvChunks fuel url limit steps state acc size).Ends record
      (.error (.downloadSizeExceeded n), state')) :
    n = limit ∧ limit < size + (receivedData record).length := by
  induction steps generalizing state acc size record with
  | zero => exact ends.elim
  | succ steps ih =>
    rw [ftpRecvChunks, Program.ends_bind] at ends
    obtain ⟨⟨reply, left⟩, first, later, split_record, receives, ends⟩ := ends
    rw [split_record, receivedData_append, List.length_append]
    cases reply with
    | ok => cases ends.2
    | error reason =>
      have same := congrArg Prod.fst ends.2
      exact absurd (Except.error.inj same).symm fetchError_size
    | data chunk =>
      have chunked : receivedData first = chunk := by
        rw [handleRecvChunk] at receives
        cases opened : state.dataSocket with
        | none =>
          rw [opened] at receives
          cases receives.2
        | some socket =>
          rw [opened] at receives
          obtain ⟨answer, more, answered, receives⟩ := receives
          cases answer with
          | ok data =>
            obtain ⟨nothing, same⟩ := receives
            cases same
            rw [answered, nothing]
            exact List.append_nil _
          | error reason =>
            cases reason with
            | closed =>
              obtain ⟨_, rest, _, receives⟩ := receives
              change Program.Ends (readReply fuel >>= _) _ _ at receives
              obtain ⟨read, _, _, _, _, concluded_as⟩ := Program.ends_bind.mp receives
              have same := congrArg Prod.fst concluded_as.2
              have impossible := (concluded_eq (by simp) same).1
              cases impossible
            | timeout =>
              obtain ⟨_, rest, _, receives⟩ := receives
              cases receives.2
            | other reason =>
              obtain ⟨_, rest, _, receives⟩ := receives
              cases receives.2
      dsimp only at ends
      rw [chunked]
      by_cases exceeds : size + chunk.length > limit
      · rw [if_pos exceeds] at ends
        obtain ⟨_, same⟩ := ends
        cases same
        exact ⟨rfl, by omega⟩
      · rw [if_neg exceeds] at ends
        obtain ⟨same, more⟩ := ih ends
        exact ⟨same, by omega⟩

/-- A path is given up when more than the limit was received. -/
theorem exceeded_ftpFetchPath (idle : state.dataSocket = none)
    (ends : (ftpFetchPath fuel url limit path state).Ends record
      (.error (.downloadSizeExceeded n), state')) :
    n = limit ∧ limit < (receivedData record).length := by
  unfold ftpFetchPath at ends
  split at ends
  · rw [Program.ends_bind] at ends
    obtain ⟨⟨reply, left⟩, first, later, split_record, lists, ends⟩ := ends
    rw [split_record, receivedData_append, List.length_append]
    cases reply with
    | ok => exact ends.elim
    | error reason =>
      have same := congrArg Prod.fst ends.2
      exact absurd (Except.error.inj same).symm fetchError_size
    | data listing =>
      dsimp only at ends
      split at ends
      · next exceeds =>
        obtain ⟨_, same⟩ := ends
        cases same
        obtain ⟨before, host, port, socket, accepted, chunks, transfer, recorded, _, _,
          ⟨code, lines, _, _, _, transferred⟩, delivered, _⟩ := ends_handleLs idle lists
        have within : (receivedData first).length ≥ chunks.flatten.length := by
          rw [recorded, transferred]
          simp only [receivedData_append, receivedData_cons, receivedData_chunks, List.length_append]
          omega
        rw [delivered] at exceeds
        exact ⟨rfl, by omega⟩
      · cases ends.2
  · rw [Program.ends_bind] at ends
    obtain ⟨⟨reply, left⟩, first, later, split_record, _, ends⟩ := ends
    rw [split_record, receivedData_append, List.length_append]
    cases reply with
    | data listing => exact ends.elim
    | error reason =>
      have same := congrArg Prod.fst ends.2
      exact absurd (Except.error.inj same).symm fetchError_size
    | ok =>
      obtain ⟨same, exceeds⟩ := exceeded_ftpRecvChunks ends
      exact ⟨same, by omega⟩

/-- A session is given up when more than the limit was received. -/
theorem exceeded_ftpSession (idle : state.dataSocket = none)
    (ends : (ftpSession fuel url limit path state).Ends record
      (.error (.downloadSizeExceeded n), state')) :
    n = limit ∧ limit < (receivedData record).length := by
  have step {reply : Reply} {result : Except FetchError Unit} {nothing : Record}
      (steps : (ftpStep url reply).Ends nothing result) {reason : FetchError}
      (failed : result = .error reason) : reason ≠ .downloadSizeExceeded n := by
    cases reply with
    | ok =>
      obtain ⟨_, same⟩ := steps
      rw [failed] at same
      cases same
    | data chunk => exact steps.elim
    | error other =>
      obtain ⟨_, same⟩ := steps
      rw [failed] at same
      cases same
      exact fetchError_size
  rw [ftpSession, Program.ends_bind] at ends
  obtain ⟨⟨reply, left⟩, login, later, split_record, logs, ends⟩ := ends
  have same_state : left = state := returns_handleUser.ends logs
  dsimp only at ends
  rw [Program.ends_bind] at ends
  obtain ⟨stepped, nothing, later', split_later, steps, ends⟩ := ends
  rw [split_record, split_later]
  simp only [receivedData_append, List.length_append]
  cases stepped with
  | error reason =>
    have same := congrArg Prod.fst ends.2
    exact absurd (Except.error.inj same).symm (step steps rfl)
  | ok done =>
    change Program.Ends (handleType fuel .binary left >>= _) _ _ at ends
    rw [Program.ends_bind] at ends
    obtain ⟨⟨reply, left'⟩, mode, later'', split_mode, sets, ends⟩ := ends
    have same_state' : left' = left := returns_handleType.ends sets
    dsimp only at ends
    rw [Program.ends_bind] at ends
    obtain ⟨stepped, nothing', last, split_last, steps, ends⟩ := ends
    rw [split_mode, split_last]
    simp only [receivedData_append, List.length_append]
    cases stepped with
    | error reason =>
      have same := congrArg Prod.fst ends.2
      exact absurd (Except.error.inj same).symm (step steps rfl)
    | ok done =>
      rw [same_state', same_state] at ends
      obtain ⟨same, exceeds⟩ := exceeded_ftpFetchPath idle ends
      exact ⟨same, by omega⟩

/-- A fetch is given up for its size only when more than the limit was received. -/
theorem ftpDownload_exceeded
    (ends : (ftpDownload fuel url limit).Ends record (.error (.downloadSizeExceeded n))) :
    n = limit ∧ limit < (receivedData record).length := by
  have fetched : (ftpDownloadViaOtp fuel url limit).Ends record
      (.error (.downloadSizeExceeded n)) := by
    apply Program.ends_rescue ?_ ends
    intro reason record handled
    cases reason with
    | unending => exact handled
    | _ => cases handled.2
  rw [ftpDownloadViaOtp, Program.ends_bind] at fetched
  obtain ⟨host, nothing, later, split_record, _, fetched⟩ := fetched
  rw [Program.ends_bind] at fetched
  obtain ⟨opened, opening, later', split_later, opens, fetched⟩ := fetched
  rw [split_record, split_later]
  simp only [receivedData_append, List.length_append]
  cases opened with
  | error reason => cases fetched.2
  | ok state =>
    have idle : state.dataSocket = none := returns_openConnection.ends opens state rfl
    change Program.Ends (ftpSession _ _ _ _ state >>= _) _ _ at fetched
    rw [Program.ends_bind] at fetched
    obtain ⟨⟨result, left⟩, session, last, split_last, sessions, fetched⟩ := fetched
    dsimp only at fetched
    rw [Program.ends_bind] at fetched
    obtain ⟨_, closing, _, _, _, _, same⟩ := fetched
    cases same
    rw [split_last]
    obtain ⟨same, exceeds⟩ := exceeded_ftpSession idle sessions
    rw [receivedData_append, List.length_append]
    exact ⟨same, by omega⟩

end Excess

section Sample

variable {limit : Nat} {chunk : Binary}

/-- A fetch of a file that is given up with its first chunk. -/
def largeRecord (chunk : Binary) : Record :=
  [⟨.connect (.name (ascii "h")), .ok ()⟩, ⟨.recvLine, .ok (ascii "220 Ready\r\n")⟩] ++
    exchange "USER anonymous\r\n" "230 in\r\n" ++ exchange "TYPE I\r\n" "200 ok\r\n" ++
    exchange "PASV\r\n" "227 (127,0,0,1,4,1)\r\n" ++
    [⟨.connectData (.address 127 0 0 1) 1025, .ok 1⟩] ++
    exchange "RETR /a\r\n" "150 here\r\n" ++ [⟨.recv 1, .ok chunk⟩] ++
    [⟨.close 1, ()⟩, ⟨.send (ascii "QUIT\r\n"), .ok ()⟩, ⟨.closeControl, ()⟩]

/-- The first chunk is all that is received. -/
theorem receivedData_largeRecord : receivedData (largeRecord chunk) = chunk := by
  have received : receivedData (largeRecord chunk) = chunk ++ [] := rfl
  rw [received, List.append_nil]

/-- A body whose first chunk is past the limit is given up. -/
theorem largeRecord_ends (large : limit < chunk.length) :
    (ftpDownload 5 (ascii "ftp://h/a") limit).Ends (largeRecord chunk)
      (.error (.downloadSizeExceeded limit)) := by
  have exceeds : 0 + chunk.length > limit := by omega
  iterate 12 apply Program.Ends.answer
  dsimp only [Program.bind, pure]
  rw [if_pos exceeds]
  iterate 3 apply Program.Ends.answer
  exact ⟨rfl, rfl⟩

end Sample

end Sidereon.Ftp
