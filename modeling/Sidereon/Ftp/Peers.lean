import Sidereon.Ftp.Exchanges

/-!
# Peers of a session

A session connects to the host of its URL, and for its data to the same host or to the address that
the reply just read to `PASV` names.
-/

namespace Sidereon.Ftp

open Foundation

/-- The answered calls of a session, latest first. -/
abbrev Past := History Request Answer

/-- The address of a data connection that the reply just read to `PASV` names. -/
def NamedBy (host : Host) (past : Past) (target : Host) (port : Int) : Prop :=
  ∃ lines earlier, Replies 227 lines ∧ parsePasv lines.flatten host = some (.ok (target, port)) ∧
    past = (lineEvents lines).reverse ++
      ⟨.send (commandLine (ascii "PASV") []), .ok ()⟩ :: earlier

/-- What a session may call: it connects to its host, and for data to its host or to the address
that the reply just read names. -/
def Directed (host : Option Binary) (past : Past) : Request → Prop
  | .connect target => ∃ name, host = some name ∧ target = .name name
  | .connectData target port => ∃ name, host = some name ∧
      (target = .name name ∨ NamedBy (.name name) past target port)
  | _ => True

/-- A program that connects to such peers only, whatever it is answered. -/
abbrev KeepsDirected {α : Type} (host : Option Binary) (post : Past → Except Raised α → Prop)
    (past : Past) (program : Action α) : Prop :=
  program.Keeps (Directed host) (fun _ _ _ => True) post past

/-- A call that connects to no peer. -/
def IsOnward : Request → Prop
  | .connect _ => False
  | .connectData _ _ => False
  | _ => True

variable {fuel limit : Nat} {verb path url name : Binary} {host : Option Binary} {state : State}
  {past : Past} {record : Record}

/-- An exchange connects to no peer. -/
theorem IsExchange.onward (request : Request) (exchange : IsExchange request) :
    IsOnward request := by
  cases request with
  | send cmd => trivial
  | recvLine => trivial
  | _ => exact exchange.elim

/-- Calls that connect to no peer are always allowed. -/
theorem directed_onward (past : Past) (request : Request) (onward : IsOnward request) :
    Directed host past request := by
  cases request with
  | connect target => exact onward.elim
  | connectData target port => exact onward.elim
  | _ => trivial

/-- A program that connects to no peer. -/
theorem onward_keeps {α : Type} {program : Action α} (onward : program.Uses IsOnward) :
    KeepsDirected host (fun _ _ => True) past program :=
  (onward.keeps_record directed_onward).mono fun _ _ _ => trivial

/-- A program of exchanges only. -/
theorem exchange_keeps {α : Type} {program : Action α} (exchange : program.Uses IsExchange) :
    KeepsDirected host (fun after outcome => ∃ record : Record, after = record.reverse ++ past ∧
      ∀ value, outcome = .ok value → program.Ends record value) past program := by
  apply ((exchange.mono IsExchange.onward).keeps_record directed_onward).mono
  intro after outcome kept
  obtain ⟨record, rfl, _, ends⟩ := kept
  exact ⟨record, rfl, ends⟩

/-- A reply to a command was read after the command was sent. -/
theorem ends_sendAndRead {cmd msg : Binary} {code : Nat}
    (ends : (sendAndRead fuel cmd).Ends record (.ok (code, msg))) :
    ∃ lines, Replies code lines ∧ msg = lines.flatten ∧
      record = ⟨.send cmd, .ok ()⟩ :: lineEvents lines := by
  rw [sendAndRead, Program.ends_bind] at ends
  obtain ⟨answer, _, later, rfl, sent, ends⟩ := ends
  obtain rfl := Program.ends_perform.mp sent
  cases answer with
  | error reason => cases ends.2
  | ok done =>
    obtain ⟨lines, replies, rfl, rfl⟩ := ends_readReply ends
    exact ⟨lines, replies, rfl, rfl⟩

/-- The passive mode leads to the host of the session, or to the address its reply names. -/
theorem ends_enterPassiveMode {target : Host} {port : Int}
    (ends : (enterPassiveMode fuel state).Ends record (.ok (target, port))) :
    target = state.host ∨ NamedBy state.host (record.reverse ++ past) target port := by
  rw [enterPassiveMode, Program.ends_bind] at ends
  obtain ⟨read, passive, later, rfl, first, ends⟩ := ends
  split at ends
  · next msg =>
    right
    obtain ⟨lines, replies, rfl, rfl⟩ := ends_sendAndRead first
    obtain ⟨rfl, parsed⟩ := Program.ends_orCrash.mp ends
    exact ⟨lines, past, replies, parsed, by simp⟩
  · cases ends.2
  · left
    change Program.Ends (sendAndRead fuel _ >>= _) _ _ at ends
    rw [Program.ends_bind] at ends
    obtain ⟨read, extended, nothing, rfl, second, ends⟩ := ends
    split at ends
    · next msg =>
      have parsed : (.ok (target, port) : Except FtpError (Host × Int)) = parseEpsv msg state.host :=
        ends.2
      unfold parseEpsv at parsed
      split at parsed
      · cases parsed
        rfl
      · cases parsed
    · cases ends.2
    · cases ends.2
    · cases ends.2

/-- A transfer is started on a data connection to such a peer. -/
theorem startTransfer_directed (known : host = some name) (hosted : state.host = .name name) :
    KeepsDirected host (fun _ _ => True) past (startTransfer fuel verb path state) := by
  rw [startTransfer]
  apply (exchange_keeps uses_enterPassiveMode).bind ?_ fun _ _ _ => trivial
  intro after passive kept
  obtain ⟨record, rfl, ends⟩ := kept
  cases passive with
  | error reason => trivial
  | ok address =>
    obtain ⟨target, port⟩ := address
    have led : target = state.host ∨ NamedBy state.host (record.reverse ++ past) target port :=
      ends_enterPassiveMode (ends _ rfl)
    rw [hosted] at led
    refine ⟨⟨name, known, led⟩, fun answer _ => ?_⟩
    cases answer with
    | error reason => trivial
    | ok dataSocket =>
      change KeepsDirected host _ _ (sendAndRead fuel (commandLine verb path) >>= _)
      apply (exchange_keeps uses_sendAndRead).bind ?_ fun _ _ _ => trivial
      intro after read _
      cases read with
      | error reason => trivial
      | ok reply =>
        dsimp only
        split <;> trivial

/-- A listing is read from such a peer. -/
theorem handleLs_directed (known : host = some name) (hosted : state.host = .name name) :
    KeepsDirected host (fun _ _ => True) past (handleLs fuel path state) := by
  have receives {socket : Nat} : (recvAllClosing fuel socket).Uses IsOnward := by
    have all {steps : Nat} {acc : List Binary} : (recvAllAcc socket steps acc).Uses IsOnward := by
      induction steps generalizing acc with
      | zero => trivial
      | succ steps ih =>
        rw [recvAllAcc]
        apply Program.Uses.bind (Program.uses_perform.mpr trivial)
        intro answer
        cases answer with
        | ok data => exact ih
        | error reason => cases reason <;> trivial
    rw [recvAllClosing]
    exact all.bind fun _ => Program.Uses.bind (Program.uses_perform.mpr trivial) fun _ => trivial
  rw [handleLs]
  apply (startTransfer_directed known hosted).bind ?_ fun _ _ _ => trivial
  intro after started _
  apply onward_keeps
  cases started with
  | error reason => trivial
  | ok dataSocket =>
    apply receives.bind
    intro listing
    cases listing with
    | error reason => trivial
    | ok listing => exact (uses_readReply.mono IsExchange.onward).bind fun _ => trivial

/-- The chunks of a file are received on the connection that is open. -/
theorem uses_ftpRecvChunks {steps size : Nat} {acc : List Binary} :
    (ftpRecvChunks fuel url limit steps state acc size).Uses IsOnward := by
  have chunk {state : State} : (handleRecvChunk fuel state).Uses IsOnward := by
    rw [handleRecvChunk]
    split
    · trivial
    · apply Program.Uses.bind (Program.uses_perform.mpr trivial)
      intro answer
      cases answer with
      | ok data => trivial
      | error reason =>
        have replied : (readReply fuel).Uses IsOnward := uses_readReply.mono IsExchange.onward
        cases reason with
        | closed =>
          apply Program.Uses.bind (Program.uses_perform.mpr trivial)
          exact fun _ => replied.bind fun _ => trivial
        | timeout => exact Program.Uses.bind (Program.uses_perform.mpr trivial) fun _ => trivial
        | other reason => exact Program.Uses.bind (Program.uses_perform.mpr trivial) fun _ => trivial
  induction steps generalizing state acc size with
  | zero => trivial
  | succ steps ih =>
    rw [ftpRecvChunks]
    apply chunk.bind
    intro received
    split
    · trivial
    · dsimp only
      split
      · trivial
      · exact ih
    · trivial

/-- A session closes the connection that is open. -/
theorem uses_closeDataSocket : (closeDataSocket state).Uses IsOnward := by
  rw [closeDataSocket]
  split
  · exact Program.Uses.bind (Program.uses_perform.mpr trivial) fun _ => trivial
  · trivial

/-- The state after the data connection is closed has the same host. -/
theorem returns_closeDataSocket : (closeDataSocket state).Returns (·.host = state.host) := by
  rw [closeDataSocket]
  split
  · exact (Program.returns_any _).bind fun _ _ => rfl
  · rfl

/-- A listing or a file is fetched from such a peer. -/
theorem ftpFetchPath_directed (known : host = some name) (hosted : state.host = .name name) :
    KeepsDirected host (fun _ _ => True) past (ftpFetchPath fuel url limit path state) := by
  rw [ftpFetchPath]
  split
  · apply (handleLs_directed known hosted).bind ?_ fun _ _ _ => trivial
    intro after replied _
    split
    · split <;> trivial
    · trivial
    · trivial
  · have starts : KeepsDirected host (fun _ _ => True) past (handleRecvChunkStart fuel path state) := by
      rw [handleRecvChunkStart]
      apply ((onward_keeps uses_closeDataSocket).and_returns returns_closeDataSocket).bind ?_
        fun _ _ _ => trivial
      intro after closed kept
      have hosted' : closed.host = .name name := (kept.2 closed rfl).trans hosted
      apply (startTransfer_directed known hosted').bind ?_ fun _ _ _ => trivial
      intro after started _
      cases started <;> trivial
    apply starts.bind ?_ fun _ _ _ => trivial
    intro after replied _
    split
    · exact onward_keeps uses_ftpRecvChunks
    · trivial
    · trivial

/-- A session connects to such peers only. -/
theorem ftpSession_directed (known : host = some name) (hosted : state.host = .name name) :
    KeepsDirected host (fun _ _ => True) past (ftpSession fuel url limit path state) := by
  have step {reply : Reply} : (ftpStep url reply).Uses IsExchange := by
    cases reply <;> trivial
  rw [ftpSession]
  apply ((exchange_keeps uses_handleUser).and_returns returns_handleUser).bind ?_
    fun _ _ _ => trivial
  intro after login kept
  obtain ⟨reply, state'⟩ := login
  obtain rfl : state' = state := kept.2 _ rfl
  apply (exchange_keeps step).bind ?_ fun _ _ _ => trivial
  intro after stepped _
  cases stepped with
  | error reason => trivial
  | ok done =>
    apply ((exchange_keeps uses_handleType).and_returns returns_handleType).bind ?_
      fun _ _ _ => trivial
    intro after typed kept
    obtain ⟨reply, state'⟩ := typed
    obtain rfl : state' = _ := kept.2 _ rfl
    apply (exchange_keeps step).bind ?_ fun _ _ _ => trivial
    intro after stepped _
    cases stepped with
    | error reason => trivial
    | ok done => exact ftpFetchPath_directed known hosted

/-- A session is opened with its host. -/
theorem openConnection_directed (known : host = some name) :
    KeepsDirected host (fun _ outcome => ∀ state, outcome = .ok (.ok state) → state.host = .name name)
      past (openConnection fuel (.name name)) := by
  refine ⟨⟨name, known, rfl⟩, fun answer _ => ?_⟩
  cases answer with
  | error reason => rintro _ ⟨⟩
  | ok done =>
    change KeepsDirected host _ _ (readReply fuel >>= _)
    apply (exchange_keeps uses_readReply).bind ?_ fun _ _ _ => by rintro _ ⟨⟩
    intro after read _
    have refuses {reason : FtpError} : KeepsDirected host
        (fun _ outcome => ∀ state, outcome = .ok (.ok state) → state.host = .name name) after
        (do
          call .closeControl
          pure (.error reason : Except FtpError State)) := by
      refine ⟨trivial, fun _ _ => ?_⟩
      rintro _ ⟨⟩
    cases read with
    | error reason => exact refuses
    | ok reply =>
      obtain ⟨code, msg⟩ := reply
      dsimp only
      split
      · rintro _ ⟨⟩
        rfl
      · exact refuses

/-- Whatever it is answered, a fetch connects to the host of its URL, and for its data to the same
host or to the address that the reply just read to `PASV` names. -/
theorem ftpDownload_directed (fuel limit : Nat) (url : Binary) :
    KeepsDirected (Uri.parse url).host (fun _ _ => True) [] (ftpDownload fuel url limit) := by
  apply Program.Keeps.rescue
  have fetched : KeepsDirected (Uri.parse url).host (fun _ _ => True) []
      (ftpDownloadViaOtp fuel url limit) := by
    rw [ftpDownloadViaOtp]
    cases known : (Uri.parse url).host with
    | none => trivial
    | some name =>
      change KeepsDirected _ _ _ (openConnection fuel (.name name) >>= _)
      apply (openConnection_directed rfl).bind ?_ fun _ _ _ => trivial
      intro after opened hosted
      cases opened with
      | error reason => trivial
      | ok state =>
        apply (ftpSession_directed rfl (hosted state rfl)).bind ?_ fun _ _ _ => trivial
        intro after done _
        have terminates : (terminate done.2).Uses IsOnward := by
          rw [terminate]
          exact uses_closeDataSocket.bind fun _ => ⟨trivial, fun _ => ⟨trivial, fun _ => trivial⟩⟩
        exact onward_keeps (terminates.bind fun _ => trivial)
  apply fetched.mono
  intro after outcome _
  cases outcome with
  | ok value => trivial
  | error reason => cases reason <;> trivial

end Sidereon.Ftp
