import Sidereon.Ftp.Exchanges

/-!
# Absence over FTP

A fetch that ends with an absent object has read a reply with the code 550 in its session.
-/

namespace Sidereon.Ftp

open Foundation

/-- A record in which a reply with the code 550 is read. -/
def Refused (record : Record) : Prop :=
  ∃ before lines after, record = before ++ lineEvents lines ++ after ∧ Replies 550 lines

variable {fuel limit : Nat} {verb path url : Binary} {first later record : Record}
  {state state' : State}

/-- What is refused in the first part. -/
theorem Refused.append_left (refused : Refused first) (later : Record) :
    Refused (first ++ later) := by
  obtain ⟨before, lines, after, rfl, replies⟩ := refused
  exact ⟨before, lines, after ++ later, by simp, replies⟩

/-- What is refused in the second part. -/
theorem Refused.append_right (refused : Refused later) (first : Record) :
    Refused (first ++ later) := by
  obtain ⟨before, lines, after, rfl, replies⟩ := refused
  exact ⟨first ++ before, lines, after, by simp, replies⟩

/-- A reply that says that a path does not exist: the code 550. -/
def Denies : Read → Prop
  | .ok (code, _) => code = 550
  | .error reason => reason = .epath

/-- A program that gives a value of a kind only after a refusal. -/
def Blames {α : Type} (kind : α → Prop) (program : Action α) : Prop :=
  ∀ record value, program.Ends record value → kind value → Refused record

/-- The rule of sequence: the first part was refused, or the rest is. -/
theorem Blames.bind {α β : Type} {program : Action α} {rest : α → Action β} {kind : α → Prop}
    {kind' : β → Prop} (blames : Blames kind program)
    (onward : ∀ value, kind value ∨ Blames kind' (rest value)) :
    Blames kind' (program >>= rest) := by
  intro record value ends denied
  obtain ⟨middle, first, later, rfl, begins, ends⟩ := Program.ends_bind.mp ends
  rcases onward middle with already | refuses
  · exact (blames first middle begins already).append_left later
  · exact (refuses later value ends denied).append_right first

/-- A first part that is not looked at. -/
theorem Blames.after {α β : Type} {program : Action α} {rest : α → Action β} {kind : β → Prop}
    (onward : ∀ value, Blames kind (rest value)) : Blames kind (program >>= rest) := by
  intro record value ends denied
  obtain ⟨middle, first, later, rfl, _, ends⟩ := Program.ends_bind.mp ends
  exact (onward middle later value ends denied).append_right first

/-- A value of another kind. -/
theorem blames_pure {α : Type} {kind : α → Prop} {value : α} (other : ¬kind value) :
    Blames kind (pure value : Action α) := by
  intro record result ends denied
  obtain ⟨_, rfl⟩ := Program.ends_pure.mp ends
  exact absurd denied other

/-- A crash gives no value. -/
theorem blames_crash {α : Type} {kind : α → Prop} {reason : Raised} :
    Blames kind (.crash reason : Action α) :=
  fun _ _ ends => ends.elim

/-- A failed operation on a socket is no absence. -/
theorem blames_net {reason : NetError} : Blames Denies (pure (.error (.net reason)) : Action Read) :=
  blames_pure (by simp [Denies])

/-- The rest of a long reply. -/
theorem returns_readMultilineReply {code : Nat} {digits : Binary} {acc : List Binary} :
    (readMultilineReply code digits fuel acc).Returns (· ≠ .error .epath) := by
  induction fuel generalizing acc with
  | zero => trivial
  | succ fuel ih =>
    rw [readMultilineReply]
    apply (Program.returns_any _).bind
    intro answer _
    cases answer with
    | error reason => simp
    | ok line =>
      dsimp only
      split
      · simp
      · exact ih

/-- A reply is refused when its code is 550. -/
theorem readReply_blames : Blames Denies (readReply fuel) := by
  intro record read ends denied
  cases read with
  | ok reply =>
    obtain ⟨code, msg⟩ := reply
    obtain rfl : code = 550 := denied
    obtain ⟨lines, replies, rfl, _⟩ := ends_readReply ends
    exact ⟨[], lines, [], by simp, replies⟩
  | error reason =>
    have never : (readReply fuel).Returns (· ≠ .error .epath) := by
      rw [readReply]
      apply (Program.returns_any _).bind
      intro answer _
      cases answer with
      | error reason => simp
      | ok line =>
        dsimp only
        split
        · simp
        · exact returns_readMultilineReply
        · simp
    obtain rfl : reason = .epath := denied
    exact absurd rfl (never.ends ends)

/-- A command is refused when the code of its reply is 550. -/
theorem sendAndRead_blames {cmd : Binary} : Blames Denies (sendAndRead fuel cmd) := by
  rw [sendAndRead]
  apply Blames.after
  intro answer
  cases answer with
  | error reason => exact blames_net
  | ok done => exact readReply_blames

/-- An absent path. -/
def IsAbsent {α : Type} (result : Except FtpError α) : Prop := result = .error .epath

/-- The passive mode is refused when a code is 550. -/
theorem enterPassiveMode_blames : Blames IsAbsent (enterPassiveMode fuel state) := by
  rw [enterPassiveMode]
  apply sendAndRead_blames.bind
  intro read
  split
  · next msg =>
    right
    have other : ∀ address, parsePasv msg state.host = some address → ¬IsAbsent address := by
      intro address parsed
      unfold parsePasv at parsed
      split at parsed
      · split at parsed
        · cases parsed
          simp [IsAbsent]
        · cases parsed
          simp [IsAbsent]
        · cases parsed
      · cases parsed
        simp [IsAbsent]
    intro record address ends denied
    obtain ⟨_, parsed⟩ := Program.ends_orCrash.mp ends
    exact absurd denied (other address parsed)
  · exact .inl rfl
  · right
    apply sendAndRead_blames.bind
    intro read
    split
    · right
      apply blames_pure
      unfold parseEpsv
      split <;> simp [IsAbsent]
    · exact .inl rfl
    · right
      apply blames_pure
      simp [IsAbsent]
    · next reason =>
      by_cases absent : reason = .epath
      · exact .inl absent
      · right
        apply blames_pure
        simpa [IsAbsent] using absent

/-- A code that is refused is absent when it is 550. -/
theorem refused_eq {code : Nat} {msg : Binary} (absent : refused code msg = .epath) :
    code = 550 := by
  unfold refused at absent
  split at absent
  · assumption
  · cases absent

/-- A transfer is refused when a code is 550. -/
theorem startTransfer_blames : Blames IsAbsent (startTransfer fuel verb path state) := by
  rw [startTransfer]
  apply enterPassiveMode_blames.bind
  intro passive
  cases passive with
  | error reason =>
    by_cases absent : reason = .epath
    · exact .inl (congrArg _ absent)
    · right
      apply blames_pure
      simpa [IsAbsent] using absent
  | ok address =>
    right
    apply Blames.after
    intro answer
    cases answer with
    | error reason =>
      apply blames_pure
      simp [IsAbsent]
    | ok dataSocket =>
      apply sendAndRead_blames.bind
      intro read
      cases read with
      | ok reply =>
        obtain ⟨code, msg⟩ := reply
        by_cases absent : code = 550
        · exact .inl absent
        · right
          dsimp only
          split
          · apply blames_pure
            simp [IsAbsent]
          · apply blames_pure
            intro same
            exact absent (refused_eq (Except.error.inj same))
      | error reason =>
        by_cases absent : reason = .epath
        · exact .inl absent
        · right
          apply blames_pure
          simpa [IsAbsent] using absent

/-- A reply that says that a path does not exist. -/
def IsAbsentReply (replied : Reply × State) : Prop := replied.1 = .error .epath

/-- A call that is concluded as absent was denied. -/
theorem concluded_denies {success : Reply} {read : Read} (other : success ≠ .error .epath)
    (absent : concluded success read = .error .epath) : Denies read := by
  cases read with
  | ok reply =>
    obtain ⟨code, msg⟩ := reply
    simp only [concluded] at absent
    split at absent
    · exact absurd absent other
    · exact refused_eq (Reply.error.inj absent)
  | error reason => exact Reply.error.inj absent

/-- What a program reads is concluded. -/
theorem Blames.concluded {program : Action Read} (blames : Blames Denies program) {success : Reply}
    (other : success ≠ .error .epath) :
    Blames IsAbsentReply (program >>= fun read => pure (concluded success read, state)) := by
  apply blames.bind
  intro read
  by_cases denies : Denies read
  · exact .inl denies
  · exact .inr (blames_pure fun absent => denies (concluded_denies other absent))

/-- A login is refused when a code is 550. -/
theorem handleUser_blames {user pass : Binary} :
    Blames IsAbsentReply (handleUser fuel user pass state) := by
  rw [handleUser]
  apply sendAndRead_blames.bind
  intro read
  split
  · exact .inr (sendAndRead_blames.concluded (by simp))
  · by_cases denies : Denies read
    · exact .inl denies
    · exact .inr (blames_pure fun absent => denies (concluded_denies (by simp) absent))

/-- A change of the mode is refused when the code is 550. -/
theorem handleType_blames {mode : Mode} : Blames IsAbsentReply (handleType fuel mode state) := by
  rw [handleType]
  exact sendAndRead_blames.concluded (by simp)

/-- A listing is refused when a code is 550. -/
theorem handleLs_blames : Blames IsAbsentReply (handleLs fuel path state) := by
  rw [handleLs]
  apply startTransfer_blames.bind
  intro started
  cases started with
  | error reason =>
    by_cases absent : reason = .epath
    · exact .inl (congrArg _ absent)
    · right
      apply blames_pure
      simpa [IsAbsentReply] using absent
  | ok dataSocket =>
    right
    have received : (recvAllClosing fuel dataSocket).Returns (· ≠ .error .epath) := by
      have all {steps : Nat} {acc : List Binary} :
          (recvAllAcc dataSocket steps acc).Returns (· ≠ .error .epath) := by
        induction steps generalizing acc with
        | zero => trivial
        | succ steps ih =>
          rw [recvAllAcc]
          apply (Program.returns_any _).bind
          intro answer _
          cases answer with
          | ok data => exact ih
          | error reason => cases reason <;> simp
      rw [recvAllClosing]
      apply all.bind
      intro result other
      exact (Program.returns_any _).bind fun _ _ => other
    intro record replied ends absent
    obtain ⟨listing, first, later, rfl, receives, ends⟩ := Program.ends_bind.mp ends
    have other := received.ends receives
    cases listing with
    | error reason =>
      obtain ⟨_, rfl⟩ := ends
      exact absurd (congrArg Except.error (Reply.error.inj absent)) other
    | ok listing =>
      have replies : Blames IsAbsentReply
          (readReply fuel >>= fun read => pure (concluded (.data listing) read, state)) :=
        readReply_blames.concluded (by simp)
      exact (replies later replied ends absent).append_right first

/-- A file is refused when a code is 550. -/
theorem handleRecvChunkStart_blames :
    Blames IsAbsentReply (handleRecvChunkStart fuel path state) := by
  rw [handleRecvChunkStart]
  apply Blames.after
  intro closed
  apply startTransfer_blames.bind
  intro started
  cases started with
  | error reason =>
    by_cases absent : reason = .epath
    · exact .inl (congrArg _ absent)
    · right
      apply blames_pure
      simpa [IsAbsentReply] using absent
  | ok dataSocket =>
    right
    apply blames_pure
    simp [IsAbsentReply]

/-- The end of a file is refused when its code is 550. -/
theorem handleRecvChunk_blames : Blames IsAbsentReply (handleRecvChunk fuel state) := by
  rw [handleRecvChunk]
  split
  · apply blames_pure
    simp [IsAbsentReply]
  · apply Blames.after
    intro answer
    cases answer with
    | ok chunk =>
      apply blames_pure
      simp [IsAbsentReply]
    | error reason =>
      have fails {reason : NetError} {state : State} {socket : Nat} :
          Blames IsAbsentReply (do
            call (.close socket)
            pure (Reply.error (.net reason), state)) := by
        apply Blames.after
        intro _
        apply blames_pure
        simp [IsAbsentReply]
      cases reason with
      | closed =>
        apply Blames.after
        intro _
        exact readReply_blames.concluded (by simp)
      | timeout => exact fails
      | other reason => exact fails

/-- An object that is not on the archive. -/
def IsMissing {α : Type} (result : Except FetchError α) : Prop :=
  ∃ url, result = .error (.notFoundOnArchive url)

/-- A reply is an error of the archive when it says that the path does not exist. -/
theorem fetchError_missing {α : Type} {reason : FtpError}
    (missing : IsMissing (.error (fetchError url reason) : Except FetchError α)) :
    reason = .epath := by
  obtain ⟨_, same⟩ := missing
  unfold fetchError at same
  split at same
  · rfl
  · cases same

/-- What a reply of an error is fetched as. -/
theorem blames_fetchError {reason : FtpError} (other : reason ≠ .epath) :
    Blames (fun (fetched : Except FetchError Binary × State) => IsMissing fetched.1)
      (pure (.error (fetchError url reason), state)) :=
  blames_pure fun missing => other (fetchError_missing missing)

/-- Chunks are missing when the end of their file is refused. -/
theorem ftpRecvChunks_blames {steps size : Nat} {acc : List Binary} :
    Blames (fun fetched => IsMissing fetched.1)
      (ftpRecvChunks fuel url limit steps state acc size) := by
  induction steps generalizing state acc size with
  | zero => exact blames_crash
  | succ steps ih =>
    rw [ftpRecvChunks]
    apply handleRecvChunk_blames.bind
    intro replied
    split
    · right
      apply blames_pure
      simp [IsMissing]
    · right
      dsimp only
      split
      · apply blames_pure
        simp [IsMissing]
      · exact ih
    · next reason state' =>
      by_cases absent : reason = .epath
      · exact .inl (congrArg _ absent)
      · exact .inr (blames_fetchError absent)

/-- A path is missing when a code is 550. -/
theorem ftpFetchPath_blames :
    Blames (fun fetched => IsMissing fetched.1) (ftpFetchPath fuel url limit path state) := by
  rw [ftpFetchPath]
  split
  · apply handleLs_blames.bind
    intro replied
    split
    · right
      split
      · apply blames_pure
        simp [IsMissing]
      · apply blames_pure
        simp [IsMissing]
    · next reason state' =>
      by_cases absent : reason = .epath
      · exact .inl (congrArg _ absent)
      · exact .inr (blames_fetchError absent)
    · exact .inr blames_crash
  · apply handleRecvChunkStart_blames.bind
    intro replied
    split
    · exact .inr ftpRecvChunks_blames
    · next reason state' =>
      by_cases absent : reason = .epath
      · exact .inl (congrArg _ absent)
      · exact .inr (blames_fetchError absent)
    · exact .inr blames_crash

/-- A session finds an object missing when a code is 550. -/
theorem ftpSession_blames :
    Blames (fun fetched => IsMissing fetched.1) (ftpSession fuel url limit path state) := by
  have step {reply : Reply} {rest : Except FetchError Unit → Action (Except FetchError Binary × State)}
      {state : State} (onward : Blames (fun fetched => IsMissing fetched.1) (rest (.ok ())))
      (other : reply ≠ .error .epath)
      (failed : ∀ reason, rest (.error reason) = pure (.error reason, state)) :
      Blames (fun fetched => IsMissing fetched.1) (ftpStep url reply >>= rest) := by
    cases reply with
    | ok => exact onward
    | data bytes => exact blames_crash
    | error reason =>
      change Blames _ (rest (.error (fetchError url reason)))
      rw [failed]
      exact blames_fetchError fun absent => other (congrArg _ absent)
  rw [ftpSession]
  apply handleUser_blames.bind
  intro login
  obtain ⟨reply, state'⟩ := login
  by_cases absent : reply = .error .epath
  · exact .inl absent
  · right
    apply step ?_ absent fun _ => rfl
    apply handleType_blames.bind
    intro typed
    obtain ⟨reply, state''⟩ := typed
    by_cases absent : reply = .error .epath
    · exact .inl absent
    · right
      exact step ftpFetchPath_blames absent fun _ => rfl

/-- An object is missing over FTP only if a reply of the session has the code 550. -/
theorem ftpDownload_blames : Blames IsMissing (ftpDownload fuel url limit) := by
  have fetched : Blames IsMissing (ftpDownloadViaOtp fuel url limit) := by
    rw [ftpDownloadViaOtp]
    apply Blames.after
    intro host
    apply Blames.after
    intro opened
    cases opened with
    | error reason =>
      apply blames_pure
      simp [IsMissing]
    | ok state =>
      apply ftpSession_blames.bind
      intro fetched
      by_cases missing : IsMissing fetched.1
      · exact .inl missing
      · right
        apply Blames.after
        exact fun _ => blames_pure missing
  intro record result ends missing
  apply fetched record result ?_ missing
  apply Program.ends_rescue ?_ ends
  intro reason record handled
  obtain ⟨_, rfl⟩ := missing
  cases reason with
  | unending => exact handled
  | _ => cases handled.2

end Sidereon.Ftp
