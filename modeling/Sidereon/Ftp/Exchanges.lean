import Sidereon.Foundation.Handling
import Sidereon.Ftp.Fetch

/-!
# Exchanges on the control connection

Commands are sent and replies read on the control connection. What is read as a reply is the lines
of one, and no other call is made meanwhile.
-/

namespace Sidereon.Ftp

open Foundation
open Foundation.Uri (ofDigits)

/-- The answered calls of a fetch, first to last. -/
abbrev Record := List (Event Request Answer)

/-- The lines of a reply as they were read. -/
def lineEvents (lines : List Binary) : Record := lines.map fun line => ⟨.recvLine, .ok line⟩

/-- A call of an exchange. -/
def IsExchange : Request → Prop
  | .send _ => True
  | .recvLine => True
  | _ => False

section Replies

variable {fuel code : Nat} {line msg : Binary} {record : Record}

/-- Three digits at the start of a line are a code. -/
theorem isCode_of_digits {c1 c2 c3 : UInt8}
    (digits : (Foundation.isDigit c1 && Foundation.isDigit c2 && Foundation.isDigit c3) = true) :
    IsCode [c1, c2, c3] := by
  simp only [Bool.and_eq_true] at digits
  refine ⟨rfl, ?_⟩
  intro digit member
  simp only [List.mem_cons, List.not_mem_nil, or_false] at member
  rcases member with rfl | rfl | rfl
  · exact digits.1.1
  · exact digits.1.2
  · exact digits.2

/-- A line read as a reply of one line is one. -/
theorem replies_of_singleLine (parsed : parseReplyLine line = .singleLine code msg) :
    Replies code [line] ∧ msg = line := by
  unfold parseReplyLine at parsed
  split at parsed
  · next c1 c2 c3 rest =>
    split at parsed
    · next digits =>
      have valid := isCode_of_digits digits
      split at parsed
      · cases parsed
      · next text =>
        cases parsed
        exact ⟨⟨[c1, c2, c3], valid, rfl, .single (.inl ⟨text, rfl⟩)⟩, rfl⟩
      · cases parsed
        exact ⟨⟨[c1, c2, c3], valid, rfl, .single (.inr (.inl rfl))⟩, rfl⟩
      · cases parsed
        exact ⟨⟨[c1, c2, c3], valid, rfl, .single (.inr (.inr rfl))⟩, rfl⟩
      · cases parsed
    · cases parsed
  · cases parsed

/-- A line read as the start of a long reply carries its code. -/
theorem starts_of_multilineStart {codeStr rest : Binary}
    (parsed : parseReplyLine line = .multilineStart code codeStr rest) :
    IsCode codeStr ∧ ofDigits codeStr = code ∧ (∃ text, line = codeStr ++ 45 :: text) ∧
      rest = line := by
  unfold parseReplyLine at parsed
  split at parsed
  · next c1 c2 c3 more =>
    split at parsed
    · next digits =>
      split at parsed
      · next text =>
        cases parsed
        exact ⟨isCode_of_digits digits, rfl, ⟨text, rfl⟩, rfl⟩
      · cases parsed
      · cases parsed
      · cases parsed
      · cases parsed
    · cases parsed
  · cases parsed

/-- The rest of a long reply, as far as it was read. -/
theorem ends_readMultilineReply {digits : Binary} {acc : List Binary} {value : Nat × Binary}
    (ends : (readMultilineReply code digits fuel acc).Ends record (.ok value)) :
    ∃ middle last, record = lineEvents (middle ++ [last]) ∧
      (∀ line ∈ middle, ¬EndsReply digits line) ∧ EndsReply digits last ∧
        value = (code, (acc.reverse ++ middle ++ [last]).flatten) := by
  induction fuel generalizing acc record with
  | zero => exact ends.elim
  | succ fuel ih =>
    rw [readMultilineReply, Program.ends_bind] at ends
    obtain ⟨answer, _, later, rfl, read, ends⟩ := ends
    obtain rfl := Program.ends_perform.mp read
    cases answer with
    | error reason => cases ends.2
    | ok line =>
      dsimp only at ends
      split at ends
      · next stops =>
        obtain ⟨rfl, same⟩ := ends
        cases same
        exact ⟨[], line, rfl, by simp, checkMultilineEnd_iff.mp stops, by simp⟩
      · next onward =>
        obtain ⟨middle, last, rfl, within, stops, same⟩ := ih ends
        refine ⟨line :: middle, last, rfl, ?_, stops, by simpa using same⟩
        intro line' member
        rcases List.mem_cons.mp member with rfl | inside
        · exact fun stops => onward (checkMultilineEnd_iff.mpr stops)
        · exact within line' inside

/-- A reply is read as the lines of one, and its text is all of them. -/
theorem ends_readReply (ends : (readReply fuel).Ends record (.ok (code, msg))) :
    ∃ lines, Replies code lines ∧ record = lineEvents lines ∧ msg = lines.flatten := by
  rw [readReply, Program.ends_bind] at ends
  obtain ⟨answer, _, later, rfl, read, ends⟩ := ends
  obtain rfl := Program.ends_perform.mp read
  cases answer with
  | error reason => cases ends.2
  | ok line =>
    dsimp only at ends
    split at ends
    · next code' rest parsed =>
      obtain ⟨rfl, same⟩ := ends
      cases same
      obtain ⟨replies, rfl⟩ := replies_of_singleLine parsed
      exact ⟨[msg], replies, rfl, by simp⟩
    · next code' codeStr rest parsed =>
      obtain ⟨valid, same, ⟨text, rfl⟩, rfl⟩ := starts_of_multilineStart parsed
      obtain ⟨middle, last, rfl, within, stops, whole⟩ := ends_readMultilineReply ends
      cases whole
      exact ⟨_, ⟨codeStr, valid, same, .multi within stops⟩, rfl, by simp⟩
    · cases ends.2

end Replies

section Uses

variable {fuel : Nat} {state : State}

/-- A long reply is read by exchanges. -/
theorem uses_readMultilineReply {code : Nat} {digits : Binary} {acc : List Binary} :
    (readMultilineReply code digits fuel acc).Uses IsExchange := by
  induction fuel generalizing acc with
  | zero => trivial
  | succ fuel ih =>
    rw [readMultilineReply]
    apply Program.Uses.bind (Program.uses_perform.mpr trivial)
    intro answer
    cases answer with
    | error reason => trivial
    | ok line =>
      dsimp only
      split
      · trivial
      · exact ih

/-- A reply is read by exchanges. -/
theorem uses_readReply : (readReply fuel).Uses IsExchange := by
  rw [readReply]
  apply Program.Uses.bind (Program.uses_perform.mpr trivial)
  intro answer
  cases answer with
  | error reason => trivial
  | ok line =>
    dsimp only
    split
    · trivial
    · exact uses_readMultilineReply
    · trivial

/-- A command is sent by exchanges. -/
theorem uses_sendAndRead {cmd : Binary} : (sendAndRead fuel cmd).Uses IsExchange := by
  rw [sendAndRead]
  apply Program.Uses.bind (Program.uses_perform.mpr trivial)
  intro answer
  cases answer with
  | error reason => trivial
  | ok sent => exact uses_readReply

/-- The passive mode is entered by exchanges. -/
theorem uses_enterPassiveMode : (enterPassiveMode fuel state).Uses IsExchange := by
  rw [enterPassiveMode]
  apply Program.Uses.bind uses_sendAndRead
  intro read
  split
  · exact Program.uses_orCrash
  · trivial
  · apply Program.Uses.bind uses_sendAndRead
    intro read
    split
    · trivial
    · trivial
    · trivial
    · trivial

/-- A login is made by exchanges. -/
theorem uses_handleUser {user pass : Binary} :
    (handleUser fuel user pass state).Uses IsExchange := by
  rw [handleUser]
  apply Program.Uses.bind uses_sendAndRead
  intro read
  split
  · exact Program.Uses.bind uses_sendAndRead fun read => trivial
  · trivial

/-- The transfer mode is set by exchanges. -/
theorem uses_handleType {mode : Mode} : (handleType fuel mode state).Uses IsExchange := by
  rw [handleType]
  exact Program.Uses.bind uses_sendAndRead fun read => trivial

/-- A login keeps the state. -/
theorem returns_handleUser {user pass : Binary} :
    (handleUser fuel user pass state).Returns (·.2 = state) := by
  rw [handleUser]
  apply (Program.returns_any _).bind
  intro read _
  split
  · exact (Program.returns_any _).bind fun read _ => rfl
  · rfl

/-- A change of the mode keeps the state. -/
theorem returns_handleType {mode : Mode} :
    (handleType fuel mode state).Returns (·.2 = state) := by
  rw [handleType]
  exact (Program.returns_any _).bind fun read _ => rfl

end Uses

end Sidereon.Ftp
