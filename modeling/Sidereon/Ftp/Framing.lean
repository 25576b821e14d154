import Mathlib.Algebra.Order.BigOperators.Group.List
import Mathlib.Algebra.Order.Group.Nat
import Sidereon.Ftp.Client

/-!
# The framing of replies

The control connection is read line by line. Replies that were written one after the other are read
one by each call: a call stops at the line that ends its reply, whatever the lines in between look
like, so the next call starts where the next reply does.
-/

namespace Sidereon.Ftp

open Foundation

/-- A line: it ends with its only line feed. -/
def IsLine (line : Binary) : Prop := ∃ text, line = text ++ [10] ∧ 10 ∉ text

/-- The connection in line mode, with the bytes that were written and not read: a call receives the
next line. -/
def ReceivesLines : (request : Request) → Binary → Answer request → Binary → Prop
  | .recvLine, unread, .ok line, unread' => IsLine line ∧ unread = line ++ unread'
  | _, _, _, _ => False

/-- A reply as it is written. -/
structure Written where
  code : Nat
  lines : List Binary
  replies : Replies code lines
  isLine : ∀ line ∈ lines, IsLine line

namespace Written

/-- The text of a reply. -/
def text (reply : Written) : Binary := reply.lines.flatten

/-- Replies one after the other. -/
def stream (replies : List Written) : Binary := (replies.map text).flatten

end Written

/-- A call of `read_reply`: the bytes before it, what it returns, and the bytes after it. -/
structure ReadCall where
  before : Binary
  outcome : Except Raised Read
  after : Binary

/-- Successive calls of `read_reply` on a connection. -/
inductive Calls (fuel : Nat) : Binary → List ReadCall → Prop where
  | nil {unread : Binary} : Calls fuel unread []
  | cons {before after : Binary} {outcome : Except Raised Read} {calls : List ReadCall}
      (reads : (readReply fuel).Exec ReceivesLines before outcome after)
      (later : Calls fuel after calls) : Calls fuel before (⟨before, outcome, after⟩ :: calls)

/-- The calls that read one reply each. -/
def oneEach (rest : Binary) : List Written → List ReadCall
  | [] => []
  | reply :: replies =>
    ⟨Written.stream (reply :: replies) ++ rest, .ok (.ok (reply.code, reply.text)),
      Written.stream replies ++ rest⟩ :: oneEach rest replies

section Lines

variable {line line' rest rest' : Binary}

/-- The next line is the only one that can be received. -/
theorem IsLine.unique (isLine : IsLine line) (isLine' : IsLine line')
    (same : line ++ rest = line' ++ rest') : line = line' ∧ rest = rest' := by
  obtain ⟨text, rfl, plain⟩ := isLine
  obtain ⟨text', rfl, plain'⟩ := isLine'
  induction text generalizing text' with
  | nil =>
    cases text' with
    | nil => exact ⟨rfl, (List.cons.inj same).2⟩
    | cons byte text' =>
      have first : 10 = byte := (List.cons.inj same).1
      exact absurd (first ▸ List.mem_cons_self) plain'
  | cons byte text ih =>
    cases text' with
    | nil =>
      have first : byte = 10 := (List.cons.inj same).1
      exact absurd (first ▸ List.mem_cons_self) plain
    | cons byte' text' =>
      obtain ⟨first, later⟩ := List.cons.inj same
      have fresh : 10 ∉ text := fun member => plain (List.mem_cons_of_mem _ member)
      have fresh' : 10 ∉ text' := fun member => plain' (List.mem_cons_of_mem _ member)
      obtain ⟨equal, ends⟩ := ih fresh text' fresh' later
      exact ⟨by rw [first, List.cons_append, List.cons_append, equal], ends⟩

/-- A call receives the next line. -/
theorem exec_recvLine {α : Type} {next : Answer .recvLine → Action α} {outcome : Except Raised α}
    {after : Binary} (isLine : IsLine line) :
    (call .recvLine >>= next).Exec ReceivesLines (line ++ rest) outcome after ↔
      (next (.ok line)).Exec ReceivesLines rest outcome after := by
  constructor
  · rintro ⟨answer, between, received, executed⟩
    cases answer with
    | error reason => exact received.elim
    | ok line' =>
      obtain ⟨isLine', same⟩ := received
      obtain ⟨rfl, rfl⟩ := isLine.unique isLine' same
      exact executed
  · intro executed
    exact ⟨.ok line, rest, ⟨isLine, rfl⟩, executed⟩

end Lines

section Reading

variable {fuel code : Nat} {digits line rest after : Binary} {middle lines : List Binary}
  {outcome : Except Raised Read}

/-- A value is all a program does. -/
theorem exec_done {α : Type} {value : α} {outcome : Except Raised α} {before after : Binary} :
    (pure value : Action α).Exec ReceivesLines before outcome after ↔
      outcome = .ok value ∧ after = before :=
  Iff.rfl

/-- The lines after the first of a long reply are read up to the one that ends it. -/
theorem exec_readMultilineReply (acc : List Binary)
    (within : ∀ line ∈ middle, ¬EndsReply digits line) (ends : EndsReply digits line)
    (isLine : ∀ line' ∈ middle ++ [line], IsLine line') (enough : middle.length < fuel) :
    (readMultilineReply code digits fuel acc).Exec ReceivesLines
        ((middle ++ [line]).flatten ++ rest) outcome after ↔
      outcome = .ok (.ok (code, (acc.reverse ++ middle ++ [line]).flatten)) ∧ after = rest := by
  induction middle generalizing acc fuel with
  | nil =>
    obtain ⟨fuel, rfl⟩ := Nat.exists_eq_succ_of_ne_zero (Nat.ne_of_gt enough)
    have last : (([] ++ [line]).flatten ++ rest : Binary) = line ++ rest := by simp
    rw [last, readMultilineReply, exec_recvLine (isLine line (by simp))]
    dsimp only
    rw [if_pos (checkMultilineEnd_iff.mpr ends), exec_done, List.append_nil, List.reverse_cons]
  | cons first middle ih =>
    obtain ⟨fuel, rfl⟩ := Nat.exists_eq_succ_of_ne_zero (Nat.ne_of_gt (Nat.zero_lt_of_lt enough))
    have next : ((first :: middle ++ [line]).flatten ++ rest : Binary) =
        first ++ ((middle ++ [line]).flatten ++ rest) := by simp
    have onward : ¬ checkMultilineEnd first digits = true := by
      rw [checkMultilineEnd_iff]
      exact within first List.mem_cons_self
    have later : ∀ line' ∈ middle ++ [line], IsLine line' :=
      fun line' member => isLine line' (List.mem_cons_of_mem _ member)
    rw [next, readMultilineReply, exec_recvLine (isLine first List.mem_cons_self)]
    dsimp only
    rw [if_neg onward, ih (first :: acc) (fun line member => within line
      (List.mem_cons_of_mem _ member)) later (Nat.lt_of_succ_lt_succ enough), List.reverse_cons]
    simp only [List.append_assoc, List.cons_append, List.nil_append]

/-- A call reads the lines of one reply and no more. -/
theorem exec_readReply (replies : Replies code lines) (isLine : ∀ line ∈ lines, IsLine line)
    (enough : lines.length ≤ fuel) :
    (readReply fuel).Exec ReceivesLines (lines.flatten ++ rest) outcome after ↔
      outcome = .ok (.ok (code, lines.flatten)) ∧ after = rest := by
  obtain ⟨digits, valid, rfl, reply⟩ := replies
  cases reply with
  | @single line ends =>
    have only : ([line].flatten ++ rest : Binary) = line ++ rest := by simp
    rw [only, readReply, exec_recvLine (isLine line List.mem_cons_self)]
    dsimp only
    rw [parseReplyLine_ends valid ends]
    simp only [exec_done, List.flatten_cons, List.flatten_nil, List.append_nil]
  | @multi text line middle within ends =>
    have first : (((digits ++ 45 :: text) :: (middle ++ [line])).flatten ++ rest : Binary) =
        (digits ++ 45 :: text) ++ ((middle ++ [line]).flatten ++ rest) := by
      rw [List.flatten_cons, List.append_assoc]
    have later : ∀ line' ∈ middle ++ [line], IsLine line' :=
      fun line' member => isLine line' (List.mem_cons_of_mem _ member)
    have fits : middle.length < fuel := by
      simp only [List.length_cons, List.length_append] at enough
      omega
    rw [first, readReply, exec_recvLine (isLine _ List.mem_cons_self)]
    dsimp only
    rw [parseReplyLine_starts valid]
    dsimp only
    rw [exec_readMultilineReply _ within ends later fits]
    simp only [List.reverse_singleton, List.cons_append, List.nil_append]

/-- As many calls as replies read one reply each. -/
theorem calls_oneEach {replies : List Written} {calls : List ReadCall}
    (enough : ∀ reply ∈ replies, reply.lines.length ≤ fuel)
    (asMany : calls.length = replies.length) :
    Calls fuel (Written.stream replies ++ rest) calls ↔ calls = oneEach rest replies := by
  induction replies generalizing calls with
  | nil =>
    obtain rfl := List.length_eq_zero_iff.mp asMany
    exact iff_of_true .nil rfl
  | cons reply replies ih =>
    have more : ∀ reply ∈ replies, reply.lines.length ≤ fuel :=
      fun reply member => enough reply (List.mem_cons_of_mem _ member)
    have first : Written.stream (reply :: replies) ++ rest =
        reply.lines.flatten ++ (Written.stream replies ++ rest) := by
      simp [Written.stream, Written.text]
    cases calls with
    | nil => simp at asMany
    | cons made calls =>
      have asMany' : calls.length = replies.length := Nat.succ.inj asMany
      rw [oneEach, List.cons.injEq, ← ih more asMany']
      constructor
      · intro run
        cases run with
        | cons reads later =>
          rw [first, exec_readReply reply.replies reply.isLine
            (enough reply List.mem_cons_self)] at reads
          obtain ⟨rfl, rfl⟩ := reads
          exact ⟨rfl, later⟩
      · rintro ⟨rfl, later⟩
        refine .cons ?_ later
        rw [first, exec_readReply reply.replies reply.isLine (enough reply List.mem_cons_self)]
        exact ⟨rfl, rfl⟩

end Reading

end Sidereon.Ftp
