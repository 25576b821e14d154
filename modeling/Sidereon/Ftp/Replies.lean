import Sidereon.Foundation.Uri

/-!
# FTP replies

A reply is one line or several: the first of several carries a hyphen after its code, and the line
that ends it repeats the code. `parse_pasv` and `parse_epsv` read the data address out of the text
of a reply.
-/

namespace Sidereon.Ftp

open Foundation (Binary ascii isDigit)
open Foundation.Uri (ofDigits)

/-- A host of a connection: a name, or an address. -/
inductive Host where
  | name (text : Binary)
  | address (h1 h2 h3 h4 : Int)
  deriving DecidableEq, Repr

/-- Why an operation on a socket fails. -/
inductive NetError where
  | closed
  | timeout
  | other (reason : String)
  deriving DecidableEq, Repr

/-- The reasons the client returns. -/
inductive FtpError where
  | epath
  | ftpError (code : Nat) (msg : Binary)
  | badReply (line : Binary)
  | badPasvResponse (msg : Binary)
  | badEpsvResponse (msg : Binary)
  | noDataConnection
  | net (reason : NetError)
  deriving DecidableEq, Repr

/-- What `parse_reply_line` says of a line. -/
inductive ReplyLine where
  | singleLine (code : Nat) (line : Binary)
  | multilineStart (code : Nat) (codeStr line : Binary)
  | invalid (line : Binary)
  deriving DecidableEq, Repr

/-- `parse_reply_line`. -/
def parseReplyLine (line : Binary) : ReplyLine :=
  match line with
  | c1 :: c2 :: c3 :: rest =>
    if isDigit c1 && isDigit c2 && isDigit c3 then
      match rest with
      | 45 :: _ => .multilineStart (ofDigits [c1, c2, c3]) [c1, c2, c3] line
      | 32 :: _ => .singleLine (ofDigits [c1, c2, c3]) line
      | [13, 10] => .singleLine (ofDigits [c1, c2, c3]) line
      | [10] => .singleLine (ofDigits [c1, c2, c3]) line
      | _ => .invalid line
    else .invalid line
  | _ => .invalid line

/-- `check_multiline_end`, whether a line ends a reply. -/
def checkMultilineEnd (line codeStr : Binary) : Bool :=
  (codeStr ++ [32]).isPrefixOf line || line == codeStr ++ [13, 10] || line == codeStr ++ [10]

/-- The first match of a pattern in a text. -/
def firstMatch {α : Type} (matches? : Binary → Option α) : Binary → Option α
  | [] => matches? []
  | byte :: rest =>
    match matches? (byte :: rest) with
    | some found => some found
    | none => firstMatch matches? rest

/-- What follows the first opening parenthesis after a code that starts a text. -/
def afterParenthesis (code text : Binary) : Option Binary :=
  if code.isPrefixOf text then
    match (text.drop code.length).dropWhile (· != 40) with
    | _ :: inner => some inner
    | [] => none
  else none

/-- The capture of `227[^(]*\(([^)]+)\)`. -/
def pasvNumbers (text : Binary) : Option Binary := do
  let inner ← afterParenthesis (ascii "227") text
  let numbers := inner.takeWhile (· != 41)
  if numbers = [] ∨ 41 ∉ inner then none else some numbers

/-- The capture of `229[^(]*\(\|\|\|(\d+)\|`. -/
def epsvPort (text : Binary) : Option Binary := do
  let inner ← afterParenthesis (ascii "229") text
  if (ascii "|||").isPrefixOf inner then
    let digits := (inner.drop 3).takeWhile isDigit
    if digits ≠ [] ∧ (ascii "|").isPrefixOf ((inner.drop 3).dropWhile isDigit) then some digits
    else none
  else none

/-- The white space of Unicode, each in its encoding. -/
def whitespace : List Binary :=
  [[9], [10], [11], [12], [13], [32], [0xC2, 0x85], [0xC2, 0xA0], [0xE1, 0x9A, 0x80],
    [0xE2, 0x80, 0xA8], [0xE2, 0x80, 0xA9], [0xE2, 0x80, 0xAF], [0xE2, 0x81, 0x9F],
    [0xE3, 0x80, 0x80]] ++ (List.range 11).map fun n => [0xE2, 0x80, 0x80 + UInt8.ofNat n]

/-- Drop the leading strings of a list, at most a number of them. -/
def dropLeading (leading : List Binary) : Nat → Binary → Binary
  | 0, text => text
  | limit + 1, text =>
    match leading.find? (·.isPrefixOf text) with
    | some space => dropLeading leading limit (text.drop space.length)
    | none => text

/-- `String.trim`. -/
def trim (text : Binary) : Binary :=
  let front := dropLeading whitespace text.length text
  (dropLeading (whitespace.map List.reverse) front.length front.reverse).reverse

/-- `String.to_integer`, unless it raises. -/
def toInteger? (text : Binary) : Option Int :=
  let unsigned := fun digits : Binary =>
    if digits ≠ [] ∧ digits.all isDigit then some (ofDigits digits : Int) else none
  match text with
  | 45 :: digits => (unsigned digits).map (- ·)
  | 43 :: digits => unsigned digits
  | digits => unsigned digits

/-- `parse_pasv`, unless it raises. -/
def parsePasv (msg : Binary) (fallbackHost : Host) : Option (Except FtpError (Host × Int)) :=
  match firstMatch pasvNumbers msg with
  | some numsStr =>
    match ((numsStr.splitOn 44).map trim).mapM toInteger? with
    | some [h1, h2, h3, h4, p1, p2] =>
      let host := if (h1, h2, h3, h4) = (0, 0, 0, 0) then fallbackHost else .address h1 h2 h3 h4
      some (.ok (host, p1 * 256 + p2))
    | some _ => some (.error (.badPasvResponse msg))
    | none => none
  | none => some (.error (.badPasvResponse msg))

/-- `parse_epsv`. -/
def parseEpsv (msg : Binary) (host : Host) : Except FtpError (Host × Int) :=
  match firstMatch epsvPort msg with
  | some portStr => .ok (host, (ofDigits portStr : Int))
  | none => .error (.badEpsvResponse msg)

/-- The address of a reply, with spaces around its numbers, and that of a host on its own. -/
example : parsePasv (ascii "227 Entering (10, 0,0,1 ,4,1)\r\n") (.name (ascii "h")) =
    some (.ok (.address 10 0 0 1, 1025)) ∧
    parseEpsv (ascii "229 Extended (|||6446|)\r\n") (.name (ascii "h")) =
      .ok (.name (ascii "h"), 6446) := by
  decide +kernel

/-- Three digits. -/
def IsCode (digits : Binary) : Prop := digits.length = 3 ∧ ∀ digit ∈ digits, isDigit digit = true

/-- A line that ends a reply: its code, and a space or the end of the line. -/
def EndsReply (digits line : Binary) : Prop :=
  (∃ text, line = digits ++ 32 :: text) ∨ line = digits ++ [13, 10] ∨ line = digits ++ [10]

/-- The lines of a reply under a code. -/
inductive IsReply (digits : Binary) : List Binary → Prop where
  | single {line : Binary} (ends : EndsReply digits line) : IsReply digits [line]
  | multi {text line : Binary} {middle : List Binary}
      (within : ∀ line ∈ middle, ¬EndsReply digits line) (ends : EndsReply digits line) :
      IsReply digits ((digits ++ 45 :: text) :: (middle ++ [line]))

/-- A well-formed reply with a code. -/
def Replies (code : Nat) (lines : List Binary) : Prop :=
  ∃ digits, IsCode digits ∧ ofDigits digits = code ∧ IsReply digits lines

variable {digits line : Binary}

/-- The three digits of a code. -/
theorem IsCode.cases (valid : IsCode digits) : ∃ c1 c2 c3, digits = [c1, c2, c3] ∧
    isDigit c1 = true ∧ isDigit c2 = true ∧ isDigit c3 = true := by
  obtain ⟨length, all⟩ := valid
  match digits, length with
  | [c1, c2, c3], _ => exact ⟨c1, c2, c3, rfl, all c1 (by simp), all c2 (by simp), all c3 (by simp)⟩

/-- A line that ends a reply is read as a reply of one line. -/
theorem parseReplyLine_ends (valid : IsCode digits) (ends : EndsReply digits line) :
    parseReplyLine line = .singleLine (ofDigits digits) line := by
  obtain ⟨c1, c2, c3, rfl, first, second, third⟩ := valid.cases
  rcases ends with ⟨text, rfl⟩ | rfl | rfl
  · simp [parseReplyLine, first, second, third]
  · simp [parseReplyLine, first, second, third]
  · simp [parseReplyLine, first, second, third]

/-- A line with a hyphen after its code starts a reply of several. -/
theorem parseReplyLine_starts (valid : IsCode digits) (text : Binary) :
    parseReplyLine (digits ++ 45 :: text) =
      .multilineStart (ofDigits digits) digits (digits ++ 45 :: text) := by
  obtain ⟨c1, c2, c3, rfl, first, second, third⟩ := valid.cases
  simp [parseReplyLine, first, second, third]

/-- The check for the end of a reply. -/
theorem checkMultilineEnd_iff : checkMultilineEnd line digits = true ↔ EndsReply digits line := by
  simp only [checkMultilineEnd, EndsReply, Bool.or_eq_true, List.isPrefixOf_iff_prefix, beq_iff_eq,
    or_assoc]
  apply or_congr_left
  constructor
  · rintro ⟨text, rfl⟩
    exact ⟨text, by simp⟩
  · rintro ⟨text, rfl⟩
    exact ⟨text, by simp⟩

end Sidereon.Ftp
