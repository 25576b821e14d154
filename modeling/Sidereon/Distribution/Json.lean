import Sidereon.Distribution.Provenance

/-!
# The texts of JSON

Terms are printed as `Jason` prints them and read back. What is printed is read back behind any text
that does not go on with a digit, so the printer and the reader are an instance of what acquisition
relies on: a term is encoded when its texts are UTF-8, and decoded as it was.
-/

namespace Sidereon.Distribution

open Foundation

mutual

/-- A term without doubles, in which no map has a key twice. -/
def Term.simple : Term → Bool
  | .number (.float _ _) => false
  | .list items => Term.listSimple items
  | .map fields => decide (fields.map (·.1)).Nodup && Term.fieldsSimple fields
  | _ => true

/-- Every one of the terms is simple. -/
def Term.listSimple : List Term → Bool
  | [] => true
  | item :: items => item.simple && Term.listSimple items

/-- Every value of the fields is simple. -/
def Term.fieldsSimple : List (Binary × Term) → Bool
  | [] => true
  | (_, value) :: fields => value.simple && Term.fieldsSimple fields

end

/-- What acquisition relies on in `Jason`: a simple term is encoded if and only if its texts are
UTF-8, and decoded as it was. -/
structure Jason (library : Library) : Prop where
  encodes : ∀ term, term.simple = true → (library.encode term).isSome = term.utf8
  decodes : ∀ term json, term.simple = true → library.encode term = some json →
    library.decode json = some term

namespace Json

/-- A hexadecimal digit. -/
def hex (n : UInt8) : UInt8 := if n < 10 then 48 + n else 55 + n

/-- The value of a hexadecimal digit. -/
def ofHex (digit : UInt8) : UInt8 := if digit < 58 then digit - 48 else digit - 55

/-- The bytes that have an escape of their own, each with the letter of it. -/
def escapes : List (UInt8 × UInt8) :=
  [(34, 34), (92, 92), (8, 98), (9, 116), (10, 110), (12, 102), (13, 114)]

/-- A byte of a text as it is printed. -/
def escape (byte : UInt8) : Binary :=
  match escapes.lookup byte with
  | some letter => [92, letter]
  | none => if byte < 32 then [92, 117, 48, 48, hex (byte / 16), hex (byte % 16)] else [byte]

/-- A text in quotes. -/
def quote (text : Binary) : Binary := 34 :: (text.flatMap escape ++ [34])

/-- Read the rest of a text in quotes. -/
def readText : Binary → Option (Binary × Binary)
  | [] => none
  | byte :: rest =>
    if byte = 34 then some ([], rest)
    else if byte ≠ 92 then (readText rest).map fun read => (byte :: read.1, read.2)
    else
      match rest with
      | [] => none
      | letter :: after =>
        if letter = 117 then
          match after with
          | 48 :: 48 :: high :: low :: later =>
            (readText later).map fun read => ((16 * ofHex high + ofHex low) :: read.1, read.2)
          | _ => none
        else
          match escapes.find? fun escape => escape.2 == letter with
          | some escape => (readText after).map fun read => (escape.1 :: read.1, read.2)
          | none => none

/-- An escaped byte is read back. -/
theorem readText_escape (byte : UInt8) (rest : Binary) :
    readText (escape byte ++ rest) = (readText rest).map fun read => (byte :: read.1, read.2) := by
  have named : ∀ byte : UInt8, ∀ letter, escapes.lookup byte = some letter →
      letter ≠ 117 ∧ ∃ escape, (escapes.find? fun escape => escape.2 == letter) = some escape ∧
        escape.1 = byte := by
    intro byte letter found
    have each : ∀ escape ∈ escapes, escape.2 ≠ 117 ∧
        (escapes.find? fun other => other.2 == escape.2) = some escape := by
      simp [escapes]
    have member : (byte, letter) ∈ escapes := by
      obtain ⟨front, back, split, -⟩ := List.lookup_eq_some_iff.mp found
      rw [split]
      simp
    exact ⟨(each _ member).1, _, (each _ member).2, rfl⟩
  have control : ∀ byte : UInt8, byte < 32 →
      16 * ofHex (hex (byte / 16)) + ofHex (hex (byte % 16)) = byte :=
    Uri.forall_byte (by decide +kernel)
  unfold escape
  cases found : escapes.lookup byte with
  | some letter =>
    obtain ⟨differs, escape, finds, same⟩ := named byte letter found
    rw [List.cons_append, readText.eq_def]
    simp [differs, finds, same]
  | none =>
    by_cases small : byte < 32
    · rw [if_pos small, List.cons_append, readText.eq_def]
      simp [control byte small]
    · have plain : byte ≠ 34 ∧ byte ≠ 92 := by
        constructor <;> rintro rfl <;> cases found
      rw [if_neg small, List.singleton_append, readText.eq_def]
      simp [plain]

/-- A text in quotes is read back behind its opening quote. -/
theorem readText_quote (text rest : Binary) :
    readText (text.flatMap escape ++ 34 :: rest) = some (text, rest) := by
  induction text with
  | nil =>
    rw [List.flatMap_nil, List.nil_append, readText.eq_def]
    rfl
  | cons byte text ih => simp [readText_escape, ih]

/-- Read an integer without its sign. -/
def readDigits (text : Binary) : Option (Int × Binary) :=
  if text.takeWhile isDigit = [] then none
  else some (Uri.ofDigits (text.takeWhile isDigit), text.dropWhile isDigit)

/-- Read an integer. -/
def readInteger : Binary → Option (Int × Binary)
  | 45 :: rest => (readDigits rest).map fun read => (-read.1, read.2)
  | text => readDigits text

/-- A text that does not go on with a digit. -/
def Ends (rest : Binary) : Prop := ∀ byte, rest.head? = some byte → isDigit byte = false

/-- A number is read back. -/
theorem ofDigits_decimal (n : Nat) : Uri.ofDigits (decimal n) = n := by
  have digits : ∀ digit ∈ Nat.toDigits 10 n, (UInt8.ofNat digit.toNat).toNat = digit.toNat := by
    intro digit member
    have isDigit := Nat.isDigit_of_mem_toDigits (by decide) (by decide) member
    simp only [Char.isDigit, Bool.and_eq_true, decide_eq_true_eq, UInt32.le_iff_toNat_le] at isDigit
    exact UInt8.toNat_ofNat_of_lt' (lt_of_le_of_lt isDigit.2 (by decide))
  have folded (start : Nat) (text : List Char)
      (digits : ∀ digit ∈ text, (UInt8.ofNat digit.toNat).toNat = digit.toNat) :
      (text.map fun digit => UInt8.ofNat digit.toNat).foldl
        (fun n digit => 10 * n + (digit.toNat - 48)) start = Nat.ofDigitChars 10 text start := by
    induction text generalizing start with
    | nil => rfl
    | cons digit text ih =>
      rw [List.forall_mem_cons] at digits
      rw [List.map_cons, List.foldl_cons, ih _ digits.2, digits.1, Nat.ofDigitChars_cons]
      rfl
  rw [Uri.ofDigits, decimal, folded 0 _ digits, Nat.ofDigitChars_ten_toDigits]

/-- A number has a digit. -/
theorem decimal_ne_nil (n : Nat) : decimal n ≠ [] := by
  simp [decimal, Nat.toDigits_ne_nil]

/-- Digits are read back. -/
theorem readDigits_decimal (n : Nat) {rest : Binary} (ends : Ends rest) :
    readDigits (decimal n ++ rest) = some ((n : Int), rest) := by
  have digits : ∀ byte ∈ decimal n, isDigit byte = true := fun _ => Uri.isDigit_of_mem_decimal
  have exact := Uri.takeWhile_exact digits ends
  rw [readDigits, exact.1, exact.2, if_neg (decimal_ne_nil n), ofDigits_decimal]

/-- An integer is read back. -/
theorem readInteger_integerText (n : Int) {rest : Binary} (ends : Ends rest) :
    readInteger (integerText n ++ rest) = some (n, rest) := by
  unfold integerText
  split
  · have value : -(n.natAbs : Int) = n := by omega
    rw [List.cons_append, readInteger, readDigits_decimal _ ends, Option.map_some, value]
  · have value : (n.natAbs : Int) = n := by omega
    have read := readDigits_decimal n.natAbs ends
    rw [value] at read
    unfold readInteger
    split
    · next after same =>
      have signed : (45 : UInt8) ∈ decimal n.natAbs := by
        have first := congrArg List.head? same
        rw [List.head?_append_of_ne_nil _ (decimal_ne_nil _)] at first
        exact List.mem_of_mem_head? first
      exact absurd (Uri.isDigit_of_mem_decimal signed) (by decide)
    · exact read

/-- Read a word, which stands for a term. -/
def readWord (word : Binary) (term : Term) (text : Binary) : Option (Term × Binary) :=
  if word.isPrefixOf text then some (term, text.drop word.length) else none

mutual

/-- A term as it is printed. Doubles are left out. -/
def print : Term → Binary
  | .nil => [110, 117, 108, 108]
  | .bool true => [116, 114, 117, 101]
  | .bool false => [102, 97, 108, 115, 101]
  | .number (.int n) => integerText n
  | .number (.float _ _) => []
  | .text bytes => quote bytes
  | .list [] => [91, 93]
  | .list (item :: items) => 91 :: (print item ++ printItems items)
  | .map [] => [123, 125]
  | .map ((key, value) :: fields) =>
    123 :: (quote key ++ 58 :: (print value ++ printFields fields))

/-- The items after the first, and the end of the list. -/
def printItems : List Term → Binary
  | [] => [93]
  | item :: items => 44 :: (print item ++ printItems items)

/-- The fields after the first, and the end of the map. -/
def printFields : List (Binary × Term) → Binary
  | [] => [125]
  | (key, value) :: fields => 44 :: (quote key ++ 58 :: (print value ++ printFields fields))

end

mutual

/-- Read a term from the front of a text. -/
def readTerm : Nat → Binary → Option (Term × Binary)
  | 0, _ => none
  | fuel + 1, text =>
    match text.head? with
    | some 34 => (readText text.tail).map fun read => (.text read.1, read.2)
    | some 91 =>
      if text.tail.head? = some 93 then some (.list [], text.tail.tail)
      else (readTerm fuel text.tail).bind fun first =>
        (readItems fuel first.2).map fun others => (.list (first.1 :: others.1), others.2)
    | some 123 =>
      if text.tail.head? = some 125 then some (.map [], text.tail.tail)
      else (readField fuel text.tail).bind fun first =>
        (readFields fuel first.2).map fun others => (.map (first.1 :: others.1), others.2)
    | some 110 => readWord [110, 117, 108, 108] .nil text
    | some 116 => readWord [116, 114, 117, 101] (.bool true) text
    | some 102 => readWord [102, 97, 108, 115, 101] (.bool false) text
    | _ => (readInteger text).map fun read => (.number (.int read.1), read.2)

/-- Read the items after the first. -/
def readItems : Nat → Binary → Option (List Term × Binary)
  | fuel + 1, 44 :: rest => (readTerm fuel rest).bind fun first =>
    (readItems fuel first.2).map fun others => (first.1 :: others.1, others.2)
  | _ + 1, 93 :: rest => some ([], rest)
  | _, _ => none

/-- Read a field. -/
def readField : Nat → Binary → Option ((Binary × Term) × Binary)
  | fuel + 1, 34 :: rest => (readText rest).bind fun key =>
    if key.2.head? = some 58 then
      (readTerm fuel key.2.tail).map fun value => ((key.1, value.1), value.2)
    else none
  | _, _ => none

/-- Read the fields after the first. -/
def readFields : Nat → Binary → Option (List (Binary × Term) × Binary)
  | fuel + 1, 44 :: rest => (readField fuel rest).bind fun first =>
    (readFields fuel first.2).map fun others => (first.1 :: others.1, others.2)
  | _ + 1, 125 :: rest => some ([], rest)
  | _, _ => none

end

/-- A term that is encoded: its texts are UTF-8, and it is simple. -/
def encode (term : Term) : Option Binary :=
  if term.simple ∧ term.utf8 then some (print term) else none

/-- The term that a text is as a whole. -/
def decode (text : Binary) : Option Term :=
  match readTerm text.length text with
  | some (term, []) => some term
  | _ => none

/-- A byte that is no digit ends a number. -/
theorem ends_cons {byte : UInt8} (other : isDigit byte = false) (rest : Binary) :
    Ends (byte :: rest) := by
  intro first same
  cases same
  exact other

/-- What follows an item ends a number. -/
theorem ends_printItems (items : List Term) (rest : Binary) : Ends (printItems items ++ rest) := by
  cases items with
  | nil => exact ends_cons rfl _
  | cons item items => exact ends_cons rfl _

/-- What follows a field ends a number. -/
theorem ends_printFields (fields : List (Binary × Term)) (rest : Binary) :
    Ends (printFields fields ++ rest) := by
  cases fields with
  | nil => exact ends_cons rfl _
  | cons field fields => exact ends_cons rfl _

/-- The first byte of an integer is a digit or a minus. -/
theorem integerText_head (n : Int) :
    ∃ byte rest, integerText n = byte :: rest ∧ (isDigit byte = true ∨ byte = 45) := by
  unfold integerText
  split
  · exact ⟨45, _, rfl, .inr rfl⟩
  · cases shape : decimal n.natAbs with
    | nil => exact absurd shape (decimal_ne_nil _)
    | cons byte rest =>
      have member : byte ∈ decimal n.natAbs := by simp [shape]
      exact ⟨byte, rest, rfl, .inl (Uri.isDigit_of_mem_decimal member)⟩

/-- A printed term is not empty and does not begin with a closing bracket. -/
theorem print_head {term : Term} (simple : term.simple = true) :
    ∃ byte rest, print term = byte :: rest ∧ byte ≠ 93 := by
  cases term with
  | nil => exact ⟨_, _, rfl, by decide⟩
  | bool value => cases value <;> exact ⟨_, _, rfl, by decide⟩
  | number value =>
    cases value with
    | int n =>
      obtain ⟨byte, rest, shape, among⟩ := integerText_head n
      refine ⟨byte, rest, shape, ?_⟩
      rintro rfl
      revert among
      decide
    | float x finite => cases simple
  | text bytes => exact ⟨_, _, rfl, by decide⟩
  | list items => cases items <;> exact ⟨_, _, rfl, by decide⟩
  | map fields => cases fields <;> exact ⟨_, _, rfl, by decide⟩

/-- A word is read back. -/
theorem readWord_append (word : Binary) (term : Term) (rest : Binary) :
    readWord word term (word ++ rest) = some (term, rest) := by
  have found : word.isPrefixOf (word ++ rest) = true :=
    List.isPrefixOf_iff_prefix.mpr (List.prefix_append word rest)
  rw [readWord, if_pos found, List.drop_left]

/-- An integer is read back as a term. -/
theorem readTerm_integer (n : Int) {rest : Binary} (ends : Ends rest) (fuel : Nat) :
    readTerm (fuel + 1) (integerText n ++ rest) = some (.number (.int n), rest) := by
  have digits : ∀ byte : UInt8, isDigit byte = true → byte ∉ [34, 91, 123, 110, 116, 102] :=
    Uri.forall_byte (by decide +kernel)
  obtain ⟨byte, more, shape, among⟩ := integerText_head n
  have other : byte ∉ [34, 91, 123, 110, 116, 102] := by
    cases among with
    | inl digit => exact digits byte digit
    | inr minus =>
      rw [minus]
      decide
  have read := readInteger_integerText n ends
  rw [shape, List.cons_append] at read ⊢
  simp only [List.mem_cons, List.not_mem_nil, or_false, not_or] at other
  simp [readTerm, read, other]

/-- A field is read back when its value is. -/
theorem readField_quote {fuel : Nat} {tail : Binary} {value : Term} (key : Binary)
    (read : readTerm fuel (print value ++ tail) = some (value, tail)) :
    readField (fuel + 1) (quote key ++ 58 :: (print value ++ tail)) = some ((key, value), tail) := by
  have quoted := readText_quote key (58 :: (print value ++ tail))
  simp [quote, readField, quoted, read]

mutual

/-- A printed term is read back behind any text that ends a number. -/
theorem readTerm_print : ∀ (term : Term) (fuel : Nat) (rest : Binary), term.simple = true →
    Ends rest → (print term).length ≤ fuel → readTerm fuel (print term ++ rest) = some (term, rest)
  | term, 0, rest, simple, _, enough => by
    obtain ⟨byte, more, shape, -⟩ := print_head simple
    rw [shape] at enough
    cases enough
  | .nil, fuel + 1, rest, _, _, _ => readWord_append [110, 117, 108, 108] .nil rest
  | .bool true, fuel + 1, rest, _, _, _ => readWord_append [116, 114, 117, 101] (.bool true) rest
  | .bool false, fuel + 1, rest, _, _, _ =>
    readWord_append [102, 97, 108, 115, 101] (.bool false) rest
  | .number (.int n), fuel + 1, rest, _, ends, _ => readTerm_integer n ends fuel
  | .number (.float _ _), _ + 1, _, simple, _, _ => by cases simple
  | .text bytes, fuel + 1, rest, _, _, _ => by
    have read := readText_quote bytes rest
    simp [print, quote, readTerm, read]
  | .list [], fuel + 1, rest, _, _, _ => rfl
  | .list (item :: items), fuel + 1, rest, simple, _, enough => by
    simp only [Term.simple, Term.listSimple, Bool.and_eq_true] at simple
    simp only [print, List.length_cons, List.length_append] at enough
    have first := readTerm_print item fuel (printItems items ++ rest) simple.1
      (ends_printItems items rest) (by omega)
    have others := readItems_print items fuel rest simple.2 (by omega)
    obtain ⟨byte, more, shape, other⟩ := print_head simple.1
    rw [shape] at first
    simp only [List.cons_append] at first
    simp [print, readTerm, shape, other, first, others]
  | .map [], fuel + 1, rest, _, _, _ => rfl
  | .map ((key, value) :: fields), 1, rest, _, _, enough => by
    simp [print, quote] at enough
  | .map ((key, value) :: fields), fuel + 2, rest, simple, _, enough => by
    simp only [Term.simple, Term.fieldsSimple, Bool.and_eq_true] at simple
    simp only [print, quote, List.length_cons, List.length_append] at enough
    have read := readTerm_print value fuel (printFields fields ++ rest) simple.2.1
      (ends_printFields fields rest) (by omega)
    have first := readField_quote key read
    have others := readFields_print fields (fuel + 1) rest simple.2.2 (by omega)
    have opens : ∀ text, (quote key ++ text).head? = some 34 := fun _ => rfl
    simp [print, readTerm, opens, first, others]

/-- Printed items are read back. -/
theorem readItems_print : ∀ (items : List Term) (fuel : Nat) (rest : Binary),
    Term.listSimple items = true → (printItems items).length ≤ fuel →
    readItems fuel (printItems items ++ rest) = some (items, rest)
  | [], 0, rest, _, enough => by cases enough
  | [], fuel + 1, rest, _, _ => by simp [printItems, readItems]
  | item :: items, 0, rest, _, enough => by cases enough
  | item :: items, fuel + 1, rest, simple, enough => by
    simp only [Term.listSimple, Bool.and_eq_true] at simple
    simp only [printItems, List.length_cons, List.length_append] at enough
    have first := readTerm_print item fuel (printItems items ++ rest) simple.1
      (ends_printItems items rest) (by omega)
    have others := readItems_print items fuel rest simple.2 (by omega)
    simp [printItems, readItems, first, others]

/-- Printed fields are read back. -/
theorem readFields_print : ∀ (fields : List (Binary × Term)) (fuel : Nat) (rest : Binary),
    Term.fieldsSimple fields = true → (printFields fields).length ≤ fuel →
    readFields fuel (printFields fields ++ rest) = some (fields, rest)
  | [], 0, rest, _, enough => by cases enough
  | [], fuel + 1, rest, _, _ => by simp [printFields, readFields]
  | (key, value) :: fields, 0, rest, _, enough => by cases enough
  | (key, value) :: fields, 1, rest, _, enough => by
    simp [printFields, quote] at enough
  | (key, value) :: fields, fuel + 2, rest, simple, enough => by
    simp only [Term.fieldsSimple, Bool.and_eq_true] at simple
    simp only [printFields, quote, List.length_cons, List.length_append] at enough
    have read := readTerm_print value fuel (printFields fields ++ rest) simple.1
      (ends_printFields fields rest) (by omega)
    have first := readField_quote key read
    have others := readFields_print fields (fuel + 1) rest simple.2 (by omega)
    simp [printFields, readFields, first, others]

end

/-- What is encoded is decoded as it was. -/
theorem decode_print {term : Term} (simple : term.simple = true) :
    decode (print term) = some term := by
  have read := readTerm_print term (print term).length [] simple (by simp [Ends]) le_rfl
  rw [List.append_nil] at read
  rw [decode, read]

end Json

end Sidereon.Distribution
