import Mathlib.Data.List.Basic

/-!
# Dictionary coding with a growing phrase table

A Lempel-Ziv-Welch coder over an arbitrary alphabet. The encoder extends the current phrase while
the table holds it, then writes the phrase's code and adds the phrase extended by the next symbol;
the table stops growing at a capacity. A reset may follow any code that is not the last: it empties
the table on both sides. The decoder learns each phrase one code later than the encoder, which is
why a code may name the phrase about to be added. Decoding undoes encoding for every placement of
resets and every capacity (`decode_encode`).
-/

namespace Foundation.Lzw

/-- A code: one symbol, or the phrase at a position of the table. -/
inductive Code (α : Type) where
  | literal (symbol : α)
  | entry (position : Nat)
  deriving DecidableEq, Repr

/-- What a coded stream carries: codes, and resets of the table between them. -/
inductive Token (α : Type) where
  | code (code : Code α)
  | reset
  deriving DecidableEq, Repr

section Table

variable {α : Type}

/-- Add a phrase to the table unless the table is full. -/
def grow (capacity : Nat) (table : List (List α)) (phrase : List α) : List (List α) :=
  if table.length < capacity then table ++ [phrase] else table

/-- A table below its capacity takes the phrase at its end. -/
theorem grow_open {capacity : Nat} {table : List (List α)} (phrase : List α)
    (room : table.length < capacity) : grow capacity table phrase = table ++ [phrase] :=
  if_pos room

/-- A full table stays as it is. -/
theorem grow_full {capacity : Nat} {table : List (List α)} (phrase : List α)
    (full : capacity ≤ table.length) : grow capacity table phrase = table :=
  if_neg (Nat.not_lt.mpr full)

/-- The size of a grown table. -/
theorem grow_length {capacity : Nat} {table : List (List α)} (phrase : List α)
    (fits : table.length ≤ capacity) :
    (grow capacity table phrase).length = min (table.length + 1) capacity := by
  by_cases room : table.length < capacity
  · rw [grow_open phrase room, List.length_append, List.length_singleton]
    omega
  · rw [grow_full phrase (Nat.not_lt.mp room)]
    omega

/-- A running decoder: the phrases it knows, and the phrase of the last code as its first symbol
and the symbols after it. -/
structure Decoder (α : Type) where
  table : List (List α)
  head : α
  tail : List α

/-- The phrase of the last code. -/
def Decoder.last (decoder : Decoder α) : List α := decoder.head :: decoder.tail

/-- The phrase a code names to a running decoder. The first unknown position, while the table has
room, is the phrase the decoder is about to add, whose last symbol is its own first. -/
def Decoder.phrase? (capacity : Nat) (decoder : Decoder α) : Code α → Option (List α)
  | .literal symbol => some [symbol]
  | .entry position =>
    if position = decoder.table.length ∧ position < capacity then
      some (decoder.last ++ [decoder.head])
    else decoder.table[position]?

/-- The decoder after a code whose phrase begins with `head` and goes on with `tail`. -/
def Decoder.advance (capacity : Nat) (decoder : Decoder α) (head : α) (tail : List α) :
    Decoder α where
  table := grow capacity decoder.table (decoder.last ++ [head])
  head
  tail

/-- Decode a stream. After a reset, and at the start, there is no last phrase and a literal has to
follow. -/
def decodeFrom (capacity : Nat) : Option (Decoder α) → List (Token α) → Option (List α)
  | none, [] => none
  | some _, [] => some []
  | none, .code (.literal symbol) :: tokens =>
    (decodeFrom capacity (some ⟨[], symbol, []⟩) tokens).map (symbol :: ·)
  | none, .code (.entry _) :: _ => none
  | none, .reset :: _ => none
  | some _, .reset :: tokens => decodeFrom capacity none tokens
  | some decoder, .code code :: tokens =>
    match decoder.phrase? capacity code with
    | some (head :: tail) =>
      (decodeFrom capacity (some (decoder.advance capacity head tail)) tokens).map
        (head :: tail ++ ·)
    | _ => none

/-- Decode a whole stream. -/
def decode (capacity : Nat) (tokens : List (Token α)) : Option (List α) :=
  decodeFrom capacity none tokens

/-- One decoding step: a code that names a phrase emits it before the rest of the stream. -/
theorem decodeFrom_code {capacity : Nat} {decoder : Decoder α} {code : Code α} {head : α}
    {tail : List α} (named : decoder.phrase? capacity code = some (head :: tail))
    (tokens : List (Token α)) :
    decodeFrom capacity (some decoder) (.code code :: tokens) =
      (decodeFrom capacity (some (decoder.advance capacity head tail)) tokens).map
        (head :: tail ++ ·) := by
  simp only [decodeFrom, named]

/-- What a code can have been when a running decoder accepts it. -/
theorem decodeFrom_code_inv {capacity : Nat} {decoder : Decoder α} {code : Code α}
    {tokens : List (Token α)} {output : List α}
    (decoded : decodeFrom capacity (some decoder) (.code code :: tokens) = some output) :
    ∃ head tail later, decoder.phrase? capacity code = some (head :: tail) ∧
      decodeFrom capacity (some (decoder.advance capacity head tail)) tokens = some later ∧
      output = head :: tail ++ later := by
  simp only [decodeFrom] at decoded
  split at decoded
  · rename_i head tail named
    obtain ⟨later, rest, rfl⟩ := Option.map_eq_some_iff.mp decoded
    exact ⟨head, tail, later, named, rest, rfl⟩
  · contradiction

/-- A code accepted at the start or after a reset is a literal. -/
theorem decodeFrom_start_inv {capacity : Nat} {code : Code α} {tokens : List (Token α)}
    {output : List α} (decoded : decodeFrom capacity none (.code code :: tokens) = some output) :
    ∃ symbol later, code = .literal symbol ∧
      decodeFrom capacity (some ⟨[], symbol, []⟩) tokens = some later ∧
      output = symbol :: later := by
  cases code with
  | literal symbol =>
    obtain ⟨later, rest, rfl⟩ := Option.map_eq_some_iff.mp decoded
    exact ⟨symbol, later, rfl, rest, rfl⟩
  | entry position => simp [decodeFrom] at decoded

/-- A position that names a phrase is known or the next one to be added. -/
theorem Decoder.phrase?_entry_le {capacity : Nat} {decoder : Decoder α} {position : Nat}
    {phrase : List α} (named : decoder.phrase? capacity (.entry position) = some phrase) :
    position ≤ decoder.table.length := by
  simp only [Decoder.phrase?] at named
  split at named
  · omega
  · exact Nat.le_of_lt (List.getElem?_eq_some_iff.mp named).1

end Table

section Encoder

variable {α : Type} [DecidableEq α]

/-- The code of a phrase: a single symbol is its own code, a longer one is its position. -/
def codeOf (table : List (List α)) : List α → Code α
  | [symbol] => .literal symbol
  | phrase => .entry (table.idxOf phrase)

/-- Encode from a table, the current phrase, the number of codes already written and the symbols
still to come. `resets n` tells whether a reset follows the code with `n` codes before it, unless
that code is the last. -/
def encodeFrom (capacity : Nat) (resets : Nat → Bool) (written : Nat) (table : List (List α))
    (phrase : List α) : List α → List (Token α)
  | [] => [.code (codeOf table phrase)]
  | symbol :: rest =>
    if phrase ++ [symbol] ∈ table then
      encodeFrom capacity resets written table (phrase ++ [symbol]) rest
    else if resets written then
      .code (codeOf table phrase) :: .reset ::
        encodeFrom capacity resets (written + 1) [] [symbol] rest
    else
      .code (codeOf table phrase) ::
        encodeFrom capacity resets (written + 1) (grow capacity table (phrase ++ [symbol]))
          [symbol] rest

/-- Encode a nonempty symbol string given by its first symbol and the rest. -/
def encode (capacity : Nat) (resets : Nat → Bool) (first : α) (rest : List α) : List (Token α) :=
  encodeFrom capacity resets 0 [] [first] rest

/-- The encoder is one phrase ahead: its table is the decoder's, grown by the last phrase extended
by the first symbol of the phrase now being built. -/
def Ahead (capacity : Nat) (table : List (List α)) (decoder : Decoder α) (head : α) : Prop :=
  table = grow capacity decoder.table (decoder.last ++ [head])

omit [DecidableEq α] in
/-- A phrase at a position of the encoder's table is what that position names to the decoder one
phrase behind. -/
theorem Ahead.phrase?_entry {capacity : Nat} {table : List (List α)} {decoder : Decoder α}
    {head : α} {tail : List α} {position : Nat} (ahead : Ahead capacity table decoder head)
    (found : table[position]? = some (head :: tail)) :
    decoder.phrase? capacity (.entry position) = some (head :: tail) := by
  unfold Ahead at ahead
  subst ahead
  by_cases room : decoder.table.length < capacity
  · rw [grow_open _ room] at found
    by_cases fresh : position = decoder.table.length
    · -- The phrase is the one about to be added, so it starts as the last one does.
      subst fresh
      rw [List.getElem?_append_right (Nat.le_refl _)] at found
      simp only [Nat.sub_self, List.getElem?_cons_zero, Option.some.injEq, Decoder.last,
        List.cons_append, List.cons.injEq] at found
      obtain ⟨same, after⟩ := found
      simp only [Decoder.phrase?, room, and_self, ↓reduceIte, Decoder.last, List.cons_append,
        Option.some.injEq, List.cons.injEq]
      exact ⟨same, by rw [same]; exact after⟩
    · have inside := (List.getElem?_eq_some_iff.mp found).1
      simp only [List.length_append, List.length_singleton] at inside
      rw [List.getElem?_append_left (by omega)] at found
      simpa [Decoder.phrase?, fresh] using found
  · rw [grow_full _ (Nat.not_lt.mp room)] at found
    have inside := (List.getElem?_eq_some_iff.mp found).1
    simpa [Decoder.phrase?, Nat.ne_of_lt inside] using found

/-- The code the encoder writes for a phrase it holds names that phrase to the decoder. -/
theorem Ahead.phrase?_codeOf {capacity : Nat} {table : List (List α)} {decoder : Decoder α}
    {head : α} {tail : List α} (ahead : Ahead capacity table decoder head)
    (held : tail = [] ∨ head :: tail ∈ table) :
    decoder.phrase? capacity (codeOf table (head :: tail)) = some (head :: tail) := by
  cases tail with
  | nil => rfl
  | cons second rest =>
    have member : head :: second :: rest ∈ table := by simpa using held
    have inside := List.idxOf_lt_length_of_mem member
    refine ahead.phrase?_entry ?_
    rw [List.getElem?_eq_getElem inside, List.getElem_idxOf]

/-- A running decoder in step with the encoder recovers the phrase being built and every symbol
after it. The symbols after a reset are recovered by the start state. -/
theorem decodeFrom_encodeFrom (capacity : Nat) (resets : Nat → Bool) (rest : List α) :
    (∀ (written : Nat) (table : List (List α)) (decoder : Decoder α) (head : α) (tail : List α),
      Ahead capacity table decoder head → (tail = [] ∨ head :: tail ∈ table) →
      decodeFrom capacity (some decoder)
        (encodeFrom capacity resets written table (head :: tail) rest) =
          some (head :: tail ++ rest)) ∧
    ∀ (written : Nat) (first : α),
      decodeFrom capacity none (encodeFrom capacity resets written [] [first] rest) =
        some (first :: rest) := by
  induction rest with
  | nil =>
    refine ⟨?_, fun _ _ => rfl⟩
    intro written table decoder head tail ahead held
    rw [encodeFrom, decodeFrom_code (ahead.phrase?_codeOf held)]
    simp [decodeFrom]
  | cons symbol rest ih =>
    obtain ⟨running, start⟩ := ih
    constructor
    · intro written table decoder head tail ahead held
      rw [encodeFrom]
      split
      · rename_i longer
        have next := running written table decoder head (tail ++ [symbol]) ahead (Or.inr longer)
        simpa using next
      · have named := ahead.phrase?_codeOf held
        split
        · rw [decodeFrom_code named, decodeFrom, start]
          rfl
        · rw [decodeFrom_code named]
          have next := running (written + 1) (grow capacity table (head :: tail ++ [symbol]))
            (decoder.advance capacity head tail) symbol []
            (by rw [Ahead, ahead]; rfl) (Or.inl rfl)
          rw [next]
          rfl
    · intro written first
      rw [encodeFrom, if_neg List.not_mem_nil]
      split
      · have next := start (written + 1) symbol
        simpa [codeOf, decodeFrom] using next
      · have next := running (written + 1) (grow capacity [] ([first] ++ [symbol]))
          ⟨[], first, []⟩ symbol [] rfl (Or.inl rfl)
        simpa [codeOf, decodeFrom] using next

/-- Decoding undoes encoding, for every capacity and every placement of resets. -/
theorem decode_encode (capacity : Nat) (resets : Nat → Bool) (first : α) (rest : List α) :
    decode capacity (encode capacity resets first rest) = some (first :: rest) :=
  (decodeFrom_encodeFrom capacity resets rest).2 0 first

/-- An encoded stream ends with a code. -/
theorem encodeFrom_ends (capacity : Nat) (resets : Nat → Bool) (rest : List α) :
    ∀ (written : Nat) (table : List (List α)) (phrase : List α),
      ∃ tokens code, encodeFrom capacity resets written table phrase rest =
        tokens ++ [.code code] := by
  induction rest with
  | nil => exact fun _ table phrase => ⟨[], codeOf table phrase, rfl⟩
  | cons symbol rest ih =>
    intro written table phrase
    rw [encodeFrom]
    split
    · exact ih _ _ _
    · split
      · obtain ⟨tokens, code, ends⟩ := ih (written + 1) [] [symbol]
        exact ⟨.code (codeOf table phrase) :: .reset :: tokens, code, by rw [ends]; rfl⟩
      · obtain ⟨tokens, code, ends⟩ :=
          ih (written + 1) (grow capacity table (phrase ++ [symbol])) [symbol]
        exact ⟨.code (codeOf table phrase) :: tokens, code, by rw [ends]; rfl⟩

/-- Without resets an encoded stream holds codes only. -/
theorem reset_notMem_encodeFrom {capacity : Nat} {resets : Nat → Bool}
    (never : ∀ written, resets written = false) (rest : List α) :
    ∀ (written : Nat) (table : List (List α)) (phrase : List α),
      Token.reset ∉ encodeFrom capacity resets written table phrase rest := by
  induction rest with
  | nil => intro _ _ _; simp [encodeFrom]
  | cons symbol rest ih =>
    intro written table phrase
    rw [encodeFrom, never]
    split
    · exact ih _ _ _
    · simpa using ih (written + 1) _ _

end Encoder

end Foundation.Lzw
