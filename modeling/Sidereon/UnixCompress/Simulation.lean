import Sidereon.UnixCompress.Reading

/-!
# The decoder simulates the phrase decoder

The two arrays of the decoder spell a table of phrases: following `parent` from an entry and
collecting the suffixes gives the entry's phrase back to front. On a stream laid out from tokens
that the phrase decoder accepts, the decoder reads exactly those tokens, its arrays keep spelling
the phrase decoder's table, and its output is the phrase decoder's.
-/

namespace Sidereon.UnixCompress

open Foundation
open Foundation.Lzw (Code Token)

/-- The codes of one stream: its header's mode and width, over some data and an output limit. -/
def Header.params (h : Header) (data : List UInt8) (limit : Nat) : Params :=
  { data, blockMode := h.blockMode, maxbits := h.maxbits, limit }

namespace Header

variable (h : Header)

/-- The array size is the table size. -/
@[simp] theorem params_maxCodeCount (data : List UInt8) (limit : Nat) :
    (h.params data limit).maxCodeCount = h.tableSize := by
  simp [params, Params.maxCodeCount, tableSize, Nat.shiftLeft_eq]

/-- The decoder and the writer number the first phrase alike. -/
@[simp] theorem params_firstFree (data : List UInt8) (limit : Nat) :
    (h.params data limit).firstFree = h.firstFree := rfl

/-- Phrase numbers start at 256 or 257. -/
theorem firstFree_bounds : 256 ≤ h.firstFree ∧ h.firstFree ≤ 257 := by
  simp only [firstFree, clear]
  split <;> omega

/-- The table holds all single bytes and some phrases. -/
theorem tableSize_ge : 512 ≤ h.tableSize := by
  have wide : 2 ^ 9 ≤ 2 ^ h.maxbits := Nat.pow_le_pow_right (by decide) h.atLeast
  simpa [tableSize] using wide

/-- The last phrase number is the last index of the table. -/
theorem firstFree_capacity : h.firstFree + h.capacity = h.tableSize := by
  have first := h.firstFree_bounds
  have size := h.tableSize_ge
  simp only [capacity]
  omega

/-- A phrase number is never CLEAR in block mode. -/
theorem number_ne_clear (code : Code UInt8) (block : h.blockMode = true) :
    h.number code ≠ clear := by
  cases code with
  | literal byte =>
    have small := byte.toNat_lt
    simp only [number, clear]
    omega
  | entry position =>
    simp only [number, firstFree, block, ↓reduceIte, clear]
    omega

end Header

/-- A number names a phrase: a byte names itself, a table position its phrase. -/
def Names (h : Header) (table : List (List UInt8)) (number : Nat) (phrase : List UInt8) : Prop :=
  (∃ byte : UInt8, number = byte.toNat ∧ phrase = [byte]) ∨
    ∃ position : Nat, number = h.firstFree + position ∧ table[position]? = some phrase

/-- The arrays spell a table: every entry extends the phrase of a smaller number by its suffix. -/
structure Spells (h : Header) (parent : List Nat) (suffix : List UInt8)
    (table : List (List UInt8)) : Prop where
  parentSize : parent.length = h.tableSize
  suffixSize : suffix.length = h.tableSize
  entry : ∀ (position : Nat) (phrase : List UInt8), table[position]? = some phrase →
    ∃ (number : Nat) (start : List UInt8) (byte : UInt8), phrase = start ++ [byte] ∧
      parent[h.firstFree + position]? = some number ∧
      suffix[h.firstFree + position]? = some byte ∧
      number < h.firstFree + position ∧ Names h table number start

/-- Every named number is below the next free one. -/
theorem Names.lt {h : Header} {table : List (List UInt8)} {number : Nat} {phrase : List UInt8}
    (names : Names h table number phrase) : number < h.firstFree + table.length := by
  have first := h.firstFree_bounds
  rcases names with ⟨byte, rfl, _⟩ | ⟨position, rfl, found⟩
  · have small := byte.toNat_lt
    omega
  · have inside := (List.getElem?_eq_some_iff.mp found).1
    omega

/-- A named phrase keeps its number while phrases are added at the end. -/
theorem Names.append {h : Header} {table : List (List UInt8)} {number : Nat}
    {phrase : List UInt8} (names : Names h table number phrase) (more : List (List UInt8)) :
    Names h (table ++ more) number phrase := by
  rcases names with literal | ⟨position, rfl, found⟩
  · exact Or.inl literal
  · refine Or.inr ⟨position, rfl, ?_⟩
    rw [List.getElem?_append_left (List.getElem?_eq_some_iff.mp found).1, found]

/-- Unwinding a named phrase ends at its first byte with the rest on the stack. -/
theorem Spells.unwind {h : Header} {parent : List Nat} {suffix : List UInt8}
    {table : List (List UInt8)} (spells : Spells h parent suffix table) (fuel : Nat) :
    ∀ (number : Nat) (head : UInt8) (tail stack : List UInt8),
      Names h table number (head :: tail) → number < 256 + fuel →
      unwind parent suffix fuel number stack = .ok (head.toNat, tail ++ stack) := by
  have first := h.firstFree_bounds
  induction fuel with
  | zero =>
    intro number head tail stack names small
    rcases names with ⟨byte, rfl, single⟩ | ⟨position, rfl, _⟩
    · obtain ⟨rfl, rfl⟩ := List.cons.inj single
      have byteSmall := head.toNat_lt
      simp [UnixCompress.unwind, show ¬ head.toNat ≥ 256 by omega]
    · omega
  | succ fuel ih =>
    intro number head tail stack names small
    rcases names with ⟨byte, rfl, single⟩ | ⟨position, rfl, found⟩
    · obtain ⟨rfl, rfl⟩ := List.cons.inj single
      have byteSmall := head.toNat_lt
      simp [UnixCompress.unwind, show ¬ head.toNat ≥ 256 by omega]
    · obtain ⟨next, start, byte, split, parentAt, suffixAt, below, named⟩ :=
        spells.entry position _ found
      rw [UnixCompress.unwind, if_pos (by omega)]
      simp only [index, parentAt, suffixAt, bind, Except.bind]
      cases start with
      | nil =>
        -- No number names the empty string.
        rcases named with ⟨_, _, single⟩ | ⟨other, _, empty⟩
        · simp at single
        · obtain ⟨_, _, _, split', _⟩ := spells.entry other _ empty
          simp at split'
      | cons head' tail' =>
        obtain ⟨rfl, rfl⟩ := List.cons.inj split
        rw [ih next head tail' (byte :: stack) named (by omega)]
        simp

/-- The arrays spell the table grown by a new phrase at the next free entry. -/
theorem Spells.store {h : Header} {parent : List Nat} {suffix : List UInt8}
    {table : List (List UInt8)} (spells : Spells h parent suffix table)
    (room : table.length < h.capacity) {number : Nat} {start : List UInt8}
    (names : Names h table number start) (byte : UInt8) :
    Spells h (parent.set (h.firstFree + table.length) number)
      (suffix.set (h.firstFree + table.length) byte) (table ++ [start ++ [byte]]) where
  parentSize := by rw [List.length_set, spells.parentSize]
  suffixSize := by rw [List.length_set, spells.suffixSize]
  entry := by
    intro position phrase found
    have total := h.firstFree_capacity
    by_cases fresh : position = table.length
    · subst fresh
      rw [List.getElem?_append_right (Nat.le_refl _)] at found
      simp only [Nat.sub_self, List.getElem?_cons_zero, Option.some.injEq] at found
      refine ⟨number, start, byte, found.symm, ?_, ?_, names.lt, names.append _⟩
      · rw [List.getElem?_set_self (by rw [spells.parentSize]; omega)]
      · rw [List.getElem?_set_self (by rw [spells.suffixSize]; omega)]
    · have inside := (List.getElem?_eq_some_iff.mp found).1
      simp only [List.length_append, List.length_singleton] at inside
      rw [List.getElem?_append_left (by omega)] at found
      obtain ⟨next, start', byte', split, parentAt, suffixAt, below, named⟩ :=
        spells.entry position phrase found
      refine ⟨next, start', byte', split, ?_, ?_, below, named.append _⟩
      · rw [List.getElem?_set_ne (by omega), parentAt]
      · rw [List.getElem?_set_ne (by omega), suffixAt]

/-- The decoder's variables denote a phrase decoder. -/
structure Denotes (h : Header) (s : State) (d : Lzw.Decoder UInt8) : Prop where
  spells : Spells h s.parent s.suffix d.table
  free : s.freeEntry = h.firstFree + d.table.length
  room : d.table.length ≤ h.capacity
  old : Names h d.table s.oldCode d.last
  final : s.finalCharacter = d.head

/-- Appending within the limit succeeds. -/
theorem appendStack_ok {out : Output} {stack : List UInt8} {limit : Nat}
    (fits : out.bytes.length + stack.length ≤ limit) :
    ∃ capacity, appendStack out stack limit = .ok ⟨out.bytes ++ stack, capacity⟩ := by
  simp only [appendStack, reserveOutput, if_neg (Nat.not_lt.mpr fits), gt_iff_lt]
  split
  · exact ⟨_, rfl⟩
  · exact ⟨_, rfl⟩

/-- Appending one byte within the limit succeeds. -/
theorem pushOutput_ok (out : Output) (byte : UInt8) {limit : Nat}
    (fits : out.bytes.length + 1 ≤ limit) :
    ∃ capacity, pushOutput out byte limit = .ok ⟨out.bytes ++ [byte], capacity⟩ := by
  simp only [pushOutput, reserveOutput, if_neg (Nat.not_lt.mpr fits), gt_iff_lt]
  split
  · exact ⟨_, rfl⟩
  · exact ⟨_, rfl⟩

/-- The cursor after an entry has been added, or not, after an expanded code. -/
def cursorAfter (p : Params) (s : State) : Cursor :=
  if s.freeEntry < p.maxCodeCount then widen p (s.freeEntry + 1) s.cursor else s.cursor

/-- A named phrase keeps its number in the grown table. -/
theorem Names.grow {h : Header} {table : List (List UInt8)} {number : Nat} {phrase : List UInt8}
    (names : Names h table number phrase) (capacity : Nat) (added : List UInt8) :
    Names h (Lzw.grow capacity table added) number phrase := by
  rw [Lzw.grow]
  split
  · exact names.append _
  · exact names

/-- A known number unwinds within the decoder's fuel. -/
theorem Denotes.unwind_known {h : Header} {s : State} {d : Lzw.Decoder UInt8}
    (denotes : Denotes h s d) {number : Nat} {head : UInt8} {tail : List UInt8}
    (names : Names h d.table number (head :: tail)) (stack : List UInt8) :
    unwind s.parent s.suffix h.tableSize number stack = .ok (head.toNat, tail ++ stack) := by
  have below := names.lt
  have room := denotes.room
  have total := h.firstFree_capacity
  exact denotes.spells.unwind _ number head tail stack names (by omega)

/-- What expanding a code unwinds: the phrase the code names, first byte last. -/
theorem Denotes.unwind_code {h : Header} {s : State} {d : Lzw.Decoder UInt8}
    (denotes : Denotes h s d) {code : Code UInt8} {head : UInt8} {tail : List UInt8}
    (named : d.phrase? h.capacity code = some (head :: tail)) :
    h.number code ≤ s.freeEntry ∧
    (∃ start stack,
      (if h.number code = s.freeEntry then (s.oldCode, [s.finalCharacter])
        else (h.number code, [])) = (start, stack) ∧
      unwind s.parent s.suffix h.tableSize start stack = .ok (head.toNat, tail)) ∧
    Names h (Lzw.grow h.capacity d.table (d.last ++ [head])) (h.number code) (head :: tail) := by
  have known : ∀ number, Names h d.table number (head :: tail) →
      number ≤ s.freeEntry ∧
      (∃ start stack,
        (if number = s.freeEntry then (s.oldCode, [s.finalCharacter])
          else (number, [])) = (start, stack) ∧
        unwind s.parent s.suffix h.tableSize start stack = .ok (head.toNat, tail)) ∧
      Names h (Lzw.grow h.capacity d.table (d.last ++ [head])) number (head :: tail) := by
    intro number names
    have below := names.lt
    have free := denotes.free
    refine ⟨by omega, ⟨number, [], if_neg (by omega), ?_⟩, names.grow _ _⟩
    simpa using denotes.unwind_known names []
  cases code with
  | literal byte =>
    simp only [Lzw.Decoder.phrase?, Option.some.injEq] at named
    exact known _ (Or.inl ⟨byte, rfl, named.symm⟩)
  | entry position =>
    simp only [Lzw.Decoder.phrase?] at named
    split at named
    · -- The code names the entry about to be added: the last phrase and its first byte again.
      rename_i fresh
      obtain ⟨rfl, room⟩ := fresh
      simp only [Lzw.Decoder.last, List.cons_append, Option.some.injEq, List.cons.injEq] at named
      obtain ⟨rfl, rfl⟩ := named
      have number : h.number (.entry d.table.length) = s.freeEntry := by
        rw [denotes.free]
        rfl
      refine ⟨number.le, ⟨s.oldCode, [s.finalCharacter], if_pos number, ?_⟩, ?_⟩
      · rw [denotes.unwind_known denotes.old, denotes.final]
      · rw [Lzw.grow_open _ room]
        exact Or.inr ⟨d.table.length, rfl, by simp [Lzw.Decoder.last]⟩
    · exact known _ (Or.inr ⟨position, rfl, named⟩)

/-- The arrays after an added entry, or after none when the table is full. -/
theorem Denotes.addEntry_ok {h : Header} {s : State} {d : Lzw.Decoder UInt8}
    (denotes : Denotes h s d) (data : List UInt8) (limit : Nat) (byte : UInt8) (out : Output) :
    ∃ parent suffix freeEntry,
      addEntry (h.params data limit) { s with out, finalCharacter := byte } =
        .ok { s with
          parent, suffix, freeEntry, out
          cursor := cursorAfter (h.params data limit) s
          finalCharacter := byte } ∧
      Spells h parent suffix (Lzw.grow h.capacity d.table (d.last ++ [byte])) ∧
      freeEntry = h.firstFree + (Lzw.grow h.capacity d.table (d.last ++ [byte])).length := by
  have free := denotes.free
  have total := h.firstFree_capacity
  by_cases room : d.table.length < h.capacity
  · have inside : s.freeEntry < h.tableSize := by omega
    refine ⟨s.parent.set s.freeEntry s.oldCode, s.suffix.set s.freeEntry byte,
      s.freeEntry + 1, ?_, ?_, ?_⟩
    · have parentRoom : s.freeEntry < s.parent.length := by rw [denotes.spells.parentSize]; omega
      have suffixRoom : s.freeEntry < s.suffix.length := by rw [denotes.spells.suffixSize]; omega
      simp only [addEntry, Header.params_maxCodeCount, if_pos inside, store, if_pos parentRoom,
        if_pos suffixRoom, cursorAfter]
      rfl
    · rw [free, Lzw.grow_open _ room]
      exact denotes.spells.store room denotes.old byte
    · rw [Lzw.grow_open _ room, List.length_append, List.length_singleton, free]
      omega
  · have full : ¬ s.freeEntry < h.tableSize := by omega
    refine ⟨s.parent, s.suffix, s.freeEntry, ?_, ?_, ?_⟩
    · simp only [addEntry, Header.params_maxCodeCount, if_neg full, cursorAfter]
    · rw [Lzw.grow_full _ (Nat.not_lt.mp room)]
      exact denotes.spells
    · rw [Lzw.grow_full _ (Nat.not_lt.mp room), free]

/-- Expanding a code the phrase decoder accepts appends its phrase and keeps the simulation. -/
theorem Denotes.expandCode_ok {h : Header} {s : State} {d : Lzw.Decoder UInt8}
    (denotes : Denotes h s d) (data : List UInt8) {limit : Nat} {code : Code UInt8}
    {head : UInt8} {tail : List UInt8}
    (named : d.phrase? h.capacity code = some (head :: tail))
    (fits : s.out.bytes.length + (head :: tail).length ≤ limit) :
    ∃ s', expandCode (h.params data limit) s (h.number code) = .ok s' ∧
      Denotes h s' (d.advance h.capacity head tail) ∧
      s'.out.bytes = s.out.bytes ++ head :: tail ∧
      s'.cursor = cursorAfter (h.params data limit) s := by
  obtain ⟨bounded, ⟨start, stack, chosen, unwound⟩, names⟩ := denotes.unwind_code named
  obtain ⟨capacity, appended⟩ := appendStack_ok fits
  obtain ⟨parent, suffix, freeEntry, added, spells, free⟩ :=
    denotes.addEntry_ok data limit head
      ⟨s.out.bytes ++ head :: tail, capacity⟩
  have byte : UInt8.ofNat head.toNat = head := UInt8.ofNat_toNat
  refine ⟨{ s with
      parent, suffix, freeEntry
      out := ⟨s.out.bytes ++ head :: tail, capacity⟩
      cursor := cursorAfter (h.params data limit) s
      oldCode := h.number code
      finalCharacter := head }, ?_, ⟨spells, free, ?_, names, rfl⟩, rfl, rfl⟩
  · simp only [expandCode, if_neg (Nat.not_lt.mpr bounded), gt_iff_lt, chosen,
      Header.params_maxCodeCount, unwound, bind, Except.bind, byte]
    rw [show (h.params data limit).limit = limit from rfl, appended]
    simp only [added]
  · have kept := Lzw.grow_length (d.last ++ [head]) denotes.room
    simp only [Lzw.Decoder.advance]
    omega

end Sidereon.UnixCompress
