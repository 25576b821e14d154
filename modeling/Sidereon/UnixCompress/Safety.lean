import Sidereon.Foundation.Run
import Sidereon.UnixCompress.Reading

/-!
# Decoding arbitrary bytes

The decoder's loop is a transition system whose labels are the codes it reads. A CLEAR empties the
dictionary by moving the next free entry back, so the entries of the arrays that count are those
defined since the last CLEAR. Each of them leads to a byte or to an earlier one of them, and reading
positions only grow. On this rest that no index is out of range and that every loop ends.
-/

namespace Sidereon.UnixCompress

open Foundation

section Reading

variable {data : List UInt8} {position width : Nat}

/-- Inside the data a code is read: the value of its bits. -/
theorem readCode_inside (fits : position + width ≤ data.length * 8) :
    readCode data (data.length * 8) position width =
      .ok (some (bitsValue (((bitsOf data).drop position).take width))) := by
  have total := bitsOf_length data
  have taken : (((bitsOf data).drop position).take width).length = width := by
    rw [List.length_take, List.length_drop]
    omega
  have before : ((bitsOf data).take position).length = position := by
    rw [List.length_take]
    omega
  have value := lsbBits_bitsValue (((bitsOf data).drop position).take width) width taken.le
  rw [taken, Nat.sub_self, List.replicate_zero, List.append_nil] at value
  have small := bitsValue_lt (((bitsOf data).drop position).take width)
  rw [taken] at small
  have written : bitsOf data = (bitsOf data).take position ++
      lsbBits width (bitsValue (((bitsOf data).drop position).take width)) ++
        ((bitsOf data).drop position).drop width := by
    rw [value, List.append_assoc, List.take_append_drop, List.take_append_drop]
  have read := readCode_written written small
  rwa [before] at read

/-- Reading never fails, and a code that is read fits its width and lies inside the data. -/
theorem readCode_cases (data : List UInt8) (position width : Nat) :
    readCode data (data.length * 8) position width = .ok none ∧
        data.length * 8 < position + width ∨
      ∃ code, readCode data (data.length * 8) position width = .ok (some code) ∧
        code < 2 ^ width ∧ position + width ≤ data.length * 8 := by
  by_cases short : data.length * 8 < position + width
  · exact .inl ⟨readCode_short short, short⟩
  · have fits : position + width ≤ data.length * 8 := Nat.not_lt.mp short
    have small := bitsValue_lt (((bitsOf data).drop position).take width)
    have bound : 2 ^ (((bitsOf data).drop position).take width).length ≤ 2 ^ width :=
      Nat.pow_le_pow_right (by decide) (List.length_take_le _ _)
    exact .inr ⟨_, readCode_inside fits, by omega, fits⟩

/-- Padding is accepted when its bits are zero, and refused otherwise. -/
theorem zeroPadding_cases (remaining : Nat) :
    ∀ position, position + remaining ≤ data.length * 8 →
      zeroPadding data position remaining = .ok () ∧
          (∀ j < remaining, (bitsOf data)[position + j]? = some false) ∨
        zeroPadding data position remaining = .error (.failed .truncated) ∧
          ¬ ∀ j < remaining, (bitsOf data)[position + j]? = some false := by
  induction remaining with
  | zero =>
    intro position _
    left
    exact ⟨rfl, fun j impossible => absurd impossible (Nat.not_lt_zero j)⟩
  | succ remaining ih =>
    intro position inside
    have within : position < (bitsOf data).length := by
      rw [bitsOf_length]
      omega
    have here : (bitsOf data)[position]? = some (bitsOf data)[position] :=
      List.getElem?_eq_getElem within
    rw [zeroPadding, bitAt_ok here]
    cases bit : (bitsOf data)[position] with
    | true =>
      right
      refine ⟨rfl, fun zeros => ?_⟩
      have zero := zeros 0 (Nat.succ_pos _)
      rw [Nat.add_zero, here, bit] at zero
      cases zero
    | false =>
      rw [bit] at here
      have shift (j : Nat) : position + (j + 1) = position + 1 + j := by omega
      have all : (∀ j < remaining + 1, (bitsOf data)[position + j]? = some false) ↔
          ∀ j < remaining, (bitsOf data)[position + 1 + j]? = some false := by
        constructor
        · intro zeros j inside
          rw [← shift]
          exact zeros (j + 1) (by omega)
        · intro zeros j inside
          cases j with
          | zero => exact here
          | succ j =>
            rw [shift]
            exact zeros j (by omega)
      rw [all]
      exact ih (position + 1) (by omega)

/-- Positions after which a stream may end: at most seven zero bits are left. -/
def EndsAt (data : List UInt8) (position : Nat) : Prop :=
  position ≤ data.length * 8 ∧ data.length * 8 - position ≤ 7 ∧
    ∀ j < data.length * 8 - position, (bitsOf data)[position + j]? = some false

/-- The check at the end accepts where a stream may end, and else says it is truncated. -/
theorem validateTerminalPadding_cases (data : List UInt8) (position : Nat) :
    validateTerminalPadding data (data.length * 8) position = .ok () ∧ EndsAt data position ∨
      validateTerminalPadding data (data.length * 8) position = .error (.failed .truncated) ∧
        ¬ EndsAt data position := by
  unfold validateTerminalPadding EndsAt
  by_cases past : data.length * 8 < position
  · rw [if_pos past]
    exact .inr ⟨rfl, fun ends => absurd ends.1 (by omega)⟩
  · rw [if_neg past]
    by_cases long : data.length * 8 - position > 7
    · rw [if_pos long]
      exact .inr ⟨rfl, fun ends => absurd ends.2.1 (by omega)⟩
    · rw [if_neg long]
      have inside : position + (data.length * 8 - position) ≤ data.length * 8 := by omega
      cases zeroPadding_cases _ position inside with
      | inl accepted => exact .inl ⟨accepted.1, by omega, by omega, accepted.2⟩
      | inr refused => exact .inr ⟨refused.1, fun ends => refused.2 ends.2.2⟩

end Reading

/-- The loop takes a step on a code that it reads. -/
def Step (p : Params) (s : State) (rawCode : Nat) (s' : State) : Prop :=
  readCode p.data p.totalBits s.cursor.bitPosition s.cursor.codeWidth = .ok (some rawCode) ∧
    decodeStep p s rawCode = .ok s'

/-- The arguments of `decode_codes` for a stream with these flags. -/
def paramsOf (flags : UInt8) (data : List UInt8) (limit : Nat) : Params where
  data
  blockMode := (flags &&& blockModeFlag) ≠ 0
  maxbits := (flags &&& maxbitsMask).toNat
  limit

/-- Flags with a code width that the decoder accepts. -/
def WidthOk (flags : UInt8) : Prop :=
  initBits ≤ (flags &&& maxbitsMask).toNat ∧ (flags &&& maxbitsMask).toNat ≤ maxMaxbits

instance (flags : UInt8) : Decidable (WidthOk flags) :=
  inferInstanceAs (Decidable (_ ∧ _))

/-- A run of the loop on an input: its arguments, the steps taken, and the state they end in. -/
inductive Runs (input : List UInt8) (limit : Nat) (p : Params) (steps : List (Taken State Nat))
    (s : State) : Prop where
  | intro (flags : UInt8) (data : List UInt8) (first : Nat) (out : Output)
      (shape : input = magic.1 :: magic.2 :: flags :: data) (valid : WidthOk flags)
      (params : p = paramsOf flags data limit)
      (read : readCode p.data p.totalBits 0 initBits = .ok (some first)) (literal : first < 256)
      (pushed : pushOutput .empty (UInt8.ofNat first) p.limit = .ok out)
      (run : Run (Step p) (firstState p first out) steps s)

/-- The entries defined since the last CLEAR. -/
def definedSince (p : Params) (steps : List (Taken State Nat)) : List Nat :=
  steps.foldl (fun defined step =>
    if p.blockMode ∧ step.label = clear then []
    else if step.before.freeEntry < p.maxCodeCount then defined ++ [step.before.freeEntry]
    else defined) []

/-- The entries that unwinding a code reads. -/
def unwound (parent : List Nat) : Nat → Nat → List Nat
  | 0, _ => []
  | fuel + 1, code =>
    if code ≥ 256 then
      code :: (parent[code]?.elim [] fun next => unwound parent fuel next)
    else []

/-- Where the unwinding of a code starts. -/
def unwindStart (s : State) (code : Nat) : Nat := if code = s.freeEntry then s.oldCode else code

/-- What is on the stack before the unwinding of a code. -/
def unwindStack (s : State) (code : Nat) : List UInt8 :=
  if code = s.freeEntry then [s.finalCharacter] else []

section Soundness

variable {p : Params} {s : State}

/-- The arguments that `decode_bounded` accepts. -/
def Params.Valid (p : Params) : Prop := initBits ≤ p.maxbits ∧ p.maxbits ≤ maxMaxbits

/-- A code that leads to a byte: a byte, or an entry that is defined. -/
def Known (p : Params) (s : State) (code : Nat) : Prop :=
  code < 256 ∨ p.firstFree ≤ code ∧ code < s.freeEntry

/-- What holds between two iterations: the arrays have room for every entry, each defined entry
leads to a byte or to an earlier one, and the reading position has not gone back. -/
structure Sound (p : Params) (s : State) : Prop where
  parentSize : s.parent.length = p.maxCodeCount
  suffixSize : s.suffix.length = p.maxCodeCount
  free : p.firstFree ≤ s.freeEntry ∧ s.freeEntry ≤ p.maxCodeCount
  entries : ∀ k, p.firstFree ≤ k → k < s.freeEntry →
    ∃ next, s.parent[k]? = some next ∧ next < k ∧ (next < 256 ∨ p.firstFree ≤ next)
  old : Known p s s.oldCode
  width : initBits ≤ s.cursor.codeWidth ∧ s.cursor.codeWidth ≤ p.maxbits
  boundary : s.cursor.boundaryOffset ≤ s.cursor.bitPosition

/-- The first free entry comes after the bytes. -/
theorem firstFree_ge (p : Params) : 256 ≤ p.firstFree := by
  unfold Params.firstFree
  split <;> decide

/-- The table has room beyond the first free entry. -/
theorem firstFree_lt (valid : p.Valid) : p.firstFree < p.maxCodeCount := by
  have room : 2 ^ 9 ≤ 2 ^ p.maxbits := Nat.pow_le_pow_right (by decide) valid.1
  have small : p.firstFree ≤ 257 := by
    unfold Params.firstFree
    split <;> decide
  have count : p.maxCodeCount = 2 ^ p.maxbits := by
    rw [Params.maxCodeCount, Nat.one_shiftLeft]
  omega

/-- Unwinding a known code ends at a byte and reads defined entries only. -/
theorem Sound.unwind (sound : Sound p s) (fuel : Nat) :
    ∀ (code : Nat) (stack : List UInt8), Known p s code → code < 256 + fuel →
      ∃ literal stack', unwind s.parent s.suffix fuel code stack = .ok (literal, stack') ∧
        literal < 256 ∧ ∀ k ∈ unwound s.parent fuel code, p.firstFree ≤ k ∧ k < s.freeEntry := by
  have first := firstFree_ge p
  induction fuel with
  | zero =>
    intro code stack known enough
    have small : ¬ code ≥ 256 := by omega
    exact ⟨code, stack, by rw [UnixCompress.unwind, if_neg small], by omega, by simp [unwound]⟩
  | succ fuel ih =>
    intro code stack known enough
    by_cases small : code < 256
    · have byte : ¬ code ≥ 256 := by omega
      exact ⟨code, stack, by rw [UnixCompress.unwind, if_neg byte], small,
        by simp [unwound, byte]⟩
    · have entry : p.firstFree ≤ code ∧ code < s.freeEntry := known.resolve_left small
      obtain ⟨next, found, below, leads⟩ := sound.entries code entry.1 entry.2
      have inside : code < s.suffix.length := by
        have free := sound.free
        have size := sound.suffixSize
        omega
      have later : Known p s next := by
        cases leads with
        | inl byte => exact .inl byte
        | inr defined => exact .inr ⟨defined, by omega⟩
      obtain ⟨literal, stack', unwinds, byte, reads⟩ :=
        ih next (s.suffix[code] :: stack) later (by omega)
      refine ⟨literal, stack', ?_, byte, ?_⟩
      · rw [UnixCompress.unwind, if_pos (by omega)]
        simp only [index, found, List.getElem?_eq_getElem inside, bind, Except.bind]
        exact unwinds
      · intro k member
        rw [unwound, if_pos (by omega), found, Option.elim_some, List.mem_cons] at member
        cases member with
        | inl same =>
          rw [same]
          exact entry
        | inr later => exact reads k later

/-- The state after an expanded code whose string begins with a byte. -/
def expanded (p : Params) (s : State) (code : Nat) (final : UInt8) (out : Output) : State :=
  if s.freeEntry < p.maxCodeCount then
    { s with
      parent := s.parent.set s.freeEntry s.oldCode
      suffix := s.suffix.set s.freeEntry final
      freeEntry := s.freeEntry + 1
      cursor := widen p (s.freeEntry + 1) s.cursor
      out
      finalCharacter := final
      oldCode := code }
  else { s with out, finalCharacter := final, oldCode := code }

/-- An accepted code appends the string it stands for, whatever the limit and the output so far. -/
theorem Sound.expandCode (sound : Sound p s) {code : Nat} (accepted : code ≤ s.freeEntry)
    (known : code < 256 ∨ p.firstFree ≤ code) :
    ∃ literal stack,
      UnixCompress.unwind s.parent s.suffix p.maxCodeCount (unwindStart s code)
        (unwindStack s code) = .ok (literal, stack) ∧
      literal < 256 ∧
      (∀ k ∈ unwound s.parent p.maxCodeCount (unwindStart s code),
        p.firstFree ≤ k ∧ k < s.freeEntry) ∧
      ∀ limit out, UnixCompress.expandCode { p with limit } { s with out } code =
        (appendStack out (UInt8.ofNat literal :: stack) limit).map
          (expanded p s code (UInt8.ofNat literal)) := by
  have free := sound.free
  have start : Known p s (unwindStart s code) := by
    unfold unwindStart
    split
    · exact sound.old
    · cases known with
      | inl byte => exact .inl byte
      | inr entry => exact .inr ⟨entry, by omega⟩
  have enough : unwindStart s code < 256 + p.maxCodeCount := by
    cases start with
    | inl byte => omega
    | inr entry => omega
  obtain ⟨literal, stack, unwinds, byte, reads⟩ :=
    sound.unwind p.maxCodeCount _ (unwindStack s code) start enough
  refine ⟨literal, stack, unwinds, byte, reads, fun limit out => ?_⟩
  have count : ({ p with limit } : Params).maxCodeCount = p.maxCodeCount := rfl
  have chosen : (if code = s.freeEntry then (s.oldCode, [s.finalCharacter]) else (code, [])) =
      (unwindStart s code, unwindStack s code) := by
    unfold unwindStart unwindStack
    split <;> rfl
  simp only [UnixCompress.expandCode, if_neg (Nat.not_lt.mpr accepted), gt_iff_lt, chosen, count,
    unwinds, bind, Except.bind]
  cases appendStack out (UInt8.ofNat literal :: stack) limit with
  | error stop => rfl
  | ok out =>
    simp only [addEntry, expanded, Except.map, count]
    by_cases room : s.freeEntry < p.maxCodeCount
    · have parentRoom : s.freeEntry < s.parent.length := by rw [sound.parentSize]; exact room
      have suffixRoom : s.freeEntry < s.suffix.length := by rw [sound.suffixSize]; exact room
      simp only [if_pos room, store, if_pos parentRoom, if_pos suffixRoom]
      rfl
    · simp only [if_neg room]

/-- Alignment never goes back. -/
theorem le_alignToGroup {position width : Nat} (boundary : Nat) (positive : 0 < width)
    (read : 0 < position) : position ≤ alignToGroup position width boundary := by
  have group : (position - 1 - boundary + width * 8) % (width * 8) < width * 8 :=
    Nat.mod_lt _ (by omega)
  simp only [alignToGroup]
  omega

/-- A wider code is still within the largest width, and the reading position has not gone back. -/
theorem widen_sound (free : Nat) {c : Cursor}
    (width : initBits ≤ c.codeWidth ∧ c.codeWidth ≤ p.maxbits)
    (boundary : c.boundaryOffset < c.bitPosition) :
    (initBits ≤ (widen p free c).codeWidth ∧ (widen p free c).codeWidth ≤ p.maxbits) ∧
      (widen p free c).boundaryOffset ≤ (widen p free c).bitPosition ∧
      c.bitPosition ≤ (widen p free c).bitPosition := by
  have positive : 0 < c.codeWidth := lt_of_lt_of_le (by decide) width.1
  have forward := le_alignToGroup c.boundaryOffset positive
    (lt_of_le_of_lt (Nat.zero_le _) boundary)
  unfold widen
  split
  · next wider => exact ⟨⟨Nat.le_succ_of_le width.1, wider.2⟩, le_rfl, forward⟩
  · exact ⟨width, boundary.le, le_rfl⟩

/-- The state after an expanded code is sound. -/
theorem Sound.expanded (sound : Sound p s)
    (boundary : s.cursor.boundaryOffset < s.cursor.bitPosition) {code : Nat}
    (accepted : code ≤ s.freeEntry) (fits : code < p.maxCodeCount)
    (known : code < 256 ∨ p.firstFree ≤ code) (final : UInt8) (out : Output) :
    Sound p (expanded p s code final out) ∧
      s.cursor.bitPosition ≤ (UnixCompress.expanded p s code final out).cursor.bitPosition := by
  have free := sound.free
  unfold UnixCompress.expanded
  split
  · next room =>
    have cursor := widen_sound (s.freeEntry + 1) sound.width boundary
    refine ⟨⟨?_, ?_, ⟨Nat.le_succ_of_le free.1, room⟩, ?_, ?_, cursor.1, cursor.2.1⟩, cursor.2.2⟩
    · rw [List.length_set, sound.parentSize]
    · rw [List.length_set, sound.suffixSize]
    · intro k defined below
      by_cases same : k = s.freeEntry
      · rw [same]
        have inside : s.freeEntry < s.parent.length := by rw [sound.parentSize]; exact room
        refine ⟨s.oldCode, List.getElem?_set_self inside, ?_⟩
        cases sound.old with
        | inl byte =>
          have first := firstFree_ge p
          exact ⟨by omega, .inl byte⟩
        | inr entry => exact ⟨entry.2, .inr entry.1⟩
      · rw [List.getElem?_set_ne (Ne.symm same)]
        exact sound.entries k defined (lt_of_le_of_ne (Nat.le_of_lt_succ below) same)
    · cases known with
      | inl byte => exact .inl byte
      | inr entry => exact .inr ⟨entry, Nat.lt_succ_of_le accepted⟩
  · next full =>
    refine ⟨⟨sound.parentSize, sound.suffixSize, free, sound.entries, ?_, sound.width,
      boundary.le⟩, le_rfl⟩
    cases known with
    | inl byte => exact .inl byte
    | inr entry => exact .inr ⟨entry, lt_of_lt_of_le fits (Nat.not_lt.mp full)⟩

/-- The state after a CLEAR and the literal that follows it. -/
def cleared (s : State) (literal : Nat) (out : Output) : State :=
  let newPosition :=
    alignToGroup s.cursor.bitPosition s.cursor.codeWidth s.cursor.boundaryOffset
  { s with
    freeEntry := clear + 1
    cursor := (Cursor.initial newPosition).consume
    oldCode := literal
    finalCharacter := UInt8.ofNat literal
    out }

/-- A pushed byte is appended. -/
theorem pushOutput_eq (out : Output) (byte : UInt8) (limit : Nat) :
    pushOutput out byte limit = appendStack out [byte] limit :=
  rfl

/-- After a CLEAR a literal is read and appended, or there is none and the stream is refused. -/
theorem clearCode_cases (p : Params) (s : State) :
    (∃ error, error ≠ .sizeLimit ∧ ∀ limit out,
      clearCode { p with limit } { s with out } = .error (.failed error)) ∨
      ∃ literal, literal < 256 ∧
        readCode p.data (p.data.length * 8)
          (alignToGroup s.cursor.bitPosition s.cursor.codeWidth s.cursor.boundaryOffset) initBits =
            .ok (some literal) ∧
        ∀ limit out, clearCode { p with limit } { s with out } =
          (appendStack out [UInt8.ofNat literal] limit).map (cleared s literal) := by
  have read := readCode_cases p.data
    (alignToGroup s.cursor.bitPosition s.cursor.codeWidth s.cursor.boundaryOffset) initBits
  simp only [clearCode, Params.totalBits, Cursor.initial, bind, Except.bind]
  cases read with
  | inl short =>
    simp only [short.1]
    exact .inl ⟨_, by decide, fun _ _ => rfl⟩
  | inr read =>
    obtain ⟨literal, found, -, -⟩ := read
    simp only [found]
    by_cases large : literal ≥ 256
    · simp only [if_pos large]
      exact .inl ⟨_, by decide, fun _ _ => rfl⟩
    · refine .inr ⟨literal, Nat.not_le.mp large, rfl, fun limit out => ?_⟩
      simp only [if_neg large, pushOutput_eq]
      cases appendStack out [UInt8.ofNat literal] limit <;> rfl

/-- The state after a CLEAR is sound: nothing is defined. -/
theorem Sound.cleared (valid : p.Valid) (sound : Sound p s) (block : p.blockMode = true)
    (boundary : s.cursor.boundaryOffset < s.cursor.bitPosition) {literal : Nat}
    (byte : literal < 256) (out : Output) :
    Sound p (cleared s literal out) ∧
      s.cursor.bitPosition ≤ (UnixCompress.cleared s literal out).cursor.bitPosition := by
  have positive : 0 < s.cursor.codeWidth := lt_of_lt_of_le (by decide) sound.width.1
  have forward := le_alignToGroup s.cursor.boundaryOffset positive
    (lt_of_le_of_lt (Nat.zero_le _) boundary)
  have first : p.firstFree = clear + 1 := by
    rw [Params.firstFree, if_pos block]
  have room := firstFree_lt valid
  refine ⟨⟨sound.parentSize, sound.suffixSize, ⟨first.le, ?_⟩, ?_, .inl byte,
    ⟨le_rfl, valid.1⟩, Nat.le_add_right _ _⟩, le_trans forward (Nat.le_add_right _ _)⟩
  · rw [first] at room
    exact room.le
  · intro k defined below
    rw [first] at defined
    exact absurd below (Nat.not_lt.mpr defined)

/-- What a step does when it does not refuse its code: it goes on with the output it is given from a
sound state further on, in which the entry it may have defined counts. -/
structure Advances (p : Params) (s : State) (rawCode : Nat) (next : Output → State) : Prop where
  sound : ∀ out, Sound p (next out)
  consumes : ∀ out, s.cursor.consume.bitPosition ≤ (next out).cursor.bitPosition
  uniform : ∀ out out', next out = { next out' with out }
  free : ∀ out, (next out).freeEntry =
    if p.blockMode ∧ rawCode = clear then p.firstFree
    else if s.freeEntry < p.maxCodeCount then s.freeEntry + 1 else s.freeEntry

/-- The state after a step holds the output it is given. -/
theorem Advances.appended {rawCode : Nat} {next : Output → State}
    (advances : Advances p s rawCode next) (out : Output) : (next out).out = out := by
  rw [advances.uniform out out]

/-- A step reads at least one bit. -/
theorem Advances.further {rawCode : Nat} {next : Output → State} (sound : Sound p s)
    (advances : Advances p s rawCode next) (out : Output) :
    s.cursor.bitPosition < (next out).cursor.bitPosition := by
  have positive : 0 < s.cursor.codeWidth := lt_of_lt_of_le (by decide) sound.width.1
  exact lt_of_lt_of_le (Nat.lt_add_of_pos_right positive) (advances.consumes out)

/-- The step lemma: whatever the limit and the output so far, a code is refused with one error that
is not about the limit, or the same bytes are appended and the same state follows. -/
theorem decodeStep_cases (valid : p.Valid) (sound : Sound p s) {rawCode : Nat}
    (fits : rawCode < 2 ^ s.cursor.codeWidth) :
    (∃ error, error ≠ .sizeLimit ∧ ∀ limit out,
      decodeStep { p with limit } { s with out } rawCode = .error (.failed error)) ∨
    ∃ emitted next, Advances p s rawCode next ∧ ∀ limit out,
      decodeStep { p with limit } { s with out } rawCode =
        (appendStack out emitted limit).map next := by
  have positive : 0 < s.cursor.codeWidth := lt_of_lt_of_le (by decide) sound.width.1
  have boundary : s.cursor.consume.boundaryOffset < s.cursor.consume.bitPosition :=
    lt_of_le_of_lt sound.boundary (Nat.lt_add_of_pos_right positive)
  have consumed : Sound p { s with cursor := s.cursor.consume } :=
    ⟨sound.parentSize, sound.suffixSize, sound.free, sound.entries, sound.old, sound.width,
      boundary.le⟩
  by_cases clearing : p.blockMode ∧ rawCode = clear
  · simp only [decodeStep, if_pos clearing]
    cases clearCode_cases p { s with cursor := s.cursor.consume } with
    | inl refused => exact .inl refused
    | inr cleared =>
      obtain ⟨literal, byte, -, clears⟩ := cleared
      refine .inr ⟨_, _, ⟨fun out => ?_, fun out => ?_, fun _ _ => rfl, fun out => ?_⟩, clears⟩
      · exact (consumed.cleared valid clearing.1 boundary byte out).1
      · exact (consumed.cleared valid clearing.1 boundary byte out).2
      · rw [if_pos clearing, Params.firstFree, if_pos clearing.1]
        rfl
  · simp only [decodeStep, if_neg clearing]
    by_cases accepted : rawCode ≤ s.freeEntry
    · have inTable : rawCode < p.maxCodeCount := by
        rw [Params.maxCodeCount, Nat.one_shiftLeft]
        exact lt_of_lt_of_le fits (Nat.pow_le_pow_right (by decide) sound.width.2)
      have known : rawCode < 256 ∨ p.firstFree ≤ rawCode := by
        unfold Params.firstFree
        split
        · next block =>
          have other : rawCode ≠ clear := fun same => clearing ⟨block, same⟩
          simp only [clear] at other ⊢
          omega
        · omega
      obtain ⟨literal, stack, -, -, -, expands⟩ := consumed.expandCode accepted known
      refine .inr ⟨_, _, ⟨fun out => ?_, fun out => ?_, fun _ _ => ?_, fun out => ?_⟩, expands⟩
      · exact (consumed.expanded boundary accepted inTable known _ out).1
      · exact (consumed.expanded boundary accepted inTable known _ out).2
      · unfold expanded
        split <;> rfl
      · rw [if_neg clearing]
        unfold expanded
        split <;> rfl
    · refine .inl ⟨.invalidCode, by decide, fun limit out => ?_⟩
      simp only [expandCode, if_pos (Nat.not_le.mp accepted), gt_iff_lt]

/-- Appending hits the limit, or keeps the bytes and the requested capacity within it. -/
theorem appendStack_cases (out : Output) (emitted : List UInt8) (limit : Nat) :
    limit < out.bytes.length + emitted.length ∧
        appendStack out emitted limit = .error (.failed .sizeLimit) ∨
      out.bytes.length + emitted.length ≤ limit ∧ ∃ capacity,
        appendStack out emitted limit = .ok ⟨out.bytes ++ emitted, capacity⟩ ∧
          (out.capacity ≤ limit → capacity ≤ limit) := by
  by_cases large : limit < out.bytes.length + emitted.length
  · left
    refine ⟨large, ?_⟩
    simp only [appendStack, reserveOutput, gt_iff_lt, if_pos large]
    rfl
  · right
    refine ⟨Nat.not_lt.mp large, ?_⟩
    simp only [appendStack, reserveOutput, gt_iff_lt, if_neg large]
    split
    · exact ⟨_, rfl, fun _ => Nat.min_le_right _ _⟩
    · exact ⟨_, rfl, id⟩

/-- What a step that is taken does. -/
theorem Step.advances {rawCode : Nat} {s' : State} (valid : p.Valid) (sound : Sound p s)
    (step : Step p s rawCode s') :
    s.cursor.bitPosition + s.cursor.codeWidth ≤ p.totalBits ∧
      ∃ emitted next out, Advances p s rawCode next ∧ s' = next out ∧
        appendStack s.out emitted p.limit = .ok out := by
  obtain ⟨read, stepped⟩ := step
  cases readCode_cases p.data s.cursor.bitPosition s.cursor.codeWidth with
  | inl short =>
    rw [Params.totalBits, short.1] at read
    cases read
  | inr found =>
    obtain ⟨code, found, fits, inside⟩ := found
    rw [Params.totalBits, found] at read
    cases read
    refine ⟨inside, ?_⟩
    cases decodeStep_cases valid sound fits with
    | inl refused =>
      obtain ⟨error, -, refuses⟩ := refused
      have same : decodeStep p s rawCode = _ := refuses p.limit s.out
      rw [same] at stepped
      cases stepped
    | inr advanced =>
      obtain ⟨emitted, next, advances, does⟩ := advanced
      have same : decodeStep p s rawCode = _ := does p.limit s.out
      rw [same] at stepped
      cases appended : appendStack s.out emitted p.limit with
      | error stop =>
        rw [appended] at stepped
        cases stepped
      | ok out =>
        rw [appended] at stepped
        cases stepped
        exact ⟨emitted, next, out, advances, rfl, appended⟩

/-- The state after the first literal is sound. -/
theorem firstState_sound (valid : p.Valid) {first : Nat} (byte : first < 256) (out : Output) :
    Sound p (firstState p first out) where
  parentSize := by simp [firstState]
  suffixSize := by simp [firstState]
  free := ⟨le_rfl, (firstFree_lt valid).le⟩
  entries := fun k defined below => absurd below (Nat.not_lt.mpr defined)
  old := .inl byte
  width := ⟨le_rfl, valid.1⟩
  boundary := Nat.zero_le _

/-- Every state of a run is sound. -/
theorem run_sound (valid : p.Valid) {start : State} {steps : List (Taken State Nat)}
    (sound : Sound p start) (run : Run (Step p) start steps s) : Sound p s :=
  run.invariant (Sound p) sound fun _ _ _ sound step => by
    obtain ⟨-, emitted, next, out, advances, rfl, -⟩ := step.advances valid sound
    exact advances.sound out

/-- Every step of a run reads at least one bit, and inside the data. -/
theorem run_length (valid : p.Valid) {start : State} {steps : List (Taken State Nat)}
    (sound : Sound p start) (run : Run (Step p) start steps s) :
    steps.length ≤ p.totalBits ∧
      start.cursor.bitPosition + steps.length ≤ s.cursor.bitPosition := by
  induction run with
  | nil => exact ⟨Nat.zero_le _, le_rfl⟩
  | snoc run step ih =>
    obtain ⟨inside, emitted, next, out, advances, rfl, -⟩ :=
      step.advances valid (run_sound valid sound run)
    have further := advances.further (run_sound valid sound run) out
    have width := (run_sound valid sound run).width.1
    rw [List.length_append, List.length_singleton]
    simp only [initBits] at width
    omega

/-- The loop ends when no code fits. -/
theorem decodeLoop_none
    (none : readCode p.data p.totalBits s.cursor.bitPosition s.cursor.codeWidth = .ok none)
    (fuel : Nat) : decodeLoop p (fuel + 1) s = .ok s := by
  rw [decodeLoop, none]
  rfl

/-- The loop goes on with the code it reads. -/
theorem decodeLoop_some {rawCode : Nat}
    (read : readCode p.data p.totalBits s.cursor.bitPosition s.cursor.codeWidth =
      .ok (some rawCode))
    (fuel : Nat) :
    decodeLoop p (fuel + 1) s = (decodeStep p s rawCode).bind (decodeLoop p fuel) := by
  rw [decodeLoop, read]
  rfl

/-- The loop does the steps of a run. -/
theorem decodeLoop_steps {start : State} {steps : List (Taken State Nat)}
    (run : Run (Step p) start steps s) (fuel : Nat) :
    decodeLoop p (steps.length + fuel) start = decodeLoop p fuel s := by
  induction run generalizing fuel with
  | nil => rw [List.length_nil, Nat.zero_add]
  | snoc run step ih =>
    have longer := ih (1 + fuel)
    rw [List.length_append, List.length_singleton, Nat.add_assoc, longer, Nat.add_comm 1,
      decodeLoop_some step.1, step.2]
    rfl

/-- From where a run has got the loop goes on with the fuel that is left. -/
theorem decodeLoop_traced (valid : p.Valid) {start : State} (sound : Sound p start)
    {steps : List (Taken State Nat)} (run : Run (Step p) start steps s) :
    ∃ fuel, p.totalBits ≤ s.cursor.bitPosition + fuel ∧
      decodeLoop p (p.totalBits + 1) start = decodeLoop p (fuel + 1) s := by
  have length := run_length valid sound run
  refine ⟨p.totalBits - steps.length, by omega, ?_⟩
  rw [← decodeLoop_steps run]
  congr 1
  omega

/-- With fuel for every bit the loop ends: it fails with an error, or it runs until no code fits. -/
theorem decodeLoop_cases (valid : p.Valid) (fuel : Nat) :
    ∀ s, Sound p s → p.totalBits ≤ s.cursor.bitPosition + fuel →
      (∃ error, decodeLoop p (fuel + 1) s = .error (.failed error)) ∨
        ∃ steps s', Run (Step p) s steps s' ∧ decodeLoop p (fuel + 1) s = .ok s' ∧
          readCode p.data p.totalBits s'.cursor.bitPosition s'.cursor.codeWidth = .ok none := by
  induction fuel with
  | zero =>
    intro s sound enough
    have width := sound.width.1
    have short : p.totalBits < s.cursor.bitPosition + s.cursor.codeWidth := by
      simp only [initBits] at width
      omega
    exact .inr ⟨[], s, .nil, decodeLoop_none (readCode_short short) 0, readCode_short short⟩
  | succ fuel ih =>
    intro s sound enough
    cases readCode_cases p.data s.cursor.bitPosition s.cursor.codeWidth with
    | inl short => exact .inr ⟨[], s, .nil, decodeLoop_none short.1 _, short.1⟩
    | inr found =>
      obtain ⟨rawCode, found, fits, -⟩ := found
      have read : readCode p.data p.totalBits s.cursor.bitPosition s.cursor.codeWidth =
        .ok (some rawCode) := found
      rw [decodeLoop_some read]
      cases stepped : decodeStep p s rawCode with
      | error stop =>
        cases decodeStep_cases valid sound fits with
        | inl refused =>
          obtain ⟨error, -, refuses⟩ := refused
          have same : decodeStep p s rawCode = _ := refuses p.limit s.out
          rw [stepped] at same
          cases same
          exact .inl ⟨error, rfl⟩
        | inr advanced =>
          obtain ⟨emitted, next, -, does⟩ := advanced
          have same : decodeStep p s rawCode = _ := does p.limit s.out
          rw [stepped] at same
          cases appendStack_cases s.out emitted p.limit with
          | inl large =>
            rw [large.2] at same
            cases same
            exact .inl ⟨.sizeLimit, rfl⟩
          | inr kept =>
            obtain ⟨-, capacity, appended, -⟩ := kept
            rw [appended] at same
            cases same
      | ok s' =>
        have step : Step p s rawCode s' := ⟨read, stepped⟩
        obtain ⟨-, emitted, next, out, advances, rfl, -⟩ := step.advances valid sound
        have further := advances.further sound out
        cases ih (next out) (advances.sound out) (by omega) with
        | inl failed => exact .inl failed
        | inr ended =>
          obtain ⟨steps, last, run, ends, none⟩ := ended
          exact .inr ⟨_, last, run.cons step, ends, none⟩

/-- How `decode_codes` ends: with an error, or with the output of a run after which no code fits and
the stream may end. -/
theorem decodeCodes_cases (valid : p.Valid) :
    p.totalBits = 0 ∧ decodeCodes p = .ok [] ∨
      (∃ error, decodeCodes p = .error (.failed error)) ∨
        ∃ first out steps s, readCode p.data p.totalBits 0 initBits = .ok (some first) ∧
          first < 256 ∧ pushOutput .empty (UInt8.ofNat first) p.limit = .ok out ∧
          Run (Step p) (firstState p first out) steps s ∧
          readCode p.data p.totalBits s.cursor.bitPosition s.cursor.codeWidth = .ok none ∧
          EndsAt p.data s.cursor.bitPosition ∧ decodeCodes p = .ok s.out.bytes := by
  rw [decodeCodes]
  cases readCode_cases p.data 0 initBits with
  | inl short =>
    have read : readCode p.data p.totalBits 0 initBits = .ok none := short.1
    simp only [read, bind, Except.bind]
    by_cases empty : p.totalBits = 0
    · exact .inl ⟨empty, if_pos empty⟩
    · exact .inr (.inl ⟨.truncated, if_neg empty⟩)
  | inr found =>
    obtain ⟨first, found, -, -⟩ := found
    have read : readCode p.data p.totalBits 0 initBits = .ok (some first) := found
    simp only [read, bind, Except.bind]
    right
    by_cases large : first ≥ 256
    · exact .inl ⟨.invalidCode, if_pos large⟩
    · rw [if_neg large]
      cases appendStack_cases .empty [UInt8.ofNat first] p.limit with
      | inl excess => exact .inl ⟨.sizeLimit, by rw [pushOutput_eq, excess.2]⟩
      | inr kept =>
        obtain ⟨-, capacity, pushed, -⟩ := kept
        rw [← pushOutput_eq] at pushed
        simp only [pushed]
        have sound := firstState_sound valid (Nat.not_le.mp large)
          ⟨Output.empty.bytes ++ [UInt8.ofNat first], capacity⟩
        cases decodeLoop_cases valid p.totalBits _ sound (Nat.le_add_left _ _) with
        | inl failed =>
          obtain ⟨error, fails⟩ := failed
          exact .inl ⟨error, by rw [fails]⟩
        | inr ended =>
          obtain ⟨steps, last, run, ends, none⟩ := ended
          simp only [ends]
          cases validateTerminalPadding_cases p.data last.cursor.bitPosition with
          | inl accepted =>
            refine .inr ⟨first, _, steps, last, rfl, Nat.not_le.mp large, pushed, run, none,
              accepted.2, ?_⟩
            simp only [Params.totalBits, accepted.1]
          | inr refused =>
            refine .inl ⟨.truncated, ?_⟩
            simp only [Params.totalBits, refused.1]

/-- The entries defined since the last CLEAR are those from the first free one up to the next. -/
theorem mem_definedSince (valid : p.Valid) {start : State} {steps : List (Taken State Nat)}
    (sound : Sound p start) (fresh : start.freeEntry = p.firstFree)
    (run : Run (Step p) start steps s) (k : Nat) :
    k ∈ definedSince p steps ↔ p.firstFree ≤ k ∧ k < s.freeEntry := by
  induction run with
  | nil =>
    rw [fresh]
    constructor
    · intro member
      cases member
    · intro impossible
      omega
  | @snoc _ state _ label run step ih =>
    obtain ⟨-, emitted, next, out, advances, rfl, -⟩ :=
      step.advances valid (run_sound valid sound run)
    have free := (run_sound valid sound run).free.1
    have counted := advances.free out
    rw [definedSince, List.foldl_append, List.foldl_cons, List.foldl_nil, counted]
    rw [definedSince] at ih
    by_cases clearing : p.blockMode ∧ label = clear
    · rw [if_pos clearing, if_pos clearing]
      constructor
      · intro member
        cases member
      · intro impossible
        omega
    · rw [if_neg clearing, if_neg clearing]
      by_cases room : state.freeEntry < p.maxCodeCount
      · rw [if_pos room, if_pos room, List.mem_append, ih, List.mem_singleton]
        dsimp only
        omega
      · rw [if_neg room, if_neg room]
        exact ih

/-- What holds after every step of a run on an input. -/
structure Safe (p : Params) (steps : List (Taken State Nat)) (s : State) : Prop where
  /-- Aligning after the next code starts from a position past the last boundary. -/
  aligned : s.cursor.boundaryOffset < s.cursor.consume.bitPosition ∧ 0 < s.cursor.codeWidth
  /-- An entry leads to a smaller code: a byte, or an entry defined since the last CLEAR. -/
  entries : ∀ k ∈ definedSince p steps, ∃ next, s.parent[k]? = some next ∧ next < k ∧
    (next < 256 ∨ next ∈ definedSince p steps)
  /-- The entries defined since the last CLEAR have their place in both arrays. -/
  inRange : ∀ k ∈ definedSince p steps, k < s.parent.length ∧ k < s.suffix.length
  /-- Unwinding an accepted code ends at a byte, by way of entries defined since the last CLEAR. -/
  unwinds : ∀ code,
    readCode p.data p.totalBits s.cursor.bitPosition s.cursor.codeWidth = .ok (some code) →
    ¬ (p.blockMode = true ∧ code = clear) → code ≤ s.freeEntry →
    ∃ literal stack, UnixCompress.unwind s.parent s.suffix p.maxCodeCount (unwindStart s code)
        (unwindStack s code) = .ok (literal, stack) ∧ literal < 256 ∧
      ∀ k ∈ unwound s.parent p.maxCodeCount (unwindStart s code), k ∈ definedSince p steps

end Soundness

/-- The arguments of a run are valid. -/
theorem Runs.valid {input : List UInt8} {limit : Nat} {p : Params}
    {steps : List (Taken State Nat)} {s : State} (runs : Runs input limit p steps s) :
    p.Valid := by
  obtain ⟨flags, data, first, out, shape, valid, rfl, -⟩ := runs
  exact valid

/-- After a valid header the codes are decoded. -/
theorem decodeBounded_codes {flags : UInt8} (width : WidthOk flags) (data : List UInt8)
    (limit : Nat) : decodeBounded (magic.1 :: magic.2 :: flags :: data) limit =
      decodeCodes (paramsOf flags data limit) := by
  have header : ¬ (magic.1 ≠ magic.1 ∨ magic.2 ≠ magic.2) := by simp
  simp only [decodeBounded, if_neg header]
  exact if_neg (not_not.mpr width)

/-- `decode_bounded` fails on its header, or decodes the codes after it. -/
theorem decodeBounded_cases (input : List UInt8) (limit : Nat) :
    input = [] ∧ decodeBounded input limit = .ok [] ∨
      (∃ error, error ≠ .sizeLimit ∧ ∀ limit, decodeBounded input limit = .error (.failed error)) ∨
        ∃ flags data, input = magic.1 :: magic.2 :: flags :: data ∧ WidthOk flags := by
  unfold decodeBounded
  match input with
  | [] => exact .inl ⟨rfl, rfl⟩
  | [_] => exact .inr (.inl ⟨.truncated, by decide, fun _ => rfl⟩)
  | first :: second :: rest =>
    right
    by_cases bad : first ≠ magic.1 ∨ second ≠ magic.2
    · exact .inl ⟨.badMagic, by decide, fun _ => if_pos bad⟩
    · simp only [if_neg bad]
      obtain ⟨rfl, rfl⟩ := not_or.mp bad |>.imp not_not.mp not_not.mp
      match rest with
      | [] => exact .inl ⟨.truncated, by decide, fun _ => rfl⟩
      | flags :: data =>
        by_cases width : WidthOk flags
        · exact .inr ⟨flags, data, rfl, width⟩
        · exact .inl ⟨.badMaxBits, by decide, fun _ => if_pos width⟩

/-- Bytes that are returned are the output of a run after which no code fits and the stream may end,
unless there are no codes at all. -/
theorem decodeBounded_run {input : List UInt8} {limit : Nat} {value : List UInt8}
    (returned : decodeBounded input limit = .ok value) :
    value = [] ∧ (input = [] ∨ input.length = 3) ∨
      ∃ p steps s, Runs input limit p steps s ∧
        readCode p.data p.totalBits s.cursor.bitPosition s.cursor.codeWidth = .ok none ∧
        EndsAt p.data s.cursor.bitPosition ∧ value = s.out.bytes := by
  obtain ⟨rfl, empty⟩ | ⟨error, -, refused⟩ | ⟨flags, data, rfl, valid⟩ :=
    decodeBounded_cases input limit
  · rw [empty] at returned
    exact .inl ⟨(Except.ok.inj returned).symm, .inl rfl⟩
  · rw [refused] at returned
    cases returned
  · rw [decodeBounded_codes valid] at returned
    obtain ⟨none, empty⟩ | ⟨error, failed⟩ |
      ⟨first, out, steps, s, read, literal, pushed, run, ended, ends, same⟩ :=
        decodeCodes_cases (p := paramsOf flags data limit) valid
    · rw [empty] at returned
      have bare : data.length = 0 := by
        simp only [Params.totalBits, paramsOf] at none
        omega
      exact .inl ⟨(Except.ok.inj returned).symm, .inr (by simp only [List.length_cons, bare])⟩
    · rw [failed] at returned
      cases returned
    · rw [same] at returned
      exact .inr ⟨_, steps, s, ⟨flags, data, first, out, rfl, valid, rfl, read, literal, pushed,
        run⟩, ended, ends, (Except.ok.inj returned).symm⟩

/-- Decoding any bytes ends without a panic, and after every step of it an accepted code leads to a
byte through the entries defined since the last CLEAR. -/
theorem decoding_safe (input : List UInt8) (limit : Nat) :
    (decodeBounded input limit ≠ .error .panicked ∧
      decodeBounded input limit ≠ .error .outOfFuel) ∧
      ∀ p steps s, Runs input limit p steps s → Safe p steps s := by
  constructor
  · cases decodeBounded_cases input limit with
    | inl empty =>
      rw [empty.2]
      exact ⟨nofun, nofun⟩
    | inr rest =>
      cases rest with
      | inl refused =>
        obtain ⟨error, -, fails⟩ := refused
        rw [fails]
        exact ⟨nofun, nofun⟩
      | inr decoded =>
        obtain ⟨flags, data, rfl, valid⟩ := decoded
        rw [decodeBounded_codes valid]
        obtain ended | ⟨error, failed⟩ | ⟨first, out, steps, s, ended⟩ :=
          decodeCodes_cases (p := paramsOf flags data limit) valid
        · rw [ended.2]
          exact ⟨nofun, nofun⟩
        · rw [failed]
          exact ⟨nofun, nofun⟩
        · rw [ended.2.2.2.2.2.2]
          exact ⟨nofun, nofun⟩
  · intro p steps s runs
    have valid := runs.valid
    obtain ⟨flags, data, first, out, -, -, -, -, literal, -, run⟩ := runs
    have start := firstState_sound valid literal out
    have sound := run_sound valid start run
    have defined := mem_definedSince valid start rfl run
    have positive : 0 < s.cursor.codeWidth := lt_of_lt_of_le (by decide) sound.width.1
    refine ⟨⟨lt_of_le_of_lt sound.boundary (Nat.lt_add_of_pos_right positive), positive⟩,
      ?_, ?_, ?_⟩
    · intro k member
      obtain ⟨from', below⟩ := (defined k).mp member
      obtain ⟨next, found, smaller, leads⟩ := sound.entries k from' below
      refine ⟨next, found, smaller, leads.imp id fun entry => ?_⟩
      exact (defined next).mpr ⟨entry, smaller.trans below⟩
    · intro k member
      have below := ((defined k).mp member).2
      have room := lt_of_lt_of_le below sound.free.2
      rw [sound.parentSize, sound.suffixSize]
      exact ⟨room, room⟩
    · intro code read notClear accepted
      have known : code < 256 ∨ p.firstFree ≤ code := by
        unfold Params.firstFree
        split
        · next block =>
          have other : code ≠ clear := fun same => notClear ⟨block, same⟩
          simp only [clear] at other ⊢
          omega
        · omega
      obtain ⟨literal, stack, unwinds, byte, reads, -⟩ := sound.expandCode accepted known
      exact ⟨literal, stack, unwinds, byte, fun k member => (defined k).mpr (reads k member)⟩

/-- A byte and then the code of the next free entry: the run takes one step, and is safe. -/
theorem decoding_safe_next_free :
    ∃ p s s', Runs [0x1f, 0x9d, 0x89, 0x61, 0x02, 0x02] 3 p [⟨s, 257, s'⟩] s' ∧
      Safe p [⟨s, 257, s'⟩] s' ∧ s'.out.bytes = [0x61, 0x61, 0x61] := by
  have decoded : (decodeStep (paramsOf 0x89 [0x61, 0x02, 0x02] 3)
      (firstState (paramsOf 0x89 [0x61, 0x02, 0x02] 3) 97 ⟨[0x61], 3⟩) 257).map
        (fun s => s.out.bytes) = .ok [0x61, 0x61, 0x61] := by decide +kernel
  cases stepped : decodeStep (paramsOf 0x89 [0x61, 0x02, 0x02] 3)
      (firstState (paramsOf 0x89 [0x61, 0x02, 0x02] 3) 97 ⟨[0x61], 3⟩) 257 with
  | error stop =>
    rw [stepped] at decoded
    cases decoded
  | ok s' =>
    rw [stepped] at decoded
    have runs : Runs [0x1f, 0x9d, 0x89, 0x61, 0x02, 0x02] 3
        (paramsOf 0x89 [0x61, 0x02, 0x02] 3)
        [⟨firstState (paramsOf 0x89 [0x61, 0x02, 0x02] 3) 97 ⟨[0x61], 3⟩, 257, s'⟩] s' :=
      ⟨0x89, [0x61, 0x02, 0x02], 97, ⟨[0x61], 3⟩, rfl, by decide, rfl, by decide, by decide,
        by decide, Run.nil.snoc ⟨by decide, stepped⟩⟩
    exact ⟨_, _, s', runs, (decoding_safe _ _).2 _ _ _ runs, Except.ok.inj decoded⟩

end Sidereon.UnixCompress
