import Mathlib.Tactic.Ring
import Sidereon.UnixCompress.Stream

/-!
# Reading codes and padding

What the decoder's reading loops return on a known bit string: a code written at the read position
is the code read, a position with too few bits left yields no code, and zero bits pass as padding.
-/

namespace Sidereon.UnixCompress

open Foundation

/-- The bit at a position inside the data. -/
theorem bitAt_ok {data : List UInt8} {position : Nat} {bit : Bool}
    (found : (bitsOf data)[position]? = some bit) : bitAt data position = .ok bit.toNat := by
  rw [bitsOf_getElem?] at found
  obtain ⟨byte, stored, rfl⟩ := Option.map_eq_some_iff.mp found
  have quotient : position >>> 3 = position / 8 := Nat.shiftRight_eq_div_pow position 3
  have remainder : position &&& 7 = position % 8 := Nat.and_two_pow_sub_one_eq_mod position 3
  simp only [bitAt, index, quotient, stored, remainder, bind, Except.bind, Except.ok.injEq]
  rw [Nat.testBit, Nat.one_and_eq_mod_two, Nat.and_one_is_mod]
  rcases Nat.mod_two_eq_zero_or_one (byte.toNat >>> (position % 8)) with even | odd
  · simp [even]
  · simp [odd]

/-- The reading loop adds the bits it passes to the code. -/
theorem readCodeLoop_ok (data : List UInt8) (bitpos value remaining : Nat) :
    ∀ i, (∀ j, j < remaining →
        (bitsOf data)[bitpos + (i + j)]? = some (value.testBit (i + j))) →
      readCodeLoop data bitpos i (value % 2 ^ i) remaining =
        .ok (value % 2 ^ (i + remaining)) := by
  induction remaining with
  | zero => intro i _; rfl
  | succ remaining ih =>
    intro i bits
    have here := bits 0 (Nat.succ_pos _)
    rw [Nat.add_zero] at here
    have next : value % 2 ^ i ||| (value.testBit i).toNat <<< i = value % 2 ^ (i + 1) := by
      apply Nat.eq_of_testBit_eq
      intro j
      rw [Nat.testBit_or, Nat.testBit_shiftLeft, Nat.testBit_mod_two_pow, Nat.testBit_mod_two_pow]
      rcases Nat.lt_trichotomy j i with below | rfl | above
      · simp [below, Nat.lt_succ_of_lt below, Nat.not_le.mpr below]
      · cases value.testBit j <;> simp
      · have bit : (value.testBit i).toNat.testBit (j - i) = false := by
          apply Nat.testBit_lt_two_pow
          have one := Bool.toNat_le (value.testBit i)
          have two : 2 ^ 1 ≤ 2 ^ (j - i) := Nat.pow_le_pow_right (by decide) (by omega)
          omega
        simp [bit, Nat.not_lt.mpr (Nat.le_of_lt above), show ¬ j < i + 1 by omega]
    rw [readCodeLoop, bitAt_ok here]
    simp only [bind, Except.bind]
    rw [next, ih (i + 1) (fun j inside => ?_)]
    · rw [Nat.add_right_comm, Nat.add_assoc]
    · have shifted := bits (j + 1) (by omega)
      rw [show i + 1 + j = i + (j + 1) by omega]
      exact shifted

/-- The bits of a code written at a position. -/
theorem getElem?_written {bits done tail : List Bool} {width value j : Nat}
    (written : bits = done ++ lsbBits width value ++ tail) (inside : j < width) :
    bits[done.length + j]? = some (value.testBit j) := by
  rw [written, List.append_assoc, List.getElem?_append_right (Nat.le_add_right _ _),
    Nat.add_sub_cancel_left, List.getElem?_append_left (by simpa using inside),
    lsbBits_getElem? width value j inside]

/-- Reading where a code was written returns it. -/
theorem readCode_written {data : List UInt8} {done tail : List Bool} {width value : Nat}
    (written : bitsOf data = done ++ lsbBits width value ++ tail) (fits : value < 2 ^ width) :
    readCode data (data.length * 8) done.length width = .ok (some value) := by
  have total := congrArg List.length written
  simp only [bitsOf_length, List.length_append, lsbBits_length] at total
  have loop := readCodeLoop_ok data done.length value width 0
    (fun j inside => by
      rw [Nat.zero_add]
      exact getElem?_written written inside)
  rw [Nat.pow_zero, Nat.mod_one, Nat.zero_add, Nat.mod_eq_of_lt fits] at loop
  rw [readCode, if_neg (by omega), loop]
  rfl

/-- Reading with too few bits left returns no code. -/
theorem readCode_short {data : List UInt8} {totalBits bitpos width : Nat}
    (short : totalBits < bitpos + width) : readCode data totalBits bitpos width = .ok none := by
  rw [readCode, if_pos short]

/-- Zero bits pass as padding. -/
theorem zeroPadding_ok {data : List UInt8} (remaining : Nat) :
    ∀ position, (∀ j, j < remaining → (bitsOf data)[position + j]? = some false) →
      zeroPadding data position remaining = .ok () := by
  induction remaining with
  | zero => intro _ _; rfl
  | succ remaining ih =>
    intro position zeros
    have here := zeros 0 (Nat.succ_pos _)
    rw [Nat.add_zero] at here
    rw [zeroPadding, bitAt_ok here]
    simp only [bind, Except.bind, Bool.toNat_false, ne_eq, not_true_eq_false, ↓reduceIte]
    refine ih (position + 1) (fun j inside => ?_)
    have shifted := zeros (j + 1) (by omega)
    rw [show position + 1 + j = position + (j + 1) by omega]
    exact shifted

/-- A stream that ends in fewer than eight zero bits after the last code is accepted. -/
theorem validateTerminalPadding_ok {data : List UInt8} {done : List Bool} {fill : Nat}
    (ends : bitsOf data = done ++ List.replicate fill false) (short : fill < 8) :
    validateTerminalPadding data (data.length * 8) done.length = .ok () := by
  have total := congrArg List.length ends
  simp only [bitsOf_length, List.length_append, List.length_replicate] at total
  have gap : data.length * 8 - done.length = fill := by omega
  rw [validateTerminalPadding, if_neg (by omega), gap, if_neg (by omega)]
  refine zeroPadding_ok fill done.length (fun j inside => ?_)
  rw [ends, List.getElem?_append_right (Nat.le_add_right _ _), Nat.add_sub_cancel_left]
  simp [inside]

/-- A read position beyond the data is a truncated stream. -/
theorem validateTerminalPadding_past {data : List UInt8} {totalBits bitpos : Nat}
    (past : totalBits < bitpos) :
    validateTerminalPadding data totalBits bitpos = .error (.failed .truncated) := by
  rw [validateTerminalPadding, if_pos past]

/-- Alignment after `written + 1` codes of one width completes their last group. -/
theorem alignToGroup_eq (boundary : Nat) {width : Nat} (written : Nat) (positive : 0 < width) :
    alignToGroup (boundary + (written + 1) * width) width boundary =
      boundary + (written + 1) * width + groupPadding width (written + 1) := by
  have count := Nat.div_add_mod (written + 1) 8
  have codes : (written + 1) * width = width * 8 * ((written + 1) / 8) +
      (written + 1) % 8 * width := by
    conv_lhs => rw [← count]
    ring
  have under : (written + 1) % 8 < 8 := Nat.mod_lt _ (by decide)
  have some_code : width ≤ (written + 1) * width := Nat.le_mul_of_pos_left _ (Nat.succ_pos _)
  have relative : boundary + (written + 1) * width - 1 - boundary = (written + 1) * width - 1 := by
    omega
  simp only [alignToGroup, groupPadding, relative]
  rcases Nat.eq_zero_or_pos ((written + 1) % 8) with whole | partly
  · -- A whole number of groups: the last bit read is the last bit of a group.
    rw [whole, Nat.zero_mul, Nat.add_zero] at codes
    have groups : 0 < (written + 1) / 8 := by omega
    obtain ⟨q, hq⟩ : ∃ q, (written + 1) / 8 = q + 1 := ⟨(written + 1) / 8 - 1, by omega⟩
    have last : (written + 1) * width - 1 + width * 8 =
        width * 8 - 1 + width * 8 * (q + 1) := by
      rw [codes, hq, Nat.mul_add]
      omega
    rw [last, Nat.add_mul_mod_self_left, Nat.mod_eq_of_lt (by omega), whole]
    simp only [Nat.sub_zero, Nat.mod_self, Nat.zero_mul]
    omega
  · have part : width ≤ (written + 1) % 8 * width := Nat.le_mul_of_pos_left _ partly
    have below : (written + 1) % 8 * width ≤ 7 * width := Nat.mul_le_mul_right _ (by omega)
    have inside : (written + 1) * width - 1 + width * 8 =
        (written + 1) % 8 * width - 1 + width * 8 * ((written + 1) / 8 + 1) := by
      rw [codes, Nat.mul_add]
      omega
    have gap : (8 - (written + 1) % 8) % 8 * width = 8 * width - (written + 1) % 8 * width := by
      rw [Nat.mod_eq_of_lt (by omega), Nat.sub_mul]
    rw [inside, Nat.add_mul_mod_self_left, Nat.mod_eq_of_lt (by omega), gap]
    omega

end Sidereon.UnixCompress
