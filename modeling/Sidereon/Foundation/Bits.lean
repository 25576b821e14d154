import Mathlib.Data.List.Basic
import Mathlib.Data.Nat.Bitwise

/-!
# Bit strings, least significant bit first

A code of a fixed width is written from its low bit up, and a byte string is read as the bits
of its bytes in that same order. Packing fills the last byte with zero bits; reading a packed
string back returns the bits and exactly that filling.
-/

namespace Foundation

/-- The low `width` bits of a value, least significant first. -/
def lsbBits (width value : Nat) : List Bool :=
  (List.range width).map value.testBit

/-- The number a bit string spells, least significant bit first. -/
def bitsValue : List Bool → Nat
  | [] => 0
  | bit :: bits => bit.toNat + 2 * bitsValue bits

/-- The eight bits of one byte. -/
def byteBits (byte : UInt8) : List Bool := lsbBits 8 byte.toNat

/-- The bits of a byte string, in reading order. -/
def bitsOf (bytes : List UInt8) : List Bool := bytes.flatMap byteBits

/-- The first `count` groups of eight bits as bytes; missing bits are zero. -/
def packBytes : Nat → List Bool → List UInt8
  | 0, _ => []
  | count + 1, bits =>
    UInt8.ofNat (bitsValue (bits.take 8)) :: packBytes count (bits.drop 8)

/-- Bytes needed to hold a number of bits. -/
def bytesFor (count : Nat) : Nat := (count + 7) / 8

/-- A bit string as bytes, the last one filled with zero bits. -/
def packBits (bits : List Bool) : List UInt8 := packBytes (bytesFor bits.length) bits

/-- Zero bits that fill a bit string up to a byte. -/
def fillBits (count : Nat) : Nat := 8 * bytesFor count - count

/-- A code occupies exactly its width. -/
@[simp] theorem lsbBits_length (width value : Nat) : (lsbBits width value).length = width := by
  simp [lsbBits]

/-- Bit `i` of a written code is bit `i` of its value. -/
theorem lsbBits_getElem? (width value i : Nat) (inside : i < width) :
    (lsbBits width value)[i]? = some (value.testBit i) := by
  simp [lsbBits, inside]

/-- The low bit is written first and the rest is the code of the half. -/
theorem lsbBits_succ (width value : Nat) :
    lsbBits (width + 1) value = value.testBit 0 :: lsbBits width (value / 2) := by
  simp [lsbBits, List.range_succ_eq_map, List.map_map, Function.comp_def, Nat.testBit_succ]

/-- A byte has eight bits. -/
@[simp] theorem byteBits_length (byte : UInt8) : (byteBits byte).length = 8 := by
  simp [byteBits]

/-- Byte strings concatenate as their bits do. -/
theorem bitsOf_cons (byte : UInt8) (bytes : List UInt8) :
    bitsOf (byte :: bytes) = byteBits byte ++ bitsOf bytes := by
  simp [bitsOf]

/-- The bits of a byte string begin with those of a beginning of it. -/
theorem bitsOf_append (bytes more : List UInt8) :
    bitsOf (bytes ++ more) = bitsOf bytes ++ bitsOf more :=
  List.flatMap_append

/-- Eight bits for every byte. -/
@[simp] theorem bitsOf_length (bytes : List UInt8) : (bitsOf bytes).length = 8 * bytes.length := by
  induction bytes with
  | nil => rfl
  | cons byte bytes ih =>
    rw [bitsOf_cons, List.length_append, byteBits_length, ih, List.length_cons]
    omega

/-- Bit `p` of a byte string is bit `p % 8` of byte `p / 8`. -/
theorem bitsOf_getElem? (bytes : List UInt8) (p : Nat) :
    (bitsOf bytes)[p]? = bytes[p / 8]?.map (fun byte => byte.toNat.testBit (p % 8)) := by
  induction bytes generalizing p with
  | nil => simp [bitsOf]
  | cons byte bytes ih =>
    rw [bitsOf_cons]
    by_cases first : p < 8
    · rw [List.getElem?_append_left (by simpa using first), byteBits,
        lsbBits_getElem? 8 _ p first, Nat.div_eq_of_lt first, Nat.mod_eq_of_lt first]
      rfl
    · rw [List.getElem?_append_right (by simpa using first), byteBits_length, ih]
      have quotient : p / 8 = (p - 8) / 8 + 1 := by omega
      have remainder : p % 8 = (p - 8) % 8 := by omega
      rw [quotient, remainder, List.getElem?_cons_succ]

/-- A bit string of `n` bits spells a number below `2 ^ n`. -/
theorem bitsValue_lt (bits : List Bool) : bitsValue bits < 2 ^ bits.length := by
  induction bits with
  | nil => simp [bitsValue]
  | cons bit bits ih =>
    have small := Bool.toNat_le bit
    rw [bitsValue, List.length_cons, Nat.pow_succ]
    omega

/-- Writing the number a short bit string spells returns the string and zero filling. -/
theorem lsbBits_bitsValue (bits : List Bool) (width : Nat) (fits : bits.length ≤ width) :
    lsbBits width (bitsValue bits) = bits ++ List.replicate (width - bits.length) false := by
  induction bits generalizing width with
  | nil =>
    apply List.ext_getElem (by simp)
    intro i _ _
    simp [lsbBits, bitsValue]
  | cons bit bits ih =>
    obtain ⟨width, rfl⟩ : ∃ w, width = w + 1 :=
      ⟨width - 1, by simp only [List.length_cons] at fits; omega⟩
    have low : (bitsValue (bit :: bits)).testBit 0 = bit := by
      cases bit <;> simp [bitsValue, Nat.add_mod]
    have half : bitsValue (bit :: bits) / 2 = bitsValue bits := by
      cases bit <;> simp only [bitsValue, Bool.toNat_false, Bool.toNat_true] <;> omega
    simp only [List.length_cons, Nat.add_le_add_iff_right] at fits
    rw [lsbBits_succ, low, half, ih width fits]
    simp

/-- Packing and reading back returns the bits followed by zero filling. -/
theorem bitsOf_packBytes (count : Nat) (bits : List Bool) (fits : bits.length ≤ 8 * count) :
    bitsOf (packBytes count bits) = bits ++ List.replicate (8 * count - bits.length) false := by
  induction count generalizing bits with
  | zero =>
    obtain rfl : bits = [] := List.length_eq_zero_iff.mp (by omega)
    simp [packBytes, bitsOf]
  | succ count ih =>
    have taken : (bits.take 8).length ≤ 8 := List.length_take_le 8 bits
    have value : (UInt8.ofNat (bitsValue (bits.take 8))).toNat = bitsValue (bits.take 8) := by
      have bound := bitsValue_lt (bits.take 8)
      have top : 2 ^ (bits.take 8).length ≤ 2 ^ 8 := Nat.pow_le_pow_right (by decide) taken
      rw [UInt8.toNat_ofNat']
      exact Nat.mod_eq_of_lt (by omega)
    rw [packBytes, bitsOf_cons, byteBits, value, lsbBits_bitsValue _ 8 taken,
      ih (bits.drop 8) (by simp only [List.length_drop]; omega)]
    by_cases long : 8 ≤ bits.length
    · have gap : 8 * count - (bits.length - 8) = 8 * (count + 1) - bits.length := by omega
      simp only [List.length_take, Nat.min_eq_left long, Nat.sub_self, List.replicate_zero,
        List.append_nil, List.length_drop, gap]
      rw [← List.append_assoc, List.take_append_drop]
    · have short : bits.length ≤ 8 := by omega
      have gap : 8 * (count + 1) - bits.length = (8 - bits.length) + 8 * count := by omega
      simp only [List.take_of_length_le short, List.drop_eq_nil_of_le short, List.nil_append,
        List.length_nil, Nat.sub_zero, List.append_assoc, List.replicate_append_replicate, gap]

/-- Packed bits read back followed by fewer than eight zero bits. -/
theorem bitsOf_packBits (bits : List Bool) :
    bitsOf (packBits bits) = bits ++ List.replicate (fillBits bits.length) false :=
  bitsOf_packBytes _ bits (by simp only [bytesFor]; omega)

/-- The filling is shorter than a byte. -/
theorem fillBits_lt (count : Nat) : fillBits count < 8 := by
  simp only [fillBits, bytesFor]
  omega

end Foundation
