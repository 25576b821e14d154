import Sidereon.UnixCompress.Simulation

/-!
# The cursor follows the layout

The writer pads a finished group before its next code, the decoder skips the padding right after
the code that finished it. Between two codes the cursor therefore stands past the bits written and
the bits owed, with the width and the group start of the layout.
-/

namespace Sidereon.UnixCompress

open Foundation
open Foundation.Lzw (Code Token)

/-- A cursor, with the next free entry beside it, agrees with a layout. -/
structure Placed (h : Header) (c : Cursor) (freeEntry : Nat) (l : Layout) : Prop where
  width : c.codeWidth = l.width
  atLeast : initBits ≤ l.width
  atMost : l.width ≤ h.maxbits
  maxCode : l.width < h.maxbits → c.maxCode = 2 ^ l.width - 1
  position : c.bitPosition = c.boundaryOffset + l.written * l.width
  entries : l.entries = min (freeEntry + 1) h.tableSize
  fits : l.entries ≤ 2 ^ l.width

/-- A width below the largest spans fewer codes than the table. -/
theorem Header.tableSize_gt (h : Header) {width : Nat} (narrow : width < h.maxbits) :
    2 * 2 ^ width ≤ h.tableSize := by
  have wider : 2 ^ (width + 1) ≤ 2 ^ h.maxbits := Nat.pow_le_pow_right (by decide) narrow
  rwa [Nat.pow_succ, Nat.mul_comm] at wider

/-- A named phrase fits the present width. -/
theorem Placed.number_lt {h : Header} {c : Cursor} {freeEntry : Nat} {l : Layout}
    (placed : Placed h c freeEntry l) {table : List (List UInt8)} {added phrase : List UInt8}
    {number : Nat} (free : freeEntry = h.firstFree + table.length)
    (room : table.length ≤ h.capacity)
    (names : Names h (Lzw.grow h.capacity table added) number phrase) :
    number < 2 ^ l.width := by
  have below := names.lt
  have kept := Lzw.grow_length added room
  have total := h.firstFree_capacity
  have entries := placed.entries
  have fits := placed.fits
  omega

/-- CLEAR fits every width. -/
theorem Placed.clear_lt {h : Header} {c : Cursor} {freeEntry : Nat} {l : Layout}
    (placed : Placed h c freeEntry l) : clear < 2 ^ l.width := by
  have wide : 2 ^ 9 ≤ 2 ^ l.width := Nat.pow_le_pow_right (by decide) placed.atLeast
  simp only [clear]
  omega

/-- The group boundary after the code being consumed. -/
theorem Placed.align {h : Header} {c : Cursor} {freeEntry : Nat} {l : Layout}
    (placed : Placed h c freeEntry l) :
    alignToGroup c.consume.bitPosition c.consume.codeWidth c.consume.boundaryOffset =
      c.bitPosition + l.width + groupPadding l.width (l.written + 1) := by
  have positive : 0 < l.width := Nat.lt_of_lt_of_le (by decide) placed.atLeast
  have aligned := alignToGroup_eq c.boundaryOffset l.written positive
  have consumed : c.boundaryOffset + (l.written + 1) * l.width = c.bitPosition + l.width := by
    rw [placed.position, Nat.add_mul, Nat.one_mul, Nat.add_assoc]
  rw [consumed] at aligned
  simpa [Cursor.consume, placed.width] using aligned

/-- After an expanded code the cursor agrees with the layout after that code, and stands past what
that layout owes. -/
theorem Placed.expand {h : Header} {s : State} {l : Layout}
    (placed : Placed h s.cursor s.freeEntry l) (data : List UInt8) (limit : Nat)
    (freeEntry : Nat) (bounded : s.freeEntry ≤ h.tableSize)
    (next : min (freeEntry + 1) h.tableSize = min (s.freeEntry + 2) h.tableSize) :
    Placed h (cursorAfter (h.params data limit) { s with cursor := s.cursor.consume })
        freeEntry (l.afterCode h) ∧
      (cursorAfter (h.params data limit) { s with cursor := s.cursor.consume }).bitPosition =
        s.cursor.bitPosition + l.width + (l.afterCode h).owed := by
  have entries := placed.entries
  have fits := placed.fits
  have more : min (l.entries + 1) h.tableSize = min (freeEntry + 1) h.tableSize := by omega
  have consumed : s.cursor.bitPosition + l.width =
      s.cursor.boundaryOffset + (l.written + 1) * l.width := by
    rw [placed.position, Nat.add_mul, Nat.one_mul, Nat.add_assoc]
  by_cases grows : min (l.entries + 1) h.tableSize > 2 ^ l.width ∧ l.width < h.maxbits
  · -- The entry just added does not fit the width: both sides go to the next one.
    obtain ⟨wide, narrow⟩ := grows
    have size := h.tableSize_gt narrow
    have largest := placed.maxCode narrow
    have positive : 0 < 2 ^ l.width := Nat.two_pow_pos l.width
    have inside : s.freeEntry < h.tableSize := by omega
    have passed : s.freeEntry + 1 > s.cursor.maxCode := by omega
    have after : l.afterCode h = ⟨min (l.entries + 1) h.tableSize, l.width + 1, 0,
        groupPadding l.width (l.written + 1)⟩ := if_pos ⟨wide, narrow⟩
    have widened : cursorAfter (h.params data limit) { s with cursor := s.cursor.consume } =
        { boundaryOffset := s.cursor.bitPosition + l.width + groupPadding l.width (l.written + 1)
          bitPosition := s.cursor.bitPosition + l.width + groupPadding l.width (l.written + 1)
          codeWidth := l.width + 1
          maxCode := if l.width + 1 = h.maxbits then h.tableSize else 2 ^ (l.width + 1) - 1 } := by
      have guard : s.freeEntry + 1 > s.cursor.consume.maxCode ∧
          s.cursor.consume.codeWidth < (h.params data limit).maxbits :=
        ⟨passed, by rw [show s.cursor.consume.codeWidth = l.width from placed.width]; exact narrow⟩
      simp only [cursorAfter, Header.params_maxCodeCount, if_pos inside, widen, if_pos guard,
        placed.align, Nat.one_shiftLeft]
      simp only [Cursor.consume, placed.width]
      rfl
    rw [widened, after]
    refine ⟨⟨rfl, Nat.le_succ_of_le placed.atLeast, narrow, ?_, by simp, more, ?_⟩, rfl⟩
    · intro stillNarrow
      exact if_neg (Nat.ne_of_lt stillNarrow)
    · simp only [Nat.pow_succ]
      omega
  · have after : l.afterCode h = ⟨min (l.entries + 1) h.tableSize, l.width, l.written + 1, 0⟩ :=
      if_neg grows
    have kept : cursorAfter (h.params data limit) { s with cursor := s.cursor.consume } =
        s.cursor.consume := by
      simp only [cursorAfter, Header.params_maxCodeCount, widen]
      split
      · refine if_neg ?_
        rintro ⟨passed, narrow⟩
        have narrow : l.width < h.maxbits := by
          rw [← placed.width]
          exact narrow
        have passed : s.freeEntry + 1 > s.cursor.maxCode := passed
        have largest := placed.maxCode narrow
        have size := h.tableSize_gt narrow
        refine grows ⟨?_, narrow⟩
        omega
      · rfl
    rw [kept, after]
    refine ⟨⟨placed.width, placed.atLeast, placed.atMost, placed.maxCode, ?_, more, ?_⟩, ?_⟩
    · simp only [Cursor.consume, placed.width]
      exact consumed
    · rcases Nat.lt_or_ge l.width h.maxbits with narrow | full
      · have small : ¬ min (l.entries + 1) h.tableSize > 2 ^ l.width :=
          fun wide => grows ⟨wide, narrow⟩
        exact Nat.not_lt.mp small
      · have largest : l.width = h.maxbits := Nat.le_antisymm placed.atMost full
        rw [largest]
        exact Nat.min_le_right _ _
    · simp [Cursor.consume, placed.width]

/-- After the literal that starts a table the cursor agrees with a fresh layout after one code. -/
theorem Placed.initial {h : Header} (bitPosition : Nat) {l : Layout}
    (fresh : l.entries = h.firstFree ∧ l.width = initBits ∧ l.written = 0) :
    Placed h (Cursor.initial bitPosition).consume h.firstFree (l.afterCode h) ∧
      (l.afterCode h).owed = 0 := by
  obtain ⟨entries, width, written⟩ := fresh
  have first := h.firstFree_bounds
  have size := h.tableSize_ge
  have after : l.afterCode h = ⟨min (h.firstFree + 1) h.tableSize, initBits, 1, 0⟩ := by
    have few : ¬ (min (l.entries + 1) h.tableSize > 2 ^ l.width ∧ l.width < h.maxbits) := by
      rw [entries, width]
      simp only [initBits]
      omega
    rw [Layout.afterCode, if_neg few, entries, width, written]
  rw [after]
  refine ⟨⟨rfl, Nat.le_refl _, h.atLeast, fun _ => rfl, ?_, rfl, ?_⟩, rfl⟩
  · simp [Cursor.consume, Cursor.initial]
  · simp only [initBits]
    omega

end Sidereon.UnixCompress
