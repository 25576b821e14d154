import Mathlib.Data.List.Induction
import Sidereon.UnixCompress.RoundTrip

/-!
# Which streams end owing padding

With CLEAR in the code space the dictionary passes each width after a whole number of groups, so a
block-mode stream never ends owing zero bits. Without CLEAR the first width takes 257 codes, one
past a group, and a stream of exactly that many codes ends before the padding is written. The
decoder skips the padding all the same and calls the stream truncated.
-/

namespace Sidereon.UnixCompress

open Foundation
open Foundation.Lzw (Code Token)

/-- Below the largest width, the codes since the last group start and half the codes of the width
account for the dictionary, so the width is left after whole groups. -/
structure Steady (h : Header) (l : Layout) : Prop where
  atLeast : initBits ≤ l.width
  filled : l.width < h.maxbits → l.entries = l.written + 2 ^ (l.width - 1) + 1
  fits : l.width < h.maxbits → l.entries ≤ 2 ^ l.width

/-- Eight codes make a group, so a multiple of eight owes nothing. -/
theorem groupPadding_whole (width groups : Nat) : groupPadding width (8 * groups) = 0 := by
  simp [groupPadding]

/-- Half the codes of a width are whole groups. -/
theorem two_pow_half {width : Nat} (atLeast : initBits ≤ width) :
    ∃ groups, 2 ^ (width - 1) = 8 * groups ∧ 2 ^ width = 16 * groups := by
  simp only [initBits] at atLeast
  obtain ⟨extra, rfl⟩ : ∃ extra, width = extra + 4 := ⟨width - 4, by omega⟩
  refine ⟨2 ^ extra, ?_, ?_⟩
  · rw [show extra + 4 - 1 = extra + 3 by omega, Nat.pow_add]
    omega
  · rw [Nat.pow_add]
    omega

/-- From a steady layout a code leads to a steady layout and owes nothing. -/
theorem Steady.afterCode {h : Header} {l : Layout} (steady : Steady h l) :
    Steady h (l.afterCode h) ∧ (l.afterCode h).owed = 0 := by
  obtain ⟨atLeast, filled, fits⟩ := steady
  obtain ⟨groups, half, whole⟩ := two_pow_half atLeast
  by_cases grows : min (l.entries + 1) h.tableSize > 2 ^ l.width ∧ l.width < h.maxbits
  · have after : l.afterCode h = ⟨min (l.entries + 1) h.tableSize, l.width + 1, 0,
        groupPadding l.width (l.written + 1)⟩ := if_pos grows
    obtain ⟨wide, narrow⟩ := grows
    have filled := filled narrow
    have fits := fits narrow
    have size := h.tableSize_gt narrow
    have positive := Nat.two_pow_pos l.width
    have codes : l.written + 1 = 8 * groups := by omega
    have entries : min (l.entries + 1) h.tableSize = 2 ^ l.width + 1 := by omega
    rw [after, codes, entries]
    refine ⟨⟨Nat.le_succ_of_le atLeast, fun _ => ?_, fun _ => ?_⟩, groupPadding_whole _ _⟩
    · simp
    · simp only [Nat.pow_succ]
      omega
  · have after : l.afterCode h = ⟨min (l.entries + 1) h.tableSize, l.width, l.written + 1, 0⟩ :=
      if_neg grows
    rw [after]
    refine ⟨⟨atLeast, fun narrow => ?_, fun narrow => ?_⟩, rfl⟩
    · have narrow : l.width < h.maxbits := narrow
      have filled := filled narrow
      have fits := fits narrow
      have size := h.tableSize_gt narrow
      simp only
      omega
    · exact Nat.not_lt.mp fun wide => grows ⟨wide, narrow⟩

/-- With CLEAR in the code space every layout of a stream is steady. -/
theorem Steady.run {h : Header} (block : h.blockMode = true) (tokens : List (Token UInt8)) :
    Steady h ((Layout.start h).run h tokens) := by
  have first : h.firstFree = 257 := by simp [Header.firstFree, block, clear]
  have fresh : ∀ owed, Steady h ⟨h.firstFree, initBits, 0, owed⟩ := by
    intro owed
    rw [first]
    exact ⟨Nat.le_refl _, fun _ => rfl, fun _ => by simp [initBits]⟩
  induction tokens using List.reverseRecOn with
  | nil => exact fresh 0
  | append_singleton tokens token ih =>
    rw [Layout.run, List.foldl_concat]
    cases token with
    | code code => exact ih.afterCode.1
    | reset => exact fresh _

/-- Without CLEAR the first width ends one code past whole groups; every later layout is steady. -/
theorem run_plain {h : Header} (plain : h.blockMode = false) (tokens : List (Token UInt8))
    (codes : Token.reset ∉ tokens) :
    (tokens.length ≤ 256 ∧ (Layout.start h).run h tokens =
      ⟨tokens.length + 256, initBits, tokens.length, 0⟩) ∨
    (257 ≤ tokens.length ∧ Steady h ((Layout.start h).run h tokens) ∧
      (((Layout.start h).run h tokens).owed = 0 ↔ ¬ (10 ≤ h.maxbits ∧ tokens.length = 257)) ∧
      (((Layout.start h).run h tokens).owed = 0 ∨ ((Layout.start h).run h tokens).owed = 63)) := by
  have first : h.firstFree = 256 := by simp [Header.firstFree, plain]
  have size := h.tableSize_ge
  have widest := h.atLeast
  simp only [initBits] at widest
  induction tokens using List.reverseRecOn with
  | nil =>
    left
    exact ⟨by simp, by simp [Layout.run, Layout.start, first]⟩
  | append_singleton tokens token ih =>
    simp only [List.mem_append, List.mem_singleton, not_or] at codes
    obtain ⟨before, isCode⟩ := codes
    have step : (Layout.start h).run h (tokens ++ [token]) =
        ((Layout.start h).run h tokens).afterCode h := by
      rw [Layout.run, List.foldl_concat]
      cases token with
      | code code => rfl
      | reset => exact absurd rfl isCode
    rw [step, List.length_append, List.length_singleton]
    rcases ih before with ⟨few, layout⟩ | ⟨many, steady, _, _⟩
    · rw [layout]
      rcases Nat.lt_or_ge tokens.length 256 with fewer | exact256
      · left
        refine ⟨fewer, ?_⟩
        rw [Layout.afterCode, if_neg (by simp only [initBits]; omega)]
        simp only [Layout.mk.injEq, and_self, and_true]
        omega
      · have count : tokens.length = 256 := by omega
        right
        rw [count]
        refine ⟨Nat.le_refl _, ?_⟩
        rcases Nat.lt_or_ge 9 h.maxbits with narrow | full
        · have wide := h.tableSize_gt narrow
          rw [Layout.afterCode, if_pos ⟨by simp only [initBits]; omega, narrow⟩]
          refine ⟨⟨by simp [initBits], fun _ => ?_, fun _ => ?_⟩, ?_, Or.inr rfl⟩
          · simp only [initBits]
            omega
          · simp only [initBits]
            omega
          · simp [groupPadding, initBits]
            omega
        · have largest : h.maxbits = 9 := by omega
          rw [Layout.afterCode, if_neg (by simp only [initBits]; omega)]
          refine ⟨⟨Nat.le_refl _, fun narrow => ?_, fun narrow => ?_⟩, by simp [largest],
            Or.inl rfl⟩
          · simp only [initBits] at narrow
            omega
          · simp only [initBits] at narrow
            omega
    · right
      obtain ⟨next, paid⟩ := steady.afterCode
      refine ⟨by omega, next, ?_, Or.inl paid⟩
      rw [paid]
      simp only [true_iff, not_and]
      omega

/-- A stream ends owing padding exactly when it has no CLEAR in its code space, widths beyond the
first, and as many codes as the first width takes. -/
theorem owed_compressTokens (h : Header) (clears : Nat → Bool) (first : UInt8)
    (rest : List UInt8) :
    (((Layout.start h).run h (compressTokens h clears first rest)).owed = 0 ↔
      ¬ (h.blockMode = false ∧ 10 ≤ h.maxbits ∧
        (compressTokens h clears first rest).length = 257)) ∧
    (((Layout.start h).run h (compressTokens h clears first rest)).owed = 0 ∨
      8 ≤ ((Layout.start h).run h (compressTokens h clears first rest)).owed) := by
  cases mode : h.blockMode with
  | true =>
    obtain ⟨tokens, code, ends⟩ := Lzw.encodeFrom_ends h.capacity
      (fun written => h.blockMode && clears written) rest 0 [] [first]
    have paid : ((Layout.start h).run h (compressTokens h clears first rest)).owed = 0 := by
      rw [compressTokens, Lzw.encode, ends, Layout.run, List.foldl_concat]
      exact (Steady.run mode tokens).afterCode.2
    simp [paid]
  | false =>
    have codes : Token.reset ∉ compressTokens h clears first rest :=
      Lzw.reset_notMem_encodeFrom (fun _ => by simp [mode]) rest 0 [] [first]
    rcases run_plain mode _ codes with ⟨few, layout⟩ | ⟨_, _, owes, amount⟩
    · rw [layout]
      simp only [true_iff, true_and, not_and, true_or, and_true]
      omega
    · exact ⟨by rw [owes]; simp, by omega⟩

/-- The decoder on the stream of a byte string: the string, or a truncated stream. -/
theorem decodeBounded_compress (h : Header) (clears : Nat → Bool) (first : UInt8)
    (rest : List UInt8) {limit : Nat} (fits : (first :: rest).length ≤ limit) :
    decodeBounded (compress h clears first rest) limit =
      if h.blockMode = false ∧ 10 ≤ h.maxbits ∧
          (compressTokens h clears first rest).length = 257 then .error (.failed .truncated)
      else .ok (first :: rest) := by
  obtain ⟨owes, amount⟩ := owed_compressTokens h clears first rest
  have decoded : Lzw.decode h.capacity (compressTokens h clears first rest) =
      some (first :: rest) := Lzw.decode_encode _ _ _ _
  have plain : h.blockMode = false → Token.reset ∉ compressTokens h clears first rest :=
    fun mode => Lzw.reset_notMem_encodeFrom (fun _ => by simp [mode]) rest 0 [] [first]
  rw [compress, decodeBounded_header, decodeCodes_layout decoded plain fits amount]
  by_cases paid : ((Layout.start h).run h (compressTokens h clears first rest)).owed = 0
  · rw [if_pos paid, if_neg (owes.mp paid)]
  · rw [if_neg paid, if_pos (not_not.mp (mt owes.mpr paid))]

/-- Decoding undoes encoding, for every limit that admits the string, unless the stream has no
CLEAR in its code space, widths beyond the first, and exactly 257 codes. -/
theorem decode_undoes_compress_iff (h : Header) (clears : Nat → Bool) (first : UInt8)
    (rest : List UInt8) :
    ((∀ limit, (first :: rest).length ≤ limit →
        decodeBounded (compress h clears first rest) limit = .ok (first :: rest)) ∧
      ∀ limit, decodeBounded [] limit = .ok []) ↔
    ¬ (h.blockMode = false ∧ 10 ≤ h.maxbits ∧
      (compressTokens h clears first rest).length = 257) := by
  constructor
  · intro undone stranded
    have result := undone.1 _ (Nat.le_refl _)
    rw [decodeBounded_compress h clears first rest (Nat.le_refl _), if_pos stranded] at result
    contradiction
  · intro whole
    refine ⟨fun limit fits => ?_, fun _ => rfl⟩
    rw [decodeBounded_compress h clears first rest fits, if_neg whole]

/-- Every byte value once and then zero again take 257 codes without CLEAR: the decoder refuses
the stream of these 257 bytes. -/
theorem decode_undoes_compress_fails :
    ¬ ∀ limit, (0 :: ((List.range' 1 255).map UInt8.ofNat ++ [0])).length ≤ limit →
      decodeBounded (compress ⟨false, 10, by decide, by decide⟩ (fun _ => false) 0
        ((List.range' 1 255).map UInt8.ofNat ++ [0])) limit =
          .ok (0 :: ((List.range' 1 255).map UInt8.ofNat ++ [0])) := by
  intro undone
  have result := undone 257 (by simp)
  have codes : (compressTokens ⟨false, 10, by decide, by decide⟩ (fun _ => false) 0
      ((List.range' 1 255).map UInt8.ofNat ++ [0])).length = 257 := by decide +kernel
  rw [decodeBounded_compress _ _ _ _ (by simp), if_pos ⟨rfl, by decide, codes⟩] at result
  contradiction

end Sidereon.UnixCompress
