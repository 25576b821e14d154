import Sidereon.UnixCompress.Limits

/-!
# Truncated archives

The decoder reads the codes of a truncated archive as it reads those of the whole one, as long as
they lie inside what is left. So the runs over a prefix of the data are runs over the data, and a run
over the data whose reading position is still inside the prefix is a run over the prefix. The
padding check at the end is what tells a cut after a code from every other cut.
-/

namespace Sidereon.UnixCompress

open Foundation

section Prefixes

variable {p : Params} {s s' : State} {part more : List UInt8} {rawCode : Nat}

/-- A code inside a prefix of the data is read alike in both. -/
theorem readCode_part {position width : Nat} (inside : position + width ≤ part.length * 8) :
    readCode (part ++ more) ((part ++ more).length * 8) position width =
      readCode part (part.length * 8) position width := by
  have whole : position + width ≤ (part ++ more).length * 8 := by
    rw [List.length_append]
    omega
  have before : position ≤ (bitsOf part).length := by
    rw [bitsOf_length]
    omega
  have within : width ≤ ((bitsOf part).drop position).length := by
    rw [List.length_drop, bitsOf_length]
    omega
  rw [readCode_inside whole, readCode_inside inside, bitsOf_append,
    List.drop_append_of_le_length before, List.take_append_of_le_length within]

/-- Where the literal after a CLEAR is read. -/
def literalPosition (s : State) : Nat :=
  alignToGroup s.cursor.consume.bitPosition s.cursor.consume.codeWidth
    s.cursor.consume.boundaryOffset

/-- A step depends on the data through the literal after a CLEAR only. -/
theorem decodeStep_data (data : List UInt8)
    (same : p.blockMode ∧ rawCode = clear →
      readCode data (data.length * 8) (literalPosition s) initBits =
        readCode p.data p.totalBits (literalPosition s) initBits) :
    decodeStep { p with data } s rawCode = decodeStep p s rawCode := by
  by_cases clearing : p.blockMode ∧ rawCode = clear
  · have read := same clearing
    simp only [literalPosition] at read
    simp only [decodeStep, if_pos clearing, clearCode, Cursor.initial, Params.totalBits]
    simp only [Params.totalBits] at read
    rw [read]
  · simp only [decodeStep, if_neg clearing]
    rfl

/-- The literal after a CLEAR ends where the step ends, and lies inside the data. -/
theorem Step.literal (step : Step p s rawCode s') (clearing : p.blockMode ∧ rawCode = clear) :
    s'.cursor.bitPosition = literalPosition s + initBits ∧
      literalPosition s + initBits ≤ p.totalBits := by
  obtain ⟨-, stepped⟩ := step
  simp only [decodeStep, if_pos clearing] at stepped
  cases clearCode_cases p { s with cursor := s.cursor.consume } with
  | inl refused =>
    obtain ⟨error, -, refuses⟩ := refused
    have same : clearCode p { s with cursor := s.cursor.consume } = _ := refuses p.limit s.out
    rw [same] at stepped
    cases stepped
  | inr cleared =>
    obtain ⟨literal, -, read, clears⟩ := cleared
    have same : clearCode p { s with cursor := s.cursor.consume } = _ := clears p.limit s.out
    rw [same] at stepped
    cases appended : appendStack s.out [UInt8.ofNat literal] p.limit with
    | error stop =>
      rw [appended] at stepped
      cases stepped
    | ok out =>
      rw [appended] at stepped
      cases stepped
      refine ⟨rfl, ?_⟩
      cases readCode_cases p.data (literalPosition s) initBits with
      | inl short =>
        rw [literalPosition, read] at short
        cases short.1
      | inr found =>
        obtain ⟨-, -, -, inside⟩ := found
        exact inside

/-- A step over a prefix of the data is a step over the data. -/
theorem Step.extend (whole : p.data = part ++ more)
    (step : Step { p with data := part } s rawCode s') : Step p s rawCode s' := by
  have read := step.1
  have inside : s.cursor.bitPosition + s.cursor.codeWidth ≤ part.length * 8 := by
    cases readCode_cases part s.cursor.bitPosition s.cursor.codeWidth with
    | inl short =>
      simp only [Params.totalBits, short.1] at read
      cases read
    | inr found =>
      obtain ⟨-, -, -, inside⟩ := found
      exact inside
  constructor
  · rw [Params.totalBits, whole, readCode_part inside]
    exact read
  · rw [← step.2]
    refine (decodeStep_data part fun clearing => ?_).symm
    rw [Params.totalBits, whole, readCode_part (step.literal clearing).2]

/-- A step over the data that ends inside a prefix is a step over the prefix. -/
theorem Step.restrict (valid : p.Valid) (sound : Sound p s) (whole : p.data = part ++ more)
    (step : Step p s rawCode s') (ends : s'.cursor.bitPosition ≤ part.length * 8) :
    Step { p with data := part } s rawCode s' := by
  obtain ⟨-, emitted, next, out, advances, rfl, -⟩ := step.advances valid sound
  have inside : s.cursor.bitPosition + s.cursor.codeWidth ≤ part.length * 8 :=
    le_trans (advances.consumes out) ends
  constructor
  · have read := step.1
    rw [Params.totalBits, whole, readCode_part inside] at read
    exact read
  · rw [← step.2]
    refine decodeStep_data part fun clearing => ?_
    have literal := (step.literal clearing).1
    rw [Params.totalBits, whole, readCode_part (by omega)]

/-- A run over a prefix of the data is a run over the data. -/
theorem run_extend (whole : p.data = part ++ more) {start : State}
    {steps : List (Taken State Nat)} (run : Run (Step { p with data := part }) start steps s) :
    Run (Step p) start steps s := by
  induction run with
  | nil => exact .nil
  | snoc run step ih => exact ih.snoc (step.extend whole)

/-- A run over the data that ends inside a prefix is a run over the prefix. -/
theorem run_restrict (valid : p.Valid) (whole : p.data = part ++ more) {start : State}
    (sound : Sound p start) {steps : List (Taken State Nat)} (run : Run (Step p) start steps s)
    (ends : s.cursor.bitPosition ≤ part.length * 8) :
    Run (Step { p with data := part }) start steps s := by
  induction run with
  | nil => exact .nil
  | snoc run step ih =>
    have before := run_sound valid sound run
    obtain ⟨-, emitted, next, out, advances, rfl, -⟩ := step.advances valid before
    have earlier := advances.further before out
    exact (ih (le_trans earlier.le ends)).snoc (step.restrict valid before whole ends)

end Prefixes

section Archives

variable {input part more : List UInt8} {limit : Nat} {p : Params} {s : State}
  {steps : List (Taken State Nat)}

/-- The archive is cut after a whole code: a run over its codes has got to where the rest is at most
seven zero bits. The position is past the group padding that a width change or a CLEAR calls for. -/
def CutAfterCode (input part : List UInt8) (limit : Nat) : Prop :=
  ∃ p steps s, Runs input limit p steps s ∧ EndsAt (part.drop 3) s.cursor.bitPosition

/-- A run over a truncated archive is a run over the whole one. -/
theorem Runs.extend (runs : Runs input limit p steps s) (more : List UInt8) :
    Runs (input ++ more) limit { p with data := p.data ++ more } steps s := by
  obtain ⟨flags, data, first, out, rfl, valid, rfl, read, literal, pushed, run⟩ := runs
  have inside : 0 + initBits ≤ data.length * 8 := by
    cases readCode_cases data 0 initBits with
    | inl short =>
      simp only [Params.totalBits, paramsOf, short.1] at read
      cases read
    | inr found =>
      obtain ⟨-, -, -, inside⟩ := found
      exact inside
  refine ⟨flags, data ++ more, first, out, rfl, valid, rfl, ?_, literal, pushed, ?_⟩
  · exact (readCode_part inside).trans read
  · exact run_extend (p := paramsOf flags (data ++ more) limit) rfl run

/-- A run over an archive is a run over the part that it stays inside. -/
theorem Runs.restrict (runs : Runs (part ++ more) limit p steps s) (header : 3 ≤ part.length)
    (ends : s.cursor.bitPosition ≤ (part.drop 3).length * 8) :
    Runs part limit { p with data := part.drop 3 } steps s := by
  obtain ⟨flags, data, first, out, shape, valid, rfl, read, literal, pushed, run⟩ := runs
  match part with
  | a :: b :: c :: part =>
    obtain ⟨rfl, rfl, rfl, rfl⟩ : a = magic.1 ∧ b = magic.2 ∧ c = flags ∧ part ++ more = data := by
      simpa using shape
    have valid' : (paramsOf c (part ++ more) limit).Valid := valid
    have start := firstState_sound valid' literal out
    have ended : s.cursor.bitPosition ≤ part.length * 8 := ends
    have length := (run_length valid' start run).2
    have inside : 0 + initBits ≤ part.length * 8 := by
      simp only [firstState, Cursor.consume, Cursor.initial] at length
      omega
    refine ⟨c, part, first, out, rfl, valid, rfl, ?_, literal, pushed, ?_⟩
    · exact (readCode_part inside).symm.trans read
    · exact run_restrict valid' rfl start run ended

/-- What is returned begins with the output of every run. -/
theorem Runs.bytes (runs : Runs input limit p steps s) {value : List UInt8}
    (returned : decodeBounded input limit = .ok value) : s.out.bytes <+: value := by
  have valid := runs.valid
  obtain ⟨flags, data, first, out, rfl, width, rfl, read, literal, pushed, run⟩ := runs
  rw [decodeBounded_codes width] at returned
  exact decodeCodes_bytes valid read literal pushed run returned

/-- A run after which the stream may end is a whole decoding. -/
theorem Runs.returns (runs : Runs input limit p steps s)
    (ends : EndsAt p.data s.cursor.bitPosition) : decodeBounded input limit = .ok s.out.bytes := by
  have valid := runs.valid
  obtain ⟨flags, data, first, out, rfl, width, rfl, read, literal, pushed, run⟩ := runs
  have start := firstState_sound valid literal out
  obtain ⟨fuel, -, goes⟩ := decodeLoop_traced valid start run
  have least := (run_sound valid start run).width.1
  have short : (paramsOf flags data limit).totalBits <
      s.cursor.bitPosition + s.cursor.codeWidth := by
    have few := ends.2.1
    simp only [initBits, Params.totalBits] at least ⊢
    omega
  rw [decodeBounded_codes width, decodeCodes_loop read literal pushed, goes,
    decodeLoop_none (readCode_short short)]
  cases validateTerminalPadding_cases (paramsOf flags data limit).data s.cursor.bitPosition with
  | inl accepted =>
    simp only [Except.map, Except.bind, finish, bind, State.left, Params.totalBits, accepted.1]
  | inr refused => exact absurd ends refused.2

/-- The header of an archive that is decoded is decoded to nothing. -/
theorem decodeBounded_bare {value : List UInt8}
    (returned : decodeBounded (part ++ more) limit = .ok value) (bare : part.length = 3) :
    decodeBounded part limit = .ok [] := by
  obtain ⟨none, -⟩ | ⟨error, -, refused⟩ | ⟨flags, data, shape, width⟩ :=
    decodeBounded_cases (part ++ more) limit
  · rw [(List.append_eq_nil_iff.mp none).1] at bare
    contradiction
  · rw [refused] at returned
    cases returned
  · match part with
    | [a, b, c] =>
      obtain ⟨rfl, rfl, rfl, rfl⟩ : a = magic.1 ∧ b = magic.2 ∧ c = flags ∧ more = data := by
        simpa using shape
      rw [decodeBounded_codes width]
      rfl

end Archives

/-- A truncated archive that is decoded gives the beginning of what the whole one gives. Of an
archive that is decoded, the parts with the header that are decoded too are the header alone and
those cut after a whole code. -/
theorem decodeBounded_truncated (part input : List UInt8) (limit : Nat)
    (truncated : part <+: input) :
    (∀ a b, decodeBounded part limit = .ok a → decodeBounded input limit = .ok b → a <+: b) ∧
      ∀ b, decodeBounded input limit = .ok b → part ≠ input → 3 ≤ part.length →
        ((∃ a, decodeBounded part limit = .ok a) ↔
          part.length = 3 ∨ CutAfterCode input part limit) := by
  obtain ⟨more, rfl⟩ := truncated
  constructor
  · intro a b decoded returned
    obtain ⟨rfl, -⟩ | ⟨p, steps, s, runs, -, -, rfl⟩ := decodeBounded_run decoded
    · exact List.nil_prefix
    · exact (runs.extend more).bytes returned
  · intro b returned strict header
    constructor
    · rintro ⟨a, decoded⟩
      obtain ⟨-, rfl | bare⟩ | ⟨p, steps, s, runs, -, ends, rfl⟩ := decodeBounded_run decoded
      · exact absurd header (by decide)
      · exact .inl bare
      · have data : p.data = part.drop 3 := by
          obtain ⟨flags, data, first, out, rfl, width, rfl, -⟩ := runs
          rfl
        rw [data] at ends
        exact .inr ⟨_, steps, s, runs.extend more, ends⟩
    · rintro (bare | ⟨p, steps, s, runs, ends⟩)
      · exact ⟨[], decodeBounded_bare returned bare⟩
      · exact ⟨_, (runs.restrict header ends.1).returns ends⟩

/-- The second of two codes is cut off where its lower seven bits are zero: the first is decoded. -/
theorem decodeBounded_truncated_two :
    (∃ a, decodeBounded [0x1f, 0x9d, 0x89, 0x61, 0x00] 2 = .ok a ∧ a <+: [0x61, 0x80]) ∧
      CutAfterCode [0x1f, 0x9d, 0x89, 0x61, 0x00, 0x01] [0x1f, 0x9d, 0x89, 0x61, 0x00] 2 := by
  have cut : decodeBounded [0x1f, 0x9d, 0x89, 0x61, 0x00] 2 = .ok [0x61] := by decide +kernel
  have whole : decodeBounded [0x1f, 0x9d, 0x89, 0x61, 0x00, 0x01] 2 = .ok [0x61, 0x80] := by
    decide +kernel
  have truncated := decodeBounded_truncated [0x1f, 0x9d, 0x89, 0x61, 0x00]
    [0x1f, 0x9d, 0x89, 0x61, 0x00, 0x01] 2 (by decide)
  have boundary := (truncated.2 _ whole (by decide) (by decide)).mp ⟨_, cut⟩
  exact ⟨⟨_, cut, truncated.1 _ _ cut whole⟩, boundary.resolve_left (by decide)⟩

end Sidereon.UnixCompress
