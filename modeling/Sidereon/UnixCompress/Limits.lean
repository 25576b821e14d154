import Sidereon.UnixCompress.Safety

/-!
# The limit on the decoder's output

Two runs of the decoder on one input under two limits read the same codes and hold the same bytes
until the smaller limit is reached. So the smaller limit gives the same answer or reports itself,
and it reports itself whenever the larger one lets more bytes through.
-/

namespace Sidereon.UnixCompress

open Foundation

/-- An answer under a smaller limit beside the one under a larger limit: the same, or the limit is
reported where the larger limit gives more bytes or an error. -/
def Cut {α : Type} (limit : Nat) (bytes : α → List UInt8) (cut whole : Except Stop α) : Prop :=
  cut = whole ∨
    cut = .error (.failed .sizeLimit) ∧ ∀ value, whole = .ok value → limit < (bytes value).length

section Outputs

variable {p : Params} {s : State}

/-- The bytes written so far begin the bytes after every further step. -/
theorem run_bytes (valid : p.Valid) {start : State} {steps : List (Taken State Nat)}
    (sound : Sound p start) (run : Run (Step p) start steps s) :
    start.out.bytes <+: s.out.bytes := by
  induction run with
  | nil => exact List.prefix_refl _
  | snoc run step ih =>
    obtain ⟨-, emitted, next, out, advances, rfl, appended⟩ :=
      step.advances valid (run_sound valid sound run)
    rw [advances.appended]
    obtain ⟨-, reached⟩ | ⟨-, capacity, kept, -⟩ := appendStack_cases _ emitted p.limit
    · rw [reached] at appended
      cases appended
    · rw [kept] at appended
      cases appended
      exact ih.trans (List.prefix_append _ _)

/-- An output within the limit, its bytes as well as its capacity. -/
def Output.Within (limit : Nat) (out : Output) : Prop :=
  out.bytes.length ≤ limit ∧ out.capacity ≤ limit

/-- Appending keeps the output within the limit. -/
theorem appendStack_within {out out' : Output} {emitted : List UInt8} {limit : Nat}
    (within : out.Within limit) (appended : appendStack out emitted limit = .ok out') :
    out'.Within limit := by
  obtain ⟨-, reached⟩ | ⟨fits, capacity, kept, requested⟩ := appendStack_cases out emitted limit
  · rw [reached] at appended
    cases appended
  · rw [kept] at appended
    cases appended
    refine ⟨?_, requested within.2⟩
    rw [List.length_append]
    exact fits

/-- Every step keeps the output within the limit. -/
theorem run_within (valid : p.Valid) {start : State} {steps : List (Taken State Nat)}
    (sound : Sound p start) (within : start.out.Within p.limit)
    (run : Run (Step p) start steps s) : s.out.Within p.limit := by
  induction run with
  | nil => exact within
  | snoc run step ih =>
    obtain ⟨-, emitted, next, out, advances, rfl, appended⟩ :=
      step.advances valid (run_sound valid sound run)
    rw [advances.appended]
    exact appendStack_within ih appended

/-- The limit and the output take no part in soundness. -/
theorem Sound.withOutput (sound : Sound p s) (limit : Nat) (out : Output) :
    Sound { p with limit } { s with out } :=
  ⟨sound.parentSize, sound.suffixSize, sound.free, sound.entries, sound.old, sound.width,
    sound.boundary⟩

/-- What the loop leaves to the rest of `decode_codes`. -/
def State.left (s : State) : Nat × List UInt8 := (s.cursor.bitPosition, s.out.bytes)

/-- The bytes of a run that ends with a value begin with those it starts with. -/
theorem decodeLoop_bytes (valid : p.Valid) (sound : Sound p s) {fuel : Nat} {last : State}
    (enough : p.totalBits ≤ s.cursor.bitPosition + fuel)
    (ends : decodeLoop p (fuel + 1) s = .ok last) : s.out.bytes <+: last.out.bytes := by
  obtain ⟨error, failed⟩ | ⟨steps, last', run, ended, -⟩ :=
    decodeLoop_cases valid fuel s sound enough
  · rw [failed] at ends
    cases ends
  · rw [ended] at ends
    cases ends
    exact run_bytes valid sound run

/-- Where no code fits the loop ends under every limit. -/
theorem decodeLoop_ended
    (none : readCode p.data p.totalBits s.cursor.bitPosition s.cursor.codeWidth = .ok none)
    (fuel limit : Nat) (out : Output) :
    decodeLoop { p with limit } (fuel + 1) { s with out } = .ok { s with out } :=
  decodeLoop_none (p := { p with limit }) (s := { s with out }) none fuel

/-- The loop under two limits, from states that differ in the capacity of the output only. -/
theorem decodeLoop_cut (valid : p.Valid) {limit limit' : Nat} (le : limit ≤ limit') (fuel : Nat) :
    ∀ (s : State) (out out' : Output), Sound p s →
      p.totalBits ≤ s.cursor.bitPosition + fuel → out.bytes = out'.bytes →
      Cut limit Prod.snd
        ((decodeLoop { p with limit } (fuel + 1) { s with out }).map State.left)
        ((decodeLoop { p with limit := limit' } (fuel + 1) { s with out := out' }).map
          State.left) := by
  induction fuel with
  | zero =>
    intro s out out' sound enough same
    have width := sound.width.1
    have short : p.totalBits < s.cursor.bitPosition + s.cursor.codeWidth := by
      simp only [initBits] at width
      omega
    left
    rw [decodeLoop_ended (readCode_short short), decodeLoop_ended (readCode_short short)]
    simp only [Except.map, State.left, same]
  | succ fuel ih =>
    intro s out out' sound enough same
    cases readCode_cases p.data s.cursor.bitPosition s.cursor.codeWidth with
    | inl short =>
      left
      rw [decodeLoop_ended short.1, decodeLoop_ended short.1]
      simp only [Except.map, State.left, same]
    | inr found =>
      obtain ⟨rawCode, read, fits, -⟩ := found
      have goes (limit : Nat) (out : Output) :
          decodeLoop { p with limit } (fuel + 1 + 1) { s with out } =
            (decodeStep { p with limit } { s with out } rawCode).bind
              (decodeLoop { p with limit } (fuel + 1)) :=
        decodeLoop_some (p := { p with limit }) (s := { s with out }) read _
      rw [goes, goes]
      obtain ⟨error, -, refuses⟩ | ⟨emitted, next, advances, does⟩ :=
        decodeStep_cases valid sound fits
      · rw [refuses, refuses]
        exact .inl rfl
      · rw [does, does]
        have further (out : Output) : p.totalBits ≤ (next out).cursor.bitPosition + fuel := by
          have step := advances.further sound out
          omega
        have written : out.bytes.length = out'.bytes.length := by rw [same]
        obtain ⟨excess', reached'⟩ | ⟨fits', capacity', kept', -⟩ :=
          appendStack_cases out' emitted limit'
        · -- The larger limit is reached, so the smaller one is too.
          obtain ⟨-, reached⟩ | ⟨fits, -⟩ := appendStack_cases out emitted limit
          · rw [reached, reached']
            exact .inl rfl
          · omega
        · rw [kept']
          obtain ⟨excess, reached⟩ | ⟨-, capacity, kept, -⟩ := appendStack_cases out emitted limit
          · -- Only the smaller limit is reached: the larger one lets more bytes through.
            rw [reached]
            right
            refine ⟨rfl, fun value ends => ?_⟩
            have sound' : Sound { p with limit := limit' }
                (next ⟨out'.bytes ++ emitted, capacity'⟩) :=
              (advances.sound _).withOutput limit' (next _).out
            cases ended : decodeLoop { p with limit := limit' } (fuel + 1)
                (next ⟨out'.bytes ++ emitted, capacity'⟩) with
            | error stop =>
              simp only [Except.map, Except.bind, ended] at ends
              cases ends
            | ok last =>
              simp only [Except.map, Except.bind, ended] at ends
              cases ends
              have kept := decodeLoop_bytes (p := { p with limit := limit' }) valid sound'
                (further _) ended
              have longer := kept.length_le
              rw [advances.appended, List.length_append] at longer
              simp only [State.left]
              omega
          · rw [kept]
            have later := ih (next ⟨out'.bytes ++ emitted, capacity'⟩)
              ⟨out.bytes ++ emitted, capacity⟩ ⟨out'.bytes ++ emitted, capacity'⟩
              (advances.sound _) (further _) (by simp only [same])
            rw [← advances.uniform, ← advances.uniform] at later
            exact later

/-- The end of `decode_codes`: the padding is checked and the bytes are returned. -/
def finish (data : List UInt8) (totalBits : Nat) (left : Nat × List UInt8) :
    Except Stop (List UInt8) := do
  validateTerminalPadding data totalBits left.1
  .ok left.2

/-- The check at the end changes neither bytes nor limits. -/
theorem Cut.finish {limit : Nat} {cut whole : Except Stop (Nat × List UInt8)} {data : List UInt8}
    {totalBits : Nat} (loops : Cut limit Prod.snd cut whole) :
    Cut limit id (cut.bind (UnixCompress.finish data totalBits))
      (whole.bind (UnixCompress.finish data totalBits)) := by
  obtain same | ⟨reached, longer⟩ := loops
  · rw [same]
    exact .inl rfl
  · rw [reached]
    right
    refine ⟨rfl, fun value ends => ?_⟩
    cases whole with
    | error stop => cases ends
    | ok left =>
      have bytes := longer left rfl
      simp only [Except.bind, UnixCompress.finish, bind] at ends
      cases checked : validateTerminalPadding data totalBits left.1 with
      | error stop =>
        rw [checked] at ends
        cases ends
      | ok _ =>
        rw [checked] at ends
        cases ends
        exact bytes

/-- After the first literal `decode_codes` runs its loop and checks the padding. -/
theorem decodeCodes_loop {first : Nat} {out : Output}
    (read : readCode p.data p.totalBits 0 initBits = .ok (some first)) (literal : first < 256)
    (pushed : pushOutput .empty (UInt8.ofNat first) p.limit = .ok out) :
    decodeCodes p = ((decodeLoop p (p.totalBits + 1) (firstState p first out)).map State.left).bind
      (finish p.data p.totalBits) := by
  have byte : ¬ first ≥ 256 := Nat.not_le.mpr literal
  simp only [decodeCodes, read, bind, Except.bind, if_neg byte, pushed]
  cases decodeLoop p (p.totalBits + 1) (firstState p first out) <;> rfl

/-- What `decode_codes` returns begins with the output of every run of its loop. -/
theorem decodeCodes_bytes (valid : p.Valid) {first : Nat} {out : Output} {value : List UInt8}
    (read : readCode p.data p.totalBits 0 initBits = .ok (some first)) (literal : first < 256)
    (pushed : pushOutput .empty (UInt8.ofNat first) p.limit = .ok out)
    {steps : List (Taken State Nat)} (run : Run (Step p) (firstState p first out) steps s)
    (returned : decodeCodes p = .ok value) : s.out.bytes <+: value := by
  have start := firstState_sound valid literal out
  obtain ⟨fuel, enough, goes⟩ := decodeLoop_traced valid start run
  rw [decodeCodes_loop read literal pushed, goes] at returned
  cases ended : decodeLoop p (fuel + 1) s with
  | error stop =>
    rw [ended] at returned
    cases returned
  | ok last =>
    have kept := decodeLoop_bytes valid (run_sound valid start run) enough ended
    rw [ended] at returned
    simp only [Except.map, Except.bind, finish, bind] at returned
    cases checked : validateTerminalPadding p.data p.totalBits last.left.1 with
    | error stop =>
      rw [checked] at returned
      cases returned
    | ok _ =>
      rw [checked] at returned
      cases returned
      exact kept

/-- `decode_codes` under two limits. -/
theorem decodeCodes_cut (valid : p.Valid) {limit limit' : Nat} (le : limit ≤ limit') :
    Cut limit id (decodeCodes { p with limit }) (decodeCodes { p with limit := limit' }) := by
  cases readCode_cases p.data 0 initBits with
  | inl short =>
    have none (limit : Nat) : decodeCodes { p with limit } =
        if p.totalBits = 0 then .ok [] else .error (.failed .truncated) := by
      simp only [decodeCodes, Params.totalBits, short.1]
      rfl
    left
    rw [none, none]
  | inr found =>
    obtain ⟨first, read, -, -⟩ := found
    by_cases literal : first < 256
    · have refused (limit : Nat)
          (reached : appendStack .empty [UInt8.ofNat first] limit = .error (.failed .sizeLimit)) :
          decodeCodes { p with limit } = .error (.failed .sizeLimit) := by
        simp only [decodeCodes, Params.totalBits, read, bind, Except.bind,
          if_neg (Nat.not_le.mpr literal), ge_iff_le, pushOutput_eq, reached]
      have loops (limit : Nat) {out : Output}
          (pushed : appendStack .empty [UInt8.ofNat first] limit = .ok out) :=
        decodeCodes_loop (p := { p with limit }) read literal pushed
      obtain ⟨excess', reached'⟩ | ⟨fits', capacity', kept', -⟩ :=
        appendStack_cases .empty [UInt8.ofNat first] limit'
      · left
        obtain ⟨-, reached⟩ | ⟨fits, -⟩ := appendStack_cases .empty [UInt8.ofNat first] limit
        · rw [refused limit reached, refused limit' reached']
        · exact absurd (le_trans fits le) (Nat.not_le.mpr excess')
      · have sound (limit : Nat) (out : Output) :
            Sound { p with limit } (firstState { p with limit } first out) :=
          firstState_sound (p := { p with limit }) valid literal out
        rw [loops limit' kept']
        obtain ⟨excess, reached⟩ | ⟨-, capacity, kept, -⟩ :=
          appendStack_cases .empty [UInt8.ofNat first] limit
        · rw [refused limit reached, ← loops limit' kept']
          right
          refine ⟨rfl, fun value returned => ?_⟩
          have longer := (decodeCodes_bytes (p := { p with limit := limit' }) valid read literal
            kept' .nil returned).length_le
          exact lt_of_lt_of_le excess longer
        · rw [loops limit kept]
          have cut := decodeLoop_cut valid le p.totalBits
            (firstState p first ⟨Output.empty.bytes ++ [UInt8.ofNat first], capacity'⟩)
            ⟨Output.empty.bytes ++ [UInt8.ofNat first], capacity⟩
            ⟨Output.empty.bytes ++ [UInt8.ofNat first], capacity'⟩
            (firstState_sound valid literal _) (Nat.le_add_left _ _) rfl
          exact cut.finish
    · have refused (limit : Nat) :
          decodeCodes { p with limit } = .error (.failed .invalidCode) := by
        simp only [decodeCodes, Params.totalBits, read, bind, Except.bind,
          if_pos (Nat.not_lt.mp literal), ge_iff_le]
      left
      rw [refused, refused]

end Outputs

/-- `decode_bounded` under two limits. -/
theorem decodeBounded_cut (input : List UInt8) {limit limit' : Nat} (le : limit ≤ limit') :
    Cut limit id (decodeBounded input limit) (decodeBounded input limit') := by
  obtain ⟨rfl, -⟩ | ⟨error, -, refused⟩ | ⟨flags, data, rfl, valid⟩ :=
    decodeBounded_cases input limit
  · exact .inl rfl
  · left
    rw [refused, refused]
  · rw [decodeBounded_codes valid, decodeBounded_codes valid]
    exact decodeCodes_cut (p := paramsOf flags data limit) valid le

/-- The output in every state of a run is within the limit. -/
theorem Runs.within {input : List UInt8} {limit : Nat} {p : Params}
    {steps : List (Taken State Nat)} {s : State} (runs : Runs input limit p steps s) :
    s.out.Within limit := by
  have valid := runs.valid
  obtain ⟨flags, data, first, out, -, -, rfl, -, literal, pushed, run⟩ := runs
  rw [pushOutput_eq] at pushed
  have empty : Output.empty.Within limit := ⟨Nat.zero_le limit, Nat.zero_le limit⟩
  have start : out.Within limit := appendStack_within empty pushed
  exact run_within valid (firstState_sound valid literal out) start run

/-- The bytes that `decode_bounded` returns are within the limit. -/
theorem decodeBounded_within {input : List UInt8} {limit : Nat} {value : List UInt8}
    (returned : decodeBounded input limit = .ok value) : value.length ≤ limit := by
  obtain ⟨rfl, -⟩ | ⟨p, steps, s, runs, -, -, rfl⟩ := decodeBounded_run returned
  · exact Nat.zero_le _
  · exact runs.within.1

/-- The limit bounds the output in every state of a run, and it decides nothing but whether the
decoder answers: an answer is the same under every larger limit, and an answer under a larger limit
that is too long is refused for its size. -/
theorem decodeBounded_limit (input : List UInt8) (limit limit' : Nat) (le : limit ≤ limit') :
    (∀ value, decodeBounded input limit = .ok value →
      value.length ≤ limit ∧ decodeBounded input limit' = .ok value) ∧
    (∀ value, decodeBounded input limit' = .ok value → limit < value.length →
      decodeBounded input limit = .error (.failed .sizeLimit)) ∧
    ∀ p steps s, Runs input limit p steps s →
      s.out.bytes.length ≤ limit ∧ s.out.capacity ≤ limit := by
  have cut := decodeBounded_cut input le
  refine ⟨fun value returned => ⟨decodeBounded_within returned, ?_⟩,
    fun value returned longer => ?_, fun p steps s runs => runs.within⟩
  · cases cut with
    | inl same => rwa [← same]
    | inr reached =>
      rw [reached.1] at returned
      cases returned
  · cases cut with
    | inl same =>
      rw [← same] at returned
      exact absurd (decodeBounded_within returned) (Nat.not_le.mpr longer)
    | inr reached => exact reached.1

/-- Three bytes are returned under the limits three and four, and refused under the limit two. -/
theorem decodeBounded_limit_three :
    decodeBounded [0x1f, 0x9d, 0x89, 0x61, 0x02, 0x02] 4 = .ok [0x61, 0x61, 0x61] ∧
      decodeBounded [0x1f, 0x9d, 0x89, 0x61, 0x02, 0x02] 2 = .error (.failed .sizeLimit) := by
  have three : decodeBounded [0x1f, 0x9d, 0x89, 0x61, 0x02, 0x02] 3 = .ok [0x61, 0x61, 0x61] := by
    decide +kernel
  have larger := decodeBounded_limit [0x1f, 0x9d, 0x89, 0x61, 0x02, 0x02] 3 4 (by decide)
  have smaller := decodeBounded_limit [0x1f, 0x9d, 0x89, 0x61, 0x02, 0x02] 2 3 (by decide)
  exact ⟨(larger.1 _ three).2, smaller.2.1 _ three (by decide)⟩

end Sidereon.UnixCompress
