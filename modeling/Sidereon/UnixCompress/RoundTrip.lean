import Sidereon.UnixCompress.Positions

/-!
# What the decoder returns on a reference stream

On the stream of a byte string the decoder recovers the string and ends past the last code and
whatever the layout still owes. Nothing is written for what is owed after the last code, so the
terminal padding check accepts exactly the streams that end owing nothing.
-/

namespace Sidereon.UnixCompress

open Foundation
open Foundation.Lzw (Code Token)

/-- The arrays and cursor of a decoder follow a phrase decoder and a layout. -/
structure Follows (h : Header) (s : State) (d : Lzw.Decoder UInt8) (l : Layout) : Prop where
  denotes : Denotes h s d
  placed : Placed h s.cursor s.freeEntry l

/-- A code the phrase decoder accepts is expanded and leaves the cursor past what is then owed. -/
theorem Follows.code {h : Header} {s : State} {d : Lzw.Decoder UInt8} {l : Layout}
    (follows : Follows h s d l) (data : List UInt8) (limit : Nat) {code : Code UInt8}
    {head : UInt8} {tail : List UInt8}
    (named : d.phrase? h.capacity code = some (head :: tail))
    (fits : s.out.bytes.length + (head :: tail).length ≤ limit) :
    ∃ s', decodeStep (h.params data limit) s (h.number code) = .ok s' ∧
      Follows h s' (d.advance h.capacity head tail) (l.afterCode h) ∧
      s'.out.bytes = s.out.bytes ++ head :: tail ∧
      s'.cursor.bitPosition = s.cursor.bitPosition + l.width + (l.afterCode h).owed := by
  have denotes : Denotes h { s with cursor := s.cursor.consume } d :=
    ⟨follows.denotes.spells, follows.denotes.free, follows.denotes.room, follows.denotes.old,
      follows.denotes.final⟩
  obtain ⟨s', expanded, after, bytes, cursor⟩ :=
    denotes.expandCode_ok data named fits
  have total := h.firstFree_capacity
  have free := follows.denotes.free
  have room := follows.denotes.room
  have kept := Lzw.grow_length (d.last ++ [head]) room
  have next : s'.freeEntry = h.firstFree + min (d.table.length + 1) h.capacity := by
    rw [← kept]
    exact after.free
  obtain ⟨placed, position⟩ := follows.placed.expand data limit s'.freeEntry
    (by omega) (by omega)
  refine ⟨s', ?_, ⟨after, ?_⟩, bytes, ?_⟩
  · have plain : ¬ ((h.params data limit).blockMode = true ∧ h.number code = clear) :=
      fun ⟨block, cleared⟩ => h.number_ne_clear code block cleared
    rw [decodeStep, if_neg plain, expanded]
  · rw [cursor]
    exact placed
  · rw [cursor]
    exact position

/-- The empty table is spelled by any arrays of the table size. -/
theorem Spells.empty {h : Header} {parent : List Nat} {suffix : List UInt8}
    (parentSize : parent.length = h.tableSize) (suffixSize : suffix.length = h.tableSize) :
    Spells h parent suffix [] :=
  ⟨parentSize, suffixSize, fun _ _ found => by simp at found⟩

/-- A CLEAR followed by a literal starts a new table at the first width. -/
theorem Follows.clear {h : Header} {s : State} {d : Lzw.Decoder UInt8} {l : Layout}
    (follows : Follows h s d l) (block : h.blockMode = true) {data : List UInt8} (limit : Nat)
    {byte : UInt8} {done tail : List Bool}
    (written : bitsOf data = done ++ lsbBits initBits byte.toNat ++ tail)
    (position : s.cursor.bitPosition + l.width + (l.afterClear h).owed = done.length)
    (fits : s.out.bytes.length + 1 ≤ limit) :
    ∃ s', decodeStep (h.params data limit) s clear = .ok s' ∧
      Follows h s' ⟨[], byte, []⟩ ((l.afterClear h).afterCode h) ∧
      s'.out.bytes = s.out.bytes ++ [byte] ∧
      s'.cursor.bitPosition = done.length + initBits := by
  obtain ⟨capacity, pushed⟩ := pushOutput_ok s.out byte fits
  have aligned := follows.placed.align
  rw [show groupPadding l.width (l.written + 1) = (l.afterClear h).owed from rfl,
    position] at aligned
  have small := byte.toNat_lt
  have read := readCode_written written (by simp only [initBits]; omega)
  have first : h.firstFree = UnixCompress.clear + 1 := by simp [Header.firstFree, block]
  obtain ⟨placed, _⟩ := Placed.initial (h := h) done.length (l := l.afterClear h) ⟨rfl, rfl, rfl⟩
  refine ⟨{ s with
      freeEntry := UnixCompress.clear + 1
      cursor := (Cursor.initial done.length).consume
      oldCode := byte.toNat
      finalCharacter := byte
      out := ⟨s.out.bytes ++ [byte], capacity⟩ }, ?_, ⟨⟨?_, first.symm, Nat.zero_le _, ?_, rfl⟩, ?_⟩,
    rfl, rfl⟩
  · have cleared : (h.params data limit).blockMode = true ∧
        UnixCompress.clear = UnixCompress.clear := ⟨block, rfl⟩
    have literal : UInt8.ofNat byte.toNat = byte := UInt8.ofNat_toNat
    rw [decodeStep, if_pos cleared, clearCode]
    simp only [aligned, Cursor.initial]
    rw [show (h.params data limit).data = data from rfl,
      show (h.params data limit).totalBits = data.length * 8 from rfl, read]
    simp only [bind, Except.bind, if_neg (Nat.not_le.mpr small), literal]
    rw [show (h.params data limit).limit = limit from rfl, pushed]
  · exact Spells.empty follows.denotes.spells.parentSize follows.denotes.spells.suffixSize
  · exact Or.inl ⟨byte, rfl, rfl⟩
  · rw [← first]
    exact placed

/-- The loop over a laid out token list: it appends what the phrase decoder decodes and stops past
the bits written and the bits still owed. -/
theorem decodeLoop_run {h : Header} {data : List UInt8} (limit : Nat) {fill : Nat}
    (short : fill < 8) (fuel : Nat) :
    ∀ (tokens : List (Token UInt8)) (s : State) (d : Lzw.Decoder UInt8) (l : Layout)
      (done : List Bool) (output : List UInt8),
      tokens.length < fuel → Follows h s d l →
      Lzw.decodeFrom h.capacity (some d) tokens = some output →
      (h.blockMode = false → Token.reset ∉ tokens) →
      bitsOf data = done ++ layoutBits h l tokens ++ List.replicate fill false →
      s.cursor.bitPosition = done.length + l.owed →
      s.out.bytes.length + output.length ≤ limit →
      ∃ s', decodeLoop (h.params data limit) fuel s = .ok s' ∧
        s'.out.bytes = s.out.bytes ++ output ∧
        s'.cursor.bitPosition =
          done.length + (layoutBits h l tokens).length + (l.run h tokens).owed := by
  induction fuel with
  | zero => intro tokens s d l done output few; omega
  | succ fuel ih =>
    intro tokens s d l done output few follows decoded plain bits position fits
    have atLeast := follows.placed.atLeast
    have width := follows.placed.width
    simp only [initBits] at atLeast
    have read : ∀ token later, tokens = token :: later → h.tokenNumber token < 2 ^ l.width →
        readCode data (data.length * 8) s.cursor.bitPosition s.cursor.codeWidth =
          .ok (some (h.tokenNumber token)) := by
      intro token later split inside
      rw [split, layoutBits] at bits
      have written : bitsOf data = (done ++ List.replicate l.owed false) ++
          lsbBits l.width (h.tokenNumber token) ++
          (layoutBits h (l.after h token) later ++ List.replicate fill false) := by
        rw [bits]
        simp only [List.append_assoc]
      have code := readCode_written written inside
      rwa [List.length_append, List.length_replicate, ← position, ← width] at code
    cases tokens with
    | nil =>
      simp only [Lzw.decodeFrom, Option.some.injEq] at decoded
      have total := congrArg List.length bits
      simp only [layoutBits, List.append_nil, bitsOf_length, List.length_append,
        List.length_replicate] at total
      have ended : readCode data (data.length * 8) s.cursor.bitPosition s.cursor.codeWidth =
          .ok none := readCode_short (by omega)
      refine ⟨s, ?_, by simp [← decoded], by simpa [layoutBits, Layout.run] using position⟩
      rw [decodeLoop, show (h.params data limit).data = data from rfl,
        show (h.params data limit).totalBits = data.length * 8 from rfl, ended]
      rfl
    | cons token tokens =>
      cases token with
      | code code =>
        obtain ⟨head, tail, later, named, rest, rfl⟩ := Lzw.decodeFrom_code_inv decoded
        obtain ⟨_, _, names⟩ := follows.denotes.unwind_code named
        have inside : h.number code < 2 ^ l.width :=
          follows.placed.number_lt follows.denotes.free follows.denotes.room names
        simp only [List.length_append] at fits
        obtain ⟨s', stepped, follows', bytes, moved⟩ :=
          follows.code data limit named (by omega)
        obtain ⟨s'', looped, bytes', ended⟩ := ih tokens s' _ (l.afterCode h)
          (done ++ List.replicate l.owed false ++ lsbBits l.width (h.number code)) later
          (by simpa using few) follows' rest
          (fun mode member => plain mode (List.mem_cons_of_mem _ member))
          (by rw [bits, layoutBits]; simp only [List.append_assoc]; rfl)
          (by
            simp only [List.length_append, List.length_replicate, lsbBits_length]
            omega)
          (by rw [bytes, List.length_append]; omega)
        refine ⟨s'', ?_, by rw [bytes', bytes, List.append_assoc], ?_⟩
        · rw [decodeLoop, show (h.params data limit).data = data from rfl,
            show (h.params data limit).totalBits = data.length * 8 from rfl,
            read _ _ rfl inside]
          simp only [bind, Except.bind, Header.tokenNumber, stepped]
          exact looped
        · rw [ended]
          simp only [layoutBits, List.length_append, List.length_replicate, lsbBits_length]
          rw [show l.run h (.code code :: tokens) = (l.afterCode h).run h tokens from rfl,
            show l.after h (.code code) = l.afterCode h from rfl]
          omega
      | reset =>
        have block : h.blockMode = true := by
          cases mode : h.blockMode with
          | true => rfl
          | false => exact absurd List.mem_cons_self (plain mode)
        have inside : UnixCompress.clear < 2 ^ l.width := follows.placed.clear_lt
        cases tokens with
        | nil => simp [Lzw.decodeFrom] at decoded
        | cons next tokens =>
          cases next with
          | reset => simp [Lzw.decodeFrom] at decoded
          | code code =>
            obtain ⟨byte, later, rfl, rest, rfl⟩ := Lzw.decodeFrom_start_inv decoded
            simp only [List.length_cons] at fits few
            have written : bitsOf data =
                (done ++ List.replicate l.owed false ++ lsbBits l.width UnixCompress.clear ++
                  List.replicate (l.afterClear h).owed false) ++ lsbBits initBits byte.toNat ++
                (layoutBits h ((l.afterClear h).afterCode h) tokens ++
                  List.replicate fill false) := by
              rw [bits, layoutBits, layoutBits]
              simp only [List.append_assoc]
              rfl
            obtain ⟨s', stepped, follows', bytes, moved⟩ :=
              follows.clear block limit written
                (by
                  simp only [List.length_append, List.length_replicate, lsbBits_length]
                  omega)
                (by omega)
            have owing := (Placed.initial (h := h) 0 (l := l.afterClear h) ⟨rfl, rfl, rfl⟩).2
            obtain ⟨s'', looped, bytes', ended⟩ := ih tokens s' _ ((l.afterClear h).afterCode h)
              _ later (by omega) follows' rest
              (fun mode _ => by simp [block] at mode)
              (by rw [written, ← List.append_assoc])
              (by
                rw [moved, owing]
                simp only [List.length_append, lsbBits_length]
                omega)
              (by rw [bytes, List.length_append, List.length_singleton]; omega)
            refine ⟨s'', ?_, by rw [bytes', bytes]; simp, ?_⟩
            · rw [decodeLoop, show (h.params data limit).data = data from rfl,
                show (h.params data limit).totalBits = data.length * 8 from rfl,
                read _ _ rfl inside]
              simp only [bind, Except.bind, Header.tokenNumber, stepped]
              exact looped
            · rw [ended]
              simp only [layoutBits, List.length_append, List.length_replicate, lsbBits_length]
              rw [show l.run h (.reset :: .code (.literal byte) :: tokens) =
                  ((l.afterClear h).afterCode h).run h tokens from rfl,
                show l.after h .reset = l.afterClear h from rfl,
                show (l.afterClear h).after h (.code (.literal byte)) =
                  (l.afterClear h).afterCode h from rfl,
                show (l.afterClear h).width = initBits from rfl]
              omega

/-- The header byte gives the mode and the width back. -/
theorem Header.flags_mode (h : Header) :
    (decide ((h.flags &&& blockModeFlag) ≠ 0) = h.blockMode) ∧
      (h.flags &&& maxbitsMask).toNat = h.maxbits := by
  have cases : h.maxbits ∈ [9, 10, 11, 12, 13, 14, 15, 16] := by
    have atLeast := h.atLeast
    have atMost := h.atMost
    simp only [initBits, maxMaxbits] at atLeast atMost
    simp only [List.mem_cons, List.not_mem_nil, or_false]
    omega
  have table : ∀ maxbits ∈ [9, 10, 11, 12, 13, 14, 15, 16], ∀ mode : Bool,
      decide ((UInt8.ofNat maxbits ||| (if mode then blockModeFlag else 0)) &&&
        blockModeFlag ≠ 0) = mode ∧
      ((UInt8.ofNat maxbits ||| (if mode then blockModeFlag else 0)) &&&
        maxbitsMask).toNat = maxbits := by decide
  exact table h.maxbits cases h.blockMode

/-- Past the header the decoder runs on the codes. -/
theorem decodeBounded_header (h : Header) (data : List UInt8) (limit : Nat) :
    decodeBounded ([magic.1, magic.2, h.flags] ++ data) limit =
      decodeCodes (h.params data limit) := by
  obtain ⟨mode, width⟩ := h.flags_mode
  have range : initBits ≤ (h.flags &&& maxbitsMask).toNat ∧
      (h.flags &&& maxbitsMask).toNat ≤ maxMaxbits := by
    rw [width]
    exact ⟨h.atLeast, h.atMost⟩
  simp only [decodeBounded, List.cons_append, List.nil_append, ne_eq, not_true_eq_false, or_self,
    ↓reduceIte, range, and_self, Header.params]
  rw [width]
  congr 1
  simp only [Params.mk.injEq, true_and, and_true]
  simpa using mode

/-- The state after the first literal follows a phrase decoder that has only read it. -/
theorem Follows.first (h : Header) (data : List UInt8) (limit : Nat) (byte : UInt8)
    (out : Output) :
    Follows h (firstState (h.params data limit) byte.toNat out) ⟨[], byte, []⟩
      ((Layout.start h).afterCode h) where
  denotes :=
    { spells := Spells.empty (by simp [firstState]) (by simp [firstState])
      free := rfl
      room := Nat.zero_le _
      old := Or.inl ⟨byte, rfl, rfl⟩
      final := UInt8.ofNat_toNat }
  placed := (Placed.initial 0 ⟨rfl, rfl, rfl⟩).1

/-- Every token takes at least one bit. -/
theorem length_le_layoutBits (h : Header) (tokens : List (Token UInt8)) :
    ∀ l : Layout, initBits ≤ l.width → tokens.length ≤ (layoutBits h l tokens).length := by
  induction tokens with
  | nil => intro _ _; simp
  | cons token tokens ih =>
    intro l atLeast
    have kept : initBits ≤ (l.after h token).width := by
      cases token with
      | code code =>
        simp only [Layout.after, Layout.afterCode]
        split
        · exact Nat.le_succ_of_le atLeast
        · exact atLeast
      | reset => exact Nat.le_refl _
    have later := ih (l.after h token) kept
    simp only [initBits] at atLeast
    simp only [layoutBits, List.length_cons, List.length_append, List.length_replicate,
      lsbBits_length]
    omega

/-- The decoder on codes the phrase decoder accepts: it reads them all, and what it returns is
decided by whether the layout owes anything after the last one. -/
theorem decodeCodes_layout {h : Header} {tokens : List (Token UInt8)} {output : List UInt8}
    (decoded : Lzw.decode h.capacity tokens = some output)
    (plain : h.blockMode = false → Token.reset ∉ tokens) {limit : Nat}
    (fits : output.length ≤ limit)
    (owes : ((Layout.start h).run h tokens).owed = 0 ∨
      8 ≤ ((Layout.start h).run h tokens).owed) :
    decodeCodes (h.params (packBits (layoutBits h (Layout.start h) tokens)) limit) =
      if ((Layout.start h).run h tokens).owed = 0 then .ok output
      else .error (.failed .truncated) := by
  generalize packed : packBits (layoutBits h (Layout.start h) tokens) = data
  have short := fillBits_lt (layoutBits h (Layout.start h) tokens).length
  have bits := bitsOf_packBits (layoutBits h (Layout.start h) tokens)
  rw [packed] at bits
  generalize fillBits (layoutBits h (Layout.start h) tokens).length = fill at short bits
  rw [Lzw.decode] at decoded
  cases tokens with
  | nil => simp [Lzw.decodeFrom] at decoded
  | cons token tokens =>
    cases token with
    | reset => simp [Lzw.decodeFrom] at decoded
    | code code =>
      obtain ⟨byte, later, rfl, rest, rfl⟩ := Lzw.decodeFrom_start_inv decoded
      have small := byte.toNat_lt
      have owing := (Placed.initial (h := h) 0 (l := Layout.start h) ⟨rfl, rfl, rfl⟩).2
      simp only [List.length_cons] at fits
      have written : bitsOf data = [] ++ lsbBits initBits byte.toNat ++
          (layoutBits h ((Layout.start h).afterCode h) tokens ++ List.replicate fill false) := by
        rw [bits, layoutBits]
        simp only [List.append_assoc]
        rfl
      have read := readCode_written written (by simp only [initBits]; omega)
      obtain ⟨capacity, pushed⟩ := pushOutput_ok .empty byte
        (show Output.empty.bytes.length + 1 ≤ limit by
          simp only [Output.empty, List.length_nil]; omega)
      have wide := length_le_layoutBits h tokens ((Layout.start h).afterCode h)
        (Placed.initial 0 (l := Layout.start h) ⟨rfl, rfl, rfl⟩).1.atLeast
      have total := congrArg List.length written
      simp only [bitsOf_length, List.length_append, List.length_replicate, lsbBits_length,
        List.length_nil, initBits] at total
      obtain ⟨s, looped, bytes, ended⟩ := decodeLoop_run limit short
        (data.length * 8 + 1) tokens _ _ _ (lsbBits initBits byte.toNat) later (by omega)
        (Follows.first h data limit byte ⟨[] ++ [byte], capacity⟩) rest
        (fun mode member => plain mode (List.mem_cons_of_mem _ member))
        (by rw [written]; simp only [List.nil_append, List.append_assoc])
        (by
          rw [owing, lsbBits_length]
          rfl)
        (by
          simp only [firstState, List.nil_append, List.length_singleton]
          omega)
      rw [show (Layout.start h).run h (.code (.literal byte) :: tokens) =
        ((Layout.start h).afterCode h).run h tokens from rfl] at owes ⊢
      have result : decodeCodes (h.params data limit) =
          (validateTerminalPadding data (data.length * 8) s.cursor.bitPosition).map
            fun _ => byte :: later := by
        have literal : UInt8.ofNat byte.toNat = byte := UInt8.ofNat_toNat
        rw [decodeCodes, show (h.params data limit).data = data from rfl,
          show (h.params data limit).totalBits = data.length * 8 from rfl,
          show readCode data (data.length * 8) 0 initBits = .ok (some byte.toNat) from read]
        simp only [bind, Except.bind, ge_iff_le, if_neg (Nat.not_le.mpr small), literal]
        rw [show (h.params data limit).limit = limit from rfl, pushed]
        simp only [Output.empty]
        rw [looped]
        simp only [bytes, firstState, List.nil_append, List.singleton_append]
        cases validateTerminalPadding data (data.length * 8) s.cursor.bitPosition with
        | ok _ => rfl
        | error _ => rfl
      rw [result, ended]
      split
      · rename_i paid
        rw [paid, Nat.add_zero, ← List.length_append, validateTerminalPadding_ok _ short]
        · rfl
        · rw [written]
          simp only [List.nil_append, List.append_assoc]
      · rw [validateTerminalPadding_past]
        · rfl
        · simp only [lsbBits_length, initBits]
          omega

end Sidereon.UnixCompress
