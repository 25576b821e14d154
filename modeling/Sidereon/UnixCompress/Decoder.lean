import Mathlib.Data.List.Basic

/-!
# The size-bounded `.Z` decoder

`unix_compress.rs`, function by function. A slice index out of range is a panic, and the two loops
run on fuel, so a panic and a run without end are outcomes of their own beside the decoder's
errors. Lengths and bit positions are exact numbers: a sum past the machine word also exceeds the
limit it is compared with, which is what `checked_add` reports, and `saturating_mul` is cut by that
limit again. The allocator is taken to serve every request the decoder makes.
-/

namespace Sidereon.UnixCompress

/-- `DecodeError`. -/
inductive DecodeError where
  | badMagic
  | badMaxBits
  | invalidCode
  | truncated
  | sizeLimit
  deriving DecidableEq, Repr

/-- Every way a decoder call ends without a value. -/
inductive Stop where
  /-- The call returned an error. -/
  | failed (error : DecodeError)
  /-- An index was out of range. -/
  | panicked
  /-- A loop was still running when its fuel was spent. -/
  | outOfFuel
  deriving DecidableEq, Repr

/-- `MAGIC`. -/
def magic : UInt8 × UInt8 := (0x1f, 0x9d)
/-- `BLOCK_MODE_FLAG`. -/
def blockModeFlag : UInt8 := 0x80
/-- `MAXBITS_MASK`. -/
def maxbitsMask : UInt8 := 0x1f
/-- `INIT_BITS`. -/
def initBits : Nat := 9
/-- `MAX_MAXBITS`. -/
def maxMaxbits : Nat := 16
/-- `CLEAR`. -/
def clear : Nat := 256

/-- Slice indexing. -/
def index {α : Type} (items : List α) (i : Nat) : Except Stop α :=
  match items[i]? with
  | some item => .ok item
  | none => .error .panicked

/-- Assignment through a slice index. -/
def store {α : Type} (items : List α) (i : Nat) (item : α) : Except Stop (List α) :=
  if i < items.length then .ok (items.set i item) else .error .panicked

/-- The bit at an absolute position, as zero or one. -/
def bitAt (data : List UInt8) (position : Nat) : Except Stop Nat := do
  let byte ← index data (position >>> 3)
  .ok ((byte.toNat >>> (position &&& 7)) &&& 1)

/-- The loop of `read_code` with bits `i` to `i + remaining` still to read. -/
def readCodeLoop (data : List UInt8) (bitpos i code : Nat) : Nat → Except Stop Nat
  | 0 => .ok code
  | remaining + 1 => do
    let bit ← bitAt data (bitpos + i)
    readCodeLoop data bitpos (i + 1) (code ||| bit <<< i) remaining

/-- `read_code`: no code when fewer than `nBits` bits remain. -/
def readCode (data : List UInt8) (totalBits bitpos nBits : Nat) : Except Stop (Option Nat) :=
  if bitpos + nBits > totalBits then .ok none
  else (readCodeLoop data bitpos 0 0 nBits).map some

/-- The loop of `validate_terminal_padding` over the next `remaining` positions. -/
def zeroPadding (data : List UInt8) (position : Nat) : Nat → Except Stop Unit
  | 0 => .ok ()
  | remaining + 1 => do
    let bit ← bitAt data position
    if bit ≠ 0 then .error (.failed .truncated)
    else zeroPadding data (position + 1) remaining

/-- `validate_terminal_padding`. -/
def validateTerminalPadding (data : List UInt8) (totalBits bitpos : Nat) : Except Stop Unit :=
  if totalBits < bitpos then .error (.failed .truncated)
  else if totalBits - bitpos > 7 then .error (.failed .truncated)
  else zeroPadding data bitpos (totalBits - bitpos)

/-- `align_to_group`: the next boundary of eight codes of the given width after the last one. -/
def alignToGroup (bitpos nBits boundaryOffset : Nat) : Nat :=
  let groupBits := nBits * 8
  let previous := bitpos - 1
  let relative := previous - boundaryOffset
  let padding := groupBits - (relative + groupBits) % groupBits
  previous + padding

/-- The output vector: its bytes and the capacity requested for it. -/
structure Output where
  bytes : List UInt8
  capacity : Nat
  deriving DecidableEq, Repr

/-- `Vec::new`. -/
def Output.empty : Output := ⟨[], 0⟩

/-- `reserve_output`. -/
def reserveOutput (out : Output) (additional limit : Nat) : Except Stop Output :=
  let newLen := out.bytes.length + additional
  if newLen > limit then .error (.failed .sizeLimit)
  else if newLen > out.capacity then
    let initialChunk := min limit (4 * 1024)
    let targetCapacity := min (max (max newLen (out.capacity * 2)) initialChunk) limit
    .ok { out with capacity := targetCapacity }
  else .ok out

/-- `push_output`. -/
def pushOutput (out : Output) (byte : UInt8) (limit : Nat) : Except Stop Output := do
  let out ← reserveOutput out 1 limit
  .ok { out with bytes := out.bytes ++ [byte] }

/-- `append_stack`. The head of the list is the top of the stack, so the bytes leave it in list
order and the stack is empty afterwards. -/
def appendStack (out : Output) (stack : List UInt8) (limit : Nat) : Except Stop Output := do
  let out ← reserveOutput out stack.length limit
  .ok { out with bytes := out.bytes ++ stack }

/-- The arguments of `decode_codes`. -/
structure Params where
  data : List UInt8
  blockMode : Bool
  maxbits : Nat
  limit : Nat

namespace Params

/-- `max_code_count`. -/
def maxCodeCount (p : Params) : Nat := 1 <<< p.maxbits

/-- `total_bits`. -/
def totalBits (p : Params) : Nat := p.data.length * 8

/-- `first_free`. -/
def firstFree (p : Params) : Nat := if p.blockMode then clear + 1 else 256

end Params

/-- The reading variables of `decode_codes`: where it reads and how wide the codes are. -/
structure Cursor where
  codeWidth : Nat
  maxCode : Nat
  bitPosition : Nat
  boundaryOffset : Nat

/-- The variables `decode_codes` carries around its loop. The stack is empty between two
iterations, since `append_stack` drains it. `parent` is the array `prefix`. -/
structure State where
  parent : List Nat
  suffix : List UInt8
  freeEntry : Nat
  cursor : Cursor
  out : Output
  oldCode : Nat
  finalCharacter : UInt8

/-- The unwinding loop of a code: from the code down to a byte, pushing suffixes. -/
def unwind (parent : List Nat) (suffix : List UInt8) :
    Nat → Nat → List UInt8 → Except Stop (Nat × List UInt8)
  | 0, code, stack => if code ≥ 256 then .error .outOfFuel else .ok (code, stack)
  | fuel + 1, code, stack =>
    if code ≥ 256 then do
      let byte ← index suffix code
      let next ← index parent code
      unwind parent suffix fuel next (byte :: stack)
    else .ok (code, stack)

/-- The width increase when the table passes the largest code of the present width. -/
def widen (p : Params) (freeEntry : Nat) (c : Cursor) : Cursor :=
  if freeEntry > c.maxCode ∧ c.codeWidth < p.maxbits then
    let newPosition := alignToGroup c.bitPosition c.codeWidth c.boundaryOffset
    let codeWidth := c.codeWidth + 1
    { boundaryOffset := newPosition
      bitPosition := newPosition
      codeWidth
      maxCode := if codeWidth = p.maxbits then p.maxCodeCount else (1 <<< codeWidth) - 1 }
  else c

/-- The new table entry after an expanded code, while the table has room. -/
def addEntry (p : Params) (s : State) : Except Stop State :=
  if s.freeEntry < p.maxCodeCount then do
    let parent ← store s.parent s.freeEntry s.oldCode
    let suffix ← store s.suffix s.freeEntry s.finalCharacter
    let freeEntry := s.freeEntry + 1
    .ok { s with parent, suffix, freeEntry, cursor := widen p freeEntry s.cursor }
  else .ok s

/-- The cursor at the start of a group with codes of the first width. -/
def Cursor.initial (bitPosition : Nat) : Cursor where
  codeWidth := initBits
  maxCode := (1 <<< initBits) - 1
  bitPosition
  boundaryOffset := bitPosition

/-- The cursor after the code it reads. -/
def Cursor.consume (c : Cursor) : Cursor := { c with bitPosition := c.bitPosition + c.codeWidth }

/-- The branch of a CLEAR code: the table empties and a literal has to follow. -/
def clearCode (p : Params) (s : State) : Except Stop State := do
  let newPosition :=
    alignToGroup s.cursor.bitPosition s.cursor.codeWidth s.cursor.boundaryOffset
  let cursor := Cursor.initial newPosition
  match ← readCode p.data p.totalBits cursor.bitPosition cursor.codeWidth with
  | none => .error (.failed .truncated)
  | some literal =>
    if literal ≥ 256 then .error (.failed .invalidCode)
    else
      let finalCharacter := UInt8.ofNat literal
      let out ← pushOutput s.out finalCharacter p.limit
      .ok { s with
        freeEntry := clear + 1
        cursor := cursor.consume
        oldCode := literal
        finalCharacter
        out }

/-- The branch of every other code: expand it, append it, add an entry. -/
def expandCode (p : Params) (s : State) (inputCode : Nat) : Except Stop State := do
  if inputCode > s.freeEntry then .error (.failed .invalidCode)
  else
    -- The next free code stands for the last string followed by its own first byte.
    let (code, stack) :=
      if inputCode = s.freeEntry then (s.oldCode, [s.finalCharacter]) else (inputCode, [])
    let (literal, stack) ← unwind s.parent s.suffix p.maxCodeCount code stack
    let finalCharacter := UInt8.ofNat literal
    let out ← appendStack s.out (finalCharacter :: stack) p.limit
    let s ← addEntry p { s with out, finalCharacter }
    .ok { s with oldCode := inputCode }

/-- One iteration of the decoding loop on the code it read. -/
def decodeStep (p : Params) (s : State) (rawCode : Nat) : Except Stop State :=
  let s := { s with cursor := s.cursor.consume }
  if p.blockMode ∧ rawCode = clear then clearCode p s else expandCode p s rawCode

/-- The decoding loop, ended by the first code that does not fit. -/
def decodeLoop (p : Params) : Nat → State → Except Stop State
  | 0, _ => .error .outOfFuel
  | fuel + 1, s => do
    match ← readCode p.data p.totalBits s.cursor.bitPosition s.cursor.codeWidth with
    | none => .ok s
    | some rawCode =>
      let s ← decodeStep p s rawCode
      decodeLoop p fuel s

/-- The state after the first code, which is always a literal. -/
def firstState (p : Params) (oldCode : Nat) (out : Output) : State where
  parent := List.replicate p.maxCodeCount 0
  suffix := (List.range p.maxCodeCount).map fun i => if i < 256 then UInt8.ofNat i else 0
  freeEntry := p.firstFree
  cursor := (Cursor.initial 0).consume
  out
  oldCode
  finalCharacter := UInt8.ofNat oldCode

/-- `decode_codes`. Every iteration of the loop consumes at least one bit. -/
def decodeCodes (p : Params) : Except Stop (List UInt8) := do
  match ← readCode p.data p.totalBits 0 initBits with
  | none => if p.totalBits = 0 then .ok [] else .error (.failed .truncated)
  | some oldCode =>
    if oldCode ≥ 256 then .error (.failed .invalidCode)
    else
      let out ← pushOutput .empty (UInt8.ofNat oldCode) p.limit
      let s ← decodeLoop p (p.totalBits + 1) (firstState p oldCode out)
      validateTerminalPadding p.data p.totalBits s.cursor.bitPosition
      .ok s.out.bytes

/-- `decode_bounded`. -/
def decodeBounded (input : List UInt8) (limit : Nat) : Except Stop (List UInt8) :=
  match input with
  | [] => .ok []
  | [_] => .error (.failed .truncated)
  | first :: second :: rest =>
    if first ≠ magic.1 ∨ second ≠ magic.2 then .error (.failed .badMagic)
    else
      match rest with
      | [] => .error (.failed .truncated)
      | flags :: data =>
        let blockMode := (flags &&& blockModeFlag) ≠ 0
        let maxbits := (flags &&& maxbitsMask).toNat
        if ¬ (initBits ≤ maxbits ∧ maxbits ≤ maxMaxbits) then .error (.failed .badMaxBits)
        else decodeCodes { data, blockMode, maxbits, limit }

end Sidereon.UnixCompress
