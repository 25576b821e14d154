import Sidereon.Foundation.Bits
import Sidereon.Foundation.Lzw
import Sidereon.UnixCompress.Decoder

/-!
# The reference compress stream

What `compress` writes for a byte string: the phrase codes of a dictionary coder, numbered and laid
out in bits of growing width. The layout depends on the codes only through how many there are. Its
width grows when the dictionary passes the present width, and before the next code after that, and
after each CLEAR, zero bits fill the group of eight codes. After the last code nothing follows but
the zero bits of its byte.
-/

namespace Sidereon.UnixCompress

open Foundation
open Foundation.Lzw (Code Token)

/-- The third header byte of a stream the decoder accepts: its mode and its largest code width. -/
structure Header where
  blockMode : Bool
  maxbits : Nat
  atLeast : initBits ≤ maxbits
  atMost : maxbits ≤ maxMaxbits

namespace Header

/-- The first code that names a phrase of two or more bytes. -/
def firstFree (h : Header) : Nat := if h.blockMode then clear + 1 else 256

/-- Dictionary entries at which the dictionary stops growing. -/
def tableSize (h : Header) : Nat := 2 ^ h.maxbits

/-- Phrases the dictionary can hold beside the single bytes. -/
def capacity (h : Header) : Nat := h.tableSize - h.firstFree

/-- The header byte. -/
def flags (h : Header) : UInt8 :=
  UInt8.ofNat h.maxbits ||| if h.blockMode then blockModeFlag else 0

/-- The number written for a code. -/
def number (h : Header) : Code UInt8 → Nat
  | .literal byte => byte.toNat
  | .entry position => h.firstFree + position

end Header

/-- Where the writer stands between two codes: dictionary entries, code width, codes of that width
since the last group boundary, and zero bits owed before the next code. -/
structure Layout where
  entries : Nat
  width : Nat
  written : Nat
  owed : Nat

/-- Zero bits that complete a group of eight codes. -/
def groupPadding (width written : Nat) : Nat := (8 - written % 8) % 8 * width

namespace Layout

/-- Before the first code. -/
def start (h : Header) : Layout := ⟨h.firstFree, initBits, 0, 0⟩

/-- After a code: one more dictionary entry, and a wider code once the entries pass the width. -/
def afterCode (h : Header) (l : Layout) : Layout :=
  let entries := min (l.entries + 1) h.tableSize
  if entries > 2 ^ l.width ∧ l.width < h.maxbits then
    ⟨entries, l.width + 1, 0, groupPadding l.width (l.written + 1)⟩
  else ⟨entries, l.width, l.written + 1, 0⟩

/-- After a CLEAR: an empty dictionary at the first width. -/
def afterClear (h : Header) (l : Layout) : Layout :=
  ⟨h.firstFree, initBits, 0, groupPadding l.width (l.written + 1)⟩

/-- After one token. -/
def after (h : Header) (l : Layout) : Token UInt8 → Layout
  | .code _ => l.afterCode h
  | .reset => l.afterClear h

/-- After a list of tokens. -/
def run (h : Header) (l : Layout) (tokens : List (Token UInt8)) : Layout :=
  tokens.foldl (after h) l

end Layout

/-- The number written for a token. -/
def Header.tokenNumber (h : Header) : Token UInt8 → Nat
  | .code code => h.number code
  | .reset => clear

/-- The bits of a token list: what is owed, then the number at the present width. -/
def layoutBits (h : Header) : Layout → List (Token UInt8) → List Bool
  | _, [] => []
  | l, token :: tokens =>
    List.replicate l.owed false ++ lsbBits l.width (h.tokenNumber token) ++
      layoutBits h (l.after h token) tokens

/-- The tokens of a byte string; without block mode there are no CLEAR codes. -/
def compressTokens (h : Header) (clears : Nat → Bool) (first : UInt8) (rest : List UInt8) :
    List (Token UInt8) :=
  Lzw.encode h.capacity (fun written => h.blockMode && clears written) first rest

/-- The stream of a nonempty byte string, with a CLEAR wherever `clears` places one between two
codes. -/
def compress (h : Header) (clears : Nat → Bool) (first : UInt8) (rest : List UInt8) :
    List UInt8 :=
  [magic.1, magic.2, h.flags] ++
    packBits (layoutBits h (Layout.start h) (compressTokens h clears first rest))

end Sidereon.UnixCompress
