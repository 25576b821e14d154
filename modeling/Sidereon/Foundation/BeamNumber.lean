import Mathlib.Data.Rat.Floor

/-!
# Numbers of the BEAM

An integer of any size or a finite double. Arithmetic on a mixed pair converts the integer to a
double, a result that is not finite raises `ArithmeticError`, and comparisons are between the exact
values.
-/

namespace Foundation.Beam

/-- The exact value of a double; the values that are not finite count as zero. -/
def floatValue (x : Float) : Rat :=
  match x.toModel.unpack with
  | .finite sign mantissa exponent _ =>
    (match sign with
      | .positive => (mantissa : Rat)
      | .negative => -(mantissa : Rat)) * (2 : Rat) ^ exponent
  | _ => 0

/-- An integer or a finite double. -/
inductive Number where
  | int (n : Int)
  | float (x : Float) (finite : x.isFinite = true)
  deriving DecidableEq

namespace Number

/-- The exact value. -/
def value : Number → Rat
  | int n => n
  | float x _ => floatValue x

/-- A computed double, unless it is not finite. -/
def ofFloat? (x : Float) : Option Number :=
  if finite : x.isFinite = true then some (float x finite) else none

/-- The double an operation on a mixed pair uses. -/
def toFloat? : Number → Option Float
  | int n =>
    let x := Float.ofModel (.ofInt n)
    if x.isFinite then some x else none
  | float x _ => some x

/-- `*`. -/
def mul? : Number → Number → Option Number
  | int a, int b => some (int (a * b))
  | a, b => do
    let x ← a.toFloat?
    let y ← b.toFloat?
    ofFloat? (x * y)

/-- `min/2`, which keeps its first argument when the two compare equal. -/
def min (a b : Number) : Number := if a.value ≤ b.value then a else b

/-- `round/1`: to the nearest integer, halves away from zero. -/
def round : Number → Int
  | int n => n
  | float x _ =>
    let v := floatValue x
    if 0 ≤ v then ⌊v + 1 / 2⌋ else -⌊-v + 1 / 2⌋

end Number

/-- A double literal that is finite. -/
def double (x : Float) (finite : x.isFinite = true := by decide +kernel) : Number :=
  .float x finite

example : (double 2.5).round = 3 ∧ (double (-2.5)).round = -3 := by decide +kernel

end Foundation.Beam
