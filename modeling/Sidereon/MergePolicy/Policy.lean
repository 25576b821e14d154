import Sidereon.Foundation.Ascending
import Sidereon.Foundation.Doubles
import Sidereon.Ftp.Replies
import Sidereon.MergeReport.Values

/-!
# Merge policies

A normalised merge policy. Its tolerances are finite and not negative and have one zero, its systems
and its sets of frame labels are in order and once each, and its labels are trimmed, so what a policy
states is in the one form that the records of reports keep.
-/

namespace Sidereon.MergePolicy

open Foundation Sidereon.Distribution MergeReport
open Foundation.Beam (Number floatValue)
open Ftp (trim dropLeading whitespace)

section Numbers

/-- A finite double. -/
structure Double where
  value : Float
  finite : value.isFinite = true

namespace Double

/-- Its exact value. -/
def exact_ (x : Double) : Rat := floatValue x.value

/-- The double among the numbers. -/
def number (x : Double) : Number := .float x.value x.finite

/-- The double as a term. -/
def toValue (x : Double) : Value := .number x.number

/-- The double of a term. -/
def ofValue? : Value → Option Double
  | .number (.float x finite) => some ⟨x, finite⟩
  | _ => none

theorem ofValue?_toValue (x : Double) : ofValue? x.toValue = some x := rfl

end Double

theorem finite_zero : (0.0 : Float).isFinite = true := by decide +kernel

theorem floatValue_zero : floatValue 0.0 = 0 := by decide +kernel

/-- A double that is not negative and, when it is zero, is `0.0`. -/
structure Tolerance where
  double : Double
  nonneg : 0 ≤ double.exact_
  zero : double.exact_ = 0 → double.value = 0.0

/-- `if value == 0.0, do: 0.0, else: value`, and `canonical_zero`. -/
def canonicalZero (x : Double) (nonneg : 0 ≤ x.exact_) : Tolerance :=
  if zero : x.exact_ = 0 then ⟨⟨0.0, finite_zero⟩, floatValue_zero.ge, fun _ => rfl⟩
  else ⟨x, nonneg, fun zero' => absurd zero' zero⟩

theorem canonicalZero_double (tolerance : Tolerance) :
    canonicalZero tolerance.double tolerance.nonneg = tolerance := by
  unfold canonicalZero
  split
  · next zero =>
    obtain ⟨⟨value, finite⟩, nonneg, canonical⟩ := tolerance
    cases canonical zero
    rfl
  · rfl

/-- A double that is not negative. -/
structure Residual where
  double : Double
  nonneg : 0 ≤ double.exact_

/-- An integer that is positive. -/
structure Count where
  value : Int
  positive : 0 < value

end Numbers

section Names

/-- Values with names, each found by its own. -/
class Named (α : Type) where
  all : List α
  name : α → String
  found : ∀ item, all.find? (fun other => name item == name other) = some item
  foundText : ∀ item, all.find? (fun other => ascii (name item) == ascii (name other)) = some item

namespace Named

variable {α : Type} [Named α]

/-- `Atom.to_string`. -/
def toText (item : α) : Value := .text (ascii (name item))

/-- The value an atom names. -/
def ofAtom? (value : Value) : Option α := all.find? fun item => value.isAtom (name item)

/-- The value an atom or a text names. -/
def ofEither? (value : Value) : Option α :=
  all.find? fun item => value.isAtom (name item) || value.isText (name item)

theorem ofAtom?_atom (item : α) : ofAtom? (.atom (name item)) = some item := found item

theorem ofEither?_toText (item : α) : ofEither? (toText item) = some item := foundText item

end Named

/-- The rules of combination. -/
inductive Combine where
  | mean
  | median
  | precedence
  deriving DecidableEq

/-- Their names. -/
def Combine.name : Combine → String
  | mean => "mean"
  | median => "median"
  | precedence => "precedence"

instance : Named Combine where
  all := [.mean, .median, .precedence]
  name := Combine.name
  found := by rintro ⟨⟩ <;> rfl
  foundText := by rintro ⟨⟩ <;> rfl

/-- What precedence decides at once. -/
inductive PrecedenceScope where
  | cell
  | satelliteArc
  deriving DecidableEq

/-- Their names. -/
def PrecedenceScope.name : PrecedenceScope → String
  | cell => "cell"
  | satelliteArc => "satellite_arc"

instance : Named PrecedenceScope where
  all := [.cell, .satelliteArc]
  name := PrecedenceScope.name
  found := by rintro ⟨⟩ <;> rfl
  foundText := by rintro ⟨⟩ <;> rfl

/-- The classes of orbits. -/
inductive OrbitClass where
  | meoGnss
  | geosynchronous
  | leo
  deriving DecidableEq

/-- Their names. -/
def OrbitClass.name : OrbitClass → String
  | meoGnss => "meo_gnss"
  | geosynchronous => "geosynchronous"
  | leo => "leo"

instance : Named OrbitClass where
  all := [.meoGnss, .geosynchronous, .leo]
  name := OrbitClass.name
  found := by rintro ⟨⟩ <;> rfl
  foundText := by rintro ⟨⟩ <;> rfl

/-- How much of its provenance a merge reports. -/
inductive Provenance where
  | summary
  | full
  deriving DecidableEq

/-- Their names. -/
def Provenance.name : Provenance → String
  | summary => "summary"
  | full => "full"

instance : Named Provenance where
  all := [.summary, .full]
  name := Provenance.name
  found := by rintro ⟨⟩ <;> rfl
  foundText := by rintro ⟨⟩ <;> rfl

/-- The systems of satellites. -/
inductive System where
  | gps
  | glonass
  | galileo
  | beidou
  | qzss
  | navic
  | sbas
  deriving DecidableEq

/-- Their names. -/
def System.name : System → String
  | gps => "gps"
  | glonass => "glonass"
  | galileo => "galileo"
  | beidou => "beidou"
  | qzss => "qzss"
  | navic => "navic"
  | sbas => "sbas"

instance : Named System where
  all := [.gps, .glonass, .galileo, .beidou, .qzss, .navic, .sbas]
  name := System.name
  found := by rintro ⟨⟩ <;> rfl
  foundText := by rintro ⟨⟩ <;> rfl

namespace System

/-- Their letters. -/
def letter : System → Binary
  | gps => ascii "G"
  | glonass => ascii "R"
  | galileo => ascii "E"
  | beidou => ascii "C"
  | qzss => ascii "J"
  | navic => ascii "I"
  | sbas => ascii "S"

/-- The system of a letter. -/
def ofLetter? (letter : Binary) : Option System :=
  Named.all.find? fun system => letter == system.letter

theorem ofLetter?_letter (system : System) : ofLetter? system.letter = some system := by
  cases system <;> rfl

/-- What systems are sorted by. -/
def key (system : System) : List Nat := system.letter.map UInt8.toNat

theorem key_injective : Function.Injective key := by
  rintro ⟨⟩ ⟨⟩ same <;> first | rfl | exact absurd same (by decide)

end System

end Names

section Labels

/-- What starts with no string of a list is left as it is. -/
theorem dropLeading_of_none {leading : List Binary} {text : Binary}
    (none : leading.find? (·.isPrefixOf text) = none) (limit : Nat) :
    dropLeading leading limit text = text := by
  cases limit with
  | zero => rfl
  | succ limit => rw [dropLeading, none]

/-- Once everything may be dropped, what is left starts with no string of the list. -/
theorem find?_dropLeading {leading : List Binary} (nonempty : ∀ space ∈ leading, space ≠ []) :
    ∀ {limit : Nat} {text : Binary}, text.length ≤ limit →
      leading.find? (·.isPrefixOf (dropLeading leading limit text)) = none := by
  intro limit
  induction limit with
  | zero =>
    intro text short
    have empty : text = [] := List.length_eq_zero_iff.mp (by omega)
    rw [empty, List.find?_eq_none]
    intro space member starts
    exact nonempty space member (List.prefix_nil.mp (List.isPrefixOf_iff_prefix.mp starts))
  | succ limit ih =>
    intro text short
    cases found : leading.find? (·.isPrefixOf text) with
    | none => rw [dropLeading, found, found]
    | some space =>
      have positive : 0 < space.length :=
        List.length_pos_iff.mpr (nonempty space (List.mem_of_find?_eq_some found))
      rw [dropLeading, found]
      exact ih (by rw [List.length_drop]; omega)

/-- What is left is the end of the text. -/
theorem dropLeading_suffix (leading : List Binary) :
    ∀ (limit : Nat) (text : Binary), dropLeading leading limit text <:+ text := by
  intro limit
  induction limit with
  | zero => exact fun text => List.suffix_refl text
  | succ limit ih =>
    intro text
    cases found : leading.find? (·.isPrefixOf text) with
    | none => rw [dropLeading, found]
    | some space =>
      rw [dropLeading, found]
      exact (ih _).trans (List.drop_suffix _ _)

theorem whitespace_nonempty : ∀ space ∈ whitespace, space ≠ [] := by decide

theorem whitespace_reverse_nonempty : ∀ space ∈ whitespace.map List.reverse, space ≠ [] := by
  decide

/-- A trimmed text neither starts nor ends with white space, so it is trimmed as it is. -/
theorem trim_trim (text : Binary) : trim (trim text) = trim text := by
  have front := find?_dropLeading whitespace_nonempty (le_refl text.length)
  generalize shown : dropLeading whitespace text.length text = rest at front
  have back := find?_dropLeading whitespace_reverse_nonempty (le_refl rest.reverse.length)
  have suffix := dropLeading_suffix (whitespace.map List.reverse) rest.length rest.reverse
  have trimmed : trim text =
      (dropLeading (whitespace.map List.reverse) rest.length rest.reverse).reverse := by
    rw [trim, shown]
  rw [List.length_reverse] at back
  generalize dropLeading (whitespace.map List.reverse) rest.length rest.reverse = kept
    at back suffix trimmed
  have starts : whitespace.find? (·.isPrefixOf kept.reverse) = none := by
    rw [List.find?_eq_none] at front ⊢
    intro space member starts
    have inside : kept.reverse <+: rest := by
      have reversed := List.reverse_prefix.mpr suffix
      rwa [List.reverse_reverse] at reversed
    exact front space member
      (List.isPrefixOf_iff_prefix.mpr ((List.isPrefixOf_iff_prefix.mp starts).trans inside))
  rw [trimmed, trim, dropLeading_of_none starts, List.reverse_reverse, dropLeading_of_none back]

/-- A frame label: a trimmed text that is not empty. -/
structure Label where
  text : Binary
  trimmed : trim text = text
  nonempty : text ≠ []
  deriving DecidableEq

namespace Label

/-- The label as a term. -/
def toValue (label : Label) : Value := .text label.text

/-- What labels are sorted by. -/
def key (label : Label) : List Nat := label.text.map UInt8.toNat

theorem key_injective : Function.Injective key := by
  rintro ⟨text, _, _⟩ ⟨text', _, _⟩ same
  have equal : text = text' :=
    List.map_injective_iff.mpr (fun _ _ => UInt8.toNat_inj.mp) same
  cases equal
  rfl

end Label

/-- A set of frame labels that are asserted to name one frame. -/
structure LabelSet where
  labels : List Label
  ascending : Ascending Label.key labels
  two : 2 ≤ labels.length
  deriving DecidableEq

namespace LabelSet

/-- The labels as a term. -/
def toValue (set : LabelSet) : Value := .list (set.labels.map Label.toValue)

/-- What sets are sorted by. -/
def key (set : LabelSet) : List (List Nat) := set.labels.map Label.key

theorem key_injective : Function.Injective key := by
  rintro ⟨labels, _, _⟩ ⟨labels', _, _⟩ same
  have equal : labels = labels' := List.map_injective_iff.mpr Label.key_injective same
  cases equal
  rfl

end LabelSet

end Labels

/-- The systems a merge keeps; none of them is no filter. -/
structure Systems where
  systems : List System
  ascending : Ascending System.key systems

/-- The asserted sets of frame labels. -/
structure LabelSets where
  sets : List LabelSet
  ascending : Ascending LabelSet.key sets

/-- How continuity is verified. -/
structure Continuity where
  orbitClass : Option OrbitClass
  residualToleranceM : Option Residual
  gapThresholdFactor : Option Double

/-- A normalised policy. -/
structure Policy where
  positionToleranceM : Tolerance
  clockToleranceS : Tolerance
  minAgree : Count
  clockMinCommon : Count
  combine : Combine
  precedenceScope : PrecedenceScope
  outlierReject : Option (Tolerance × Tolerance)
  epochIntervalS : Option Double
  systems : Systems
  assertedFrameLabelSets : LabelSets
  helmert : Bool
  verifyContinuity : Option Continuity
  provenance : Option Provenance

end Sidereon.MergePolicy
