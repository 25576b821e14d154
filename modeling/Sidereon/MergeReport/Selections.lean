import Mathlib
import Sidereon.MergePolicy.Policy
import Sidereon.MergeReport.Centers

/-!
# Epochs, satellites and selections

What the lists of a merge result are made of: epochs as split Julian dates, satellites, indices of
sources, and the selections that say which sources a written value is from. What is read is within
its bounds by its type.
-/

namespace Sidereon.MergeReport

open Foundation Sidereon.Distribution
open Foundation.Beam (Number floatValue)
open Foundation.Uri (ofDigits)
open MergePolicy (Double)

/-- `{context, field}`. -/
def inside (context : Value) (field : String) : Value := .tuple [context, .atom field]

/-- `verify_merge_report` rescues an `ArithmeticError`. -/
def orArithmetic {α : Type} : Option α → Except Refusal α
  | some result => .ok result
  | none => .error (.atom "invalid_numeric_arithmetic")

/-- `label_string`. -/
def labelString : Value → Option Binary
  | .atom name => if name = "nil" then none else some (ascii name)
  | .text bytes => some bytes
  | _ => none

/-- `verify_list`. -/
def verifyList {β : Type} (items kind : Value) (verify : Value → Value → Except Refusal β) :
    Except Refusal (List β) :=
  match items with
  | .list items => checkEach (fun index item => verify item (.tuple [kind, .int index])) 0 items
  | _ => .error (invalidField kind)

/-- `finite_float`, with the double. -/
def finiteFloat (value field : Value) : Except Refusal Double :=
  match Double.ofValue? value with
  | some x => .ok x
  | none => .error (invalidField field)

section Epochs

/-- Finite doubles are told apart by their values. -/
theorem double_eq_iff {x y : Double} : x.value = y.value ↔ x = y := by
  cases x
  cases y
  rw [Double.mk.injEq]

instance : DecidableEq Double := fun _ _ => decidable_of_iff _ double_eq_iff

/-- A split Julian date. -/
structure Split where
  whole : Double
  fraction : Double
  deriving DecidableEq

namespace Split

/-- What epochs are compared by: the whole parts, and for equal ones the fractions. -/
def key (epoch : Split) : Rat ×ₗ Rat := toLex (epoch.whole.exact_, epoch.fraction.exact_)

end Split

-- `NIF.timescale_offset_at` from UTC to TAI.
variable (offsetAt : Float → Option Float)

/-- `positive_leap_second_day?`. -/
def leapSecondDay (jdWhole : Float) : Bool :=
  match offsetAt jdWhole, offsetAt (jdWhole + 1.0) with
  | some before, some after => after - before == 1.0
  | _, _ => false

/-- `leap_second_label?`. -/
def labelsLeapSecond (whole fraction : Double) : Bool :=
  fraction.exact_ < 0 && floatValue (-1.0 / 86400.0) ≤ fraction.exact_ &&
    leapSecondDay offsetAt (whole.value - 1.0)

/-- `canonical_epoch`, with the epoch. -/
def canonicalSplit (jdWhole jdFraction context : Value) : Except Refusal Split := do
  let whole ← finiteFloat jdWhole (inside context "jd_whole")
  ensure (1721059.5 ≤ whole.exact_ ∧ whole.exact_ ≤ 5373483.5 ∧
    whole.exact_ - ⌊whole.exact_⌋ = 0.5) (invalidField (inside context "jd_whole"))
  let fraction ← finiteFloat jdFraction (inside context "jd_fraction")
  ensure (0 ≤ fraction.exact_ ∧ fraction.exact_ ≤ 1 ∨ labelsLeapSecond offsetAt whole fraction = true)
    (invalidField (inside context "jd_fraction"))
  ensure (fraction.exact_ ≠ 1 ∨ leapSecondDay offsetAt whole.value = true)
    (invalidField (inside context "jd_fraction"))
  .ok ⟨whole, fraction⟩

/-- `@merge_time_scales`. -/
def mergeTimeScales : List String :=
  ["UTC", "TAI", "TT", "TCG", "TDB", "TCB", "GPST", "GST", "BDT", "GLONASST", "QZSST"]

/-- The nanoseconds of a day. -/
def nanosPerDay : Int := 86400000000000

/-- `epoch_split` of nanoseconds. -/
def splitNanos (nanos : Int) : Except Refusal (Value × Value) := do
  let shifted := nanos + nanosPerDay / 2
  let days ← orArithmetic (Number.int (shifted.fdiv nanosPerDay)).toFloat?
  let whole ← orArithmetic (Number.ofFloat? (2451544.5 + days))
  let within ← orArithmetic (Number.int (shifted.fmod nanosPerDay)).toFloat?
  let day ← orArithmetic (Number.int nanosPerDay).toFloat?
  let fraction ← orArithmetic (Number.ofFloat? (within / day))
  .ok (.number whole, .number fraction)

/-- `epoch_split`. -/
def epochSplit (nanosForm : Bool) (values : Record) (context : Value) :
    Except Refusal (Value × Value) :=
  if nanosForm then
    match values.get "nanos_since_j2000" with
    | .number (.int nanos) => splitNanos nanos
    | _ => .error (invalidField (inside context "nanos_since_j2000"))
  else .ok (values.get "jd_whole", values.get "jd_fraction")

/-- `merge_epoch_split`. -/
def mergeEpochSplit (epoch context : Value) : Except Refusal Split :=
  match epoch with
  | .map entries => do
    let nanosForm := (fetch entries "nanos_since_j2000").isSome
    let values ← exactFields (.map entries)
      (if nanosForm then ["time_scale", "nanos_since_j2000"]
        else ["time_scale", "jd_whole", "jd_fraction"]) context
    ensure (mergeTimeScales.any (values.get "time_scale").isText = true)
      (invalidField (inside context "time_scale"))
    let (whole, fraction) ← epochSplit nanosForm values context
    canonicalSplit offsetAt whole fraction context
  | _ => .error (invalidField context)

end Epochs

section Satellites

/-- The letters of systems, in the order of `gnss_system_order`. -/
def gnssSystems : Binary := ascii "GRECJIS"

/-- The shared satellite-token range: a system and a number from `01` to `99`. -/
def satelliteToken : Binary → Bool
  | [system, d₁, d₂] =>
    gnssSystems.contains system && isDigit d₁ && isDigit d₂ && ofDigits [d₁, d₂] != 0
  | _ => false

/-- A satellite. -/
structure Satellite where
  text : Binary
  valid : satelliteToken text = true
  deriving DecidableEq

/-- `gnss_system_order` and the number. -/
def Satellite.order (satellite : Satellite) : Nat ×ₗ Nat :=
  toLex (gnssSystems.idxOf (satellite.text.headD 0), ofDigits (satellite.text.drop 1))

/-- `satellite_id`, with the satellite. -/
def satelliteId (value field : Value) : Except Refusal Satellite :=
  match value with
  | .text text =>
    if valid : satelliteToken text = true then .ok ⟨text, valid⟩
    else .error (.atom "invalid_satellite_id")
  | _ => .error (invalidField field)

/-- `cell_key`: the epoch, and the satellite. -/
def cellKey (epoch : Split) (satellite : Satellite) : (Rat ×ₗ Rat) ×ₗ (Nat ×ₗ Nat) :=
  toLex (epoch.key, satellite.order)

end Satellites

section Selections

/-- Indices of sources in ascending order, at least one. -/
structure Sources (n : Nat) where
  indices : List (Fin n)
  nonempty : indices ≠ []
  ascending : indices.Pairwise (· < ·)

theorem Sources.nodup {n : Nat} (sources : Sources n) : sources.indices.Nodup :=
  sources.ascending.imp ne_of_lt

/-- How a written value was arrived at. -/
inductive Selection (n : Nat) where
  | singleSource (source : Fin n)
  | precedence (source : Fin n) (members : Sources n) (member : source ∈ members.indices)
  | combined (members : Sources n)

/-- The kinds of selections. -/
inductive SelectionKind where
  | singleSource
  | precedence
  | combined
  deriving DecidableEq

namespace Selection

variable {n : Nat}

/-- Its kind. -/
def kind : Selection n → SelectionKind
  | singleSource _ => .singleSource
  | precedence _ _ _ => .precedence
  | combined _ => .combined

/-- The one source that the value is from. -/
def selected : Selection n → Option (Fin n)
  | singleSource source => some source
  | precedence source _ _ => some source
  | combined _ => none

/-- The sources that agree on the value. -/
def members : Selection n → List (Fin n)
  | singleSource source => [source]
  | precedence _ members _ => members.indices
  | combined members => members.indices

theorem nodup_members (selection : Selection n) : selection.members.Nodup := by
  cases selection with
  | singleSource source => exact List.nodup_singleton source
  | precedence source members member => exact members.nodup
  | combined members => exact members.nodup

end Selection

variable (n : Nat)

instance lawfulSource : LawfulBEq (Fin n) := inferInstance

theorem toNat_lt {index : Int} {n : Nat} (bounded : 0 ≤ index ∧ index < n) : index.toNat < n := by
  omega

/-- An index of a source. -/
def sourceIndex? : Value → Option (Fin n)
  | .number (.int index) =>
    if bounded : 0 ≤ index ∧ index < n then some ⟨index.toNat, toNat_lt bounded⟩ else none
  | _ => none

/-- `source_index`, with the index. -/
def sourceIndex (value field : Value) : Except Refusal (Fin n) :=
  match sourceIndex? n value with
  | some source => .ok source
  | none => .error (invalidField field)

/-- `optional_source_index`, with the index. -/
def optionalSourceIndex (value field : Value) : Except Refusal (Option (Fin n)) :=
  match value with
  | .atom "nil" => .ok none
  | value => (sourceIndex n value field).map some

/-- `source_indices`, with the indices. -/
def sourceIndices (value field : Value) : Except Refusal (Sources n) :=
  match value with
  | .list items =>
    match items.mapM (sourceIndex? n) with
    | some indices =>
      if valid : indices ≠ [] ∧ indices.Pairwise (· < ·) then .ok ⟨indices, valid.1, valid.2⟩
      else .error (invalidField field)
    | none => .error (invalidField field)
  | _ => .error (invalidField field)

/-- `omission_reason`, with the reason. -/
def omissionReason (allowed : List String) (reason field : Value) : Except Refusal Binary :=
  match reason with
  | .atom name => if name ∈ allowed then .ok (ascii name) else .error (invalidField field)
  | .text bytes => if bytes ∈ allowed.map ascii then .ok bytes else .error (invalidField field)
  | _ => .error (invalidField field)

-- The policy's rule of combination.
variable (combine : Value)

/-- The source of a precedence pick: one of the members, under precedence. -/
def precedenceSource (value : Value) (members : Sources n) (field : Value) :
    Except Refusal (Selection n) :=
  match sourceIndex? n value with
  | some source =>
    if member : source ∈ members.indices ∧ combine.isText "precedence" = true then
      .ok (.precedence source members member.1)
    else .error (invalidField field)
  | none => .error (invalidField field)

/-- `verify_optional_selection` of a map. -/
def verifySelection (selection context : Value) : Except Refusal (Selection n) :=
  let kind := labelString (mapValue selection "kind")
  if kind = some (ascii "single_source") then do
    let values ← exactFields selection ["kind", "source"] context
    let source ← sourceIndex n (values.get "source") (inside context "source")
    .ok (.singleSource source)
  else if kind = some (ascii "precedence") then do
    let values ← exactFields selection ["kind", "source", "members"] context
    let members ← sourceIndices n (values.get "members") (inside context "members")
    precedenceSource n combine (values.get "source") members (inside context "source")
  else if kind = some (ascii "combined") then do
    let values ← exactFields selection ["kind", "rule", "members"] context
    let members ← sourceIndices n (values.get "members") (inside context "members")
    let rule := labelString (values.get "rule")
    ensure ((rule = some (ascii "mean") ∨ rule = some (ascii "median")) ∧ rule = combine.text?)
      (invalidField (inside context "rule"))
    .ok (.combined members)
  else .error (invalidField (inside context "kind"))

/-- `verify_optional_selection`. -/
def verifyOptionalSelection (selection context : Value) : Except Refusal (Option (Selection n)) :=
  match selection with
  | .atom "nil" => .ok none
  | .map entries => (verifySelection n combine (.map entries) context).map some
  | _ => .error (invalidField context)

end Selections

section Reading

variable {n : Nat}

/-- A value is read as an epoch, from either of its forms. -/
def StatesEpoch (offsetAt : Float → Option Float) (value : Value) (epoch : Split) : Prop :=
  ∃ context, mergeEpochSplit offsetAt value context = .ok epoch

/-- The indices as a term. -/
def Sources.toValue (sources : Sources n) : Value :=
  .list (sources.indices.map fun source : Fin n => Value.int source.val)

/-- An index or `nil` as a term. -/
def sourceValue : Option (Fin n) → Value
  | none => .nil
  | some source => .int source

/-- A map states a selection. -/
def Selection.Stated (value : Value) : Selection n → Prop
  | .singleSource source =>
    labelString (mapValue value "kind") = some (ascii "single_source") ∧
      value.field? "source" = some (.int source)
  | .precedence source members _ =>
    labelString (mapValue value "kind") = some (ascii "precedence") ∧
      value.field? "source" = some (.int source) ∧ value.field? "members" = some members.toValue
  | .combined members =>
    labelString (mapValue value "kind") = some (ascii "combined") ∧
      value.field? "members" = some members.toValue

/-- A value states a selection or `nil`. -/
def StatesSelection (value : Value) : Option (Selection n) → Prop
  | none => value = .nil
  | some selection => selection.Stated value

theorem sourceIndex?_int {value : Value} {source : Fin n}
    (read : sourceIndex? n value = some source) : value = .int source := by
  unfold sourceIndex? at read
  split at read
  · next index =>
    split at read
    · next bounded =>
      cases read
      rw [Value.int, Int.toNat_of_nonneg bounded.1]
    · cases read
  · cases read

theorem sourceIndex_int {value field : Value} {source : Fin n}
    (read : sourceIndex n value field = .ok source) : value = .int source := by
  unfold sourceIndex at read
  split at read
  · next found =>
    cases read
    exact sourceIndex?_int found
  · cases read

theorem optionalSourceIndex_value {value field : Value} {source : Option (Fin n)}
    (read : optionalSourceIndex n value field = .ok source) : value = sourceValue source := by
  unfold optionalSourceIndex at read
  split at read
  · cases read
    rfl
  · cases found : sourceIndex n value field with
    | error refusal =>
      rw [found] at read
      cases read
    | ok index =>
      rw [found] at read
      cases read
      exact sourceIndex_int found

theorem mapM_sourceIndex? {items : List Value} :
    ∀ {indices : List (Fin n)}, items.mapM (sourceIndex? n) = some indices →
      items = indices.map fun source : Fin n => Value.int source.val := by
  induction items with
  | nil =>
    intro indices read
    cases read
    rfl
  | cons item items ih =>
    intro indices read
    rw [List.mapM_cons] at read
    obtain ⟨source, first, later⟩ := Option.bind_eq_some_iff.mp read
    obtain ⟨rest, others, same⟩ := Option.bind_eq_some_iff.mp later
    cases same
    rw [List.map_cons, sourceIndex?_int first, ← ih others]

theorem sourceIndices_value {value field : Value} {sources : Sources n}
    (read : sourceIndices n value field = .ok sources) : value = sources.toValue := by
  unfold sourceIndices at read
  split at read
  · next items =>
    split at read
    · next indices found =>
      split at read
      · cases read
        rw [Sources.toValue, mapM_sourceIndex? found]
      · cases read
    · cases read
  · cases read

theorem precedenceSource_ok {combine value field : Value} {members : Sources n}
    {selection : Selection n}
    (read : precedenceSource n combine value members field = .ok selection) :
    ∃ source member, selection = .precedence source members member ∧ value = .int source := by
  unfold precedenceSource at read
  split at read
  · next source found =>
    split at read
    · next given =>
      cases read
      exact ⟨source, given.1, rfl, sourceIndex?_int found⟩
    · cases read
  · cases read

/-- A selection that is read is the one that the map states. -/
theorem verifySelection_stated {combine value context : Value} {selection : Selection n}
    (read : verifySelection n combine value context = .ok selection) : selection.Stated value := by
  unfold verifySelection at read
  dsimp only at read
  split at read
  · next kind =>
    obtain ⟨values, fields, rest⟩ := bind_ok.mp read
    obtain ⟨source, index, same⟩ := bind_ok.mp rest
    cases same
    refine ⟨kind, ?_⟩
    rw [(exactFields_get fields (by decide)).1, sourceIndex_int index]
  · split at read
    · next kind =>
      obtain ⟨values, fields, rest⟩ := bind_ok.mp read
      obtain ⟨members, indices, picked⟩ := bind_ok.mp rest
      obtain ⟨source, member, same, index⟩ := precedenceSource_ok picked
      rw [same]
      refine ⟨kind, ?_, ?_⟩
      · rw [(exactFields_get fields (by decide)).1, index]
      · rw [(exactFields_get fields (by decide)).1, sourceIndices_value indices]
    · split at read
      · next kind =>
        obtain ⟨values, fields, rest⟩ := bind_ok.mp read
        obtain ⟨members, indices, rest⟩ := bind_ok.mp rest
        obtain ⟨_, _, same⟩ := bind_ok.mp rest
        cases same
        refine ⟨kind, ?_⟩
        rw [(exactFields_get fields (by decide)).1, sourceIndices_value indices]
      · cases read

theorem verifyOptionalSelection_stated {combine value context : Value}
    {selection : Option (Selection n)}
    (read : verifyOptionalSelection n combine value context = .ok selection) :
    StatesSelection value selection := by
  unfold verifyOptionalSelection at read
  split at read
  · cases read
    rfl
  · next entries =>
    cases found : verifySelection n combine (.map entries) context with
    | error refusal =>
      rw [found] at read
      cases read
    | ok selected =>
      rw [found] at read
      cases read
      exact verifySelection_stated found
  · cases read

theorem finiteFloat_value {value field : Value} {x : Double}
    (read : finiteFloat value field = .ok x) : value = x.toValue := by
  unfold finiteFloat Double.ofValue? at read
  split at read
  · next found =>
    cases read
    split at found
    · cases found
      rfl
    · cases found
  · cases read

/-- An epoch that is canonical has the two parts it was read from. -/
theorem canonicalSplit_parts {offsetAt : Float → Option Float} {whole fraction context : Value}
    {epoch : Split} (read : canonicalSplit offsetAt whole fraction context = .ok epoch) :
    whole = epoch.whole.toValue ∧ fraction = epoch.fraction.toValue := by
  obtain ⟨_, first, rest⟩ := bind_ok.mp read
  obtain ⟨_, _, rest⟩ := bind_ok.mp rest
  obtain ⟨_, second, rest⟩ := bind_ok.mp rest
  obtain ⟨_, _, rest⟩ := bind_ok.mp rest
  obtain ⟨_, _, same⟩ := bind_ok.mp rest
  cases same
  exact ⟨finiteFloat_value first, finiteFloat_value second⟩

theorem satelliteId_text {value field : Value} {satellite : Satellite}
    (read : satelliteId value field = .ok satellite) : value = .text satellite.text := by
  unfold satelliteId at read
  split at read
  · split at read
    · cases read
      rfl
    · cases read
  · cases read

/-- The items of a list that is read, each as what it is read as. -/
theorem verifyList_ok {β : Type} {value kind : Value} {verify : Value → Value → Except Refusal β}
    {results : List β} {related : Value → β → Prop}
    (read : verifyList value kind verify = .ok results)
    (gives : ∀ item context result, verify item context = .ok result → related item result) :
    ∃ items, value = .list items ∧ List.Forall₂ related items results := by
  unfold verifyList at read
  split at read
  · next items =>
    exact ⟨items, rfl, checkEach_imp read fun _ item result passed => gives item _ result passed⟩
  · cases read

end Reading

end Sidereon.MergeReport
