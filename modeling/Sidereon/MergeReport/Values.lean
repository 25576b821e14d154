import Sidereon.MergeReport.Timestamps

/-!
# Persisted values

A persisted report is a term whose maps have atoms or texts as keys. `exact_fields` reads a map
that has each of some fields under one of the two spellings, and nothing else; the checks of single
fields refuse with the path of the field.
-/

namespace Sidereon.MergeReport

open Foundation Distribution
open Foundation.Beam (Number)

/-- A term. `nil` and the booleans are atoms. -/
inductive Value where
  | atom (name : String)
  | number (value : Number)
  | text (bytes : Binary)
  | list (items : List Value)
  | map (entries : List (Value × Value))
  | tuple (items : List Value)

namespace Value

/-- `nil`. -/
abbrev nil : Value := .atom "nil"

/-- An integer. -/
def int (n : Int) : Value := .number (.int n)

/-- Whether a term is an atom of a name. -/
def isAtom (name : String) : Value → Bool
  | .atom own => own == name
  | _ => false

/-- Whether a term is a text of a name. -/
def isText (name : String) : Value → Bool
  | .text bytes => bytes == ascii name
  | _ => false

/-- Whether a term is a text, and which. -/
def text? : Value → Option Binary
  | .text bytes => some bytes
  | _ => none

end Value

/-- A refusal. -/
abbrev Refusal := Value

/-- `{:invalid_field, field}`. -/
def invalidField (field : Value) : Refusal := .tuple [.atom "invalid_field", field]

/-- The fields of a map, under their names. -/
abbrev Record := List (String × Value)

/-- A field. A record that was read has every field it was read for. -/
def Record.get (values : Record) (field : String) : Value := (values.lookup field).getD .nil

/-- `Map.delete`. -/
def Record.delete (values : Record) (field : String) : Record :=
  values.filter fun value => value.1 != field

/-- `Map.put`. -/
def Record.put (values : Record) (field : String) (value : Value) : Record :=
  (field, value) :: values.delete field

/-- A record is a map of atoms. -/
def Record.toValue (values : Record) : Value :=
  .map (values.map fun value => (.atom value.1, value.2))

section Fields

/-- `Map.fetch` of an atom. -/
def fetchAtom (entries : List (Value × Value)) (field : String) : Option Value :=
  (entries.find? fun entry => entry.1.isAtom field).map (·.2)

/-- `Map.fetch` of a text. -/
def fetchText (entries : List (Value × Value)) (field : String) : Option Value :=
  (entries.find? fun entry => entry.1.isText field).map (·.2)

/-- A field of a map, under either spelling. -/
def fetch (entries : List (Value × Value)) (field : String) : Option Value :=
  (fetchAtom entries field).or (fetchText entries field)

/-- A field of a term. -/
def Value.field? (value : Value) (field : String) : Option Value :=
  match value with
  | .map entries => fetch entries field
  | _ => none

/-- `map_value`. -/
def mapValue (value : Value) (field : String) : Value := (value.field? field).getD .nil

/-- `Enum.with_index` and `Enum.reduce_while`: the results of a check, up to the first refusal. -/
def checkEach {α β : Type} (check : Nat → α → Except Refusal β) :
    Nat → List α → Except Refusal (List β)
  | _, [] => .ok []
  | index, item :: items => do
    let first ← check index item
    let rest ← checkEach check (index + 1) items
    .ok (first :: rest)

/-- The value of a field, and its name. -/
def fetchField (entries : List (Value × Value)) (context : Value) (field : String) :
    Except Refusal (String × Value) :=
  match fetch entries field with
  | some value => .ok (field, value)
  | none => .error (.tuple [.atom "missing_field", context, .atom field])

/-- `exact_fields`. -/
def exactFields (map : Value) (fields : List String) (context : Value) : Except Refusal Record :=
  match map with
  | .map entries =>
    let unknown := entries.find? fun entry =>
      !fields.any fun field => entry.1.isAtom field || entry.1.isText field
    let duplicate := fields.find? fun field =>
      (fetchAtom entries field).isSome && (fetchText entries field).isSome
    match unknown, duplicate with
    | none, none => checkEach (fun _ field => fetchField entries context field) 0 fields
    | some (key, _), _ => .error (.tuple [.atom "unknown_or_duplicate_field", context, key])
    | none, some field =>
      .error (.tuple [.atom "unknown_or_duplicate_field", context, .atom field])
  | _ => .error (invalidField context)

/-- `nonempty_binary`, with the binary. -/
def nonemptyBinary (value field : Value) : Except Refusal Binary :=
  match value with
  | .text (byte :: bytes) => .ok (byte :: bytes)
  | _ => .error (invalidField field)

/-- `optional_binary`, with the binary. -/
def optionalBinary (value field : Value) : Except Refusal (Option Binary) :=
  match value with
  | .atom "nil" => .ok none
  | value => (nonemptyBinary value field).map some

/-- `exact_value` of an integer. -/
def exactValue (value : Value) (expected : Int) (field : Value) : Except Refusal Unit :=
  match value with
  | .number (.int n) => if n = expected then .ok () else .error (invalidField field)
  | _ => .error (invalidField field)

/-- `public_url`, with the URL. -/
def publicUrl (value field : Value) : Except Refusal (Option Binary) :=
  match value with
  | .atom "nil" => .ok none
  | .text bytes =>
    let uri := Uri.parse bytes
    if (uri.scheme = some (ascii "http") ∨ uri.scheme = some (ascii "https")) ∧
        uri.host ≠ none ∧ uri.host ≠ some [] ∧ uri.userinfo = none ∧ uri.query = none ∧
        uri.fragment = none then .ok (some bytes)
    else .error (invalidField field)
  | _ => .error (invalidField field)

/-- `optional_http_status`, with the status. -/
def optionalHttpStatus (value field : Value) : Except Refusal (Option Int) :=
  match value with
  | .atom "nil" => .ok none
  | .number (.int n) =>
    if 100 ≤ n ∧ n ≤ 599 then .ok (some n) else .error (invalidField field)
  | _ => .error (invalidField field)

/-- Whether a text is written as a date is. -/
def dateForm (text : Binary) : Bool :=
  match (if text.head? = some 45 ∨ text.head? = some 43 then text.drop 1 else text) with
  | [y₁, y₂, y₃, y₄, 45, m₁, m₂, 45, d₁, d₂] =>
    [y₁, y₂, y₃, y₄, m₁, m₂, d₁, d₂].all isDigit
  | _ => false

/-- `persisted_date`. -/
def persistedDate : Value → Except Refusal Date
  | .text bytes =>
    match Date.fromIso8601 bytes with
    | some date => .ok date
    | none => .error (.atom (if dateForm bytes then "invalid_date" else "invalid_format"))
  | _ => .error (.atom "invalid_date")

end Fields

section Reading

/-- A chain of checks passes when its first does and the rest does on what it found. -/
theorem bind_ok {α β : Type} {check : Except Refusal α} {next : α → Except Refusal β} {result : β} :
    check >>= next = .ok result ↔ ∃ found, check = .ok found ∧ next found = .ok result := by
  cases check with
  | error reason =>
    constructor
    · intro passed
      cases passed
    · intro ⟨_, passed, _⟩
      cases passed
  | ok found =>
    constructor
    · intro passed
      exact ⟨found, rfl, passed⟩
    · intro ⟨_, same, passed⟩
      cases same
      exact passed

/-- Every item passes its check when all do. -/
theorem checkEach_forall {α β : Type} {check : Nat → α → Except Refusal β} {items : List α} :
    ∀ {index : Nat} {results : List β}, checkEach check index items = .ok results →
      List.Forall₂ (fun item result => ∃ index, check index item = .ok result) items results := by
  induction items with
  | nil =>
    intro index results passed
    cases passed
    exact .nil
  | cons item items ih =>
    intro index results passed
    obtain ⟨first, checked, later⟩ := bind_ok.mp passed
    obtain ⟨rest, others, same⟩ := bind_ok.mp later
    cases same
    exact .cons ⟨index, checked⟩ (ih others)

/-- What every passed check gives holds of every item that passed. -/
theorem checkEach_imp {α β : Type} {check : Nat → α → Except Refusal β} {related : α → β → Prop}
    {items : List α} {index : Nat} {results : List β}
    (passed : checkEach check index items = .ok results)
    (gives : ∀ index item result, check index item = .ok result → related item result) :
    List.Forall₂ related items results := by
  refine (checkEach_forall passed).imp fun item result => ?_
  intro ⟨index, checked⟩
  exact gives index item result checked

/-- A field that was read is under its name. -/
theorem get_of_forall {entries : List (Value × Value)} {fields : List String} {values : Record}
    (each : List.Forall₂ (fun field value => fetch entries field = some value.2 ∧ value.1 = field)
      fields values) {field : String} (asked : field ∈ fields) :
    fetch entries field = some (values.get field) ∧
      values.lookup field = some (values.get field) := by
  induction each with
  | nil => cases asked
  | @cons first value fields values found _ ih =>
    obtain ⟨fetched, name⟩ := found
    by_cases same : field = first
    · have here : List.lookup field (value :: values) = some value.2 := by
        rw [List.lookup_cons, beq_iff_eq.mpr (same.trans name.symm)]
      rw [Record.get, here, same]
      exact ⟨fetched, rfl⟩
    · have later : List.lookup field (value :: values) = List.lookup field values := by
        have other : (field == value.1) = false := by
          rw [beq_eq_false_iff_ne, name]
          exact same
        rw [List.lookup_cons, other]
      rw [Record.get, later]
      exact ih (List.mem_of_ne_of_mem same asked)

/-- A record that was read has the fields of the map. -/
theorem exactFields_get {map : Value} {fields : List String} {context : Value} {values : Record}
    (read : exactFields map fields context = .ok values) {field : String} (asked : field ∈ fields) :
    map.field? field = some (values.get field) ∧
      values.lookup field = some (values.get field) := by
  unfold exactFields at read
  split at read
  · next entries =>
    dsimp only at read
    split at read
    · refine get_of_forall (checkEach_imp read fun _ name value found => ?_) asked
      unfold fetchField at found
      split at found
      · next fetched =>
        cases found
        exact ⟨fetched, rfl⟩
      · cases found
    · cases read
    · cases read
  · cases read

/-- Deleting a field leaves the others. -/
theorem lookup_delete {values : Record} {field other : String} (differs : field ≠ other) :
    (values.delete other).lookup field = values.lookup field := by
  unfold Record.delete
  induction values with
  | nil => rfl
  | cons value values ih =>
    by_cases dropped : value.1 = other
    · have mismatch : (field == value.1) = false := by
        rw [beq_eq_false_iff_ne, dropped]
        exact differs
      rw [List.filter_cons_of_neg (by simpa using dropped), ih, List.lookup_cons, mismatch]
    · rw [List.filter_cons_of_pos (by simpa using dropped), List.lookup_cons, List.lookup_cons, ih]

/-- Putting a field leaves the others. -/
theorem lookup_put {values : Record} {field other : String} {value : Value}
    (differs : field ≠ other) : (values.put other value).lookup field = values.lookup field := by
  have mismatch : (field == other) = false := beq_eq_false_iff_ne.mpr differs
  rw [Record.put, List.lookup_cons, mismatch, lookup_delete differs]

/-- A record that is made a map has the fields of the record. -/
theorem toValue_field (values : Record) (field : String) :
    values.toValue.field? field = values.lookup field := by
  have atoms : fetchAtom (values.map fun value => (.atom value.1, value.2)) field =
      values.lookup field := by
    unfold fetchAtom
    induction values with
    | nil => rfl
    | cons value values ih =>
      rw [List.map_cons, List.find?_cons, List.lookup_cons, Value.isAtom]
      by_cases same : value.1 = field
      · rw [beq_iff_eq.mpr same, beq_iff_eq.mpr same.symm]
        rfl
      · rw [beq_eq_false_iff_ne.mpr same, beq_eq_false_iff_ne.mpr (Ne.symm same)]
        exact ih
  have texts : fetchText (values.map fun value => (.atom value.1, value.2)) field = none := by
    unfold fetchText
    rw [List.find?_map, Option.map_map, Option.map_eq_none_iff, List.find?_eq_none]
    intro value _
    exact Bool.false_ne_true
  rw [Record.toValue, Value.field?, fetch, atoms, texts, Option.or_none]

/-- A binary that is not empty is the text of its bytes. -/
theorem nonemptyBinary_text {value field : Value} {bytes : Binary}
    (passed : nonemptyBinary value field = .ok bytes) : value = .text bytes := by
  unfold nonemptyBinary at passed
  split at passed
  · cases passed
    rfl
  · cases passed

end Reading

end Sidereon.MergeReport
