import Mathlib.Data.List.Nodup

/-!
# Codes and the checks that read them

A table says which text stands for which value, and no value has two texts. Texts that are joined by
a separator can be told apart again when none of them has it. What is read of several texts is read
by a chain of checks, which fails with the first check that does.
-/

namespace Foundation

/-- A table of the texts that stand for values, in which no value has two texts. -/
structure Coding (Text α : Type) where
  rows : List (Text × α)
  distinct : (rows.map Prod.snd).Nodup

namespace Coding

variable {Text α : Type} [DecidableEq Text]

/-- The value that a text stands for. -/
def read (coding : Coding Text α) (text : Text) : Option α := coding.rows.lookup text

/-- A value has one text. -/
theorem read_unique {coding : Coding Text α} {text text' : Text} {value : α}
    (reads : coding.read text = some value) (reads' : coding.read text' = some value) :
    text = text' := by
  have row {name : Text} (found : coding.read name = some value) : (name, value) ∈ coding.rows := by
    obtain ⟨front, back, split, -⟩ := List.lookup_eq_some_iff.mp found
    rw [split]
    simp
  have same := List.inj_on_of_nodup_map coding.distinct (row reads) (row reads') rfl
  exact congrArg Prod.fst same

end Coding

section Joining

variable {α : Type}

/-- What is before the first separator, and what is behind it. -/
theorem append_separator_inj {separator : α} {front front' back back' : List α}
    (absent : separator ∉ front) (absent' : separator ∉ front')
    (same : front ++ separator :: back = front' ++ separator :: back') :
    front = front' ∧ back = back' := by
  induction front generalizing front' with
  | nil =>
    cases front' with
    | nil => exact ⟨rfl, (List.cons.inj same).2⟩
    | cons item front' =>
      obtain ⟨first, -⟩ := List.cons.inj same
      exact absurd (first ▸ List.mem_cons_self) absent'
  | cons item front ih =>
    cases front' with
    | nil =>
      obtain ⟨first, -⟩ := List.cons.inj same
      exact absurd (first ▸ List.mem_cons_self) absent
    | cons item' front' =>
      obtain ⟨rfl, rest⟩ := List.cons.inj same
      obtain ⟨rfl, behind⟩ := ih (List.not_mem_of_not_mem_cons absent)
        (List.not_mem_of_not_mem_cons absent') rest
      exact ⟨rfl, behind⟩

/-- What is before the last separator, and what is behind it. -/
theorem append_separator_inj_last {separator : α} {front front' back back' : List α}
    (absent : separator ∉ back) (absent' : separator ∉ back')
    (same : front ++ separator :: back = front' ++ separator :: back') :
    front = front' ∧ back = back' := by
  have reversed := congrArg List.reverse same
  simp only [List.reverse_append, List.reverse_cons, List.append_assoc, List.cons_append,
    List.nil_append] at reversed
  have apart := append_separator_inj (List.mem_reverse.not.mpr absent)
    (List.mem_reverse.not.mpr absent') reversed
  exact ⟨List.reverse_inj.mp apart.2, List.reverse_inj.mp apart.1⟩

/-- Texts without the separator are found in what joins them. -/
theorem intercalate_inj [BEq α] [LawfulBEq α] {separator : α} {texts texts' : List (List α)}
    (absent : ∀ text ∈ texts, separator ∉ text) (absent' : ∀ text ∈ texts', separator ∉ text)
    (some : texts ≠ []) (some' : texts' ≠ [])
    (same : [separator].intercalate texts = [separator].intercalate texts') : texts = texts' := by
  have split := congrArg (List.splitOn separator) same
  rwa [List.splitOn_intercalate separator absent some,
    List.splitOn_intercalate separator absent' some'] at split

end Joining

/-- A chain of checks passes when its first check does and the rest does on what it found. -/
theorem passes_bind {ε α β : Type} {check : Except ε α} {next : α → Except ε β} {result : β} :
    check >>= next = .ok result ↔ ∃ found, check = .ok found ∧ next found = .ok result := by
  cases check with
  | error reason =>
    constructor
    · intro passed
      cases passed
    · rintro ⟨_, passed, _⟩
      cases passed
  | ok found =>
    constructor
    · intro passed
      exact ⟨found, rfl, passed⟩
    · rintro ⟨_, same, passed⟩
      cases same
      exact passed

end Foundation
