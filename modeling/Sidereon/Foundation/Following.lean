import Mathlib

/-!
# Computations that follow others

A computation that may be refused follows another one in a relation when it succeeds wherever the
other does, with a related result. Nothing is said of refusals: what follows may succeed more often.
The rules follow the structure of a chain of checks.
-/

namespace Foundation

variable {ε α α' β β' : Type}

/-- Wherever the first succeeds, the second does, with a related result. -/
def Follows (related : α → β → Prop) (first : Except ε α) (second : Except ε β) : Prop :=
  ∀ result, first = .ok result → ∃ result', second = .ok result' ∧ related result result'

/-- A result that is mapped is of a result. -/
theorem mapped_ok {computation : Except ε α} {f : α → β} {result : β}
    (passed : computation.map f = .ok result) : ∃ found, computation = .ok found ∧ f found = result := by
  cases computation with
  | error reason => cases passed
  | ok found => exact ⟨found, rfl, Except.ok.inj passed⟩

namespace Follows

variable {related : α → β → Prop} {related' : α' → β' → Prop}

/-- What is refused is followed by everything. -/
theorem error {reason : ε} {second : Except ε β} : Follows related (.error reason) second := by
  intro result passed
  cases passed

/-- Related results. -/
theorem ok {result : α} {result' : β} (relates : related result result') :
    Follows (ε := ε) related (.ok result) (.ok result') := by
  intro found passed
  cases passed
  exact ⟨result', rfl, relates⟩

/-- A computation follows itself. -/
theorem refl (computation : Except ε α) : Follows Eq computation computation :=
  fun result passed => ⟨result, passed, rfl⟩

/-- A computation whose success makes another one the same is followed by it. -/
theorem of_ok {first second : Except ε α}
    (same : ∀ result, first = .ok result → second = .ok result) : Follows Eq first second :=
  fun result passed => ⟨result, same result passed, rfl⟩

/-- A weaker relation. -/
theorem mono {weaker : α → β → Prop} {first : Except ε α} {second : Except ε β}
    (follows : Follows related first second)
    (implies : ∀ result result', related result result' → weaker result result') :
    Follows weaker first second := by
  intro result passed
  obtain ⟨result', passed', relates⟩ := follows result passed
  exact ⟨result', passed', implies result result' relates⟩

/-- The rule of sequence. -/
theorem bind {first : Except ε α} {second : Except ε β} {rest : α → Except ε α'}
    {rest' : β → Except ε β'} (follows : Follows related first second)
    (continues : ∀ result result', related result result' →
      Follows related' (rest result) (rest' result')) :
    Follows related' (first >>= rest) (second >>= rest') := by
  intro found passed
  cases first with
  | error reason => cases passed
  | ok result =>
    obtain ⟨result', rfl, relates⟩ := follows result rfl
    exact continues result result' relates found passed

/-- The rule of sequence after equal results. -/
theorem andThen {first second : Except ε α} {rest : α → Except ε α'} {rest' : α → Except ε β'}
    (follows : Follows Eq first second)
    (continues : ∀ result, Follows related' (rest result) (rest' result)) :
    Follows related' (first >>= rest) (second >>= rest') := by
  refine follows.bind ?_
  rintro result _ rfl
  exact continues result

/-- The rule of sequence when the rest is told where its argument is from. -/
theorem andThen_of {first second : Except ε α} {rest : α → Except ε α'} {rest' : α → Except ε β'}
    (follows : Follows Eq first second)
    (continues : ∀ result, first = .ok result → Follows related' (rest result) (rest' result)) :
    Follows related' (first >>= rest) (second >>= rest') := by
  intro found passed
  cases first with
  | error reason => cases passed
  | ok result =>
    obtain ⟨_, rfl, rfl⟩ := follows result rfl
    exact continues result rfl found passed

/-- The rule of a function on the result. -/
theorem map {first : Except ε α} {second : Except ε β} {f : α → α'} {f' : β → β'}
    (follows : Follows related first second)
    (continues : ∀ result result', related result result' → related' (f result) (f' result')) :
    Follows related' (first.map f) (second.map f') := by
  intro found passed
  cases first with
  | error reason => cases passed
  | ok result =>
    cases passed
    obtain ⟨result', rfl, relates⟩ := follows result rfl
    exact ⟨f' result', rfl, continues result result' relates⟩

/-- The rule of a discarded result. -/
theorem discard {first second : Except ε α} (follows : Follows Eq first second) :
    Follows Eq (Functor.discard first) (Functor.discard second) :=
  follows.map fun _ _ _ => rfl

/-- The rule of a list of computations. -/
theorem forM {ι ι' : Type} {alike : ι → ι' → Prop} {first : ι → Except ε PUnit}
    {second : ι' → Except ε PUnit} {items : List ι} {items' : List ι'}
    (each : List.Forall₂ alike items items')
    (follows : ∀ item item', alike item item' → Follows Eq (first item) (second item')) :
    Follows Eq (items.forM first) (items'.forM second) := by
  induction each with
  | nil => exact .refl _
  | cons relates _ ih => exact (follows _ _ relates).andThen fun _ => ih

/-- The rule of a choice that both make alike. -/
theorem ite {condition condition' : Prop} [Decidable condition] [Decidable condition']
    {first other : Except ε α} {second other' : Except ε β} (alike : condition ↔ condition')
    (yes : Follows related first second) (no : Follows related other other') :
    Follows related (if condition then first else other)
      (if condition' then second else other') := by
  by_cases holds : condition
  · rw [if_pos holds, if_pos (alike.mp holds)]
    exact yes
  · rw [if_neg holds, if_neg (mt alike.mpr holds)]
    exact no

end Follows

end Foundation
