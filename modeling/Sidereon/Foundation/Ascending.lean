import Mathlib.Data.List.Sort

/-!
# Ascending lists

The items of a list once each, in ascending order of their keys. A list is in this form exactly when
each key is below the ones after it, and then it stays as it is.
-/

namespace Foundation

section Uniq

variable {α : Type} [DecidableEq α]

/-- Each item once, where it comes first. -/
def uniq : List α → List α
  | [] => []
  | item :: items => item :: (uniq items).filter (· ≠ item)

theorem mem_uniq {items : List α} {x : α} : x ∈ uniq items ↔ x ∈ items := by
  induction items with
  | nil => exact Iff.rfl
  | cons item items ih =>
    rw [uniq, List.mem_cons, List.mem_cons, List.mem_filter, ih, decide_eq_true_eq]
    by_cases same : x = item
    · simp [same]
    · simp [same]

theorem nodup_uniq (items : List α) : (uniq items).Nodup := by
  induction items with
  | nil => exact List.nodup_nil
  | cons item items ih =>
    rw [uniq, List.nodup_cons]
    refine ⟨fun again => ?_, ih.filter _⟩
    have differs := (List.mem_filter.mp again).2
    simp at differs

theorem uniq_of_nodup {items : List α} (nodup : items.Nodup) : uniq items = items := by
  induction items with
  | nil => rfl
  | cons item items ih =>
    obtain ⟨fresh, rest⟩ := List.nodup_cons.mp nodup
    rw [uniq, ih rest, List.filter_eq_self.mpr]
    intro x member
    exact decide_eq_true fun same => fresh (same ▸ member)

end Uniq

section Ascending

variable {α κ : Type} [LinearOrder κ] (key : α → κ)

/-- In the order of the keys, equal keys in the order of the list. -/
def sortBy (items : List α) : List α := items.insertionSort fun a b => key a ≤ key b

theorem mem_sortBy {items : List α} {x : α} : x ∈ sortBy key items ↔ x ∈ items :=
  List.mem_insertionSort _

theorem pairwise_sortBy (items : List α) :
    (sortBy key items).Pairwise fun a b => key a ≤ key b := by
  have total : Std.Total fun a b : α => key a ≤ key b := ⟨fun a b => le_total (key a) (key b)⟩
  have trans : IsTrans α fun a b => key a ≤ key b := ⟨fun _ _ _ => le_trans⟩
  exact List.pairwise_insertionSort _ items

theorem sortBy_of_pairwise {items : List α} (sorted : items.Pairwise fun a b => key a ≤ key b) :
    sortBy key items = items :=
  sorted.insertionSort_eq

/-- Each key is below the ones after it. -/
def Ascending (items : List α) : Prop := items.Pairwise fun a b => key a < key b

instance (items : List α) : Decidable (Ascending key items) :=
  inferInstanceAs (Decidable (items.Pairwise fun a b => key a < key b))

variable {key}

theorem Ascending.nodup {items : List α} (ascending : Ascending key items) : items.Nodup :=
  ascending.imp fun below same => absurd (congrArg key same) below.ne

theorem Ascending.sorted {items : List α} (ascending : Ascending key items) :
    items.Pairwise fun a b => key a ≤ key b := ascending.imp le_of_lt

/-- Sorting keeps an ascending list. -/
theorem Ascending.sortBy_eq {items : List α} (ascending : Ascending key items) :
    sortBy key items = items := sortBy_of_pairwise key ascending.sorted

/-- A sorted list without repetitions is ascending. -/
theorem ascending_of_sorted (inj : Function.Injective key) {items : List α} (nodup : items.Nodup)
    (sorted : items.Pairwise fun a b => key a ≤ key b) : Ascending key items :=
  (sorted.and nodup).imp fun ⟨below, differs⟩ =>
    lt_of_le_of_ne below fun same => differs (inj same)

theorem Ascending.sortBy_uniq_eq [DecidableEq α] {items : List α} (ascending : Ascending key items) :
    sortBy key (uniq items) = items := by
  rw [uniq_of_nodup ascending.nodup, ascending.sortBy_eq]

theorem ascending_sortBy_uniq [DecidableEq α] (inj : Function.Injective key) (items : List α) :
    Ascending key (sortBy key (uniq items)) :=
  ascending_of_sorted inj ((List.perm_insertionSort _ _).nodup_iff.mpr (nodup_uniq items))
    (pairwise_sortBy key _)

end Ascending

end Foundation
