import Mathlib.Data.List.Induction
import Mathlib.Logic.Function.Basic
import Mathlib.Order.Bounds.Basic

/-!
# Folds with a state for each key

A list of items of different keys, mixed in any order, is read once with a state for each key. What
the fold leaves at a key is what the items of that key alone leave, in their order.
-/

namespace Foundation

section Local

variable {α β κ : Type}

/-- A fold whose steps act on each key by itself is one fold for each key. -/
theorem foldl_apply {step : (κ → β) → α → κ → β} {own : κ → β → α → β}
    (acts : ∀ state item key, step state item key = own key (state key) item) (items : List α) :
    ∀ (state : κ → β) (key : κ), items.foldl step state key = items.foldl (own key) (state key) := by
  induction items with
  | nil => exact fun _ _ => rfl
  | cons item items ih =>
    intro state key
    rw [List.foldl_cons, ih, acts, List.foldl_cons]

/-- Updating each of some keys once updates the state at these and at no other. -/
theorem foldl_update [DecidableEq κ] (change : β → β) {keys : List κ} (once : keys.Nodup) :
    ∀ (state : κ → β) (key : κ),
      keys.foldl (fun state key => Function.update state key (change (state key))) state key =
        if key ∈ keys then change (state key) else state key := by
  induction keys with
  | nil => exact fun _ _ => rfl
  | cons first keys ih =>
    intro state key
    have apart : first ∉ keys := (List.nodup_cons.mp once).1
    rw [List.foldl_cons, ih (List.nodup_cons.mp once).2]
    by_cases same : key = first
    · rw [same, if_neg apart, Function.update_self, if_pos List.mem_cons_self]
    · rw [Function.update_of_ne same]
      simp only [List.mem_cons, same, false_or]

/-- A count that some items add one to is the number of these items. -/
theorem foldl_count (counted : α → Bool) (items : List α) :
    ∀ start : ℕ, items.foldl (fun count item => if counted item then count + 1 else count) start =
      start + (items.filter counted).length := by
  induction items with
  | nil => exact fun _ => rfl
  | cons item items ih =>
    intro start
    rw [List.foldl_cons, ih, List.filter_cons]
    split
    · rw [List.length_cons]
      omega
    · rfl

end Local

section Changes

variable {α β κ : Type} [DecidableEq β]

/-- The items of a list whose value is not that of the item before, each with the item before. The
first has none before it. -/
def changes (value : α → β) : Option α → List α → List (Option α × α)
  | _, [] => []
  | before, item :: items =>
    if before.map value = some (value item) then changes value (some item) items
    else (before, item) :: changes value (some item) items

/-- The items of a list whose value is not that of the item of their key before. -/
def keyedChanges [DecidableEq κ] (key : α → κ) (value : α → β) :
    (κ → Option α) → List α → List (Option α × α)
  | _, [] => []
  | latest, item :: items =>
    let rest := keyedChanges key value (Function.update latest (key item) (some item)) items
    if (latest (key item)).map value = some (value item) then rest
    else (latest (key item), item) :: rest

/-- The changes of one key are those of its items alone, however they are mixed with others. -/
theorem keyedChanges_filter [DecidableEq κ] (key : α → κ) (value : α → β) (own : κ)
    (items : List α) : ∀ latest : κ → Option α,
      (keyedChanges key value latest items).filter (fun change => key change.2 = own) =
        changes value (latest own) (items.filter fun item => key item = own) := by
  induction items with
  | nil => exact fun _ => rfl
  | cons item items ih =>
    intro latest
    by_cases same : key item = own
    · have kept : (item :: items).filter (fun item => key item = own) =
          item :: items.filter fun item => key item = own :=
        List.filter_cons_of_pos (by simpa using same)
      rw [kept, changes, keyedChanges, same]
      split
      · rw [ih, Function.update_self]
      · rw [List.filter_cons_of_pos (by simpa using same), ih, Function.update_self]
    · have dropped : (item :: items).filter (fun item => key item = own) =
          items.filter fun item => key item = own :=
        List.filter_cons_of_neg (by simpa using same)
      have untouched : Function.update latest (key item) (some item) own = latest own :=
        Function.update_of_ne (Ne.symm same) _ _
      rw [dropped, keyedChanges]
      split
      · rw [ih, untouched]
      · rw [List.filter_cons_of_neg (by simpa using same), ih, untouched]

/-- The changes stand in the order of the list. -/
theorem keyedChanges_sublist [DecidableEq κ] (key : α → κ) (value : α → β) (items : List α) :
    ∀ latest : κ → Option α, ((keyedChanges key value latest items).map Prod.snd).Sublist items := by
  induction items with
  | nil => exact fun _ => .slnil
  | cons item items ih =>
    intro latest
    rw [keyedChanges]
    split
    · exact (ih _).cons item
    · exact (ih _).cons_cons item

end Changes

section Spans

variable {α κ : Type} [LinearOrder κ] (key : α → κ)

/-- A span that takes in one more item. -/
def widen : Option (α × α) → α → Option (α × α)
  | none, item => some (item, item)
  | some (first, last), item =>
    some (if key first ≤ key item then first else item, if key item ≤ key last then last else item)

/-- The span of a list: no item is before its first or after its last, and both are in the list. -/
def Spans (items : List α) : Option (α × α) → Prop
  | none => items = []
  | some (first, last) =>
    first ∈ items ∧ last ∈ items ∧ ∀ item ∈ items, key first ≤ key item ∧ key item ≤ key last

/-- A span that takes in an item after its list is the span of both. -/
theorem Spans.widen {items : List α} {span : Option (α × α)} (spans : Spans key items span)
    (item : α) : Spans key (items ++ [item]) (widen key span item) := by
  cases span with
  | none =>
    cases (show items = [] from spans)
    exact ⟨List.mem_singleton_self item, List.mem_singleton_self item, fun other member => by
      rw [List.mem_singleton.mp member]
      exact ⟨le_rfl, le_rfl⟩⟩
  | some span =>
    obtain ⟨first, last⟩ := span
    have old {other : α} (member : other ∈ items) : other ∈ items ++ [item] :=
      List.mem_append_left _ member
    have new : item ∈ items ++ [item] := List.mem_append_right _ (List.mem_singleton_self item)
    refine ⟨?_, ?_, fun other member => ⟨?_, ?_⟩⟩
    · split
      · exact old spans.1
      · exact new
    · split
      · exact old spans.2.1
      · exact new
    · rcases List.mem_append.mp member with inside | added
      · have above := (spans.2.2 other inside).1
        split
        · exact above
        · next later => exact (not_le.mp later).le.trans above
      · rw [List.mem_singleton.mp added]
        split
        · next earlier => exact earlier
        · exact le_rfl
    · rcases List.mem_append.mp member with inside | added
      · have below := (spans.2.2 other inside).2
        split
        · exact below
        · next later => exact below.trans (not_le.mp later).le
      · rw [List.mem_singleton.mp added]
        split
        · next earlier => exact earlier
        · exact le_rfl

/-- Taking in the items of a list one by one gives its span. -/
theorem spans_foldl (items : List α) : Spans key items (items.foldl (widen key) none) := by
  induction items using List.reverseRecOn with
  | nil => rfl
  | append_singleton items item ih =>
    rw [List.foldl_append]
    exact ih.widen key item

end Spans

end Foundation
