import Mathlib.Data.List.AList
import Mathlib.Data.List.InsertIdx

/-!
# Marks kept beside a list

Some entries of a list carry a mark that is kept in a map from positions to marks, apart from the
list. When the list is edited, the positions have to follow. Each edit of the map here is the edit
of the list of marks that the list itself makes.
-/

namespace Foundation

variable {α : Type}

/-- A map from positions to marks. -/
abbrev PositionMap (α : Type) := AList fun _ : Nat => α

namespace PositionMap

/-- The map of some pairs, with the positions renamed; a later pair wins. -/
def renamed (rename : Nat → Nat) (entries : List (Sigma fun _ : Nat => α)) : PositionMap α :=
  entries.foldl (fun map entry => map.insert (rename entry.1) entry.2) ∅

/-- The positions from `index` on move by `delta`. -/
def shift (map : PositionMap α) (index delta : Nat) : PositionMap α :=
  renamed (fun position => if index ≤ position then position + delta else position) map.entries

/-- The mark at `index` goes, and the later positions move down. -/
def drop (map : PositionMap α) (index : Nat) : PositionMap α :=
  renamed (fun position => if index < position then position - 1 else position)
    (map.entries.filter fun entry => entry.1 != index)

/-- The mark of an entry, if it has one, is put at its position. -/
def note (map : PositionMap α) (position : Nat) : Option α → PositionMap α
  | some mark => map.insert position mark
  | none => map

/-- One step of `retain`, at the entry with a flag: the marks kept so far and the next position. -/
def retainStep (map : PositionMap α) (kept : PositionMap α × Nat) (flag : Bool × Nat) :
    PositionMap α × Nat :=
  if flag.1 then (kept.1.note kept.2 (map.lookup flag.2), kept.2 + 1) else kept

/-- The marks of the entries with a true flag, at the positions these entries move to. -/
def retain (map : PositionMap α) (flags : List Bool) : PositionMap α :=
  (flags.zipIdx.foldl map.retainStep (∅, 0)).1

/-- The marks of a list. -/
def collect (marks : List (Option α)) : PositionMap α :=
  marks.zipIdx.foldl (fun map mark => map.note mark.2 mark.1) ∅

/-- A map holds the marks of a list, and no others. -/
def Marks (map : PositionMap α) (marks : List (Option α)) : Prop :=
  ∀ position, map.lookup position = marks[position]?.join

end PositionMap

/-- The entries of a list with a true flag. -/
def keptBy {β : Type} : List Bool → List β → List β
  | flag :: flags, item :: items =>
    if flag then item :: keptBy flags items else keptBy flags items
  | _, _ => []

section Lists

variable {β γ δ : Type} {related : β → γ → Prop} {xs : List β} {ys : List γ}

theorem keptBy_sublist (flags : List Bool) : ∀ xs : List β, (keptBy flags xs).Sublist xs := by
  induction flags with
  | nil => intro xs; exact List.nil_sublist xs
  | cons flag flags ih =>
    intro xs
    cases xs with
    | nil => exact List.Sublist.slnil
    | cons x xs =>
      cases flag with
      | false => exact (ih xs).cons x
      | true => exact (ih xs).cons_cons x

theorem map_keptBy (f : β → δ) (flags : List Bool) :
    ∀ xs : List β, (keptBy flags xs).map f = keptBy flags (xs.map f) := by
  induction flags with
  | nil => intro xs; rfl
  | cons flag flags ih =>
    intro xs
    cases xs with
    | nil => rfl
    | cons x xs =>
      cases flag with
      | false => exact ih xs
      | true => exact congrArg (f x :: ·) (ih xs)

/-- Entries that a predicate refuses are inserted without changing what it accepts. -/
theorem filter_insertIdx {accepts : β → Bool} {x : β} (refused : accepts x = false) :
    ∀ (index : Nat) (xs : List β), (xs.insertIdx index x).filter accepts = xs.filter accepts := by
  intro index
  induction index with
  | zero => intro xs; simp [refused]
  | succ index ih =>
    intro xs
    cases xs with
    | nil => rfl
    | cons y ys => simp only [List.insertIdx_succ_cons, List.filter_cons, ih]

/-- An item of a list has a partner in a list that is related to it item by item. -/
theorem forall₂_partner (pairs : List.Forall₂ related xs ys) {x : β} (member : x ∈ xs) :
    ∃ y ∈ ys, related x y := by
  obtain ⟨index, found⟩ := List.mem_iff_get.mp member
  have bound : index.val < ys.length := pairs.length_eq ▸ index.isLt
  have pair : related x (ys.get ⟨index, bound⟩) := found ▸ pairs.get index.isLt bound
  exact ⟨ys.get ⟨index, bound⟩, List.get_mem ys ⟨index, bound⟩, pair⟩

/-- Related lists stay related when both lose the entries without a true flag. -/
theorem forall₂_keptBy (pairs : List.Forall₂ related xs ys) :
    ∀ flags : List Bool, List.Forall₂ related (keptBy flags xs) (keptBy flags ys) := by
  induction pairs with
  | nil => intro flags; cases flags <;> exact .nil
  | cons first _ ih =>
    intro flags
    cases flags with
    | nil => exact .nil
    | cons flag flags =>
      cases flag with
      | false => exact ih flags
      | true => exact .cons first (ih flags)

/-- Related lists stay related when both lose an entry. -/
theorem forall₂_eraseIdx (pairs : List.Forall₂ related xs ys) :
    ∀ index : Nat, List.Forall₂ related (xs.eraseIdx index) (ys.eraseIdx index) := by
  induction pairs with
  | nil => intro index; exact .nil
  | cons first rest ih =>
    intro index
    cases index with
    | zero => exact rest
    | succ index => exact .cons first (ih index)

/-- Related lists stay related when related entries are inserted into both. -/
theorem forall₂_insertIdx {x : β} {y : γ} (inserted : related x y)
    (pairs : List.Forall₂ related xs ys) :
    ∀ index : Nat, List.Forall₂ related (xs.insertIdx index x) (ys.insertIdx index y) := by
  induction pairs with
  | nil =>
    intro index
    cases index with
    | zero => exact .cons inserted .nil
    | succ index => exact .nil
  | cons first rest ih =>
    intro index
    cases index with
    | zero => exact .cons inserted (.cons first rest)
    | succ index => exact .cons first (ih index)

/-- Lists related to one list are related to each other. -/
theorem forall₂_through {other : β → δ → Prop} {result : δ → γ → Prop}
    (through : ∀ x y z, related x y → other x z → result z y)
    (pairs : List.Forall₂ related xs ys) :
    ∀ {zs : List δ}, List.Forall₂ other xs zs → List.Forall₂ result zs ys := by
  induction pairs with
  | nil => intro zs others; cases others; exact .nil
  | cons first _ ih =>
    intro zs others
    cases others with
    | cons own rest => exact .cons (through _ _ _ first own) (ih rest)

/-- A list read with its positions is related to what its entries are related to. -/
theorem forall₂_zipIdx {f : β × Nat → δ} {result : δ → γ → Prop}
    (pairs : List.Forall₂ related xs ys) :
    ∀ start : Nat,
      (∀ position x y, xs[position]? = some x → ys[position]? = some y → related x y →
        result (f (x, start + position)) y) →
      List.Forall₂ result ((xs.zipIdx start).map f) ys := by
  induction pairs with
  | nil => intro start _; exact .nil
  | cons first _ ih =>
    intro start each
    rw [List.zipIdx_cons, List.map_cons]
    refine .cons (each 0 _ _ rfl rfl first) (ih (start + 1) ?_)
    intro position x y here there own
    have := each (position + 1) x y here there own
    rwa [show start + (position + 1) = start + 1 + position by omega] at this

end Lists

namespace PositionMap

section Renaming

/-- Renaming from a map: the renamed pairs, and below them the marks of the map. -/
theorem mem_lookup_foldl {rename : Nat → Nat} {position : Nat} {mark : α} :
    ∀ {entries : List (Sigma fun _ : Nat => α)} {map : PositionMap α}, entries.NodupKeys →
      (∀ first ∈ entries, ∀ second ∈ entries, rename first.1 = rename second.1 →
        first.1 = second.1) →
      (mark ∈ (entries.foldl (fun map entry => map.insert (rename entry.1) entry.2) map).lookup
          position ↔
        (∃ own, rename own = position ∧ ⟨own, mark⟩ ∈ entries) ∨
          mark ∈ map.lookup position ∧ ∀ entry ∈ entries, rename entry.1 ≠ position) := by
  intro entries
  induction entries with
  | nil => simp
  | cons entry entries ih =>
    intro map distinct apart
    rw [List.nodupKeys_cons] at distinct
    have others : ∀ first ∈ entries, ∀ second ∈ entries,
        rename first.1 = rename second.1 → first.1 = second.1 := fun first member second other =>
      apart first (List.mem_cons_of_mem _ member) second (List.mem_cons_of_mem _ other)
    rw [List.foldl_cons, ih distinct.2 others]
    by_cases here : rename entry.1 = position
    · have only : ∀ other ∈ entries, rename other.1 ≠ position := by
        intro other member same
        have equal := apart other (List.mem_cons_of_mem _ member) entry (List.mem_cons_self ..)
          (same.trans here.symm)
        exact distinct.1 (equal ▸ List.mem_keys_of_mem member)
      subst here
      constructor
      · rintro (⟨own, renamed, member⟩ | ⟨found, -⟩)
        · exact .inl ⟨own, renamed, List.mem_cons_of_mem _ member⟩
        · rw [AList.lookup_insert, Option.mem_some_iff] at found
          exact .inl ⟨entry.1, rfl, found ▸ List.mem_cons_self ..⟩
      · rintro (⟨own, renamed, member⟩ | ⟨-, absent⟩)
        · rcases List.mem_cons.mp member with same | member
          · refine .inr ⟨?_, only⟩
            rw [AList.lookup_insert, ← same]
            rfl
          · exact absurd renamed (only _ member)
        · exact absurd rfl (absent entry (List.mem_cons_self ..))
    · rw [AList.lookup_insert_ne (Ne.symm here)]
      constructor
      · rintro (⟨own, renamed, member⟩ | ⟨found, absent⟩)
        · exact .inl ⟨own, renamed, List.mem_cons_of_mem _ member⟩
        · exact .inr ⟨found, List.forall_mem_cons.mpr ⟨here, absent⟩⟩
      · rintro (⟨own, renamed, member⟩ | ⟨found, absent⟩)
        · rcases List.mem_cons.mp member with same | member
          · subst same
            exact absurd renamed here
          · exact .inl ⟨own, renamed, member⟩
        · exact .inr ⟨found, (List.forall_mem_cons.mp absent).2⟩

/-- The marks of a map whose positions were renamed apart. -/
theorem mem_lookup_renamed {rename : Nat → Nat} {position : Nat} {mark : α}
    {entries : List (Sigma fun _ : Nat => α)} (distinct : entries.NodupKeys)
    (apart : ∀ first ∈ entries, ∀ second ∈ entries, rename first.1 = rename second.1 →
      first.1 = second.1) :
    mark ∈ (renamed rename entries).lookup position ↔
      ∃ own, rename own = position ∧ ⟨own, mark⟩ ∈ entries := by
  rw [renamed, mem_lookup_foldl distinct apart]
  simp

end Renaming

section Edits

variable {map : PositionMap α} {marks : List (Option α)} {index : Nat}

/-- An entry of a map is a mark of the list. -/
theorem Marks.mem_entries (held : map.Marks marks) (position : Nat) (mark : α) :
    ⟨position, mark⟩ ∈ map.entries ↔ marks[position]? = some (some mark) := by
  have found : mark ∈ map.lookup position ↔ ⟨position, mark⟩ ∈ map.entries :=
    List.mem_dlookup_iff map.nodupKeys
  rw [← found, held position, Option.mem_def, Option.join_eq_some_iff]

/-- A map holds the marks of a list when each of its marks is one of the list, and conversely. -/
theorem marks_of_mem
    (same : ∀ position mark, mark ∈ map.lookup position ↔ marks[position]? = some (some mark)) :
    map.Marks marks := by
  intro position
  apply Option.ext
  intro mark
  rw [Option.join_eq_some_iff]
  exact same position mark

/-- The empty map holds the marks of a list without marks. -/
theorem marks_empty (unmarked : ∀ mark ∈ marks, mark = none) : Marks ∅ marks := by
  intro position
  rw [AList.lookup_empty]
  cases here : marks[position]? with
  | none => rfl
  | some mark => rw [unmarked mark (List.mem_of_getElem? here)]; rfl

/-- An entry without a mark is inserted into the list. -/
theorem Marks.shift (held : map.Marks marks) (inside : index ≤ marks.length) :
    (map.shift index 1).Marks (marks.insertIdx index none) := by
  apply marks_of_mem
  intro position mark
  rw [PositionMap.shift, mem_lookup_renamed map.nodupKeys
    (by intro first _ second _; split <;> split <;> omega)]
  simp only [held.mem_entries, List.getElem?_insertIdx]
  constructor
  · rintro ⟨own, renamed, found⟩
    by_cases later : index ≤ own
    · rw [if_pos later] at renamed
      subst renamed
      rw [if_neg (by omega), if_neg (by omega)]
      exact found
    · rw [if_neg later] at renamed
      subst renamed
      rw [if_pos (by omega)]
      exact found
  · intro found
    by_cases before : position < index
    · rw [if_pos before] at found
      exact ⟨position, if_neg (by omega), found⟩
    · rw [if_neg before] at found
      by_cases here : position = index
      · rw [if_pos here, if_pos (by omega)] at found
        cases found
      · rw [if_neg here] at found
        exact ⟨position - 1, by rw [if_pos (by omega)]; omega, found⟩

/-- An entry is removed from the list, with its mark. -/
theorem Marks.drop (held : map.Marks marks) : (map.drop index).Marks (marks.eraseIdx index) := by
  apply marks_of_mem
  intro position mark
  have others : ∀ entry ∈ map.entries.filter (fun entry => entry.1 != index), entry.1 ≠ index := by
    intro entry member
    simpa using (List.mem_filter.mp member).2
  rw [PositionMap.drop, mem_lookup_renamed (map.nodupKeys.sublist List.filter_sublist) (by
    intro first member second other
    have := others first member
    have := others second other
    split <;> split <;> omega)]
  simp only [List.mem_filter, held.mem_entries, List.getElem?_eraseIdx, bne_iff_ne, ne_eq]
  constructor
  · rintro ⟨own, renamed, found, other⟩
    by_cases later : index < own
    · rw [if_pos later] at renamed
      rw [if_neg (by omega), show position + 1 = own by omega]
      exact found
    · rw [if_neg later] at renamed
      subst renamed
      rw [if_pos (by omega)]
      exact found
  · intro found
    by_cases before : position < index
    · rw [if_pos before] at found
      exact ⟨position, if_neg (by omega), found, by omega⟩
    · rw [if_neg before] at found
      exact ⟨position + 1, if_pos (by omega), found, by omega⟩

/-- What is found after the mark of an entry was put at its position. -/
theorem lookup_note (mark : Option α) (index position : Nat) :
    (map.note index mark).lookup position =
      if position = index then mark.or (map.lookup position) else map.lookup position := by
  by_cases here : position = index
  · rw [if_pos here, here]
    cases mark with
    | none => rfl
    | some own => exact AList.lookup_insert _
  · rw [if_neg here]
    cases mark with
    | none => rfl
    | some own => exact AList.lookup_insert_ne here

/-- The marks that a fold over a list collects, above those it starts from. -/
theorem lookup_collect (marks : List (Option α)) :
    ∀ (start position : Nat) (map : PositionMap α),
      ((marks.zipIdx start).foldl (fun map mark => map.note mark.2 mark.1) map).lookup position =
        if start ≤ position then (marks[position - start]?.join).or (map.lookup position)
        else map.lookup position := by
  induction marks with
  | nil => intro start position map; simp
  | cons mark marks ih =>
    intro start position map
    rw [List.zipIdx_cons, List.foldl_cons, ih, lookup_note]
    rcases Nat.lt_trichotomy position start with before | rfl | after
    · rw [if_neg (by omega), if_neg (by omega), if_neg (by omega)]
    · rw [if_neg (by omega), if_pos rfl, if_pos (le_refl _), Nat.sub_self]
      rfl
    · rw [if_pos (by omega), if_neg (by omega), if_pos (by omega),
        show position - start = position - (start + 1) + 1 by omega, List.getElem?_cons_succ]

/-- The marks of a list are held by the map they are collected in. -/
theorem marks_collect (marks : List (Option α)) : (collect marks).Marks marks := by
  intro position
  rw [collect, lookup_collect, if_pos (Nat.zero_le _), AList.lookup_empty, Option.or_none,
    Nat.sub_zero]

/-- The marks that a fold over the flags keeps, above those kept before. -/
theorem lookup_retainStep (flags : List Bool) :
    ∀ (old new position : Nat) (kept : PositionMap α) (marks : List (Option α)),
      (∀ below, map.lookup (old + below) = marks[below]?.join) → marks.length = flags.length →
      ((flags.zipIdx old).foldl map.retainStep (kept, new)).1.lookup position =
        if new ≤ position then
          ((keptBy flags marks)[position - new]?.join).or (kept.lookup position)
        else kept.lookup position := by
  induction flags with
  | nil =>
    intro old new position kept marks _ _
    simp [keptBy]
  | cons flag flags ih =>
    intro old new position kept marks held length
    obtain _ | ⟨mark, marks⟩ := marks
    · simp at length
    have rest : ∀ below, map.lookup (old + 1 + below) = marks[below]?.join := by
      intro below
      have := held (below + 1)
      rwa [List.getElem?_cons_succ, show old + (below + 1) = old + 1 + below by omega] at this
    have own : map.lookup old = mark := held 0
    have shorter : marks.length = flags.length := by simpa using length
    rw [List.zipIdx_cons, List.foldl_cons]
    cases flag with
    | false => exact ih (old + 1) new position kept marks rest shorter
    | true =>
      have step : map.retainStep (kept, new) (true, old) = (kept.note new mark, new + 1) := by
        simp [retainStep, own]
      have own : keptBy (true :: flags) (mark :: marks) = mark :: keptBy flags marks := rfl
      rw [step, ih (old + 1) (new + 1) position (kept.note new mark) marks rest shorter,
        lookup_note, own]
      rcases Nat.lt_trichotomy position new with before | rfl | after
      · rw [if_neg (by omega), if_neg (by omega), if_neg (by omega)]
      · rw [if_neg (by omega), if_pos rfl, if_pos (le_refl _), Nat.sub_self]
        rfl
      · rw [if_pos (by omega), if_neg (by omega), if_pos (by omega),
          show position - new = position - (new + 1) + 1 by omega, List.getElem?_cons_succ]

/-- The entries with a true flag are kept, with their marks. -/
theorem Marks.retain {flags : List Bool} (held : map.Marks marks)
    (length : marks.length = flags.length) : (map.retain flags).Marks (keptBy flags marks) := by
  intro position
  rw [PositionMap.retain, lookup_retainStep flags 0 0 position ∅ marks
    (fun below => by rw [Nat.zero_add]; exact held below) length, if_pos (Nat.zero_le _),
    AList.lookup_empty, Option.or_none, Nat.sub_zero]

end Edits

end PositionMap

end Foundation
