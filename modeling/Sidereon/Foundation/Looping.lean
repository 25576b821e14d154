import Sidereon.Foundation.Program

/-!
# Loops of programs

A fold over a list runs one program for each item. The rules of a loop carry an invariant of the
items gone through, the value they have led to and the world. What a program yields is combined from
what is ensured of it and from what its calls leave unchanged.
-/

namespace Foundation

namespace Program

variable {Call : Type} {Answer : Call → Type} {Crash World α β : Type}
  {respond : (request : Call) → World → Answer request → World → Prop}

section Combining

variable {program : Program Call Answer Crash α} {world : World}

/-- What every outcome meets, every value meets. -/
theorem Ensures.yields {post : Except Crash α → World → Prop}
    (ensures : program.Ensures respond world post) :
    program.Yields respond world fun value after => post (.ok value) after := by
  induction program generalizing world with
  | done value => exact ensures_done.mp ensures
  | crash reason => trivial
  | call request next ih =>
    intro answer between responded
    exact ih answer (ensures_call.mp ensures answer between responded)

/-- Two conditions that values meet are met together. -/
theorem Yields.and {post post' : α → World → Prop} (yields : program.Yields respond world post)
    (yields' : program.Yields respond world post') :
    program.Yields respond world fun value after => post value after ∧ post' value after := by
  induction program generalizing world with
  | done value => exact ⟨yields, yields'⟩
  | crash reason => trivial
  | call request next ih =>
    intro answer between responded
    exact ih answer (yields answer between responded) (yields' answer between responded)

/-- What is met under a condition is met as an implication. -/
theorem Yields.imp {condition : Prop} {post : α → World → Prop}
    (yields : condition → program.Yields respond world post) :
    program.Yields respond world fun value after => condition → post value after := by
  induction program generalizing world with
  | done value => exact yields
  | crash reason => trivial
  | call request next ih =>
    intro answer between responded
    exact ih answer fun holds => yields holds answer between responded

/-- What is yielded among some answers is yielded among fewer. -/
theorem Yields.among {respond' : (request : Call) → World → Answer request → World → Prop}
    {post : α → World → Prop} (yields : program.Yields respond world post)
    (fewer : ∀ request world (answer : Answer request) world',
      respond' request world answer world' → respond request world answer world') :
    program.Yields respond' world post := by
  induction program generalizing world with
  | done value => exact yields
  | crash reason => trivial
  | call request next ih =>
    intro answer between responded
    exact ih answer (yields answer between (fewer _ _ _ _ responded))

/-- A program that makes calls of a kind only relates its worlds as each of these calls does. -/
theorem Uses.yields {allowed : Call → Prop} {related : World → World → Prop}
    (uses : program.Uses allowed) (unchanged : ∀ world, related world world)
    (composed : ∀ before between after, related before between → related between after →
      related before after)
    (answered : ∀ request before (answer : Answer request) after, allowed request →
      respond request before answer after → related before after) :
    program.Yields respond world fun _ after => related world after := by
  induction program generalizing world with
  | done value => exact unchanged world
  | crash reason => trivial
  | call request next ih =>
    intro answer between responded
    have first := answered request world answer between uses.1 responded
    exact (ih answer (uses.2 answer)).mono fun _ after onward =>
      composed world between after first onward

end Combining

section Loops

variable {step : β → α → Program Call Answer Crash β} {items : List α} {initial : β} {world : World}

/-- The rule of a loop for the values it ends with. -/
theorem yields_foldlM (invariant : List α → β → World → Prop)
    (starts : invariant [] initial world)
    (carries : ∀ before item after value world, items = before ++ item :: after →
      invariant before value world →
      (step value item).Yields respond world (invariant (before ++ [item]))) :
    (items.foldlM step initial).Yields respond world (invariant items) := by
  have onward : ∀ rest before value world, items = before ++ rest → invariant before value world →
      (rest.foldlM step value).Yields respond world (invariant items) := by
    intro rest
    induction rest with
    | nil =>
      intro before value world same holds
      rw [List.append_nil] at same
      rw [List.foldlM_nil, yields_pure, same]
      exact holds
    | cons item rest ih =>
      intro before value world same holds
      rw [List.foldlM_cons]
      apply (carries before item rest value world same holds).bind
      intro value' between holds'
      exact ih (before ++ [item]) value' between (by simp [same]) holds'
  exact onward items [] initial world rfl starts

/-- The rule of a loop that ends with a value. -/
theorem ensures_foldlM (invariant : List α → β → World → Prop)
    (starts : invariant [] initial world)
    (carries : ∀ before item after value world, items = before ++ item :: after →
      invariant before value world → (step value item).Ensures respond world fun outcome world' =>
        ∃ value', outcome = .ok value' ∧ invariant (before ++ [item]) value' world') :
    (items.foldlM step initial).Ensures respond world fun outcome world' =>
      ∃ value, outcome = .ok value ∧ invariant items value world' := by
  have onward : ∀ rest before value world, items = before ++ rest → invariant before value world →
      (rest.foldlM step value).Ensures respond world fun outcome world' =>
        ∃ value, outcome = .ok value ∧ invariant items value world' := by
    intro rest
    induction rest with
    | nil =>
      intro before value world same holds
      rw [List.append_nil] at same
      rw [List.foldlM_nil, ensures_pure, same]
      exact ⟨value, rfl, holds⟩
    | cons item rest ih =>
      intro before value world same holds
      rw [List.foldlM_cons]
      refine Ensures.bind (carries before item rest value world same holds) ?_ ?_
      · rintro value' between ⟨_, returned, holds'⟩
        cases returned
        exact ih (before ++ [item]) value' between (by simp [same]) holds'
      · rintro reason between ⟨_, impossible, _⟩
        cases impossible
  exact onward items [] initial world rfl starts

end Loops

end Program

end Foundation
