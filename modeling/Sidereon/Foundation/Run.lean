import Mathlib.Data.List.Basic

/-!
# Runs of a transition system

A run is the list of the steps taken from a start state, each with the state before it, its label
and the state after it. What holds at the start and is preserved by every step holds before and
after every step of every run.
-/

namespace Foundation

variable {State Label : Type}

/-- One taken step: the state before, the label, the state after. -/
structure Taken (State Label : Type) where
  before : State
  label : Label
  after : State

/-- The runs from a start state, with the state they end in. -/
inductive Run (Step : State → Label → State → Prop) (start : State) :
    List (Taken State Label) → State → Prop where
  | nil : Run Step start [] start
  | snoc {steps : List (Taken State Label)} {state state' : State} {label : Label}
      (run : Run Step start steps state) (step : Step state label state') :
      Run Step start (steps ++ [⟨state, label, state'⟩]) state'

namespace Run

variable {Step : State → Label → State → Prop} {start last : State}
  {steps : List (Taken State Label)}

/-- An invariant holds in the last state of a run. -/
theorem invariant (Inv : State → Prop) (initial : Inv start)
    (preserved : ∀ state label state', Inv state → Step state label state' → Inv state')
    (run : Run Step start steps last) : Inv last := by
  induction run with
  | nil => exact initial
  | snoc _ step ih => exact preserved _ _ _ ih step

/-- A run ends where it starts or where one of its steps ends. -/
theorem ends (run : Run Step start steps last) :
    last = start ∨ ∃ taken ∈ steps, taken.after = last := by
  cases run with
  | nil => exact .inl rfl
  | snoc run step => exact .inr ⟨_, List.mem_append_right _ (List.mem_singleton_self _), rfl⟩

/-- Every step of a run is a step, taken from a state in which an invariant holds. -/
theorem taken (Inv : State → Prop) (initial : Inv start)
    (preserved : ∀ state label state', Inv state → Step state label state' → Inv state')
    (run : Run Step start steps last) :
    ∀ step ∈ steps, Inv step.before ∧ Step step.before step.label step.after := by
  induction run with
  | nil => simp
  | snoc run step ih =>
    intro taken member
    rcases List.mem_append.mp member with earlier | latest
    · exact ih taken earlier
    · rw [List.mem_singleton] at latest
      subst latest
      exact ⟨run.invariant Inv initial preserved, step⟩

/-- A step before a run makes a longer run. -/
theorem cons {state last : State} {label : Label} (run : Run Step state steps last)
    (step : Step start label state) : Run Step start (⟨start, label, state⟩ :: steps) last := by
  induction run with
  | nil => exact Run.nil.snoc step
  | snoc run later ih => exact ih.snoc later

/-- A run that ends with a step is a run before it. -/
theorem of_snoc {taken : Taken State Label} (run : Run Step start (steps ++ [taken]) last) :
    Run Step start steps taken.before ∧ Step taken.before taken.label taken.after ∧
      taken.after = last := by
  generalize longer : steps ++ [taken] = all at run
  cases run with
  | nil => simp at longer
  | snoc run step =>
    obtain ⟨rfl, same⟩ := List.append_inj' longer rfl
    obtain rfl := List.singleton_inj.mp same
    exact ⟨run, step, rfl⟩

/-- A run up to one of its steps, and that step. -/
theorem split {earlier later : List (Taken State Label)} {taken : Taken State Label}
    (run : Run Step start (earlier ++ taken :: later) last) :
    Run Step start earlier taken.before ∧ Step taken.before taken.label taken.after := by
  generalize all : earlier ++ taken :: later = steps at run
  induction run generalizing later with
  | nil => simp at all
  | @snoc steps state state' label run step ih =>
    rcases List.eq_nil_or_concat later with rfl | ⟨shorter, latest, rfl⟩
    · obtain ⟨rfl, same⟩ := List.append_inj' all rfl
      obtain rfl := List.singleton_inj.mp same
      exact ⟨run, step⟩
    · rw [List.concat_eq_append, ← List.cons_append, ← List.append_assoc] at all
      exact ih (List.append_inj' all rfl).1

/-- The steps that a function takes for a list of labels, and the state it ends in. -/
def playAll (play : State → Label → Option State) :
    State → List Label → Option (List (Taken State Label) × State)
  | state, [] => some ([], state)
  | state, label :: labels => do
    let state' ← play state label
    let (steps, last) ← playAll play state' labels
    return (⟨state, label, state'⟩ :: steps, last)

/-- What a function plays whose steps are steps extends a run. -/
theorem of_playAll {play : State → Label → Option State}
    (sound : ∀ state label state', play state label = some state' → Step state label state')
    (labels : List Label) :
    ∀ {state last : State} {steps more : List (Taken State Label)}, Run Step start steps state →
      playAll play state labels = some (more, last) → Run Step start (steps ++ more) last := by
  induction labels with
  | nil =>
    intro state last steps more run played
    cases played
    rwa [List.append_nil]
  | cons label labels ih =>
    intro state last steps more run played
    simp only [playAll, Option.bind_eq_bind, Option.bind_eq_some_iff, Option.pure_def,
      Option.some.injEq, Prod.mk.injEq] at played
    obtain ⟨state', stepped, ⟨later, last'⟩, rest, rfl, rfl⟩ := played
    have longer := ih (run.snoc (sound _ _ _ stepped)) rest
    rwa [List.append_assoc] at longer

/-- An invariant that needs a condition on the steps holds in the last state of a run whose steps
all meet the condition. -/
theorem invariant_of (Meets : Taken State Label → Prop) (Inv : State → Prop) (initial : Inv start)
    (preserved : ∀ state label state', Inv state → Step state label state' →
      Meets ⟨state, label, state'⟩ → Inv state')
    (run : Run Step start steps last) (met : ∀ step ∈ steps, Meets step) : Inv last := by
  induction run with
  | nil => exact initial
  | snoc run step ih =>
    refine preserved _ _ _ (ih fun taken member => met taken ?_) step (met _ ?_)
    · exact List.mem_append_left _ member
    · simp

end Run

end Foundation
