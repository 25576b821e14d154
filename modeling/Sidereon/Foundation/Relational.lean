import Sidereon.Foundation.Program

/-!
# Programs that behave alike

Two programs are alike in a relation when they make the same calls and, whatever the answers, crash
in the same way or end with related values. What one does in a world the other then does too. The
rules follow the tree of calls, as those of `Ensures` do.
-/

namespace Foundation.Program

variable {Call : Type} {Answer : Call → Type} {Crash World α α' β β' : Type}

/-- Two programs that make the same calls and end in related values. -/
inductive Alike (related : α → β → Prop) :
    Program Call Answer Crash α → Program Call Answer Crash β → Prop where
  | done {value : α} {value' : β} (ends : related value value') :
      Alike related (.done value) (.done value')
  | crash (reason : Crash) : Alike related (.crash reason) (.crash reason)
  | call (request : Call) {next : Answer request → Program Call Answer Crash α}
      {next' : Answer request → Program Call Answer Crash β}
      (continues : ∀ answer, Alike related (next answer) (next' answer)) :
      Alike related (.call request next) (.call request next')

namespace Alike

variable {related : α → β → Prop} {related' : α' → β' → Prop}

/-- Related values are alike as programs. -/
theorem pure {value : α} {value' : β} (ends : related value value') :
    Alike related (Pure.pure value : Program Call Answer Crash α) (Pure.pure value') :=
  .done ends

/-- A program is alike to itself. -/
theorem refl (program : Program Call Answer Crash α) : Alike Eq program program := by
  induction program with
  | done value => exact .done rfl
  | crash reason => exact .crash reason
  | call request next ih => exact .call request ih

/-- A weaker relation. -/
theorem mono {weaker : α → β → Prop} {program : Program Call Answer Crash α}
    {program' : Program Call Answer Crash β} (alike : Alike related program program')
    (implies : ∀ value value', related value value' → weaker value value') :
    Alike weaker program program' := by
  induction alike with
  | done ends => exact .done (implies _ _ ends)
  | crash reason => exact .crash reason
  | call request _ ih => exact .call request ih

/-- The rule of sequence. -/
theorem bind {first : Program Call Answer Crash α} {first' : Program Call Answer Crash β}
    {rest : α → Program Call Answer Crash α'} {rest' : β → Program Call Answer Crash β'}
    (alike : Alike related first first')
    (continues : ∀ value value', related value value' →
      Alike related' (rest value) (rest' value')) :
    Alike related' (first >>= rest) (first' >>= rest') := by
  change Alike related' (first.bind rest) (first'.bind rest')
  induction alike with
  | done ends => exact continues _ _ ends
  | crash reason => exact .crash reason
  | call request _ ih => exact .call request ih

/-- The rule of sequence for one program and two continuations. -/
theorem bind_left {first : Program Call Answer Crash α}
    {rest : α → Program Call Answer Crash α'} {rest' : α → Program Call Answer Crash β'}
    (continues : ∀ value, Alike related' (rest value) (rest' value)) :
    Alike related' (first >>= rest) (first >>= rest') :=
  (refl first).bind fun value _ same => same ▸ continues value

/-- Outcomes that are alike: the same crash or related values. -/
def Outcomes (related : α → β → Prop) : Except Crash α → Except Crash β → Prop
  | .ok value, .ok value' => related value value'
  | .error reason, .error reason' => reason = reason'
  | _, _ => False

/-- What one program does, a program alike to it does. -/
theorem exec {respond : (request : Call) → World → Answer request → World → Prop}
    {program : Program Call Answer Crash α} {program' : Program Call Answer Crash β}
    (alike : Alike related program program') {world world' : World} {outcome : Except Crash α}
    (executed : program.Exec respond world outcome world') :
    ∃ outcome', program'.Exec respond world outcome' world' ∧
      Outcomes related outcome outcome' := by
  induction alike generalizing world with
  | done ends =>
    obtain ⟨rfl, rfl⟩ := executed
    exact ⟨_, ⟨rfl, rfl⟩, ends⟩
  | crash reason =>
    obtain ⟨rfl, rfl⟩ := executed
    exact ⟨_, ⟨rfl, rfl⟩, rfl⟩
  | call request _ ih =>
    obtain ⟨answer, between, responded, executed⟩ := executed
    obtain ⟨outcome', executed', alike⟩ := ih answer executed
    exact ⟨outcome', ⟨answer, between, responded, executed'⟩, alike⟩

end Alike

section Guarded

variable (outer : Call → Prop) (missing : (request : Call) → Answer request → Prop)
  (lost : Program Call Answer Crash α → Prop)

/-- A program makes outer calls only, and when an answer is missing it is lost. -/
def Guarded : Program Call Answer Crash α → Prop
  | .done _ => True
  | .crash _ => True
  | .call request next => outer request ∧
      ∀ answer, Guarded (next answer) ∧ (missing request answer → lost (next answer))

variable {outer missing lost}

/-- Of a value. -/
@[simp] theorem guarded_pure {value : α} :
    Guarded outer missing lost (Pure.pure value : Program Call Answer Crash α) :=
  trivial

/-- Of a computation that may fail. -/
@[simp] theorem guarded_orCrash {reason : Crash} {result : Option α} :
    Guarded outer missing lost (orCrash reason result : Program Call Answer Crash α) := by
  cases result <;> trivial

/-- Of a single call. -/
theorem guarded_perform {request : Call}
    {lost : Program Call Answer Crash (Answer request) → Prop} (permitted : outer request)
    (present : ∀ answer, missing request answer → lost (.done answer)) :
    Guarded outer missing lost (perform request : Program Call Answer Crash (Answer request)) :=
  ⟨permitted, fun answer => ⟨trivial, present answer⟩⟩

/-- The rule of sequence: what is lost in the first part is lost as a whole. -/
theorem Guarded.bind {program : Program Call Answer Crash α'}
    {rest : α' → Program Call Answer Crash α} {lost' : Program Call Answer Crash α' → Prop}
    (first : Guarded outer missing lost' program)
    (carries : ∀ program, lost' program → lost (program >>= rest))
    (values : ∀ value, Guarded outer missing lost (rest value)) :
    Guarded outer missing lost (program >>= rest) := by
  change Guarded outer missing lost (program.bind rest)
  induction program with
  | done value => exact values value
  | crash reason => trivial
  | call request next ih =>
    refine ⟨first.1, fun answer => ?_⟩
    have continues := first.2 answer
    exact ⟨ih answer continues.1, fun absent => carries _ (continues.2 absent)⟩

/-- A guarded program makes outer calls only. -/
theorem Guarded.uses {program : Program Call Answer Crash α}
    (guarded : Guarded outer missing lost program) : program.Uses outer := by
  induction program with
  | done value => trivial
  | crash reason => trivial
  | call request next ih => exact ⟨guarded.1, fun answer => ih answer (guarded.2 answer).1⟩

/-- A guarded program does the same in two worlds, or is lost in the first. -/
theorem Guarded.agree {reply : (request : Call) → World → Answer request × World}
    {program : Program Call Answer Crash α} (guarded : Guarded outer missing lost program)
    (Alongside : World → World → Prop)
    (answers : ∀ request world world', outer request → Alongside world world' →
      missing request (reply request world).1 ∨
        (reply request world).1 = (reply request world').1 ∧
          Alongside (reply request world).2 (reply request world').2)
    {world world' : World} (alongside : Alongside world world') :
    (∃ rest between, lost rest ∧ program.replay reply world = rest.replay reply between) ∨
      (program.replay reply world).1 = (program.replay reply world').1 ∧
        Alongside (program.replay reply world).2 (program.replay reply world').2 := by
  induction program generalizing world world' with
  | done value => exact .inr ⟨rfl, alongside⟩
  | crash reason => exact .inr ⟨rfl, alongside⟩
  | call request next ih =>
    have continues := guarded.2 (reply request world).1
    cases answers request world world' guarded.1 alongside with
    | inl absent => exact .inl ⟨_, _, continues.2 absent, rfl⟩
    | inr same =>
      rw [replay, replay, ← same.1]
      exact ih _ continues.1 same.2

end Guarded

end Foundation.Program
