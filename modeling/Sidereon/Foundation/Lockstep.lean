import Sidereon.Foundation.Interleaving

/-!
# Programs in step

Two programs run in step when they make linked calls for as long as their answers agree, and end
together. What agrees may depend on what was answered before. The rules are those of a contract, for
two programs at a time.
-/

namespace Foundation

/-- Histories of the same length whose answers agree, each with what came before it. -/
inductive Agreeing {Call : Type} {Answer : Call → Type}
    (agree : History Call Answer → Event Call Answer → Event Call Answer → Prop) :
    History Call Answer → History Call Answer → Prop where
  | start : Agreeing agree [] []
  | answered {history history' : History Call Answer} {event event' : Event Call Answer}
      (before : Agreeing agree history history') (agrees : agree history event event') :
      Agreeing agree (event :: history) (event' :: history')

namespace Program

variable {Call : Type} {Answer : Call → Type} {Crash α α' β β' : Type}

section InStep

variable (linked : Call → Call → Prop)
  (agree : History Call Answer → Event Call Answer → Event Call Answer → Prop)
  (post : History Call Answer → Except Crash α → Except Crash β → Prop)

/-- From a history of the first on, two programs make linked calls as long as the answers agree, and
end together as the condition says. -/
def InStep : History Call Answer → Program Call Answer Crash α → Program Call Answer Crash β → Prop
  | history, .done value, .done value' => post history (.ok value) (.ok value')
  | history, .crash reason, .crash reason' => post history (.error reason) (.error reason')
  | history, .call request next, .call request' next' => linked request request' ∧
      ∀ answer answer', agree history ⟨request, answer⟩ ⟨request', answer'⟩ →
        InStep (⟨request, answer⟩ :: history) (next answer) (next' answer')
  | _, _, _ => False

variable {linked agree post} {history : History Call Answer}
  {program : Program Call Answer Crash α} {program' : Program Call Answer Crash β}

/-- Of two values. -/
@[simp] theorem inStep_pure {value : α} {value' : β} :
    InStep linked agree post history (Pure.pure value) (Pure.pure value') ↔
      post history (.ok value) (.ok value') :=
  Iff.rfl

/-- Of single calls. -/
theorem inStep_perform {request request' : Call}
    {post : History Call Answer → Except Crash (Answer request) → Except Crash (Answer request') → Prop} :
    InStep linked agree post history (perform request) (perform request') ↔
      linked request request' ∧ ∀ answer answer',
        agree history ⟨request, answer⟩ ⟨request', answer'⟩ →
          post (⟨request, answer⟩ :: history) (.ok answer) (.ok answer') :=
  Iff.rfl

/-- A weaker condition. -/
theorem InStep.mono {post' : History Call Answer → Except Crash α → Except Crash β → Prop}
    (inStep : InStep linked agree post history program program')
    (weaker : ∀ history outcome outcome', post history outcome outcome' →
      post' history outcome outcome') :
    InStep linked agree post' history program program' := by
  induction program generalizing history program' with
  | done value =>
    cases program' with
    | done value' => exact weaker _ _ _ inStep
    | crash reason' => exact inStep.elim
    | call request' next' => exact inStep.elim
  | crash reason =>
    cases program' with
    | done value' => exact inStep.elim
    | crash reason' => exact weaker _ _ _ inStep
    | call request' next' => exact inStep.elim
  | call request next ih =>
    cases program' with
    | done value' => exact inStep.elim
    | crash reason' => exact inStep.elim
    | call request' next' =>
      exact ⟨inStep.1, fun answer answer' agrees => ih answer (inStep.2 answer answer' agrees)⟩

/-- The rule of sequence. -/
theorem InStep.bind {rest : α → Program Call Answer Crash α'}
    {rest' : β → Program Call Answer Crash β'}
    {middle : History Call Answer → Except Crash α → Except Crash β → Prop}
    {post : History Call Answer → Except Crash α' → Except Crash β' → Prop}
    (first : InStep linked agree middle history program program')
    (values : ∀ history value value', middle history (.ok value) (.ok value') →
      InStep linked agree post history (rest value) (rest' value'))
    (crashes : ∀ history reason reason', middle history (.error reason) (.error reason') →
      post history (.error reason) (.error reason')) :
    InStep linked agree post history (program >>= rest) (program' >>= rest') := by
  change InStep linked agree post history (program.bind rest) (program'.bind rest')
  induction program generalizing history program' with
  | done value =>
    cases program' with
    | done value' => exact values _ _ _ first
    | crash reason' => exact first.elim
    | call request' next' => exact first.elim
  | crash reason =>
    cases program' with
    | done value' => exact first.elim
    | crash reason' => exact crashes _ _ _ first
    | call request' next' => exact first.elim
  | call request next ih =>
    cases program' with
    | done value' => exact first.elim
    | crash reason' => exact first.elim
    | call request' next' =>
      exact ⟨first.1, fun answer answer' agrees => ih answer (first.2 answer answer' agrees)⟩

/-- A program runs in step with itself while its answers agree only when they are equal. -/
theorem Uses.inStep {allowed : Call → Prop} {program : Program Call Answer Crash α}
    {Inv : History Call Answer → Prop} (uses : program.Uses allowed)
    (itself : ∀ request, allowed request → linked request request)
    (same : ∀ history request answer answer', allowed request → Inv history →
      agree history ⟨request, answer⟩ ⟨request, answer'⟩ → answer = answer')
    (preserved : ∀ history request answer, allowed request → Inv history →
      Inv (⟨request, answer⟩ :: history)) (initial : Inv history) :
    InStep linked agree (fun history outcome outcome' => outcome = outcome' ∧ Inv history) history
      program program := by
  induction program generalizing history with
  | done value => exact ⟨rfl, initial⟩
  | crash reason => exact ⟨rfl, initial⟩
  | call request next ih =>
    refine ⟨itself request uses.1, fun answer answer' agrees => ?_⟩
    cases same history request answer answer' uses.1 initial agrees
    exact ih answer (uses.2 answer) (preserved history request answer uses.1 initial)

/-- What runs afterwards keeps the programs in step. -/
theorem InStep.afterwards {last : Program Call Answer Crash Unit}
    {post : Except Crash α → Except Crash β → Prop}
    (first : InStep linked agree (fun _ => post) history program program')
    (closes : ∀ history,
      InStep linked agree (fun _ outcome outcome' => outcome = outcome') history last last)
    (crashes : ∀ reason, post (.error reason) (.error reason)) :
    InStep linked agree (fun _ => post) history (program.afterwards last)
      (program'.afterwards last) := by
  have closed (value : Except Crash α) (value' : Except Crash β) (holds : post value value')
      (history : History Call Answer) (ends : Program Call Answer Crash α)
      (ends' : Program Call Answer Crash β)
      (both : ∀ history, InStep linked agree (fun _ => post) history ends ends') :
      InStep linked agree (fun _ => post) history (last >>= fun _ => ends)
        (last >>= fun _ => ends') := by
    refine (closes history).bind (fun history _ _ _ => both history) fun _ reason reason' same => ?_
    cases same
    exact crashes reason
  induction program generalizing history program' with
  | done value =>
    cases program' with
    | done value' => exact closed _ _ first history _ _ fun _ => first
    | crash reason' => exact first.elim
    | call request' next' => exact first.elim
  | crash reason =>
    cases program' with
    | done value' => exact first.elim
    | crash reason' => exact closed _ _ first history _ _ fun _ => first
    | call request' next' => exact first.elim
  | call request next ih =>
    cases program' with
    | done value' => exact first.elim
    | crash reason' => exact first.elim
    | call request' next' =>
      exact ⟨first.1, fun answer answer' agrees => ih answer (first.2 answer answer' agrees)⟩

/-- Programs in step have made linked calls wherever agreeing answers have brought them, and are
still in step. -/
theorem InStep.reaches {program rest : Program Call Answer Crash α}
    {program' rest' : Program Call Answer Crash β} {history' : History Call Answer}
    (inStep : InStep linked agree post [] program program')
    (agreeing : Agreeing agree history history') (reaches : program.Reaches history rest)
    (reaches' : program'.Reaches history' rest') :
    List.Forall₂ (fun event event' => linked event.request event'.request) history history' ∧
      InStep linked agree post history rest rest' := by
  induction agreeing generalizing rest rest' with
  | start =>
    cases reaches
    cases reaches'
    exact ⟨.nil, inStep⟩
  | answered _ agrees ih =>
    cases reaches with
    | answered before answer =>
      cases reaches' with
      | answered before' answer' =>
        have earlier := ih before before'
        exact ⟨.cons earlier.2.1 earlier.1, earlier.2.2 answer answer' agrees⟩

end InStep

end Program

end Foundation
