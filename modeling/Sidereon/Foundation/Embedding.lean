import Sidereon.Foundation.Handling

/-!
# Programs among more calls

A program over some calls is one over more: each of its calls is one of the others, and its crashes
are some of theirs. A contract over the larger histories that reads the smaller ones off them is kept
by the larger program as the smaller one keeps its own.
-/

namespace Foundation.Program

variable {Call Call' : Type} {Answer : Call → Type} {Answer' : Call' → Type} {Crash Crash' α : Type}
  (inject : Call → Call') (back : (request : Call) → Answer' (inject request) → Answer request)
  (raise : Crash → Crash')

/-- The same program over more calls. -/
def embed : Program Call Answer Crash α → Program Call' Answer' Crash' α
  | .done value => .done value
  | .crash reason => .crash (raise reason)
  | .call request next => .call (inject request) fun answer => (next (back request answer)).embed

variable {inject back raise}

/-- A contract that is read off larger histories is kept among more calls. -/
theorem Keeps.embed {permits : History Call Answer → Call → Prop}
    {permits' : History Call' Answer' → Call' → Prop}
    {post : History Call Answer → Except Crash α → Prop} {history : History Call Answer}
    {history' : History Call' Answer'} {program : Program Call Answer Crash α}
    (view : History Call' Answer' → History Call Answer)
    (extends' : ∀ past request (answer : Answer' (inject request)),
      view (⟨inject request, answer⟩ :: past) = ⟨request, back request answer⟩ :: view past)
    (permitted : ∀ past request, permits (view past) request → permits' past (inject request))
    (keeps : Keeps permits (fun _ _ _ => True) post history program)
    (viewed : view history' = history) :
    Keeps permits' (fun _ _ _ => True) (fun _ _ => True) history' (program.embed inject back raise) := by
  induction program generalizing history history' with
  | done value => trivial
  | crash reason => trivial
  | call request next ih =>
    obtain ⟨asked, onward⟩ := keeps
    constructor
    · rw [← viewed] at asked
      exact permitted history' request asked
    · intro answer _
      apply ih (back request answer) (onward (back request answer) trivial)
      rw [extends', viewed]

end Foundation.Program
