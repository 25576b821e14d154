import Mathlib.Logic.Function.Basic
import Sidereon.Foundation.Program
import Sidereon.Foundation.Run

/-!
# Interleaved programs

Processes run programs against one world, one answered call at a time. A history lists what a
process was answered, latest first. A contract says which calls a history permits and which answers
it expects. A program keeps the contract when every call it makes is permitted, whatever expected
answers came before, and the contracts of all processes together carry an invariant of the world
through every interleaving.
-/

namespace Foundation

/-- An answered call. -/
structure Event (Call : Type) (Answer : Call → Type) where
  request : Call
  answer : Answer request

/-- The answered calls of a process, latest first. -/
abbrev History (Call : Type) (Answer : Call → Type) := List (Event Call Answer)

namespace Program

variable {Call : Type} {Answer : Call → Type} {Crash World α β : Type}

/-- The program that is left after the calls of a history. -/
inductive Reaches (program : Program Call Answer Crash α) :
    History Call Answer → Program Call Answer Crash α → Prop where
  | start : Reaches program [] program
  | answered {history : History Call Answer} {request : Call}
      {next : Answer request → Program Call Answer Crash α}
      (before : Reaches program history (.call request next)) (answer : Answer request) :
      Reaches program (⟨request, answer⟩ :: history) (next answer)

/-- What is left of a program once a call is answered, as it is computed. -/
theorem Reaches.leaves {program left : Program Call Answer Crash α} {history : History Call Answer}
    {request : Call} {next : Answer request → Program Call Answer Crash α}
    {answer : Answer request} (before : program.Reaches history (.call request next))
    (computed : next answer = left) : program.Reaches (⟨request, answer⟩ :: history) left :=
  computed ▸ before.answered answer

/-- What a program reaches by way of what it has reached. -/
theorem Reaches.trans {program middle rest : Program Call Answer Crash α}
    {history later : History Call Answer} (first : program.Reaches history middle)
    (second : middle.Reaches later rest) : program.Reaches (later ++ history) rest := by
  induction second with
  | start => exact first
  | answered _ answer ih => exact .answered ih answer

/-- In a sequence a program reaches what it reaches alone, with the rest to come. -/
theorem Reaches.bind {program left : Program Call Answer Crash α}
    {rest : α → Program Call Answer Crash β} {history : History Call Answer}
    (reaches : program.Reaches history left) :
    (program >>= rest).Reaches history (left >>= rest) := by
  induction reaches with
  | start => exact .start
  | answered _ answer ih => exact .answered ih answer

/-- Before another program a program reaches what it reaches alone, with the other to come. -/
theorem Reaches.afterwards {program left : Program Call Answer Crash α}
    {last : Program Call Answer Crash Unit} {history : History Call Answer}
    (reaches : program.Reaches history left) :
    (program.afterwards last).Reaches history (left.afterwards last) := by
  induction reaches with
  | start => exact .start
  | answered _ answer ih => exact .answered ih answer

/-- The executions of a program that end or are cut off after any call. -/
inductive Attempt (respond : (request : Call) → World → Answer request → World → Prop)
    (program : Program Call Answer Crash α) (world : World) :
    History Call Answer → Program Call Answer Crash α → World → Prop where
  | start : Attempt respond program world [] program world
  | answered {history : History Call Answer} {request : Call}
      {next : Answer request → Program Call Answer Crash α} {between after : World}
      {answer : Answer request}
      (before : Attempt respond program world history (.call request next) between)
      (responded : respond request between answer after) :
      Attempt respond program world (⟨request, answer⟩ :: history) (next answer) after

/-- Of a value there is only the attempt that makes no call. -/
theorem attempt_done {respond : (request : Call) → World → Answer request → World → Prop}
    {value : α} {world world' : World} {history : History Call Answer}
    {rest : Program Call Answer Crash α}
    (attempt : (Program.done value).Attempt respond world history rest world') :
    history = [] ∧ rest = .done value ∧ world' = world := by
  induction attempt with
  | start => exact ⟨rfl, rfl, rfl⟩
  | answered _ _ ih => cases ih.2.1

/-- The last answered call of an attempt. -/
theorem Attempt.last {respond : (request : Call) → World → Answer request → World → Prop}
    {program rest : Program Call Answer Crash α} {world world' : World}
    {history : History Call Answer} {event : Event Call Answer}
    (attempt : program.Attempt respond world (event :: history) rest world') :
    ∃ next between, program.Attempt respond world history (.call event.request next) between ∧
      respond event.request between event.answer world' := by
  cases attempt with
  | answered before responded => exact ⟨_, _, before, responded⟩

/-- An attempt without answered calls has changed nothing. -/
theorem Attempt.unanswered {respond : (request : Call) → World → Answer request → World → Prop}
    {program rest : Program Call Answer Crash α} {world world' : World}
    (attempt : program.Attempt respond world [] rest world') : world' = world := by
  cases attempt
  rfl

/-- What an attempt has left is executed to an outcome of the program. -/
theorem Attempt.exec {respond : (request : Call) → World → Answer request → World → Prop}
    {program rest : Program Call Answer Crash α} {world between world' : World}
    {history : History Call Answer} {outcome : Except Crash α}
    (attempt : program.Attempt respond world history rest between)
    (executed : rest.Exec respond between outcome world') :
    program.Exec respond world outcome world' := by
  induction attempt with
  | start => exact executed
  | answered _ responded ih => exact ih ⟨_, _, responded, executed⟩

/-- An attempt is completed by an execution of what it has left. -/
theorem Attempt.completed {respond : (request : Call) → World → Answer request → World → Prop}
    {program rest : Program Call Answer Crash α} {world between world' : World}
    {history : History Call Answer} {value : α}
    (attempt : program.Attempt respond world history rest between)
    (executed : rest.Exec respond between (.ok value) world') :
    ∃ longer, program.Attempt respond world longer (.done value) world' := by
  induction rest generalizing history between with
  | done result =>
    obtain ⟨same, rfl⟩ := executed
    cases same
    exact ⟨history, attempt⟩
  | crash reason => cases executed.1
  | call request next ih =>
    obtain ⟨answer, after, responded, onward⟩ := executed
    exact ih answer (attempt.answered responded) onward

/-- A program that makes calls of a kind only relates its worlds as each of these calls does. -/
theorem Uses.attempt {respond : (request : Call) → World → Answer request → World → Prop}
    {allowed : Call → Prop} {related : World → World → Prop}
    {program rest : Program Call Answer Crash α} {world world' : World}
    {history : History Call Answer} (uses : program.Uses allowed)
    (unchanged : ∀ world, related world world)
    (answered : ∀ before request (answer : Answer request) between after, related before between →
      allowed request → respond request between answer after → related before after)
    (attempt : program.Attempt respond world history rest world') : related world world' := by
  have reached : rest.Uses allowed ∧ related world world' := by
    induction attempt with
    | start => exact ⟨uses, unchanged world⟩
    | answered _ responded ih =>
      obtain ⟨⟨permitted, onward⟩, far⟩ := ih
      exact ⟨onward _, answered _ _ _ _ _ far permitted responded⟩
  exact reached.2

section Tracing

variable (respond : (request : Call) → World → Answer request → World → Prop)

/-- The executions of a program with their answered calls, first to last, each with the worlds
before and after it. -/
def Traced : Program Call Answer Crash α → World → List (Taken World (Event Call Answer)) →
    Except Crash α → World → Prop
  | .done value, world, trace, outcome, world' =>
    trace = [] ∧ outcome = .ok value ∧ world' = world
  | .crash reason, world, trace, outcome, world' =>
    trace = [] ∧ outcome = .error reason ∧ world' = world
  | .call request next, world, trace, outcome, world' =>
    ∃ answer between later, trace = ⟨world, ⟨request, answer⟩, between⟩ :: later ∧
      respond request world answer between ∧ (next answer).Traced between later outcome world'

variable {respond}

/-- An execution whose answered calls meet a condition is one in the world that answers so. -/
theorem Traced.exec {program : Program Call Answer Crash α} {world world' : World}
    {trace : List (Taken World (Event Call Answer))} {outcome : Except Crash α}
    (traced : program.Traced respond world trace outcome world')
    {meets : Taken World (Event Call Answer) → Prop} (met : ∀ taken ∈ trace, meets taken) :
    program.Exec (fun request before answer after =>
      respond request before answer after ∧ meets ⟨before, ⟨request, answer⟩, after⟩)
      world outcome world' := by
  induction program generalizing world trace with
  | done value => exact traced.2
  | crash reason => exact traced.2
  | call request next ih =>
    obtain ⟨answer, between, later, rfl, responded, rest⟩ := traced
    have first := met _ (List.mem_cons_self ..)
    have onward := ih answer rest fun taken member => met taken (List.mem_cons_of_mem _ member)
    exact ⟨answer, between, ⟨responded, first⟩, onward⟩

/-- A call, then the execution of the rest. -/
theorem Traced.answer {request : Call} {next : Answer request → Program Call Answer Crash α}
    {world between world' : World} {answer : Answer request}
    {later : List (Taken World (Event Call Answer))} {outcome : Except Crash α}
    (responded : respond request world answer between)
    (rest : (next answer).Traced respond between later outcome world') :
    (Program.call request next).Traced respond world
      (⟨world, ⟨request, answer⟩, between⟩ :: later) outcome world' :=
  ⟨answer, between, later, rfl, responded, rest⟩

end Tracing

section Following

variable {Setting : Type}
  (reply : Setting → (request : Call) → World → Answer request × World)

/-- Answer the next calls of a program one by one, each in its own setting. -/
def follow : List Setting → History Call Answer → Program Call Answer Crash α → World →
    History Call Answer × Program Call Answer Crash α × World
  | setting :: later, history, .call request next, world =>
    let answered := reply setting request world
    follow later (⟨request, answered.1⟩ :: history) (next answered.1) answered.2
  | _, history, program, world => (history, program, world)

variable {reply}

/-- Following a program is an attempt at it. -/
theorem attempt_follow {respond : (request : Call) → World → Answer request → World → Prop}
    (sound : ∀ setting request world, respond request world (reply setting request world).1
      (reply setting request world).2)
    {program rest : Program Call Answer Crash α} {world between : World}
    {history : History Call Answer} (settings : List Setting)
    (attempt : program.Attempt respond world history rest between) :
    program.Attempt respond world (follow reply settings history rest between).1
      (follow reply settings history rest between).2.1
      (follow reply settings history rest between).2.2 := by
  induction settings generalizing history rest between with
  | nil => exact attempt
  | cons setting later ih =>
    cases rest with
    | done value => exact attempt
    | crash reason => exact attempt
    | call request next => exact ih (attempt.answered (sound setting request between))

end Following

section Contract

variable (permits : History Call Answer → Call → Prop)
  (expects : History Call Answer → (request : Call) → Answer request → Prop)
  (post : History Call Answer → Except Crash α → Prop)

/-- From a history on, a program makes permitted calls only and ends as the condition says, as long
as the answers are expected ones. -/
def Keeps : History Call Answer → Program Call Answer Crash α → Prop
  | history, .done value => post history (.ok value)
  | history, .crash reason => post history (.error reason)
  | history, .call request next => permits history request ∧
      ∀ answer, expects history request answer → Keeps (⟨request, answer⟩ :: history) (next answer)

variable {permits expects post} {history : History Call Answer}

/-- Of a value. -/
@[simp] theorem keeps_pure {value : α} :
    Keeps permits expects post history (pure value : Program Call Answer Crash α) ↔
      post history (.ok value) :=
  Iff.rfl

/-- Of a crash. -/
@[simp] theorem keeps_crash {reason : Crash} :
    Keeps permits expects post history (Program.crash reason : Program Call Answer Crash α) ↔
      post history (.error reason) :=
  Iff.rfl

/-- Of a single call. -/
@[simp] theorem keeps_perform {request : Call}
    {post : History Call Answer → Except Crash (Answer request) → Prop} :
    Keeps permits expects post history
        (perform request : Program Call Answer Crash (Answer request)) ↔
      permits history request ∧ ∀ answer, expects history request answer →
        post (⟨request, answer⟩ :: history) (.ok answer) :=
  Iff.rfl

/-- Of a sequence: the rest keeps the contract from whatever the first part leaves. -/
theorem keeps_bind {program : Program Call Answer Crash α}
    {rest : α → Program Call Answer Crash β}
    {post : History Call Answer → Except Crash β → Prop} :
    Keeps permits expects post history (program >>= rest) ↔
      Keeps permits expects (fun history outcome =>
        match outcome with
        | .ok value => Keeps permits expects post history (rest value)
        | .error reason => post history (.error reason)) history program := by
  change Keeps permits expects post history (program.bind rest) ↔ _
  induction program generalizing history with
  | done value => exact Iff.rfl
  | crash reason => exact Iff.rfl
  | call request next ih =>
    rw [bind, Keeps, Keeps]
    have continuations : ∀ answer,
        (expects history request answer →
          Keeps permits expects post (⟨request, answer⟩ :: history) ((next answer).bind rest)) ↔
        (expects history request answer →
          Keeps permits expects _ (⟨request, answer⟩ :: history) (next answer)) :=
      fun answer => imp_congr_right fun _ => ih answer
    exact and_congr_right fun _ => forall_congr' continuations

/-- A weaker condition is kept too. -/
theorem Keeps.mono {program : Program Call Answer Crash α}
    {post' : History Call Answer → Except Crash α → Prop}
    (keeps : Keeps permits expects post history program)
    (weaker : ∀ history outcome, post history outcome → post' history outcome) :
    Keeps permits expects post' history program := by
  induction program generalizing history with
  | done value => exact weaker _ _ keeps
  | crash reason => exact weaker _ _ keeps
  | call request next ih =>
    constructor
    · exact keeps.1
    · intro answer expected
      exact ih answer (keeps.2 answer expected)

/-- A contract that permits more is kept too. -/
theorem Keeps.allow {permits' : History Call Answer → Call → Prop}
    {program : Program Call Answer Crash α} (keeps : Keeps permits expects post history program)
    (allowed : ∀ history request, permits history request → permits' history request) :
    Keeps permits' expects post history program := by
  induction program generalizing history with
  | done value => exact keeps
  | crash reason => exact keeps
  | call request next ih =>
    constructor
    · exact allowed history request keeps.1
    · intro answer expected
      exact ih answer (keeps.2 answer expected)

/-- The rule of sequence in the form proofs use: a condition between the two parts. -/
theorem Keeps.bind {program : Program Call Answer Crash α}
    {rest : α → Program Call Answer Crash β}
    {middle : History Call Answer → Except Crash α → Prop}
    {post : History Call Answer → Except Crash β → Prop}
    (first : Keeps permits expects middle history program)
    (values : ∀ history value, middle history (.ok value) →
      Keeps permits expects post history (rest value))
    (crashes : ∀ history reason, middle history (.error reason) → post history (.error reason)) :
    Keeps permits expects post history (program >>= rest) := by
  rw [keeps_bind]
  apply first.mono
  intro history outcome holds
  cases outcome with
  | ok value => exact values history value holds
  | error reason => exact crashes history reason holds

/-- Of a handled crash: where the program crashes, its handler goes on. -/
theorem Keeps.rescue {program : Program Call Answer Crash α}
    {handler : Crash → Program Call Answer Crash α}
    (keeps : Keeps permits expects (fun history outcome =>
      match outcome with
      | .ok value => post history (.ok value)
      | .error reason => Keeps permits expects post history (handler reason)) history program) :
    Keeps permits expects post history (program.rescue handler) := by
  induction program generalizing history with
  | done value => exact keeps
  | crash reason => exact keeps
  | call request next ih => exact ⟨keeps.1, fun answer expected => ih answer (keeps.2 answer expected)⟩

/-- The value that a program ends with also meets what all its values meet. -/
theorem Keeps.and_returns {program : Program Call Answer Crash α} {returned : α → Prop}
    (keeps : Keeps permits expects post history program) (returns : program.Returns returned) :
    Keeps permits expects
      (fun history outcome => post history outcome ∧ ∀ value, outcome = .ok value → returned value)
      history program := by
  induction program generalizing history with
  | done value =>
    refine ⟨keeps, fun other same => ?_⟩
    cases same
    exact returns
  | crash reason =>
    refine ⟨keeps, fun other same => ?_⟩
    cases same
  | call request next ih =>
    exact ⟨keeps.1, fun answer expected => ih answer (keeps.2 answer expected) (returns answer)⟩

/-- What runs afterwards keeps the contract from wherever the program ends. -/
theorem Keeps.afterwards {program : Program Call Answer Crash α}
    {last : Program Call Answer Crash Unit} {middle post : History Call Answer → Prop}
    (first : Keeps permits expects (fun history _ => middle history) history program)
    (closes : ∀ history, middle history →
      Keeps permits expects (fun history _ => post history) history last) :
    Keeps permits expects (fun history _ => post history) history (program.afterwards last) := by
  induction program generalizing history with
  | done value =>
    refine (closes history first).bind (fun _ _ after => ?_) fun _ _ after => after
    exact after
  | crash reason =>
    refine (closes history first).bind (fun _ _ after => ?_) fun _ _ after => after
    exact after
  | call request next ih => exact ⟨first.1, fun answer expected => ih answer (first.2 answer expected)⟩

/-- What runs afterwards keeps the contract from each outcome, which stays unless it crashes. -/
theorem Keeps.closing {program : Program Call Answer Crash α}
    {last : Program Call Answer Crash Unit} {middle : History Call Answer → Except Crash α → Prop}
    (first : Keeps permits expects middle history program)
    (closes : ∀ history outcome, middle history outcome →
      Keeps permits expects (fun history closed =>
        match closed with
        | .ok () => post history outcome
        | .error reason => post history (.error reason)) history last) :
    Keeps permits expects post history (program.afterwards last) := by
  induction program generalizing history with
  | done value => exact (closes history _ first).bind (fun _ _ ends => ends) fun _ _ ends => ends
  | crash reason => exact (closes history _ first).bind (fun _ _ ends => ends) fun _ _ ends => ends
  | call request next ih => exact ⟨first.1, fun answer expected => ih answer (first.2 answer expected)⟩

/-- A program whose calls are permitted and leave an invariant of the history alone. -/
theorem Uses.keeps {allowed : Call → Prop} {program : Program Call Answer Crash α}
    {Inv : History Call Answer → Prop} (uses : program.Uses allowed)
    (permitted : ∀ history request, Inv history → allowed request → permits history request)
    (preserved : ∀ history request answer, allowed request → Inv history →
      Inv (⟨request, answer⟩ :: history)) (initial : Inv history) :
    Keeps permits expects (fun history _ => Inv history) history program := by
  induction program generalizing history with
  | done value => exact initial
  | crash reason => exact initial
  | call request next ih =>
    refine ⟨permitted history request initial uses.1, fun answer _ => ?_⟩
    exact ih answer (uses.2 answer) (preserved history request answer uses.1 initial)

/-- What a program that expects any answer keeps holds of every program it reaches. -/
theorem Keeps.reaches {program rest : Program Call Answer Crash α}
    (keeps : Keeps permits (fun _ _ _ => True) post [] program)
    (reaches : program.Reaches history rest) :
    Keeps permits (fun _ _ _ => True) post history rest := by
  induction reaches with
  | start => exact keeps
  | answered _ answer ih => exact ih.2 answer trivial

/-- What a program keeps holds of every program it reaches by expected answers. -/
theorem Keeps.expected {program rest : Program Call Answer Crash α}
    (keeps : Keeps permits expects post [] program) (Good : History Call Answer → Prop)
    (reaches : program.Reaches history rest)
    (earlier : ∀ event history, Good (event :: history) → Good history)
    (answered : ∀ history request answer, Good (⟨request, answer⟩ :: history) →
      expects history request answer) (good : Good history) :
    Keeps permits expects post history rest := by
  induction reaches with
  | start => exact keeps
  | answered _ answer ih =>
    exact (ih (earlier _ _ good)).2 answer (answered _ _ answer good)

/-- An invariant between history and world that permitted calls preserve holds wherever an attempt
of a program that keeps the contract is cut off. -/
theorem Keeps.attempt {respond : (request : Call) → World → Answer request → World → Prop}
    {program rest : Program Call Answer Crash α} {world world' : World}
    (keeps : Keeps permits expects post [] program)
    (Inv : History Call Answer → World → Prop) (initial : Inv [] world)
    (preserved : ∀ history request answer between after, Inv history between →
      permits history request → respond request between answer after →
      expects history request answer ∧ Inv (⟨request, answer⟩ :: history) after)
    (attempt : program.Attempt respond world history rest world') :
    Inv history world' ∧ Keeps permits expects post history rest := by
  induction attempt with
  | start => exact ⟨initial, keeps⟩
  | answered _ responded ih =>
    have step := preserved _ _ _ _ _ ih.1 ih.2.1 responded
    exact ⟨step.2, ih.2.2 _ step.1⟩

end Contract

end Program

section Processes

variable {Job Call : Type} {Answer : Call → Type} {Crash World α : Type}

/-- The processes over one world: what each was started with and answered, and what each that still
runs has left. -/
structure Processes (Job Call : Type) (Answer : Call → Type) (Crash World α : Type) where
  world : World
  record : Nat → Option (Job × History Call Answer)
  rest : Nat → Option (Program Call Answer Crash α)

/-- What happens to a process. -/
inductive Happening (Job Call : Type) (Answer : Call → Type) where
  | launched (pid : Nat) (job : Job)
  | answered (pid : Nat) (event : Event Call Answer)
  | killed (pid : Nat)

/-- A new process starts, a running one has its next call answered, or one is killed. -/
inductive Processes.Step (program : Job → Program Call Answer Crash α)
    (respond : (request : Call) → World → Answer request → World → Prop) :
    Processes Job Call Answer Crash World α → Happening Job Call Answer →
      Processes Job Call Answer Crash World α → Prop where
  | launch {processes : Processes Job Call Answer Crash World α} {pid : Nat} (job : Job)
      (fresh : processes.record pid = none) :
      Step program respond processes (.launched pid job)
        { processes with
          record := Function.update processes.record pid (some (job, []))
          rest := Function.update processes.rest pid (some (program job)) }
  | answer {processes : Processes Job Call Answer Crash World α} {pid : Nat} {job : Job}
      {history : History Call Answer} {request : Call}
      {next : Answer request → Program Call Answer Crash α} {answer : Answer request}
      {world' : World} (known : processes.record pid = some (job, history))
      (runs : processes.rest pid = some (.call request next))
      (responded : respond request processes.world answer world') :
      Step program respond processes (.answered pid ⟨request, answer⟩)
        { world := world'
          record := Function.update processes.record pid (some (job, ⟨request, answer⟩ :: history))
          rest := Function.update processes.rest pid (some (next answer)) }
  | kill {processes : Processes Job Call Answer Crash World α} {pid : Nat} :
      Step program respond processes (.killed pid)
        { processes with rest := Function.update processes.rest pid none }

/-- A scheduled move of a process: it is started, has its next call answered in a setting, or is
killed. -/
inductive Move (Job Setting : Type) where
  | launch (job : Job)
  | answer (setting : Setting)
  | kill

/-- Schedule a move of a process; a move that is not possible changes nothing. -/
def Processes.move {Setting : Type} (program : Job → Program Call Answer Crash α)
    (reply : Setting → (request : Call) → World → Answer request × World)
    (processes : Processes Job Call Answer Crash World α) (pid : Nat) :
    Move Job Setting → Processes Job Call Answer Crash World α
  | .launch job =>
    match processes.record pid with
    | none =>
      { processes with
        record := Function.update processes.record pid (some (job, []))
        rest := Function.update processes.rest pid (some (program job)) }
    | some _ => processes
  | .answer setting =>
    match processes.record pid, processes.rest pid with
    | some (job, history), some (.call request next) =>
      let answered := reply setting request processes.world
      { world := answered.2
        record := Function.update processes.record pid
          (some (job, ⟨request, answered.1⟩ :: history))
        rest := Function.update processes.rest pid (some (next answered.1)) }
    | _, _ => processes
  | .kill => { processes with rest := Function.update processes.rest pid none }

/-- A schedule is played as a run. -/
theorem Processes.run_moves {Setting : Type} {program : Job → Program Call Answer Crash α}
    {reply : Setting → (request : Call) → World → Answer request × World}
    {respond : (request : Call) → World → Answer request → World → Prop}
    (sound : ∀ setting request world, respond request world (reply setting request world).1
      (reply setting request world).2)
    {start processes : Processes Job Call Answer Crash World α}
    {steps : List (Taken (Processes Job Call Answer Crash World α) (Happening Job Call Answer))}
    (run : Run (Processes.Step program respond) start steps processes)
    (moves : List (Nat × Move Job Setting)) :
    ∃ steps, Run (Processes.Step program respond) start steps
      (moves.foldl (fun processes move => processes.move program reply move.1 move.2)
        processes) := by
  induction moves generalizing processes steps with
  | nil => exact ⟨steps, run⟩
  | cons move later ih =>
    obtain ⟨pid, kind⟩ := move
    rw [List.foldl_cons]
    cases kind with
    | launch job =>
      cases known : processes.record pid with
      | none =>
        simp only [Processes.move, known]
        exact ih (run.snoc (.launch job known))
      | some record =>
        simp only [Processes.move, known]
        exact ih run
    | answer setting =>
      simp only [Processes.move]
      split
      · next known runs => exact ih (run.snoc (.answer known runs (sound _ _ _)))
      · exact ih run
    | kill => exact ih (run.snoc .kill)

/-- Every process still keeps its contract. -/
def Processes.Keeping (permits : Job → History Call Answer → Call → Prop)
    (expects : History Call Answer → (request : Call) → Answer request → Prop)
    (processes : Processes Job Call Answer Crash World α) : Prop :=
  ∀ pid job history rest, processes.record pid = some (job, history) →
    processes.rest pid = some rest →
    Program.Keeps (permits job) expects (fun _ _ => True) history rest

variable {program : Job → Program Call Answer Crash α}
  {respond : (request : Call) → World → Answer request → World → Prop}
  {permits : Job → History Call Answer → Call → Prop}
  {expects : History Call Answer → (request : Call) → Answer request → Prop}

/-- One step of any process preserves the invariant and the contracts of all. -/
theorem Processes.Step.preserves {processes processes' : Processes Job Call Answer Crash World α}
    {happening : Happening Job Call Answer}
    (Inv : World → (Nat → Option (Job × History Call Answer)) → Prop)
    (keeps : ∀ job, Program.Keeps (permits job) expects (fun _ _ => True) [] (program job))
    (launched : ∀ world record pid job, Inv world record → record pid = none →
      Inv world (Function.update record pid (some (job, []))))
    (answered : ∀ world record pid job history request answer world', Inv world record →
      record pid = some (job, history) → permits job history request →
      respond request world answer world' →
      expects history request answer ∧
        Inv world' (Function.update record pid (some (job, ⟨request, answer⟩ :: history))))
    (step : Processes.Step program respond processes happening processes')
    (holds : Inv processes.world processes.record ∧ processes.Keeping permits expects) :
    Inv processes'.world processes'.record ∧ processes'.Keeping permits expects := by
  cases step with
  | @launch pid job fresh =>
    constructor
    · exact launched _ _ _ _ holds.1 fresh
    · intro other job' history rest known runs
      by_cases same : other = pid
      · subst same
        simp only [Function.update_self, Option.some.injEq, Prod.mk.injEq] at known runs
        obtain ⟨rfl, rfl⟩ := known
        subst runs
        exact keeps job
      · simp only [Function.update_of_ne same] at known runs
        exact holds.2 other job' history rest known runs
  | @answer pid job history request next answer world' known runs responded =>
    have contract := holds.2 pid job history _ known runs
    have preserved := answered _ _ pid job history request answer world' holds.1 known contract.1
      responded
    constructor
    · exact preserved.2
    · intro other job' history' rest known' runs'
      by_cases same : other = pid
      · subst same
        simp only [Function.update_self, Option.some.injEq, Prod.mk.injEq] at known' runs'
        obtain ⟨rfl, rfl⟩ := known'
        subst runs'
        exact contract.2 answer preserved.1
      · simp only [Function.update_of_ne same] at known' runs'
        exact holds.2 other job' history' rest known' runs'
  | @kill pid =>
    constructor
    · exact holds.1
    · intro other job history rest known runs
      by_cases same : other = pid
      · subst same
        simp at runs
      · simp only [Function.update_of_ne same] at runs
        exact holds.2 other job history rest known runs

/-- The interleaving rule: from a world with no processes, whatever the contracts carry through
each answered call holds after every run of any processes that keep them. -/
theorem Processes.run_preserves {start last : Processes Job Call Answer Crash World α}
    {steps : List (Taken (Processes Job Call Answer Crash World α) (Happening Job Call Answer))}
    (Inv : World → (Nat → Option (Job × History Call Answer)) → Prop)
    (keeps : ∀ job, Program.Keeps (permits job) expects (fun _ _ => True) [] (program job))
    (empty : start.record = fun _ => none) (initial : Inv start.world start.record)
    (launched : ∀ world record pid job, Inv world record → record pid = none →
      Inv world (Function.update record pid (some (job, []))))
    (answered : ∀ world record pid job history request answer world', Inv world record →
      record pid = some (job, history) → permits job history request →
      respond request world answer world' →
      expects history request answer ∧
        Inv world' (Function.update record pid (some (job, ⟨request, answer⟩ :: history))))
    (run : Run (Processes.Step program respond) start steps last) :
    Inv last.world last.record ∧ last.Keeping permits expects := by
  have keeping : start.Keeping permits expects := by
    intro pid job history rest known
    simp [empty] at known
  exact run.invariant (fun processes => Inv processes.world processes.record ∧
    processes.Keeping permits expects) ⟨initial, keeping⟩
    fun _ _ _ holds step => step.preserves Inv keeps launched answered holds

end Processes

end Foundation
