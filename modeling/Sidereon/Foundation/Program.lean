import Mathlib.Logic.Basic

/-!
# Programs that call their environment

A sequential program is a tree of calls: it performs a call, and every answer leads to the rest of
the program. A world answers the calls and changes with them, so a program relates the world it
starts in to its outcomes and the worlds it leaves. `Ensures` is the weakest precondition of that
relation, and its rules follow the tree.
-/

namespace Foundation

/-- A program over a set of calls with typed answers. It ends with a value or crashes. -/
inductive Program (Call : Type) (Answer : Call → Type) (Crash α : Type) : Type where
  | done (value : α)
  | crash (reason : Crash)
  | call (request : Call) (next : Answer request → Program Call Answer Crash α)

namespace Program

variable {Call : Type} {Answer : Call → Type} {Crash World α β : Type}

/-- Run one program and continue with its value. -/
def bind : Program Call Answer Crash α → (α → Program Call Answer Crash β) →
    Program Call Answer Crash β
  | .done value, rest => rest value
  | .crash reason, _ => .crash reason
  | .call request next, rest => .call request fun answer => (next answer).bind rest

instance : Monad (Program Call Answer Crash) where
  pure := .done
  bind := bind

/-- The program of a single call. -/
def perform (request : Call) : Program Call Answer Crash (Answer request) := .call request .done

/-- The value of a computation that may fail, with the crash its failure is. -/
def orCrash (reason : Crash) : Option α → Program Call Answer Crash α
  | some value => .done value
  | none => .crash reason

/-- Run a program and afterwards another, also when the first crashes. -/
def afterwards : Program Call Answer Crash α → Program Call Answer Crash Unit →
    Program Call Answer Crash α
  | .done value, last => last.bind fun _ => .done value
  | .crash reason, last => last.bind fun _ => .crash reason
  | .call request next, last => .call request fun answer => (next answer).afterwards last

/-- Run a program and handle its crash. -/
def rescue : Program Call Answer Crash α → (Crash → Program Call Answer Crash α) →
    Program Call Answer Crash α
  | .done value, _ => .done value
  | .crash reason, handler => handler reason
  | .call request next, handler => .call request fun answer => (next answer).rescue handler

section Execution

variable (respond : (request : Call) → World → Answer request → World → Prop)

/-- The outcomes and final worlds of a program from a world. -/
def Exec : Program Call Answer Crash α → World → Except Crash α → World → Prop
  | .done value, world, outcome, world' => outcome = .ok value ∧ world' = world
  | .crash reason, world, outcome, world' => outcome = .error reason ∧ world' = world
  | .call request next, world, outcome, world' =>
    ∃ answer between, respond request world answer between ∧
      (next answer).Exec between outcome world'

/-- Every outcome and final world of a program from a world meet a condition. -/
def Ensures (program : Program Call Answer Crash α) (world : World)
    (post : Except Crash α → World → Prop) : Prop :=
  ∀ outcome world', program.Exec respond world outcome world' → post outcome world'

variable {respond}

/-- Of a value that is all. -/
theorem ensures_done {value : α} {world : World} {post : Except Crash α → World → Prop} :
    (Program.done value : Program Call Answer Crash α).Ensures respond world post ↔
      post (.ok value) world := by
  constructor
  · intro ensures
    exact ensures _ _ ⟨rfl, rfl⟩
  · rintro holds _ _ ⟨rfl, rfl⟩
    exact holds

/-- Of a value that is all, in monadic form. -/
@[simp] theorem ensures_pure {value : α} {world : World} {post : Except Crash α → World → Prop} :
    (pure value : Program Call Answer Crash α).Ensures respond world post ↔
      post (.ok value) world :=
  ensures_done

/-- Of a crash that is all. -/
@[simp] theorem ensures_crash {reason : Crash} {world : World}
    {post : Except Crash α → World → Prop} :
    (Program.crash reason : Program Call Answer Crash α).Ensures respond world post ↔
      post (.error reason) world := by
  constructor
  · intro ensures
    exact ensures _ _ ⟨rfl, rfl⟩
  · rintro holds _ _ ⟨rfl, rfl⟩
    exact holds

/-- A call ensures what every answer's continuation ensures. -/
theorem ensures_call {request : Call} {next : Answer request → Program Call Answer Crash α}
    {world : World} {post : Except Crash α → World → Prop} :
    (Program.call request next).Ensures respond world post ↔
      ∀ answer between, respond request world answer between →
        (next answer).Ensures respond between post := by
  constructor
  · intro ensures answer between responded outcome world' executed
    exact ensures outcome world' ⟨answer, between, responded, executed⟩
  · rintro ensures outcome world' ⟨answer, between, responded, executed⟩
    exact ensures answer between responded outcome world' executed

/-- A single call ensures what holds after every answer. -/
@[simp] theorem ensures_perform {request : Call} {world : World}
    {post : Except Crash (Answer request) → World → Prop} :
    (perform request : Program Call Answer Crash _).Ensures respond world post ↔
      ∀ answer between, respond request world answer between → post (.ok answer) between := by
  rw [perform, ensures_call]
  exact forall₃_congr fun _ _ _ => ensures_done

/-- The rule of sequence: what the rest ensures from every value, and what a crash leaves. -/
theorem ensures_bind {program : Program Call Answer Crash α}
    {rest : α → Program Call Answer Crash β} {world : World}
    {post : Except Crash β → World → Prop} :
    (program >>= rest).Ensures respond world post ↔
      program.Ensures respond world fun outcome between =>
        match outcome with
        | .ok value => (rest value).Ensures respond between post
        | .error reason => post (.error reason) between := by
  change (program.bind rest).Ensures respond world post ↔ _
  induction program generalizing world with
  | done value => rw [bind, ensures_done]
  | crash reason => rw [bind, ensures_crash, ensures_crash]
  | call request next ih =>
    rw [bind, ensures_call, ensures_call]
    exact forall₃_congr fun answer _ _ => ih answer

/-- A sequence that ends with a value is executed in two parts. -/
theorem exec_bind {program : Program Call Answer Crash α}
    {rest : α → Program Call Answer Crash β} {world world' : World} {value : β} :
    (program >>= rest).Exec respond world (.ok value) world' ↔
      ∃ middle between, program.Exec respond world (.ok middle) between ∧
        (rest middle).Exec respond between (.ok value) world' := by
  change (program.bind rest).Exec respond world _ world' ↔ _
  induction program generalizing world with
  | done first =>
    constructor
    · intro executed
      exact ⟨first, world, ⟨rfl, rfl⟩, executed⟩
    · rintro ⟨_, _, ⟨same, rfl⟩, executed⟩
      cases same
      exact executed
  | crash reason =>
    constructor
    · rintro ⟨same, -⟩
      cases same
    · rintro ⟨_, _, ⟨same, -⟩, -⟩
      cases same
  | call request next ih =>
    constructor
    · rintro ⟨answer, between, responded, executed⟩
      obtain ⟨middle, after, first, later⟩ := ih answer |>.mp executed
      exact ⟨middle, after, ⟨answer, between, responded, first⟩, later⟩
    · rintro ⟨middle, after, ⟨answer, between, responded, first⟩, later⟩
      exact ⟨answer, between, responded, (ih answer).mpr ⟨middle, after, first, later⟩⟩

/-- A value is executed in no step. -/
theorem exec_pure {value value' : α} {world world' : World} :
    (pure value : Program Call Answer Crash α).Exec respond world (.ok value') world' ↔
      value' = value ∧ world' = world := by
  change (Except.ok value' = .ok value ∧ world' = world) ↔ _
  rw [Except.ok.injEq]

/-- A weaker condition is ensured too. -/
theorem Ensures.mono {program : Program Call Answer Crash α} {world : World}
    {post post' : Except Crash α → World → Prop} (ensures : program.Ensures respond world post)
    (weaker : ∀ outcome world', post outcome world' → post' outcome world') :
    program.Ensures respond world post' :=
  fun outcome world' executed => weaker outcome world' (ensures outcome world' executed)

/-- Two conditions that are ensured are ensured together. -/
theorem Ensures.and {program : Program Call Answer Crash α} {world : World}
    {post post' : Except Crash α → World → Prop} (ensures : program.Ensures respond world post)
    (ensures' : program.Ensures respond world post') :
    program.Ensures respond world fun outcome world' =>
      post outcome world' ∧ post' outcome world' :=
  fun outcome world' executed =>
    ⟨ensures outcome world' executed, ensures' outcome world' executed⟩

/-- The rule of sequence in the form proofs use: a condition between the two parts. -/
theorem Ensures.bind {program : Program Call Answer Crash α}
    {rest : α → Program Call Answer Crash β} {world : World}
    {middle : Except Crash α → World → Prop} {post : Except Crash β → World → Prop}
    (first : program.Ensures respond world middle)
    (values : ∀ value between, middle (.ok value) between →
      (rest value).Ensures respond between post)
    (crashes : ∀ reason between, middle (.error reason) between → post (.error reason) between) :
    (program >>= rest).Ensures respond world post := by
  rw [ensures_bind]
  refine first.mono fun outcome between holds => ?_
  cases outcome with
  | ok value => exact values value between holds
  | error reason => exact crashes reason between holds

/-- The rule of sequence after a part of which the value and the world are known. -/
theorem Ensures.andThen {program : Program Call Answer Crash α}
    {rest : α → Program Call Answer Crash β} {world between : World} {value : α}
    {post : Except Crash β → World → Prop}
    (first : program.Ensures respond world fun outcome after =>
      outcome = .ok value ∧ after = between)
    (onward : (rest value).Ensures respond between post) :
    (program >>= rest).Ensures respond world post := by
  refine Ensures.bind first ?_ ?_
  · rintro result after ⟨same, rfl⟩
    cases same
    exact onward
  · rintro reason after ⟨impossible, _⟩
    cases impossible

/-- What is run afterwards, when it always ends, runs in the worlds that the program leaves. -/
theorem Ensures.afterwards {program : Program Call Answer Crash α}
    {last : Program Call Answer Crash Unit} {world : World}
    {middle post : Except Crash α → World → Prop} (first : program.Ensures respond world middle)
    (ends : ∀ outcome between, middle outcome between →
      last.Ensures respond between fun ended after => ended = .ok () ∧ post outcome after) :
    (program.afterwards last).Ensures respond world post := by
  induction program generalizing world with
  | done value =>
    rw [Program.afterwards]
    refine Ensures.bind (ends _ world (ensures_done.mp first)) ?_ ?_
    · rintro _ between ⟨-, holds⟩
      exact ensures_done.mpr holds
    · rintro reason between ⟨impossible, -⟩
      cases impossible
  | crash reason =>
    rw [Program.afterwards]
    refine Ensures.bind (ends _ world (ensures_crash.mp first)) ?_ ?_
    · rintro _ between ⟨-, holds⟩
      exact ensures_crash.mpr holds
    · rintro reason' between ⟨impossible, -⟩
      cases impossible
  | call request next ih =>
    rw [Program.afterwards, ensures_call]
    intro answer between responded
    exact ih answer (ensures_call.mp first answer between responded)

/-- A failed computation crashes, a successful one is its value. -/
@[simp] theorem ensures_orCrash {reason : Crash} {result : Option α} {world : World}
    {post : Except Crash α → World → Prop} :
    (orCrash reason result : Program Call Answer Crash α).Ensures respond world post ↔
      (∀ value, result = some value → post (.ok value) world) ∧
        (result = none → post (.error reason) world) := by
  cases result with
  | some value => simp [orCrash, ensures_done]
  | none => simp [orCrash]

/-- Every value that a program ends with, and the world it leaves, meet a condition; of its crashes
nothing is said. -/
def Yields (respond : (request : Call) → World → Answer request → World → Prop) :
    Program Call Answer Crash α → World → (α → World → Prop) → Prop
  | .done value, world, post => post value world
  | .crash _, _, _ => True
  | .call request next, world, post =>
    ∀ answer between, respond request world answer between →
      (next answer).Yields respond between post

/-- Of a value. -/
@[simp] theorem yields_pure {value : α} {world : World} {post : α → World → Prop} :
    (pure value : Program Call Answer Crash α).Yields respond world post ↔ post value world :=
  Iff.rfl

/-- Of a crash. -/
@[simp] theorem yields_crash {reason : Crash} {world : World} {post : α → World → Prop} :
    (Program.crash reason : Program Call Answer Crash α).Yields respond world post ↔ True :=
  Iff.rfl

/-- Of a single call. -/
@[simp] theorem yields_perform {request : Call} {world : World}
    {post : Answer request → World → Prop} :
    (perform request : Program Call Answer Crash _).Yields respond world post ↔
      ∀ answer between, respond request world answer between → post answer between :=
  Iff.rfl

/-- Of a call and what follows it. -/
theorem yields_perform_bind {request : Call} {rest : Answer request → Program Call Answer Crash β}
    {world : World} {post : β → World → Prop} :
    (perform request >>= rest).Yields respond world post ↔
      ∀ answer between, respond request world answer between →
        (rest answer).Yields respond between post :=
  Iff.rfl

/-- The rule of sequence. -/
theorem yields_bind {program : Program Call Answer Crash α}
    {rest : α → Program Call Answer Crash β} {world : World} {post : β → World → Prop} :
    (program >>= rest).Yields respond world post ↔
      program.Yields respond world fun value between =>
        (rest value).Yields respond between post := by
  change (program.bind rest).Yields respond world post ↔ _
  induction program generalizing world with
  | done value => exact Iff.rfl
  | crash reason => exact Iff.rfl
  | call request next ih => exact forall₃_congr fun answer _ _ => ih answer

/-- A weaker condition. -/
theorem Yields.mono {program : Program Call Answer Crash α} {world : World}
    {post post' : α → World → Prop} (yields : program.Yields respond world post)
    (weaker : ∀ value world', post value world' → post' value world') :
    program.Yields respond world post' := by
  induction program generalizing world with
  | done value => exact weaker _ _ yields
  | crash reason => trivial
  | call request next ih =>
    exact fun answer between responded => ih answer (yields answer between responded)

/-- The rule of sequence in the form proofs use: a condition between the two parts. -/
theorem Yields.bind {program : Program Call Answer Crash α}
    {rest : α → Program Call Answer Crash β} {world : World} {middle : α → World → Prop}
    {post : β → World → Prop} (first : program.Yields respond world middle)
    (values : ∀ value between, middle value between → (rest value).Yields respond between post) :
    (program >>= rest).Yields respond world post :=
  yields_bind.mpr (first.mono values)

/-- The value and the world of an execution meet the condition. -/
theorem Yields.exec {program : Program Call Answer Crash α} {world world' : World} {value : α}
    {post : α → World → Prop} (yields : program.Yields respond world post)
    (executed : program.Exec respond world (.ok value) world') : post value world' := by
  induction program generalizing world with
  | done result =>
    obtain ⟨same, rfl⟩ := executed
    cases same
    exact yields
  | crash reason => cases executed.1
  | call request next ih =>
    obtain ⟨answer, between, responded, executed⟩ := executed
    exact ih answer (yields answer between responded) executed

/-- A failed computation yields nothing. -/
theorem yields_orCrash {reason : Crash} {result : Option α} {world : World}
    {post : α → World → Prop} (holds : ∀ value, result = some value → post value world) :
    (orCrash reason result : Program Call Answer Crash α).Yields respond world post := by
  cases result with
  | some value => exact holds value rfl
  | none => trivial

end Execution

section Returns

/-- Whatever the calls are answered, a program that ends with a value ends with one that meets a
condition. -/
def Returns (post : α → Prop) : Program Call Answer Crash α → Prop
  | .done value => post value
  | .crash _ => True
  | .call _ next => ∀ answer, (next answer).Returns post

variable {post : α → Prop} {program : Program Call Answer Crash α}

/-- Of a value. -/
@[simp] theorem returns_pure {value : α} :
    (pure value : Program Call Answer Crash α).Returns post ↔ post value :=
  Iff.rfl

/-- Of a crash. -/
@[simp] theorem returns_crash {reason : Crash} :
    (Program.crash reason : Program Call Answer Crash α).Returns post ↔ True :=
  Iff.rfl

/-- Of a single call. -/
@[simp] theorem returns_perform {request : Call} {post : Answer request → Prop} :
    (perform request : Program Call Answer Crash _).Returns post ↔ ∀ answer, post answer :=
  Iff.rfl

/-- A computation that may fail ends with its value. -/
theorem returns_orCrash {reason : Crash} {computed : Option α} :
    (orCrash reason computed : Program Call Answer Crash α).Returns (computed = some ·) := by
  cases computed with
  | some value => rfl
  | none => trivial

/-- Of a sequence: the rest from every value of the first part. -/
theorem returns_bind {rest : α → Program Call Answer Crash β} {post : β → Prop} :
    (program >>= rest).Returns post ↔ program.Returns fun value => (rest value).Returns post := by
  change (program.bind rest).Returns post ↔ _
  induction program with
  | done value => exact Iff.rfl
  | crash reason => exact Iff.rfl
  | call request next ih => exact forall_congr' fun answer => ih answer

/-- A weaker condition. -/
theorem Returns.mono {weaker : α → Prop} (returns : program.Returns post)
    (implies : ∀ value, post value → weaker value) : program.Returns weaker := by
  induction program with
  | done value => exact implies value returns
  | crash reason => trivial
  | call request next ih => exact fun answer => ih answer (returns answer)

/-- Every program ends with a value. -/
theorem returns_any (program : Program Call Answer Crash α) : program.Returns fun _ => True := by
  induction program with
  | done value => trivial
  | crash reason => trivial
  | call request next ih => exact ih

/-- The rule of sequence in the form proofs use. -/
theorem Returns.bind {rest : α → Program Call Answer Crash β} {post' : β → Prop}
    (first : program.Returns post) (values : ∀ value, post value → (rest value).Returns post') :
    (program >>= rest).Returns post' :=
  returns_bind.mpr (first.mono values)

/-- What is run afterwards does not change the value. -/
theorem Returns.afterwards {last : Program Call Answer Crash Unit} (returns : program.Returns post) :
    (program.afterwards last).Returns post := by
  induction program with
  | done value =>
    exact (returns_any last).bind fun _ _ => returns
  | crash reason =>
    exact (returns_any last).bind fun _ _ => trivial
  | call request next ih => exact fun answer => ih answer (returns answer)

/-- The value of an execution meets the condition. -/
theorem Returns.exec {respond : (request : Call) → World → Answer request → World → Prop}
    {world world' : World} {value : α} (returns : program.Returns post)
    (executed : program.Exec respond world (.ok value) world') : post value := by
  induction program generalizing world with
  | done result =>
    obtain ⟨same, -⟩ := executed
    cases same
    exact returns
  | crash reason =>
    obtain ⟨same, -⟩ := executed
    cases same
  | call request next ih =>
    obtain ⟨answer, between, _, executed⟩ := executed
    exact ih answer (returns answer) executed

end Returns

section Uses

/-- A program that makes calls of a kind only. -/
def Uses (allowed : Call → Prop) : Program Call Answer Crash α → Prop
  | .done _ => True
  | .crash _ => True
  | .call request next => allowed request ∧ ∀ answer, (next answer).Uses allowed

variable {allowed : Call → Prop} {program : Program Call Answer Crash α}

/-- Of a value. -/
@[simp] theorem uses_pure {value : α} :
    (pure value : Program Call Answer Crash α).Uses allowed :=
  trivial

/-- Of a crash. -/
@[simp] theorem uses_crash {reason : Crash} :
    (Program.crash reason : Program Call Answer Crash α).Uses allowed :=
  trivial

/-- Of a single call. -/
@[simp] theorem uses_perform {request : Call} :
    (perform request : Program Call Answer Crash _).Uses allowed ↔ allowed request :=
  and_iff_left fun _ => trivial

/-- Of a computation that may fail. -/
@[simp] theorem uses_orCrash {reason : Crash} {result : Option α} :
    (orCrash reason result : Program Call Answer Crash α).Uses allowed := by
  cases result <;> trivial

/-- Calls of a larger kind. -/
theorem Uses.mono {allowed' : Call → Prop} (uses : program.Uses allowed)
    (larger : ∀ request, allowed request → allowed' request) : program.Uses allowed' := by
  induction program with
  | done value => trivial
  | crash reason => trivial
  | call request next ih => exact ⟨larger request uses.1, fun answer => ih answer (uses.2 answer)⟩

/-- The rule of sequence. -/
theorem Uses.bind {rest : α → Program Call Answer Crash β} (first : program.Uses allowed)
    (values : ∀ value, (rest value).Uses allowed) : (program >>= rest).Uses allowed := by
  change (program.bind rest).Uses allowed
  induction program with
  | done value => exact values value
  | crash reason => trivial
  | call request next ih => exact ⟨first.1, fun answer => ih answer (first.2 answer)⟩

/-- Of a call and what follows it. -/
theorem uses_perform_bind {request : Call} {rest : Answer request → Program Call Answer Crash β} :
    (perform request >>= rest).Uses allowed ↔
      allowed request ∧ ∀ answer, (rest answer).Uses allowed :=
  Iff.rfl

/-- The rule of sequence with what the first part returns. -/
theorem Uses.bind_of {post : α → Prop} {rest : α → Program Call Answer Crash β}
    (first : program.Uses allowed) (returns : program.Returns post)
    (values : ∀ value, post value → (rest value).Uses allowed) :
    (program >>= rest).Uses allowed := by
  change (program.bind rest).Uses allowed
  induction program with
  | done value => exact values value returns
  | crash reason => trivial
  | call request next ih =>
    constructor
    · exact first.1
    · intro answer
      exact ih answer (first.2 answer) (returns answer)

end Uses

section Replay

/-- Run a program against a world that answers in one way. -/
def replay (reply : (request : Call) → World → Answer request × World) :
    Program Call Answer Crash α → World → Except Crash α × World
  | .done value, world => (.ok value, world)
  | .crash reason, world => (.error reason, world)
  | .call request next, world =>
    (next (reply request world).1).replay reply (reply request world).2

variable {reply : (request : Call) → World → Answer request × World} {world : World}

/-- Of a value. -/
@[simp] theorem replay_pure {value : α} :
    (pure value : Program Call Answer Crash α).replay reply world = (.ok value, world) :=
  rfl

/-- Of a crash. -/
@[simp] theorem replay_crash {reason : Crash} :
    (Program.crash reason : Program Call Answer Crash α).replay reply world =
      (.error reason, world) :=
  rfl

/-- Of a single call. -/
@[simp] theorem replay_perform {request : Call} :
    (perform request : Program Call Answer Crash _).replay reply world =
      (.ok (reply request world).1, (reply request world).2) :=
  rfl

/-- Of a sequence: the rest is replayed from what the first part leaves. -/
@[simp] theorem replay_bind {program : Program Call Answer Crash α}
    {rest : α → Program Call Answer Crash β} :
    (program >>= rest).replay reply world =
      match program.replay reply world with
      | (.ok value, between) => (rest value).replay reply between
      | (.error reason, between) => (.error reason, between) := by
  change (program.bind rest).replay reply world = _
  induction program generalizing world with
  | done value => rfl
  | crash reason => rfl
  | call request next ih => exact ih _

/-- A successful computation is its value, a failed one crashes. -/
@[simp] theorem replay_orCrash {reason : Crash} {result : Option α} :
    (orCrash reason result : Program Call Answer Crash α).replay reply world =
      (result.elim (.error reason) .ok, world) := by
  cases result with
  | some value => rfl
  | none => rfl

/-- What runs afterwards runs in the world that the program leaves. -/
theorem replay_afterwards {program : Program Call Answer Crash α}
    {last : Program Call Answer Crash Unit} :
    (program.afterwards last).replay reply world =
      match last.replay reply (program.replay reply world).2 with
      | (.ok _, after) => ((program.replay reply world).1, after)
      | (.error reason, after) => (.error reason, after) := by
  induction program generalizing world with
  | done value =>
    change (last >>= fun _ => pure value).replay reply world = _
    rw [replay_bind]
    cases ended : last.replay reply world with
    | mk outcome after => cases outcome <;> simp [replay, ended]
  | crash reason =>
    change (last >>= fun _ => Program.crash reason).replay reply world = _
    rw [replay_bind]
    cases ended : last.replay reply world with
    | mk outcome after => cases outcome <;> simp [replay, ended]
  | call request next ih => exact ih _

/-- A replay is one of the executions when the answers are among the world's. -/
theorem exec_replay {respond : (request : Call) → World → Answer request → World → Prop}
    {reply : (request : Call) → World → Answer request × World}
    (sound : ∀ request world, respond request world (reply request world).1
      (reply request world).2)
    (program : Program Call Answer Crash α) (world : World) :
    program.Exec respond world (program.replay reply world).1 (program.replay reply world).2 := by
  induction program generalizing world with
  | done value => exact ⟨rfl, rfl⟩
  | crash reason => exact ⟨rfl, rfl⟩
  | call request next ih => exact ⟨_, _, sound request world, ih _ _⟩

/-- The world that answers in one way. -/
def Replies (reply : (request : Call) → World → Answer request × World) (request : Call)
    (world : World) (answer : Answer request) (world' : World) : Prop :=
  (answer, world') = reply request world

/-- In the world that answers in one way the replay is the only execution. -/
theorem exec_replies {program : Program Call Answer Crash α} {outcome : Except Crash α}
    {world' : World} :
    program.Exec (Replies reply) world outcome world' ↔
      program.replay reply world = (outcome, world') := by
  induction program generalizing world with
  | done value =>
    constructor
    · rintro ⟨rfl, rfl⟩
      rfl
    · intro same
      cases same
      exact ⟨rfl, rfl⟩
  | crash reason =>
    constructor
    · rintro ⟨rfl, rfl⟩
      rfl
    · intro same
      cases same
      exact ⟨rfl, rfl⟩
  | call request next ih =>
    constructor
    · rintro ⟨answer, between, responded, executed⟩
      have continued := (ih answer).mp executed
      rw [replay, ← responded]
      exact continued
    · intro same
      exact ⟨_, _, rfl, (ih _).mpr same⟩

/-- The value of a replay meets every condition that all values meet. -/
theorem Returns.replay {program : Program Call Answer Crash α} {post : α → Prop} {value : α}
    {world' : World} (returns : program.Returns post)
    (replayed : program.replay reply world = (.ok value, world')) : post value :=
  returns.exec (exec_replies.mpr replayed)

end Replay

end Program

end Foundation
