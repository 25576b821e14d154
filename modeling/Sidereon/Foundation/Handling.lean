import Sidereon.Foundation.Interleaving

/-!
# Programs whose calls are programs

A handler carries out every call of a program by another program. A record lists the calls of a
program with their answers in order, and with the answers it determines what the program ends with.
Handled programs are executed by carrying out a record call by call.
-/

namespace Foundation.Program

variable {Call : Type} {Answer : Call → Type} {Crash α β : Type}

/-- A program makes the calls of a record, is given its answers, and ends with a value. -/
def Ends : Program Call Answer Crash α → List (Event Call Answer) → α → Prop
  | .done value, record, result => record = [] ∧ result = value
  | .crash _, _, _ => False
  | .call request next, record, result =>
    ∃ answer later, record = ⟨request, answer⟩ :: later ∧ (next answer).Ends later result

/-- A value ends at once. -/
theorem ends_pure {value result : α} {record : List (Event Call Answer)} :
    (pure value : Program Call Answer Crash α).Ends record result ↔ record = [] ∧ result = value :=
  Iff.rfl

/-- A call, then what the rest ends with. -/
theorem Ends.answer {request : Call} {next : Answer request → Program Call Answer Crash α}
    {answer : Answer request} {later : List (Event Call Answer)} {result : α}
    (rest : (next answer).Ends later result) :
    (Program.call request next).Ends (⟨request, answer⟩ :: later) result :=
  ⟨answer, later, rfl, rest⟩

/-- A single call ends with its answer. -/
theorem ends_perform {request : Call} {record : List (Event Call Answer)}
    {result : Answer request} :
    (perform request : Program Call Answer Crash _).Ends record result ↔
      record = [⟨request, result⟩] := by
  constructor
  · rintro ⟨answer, _, rfl, rfl, rfl⟩
    rfl
  · rintro rfl
    exact ⟨result, [], rfl, rfl, rfl⟩

/-- A record determines what a program ends with. -/
theorem Ends.unique {program : Program Call Answer Crash α} {record : List (Event Call Answer)}
    {first second : α} (ends : program.Ends record first) (again : program.Ends record second) :
    first = second := by
  induction program generalizing record with
  | done value => exact ends.2.trans again.2.symm
  | crash reason => exact ends.elim
  | call request next ih =>
    obtain ⟨answer, later, rfl, ends⟩ := ends
    obtain ⟨answer', later', same, again⟩ := again
    cases same
    exact ih answer ends again

/-- The record of a sequence is a record of each part. -/
theorem ends_bind {program : Program Call Answer Crash α}
    {rest : α → Program Call Answer Crash β} {record : List (Event Call Answer)} {result : β} :
    (program >>= rest).Ends record result ↔
      ∃ value first later, record = first ++ later ∧ program.Ends first value ∧
        (rest value).Ends later result := by
  change (program.bind rest).Ends record result ↔ _
  induction program generalizing record with
  | done value =>
    constructor
    · intro ends
      exact ⟨value, [], record, rfl, ⟨rfl, rfl⟩, ends⟩
    · rintro ⟨_, _, _, rfl, ⟨rfl, rfl⟩, ends⟩
      exact ends
  | crash reason =>
    constructor
    · intro ends
      exact ends.elim
    · rintro ⟨_, _, _, _, ends, _⟩
      exact ends.elim
  | call request next ih =>
    constructor
    · rintro ⟨answer, after, rfl, ends⟩
      obtain ⟨value, first, later, rfl, begins, ends⟩ := (ih answer).mp ends
      exact ⟨value, ⟨request, answer⟩ :: first, later, rfl, ⟨answer, first, rfl, begins⟩, ends⟩
    · rintro ⟨value, _, later, rfl, ⟨answer, first, rfl, begins⟩, ends⟩
      exact ⟨answer, first ++ later, rfl, (ih answer).mpr ⟨value, first, later, rfl, begins, ends⟩⟩

/-- A computation that does not fail is its value. -/
theorem ends_orCrash {reason : Crash} {computed : Option α} {record : List (Event Call Answer)}
    {result : α} :
    (orCrash reason computed : Program Call Answer Crash α).Ends record result ↔
      record = [] ∧ computed = some result := by
  cases computed with
  | some value =>
    change record = [] ∧ result = value ↔ _
    rw [Option.some.injEq]
    exact and_congr_right fun _ => eq_comm
  | none => simp [orCrash, Ends]

/-- A program makes the calls of a record, is given its answers, and ends or crashes. -/
def Finishes : Program Call Answer Crash α → List (Event Call Answer) → Except Crash α → Prop
  | .done value, record, outcome => record = [] ∧ outcome = .ok value
  | .crash reason, record, outcome => record = [] ∧ outcome = .error reason
  | .call request next, record, outcome =>
    ∃ answer later, record = ⟨request, answer⟩ :: later ∧ (next answer).Finishes later outcome

/-- A value finishes at once. -/
theorem finishes_pure {value : α} {record : List (Event Call Answer)} {outcome : Except Crash α} :
    (pure value : Program Call Answer Crash α).Finishes record outcome ↔
      record = [] ∧ outcome = .ok value :=
  Iff.rfl

/-- A computation that may fail finishes with its value or its crash. -/
theorem finishes_orCrash {reason : Crash} {computed : Option α}
    {record : List (Event Call Answer)} {outcome : Except Crash α} :
    (orCrash reason computed : Program Call Answer Crash α).Finishes record outcome ↔
      record = [] ∧ outcome = computed.elim (.error reason) .ok := by
  cases computed with
  | none => exact Iff.rfl
  | some value => exact Iff.rfl

/-- However it finishes, a program that makes calls of a kind only has them in its record. -/
theorem Uses.finishes {allowed : Call → Prop} {program : Program Call Answer Crash α}
    {record : List (Event Call Answer)} {outcome : Except Crash α} (uses : program.Uses allowed)
    (finishes : program.Finishes record outcome) : ∀ event ∈ record, allowed event.request := by
  induction program generalizing record with
  | done value =>
    obtain ⟨rfl, -⟩ := finishes
    nofun
  | crash reason =>
    obtain ⟨rfl, -⟩ := finishes
    nofun
  | call request next ih =>
    obtain ⟨answer, later, rfl, rest⟩ := finishes
    intro event member
    rcases List.mem_cons.mp member with rfl | onward
    · exact uses.1
    · exact ih answer (uses.2 answer) rest event onward

/-- Behind a part that ended a sequence finishes as its rest does. -/
theorem Ends.finishes_bind {program : Program Call Answer Crash α}
    {rest : α → Program Call Answer Crash β} {first later : List (Event Call Answer)} {value : α}
    {outcome : Except Crash β} (ends : program.Ends first value) :
    (program >>= rest).Finishes (first ++ later) outcome ↔ (rest value).Finishes later outcome := by
  change (program.bind rest).Finishes (first ++ later) outcome ↔ _
  induction program generalizing first with
  | done result =>
    obtain ⟨rfl, rfl⟩ := ends
    exact Iff.rfl
  | crash reason => exact ends.elim
  | call request next ih =>
    obtain ⟨answer, more, rfl, ends⟩ := ends
    rw [← ih answer ends]
    constructor
    · rintro ⟨answer', after, same, finishes⟩
      cases same
      exact finishes
    · intro finishes
      exact ⟨answer, more ++ later, rfl, finishes⟩

/-- A value that no handler of a crash ends with is the program's own. -/
theorem ends_rescue {program : Program Call Answer Crash α}
    {handler : Crash → Program Call Answer Crash α} {record : List (Event Call Answer)} {result : α}
    (never : ∀ reason record, ¬(handler reason).Ends record result)
    (ends : (program.rescue handler).Ends record result) : program.Ends record result := by
  induction program generalizing record with
  | done value => exact ends
  | crash reason => exact absurd ends (never reason record)
  | call request next ih =>
    obtain ⟨answer, later, rfl, rest⟩ := ends
    exact ⟨answer, later, rfl, ih answer rest⟩

/-- The record of a program that makes calls of a kind only. -/
theorem Uses.ends {allowed : Call → Prop} {program : Program Call Answer Crash α}
    {record : List (Event Call Answer)} {result : α} (uses : program.Uses allowed)
    (ends : program.Ends record result) : ∀ event ∈ record, allowed event.request := by
  induction program generalizing record with
  | done value =>
    obtain ⟨rfl, _⟩ := ends
    simp
  | crash reason => exact ends.elim
  | call request next ih =>
    obtain ⟨answer, later, rfl, rest⟩ := ends
    intro event member
    rcases List.mem_cons.mp member with rfl | onward
    · exact uses.1
    · exact ih answer (uses.2 answer) rest event onward

/-- The value that a record ends with meets what all values meet. -/
theorem Returns.ends {post : α → Prop} {program : Program Call Answer Crash α}
    {record : List (Event Call Answer)} {result : α} (returns : program.Returns post)
    (ends : program.Ends record result) : post result := by
  induction program generalizing record with
  | done value =>
    obtain ⟨_, rfl⟩ := ends
    exact returns
  | crash reason => exact ends.elim
  | call request next ih =>
    obtain ⟨answer, later, _, rest⟩ := ends
    exact ih answer (returns answer) rest

/-- A program whose calls are always permitted keeps a record of them, and of what it ends with. -/
theorem Uses.keeps_record {allowed : Call → Prop}
    {permits : List (Event Call Answer) → Call → Prop}
    {expects : List (Event Call Answer) → (request : Call) → Answer request → Prop}
    {program : Program Call Answer Crash α} {history : List (Event Call Answer)}
    (uses : program.Uses allowed)
    (permitted : ∀ history request, allowed request → permits history request) :
    Keeps permits expects (fun after outcome => ∃ record : List (Event Call Answer),
      after = record.reverse ++ history ∧ (∀ event ∈ record, allowed event.request) ∧
        ∀ value, outcome = .ok value → program.Ends record value) history program := by
  induction program generalizing history with
  | done value =>
    refine ⟨[], rfl, by simp, ?_⟩
    intro other same
    cases same
    exact ⟨rfl, rfl⟩
  | crash reason =>
    refine ⟨[], rfl, by simp, ?_⟩
    intro other same
    cases same
  | call request next ih =>
    refine ⟨permitted history request uses.1, fun answer _ => ?_⟩
    apply (ih answer (uses.2 answer)).mono
    intro after outcome kept
    obtain ⟨record, rfl, among, ends⟩ := kept
    refine ⟨⟨request, answer⟩ :: record, by simp, ?_, ?_⟩
    · intro event member
      rcases List.mem_cons.mp member with rfl | onward
      · exact uses.1
      · exact among event onward
    · intro value same
      exact ⟨answer, record, rfl, ends value same⟩

/-- A program that never crashes. -/
def Total : Program Call Answer Crash α → Prop
  | .done _ => True
  | .crash _ => False
  | .call _ next => ∀ answer, (next answer).Total

/-- A record has these answers, the first event the first. -/
def Given (give : Nat → (request : Call) → Answer request) (record : List (Event Call Answer)) :
    Prop :=
  ∀ n event, record[n]? = some event → event.answer = give n event.request

/-- A program that never crashes ends, whatever its calls are answered. -/
theorem Total.ends {program : Program Call Answer Crash α} (total : program.Total)
    (give : Nat → (request : Call) → Answer request) :
    ∃ record result, program.Ends record result ∧ Given give record := by
  induction program generalizing give with
  | done value => exact ⟨[], value, ⟨rfl, rfl⟩, by simp [Given]⟩
  | crash reason => exact total.elim
  | call request next ih =>
    obtain ⟨later, result, ends, given⟩ := ih (give 0 request) (total _) fun n => give (n + 1)
    refine ⟨⟨request, give 0 request⟩ :: later, result, Ends.answer ends, ?_⟩
    intro n event found
    cases n with
    | zero =>
      cases found
      rfl
    | succ n => exact given n event found

section Handling

variable {Request : Type} {Reply : Request → Type} {World : Type}
  (handler : (request : Call) → Program Request Reply Crash (Answer request))
  (respond : (request : Request) → World → Reply request → World → Prop)

/-- Carry out every call by its handler. -/
def handle : Program Call Answer Crash α → Program Request Reply Crash α
  | .done value => .done value
  | .crash reason => .crash reason
  | .call request next => handler request >>= fun answer => (next answer).handle

/-- The calls of a record are carried out one after the other, with its answers. -/
inductive Carried : World → List (Event Call Answer) → World → Prop where
  | none (world : World) : Carried world [] world
  | next {world between after : World} {request : Call} {answer : Answer request}
      {later : List (Event Call Answer)}
      (first : (handler request).Exec respond world (.ok answer) between)
      (rest : Carried between later after) : Carried world (⟨request, answer⟩ :: later) after

variable {handler respond}

/-- An execution of a handled program carries out a record of it. -/
theorem exec_handle {program : Program Call Answer Crash α} {world world' : World} {result : α} :
    (program.handle handler).Exec respond world (.ok result) world' ↔
      ∃ record, program.Ends record result ∧ Carried handler respond world record world' := by
  induction program generalizing world with
  | done value =>
    constructor
    · intro executed
      obtain ⟨rfl, rfl⟩ := exec_pure.mp executed
      exact ⟨[], ⟨rfl, rfl⟩, .none _⟩
    · rintro ⟨_, ⟨rfl, rfl⟩, ⟨⟩⟩
      exact exec_pure.mpr ⟨rfl, rfl⟩
  | crash reason =>
    constructor
    · rintro ⟨same, -⟩
      cases same
    · rintro ⟨_, ends, _⟩
      exact ends.elim
  | call request next ih =>
    constructor
    · intro executed
      obtain ⟨answer, between, first, rest⟩ := exec_bind.mp executed
      obtain ⟨record, ends, carried⟩ := (ih answer).mp rest
      exact ⟨⟨request, answer⟩ :: record, ⟨answer, record, rfl, ends⟩, .next first carried⟩
    · rintro ⟨_, ⟨answer, later, rfl, ends⟩, carried⟩
      cases carried with
      | next first rest =>
        exact exec_bind.mpr ⟨answer, _, first, (ih answer).mpr ⟨later, ends, rest⟩⟩

/-- What every value of the handlers meets, the answers of a record that is carried out meet. -/
theorem Carried.all {post : (request : Call) → Answer request → Prop}
    (returns : ∀ request, (handler request).Returns (post request))
    {world world' : World} {record : List (Event Call Answer)}
    (carried : Carried handler respond world record world') :
    ∀ event ∈ record, post event.request event.answer := by
  induction carried with
  | none world => simp
  | next first _ ih =>
    intro event member
    cases List.mem_cons.mp member with
    | inl same =>
      rw [same]
      exact (returns _).exec first
    | inr later => exact ih event later

end Handling

end Foundation.Program
