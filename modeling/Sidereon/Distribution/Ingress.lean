import Sidereon.Distribution.ByteLimits

/-!
# Bounded ingestion

`ArchiveIngress` takes in the chunks of a response or the pieces of a file. However a body is split,
what is kept of it is the body up to a limit and one byte more, and both ways tell alike whether the
body is longer than the limit.
-/

namespace Sidereon.Distribution

open Foundation

namespace ArchiveIngress

section Model

/-- A limit that the guards admit. -/
abbrev Limit := {limit : Nat // 0 < limit}

/-- `new`. -/
def new (limit : Limit) : ArchiveIngress := { limit := limit.val }

/-- The bytes a state holds. -/
def held (state : ArchiveIngress) : Nat := (state.chunks.map List.length).sum

/-- The states while chunks are taken, first to last. -/
def visited : ArchiveIngress → List Binary → List ArchiveIngress
  | state, [] => [state]
  | state, chunk :: chunks =>
    let (onward, next) := state.append chunk
    if onward then state :: next.visited chunks else [state, next]

/-- `req_into`, on the state that the response keeps in private. -/
def reqInto (limit : Nat) (chunk : Binary) (kept : Option ArchiveIngress) :
    Bool × Option ArchiveIngress :=
  let (onward, state) := (kept.getD { limit }).append chunk
  (onward, some state)

/-- The chunks of a response, as long as they are taken. -/
def feedResponse (limit : Nat) : Option ArchiveIngress → List Binary → Option ArchiveIngress
  | kept, [] => kept
  | kept, chunk :: chunks =>
    let (onward, kept) := reqInto limit chunk kept
    if onward then feedResponse limit kept chunks else kept

/-- `finish_response`. -/
def finishResponse (limit : Nat) (kept : Option ArchiveIngress) : Binary × Bool :=
  (kept.getD { limit }).finish

/-- The calls of a bounded read. -/
inductive FileCall where
  | openFile (path : Binary)
  | read (count : Nat)
  | closeFile
  deriving DecidableEq, Repr

/-- What a reader returns. -/
inductive Piece where
  | ok (bytes : Binary)
  | eof
  | error (reason : String)
  | invalid
  deriving DecidableEq, Repr

/-- The answer to each call. -/
abbrev FileAnswer : FileCall → Type
  | .openFile _ => Except String Unit
  | .read _ => Piece
  | .closeFile => Unit

/-- Why nothing is read. -/
inductive ReadError where
  | downloadSizeExceeded (limit : Nat)
  | reader (reason : String)
  | invalidReadResult
  deriving DecidableEq, Repr

/-- Why a read does not return: an overflow that is not told, or more calls than its fuel. -/
inductive ReadRaised where
  | noMatch
  | unending
  deriving DecidableEq, Repr

/-- A program of a bounded read. -/
abbrev Reading := Program FileCall FileAnswer ReadRaised (Except ReadError Binary)

/-- A single call. -/
abbrev fileCall (request : FileCall) : Program FileCall FileAnswer ReadRaised (FileAnswer request) :=
  Program.perform request

/-- `finish_read`. -/
def finishRead (state : ArchiveIngress) : Reading :=
  match state.finish with
  | (bytes, false) => pure (.ok bytes)
  | _ => .crash .noMatch

/-- `do_read_bounded`. -/
def doReadBounded : Nat → ArchiveIngress → Reading
  | 0, _ => .crash .unending
  | fuel + 1, state => do
    match ← fileCall (.read (state.limit + 1 - state.size)) with
    | .ok [] => finishRead state
    | .ok (byte :: bytes) =>
      let (onward, state) := state.append (byte :: bytes)
      if onward then doReadBounded fuel state
      else pure (.error (.downloadSizeExceeded state.limit))
    | .eof => finishRead state
    | .error reason => pure (.error (.reader reason))
    | .invalid => pure (.error .invalidReadResult)

/-- `read_bounded`. Every piece but the last adds a byte within the limit. -/
def readBounded (limit : Nat) : Reading := doReadBounded (limit + 1) { limit }

/-- `read_file`. -/
def readFile (path : Binary) (limit : Nat) : Reading := do
  match ← fileCall (.openFile path) with
  | .ok _ => (readBounded limit).afterwards (fileCall .closeFile)
  | .error reason => pure (.error (.reader reason))

/-- A reader of the rest of a body: it gives a piece that is not empty and not longer than asked
for, until there is nothing left. -/
def Serves : (request : FileCall) → Binary → FileAnswer request → Binary → Prop
  | .openFile _, rest, .ok _, rest' => rest' = rest
  | .read count, rest, .ok piece, rest' =>
    piece ≠ [] ∧ piece.length ≤ count ∧ rest = piece ++ rest'
  | .read _, rest, .eof, rest' => rest = [] ∧ rest' = []
  | .closeFile, rest, _, rest' => rest' = rest
  | _, _, _, _ => False

/-- What is kept of a body under a limit, and whether it is longer. -/
def bounded (limit : Nat) (body : Binary) : Binary × Bool :=
  if body.length ≤ limit then (body, false) else (body.take (limit + 1), true)

/-- What is read of a body under a limit. -/
def boundedRead (limit : Nat) (body : Binary) : Except ReadError Binary :=
  if body.length ≤ limit then .ok body else .error (.downloadSizeExceeded limit)

end Model

section Chunks

variable {state : ArchiveIngress} {taken : Binary} {limit : Nat}

/-- The state holds what it has taken in. -/
theorem TakenIn.held_eq (takenIn : TakenIn state taken) : state.held = taken.length := by
  rw [held, ← takenIn.kept, List.length_flatten, List.map_reverse, List.sum_reverse]

/-- No state on the way holds more than the limit and one byte. -/
theorem TakenIn.visited {chunks : List Binary} (before : TakenIn state taken) :
    ∀ next ∈ state.visited chunks, next.held ≤ state.limit + 1 := by
  induction chunks generalizing state taken with
  | nil =>
    intro next member
    obtain rfl := List.mem_singleton.mp member
    rw [before.held_eq]
    exact before.within
  | cons chunk chunks ih =>
    obtain ⟨after, limit, onward⟩ := before.append chunk
    have here : state.held ≤ state.limit + 1 := by
      rw [before.held_eq]
      exact before.within
    have there : (state.append chunk).2.held ≤ state.limit + 1 := by
      have within := after.within
      rw [limit] at within
      rw [after.held_eq]
      exact within
    rw [ArchiveIngress.visited]
    dsimp only
    split
    · intro next member
      rcases List.mem_cons.mp member with rfl | later
      · exact here
      · rw [← limit]
        exact ih after next later
    · intro next member
      rcases List.mem_cons.mp member with rfl | later
      · exact here
      · obtain rfl := List.mem_singleton.mp later
        exact there

theorem takenIn_new (limit : Nat) : TakenIn { limit } [] := ⟨rfl, rfl, rfl, Nat.zero_le _⟩

/-- What is taken in of some chunks depends on their body alone. -/
theorem feed_bounded (limit : Nat) (chunks : List Binary) :
    (feed { limit } chunks).finish = bounded limit chunks.flatten := by
  rw [feed_finish, bounded]
  by_cases fits : chunks.flatten.length ≤ limit
  · rw [if_pos fits, List.take_of_length_le (by omega), decide_eq_false (by omega)]
  · rw [if_neg fits, decide_eq_true (by omega)]

/-- A response keeps the state of the chunks. -/
theorem feedResponse_getD {kept : Option ArchiveIngress} {chunks : List Binary} :
    (feedResponse limit kept chunks).getD { limit } = (kept.getD { limit }).feed chunks := by
  induction chunks generalizing kept with
  | nil => rfl
  | cons chunk chunks ih =>
    rw [feedResponse, feed, reqInto]
    dsimp only
    split
    · exact ih
    · rfl

end Chunks

section Reads

variable {fuel limit : Nat} {state : ArchiveIngress} {taken rest body : Binary}

/-- A state within its limit finishes with what it has taken in. -/
theorem TakenIn.finishRead (takenIn : TakenIn state taken) (fits : taken.length ≤ state.limit) :
    finishRead state = pure (.ok taken) := by
  have finished : state.finish = (taken, false) := by
    rw [finish, takenIn.kept, takenIn.overflow, decide_eq_false (by omega)]
  rw [ArchiveIngress.finishRead, finished]

/-- Within the limit the whole of a piece is taken in. -/
theorem TakenIn.append_within {piece : Binary} (before : TakenIn state taken)
    (fits : (taken ++ piece).length ≤ state.limit) :
    TakenIn (state.append piece).2 (taken ++ piece) := by
  have whole : (taken ++ piece).take (state.limit + 1) = taken ++ piece :=
    List.take_of_length_le (by omega)
  have after := (before.append piece).1
  rwa [whole] at after

/-- The rest of a body is read up to its end or past the limit, in no more calls than there are
bytes left to the limit. -/
theorem TakenIn.ensures_read (takenIn : TakenIn state taken) (fits : taken.length ≤ state.limit)
    (enough : state.limit < fuel + taken.length) :
    (doReadBounded fuel state).Ensures Serves rest fun outcome _ =>
      outcome = .ok (boundedRead state.limit (taken ++ rest)) := by
  induction fuel generalizing state taken rest with
  | zero => omega
  | succ fuel ih =>
    rw [ArchiveIngress.doReadBounded, Program.ensures_bind, Program.ensures_perform]
    intro answer rest' served
    cases answer with
    | error reason => exact served.elim
    | invalid => exact served.elim
    | eof =>
      obtain ⟨rfl, rfl⟩ := served
      dsimp only
      rw [takenIn.finishRead fits, Program.ensures_pure, List.append_nil, boundedRead, if_pos fits]
    | ok piece =>
      obtain ⟨nonempty, asked, rfl⟩ := served
      cases piece with
      | nil => exact absurd rfl nonempty
      | cons byte bytes =>
        obtain ⟨_, limit, onward⟩ := takenIn.append (byte :: bytes)
        dsimp only
        rw [onward, ← List.append_assoc]
        by_cases within : (taken ++ byte :: bytes).length ≤ state.limit
        · have longer : (taken ++ byte :: bytes).length = taken.length + (bytes.length + 1) :=
            List.length_append
          have after := takenIn.append_within within
          rw [← limit] at within ⊢
          rw [decide_eq_true within, if_pos rfl]
          exact ih after within (by omega)
        · have past : ¬ ((taken ++ byte :: bytes) ++ rest').length ≤ state.limit := by
            rw [List.length_append]
            omega
          rw [decide_eq_false within, if_neg Bool.false_ne_true, Program.ensures_pure, limit,
            boundedRead, if_neg past]

/-- Some reader serves every body. -/
theorem TakenIn.exec_read (takenIn : TakenIn state taken)
    (fits : taken.length ≤ state.limit) :
    ∃ outcome rest', (doReadBounded fuel state).Exec Serves rest outcome rest' := by
  induction fuel generalizing state taken rest with
  | zero => exact ⟨_, _, rfl, rfl⟩
  | succ fuel ih =>
    cases rest with
    | nil =>
      have finishes := takenIn.finishRead fits
      refine ⟨.ok (.ok taken), [], .eof, [], ⟨rfl, rfl⟩, ?_⟩
      change (ArchiveIngress.finishRead state).Exec Serves [] (.ok (.ok taken)) []
      rw [finishes]
      exact ⟨rfl, rfl⟩
    | cons byte rest =>
      have served : Serves (.read (state.limit + 1 - state.size)) (byte :: rest) (.ok [byte])
          rest := by
        have size := takenIn.size
        refine ⟨by simp, ?_, rfl⟩
        rw [List.length_singleton]
        omega
      obtain ⟨_, limit, onward⟩ := takenIn.append [byte]
      by_cases within : (taken ++ [byte]).length ≤ state.limit
      · have after := takenIn.append_within within
        have within' := within
        rw [← limit] at within'
        obtain ⟨outcome, rest', executed⟩ := ih after within'
        refine ⟨outcome, rest', .ok [byte], rest, served, ?_⟩
        change (if (state.append [byte]).1 then ArchiveIngress.doReadBounded fuel
          (state.append [byte]).2 else _).Exec Serves rest outcome rest'
        rw [onward, decide_eq_true within, if_pos rfl]
        exact executed
      · refine ⟨.ok (.error (.downloadSizeExceeded state.limit)), rest, .ok [byte], rest, served, ?_⟩
        change (if (state.append [byte]).1 then _ else pure (.error (.downloadSizeExceeded
          (state.append [byte]).2.limit)) : Reading).Exec Serves rest _ rest
        rw [onward, decide_eq_false within, if_neg Bool.false_ne_true, limit]
        exact ⟨rfl, rfl⟩

/-- A body is read up to its end or past the limit. -/
theorem ensures_readBounded (limit : Nat) (body : Binary) :
    (readBounded limit).Ensures Serves body fun outcome _ =>
      outcome = .ok (boundedRead limit body) :=
  (takenIn_new limit).ensures_read (Nat.zero_le _) (Nat.lt_succ_self _)

theorem ensures_readFile (path : Binary) (limit : Nat) (body : Binary) :
    (readFile path limit).Ensures Serves body fun outcome _ =>
      outcome = .ok (boundedRead limit body) := by
  rw [readFile, Program.ensures_bind, Program.ensures_perform]
  intro answer rest served
  cases answer with
  | error reason => exact served.elim
  | ok _ =>
    obtain rfl : rest = body := served
    dsimp only
    refine (ensures_readBounded limit rest).afterwards ?_
    intro outcome between read
    rw [Program.ensures_perform]
    exact fun _ _ _ => ⟨rfl, read⟩

/-- However a body is split, the chunks of a response and the pieces of a reader give the same of it:
all of it within the limit, and past the limit its first bytes or the refusal. -/
theorem ingestion_by_body (limit : Limit) (body : Binary) :
    (∀ chunks : List Binary, chunks.flatten = body →
      ((new limit).feed chunks).finish = bounded limit.val body ∧
      finishResponse limit.val (feedResponse limit.val none chunks) = bounded limit.val body ∧
      ∀ state ∈ (new limit).visited chunks, state.held ≤ limit.val + 1) ∧
    (∀ outcome rest, (readBounded limit.val).Exec Serves body outcome rest →
      outcome = .ok (boundedRead limit.val body)) ∧
    (∀ path outcome rest, (readFile path limit.val).Exec Serves body outcome rest →
      outcome = .ok (boundedRead limit.val body)) ∧
    ∃ rest, (readBounded limit.val).Exec Serves body (.ok (boundedRead limit.val body)) rest := by
  refine ⟨?_, ensures_readBounded limit.val body, fun path => ensures_readFile path limit.val body,
    ?_⟩
  · rintro chunks rfl
    have response : finishResponse limit.val (feedResponse limit.val none chunks) =
        (feed { limit := limit.val } chunks).finish := by
      rw [finishResponse, feedResponse_getD, Option.getD_none]
    refine ⟨feed_bounded limit.val chunks, ?_, (takenIn_new limit.val).visited⟩
    rw [response, feed_bounded]
  · obtain ⟨outcome, rest, executed⟩ :=
      (takenIn_new limit.val).exec_read (Nat.zero_le limit.val)
    have same := ensures_readBounded limit.val body outcome rest executed
    rw [same] at executed
    exact ⟨rest, executed⟩

/-- Three bytes in two chunks under a limit of two. -/
example : (feed { limit := 2 } [[1, 2], [3]]).finish = ([1, 2, 3], true) := by decide

end Reads

end ArchiveIngress

end Sidereon.Distribution
