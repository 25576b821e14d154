import Mathlib.Data.List.Nodup
import Sidereon.Ntrip.Replies

/-!
# The connection over whole runs

What every state of every run keeps: each socket is opened once, the socket of the state is one of
those with its transport, messages come from opened sockets, and the time of the last bytes is no
earlier than any data the current connection has handed over.
-/

namespace Sidereon.Ntrip

open Foundation Foundation.Program

variable {core : Core}

/-- Data renews the time of the last bytes, every other message leaves it. -/
def State.lastRxAfter (st : State core) (clock : Int) : Message → Int
  | .data .. => clock
  | _ => st.lastRx

/-- What handling a message does to the connection: it stays, it is given up, or a new one is
made. -/
structure Moves (st : State core) (message : Message) (world : World core)
    (outcome : Except Crash (Reply core)) (world' : World core) : Prop where
  clock : world.clock ≤ world'.clock
  opened : world'.opened = world.opened ∨ ∃ o : Opened, o.socket ∉ world.sockets ∧
    world.clock ≤ o.openedAt ∧ o.openedAt ≤ world'.clock ∧ world'.opened = o :: world.opened
  state : ∀ st', outcome = .ok (.noreply st') → st'.opts = st.opts ∧
    (st'.socket = none ∧ st'.transport = none ∨
      (st'.socket = st.socket ∧ st'.transport = st.transport ∧
        st'.lastRx = st.lastRxAfter world.clock message) ∨
      ∃ o : Opened, o.socket ∉ world.sockets ∧ world'.opened = o :: world.opened ∧
        st'.socket = some o.socket ∧ st'.transport = some o.transport)

/-- A callback that keeps or gives up the connection, as a move. -/
theorem Answered.moves {st : State core} {message : Message} {world world' : World core}
    {outcome : Except Crash (Reply core)} {active : List Socket}
    (answered : Answered { st with lastRx := st.lastRxAfter world.clock message }
      { world with active } outcome world') : Moves st message world outcome world' := by
  refine ⟨answered.clock, Or.inl answered.opened, fun st' replied => ?_⟩
  obtain ⟨opts, same | gone⟩ := answered.state st' replied
  · exact ⟨opts, Or.inr (Or.inl ⟨same.socket, same.transport, same.lastRx⟩)⟩
  · exact ⟨opts, Or.inl gone⟩

/-- A callback that connects, as a move. -/
theorem Connects.moves {st : State core} {message : Message} {world world' : World core}
    {outcome : Except Crash (Reply core)} (connects : Connects st world outcome world') :
    Moves st message world outcome world' := by
  refine ⟨connects.clock, connects.opened, fun st' replied => ?_⟩
  obtain ⟨opts, gone | made⟩ := connects.state st' replied
  · exact ⟨opts, Or.inl gone⟩
  · exact ⟨opts, Or.inr (Or.inr made)⟩

/-- A stall check of a stream: a message the process sends itself. -/
abbrev Message.stallCheck : Message := .timer .stallCheck

/-- Every message moves the connection, and only a stall check can blame a stall. -/
theorem handleInfo_spec {world : World core} (st : State core) (message : Message) :
    (handleInfo st message).Ensures respond world fun outcome world' =>
      Moves st message world outcome world' ∧
        (message ≠ .stallCheck → Quiet world world') := by
  have unmatched : ∀ message : Message,
      (Program.crash .functionClause : Action core (Reply core)).Ensures respond world
        fun outcome world' => Moves st message world outcome world' ∧
          (message ≠ .stallCheck → Quiet world world') := fun message =>
    ensures_crash.mpr ⟨⟨Int.le_refl _, Or.inl rfl, by rintro _ ⟨⟩⟩, fun _ => .of_eq rfl⟩
  have ignored : ∀ message : Message, st.lastRxAfter world.clock message = st.lastRx →
      (pure (.noreply st) : Action core (Reply core)).Ensures respond world
        fun outcome world' => Moves st message world outcome world' ∧
          (message ≠ .stallCheck → Quiet world world') := by
    intro message keeps
    refine ensures_pure.mpr ⟨⟨Int.le_refl _, Or.inl rfl, ?_⟩, fun _ => .of_eq rfl⟩
    rintro st' ⟨⟩
    exact ⟨rfl, Or.inr (Or.inl ⟨rfl, rfl, keeps.symm⟩)⟩
  cases message with
  | data transport socket bytes =>
    simp only [handleInfo]
    split
    · refine (handleData_spec st transport socket bytes).mono ?_
      rintro outcome world' ⟨active, answered⟩
      obtain ⟨more, reports, quiet⟩ := answered.quiet
      exact ⟨answered.moves, fun _ => ⟨more, reports, quiet⟩⟩
    · exact unmatched _
  | closed transport socket =>
    simp only [handleInfo]
    split
    · exact (socketClosed_spec st .streamEnded id).mono fun _ _ ⟨answered, _⟩ =>
        ⟨answered.moves, fun _ => answered.quiet⟩
    · exact ignored _ rfl
  | error transport socket reason => exact unmatched _
  | timer message =>
    cases message with
    | stallCheck =>
      refine (stallCheck_spec st).mono ?_
      rintro outcome world' ⟨_, opened, clock, state, _⟩
      refine ⟨⟨clock, Or.inl opened, fun st' replied => ?_⟩, fun other => absurd rfl other⟩
      obtain ⟨opts, same | gone⟩ := state st' replied
      · exact ⟨opts, Or.inr (Or.inl ⟨same.socket, same.transport, same.lastRx⟩)⟩
      · exact ⟨opts, Or.inl gone⟩
    | connectAfterBackoff =>
      exact (connectStream_spec st).mono fun _ _ connects =>
        ⟨connects.moves, fun _ => connects.quiet⟩
    | ggaTick ref =>
      simp only [handleInfo]
      split
      · exact (ggaTick_spec st).mono fun _ _ answered => ⟨answered.moves, fun _ => answered.quiet⟩
      · exact ignored _ rfl

/-- What every reached state of a stream keeps. -/
structure Linked (opts : Options) (system : System core) : Prop where
  unstarted : system.status = .starting → system.received = []
  openedBy : ∀ o ∈ system.world.opened, o.openedAt ≤ system.world.clock
  distinct : system.world.sockets.Nodup
  arrived : ∀ message ∈ system.mailbox, ∀ socket transport,
    message.socket? = some (socket, transport) →
      ∃ o ∈ system.world.opened, o.socket = socket ∧ o.transport = transport
  received : ∀ r ∈ system.received, r.receivedAt ≤ system.world.clock ∧
    ∃ o ∈ system.world.opened, o.socket = r.socket ∧ o.openedAt ≤ r.receivedAt
  connection : ∀ st, system.status = .running st → st.opts = opts ∧
    (st.socket = none ∧ st.transport = none ∨ ∃ o ∈ system.world.opened,
      st.socket = some o.socket ∧ st.transport = some o.transport)
  lastBytes : ∀ st, system.status = .running st → ∀ r ∈ system.received,
    st.socket = some r.socket → r.receivedAt ≤ st.lastRx

/-- Two connections of one socket are one. -/
theorem Linked.unique {opts : Options} {system : System core} (linked : Linked opts system)
    {o o' : Opened} (member : o ∈ system.world.opened) (member' : o' ∈ system.world.opened)
    (same : o.socket = o'.socket) : o = o' :=
  List.inj_on_of_nodup_map linked.distinct member member' same

/-- Before the start there is nothing to link. -/
theorem Linked.initial (opts : Options) (clock : Int) : Linked opts (System.initial core clock) where
  unstarted _ := rfl
  openedBy := by simp [System.initial, World.initial]
  distinct := by simp [System.initial, World.initial, World.sockets]
  arrived := by simp [System.initial]
  received := by simp [System.initial]
  connection := by rintro st ⟨⟩
  lastBytes := by rintro st ⟨⟩

/-- A growth of the connections keeps what is known about them. -/
theorem Linked.grow {opts : Options} {system : System core} {world' : World core}
    (linked : Linked opts system) (clock : system.world.clock ≤ world'.clock)
    (opened : world'.opened = system.world.opened ∨ ∃ o : Opened,
      o.socket ∉ system.world.sockets ∧ system.world.clock ≤ o.openedAt ∧
      o.openedAt ≤ world'.clock ∧ world'.opened = o :: system.world.opened) :
    (∀ o ∈ world'.opened, o.openedAt ≤ world'.clock) ∧ world'.sockets.Nodup ∧
      ∀ o ∈ system.world.opened, o ∈ world'.opened := by
  rcases opened with same | ⟨o, fresh, _, before, more⟩
  · rw [World.sockets, same]
    exact ⟨fun o member => Int.le_trans (linked.openedBy o member) clock, linked.distinct,
      fun o member => member⟩
  · rw [World.sockets, more]
    refine ⟨?_, ?_, fun o' member => List.mem_cons_of_mem _ member⟩
    · intro o' member
      rcases List.mem_cons.mp member with rfl | earlier
      · exact before
      · exact Int.le_trans (linked.openedBy o' earlier) clock
    · rw [List.map_cons, List.nodup_cons]
      exact ⟨fresh, linked.distinct⟩

/-- The start of the process links the first connection. -/
theorem Linked.start {opts : Options} {system : System core} (linked : Linked opts system)
    {outcome : Except Crash (Reply core)} {world' : World core}
    (starting : system.status = .starting)
    (started : (Ntrip.start opts).Exec respond system.world outcome world') :
    Linked opts { system with status := .after outcome, world := world' } := by
  have nothing := linked.unstarted starting
  obtain ⟨refs, st, sameOpts, connects⟩ := start_spec opts outcome world' started
  obtain ⟨openedBy, distinct, kept⟩ := linked.grow connects.clock connects.opened
  refine ⟨fun _ => nothing, openedBy, distinct, ?_, ?_, ?_, ?_⟩
  · intro message member socket transport ofSocket
    obtain ⟨o, member', found⟩ := linked.arrived message member socket transport ofSocket
    exact ⟨o, kept o member', found⟩
  · simp [nothing]
  · intro st' running
    obtain rfl : outcome = .ok (.noreply st') := by
      rcases outcome with _ | _ | _ <;> cases running
      rfl
    obtain ⟨opts', gone | ⟨o, _, opened, socket, transport⟩⟩ := connects.state st' rfl
    · exact ⟨opts'.trans sameOpts, Or.inl gone⟩
    · exact ⟨opts'.trans sameOpts, Or.inr ⟨o, by simp [opened], socket, transport⟩⟩
  · simp [nothing]

/-- Handling a message keeps the links. -/
theorem Linked.handle {opts : Options} {system : System core} (linked : Linked opts system)
    {st : State core} {message : Message} {rest : List Message}
    {outcome : Except Crash (Reply core)} {world' : World core}
    (running : system.status = .running st) (queued : system.mailbox = message :: rest)
    (moves : Moves st message system.world outcome world') :
    Linked opts ⟨.after outcome, rest, world', system.handed message⟩ := by
  obtain ⟨openedBy, distinct, kept⟩ := linked.grow moves.clock moves.opened
  obtain ⟨sameOpts, connected⟩ := linked.connection st running
  have now : ∀ r ∈ system.handed message, r ∈ system.received ∨
      ∃ transport socket bytes, message = .data transport socket bytes ∧
        r = ⟨socket, system.world.clock⟩ := by
    intro r member
    cases message with
    | data transport socket bytes =>
      rcases List.mem_cons.mp member with rfl | earlier
      · exact Or.inr ⟨transport, socket, bytes, rfl, rfl⟩
      · exact Or.inl earlier
    | closed transport socket => exact Or.inl member
    | error transport socket reason => exact Or.inl member
    | timer message => exact Or.inl member
  have received : ∀ r ∈ system.handed message, r.receivedAt ≤ system.world.clock ∧
      ∃ o ∈ system.world.opened, o.socket = r.socket ∧ o.openedAt ≤ r.receivedAt := by
    intro r member
    rcases now r member with earlier | ⟨transport, socket, bytes, rfl, rfl⟩
    · exact linked.received r earlier
    · obtain ⟨o, member', found, _⟩ := linked.arrived _ (by rw [queued]; exact List.mem_cons_self)
        socket transport rfl
      exact ⟨Int.le_refl _, o, member', found, linked.openedBy o member'⟩
  have replied : ∀ st', (Status.after outcome : Status core) = .running st' →
      outcome = .ok (.noreply st') := by
    intro st' running'
    rcases outcome with _ | _ | _ <;> cases running'
    rfl
  refine ⟨?_, openedBy, distinct, ?_, ?_, ?_, ?_⟩
  · intro starting
    rcases outcome with _ | _ | _ <;> cases starting
  · intro later member socket transport ofSocket
    obtain ⟨o, member', found⟩ := linked.arrived later
      (by rw [queued]; exact List.mem_cons_of_mem _ member) socket transport ofSocket
    exact ⟨o, kept o member', found⟩
  · intro r member
    obtain ⟨before, o, member', found⟩ := received r member
    exact ⟨Int.le_trans before moves.clock, o, kept o member', found⟩
  · intro st' running'
    obtain ⟨opts', gone | ⟨socket, transport, _⟩ | ⟨o, _, opened, socket, transport⟩⟩ :=
      moves.state st' (replied st' running')
    · exact ⟨opts'.trans sameOpts, Or.inl gone⟩
    · rw [socket, transport]
      refine ⟨opts'.trans sameOpts, connected.imp id ?_⟩
      rintro ⟨o, member, found⟩
      exact ⟨o, kept o member, found⟩
    · exact ⟨opts'.trans sameOpts, Or.inr ⟨o, by simp [opened], socket, transport⟩⟩
  · intro st' running' r member current
    obtain ⟨_, gone | ⟨socket, _, lastRx⟩ | ⟨o, fresh, _, socket, _⟩⟩ :=
      moves.state st' (replied st' running')
    · rw [gone.1] at current
      cases current
    · rw [lastRx]
      rcases now r member with earlier | ⟨transport, socket', bytes, rfl, rfl⟩
      · cases message with
        | data transport socket bytes => exact (linked.received r earlier).1
        | closed => exact linked.lastBytes st running r earlier (socket ▸ current)
        | error => exact linked.lastBytes st running r earlier (socket ▸ current)
        | timer => exact linked.lastBytes st running r earlier (socket ▸ current)
      · exact Int.le_refl _
    · -- A new connection has handed over nothing: its socket was never opened before.
      obtain ⟨_, o', member', found, _⟩ := received r member
      rw [socket, Option.some.injEq] at current
      exact absurd (List.mem_map.mpr ⟨o', member', found.trans current.symm⟩) fresh

/-- Every step keeps the links. -/
theorem Linked.step {opts : Options} {system system' : System core} {label : Label}
    (linked : Linked opts system) (step : Step opts system label system') :
    Linked opts system' := by
  cases label with
  | start =>
    obtain ⟨starting, outcome, world', started, rfl⟩ := step
    exact linked.start starting started
  | tick clock =>
    obtain ⟨later, rfl⟩ := step
    refine ⟨linked.unstarted, ?_, linked.distinct, linked.arrived, ?_, linked.connection,
      linked.lastBytes⟩
    · exact fun o member => Int.le_trans (linked.openedBy o member) later
    · intro r member
      obtain ⟨before, found⟩ := linked.received r member
      exact ⟨Int.le_trans before later, found⟩
  | arrive message =>
    obtain ⟨⟨socket, transport, openedAt, ofSocket, member, _⟩, rfl⟩ := step
    have same : (system.world.arrived message).opened = system.world.opened ∧
        (system.world.arrived message).clock = system.world.clock := by
      cases message <;> exact ⟨rfl, rfl⟩
    refine ⟨linked.unstarted, ?_, ?_, ?_, ?_, ?_, linked.lastBytes⟩
    · simp only [same]
      exact linked.openedBy
    · simp only [World.sockets, same]
      exact linked.distinct
    · simp only [same, List.mem_append, List.mem_singleton]
      rintro message' (earlier | rfl) socket' transport' ofSocket'
      · exact linked.arrived message' earlier socket' transport' ofSocket'
      · rw [ofSocket, Option.some.injEq, Prod.mk.injEq] at ofSocket'
        exact ⟨_, member, ofSocket'.1, ofSocket'.2⟩
    · simp only [same]
      exact linked.received
    · simp only [same]
      exact linked.connection
  | fire timer =>
    obtain ⟨_, _, rfl⟩ := step
    refine ⟨linked.unstarted, linked.openedBy, linked.distinct, ?_, linked.received,
      linked.connection, linked.lastBytes⟩
    simp only [List.mem_append, List.mem_singleton]
    rintro message' (earlier | rfl) socket transport ofSocket
    · exact linked.arrived message' earlier socket transport ofSocket
    · cases ofSocket
  | handle message =>
    obtain ⟨st, rest, outcome, world', running, queued, handled, rfl⟩ := step
    exact linked.handle running queued (handleInfo_spec st message outcome world' handled).1

/-- The steps of a run are taken from linked states. -/
theorem linked_taken {opts : Options} {clock : Int} {steps : List (Taken (System core) Label)}
    {last : System core} (run : Run (Step opts) (System.initial core clock) steps last) :
    ∀ step ∈ steps, Linked opts step.before ∧ Step opts step.before step.label step.after :=
  run.taken (Linked opts) (.initial opts clock) fun _ _ _ linked step => linked.step step

end Sidereon.Ntrip
