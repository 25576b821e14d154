import Sidereon.Foundation.Run
import Sidereon.Ntrip.Stream

/-!
# The stream process in its surroundings

Sockets, timers, a clock and a mailbox around the process. A message of an open socket and a timer
that is due go to the end of the mailbox at any moment, the process takes its messages from the
front, and what it has queued stays there when its socket is closed. Time passes between the steps
and inside the calls that block.
-/

namespace Sidereon.Ntrip

open Foundation
open Foundation.Beam (Number double)

variable (core : Core)

/-- A connection that succeeded, and when. -/
structure Opened where
  socket : Socket
  transport : Transport
  openedAt : Int
  deriving DecidableEq, Repr

/-- An armed timer. -/
structure Timer where
  message : TimerMessage
  due : Int
  deriving DecidableEq, Repr

/-- What has left the process: messages for its sink and messages ingested by a store. -/
inductive Report where
  | delivered (sink : Option Sink) (ref : Ref) (message : SinkMessage core)
  | ingested (store : Nat) (message : core.Rtcm) (week : Int) (towS : Number)

/-- The surroundings. Sockets in active-once mode are `active`. -/
structure World where
  clock : Int
  refs : Nat
  opened : List Opened
  active : List Socket
  closed : List Socket
  timers : List Timer
  reports : List (Report core)

/-- Before the process starts. -/
def World.initial (clock : Int) : World core := ⟨clock, 0, [], [], [], [], []⟩

variable {core}

/-- The sockets ever opened. -/
def World.sockets (world : World core) : List Socket := world.opened.map Opened.socket

/-- How the surroundings may answer a request. -/
def respond : (request : Request core) → World core → Answer core request → World core → Prop
  | .monotonicTime, world, now, world' => now = world.clock ∧ world' = world
  | .monotonicSeconds, world, _, world' => world' = world
  | .utcSecondsOfDay, world, _, world' => world' = world
  | .makeRef, world, ref, world' =>
    ref = ⟨world.refs⟩ ∧ world' = { world with refs := world.refs + 1 }
  | .connect transport _ _ _, world, answer, world' =>
    ∃ clock, world.clock ≤ clock ∧
      match answer with
      | .error _ => world' = { world with clock }
      | .ok socket => socket ∉ world.sockets ∧
          world' = { world with clock, opened := ⟨socket, transport, clock⟩ :: world.opened }
  | .sendBytes .., world, _, world' =>
    ∃ clock, world.clock ≤ clock ∧ world' = { world with clock }
  | .setActiveOnce _ socket, world, answer, world' =>
    match answer with
    | .ok () => world' = { world with active := socket :: world.active }
    | .error _ => world' = world
  | .close _ socket, world, _, world' => world' = { world with closed := socket :: world.closed }
  | .sendAfter message delay, world, _, world' =>
    world' = { world with timers := ⟨message, world.clock + delay⟩ :: world.timers }
  | .deliver sink ref message, world, _, world' =>
    world' = { world with reports := world.reports ++ [.delivered sink ref message] }
  | .transportFun _, world, _, world' =>
    ∃ clock, world.clock ≤ clock ∧ world' = { world with clock }
  | .ggaPosition, world, _, world' => ∃ clock, world.clock ≤ clock ∧ world' = { world with clock }
  | .storeEpoch, world, _, world' => ∃ clock, world.clock ≤ clock ∧ world' = { world with clock }
  | .ingest store message week towS, world, _, world' =>
    world' = { world with reports := world.reports ++ [.ingested store message week towS] }

variable (core)

/-- The life of the process. -/
inductive Status where
  | starting
  | running (st : State core)
  | stopped
  | crashed (reason : Crash)

variable {core}

/-- The life of the process after a callback. -/
def Status.after : Except Crash (Reply core) → Status core
  | .ok (.noreply st) => .running st
  | .ok (.stop _) => .stopped
  | .error reason => .crashed reason

/-- A data message handed to the process, and when. -/
structure Received where
  socket : Socket
  receivedAt : Int
  deriving DecidableEq, Repr

variable (core)

/-- The process, its mailbox and its surroundings, with the data messages handed over so far. -/
structure System where
  status : Status core
  mailbox : List Message
  world : World core
  received : List Received

/-- Before the process starts. -/
def System.initial (clock : Int) : System core := ⟨.starting, [], World.initial core clock, []⟩

/-- What happens next. -/
inductive Label where
  | start
  | tick (clock : Int)
  | arrive (message : Message)
  | fire (timer : Timer)
  | handle (message : Message)
  deriving DecidableEq, Repr

variable {core}

/-- The socket and transport of a socket message. -/
def Message.socket? : Message → Option (Socket × Transport)
  | .data transport socket _ => some (socket, transport)
  | .closed transport socket => some (socket, transport)
  | .error transport socket _ => some (socket, transport)
  | .timer _ => none

/-- A data message. -/
def Message.isData : Message → Bool
  | .data .. => true
  | _ => false

/-- Messages the surroundings may put in the mailbox come from an open socket, and data only from
one in active-once mode. -/
def World.mayArrive (world : World core) (message : Message) : Prop :=
  ∃ socket transport openedAt, message.socket? = some (socket, transport) ∧
    ⟨socket, transport, openedAt⟩ ∈ world.opened ∧ socket ∉ world.closed ∧
    (¬ message.isData ∨ socket ∈ world.active)

/-- The surroundings after a message of a socket arrived: data ends the active-once mode. -/
def World.arrived (world : World core) : Message → World core
  | .data _ socket _ => { world with active := world.active.erase socket }
  | _ => world

/-- The data messages handed over once a message is handled. -/
def System.handed (system : System core) : Message → List Received
  | .data _ socket _ => ⟨socket, system.world.clock⟩ :: system.received
  | _ => system.received

/-- The steps of a stream with the given options. -/
def Step (opts : Options) (system : System core) : Label → System core → Prop
  | .start, system' => system.status = .starting ∧ ∃ outcome world,
      (start opts).Exec respond system.world outcome world ∧
      system' = { system with status := .after outcome, world }
  | .tick clock, system' =>
    system.world.clock ≤ clock ∧ system' = { system with world := { system.world with clock } }
  | .arrive message, system' => system.world.mayArrive message ∧
      system' = { system with
        mailbox := system.mailbox ++ [message]
        world := system.world.arrived message }
  | .fire timer, system' => timer ∈ system.world.timers ∧ timer.due ≤ system.world.clock ∧
      system' = { system with
        mailbox := system.mailbox ++ [.timer timer.message]
        world := { system.world with timers := system.world.timers.erase timer } }
  | .handle message, system' => ∃ st rest outcome world,
      system.status = .running st ∧ system.mailbox = message :: rest ∧
      (handleInfo st message).Exec respond system.world outcome world ∧
      system' = {
        status := .after outcome
        mailbox := rest
        world
        received := system.handed message }

/-- Surroundings in which every call succeeds at once and sockets are numbered in order. -/
def calm : (request : Request core) → World core → Answer core request × World core
  | .monotonicTime, world => (world.clock, world)
  | .monotonicSeconds, world => ((0.0 : Float), world)
  | .utcSecondsOfDay, world => ((0.0 : Float), world)
  | .makeRef, world => (⟨world.refs⟩, { world with refs := world.refs + 1 })
  | .connect transport _ _ _, world =>
    let socket : Socket := ⟨world.opened.length⟩
    if socket ∈ world.sockets then (.error "taken", world)
    else (.ok socket,
      { world with opened := ⟨socket, transport, world.clock⟩ :: world.opened })
  | .sendBytes .., world => (.ok (), world)
  | .setActiveOnce _ socket, world => (.ok (), { world with active := socket :: world.active })
  | .close _ socket, world => ((), { world with closed := socket :: world.closed })
  | .sendAfter message delay, world =>
    ((), { world with timers := ⟨message, world.clock + delay⟩ :: world.timers })
  | .deliver sink ref message, world =>
    ((), { world with reports := world.reports ++ [.delivered sink ref message] })
  | .transportFun _, world => (.chunks [], world)
  | .ggaPosition, world => (none, world)
  | .storeEpoch, world => (none, world)
  | .ingest store message week towS, world =>
    (.ok (), { world with reports := world.reports ++ [.ingested store message week towS] })

/-- Calm surroundings answer as surroundings may. -/
theorem respond_calm (request : Request core) (world : World core) :
    respond request world (calm request world).1 (calm request world).2 := by
  cases request with
  | monotonicTime => exact ⟨rfl, rfl⟩
  | monotonicSeconds => rfl
  | utcSecondsOfDay => rfl
  | makeRef => exact ⟨rfl, rfl⟩
  | connect transport host port timeout =>
    refine ⟨world.clock, Int.le_refl _, ?_⟩
    by_cases taken : (⟨world.opened.length⟩ : Socket) ∈ world.sockets
    · simp only [calm, if_pos taken]
    · simp only [calm, if_neg taken]
      exact ⟨taken, trivial⟩
  | sendBytes => exact ⟨world.clock, Int.le_refl _, rfl⟩
  | setActiveOnce => rfl
  | close => rfl
  | sendAfter => rfl
  | deliver => rfl
  | transportFun => exact ⟨world.clock, Int.le_refl _, rfl⟩
  | ggaPosition => exact ⟨world.clock, Int.le_refl _, rfl⟩
  | storeEpoch => exact ⟨world.clock, Int.le_refl _, rfl⟩
  | ingest => rfl

/-- The step a label takes in calm surroundings, if it can be taken. -/
def play (opts : Options) (system : System core) : Label → Option (System core)
  | .start =>
    match system.status with
    | .starting =>
      let (outcome, world) := (start opts).replay calm system.world
      some { system with status := .after outcome, world }
    | _ => none
  | .tick clock =>
    if system.world.clock ≤ clock then some { system with world := { system.world with clock } }
    else none
  | .arrive message =>
    match message.socket? with
    | some (socket, transport) =>
      if (system.world.opened.any fun o => o.socket = socket ∧ o.transport = transport) ∧
          socket ∉ system.world.closed ∧ (¬ message.isData ∨ socket ∈ system.world.active) then
        some { system with
          mailbox := system.mailbox ++ [message]
          world := system.world.arrived message }
      else none
    | none => none
  | .fire timer =>
    if timer ∈ system.world.timers ∧ timer.due ≤ system.world.clock then
      some { system with
        mailbox := system.mailbox ++ [.timer timer.message]
        world := { system.world with timers := system.world.timers.erase timer } }
    else none
  | .handle message =>
    match system.status, system.mailbox with
    | .running st, first :: rest =>
      if first = message then
        let (outcome, world) := (handleInfo st message).replay calm system.world
        some { status := .after outcome, mailbox := rest, world, received := system.handed message }
      else none
    | _, _ => none

/-- A played step is a step. -/
theorem step_play {opts : Options} {system system' : System core} {label : Label}
    (played : play opts system label = some system') : Step opts system label system' := by
  cases label with
  | start =>
    simp only [play] at played
    split at played
    · rename_i starting
      exact ⟨starting, _, _, Program.exec_replay respond_calm _ _, (Option.some.inj played).symm⟩
    · cases played
  | tick clock =>
    simp only [play] at played
    split at played
    · rename_i later
      exact ⟨later, (Option.some.inj played).symm⟩
    · cases played
  | arrive message =>
    simp only [play] at played
    split at played
    · rename_i socket transport ofSocket
      split at played
      · rename_i allowed
        obtain ⟨opened, live, active⟩ := allowed
        simp only [List.any_eq_true, decide_eq_true_eq] at opened
        obtain ⟨⟨socket', transport', openedAt⟩, member, rfl, rfl⟩ := opened
        exact ⟨⟨_, _, openedAt, ofSocket, member, live, active⟩, (Option.some.inj played).symm⟩
      · cases played
    · cases played
  | fire timer =>
    simp only [play] at played
    split at played
    · rename_i armed
      exact ⟨armed.1, armed.2, (Option.some.inj played).symm⟩
    · cases played
  | handle message =>
    simp only [play] at played
    split at played
    · rename_i st first rest running queued
      split at played
      · rename_i same
        subst same
        exact ⟨st, rest, _, _, running, queued, Program.exec_replay respond_calm _ _,
          (Option.some.inj played).symm⟩
      · cases played
    · cases played

/-- The steps of a list of labels in calm surroundings, and the state they end in. -/
def playAll (opts : Options) : System core → List Label →
    Option (List (Taken (System core) Label) × System core)
  | system, [] => some ([], system)
  | system, label :: labels => do
    let system' ← play opts system label
    let (steps, last) ← playAll opts system' labels
    return (⟨system, label, system'⟩ :: steps, last)

/-- Played steps extend a run. -/
theorem run_playAll {opts : Options} {start : System core} (labels : List Label) :
    ∀ {system last : System core} {steps more : List (Taken (System core) Label)},
      Run (Step opts) start steps system → playAll opts system labels = some (more, last) →
      Run (Step opts) start (steps ++ more) last := by
  induction labels with
  | nil =>
    rintro system last steps more run ⟨⟩
    rwa [List.append_nil]
  | cons label labels ih =>
    intro system last steps more run played
    simp only [playAll, Option.bind_eq_bind, Option.bind_eq_some_iff, Option.pure_def,
      Option.some.injEq, Prod.mk.injEq] at played
    obtain ⟨system', stepped, ⟨later, last'⟩, rest, rfl, rfl⟩ := played
    have longer := ih (run.snoc (step_play stepped)) rest
    rwa [List.append_assoc] at longer

/-- What a step starts from, without the parts only the core can read. -/
structure Glance where
  label : Label
  clock : Int
  opened : List Opened
  received : List Received
  running : Option (Option Socket × Int × Nat)
  deriving DecidableEq, Repr

/-- The glance at a step; of a running process it shows the socket, the time of the last bytes and
the attempts. -/
def glance (step : Taken (System core) Label) : Glance where
  label := step.label
  clock := step.before.world.clock
  opened := step.before.world.opened
  received := step.before.received
  running := match step.before.status with
    | .running st => some (st.socket, st.lastRx, st.attempt)
    | _ => none

/-- A process seen at a glance. -/
theorem running_of_glance {step : Taken (System core) Label} {socket : Option Socket} {lastRx : Int}
    {attempt : Nat} (seen : (glance step).running = some (socket, lastRx, attempt)) :
    ∃ st, step.before.status = .running st ∧ st.socket = socket ∧ st.lastRx = lastRx ∧
      st.attempt = attempt := by
  simp only [glance] at seen
  split at seen
  · rename_i st running
    simp only [Option.some.injEq, Prod.mk.injEq] at seen
    exact ⟨st, running, seen⟩
  · cases seen

/-- A backoff of forty seconds. -/
def longBackoff : Number := double 40.0

/-- Options that only name a caster and, unless it is the default, the first backoff. -/
def casterOptions (initialS : Option Number) : Options where
  host := "caster"
  port := none
  version := none
  tls := none
  mountpoint := none
  credentials := none
  userAgentProduct := none
  gga := none
  connectTimeoutS := none
  stallTimeoutS := none
  reconnect := some ⟨initialS, none, none, none⟩
  sink := none
  sinkMode := none
  transportFun := false
  store := none
  weekFun := none

/-- A core that accepts every configuration and whose machine reports nothing. -/
def idleCore : Core where
  Config := Unit
  Machine := Unit
  Assembler := Unit
  Rtcm := Unit
  Table := Unit
  configNew _ := .ok ()
  requestBytes _ := .ok []
  machineNew _ := ()
  machinePush _ _ := ((), [])
  machineFinish _ := ((), [])
  machineReset _ := ()
  machineGga _ _ _ _ := ((), .ok none)
  assemblerNew := ()
  assemblerPush _ _ := ((), [])
  pow _ _ := 1.0

end Sidereon.Ntrip
