import Sidereon.Ntrip.Courses

/-!
# Messages the process has yet to get from itself

A message the process sends itself is armed in a timer and then queued in the mailbox. Firing a
timer moves it, handling it uses it up, and only a callback arms another.
-/

namespace Sidereon.Ntrip

open Foundation

variable {core : Core}

/-- How often a message is armed. -/
def World.armed (world : World core) (message : TimerMessage) : Nat :=
  (world.timers.map Timer.message).count message

/-- How often a message is armed or queued. -/
def System.pending (system : System core) (message : TimerMessage) : Nat :=
  system.world.armed message + system.mailbox.count (.timer message)

/-- A callback arms what its course says, besides GGA ticks. -/
theorem Course.armed {st : State core} {armed : List TimerMessage}
    {verdict : Option (SinkMessage core)} {world world' : World core}
    (course : Course st armed verdict world world') (message : TimerMessage)
    (noTick : message.isGgaTick = false) :
    world'.armed message = world.armed message + armed.count message := by
  obtain ⟨new, timers, rfl⟩ := course.timers
  have kept : ((new.map Timer.message).filter fun message => !message.isGgaTick).count message =
      (new.map Timer.message).count message := List.count_filter (by simp [noTick])
  rw [World.armed, timers, List.map_append, List.count_append, kept, Nat.add_comm]
  rfl

/-- A step that runs no callback: it leaves the process, its sockets and its reports alone, and
keeps the number of pending messages. -/
structure Idle (system system' : System core) : Prop where
  status : system'.status = system.status
  opened : system'.world.opened = system.world.opened
  closed : system'.world.closed = system.world.closed
  reports : system'.world.reports = system.world.reports
  pending : ∀ message, system'.pending message = system.pending message

/-- Firing a timer moves its message to the mailbox. -/
theorem pending_fire {system : System core} {timer : Timer} (armed : timer ∈ system.world.timers)
    (message : TimerMessage) :
    System.pending { system with
      mailbox := system.mailbox ++ [.timer timer.message]
      world := { system.world with timers := system.world.timers.erase timer } } message =
      system.pending message := by
  have counts : (system.world.timers.map Timer.message).count message =
      ((system.world.timers.erase timer).map Timer.message).count message +
        [timer.message].count message := by
    rw [((List.perm_cons_erase armed).map Timer.message).count_eq, List.map_cons,
      ← List.singleton_append, List.count_append, Nat.add_comm]
  have queued : [Message.timer timer.message].count (.timer message) =
      [timer.message].count message := by
    by_cases same : timer.message = message <;> simp [same]
  simp only [System.pending, World.armed, List.count_append, counts, queued]
  omega

/-- Only the start and the handling of a message run a callback. -/
theorem Step.idle {opts : Options} {system system' : System core} {label : Label}
    (step : Step opts system label system') (noStart : label ≠ .start)
    (noHandle : ∀ message, label ≠ .handle message) : Idle system system' := by
  cases label with
  | start => exact absurd rfl noStart
  | handle message => exact absurd rfl (noHandle message)
  | tick clock =>
    obtain ⟨_, rfl⟩ := step
    exact ⟨rfl, rfl, rfl, rfl, fun _ => rfl⟩
  | arrive message =>
    obtain ⟨⟨socket, transport, _, ofSocket, _⟩, rfl⟩ := step
    have pending : ∀ timer, (system.mailbox ++ [message]).count (.timer timer) =
        system.mailbox.count (.timer timer) := by
      intro timer
      have other : message ≠ .timer timer := by
        rintro rfl
        cases ofSocket
      simp [List.count_append, other]
    cases message <;> exact ⟨rfl, rfl, rfl, rfl, fun timer => by
      simp only [System.pending, pending]; rfl⟩
  | fire timer =>
    obtain ⟨armed, _, rfl⟩ := step
    exact ⟨rfl, rfl, rfl, rfl, pending_fire armed⟩

/-- Before the process starts nothing is pending. -/
theorem pending_starting {opts : Options} {clock : Int} {steps : List (Taken (System core) Label)}
    {last : System core} (run : Run (Step opts) (System.initial core clock) steps last) :
    last.status = .starting → ∀ message, last.pending message = 0 := by
  refine run.invariant (fun system => system.status = .starting → ∀ message,
    system.pending message = 0) (fun _ _ => rfl) ?_
  intro system label system' nothing step starting message
  by_cases start : label = .start
  · subst start
    obtain ⟨_, outcome, world', _, rfl⟩ := step
    rcases outcome with _ | _ | _ <;> cases starting
  by_cases handle : ∃ message, label = .handle message
  · obtain ⟨message, rfl⟩ := handle
    obtain ⟨_, _, outcome, world', _, _, _, rfl⟩ := step
    rcases outcome with _ | _ | _ <;> cases starting
  · have idle := step.idle start fun message same => handle ⟨message, same⟩
    rw [idle.pending]
    exact nothing (idle.status ▸ starting) message

/-- What is pending after a message was handled: the message is used up, and what the callback
armed is added. -/
theorem Course.pending {system : System core} {st : State core} {message : Message}
    {rest : List Message} {armed : List TimerMessage} {verdict : Option (SinkMessage core)}
    {world' : World core} (course : Course st armed verdict system.world world')
    (queued : system.mailbox = message :: rest) (status : Status core) (received : List Received)
    (timer : TimerMessage) (noTick : timer.isGgaTick = false) :
    System.pending ⟨status, rest, world', received⟩ timer + [message].count (.timer timer) =
      system.pending timer + armed.count timer := by
  have mailbox : system.mailbox.count (.timer timer) =
      [message].count (.timer timer) + rest.count (.timer timer) := by
    rw [queued, ← List.singleton_append, List.count_append]
  simp only [System.pending, course.armed timer noTick, mailbox]
  omega

end Sidereon.Ntrip
