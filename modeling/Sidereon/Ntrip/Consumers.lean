import Sidereon.Ntrip.Lifecycle
import Sidereon.Ntrip.StallChecks

/-!
# Two streams in one process

`stream` starts a stream process with the caller as its sink and makes an enumerable of what comes
back. Here one process consumes two of them in any order. Both stream processes send to its one
mailbox, each message with the reference of its process, and the receive of either enumerable takes
the first of these messages, whatever its reference.
-/

namespace Sidereon.Ntrip

open Foundation

variable (core : Core)

/-- One of the two streams. -/
inductive Side where
  | left
  | right
  deriving DecidableEq, Repr

/-- A message in the mailbox of the consumer: `{:ntrip, ref, message}` from one of the stream
processes, whose references are all distinct, or anything else. -/
inductive Mail where
  | ntrip (side : Side) (ref : Ref) (message : SinkMessage core)
  | other (tag : Nat)

/-- The consumer: its two stream processes, its mailbox, what either enumerable has yielded and
whether it has halted, and the enumerable that is being asked. -/
structure Consumer where
  systems : Side → System core
  mailbox : List (Mail core)
  yielded : Side → List Bytes
  halted : Side → Bool
  asked : Option Side

variable {core}

/-- The options of `stream`: the caller is the sink. -/
def streamOptions (opts : Options) : Options := { opts with sink := some (.process 0) }

/-- What a report of a stream process puts in the mailbox of its sink. -/
def Report.mail? (side : Side) : Report core → Option (Mail core)
  | .delivered (some (.process _)) ref message => some (.ntrip side ref message)
  | _ => none

/-- A selective receive: the first `{:ntrip, _, _}` and the mailbox without it. -/
def receiveNtrip : List (Mail core) → Option (SinkMessage core × List (Mail core))
  | [] => none
  | .ntrip _ _ message :: rest => some (message, rest)
  | .other tag :: rest => (receiveNtrip rest).map fun (message, rest) => (message, .other tag :: rest)

/-- One receive of `stream_next`, for the enumerable that is being asked: a payload is yielded, the
end halts, and anything else is dropped and the receive goes on. -/
def Consumer.streamNext (consumer : Consumer core) : Option (Consumer core) := do
  let side ← consumer.asked
  let (message, mailbox) ← receiveNtrip consumer.mailbox
  match message with
  | .payload bytes => some { consumer with
      mailbox
      asked := none
      yielded := Function.update consumer.yielded side (consumer.yielded side ++ [bytes]) }
  | .down _ => some { consumer with
      mailbox
      asked := none
      halted := Function.update consumer.halted side true }
  | _ => some { consumer with mailbox }

/-- What happens next: a step of a stream process, some other message, the consumer asking one of
the enumerables, or a receive. -/
inductive Turn where
  | process (side : Side) (label : Label)
  | arrive (tag : Nat)
  | ask (side : Side)
  | receive
  deriving DecidableEq, Repr

/-- The consumer after a step of one of its stream processes. -/
def Consumer.after (consumer : Consumer core) (side : Side) (system : System core) :
    Consumer core :=
  { consumer with
    systems := Function.update consumer.systems side system
    mailbox := consumer.mailbox ++
      (system.world.reports.drop (consumer.systems side).world.reports.length).filterMap
        (Report.mail? side) }

/-- The steps of a consumer of two streams. -/
def ConsumerStep (opts : Side → Options) (consumer : Consumer core) :
    Turn → Consumer core → Prop
  | .process side label, consumer' => ∃ system,
      Step (streamOptions (opts side)) (consumer.systems side) label system ∧
      consumer' = consumer.after side system
  | .arrive tag, consumer' =>
    consumer' = { consumer with mailbox := consumer.mailbox ++ [.other tag] }
  | .ask side, consumer' => consumer.asked = none ∧ consumer.halted side = false ∧
      consumer' = { consumer with asked := some side }
  | .receive, consumer' => consumer.streamNext = some consumer'

/-- Before the streams start. -/
def Consumer.initial (core : Core) (clock : Int) : Consumer core where
  systems _ := System.initial core clock
  mailbox := []
  yielded _ := []
  halted _ := false
  asked := none

/-- The payload of a message. -/
def SinkMessage.payload? : SinkMessage core → Option Bytes
  | .payload bytes => some bytes
  | _ => none

/-- Each enumerable has yielded the payloads that its own process sent first, in order, and has
halted exactly if it has come to the end its own process sent. -/
def Faithful (consumer : Consumer core) : Prop :=
  ∀ side, ∃ taken, taken <+: (consumer.systems side).world.told ∧
    consumer.yielded side = taken.filterMap SinkMessage.payload? ∧
    (consumer.halted side = true ↔ ∃ message ∈ taken, message.isDown = true)

/-- The side of the first `{:ntrip, _, _}` in a mailbox, if it is a payload or an end. -/
def nextSide? : List (Mail core) → Option Side
  | [] => none
  | .ntrip side _ (.payload _) :: _ => some side
  | .ntrip side _ (.down _) :: _ => some side
  | .ntrip _ _ _ :: _ => none
  | .other _ :: rest => nextSide? rest

/-- A receive does not come upon a payload or an end of the other stream. -/
def ReceivesOwn (step : Taken (Consumer core) Turn) : Prop :=
  step.label = .receive → ∀ side ∈ nextSide? step.before.mailbox, step.before.asked = some side

/-- The message of one side in a mail. -/
def Mail.message? (side : Side) : Mail core → Option (SinkMessage core)
  | .ntrip sender _ message => if sender = side then some message else none
  | .other _ => none

/-- The messages of one side in a mailbox. -/
def queue (side : Side) (mailbox : List (Mail core)) : List (SinkMessage core) :=
  mailbox.filterMap (Mail.message? side)

/-- A queue of more mail. -/
theorem queue_append (side : Side) (mailbox more : List (Mail core)) :
    queue side (mailbox ++ more) = queue side mailbox ++ queue side more :=
  List.filterMap_append

/-- What a report puts in the mailbox is a message of its side alone. -/
theorem mail_message (side other : Side) (report : Report core) :
    (report.mail? side).bind (Mail.message? other) =
      if side = other then report.told? else none := by
  rcases report with ⟨_ | (_ | _), ref, message⟩ | _ <;>
    by_cases same : side = other <;> simp [Report.mail?, Report.told?, Mail.message?, same]

/-- What reports put in the mailbox is queued for their side alone. -/
theorem queue_mail (side other : Side) (reports : List (Report core)) :
    queue other (reports.filterMap (Report.mail? side)) =
      if side = other then reports.filterMap Report.told? else [] := by
  rw [queue, List.filterMap_filterMap,
    List.filterMap_congr fun report _ => mail_message side other report]
  split
  · rfl
  · simp

/-- A receive takes the first message of some side: no other message of that side was before it,
and if it matters it is the one that comes next. -/
theorem receiveNtrip_takes {mailbox rest : List (Mail core)} {message : SinkMessage core}
    (received : receiveNtrip mailbox = some (message, rest)) :
    ∃ side, queue side mailbox = message :: queue side rest ∧
      (∀ other, other ≠ side → queue other mailbox = queue other rest) ∧
      (message.payload? ≠ none ∨ message.isDown = true → nextSide? mailbox = some side) := by
  induction mailbox generalizing rest with
  | nil => cases received
  | cons mail mailbox ih =>
    cases mail with
    | ntrip side ref sent =>
      obtain ⟨rfl, rfl⟩ := Prod.mk.inj (Option.some.inj received)
      refine ⟨side, by simp [queue, Mail.message?], fun other differs => ?_, ?_⟩
      · simp [queue, Mail.message?, Ne.symm differs]
      · cases sent with
        | payload | down => exact fun _ => rfl
        | rtcm | sourcetable | reconnecting =>
          intro matters
          simp [SinkMessage.payload?, SinkMessage.isDown] at matters
    | other tag =>
      obtain ⟨⟨sent, rest⟩, found, same⟩ := Option.map_eq_some_iff.mp received
      obtain ⟨rfl, rfl⟩ := Prod.mk.inj same
      obtain ⟨side, own, others, next⟩ := ih found
      exact ⟨side, own, others, next⟩

/-- A course adds reports. -/
theorem Course.reports_grow {st : State core} {armed : List TimerMessage}
    {verdict : Option (SinkMessage core)} {world world' : World core}
    (course : Course st armed verdict world world') :
    ∃ more, world'.reports = world.reports ++ more := by
  obtain ⟨plain, reports, _⟩ := course.reports
  exact ⟨_, by rw [reports, List.append_assoc]⟩

/-- Giving a connection up adds reports. -/
theorem Parts.reports_grow {st : State core} {world world' : World core}
    {outcome : Except Crash (Reply core)} (parts : Parts st world outcome world') :
    ∃ more, world'.reports = world.reports ++ more := by
  obtain ⟨_, _, course, _⟩ := parts.checks
  exact course.reports_grow

/-- An attempt to connect adds reports. -/
theorem Attempts.reports_grow {st : State core} {world world' : World core}
    {outcome : Except Crash (Reply core)} (attempts : Attempts st world outcome world') :
    ∃ more, world'.reports = world.reports ++ more := by
  cases attempts with
  | connects _ _ _ _ _ _ _ course => exact course.reports_grow
  | parts parts => exact parts.reports_grow

/-- A handled message adds reports. -/
theorem Handles.reports_grow {st : State core} {message : Message} {world world' : World core}
    {outcome : Except Crash (Reply core)} (handles : Handles st message world outcome world') :
    ∃ more, world'.reports = world.reports ++ more := by
  cases handles with
  | stays _ _ course | checks _ _ _ course | fails _ course | lost _ _ course =>
    exact course.reports_grow
  | parts _ parts => exact parts.reports_grow

/-- The reports of a stream process only grow. -/
theorem Step.reports_grow {opts : Options} {system system' : System core} {label : Label}
    (step : Step opts system label system') :
    ∃ more, system'.world.reports = system.world.reports ++ more := by
  by_cases start : label = .start
  · subst start
    obtain ⟨_, outcome, world', started, rfl⟩ := step
    obtain ⟨refs, st, _, _, _, _, attempts⟩ := start_attempts opts outcome world' started
    exact attempts.reports_grow
  by_cases handle : ∃ message, label = .handle message
  · obtain ⟨message, rfl⟩ := handle
    obtain ⟨st, rest, outcome, world', _, _, handled, rfl⟩ := step
    by_cases accepts : Accepts st message
    · rcases handleInfo_course st message accepts outcome world' handled with
        ⟨_, attempts⟩ | ⟨_, handles⟩
      · exact attempts.reports_grow
      · exact handles.reports_grow
    · obtain ⟨_, rfl⟩ := refused accepts handled
      exact ⟨[], by simp⟩
  · have idle := step.idle start fun message same => handle ⟨message, same⟩
    exact ⟨[], by simp [idle.reports]⟩

/-- What was told to a sink grows by the reports that were added. -/
theorem told_drop {world world' : World core} {more : List (Report core)}
    (grew : world'.reports = world.reports ++ more) :
    world'.told = world.told ++
      (world'.reports.drop world.reports.length).filterMap Report.told? := by
  rw [World.told, grew, List.filterMap_append, List.drop_left, World.told]

/-- What every reached consumer keeps that receives its own: of what a side was told, a part has
been taken, and the rest is queued. -/
def Sorted (consumer : Consumer core) : Prop :=
  ∀ side, ∃ taken, (consumer.systems side).world.told = taken ++ queue side consumer.mailbox ∧
    consumer.yielded side = taken.filterMap SinkMessage.payload? ∧
    (consumer.halted side = true ↔ ∃ message ∈ taken, message.isDown = true)

/-- A sorted consumer is faithful. -/
theorem Sorted.faithful {consumer : Consumer core} (sorted : Sorted consumer) :
    Faithful consumer := by
  intro side
  obtain ⟨taken, told, yielded, halted⟩ := sorted side
  exact ⟨taken, told ▸ List.prefix_append taken _, yielded, halted⟩

/-- A step of a stream process queues what it tells. -/
theorem Sorted.process {opts : Options} {consumer : Consumer core} {side : Side} {label : Label}
    {system : System core} (sorted : Sorted consumer)
    (step : Step opts (consumer.systems side) label system) : Sorted (consumer.after side system) := by
  intro other
  obtain ⟨taken, told, yielded, halted⟩ := sorted other
  obtain ⟨more, grew⟩ := step.reports_grow
  refine ⟨taken, ?_, yielded, halted⟩
  simp only [Consumer.after, queue_append, queue_mail]
  by_cases same : side = other
  · subst same
    rw [Function.update_self, told_drop grew, told, if_pos rfl, List.append_assoc]
  · rw [Function.update_of_ne (Ne.symm same), told, if_neg same, List.append_nil]

/-- A receive that comes upon its own takes it. -/
theorem Sorted.receive {consumer consumer' : Consumer core} (sorted : Sorted consumer)
    (own : ∀ side ∈ nextSide? consumer.mailbox, consumer.asked = some side)
    (received : consumer.streamNext = some consumer') : Sorted consumer' := by
  simp only [Consumer.streamNext, Option.bind_eq_bind, Option.bind_eq_some_iff] at received
  obtain ⟨asked, isAsked, ⟨message, rest⟩, taken, ends⟩ := received
  obtain ⟨side, mine, others, next⟩ := receiveNtrip_takes taken
  -- Whatever the message is, it moves from the queue of its side to what was taken of it.
  have moves : ∀ other, ∃ taken, (consumer.systems other).world.told = taken ++ queue other rest ∧
      (taken.filterMap SinkMessage.payload? = consumer.yielded other ++
        if other = side then message.payload?.toList else []) ∧
      ((∃ m ∈ taken, m.isDown = true) ↔
        consumer.halted other = true ∨ other = side ∧ message.isDown = true) := by
    intro other
    obtain ⟨taken, told, yielded, halted⟩ := sorted other
    by_cases same : other = side
    · subst same
      refine ⟨taken ++ [message], by simp [told, mine], ?_, ?_⟩
      · rw [List.filterMap_append, yielded, if_pos rfl]
        cases message <;> rfl
      · simp [or_and_right, exists_or, halted]
    · refine ⟨taken, by rw [told, others other same], by simp [yielded, same], ?_⟩
      simp [halted, same]
  have mineIfMatters : message.payload? ≠ none ∨ message.isDown = true → side = asked := by
    intro matters
    have askedMine := own side (next matters)
    rw [isAsked, Option.some.injEq] at askedMine
    exact askedMine.symm
  cases message with
  | payload bytes =>
    obtain rfl := mineIfMatters (Or.inl (by rintro ⟨⟩))
    obtain rfl := Option.some.inj ends
    intro other
    obtain ⟨taken, told, payloads, downs⟩ := moves other
    refine ⟨taken, told, ?_, ?_⟩
    · rw [payloads]
      by_cases same : other = side
      · subst same
        simp [SinkMessage.payload?]
      · simp [same]
    · simpa [SinkMessage.isDown] using downs.symm
  | down reason =>
    obtain rfl := mineIfMatters (Or.inr rfl)
    obtain rfl := Option.some.inj ends
    intro other
    obtain ⟨taken, told, payloads, downs⟩ := moves other
    refine ⟨taken, told, by simpa [SinkMessage.payload?] using payloads.symm, ?_⟩
    rw [downs]
    by_cases same : other = side
    · subst same
      simp [SinkMessage.isDown]
    · simp [same]
  | rtcm | sourcetable | reconnecting =>
    obtain rfl := Option.some.inj ends
    intro other
    obtain ⟨taken, told, payloads, downs⟩ := moves other
    refine ⟨taken, told, by simpa [SinkMessage.payload?] using payloads.symm, ?_⟩
    simpa [SinkMessage.isDown] using downs.symm

/-- A step that comes upon no message of the other stream keeps the consumer sorted. -/
theorem Sorted.step {opts : Side → Options} {consumer consumer' : Consumer core} {turn : Turn}
    (sorted : Sorted consumer) (step : ConsumerStep opts consumer turn consumer')
    (own : ReceivesOwn ⟨consumer, turn, consumer'⟩) : Sorted consumer' := by
  cases turn with
  | process side label =>
    obtain ⟨system, step, rfl⟩ := step
    exact sorted.process step
  | arrive tag =>
    subst step
    intro side
    obtain ⟨taken, told, yielded, halted⟩ := sorted side
    exact ⟨taken, by simp [told, queue, Mail.message?], yielded, halted⟩
  | ask side =>
    obtain ⟨_, _, rfl⟩ := step
    exact sorted
  | receive => exact sorted.receive (own rfl) step

/-- Over whole runs: when no receive comes upon a payload or an end of the other stream, each
enumerable yields what its own process sent and halts at its end. -/
theorem own_payloads {opts : Side → Options} {clock : Int}
    {steps : List (Taken (Consumer core) Turn)} {last : Consumer core}
    (run : Run (ConsumerStep opts) (Consumer.initial core clock) steps last)
    (own : ∀ step ∈ steps, ReceivesOwn step) : Faithful last := by
  have sorted : Sorted last :=
    run.invariant_of ReceivesOwn Sorted
      (fun side => ⟨[], rfl, rfl, by simp [Consumer.initial]⟩)
      (fun _ _ _ sorted step own => sorted.step step own) own
  exact sorted.faithful

section Echo

/-- A core whose payloads are the bytes received. -/
def echoCore : Core :=
  { idleCore with machinePush := fun _ bytes => ((), [.payload bytes]) }

/-- The step a turn takes in calm surroundings, if it can be taken. -/
def playTurn (opts : Side → Options) (consumer : Consumer core) : Turn → Option (Consumer core)
  | .process side label =>
    (play (streamOptions (opts side)) (consumer.systems side) label).map (consumer.after side)
  | .arrive tag => some { consumer with mailbox := consumer.mailbox ++ [.other tag] }
  | .ask side =>
    if consumer.asked = none ∧ consumer.halted side = false then
      some { consumer with asked := some side }
    else none
  | .receive => consumer.streamNext

/-- A played turn is a step. -/
theorem step_playTurn {opts : Side → Options} {consumer consumer' : Consumer core} {turn : Turn}
    (played : playTurn opts consumer turn = some consumer') :
    ConsumerStep opts consumer turn consumer' := by
  cases turn with
  | process side label =>
    obtain ⟨system, played, same⟩ := Option.map_eq_some_iff.mp played
    exact ⟨system, step_play played, same.symm⟩
  | arrive tag => exact (Option.some.inj played).symm
  | ask side =>
    simp only [playTurn] at played
    split at played
    · rename_i free
      exact ⟨free.1, free.2, (Option.some.inj played).symm⟩
    · cases played
  | receive => exact played

/-- A payload on the first connection of a stream. -/
def sends (side : Side) (bytes : Bytes) : List Turn :=
  [.process side (.arrive (.data .genTcp ⟨0⟩ bytes)),
    .process side (.handle (.data .genTcp ⟨0⟩ bytes))]

/-- Two streams zipped: either one is started when it is first asked, and then sends. -/
def zipped : List Turn :=
  [.ask .left, .process .left .start] ++ sends .left [1] ++ [.receive] ++
    [.ask .right, .process .right .start] ++ sends .right [2] ++ [.receive]

/-- What a turn finds next in the mailbox, and who is asked. -/
structure TurnGlance where
  turn : Turn
  next : Option Side
  asked : Option Side
  deriving DecidableEq, Repr

/-- The glance at a turn. -/
def turnGlance (step : Taken (Consumer core) Turn) : TurnGlance :=
  ⟨step.label, nextSide? step.before.mailbox, step.before.asked⟩

/-- Two streams whose payloads come in the order in which they are asked for. -/
theorem own_payloads_zipped :
    ∃ steps last, Run (ConsumerStep fun _ => casterOptions none) (Consumer.initial echoCore 0)
      steps last ∧ last.yielded .left = [[1]] ∧ last.yielded .right = [[2]] ∧ Faithful last := by
  have seen : ((Run.playAll (playTurn fun _ => casterOptions none) (Consumer.initial echoCore 0)
      zipped).map fun run => (run.1.map turnGlance, run.2.yielded .left, run.2.yielded .right)) =
      some
        ([⟨.ask .left, none, none⟩, ⟨.process .left .start, none, some .left⟩] ++
          (sends .left [1]).map (⟨·, none, some .left⟩) ++
          [⟨.receive, some .left, some .left⟩] ++
          [⟨.ask .right, none, none⟩, ⟨.process .right .start, none, some .right⟩] ++
          (sends .right [2]).map (⟨·, none, some .right⟩) ++
          [⟨.receive, some .right, some .right⟩],
        [[1]], [[2]]) := by
    decide +kernel
  obtain ⟨⟨steps, last⟩, played, seen⟩ := Option.map_eq_some_iff.mp seen
  obtain ⟨turns, left, right⟩ : _ ∧ _ ∧ _ := by simpa only [Prod.mk.injEq] using seen
  have run := Run.of_playAll (fun _ _ _ => step_playTurn) _ .nil played
  rw [List.nil_append] at run
  refine ⟨steps, last, run, left, right, own_payloads run fun step member => ?_⟩
  have shown := List.mem_map_of_mem (f := turnGlance) member
  have own : (turnGlance step).turn = .receive → ∀ side ∈ (turnGlance step).next,
      (turnGlance step).asked = some side := by
    rw [turns] at shown
    generalize turnGlance step = glanced at shown
    revert glanced
    decide
  exact own

/-- In the second round the right stream sends first, and the left enumerable yields what the right
one was sent. -/
theorem own_payloads_fails :
    ¬ ∀ (opts : Side → Options) (clock : Int) (steps : List (Taken (Consumer echoCore) Turn))
      (last : Consumer echoCore),
        Run (ConsumerStep opts) (Consumer.initial echoCore clock) steps last → Faithful last := by
  intro faithful
  have seen : ((Run.playAll (playTurn fun _ => casterOptions none) (Consumer.initial echoCore 0)
      (zipped ++ sends .right [3] ++ [.ask .left, .receive])).map fun run =>
        (run.2.yielded .left, (run.2.systems .left).world.told.length)) =
          some ([[1], [3]], 1) := by
    decide +kernel
  obtain ⟨⟨steps, last⟩, played, seen⟩ := Option.map_eq_some_iff.mp seen
  obtain ⟨yielded, told⟩ := Prod.mk.inj seen
  have run := Run.of_playAll (fun _ _ _ => step_playTurn) _ .nil played
  obtain ⟨taken, before, own, _⟩ := faithful _ _ _ _ run .left
  have few : (taken.filterMap SinkMessage.payload?).length ≤ 1 :=
    Nat.le_trans (List.length_filterMap_le _ _) (told ▸ before.length_le)
  rw [← own, yielded] at few
  exact absurd few (by decide)

end Echo

end Sidereon.Ntrip
