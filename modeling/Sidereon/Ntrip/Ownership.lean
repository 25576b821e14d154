import Sidereon.Ntrip.Pending

/-!
# Who owns the sockets

A socket that was opened is the socket of the state, was closed by the process, or was closed by the
other side. The callbacks keep this, with one exception: `open_socket` stores the socket only after
the request was sent over it and it was activated, and forgets it when either fails. In surroundings
that refuse neither, every socket has an owner in every state of every run.
-/

namespace Sidereon.Ntrip

open Foundation Foundation.Program

variable {core : Core}

/-- Surroundings that refuse neither bytes nor activation on a socket unless it was known before. -/
def welcome (known : List Socket) (request : Request core) (world : World core)
    (answer : Answer core request) (world' : World core) : Prop :=
  respond request world answer world' ∧
    match request, answer with
    | .sendBytes _ socket _, .error _ => socket ∈ known
    | .setActiveOnce _ socket, .error _ => socket ∈ known
    | _, _ => True

/-- What is executed in welcoming surroundings is executed in any. -/
theorem exec_welcome {α : Type} {known : List Socket} {program : Action core α}
    {world : World core} {outcome : Except Crash α} {world' : World core}
    (executed : program.Exec (welcome known) world outcome world') :
    program.Exec respond world outcome world' := by
  induction program generalizing world with
  | done value => exact executed
  | crash reason => exact executed
  | call request next ih =>
    obtain ⟨answer, between, welcomed, later⟩ := executed
    exact ⟨answer, between, welcomed.1, ih answer later⟩

/-- What any surroundings ensure, welcoming ones do. -/
theorem ensures_welcome {α : Type} {known : List Socket} {program : Action core α}
    {world : World core} {post : Except Crash α → World core → Prop}
    (ensures : program.Ensures respond world post) :
    program.Ensures (welcome known) world post :=
  fun outcome world' executed => ensures outcome world' (exec_welcome executed)

/-- Every opened socket is that of the state, closed, or gone with the other side. -/
structure Owns (gone : Socket → Prop) (st : State core) (world : World core) : Prop where
  carried : st.socket ≠ none → st.transport ≠ none
  owned : ∀ socket ∈ world.sockets,
    st.socket = some socket ∨ socket ∈ world.closed ∨ gone socket

/-- Every opened socket is closed or gone. -/
def Disposed (gone : Socket → Prop) (world : World core) : Prop :=
  ∀ socket ∈ world.sockets, socket ∈ world.closed ∨ gone socket

/-- What a callback leaves: every socket has an owner, unless the process crashed. -/
def KeepsOwners (gone : Socket → Prop) : Except Crash (Reply core) → World core → Prop
  | .ok (.noreply st), world => Owns gone st world
  | .ok (.stop _), world => Disposed gone world
  | .error _, _ => True

section Callbacks

variable {gone : Socket → Prop} {st st' : State core} {world world' : World core}

/-- Without a socket in the state every socket is disposed of. -/
theorem Owns.disposed (owns : Owns gone st world) (none : st.socket = none) :
    Disposed gone world := by
  intro socket member
  cases owns.owned socket member with
  | inl own =>
    rw [none] at own
    cases own
  | inr other => exact other

/-- A state without a socket owns what is disposed of. -/
theorem Disposed.owns (disposed : Disposed gone world) (none : st.socket = none) :
    Owns gone st world :=
  ⟨fun live => absurd none live, fun socket member => .inr (disposed socket member)⟩

/-- Work on one connection keeps the owners. -/
theorem Owns.worked (owns : Owns gone st world) (worked : Worked world world')
    (same : SameConnection st st') : Owns gone st' world' := by
  constructor
  · rw [same.socket, same.transport]
    exact owns.carried
  · rw [World.sockets, worked.opened, worked.closed, same.socket]
    exact owns.owned

/-- Closing the socket of the state disposes of the last one. -/
theorem closeStateSocket_owns (owns : Owns gone st world) :
    (closeStateSocket st).Ensures respond world fun outcome world' =>
      outcome = .ok () ∧ ∃ closed, world' = { world with closed } ∧ Disposed gone world' := by
  unfold closeStateSocket
  split
  · next socket transport live _ =>
    refine ensures_closeSocket.mpr ⟨rfl, _, rfl, fun other member => ?_⟩
    cases owns.owned other member with
    | inl own =>
      rw [live, Option.some.injEq] at own
      rw [own]
      exact .inl List.mem_cons_self
    | inr rest => exact rest.imp (List.mem_cons_of_mem _) id
  · next incomplete =>
    have none : st.socket = none := by
      cases live : st.socket with
      | none => rfl
      | some socket =>
        cases carrier : st.transport with
        | none => exact absurd carrier (owns.carried (by simp [live]))
        | some transport => exact absurd carrier (incomplete socket transport live)
    exact ensures_pure.mpr ⟨rfl, world.closed, rfl, owns.disposed none⟩

/-- `down` disposes of every socket. -/
theorem down_owns (owns : Owns gone st world) (reason : Reason core.Table) :
    (down st reason).Ensures respond world (KeepsOwners gone) := by
  have told : Owns gone st { world with
      reports := world.reports ++ [.delivered st.sink st.ref (.down reason)] } :=
    ⟨owns.carried, owns.owned⟩
  refine ensures_bind.mpr (ensures_deliver.mpr ((closeStateSocket_owns told).bind ?_ ?_))
  · intro _ between closes
    obtain ⟨-, closed, -, disposed⟩ := closes
    exact ensures_pure.mpr disposed
  · exact fun _ _ _ => trivial

/-- `reconnect` disposes of every socket. -/
theorem reconnect_owns (owns : Owns gone st world) (reason : Reason core.Table) :
    (reconnect st reason).Ensures respond world (KeepsOwners gone) := by
  have retries : (scheduleReconnect st reason).Ensures respond world (KeepsOwners gone) := by
    have told : Owns gone st { world with
        reports := world.reports ++
          [.delivered st.sink st.ref (.reconnecting reason (st.attempt + 1))] } :=
      ⟨owns.carried, owns.owned⟩
    refine ensures_bind.mpr (ensures_deliver.mpr (ensures_bind.mpr
      (ensures_arithmetic.mpr ⟨fun backoff _ => ?_, fun _ => trivial⟩)))
    refine (closeStateSocket_owns told).bind ?_ (fun _ _ _ => trivial)
    intro _ between closes
    obtain ⟨-, closed, -, disposed⟩ := closes
    refine ensures_bind.mpr (ensures_sendAfter.mpr (ensures_pure.mpr ?_))
    have disposed' : Disposed gone { between with
        timers := ⟨.connectAfterBackoff, between.clock + backoff⟩ :: between.timers } := disposed
    exact disposed'.owns rfl
  unfold reconnect
  split
  · split
    · exact down_owns owns reason
    · exact retries
  · exact retries

/-- Whatever a flow asks for, every socket has an owner. -/
theorem streamReply_owns (flow : Flow core) (owns : Owns gone flow.state world) :
    (streamReply flow).Ensures respond world (KeepsOwners gone) := by
  cases flow with
  | ok next => exact ensures_pure.mpr owns
  | reconnect next reason => exact reconnect_owns owns reason
  | stop next reason => exact down_owns owns reason

/-- Data keeps the owners. -/
theorem handleData_owns (owns : Owns gone st world) (transport : Transport) (socket : Socket)
    (bytes : Bytes) :
    (handleData st transport socket bytes).Ensures respond world (KeepsOwners gone) := by
  have received : ∀ active lastRx,
      (do streamReply (← processBytes bytes { st with lastRx }) : Action core (Reply core)).Ensures
        respond { world with active } (KeepsOwners gone) := by
    intro active lastRx
    have owns' : Owns gone { st with lastRx } { world with active } :=
      ⟨owns.carried, owns.owned⟩
    refine (processBytes_spec bytes _).bind ?_ (fun _ _ _ => trivial)
    intro flow between processed
    obtain ⟨worked, same, -⟩ := processed
    exact streamReply_owns flow (owns'.worked worked same)
  refine ensures_bind.mpr (ensures_setActiveOnce.mpr ⟨fun _ => ?_, ?_⟩)
  · exact ensures_bind.mpr (ensures_monotonicTime.mpr (received world.active world.clock))
  · exact ensures_bind.mpr (ensures_monotonicTime.mpr (received _ world.clock))

/-- After the other side closed the socket of the state, every socket still has an owner. -/
theorem socketClosed_owns (owns : Owns gone st world)
    (left : ∀ socket, st.socket = some socket → gone socket) (reason : Reason core.Table) :
    (socketClosed st reason).Ensures respond world (KeepsOwners gone) := by
  have disposed : Disposed gone world := by
    intro socket member
    cases owns.owned socket member with
    | inl own => exact .inr (left socket own)
    | inr rest => exact rest
  unfold socketClosed
  split
  · exact reconnect_owns (disposed.owns rfl) reason
  · next machine owned =>
    have owns' : Owns gone { st.shed with machine := some (core.machineFinish machine).1 } world :=
      disposed.owns rfl
    refine (processEvents_spec _ _ world).bind ?_ (fun _ _ _ => trivial)
    intro flow between working
    obtain ⟨worked, same, -⟩ := working
    have owns'' := owns'.worked worked same
    cases flow with
    | ok next => exact reconnect_owns owns'' reason
    | reconnect next reason => exact reconnect_owns owns'' reason
    | stop next reason => exact down_owns owns'' reason

/-- A stall check keeps the owners. -/
theorem stallCheck_owns (owns : Owns gone st world) :
    (stallCheck st).Ensures respond world (KeepsOwners gone) := by
  unfold stallCheck
  split
  · exact ensures_pure.mpr owns
  · refine ensures_bind.mpr (ensures_arithmetic.mpr ⟨fun timeout _ => ?_, fun _ => trivial⟩)
    refine ensures_bind.mpr (ensures_monotonicTime.mpr ?_)
    dsimp only
    split
    · exact reconnect_owns owns _
    · refine (scheduleStall_arms st.opts).bind ?_ (fun _ _ _ => trivial)
      intro _ between armed
      obtain ⟨due, rfl⟩ := armed
      exact ensures_pure.mpr ⟨owns.carried, owns.owned⟩

/-- A GGA tick keeps the owners. -/
theorem ggaTick_owns (owns : Owns gone st world) :
    (ggaTick st).Ensures respond world (KeepsOwners gone) := by
  refine (sendGga_spec st).bind ?_ (fun _ _ _ => trivial)
  intro flow between sent
  obtain ⟨worked, same, -⟩ := sent
  have owns' := owns.worked worked same
  cases flow with
  | ok next =>
    refine (scheduleGga_spec next).bind ?_ (fun _ _ _ => trivial)
    intro next' after scheduled
    exact ensures_pure.mpr (owns'.worked scheduled.1 scheduled.2)
  | reconnect next reason => exact reconnect_owns owns' reason
  | stop next reason => exact down_owns owns' reason

/-- `open_socket` stores the socket it opened, when nothing about it is refused. -/
theorem openSocket_owns (request : Bytes) (disposed : Disposed gone world)
    (none : st.socket = none) {known : List Socket}
    (only : ∀ socket ∈ known, socket ∈ world.sockets) :
    (openSocket request st).Ensures (welcome known) world (KeepsOwners gone) := by
  refine ensures_bind.mpr (ensures_welcome (ensures_arithmetic.mpr
    ⟨fun timeout _ => ?_, fun _ => trivial⟩))
  refine ensures_bind.mpr (ensures_perform.mpr fun answer between welcomed => ?_)
  obtain ⟨⟨clock, -, answered⟩, -⟩ := welcomed
  cases answer with
  | error reason =>
    subst answered
    have disposed' : Disposed gone { world with clock } := disposed
    exact ensures_welcome (reconnect_owns (disposed'.owns none) _)
  | ok socket =>
    obtain ⟨fresh, rfl⟩ := answered
    have new : socket ∉ known := fun member => fresh (only socket member)
    refine ensures_bind.mpr (ensures_perform.mpr fun answer between welcomed => ?_)
    obtain ⟨⟨clock', -, rfl⟩, accepted⟩ := welcomed
    cases answer with
    | error reason => exact absurd accepted new
    | ok _ =>
      refine ensures_bind.mpr (ensures_perform.mpr fun answer between welcomed => ?_)
      obtain ⟨activated, accepted⟩ := welcomed
      cases answer with
      | error reason => exact absurd accepted new
      | ok _ =>
        subst activated
        refine ensures_welcome ((scheduleStall_arms st.opts).bind ?_ (fun _ _ _ => trivial))
        intro _ between armed
        obtain ⟨due, rfl⟩ := armed
        refine ensures_pure.mpr ⟨fun _ => by simp, fun other member => ?_⟩
        cases List.mem_cons.mp member with
        | inl own => exact .inl (congrArg some own.symm)
        | inr earlier => exact .inr (disposed other earlier)

/-- An injected exchange keeps the owners. -/
theorem runInjected_owns (request : Bytes) (owns : Owns gone st world) :
    (runInjected request st).Ensures respond world (KeepsOwners gone) := by
  have terminal : ∀ (flow : Flow core) {world' : World core}, Owns gone flow.state world' →
      (streamTerminal .normal flow).Ensures respond world' (KeepsOwners gone) := by
    intro flow world' owns
    cases flow with
    | ok next => exact down_owns owns _
    | reconnect next reason => exact reconnect_owns owns reason
    | stop next reason => exact down_owns owns reason
  refine ensures_bind.mpr (ensures_callTransport.mpr fun result clock later => ?_)
  have owns' := owns.worked (.later later) (.refl st)
  cases result with
  | chunks chunks =>
    refine (injectChunks_spec chunks st _).bind ?_ (fun _ _ _ => trivial)
    intro flow between injected
    exact terminal flow (owns'.worked injected.1 injected.2.1)
  | body body =>
    refine (processBytes_spec body st).bind ?_ (fun _ _ _ => trivial)
    intro flow between processed
    exact terminal flow (owns'.worked processed.1 processed.2.1)
  | failed reason => exact reconnect_owns owns' _
  | other => exact ensures_crash.mpr trivial

/-- An attempt to connect keeps the owners, when nothing about a new socket is refused. -/
theorem connectStream_owns (disposed : Disposed gone world) (none : st.socket = none)
    {known : List Socket} (only : ∀ socket ∈ known, socket ∈ world.sockets) :
    (connectStream st).Ensures (welcome known) world (KeepsOwners gone) := by
  refine (ensures_welcome (config_spec _ _ _)).bind ?_ (fun _ _ _ => trivial)
  intro result between configured
  obtain ⟨rfl, -⟩ := configured
  cases result with
  | error reason => exact ensures_welcome (down_owns (disposed.owns none) reason)
  | ok handle =>
    dsimp only
    unfold connectConfigured
    split
    · exact ensures_welcome (down_owns (disposed.owns none) _)
    · dsimp only
      split
      · exact ensures_welcome (runInjected_owns _ (disposed.owns none))
      · refine openSocket_owns _ disposed ?_ only
        exact none

/-- The start of the process keeps the owners, when nothing about a new socket is refused. -/
theorem start_owns (opts : Options) (disposed : Disposed gone world) {known : List Socket}
    (only : ∀ socket ∈ known, socket ∈ world.sockets) :
    (start opts).Ensures (welcome known) world (KeepsOwners gone) := by
  have begun : (init opts : Action core (State core)).Ensures respond world fun outcome world' =>
      ∃ refs, world' = { world with refs } ∧ ∀ st, outcome = .ok st → st.socket = none := by
    refine ensures_bind.mpr (ensures_makeRef.mpr (ensures_bind.mpr
      (ensures_monotonicTime.mpr (ensures_pure.mpr ⟨_, rfl, ?_⟩))))
    intro st same
    cases same
    rfl
  refine (ensures_welcome begun).bind ?_ (fun _ _ _ => trivial)
  intro st between started
  obtain ⟨refs, rfl, none⟩ := started
  have disposed' : Disposed gone { world with refs } := disposed
  exact connectStream_owns disposed' (none st rfl) only

/-- Handling a message keeps the owners, when nothing about a new socket is refused. -/
theorem handleInfo_owns (message : Message) (owns : Owns gone st world)
    (waits : message = .connect → st.socket = none)
    (left : ∀ transport socket, message = .closed transport socket → gone socket)
    {known : List Socket} (only : ∀ socket ∈ known, socket ∈ world.sockets) :
    (handleInfo st message).Ensures (welcome known) world (KeepsOwners gone) := by
  cases message with
  | data transport socket bytes =>
    simp only [handleInfo]
    split
    · exact ensures_welcome (handleData_owns owns transport socket bytes)
    · exact ensures_crash.mpr trivial
  | closed transport socket =>
    simp only [handleInfo]
    split
    · next current =>
      refine ensures_welcome (socketClosed_owns owns (fun other own => ?_) _)
      rw [current.1, Option.some.injEq] at own
      rw [← own]
      exact left transport socket rfl
    · exact ensures_pure.mpr owns
  | error transport socket reason => exact ensures_crash.mpr trivial
  | timer message =>
    cases message with
    | stallCheck => exact ensures_welcome (stallCheck_owns owns)
    | connectAfterBackoff =>
      have none := waits rfl
      exact connectStream_owns (owns.disposed none) none only
    | ggaTick ref =>
      simp only [handleInfo]
      split
      · exact ensures_welcome (ggaTick_owns owns)
      · exact ensures_pure.mpr owns

end Callbacks

/-- The other side closed a socket: its message arrived in one of the steps. -/
def Gone (steps : List (Taken (System core) Label)) (socket : Socket) : Prop :=
  ∃ step ∈ steps, ∃ transport, step.label = .arrive (.closed transport socket)

/-- Every socket that was opened is the socket of the running process, or was closed by one side;
of a process that stopped every socket was closed. -/
structure Custody (steps : List (Taken (System core) Label)) (system : System core) : Prop where
  running : ∀ st, system.status = .running st → ∀ socket ∈ system.world.sockets,
    st.socket = some socket ∨ socket ∈ system.world.closed ∨ Gone steps socket
  stopped : system.status = .stopped → ∀ socket ∈ system.world.sockets,
    socket ∈ system.world.closed ∨ Gone steps socket

/-- No attempt to connect in the step fails after its socket was opened: the surroundings refuse
neither the request on the new socket nor its activation. -/
def Welcomed (opts : Options) (step : Taken (System core) Label) : Prop :=
  match step.label with
  | .start => ∃ outcome, (start opts).Exec (welcome step.before.world.sockets) step.before.world
      outcome step.after.world ∧ step.after.status = .after outcome
  | .handle message => ∀ st, step.before.status = .running st → ∃ outcome,
      (handleInfo st message).Exec (welcome step.before.world.sockets) step.before.world
        outcome step.after.world ∧ step.after.status = .after outcome
  | _ => True

/-- What every state of a run keeps whose attempts are welcomed: every socket has an owner, the
process does not connect while it has a socket, and a close message in the mailbox has arrived. -/
structure Keeps (steps : List (Taken (System core) Label)) (system : System core) : Prop where
  starting : system.status = .starting → Disposed (Gone steps) system.world
  running : ∀ st, system.status = .running st → Owns (Gone steps) st system.world
  stopped : system.status = .stopped → Disposed (Gone steps) system.world
  waits : ∀ st, system.status = .running st →
    st.socket ≠ none ∧ system.pending .connectAfterBackoff = 0 ∨
      st.socket = none ∧ system.pending .connectAfterBackoff ≤ 1
  arrived : ∀ transport socket, .closed transport socket ∈ system.mailbox → Gone steps socket

section Runs

variable {opts : Options} {steps : List (Taken (System core) Label)} {system : System core}

/-- A socket that is gone stays gone. -/
theorem Gone.later {socket : Socket} (gone : Gone steps socket)
    (step : Taken (System core) Label) : Gone (steps ++ [step]) socket := by
  obtain ⟨taken, member, closes⟩ := gone
  exact ⟨taken, List.mem_append_left _ member, closes⟩

/-- A backoff timer is pending at most once, and not while the process has a socket. -/
theorem waits_handle {st st' : State core} {message : Message} {rest : List Message}
    {world' : World core}
    (waits : st.socket ≠ none ∧ system.pending .connectAfterBackoff = 0 ∨
      st.socket = none ∧ system.pending .connectAfterBackoff ≤ 1)
    (queued : system.mailbox = message :: rest)
    (handled : (handleInfo st message).Exec respond system.world (.ok (.noreply st')) world')
    (received : List Received) :
    st'.socket ≠ none ∧
        System.pending ⟨.running st', rest, world', received⟩ .connectAfterBackoff = 0 ∨
      st'.socket = none ∧
        System.pending ⟨.running st', rest, world', received⟩ .connectAfterBackoff ≤ 1 := by
  have accepts : Accepts st message := by
    by_contra refuses
    cases (refused refuses handled).1
  have pending := fun armed verdict (course : Course st armed verdict system.world world') =>
    course.pending queued (.running st') received .connectAfterBackoff rfl
  obtain ⟨isConnect, attempts⟩ | ⟨other, handles⟩ :=
    handleInfo_course st message accepts _ world' handled
  · have used : [message].count (.timer .connectAfterBackoff) = 1 := by
      rw [isConnect]
      rfl
    cases attempts with
    | connects _ _ _ _ live _ _ course =>
      have counts := pending _ _ course
      have none : [TimerMessage.stallCheck].count .connectAfterBackoff = 0 := rfl
      exact .inl ⟨by simp [live], by omega⟩
    | parts parts =>
      cases parts with
      | retries _ _ _ socket _ course =>
        have counts := pending _ _ course
        have one : [TimerMessage.connectAfterBackoff].count .connectAfterBackoff = 1 := rfl
        exact .inr ⟨socket, by omega⟩
  · have unused : [message].count (.timer .connectAfterBackoff) = 0 := by
      rw [List.count_eq_zero, List.mem_singleton]
      exact fun same => other same.symm
    cases handles with
    | stays carries _ course =>
      have counts := pending _ _ course
      have none : ([] : List TimerMessage).count .connectAfterBackoff = 0 := rfl
      rw [carries.socket]
      exact waits.imp (fun live => ⟨live.1, by omega⟩) fun idle => ⟨idle.1, by omega⟩
    | checks _ live _ course =>
      have counts := pending _ _ course
      have none : [TimerMessage.stallCheck].count .connectAfterBackoff = 0 := rfl
      exact waits.imp (fun live => ⟨live.1, by omega⟩) fun idle => ⟨idle.1, by omega⟩
    | parts live parts =>
      have nothing := waits.resolve_right fun idle => live idle.1
      cases parts with
      | retries _ _ _ socket _ course =>
        have counts := pending _ _ course
        have one : [TimerMessage.connectAfterBackoff].count .connectAfterBackoff = 1 := rfl
        exact .inr ⟨socket, by omega⟩

/-- The start leaves a socket or one pending backoff timer. -/
theorem waits_start {st' : State core} {world' : World core}
    (nothing : system.pending .connectAfterBackoff = 0)
    (started : (start opts).Exec respond system.world (.ok (.noreply st')) world') :
    st'.socket ≠ none ∧
        System.pending { system with status := .running st', world := world' }
          .connectAfterBackoff = 0 ∨
      st'.socket = none ∧
        System.pending { system with status := .running st', world := world' }
          .connectAfterBackoff ≤ 1 := by
  obtain ⟨refs, st, -, -, -, -, attempts⟩ := start_attempts opts _ world' started
  have pending : ∀ {armed verdict}, Course st armed verdict { system.world with refs } world' →
      System.pending { system with status := .running st', world := world' }
        .connectAfterBackoff = armed.count .connectAfterBackoff := by
    intro armed verdict course
    have counts : world'.armed .connectAfterBackoff =
        system.world.armed .connectAfterBackoff + armed.count .connectAfterBackoff :=
      course.armed .connectAfterBackoff rfl
    simp only [System.pending] at nothing ⊢
    omega
  cases attempts with
  | connects _ _ _ _ live _ _ course => exact .inl ⟨by simp [live], pending course⟩
  | parts parts =>
    cases parts with
    | retries _ _ _ socket _ course => exact .inr ⟨socket, (pending course).le⟩

/-- A later step does not take an owner away. -/
theorem Owns.later {st : State core} {world : World core} (owns : Owns (Gone steps) st world)
    (step : Taken (System core) Label) : Owns (Gone (steps ++ [step])) st world :=
  ⟨owns.carried, fun socket member =>
    (owns.owned socket member).imp id (Or.imp id fun gone => gone.later step)⟩

/-- A later step does not undo the disposal of a socket. -/
theorem Disposed.later {world : World core} (disposed : Disposed (Gone steps) world)
    (step : Taken (System core) Label) : Disposed (Gone (steps ++ [step])) world :=
  fun socket member => (disposed socket member).imp id fun gone => gone.later step

/-- Before the start there is no socket to own. -/
theorem Keeps.initial (clock : Int) : Keeps [] (System.initial core clock) where
  starting _ := by
    intro socket member
    cases member
  running st impossible := by cases impossible
  stopped impossible := by cases impossible
  waits st impossible := by cases impossible
  arrived transport socket member := by cases member

/-- A step that runs no callback keeps the owners. -/
theorem Keeps.idle {system' : System core} {label : Label} (keeps : Keeps steps system)
    (idle : Idle system system')
    (arrived : ∀ transport socket, .closed transport socket ∈ system'.mailbox →
      .closed transport socket ∈ system.mailbox ∨ label = .arrive (.closed transport socket)) :
    Keeps (steps ++ [⟨system, label, system'⟩]) system' := by
  obtain ⟨status, opened, closed, -, pending⟩ := idle
  have sockets : system'.world.sockets = system.world.sockets := congrArg (List.map _) opened
  refine ⟨?_, ?_, ?_, ?_, ?_⟩
  · rw [status]
    intro starting socket member
    rw [sockets] at member
    rw [closed]
    exact (keeps.starting starting).later _ socket member
  · rw [status]
    intro st running
    have owns := (keeps.running st running).later ⟨system, label, system'⟩
    refine ⟨owns.carried, fun socket member => ?_⟩
    rw [sockets] at member
    rw [closed]
    exact owns.owned socket member
  · rw [status]
    intro stopped socket member
    rw [sockets] at member
    rw [closed]
    exact (keeps.stopped stopped).later _ socket member
  · rw [status, pending]
    exact keeps.waits
  · intro transport socket member
    cases arrived transport socket member with
    | inl earlier => exact (keeps.arrived transport socket earlier).later _
    | inr now => exact ⟨_, List.mem_append_right _ (List.mem_singleton_self _), transport, now⟩

/-- What a callback leaves is what the next state keeps. -/
theorem KeepsOwners.keeps {gone : Socket → Prop} {outcome : Except Crash (Reply core)}
    {system' : System core} (keepsOwners : KeepsOwners gone outcome system'.world)
    (status : system'.status = .after outcome) :
    (∀ st, system'.status = .running st → Owns gone st system'.world) ∧
      (system'.status = .stopped → Disposed gone system'.world) := by
  rw [status]
  constructor
  · intro st running
    rw [Status.after_running running] at keepsOwners
    exact keepsOwners
  · intro stopped
    rcases outcome with _ | _ | _ <;> cases stopped
    exact keepsOwners

/-- Every step whose attempt is welcomed keeps the owners. -/
theorem Keeps.step {system' : System core} {label : Label} (keeps : Keeps steps system)
    (nothing : system.status = .starting → system.pending .connectAfterBackoff = 0)
    (step : Step opts system label system')
    (welcomed : Welcomed opts ⟨system, label, system'⟩) :
    Keeps (steps ++ [⟨system, label, system'⟩]) system' := by
  cases label with
  | start =>
    obtain ⟨starting, outcome', world', _, rfl⟩ := step
    obtain ⟨outcome, started, status⟩ := welcomed
    have disposed := (keeps.starting starting).later
      ⟨system, .start, { system with status := .after outcome', world := world' }⟩
    have left := start_owns opts disposed (fun _ => id) outcome world' started
    obtain ⟨running, stopped⟩ := left.keeps status
    refine ⟨fun impossible => ?_, running, stopped, fun st' isRunning => ?_, ?_⟩
    · rcases outcome' with _ | _ | _ <;> cases impossible
    · have replied := Status.after_running (status.symm.trans isRunning)
      rw [replied] at started
      have waits := waits_start (nothing starting) (exec_welcome started)
      exact waits
    · intro transport socket member
      exact (keeps.arrived transport socket member).later _
  | handle message =>
    obtain ⟨st, rest, outcome', world', isRunning, queued, _, rfl⟩ := step
    obtain ⟨outcome, handled, status⟩ := welcomed st isRunning
    have owns := (keeps.running st isRunning).later ⟨system, .handle message,
      ⟨.after outcome', rest, world', system.handed message⟩⟩
    have arrived : ∀ transport socket, message = .closed transport socket →
        Gone (steps ++ [⟨system, .handle message,
          ⟨.after outcome', rest, world', system.handed message⟩⟩]) socket := by
      intro transport socket same
      refine (keeps.arrived transport socket ?_).later _
      rw [queued, same]
      exact List.mem_cons_self
    have waits : message = .connect → st.socket = none := by
      intro connects
      refine ((keeps.waits st isRunning).resolve_left fun live => ?_).1
      have queues : 0 < system.mailbox.count (.timer .connectAfterBackoff) := by
        rw [queued, connects]
        exact List.count_pos_iff.mpr List.mem_cons_self
      have none := live.2
      simp only [System.pending] at none
      omega
    have left := handleInfo_owns message owns waits arrived (fun _ => id) outcome world' handled
    obtain ⟨running, stopped⟩ := left.keeps status
    refine ⟨fun impossible => ?_, running, stopped, fun st' isRunning' => ?_, ?_⟩
    · rcases outcome' with _ | _ | _ <;> cases impossible
    · have replied := Status.after_running (status.symm.trans isRunning')
      rw [replied] at handled
      exact waits_handle (keeps.waits st isRunning) queued (exec_welcome handled)
        (system.handed message)
    · intro transport socket member
      refine (keeps.arrived transport socket ?_).later _
      rw [queued]
      exact List.mem_cons_of_mem _ member
  | tick clock =>
    have idle := step.idle (by simp) (by simp)
    obtain ⟨-, rfl⟩ := step
    exact keeps.idle idle fun transport socket member => .inl member
  | arrive message =>
    have idle := step.idle (by simp) (by simp)
    obtain ⟨-, rfl⟩ := step
    refine keeps.idle idle fun transport socket member => ?_
    rw [List.mem_append, List.mem_singleton] at member
    exact member.imp id fun same => by rw [same]
  | fire timer =>
    have idle := step.idle (by simp) (by simp)
    obtain ⟨-, -, rfl⟩ := step
    refine keeps.idle idle fun transport socket member => ?_
    rw [List.mem_append, List.mem_singleton] at member
    exact member.imp id fun same => by cases same

/-- In every run whose attempts are welcomed once their socket is open, every socket has an owner
in every state. -/
theorem sockets_owned {clock : Int}
    (run : Run (Step opts) (System.initial core clock) steps system)
    (welcomed : ∀ step ∈ steps, Welcomed opts step) : Custody steps system := by
  suffices keeps : Keeps steps system from
    ⟨fun st running => (keeps.running st running).owned, keeps.stopped⟩
  induction run with
  | nil => exact .initial clock
  | snoc run step ih =>
    rw [List.forall_mem_append, List.forall_mem_singleton] at welcomed
    exact (ih welcomed.1).step (fun starting => pending_starting run starting _) step welcomed.2

end Runs

/-- Calm surroundings welcome every attempt. -/
theorem welcome_calm (known : List Socket) (request : Request core) (world : World core) :
    welcome known request world (calm request world).1 (calm request world).2 := by
  refine ⟨respond_calm request world, ?_⟩
  cases request <;> trivial

/-- Played steps are welcomed. -/
theorem welcomed_play {opts : Options} {system system' : System core} {label : Label}
    (played : play opts system label = some system') : Welcomed opts ⟨system, label, system'⟩ := by
  cases label with
  | start =>
    simp only [play] at played
    split at played
    · cases played
      exact ⟨_, exec_replay (welcome_calm _) _ _, rfl⟩
    · cases played
  | handle message =>
    simp only [play] at played
    split at played
    · next st first rest isRunning queued =>
      split at played
      · cases played
        intro st' isRunning'
        rw [isRunning, Status.running.injEq] at isRunning'
        rw [← isRunning']
        exact ⟨_, exec_replay (welcome_calm _) _ _, rfl⟩
      · cases played
    · cases played
  | tick | arrive | fire => trivial

/-- All played steps are welcomed. -/
theorem welcomed_playAll {opts : Options} (labels : List Label) :
    ∀ {system last : System core} {steps : List (Taken (System core) Label)},
      playAll opts system labels = some (steps, last) → ∀ step ∈ steps, Welcomed opts step := by
  induction labels with
  | nil =>
    intro system last steps played
    cases played
    simp
  | cons label labels ih =>
    intro system last steps played
    simp only [playAll, Option.bind_eq_bind, Option.bind_eq_some_iff, Option.pure_def,
      Option.some.injEq, Prod.mk.injEq] at played
    obtain ⟨system', stepped, ⟨later, last'⟩, rest, rfl, rfl⟩ := played
    exact List.forall_mem_cons.mpr ⟨welcomed_play stepped, ih rest⟩

/-- A connection is closed by the other side and made again: both sockets have an owner. -/
theorem sockets_owned_reconnect :
    ∃ steps last, Run (Step (casterOptions none)) (System.initial idleCore 0) steps last ∧
      last.world.sockets = [⟨1⟩, ⟨0⟩] ∧ Custody steps last := by
  have opened : ((playAll (casterOptions none) (System.initial idleCore 0)
      [.start, .arrive (.closed .genTcp ⟨0⟩), .handle (.closed .genTcp ⟨0⟩), .tick 1000,
        .fire ⟨.connectAfterBackoff, 1000⟩, .handle .connect]).map
        fun run => run.2.world.sockets) = some [⟨1⟩, ⟨0⟩] := by
    decide +kernel
  obtain ⟨⟨steps, last⟩, played, sockets⟩ := Option.map_eq_some_iff.mp opened
  have run := run_playAll _ .nil played
  rw [List.nil_append] at run
  exact ⟨steps, last, run, sockets, sockets_owned run (welcomed_playAll _ played)⟩

/-- Surroundings in which every socket opens and then takes no bytes. -/
def deaf : (request : Request core) → World core → Answer core request × World core
  | .sendBytes .., world => (.error "closed", world)
  | request, world => calm request world

/-- Deaf surroundings answer as surroundings may. -/
theorem respond_deaf (request : Request core) (world : World core) :
    respond request world (deaf request world).1 (deaf request world).2 := by
  cases request with
  | sendBytes => exact ⟨world.clock, Int.le_refl _, rfl⟩
  | _ => exact respond_calm _ world

/-- The socket a callback keeps, and those that were opened and closed. -/
def socketGlance :
    Except Crash (Reply core) × World core → Option (Option Socket × List Socket × List Socket)
  | (.ok (.noreply st), world) => some (st.socket, world.sockets, world.closed)
  | _ => none

/-- A socket opens and the request cannot be sent over it: the process goes on without the socket,
and nobody has closed it. -/
theorem sockets_owned_fails :
    ¬ ∀ (core : Core) (opts : Options) (clock : Int) (steps : List (Taken (System core) Label))
      (last : System core), Run (Step opts) (System.initial core clock) steps last →
        Custody steps last := by
  intro owned
  have seen : socketGlance ((start (casterOptions none)).replay deaf
      (World.initial idleCore 0)) = some (none, [⟨0⟩], []) := by
    decide +kernel
  generalize replayed : (start (casterOptions none)).replay deaf (World.initial idleCore 0) =
    result at seen
  obtain ⟨outcome, world⟩ := result
  have executed := exec_replay respond_deaf (start (casterOptions none)) (World.initial idleCore 0)
  rw [replayed] at executed
  have step : Step (casterOptions none) (System.initial idleCore 0) .start
      { System.initial idleCore 0 with status := .after outcome, world } :=
    ⟨rfl, outcome, world, executed, rfl⟩
  have custody := owned idleCore (casterOptions none) 0 _ _ (Run.nil.snoc step)
  unfold socketGlance at seen
  split at seen
  · next st world' same =>
    cases same
    simp only [Option.some.injEq, Prod.mk.injEq] at seen
    have left := custody.running st rfl ⟨0⟩ (by rw [seen.2.1]; exact List.mem_cons_self)
    obtain own | closed | ⟨step, member, transport, arrives⟩ := left
    · rw [seen.1] at own
      cases own
    · rw [seen.2.2] at closed
      cases closed
    · rw [List.nil_append, List.mem_singleton] at member
      rw [member] at arrives
      cases arrives
  · cases seen

end Sidereon.Ntrip
