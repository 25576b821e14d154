import Sidereon.Ntrip.Callbacks

/-!
# How the callbacks end

A callback keeps the connection of its state, gives it up through `reconnect` or `down`, or makes a
new one. Giving it up leaves exactly one verdict, and only a stall check can blame a stall.
-/

namespace Sidereon.Ntrip

open Foundation Foundation.Program

variable {core : Core}

/-- The report blames a stall. -/
def Report.Stalls (report : Report core) : Prop :=
  ∃ reason, report.verdict? = some reason ∧ reason.IsStall

/-- Nothing reported in between blames a stall. -/
def Quiet (world world' : World core) : Prop :=
  ∃ more, world'.reports = world.reports ++ more ∧ ∀ report ∈ more, ¬ report.Stalls

namespace Quiet

variable {world world' world'' : World core}

/-- Quiet after quiet. -/
theorem trans (first : Quiet world world') (second : Quiet world' world'') :
    Quiet world world'' := by
  obtain ⟨more, reports, quiet⟩ := first
  obtain ⟨more', reports', quiet'⟩ := second
  refine ⟨more ++ more', ?_, List.forall_mem_append.mpr ⟨quiet, quiet'⟩⟩
  rw [reports', reports, List.append_assoc]

/-- Unchanged reports are quiet. -/
theorem of_eq (same : world'.reports = world.reports) : Quiet world world' :=
  ⟨[], by simp [same]⟩

end Quiet

/-- Work is quiet. -/
theorem Worked.quiet {world world' : World core} (worked : Worked world world') :
    Quiet world world' := by
  obtain ⟨more, reports, plain⟩ := worked.reports
  refine ⟨more, reports, ?_⟩
  rintro report member ⟨reason, verdict, _⟩
  rw [plain report member] at verdict
  cases verdict

/-- A reconnect after a number of attempts stays within range: no attempt is left, or the backoff of
the next one is a number of milliseconds. -/
def BackoffFits (core : Core) (opts : Options) (attempt : Nat) : Prop :=
  (∃ bound, maxReconnects opts = some bound ∧ (attempt : Int) ≥ bound) ∨
    backoffMs core.pow opts (attempt + 1) ≠ none

/-- How `reconnect` and `down` end: one verdict with the reason, no socket, and another attempt
scheduled unless the process stops. -/
structure Leaves (st : State core) (reason : Reason core.Table) (world : World core)
    (outcome : Except Crash (Reply core)) (world' : World core) : Prop where
  opened : world'.opened = world.opened
  clock : world'.clock = world.clock
  verdict : ∃ report : Report core, report.verdict? = some reason ∧
    world'.reports = world.reports ++ [report]
  reply : match outcome with
    | .ok (.stop _) => True
    | .ok (.noreply st') => st'.opts = st.opts ∧ st'.socket = none ∧ st'.transport = none ∧
        st'.attempt = st.attempt + 1 ∧
        ∃ due, (⟨.connectAfterBackoff, due⟩ : Timer) ∈ world'.timers
    | .error fault => fault = .arithmetic ∧ ¬ BackoffFits core st.opts st.attempt

/-- Closing the socket of a state changes the closed sockets only. -/
theorem closeStateSocket_spec {world : World core} (st : State core) :
    (closeStateSocket st).Ensures respond world fun outcome world' =>
      outcome = .ok () ∧ ∃ closed, world' = { world with closed } := by
  unfold closeStateSocket
  split
  · exact ensures_closeSocket.mpr ⟨rfl, _, rfl⟩
  · exact ensures_pure.mpr ⟨rfl, _, rfl⟩

/-- `down` gives the connection up. -/
theorem down_spec {world : World core} (st : State core) (reason : Reason core.Table) :
    (down st reason).Ensures respond world (Leaves st reason world) := by
  refine ensures_bind.mpr (ensures_deliver.mpr ?_)
  refine (closeStateSocket_spec st).bind ?_ ?_
  · rintro _ between ⟨_, closed, rfl⟩
    exact ensures_pure.mpr ⟨rfl, rfl, ⟨_, rfl, rfl⟩, trivial⟩
  · rintro fault between ⟨impossible, _⟩
    cases impossible

/-- Scheduling another attempt gives the connection up. -/
theorem scheduleReconnect_spec {world : World core} (st : State core)
    (reason : Reason core.Table)
    (left : ∀ bound, maxReconnects st.opts = some bound → ¬ (st.attempt : Int) ≥ bound) :
    (scheduleReconnect st reason).Ensures respond world (Leaves st reason world) := by
  refine ensures_bind.mpr (ensures_deliver.mpr ?_)
  refine ensures_bind.mpr (ensures_arithmetic.mpr ⟨fun backoff _ => ?_, fun overflow => ?_⟩)
  · refine (closeStateSocket_spec st).bind ?_ ?_
    · rintro _ between ⟨_, closed, rfl⟩
      refine ensures_bind.mpr (ensures_sendAfter.mpr (ensures_pure.mpr ?_))
      exact ⟨rfl, rfl, ⟨_, rfl, rfl⟩, rfl, rfl, rfl, rfl, _, List.mem_cons_self⟩
    · rintro fault between ⟨impossible, _⟩
      cases impossible
  · refine ⟨rfl, rfl, ⟨_, rfl, rfl⟩, rfl, ?_⟩
    rintro (⟨bound, found, reached⟩ | fits)
    · exact left bound found reached
    · exact fits overflow

/-- `reconnect` gives the connection up. -/
theorem reconnect_spec {world : World core} (st : State core) (reason : Reason core.Table) :
    (reconnect st reason).Ensures respond world (Leaves st reason world) := by
  unfold reconnect
  split
  · rename_i bound found
    split
    · exact down_spec st reason
    · rename_i attempts
      refine scheduleReconnect_spec st reason fun bound' found' => ?_
      rw [found, Option.some.injEq] at found'
      exact found' ▸ attempts
  · rename_i unbounded
    refine scheduleReconnect_spec st reason fun bound found => ?_
    rw [unbounded] at found
    cases found

/-- How a callback ends that opens no socket, blames no stall and has a clause. -/
structure Answered (st : State core) (world : World core)
    (outcome : Except Crash (Reply core)) (world' : World core) : Prop where
  matched : outcome ≠ .error .functionClause
  opened : world'.opened = world.opened
  clock : world.clock ≤ world'.clock
  quiet : Quiet world world'
  state : ∀ st', outcome = .ok (.noreply st') → st'.opts = st.opts ∧
    (SameConnection st st' ∨ st'.socket = none ∧ st'.transport = none)

/-- Giving a connection up has a clause. -/
theorem Leaves.matched {st : State core} {reason : Reason core.Table} {world world' : World core}
    {outcome : Except Crash (Reply core)} (left : Leaves st reason world outcome world') :
    outcome ≠ .error .functionClause := by
  rintro rfl
  obtain ⟨⟨⟩, _⟩ := left.reply

/-- Giving a connection up for no stall, after work on it. -/
theorem Leaves.answered {st st' : State core} {reason : Reason core.Table}
    {world world' world'' : World core} {outcome : Except Crash (Reply core)}
    (worked : Worked world world') (same : SameConnection st st')
    (left : Leaves st' reason world' outcome world'') (plain : ¬ reason.IsStall) :
    Answered st world outcome world'' := by
  obtain ⟨report, verdict, reports⟩ := left.verdict
  refine ⟨left.matched, left.opened.trans worked.opened, by rw [left.clock]; exact worked.clock,
    worked.quiet.trans ⟨[report], reports, ?_⟩, ?_⟩
  · simp only [List.mem_singleton, forall_eq]
    rintro ⟨reason', verdict', stalls⟩
    rw [verdict, Option.some.injEq] at verdict'
    exact plain (verdict' ▸ stalls)
  · rintro st'' rfl
    obtain ⟨opts, socket, transport, _⟩ := left.reply
    exact ⟨opts.trans same.opts, Or.inr ⟨socket, transport⟩⟩

/-- Work on a connection that goes on. -/
theorem Worked.answered {st st' : State core} {world world' : World core}
    (worked : Worked world world') (same : SameConnection st st') :
    Answered st world (.ok (.noreply st')) world' := by
  refine ⟨by rintro ⟨⟩, worked.opened, worked.clock, worked.quiet, ?_⟩
  rintro st'' ⟨⟩
  exact ⟨same.opts, Or.inl same⟩

/-- Work on a connection that ends in a fault. -/
theorem Worked.failed {st : State core} {world world' : World core} {fault : Crash}
    (worked : Worked world world') (matched : fault ≠ .functionClause) :
    Answered st world (.error fault) world' :=
  ⟨fun same => matched (Except.error.inj same), worked.opened, worked.clock, worked.quiet,
    by rintro _ ⟨⟩⟩

/-- How a callback ends that must give the connection up: with a reconnect or a down, or in a time
that is out of range. -/
def GivenUp (st : State core) : Except Crash (Reply core) → World core → Prop
  | .ok (.stop _), _ => True
  | .ok (.noreply st'), world' => st'.socket = none ∧ st'.attempt = st.attempt + 1 ∧
      ∃ due, (⟨.connectAfterBackoff, due⟩ : Timer) ∈ world'.timers
  | .error fault, _ => fault = .arithmetic ∧
      (¬ BackoffFits core st.opts st.attempt ∨ ¬ GgaFits st.opts)

/-- Giving a connection up, after work on it. -/
theorem Leaves.givenUp {st st' : State core} {reason : Reason core.Table}
    {world world' : World core} {outcome : Except Crash (Reply core)}
    (same : SameConnection st st') (left : Leaves st' reason world outcome world') :
    GivenUp st outcome world' := by
  have reply := left.reply
  cases outcome with
  | ok reply' =>
    cases reply' with
    | noreply st'' =>
      obtain ⟨_, socket, _, attempt, timer⟩ := reply
      exact ⟨socket, by rw [attempt, same.attempt], timer⟩
    | stop st'' => trivial
  | error fault =>
    obtain ⟨arithmetic, overflow⟩ := reply
    rw [same.opts, same.attempt] at overflow
    exact ⟨arithmetic, Or.inl overflow⟩

section Replies

variable {world : World core}

/-- What a callback does with the flow of its work. -/
theorem streamReply_spec {world' : World core} {st : State core} (flow : Flow core)
    (worked : Worked world world') (same : SameConnection st flow.state) (plain : flow.NoStall) :
    (streamReply flow).Ensures respond world' (Answered st world) := by
  cases flow with
  | ok next =>
    exact ensures_pure.mpr (worked.answered same)
  | reconnect next reason =>
    exact (reconnect_spec next reason).mono fun _ _ left => left.answered worked same plain
  | stop next reason =>
    exact (down_spec next reason).mono fun _ _ left => left.answered worked same plain

/-- `process_bytes` works on the connection when there is a machine. -/
theorem processBytes_spec (bytes : Bytes) (st : State core) :
    (processBytes bytes st).Ensures respond world fun outcome world' =>
      Worked world world' ∧ match outcome with
        | .ok flow => SameConnection st flow.state ∧ flow.NoStall
        | .error fault => fault ≠ .functionClause := by
  unfold processBytes
  split
  · exact ensures_crash.mpr ⟨.refl world, by rintro ⟨⟩⟩
  · refine (processEvents_spec _ _ world).mono ?_
    rintro outcome world' working
    cases outcome with
    | ok flow =>
      obtain ⟨worked, same, plain⟩ := working
      exact ⟨worked, .trans (.machine st _) same, plain⟩
    | error fault =>
      obtain ⟨worked, rfl, _⟩ := working
      exact ⟨worked, by rintro ⟨⟩⟩

/-- How a callback of the state without its connection ends, it ends for the state. -/
theorem Answered.of_shed {st : State core} {outcome : Except Crash (Reply core)}
    {world' : World core} (answered : Answered st.shed world outcome world') :
    Answered st world outcome world' := by
  refine ⟨answered.matched, answered.opened, answered.clock, answered.quiet,
    fun st' replied => ?_⟩
  obtain ⟨opts, same | gone⟩ := answered.state st' replied
  · exact ⟨opts, Or.inr ⟨same.socket, same.transport⟩⟩
  · exact ⟨opts, Or.inr gone⟩

/-- Giving up the state without its connection gives up the state. -/
theorem GivenUp.of_shed {st : State core} {outcome : Except Crash (Reply core)}
    {world' : World core} (left : GivenUp st.shed outcome world') : GivenUp st outcome world' := by
  cases outcome with
  | ok reply =>
    cases reply with
    | noreply st' => exact left
    | stop st' => trivial
  | error fault => exact left

/-- A closed socket gives the connection up. -/
theorem socketClosed_spec (st : State core) (reason : Reason core.Table)
    (plain : ¬ reason.IsStall) :
    (socketClosed st reason).Ensures respond world fun outcome world' =>
      Answered st world outcome world' ∧ GivenUp st outcome world' := by
  have leaves : ∀ (next : State core) (reason : Reason core.Table) (between : World core)
      (outcome : Except Crash (Reply core)) (world' : World core),
      Worked world between → SameConnection st.shed next → ¬ reason.IsStall →
      Leaves next reason between outcome world' →
      Answered st world outcome world' ∧ GivenUp st outcome world' :=
    fun next reason between outcome world' worked same plain left =>
      ⟨(left.answered worked same plain).of_shed, (left.givenUp same).of_shed⟩
  unfold socketClosed
  split
  · exact (reconnect_spec _ _).mono fun _ _ => leaves _ _ world _ _ (.refl world) (.refl _) plain
  · refine (processEvents_spec _ _ world).bind ?_ ?_
    · intro flow between worked
      obtain ⟨worked, same, quiet⟩ := worked
      have same := (SameConnection.machine st.shed _).trans same
      cases flow with
      | ok next =>
        exact (reconnect_spec _ _).mono fun _ _ => leaves _ _ between _ _ worked same plain
      | reconnect next reason =>
        exact (reconnect_spec _ _).mono fun _ _ => leaves _ _ between _ _ worked same quiet
      | stop next reason =>
        exact (down_spec _ _).mono fun _ _ => leaves _ _ between _ _ worked same quiet
    · intro fault between failed
      obtain ⟨worked, arithmetic, unfit⟩ := failed
      exact ⟨worked.failed (by rw [arithmetic]; rintro ⟨⟩), arithmetic, Or.inr unfit⟩

/-- A GGA tick of the current timer works on the connection. -/
theorem ggaTick_spec (st : State core) :
    (ggaTick st).Ensures respond world (Answered st world) := by
  refine (sendGga_spec st).bind ?_ ?_
  · rintro flow between ⟨worked, same, quiet⟩
    cases flow with
    | ok next =>
      refine (scheduleGga_spec next).bind ?_ ?_
      · rintro next' after ⟨more, same'⟩
        exact ensures_pure.mpr ((worked.trans more).answered (same.trans same'))
      · rintro fault after ⟨more, rfl, _⟩
        exact (worked.trans more).failed (by rintro ⟨⟩)
    | reconnect next reason =>
      exact (reconnect_spec _ _).mono fun _ _ left => left.answered worked same quiet
    | stop next reason =>
      exact (down_spec _ _).mono fun _ _ left => left.answered worked same quiet
  · rintro fault between ⟨worked, rfl, _⟩
    exact worked.failed (by rintro ⟨⟩)

/-- Data of the current socket renews the time of the last bytes and is worked on. -/
theorem handleData_spec (st : State core) (transport : Transport) (socket : Socket)
    (bytes : Bytes) :
    (handleData st transport socket bytes).Ensures respond world fun outcome world' =>
      ∃ active, Answered { st with lastRx := world.clock } { world with active } outcome world' := by
  have received : ∀ active,
      (do
        let lastRx ← monotonicTime
        streamReply (← processBytes bytes { st with lastRx }) : Action core (Reply core)).Ensures
        respond { world with active }
        (Answered { st with lastRx := world.clock } { world with active }) := by
    intro active
    refine ensures_bind.mpr (ensures_monotonicTime.mpr ?_)
    refine (processBytes_spec bytes _).bind ?_ ?_
    · rintro flow between ⟨worked, same, quiet⟩
      exact streamReply_spec flow worked same quiet
    · rintro fault between ⟨worked, matched⟩
      exact worked.failed matched
  refine ensures_bind.mpr (ensures_setActiveOnce.mpr ⟨fun _ => ?_, ?_⟩)
  · exact (received world.active).mono fun _ _ answered => ⟨_, answered⟩
  · exact (received (socket :: world.active)).mono fun _ _ answered => ⟨_, answered⟩

/-- Scheduling a stall check arms a timer, unless the timeout is out of range. -/
theorem scheduleStall_spec (opts : Options) :
    (scheduleStall opts : Action core Unit).Ensures respond world fun outcome world' =>
      (∀ fault, outcome = .error fault → fault = .arithmetic) ∧
        ∃ timers, world' = { world with timers } := by
  refine ensures_bind.mpr (ensures_arithmetic.mpr ⟨fun timeout _ => ?_, fun _ => ?_⟩)
  · exact ensures_sendAfter.mpr ⟨by rintro _ ⟨⟩, _, rfl⟩
  · exact ⟨by rintro _ ⟨⟩; rfl, _, rfl⟩

/-- A stall check of a live socket blames a stall exactly when no bytes have come for the timeout
since the time of the last bytes, and then gives the connection up. -/
theorem stallCheck_spec (st : State core) :
    (stallCheck st).Ensures respond world fun outcome world' =>
      outcome ≠ .error .functionClause ∧
      world'.opened = world.opened ∧ world.clock ≤ world'.clock ∧
      (∀ st', outcome = .ok (.noreply st') → st'.opts = st.opts ∧
        (SameConnection st st' ∨ st'.socket = none ∧ st'.transport = none)) ∧
      ((Quiet world world' ∧ ∀ timeout, st.socket ≠ none → stallTimeout st.opts = some timeout →
          world.clock - st.lastRx < timeout) ∨
        ∃ timeout, st.socket ≠ none ∧ stallTimeout st.opts = some timeout ∧
          timeout ≤ world.clock - st.lastRx ∧
          Leaves st (.streamStalled (world.clock - st.lastRx)) world outcome world') := by
  unfold stallCheck
  split
  · rename_i closed
    refine ensures_pure.mpr ⟨by rintro ⟨⟩, rfl, Int.le_refl _, ?_, Or.inl ⟨.of_eq rfl, ?_⟩⟩
    · rintro st' ⟨⟩
      exact ⟨rfl, Or.inl (.refl st)⟩
    · intro timeout live
      exact absurd closed live
  · rename_i socket live
    refine ensures_bind.mpr (ensures_arithmetic.mpr ⟨fun timeout found => ?_, fun overflow => ?_⟩)
    · refine ensures_bind.mpr (ensures_monotonicTime.mpr ?_)
      dsimp only
      split
      · rename_i stalled
        refine (reconnect_spec st _).mono fun outcome world' left => ?_
        refine ⟨left.matched, left.opened, left.clock.ge, ?_,
          Or.inr ⟨timeout, by simp [live], found, stalled, left⟩⟩
        rintro st' rfl
        obtain ⟨opts, socket, transport, _⟩ := left.reply
        exact ⟨opts, Or.inr ⟨socket, transport⟩⟩
      · rename_i fresh
        have early : ∀ timeout', st.socket ≠ none → stallTimeout st.opts = some timeout' →
            world.clock - st.lastRx < timeout' := by
          intro timeout' _ found'
          rw [found, Option.some.injEq] at found'
          omega
        refine (scheduleStall_spec st.opts).bind ?_ ?_
        · rintro _ between ⟨_, timers, rfl⟩
          refine ensures_pure.mpr ⟨by rintro ⟨⟩, rfl, Int.le_refl _, ?_,
            Or.inl ⟨.of_eq rfl, early⟩⟩
          rintro st' ⟨⟩
          exact ⟨rfl, Or.inl (.refl st)⟩
        · rintro fault between ⟨only, timers, rfl⟩
          obtain rfl := only fault rfl
          exact ⟨by rintro ⟨⟩, rfl, Int.le_refl _, by rintro _ ⟨⟩, Or.inl ⟨.of_eq rfl, early⟩⟩
    · refine ⟨by rintro ⟨⟩, rfl, Int.le_refl _, by rintro _ ⟨⟩, Or.inl ⟨.of_eq rfl, ?_⟩⟩
      intro timeout _ found
      rw [overflow] at found
      cases found

/-- The connections of the surroundings grew by at most one, opened in between. -/
structure Grew (world world' : World core) : Prop where
  clock : world.clock ≤ world'.clock
  quiet : Quiet world world'
  opened : world'.opened = world.opened ∨ ∃ o : Opened, o.socket ∉ world.sockets ∧
    world.clock ≤ o.openedAt ∧ o.openedAt ≤ world'.clock ∧ world'.opened = o :: world.opened

/-- How a callback ends that connects: with no socket, or with the one it opened. -/
structure Connects (st : State core) (world : World core)
    (outcome : Except Crash (Reply core)) (world' : World core) : Prop extends
    Grew world world' where
  matched : outcome ≠ .error .functionClause
  state : ∀ st', outcome = .ok (.noreply st') → st'.opts = st.opts ∧
    (st'.socket = none ∧ st'.transport = none ∨
      ∃ o : Opened, o.socket ∉ world.sockets ∧ world'.opened = o :: world.opened ∧
        st'.socket = some o.socket ∧ st'.transport = some o.transport)

/-- Work opens nothing. -/
theorem Worked.grew {world' : World core} (worked : Worked world world') : Grew world world' :=
  ⟨worked.clock, worked.quiet, Or.inl worked.opened⟩

/-- A growth in which more time passes. -/
theorem Grew.later {world' : World core} (grew : Grew world world') {clock : Int}
    (passes : world'.clock ≤ clock) (active : List Socket) (timers : List Timer) :
    Grew world { world' with clock, active, timers } := by
  obtain ⟨more, reports, quiet⟩ := grew.quiet
  refine ⟨Int.le_trans grew.clock passes, ⟨more, reports, quiet⟩, ?_⟩
  rcases grew.opened with same | ⟨o, fresh, after, before, opened⟩
  · exact Or.inl same
  · exact Or.inr ⟨o, fresh, after, Int.le_trans before passes, opened⟩

/-- A growth that ends in a fault. -/
theorem Grew.failed {world' : World core} {st : State core} {fault : Crash}
    (grew : Grew world world') (matched : fault ≠ .functionClause) :
    Connects st world (.error fault) world' :=
  { grew with
    matched := fun same => matched (Except.error.inj same)
    state := by rintro _ ⟨⟩ }

/-- Giving up for no stall what a callback was connecting. -/
theorem Leaves.connects {world' world'' : World core} {st st' : State core}
    {reason : Reason core.Table} {outcome : Except Crash (Reply core)}
    (grew : Grew world world') (opts : st'.opts = st.opts)
    (left : Leaves st' reason world' outcome world'') (plain : ¬ reason.IsStall) :
    Connects st world outcome world'' := by
  have answered := left.answered (.refl world') (.refl st') plain
  refine ⟨⟨?_, grew.quiet.trans answered.quiet, ?_⟩, left.matched, ?_⟩
  · rw [left.clock]
    exact grew.clock
  · rw [left.opened, left.clock]
    exact grew.opened
  · rintro st'' rfl
    obtain ⟨opts', socket, transport, _⟩ := left.reply
    exact ⟨opts'.trans opts, Or.inl ⟨socket, transport⟩⟩

/-- `open_socket` connects. -/
theorem openSocket_spec (request : Bytes) (st : State core) :
    (openSocket request st).Ensures respond world (Connects st world) := by
  refine ensures_bind.mpr (ensures_arithmetic.mpr ⟨fun timeout _ => ?_, fun _ => ?_⟩)
  · refine ensures_bind.mpr (ensures_connect.mpr fun clock later => ⟨fun reason => ?_, ?_⟩)
    · exact (reconnect_spec st _).mono fun _ _ left =>
        left.connects (Worked.later later).grew rfl id
    · intro socket fresh
      have grew : Grew world { world with
          clock
          opened := ⟨socket, if st.opts.tls.getD false then .ssl else .genTcp, clock⟩ ::
            world.opened } :=
        ⟨later, .of_eq rfl, Or.inr ⟨_, fresh, later, Int.le_refl _, rfl⟩⟩
      refine ensures_bind.mpr (ensures_sendBytes.mpr fun result clock' later' => ?_)
      have grew' := grew.later later' world.active world.timers
      cases result with
      | error reason =>
        exact (reconnect_spec st _).mono fun _ _ left => left.connects grew' rfl id
      | ok _ =>
        refine ensures_bind.mpr (ensures_setActiveOnce.mpr ⟨fun reason => ?_, ?_⟩)
        · exact (reconnect_spec st _).mono fun _ _ left => left.connects grew' rfl id
        · refine (scheduleStall_spec st.opts).bind ?_ ?_
          · rintro _ between ⟨_, timers, rfl⟩
            refine ensures_pure.mpr { grew.later later' (socket :: world.active) timers with
              matched := by rintro ⟨⟩
              state := ?_ }
            rintro st' ⟨⟩
            exact ⟨rfl, Or.inr ⟨_, fresh, rfl, rfl, rfl⟩⟩
          · rintro fault between ⟨only, timers, rfl⟩
            obtain rfl := only fault rfl
            exact (grew.later later' (socket :: world.active) timers).failed (by rintro ⟨⟩)
  · exact (Worked.refl world).grew.failed (by rintro ⟨⟩)

/-- What is done with the flow of an injected exchange. -/
theorem streamTerminal_spec {world' : World core} {st : State core} (flow : Flow core)
    (worked : Worked world world') (same : SameConnection st flow.state) (plain : flow.NoStall) :
    (streamTerminal .normal flow).Ensures respond world' (Connects st world) := by
  cases flow with
  | ok next =>
    exact (down_spec next .normal).mono fun _ _ left => left.connects worked.grew same.opts id
  | reconnect next reason =>
    exact (reconnect_spec next reason).mono fun _ _ left =>
      left.connects worked.grew same.opts plain
  | stop next reason =>
    exact (down_spec next reason).mono fun _ _ left =>
      left.connects worked.grew same.opts plain

/-- Injected chunks are worked on. -/
theorem injectChunks_spec (chunks : List Bytes) :
    ∀ (st : State core) (world : World core),
      (injectChunks chunks st).Ensures respond world fun outcome world' =>
        Worked world world' ∧ match outcome with
          | .ok flow => SameConnection st flow.state ∧ flow.NoStall
          | .error fault => fault ≠ .functionClause := by
  induction chunks with
  | nil => exact fun st world => ensures_pure.mpr ⟨.refl world, .refl st, trivial⟩
  | cons chunk chunks ih =>
    intro st world
    refine (processBytes_spec chunk st).bind ?_ ?_
    · rintro flow between ⟨worked, same, plain⟩
      cases flow with
      | ok next =>
        refine (ih next between).mono ?_
        rintro outcome world' ⟨more, result⟩
        refine ⟨worked.trans more, ?_⟩
        cases outcome with
        | ok flow => exact ⟨same.trans result.1, result.2⟩
        | error fault => exact result
      | reconnect next reason => exact ensures_pure.mpr ⟨worked, same, plain⟩
      | stop next reason => exact ensures_pure.mpr ⟨worked, same, plain⟩
    · rintro fault between failed
      exact failed

/-- `run_injected` opens no socket. -/
theorem runInjected_spec (request : Bytes) (st : State core) :
    (runInjected request st).Ensures respond world (Connects st world) := by
  refine ensures_bind.mpr (ensures_callTransport.mpr fun result clock later => ?_)
  have passed := Worked.later later
  cases result with
  | chunks chunks =>
    refine (injectChunks_spec chunks st _).bind ?_ ?_
    · rintro flow between ⟨worked, same, plain⟩
      exact streamTerminal_spec flow (passed.trans worked) same plain
    · rintro fault between ⟨worked, matched⟩
      exact (passed.trans worked).grew.failed matched
  | body body =>
    refine (processBytes_spec body st).bind ?_ ?_
    · rintro flow between ⟨worked, same, plain⟩
      exact streamTerminal_spec flow (passed.trans worked) same plain
    · rintro fault between ⟨worked, matched⟩
      exact (passed.trans worked).grew.failed matched
  | failed reason =>
    exact (reconnect_spec st _).mono fun _ _ left => left.connects passed.grew rfl id
  | other => exact ensures_crash.mpr (passed.grew.failed (by rintro ⟨⟩))

/-- A configured stream connects. -/
theorem connectConfigured_spec (st : State core) (config : core.Config) :
    (connectConfigured st config).Ensures respond world (Connects st world) := by
  have machine : ∀ outcome world',
      Connects { st with machine := some (core.machineNew config) } world outcome world' →
        Connects st world outcome world' :=
    fun _ _ connects => ⟨connects.toGrew, connects.matched, connects.state⟩
  unfold connectConfigured
  split
  · exact (down_spec st _).mono fun _ _ left => left.connects (Worked.refl _).grew rfl id
  · dsimp only
    split
    · exact (runInjected_spec _ _).mono machine
    · exact (openSocket_spec _ _).mono machine

/-- Reading the configuration off the options changes nothing. -/
theorem config_spec (host : String) (opts : Options) (version : Version) :
    (config host opts version : Action core _).Ensures respond world fun outcome world' =>
      world' = world ∧ (∀ reason, outcome = .ok (.error reason) → ¬ reason.IsStall) ∧
        outcome ≠ .error .functionClause := by
  refine (ggaIntervalS_spec opts).bind ?_ ?_
  · intro interval between read
    obtain ⟨rfl, _⟩ := read
    split
    · exact ensures_pure.mpr ⟨rfl, by rintro _ ⟨⟩, by rintro ⟨⟩⟩
    · exact ensures_pure.mpr ⟨rfl, by rintro _ ⟨⟩; exact id, by rintro ⟨⟩⟩
  · intro fault between failed
    obtain ⟨rfl, rfl, _⟩ := failed
    exact ⟨rfl, by rintro _ ⟨⟩, by rintro ⟨⟩⟩

/-- `connect_stream` connects. -/
theorem connectStream_spec (st : State core) :
    (connectStream st).Ensures respond world (Connects st world) := by
  refine (config_spec _ _ _).bind ?_ ?_
  · intro result between configured
    obtain ⟨rfl, plain, _⟩ := configured
    cases result with
    | error reason =>
      exact (down_spec st reason).mono fun _ _ left =>
        left.connects (Worked.refl _).grew rfl (plain reason rfl)
    | ok handle => exact connectConfigured_spec st handle
  · intro fault between failed
    obtain ⟨rfl, _, matched⟩ := failed
    exact (Worked.refl _).grew.failed fun same => matched (congrArg Except.error same)

/-- The start of the process connects. -/
theorem start_spec (opts : Options) :
    (start opts : Action core _).Ensures respond world fun outcome world' =>
      ∃ refs st, st.opts = opts ∧ Connects st { world with refs } outcome world' := by
  refine ensures_bind.mpr (ensures_bind.mpr (ensures_makeRef.mpr (ensures_bind.mpr
    (ensures_monotonicTime.mpr (ensures_pure.mpr ?_)))))
  exact (connectStream_spec _).mono fun _ _ connects => ⟨_, _, rfl, connects⟩

end Replies

end Sidereon.Ntrip
