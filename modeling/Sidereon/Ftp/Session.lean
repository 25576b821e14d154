import Sidereon.Foundation.Interleaving
import Sidereon.Ftp.Client

/-!
# The session of the FTP client

The server answers each command by a reply, and a transfer by a second one when the first was
preliminary. Lines that were sent and not read yet, or that the server still owes, wait on the
control connection in order. A session is in step while nothing waits there but the completion of
the transfer in progress, and no data connection is open but that of the state.
-/

namespace Sidereon.Ftp

open Foundation
open Foundation.Uri (ofDigits)

/-- The world of a session: the lines of the replies to the commands sent, as far as they were not
read, the open data connections, and whether a command was sent while lines were unread, so that
the next reply read is not its own. -/
structure World where
  unread : List Binary
  sockets : List Nat
  crossed : Bool
  deriving DecidableEq, Repr

/-- The commands a server reads, one in each line, after the start of one. -/
def commandsFrom (command : Binary) : Binary → List Binary
  | 13 :: 10 :: rest => command.reverse :: commandsFrom [] rest
  | byte :: rest => commandsFrom (byte :: command) rest
  | [] => []

/-- The commands of a text that is sent. -/
def commandsOf (cmd : Binary) : List Binary := commandsFrom [] cmd

/-- A command that uses the data connection. -/
def isTransfer (command : Binary) : Bool :=
  (ascii "LIST ").isPrefixOf command || (ascii "RETR ").isPrefixOf command

/-- The lines that answer a command: a reply, after a preliminary one or not if it is a transfer. -/
inductive Answers (command : Binary) : List Binary → Prop where
  | reply {code : Nat} {lines : List Binary} (final : 200 ≤ code) (replies : Replies code lines) :
      Answers command lines
  | transfer {mark code : Nat} {first lines : List Binary} (uses : isTransfer command = true)
      (preliminary : 100 ≤ mark ∧ mark ≤ 199) (opens : Replies mark first) (final : 200 ≤ code)
      (replies : Replies code lines) : Answers command (first ++ lines)

/-- The lines that answer some commands, one after the other. -/
inductive AnswersAll : List Binary → List Binary → Prop where
  | none : AnswersAll [] []
  | next {command : Binary} {commands lines later : List Binary} (first : Answers command lines)
      (rest : AnswersAll commands later) : AnswersAll (command :: commands) (lines ++ later)

/-- How the server and the network answer the calls of the client. -/
def Respond : (request : Request) → World → Answer request → World → Prop
  | .send cmd, world, .ok _, world' => ∃ lines, AnswersAll (commandsOf cmd) lines ∧
      world' = { world with
        unread := world.unread ++ lines
        crossed := world.crossed || !world.unread.isEmpty }
  | .send _, world, .error _, world' => world' = world
  | .recvLine, world, .ok line, world' => ∃ rest, world.unread = line :: rest ∧
      world' = { world with unread := rest }
  | .recvLine, world, .error _, world' => world' = world
  | .connectData _ _, world, .ok socket, world' => socket ∉ world.sockets ∧
      world' = { world with sockets := socket :: world.sockets }
  | .connectData _ _, world, .error _, world' => world' = world
  | .recv _, world, _, world' => world' = world
  | .close socket, world, _, world' => world' = { world with sockets := world.sockets.erase socket }
  | .connect _, world, _, world' => world' = world
  | .closeControl, world, _, world' => world' = world

/-- The lines of a completed transfer: nothing more, or the completion reply. -/
def Completes (lines : List Binary) : Prop :=
  lines = [] ∨ ∃ code, 200 ≤ code ∧ Replies code lines

/-- A session in step. -/
structure InStep (session : State × World) : Prop where
  replies : session.2.unread = [] ∨ session.1.dataSocket ≠ none ∧ Completes session.2.unread
  sockets : session.2.sockets = session.1.dataSocket.toList
  own : session.2.crossed = false

/-- A call of a session: the call, what it replies, and its calls of the network. -/
structure Called where
  call : Call
  reply : Reply
  trace : List (Taken World (Event Request Answer))

/-- One call that returns. -/
def SessionStep (before : State × World) (called : Called) (after : State × World) : Prop :=
  ∃ fuel, (handleCall fuel called.call before.1).Traced Respond before.2 called.trace
    (.ok (called.reply, after.1)) after.2

/-- The session that `open` starts. -/
def opened (host : Host) : State × World := (⟨none, host⟩, ⟨[], [], false⟩)

/-- The code of the first line that waits. -/
def firstCode (lines : List Binary) : Option Nat :=
  match lines with
  | line :: _ =>
    match parseReplyLine line with
    | .singleLine code _ => some code
    | .multilineStart code _ _ => some code
    | .invalid _ => none
  | [] => none

/-- An answered call of the network that does not throw the session out of step: while a reply is
owed a line is read and a data connection ends only by being closed, and a transfer is sent and
accepted. -/
def Served (taken : Taken World (Event Request Answer)) : Prop :=
  match taken.label with
  | ⟨.recvLine, .error _⟩ => taken.before.unread = []
  | ⟨.recv _, .error .closed⟩ => True
  | ⟨.recv _, .error _⟩ => taken.before.unread = []
  | ⟨.send cmd, answer⟩ => isTransfer cmd = true →
      answer = .ok () ∧ ∃ code, firstCode taken.after.unread = some code ∧ 100 ≤ code ∧ code ≤ 299
  | _ => True

/-- The arguments of a call that become part of a command. -/
def Call.arguments : Call → List Binary
  | .user name pass => [name, pass]
  | .type _ => []
  | .ls path => [path]
  | .recvChunkStart path => [path]
  | .recvChunk => []

/-- When a call leaves a session in step: no other call is made of it while a transfer is owed its
completion, no argument has a line end in it, and its calls of the network are served. -/
structure Meets (taken : Taken (State × World) Called) : Prop where
  quiet : taken.label.call ≠ .recvChunk → taken.before.2.unread = []
  single : ∀ argument ∈ taken.label.call.arguments, ¬[13, 10] <:+: argument
  served : ∀ event ∈ taken.label.trace, Served event

/-- The world that answers so. -/
abbrev Orderly (request : Request) (before : World) (answer : Answer request) (after : World) :
    Prop :=
  Respond request before answer after ∧ Served ⟨before, ⟨request, answer⟩, after⟩

section Commands

variable {verb argument command : Binary}

/-- A line without a line end in it is one command. -/
theorem commandsFrom_single (single : ¬[13, 10] <:+: argument) :
    commandsFrom command (argument ++ [13, 10]) = [command.reverse ++ argument] := by
  induction argument generalizing command with
  | nil => simp [commandsFrom]
  | cons byte rest ih =>
    have later : ¬[13, 10] <:+: rest := by
      intro inside
      exact single (inside.trans (List.suffix_cons byte rest).isInfix)
    rw [List.cons_append, commandsFrom.eq_def]
    split
    · next after same =>
      obtain ⟨rfl, onward⟩ := List.cons.inj same
      exfalso
      cases rest with
      | nil => simp at onward
      | cons next more =>
        rw [List.cons_append] at onward
        obtain ⟨rfl, _⟩ := List.cons.inj onward
        exact single ⟨[], more, rfl⟩
    · next byte' rest' _ same =>
      obtain ⟨rfl, rfl⟩ := List.cons.inj same
      rw [ih later, List.reverse_cons, List.append_assoc]
      rfl
    · next same => cases same

/-- A verb without a carriage return belongs to the command that it starts. -/
theorem commandsFrom_verb {text : Binary} (plain : 13 ∉ verb) :
    commandsFrom command (verb ++ text) = commandsFrom (verb.reverse ++ command) text := by
  induction verb generalizing command with
  | nil => rfl
  | cons byte rest ih =>
    have other : byte ≠ 13 := fun same => plain (same ▸ List.mem_cons_self ..)
    have later : 13 ∉ rest := fun member => plain (List.mem_cons_of_mem _ member)
    rw [List.cons_append, commandsFrom.eq_def]
    split
    · next same => exact absurd (List.cons.inj same).1 other
    · next byte' rest' _ same =>
      obtain ⟨rfl, rfl⟩ := List.cons.inj same
      rw [ih later, List.reverse_cons, List.append_assoc]
      rfl
    · next same => cases same

/-- A command line is one command. -/
theorem commandsOf_commandLine (plain : 13 ∉ verb) (single : ¬[13, 10] <:+: argument) :
    commandsOf (commandLine verb argument) = [verb ++ argument] := by
  rw [commandsOf, commandLine, List.append_assoc, commandsFrom_verb plain,
    commandsFrom_single single, List.reverse_append, List.reverse_reverse, List.reverse_nil,
    List.nil_append]

/-- The verbs that transfer. -/
theorem ascii_verbs : ascii "LIST " = [76, 73, 83, 84, 32] ∧ ascii "RETR " = [82, 69, 84, 82, 32] ∧
    ascii "USER " = [85, 83, 69, 82, 32] ∧ ascii "PASS " = [80, 65, 83, 83, 32] ∧
    ascii "TYPE " = [84, 89, 80, 69, 32] ∧ ascii "PASV" = [80, 65, 83, 86] ∧
    ascii "EPSV" = [69, 80, 83, 86] := by
  decide +kernel

end Commands

section Replies

variable {fuel code : Nat} {digits : Binary} {lines rest : List Binary} {world : World}
  {post : Read → World → Prop}

/-- The first line of a reply shows its code. -/
theorem firstCode_replies (replies : Replies code lines) :
    firstCode (lines ++ rest) = some code := by
  obtain ⟨digits, valid, rfl, reply⟩ := replies
  cases reply with
  | single ends => simp [firstCode, parseReplyLine_ends valid ends]
  | multi within ends => simp [firstCode, parseReplyLine_starts valid]

/-- A lone reply shows its code. -/
theorem firstCode_replies_only (replies : Replies code lines) : firstCode lines = some code := by
  rw [← List.append_nil lines]
  exact firstCode_replies replies

/-- While a line waits, a read takes it. -/
theorem yields_recvLine {line : Binary} {post : Except NetError Binary → World → Prop}
    (waits : world.unread = line :: rest) (taken : post (.ok line) { world with unread := rest }) :
    (call .recvLine).Yields Orderly world post := by
  apply Program.yields_perform.mpr
  rintro answer between ⟨responded, served⟩
  cases answer with
  | ok read =>
    obtain ⟨rest', same, rfl⟩ := responded
    obtain ⟨rfl, rfl⟩ := List.cons.inj (waits.symm.trans same)
    exact taken
  | error reason =>
    have none : world.unread = [] := served
    rw [waits] at none
    cases none

/-- The lines after the first of a long reply are read up to the one that ends it. -/
theorem yields_readMultilineReply {line : Binary} {middle : List Binary} (acc : List Binary)
    (within : ∀ line ∈ middle, ¬EndsReply digits line) (ends : EndsReply digits line)
    (waits : world.unread = middle ++ line :: rest)
    (read : ∀ msg, post (.ok (code, msg)) { world with unread := rest }) :
    (readMultilineReply code digits fuel acc).Yields Orderly world post := by
  induction fuel generalizing middle acc world with
  | zero => trivial
  | succ fuel ih =>
    rw [readMultilineReply, Program.yields_bind]
    cases middle with
    | nil =>
      apply yields_recvLine waits
      simp [checkMultilineEnd_iff.mpr ends, read]
    | cons first middle =>
      apply yields_recvLine waits
      have onward : checkMultilineEnd first digits = false := by
        rw [← Bool.not_eq_true, checkMultilineEnd_iff]
        exact within first (List.mem_cons_self ..)
      simp only [onward, Bool.false_eq_true, if_false]
      exact ih _ (fun line member => within line (List.mem_cons_of_mem _ member)) rfl read

/-- A reply that waits is read, all of it and no more. -/
theorem yields_readReply (replies : Replies code lines) (waits : world.unread = lines ++ rest)
    (read : ∀ msg, post (.ok (code, msg)) { world with unread := rest }) :
    (readReply fuel).Yields Orderly world post := by
  obtain ⟨digits, valid, rfl, reply⟩ := replies
  rw [readReply, Program.yields_bind]
  cases reply with
  | single ends =>
    apply yields_recvLine waits
    simp only [parseReplyLine_ends valid ends]
    exact Program.yields_pure.mpr (read _)
  | multi within ends =>
    apply yields_recvLine waits
    simp only [parseReplyLine_starts valid]
    exact yields_readMultilineReply _ within ends (by simp) read

/-- A reply that is all that waits is read, and nothing is left. -/
theorem yields_readReply_only (replies : Replies code lines) (waits : world.unread = lines)
    (read : ∀ msg, post (.ok (code, msg)) { world with unread := [] }) :
    (readReply fuel).Yields Orderly world post := by
  have remains : world.unread = lines ++ [] := waits.trans (List.append_nil _).symm
  exact yields_readReply replies remains read

/-- When no line waits there is no reply. -/
theorem yields_readReply_none (none : world.unread = [])
    (failed : ∀ reason, post (.error reason) world) :
    (readReply fuel).Yields Orderly world post := by
  rw [readReply, Program.yields_bind]
  apply Program.yields_perform.mpr
  rintro answer between ⟨responded, _⟩
  cases answer with
  | ok line =>
    obtain ⟨rest, impossible, _⟩ := responded
    rw [none] at impossible
    cases impossible
  | error reason =>
    rw [show between = world from responded]
    exact Program.yields_pure.mpr (failed _)

/-- The completion of a transfer is read, if there is one. -/
theorem yields_readReply_completes (completes : Completes world.unread)
    (read : ∀ result, post result { world with unread := [] }) :
    (readReply fuel).Yields Orderly world post := by
  rcases completes with none | ⟨code, _, replies⟩
  · apply yields_readReply_none none
    intro reason
    have same : { world with unread := [] } = world := by rw [← none]
    exact same ▸ read (.error reason)
  · exact yields_readReply_only replies rfl fun msg => read _

/-- A command that uses no data connection is answered, and nothing is left of the reply. -/
theorem yields_sendAndRead {cmd command : Binary} (quiet : world.unread = [])
    (own : world.crossed = false) (single : commandsOf cmd = [command])
    (plain : isTransfer command = false) (read : ∀ result, post result world) :
    (sendAndRead fuel cmd).Yields Orderly world post := by
  have settled : { world with unread := [], crossed := world.crossed || !world.unread.isEmpty } =
      world := by
    obtain ⟨unread, sockets, crossed⟩ := world
    dsimp only at quiet own ⊢
    rw [quiet, own]
    rfl
  rw [sendAndRead, Program.yields_bind]
  apply Program.yields_perform.mpr
  rintro answer between ⟨responded, _⟩
  cases answer with
  | error reason =>
    rw [show between = world from responded]
    exact Program.yields_pure.mpr (read _)
  | ok sent =>
    obtain ⟨lines, answers, rfl⟩ := responded
    rw [single] at answers
    cases answers with
    | next first nothing =>
      cases nothing
      cases first with
      | transfer uses => simp [plain] at uses
      | reply final replies =>
        apply yields_readReply_only replies
        · simp [quiet]
        · intro msg
          dsimp only
          rw [settled]
          exact read _

/-- A transfer is accepted, and its completion is left at most. -/
theorem yields_sendTransfer {cmd command : Binary} (quiet : world.unread = [])
    (own : world.crossed = false) (single : commandsOf cmd = [command])
    (uses : isTransfer cmd = true)
    (accepted : ∀ code msg rest, 100 ≤ code → code ≤ 299 → Completes rest →
      post (.ok (code, msg)) { world with unread := rest }) :
    (sendAndRead fuel cmd).Yields Orderly world post := by
  rw [sendAndRead, Program.yields_bind]
  apply Program.yields_perform.mpr
  rintro answer between ⟨responded, served⟩
  obtain ⟨rfl, code, shown, low, high⟩ := served uses
  obtain ⟨lines, answers, rfl⟩ := responded
  rw [single] at answers
  cases answers with
  | next first nothing =>
    cases nothing
    simp only [quiet, List.nil_append, List.append_nil] at shown
    cases first with
    | reply final replies =>
      rw [firstCode_replies_only replies, Option.some.injEq] at shown
      subst shown
      apply yields_readReply_only replies
      · simp [quiet]
      · intro msg
        simpa [quiet, own] using accepted _ msg [] low high (.inl rfl)
    | transfer _ preliminary opens final replies =>
      rw [firstCode_replies opens, Option.some.injEq] at shown
      subst shown
      apply yields_readReply opens
      · simp [quiet]
        rfl
      · intro msg
        simpa [quiet, own] using accepted _ msg _ low high (.inr ⟨_, final, replies⟩)

end Replies

section Calls

variable {fuel : Nat} {state : State} {world : World} {path : Binary}

/-- A session between transfers, or in one whose completion was read already. -/
structure Idle (state : State) (world : World) : Prop where
  quiet : world.unread = []
  sockets : world.sockets = state.dataSocket.toList
  own : world.crossed = false

/-- An idle session is in step. -/
theorem Idle.inStep (idle : Idle state world) : InStep (state, world) :=
  ⟨.inl idle.quiet, idle.sockets, idle.own⟩

/-- The commands before a transfer leave an idle session as it was. -/
theorem yields_enterPassiveMode {post : Except FtpError (Host × Int) → World → Prop}
    (quiet : world.unread = []) (own : world.crossed = false) (any : ∀ result, post result world) :
    (enterPassiveMode fuel state).Yields Orderly world post := by
  have none : ¬[13, 10] <:+: ([] : Binary) := by decide
  obtain ⟨list, retr, user, pass, type, pasv, epsv⟩ := ascii_verbs
  rw [enterPassiveMode, Program.yields_bind]
  apply yields_sendAndRead quiet own
  · rw [pasv]
    exact commandsOf_commandLine (by decide) none
  · simp [isTransfer, list, retr, List.isPrefixOf]
  intro read
  split
  · exact Program.yields_orCrash fun value _ => any value
  · exact any _
  · change Program.Yields _ (sendAndRead fuel (commandLine (ascii "EPSV") []) >>= _) _ _
    rw [Program.yields_bind]
    apply yields_sendAndRead quiet own
    · rw [epsv]
      exact commandsOf_commandLine (by decide) none
    · simp [isTransfer, list, retr, List.isPrefixOf]
    intro read
    split
    · exact any _
    · exact any _
    · exact any _
    · exact any _

/-- A transfer opens a data connection and is accepted, or leaves an idle session as it was. -/
theorem yields_startTransfer {verb : Binary} {post : Except FtpError Nat → World → Prop}
    (quiet : world.unread = []) (own : world.crossed = false)
    (verbs : verb = ascii "LIST " ∨ verb = ascii "RETR ") (single : ¬[13, 10] <:+: path)
    (failed : ∀ reason, post (.error reason) world)
    (accepted : ∀ socket rest, Completes rest →
      post (.ok socket) { world with unread := rest, sockets := socket :: world.sockets }) :
    (startTransfer fuel verb path state).Yields Orderly world post := by
  obtain ⟨list, retr, _⟩ := ascii_verbs
  rw [startTransfer, Program.yields_bind]
  apply yields_enterPassiveMode quiet own
  intro passive
  cases passive with
  | error reason => exact failed _
  | ok address =>
    obtain ⟨dataHost, dataPort⟩ := address
    change Program.Yields _ (call (.connectData dataHost dataPort) >>= _) _ _
    rw [Program.yields_bind]
    apply Program.yields_perform.mpr
    rintro answer between ⟨responded, _⟩
    cases answer with
    | error reason =>
      rw [show between = world from responded]
      exact failed _
    | ok socket =>
      obtain ⟨_, rfl⟩ := responded
      have plain : 13 ∉ verb := by
        rcases verbs with rfl | rfl
        · rw [list]
          decide
        · rw [retr]
          decide
      have uses : isTransfer (commandLine verb path) = true := by
        rcases verbs with rfl | rfl
        · simp [isTransfer, list, retr, commandLine, List.isPrefixOf]
        · simp [isTransfer, list, retr, commandLine, List.isPrefixOf]
      change Program.Yields _ (sendAndRead fuel (commandLine verb path) >>= _) _ _
      rw [Program.yields_bind]
      have quiet' : ({ world with sockets := socket :: world.sockets } : World).unread = [] := quiet
      apply yields_sendTransfer quiet' own (commandsOf_commandLine plain single) uses
      intro code msg rest low high completes
      simp only [low, high, and_self, if_true]
      exact accepted socket rest completes

/-- A data connection is read to its end, and breaks off only when no completion is owed. -/
theorem yields_recvAllAcc {socket : Nat} {acc : List Binary}
    {post : Except FtpError Binary → World → Prop} (ended : ∀ data, post (.ok data) world)
    (broken : ∀ reason, world.unread = [] → post (.error reason) world) :
    (recvAllAcc socket fuel acc).Yields Orderly world post := by
  induction fuel generalizing acc with
  | zero => trivial
  | succ fuel ih =>
    rw [recvAllAcc, Program.yields_bind]
    apply Program.yields_perform.mpr
    rintro answer between ⟨rfl, served⟩
    cases answer with
    | ok data => exact ih
    | error reason =>
      cases reason with
      | closed => exact ended _
      | timeout => exact broken _ served
      | other reason => exact broken _ served

/-- A listing leaves an idle session as it was. -/
theorem yields_handleLs (idle : Idle state world) (single : ¬[13, 10] <:+: path) :
    (handleLs fuel path state).Yields Orderly world fun replied world' =>
      InStep (replied.2, world') := by
  rw [handleLs, Program.yields_bind]
  apply yields_startTransfer idle.quiet idle.own (.inl rfl) single
  case failed => exact fun reason => idle.inStep
  intro socket rest completes
  have closed : ∀ rest, (World.mk rest ((socket :: world.sockets).erase socket) world.crossed) =
      ⟨rest, world.sockets, world.crossed⟩ := by
    intro rest
    rw [List.erase_cons_head]
  change Program.Yields _ (recvAllClosing fuel socket >>= _) _ _
  rw [Program.yields_bind, recvAllClosing, Program.yields_bind]
  apply yields_recvAllAcc
  case broken =>
    rintro reason none
    rw [Program.yields_bind]
    apply Program.yields_perform.mpr
    rintro answer between ⟨rfl, _⟩
    exact ⟨.inl none, (congrArg World.sockets (closed rest)).trans idle.sockets, idle.own⟩
  intro listing
  rw [Program.yields_bind]
  apply Program.yields_perform.mpr
  rintro answer between ⟨rfl, _⟩
  change Program.Yields _ (readReply fuel >>= _) _ _
  rw [Program.yields_bind]
  apply yields_readReply_completes completes
  intro read
  exact ⟨.inl rfl, (congrArg World.sockets (closed [])).trans idle.sockets, idle.own⟩

/-- The start of a transfer leaves the session with the new data connection only. -/
theorem yields_handleRecvChunkStart (idle : Idle state world) (single : ¬[13, 10] <:+: path) :
    (handleRecvChunkStart fuel path state).Yields Orderly world fun replied world' =>
      InStep (replied.2, world') := by
  have closes : (closeDataSocket state).Yields Orderly world fun closed between =>
      closed.dataSocket = none ∧ Idle closed between := by
    obtain ⟨dataSocket, host⟩ := state
    cases dataSocket with
    | none => exact ⟨rfl, idle⟩
    | some socket =>
      rw [closeDataSocket, Program.yields_bind]
      apply Program.yields_perform.mpr
      rintro answer between ⟨rfl, _⟩
      have sockets := idle.sockets
      exact ⟨rfl, idle.quiet, by simp [sockets], idle.own⟩
  rw [handleRecvChunkStart, Program.yields_bind]
  apply Program.Yields.mono closes
  intro closed between settled
  obtain ⟨gone, idle⟩ := settled
  have sockets : between.sockets = [] := by
    rw [idle.sockets, gone]
    rfl
  rw [Program.yields_bind]
  apply yields_startTransfer idle.quiet idle.own (.inr rfl) single
  case failed => exact fun reason => idle.inStep
  intro socket rest completes
  constructor
  · exact .inr ⟨by simp, completes⟩
  · simp [sockets]
  · exact idle.own

/-- A chunk leaves the transfer in progress, and its end leaves the session idle. -/
theorem yields_handleRecvChunk (inStep : InStep (state, world)) :
    (handleRecvChunk fuel state).Yields Orderly world fun replied world' =>
      InStep (replied.2, world') := by
  obtain ⟨dataSocket, host⟩ := state
  cases dataSocket with
  | none => exact inStep
  | some socket =>
    have completes : Completes world.unread := by
      rcases inStep.replies with none | ⟨_, completes⟩
      · exact .inl none
      · exact completes
    have sockets : world.sockets = [socket] := inStep.sockets
    have closed : ∀ world' : World, world'.unread = [] → world'.sockets = world.sockets.erase socket →
        world'.crossed = world.crossed → InStep (⟨none, host⟩, world') := by
      intro world' quiet left own
      constructor
      · exact .inl quiet
      · rw [left, sockets]
        simp
      · exact own.trans inStep.own
    have breaks : ∀ reason : NetError, world.unread = [] →
        (do
          call (.close socket)
          pure (.error (.net reason), ⟨none, host⟩) : Action (Reply × State)).Yields Orderly world
          fun replied world' => InStep (replied.2, world') := by
      intro reason quiet
      rw [Program.yields_bind]
      apply Program.yields_perform.mpr
      rintro answer between ⟨rfl, _⟩
      exact closed _ quiet rfl rfl
    change Program.Yields _ (call (.recv socket) >>= _) _ _
    rw [Program.yields_bind]
    apply Program.yields_perform.mpr
    rintro answer between ⟨rfl, served⟩
    cases answer with
    | ok chunk => exact inStep
    | error reason =>
      cases reason with
      | closed =>
        change Program.Yields _ (call (.close socket) >>= _) _ _
        rw [Program.yields_bind]
        apply Program.yields_perform.mpr
        rintro answer after ⟨closing, _⟩
        have owed : Completes after.unread := by
          rw [closing]
          exact completes
        change Program.Yields _ (readReply fuel >>= _) _ _
        rw [Program.yields_bind]
        apply yields_readReply_completes owed
        intro read
        apply closed
        · rfl
        · rw [closing]
        · rw [closing]
      | timeout => exact breaks _ served
      | other reason => exact breaks _ served

/-- A login leaves an idle session as it was. -/
theorem yields_handleUser {user pass : Binary} (idle : Idle state world)
    (singleUser : ¬[13, 10] <:+: user) (singlePass : ¬[13, 10] <:+: pass) :
    (handleUser fuel user pass state).Yields Orderly world fun replied world' =>
      InStep (replied.2, world') := by
  obtain ⟨list, retr, userVerb, passVerb, _⟩ := ascii_verbs
  rw [handleUser, Program.yields_bind]
  apply yields_sendAndRead idle.quiet idle.own
  · rw [userVerb]
    exact commandsOf_commandLine (by decide) singleUser
  · simp [isTransfer, list, retr, List.isPrefixOf]
  intro read
  split
  · rw [Program.yields_bind]
    apply yields_sendAndRead idle.quiet idle.own
    · rw [passVerb]
      exact commandsOf_commandLine (by decide) singlePass
    · simp [isTransfer, list, retr, List.isPrefixOf]
    exact fun read => idle.inStep
  · exact idle.inStep

/-- A change of the transfer mode leaves an idle session as it was. -/
theorem yields_handleType {mode : Mode} (idle : Idle state world) :
    (handleType fuel mode state).Yields Orderly world fun replied world' =>
      InStep (replied.2, world') := by
  obtain ⟨list, retr, _, _, type, _⟩ := ascii_verbs
  have single : ¬[13, 10] <:+: (if mode = .binary then ascii "I" else ascii "A") := by
    cases mode with
    | binary => decide +kernel
    | ascii => decide +kernel
  rw [handleType, Program.yields_bind]
  apply yields_sendAndRead idle.quiet idle.own
  · rw [type]
    exact commandsOf_commandLine (by decide) single
  · simp [isTransfer, list, retr, List.isPrefixOf]
  exact fun read => idle.inStep

end Calls

section Runs

variable {start last : State × World} {steps : List (Taken (State × World) Called)}

/-- A call that meets the condition leaves a session in step. -/
theorem InStep.step {before after : State × World} {called : Called} (inStep : InStep before)
    (step : SessionStep before called after) (meets : Meets ⟨before, called, after⟩) :
    InStep after := by
  obtain ⟨fuel, traced⟩ := step
  have executed := traced.exec meets.served
  have idle : called.call ≠ .recvChunk → Idle before.1 before.2 := fun other =>
    ⟨meets.quiet other, inStep.sockets, inStep.own⟩
  have yields : (handleCall fuel called.call before.1).Yields Orderly before.2
      fun replied world' => InStep (replied.2, world') := by
    have single := meets.single
    dsimp only at single
    cases kind : called.call with
    | user user pass =>
      rw [kind] at single
      exact yields_handleUser (idle (by simp [kind])) (single user (by simp [Call.arguments]))
        (single pass (by simp [Call.arguments]))
    | type mode => exact yields_handleType (idle (by simp [kind]))
    | ls path =>
      rw [kind] at single
      exact yields_handleLs (idle (by simp [kind])) (single path (by simp [Call.arguments]))
    | recvChunkStart path =>
      rw [kind] at single
      exact yields_handleRecvChunkStart (idle (by simp [kind]))
        (single path (by simp [Call.arguments]))
    | recvChunk => exact yields_handleRecvChunk inStep
  exact yields.exec executed

end Runs

section Sample

/-- A line under a code is a reply. -/
theorem replies_line (digits text : Binary) {line : Binary} (valid : IsCode digits)
    (same : line = digits ++ 32 :: text) : Replies (ofDigits digits) [line] :=
  ⟨digits, valid, rfl, .single (.inl ⟨text, same⟩)⟩

/-- A command may be answered by one line. -/
theorem respond_send (command : Binary) {cmd line : Binary} {code : Nat} {world : World}
    (single : commandsOf cmd = [command]) (final : 200 ≤ code) (replies : Replies code [line]) :
    Respond (.send cmd) world (.ok ()) { world with
      unread := world.unread ++ [line]
      crossed := world.crossed || !world.unread.isEmpty } :=
  ⟨[line], single ▸ .next (.reply final replies) .none, rfl⟩

/-- A line that waits is read. -/
theorem respond_recvLine {line : Binary} {rest : List Binary} {world : World}
    (waits : world.unread = line :: rest) :
    Respond .recvLine world (.ok line) { world with unread := rest } :=
  ⟨rest, waits, rfl⟩

/-- A data connection is opened. -/
theorem respond_connectData (socket : Nat) {host : Host} {port : Int} {world : World}
    (fresh : socket ∉ world.sockets) :
    Respond (.connectData host port) world (.ok socket)
      { world with sockets := socket :: world.sockets } :=
  ⟨fresh, rfl⟩

/-- The session of a host called `h`. -/
def sampleSession : State × World := opened (.name (ascii "h"))

/-- A reply to the passive mode. -/
def passiveReply : Binary := ascii "227 (127,0,0,1,4,1)\r\n"

/-- The replies to a transfer. -/
def refusal : Binary := ascii "550 no\r\n"

/-- The reply to a change of the mode. -/
def acceptance : Binary := ascii "200 ok\r\n"

/-- The sample replies are well-formed. -/
theorem sample_replies :
    Replies 227 [passiveReply] ∧ Replies 550 [refusal] ∧ Replies 200 [acceptance] := by
  refine ⟨?_, ?_, ?_⟩
  · exact replies_line [50, 50, 55] (passiveReply.drop 4) ⟨rfl, by decide +kernel⟩
      (by decide +kernel)
  · exact replies_line [53, 53, 48] (refusal.drop 4) ⟨rfl, by decide +kernel⟩
      (by decide +kernel)
  · exact replies_line [50, 48, 48] (acceptance.drop 4) ⟨rfl, by decide +kernel⟩
      (by decide +kernel)

/-- The start of a transfer that the server refuses leaves the data connection open. -/
theorem refused_step : ∃ trace, SessionStep sampleSession
    ⟨.recvChunkStart (ascii "/a"), .error .epath, trace⟩ (sampleSession.1, ⟨[], [1], false⟩) := by
  obtain ⟨passive, refuses, _⟩ := sample_replies
  apply Exists.intro
  apply Exists.intro 5
  apply Program.Traced.answer
    (respond_send (ascii "PASV") (by decide +kernel) (by decide) passive)
  apply Program.Traced.answer (respond_recvLine rfl)
  apply Program.Traced.answer (respond_connectData 1 (by decide))
  apply Program.Traced.answer
    (respond_send (ascii "RETR /a") (by decide +kernel) (by decide) refuses)
  apply Program.Traced.answer (respond_recvLine rfl)
  exact ⟨rfl, rfl, rfl⟩

/-- A change of the mode whose reply comes too late leaves the reply unread. -/
theorem late_step (sockets : List Nat) : ∃ trace,
    SessionStep (sampleSession.1, ⟨[], sockets, false⟩)
      ⟨.type .binary, .error (.net .timeout), trace⟩
      (sampleSession.1, ⟨[acceptance], sockets, false⟩) := by
  obtain ⟨_, _, accepts⟩ := sample_replies
  apply Exists.intro
  apply Exists.intro 5
  apply Program.Traced.answer
    (respond_send (ascii "TYPE I") (by decide +kernel) (by decide) accepts)
  have late : Respond .recvLine ⟨[acceptance], sockets, false⟩ (.error .timeout)
      ⟨[acceptance], sockets, false⟩ := rfl
  apply Program.Traced.answer late
  exact ⟨rfl, rfl, rfl⟩

/-- The change of the mode whose reply is read in time. -/
theorem timely_step : ∃ trace, SessionStep sampleSession ⟨.type .binary, .ok, trace⟩ sampleSession ∧
    ∀ event ∈ trace, Served event := by
  obtain ⟨_, _, accepts⟩ := sample_replies
  apply Exists.intro
  constructor
  · apply Exists.intro 5
    apply Program.Traced.answer
      (respond_send (ascii "TYPE I") (by decide +kernel) (by decide) accepts)
    apply Program.Traced.answer (respond_recvLine rfl)
    exact ⟨rfl, rfl, rfl⟩
  · have plain : isTransfer (commandLine (ascii "TYPE ") (ascii "I")) = false := by decide +kernel
    intro event member
    rcases List.mem_pair.mp member with rfl | rfl
    · intro uses
      exact absurd (plain.symm.trans uses) (by decide)
    · trivial

end Sample

end Sidereon.Ftp
