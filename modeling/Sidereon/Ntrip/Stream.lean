import Sidereon.Foundation.BeamNumber
import Sidereon.Foundation.Program

/-!
# The NTRIP stream process

The callbacks of `Ntrip.Stream`, as programs over what the process asks of its surroundings: the
clock, sockets, timers, references, the sink, and the functions the caller passes in. The protocol
machine and the message assembler belong to the native core. The process owns them, so its state
carries their present contents. The functions a caller passes in are taken to return.
-/

namespace Sidereon.Ntrip

open Foundation
open Foundation.Beam (Number double)

/-- Bytes on a socket or in a payload. -/
abbrev Bytes := List UInt8

/-- `:tcp` and `:ssl` sockets come from one of two transports. -/
inductive Transport where
  | genTcp
  | ssl
  deriving DecidableEq, Repr

/-- A socket the process opened. -/
structure Socket where
  id : Nat
  deriving DecidableEq, Repr

/-- A reference made by `make_ref`. -/
structure Ref where
  id : Nat
  deriving DecidableEq, Repr

/-- The `:version` option. -/
inductive Version where
  | auto
  | rev1
  | rev2
  deriving DecidableEq, Repr

/-- `raw_version`. -/
def rawVersion : Version → Version
  | .auto => .rev2
  | version => version

/-- `GgaPosition`. -/
structure GgaPosition where
  latDeg : Number
  lonDeg : Number
  heightM : Number
  fixQuality : Int
  numSatellites : Int
  hdop : Number

/-- The `:position` of the `:gga` option. -/
inductive PositionSource where
  | callback
  | fixed (position : GgaPosition)

/-- The `:gga` option. -/
structure Gga where
  intervalS : Option Number
  position : Option PositionSource

/-- The `:reconnect` option; `none` and `:infinity` are both no bound. -/
structure Policy where
  initialS : Option Number
  factor : Option Number
  capS : Option Number
  maxReconnects : Option Int

/-- A store epoch: a function to call, a pair of week and time of week, or some other term. -/
inductive EpochSource where
  | callback
  | pair (week : Int) (towS : Number)
  | other

/-- The `:sink` option: a process, or an SSR store with its epoch. -/
inductive Sink where
  | process (pid : Nat)
  | store (store : Nat) (weekFun : EpochSource)

/-- The `:sink_mode` option; every mode other than the named ones acts as `payload`. -/
inductive SinkMode where
  | payload
  | rtcm
  | store
  deriving DecidableEq, Repr

/-- The options of a stream. -/
structure Options where
  host : String
  port : Option Int
  version : Option Version
  tls : Option Bool
  mountpoint : Option String
  credentials : Option (String × String)
  userAgentProduct : Option String
  gga : Option Gga
  connectTimeoutS : Option Number
  stallTimeoutS : Option Number
  reconnect : Option Policy
  sink : Option Sink
  sinkMode : Option SinkMode
  /-- Whether a `:transport_fun` of two arguments is given. -/
  transportFun : Bool
  store : Option Nat
  weekFun : Option EpochSource

/-- The map `config` hands to the core. -/
structure ConfigTerm where
  host : String
  port : Int
  mountpoint : String
  version : Version
  username : Option String
  password : Option String
  userAgentProduct : Option String
  ggaIntervalS : Option Number

/-- A rejection the protocol machine reports. -/
inductive Rejection where
  | unauthorized
  | digestNotSupported
  | mountpointNotFound
  | casterError (reason : String)
  | unexpectedContentType (contentType : String)
  | httpStatus (status : Nat) (reason : String)
  | malformedHandshake (start : String)
  | other (detail : String)
  deriving DecidableEq, Repr

/-- What a `{:protocol, _}` reason carries. -/
inductive Detail where
  | core (detail : String)
  | malformedHandshake (start : String)
  | missingGgaPosition
  | badGgaPosition
  deriving DecidableEq, Repr

/-- `error_reason`, with the reasons of a reconnect and of the store sink. A stall carries its
elapsed milliseconds, which the source divides by 1000.0. -/
inductive Reason (Table : Type) where
  | normal
  | streamEnded
  | streamStalled (elapsed : Int)
  | network (detail : String)
  | protocol (detail : Detail)
  | request (detail : String)
  | unauthorized
  | digestNotSupported
  | mountpointNotFound (table : Option Table)
  | casterError (reason : String)
  | unexpectedContentType (contentType : String)
  | httpStatus (status : Nat) (reason : String)
  | missingStoreSink
  | badStoreEpoch
  | ingest (detail : String)

/-- An event of the protocol machine. -/
inductive Event (Table : Type) where
  | connected
  | payload (bytes : Bytes)
  | sourcetable (table : Table)
  | rejected (rejection : Rejection)
  | streamCorrupted (detail : String)
  | streamEnded

/-- The native core and the C library, as far as the process calls them. -/
structure Core where
  Config : Type
  Machine : Type
  Assembler : Type
  Rtcm : Type
  Table : Type
  /-- `ntrip_config_new`. -/
  configNew : ConfigTerm → Except String Config
  /-- `ntrip_request_bytes`. -/
  requestBytes : Config → Except String Bytes
  /-- `ntrip_machine_new`. -/
  machineNew : Config → Machine
  /-- `ntrip_machine_push`: the machine afterwards and its events. -/
  machinePush : Machine → Bytes → Machine × List (Event Table)
  /-- `ntrip_machine_finish`. -/
  machineFinish : Machine → Machine × List (Event Table)
  /-- `ntrip_machine_reset`. -/
  machineReset : Machine → Machine
  /-- `ntrip_machine_gga`: the sentence that is due at a time of the process and of the day. -/
  machineGga : Machine → Float → GgaPosition → Float → Machine × Except String (Option Bytes)
  /-- `rtcm_assembler_new`. -/
  assemblerNew : Assembler
  /-- `rtcm_assembler_push`. -/
  assemblerPush : Assembler → Bytes → Assembler × List (Except String Rtcm)
  /-- `:math.pow` before its check for a finite result. -/
  pow : Float → Float → Float

variable (core : Core)

/-- What the process sends to its sink. -/
inductive SinkMessage where
  | payload (bytes : Bytes)
  | rtcm (message : core.Rtcm)
  | sourcetable (table : core.Table)
  | reconnecting (reason : Reason core.Table) (attempt : Nat)
  | down (reason : Reason core.Table)

/-- The messages the process sends itself. -/
inductive TimerMessage where
  | stallCheck
  | connectAfterBackoff
  | ggaTick (ref : Ref)
  deriving DecidableEq, Repr

/-- What a `:transport_fun` returns. -/
inductive Injected where
  | chunks (chunks : List Bytes)
  | body (body : Bytes)
  | failed (reason : String)
  | other

/-- What the process asks of its surroundings. -/
inductive Request where
  /-- `System.monotonic_time(:millisecond)`. -/
  | monotonicTime
  | monotonicSeconds
  | utcSecondsOfDay
  | makeRef
  | connect (transport : Transport) (host : String) (port : Int) (timeout : Int)
  | sendBytes (transport : Transport) (socket : Socket) (bytes : Bytes)
  | setActiveOnce (transport : Transport) (socket : Socket)
  | close (transport : Transport) (socket : Socket)
  | sendAfter (message : TimerMessage) (delay : Int)
  /-- A message for a sink; it reaches a process and nothing else. -/
  | deliver (sink : Option Sink) (ref : Ref) (message : SinkMessage core)
  | transportFun (request : Bytes)
  /-- The `:position` function; no answer stands for a result that is not a position. -/
  | ggaPosition
  /-- The epoch function and those it returns, down to a value that is not a function. -/
  | storeEpoch
  /-- `SSR.ingest`. -/
  | ingest (store : Nat) (message : core.Rtcm) (week : Int) (towS : Number)

/-- The answers to a request. -/
def Answer : Request core → Type
  | .monotonicTime => Int
  | .monotonicSeconds => Float
  | .utcSecondsOfDay => Float
  | .makeRef => Ref
  | .connect .. => Except String Socket
  | .sendBytes .. => Except String Unit
  | .setActiveOnce .. => Except String Unit
  | .close .. => Unit
  | .sendAfter .. => Unit
  | .deliver .. => Unit
  | .transportFun _ => Injected
  | .ggaPosition => Option GgaPosition
  | .storeEpoch => Option (Int × Number)
  | .ingest .. => Except String Unit

/-- The exceptions that end the process. -/
inductive Crash where
  | functionClause
  | caseClause
  | argument
  | arithmetic
  deriving DecidableEq, Repr

/-- What a callback of the process does. -/
abbrev Action := Program (Request core) (Answer core) Crash

/-- A message in the mailbox of the process: `{:tcp, ..}`, `{:tcp_closed, ..}` and
`{:tcp_error, ..}` or their `:ssl` forms, and timer messages. -/
inductive Message where
  | data (transport : Transport) (socket : Socket) (bytes : Bytes)
  | closed (transport : Transport) (socket : Socket)
  | error (transport : Transport) (socket : Socket) (reason : String)
  | timer (message : TimerMessage)
  deriving DecidableEq, Repr

/-- The state of the process. -/
structure State where
  opts : Options
  sink : Option Sink
  ref : Ref
  machine : Option core.Machine
  assembler : core.Assembler
  socket : Option Socket
  transport : Option Transport
  attempt : Nat
  lastRx : Int
  ggaTimerRef : Option Ref

/-- The tuples the inner functions return: go on, reconnect, or stop. -/
inductive Flow where
  | ok (state : State core)
  | reconnect (state : State core) (reason : Reason core.Table)
  | stop (state : State core) (reason : Reason core.Table)

/-- The reply of a callback. -/
inductive Reply where
  | noreply (state : State core)
  | stop (state : State core)

variable {core}

section Requests

/-- `System.monotonic_time(:millisecond)`. -/
def monotonicTime : Action core Int := Program.perform Request.monotonicTime

/-- `monotonic_seconds`. -/
def monotonicSeconds : Action core Float := Program.perform Request.monotonicSeconds

/-- `utc_seconds_of_day`. -/
def utcSecondsOfDay : Action core Float := Program.perform Request.utcSecondsOfDay

/-- `make_ref`. -/
def makeRef : Action core Ref := Program.perform Request.makeRef

/-- `connect`. -/
def connect (transport : Transport) (host : String) (port timeout : Int) :
    Action core (Except String Socket) :=
  Program.perform (Request.connect transport host port timeout)

/-- `send_bytes`. -/
def sendBytes (transport : Transport) (socket : Socket) (bytes : Bytes) :
    Action core (Except String Unit) :=
  Program.perform (Request.sendBytes transport socket bytes)

/-- `set_active_once`. -/
def setActiveOnce (transport : Transport) (socket : Socket) : Action core (Except String Unit) :=
  Program.perform (Request.setActiveOnce transport socket)

/-- `close_socket`. -/
def closeSocket (transport : Transport) (socket : Socket) : Action core Unit :=
  Program.perform (Request.close transport socket)

/-- `Process.send_after`. -/
def sendAfter (message : TimerMessage) (delay : Int) : Action core Unit :=
  Program.perform (Request.sendAfter message delay)

/-- A call of the `:transport_fun`. -/
def callTransport (request : Bytes) : Action core Injected :=
  Program.perform (Request.transportFun request)

/-- A call of the `:position` function. -/
def callPosition : Action core (Option GgaPosition) := Program.perform Request.ggaPosition

/-- Calls of the epoch function. -/
def callEpoch : Action core (Option (Int × Number)) := Program.perform Request.storeEpoch

/-- `SSR.ingest`. -/
def ingest (store : Nat) (message : core.Rtcm) (week : Int) (towS : Number) :
    Action core (Except String Unit) :=
  Program.perform (Request.ingest store message week towS)

/-- The value of a computation that may raise `ArithmeticError`. -/
def arithmetic {α : Type} (result : Option α) : Action core α :=
  Program.orCrash Crash.arithmetic result

end Requests

/-- `seconds_to_ms`: an integer above 1000 is already in milliseconds. -/
def secondsToMs : Number → Option Int
  | .int n => some (if n > 1000 then n else max 1 (n * 1000))
  | .float x finite =>
    (Number.mul? (.float x finite) (.int 1000)).map fun ms => max 1 ms.round

/-- `map_rejection`, which the process calls without a table. -/
def mapRejection {Table : Type} : Rejection → Reason Table
  | .unauthorized => .unauthorized
  | .digestNotSupported => .digestNotSupported
  | .mountpointNotFound => .mountpointNotFound none
  | .casterError reason => .casterError reason
  | .unexpectedContentType contentType => .unexpectedContentType contentType
  | .httpStatus status reason => .httpStatus status reason
  | .malformedHandshake start => .protocol (.malformedHandshake start)
  | .other detail => .protocol (.core detail)

/-- `gga_interval_s`. -/
def ggaIntervalS (opts : Options) : Action core (Option Number) :=
  match opts.gga with
  | some ⟨some interval, _⟩ => do
    let seconds ← arithmetic
      (interval.toFloat?.bind fun x => Number.ofFloat? (x / 1.0))
    return some seconds
  | some ⟨none, _⟩ => return some (double 10.0)
  | none => return none

/-- `config`. -/
def config (host : String) (opts : Options) (version : Version) :
    Action core (Except (Reason core.Table) core.Config) := do
  let ggaIntervalS ← ggaIntervalS opts
  match core.configNew {
      host
      port := opts.port.getD 2101
      mountpoint := opts.mountpoint.getD ""
      version
      username := opts.credentials.map Prod.fst
      password := opts.credentials.map Prod.snd
      userAgentProduct := opts.userAgentProduct
      ggaIntervalS } with
  | .ok handle => return .ok handle
  | .error reason => return .error (.protocol (.core reason))

/-- `deliver`. -/
def deliver (st : State core) (message : SinkMessage core) : Action core Unit :=
  Program.perform (Request.deliver st.sink st.ref message)

/-- `close_state_socket`. -/
def closeStateSocket (st : State core) : Action core Unit :=
  match st.socket, st.transport with
  | some socket, some transport => closeSocket transport socket
  | _, _ => return ()

/-- `down`. -/
def down (st : State core) (reason : Reason core.Table) : Action core (Reply core) := do
  deliver st (.down reason)
  closeStateSocket st
  return .stop { st with socket := none, transport := none, ggaTimerRef := none }

theorem finite_initial : (1.0 : Float).isFinite = true := by decide +kernel

theorem finite_factor : (2.0 : Float).isFinite = true := by decide +kernel

theorem finite_cap : (60.0 : Float).isFinite = true := by decide +kernel

/-- `backoff_ms`. -/
def backoffMs (pow : Float → Float → Float) (opts : Options) (attempt : Nat) : Option Int := do
  let initial := (opts.reconnect.bind Policy.initialS).getD (double 1.0 finite_initial)
  let factor := (opts.reconnect.bind Policy.factor).getD (double 2.0 finite_factor)
  let cap := (opts.reconnect.bind Policy.capS).getD (double 60.0 finite_cap)
  let base ← factor.toFloat?
  let exponent ← (Number.int (attempt - 1)).toFloat?
  let power ← Number.ofFloat? (pow base exponent)
  let delay ← initial.mul? power
  secondsToMs (cap.min delay)

/-- The bound `reconnect` compares the attempts with. -/
def maxReconnects (opts : Options) : Option Int := opts.reconnect.bind Policy.maxReconnects

/-- The branch of `reconnect` that schedules another attempt. -/
def scheduleReconnect (st : State core) (reason : Reason core.Table) : Action core (Reply core) := do
  let attempt := st.attempt + 1
  deliver st (.reconnecting reason attempt)
  let backoff ← arithmetic (backoffMs core.pow st.opts attempt)
  let machine := st.machine.map core.machineReset
  closeStateSocket st
  sendAfter .connectAfterBackoff backoff
  return .noreply
    { st with machine, attempt, socket := none, transport := none, ggaTimerRef := none }

/-- `reconnect`. -/
def reconnect (st : State core) (reason : Reason core.Table) : Action core (Reply core) :=
  match maxReconnects st.opts with
  | some bound =>
    if (st.attempt : Int) ≥ bound then down st reason else scheduleReconnect st reason
  | none => scheduleReconnect st reason

/-- The stall timeout in milliseconds. -/
def stallTimeout (opts : Options) : Option Int :=
  secondsToMs (opts.stallTimeoutS.getD (double 30.0))

/-- `schedule_stall`. -/
def scheduleStall (opts : Options) : Action core Unit := do
  let timeout ← arithmetic (stallTimeout opts)
  sendAfter .stallCheck (min 1000 timeout)

/-- `stall_check`. -/
def stallCheck (st : State core) : Action core (Reply core) :=
  match st.socket with
  | none => return .noreply st
  | some _ => do
    let timeout ← arithmetic (stallTimeout st.opts)
    let now ← monotonicTime
    let elapsed : Int := now - st.lastRx
    if elapsed ≥ timeout then reconnect st (.streamStalled elapsed)
    else
      scheduleStall st.opts
      return .noreply st

/-- `gga_position`: no position is wanted, or one, or an error. -/
def ggaPosition (opts : Options) : Action core (Option (Except Detail GgaPosition)) :=
  match opts.gga with
  | some ⟨_, some .callback⟩ => do
    match ← callPosition with
    | some position => return some (.ok position)
    | none => return some (.error .badGgaPosition)
  | some ⟨_, some (.fixed position)⟩ => return some (.ok position)
  | some ⟨_, none⟩ => return some (.error .missingGgaPosition)
  | none => return none

/-- The last clause of `send_gga`, for a live machine and socket. -/
def sendGgaLive (st : State core) (machine : core.Machine) (transport : Transport)
    (socket : Socket) : Action core (Flow core) := do
  match ← ggaPosition st.opts with
  | none => return .ok st
  | some (.error detail) => return .stop st (.protocol detail)
  | some (.ok position) =>
    let now ← monotonicSeconds
    let day ← utcSecondsOfDay
    let (machine, sentence) := core.machineGga machine now position day
    let st := { st with machine := some machine }
    match sentence with
    | .error reason => return .stop st (.protocol (.core reason))
    | .ok none => return .ok st
    | .ok (some bytes) =>
      match ← sendBytes transport socket bytes with
      | .ok () => return .ok st
      | .error reason => return .reconnect st (.network reason)

/-- `send_gga`. -/
def sendGga (st : State core) : Action core (Flow core) :=
  match st.machine, st.socket, st.transport with
  | some machine, some socket, some transport => sendGgaLive st machine transport socket
  | _, _, _ => return .ok st

/-- `schedule_gga`. -/
def scheduleGga (st : State core) : Action core (State core) := do
  match ← ggaIntervalS st.opts with
  | none => return { st with ggaTimerRef := none }
  | some interval =>
    let ref ← makeRef
    let delay ← arithmetic (secondsToMs interval)
    sendAfter (.ggaTick ref) delay
    return { st with ggaTimerRef := some ref }

/-- `payload_sink_mode`. -/
def payloadSinkMode (st : State core) : SinkMode :=
  match st.opts.sinkMode with
  | some mode => mode
  | none =>
    match st.sink with
    | some (.store ..) => .store
    | _ => .payload

/-- `store_sink`. -/
def storeSink (st : State core) : Option (Nat × EpochSource) :=
  match st.sink with
  | some (.store store weekFun) => some (store, weekFun)
  | _ => do
    let store ← st.opts.store
    let weekFun ← st.opts.weekFun
    return (store, weekFun)

/-- `store_epoch`. -/
def storeEpoch : EpochSource → Action core (Option (Int × Number))
  | .callback => callEpoch
  | .pair week towS => return some (week, towS)
  | .other => return none

/-- `ingest_store_message`. -/
def ingestStoreMessage (st : State core) (message : core.Rtcm) :
    Action core (Except (Reason core.Table) Unit) :=
  match storeSink st with
  | none => return .error .missingStoreSink
  | some (store, weekFun) => do
    match ← storeEpoch weekFun with
    | none => return .error .badStoreEpoch
    | some (week, towS) =>
      match ← ingest store message week towS with
      | .ok () => return .ok ()
      | .error detail => return .error (.ingest detail)

/-- The loop of `ingest_store_payload`, which stops at the first error of the store. -/
def ingestMessages (st : State core) :
    List (Except String core.Rtcm) → Action core (Except (Reason core.Table) Unit)
  | [] => return .ok ()
  | .ok message :: later => do
    match ← ingestStoreMessage st message with
    | .ok () => ingestMessages st later
    | .error reason => return .error reason
  | .error _ :: later => ingestMessages st later

/-- The loop that delivers assembled messages. -/
def deliverMessages (st : State core) : List (Except String core.Rtcm) → Action core Unit
  | [] => return ()
  | .ok message :: later => do
    deliver st (.rtcm message)
    deliverMessages st later
  | .error _ :: later => deliverMessages st later

/-- What the payload clause of `handle_event` does with the assembler. -/
def assemblePayload (st : State core) (bytes : Bytes) : Action core (Flow core) :=
  match payloadSinkMode st with
  | .rtcm => do
    let (assembler, messages) := core.assemblerPush st.assembler bytes
    deliverMessages st messages
    return .ok { st with assembler }
  | .store => do
    let (assembler, messages) := core.assemblerPush st.assembler bytes
    let st := { st with assembler }
    match ← ingestMessages st messages with
    | .ok () => return .ok st
    | .error reason => return .stop st reason
  | .payload => return .ok st

/-- The payload clause of `handle_event`. -/
def handlePayload (st : State core) (bytes : Bytes) : Action core (Flow core) :=
  if payloadSinkMode st ≠ .store then do
    deliver st (.payload bytes)
    assemblePayload st bytes
  else assemblePayload st bytes

/-- `handle_event`. -/
def handleEvent (st : State core) : Event core.Table → Action core (Flow core)
  | .connected => do
    match ← sendGga st with
    | .ok next => return .ok (← scheduleGga next)
    | other => return other
  | .payload bytes => handlePayload st bytes
  | .sourcetable table => do
    if st.opts.mountpoint.getD "" = "" then
      deliver st (.sourcetable table)
      return .ok st
    else return .stop st (.mountpointNotFound (some table))
  | .rejected rejection => return .stop st (mapRejection rejection)
  | .streamCorrupted detail => return .reconnect st (.protocol (.core detail))
  | .streamEnded => return .reconnect st .streamEnded

/-- `process_events`. -/
def processEvents : List (Event core.Table) → State core → Action core (Flow core)
  | [], st => return .ok st
  | event :: events, st => do
    match ← handleEvent st event with
    | .ok next => processEvents events next
    | other => return other

/-- `process_bytes`. -/
def processBytes (bytes : Bytes) (st : State core) : Action core (Flow core) :=
  match st.machine with
  | none => .crash .argument
  | some machine =>
    let (machine, events) := core.machinePush machine bytes
    processEvents events { st with machine := some machine }

/-- `stream_reply`. -/
def streamReply : Flow core → Action core (Reply core)
  | .ok st => return .noreply st
  | .reconnect st reason => reconnect st reason
  | .stop st reason => down st reason

/-- `stream_terminal`. -/
def streamTerminal (ending : Reason core.Table) : Flow core → Action core (Reply core)
  | .ok st => down st ending
  | .reconnect st reason => reconnect st reason
  | .stop st reason => down st reason

/-- What `socket_closed` does with the flow of the finish events. -/
def closedReply (reason : Reason core.Table) : Flow core → Action core (Reply core)
  | .ok next => reconnect next reason
  | other => streamReply other

/-- A state without its connection. -/
def State.shed (st : State core) : State core :=
  { st with socket := none, transport := none, ggaTimerRef := none }

/-- `socket_closed`. -/
def socketClosed (st : State core) (reason : Reason core.Table) : Action core (Reply core) :=
  match st.machine with
  | none => reconnect st.shed reason
  | some machine => do
    let (machine, events) := core.machineFinish machine
    closedReply reason (← processEvents events { st.shed with machine := some machine })

/-- The loop of `run_injected` over the chunks of a transport function. -/
def injectChunks : List Bytes → State core → Action core (Flow core)
  | [], st => return .ok st
  | chunk :: chunks, st => do
    match ← processBytes chunk st with
    | .ok next => injectChunks chunks next
    | other => return other

/-- `run_injected`. -/
def runInjected (request : Bytes) (st : State core) : Action core (Reply core) := do
  match ← callTransport request with
  | .chunks chunks => streamTerminal .normal (← injectChunks chunks st)
  | .body body => streamTerminal .normal (← processBytes body st)
  | .failed reason => reconnect st (.network reason)
  | .other => .crash .caseClause

/-- The connect timeout in milliseconds. -/
def connectTimeout (opts : Options) : Option Int :=
  secondsToMs (opts.connectTimeoutS.getD (double 10.0))

/-- `open_socket`. A socket is stored in the state only after all three steps succeed. -/
def openSocket (request : Bytes) (st : State core) : Action core (Reply core) := do
  let transport := if st.opts.tls.getD false then Transport.ssl else .genTcp
  let timeout ← arithmetic (connectTimeout st.opts)
  match ← connect transport st.opts.host (st.opts.port.getD 2101) timeout with
  | .error reason => reconnect st (.network reason)
  | .ok socket =>
    match ← sendBytes transport socket request with
    | .error reason => reconnect st (.network reason)
    | .ok () =>
      match ← setActiveOnce transport socket with
      | .error reason => reconnect st (.network reason)
      | .ok () =>
        scheduleStall st.opts
        return .noreply { st with socket := some socket, transport := some transport }

/-- The body of `connect_stream` for a configuration. -/
def connectConfigured (st : State core) (config : core.Config) : Action core (Reply core) :=
  match core.requestBytes config with
  | .error reason => down st (.request reason)
  | .ok request =>
    let st := { st with machine := some (core.machineNew config) }
    if st.opts.transportFun then runInjected request st else openSocket request st

/-- `connect_stream`. -/
def connectStream (st : State core) : Action core (Reply core) := do
  match ← config st.opts.host st.opts (rawVersion (st.opts.version.getD .auto)) with
  | .error reason => down st reason
  | .ok config => connectConfigured st config

/-- `init`, before it continues with `:connect`. -/
def init (opts : Options) : Action core (State core) := do
  let ref ← makeRef
  let lastRx ← monotonicTime
  return {
    opts
    sink := opts.sink
    ref
    machine := none
    assembler := core.assemblerNew
    socket := none
    transport := none
    attempt := 0
    lastRx
    ggaTimerRef := none }

/-- `init` and `handle_continue`. -/
def start (opts : Options) : Action core (Reply core) := do
  connectStream (← init opts)

/-- The data clauses of `handle_info`. -/
def handleData (st : State core) (transport : Transport) (socket : Socket) (bytes : Bytes) :
    Action core (Reply core) := do
  let _ ← setActiveOnce transport socket
  let lastRx ← monotonicTime
  streamReply (← processBytes bytes { st with lastRx })

/-- The `:gga_tick` clause of `handle_info` for the timer of the state. -/
def ggaTick (st : State core) : Action core (Reply core) := do
  match ← sendGga st with
  | .ok next => return .noreply (← scheduleGga next)
  | .reconnect next reason => reconnect next reason
  | .stop next reason => down next reason

/-- `handle_info`. Data and error messages have no clause for other sockets, and error messages
have none for the current one. -/
def handleInfo (st : State core) : Message → Action core (Reply core)
  | .data transport socket bytes =>
    if st.socket = some socket ∧ st.transport = some transport then
      handleData st transport socket bytes
    else .crash .functionClause
  | .closed transport socket =>
    if st.socket = some socket ∧ st.transport = some transport then
      socketClosed st .streamEnded
    else return .noreply st
  | .error .. => .crash .functionClause
  | .timer .stallCheck => stallCheck st
  | .timer .connectAfterBackoff => connectStream st
  | .timer (.ggaTick ref) =>
    if st.ggaTimerRef = some ref then ggaTick st else return .noreply st

end Sidereon.Ntrip
