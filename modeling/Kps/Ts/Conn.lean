/-
**The connection engine** (`conn-core.ts`).

A `ConnCore` is the whole state of one end: the credit engine, the two reserved channels, the flags
of the handshake and of teardown, every stream object the end ever made, the queues of
`acceptStream` and of the datagrams, and the calls of `openStream` in progress.

* `ConnCore.step` handles one `Event`: what the transport, the peer, the timer or the application
  does next. An event about a stream that does not exist changes nothing.
* `ConnCore.log` records what the promises and the host were told, in order, and `ctlIn` the control
  messages received; neither is read by the engine.

Promise continuations run later than the call that settles the promise, so they are events of their
own (`openStreamResume`, `writeResume`, `readResume`, `abandonResume`). `KpsStream.close` is
`closeWrite` and then, after an `await`, `cancelRead`: two events.
-/

import Kps.Ts.Stream

namespace Kps.Ts

open Kps.Lib

def webrtcMaxDatagram : Nat := 1200

def maxDatagramQueue : Nat := 256

instance : Wire Bytes := ⟨id⟩

inductive ConnState
  | connecting
  | open
  | closed
  deriving DecidableEq, Repr

def ConnState.name : ConnState → String
  | connecting => "connecting"
  | .open => "open"
  | closed => "closed"

/-- Where an `openStream` is suspended. -/
inductive OpenPc
  /-- In `reserveStreamSlot`, waiting for credit with a ticket. -/
  | reserving (ticket : Nat)
  /-- After `reserveStreamSlot`, holding a slot. -/
  | reserved
  /-- Waiting for `opened` of the stream it made. -/
  | opening (k : Nat)
  | done
  deriving DecidableEq, Repr

/-- An `openStream` and whether its signal is aborted. -/
structure OpenCall where
  pc : OpenPc
  aborted : Bool
  deriving DecidableEq, Repr

/-- What a promise or the host was told. -/
inductive Outcome
  | established
  | establishRejected (error : KpsError)
  /-- `fatal` was called. -/
  | fatal (reason : KpsReason)
  /-- `host.openChannel` was called and made the channel of stream `k`. -/
  | channelCreated (k : Nat) (label : String)
  | opened (op : Nat) (k : Nat)
  | openRejected (op : Nat) (error : KpsError)
  | accepted (waiter : Nat) (k : Nat)
  | acceptRejected (waiter : Nat) (error : KpsError)
  | datagramReceived (waiter : Nat) (data : Bytes)
  | datagramRejected (waiter : Nat) (error : KpsError)
  | datagramSendFailed (error : KpsError)
  /-- `#teardown` was called, for the first time or again. -/
  | teardown (info : CloseInfo)
  /-- `host.closeTransport` was called. -/
  | transportClosed
  | closed (info : CloseInfo)
  deriving DecidableEq, Repr

/-- One end of a connection. `ids` are the stream objects ever made, in order; `live` is the set
`#streams`. -/
structure ConnCore where
  flow : ConnFlow
  control : Channel ControlMsg := {}
  datagram : Channel Bytes := {}
  state : ConnState := .connecting
  tearingDown : Bool := false
  helloSent : Bool := false
  peerHello : Option FlowLimits := none
  establishedDone : Bool := false
  helloTimer : Bool := true
  seq : Nat := 0
  ids : List Nat := []
  streams : Nat → KpsStream
  live : List Nat := []
  staged : List Nat := []
  incoming : List Nat := []
  acceptWaiters : List Nat := []
  dgQueue : List Bytes := []
  dgWaiters : List Nat := []
  opens : List OpenCall := []
  closeFired : Bool := false
  ctlIn : List ControlMsg := []
  log : List Outcome := []

/-- What happens next at one end. -/
inductive Event
  | controlOpen
  | controlMessage (data : Bytes)
  | controlClose
  | controlError
  | datagramOpen
  | datagramMessage (data : Bytes)
  | datagramClose
  /-- An application channel of the peer appears, already open or not. -/
  | incomingChannel (k : Nat) (isOpen : Bool)
  | channelOpen (k : Nat)
  | channelMessage (k : Nat) (data : Bytes)
  /-- The channel leaves the open state ahead of its close event. -/
  | channelClosing (k : Nat)
  | channelClose (k : Nat)
  | channelError (k : Nat) (text : String)
  /-- The transport sent queued bytes and `amount` are left. -/
  | bufferedAmount (k : Nat) (amount : Nat)
  | helloTimer
  | transportFailed (message : String)
  | transportClosed
  | openStream (aborted : Bool)
  /-- An `openStream` continues; `channel` is what `host.openChannel` makes or throws. -/
  | openStreamResume (op : Nat) (channel : Except KpsError Nat) (isOpen : Bool)
  | openStreamAbort (op : Nat)
  | acceptStream (waiter : Nat) (aborted : Bool)
  | acceptAbort (waiter : Nat)
  | write (k : Nat) (chunk : Bytes)
  | writeResume (k : Nat)
  | read (k : Nat)
  | readResume (k : Nat)
  | closeWrite (k : Nat)
  | resetWrite (k : Nat) (reason : Option KpsReason)
  | cancelRead (k : Nat) (reason : Option KpsReason)
  /-- The consumer cancels the `ReadableStream`. -/
  | cancelReadable (k : Nat) (reason : Option KpsReason)
  | abandonResume (k : Nat)
  | sendDatagram (data : Bytes) (aborted : Bool)
  | receiveDatagram (waiter : Nat) (aborted : Bool)
  | receiveAbort (waiter : Nat)
  | close (reason : Option KpsReason)

/-- A new stream, over a channel that is open or not. -/
def KpsStream.new (limits : FlowLimits) (peerInitiated isOpen : Bool) : KpsStream where
  peerInitiated := peerInitiated
  ch := { opened := isOpen }
  sf := StreamFlow.new limits
  openState := if isOpen then .resolved else .pending

namespace ConnCore

/-- A stream with what it shares with the connection. -/
def ctx (c : ConnCore) (k : Nat) : StreamCtx := ⟨c.flow, c.control, c.streams k⟩

def put (k : Nat) (x : StreamCtx) (c : ConnCore) : ConnCore :=
  { c with flow := x.flow, control := x.control, streams := Function.update c.streams k x.s }

def onStream (k : Nat) (f : StreamCtx → StreamCtx) (c : ConnCore) : ConnCore :=
  c.put k (f (c.ctx k))

def report (outcome : Outcome) (c : ConnCore) : ConnCore := { c with log := c.log ++ [outcome] }

def trySendControl (message : ControlMsg) (c : ConnCore) : ConnCore :=
  { c with control := c.control.sendIfOpen message }

/-! ### Close paths -/

def destroyAll (reason : Option KpsReason) (keys : List Nat) (c : ConnCore) : ConnCore :=
  keys.foldl (fun c k => c.onStream k (·.destroy reason)) c

def rejectEstablished (error : KpsError) (c : ConnCore) : ConnCore :=
  if c.establishedDone then c else c.report (.establishRejected error)

/-- The end of `#teardown`: forget the streams, reject the waiters, close the transport. -/
def settleClosed (info : CloseInfo) (c : ConnCore) : ConnCore :=
  let gone : KpsError := { message := "kps: connection closed" }
  { c with
    live := []
    staged := []
    acceptWaiters := []
    dgWaiters := []
    log := c.log ++ c.acceptWaiters.map (.acceptRejected · gone) ++
      c.dgWaiters.map (.datagramRejected · gone) ++ [.transportClosed, .closed info] }

/-- The error that the pending operations of a closing connection reject with. -/
def closeError (info : CloseInfo) : KpsError :=
  match info.reason with
  | some reason => streamError reason
  | none => { message := "kps: connection closed" }

def teardown (info : CloseInfo) (c : ConnCore) : ConnCore :=
  let c := c.report (.teardown info)
  if c.closeFired then c
  else
    let c := { c with
      closeFired := true
      tearingDown := true
      state := .closed
      helloTimer := false }.rejectEstablished (closeError info)
    ({ c with flow := c.flow.fail (closeError info) }.destroyAll info.reason
      (c.live ++ c.staged)).settleClosed info

/-- A wire violation of the peer or a local fatal condition. -/
def fatal (reason : KpsReason) (c : ConnCore) : ConnCore :=
  let c := c.report (.fatal reason)
  if c.closeFired then c
  else
    ({ c with tearingDown := true }.trySendControl
      (.close (codeToNum (some (reason.code.getD .protocolError))))).teardown
        { ok := false, reason := some reason }

def protocolError (text : String) (c : ConnCore) : ConnCore :=
  c.fatal { code := some .protocolError, message := some text }

/-- Local close: CONNECTION_CLOSE, then teardown. -/
def close (reason : Option KpsReason) (c : ConnCore) : ConnCore :=
  if c.closeFired then c
  else
    ({ c with tearingDown := true }.trySendControl
      (.close (codeToNum (reason.bind KpsReason.code)))).teardown { ok := true, reason }

def onTransportFailed (message : String) (c : ConnCore) : ConnCore :=
  c.teardown { ok := false, reason := some { code := some .networkError, message := some message } }

def onTransportClosed (c : ConnCore) : ConnCore :=
  c.teardown { ok := decide (c.state ≠ .connecting) }

def reservedChannelLost (which : String) (c : ConnCore) : ConnCore :=
  if c.tearingDown || c.closeFired then c
  else c.protocolError ("kps: reserved " ++ which ++ " channel lost")

/-- The HELLO timer fires, unless it was cleared. -/
def onHelloTimer (c : ConnCore) : ConnCore :=
  if c.helloTimer then
    { c with
      helloTimer := false }.fatal { code := some .timeout, message := some "kps: HELLO timeout" }
  else c

/-! ### Control channel -/

/-- Hand an incoming stream to the first waiting `acceptStream`, or queue it. -/
def enqueueIncoming (k : Nat) (c : ConnCore) : ConnCore :=
  match c.acceptWaiters with
  | waiter :: rest => { c with acceptWaiters := rest }.report (.accepted waiter k)
  | [] => { c with incoming := c.incoming ++ [k] }

def checkEstablished (c : ConnCore) : ConnCore :=
  if c.establishedDone || c.closeFired then c
  else if !c.helloSent || c.peerHello.isNone then c
  else
    let staged := c.staged
    let c := { c with establishedDone := true, state := .open, helloTimer := false }.report
      .established
    staged.foldl (fun c k => c.enqueueIncoming k) { c with staged := [] }

def sendHello (c : ConnCore) : ConnCore :=
  if c.helloSent || c.closeFired then c
  else
    ({ c with helloSent := true }.trySendControl
      (.hello wireVersion c.flow.localLimits)).checkEstablished

/-- The handling of a decoded control message. -/
def handleControl (message : ControlMsg) (c : ConnCore) : ConnCore :=
  match message with
  | .hello version limits =>
    if c.peerHello.isSome then c.protocolError "duplicate HELLO"
    else if version ≠ wireVersion then
      (c.trySendControl (.close (codeToNum (some .unsupported)))).teardown
        { ok := false
          reason := some {
            code := some .unsupported
            message := some ("kps: peer wire version " ++ toString version ++ " (want " ++
              toString wireVersion ++ ")") } }
    else { c with peerHello := some limits, flow := c.flow.onPeerHello limits }.checkEstablished
  | .close code =>
    c.teardown {
      ok := decide (code = 0)
      reason :=
        if code = 0 then none
        else some { code := some ((numToCode code).getD .internalError) } }
  | .maxData value =>
    if c.peerHello.isNone then c.protocolError "control message before HELLO"
    else { c with flow := c.flow.onPeerMaxData value }
  | .maxStreams value =>
    if c.peerHello.isNone then c.protocolError "control message before HELLO"
    else { c with flow := c.flow.onPeerMaxStreams value }

def onControl (data : Bytes) (c : ConnCore) : ConnCore :=
  match decodeControl data with
  | .error text => c.protocolError text
  | .ok message => { c with ctlIn := c.ctlIn ++ [message] }.handleControl message

/-! ### Streams -/

/-- `hooks.retired`: only peer-initiated streams return MAX_STREAMS credit. -/
def retired (k : Nat) (c : ConnCore) : ConnCore :=
  let c := { c with live := c.live.erase k }
  if (c.streams k).peerInitiated then
    { c with flow := c.flow.peerStreamRetired }.trySendControl
      (.maxStreams (asUint64 c.flow.peerStreamRetired.advertisedMaxStreams))
  else c

def maybeRetire (k : Nat) (c : ConnCore) : ConnCore :=
  let (x, fired) := (c.ctx k).maybeRetire
  if fired then (c.put k x).retired k else c.put k x

/-- Run a method of a stream that ends with `#maybeRetire`. -/
def retireAfter (k : Nat) (f : StreamCtx → StreamCtx) (c : ConnCore) : ConnCore :=
  (c.onStream k f).maybeRetire k

/-- Run a method of a stream that may end with `#maybeRetire`. -/
def runStream (k : Nat) (f : StreamCtx → StreamCtx × Bool) (c : ConnCore) : ConnCore :=
  let (x, retire) := f (c.ctx k)
  if retire then (c.put k x).maybeRetire k else c.put k x

def onFrame (k : Nat) (data : Bytes) (c : ConnCore) : ConnCore :=
  match parseFrame data with
  | .error text => c.protocolError text
  | .ok frame =>
    match (c.ctx k).handleFrame frame with
    | .violation text => c.protocolError text
    | .done x retire => if retire then (c.put k x).maybeRetire k else c.put k x

/-- The `close` event of a stream's channel. -/
def onChannelClose (k : Nat) (c : ConnCore) : ConnCore :=
  let c := c.onStream k fun x => { x with
    s := { x.s with ch := x.s.ch.close, channelClosed := true } }
  let c :=
    if !(c.streams k).wireComplete && !c.tearingDown then
      c.protocolError "data channel closed mid-stream"
    else c
  c.retireAfter k StreamCtx.channelLost

/-- `closeWrite`, unless the write half has ended. -/
def closeWrite (k : Nat) (c : ConnCore) : ConnCore :=
  if (c.streams k).localTerminal.isSome then c else c.retireAfter k StreamCtx.closeWrite

/-- `resetWrite`, unless the write half has ended. -/
def resetWrite (k : Nat) (reason : Option KpsReason) (c : ConnCore) : ConnCore :=
  if (c.streams k).localTerminal.isSome then c else c.retireAfter k (·.resetWrite reason)

/-- `cancelRead`, unless the read half is cancelled. -/
def cancelRead (k : Nat) (reason : Option KpsReason) (c : ConnCore) : ConnCore :=
  if (c.streams k).readCancelled then c else c.retireAfter k (·.cancelRead reason)

/-- The consumer cancels a `ReadableStream` that has not ended. -/
def cancelReadable (k : Nat) (reason : Option KpsReason) (c : ConnCore) : ConnCore :=
  if (c.streams k).readable.state = .readable then
    (c.onStream k fun x =>
      { x with s := { x.s with
          readable := { x.s.readable with state := .cancelled } } }).cancelRead k
      (some (reason.getD { code := some .cancelled }))
  else c

/-- `resetWrite` and `cancelRead` of an abandoned stream whose `opened` resolved. -/
def abandonResume (k : Nat) (c : ConnCore) : ConnCore :=
  if (c.streams k).abandoned ∧ (c.streams k).openState = .resolved then
    ((c.onStream k fun x => { x with s := { x.s with abandoned := false } }).resetWrite k
      (some { code := some .cancelled })).cancelRead k (some { code := some .cancelled })
  else c

def makeStream (k : Nat) (peerInitiated isOpen : Bool) (c : ConnCore) : ConnCore :=
  { c with
    ids := c.ids ++ [k]
    live := c.live ++ [k]
    streams := Function.update c.streams k
      (KpsStream.new c.flow.localLimits peerInitiated isOpen) }

def handleIncomingChannel (k : Nat) (isOpen : Bool) (c : ConnCore) : ConnCore :=
  match c.flow.peerStreamOpened with
  | .error text => c.protocolError text
  | .ok flow =>
    let c := { c with flow }.makeStream k true isOpen
    if c.establishedDone then c.enqueueIncoming k else { c with staged := c.staged ++ [k] }

def setOpen (op : Nat) (pc : OpenPc) (c : ConnCore) : ConnCore :=
  { c with opens := c.opens.modify op fun call => { call with pc } }

def rejectOpen (op : Nat) (error : KpsError) (c : ConnCore) : ConnCore :=
  (c.setOpen op .done).report (.openRejected op error)

/-- One pass of the loop in `reserveStreamSlot`. -/
def reserveSlot (op : Nat) (aborted : Bool) (c : ConnCore) : ConnCore :=
  match c.flow.reserveStreamSlot aborted with
  | .failed error => c.rejectOpen op error
  | .reserved flow => { c with flow }.setOpen op .reserved
  | .blocked => c.setOpen op (.reserving c.flow.credit.wait)

def openAborted : KpsError := { message := "kps: openStream aborted" }

/-- `openStream` up to its first suspension. -/
def openStream (aborted : Bool) (c : ConnCore) : ConnCore :=
  let op := c.opens.length
  let call : OpenCall := { pc := .done, aborted }
  let c := { c with opens := c.opens ++ [call] }
  if aborted then c.rejectOpen op openAborted
  else if c.state ≠ .open then
    c.rejectOpen op { message := "kps: connection is " ++ c.state.name }
  else c.reserveSlot op aborted

def abandon (k : Nat) (c : ConnCore) : ConnCore :=
  c.onStream k fun x => { x with s := { x.s with abandoned := true } }

/-- `openStream` with a slot reserved, when `host.openChannel` made the channel of stream `k`. -/
def openChannel (op : Nat) (aborted : Bool) (k : Nat) (isOpen : Bool) (c : ConnCore) : ConnCore :=
  let c := { c with seq := c.seq + 1, flow := c.flow.commitStreamSlot }
  let c := (c.report (.channelCreated k ("kps-" ++ toString c.seq))).makeStream k false isOpen
  if aborted then (c.abandon k).rejectOpen op openAborted else c.setOpen op (.opening k)

/-- `openStream` with a slot reserved, when `host.openChannel` threw. -/
def openChannelThrew (op : Nat) (error : KpsError) (c : ConnCore) : ConnCore :=
  { c with seq := c.seq + 1, flow := c.flow.releaseStreamSlot }.rejectOpen op error

/-- A suspended `openStream` continues, if what it waits for has come. -/
def openStreamResume (op : Nat) (channel : Except KpsError Nat) (isOpen : Bool)
    (c : ConnCore) : ConnCore :=
  match c.opens[op]? with
  | none => c
  | some ⟨.done, _⟩ => c
  | some ⟨.reserving ticket, aborted⟩ =>
    if c.flow.credit.resolved ticket then c.reserveSlot op aborted else c
  | some ⟨.reserved, aborted⟩ =>
    match channel with
    | .error error => c.openChannelThrew op error
    | .ok k => if k ∈ c.ids then c else c.openChannel op aborted k isOpen
  | some ⟨.opening k, _⟩ =>
    match (c.streams k).openState with
    | .pending => c
    | .resolved => (c.setOpen op .done).report (.opened op k)
    | .rejected error => c.rejectOpen op error

/-- The signal of an `openStream` aborts. A wait for credit and a wait for `opened` both reject at
once; a call that is about to continue sees the abort when it does. -/
def openStreamAbort (op : Nat) (c : ConnCore) : ConnCore :=
  match c.opens[op]? with
  | none => c
  | some call =>
    let c := { c with opens := c.opens.modify op fun call => { call with aborted := true } }
    match call.pc with
    | .reserving ticket =>
      if c.flow.credit.resolved ticket then c else c.rejectOpen op { message := "kps: aborted" }
    | .opening k => (c.abandon k).rejectOpen op openAborted
    | _ => c

def acceptStream (waiter : Nat) (aborted : Bool) (c : ConnCore) : ConnCore :=
  match c.incoming with
  | k :: rest => { c with incoming := rest }.report (.accepted waiter k)
  | [] =>
    if aborted then
      c.report (.acceptRejected waiter { message := "kps: acceptStream aborted" })
    else if c.state = .closed then
      c.report (.acceptRejected waiter { message := "kps: connection is closed" })
    else { c with acceptWaiters := c.acceptWaiters ++ [waiter] }

def acceptAbort (waiter : Nat) (c : ConnCore) : ConnCore :=
  if waiter ∈ c.acceptWaiters then
    { c with acceptWaiters := c.acceptWaiters.erase waiter }.report
      (.acceptRejected waiter { message := "kps: acceptStream aborted" })
  else c

/-! ### Datagrams -/

def onDatagram (data : Bytes) (c : ConnCore) : ConnCore :=
  match c.dgWaiters with
  | waiter :: rest => { c with dgWaiters := rest }.report (.datagramReceived waiter data)
  | [] =>
    let queue := c.dgQueue ++ [data]
    { c with dgQueue := if queue.length > maxDatagramQueue then queue.tail else queue }

def sendDatagram (data : Bytes) (aborted : Bool) (c : ConnCore) : ConnCore :=
  if aborted then c.report (.datagramSendFailed { message := "kps: sendDatagram aborted" })
  else if data.length > webrtcMaxDatagram then
    c.report (.datagramSendFailed {
      message := "kps: datagram exceeds limit (max " ++ toString webrtcMaxDatagram ++ " bytes)"
      code := some .tooLarge })
  else
    match c.datagram.send data with
    | none => c.report (.datagramSendFailed { message := "kps: datagram channel not open" })
    | some datagram => { c with datagram }

def receiveDatagram (waiter : Nat) (aborted : Bool) (c : ConnCore) : ConnCore :=
  match c.dgQueue with
  | data :: rest => { c with dgQueue := rest }.report (.datagramReceived waiter data)
  | [] =>
    if c.state = .closed then
      c.report (.datagramRejected waiter { message := "kps: connection closed" })
    else if aborted then
      c.report (.datagramRejected waiter { message := "kps: receiveDatagram aborted" })
    else { c with dgWaiters := c.dgWaiters ++ [waiter] }

def receiveAbort (waiter : Nat) (c : ConnCore) : ConnCore :=
  if waiter ∈ c.dgWaiters then
    { c with dgWaiters := c.dgWaiters.erase waiter }.report
      (.datagramRejected waiter { message := "kps: receiveDatagram aborted" })
  else c

/-! ### The machine -/

/-- The fields of a new connection, with the control channel already open or not. -/
def fresh (limits : FlowLimits) (controlOpen : Bool) : ConnCore where
  flow := ConnFlow.new limits
  control := { opened := controlOpen }
  streams := fun _ => { sf := StreamFlow.new limits }

/-- The constructor. -/
def new (limits : FlowLimits) (controlOpen : Bool) : ConnCore :=
  let c := fresh limits controlOpen
  if controlOpen then c.sendHello else c

/-- What an event does to the stream it is about. -/
def streamEvent (k : Nat) (event : Event) (c : ConnCore) : ConnCore :=
  match event with
  | .channelOpen _ =>
    c.onStream k fun x =>
      { x with s := { x.s with ch := { x.s.ch with opened := true } }.settleOpen none }
  | .channelMessage _ data => c.onFrame k data
  | .channelClosing _ => c.onStream k fun x => { x with s := { x.s with ch := x.s.ch.close } }
  | .channelClose _ => c.onChannelClose k
  | .channelError _ text => c.onStream k fun x => { x with s := x.s.onError text }
  | .bufferedAmount _ amount =>
    c.onStream k fun x =>
      { x with s :=
          let s := { x.s with ch := { x.s.ch with bufferedAmount := amount } }
          if amount ≤ localSendBufferLow then s.wakeDrain else s }
  | .write _ chunk => c.onStream k (·.writeChunk chunk)
  | .writeResume _ => c.onStream k StreamCtx.writeResume
  | .read _ => c.runStream k StreamCtx.read
  | .readResume _ => c.runStream k StreamCtx.readResume
  | .closeWrite _ => c.closeWrite k
  | .resetWrite _ reason => c.resetWrite k reason
  | .cancelRead _ reason => c.cancelRead k reason
  | .cancelReadable _ reason => c.cancelReadable k reason
  | .abandonResume _ => c.abandonResume k
  | _ => c

end ConnCore

/-- The cases of `#maybeRetire`. -/
theorem StreamCtx.maybeRetire_cases (x : StreamCtx) :
    x.maybeRetire = (x, false) ∨
      (x.s.wireComplete = true ∧ x.s.inbuf = [] ∧ x.s.channelClosed = false ∧
        x.maybeRetire = ({ x with s := { x.s with ch := x.s.ch.close } }, false)) ∨
      (x.s.wireComplete = true ∧ x.s.inbuf = [] ∧ x.s.channelClosed = true ∧
        x.s.retiredFired = false ∧
        x.maybeRetire = ({ x with s := { x.s with retiredFired := true } }, true)) := by
  unfold maybeRetire
  cases complete : x.s.wireComplete with
  | false => exact Or.inl rfl
  | true =>
    cases buffered : x.s.inbuf with
    | cons chunk rest => exact Or.inl rfl
    | nil =>
      cases closed : x.s.channelClosed with
      | false => exact Or.inr (Or.inl ⟨rfl, rfl, rfl, rfl⟩)
      | true =>
        cases fired : x.s.retiredFired with
        | true => exact Or.inl rfl
        | false => exact Or.inr (Or.inr ⟨rfl, rfl, rfl, rfl, rfl⟩)

/-- The stream an event is about. -/
def Event.stream : Event → Option Nat
  | .channelOpen k | .channelMessage k _ | .channelClosing k | .channelClose k
  | .channelError k _ | .bufferedAmount k _ | .write k _ | .writeResume k | .read k
  | .readResume k | .closeWrite k | .resetWrite k _ | .cancelRead k _ | .cancelReadable k _
  | .abandonResume k => some k
  | _ => none

namespace ConnCore

/-- What an event that is about no stream does. -/
def connEvent (event : Event) (c : ConnCore) : ConnCore :=
  match event with
  | .controlOpen => { c with control := { c.control with opened := true } }.sendHello
  | .controlMessage data => c.onControl data
  | .controlClose => { c with control := c.control.close }.reservedChannelLost "control"
  | .controlError => c.reservedChannelLost "control"
  | .datagramOpen => { c with datagram := { c.datagram with opened := true } }
  | .datagramMessage data => c.onDatagram data
  | .datagramClose => { c with datagram := c.datagram.close }.reservedChannelLost "datagram"
  | .incomingChannel k isOpen => if k ∈ c.ids then c else c.handleIncomingChannel k isOpen
  | .helloTimer => c.onHelloTimer
  | .transportFailed message => c.onTransportFailed message
  | .transportClosed => c.onTransportClosed
  | .openStream aborted => c.openStream aborted
  | .openStreamResume op channel isOpen => c.openStreamResume op channel isOpen
  | .openStreamAbort op => c.openStreamAbort op
  | .acceptStream waiter aborted => c.acceptStream waiter aborted
  | .acceptAbort waiter => c.acceptAbort waiter
  | .sendDatagram data aborted => c.sendDatagram data aborted
  | .receiveDatagram waiter aborted => c.receiveDatagram waiter aborted
  | .receiveAbort waiter => c.receiveAbort waiter
  | .close reason => c.close reason
  | _ => c

/-- One event. -/
def step (c : ConnCore) (event : Event) : ConnCore :=
  match event.stream with
  | some k => if k ∈ c.ids then c.streamEvent k event else c
  | none => c.connEvent event

end ConnCore

end Kps.Ts
