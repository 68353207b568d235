/-
**A stream of the Rust crate** (`Shared`, `writer_task` and `WebrtcStream` of `stream.rs`).

Every function is a sequence of sections: one under the state's or the flow's mutex, or one
operation on a queue or the channel. Tasks interleave between sections. `StreamSection` names them,
and `exec` says what one does and what its task does next; a section that waits is not enabled until
it can go on. Thread `0` is the read loop that runs the callbacks of the channel, thread `1` the
writer task, and thread `2` the application, whose methods take `&mut self` and so follow one
another.

`RTCDataChannel.calls` logs the frames accepted by `dc.send` and the calls of `dc.close`, in order.
A frame in a queue stands for its encoding (`encodeFrame`).
-/

import Kps.Lib.Run
import Kps.Lib.Threads
import Kps.Rust.Flow

namespace Kps.Rust

open Kps.Lib

inductive Terminal
  | fin
  | reset
  deriving DecidableEq, Repr

inductive RTCDataChannelState
  | connecting
  | opened
  | closing
  | closed
  deriving DecidableEq, Repr

/-- A call of the data channel. -/
inductive Call
  | send (frame : ParsedFrame)
  | close
  deriving DecidableEq, Repr

structure RTCDataChannel where
  readyState : RTCDataChannelState
  bufferedAmount : Nat := 0
  calls : List Call := []

namespace RTCDataChannel

/-- `send` fails unless the channel is open. -/
def send (frame : ParsedFrame) (dc : RTCDataChannel) : Option RTCDataChannel :=
  if dc.readyState = .opened then some { dc with calls := dc.calls ++ [.send frame] } else none

def close (dc : RTCDataChannel) : RTCDataChannel :=
  { dc with
    calls := dc.calls ++ [.close]
    readyState := if dc.readyState = .closed then .closed else .closing }

end RTCDataChannel

def writeBufferLow : Nat := 1048576

/-- The frames of the lifecycle queue. -/
inductive LifeFrame
  | reset (code : ErrorCode)
  | stopSending (code : ErrorCode)
  | maxStreamData (v : Nat)
  deriving DecidableEq, Repr

def LifeFrame.frame : LifeFrame → ParsedFrame
  | reset code => .reset code
  | stopSending code => .stopSending code
  | maxStreamData v => .maxStreamData v

/-- The state of a `PollSender`. A permit given to its pending reservation is `acquiring true`. -/
inductive PollSender
  | idle
  | acquiring (assigned : Bool)
  | readyToSend
  | closed
  deriving DecidableEq, Repr

inductive ReadResult
  | bytes (data : Bytes)
  | eof
  | error (error : Error)
  | pending
  deriving DecidableEq, Repr

/-- What `poll_write` returns; `accepted` is `Ok` of a count of the bytes in `buf`. -/
inductive WriteResult
  | accepted (buf : Bytes) (n : Nat)
  | error (error : Error)
  | pending
  | panicked
  deriving DecidableEq, Repr

/-- What `poll_shutdown` and `close_write` return. -/
inductive FinishResult
  | ok
  | error (error : Error)
  | pending
  deriving DecidableEq, Repr

/-- `Shared`, its `State`, the two queues of the writer task and the fields of the handle.
`abandoned` logs the entries of the DATA queue that were dropped with its receiver, `fatals` and
`retired` log the calls of the hooks, `isTeardown` is what that hook answers, and `reads`, `writes`
and `finishes` log what the methods return. -/
structure WebrtcStream where
  dc : RTCDataChannel
  flow : ConnFlow
  id : UInt64
  peerInitiated : Bool
  inbuf : List Bytes := []
  peerFin : Bool := false
  peerReset : Option StreamError := none
  peerStop : Option StreamError := none
  localTerminal : Option Terminal := none
  localTerminalSent : Bool := false
  readCancel : Bool := false
  dropData : Bool := false
  dcOpen : Bool
  dcClosed : Bool := false
  retiredFired : Bool := false
  isClosed : Bool := false
  readWaker : Bool := false
  life : List LifeFrame := []
  data : List (ParsedFrame × UInt64) := []
  abandoned : List (ParsedFrame × UInt64) := []
  permits : Nat := 32
  writerGone : Bool := false
  dataPollTx : PollSender := .idle
  pendingGrant : UInt64 := 0
  handleDropped : Bool := false
  isTeardown : Bool := false
  fatals : List (ErrorCode × String) := []
  retired : Nat := 0
  reads : List ReadResult := []
  writes : List WriteResult := []
  finishes : List FinishResult := []

/-- `WebrtcStream::new`, on a channel that is open already or not yet. -/
def WebrtcStream.new (flow : ConnFlow) (peerInitiated isOpen : Bool) : WebrtcStream where
  dc := { readyState := if isOpen then .opened else .connecting }
  flow := flow.newStream.value
  id := flow.newStream.value.nextId
  peerInitiated
  dcOpen := isOpen

inductive StreamSection
  | onOpen
  | onFrame (data : Bytes)
  | onDataReceived (payload : Bytes)
  | pushData (payload : Bytes)
  | onChannelClose
  | policeClose (wireComplete : Bool)
  | markClosed
  | fatal (code : ErrorCode) (text : String)
  | consumed (n : UInt64)
  | lifeSend (frame : LifeFrame)
  | failSend
  | maybeRetire
  | dropStream
  | retired
  | dcClose
  | writerOpen
  | selectLife
  | selectData
  | writerLife (frame : LifeFrame)
  | writerData (frame : ParsedFrame) (reserved : UInt64)
  | writerRoom (frame : ParsedFrame) (reserved : UInt64)
  | writerBuffered (frame : ParsedFrame) (reserved : UInt64)
  | writerSend (frame : ParsedFrame) (reserved : UInt64)
  | markTerminalSent
  | release (n : UInt64)
  | commit (n : UInt64)
  | writerEnd
  | pollRead (size : Nat)
  | pollWrite (buf : Bytes)
  | reserveCredit (buf : Bytes)
  | queueData (buf : Bytes)
  | refuseData
  | pollShutdown
  | reserveFin
  | undoFin
  | closeWrite
  | sendFin
  | resetWrite (code : ErrorCode)
  | cancelRead (code : ErrorCode)
  | markCancelled
  | dropGrant
  | dropSenders
  deriving DecidableEq, Repr

/-- `kind == Data`. -/
def isData : ParsedFrame → Bool
  | .data _ => true
  | _ => false

/-- `kind == Fin || kind == Reset`. -/
def isTerminal : ParsedFrame → Bool
  | .fin => true
  | .reset _ => true
  | _ => false

namespace WebrtcStream

abbrev Done := Option (Effect WebrtcStream StreamSection)

/-- The section is over, and its task goes on with `next`. -/
def andThen (next : List StreamSection) (s : WebrtcStream) : Done := some { shared := s, next }

/-- The peer's terminal frame was received. -/
def peerEnded (s : WebrtcStream) : Bool := s.peerFin || s.peerReset.isSome

def wireComplete (s : WebrtcStream) : Bool := s.localTerminalSent && s.peerEnded

def wakeReader (s : WebrtcStream) : WebrtcStream := { s with readWaker := false }

def buffered (s : WebrtcStream) : Nat := (s.inbuf.map List.length).sum

/-- A consumption of zero bytes is not counted. -/
def discarded (n : Nat) : List StreamSection := if n > 0 then [.consumed (UInt64.ofNat n)] else []

/-- A reservation of zero bytes is neither released nor committed. -/
def settleReserved (op : UInt64 → StreamSection) (n : UInt64) : List StreamSection :=
  if n > 0 then [op n] else []

/-- The first section of `on_frame`. -/
def onFrame (data : Bytes) (s : WebrtcStream) : Done :=
  match parseFrame data with
  | .error text => s.andThen [.fatal .protocolError text]
  | .ok (.data payload) =>
    if s.peerEnded then s.andThen [.fatal .protocolError "DATA after terminal frame"]
    else s.andThen [.onDataReceived payload]
  | .ok .fin =>
    if s.peerEnded then s.andThen [.fatal .protocolError "second terminal frame"]
    else andThen [.maybeRetire] { s with peerFin := true }.wakeReader
  | .ok (.reset code) =>
    if s.peerEnded then s.andThen [.fatal .protocolError "second terminal frame"]
    else
      andThen (discarded s.buffered ++ [.maybeRetire])
        { s with peerReset := some ⟨code, true⟩, inbuf := [] }.wakeReader
  | .ok (.stopSending code) =>
    if s.peerStop.isSome then s.andThen []
    else
      let stopped := { s with peerStop := some ⟨code, true⟩ }
      if s.localTerminal.isNone then
        andThen [.failSend, .lifeSend (.reset code), .maybeRetire]
          { stopped with localTerminal := some .reset, dropData := true }
      else stopped.andThen [.failSend]
  | .ok (.maxStreamData v) =>
    andThen [] { s with flow := s.flow.onPeerMaxStreamData s.id (UInt64.ofNat v) }

/-- The section of `maybe_retire`, and the task it spawns. -/
def maybeRetire (s : WebrtcStream) : Done :=
  if s.wireComplete && s.inbuf.isEmpty then
    if s.dcClosed then
      if s.retiredFired then s.andThen []
      else andThen [.dropStream, .retired] { s with retiredFired := true }
    else some { shared := s, started := [[.dcClose]] }
  else s.andThen []

/-- `hooks.retired`. -/
def fireRetired (s : WebrtcStream) : WebrtcStream :=
  { s with
    retired := s.retired + 1
    flow := if s.peerInitiated then s.flow.peerStreamRetired.value else s.flow }

/-- A received item gives its permit back, to the pending reservation if there is one. -/
def freePermit (s : WebrtcStream) : WebrtcStream :=
  if s.dataPollTx = .acquiring false then { s with dataPollTx := .acquiring true }
  else { s with permits := s.permits + 1 }

/-- The receivers of the two queues are dropped, with what is queued. -/
def endWriter (s : WebrtcStream) : WebrtcStream :=
  { s with writerGone := true, data := [], abandoned := s.abandoned ++ s.data, life := [] }

/-- `data_poll_tx.poll_reserve`. -/
def pollPermit (s : WebrtcStream) : WebrtcStream :=
  match s.dataPollTx with
  | .idle =>
    if s.writerGone then { s with dataPollTx := .closed }
    else if s.permits > 0 then { s with permits := s.permits - 1, dataPollTx := .readyToSend }
    else { s with dataPollTx := .acquiring false }
  | .acquiring assigned =>
    if s.writerGone then { s with dataPollTx := .closed }
    else if assigned then { s with dataPollTx := .readyToSend }
    else s
  | .readyToSend => s
  | .closed => s

/-- `data_poll_tx.send_item`, with a permit; without a receiver, nothing takes the item. -/
def sendItem (item : ParsedFrame × UInt64) (s : WebrtcStream) : WebrtcStream :=
  { s with
    dataPollTx := .idle
    data := if s.writerGone then s.data else s.data ++ [item]
    abandoned := if s.writerGone then s.abandoned ++ [item] else s.abandoned }

def returnRead (result : ReadResult) (s : WebrtcStream) : WebrtcStream :=
  { s with reads := s.reads ++ [result] }

def returnWrite (result : WriteResult) (s : WebrtcStream) : WebrtcStream :=
  { s with writes := s.writes ++ [result] }

def returnFinish (result : FinishResult) (s : WebrtcStream) : WebrtcStream :=
  { s with finishes := s.finishes ++ [result] }

/-- The first section of `poll_read`. -/
def pollRead (size : Nat) (s : WebrtcStream) : Done :=
  match s.inbuf with
  | chunk :: rest =>
    let n := min chunk.length size
    let left := if n = chunk.length then rest else chunk.drop n :: rest
    andThen [.consumed (UInt64.ofNat n), .maybeRetire]
      (returnRead (.bytes (chunk.take n)) { s with inbuf := left })
  | [] =>
    if s.readCancel then (s.returnRead (.error .streamClosed)).andThen []
    else
      match s.peerReset with
      | some error => (s.returnRead (.error (.stream error))).andThen []
      | none =>
        if s.peerFin then (s.returnRead .eof).andThen []
        else if s.dcClosed then (s.returnRead (.error .streamClosed)).andThen []
        else andThen [] (returnRead .pending { s with readWaker := true })

/-- The first section of `poll_write`. -/
def pollWrite (buf : Bytes) (s : WebrtcStream) : Done :=
  match s.peerStop with
  | some error => (s.returnWrite (.error (.stream error))).andThen []
  | none =>
    if s.localTerminal.isSome then (s.returnWrite (.error .writeClosed)).andThen []
    else if s.dcClosed then (s.returnWrite (.error .streamClosed)).andThen []
    else if s.pendingGrant = 0 then s.andThen [.reserveCredit buf]
    else s.andThen [.queueData buf]

def reserveCredit (buf : Bytes) (s : WebrtcStream) : Done :=
  match (s.flow.pollReserve s.id (UInt64.ofNat (min buf.length maxFramePayload))).value with
  | .pending flow => andThen [] (returnWrite .pending { s with flow })
  | .failed error => (s.returnWrite (.error error)).andThen []
  | .granted granted flow => andThen [.queueData buf] { s with flow, pendingGrant := granted }

def queueData (buf : Bytes) (s : WebrtcStream) : Done :=
  let s := s.pollPermit
  match s.dataPollTx with
  | .closed => s.andThen [.refuseData]
  | .readyToSend =>
    let n := s.pendingGrant.toNat
    if n ≤ buf.length then
      andThen [] (returnWrite (.accepted buf n)
        { s.sendItem (.data (buf.take n), s.pendingGrant) with pendingGrant := 0 })
    else (s.returnWrite .panicked).andThen []
  | _ => (s.returnWrite .pending).andThen []

def reserveFin (s : WebrtcStream) : Done :=
  let s := s.pollPermit
  match s.dataPollTx with
  | .closed => (s.returnFinish (.error .streamClosed)).andThen []
  | .readyToSend => ((s.sendItem (.fin, 0)).returnFinish .ok).andThen [.failSend, .maybeRetire]
  | _ => s.andThen [.undoFin]

/-- The data branch of the writer's `select!`. -/
def selectData (s : WebrtcStream) : Done :=
  match s.data with
  | (frame, reserved) :: rest =>
    andThen [.writerData frame reserved] { s with data := rest }.freePermit
  | [] =>
    if s.handleDropped then s.andThen [.writerEnd]
    else if s.life ≠ [] then s.andThen [.selectLife]
    else none

/-- The send of a queued frame in the data branch. -/
def writerSend (frame : ParsedFrame) (reserved : UInt64) (s : WebrtcStream) : Done :=
  match s.dc.send frame with
  | some dc =>
    andThen (settleReserved .commit reserved ++
      (if isTerminal frame then [.markTerminalSent] else []) ++ [.selectLife]) { s with dc }
  | none => s.andThen (settleReserved .release reserved ++ [.writerEnd])

/-- A section of a task. -/
def exec (s : WebrtcStream) : StreamSection → Done
  | .onOpen => andThen [] { s with dcOpen := true }
  | .onFrame data => s.onFrame data
  | .onDataReceived payload =>
    match (s.flow.onDataReceived s.id (UInt64.ofNat payload.length)).value with
    | .error text => s.andThen [.fatal .protocolError text]
    | .ok flow => andThen [.pushData payload] { s with flow }
  | .pushData payload =>
    if s.readCancel then s.andThen [.consumed (UInt64.ofNat payload.length)]
    else andThen [] { s with inbuf := s.inbuf ++ [payload] }.wakeReader
  | .onChannelClose =>
    andThen [.policeClose s.wireComplete, .failSend, .markClosed, .maybeRetire]
      { s with dcClosed := true }.wakeReader
  | .policeClose wireComplete =>
    if !wireComplete && !s.isTeardown then
      s.andThen [.fatal .protocolError "data channel closed mid-stream"]
    else s.andThen []
  | .markClosed => andThen [] { s with isClosed := true }
  | .fatal code text => andThen [] { s with fatals := s.fatals ++ [(code, text)] }
  | .consumed n =>
    let (flow, adv) := (s.flow.onConsumed s.id n).value
    andThen (adv.map fun v => StreamSection.lifeSend (.maxStreamData v.toNat)).toList { s with
      flow }
  | .lifeSend frame =>
    if s.writerGone then s.andThen [] else andThen [] { s with life := s.life ++ [frame] }
  | .failSend => andThen [] { s with flow := s.flow.failSend s.id }
  | .maybeRetire => s.maybeRetire
  | .dropStream => andThen [] { s with flow := (s.flow.dropStream s.id).value }
  | .retired => s.fireRetired.andThen []
  | .dcClose => andThen [] { s with dc := s.dc.close }
  | .writerOpen =>
    if s.dcOpen then s.andThen [.selectLife]
    else if s.dcClosed then s.andThen [.writerEnd]
    else none
  | .selectLife =>
    match s.life with
    | frame :: rest => andThen [.writerLife frame] { s with life := rest }
    | [] => s.andThen [.selectData]
  | .selectData => s.selectData
  | .writerLife frame =>
    match s.dc.send frame.frame with
    | some dc =>
      andThen ((if isTerminal frame.frame then [.markTerminalSent] else []) ++ [.selectLife])
        { s with dc }
    | none => s.andThen [.writerEnd]
  | .writerData frame reserved =>
    if s.dropData && isData frame then s.andThen (settleReserved .release reserved ++ [.selectLife])
    else s.andThen [.writerRoom frame reserved]
  | .writerRoom frame reserved =>
    if s.dcClosed then s.andThen (settleReserved .release reserved ++ [.writerEnd])
    else s.andThen [.writerBuffered frame reserved]
  | .writerBuffered frame reserved =>
    if s.dc.bufferedAmount ≤ writeBufferLow then s.andThen [.writerSend frame reserved]
    else s.andThen [.writerRoom frame reserved]
  | .writerSend frame reserved => s.writerSend frame reserved
  | .markTerminalSent => andThen [.maybeRetire] { s with localTerminalSent := true }
  | .release n => andThen [] { s with flow := (s.flow.release s.id n).value }
  | .commit n => andThen [] { s with flow := (s.flow.commit s.id n).value }
  | .writerEnd => s.endWriter.andThen []
  | .pollRead size => s.pollRead size
  | .pollWrite buf => s.pollWrite buf
  | .reserveCredit buf => s.reserveCredit buf
  | .queueData buf => s.queueData buf
  | .refuseData =>
    andThen [] (returnWrite (.error .streamClosed)
      { s with flow := (s.flow.release s.id s.pendingGrant).value, pendingGrant := 0 })
  | .pollShutdown =>
    if s.localTerminal.isSome then (s.returnFinish .ok).andThen []
    else andThen [.reserveFin] { s with localTerminal := some .fin }
  | .reserveFin => s.reserveFin
  | .undoFin => andThen [] (returnFinish .pending { s with localTerminal := none })
  | .closeWrite =>
    if s.localTerminal.isSome then (s.returnFinish .ok).andThen []
    else andThen [.failSend, .sendFin] { s with localTerminal := some .fin }
  | .sendFin =>
    if s.writerGone then (s.returnFinish (.error .streamClosed)).andThen []
    else if s.permits > 0 then
      andThen [.maybeRetire]
        (returnFinish .ok { s with permits := s.permits - 1, data := s.data ++ [(.fin, 0)] })
    else none
  | .resetWrite code =>
    if s.localTerminal.isSome then s.andThen []
    else
      andThen [.failSend, .lifeSend (.reset code), .maybeRetire]
        { s with localTerminal := some .reset, dropData := true }
  | .cancelRead code =>
    if s.readCancel then s.andThen []
    else
      andThen ([.markCancelled] ++ discarded s.buffered ++
          (if s.peerEnded then [] else [.lifeSend (.stopSending code)]) ++ [.maybeRetire])
        { s with readCancel := true, inbuf := [] }.wakeReader
  | .markCancelled => andThen [] { s with flow := s.flow.markCancelled s.id }
  | .dropGrant =>
    if s.pendingGrant > 0 then
      andThen [.dropSenders] { s with flow := (s.flow.release s.id s.pendingGrant).value }
    else s.andThen [.dropSenders]
  | .dropSenders => andThen [] { s with handleDropped := true }

/-- The methods the application calls; `drop` drops the handle. -/
inductive Method
  | pollRead (size : Nat)
  | pollWrite (buf : Bytes)
  | pollShutdown
  | closeWrite
  | resetWrite (code : ErrorCode)
  | cancelRead (code : ErrorCode)
  | close
  | closeWithError (code : ErrorCode)
  | drop

/-- The sections a method begins with. -/
def Method.sections : Method → List StreamSection
  | .pollRead size => [.pollRead size]
  | .pollWrite buf => [.pollWrite buf]
  | .pollShutdown => [.pollShutdown]
  | .closeWrite => [.closeWrite]
  | .resetWrite code => [.resetWrite code]
  | .cancelRead code => [.cancelRead code]
  | .close => [.closeWrite, .cancelRead .closed]
  | .closeWithError code => [.resetWrite code, .cancelRead code]
  | .drop => [.dropGrant]

/-- What can happen next: a task runs a section, the application acts on the handle, or the
transport or the connection acts. -/
inductive Label
  | run (thread : Nat)
  | call (method : Method)
  /-- The application drops a future that waits for room in the DATA queue. -/
  | dropFuture
  /-- The channel opens. -/
  | channelOpen
  /-- A message arrives; the read loop has handled the ones before it. -/
  | message (data : Bytes)
  /-- The channel is closed, by the peer or after our own `close`; the read loop ends. -/
  | channelClosed
  /-- The transport sent, or queued, buffered bytes. -/
  | buffered (amount : Nat)
  /-- Other streams and the control channel moved the connection's credit. -/
  | credit (flow : ConnFlow)
  /-- The connection begins its teardown. -/
  | teardown

abbrev Tasks := Threads WebrtcStream StreamSection

/-- A new stream: its read loop, its writer task and the application. -/
def start (flow : ConnFlow) (peerInitiated isOpen : Bool) : Tasks where
  shared := .new flow peerInitiated isOpen
  pool := [[], [.writerOpen], []]

/-- Change the shared state only. -/
def touch (t : Tasks) (s : WebrtcStream) : Tasks := { t with shared := s }

def step (t : Tasks) : Label → Option Tasks
  | .run thread => t.advance exec thread
  | .call method => if t.shared.handleDropped then none else t.resume 2 method.sections
  | .dropFuture =>
    match t.pool[2]? with
    | some (StreamSection.sendFin :: _) => some { t with pool := t.pool.set 2 [] }
    | _ => none
  | .channelOpen =>
    if t.shared.dc.readyState = .connecting then
      some ((touch t { t.shared with dc := { t.shared.dc with readyState := .opened } }).start
        [.onOpen])
    else none
  | .message data =>
    if t.shared.dc.readyState = .opened ∨ t.shared.dc.readyState = .closing then
      t.resume 0 [.onFrame data]
    else none
  | .channelClosed =>
    if t.shared.dc.readyState = .closed then none
    else
      (touch t { t.shared with dc := { t.shared.dc with readyState := .closed } }).resume 0
        [.onChannelClose]
  | .buffered amount =>
    some (touch t { t.shared with dc := { t.shared.dc with bufferedAmount := amount } })
  | .credit flow => some (touch t { t.shared with flow })
  | .teardown => some (touch t { t.shared with isTeardown := true })

end WebrtcStream

end Kps.Rust
