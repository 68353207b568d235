/-
**A stream of the Go module** (`webrtcStream` of `stream.go`).

Each method is a sequence of sections: one under `s.mu` or the connection's mutex, or one call of
the data channel. Goroutines interleave between sections. `StreamSection` names them, and `exec`
says what one does and what its goroutine does next; a section that waits is not enabled until it
can go on. Thread `0` is the goroutine that delivers the channel's messages, one after the other.

`DataChannel.calls` logs the frames accepted by `dc.Send` and the calls of `dc.Close`, in order.
-/

import Kps.Go.Flow
import Kps.Lib.Run
import Kps.Lib.Threads

namespace Kps.Go

open Kps.Lib

/-- The errors a stream returns; `stream` is a `*StreamError`. -/
inductive StreamFailure
  | writeClosed
  | streamClosed
  | connClosed
  | closedPipe
  | stream (code : ErrorCode) (remote : Bool)
  deriving DecidableEq, Repr

inductive TerminalKind
  | terminalNone
  | terminalFin
  | terminalReset
  deriving DecidableEq, Repr

inductive ReadyState
  | connecting
  | opened
  | closing
  | closed
  deriving DecidableEq, Repr

/-- The frame that ends the local write half. -/
inductive Terminal
  | fin
  | reset (code : ErrorCode)
  deriving DecidableEq, Repr

def Terminal.frame : Terminal → Wire.Frame
  | fin => .fin
  | reset code => .reset code

/-- A call of the data channel. -/
inductive Call
  | send (frame : Wire.Frame)
  | close
  deriving DecidableEq, Repr

structure DataChannel where
  readyState : ReadyState
  bufferedAmount : Nat := 0
  calls : List Call := []

namespace DataChannel

/-- `Send` fails unless the channel is open. -/
def send (frame : Wire.Frame) (dc : DataChannel) : Option DataChannel :=
  if dc.readyState = .opened then some { dc with calls := dc.calls ++ [.send frame] } else none

/-- The `Send` whose error is ignored. -/
def trySend (frame : Wire.Frame) (dc : DataChannel) : DataChannel := (dc.send frame).getD dc

def close (dc : DataChannel) : DataChannel :=
  { dc with
    calls := dc.calls ++ [.close]
    readyState := if dc.readyState = .closed then .closed else .closing }

end DataChannel

inductive ReadResult
  | bytes (data : Bytes)
  | eof
  | error (failure : StreamFailure)
  deriving DecidableEq, Repr

/-- `writeBufferLowThreshold`. -/
def writeBufferLowThreshold : Nat := 1048576

/-- `webrtcStream`, with the credit of its connection. `fatals` and `retired` log the calls of the
hooks, `isTeardown` is what that hook answers, and `reads` and `writes` log what the methods
return. -/
structure WebrtcStream where
  dc : DataChannel
  flow : ConnFlow StreamFailure
  sf : StreamFlow StreamFailure
  inbuf : Bytes := []
  peerFin : Bool := false
  peerReset : Option ErrorCode := none
  peerStop : Option ErrorCode := none
  localTerminal : TerminalKind := .terminalNone
  readCancel : Bool := false
  dcClosed : Bool := false
  retiredFired : Bool := false
  openCh : Bool
  closedCh : Bool := false
  isTeardown : Bool := false
  fatals : List (ErrorCode × String) := []
  retired : Nat := 0
  sentMaxData : List UInt64 := []
  reads : List ReadResult := []
  writes : List (Nat × Option StreamFailure) := []

/-- `newStream`, on a channel that is open already or not yet. -/
def WebrtcStream.new (limits : FlowWindows) (isOpen : Bool) : WebrtcStream where
  dc := { readyState := if isOpen then .opened else .connecting }
  flow := .new limits
  sf := (ConnFlow.new limits).newStream
  openCh := isOpen

inductive StreamSection
  | onFrame (data : Bytes)
  | onDataReceived (payload : Bytes) (cancelled : Bool)
  | appendData (payload : Bytes)
  | fatal (code : ErrorCode) (text : String)
  | failSend (failure : StreamFailure)
  | sendResetIfOpen (code : ErrorCode)
  | write (p : Bytes)
  | writeLoop (p : Bytes) (written : Nat)
  | sendReserved (chunk rest : Bytes) (written : Nat)
  | sendData (chunk rest : Bytes) (written : Nat)
  | commit (n : UInt64)
  | release (n : UInt64)
  | closeWrite
  | resetWrite (code : ErrorCode)
  | waitOpen (terminal : Terminal)
  | sendTerminal (terminal : Terminal)
  | cancelRead (code : ErrorCode)
  | markCancelled
  | onConsumed (n : UInt64)
  | sendMaxStreamData (v : UInt64)
  | sendMaxData (v : UInt64)
  | waitOpenStop (code : ErrorCode)
  | sendStop (code : ErrorCode)
  | read (size : Nat)
  | maybeRetire
  | dcClose
  | retired
  | onChannelClose
  | policeClose (wireComplete : Bool)
  | closeOpenCh
  | closeClosedCh
  | destroy
  deriving DecidableEq, Repr

namespace WebrtcStream

abbrev Done := Option (Effect WebrtcStream StreamSection)

/-- The section is over, and its goroutine goes on with `next`. -/
def andThen (next : List StreamSection) (s : WebrtcStream) : Done := some { shared := s, next }

/-- The peer's terminal frame was received. -/
def peerEnded (s : WebrtcStream) : Bool := s.peerFin || s.peerReset.isSome

def wireComplete (s : WebrtcStream) : Bool :=
  decide (s.localTerminal ≠ .terminalNone) && s.peerEnded

/-- A consumption of zero bytes is not counted. -/
def consumed (n : Nat) : List StreamSection := if n > 0 then [.onConsumed (UInt64.ofNat n)] else []

/-- The first section of `onFrame`, under `s.mu` where the frame needs it. -/
def onFrame (data : Bytes) (s : WebrtcStream) : Done :=
  match parseFrame data with
  | .error text => s.andThen [.fatal codeProtocolError text]
  | .ok f =>
    match f.typ with
    | .frameData =>
      if s.peerEnded then s.andThen [.fatal codeProtocolError "DATA after terminal frame"]
      else s.andThen [.onDataReceived f.payload s.readCancel]
    | .frameFin =>
      if s.peerEnded then s.andThen [.fatal codeProtocolError "second terminal frame"]
      else andThen [.maybeRetire] { s with peerFin := true }
    | .frameReset =>
      if s.peerEnded then s.andThen [.fatal codeProtocolError "second terminal frame"]
      else
        andThen (consumed s.inbuf.length ++ [.maybeRetire])
          { s with peerReset := some f.code, inbuf := [] }
    | .frameStopSending =>
      if s.peerStop.isSome then s.andThen []
      else
        let stopped := { s with peerStop := some f.code }
        if s.localTerminal = .terminalNone then
          andThen [.failSend (.stream f.code true), .sendResetIfOpen f.code, .maybeRetire]
            { stopped with localTerminal := .terminalReset }
        else stopped.andThen [.failSend (.stream f.code true)]
    | .frameMaxStreamData =>
      let (flow, sf) := s.sf.onPeerMaxStreamData (UInt64.ofNat f.credit) s.flow
      andThen [] { s with flow, sf }

/-- The section of `maybeRetire`, and the goroutine it starts. -/
def maybeRetire (s : WebrtcStream) : Done :=
  if s.wireComplete && s.inbuf.isEmpty then
    if s.dcClosed then
      if s.retiredFired then s.andThen [] else andThen [.retired] { s with retiredFired := true }
    else some { shared := s, started := [[.dcClose]] }
  else s.andThen []

/-- One pass of the loop of `Read`. -/
def read (size : Nat) (s : WebrtcStream) : Done :=
  if size = 0 then andThen [] { s with reads := s.reads ++ [.bytes []] }
  else if s.inbuf ≠ [] then
    let data := s.inbuf.take size
    andThen [.onConsumed (UInt64.ofNat data.length), .maybeRetire]
      { s with inbuf := s.inbuf.drop size, reads := s.reads ++ [.bytes data] }
  else if s.readCancel then andThen [] { s with reads := s.reads ++ [.error .streamClosed] }
  else
    match s.peerReset with
    | some code => andThen [] { s with reads := s.reads ++ [.error (.stream code true)] }
    | none =>
      if s.peerFin then andThen [] { s with reads := s.reads ++ [.eof] }
      else if s.dcClosed then andThen [] { s with reads := s.reads ++ [.error .streamClosed] }
      else none

/-- `Write` returns. -/
def returnWrite (written : Nat) (failure : Option StreamFailure) (s : WebrtcStream) :
    WebrtcStream :=
  { s with writes := s.writes ++ [(written, failure)] }

/-- `WaitOpen`: what it returns, once `openCh` is closed. -/
def waitOpen (s : WebrtcStream) : Option Bool :=
  if s.openCh then some (decide (s.dc.readyState = .opened)) else none

/-- The head of the loop in `Write`: it reserves credit for the next frame. -/
def writeLoop (p : Bytes) (written : Nat) (s : WebrtcStream) : Done :=
  if p = [] then (s.returnWrite written none).andThen []
  else
    match (s.flow.reserveData s.sf (UInt64.ofNat (min p.length maxFramePayload))).value with
    | .failed failure => (s.returnWrite written (some failure)).andThen []
    | .granted granted flow sf =>
      andThen [.sendReserved (p.take granted.toNat) (p.drop granted.toNat) written]
        { s with flow, sf }
    | .blocked => none

/-- The section of `sendReserved`: the checks before the frame is sent, and the wait for room. -/
def sendReserved (chunk rest : Bytes) (written : Nat) (s : WebrtcStream) : Done :=
  let give (failure : StreamFailure) : Done :=
    (s.returnWrite written (some failure)).andThen [.release (UInt64.ofNat chunk.length)]
  match s.peerStop with
  | some code => give (.stream code true)
  | none =>
    if s.localTerminal ≠ .terminalNone then give .writeClosed
    else if s.dcClosed then give .streamClosed
    else if s.dc.bufferedAmount < writeBufferLowThreshold then
      s.andThen [.sendData chunk rest written]
    else none

/-- A section of a goroutine. -/
def exec (s : WebrtcStream) : StreamSection → Done
  | .onFrame data => s.onFrame data
  | .onDataReceived payload cancelled =>
    match (s.sf.onDataReceived (UInt64.ofNat payload.length) s.flow).value with
    | .error text => s.andThen [.fatal codeProtocolError text]
    | .ok (flow, sf) =>
      andThen
        (if cancelled then [.onConsumed (UInt64.ofNat payload.length)] else [.appendData payload])
        { s with flow, sf }
  | .appendData payload => andThen [] { s with inbuf := s.inbuf ++ payload }
  | .fatal code text => andThen [] { s with fatals := s.fatals ++ [(code, text)] }
  | .failSend failure =>
    let (flow, sf) := s.sf.failSend failure s.flow
    andThen [] { s with flow, sf }
  | .sendResetIfOpen code => andThen [] { s with dc := s.dc.trySend (.reset code) }
  | .write p =>
    match s.waitOpen with
    | some true => s.andThen [.writeLoop p 0]
    | some false => (s.returnWrite 0 (some .streamClosed)).andThen []
    | none => none
  | .writeLoop p written => s.writeLoop p written
  | .sendReserved chunk rest written => s.sendReserved chunk rest written
  | .sendData chunk rest written =>
    let n := UInt64.ofNat chunk.length
    match s.dc.send (.data chunk) with
    | some dc => andThen [.commit n, .writeLoop rest (written + chunk.length)] { s with dc }
    | none => (s.returnWrite written (some .closedPipe)).andThen [.release n]
  | .commit n =>
    let (flow, sf) := (s.flow.commitData n s.sf).value
    andThen [] { s with flow, sf }
  | .release n =>
    let (flow, sf) := (s.flow.releaseData n s.sf).value
    andThen [] { s with flow, sf }
  | .closeWrite =>
    if s.localTerminal ≠ .terminalNone then s.andThen []
    else
      andThen [.failSend .writeClosed, .waitOpen .fin] { s with localTerminal := .terminalFin }
  | .resetWrite code =>
    if s.localTerminal ≠ .terminalNone then s.andThen []
    else
      andThen [.failSend (.stream code false), .waitOpen (.reset code)]
        { s with localTerminal := .terminalReset }
  | .waitOpen terminal =>
    match s.waitOpen with
    | some true => s.andThen [.sendTerminal terminal, .maybeRetire]
    | some false => s.andThen []
    | none => none
  | .sendTerminal terminal => andThen [] { s with dc := s.dc.trySend terminal.frame }
  | .cancelRead code =>
    if s.readCancel then s.andThen []
    else
      andThen ([.markCancelled] ++ consumed s.inbuf.length ++
          (if s.peerEnded then [] else [.waitOpenStop code]) ++ [.maybeRetire])
        { s with readCancel := true, inbuf := [] }
  | .markCancelled => andThen [] { s with sf := s.sf.markCancelled }
  | .onConsumed n =>
    let (flow, sf, streamAdv, connAdv) := (s.sf.onConsumed n s.flow).value
    andThen ((streamAdv.map StreamSection.sendMaxStreamData).toList ++
        (connAdv.map StreamSection.sendMaxData).toList) { s with flow, sf }
  | .sendMaxStreamData v => andThen [] { s with dc := s.dc.trySend (.maxStreamData v.toNat) }
  | .sendMaxData v => andThen [] { s with sentMaxData := s.sentMaxData ++ [v] }
  | .waitOpenStop code =>
    match s.waitOpen with
    | some true => s.andThen [.sendStop code]
    | some false => s.andThen []
    | none => none
  | .sendStop code => andThen [] { s with dc := s.dc.trySend (.stopSending code) }
  | .read size => s.read size
  | .maybeRetire => s.maybeRetire
  | .dcClose => andThen [] { s with dc := s.dc.close }
  | .retired => andThen [] { s with retired := s.retired + 1 }
  | .onChannelClose =>
    andThen [.policeClose s.wireComplete, .failSend .streamClosed,
      .closeOpenCh, .closeClosedCh, .maybeRetire] { s with dcClosed := true }
  | .policeClose wireComplete =>
    if !wireComplete && !s.isTeardown then
      s.andThen [.fatal codeProtocolError "data channel closed mid-stream"]
    else s.andThen []
  | .closeOpenCh => andThen [] { s with openCh := true }
  | .closeClosedCh => andThen [] { s with closedCh := true }
  | .destroy =>
    andThen (consumed s.inbuf.length ++ [.failSend .connClosed, .closeOpenCh, .closeClosedCh])
      { s with inbuf := [], readCancel := true }

/-- The methods the application calls. -/
inductive Method
  | write (p : Bytes)
  | closeWrite
  | resetWrite (code : ErrorCode)
  | cancelRead (code : ErrorCode)
  | read (size : Nat)
  | close
  | closeWithError (code : ErrorCode)

/-- The sections a method begins with. -/
def Method.sections : Method → List StreamSection
  | .write p => [.write p]
  | .closeWrite => [.closeWrite]
  | .resetWrite code => [.resetWrite code]
  | .cancelRead code => [.cancelRead code]
  | .read size => [.read size]
  | .close => [.closeWrite, .cancelRead codeClosed]
  | .closeWithError code => [.resetWrite code, .cancelRead code]

/-- What can happen next: a goroutine runs a section, the application calls a method, or the
transport or the connection acts. -/
inductive Label
  | run (thread : Nat)
  | call (method : Method)
  /-- The channel opens. -/
  | channelOpen
  /-- A message arrives; the channel's goroutine has handled the ones before it. -/
  | message (data : Bytes)
  /-- The channel is closed: by the peer, or after our own `Close`. -/
  | channelClosed
  /-- The transport sent, or queued, buffered bytes. -/
  | buffered (amount : Nat)
  /-- Other streams and the control channel moved the connection's credit. -/
  | credit (flow : ConnFlow StreamFailure)
  /-- The connection begins its teardown. -/
  | teardown
  /-- The connection destroys the stream. -/
  | destroy

abbrev Goroutines := Threads WebrtcStream StreamSection

/-- A new stream, with the idle goroutine of its channel. -/
def start (limits : FlowWindows) (isOpen : Bool) : Goroutines where
  shared := .new limits isOpen
  pool := [[]]

/-- Change the shared state only. -/
def touch (t : Goroutines) (s : WebrtcStream) : Goroutines := { t with shared := s }

def step (t : Goroutines) : Label → Option Goroutines
  | .run thread => t.advance exec thread
  | .call method => some (t.start method.sections)
  | .channelOpen =>
    if t.shared.dc.readyState = .connecting then
      some ((touch t { t.shared with dc := { t.shared.dc with readyState := .opened } }).start
        [.closeOpenCh])
    else none
  | .message data =>
    if t.shared.dc.readyState = .opened ∨ t.shared.dc.readyState = .closing then
      t.resume 0 [.onFrame data]
    else none
  | .channelClosed =>
    if t.shared.dc.readyState = .closed then none
    else
      some ((touch t { t.shared with dc := { t.shared.dc with readyState := .closed } }).start
        [.onChannelClose])
  | .buffered amount =>
    some (touch t { t.shared with dc := { t.shared.dc with bufferedAmount := amount } })
  | .credit flow => some (touch t { t.shared with flow })
  | .teardown => some (touch t { t.shared with isTeardown := true })
  | .destroy => if t.shared.isTeardown then some (t.start [.destroy]) else none

end WebrtcStream

end Kps.Go
