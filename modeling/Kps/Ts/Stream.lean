/-
**The stream engine** (`stream-core.ts`).

A `KpsStream` is one stream object: its channel end, its credit, the receive buffer, the lifecycle
flags of both halves, and the WHATWG `readable` and `writable` built over it. The methods act on a
`StreamCtx`: the stream together with what it shares with its connection, the credit engine and the
control channel on which the connection's credit is advertised.

A method that suspends is cut at its suspension points: a `WriteCall` records where a `#writeChunk`
is, and `Readable.pulling` whether a `pull` is waiting. `hooks.fatal` and `hooks.retired` belong to
the connection: `handleFrame` returns the violation and `maybeRetire` whether the stream retired.
-/

import Kps.Ts.Flow

namespace Kps.Ts

open Kps.Lib

/-- The level at which frames are no longer handed to the transport. -/
def localSendBufferLow : Nat := 1048576

inductive Terminal
  | fin
  | reset
  deriving DecidableEq, Repr

/-- What `closed` reports, of a stream and of a connection. -/
structure CloseInfo where
  ok : Bool
  reason : Option KpsReason := none
  deriving DecidableEq, Repr

/-- The promise `opened` of a stream. -/
inductive OpenState
  | pending
  | resolved
  | rejected (error : KpsError)
  deriving DecidableEq, Repr

/-- The state of a `ReadableStream`. -/
inductive ReadableState
  | readable
  /-- `controller.close()` was called: the reader sees EOF. -/
  | closed
  | errored (error : KpsError)
  /-- The consumer itself called `cancel`, after which a `ReadableStream` answers `done`. -/
  | cancelled
  deriving DecidableEq, Repr

/-- The `ReadableStream` of a stream: its state, the chunks handed to the reader in order, and the
ticket of a `pull` that waits for `readWake`. -/
structure Readable where
  state : ReadableState := .readable
  enqueued : List Bytes := []
  pulling : Option Nat := none

/-- Where a `#writeChunk` is suspended. -/
inductive WritePc
  /-- In `reserve`, waiting for credit with a ticket. -/
  | credit (ticket : Nat)
  /-- After `reserve`, holding `amount` bytes of credit. -/
  | granted (amount : Nat)
  /-- In `#drainLocal`, waiting for the send queue with a ticket. -/
  | draining (amount : Nat) (ticket : Nat)
  /-- After `#drainLocal`. -/
  | drained (amount : Nat)
  deriving DecidableEq, Repr

/-- The credit a suspended call holds. -/
def WritePc.grant : WritePc → Option Nat
  | credit _ => none
  | granted amount => some amount
  | draining amount _ => some amount
  | drained amount => some amount

/-- A `#writeChunk` in progress. -/
structure WriteCall where
  chunk : Bytes
  off : Nat
  pc : WritePc

/-- The `WritableStream` of a stream. It runs one `#writeChunk` at a time, and none after one has
rejected. `written` is the history of the chunks handed to `#writeChunk`, `resolved` of those whose
write resolved. -/
structure Writable where
  call : Option WriteCall := none
  errored : Option KpsError := none
  written : List Bytes := []
  resolved : List Bytes := []

/-- One stream object. `accepted` is the history of the frames accepted from the peer. -/
structure KpsStream where
  peerInitiated : Bool := false
  ch : Channel Frame := {}
  sf : StreamFlow
  accepted : List Frame := []
  inbuf : List Bytes := []
  peerFin : Bool := false
  peerReset : Option KpsReason := none
  peerStop : Option KpsReason := none
  localTerminal : Option Terminal := none
  readCancelled : Bool := false
  readError : Option KpsReason := none
  channelClosed : Bool := false
  retiredFired : Bool := false
  readWake : Wakeable := {}
  drainWake : Wakeable := {}
  closeInfo : Option CloseInfo := none
  openState : OpenState := .pending
  readable : Readable := {}
  writable : Writable := {}
  /-- `openStream` was aborted: once `opened` resolves the stream is reset and cancelled. -/
  abandoned : Bool := false

/-- A stream, with what it shares with its connection. -/
structure StreamCtx where
  flow : ConnFlow
  control : Channel ControlMsg
  s : KpsStream

/-- What a pass of the loop in `pull` finds. -/
inductive PullOutcome
  | error (error : KpsError)
  | chunk (chunk : Bytes) (rest : List Bytes)
  | eof
  | wait

/-- What a frame leads to: `hooks.fatal` with a text, or a new state, after which `#maybeRetire`
runs when the flag is set. -/
inductive FrameResult
  | violation (text : String)
  | done (x : StreamCtx) (retire : Bool)

def byteCount (chunks : List Bytes) : Nat := (chunks.map List.length).sum

@[simp] theorem byteCount_nil : byteCount [] = 0 := rfl

@[simp] theorem byteCount_append (first second : List Bytes) :
    byteCount (first ++ second) = byteCount first + byteCount second := by
  simp [byteCount]

@[simp] theorem byteCount_singleton (chunk : Bytes) : byteCount [chunk] = chunk.length := by
  simp [byteCount]

namespace KpsStream

/-- Both write halves ended with a terminal frame. -/
def wireComplete (s : KpsStream) : Bool :=
  s.localTerminal.isSome && (s.peerFin || s.peerReset.isSome)

def settle (info : CloseInfo) (s : KpsStream) : KpsStream :=
  if s.closeInfo.isSome then s else { s with closeInfo := some info }

def settleOpen (error : Option KpsError) (s : KpsStream) : KpsStream :=
  match s.openState, error with
  | .pending, none => { s with openState := .resolved }
  | .pending, some error => { s with openState := .rejected error }
  | _, _ => s

def checkWritable (s : KpsStream) : Option KpsError :=
  match s.peerStop with
  | some reason => some (streamError reason)
  | none =>
    if s.localTerminal.isSome then
      some (streamError { code := some .closed, message := some "kps: write half closed" })
    else if s.channelClosed || !s.ch.isOpen then some { message := "kps: stream is closed" }
    else none

/-- One pass of the loop in `pull`. -/
def pullOutcome (s : KpsStream) : PullOutcome :=
  if s.readCancelled then
    .error (streamError (s.readError.getD { code := some .cancelled }))
  else
    match s.inbuf with
    | chunk :: rest => .chunk chunk rest
    | [] =>
      match s.peerReset with
      | some reason => .error (streamError reason)
      | none =>
        if s.peerFin then .eof
        else if s.channelClosed then
          .error (streamError { code := some .networkError, message := some "kps: stream closed" })
        else .wait

def wakeReader (s : KpsStream) : KpsStream := { s with readWake := s.readWake.wake }

def wakeDrain (s : KpsStream) : KpsStream := { s with drainWake := s.drainWake.wake }

/-- The `error` event of the channel. -/
def onError (text : String) (s : KpsStream) : KpsStream :=
  (((s.settle
    { ok := false, reason := some { code := some .networkError, message := some text } }).settleOpen
      (some { message := "kps: stream failed: " ++ text })).wakeReader).wakeDrain

end KpsStream

namespace StreamCtx

/-- `if (this.#ch.isOpen()) this.#ch.send(frame)`. -/
def sendIfOpen (frame : Frame) (x : StreamCtx) : StreamCtx :=
  { x with s := { x.s with ch := x.s.ch.sendIfOpen frame } }

/-- The sink of the connection's credit, `#trySendControl`. -/
def trySendControl (message : ControlMsg) (x : StreamCtx) : StreamCtx :=
  { x with control := x.control.sendIfOpen message }

/-- The stream's part of `onConsumed`, with its advertisement. -/
def streamConsumed (n : Nat) (x : StreamCtx) : StreamCtx :=
  match x.s.sf.streamConsumed x.flow.localLimits n with
  | (sf, none) => { x with s := { x.s with sf } }
  | (sf, some v) => { x with s := { x.s with sf } }.sendIfOpen (.maxStreamData (asUint64 v))

/-- The connection's part of `onConsumed`, with its advertisement. -/
def connConsumed (n : Nat) (x : StreamCtx) : StreamCtx :=
  match x.flow.connDataConsumed n with
  | (flow, none) => { x with flow }
  | (flow, some v) => { x with flow }.trySendControl (.maxData (asUint64 v))

/-- `n` bytes were read or discarded. -/
def onConsumed (n : Nat) (x : StreamCtx) : StreamCtx := (x.streamConsumed n).connConsumed n

def failSend (error : KpsError) (x : StreamCtx) : StreamCtx :=
  let (flow, sf) := x.s.sf.failSend error x.flow
  { x with flow, s := { x.s with sf } }

def discardInbuf (x : StreamCtx) : StreamCtx :=
  match x.s.inbuf with
  | [] => x
  | chunks => { x with s := { x.s with inbuf := [] } }.onConsumed (byteCount chunks)

/-! ### Inbound -/

/-- The body of `#onFrame` after parsing. -/
def handleFrame (frame : Frame) (x : StreamCtx) : FrameResult :=
  let x' : StreamCtx := { x with s := { x.s with accepted := x.s.accepted ++ [frame] } }
  match frame with
  | .data payload =>
    if x.s.peerFin || x.s.peerReset.isSome then .violation "DATA after terminal frame"
    else
      match x.s.sf.onDataReceived payload.length x.flow with
      | .error text => .violation text
      | .ok (flow, sf) =>
        let x' : StreamCtx := { x' with flow, s := { x'.s with sf } }
        if x.s.readCancelled then .done (x'.onConsumed payload.length) false
        else
          .done { x' with s := { x'.s with inbuf := x'.s.inbuf ++ [payload] }.wakeReader } false
  | .fin =>
    if x.s.peerFin || x.s.peerReset.isSome then .violation "second terminal frame"
    else .done { x' with s := { x'.s with peerFin := true }.wakeReader } true
  | .reset code =>
    if x.s.peerFin || x.s.peerReset.isSome then .violation "second terminal frame"
    else
      let reason : KpsReason := { code := some ((numToCode code).getD .reset) }
      let x' := { x' with s := { x'.s with peerReset := some reason } }.discardInbuf
      .done { x' with s := x'.s.wakeReader } true
  | .stopSending code =>
    if x.s.peerStop.isSome then .done x' false
    else
      let reason : KpsReason := { code := some ((numToCode code).getD .cancelled) }
      let x' := { x' with s := { x'.s with peerStop := some reason } }.failSend (streamError reason)
      if x.s.localTerminal.isSome then .done x' false
      else
        -- No terminal frame yet: reply with RESET.
        .done ({ x' with s := { x'.s with localTerminal := some .reset } }.sendIfOpen
          (.reset code)) true
  | .maxStreamData value =>
    let (flow, sf) := x.s.sf.onPeerMaxStreamData value x.flow
    .done { x' with flow, s := { x'.s with sf } } false

/-- The part of `#onChannelClose` after the close policing. -/
def channelLost (x : StreamCtx) : StreamCtx :=
  let x := x.failSend
    (streamError { code := some .networkError, message := some "kps: stream closed" })
  { x with s := (((x.s.settleOpen (some { message := "kps: stream closed before opening" })).settle
      { ok := !x.s.peerReset.isSome, reason := x.s.peerReset }).wakeReader).wakeDrain }

/-! ### Writing -/

def rejectWrite (error : KpsError) (x : StreamCtx) : StreamCtx :=
  { x with s := { x.s with writable := { x.s.writable with call := none, errored := some error } } }

def resolveWrite (chunk : Bytes) (x : StreamCtx) : StreamCtx :=
  { x with s := { x.s with writable := { x.s.writable with
      call := none
      resolved := x.s.writable.resolved ++ [chunk] } } }

def suspendWrite (call : WriteCall) (x : StreamCtx) : StreamCtx :=
  { x with s := { x.s with writable := { x.s.writable with call := some call } } }

/-- One pass of the loop in `reserve`, for the bytes from `off` on. -/
def reserveStep (chunk : Bytes) (off : Nat) (x : StreamCtx) : StreamCtx :=
  match x.flow.reserveData x.s.sf (min (chunk.length - off) maxFramePayload : Nat) with
  | .failed error => x.rejectWrite error
  | .granted amount flow sf =>
    { x with flow, s := { x.s with sf } }.suspendWrite ⟨chunk, off, .granted amount.toNat⟩
  | .blocked => x.suspendWrite ⟨chunk, off, .credit x.flow.credit.wait⟩

/-- The head of the loop in `#writeChunk`. -/
def writeLoop (chunk : Bytes) (off : Nat) (x : StreamCtx) : StreamCtx :=
  if off < chunk.length then
    match x.s.checkWritable with
    | some error => x.rejectWrite error
    | none => x.reserveStep chunk off
  else x.resolveWrite chunk

/-- The head of the loop in `#drainLocal`. -/
def drainLocal (chunk : Bytes) (off amount : Nat) (x : StreamCtx) : StreamCtx :=
  if x.s.ch.isOpen && decide (x.s.ch.bufferedAmount ≥ localSendBufferLow) then
    x.suspendWrite ⟨chunk, off, .draining amount x.s.drainWake.wait⟩
  else x.suspendWrite ⟨chunk, off, .drained amount⟩

/-- A reserved frame was discarded. -/
def release (n : Nat) (x : StreamCtx) : StreamCtx :=
  { x with flow := x.flow.releaseData n, s := { x.s with sf := x.s.sf.release n } }

/-- Bytes were passed to the transport. -/
def commit (n : Nat) (x : StreamCtx) : StreamCtx :=
  { x with flow := x.flow.commitData n, s := { x.s with sf := x.s.sf.commit n } }

/-- Hand over the frame of a grant and go on with the loop. -/
def sendChunk (chunk : Bytes) (off amount : Nat) (x : StreamCtx) : StreamCtx :=
  match x.s.checkWritable with
  | some error => (x.release amount).rejectWrite error
  | none =>
    match x.s.ch.send (.data ((chunk.drop off).take amount)) with
    | none => (x.release amount).rejectWrite { message := "channel not open" }
    | some ch => ({ x with s := { x.s with ch } }.commit amount).writeLoop chunk (off + amount)

/-- The writer hands a chunk to `#writeChunk`. -/
def writeChunk (chunk : Bytes) (x : StreamCtx) : StreamCtx :=
  if x.s.writable.call.isSome || x.s.writable.errored.isSome then x
  else
    { x with s := { x.s with
        writable := { x.s.writable with
          written := x.s.writable.written ++ [chunk] } } }.writeLoop chunk 0

/-- A suspended `#writeChunk` continues, if what it waits for has come. -/
def writeResume (x : StreamCtx) : StreamCtx :=
  match x.s.writable.call with
  | none => x
  | some ⟨chunk, off, .credit ticket⟩ =>
    if x.flow.credit.resolved ticket then x.reserveStep chunk off else x
  | some ⟨chunk, off, .granted amount⟩ => x.drainLocal chunk off amount
  | some ⟨chunk, off, .draining amount ticket⟩ =>
    if x.s.drainWake.resolved ticket then x.drainLocal chunk off amount else x
  | some ⟨chunk, off, .drained amount⟩ => x.sendChunk chunk off amount

/-! ### Reading -/

/-- Hand a chunk to the reader: the pull fulfils a pending read, which is consumption. -/
def deliverChunk (chunk : Bytes) (rest : List Bytes) (x : StreamCtx) : StreamCtx :=
  { x with s := { x.s with
      inbuf := rest
      readable := { x.s.readable with
        enqueued := x.s.readable.enqueued ++ [chunk]
        pulling := none } } }.onConsumed chunk.length

/-- `controller.close()` or `controller.error()`, which only act on a readable stream. -/
def endRead (state : ReadableState) (x : StreamCtx) : StreamCtx :=
  { x with s := { x.s with
      readable := { x.s.readable with
        state := if x.s.readable.state = .readable then state else x.s.readable.state
        pulling := none } } }

def parkRead (x : StreamCtx) : StreamCtx :=
  { x with s := { x.s with
      readable := { x.s.readable with pulling := some x.s.readWake.wait } } }

/-- One pass of the loop in `pull`; the flag says that `#maybeRetire` runs. -/
def pull (x : StreamCtx) : StreamCtx × Bool :=
  match x.s.pullOutcome with
  | .error error => (x.endRead (.errored error), false)
  | .chunk chunk rest => (x.deliverChunk chunk rest, true)
  | .eof => (x.endRead .closed, false)
  | .wait => (x.parkRead, false)

/-- A read pulls unless the stream has ended or a `pull` is waiting. -/
def read (x : StreamCtx) : StreamCtx × Bool :=
  if x.s.readable.state = .readable ∧ x.s.readable.pulling = none then x.pull else (x, false)

/-- A waiting `pull` continues, if the reader was woken. -/
def readResume (x : StreamCtx) : StreamCtx × Bool :=
  match x.s.readable.pulling with
  | none => (x, false)
  | some ticket => if x.s.readWake.resolved ticket then x.pull else (x, false)

/-! ### Lifecycle -/

/-- End the write half: mark it, fail its reservations, send the terminal frame. -/
def endWrite (terminal : Terminal) (error : KpsError) (frame : Frame) (x : StreamCtx) : StreamCtx :=
  ({ x with s := { x.s with localTerminal := some terminal } }.failSend error).sendIfOpen frame

/-- `closeWrite` on an open write half. -/
def closeWrite (x : StreamCtx) : StreamCtx :=
  x.endWrite .fin (streamError { code := some .closed, message := some "kps: write half closed" })
    .fin

/-- `resetWrite` on an open write half. -/
def resetWrite (reason : Option KpsReason) (x : StreamCtx) : StreamCtx :=
  x.endWrite .reset (streamError (reason.getD { code := some .reset }))
    (.reset (codeToNum (some ((reason.bind KpsReason.code).getD .reset))))

/-- `cancelRead` on an uncancelled read half. -/
def cancelRead (reason : Option KpsReason) (x : StreamCtx) : StreamCtx :=
  let x := { x with s := { x.s with
    readCancelled := true
    readError := some (reason.getD { code := some .cancelled })
    sf := x.s.sf.markCancelled } }.discardInbuf
  let x := if !x.s.peerFin && !x.s.peerReset.isSome then
      x.sendIfOpen (.stopSending (codeToNum (some ((reason.bind KpsReason.code).getD .cancelled))))
    else x
  { x with s := x.s.wakeReader }

/-- Connection teardown: discard state and fail waiters. -/
def destroy (reason : Option KpsReason) (x : StreamCtx) : StreamCtx :=
  let x := x.discardInbuf
  let error : KpsReason :=
    reason.getD { code := some .closed, message := some "kps: connection closed" }
  let x := { x with s := { x.s with
    readCancelled := true
    readError := some error } }.failSend (streamError error)
  let info : CloseInfo := match reason with
    | some reason => { ok := false, reason := some reason }
    | none => { ok := true }
  { x with s := (((x.s.settleOpen (some { message := "kps: connection closed" })).settle
      info).wakeReader).wakeDrain }

/-- `#maybeRetire`: close the channel of a wire-complete drained stream, and once it has closed
retire; the flag says that `hooks.retired` fires. -/
def maybeRetire (x : StreamCtx) : StreamCtx × Bool :=
  if !x.s.wireComplete then (x, false)
  else if !x.s.inbuf.isEmpty then (x, false)
  else if !x.s.channelClosed then ({ x with s := { x.s with ch := x.s.ch.close } }, false)
  else if !x.s.retiredFired then ({ x with s := { x.s with retiredFired := true } }, true)
  else (x, false)

end StreamCtx

end Kps.Ts
