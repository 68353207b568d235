/-
**The credit engine of the Rust crate** (`flow.rs`).

`ConnFlow` holds the counters of a connection and of its streams, in `u64`; every addition and
subtraction is recorded by `Traced` when it wraps. A method is one critical section of the mutex,
and `poll_reserve` and `reserve_stream_slot` one pass. `wakers` are the wakers of blocked
`poll_reserve` calls, `notifies` counts the calls of `notify_waiters`, and `adverts` logs what is
queued for the control channel.
-/

import Kps.Lib.Table
import Kps.Lib.Word64
import Kps.Rust.Framing

namespace Kps.Rust

open Kps.Lib

structure StreamError where
  code : ErrorCode
  remote : Bool
  deriving DecidableEq, Repr

/-- The errors streams and credit waits return. -/
inductive Error
  | connClosed
  | streamClosed
  | writeClosed
  | stream (error : StreamError)
  deriving DecidableEq, Repr

/-- `FlowLimits`, as the engine computes with them. -/
structure FlowWindows where
  maxStreamData : UInt64
  maxData : UInt64
  maxStreams : UInt64
  deriving DecidableEq, Repr

/-- `DEFAULT_FLOW_LIMITS`. -/
def defaultFlowLimits : FlowWindows where
  maxStreamData := 1048576
  maxData := 8388608
  maxStreams := 100

def sat (v : UInt64) : UInt64 := min v (UInt64.ofNat maxOffset)

/-- The credit of one stream. -/
structure StreamState where
  sendSent : UInt64 := 0
  sendReserved : UInt64 := 0
  peerMaxExplicit : UInt64 := 0
  sendFailed : Bool := false
  localMax : UInt64
  received : UInt64 := 0
  consumed : UInt64 := 0
  advertisedAt : UInt64 := 0
  cancelled : Bool := false

/-- The credit of a connection, and of its streams. -/
structure ConnFlow where
  limits : FlowWindows
  failed : Option StreamError := none
  isFailed : Bool := false
  peerInitStreamData : UInt64 := 0
  peerMaxData : UInt64 := 0
  peerMaxStreams : UInt64 := 0
  connSent : UInt64 := 0
  connReserved : UInt64 := 0
  streamsOpened : UInt64 := 0
  streamsReserved : UInt64 := 0
  localMaxData : UInt64
  connReceived : UInt64 := 0
  connConsumed : UInt64 := 0
  connAdvertisedAt : UInt64 := 0
  peerOpenedStreams : UInt64 := 0
  peerRetiredStreams : UInt64 := 0
  advertisedMaxStreams : UInt64
  streams : Table UInt64 StreamState := Table.empty
  nextId : UInt64 := 0
  wakers : List UInt64 := []
  notifies : Nat := 0
  adverts : List Bytes := []

/-- The outcome of one pass of `poll_reserve`. -/
inductive ReserveResult
  | failed (error : Error)
  | granted (amount : UInt64) (flow : ConnFlow)
  | pending (flow : ConnFlow)

/-- The outcome of one pass of the loop in `reserve_stream_slot`. -/
inductive SlotResult
  | failed (error : Error)
  | reserved (flow : ConnFlow)
  | waiting

namespace ConnFlow

def new (limits : FlowWindows) : ConnFlow where
  limits
  localMaxData := limits.maxData
  advertisedMaxStreams := limits.maxStreams

def wakeLocked (f : ConnFlow) : ConnFlow := { f with wakers := [], notifies := f.notifies + 1 }

/-- The state of a stream is replaced. -/
def put (id : UInt64) (s : StreamState) (f : ConnFlow) : ConnFlow :=
  { f with streams := f.streams.insert id s }

def fail (error : Option StreamError) (f : ConnFlow) : ConnFlow :=
  if f.isFailed then f else { f with isFailed := true, failed := error }.wakeLocked

def failure (f : ConnFlow) : Error :=
  match f.failed with
  | some error => .stream error
  | none => .connClosed

def onPeerHello (l : FlowWindows) (f : ConnFlow) : ConnFlow :=
  { f with
    peerInitStreamData := l.maxStreamData
    peerMaxData := l.maxData
    peerMaxStreams := l.maxStreams }.wakeLocked

def onPeerMaxData (v : UInt64) (f : ConnFlow) : ConnFlow :=
  if v > f.peerMaxData then { f with peerMaxData := v }.wakeLocked else f

def onPeerMaxStreams (v : UInt64) (f : ConnFlow) : ConnFlow :=
  if v > f.peerMaxStreams then { f with peerMaxStreams := v }.wakeLocked else f

/-- The id of the new stream is the new `nextId`. -/
def newStream (f : ConnFlow) : Traced ConnFlow := do
  let nextId ← Word.add f.nextId 1
  pure { f with
    nextId
    streams := f.streams.insert nextId { localMax := f.limits.maxStreamData } }

def dropStream (id : UInt64) (f : ConnFlow) : Traced ConnFlow :=
  match f.streams id with
  | some s => do
    let connReserved ← Word.sub f.connReserved s.sendReserved
    pure { f with connReserved, streams := f.streams.erase id }.wakeLocked
  | none => pure f

/-- One pass of `poll_reserve`. The waker is that of the stream's writer. -/
def pollReserve (id want : UInt64) (f : ConnFlow) : Traced ReserveResult :=
  if f.isFailed then pure (.failed f.failure)
  else do
    let connUnsent ← Word.sub f.peerMaxData f.connSent
    let connAvail ← Word.sub connUnsent f.connReserved
    match f.streams id with
    | none => pure (.failed .streamClosed)
    | some s =>
      if s.sendFailed then pure (.failed .streamClosed)
      else
        let peerMax := max s.peerMaxExplicit f.peerInitStreamData
        let streamUnsent ← Word.sub peerMax s.sendSent
        let streamAvail ← Word.sub streamUnsent s.sendReserved
        let grant := min (min streamAvail connAvail) want
        if grant ≥ 1 then
          let sendReserved ← Word.add s.sendReserved grant
          let connReserved ← Word.add f.connReserved grant
          pure (.granted grant (put id { s with sendReserved } { f with connReserved }))
        else pure (.pending { f with wakers := f.wakers ++ [id] })

def commit (id n : UInt64) (f : ConnFlow) : Traced ConnFlow :=
  match f.streams id with
  | some s => do
    let sendReserved ← Word.sub s.sendReserved n
    let sendSent ← Word.add s.sendSent n
    let connReserved ← Word.sub f.connReserved n
    let connSent ← Word.add f.connSent n
    pure (put id { s with sendReserved, sendSent } { f with connReserved, connSent })
  | none => pure f

def release (id n : UInt64) (f : ConnFlow) : Traced ConnFlow :=
  match f.streams id with
  | some s => do
    let sendReserved ← Word.sub s.sendReserved n
    let connReserved ← Word.sub f.connReserved n
    pure (put id { s with sendReserved } { f with connReserved }).wakeLocked
  | none => pure f.wakeLocked

def failSend (id : UInt64) (f : ConnFlow) : ConnFlow :=
  match f.streams id with
  | some s => if s.sendFailed then f else (f.put id { s with sendFailed := true }).wakeLocked
  | none => f

def onPeerMaxStreamData (id v : UInt64) (f : ConnFlow) : ConnFlow :=
  match f.streams id with
  | some s =>
    if v > s.peerMaxExplicit then (f.put id { s with peerMaxExplicit := v }).wakeLocked else f
  | none => f

/-- One pass of `reserve_stream_slot`. -/
def reserveStreamSlot (f : ConnFlow) : Traced SlotResult :=
  if f.isFailed then pure (.failed f.failure)
  else do
    let used ← Word.add f.streamsOpened f.streamsReserved
    if used < f.peerMaxStreams then
      let streamsReserved ← Word.add f.streamsReserved 1
      pure (.reserved { f with streamsReserved })
    else pure .waiting

def commitStreamSlot (f : ConnFlow) : Traced ConnFlow := do
  let streamsReserved ← Word.sub f.streamsReserved 1
  let streamsOpened ← Word.add f.streamsOpened 1
  pure { f with streamsReserved, streamsOpened }

def releaseStreamSlot (f : ConnFlow) : Traced ConnFlow := do
  let streamsReserved ← Word.sub f.streamsReserved 1
  pure { f with streamsReserved }.wakeLocked

def onDataReceived (id n : UInt64) (f : ConnFlow) : Traced (Except String ConnFlow) :=
  match f.streams id with
  | none => pure (.ok f)
  | some s => do
    let received ← Word.add s.received n
    if received > s.localMax then pure (.error "peer exceeded MAX_STREAM_DATA")
    else
      let connReceived ← Word.add f.connReceived n
      if connReceived > f.localMaxData then pure (.error "peer exceeded MAX_DATA")
      else pure (.ok (put id { s with received } { f with connReceived }))

/-- The first half of `on_consumed`: the stream's counters, and `stream_adv`. -/
def streamConsumed (id n : UInt64) (f : ConnFlow) : Traced (ConnFlow × Option UInt64) :=
  match f.streams id with
  | none => pure (f, none)
  | some s => do
    let consumed ← Word.add s.consumed n
    if s.cancelled then pure (f.put id { s with consumed }, none)
    else
      let unadvertised ← Word.sub consumed s.advertisedAt
      if unadvertised ≥ f.limits.maxStreamData / 2 then
        let raised ← Word.add consumed f.limits.maxStreamData
        pure (f.put id { s with consumed, advertisedAt := consumed, localMax := sat raised },
          some (sat raised))
      else pure (f.put id { s with consumed }, none)

/-- The second half of `on_consumed`: the connection's counters. -/
def connConsume (n : UInt64) (f : ConnFlow) : Traced ConnFlow := do
  let connConsumed ← Word.add f.connConsumed n
  let unadvertised ← Word.sub connConsumed f.connAdvertisedAt
  if unadvertised ≥ f.limits.maxData / 2 then
    let raised ← Word.add connConsumed f.limits.maxData
    pure { f with
      connConsumed
      connAdvertisedAt := connConsumed
      localMaxData := sat raised
      adverts := f.adverts ++ [encodeMaxData (sat raised).toNat] }
  else pure { f with connConsumed }

/-- `on_consumed`, with the stream-level advertisement that is due. -/
def onConsumed (id n : UInt64) (f : ConnFlow) : Traced (ConnFlow × Option UInt64) := do
  let (f, streamAdv) ← f.streamConsumed id n
  let f ← f.connConsume n
  pure (f, streamAdv)

def markCancelled (id : UInt64) (f : ConnFlow) : ConnFlow :=
  match f.streams id with
  | some s => f.put id { s with cancelled := true }
  | none => f

def peerStreamOpened (f : ConnFlow) : Traced (Except String ConnFlow) :=
  if f.peerOpenedStreams ≥ f.advertisedMaxStreams then pure (.error "peer exceeded MAX_STREAMS")
  else do
    let peerOpenedStreams ← Word.add f.peerOpenedStreams 1
    pure (.ok { f with peerOpenedStreams })

def peerStreamRetired (f : ConnFlow) : Traced ConnFlow := do
  let peerRetiredStreams ← Word.add f.peerRetiredStreams 1
  let slots ← Word.add f.limits.maxStreams peerRetiredStreams
  pure { f with
    peerRetiredStreams
    advertisedMaxStreams := sat slots
    adverts := f.adverts ++ [encodeMaxStreams (sat slots).toNat] }

end ConnFlow

end Kps.Rust
