/-
**The credit engine of the Go module** (`flow.go`).

`ConnFlow` and `StreamFlow` with their counters in `uint64`; every addition and subtraction is
recorded by `Traced` when it wraps. A method is one critical section of the connection's mutex, and
a blocking method one pass of its loop. `wakes` counts the replacements of `wakeCh`. The error type
is a parameter: errors are only kept and returned.

A method that advertises credit returns the value it passes to its sender, outside the mutex.
-/

import Kps.Lib.Word64
import Kps.Go.Framing

namespace Kps.Go

open Kps.Lib

/-- `flowLimits`, as the engine computes with them. -/
structure FlowWindows where
  maxStreamData : UInt64
  maxData : UInt64
  maxStreams : UInt64
  deriving DecidableEq, Repr

def defaultFlowLimits : FlowWindows where
  maxStreamData := 1048576
  maxData := 8388608
  maxStreams := 100

def satOffset (v : UInt64) : UInt64 :=
  if v > UInt64.ofNat maxOffset then UInt64.ofNat maxOffset else v

variable {ε : Type}

/-- The credit of a connection. -/
structure ConnFlow (ε : Type) where
  wakes : Nat := 0
  failed : Option ε := none
  limits : FlowWindows
  peerInitStreamData : UInt64 := 0
  peerMaxData : UInt64 := 0
  peerMaxStreams : UInt64 := 0
  connSent : UInt64 := 0
  connReserved : UInt64 := 0
  streamsOpened : UInt64 := 0
  streamsReserved : UInt64 := 0
  localMaxData : UInt64
  connReceived : UInt64 := 0
  connConsumed : UInt64 := 0
  connAdvertisedAt : UInt64 := 0
  peerOpenedStreams : UInt64 := 0
  peerRetiredStreams : UInt64 := 0
  advertisedMaxStreams : UInt64

/-- The credit of one stream. -/
structure StreamFlow (ε : Type) where
  sendSent : UInt64 := 0
  sendReserved : UInt64 := 0
  peerMaxExplicit : UInt64 := 0
  sendFailure : Option ε := none
  localMax : UInt64
  received : UInt64 := 0
  consumed : UInt64 := 0
  advertisedAt : UInt64 := 0
  cancelled : Bool := false

/-- The outcome of one pass of the loop in `reserveData`. -/
inductive ReserveResult (ε : Type)
  | failed (error : ε)
  | granted (amount : UInt64) (flow : ConnFlow ε) (sf : StreamFlow ε)
  | blocked

/-- The outcome of one pass of the loop in `reserveStreamSlot`. -/
inductive SlotResult (ε : Type)
  | failed (error : ε)
  | reserved (flow : ConnFlow ε)
  | blocked

namespace ConnFlow

/-- `newConnFlow`. -/
def new (limits : FlowWindows) : ConnFlow ε where
  limits
  localMaxData := limits.maxData
  advertisedMaxStreams := limits.maxStreams

def wakeLocked (f : ConnFlow ε) : ConnFlow ε := { f with wakes := f.wakes + 1 }

def fail (error : ε) (f : ConnFlow ε) : ConnFlow ε :=
  if f.failed.isNone then { f with failed := some error }.wakeLocked else f

def onPeerHello (l : FlowWindows) (f : ConnFlow ε) : ConnFlow ε :=
  { f with
    peerInitStreamData := l.maxStreamData
    peerMaxData := l.maxData
    peerMaxStreams := l.maxStreams }.wakeLocked

def onPeerMaxData (v : UInt64) (f : ConnFlow ε) : ConnFlow ε :=
  if v > f.peerMaxData then { f with peerMaxData := v }.wakeLocked else f

def onPeerMaxStreams (v : UInt64) (f : ConnFlow ε) : ConnFlow ε :=
  if v > f.peerMaxStreams then { f with peerMaxStreams := v }.wakeLocked else f

def newStream (f : ConnFlow ε) : StreamFlow ε := { localMax := f.limits.maxStreamData }

/-- The effective window of the peer on a stream. -/
def peerMaxLocked (f : ConnFlow ε) (sf : StreamFlow ε) : UInt64 :=
  max sf.peerMaxExplicit f.peerInitStreamData

/-- One pass of `reserveData`. -/
def reserveData (f : ConnFlow ε) (sf : StreamFlow ε) (n : UInt64) : Traced (ReserveResult ε) :=
  match f.failed, sf.sendFailure with
  | some error, _ => pure (.failed error)
  | none, some error => pure (.failed error)
  | none, none => do
    let streamUnsent ← Word.sub (f.peerMaxLocked sf) sf.sendSent
    let streamAvail ← Word.sub streamUnsent sf.sendReserved
    let connUnsent ← Word.sub f.peerMaxData f.connSent
    let connAvail ← Word.sub connUnsent f.connReserved
    let grant := min (min streamAvail connAvail) n
    if grant ≥ 1 then
      let sendReserved ← Word.add sf.sendReserved grant
      let connReserved ← Word.add f.connReserved grant
      pure (.granted grant { f with connReserved } { sf with sendReserved })
    else pure .blocked

def commitData (n : UInt64) (f : ConnFlow ε) (sf : StreamFlow ε) :
    Traced (ConnFlow ε × StreamFlow ε) := do
  let sendReserved ← Word.sub sf.sendReserved n
  let sendSent ← Word.add sf.sendSent n
  let connReserved ← Word.sub f.connReserved n
  let connSent ← Word.add f.connSent n
  pure ({ f with connReserved, connSent }, { sf with sendReserved, sendSent })

def releaseData (n : UInt64) (f : ConnFlow ε) (sf : StreamFlow ε) :
    Traced (ConnFlow ε × StreamFlow ε) := do
  let sendReserved ← Word.sub sf.sendReserved n
  let connReserved ← Word.sub f.connReserved n
  pure ({ f with connReserved }.wakeLocked, { sf with sendReserved })

/-- One pass of `reserveStreamSlot`. -/
def reserveStreamSlot (f : ConnFlow ε) : Traced (SlotResult ε) :=
  match f.failed with
  | some error => pure (.failed error)
  | none => do
    let used ← Word.add f.streamsOpened f.streamsReserved
    if used < f.peerMaxStreams then
      let streamsReserved ← Word.add f.streamsReserved 1
      pure (.reserved { f with streamsReserved })
    else pure .blocked

def commitStreamSlot (f : ConnFlow ε) : Traced (ConnFlow ε) := do
  let streamsReserved ← Word.sub f.streamsReserved 1
  let streamsOpened ← Word.add f.streamsOpened 1
  pure { f with streamsReserved, streamsOpened }

def releaseStreamSlot (f : ConnFlow ε) : Traced (ConnFlow ε) := do
  let streamsReserved ← Word.sub f.streamsReserved 1
  pure { f with streamsReserved }.wakeLocked

def peerStreamOpened (f : ConnFlow ε) : Traced (Except String (ConnFlow ε)) :=
  if f.peerOpenedStreams ≥ f.advertisedMaxStreams then
    pure (.error (errProtocol "peer exceeded MAX_STREAMS"))
  else do
    let peerOpenedStreams ← Word.add f.peerOpenedStreams 1
    pure (.ok { f with peerOpenedStreams })

/-- The value passed to `sendMaxStreams` is the new `advertisedMaxStreams`. -/
def peerStreamRetired (f : ConnFlow ε) : Traced (ConnFlow ε) := do
  let peerRetiredStreams ← Word.add f.peerRetiredStreams 1
  let slots ← Word.add f.limits.maxStreams peerRetiredStreams
  pure { f with peerRetiredStreams, advertisedMaxStreams := satOffset slots }

end ConnFlow

namespace StreamFlow

def failSend (error : ε) (f : ConnFlow ε) (sf : StreamFlow ε) : ConnFlow ε × StreamFlow ε :=
  if sf.sendFailure.isNone then (f.wakeLocked, { sf with sendFailure := some error }) else (f, sf)

def onPeerMaxStreamData (v : UInt64) (f : ConnFlow ε) (sf : StreamFlow ε) :
    ConnFlow ε × StreamFlow ε :=
  if v > sf.peerMaxExplicit then (f.wakeLocked, { sf with peerMaxExplicit := v }) else (f, sf)

def onDataReceived (n : UInt64) (f : ConnFlow ε) (sf : StreamFlow ε) :
    Traced (Except String (ConnFlow ε × StreamFlow ε)) := do
  let received ← Word.add sf.received n
  if received > sf.localMax then
    pure (.error (errProtocol "peer exceeded MAX_STREAM_DATA"))
  else
    let connReceived ← Word.add f.connReceived n
    if connReceived > f.localMaxData then
      pure (.error (errProtocol "peer exceeded MAX_DATA"))
    else pure (.ok ({ f with connReceived }, { sf with received }))

/-- The first half of `onConsumed`: the stream's counters, and `streamAdv`. -/
def streamConsumed (n : UInt64) (f : ConnFlow ε) (sf : StreamFlow ε) :
    Traced (StreamFlow ε × UInt64) := do
  let consumed ← Word.add sf.consumed n
  if sf.cancelled then pure ({ sf with consumed }, 0)
  else
    let unadvertised ← Word.sub consumed sf.advertisedAt
    if unadvertised ≥ f.limits.maxStreamData / 2 then
      let raised ← Word.add consumed f.limits.maxStreamData
      pure ({ sf with consumed, advertisedAt := consumed, localMax := satOffset raised },
        satOffset raised)
    else pure ({ sf with consumed }, 0)

/-- The second half of `onConsumed`: the connection's counters, and `connAdv`. -/
def connConsumed (n : UInt64) (f : ConnFlow ε) : Traced (ConnFlow ε × UInt64) := do
  let connConsumed ← Word.add f.connConsumed n
  let unadvertised ← Word.sub connConsumed f.connAdvertisedAt
  if unadvertised ≥ f.limits.maxData / 2 then
    let raised ← Word.add connConsumed f.limits.maxData
    pure ({ f with
      connConsumed
      connAdvertisedAt := connConsumed
      localMaxData := satOffset raised }, satOffset raised)
  else pure ({ f with connConsumed }, 0)

/-- An advertisement of zero is not sent. -/
def positive (v : UInt64) : Option UInt64 := if v > 0 then some v else none

/-- `onConsumed`, with what it passes to `sendMaxStreamData` and `sendMaxData`. -/
def onConsumed (n : UInt64) (f : ConnFlow ε) (sf : StreamFlow ε) :
    Traced (ConnFlow ε × StreamFlow ε × Option UInt64 × Option UInt64) := do
  let (sf, streamAdv) ← streamConsumed n f sf
  let (f, connAdv) ← connConsumed n f
  pure (f, sf, positive streamAdv, positive connAdv)

def markCancelled (sf : StreamFlow ε) : StreamFlow ε := { sf with cancelled := true }

end StreamFlow

end Kps.Go
