/-
**The Go and the TypeScript credit engine as machines over the same operations.**

An `Engine` is the credit of a connection and of its streams; `FlowOp` is one operation on it and
`FlowVerdict` what it answers. `TsEngine.step` runs an operation on exact integers,
`GoEngine.step` on wrapping words. `view` reads a Go state as the exact state it stands for.

The engines differ on a credit advertisement of zero, which only a window of size zero produces: the
TypeScript engine sends it and the Go engine does not. `FlowVerdict.inGo` leaves it out.
-/

import Kps.Go.Flow
import Kps.Lib.Ledger
import Kps.Lib.Lockstep
import Kps.Ts.Flow
import Mathlib.Data.List.Range

namespace Kps.Go

open Kps.Lib

open Kps.Ts (KpsError)

/-! ### The two engines as machines -/

/-- The credit of a connection and of the streams created on it so far. -/
structure Engine (F S : Type) where
  flow : F
  count : Nat := 0
  streams : Nat → S

namespace Engine

variable {F S : Type}

/-- The state after an operation on stream `k`. -/
def put (e : Engine F S) (k : Nat) (f : F) (sf : S) : Engine F S :=
  { e with flow := f, streams := Function.update e.streams k sf }

/-- The state after an operation on the connection. -/
def onFlow (e : Engine F S) (f : F) : Engine F S := { e with flow := f }

/-- `newStream`, with the stream it returns. -/
def create (e : Engine F S) (sf : S) : Engine F S :=
  { e with count := e.count + 1, streams := Function.update e.streams e.count sf }

end Engine

inductive FlowOp
  | onPeerHello (limits : FlowWindows)
  | onPeerMaxData (value : UInt64)
  | onPeerMaxStreams (value : UInt64)
  | onPeerMaxStreamData (stream : Nat) (value : UInt64)
  | newStream
  | reserveData (stream : Nat) (n : UInt64)
  | commitData (stream : Nat) (n : UInt64)
  | releaseData (stream : Nat) (n : UInt64)
  | reserveStreamSlot
  | commitStreamSlot
  | releaseStreamSlot
  | failSend (stream : Nat) (error : KpsError)
  | fail (error : KpsError)
  | onDataReceived (stream : Nat) (n : UInt64)
  | onConsumed (stream : Nat) (n : UInt64)
  | markCancelled (stream : Nat)
  | peerStreamOpened
  | peerStreamRetired

/-- What an operation answers. A blocking operation that has to wait is `blocked`. -/
inductive FlowVerdict
  | done
  | created (stream : Nat)
  | granted (amount : Int)
  | slotGranted
  | blocked
  | failed (error : KpsError)
  | violation (text : String)
  | advertised (streamData data : Option Int)
  | advertisedStreams (value : Int)
  deriving DecidableEq

/-- An advertisement that is not zero. -/
def nonzero (v : Option Int) : Option Int := if v = some 0 then none else v

/-- A verdict of the TypeScript engine as the Go engine gives it: a violation's text has the prefix
of `errProtocol`, and an advertisement of zero is not made. -/
def FlowVerdict.inGo : FlowVerdict → FlowVerdict
  | .violation text => .violation (errProtocol text)
  | .advertised streamData data => .advertised (nonzero streamData) (nonzero data)
  | verdict => verdict

/-- The exact value of a limit. -/
def FlowWindows.view (w : FlowWindows) : Ts.FlowLimits where
  initialMaxStreamData := w.maxStreamData.toNat
  initialMaxData := w.maxData.toNat
  initialMaxStreams := w.maxStreams.toNat

abbrev TsEngine := Engine Ts.ConnFlow Ts.StreamFlow

abbrev GoEngine := Engine (ConnFlow KpsError) (StreamFlow KpsError)

/-- A new connection of the TypeScript engine. -/
def TsEngine.new (limits : FlowWindows) : TsEngine where
  flow := .new limits.view
  streams _ := .new limits.view

/-- A new connection of the Go engine. -/
def GoEngine.new (limits : FlowWindows) : GoEngine where
  flow := .new limits
  streams _ := { localMax := limits.maxStreamData }

/-- One operation of the TypeScript engine. -/
def TsEngine.step (e : TsEngine) : FlowOp → TsEngine × FlowVerdict
  | .onPeerHello limits => (e.onFlow (e.flow.onPeerHello limits.view), .done)
  | .onPeerMaxData value => (e.onFlow (e.flow.onPeerMaxData value.toNat), .done)
  | .onPeerMaxStreams value => (e.onFlow (e.flow.onPeerMaxStreams value.toNat), .done)
  | .onPeerMaxStreamData k value =>
    let (f, sf) := (e.streams k).onPeerMaxStreamData value.toNat e.flow
    (e.put k f sf, .done)
  | .newStream => (e.create (.new e.flow.localLimits), .created e.count)
  | .reserveData k n =>
    match e.flow.reserveData (e.streams k) (Word.int n) with
    | .failed error => (e, .failed error)
    | .granted amount f sf => (e.put k f sf, .granted amount)
    | .blocked => (e, .blocked)
  | .commitData k n =>
    (e.put k (e.flow.commitData (Word.int n)) ((e.streams k).commit (Word.int n)), .done)
  | .releaseData k n =>
    (e.put k (e.flow.releaseData (Word.int n)) ((e.streams k).release (Word.int n)), .done)
  | .reserveStreamSlot =>
    match e.flow.reserveStreamSlot false with
    | .failed error => (e, .failed error)
    | .reserved f => (e.onFlow f, .slotGranted)
    | .blocked => (e, .blocked)
  | .commitStreamSlot => (e.onFlow e.flow.commitStreamSlot, .done)
  | .releaseStreamSlot => (e.onFlow e.flow.releaseStreamSlot, .done)
  | .failSend k error =>
    let (f, sf) := (e.streams k).failSend error e.flow
    (e.put k f sf, .done)
  | .fail error => (e.onFlow (e.flow.fail error), .done)
  | .onDataReceived k n =>
    match (e.streams k).onDataReceived (Word.int n) e.flow with
    | .error text => (e, .violation text)
    | .ok (f, sf) => (e.put k f sf, .done)
  | .onConsumed k n =>
    let (sf, streamData) := (e.streams k).streamConsumed e.flow.localLimits (Word.int n)
    let (f, data) := e.flow.connDataConsumed (Word.int n)
    (e.put k f sf, .advertised streamData data)
  | .markCancelled k => (e.put k e.flow (e.streams k).markCancelled, .done)
  | .peerStreamOpened =>
    match e.flow.peerStreamOpened with
    | .error text => (e, .violation text)
    | .ok f => (e.onFlow f, .done)
  | .peerStreamRetired =>
    let f := e.flow.peerStreamRetired
    (e.onFlow f, .advertisedStreams f.advertisedMaxStreams)

/-- One operation of the Go engine. -/
def GoEngine.step (e : GoEngine) : FlowOp → Traced (GoEngine × FlowVerdict)
  | .onPeerHello limits => pure (e.onFlow (e.flow.onPeerHello limits), .done)
  | .onPeerMaxData value => pure (e.onFlow (e.flow.onPeerMaxData value), .done)
  | .onPeerMaxStreams value => pure (e.onFlow (e.flow.onPeerMaxStreams value), .done)
  | .onPeerMaxStreamData k value =>
    let (f, sf) := (e.streams k).onPeerMaxStreamData value e.flow
    pure (e.put k f sf, .done)
  | .newStream => pure (e.create e.flow.newStream, .created e.count)
  | .reserveData k n => do
    match ← e.flow.reserveData (e.streams k) n with
    | .failed error => pure (e, .failed error)
    | .granted amount f sf => pure (e.put k f sf, .granted (Word.int amount))
    | .blocked => pure (e, .blocked)
  | .commitData k n => do
    let (f, sf) ← e.flow.commitData n (e.streams k)
    pure (e.put k f sf, .done)
  | .releaseData k n => do
    let (f, sf) ← e.flow.releaseData n (e.streams k)
    pure (e.put k f sf, .done)
  | .reserveStreamSlot => do
    match ← e.flow.reserveStreamSlot with
    | .failed error => pure (e, .failed error)
    | .reserved f => pure (e.onFlow f, .slotGranted)
    | .blocked => pure (e, .blocked)
  | .commitStreamSlot => do
    let f ← e.flow.commitStreamSlot
    pure (e.onFlow f, .done)
  | .releaseStreamSlot => do
    let f ← e.flow.releaseStreamSlot
    pure (e.onFlow f, .done)
  | .failSend k error =>
    let (f, sf) := (e.streams k).failSend error e.flow
    pure (e.put k f sf, .done)
  | .fail error => pure (e.onFlow (e.flow.fail error), .done)
  | .onDataReceived k n => do
    match ← (e.streams k).onDataReceived n e.flow with
    | .error text => pure (e, .violation text)
    | .ok (f, sf) => pure (e.put k f sf, .done)
  | .onConsumed k n => do
    let (f, sf, streamData, data) ← (e.streams k).onConsumed n e.flow
    pure (e.put k f sf, .advertised (streamData.map Word.int) (data.map Word.int))
  | .markCancelled k => pure (e.put k e.flow (e.streams k).markCancelled, .done)
  | .peerStreamOpened => do
    match ← e.flow.peerStreamOpened with
    | .error text => pure (e, .violation text)
    | .ok f => pure (e.onFlow f, .done)
  | .peerStreamRetired => do
    let f ← e.flow.peerStreamRetired
    pure (e.onFlow f, .advertisedStreams (Word.int f.advertisedMaxStreams))

/-! ### What a Go state stands for -/

/-- The exact credit of a connection. -/
def ConnFlow.view (f : ConnFlow KpsError) : Ts.ConnFlow where
  localLimits := f.limits.view
  peerMaxStreamDataInitial := Word.int f.peerInitStreamData
  peerMaxData := Word.int f.peerMaxData
  peerMaxStreams := Word.int f.peerMaxStreams
  connSent := Word.int f.connSent
  connReserved := Word.int f.connReserved
  streamsOpened := Word.int f.streamsOpened
  streamsReserved := Word.int f.streamsReserved
  localMaxData := Word.int f.localMaxData
  connReceived := Word.int f.connReceived
  connConsumed := Word.int f.connConsumed
  connAdvertisedAt := Word.int f.connAdvertisedAt
  peerOpenedStreams := Word.int f.peerOpenedStreams
  peerRetiredStreams := Word.int f.peerRetiredStreams
  advertisedMaxStreams := Word.int f.advertisedMaxStreams
  credit := ⟨f.wakes⟩
  failure := f.failed

/-- The exact credit of a stream. -/
def StreamFlow.view (sf : StreamFlow KpsError) : Ts.StreamFlow where
  sendSent := Word.int sf.sendSent
  sendReserved := Word.int sf.sendReserved
  peerMaxExplicit := Word.int sf.peerMaxExplicit
  sendFailure := sf.sendFailure
  localMaxStreamData := Word.int sf.localMax
  received := Word.int sf.received
  consumed := Word.int sf.consumed
  advertisedAt := Word.int sf.advertisedAt
  cancelled := sf.cancelled

def GoEngine.view (e : GoEngine) : TsEngine where
  flow := e.flow.view
  count := e.count
  streams k := (e.streams k).view

def ReserveResult.view : ReserveResult KpsError → Ts.ReserveResult
  | .failed error => .failed error
  | .granted amount f sf => .granted (Word.int amount) f.view sf.view
  | .blocked => .blocked

def SlotResult.view : SlotResult KpsError → Ts.SlotResult
  | .failed error => .failed error
  | .reserved f => .reserved f.view
  | .blocked => .blocked

theorem int_one : Word.int 1 = 1 := rfl

theorem int_maxOffset : Word.int (UInt64.ofNat maxOffset) = Ts.maxOffset := rfl

theorem int_satOffset (v : UInt64) : Word.int (satOffset v) = Ts.saturate (Word.int v) := by
  unfold satOffset Ts.saturate
  rw [← int_maxOffset]
  by_cases exceeds : v > UInt64.ofNat maxOffset
  · rw [if_pos exceeds, if_pos (Word.int_lt_iff.mpr exceeds)]
  · rw [if_neg exceeds, if_neg (mt Word.int_lt_iff.mp exceeds)]

section Views

variable (f : ConnFlow KpsError) (sf : StreamFlow KpsError)

theorem peerMaxLocked_view :
    Word.int (f.peerMaxLocked sf) = f.view.peerMaxStreamData sf.view := by
  show _ = if Word.int sf.peerMaxExplicit > Word.int f.peerInitStreamData then _ else _
  unfold ConnFlow.peerMaxLocked
  rw [Word.int_max]
  split
  · exact max_eq_left (le_of_lt ‹_›)
  · exact max_eq_right (not_lt.mp ‹_›)

theorem fail_view (error : KpsError) : (f.fail error).view = f.view.fail error := by
  unfold ConnFlow.fail Ts.ConnFlow.fail
  cases failure : f.failed with
  | none => rw [if_pos (by simp), if_neg (by simp [ConnFlow.view, failure])]; rfl
  | some other => rw [if_neg (by simp), if_pos (by simp [ConnFlow.view, failure])]

theorem onPeerMaxData_view (v : UInt64) :
    (f.onPeerMaxData v).view = f.view.onPeerMaxData v.toNat := by
  unfold ConnFlow.onPeerMaxData Ts.ConnFlow.onPeerMaxData
  by_cases more : v > f.peerMaxData
  · have more' : (v.toNat : Int) > f.view.peerMaxData := Word.int_lt_iff.mpr more
    rw [if_pos more, if_pos more']
    rfl
  · have more' : ¬ ((v.toNat : Int) > f.view.peerMaxData) := fun gt => more (Word.int_lt_iff.mp gt)
    rw [if_neg more, if_neg more']

theorem onPeerMaxStreams_view (v : UInt64) :
    (f.onPeerMaxStreams v).view = f.view.onPeerMaxStreams v.toNat := by
  unfold ConnFlow.onPeerMaxStreams Ts.ConnFlow.onPeerMaxStreams
  by_cases more : v > f.peerMaxStreams
  · have more' : (v.toNat : Int) > f.view.peerMaxStreams := Word.int_lt_iff.mpr more
    rw [if_pos more, if_pos more']
    rfl
  · have more' : ¬ ((v.toNat : Int) > f.view.peerMaxStreams) :=
      fun gt => more (Word.int_lt_iff.mp gt)
    rw [if_neg more, if_neg more']

theorem onPeerMaxStreamData_view (v : UInt64) :
    Prod.map ConnFlow.view StreamFlow.view (sf.onPeerMaxStreamData v f) =
      sf.view.onPeerMaxStreamData v.toNat f.view := by
  unfold StreamFlow.onPeerMaxStreamData Ts.StreamFlow.onPeerMaxStreamData
  by_cases more : v > sf.peerMaxExplicit
  · have more' : (v.toNat : Int) > sf.view.peerMaxExplicit := Word.int_lt_iff.mpr more
    rw [if_pos more, if_pos more']
    rfl
  · have more' : ¬ ((v.toNat : Int) > sf.view.peerMaxExplicit) :=
      fun gt => more (Word.int_lt_iff.mp gt)
    rw [if_neg more, if_neg more']
    rfl

theorem failSend_view (error : KpsError) :
    Prod.map ConnFlow.view StreamFlow.view (sf.failSend error f) =
      sf.view.failSend error f.view := by
  unfold StreamFlow.failSend Ts.StreamFlow.failSend
  cases failure : sf.sendFailure with
  | none => rw [if_pos (by simp), if_neg (by simp [StreamFlow.view, failure])]; rfl
  | some other => rw [if_neg (by simp), if_pos (by simp [StreamFlow.view, failure])]; rfl

end Views

end Kps.Go
