/-
**The credit engine of the TypeScript packages** (`flow.ts`).

`ConnFlow` holds the connection-level credit of both directions and the stream counts, `StreamFlow`
the credit of one stream. Counters are exact integers, as the source's `BigInt`.

An operation that emits a credit advertisement returns the value; the owner sends it. A blocking
operation is one pass of its loop: it succeeds, fails, or has to wait for the next credit event.
-/

import Kps.Lib.Credit
import Kps.Ts.Channel

namespace Kps.Ts

def defaultInitialMaxStreamData : Nat := 1048576

def defaultInitialMaxData : Nat := 8388608

def defaultInitialMaxStreams : Nat := 100

/-- Fill in the limits an application leaves out. -/
def resolveLimits (streamData data streams : Option Nat) : FlowLimits where
  initialMaxStreamData := streamData.getD defaultInitialMaxStreamData
  initialMaxData := data.getD defaultInitialMaxData
  initialMaxStreams := streams.getD defaultInitialMaxStreams

def saturate (v : Int) : Int := if v > maxOffset then maxOffset else v

/-- The value `setBigUint64` writes for an integer. -/
def asUint64 (v : Int) : Nat := (v % 18446744073709551616).toNat

/-- The credit of one stream. -/
structure StreamFlow where
  sendSent : Int := 0
  sendReserved : Int := 0
  peerMaxExplicit : Int := 0
  sendFailure : Option KpsError := none
  localMaxStreamData : Int
  received : Int := 0
  consumed : Int := 0
  advertisedAt : Int := 0
  cancelled : Bool := false

/-- The credit of a connection. `credit` is the wakeable all credit-blocked operations wait on. -/
structure ConnFlow where
  localLimits : FlowLimits
  peerMaxStreamDataInitial : Int := 0
  peerMaxData : Int := 0
  peerMaxStreams : Int := 0
  connSent : Int := 0
  connReserved : Int := 0
  streamsOpened : Int := 0
  streamsReserved : Int := 0
  localMaxData : Int
  connReceived : Int := 0
  connConsumed : Int := 0
  connAdvertisedAt : Int := 0
  peerOpenedStreams : Int := 0
  peerRetiredStreams : Int := 0
  advertisedMaxStreams : Int
  credit : Wakeable := {}
  failure : Option KpsError := none

/-- The outcome of one pass of the loop in `reserveData`. -/
inductive ReserveResult
  | failed (error : KpsError)
  | granted (amount : Int) (flow : ConnFlow) (sf : StreamFlow)
  | blocked

/-- The outcome of one pass of the loop in `reserveStreamSlot`. -/
inductive SlotResult
  | failed (error : KpsError)
  | reserved (flow : ConnFlow)
  | blocked

namespace ConnFlow

def new (limits : FlowLimits) : ConnFlow where
  localLimits := limits
  localMaxData := limits.initialMaxData
  advertisedMaxStreams := limits.initialMaxStreams

def wake (f : ConnFlow) : ConnFlow := { f with credit := f.credit.wake }

/-- The peer's HELLO: seed every send-side limit. -/
def onPeerHello (limits : FlowLimits) (f : ConnFlow) : ConnFlow :=
  { f with
    peerMaxStreamDataInitial := limits.initialMaxStreamData
    peerMaxData := limits.initialMaxData
    peerMaxStreams := limits.initialMaxStreams }.wake

/-- MAX_DATA; decreases are ignored. -/
def onPeerMaxData (value : Nat) (f : ConnFlow) : ConnFlow :=
  if value > f.peerMaxData then { f with peerMaxData := value }.wake else f

/-- MAX_STREAMS; decreases are ignored. -/
def onPeerMaxStreams (value : Nat) (f : ConnFlow) : ConnFlow :=
  if value > f.peerMaxStreams then { f with peerMaxStreams := value }.wake else f

/-- Fail every pending and future credit wait. -/
def fail (error : KpsError) (f : ConnFlow) : ConnFlow :=
  if f.failure.isSome then f else { f with failure := some error }.wake

/-- The effective window of the peer on a stream. -/
def peerMaxStreamData (f : ConnFlow) (sf : StreamFlow) : Int :=
  if sf.peerMaxExplicit > f.peerMaxStreamDataInitial then sf.peerMaxExplicit
  else f.peerMaxStreamDataInitial

/-- What a stream may still reserve: the smaller of the stream's and the connection's credit. -/
def available (f : ConnFlow) (sf : StreamFlow) : Int :=
  let streamAvail := f.peerMaxStreamData sf - sf.sendSent - sf.sendReserved
  let connAvail := f.peerMaxData - f.connSent - f.connReserved
  if streamAvail < connAvail then streamAvail else connAvail

/-- One pass of `reserveData`: reserve up to `n` bytes at both levels. -/
def reserveData (f : ConnFlow) (sf : StreamFlow) (n : Int) : ReserveResult :=
  match f.failure, sf.sendFailure with
  | some error, _ => .failed error
  | none, some error => .failed error
  | none, none =>
    let grant := if f.available sf > n then n else f.available sf
    if grant ≥ 1 then
      .granted grant { f with connReserved := f.connReserved + grant }
        { sf with sendReserved := sf.sendReserved + grant }
    else .blocked

/-- Bytes passed to the transport. -/
def commitData (n : Int) (f : ConnFlow) : ConnFlow :=
  { f with connReserved := f.connReserved - n, connSent := f.connSent + n }

/-- A reserved frame was discarded. -/
def releaseData (n : Int) (f : ConnFlow) : ConnFlow :=
  { f with connReserved := f.connReserved - n }.wake

/-- One pass of `reserveStreamSlot`. -/
def reserveStreamSlot (aborted : Bool) (f : ConnFlow) : SlotResult :=
  match f.failure with
  | some error => .failed error
  | none =>
    if aborted then .failed { message := "kps: aborted" }
    else if f.streamsOpened + f.streamsReserved < f.peerMaxStreams then
      .reserved { f with streamsReserved := f.streamsReserved + 1 }
    else .blocked

/-- Channel creation succeeded. -/
def commitStreamSlot (f : ConnFlow) : ConnFlow :=
  { f with streamsReserved := f.streamsReserved - 1, streamsOpened := f.streamsOpened + 1 }

/-- Channel creation failed. -/
def releaseStreamSlot (f : ConnFlow) : ConnFlow :=
  { f with streamsReserved := f.streamsReserved - 1 }.wake

/-- Enforce the connection window on `n` inbound bytes. -/
def connDataReceived (n : Int) (f : ConnFlow) : Except String ConnFlow :=
  if f.connReceived + n > f.localMaxData then .error "peer exceeded MAX_DATA"
  else .ok { f with connReceived := f.connReceived + n }

/-- Count `n` consumed bytes; the value of the MAX_DATA that is due. -/
def connDataConsumed (n : Int) (f : ConnFlow) : ConnFlow × Option Int :=
  let consumed := f.connConsumed + n
  let window : Int := f.localLimits.initialMaxData
  if consumed - f.connAdvertisedAt ≥ window / 2 then
    ({ f with
      connConsumed := consumed
      connAdvertisedAt := consumed
      localMaxData := saturate (consumed + window) }, some (saturate (consumed + window)))
  else ({ f with connConsumed := consumed }, none)

/-- A peer-initiated stream was observed. -/
def peerStreamOpened (f : ConnFlow) : Except String ConnFlow :=
  if f.peerOpenedStreams ≥ f.advertisedMaxStreams then .error "peer exceeded MAX_STREAMS"
  else .ok { f with peerOpenedStreams := f.peerOpenedStreams + 1 }

/-- A peer-initiated stream retired; `advertisedMaxStreams` is then advertised. -/
def peerStreamRetired (f : ConnFlow) : ConnFlow :=
  { f with
    peerRetiredStreams := f.peerRetiredStreams + 1
    advertisedMaxStreams :=
      saturate (f.localLimits.initialMaxStreams + (f.peerRetiredStreams + 1)) }

end ConnFlow

namespace StreamFlow

def new (limits : FlowLimits) : StreamFlow := { localMaxStreamData := limits.initialMaxStreamData }

def commit (n : Int) (sf : StreamFlow) : StreamFlow :=
  { sf with sendReserved := sf.sendReserved - n, sendSent := sf.sendSent + n }

def release (n : Int) (sf : StreamFlow) : StreamFlow :=
  { sf with sendReserved := sf.sendReserved - n }

/-- MAX_STREAM_DATA; decreases are ignored. -/
def onPeerMaxStreamData (value : Nat) (f : ConnFlow) (sf : StreamFlow) : ConnFlow × StreamFlow :=
  if value > sf.peerMaxExplicit then (f.wake, { sf with peerMaxExplicit := value }) else (f, sf)

/-- Fail pending and future reservations of the stream. -/
def failSend (error : KpsError) (f : ConnFlow) (sf : StreamFlow) : ConnFlow × StreamFlow :=
  if sf.sendFailure.isSome then (f, sf) else (f.wake, { sf with sendFailure := some error })

/-- Enforce both windows on `n` inbound bytes: both are checked before either counts. -/
def onDataReceived (n : Int) (f : ConnFlow) (sf : StreamFlow) :
    Except String (ConnFlow × StreamFlow) :=
  if sf.received + n > sf.localMaxStreamData then .error "peer exceeded MAX_STREAM_DATA"
  else
    match f.connDataReceived n with
    | .error text => .error text
    | .ok f => .ok (f, { sf with received := sf.received + n })

/-- The stream's part of `onConsumed`; the value of the MAX_STREAM_DATA that is due. -/
def streamConsumed (limits : FlowLimits) (n : Int) (sf : StreamFlow) : StreamFlow × Option Int :=
  let consumed := sf.consumed + n
  let window : Int := limits.initialMaxStreamData
  if !sf.cancelled && decide (consumed - sf.advertisedAt ≥ window / 2) then
    ({ sf with
      consumed
      advertisedAt := consumed
      localMaxStreamData := saturate (consumed + window) }, some (saturate (consumed + window)))
  else ({ sf with consumed }, none)

def markCancelled (sf : StreamFlow) : StreamFlow := { sf with cancelled := true }

end StreamFlow

/-! ### The windows of the library -/

open Kps.Lib

theorem saturate_eq_min (v : Int) : saturate v = min v maxOffset := by
  unfold saturate
  split <;> omega

theorem asUint64_eq {v : Int} (nonneg : 0 ≤ v) (small : v ≤ maxOffset) :
    (asUint64 v : Int) = v := by
  unfold asUint64
  unfold maxOffset at small
  omega

/-- The receive window of a stream. -/
def StreamFlow.window (limits : FlowLimits) (sf : StreamFlow) : Window where
  size := limits.initialMaxStreamData
  limit := sf.localMaxStreamData
  received := sf.received
  consumed := sf.consumed
  advertisedAt := sf.advertisedAt

/-- The receive window of a connection. -/
def ConnFlow.window (f : ConnFlow) : Window where
  size := f.localLimits.initialMaxData
  limit := f.localMaxData
  received := f.connReceived
  consumed := f.connConsumed
  advertisedAt := f.connAdvertisedAt

theorem StreamFlow.window_streamConsumed (limits : FlowLimits) (n : Int) (sf : StreamFlow) :
    (sf.streamConsumed limits n).1.window limits =
        ((sf.window limits).consume maxOffset (!sf.cancelled) n).1 ∧
      (sf.streamConsumed limits n).2 =
        ((sf.window limits).consume maxOffset (!sf.cancelled) n).2 := by
  by_cases due : (!sf.cancelled && ((sf.window limits).take n).due) = true
  · rw [Window.consume_granted due, show sf.streamConsumed limits n = _ from if_pos due,
      saturate_eq_min]
    exact ⟨rfl, rfl⟩
  · rw [Window.consume_withheld due, show sf.streamConsumed limits n = _ from if_neg due]
    exact ⟨rfl, rfl⟩

theorem ConnFlow.window_connDataConsumed (n : Int) (f : ConnFlow) :
    (f.connDataConsumed n).1.window = (f.window.consume maxOffset true n).1 ∧
      (f.connDataConsumed n).2 = (f.window.consume maxOffset true n).2 := by
  by_cases due : f.connConsumed + n - f.connAdvertisedAt ≥ (f.localLimits.initialMaxData : Int) / 2
  · have granted : (true && (f.window.take n).due) = true := decide_eq_true due
    rw [Window.consume_granted granted, show f.connDataConsumed n = _ from if_pos due,
      saturate_eq_min]
    exact ⟨rfl, rfl⟩
  · have withheld : ¬ (true && (f.window.take n).due) = true := fun granted =>
      due (of_decide_eq_true granted)
    rw [Window.consume_withheld withheld, show f.connDataConsumed n = _ from if_neg due]
    exact ⟨rfl, rfl⟩

/-- The advertisement of a window that was just consumed from. -/
theorem Window.advert_le {w : Window} {n : Int} {grant : Bool} {v : Int} (sound : w.Sound maxOffset)
    (size : 0 ≤ w.size) (nonneg : 0 ≤ n) (available : w.consumed + n ≤ w.received)
    (advert : (w.consume maxOffset grant n).2 = some v) :
    v = (w.consume maxOffset grant n).1.limit ∧ v ≤ maxOffset ∧ (asUint64 v : Int) = v := by
  have sound' : (w.consume maxOffset grant n).1.Sound maxOffset := sound.consume nonneg available
  have positive := sound'.limit_nonneg (by simpa using size) (by decide)
  rcases w.limit_consume maxOffset n grant with ⟨none, -⟩ | ⟨some, le⟩
  · rw [none] at advert
    cases advert
  · rw [some] at advert
    cases advert
    exact ⟨rfl, le, asUint64_eq positive le⟩

/-! ### What the operations change -/

/-- The cases of one pass of `reserveData`: it fails, grants what both levels have, or finds
nothing. -/
theorem ConnFlow.reserveData_cases (f : ConnFlow) (sf : StreamFlow) (n : Int) :
    (∃ error, f.reserveData sf n = .failed error) ∨
      (∃ grant, 1 ≤ grant ∧ grant ≤ f.available sf ∧ grant ≤ n ∧
        f.reserveData sf n = .granted grant { f with connReserved := f.connReserved + grant }
          { sf with sendReserved := sf.sendReserved + grant }) ∨
      (f.failure = none ∧ sf.sendFailure = none ∧ min (f.available sf) n < 1 ∧
        f.reserveData sf n = .blocked) := by
  unfold reserveData
  split
  · exact Or.inl ⟨_, rfl⟩
  · exact Or.inl ⟨_, rfl⟩
  · next noFailure noSendFailure =>
    have grant : (if f.available sf > n then n else f.available sf) = min (f.available sf) n := by
      split <;> omega
    simp only [grant]
    by_cases positive : min (f.available sf) n ≥ 1
    · rw [if_pos positive]
      exact Or.inr (Or.inl ⟨_, positive, min_le_left _ _, min_le_right _ _, rfl⟩)
    · rw [if_neg positive]
      exact Or.inr (Or.inr ⟨noFailure, noSendFailure, not_le.mp positive, rfl⟩)

/-- The cases of one pass of `reserveStreamSlot`. -/
theorem ConnFlow.reserveStreamSlot_cases (aborted : Bool) (f : ConnFlow) :
    (∃ error, f.reserveStreamSlot aborted = .failed error) ∨
      (f.streamsOpened + f.streamsReserved < f.peerMaxStreams ∧
        f.reserveStreamSlot aborted =
          .reserved { f with streamsReserved := f.streamsReserved + 1 }) ∨
      (f.failure = none ∧ f.peerMaxStreams ≤ f.streamsOpened + f.streamsReserved ∧
        f.reserveStreamSlot aborted = .blocked) := by
  unfold reserveStreamSlot
  split
  · exact Or.inl ⟨_, rfl⟩
  · next noFailure =>
    cases aborted with
    | true => exact Or.inl ⟨_, rfl⟩
    | false =>
      by_cases room : f.streamsOpened + f.streamsReserved < f.peerMaxStreams
      · exact Or.inr (Or.inl ⟨room, if_pos room⟩)
      · exact Or.inr (Or.inr ⟨noFailure, not_lt.mp room, if_neg room⟩)

theorem StreamFlow.streamConsumed_fields (limits : FlowLimits) (n : Int) (sf : StreamFlow) :
    ∃ advertisedAt localMaxStreamData, (sf.streamConsumed limits n).1 =
      { sf with consumed := sf.consumed + n, advertisedAt, localMaxStreamData } := by
  unfold StreamFlow.streamConsumed
  dsimp only
  split <;> exact ⟨_, _, rfl⟩

theorem ConnFlow.connDataConsumed_fields (n : Int) (f : ConnFlow) :
    ∃ connAdvertisedAt localMaxData, (f.connDataConsumed n).1 =
      { f with connConsumed := f.connConsumed + n, connAdvertisedAt, localMaxData } := by
  unfold ConnFlow.connDataConsumed
  dsimp only
  split <;> exact ⟨_, _, rfl⟩

/-- Bytes within both windows are counted. -/
theorem StreamFlow.onDataReceived_fits {n : Int} {f : ConnFlow} {sf : StreamFlow}
    (stream : sf.received + n ≤ sf.localMaxStreamData)
    (conn : f.connReceived + n ≤ f.localMaxData) : sf.onDataReceived n f =
      .ok ({ f with connReceived := f.connReceived + n }, { sf with
        received := sf.received + n }) := by
  unfold onDataReceived ConnFlow.connDataReceived
  rw [if_neg (not_lt.mpr stream), if_neg (not_lt.mpr conn)]

theorem StreamFlow.onDataReceived_ok {n : Int} {f f' : ConnFlow} {sf sf' : StreamFlow}
    (ok : sf.onDataReceived n f = .ok (f', sf')) :
    f' = { f with connReceived := f.connReceived + n } ∧
      sf' = { sf with received := sf.received + n } ∧
      sf.received + n ≤ sf.localMaxStreamData ∧ f.connReceived + n ≤ f.localMaxData := by
  unfold StreamFlow.onDataReceived ConnFlow.connDataReceived at ok
  by_cases exceeds : sf.received + n > sf.localMaxStreamData
  · rw [if_pos exceeds] at ok
    cases ok
  · by_cases connOver : f.connReceived + n > f.localMaxData
    · simp only [if_neg exceeds, if_pos connOver] at ok
      cases ok
    · simp only [if_neg exceeds, if_neg connOver, Except.ok.injEq, Prod.mk.injEq] at ok
      exact ⟨ok.1.symm, ok.2.symm, not_lt.mp exceeds, not_lt.mp connOver⟩

end Kps.Ts
