/-
**What a hostile peer can make an end hold.**

* `memory_bounded` — the receive buffers hold what was received on the connection and not consumed,
  never more than the connection's window; no stream holds more than its own window; and the peer's
  streams that were observed and have not retired are at most `initialMaxStreams`.

Nothing is assumed of the peer, of the transport or of the application: the events are arbitrary.
-/

import Kps.Ts.ConnRun

namespace Kps.Ts

open Kps.Lib

/-- A stream of the peer that has not retired: staged, waiting to be accepted, open, or
wire-complete with bytes unread. -/
def KpsStream.unretired (s : KpsStream) : Bool := s.peerInitiated && !s.retiredFired

/-- The bytes in all receive buffers. -/
def ConnCore.buffered (c : ConnCore) : Int :=
  total c.ids (fun s => (byteCount s.inbuf : Int)) c.streams

/-- The streams of the peer that were observed and have not retired. -/
def ConnCore.unretired (c : ConnCore) : Nat := c.ids.countP fun k => (c.streams k).unretired

theorem unretired_eq (c : ConnCore) :
    (c.unretired : Int) = total c.ids (fun s => peerWeight s - retiredWeight s) c.streams := by
  unfold ConnCore.unretired
  induction c.ids with
  | nil => rfl
  | cons k keys ih =>
    rw [total_cons, ← ih, List.countP_cons, KpsStream.unretired, peerWeight, retiredWeight]
    cases (c.streams k).peerInitiated <;> cases (c.streams k).retiredFired <;>
      simp [add_comm]

namespace ConnInv

variable {c : ConnCore}

/-- A stream buffers what it received and has not consumed. -/
theorem held (inv : ConnInv c) (k : Nat) :
    (byteCount (c.streams k).inbuf : Int) =
      (c.streams k).sf.received - (c.streams k).sf.consumed := by
  have held := (inv.stream k).read.held
  rwa [add_zero] at held

theorem buffered (inv : ConnInv c) : c.buffered = c.flow.connReceived - c.flow.connConsumed := by
  rw [inv.ledgers.received, inv.ledgers.consumed, ← total_sub]
  exact total_congr fun k _ => inv.held k

theorem buffered_le (inv : ConnInv c) :
    c.flow.connReceived - c.flow.connConsumed ≤ c.flow.localLimits.initialMaxData :=
  inv.data.window.valid.outstanding_le

theorem held_le (inv : ConnInv c) (k : Nat) :
    byteCount (c.streams k).inbuf ≤ c.flow.localLimits.initialMaxStreamData := by
  have window := (inv.stream k).read.window.valid.outstanding_le
  change (c.streams k).sf.received - (c.streams k).sf.consumed ≤
    c.flow.localLimits.initialMaxStreamData at window
  have held := inv.held k
  omega

theorem unretired_le (inv : ConnInv c) : c.unretired ≤ c.flow.localLimits.initialMaxStreams := by
  have count := unretired_eq c
  rw [total_sub, ← inv.ledgers.peerOpened, ← inv.ledgers.peerRetired] at count
  have := inv.slots.unretired
  omega

end ConnInv

/-- **The memory bound.** -/
theorem memory_bounded (limits : FlowLimits) (controlOpen : Bool) (events : List Event) :
    let c := ConnCore.after limits controlOpen events
    (c.buffered = c.flow.connReceived - c.flow.connConsumed ∧
        c.buffered ≤ limits.initialMaxData) ∧
      (∀ k, byteCount (c.streams k).inbuf ≤ limits.initialMaxStreamData) ∧
      c.unretired ≤ limits.initialMaxStreams := by
  intro c
  have inv : ConnInv c := ConnInv.after limits controlOpen events
  have same : c.flow.localLimits = limits := ConnCore.localLimits_after limits controlOpen events
  refine ⟨⟨inv.buffered, ?_⟩, ?_, ?_⟩
  · rw [inv.buffered, ← same]
    exact inv.buffered_le
  · rw [← same]
    exact inv.held_le
  · rw [← same]
    exact inv.unretired_le

end Kps.Ts
