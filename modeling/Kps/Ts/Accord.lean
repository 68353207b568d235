/-
**What one end may send, the other has granted.**

* `credit_agreed` — in every run of two linked engines, what an end has learned of the other's
  grants is no more than was granted, what it has sent and reserved is no more than what it has
  learned, and the next message of every channel is one that the other end accepts.

The limits of both ends are valid: each fits in an offset. The channels are those of `Sys`: each is
reliable and ordered, and nothing orders one against another, so a grant may arrive long after a
frame that was sent before it, and a frame before the channel's other end is announced.
-/

import Kps.Ts.ByteStream

namespace Kps.Ts

open Kps.Lib

/-- What `c` may send to `peer`, which has received the first `gotControl` control messages of `c`
and the first `got k` frames of each stream. -/
structure Agreed (c peer : ConnCore) (gotControl : Nat) (got : Nat → Nat) : Prop where
  /-- The grants that `c` has learned of, `peer` made. -/
  data : c.flow.peerMaxData ≤ peer.flow.localMaxData
  slots : c.flow.peerMaxStreams ≤ peer.flow.advertisedMaxStreams
  streamData : ∀ k, max (c.streams k).sf.peerMaxExplicit c.flow.peerMaxStreamDataInitial ≤
    (peer.streams k).sf.localMaxStreamData
  /-- Of these `c` has used no more than there is, -/
  dataUsed : c.flow.connSent + c.flow.connReserved ≤ c.flow.peerMaxData
  slotsUsed : c.flow.streamsOpened + c.flow.streamsReserved ≤ c.flow.peerMaxStreams
  streamDataUsed : ∀ k, (c.streams k).sf.sendSent + (c.streams k).sf.sendReserved ≤
    max (c.streams k).sf.peerMaxExplicit c.flow.peerMaxStreamDataInitial
  /-- so that `peer` finds nothing to object to. -/
  understands : ∀ message, c.control.sent[gotControl]? = some message →
    decodeControl (encodeControl message) = .ok message
  accepts : ∀ k ∈ peer.ids, ∀ frame, (c.streams k).ch.sent[got k]? = some frame →
    ∀ text, (peer.ctx k).handleFrame frame ≠ .violation text
  admits : ∀ k ∈ c.ids, (c.streams k).peerInitiated = false → k ∉ peer.ids →
    ∃ flow, peer.flow.peerStreamOpened = .ok flow

theorem HalfInv.agreed {limits limits' : FlowLimits} {c peer : ConnCore}
    {gotControl gotControl' : Nat} {got got' : Nat → Nat} (half : HalfInv c peer gotControl got)
    (back : HalfInv peer c gotControl' got') (ends : EndInv limits c)
    (peerEnds : EndInv limits' peer)
    (valid : limits.Valid) (valid' : limits'.Valid) : Agreed c peer gotControl' got' := by
  obtain ⟨-, data, slots⟩ := half.view_le ends peerEnds valid'
  refine ⟨data, slots, half.credit_le ends peerEnds valid', ends.inv.data.within,
    ends.inv.slots.within, fun k => (ends.inv.stream k).write.within, ?_, ?_, ?_⟩
  · intro message next
    exact decodeControl_encodeControl (ends.wf valid (List.mem_of_getElem? next))
  · intro k present frame next text violation
    obtain ⟨x, retires, done⟩ := back.accepts half peerEnds ends valid' present next
    cases done.symm.trans violation
  · intro k opened own absent
    exact back.admits half peerEnds ends valid' opened own absent

/-- **The two ends agree on credit**, whatever is written, read, opened, reset, cancelled, closed or
lost, in any order. -/
theorem credit_agreed (limits : Side → FlowLimits) (valid : ∀ side, (limits side).Valid)
    (controlOpen : Side → Bool) (labels : List Label) (s : Sys)
    (ran : Kps.Lib.run Sys.step (Sys.new limits controlOpen) labels = some s) (side : Side) :
    Agreed (s.core side) (s.core side.other) (s.gotControl side.other) (s.got side.other) := by
  have inv := LinkInv.run limits valid controlOpen ran
  have back := inv.half side.other
  rw [Side.other_other] at back
  exact (inv.half side).agreed back (inv.ends side) (inv.ends side.other) (valid _) (valid _)

theorem credit_agreed_shortWindow : ∃ s,
    Kps.Lib.run Sys.step (Sys.new (fun _ => ⟨4, 8, 1⟩) fun _ => true) shortWindow = some s ∧
      Agreed (s.core .left) (s.core .right) (s.gotControl .right) (s.got .right) := by
  have ran : (Kps.Lib.run Sys.step (Sys.new (fun _ => ⟨4, 8, 1⟩) fun _ => true)
      shortWindow).isSome = true := by decide +kernel
  obtain ⟨s, reached⟩ := Option.isSome_iff_exists.mp ran
  exact ⟨s, reached, credit_agreed _ (fun _ => by decide) _ _ s reached .left⟩

end Kps.Ts
