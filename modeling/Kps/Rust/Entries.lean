/-
**The credit of one stream under the operations of the engine.**

An operation on a stream revises the counters of the stream's entry, as long as the entry is there,
and leaves the entries of the other streams.

* `revises_release`, `revises_commit`, … — what each operation does to the counters;
* `pollReserve_granted`, `pollReserve_pending` — a grant fits the wish, and a wait is for credit.
-/

import Kps.Rust.Flow
import Mathlib.Data.UInt

namespace Kps.Rust

open Kps.Lib

/-- What a stream has reserved, sent, received and consumed. -/
structure Totals where
  reserved : UInt64
  sent : UInt64
  received : UInt64
  consumed : UInt64

def StreamState.totals (s : StreamState) : Totals where
  reserved := s.sendReserved
  sent := s.sendSent
  received := s.received
  consumed := s.consumed

namespace ConnFlow

/-- The counters of stream `id`, as long as its entry is there, were changed by `change`; the
entries of the other streams were left, and no stream was made. -/
structure Revises (id : UInt64) (change : Totals → Totals) (f f' : ConnFlow) : Prop where
  nextId : f'.nextId = f.nextId
  elsewhere : ∀ other, other ≠ id → f'.streams other = f.streams other
  here : ∀ s', f'.streams id = some s' → ∃ s, f.streams id = some s ∧ s'.totals = change s.totals

variable {f f' : ConnFlow} {id : UInt64} {change : Totals → Totals}

theorem Revises.same (same : f'.streams = f.streams) (nextId : f'.nextId = f.nextId) :
    Revises id (fun totals => totals) f f' where
  nextId
  elsewhere := fun other _ => by rw [same]
  here := fun s' found => ⟨s', by rw [← same, found], rfl⟩

theorem Revises.put {s s' : StreamState} (found : f.streams id = some s)
    (streams : f'.streams = f.streams.insert id s') (changed : s'.totals = change s.totals)
    (nextId : f'.nextId = f.nextId) : Revises id change f f' where
  nextId
  elsewhere := fun other different => by rw [streams, Table.insert_of_ne different]
  here := fun after found' => by
    rw [streams, Table.insert_self] at found'
    cases found'
    exact ⟨s, found, changed⟩

/-- The stream has no entry. -/
theorem Revises.absent (none : f.streams id = none) (same : f'.streams = f.streams)
    (nextId : f'.nextId = f.nextId) : Revises id change f f' where
  nextId
  elsewhere := fun other _ => by rw [same]
  here := fun s' found => by
    rw [same, none] at found
    cases found

theorem revises_dropStream : Revises id (fun totals => totals) f (f.dropStream id).value := by
  unfold dropStream
  cases f.streams id with
  | none => exact .same rfl rfl
  | some s =>
    refine ⟨rfl, fun other different => Table.erase_of_ne different, fun s' found => ?_⟩
    change f.streams.erase id id = some s' at found
    rw [Table.erase_self] at found
    cases found

theorem revises_release (n : UInt64) : Revises id
    (fun totals => { totals with reserved := totals.reserved - n }) f (f.release id n).value := by
  unfold release
  cases found : f.streams id with
  | none => exact .absent found rfl rfl
  | some s => exact .put found rfl rfl rfl

theorem revises_commit (n : UInt64) : Revises id
    (fun totals => { totals with reserved := totals.reserved - n, sent := totals.sent + n }) f
    (f.commit id n).value := by
  unfold commit
  cases found : f.streams id with
  | none => exact .absent found rfl rfl
  | some s => exact .put found rfl rfl rfl

theorem revises_failSend : Revises id (fun totals => totals) f (f.failSend id) := by
  unfold failSend
  cases found : f.streams id with
  | none => exact .same rfl rfl
  | some s =>
    dsimp only
    by_cases failed : s.sendFailed = true
    · rw [if_pos failed]
      exact .same rfl rfl
    · rw [if_neg failed]
      exact .put found rfl rfl rfl

theorem revises_onPeerMaxStreamData (v : UInt64) :
    Revises id (fun totals => totals) f (f.onPeerMaxStreamData id v) := by
  unfold onPeerMaxStreamData
  cases found : f.streams id with
  | none => exact .same rfl rfl
  | some s =>
    dsimp only
    by_cases raised : v > s.peerMaxExplicit
    · rw [if_pos raised]
      exact .put found rfl rfl rfl
    · rw [if_neg raised]
      exact .same rfl rfl

theorem revises_markCancelled : Revises id (fun totals => totals) f (f.markCancelled id) := by
  unfold markCancelled
  cases found : f.streams id with
  | none => exact .same rfl rfl
  | some s => exact .put found rfl rfl rfl

theorem revises_onDataReceived {n : UInt64} (admitted : (f.onDataReceived id n).value = .ok f') :
    Revises id (fun totals => { totals with received := totals.received + n }) f f' := by
  unfold onDataReceived at admitted
  cases found : f.streams id with
  | none =>
    rw [found] at admitted
    cases admitted
    exact .absent found rfl rfl
  | some s =>
    rw [found] at admitted
    dsimp only [bind, pure] at admitted
    by_cases exceeds : (Word.add s.received n).value > s.localMax
    · rw [if_pos exceeds] at admitted
      cases admitted
    rw [if_neg exceeds] at admitted
    by_cases connOver : (Word.add f.connReceived n).value > f.localMaxData
    · rw [if_pos connOver] at admitted
      cases admitted
    rw [if_neg connOver] at admitted
    cases admitted
    exact .put found rfl rfl rfl

theorem revises_onConsumed (n : UInt64) : Revises id
    (fun totals => { totals with consumed := totals.consumed + n }) f
    (f.onConsumed id n).value.1 := by
  have conn (g : ConnFlow) : (g.connConsume n).value.streams = g.streams ∧
      (g.connConsume n).value.nextId = g.nextId := by
    unfold connConsume
    dsimp only [bind, pure]
    by_cases due : (Word.sub (Word.add g.connConsumed n).value g.connAdvertisedAt).value ≥
      g.limits.maxData / 2
    · rw [if_pos due]
      exact ⟨rfl, rfl⟩
    · rw [if_neg due]
      exact ⟨rfl, rfl⟩
  have stream : Revises id (fun totals => { totals with consumed := totals.consumed + n }) f
      (f.streamConsumed id n).value.1 := by
    unfold streamConsumed
    cases found : f.streams id with
    | none => exact .absent found rfl rfl
    | some s =>
      dsimp only [bind, pure]
      by_cases cancelled : s.cancelled = true
      · rw [if_pos cancelled]
        exact .put found rfl rfl rfl
      rw [if_neg cancelled]
      by_cases due : (Word.sub (Word.add s.consumed n).value s.advertisedAt).value ≥
        f.limits.maxStreamData / 2
      · rw [if_pos due]
        exact .put found rfl rfl rfl
      · rw [if_neg due]
        exact .put found rfl rfl rfl
  obtain ⟨streams, nextId⟩ := conn (f.streamConsumed id n).value.1
  change (f.onConsumed id n).value.1.streams = _ at streams
  exact ⟨nextId.trans stream.nextId, streams ▸ stream.elsewhere, streams ▸ stream.here⟩

/-- The stream or the connection has sent or reserved all that the peer allows. -/
def Exhausted (f : ConnFlow) (id : UInt64) : Prop :=
  ∃ s, f.streams id = some s ∧
    (max s.peerMaxExplicit f.peerInitStreamData = s.sendSent + s.sendReserved ∨
      f.peerMaxData = f.connSent + f.connReserved)

instance (f : ConnFlow) (id : UInt64) : Decidable (f.Exhausted id) :=
  match found : f.streams id with
  | none => .isFalse fun ⟨_, there, _⟩ => by rw [found] at there; cases there
  | some s =>
    decidable_of_iff (max s.peerMaxExplicit f.peerInitStreamData = s.sendSent + s.sendReserved ∨
        f.peerMaxData = f.connSent + f.connReserved)
      ⟨fun spent => ⟨s, found, spent⟩, fun ⟨s', there, spent⟩ => by
        rw [found] at there
        cases there
        exact spent⟩

/-- **A grant fits the wish**, is not empty, and is reserved. -/
theorem pollReserve_granted {want amount : UInt64}
    (granted : (f.pollReserve id want).value = .granted amount f') :
    1 ≤ amount ∧ amount ≤ want ∧
      Revises id (fun totals => { totals with reserved := totals.reserved + amount }) f f' := by
  unfold pollReserve at granted
  split at granted
  · cases granted
  · dsimp only [bind, pure] at granted
    split at granted
    · cases granted
    · next s found =>
      split at granted
      · cases granted
      split at granted
      · next positive =>
        cases granted
        exact ⟨positive, Word.min_le_right _ _, .put found rfl rfl rfl⟩
      · cases granted

/-- The grant of a write fits a frame. -/
theorem pollReserve_fits {buf : Bytes} {amount : UInt64}
    (granted : (f.pollReserve id (UInt64.ofNat (min buf.length maxFramePayload))).value =
      .granted amount f') : amount.toNat ≤ maxFramePayload := by
  obtain ⟨-, within, -⟩ := pollReserve_granted granted
  have small : (UInt64.ofNat (min buf.length maxFramePayload)).toNat ≤ maxFramePayload := by
    rw [UInt64.toNat_ofNat']
    exact (Nat.mod_le _ _).trans (Nat.min_le_right _ _)
  exact (UInt64.le_iff_toNat_le.mp within).trans small

/-- **A wait is for credit**, unless nothing was wished for. -/
theorem pollReserve_pending {want : UInt64}
    (pending : (f.pollReserve id want).value = .pending f') :
    f'.streams = f.streams ∧ f'.nextId = f.nextId ∧ (want = 0 ∨ f.Exhausted id) := by
  unfold pollReserve at pending
  split at pending
  · cases pending
  · dsimp only [bind, pure] at pending
    split at pending
    · cases pending
    · next s found =>
      split at pending
      · cases pending
      split at pending
      · cases pending
      · next empty =>
        cases pending
        refine ⟨rfl, rfl, ?_⟩
        rcases Word.min_min_eq_zero empty with stream | conn | wish
        · exact Or.inr ⟨s, found, Or.inl (sub_eq_zero.mp ((sub_sub _ _ _).symm.trans stream))⟩
        · exact Or.inr ⟨s, found, Or.inr (sub_eq_zero.mp ((sub_sub _ _ _).symm.trans conn))⟩
        · exact Or.inl wish

end ConnFlow

end Kps.Rust
