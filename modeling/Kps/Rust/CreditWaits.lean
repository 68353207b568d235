/-
**Those who wait for credit in the Rust crate** (`poll_reserve` and `reserve_stream_slot` of
`flow.rs`).

A call of `poll_reserve` that returns `Pending` leaves its waker, and `wake_locked` takes all of
them. A call of `reserve_stream_slot` registers with `notify_waiters`, looks for a slot under the
lock, and is parked if there is none. Every other operation is one section under the lock.

* `CreditOp.wakes_or_keeps` — an operation wakes everybody, or leaves all credit as it was;
* `FailWakes.rejects` — on a connection that failed everybody is rejected, and nobody asleep;
* `no_lost_wakeup` — a waiter that was not woken waits for credit that is not there, in every run in
  which `next_id` does not wrap;
* `waker_lost` — after `2 ^ 64` streams an id is given again, and the new stream has credit its
  waiter does not see.
-/

import Kps.Lib.Run
import Kps.Rust.Entries

namespace Kps.Rust

open Kps.Lib

/-- An operation of the engine, but for `reserve_stream_slot`. -/
inductive CreditOp
  | onPeerHello (limits : FlowWindows)
  | onPeerMaxData (v : UInt64)
  | onPeerMaxStreams (v : UInt64)
  | onPeerMaxStreamData (id v : UInt64)
  | newStream
  | dropStream (id : UInt64)
  | pollReserve (id want : UInt64)
  | commit (id n : UInt64)
  | release (id n : UInt64)
  | failSend (id : UInt64)
  | commitStreamSlot
  | releaseStreamSlot
  | onDataReceived (id n : UInt64)
  | onConsumed (id n : UInt64)
  | markCancelled (id : UInt64)
  | peerStreamOpened
  | peerStreamRetired
  | fail (error : Option StreamError)
  deriving DecidableEq, Repr

def ReserveResult.flow (f : ConnFlow) : ReserveResult → ConnFlow
  | failed _ => f
  | granted _ flow => flow
  | pending flow => flow

def CreditOp.apply (f : ConnFlow) : CreditOp → ConnFlow
  | onPeerHello limits => f.onPeerHello limits
  | onPeerMaxData v => f.onPeerMaxData v
  | onPeerMaxStreams v => f.onPeerMaxStreams v
  | onPeerMaxStreamData id v => f.onPeerMaxStreamData id v
  | newStream => f.newStream.value
  | dropStream id => (f.dropStream id).value
  | pollReserve id want => (f.pollReserve id want).value.flow f
  | commit id n => (f.commit id n).value
  | release id n => (f.release id n).value
  | failSend id => f.failSend id
  | commitStreamSlot => f.commitStreamSlot.value
  | releaseStreamSlot => f.releaseStreamSlot.value
  | onDataReceived id n => (f.onDataReceived id n).value.toOption.getD f
  | onConsumed id n => (f.onConsumed id n).value.1
  | markCancelled id => f.markCancelled id
  | peerStreamOpened => f.peerStreamOpened.value.toOption.getD f
  | peerStreamRetired => f.peerStreamRetired.value
  | fail error => f.fail error

/-- A call of `reserve_stream_slot`: it has registered after `since` notifications, is parked, or
returned. -/
inductive SlotCall
  | enabled (since : Nat)
  | parked (since : Nat)
  | returned (result : Except Error Unit)
  | dropped

/-- The credit of a connection, and those who wait for it. `waits` are the streams and the wishes of
the calls of `poll_reserve` whose waker was left, and not woken since. -/
structure CreditWaits where
  flow : ConnFlow
  waits : List (UInt64 × UInt64) := []
  slots : List SlotCall := []

namespace CreditWaits

inductive Label
  | op (op : CreditOp)
  /-- `reserve_stream_slot` is called, and registers. -/
  | reserve
  /-- It looks for a slot under the lock. -/
  | pass (k : Nat)
  /-- It was notified, and registers again. -/
  | wake (k : Nat)
  | drop (k : Nat)
  deriving DecidableEq, Repr

/-- `fail` is called. -/
def Label.isFail : Label → Bool
  | .op (.fail _) => true
  | _ => false

def new (limits : FlowWindows) : CreditWaits where
  flow := .new limits

/-- The wakers that were left are gone if there was a wake-up. -/
def after (flow : ConnFlow) (c : CreditWaits) : List (UInt64 × UInt64) :=
  if flow.notifies = c.flow.notifies then c.waits else []

/-- The waker that an operation leaves. -/
def leaves (f : ConnFlow) : CreditOp → List (UInt64 × UInt64)
  | .pollReserve id want =>
    match (f.pollReserve id want).value with
    | .pending _ => [(id, want)]
    | _ => []
  | _ => []

def goTo (k : Nat) (call : SlotCall) (c : CreditWaits) : CreditWaits :=
  { c with slots := c.slots.set k call }

def step (c : CreditWaits) : Label → Option CreditWaits
  | .op op =>
    some { c with flow := op.apply c.flow, waits := c.after (op.apply c.flow) ++ leaves c.flow op }
  | .reserve => some { c with slots := c.slots ++ [.enabled c.flow.notifies] }
  | .pass k =>
    match c.slots[k]? with
    | some (.enabled since) =>
      match c.flow.reserveStreamSlot.value with
      | .failed error => some (c.goTo k (.returned (.error error)))
      | .reserved flow => some (goTo k (.returned (.ok ())) { c with flow })
      | .waiting => some (c.goTo k (.parked since))
    | _ => none
  | .wake k =>
    match c.slots[k]? with
    | some (.parked since) =>
      if since < c.flow.notifies then some (c.goTo k (.enabled c.flow.notifies)) else none
    | _ => none
  | .drop k => if k < c.slots.length then some (c.goTo k .dropped) else none

end CreditWaits

namespace ConnFlow

/-- What the connection still has for `poll_reserve`. -/
def connCredit (f : ConnFlow) : UInt64 := f.peerMaxData - f.connSent - f.connReserved

def streamCredit (f : ConnFlow) (s : StreamState) : UInt64 :=
  max s.peerMaxExplicit f.peerInitStreamData - s.sendSent - s.sendReserved

/-- Nobody is left asleep. -/
structure Wakes (f f' : ConnFlow) : Prop where
  wakers : f'.wakers = []
  notifies : f'.notifies = f.notifies + 1

/-- Nobody is woken, and the connection has what it had. -/
structure Stays (f f' : ConnFlow) : Prop where
  wakers : f'.wakers = f.wakers
  notifies : f'.notifies = f.notifies
  failed : f'.isFailed = f.isFailed ∧ f'.failed = f.failed
  conn : f'.connCredit = f.connCredit
  slots : f'.streamsOpened + f'.streamsReserved = f.streamsOpened + f.streamsReserved
  limit : f'.peerMaxStreams = f.peerMaxStreams

/-- The streams have the credit they had. -/
def KeepsStreams (f f' : ConnFlow) : Prop :=
  ∀ id s, f.streams id = some s → ∃ s', f'.streams id = some s' ∧ s'.sendFailed = s.sendFailed ∧
    f'.streamCredit s' = f.streamCredit s

/-- All credit is as it was. -/
structure Keeps (f f' : ConnFlow) : Prop extends Stays f f' where
  streams : KeepsStreams f f'

variable {f f' : ConnFlow}

theorem KeepsStreams.refl : KeepsStreams f f := fun _ s found => ⟨s, found, rfl, rfl⟩

theorem KeepsStreams.same (streams : f'.streams = f.streams)
    (initial : f'.peerInitStreamData = f.peerInitStreamData) : KeepsStreams f f' := by
  intro id s found
  refine ⟨s, streams ▸ found, rfl, ?_⟩
  unfold streamCredit
  rw [initial]

theorem KeepsStreams.put {id : UInt64} {s s' : StreamState} (found : f.streams id = some s)
    (streams : f'.streams = f.streams.insert id s') (failed : s'.sendFailed = s.sendFailed)
    (credit : f'.streamCredit s' = f.streamCredit s)
    (initial : f'.peerInitStreamData = f.peerInitStreamData) : KeepsStreams f f' := by
  intro other before there
  rw [streams]
  by_cases same : other = id
  · subst same
    rw [found] at there
    cases there
    exact ⟨s', Table.insert_self, failed, credit⟩
  · refine ⟨before, (Table.insert_of_ne same).trans there, rfl, ?_⟩
    unfold streamCredit
    rw [initial]

theorem Keeps.refl : Keeps f f := ⟨⟨rfl, rfl, ⟨rfl, rfl⟩, rfl, rfl, rfl⟩, .refl⟩

theorem Keeps.trans {f'' : ConnFlow} (first : Keeps f f') (second : Keeps f' f'') :
    Keeps f f'' where
  wakers := second.wakers.trans first.wakers
  notifies := second.notifies.trans first.notifies
  failed := ⟨second.failed.1.trans first.failed.1, second.failed.2.trans first.failed.2⟩
  conn := second.conn.trans first.conn
  slots := second.slots.trans first.slots
  limit := second.limit.trans first.limit
  streams id s found := by
    obtain ⟨s', found', failed, credit⟩ := first.streams id s found
    obtain ⟨s'', found'', failed', credit'⟩ := second.streams id s' found'
    exact ⟨s'', found'', failed'.trans failed, credit'.trans credit⟩

/-- Bytes that go from reserved to sent stay spent. -/
theorem sub_move (limit sent reserved n : UInt64) :
    limit - (sent + n) - (reserved - n) = limit - sent - reserved := by
  rw [sub_sub, sub_sub]
  congr 1
  rw [add_assoc, add_sub_cancel]

theorem commit_keeps (id n : UInt64) : Keeps f (f.commit id n).value := by
  unfold commit
  split
  · next s found =>
    refine ⟨⟨rfl, rfl, ⟨rfl, rfl⟩, ?_, rfl, rfl⟩, .put found rfl rfl ?_ rfl⟩
    · exact sub_move f.peerMaxData f.connSent f.connReserved n
    · exact sub_move (max s.peerMaxExplicit f.peerInitStreamData) s.sendSent s.sendReserved n
  · exact .refl

theorem commitStreamSlot_keeps : Keeps f f.commitStreamSlot.value := by
  refine ⟨⟨rfl, rfl, ⟨rfl, rfl⟩, rfl, ?_, rfl⟩, .same rfl rfl⟩
  show f.streamsOpened + 1 + (f.streamsReserved - 1) = _
  rw [add_assoc, add_sub_cancel]

theorem onDataReceived_keeps (id n : UInt64) :
    Keeps f ((f.onDataReceived id n).value.toOption.getD f) := by
  unfold onDataReceived
  split
  · exact .refl
  · next s found =>
    dsimp only [bind, pure]
    split
    · exact .refl
    split
    · exact .refl
    · exact ⟨⟨rfl, rfl, ⟨rfl, rfl⟩, rfl, rfl, rfl⟩, .put found rfl rfl rfl rfl⟩

theorem streamConsumed_keeps (id n : UInt64) : Keeps f (f.streamConsumed id n).value.1 := by
  unfold streamConsumed
  split
  · exact .refl
  · next s found =>
    have put (s' : StreamState) (failed : s'.sendFailed = s.sendFailed)
        (credit : f.streamCredit s' = f.streamCredit s) : Keeps f (f.put id s') :=
      ⟨⟨rfl, rfl, ⟨rfl, rfl⟩, rfl, rfl, rfl⟩, .put found rfl failed credit rfl⟩
    dsimp only [bind, pure]
    split
    · exact put _ rfl rfl
    split <;> exact put _ rfl rfl

theorem connConsume_keeps (n : UInt64) : Keeps f (f.connConsume n).value := by
  unfold connConsume
  dsimp only [bind, pure]
  split <;> exact ⟨⟨rfl, rfl, ⟨rfl, rfl⟩, rfl, rfl, rfl⟩, .same rfl rfl⟩

theorem onConsumed_keeps (id n : UInt64) : Keeps f (f.onConsumed id n).value.1 :=
  (streamConsumed_keeps id n).trans (connConsume_keeps n)

theorem markCancelled_keeps (id : UInt64) : Keeps f (f.markCancelled id) := by
  unfold markCancelled
  split
  · next s found => exact ⟨⟨rfl, rfl, ⟨rfl, rfl⟩, rfl, rfl, rfl⟩, .put found rfl rfl rfl rfl⟩
  · exact .refl

theorem peerStreamOpened_keeps : Keeps f (f.peerStreamOpened.value.toOption.getD f) := by
  unfold peerStreamOpened
  split
  · exact .refl
  · exact ⟨⟨rfl, rfl, ⟨rfl, rfl⟩, rfl, rfl, rfl⟩, .same rfl rfl⟩

theorem peerStreamRetired_keeps : Keeps f f.peerStreamRetired.value :=
  ⟨⟨rfl, rfl, ⟨rfl, rfl⟩, rfl, rfl, rfl⟩, .same rfl rfl⟩

theorem newStream_stays : Stays f f.newStream.value := ⟨rfl, rfl, ⟨rfl, rfl⟩, rfl, rfl, rfl⟩

/-- An id that no stream has. -/
theorem newStream_keeps (unused : f.streams (f.nextId + 1) = none) :
    KeepsStreams f f.newStream.value := by
  refine fun id s found => ⟨s, ?_, rfl, rfl⟩
  show f.streams.insert (f.nextId + 1) _ id = some s
  rw [Table.insert_of_ne ?_]
  · exact found
  · rintro rfl
    rw [unused] at found
    cases found

/-- What a stream and the connection have together. -/
def credit (f : ConnFlow) (s : StreamState) : UInt64 := min (f.streamCredit s) f.connCredit

theorem credit_eq_zero {s : StreamState} :
    f.credit s = 0 ↔ f.streamCredit s = 0 ∨ f.connCredit = 0 := by
  unfold credit
  rw [← Word.int_inj, Word.int_min, ← Word.int_inj, ← Word.int_inj]
  have zero : Word.int 0 = 0 := rfl
  have stream := Word.int_nonneg (f.streamCredit s)
  have conn := Word.int_nonneg f.connCredit
  rw [zero]
  omega

/-- **A pass of `poll_reserve`** is rejected, is granted credit that both have, or leaves a waker
because one has none. -/
theorem pollReserve_cases (id want : UInt64) :
    (∃ error, (f.pollReserve id want).value = .failed error) ∨
    (∃ amount flow s, (f.pollReserve id want).value = .granted amount flow ∧ f.streams id = some s ∧
      f.isFailed = false ∧ f.credit s ≠ 0 ∧ flow.wakers = f.wakers ∧ flow.notifies = f.notifies ∧
      (flow.isFailed = f.isFailed ∧ flow.failed = f.failed) ∧
      flow.streamsOpened + flow.streamsReserved = f.streamsOpened + f.streamsReserved ∧
      flow.peerMaxStreams = f.peerMaxStreams ∧
      ∀ other s', other ≠ id → f.streams other = some s' → flow.streams other = some s' ∧
        flow.streamCredit s' = f.streamCredit s') ∨
    (∃ s, (f.pollReserve id want).value = .pending { f with wakers := f.wakers ++ [id] } ∧
      f.isFailed = false ∧ f.streams id = some s ∧ s.sendFailed = false ∧
      (1 ≤ want → f.credit s = 0)) := by
  unfold pollReserve
  by_cases failed : f.isFailed = true
  · rw [if_pos failed]
    exact Or.inl ⟨_, rfl⟩
  rw [if_neg failed]
  have live : f.isFailed = false := Bool.not_eq_true _ ▸ failed
  dsimp only [bind, pure]
  cases found : f.streams id with
  | none => exact Or.inl ⟨_, rfl⟩
  | some s =>
    dsimp only
    by_cases ended : s.sendFailed = true
    · rw [if_pos ended]
      exact Or.inl ⟨_, rfl⟩
    rw [if_neg ended]
    by_cases positive : min (min (f.streamCredit s) f.connCredit) want ≥ 1
    · let grant := min (min (f.streamCredit s) f.connCredit) want
      refine Or.inr (Or.inl ⟨grant, put id { s with sendReserved := s.sendReserved + grant }
        { f with connReserved := f.connReserved + grant }, s, ?_, rfl, live, ?_, ?_⟩)
      · exact congrArg Traced.value (if_pos positive)
      · intro none
        unfold credit at none
        rw [none, ge_iff_le, ← Word.int_le_iff, Word.int_min] at positive
        have zero : Word.int 0 = 0 := rfl
        have one : Word.int 1 = 1 := rfl
        omega
      · refine ⟨rfl, rfl, ⟨rfl, rfl⟩, rfl, rfl, fun other s' different there => ⟨?_, rfl⟩⟩
        exact (Table.insert_of_ne different).trans there
    · refine Or.inr (Or.inr ⟨s, congrArg Traced.value (if_neg positive), live, rfl,
        Bool.not_eq_true _ ▸ ended, fun wish => ?_⟩)
      rw [credit_eq_zero]
      rcases Word.min_min_eq_zero positive with stream | conn | none
      · exact Or.inl stream
      · exact Or.inr conn
      · rw [none, ← Word.int_le_iff] at wish
        exact absurd wish (by decide)

end ConnFlow

namespace CreditOp

open ConnFlow

variable {f : ConnFlow}

/-- **An operation wakes everybody or leaves all credit as it was.** -/
theorem wakes_or_keeps (op : CreditOp) (polls : ∀ id want, op ≠ pollReserve id want) :
    Wakes f (op.apply f) ∨ Stays f (op.apply f) ∧
      (op = newStream ∨ KeepsStreams f (op.apply f)) := by
  have keeps {f' : ConnFlow} (kept : Keeps f f') :
      Wakes f f' ∨ Stays f f' ∧ (op = newStream ∨ KeepsStreams f f') :=
    Or.inr ⟨kept.toStays, Or.inr kept.streams⟩
  cases op with
  | onPeerHello limits => exact Or.inl ⟨rfl, rfl⟩
  | onPeerMaxData v =>
    simp only [apply, ConnFlow.onPeerMaxData]
    split
    · exact Or.inl ⟨rfl, rfl⟩
    · exact keeps .refl
  | onPeerMaxStreams v =>
    simp only [apply, ConnFlow.onPeerMaxStreams]
    split
    · exact Or.inl ⟨rfl, rfl⟩
    · exact keeps .refl
  | onPeerMaxStreamData id v =>
    simp only [apply, ConnFlow.onPeerMaxStreamData]
    split
    · split
      · exact Or.inl ⟨rfl, rfl⟩
      · exact keeps .refl
    · exact keeps .refl
  | newStream => exact Or.inr ⟨newStream_stays, Or.inl rfl⟩
  | dropStream id =>
    simp only [apply, ConnFlow.dropStream]
    split
    · exact Or.inl ⟨rfl, rfl⟩
    · exact keeps .refl
  | pollReserve id want => exact absurd rfl (polls id want)
  | commit id n => exact keeps (commit_keeps id n)
  | release id n =>
    simp only [apply, ConnFlow.release]
    split
    · exact Or.inl ⟨rfl, rfl⟩
    · exact Or.inl ⟨rfl, rfl⟩
  | failSend id =>
    simp only [apply, ConnFlow.failSend]
    split
    · split
      · exact keeps .refl
      · exact Or.inl ⟨rfl, rfl⟩
    · exact keeps .refl
  | commitStreamSlot => exact keeps commitStreamSlot_keeps
  | releaseStreamSlot => exact Or.inl ⟨rfl, rfl⟩
  | onDataReceived id n => exact keeps (onDataReceived_keeps id n)
  | onConsumed id n => exact keeps (onConsumed_keeps id n)
  | markCancelled id => exact keeps (markCancelled_keeps id)
  | peerStreamOpened => exact keeps peerStreamOpened_keeps
  | peerStreamRetired => exact keeps peerStreamRetired_keeps
  | fail error =>
    simp only [apply, ConnFlow.fail]
    split
    · exact keeps .refl
    · exact Or.inl ⟨rfl, rfl⟩

/-- Only `fail` fails the connection. -/
theorem failed (op : CreditOp) (other : ∀ error, op ≠ fail error) :
    (op.apply f).isFailed = f.isFailed ∧ (op.apply f).failed = f.failed := by
  cases op with
  | onPeerMaxData v =>
    simp only [apply, ConnFlow.onPeerMaxData]
    split <;> exact ⟨rfl, rfl⟩
  | onPeerMaxStreams v =>
    simp only [apply, ConnFlow.onPeerMaxStreams]
    split <;> exact ⟨rfl, rfl⟩
  | onPeerMaxStreamData id v =>
    simp only [apply, ConnFlow.onPeerMaxStreamData]
    split
    · split <;> exact ⟨rfl, rfl⟩
    · exact ⟨rfl, rfl⟩
  | dropStream id =>
    simp only [apply, ConnFlow.dropStream]
    split <;> exact ⟨rfl, rfl⟩
  | pollReserve id want =>
    simp only [apply]
    rcases f.pollReserve_cases id want with ⟨error, polled⟩
      | ⟨amount, flow, s, polled, -, -, -, -, -, same, -⟩ |
      ⟨s, polled, -⟩
    · rw [polled]
      exact ⟨rfl, rfl⟩
    · rw [polled]
      exact same
    · rw [polled]
      exact ⟨rfl, rfl⟩
  | commit id n => exact (commit_keeps id n).failed
  | release id n =>
    simp only [apply, ConnFlow.release]
    split <;> exact ⟨rfl, rfl⟩
  | failSend id =>
    simp only [apply, ConnFlow.failSend]
    split
    · split <;> exact ⟨rfl, rfl⟩
    · exact ⟨rfl, rfl⟩
  | onDataReceived id n => exact (onDataReceived_keeps id n).failed
  | onConsumed id n => exact (onConsumed_keeps id n).failed
  | markCancelled id => exact (markCancelled_keeps id).failed
  | peerStreamOpened => exact peerStreamOpened_keeps.failed
  | fail error => exact absurd rfl (other error)
  | _ => exact ⟨rfl, rfl⟩

/-- An operation makes no stream but `newStream`, which makes one. -/
theorem ids (op : CreditOp) (other : op ≠ newStream) : (op.apply f).nextId = f.nextId ∧
    ∀ id s', (op.apply f).streams id = some s' → ∃ s, f.streams id = some s := by
  have revised {id : UInt64} {change : Totals → Totals} {f' : ConnFlow}
    (revises : Revises id change f f') :
      f'.nextId = f.nextId ∧ ∀ id s', f'.streams id = some s' → ∃ s, f.streams id = some s := by
    refine ⟨revises.nextId, fun at' s' found => ?_⟩
    by_cases same : at' = id
    · subst same
      obtain ⟨s, before, -⟩ := revises.here s' found
      exact ⟨s, before⟩
    · exact ⟨s', revises.elsewhere at' same ▸ found⟩
  have kept {f' : ConnFlow} (nextId : f'.nextId = f.nextId) (streams : f'.streams = f.streams) :
      f'.nextId = f.nextId ∧ ∀ id s', f'.streams id = some s' → ∃ s, f.streams id = some s :=
    ⟨nextId, fun _ s' found => ⟨s', streams ▸ found⟩⟩
  cases op with
  | onPeerHello limits => exact kept rfl rfl
  | onPeerMaxData v =>
    simp only [apply, ConnFlow.onPeerMaxData]
    split <;> exact kept rfl rfl
  | onPeerMaxStreams v =>
    simp only [apply, ConnFlow.onPeerMaxStreams]
    split <;> exact kept rfl rfl
  | onPeerMaxStreamData id v => exact revised (revises_onPeerMaxStreamData v)
  | newStream => exact absurd rfl other
  | dropStream id => exact revised revises_dropStream
  | pollReserve id want =>
    simp only [apply]
    cases polled : (f.pollReserve id want).value with
    | failed error => exact kept rfl rfl
    | granted amount flow => exact revised (pollReserve_granted polled).2.2
    | pending flow =>
      obtain ⟨streams, nextId, -⟩ := pollReserve_pending polled
      exact kept nextId streams
  | commit id n => exact revised (revises_commit n)
  | release id n => exact revised (revises_release n)
  | failSend id => exact revised revises_failSend
  | commitStreamSlot => exact kept rfl rfl
  | releaseStreamSlot => exact kept rfl rfl
  | onDataReceived id n =>
    simp only [apply]
    cases admitted : (f.onDataReceived id n).value with
    | error text => exact kept rfl rfl
    | ok flow => exact revised (revises_onDataReceived admitted)
  | onConsumed id n => exact revised (revises_onConsumed n)
  | markCancelled id => exact revised revises_markCancelled
  | peerStreamOpened =>
    simp only [apply, ConnFlow.peerStreamOpened]
    split <;> exact kept rfl rfl
  | peerStreamRetired => exact kept rfl rfl
  | fail error =>
    simp only [apply, ConnFlow.fail]
    split <;> exact kept rfl rfl

end CreditOp

namespace CreditWaits

variable {c c' : CreditWaits} {label : Label}

/-- Nobody waits for what is there: a waker that was not woken is of a live stream on a live
connection, one of which has no credit; and a call that is parked, and not notified, finds no
slot. -/
structure NoLostWakeup (c : CreditWaits) : Prop where
  credit : ∀ id want, (id, want) ∈ c.waits → 1 ≤ want → c.flow.isFailed = false ∧
    ∃ s, c.flow.streams id = some s ∧ s.sendFailed = false ∧ c.flow.credit s = 0
  slots : ∀ since, .parked since ∈ c.slots → ¬ since < c.flow.notifies → c.flow.isFailed = false ∧
    c.flow.streamsOpened + c.flow.streamsReserved ≥ c.flow.peerMaxStreams

/-- `waits` are the wakers that are there, and a registration is not from the future. -/
structure Registered (c : CreditWaits) : Prop where
  wakers : c.flow.wakers = c.waits.map Prod.fst
  enabled : ∀ since, .enabled since ∈ c.slots → since ≤ c.flow.notifies
  parked : ∀ since, .parked since ∈ c.slots → since ≤ c.flow.notifies

theorem after_keeps {flow : ConnFlow} (same : flow.notifies = c.flow.notifies) :
    c.after flow = c.waits := if_pos same

theorem after_wakes {flow : ConnFlow} (woken : flow.notifies = c.flow.notifies + 1) :
    c.after flow = [] :=
  if_neg (by omega)

/-! ### Operations -/

theorem leaves_eq_nil {f : ConnFlow} {op : CreditOp}
    (polls : ∀ id want, op ≠ .pollReserve id want) :
    leaves f op = [] := by
  cases op with
  | pollReserve id want => exact absurd rfl (polls id want)
  | _ => rfl

/-- What an operation does to those who wait. -/
theorem op_cases (c : CreditWaits) (op : CreditOp) :
    (ConnFlow.Wakes c.flow (op.apply c.flow) ∧ c.after (op.apply c.flow) ++ leaves c.flow op = []) ∨
    (ConnFlow.Stays c.flow (op.apply c.flow) ∧
      (op = .newStream ∨ ConnFlow.KeepsStreams c.flow (op.apply c.flow)) ∧
      c.after (op.apply c.flow) ++ leaves c.flow op = c.waits) ∨
    (∃ id want, op = .pollReserve id want) := by
  by_cases polls : ∃ id want, op = .pollReserve id want
  · exact Or.inr (Or.inr polls)
  have other : ∀ id want, op ≠ .pollReserve id want := fun id want is => polls ⟨id, want, is⟩
  rw [leaves_eq_nil other, List.append_nil]
  rcases op.wakes_or_keeps other with wakes | ⟨stays, streams⟩
  · exact Or.inl ⟨wakes, after_wakes wakes.notifies⟩
  · exact Or.inr (Or.inl ⟨stays, streams, after_keeps stays.notifies⟩)

theorem Registered.congr (registered : Registered c) (slots : c'.slots = c.slots)
    (notifies : c.flow.notifies ≤ c'.flow.notifies)
    (wakers : c'.flow.wakers = c'.waits.map Prod.fst) :
    Registered c' := by
  refine ⟨wakers, fun since member => ?_, fun since member => ?_⟩
  · exact (registered.enabled since (slots ▸ member)).trans notifies
  · exact (registered.parked since (slots ▸ member)).trans notifies

theorem Registered.op (registered : Registered c) (op : CreditOp) :
    Registered { c with
      flow := op.apply c.flow, waits := c.after (op.apply c.flow) ++ leaves c.flow op } := by
  rcases op_cases c op with ⟨wakes, none⟩ | ⟨stays, -, same⟩ | ⟨id, want, rfl⟩
  · refine registered.congr rfl (wakes.notifies ▸ Nat.le_succ _) ?_
    rw [none]
    exact wakes.wakers
  · refine registered.congr rfl stays.notifies.ge ?_
    rw [same]
    exact stays.wakers.trans registered.wakers
  · rcases c.flow.pollReserve_cases id want with ⟨error, polled⟩
      | ⟨amount, flow, s, polled, found, live, some', wakers, notifies, rest⟩ | ⟨s, polled, rest⟩
    · simp only [CreditOp.apply, leaves, polled, ReserveResult.flow, after_keeps, List.append_nil]
      exact registered
    · simp only [CreditOp.apply, leaves, polled, ReserveResult.flow, after_keeps notifies,
        List.append_nil]
      exact registered.congr rfl notifies.ge (wakers.trans registered.wakers)
    · simp only [CreditOp.apply, leaves, polled, ReserveResult.flow]
      have kept : c.after { c.flow with wakers := c.flow.wakers ++ [id] } = c.waits :=
        after_keeps rfl
      rw [kept]
      refine registered.congr rfl (Nat.le_refl _) ?_
      rw [List.map_append]
      exact congrArg (· ++ [id]) registered.wakers

/-- A call of `reserve_stream_slot` goes on. -/
theorem Registered.goTo (registered : Registered c) {k : Nat} {call : SlotCall} {flow : ConnFlow}
    (wakers : flow.wakers = c.flow.wakers) (notifies : flow.notifies = c.flow.notifies)
    (since : ∀ since, call = .enabled since ∨ call = .parked since → since ≤ c.flow.notifies) :
    Registered (goTo k call { c with flow }) := by
  refine ⟨wakers.trans registered.wakers, fun at' member => ?_, fun at' member => ?_⟩
  · show at' ≤ flow.notifies
    rw [notifies]
    rcases List.mem_or_eq_of_mem_set member with old | same
    · exact registered.enabled at' old
    · exact since at' (Or.inl same.symm)
  · show at' ≤ flow.notifies
    rw [notifies]
    rcases List.mem_or_eq_of_mem_set member with old | same
    · exact registered.parked at' old
    · exact since at' (Or.inr same.symm)

/-- A pass of `reserve_stream_slot` finds the connection failed, a slot, or none. -/
theorem reserveStreamSlot_cases (f : ConnFlow) :
    (∃ error, f.reserveStreamSlot.value = .failed error ∧ f.isFailed = true) ∨
    (∃ flow, f.reserveStreamSlot.value = .reserved flow ∧ f.isFailed = false ∧
      f.streamsOpened + f.streamsReserved < f.peerMaxStreams ∧
      flow = { f with streamsReserved := f.streamsReserved + 1 }) ∨
    (f.reserveStreamSlot.value = .waiting ∧ f.isFailed = false ∧
      f.streamsOpened + f.streamsReserved ≥ f.peerMaxStreams) := by
  unfold ConnFlow.reserveStreamSlot
  by_cases failed : f.isFailed = true
  · rw [if_pos failed]
    exact Or.inl ⟨_, rfl, failed⟩
  rw [if_neg failed]
  have live : f.isFailed = false := Bool.not_eq_true _ ▸ failed
  dsimp only [bind, pure]
  by_cases room : (Word.add f.streamsOpened f.streamsReserved).value < f.peerMaxStreams
  · rw [if_pos room]
    exact Or.inr (Or.inl ⟨_, rfl, live, room, rfl⟩)
  · rw [if_neg room]
    exact Or.inr (Or.inr ⟨rfl, live, UInt64.not_lt.mp room⟩)

theorem Registered.step (registered : Registered c) (stepped : c.step label = some c') :
    Registered c' := by
  cases label with
  | op op =>
    cases stepped
    exact registered.op op
  | reserve =>
    cases stepped
    refine ⟨registered.wakers, fun since member => ?_, fun since member => ?_⟩
    · rcases List.mem_append.mp member with old | new
      · exact registered.enabled since old
      · cases List.mem_singleton.mp new
        exact Nat.le_refl _
    · rcases List.mem_append.mp member with old | new
      · exact registered.parked since old
      · cases List.mem_singleton.mp new
  | pass k =>
    simp only [CreditWaits.step] at stepped
    split at stepped
    · next since found =>
      rcases reserveStreamSlot_cases c.flow with ⟨error, passed, -⟩ | ⟨flow, passed, -, -, rfl⟩
        | ⟨passed, -, -⟩
      · rw [passed] at stepped
        cases stepped
        exact registered.goTo rfl rfl (by simp)
      · rw [passed] at stepped
        cases stepped
        exact registered.goTo rfl rfl (by simp)
      · rw [passed] at stepped
        cases stepped
        refine registered.goTo rfl rfl fun at' same => ?_
        rcases same with same | same <;> cases same
        exact registered.enabled since (List.mem_of_getElem? found)
    · cases stepped
  | wake k =>
    simp only [CreditWaits.step] at stepped
    split at stepped
    · split at stepped <;> cases stepped
      refine registered.goTo rfl rfl fun at' same => ?_
      rcases same with same | same <;> cases same
      exact Nat.le_refl _
    · cases stepped
  | drop k =>
    simp only [CreditWaits.step] at stepped
    split at stepped <;> cases stepped
    exact registered.goTo rfl rfl (by simp)

/-! ### A connection that failed -/

/-- Nobody is asleep on a connection that failed. -/
def FailWakes (c : CreditWaits) : Prop := c.flow.isFailed = true →
  c.waits = [] ∧ ∀ since, .parked since ∈ c.slots → since < c.flow.notifies

/-- Everybody who waits, or comes to wait, is rejected. -/
structure Rejects (c : CreditWaits) : Prop where
  credit : ∀ id want, (c.flow.pollReserve id want).value = .failed c.flow.failure
  slot : c.flow.reserveStreamSlot.value = .failed c.flow.failure
  woken : c.waits = [] ∧ ∀ since, .parked since ∈ c.slots → since < c.flow.notifies

theorem FailWakes.rejects (wakes : FailWakes c) (failed : c.flow.isFailed = true) : Rejects c := by
  refine ⟨fun id want => ?_, ?_, wakes failed⟩
  · unfold ConnFlow.pollReserve
    rw [if_pos failed]
    rfl
  · unfold ConnFlow.reserveStreamSlot
    rw [if_pos failed]
    rfl

theorem Rejects.failed (rejects : Rejects c) : c.flow.isFailed = true := by
  have slot := rejects.slot
  rcases reserveStreamSlot_cases c.flow with ⟨error, -, failed⟩ | ⟨flow, passed, -⟩ | ⟨passed, -⟩
  · exact failed
  · rw [passed] at slot
    cases slot
  · rw [passed] at slot
    cases slot

theorem FailWakes.goTo {flow : ConnFlow} (wakes : FailWakes c) {k : Nat} {call : SlotCall}
    (failed : flow.isFailed = c.flow.isFailed) (notifies : flow.notifies = c.flow.notifies)
    (parked : ∀ since, call ≠ .parked since) :
      FailWakes (CreditWaits.goTo k call { c with flow }) := by
  intro now
  obtain ⟨none, woken⟩ := wakes (failed ▸ now)
  refine ⟨none, fun since member => ?_⟩
  show since < flow.notifies
  rw [notifies]
  rcases List.mem_or_eq_of_mem_set member with old | same
  · exact woken since old
  · exact absurd same.symm (parked since)

theorem FailWakes.step (wakes : FailWakes c) (registered : Registered c)
    (stepped : c.step label = some c') :
    FailWakes c' := by
  cases label with
  | op op =>
    cases stepped
    intro failed
    rcases op_cases c op with ⟨woken, none⟩ | ⟨stays, -, same⟩ | ⟨id, want, rfl⟩
    · refine ⟨none, fun since member => ?_⟩
      have small := registered.parked since member
      have more := woken.notifies
      show since < (op.apply c.flow).notifies
      omega
    · obtain ⟨none, woken⟩ := wakes (stays.failed.1.symm.trans failed)
      refine ⟨same.trans none, fun since member => ?_⟩
      show since < (op.apply c.flow).notifies
      rw [stays.notifies]
      exact woken since member
    · have failed' : c.flow.isFailed = true :=
        ((CreditOp.pollReserve id want).failed (f := c.flow) (by simp)).1.symm.trans failed
      have rejected : (c.flow.pollReserve id want).value = .failed c.flow.failure := by
        unfold ConnFlow.pollReserve
        rw [if_pos failed']
        rfl
      simp only [CreditOp.apply, leaves, rejected, ReserveResult.flow, after_keeps, List.append_nil]
      exact wakes failed'
  | reserve =>
    cases stepped
    intro failed
    obtain ⟨none, woken⟩ := wakes failed
    refine ⟨none, fun since member => ?_⟩
    rcases List.mem_append.mp member with old | new
    · exact woken since old
    · cases List.mem_singleton.mp new
  | pass k =>
    simp only [CreditWaits.step] at stepped
    split at stepped
    · next since found =>
      rcases reserveStreamSlot_cases c.flow with ⟨error, passed, -⟩ | ⟨flow, passed, live, -, rfl⟩
        | ⟨passed, live, -⟩
      · rw [passed] at stepped
        cases stepped
        exact wakes.goTo rfl rfl (by simp)
      · rw [passed] at stepped
        cases stepped
        exact wakes.goTo rfl rfl (by simp)
      · rw [passed] at stepped
        cases stepped
        intro failed
        exact Bool.noConfusion (live.symm.trans failed)
    · cases stepped
  | wake k =>
    simp only [CreditWaits.step] at stepped
    split at stepped
    · split at stepped <;> cases stepped
      exact wakes.goTo rfl rfl (by simp)
    · cases stepped
  | drop k =>
    simp only [CreditWaits.step] at stepped
    split at stepped <;> cases stepped
    exact wakes.goTo rfl rfl (by simp)

/-- Only `fail` fails the connection. -/
theorem step_failed (stepped : c.step label = some c')
    (other : ∀ error, label ≠ .op (.fail error)) :
    c'.flow.isFailed = c.flow.isFailed ∧ c'.flow.failed = c.flow.failed := by
  cases label with
  | op op =>
    cases stepped
    exact op.failed fun error same => other error (congrArg Label.op same)
  | reserve =>
    cases stepped
    exact ⟨rfl, rfl⟩
  | pass k =>
    simp only [CreditWaits.step] at stepped
    split at stepped
    · rcases reserveStreamSlot_cases c.flow with ⟨error, passed, -⟩ | ⟨flow, passed, -, -, rfl⟩
        | ⟨passed, -, -⟩
      · rw [passed] at stepped
        cases stepped
        exact ⟨rfl, rfl⟩
      · rw [passed] at stepped
        cases stepped
        exact ⟨rfl, rfl⟩
      · rw [passed] at stepped
        cases stepped
        exact ⟨rfl, rfl⟩
    · cases stepped
  | wake k =>
    simp only [CreditWaits.step] at stepped
    split at stepped
    · split at stepped <;> cases stepped
      exact ⟨rfl, rfl⟩
    · cases stepped
  | drop k =>
    simp only [CreditWaits.step] at stepped
    split at stepped <;> cases stepped
    exact ⟨rfl, rfl⟩

/-! ### No waiter is forgotten -/

/-- The stream that is made gets an id that was not given before. -/
def NoWrap (c : CreditWaits) : Label → Prop
  | .op .newStream => c.flow.nextId.toNat + 1 < 2 ^ 64
  | _ => True

instance (c : CreditWaits) (label : Label) : Decidable (NoWrap c label) := by
  unfold NoWrap
  split <;> infer_instance

structure Inv (c : CreditWaits) : Prop extends Registered c, NoLostWakeup c where
  ids : ∀ id s, c.flow.streams id = some s → id.toNat ≤ c.flow.nextId.toNat

/-- The next id is free, unless it wraps. -/
theorem Inv.unused (inv : Inv c) (fits : c.flow.nextId.toNat + 1 < 2 ^ 64) :
    c.flow.streams (c.flow.nextId + 1) = none := by
  by_contra used
  obtain ⟨s, found⟩ := Option.ne_none_iff_exists'.mp used
  have small := inv.ids _ s found
  have one : (1 : UInt64).toNat = 1 := rfl
  rw [UInt64.toNat_add, one, Nat.mod_eq_of_lt fits] at small
  omega

theorem Inv.ids_op (inv : Inv c) (op : CreditOp)
    (fits : op = .newStream → c.flow.nextId.toNat + 1 < 2 ^ 64) :
    ∀ id s, (op.apply c.flow).streams id = some s → id.toNat ≤ (op.apply c.flow).nextId.toNat := by
  intro id s found
  by_cases makes : op = .newStream
  · subst makes
    have one : (1 : UInt64).toNat = 1 := rfl
    have next : (c.flow.nextId + 1).toNat = c.flow.nextId.toNat + 1 := by
      rw [UInt64.toNat_add, one, Nat.mod_eq_of_lt (fits rfl)]
    have found : c.flow.streams.insert (c.flow.nextId + 1) _ id = some s := found
    show id.toNat ≤ (c.flow.nextId + 1).toNat
    by_cases same : id = c.flow.nextId + 1
    · rw [same]
    · rw [Table.insert_of_ne same] at found
      have small := inv.ids id s found
      omega
  · obtain ⟨nextId, before⟩ := op.ids (f := c.flow) makes
    obtain ⟨s', there⟩ := before id s found
    rw [nextId]
    exact inv.ids id s' there

/-- **An operation forgets nobody.** -/
theorem Inv.op (inv : Inv c) (op : CreditOp)
    (fits : op = .newStream → c.flow.nextId.toNat + 1 < 2 ^ 64) :
    Inv { c with
      flow := op.apply c.flow, waits := c.after (op.apply c.flow) ++ leaves c.flow op } := by
  refine ⟨inv.toRegistered.op op, ?_, inv.ids_op op fits⟩
  rcases op_cases c op with ⟨wakes, none⟩ | ⟨stays, streams, same⟩ | ⟨id, want, rfl⟩
  · refine ⟨fun id want member => ?_, fun since member asleep => absurd ?_ asleep⟩
    · rw [none] at member
      cases member
    · have small := inv.parked since member
      have more := wakes.notifies
      show since < (op.apply c.flow).notifies
      omega
  · have streams : ConnFlow.KeepsStreams c.flow (op.apply c.flow) := by
      rcases streams with rfl | keeps
      · exact ConnFlow.newStream_keeps (inv.unused (fits rfl))
      · exact keeps
    refine ⟨fun id want member wish => ?_, fun since member asleep => ?_⟩
    · rw [same] at member
      obtain ⟨live, s, found, open', none⟩ := inv.credit id want member wish
      obtain ⟨s', found', ended, credit⟩ := streams id s found
      refine ⟨stays.failed.1.trans live, s', found', ended.trans open', ?_⟩
      show (op.apply c.flow).credit s' = 0
      unfold ConnFlow.credit
      rw [credit, stays.conn]
      exact none
    · have asleep : ¬ since < c.flow.notifies := by
        rw [← stays.notifies]
        exact asleep
      obtain ⟨live, full⟩ := inv.slots since member asleep
      refine ⟨stays.failed.1.trans live, ?_⟩
      show (op.apply c.flow).streamsOpened + (op.apply c.flow).streamsReserved ≥
        (op.apply c.flow).peerMaxStreams
      rw [stays.slots, stays.limit]
      exact full
  · rcases c.flow.pollReserve_cases id want with ⟨error, polled⟩
      | ⟨amount, flow, s, polled, found, live, some',
      wakers, notifies, failed, used, limit, others⟩ | ⟨s, polled, live, found, open', none⟩
    · simp only [CreditOp.apply, leaves, polled, ReserveResult.flow, after_keeps, List.append_nil]
      exact inv.toNoLostWakeup
    · simp only [CreditOp.apply, leaves, polled, ReserveResult.flow, after_keeps notifies,
        List.append_nil]
      refine ⟨fun other wish member positive => ?_, fun since member asleep => ?_⟩
      · -- credit was granted, so the connection has some, and only streams without any have a waiter
        obtain ⟨live, s', found', open', none⟩ := inv.credit other wish member positive
        have conn : c.flow.connCredit ≠ 0 :=
          fun zero => some' (ConnFlow.credit_eq_zero.mpr (Or.inr zero))
        have different : other ≠ id := by
          rintro rfl
          rw [found] at found'
          cases found'
          exact some' none
        obtain ⟨found', credit⟩ := others other s' different found'
        refine ⟨failed.1.trans live, s', found', open', ConnFlow.credit_eq_zero.mpr (Or.inl ?_)⟩
        rw [credit]
        exact (ConnFlow.credit_eq_zero.mp none).resolve_right conn
      · have asleep : ¬ since < c.flow.notifies := by
          rw [← notifies]
          exact asleep
        obtain ⟨live, full⟩ := inv.slots since member asleep
        refine ⟨failed.1.trans live, ?_⟩
        show flow.streamsOpened + flow.streamsReserved ≥ flow.peerMaxStreams
        rw [used, limit]
        exact full
    · simp only [CreditOp.apply, leaves, polled, ReserveResult.flow]
      have kept : c.after { c.flow with wakers := c.flow.wakers ++ [id] } = c.waits :=
        after_keeps rfl
      rw [kept]
      refine ⟨fun other wish member positive => ?_, inv.slots⟩
      rcases List.mem_append.mp member with old | new
      · exact inv.credit other wish old positive
      · cases List.mem_singleton.mp new
        exact ⟨live, s, found, open', none positive⟩

/-- A call of `reserve_stream_slot` goes on, and the credit is as it was. -/
theorem Inv.goTo (inv : Inv c) {k : Nat} {call : SlotCall}
    (since : ∀ since, call = .enabled since → since ≤ c.flow.notifies)
    (parked : ∀ since, call = .parked since → since ≤ c.flow.notifies ∧ c.flow.isFailed = false ∧
      c.flow.streamsOpened + c.flow.streamsReserved ≥ c.flow.peerMaxStreams) :
        Inv (goTo k call c) := by
  refine ⟨inv.toRegistered.goTo rfl rfl fun at' same => ?_,
    ⟨inv.credit, fun at' member asleep => ?_⟩, inv.ids⟩
  · rcases same with same | same
    · exact since at' same
    · exact (parked at' same).1
  · rcases List.mem_or_eq_of_mem_set member with old | same
    · exact inv.slots at' old asleep
    · exact (parked at' same.symm).2

/-- **One step forgets nobody**, as long as `next_id` does not wrap. -/
theorem Inv.step (inv : Inv c) (fits : NoWrap c label) (stepped : c.step label = some c') :
    Inv c' := by
  cases label with
  | op op =>
    cases stepped
    refine inv.op op fun makes => ?_
    subst makes
    exact fits
  | reserve =>
    have registered := inv.toRegistered.step stepped
    cases stepped
    refine ⟨registered, ⟨inv.credit, fun since member asleep => ?_⟩, inv.ids⟩
    rcases List.mem_append.mp member with old | new
    · exact inv.slots since old asleep
    · cases List.mem_singleton.mp new
  | pass k =>
    have registered := inv.toRegistered.step stepped
    simp only [CreditWaits.step] at stepped
    split at stepped
    · next since found =>
      rcases reserveStreamSlot_cases c.flow with ⟨error, passed, -⟩
        | ⟨flow, passed, live, room, rfl⟩ |
        ⟨passed, live, full⟩
      · rw [passed] at stepped
        cases stepped
        exact inv.goTo (by simp) (by simp)
      · rw [passed] at stepped
        cases stepped
        refine ⟨registered, ⟨inv.credit, fun at' member asleep => ?_⟩, inv.ids⟩
        -- there was a slot, so nobody was parked and not notified
        rcases List.mem_or_eq_of_mem_set member with old | same
        · exact absurd room (UInt64.not_lt.mpr (inv.slots at' old asleep).2)
        · cases same
      · rw [passed] at stepped
        cases stepped
        refine inv.goTo (by simp) fun at' same => ?_
        cases same
        exact ⟨inv.enabled since (List.mem_of_getElem? found), live, full⟩
    · cases stepped
  | wake k =>
    simp only [CreditWaits.step] at stepped
    split at stepped
    · split at stepped <;> cases stepped
      refine inv.goTo (fun at' same => ?_) (by simp)
      cases same
      exact Nat.le_refl _
    · cases stepped
  | drop k =>
    simp only [CreditWaits.step] at stepped
    split at stepped <;> cases stepped
    exact inv.goTo (by simp) (by simp)

theorem inv_new (limits : FlowWindows) : Inv (new limits) :=
  ⟨⟨rfl, fun _ member => (by cases member), fun _ member => (by cases member)⟩,
    ⟨fun _ _ member => (by cases member), fun _ member => (by cases member)⟩,
    fun _ _ found => (by cases found)⟩

/-- **No wake-up is lost** in a run in which `next_id` does not wrap: `waits` are the wakers that
were left and not woken, one for one, and each of them, and each call that is parked and not
notified, waits for what is not there. -/
theorem no_lost_wakeup {limits : FlowWindows} {labels : List Label}
    (ran : run step (new limits) labels = some c) (fits : Meets step NoWrap (new limits) labels) :
    c.flow.wakers = c.waits.map Prod.fst ∧ NoLostWakeup c := by
  have inv : Inv c :=
    run_invariant_of_meets (fun _ _ _ fits inv stepped => Inv.step inv fits stepped) fits
    (inv_new limits) ran
  exact ⟨inv.wakers, inv.toNoLostWakeup⟩

/-- Two writers and a call of `open_stream` wait; then the peer raises a limit, and the slot is
taken. -/
def waitsForCredit : List Label :=
  [.op (.onPeerHello ⟨1, 8, 0⟩), .op .newStream, .op (.pollReserve 1 1), .op (.pollReserve 1 4),
    .reserve, .pass 0,
    .op (.onPeerMaxStreams 1), .wake 0, .pass 0, .op (.pollReserve 1 2), .reserve, .pass 1]

theorem no_lost_wakeup_waitsForCredit :
    ∃ c, run step (new defaultFlowLimits) waitsForCredit = some c ∧
    c.waits = [(1, 2)] ∧ NoLostWakeup c := by
  have waits : (run step (new defaultFlowLimits) waitsForCredit).any (fun c =>
      decide (c.waits = [(1, 2)])) = true := by decide +kernel
  have fits : Meets step NoWrap (new defaultFlowLimits) waitsForCredit := by decide +kernel
  obtain ⟨c, ran, waits⟩ := (Option.any_eq_true _ _).mp waits
  exact ⟨c, ran, of_decide_eq_true waits, (no_lost_wakeup ran fits).2⟩

/-- A stream spends its credit, and its writer waits. -/
def spendsCredit : List Label :=
  [.op (.onPeerHello ⟨1, 8, 8⟩), .op .newStream, .op (.pollReserve 1 1), .op (.pollReserve 1 1)]

def makesStreams (n : Nat) : List Label := List.replicate n (.op .newStream)

theorem run_makesStreams (n : Nat) (c : CreditWaits) : ∃ c', run step c (makesStreams n) = some c' ∧
    c'.waits = c.waits ∧ c'.flow.nextId = c.flow.nextId + UInt64.ofNat n ∧
    c'.flow.peerInitStreamData = c.flow.peerInitStreamData ∧
    c'.flow.connCredit = c.flow.connCredit := by
  induction n generalizing c with
  | zero => exact ⟨c, rfl, rfl, (add_zero _).symm, rfl, rfl⟩
  | succ n ih =>
    obtain ⟨c', ran, waits, nextId, initial, conn⟩ := ih
      { c with flow := c.flow.newStream.value, waits := c.after c.flow.newStream.value ++ [] }
    refine ⟨c', run_cons.mpr ⟨_, rfl, ran⟩, waits.trans ?_, nextId.trans ?_, initial, conn⟩
    · rw [List.append_nil]
      exact after_keeps rfl
    · show c.flow.nextId + 1 + UInt64.ofNat n = c.flow.nextId + UInt64.ofNat (n + 1)
      rw [UInt64.ofNat_add, add_assoc, add_comm (UInt64.ofNat n)]
      rfl

/-- **An id that is given again**: after `2 ^ 64` more streams the waiting writer's stream is a new
one, which has credit, and its waker was not woken. -/
theorem waker_lost : ∃ c, run step (new defaultFlowLimits)
      (spendsCredit ++ (makesStreams (2 ^ 64 - 1) ++ [.op .newStream])) = some c ∧
    (1, 1) ∈ c.waits ∧ (∃ s, c.flow.streams 1 = some s ∧ c.flow.credit s = 1) ∧
    ¬ NoLostWakeup c := by
  have spends : (run step (new defaultFlowLimits) spendsCredit).any
      (fun c => decide (c.waits = [(1, 1)] ∧
      c.flow.nextId = 1 ∧ c.flow.peerInitStreamData = 1 ∧
      c.flow.connCredit = 7)) = true := by decide +kernel
  obtain ⟨c, spent, facts⟩ := (Option.any_eq_true _ _).mp spends
  obtain ⟨waits, nextId, initial, conn⟩ := of_decide_eq_true facts
  obtain ⟨c', made, waits', nextId', initial', conn'⟩ := run_makesStreams (2 ^ 64 - 1) c
  have zero : c'.flow.nextId = 0 := by
    rw [nextId', nextId]
    decide
  let final : CreditWaits :=
    { c' with flow := c'.flow.newStream.value, waits := c'.after c'.flow.newStream.value ++ [] }
  have waiting : (1, 1) ∈ final.waits := by
    have kept : c'.after c'.flow.newStream.value = c'.waits := after_keeps rfl
    show (1, 1) ∈ c'.after c'.flow.newStream.value ++ []
    rw [kept, waits', waits]
    simp
  have found : final.flow.streams 1 = some { localMax := c'.flow.limits.maxStreamData } := by
    show c'.flow.streams.insert (c'.flow.nextId + 1) _ 1 = _
    rw [zero]
    exact Table.insert_self
  have credit : final.flow.credit { localMax := c'.flow.limits.maxStreamData } = 1 := by
    show min (max 0 c'.flow.peerInitStreamData - 0 - 0) c'.flow.connCredit = 1
    rw [initial', initial, conn', conn]
    decide
  refine ⟨final, run_append.mpr ⟨c, spent, run_append.mpr ⟨c', made, rfl⟩⟩, waiting,
    ⟨_, found, credit⟩, fun kept => ?_⟩
  obtain ⟨-, s, found', -, none⟩ := kept.credit 1 1 waiting (by decide)
  rw [found] at found'
  cases found'
  rw [credit] at none
  cases none

end CreditWaits

end Kps.Rust
