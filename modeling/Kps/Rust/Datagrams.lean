/-
**The datagrams a Rust connection receives** (`on_message` of the datagram channel and
`receive_datagram` of `conn.rs`).

A datagram goes to a bounded channel with `try_send`, and a call of `receive_datagram` takes the
next one from it, once it holds the mutex of the receiver. A call that has the mutex is polled: its
`select!` looks at the channel and at the close state, in either order. Beside it stands the buffer
that drops its oldest datagram when there are more than 256, to which the same datagrams arrive and
from which the same calls take.

* `Buffered.sync_step` — the two hold as many datagrams, in every run;
* `receiveDatagram_drops_oldest` — they hold and deliver the same ones in every state of a run, if
  and only if a datagram that finds the channel full finds it full of its like.
-/

import Kps.Lib.Bytes
import Kps.Lib.HandOff
import Kps.Lib.Run

namespace Kps.Rust

open Kps.Lib

/-- The capacity of the channel. -/
def datagramCapacity : Nat := 256

/-- The receiving side: the channel, the mutex `dg_rx` with the calls that wait for it, and what the
calls returned. `sender` tells whether the callback that owns `dg_tx` still stands. -/
structure DatagramInbox where
  queue : List Bytes := []
  sender : Bool := true
  holder : Option Nat := none
  lockWaiters : List Nat := []
  closed : Bool := false
  calls : Nat := 0
  received : List (Nat × Bytes) := []
  failed : List Nat := []

namespace DatagramInbox

/-- `on_message`: `dg_tx.try_send`, whose failure is ignored. -/
def onMessage (data : Bytes) (s : DatagramInbox) : DatagramInbox :=
  if s.queue.length < datagramCapacity then { s with queue := s.queue ++ [data] } else s

/-- The mutex goes to the call that has waited longest. -/
def release (s : DatagramInbox) : DatagramInbox :=
  { s with holder := s.lockWaiters.head?, lockWaiters := s.lockWaiters.tail }

/-- A call of `receive_datagram` reaches `dg_rx.lock()`. -/
def receiveDatagram (s : DatagramInbox) : DatagramInbox :=
  if s.holder.isNone then { s with holder := some s.calls, calls := s.calls + 1 }
  else { s with lockWaiters := s.lockWaiters ++ [s.calls], calls := s.calls + 1 }

/-- `rx.recv()` is polled; `none` if it is pending. -/
def recv (call : Nat) (s : DatagramInbox) : Option DatagramInbox :=
  match s.queue with
  | data :: rest => some { s with queue := rest, received := s.received ++ [(call, data)] }.release
  | [] => if s.sender then none else some { s with failed := s.failed ++ [call] }.release

/-- `close_state.wait()` is polled. -/
def wait (call : Nat) (s : DatagramInbox) : Option DatagramInbox :=
  if s.closed then some { s with failed := s.failed ++ [call] }.release else none

/-- The `select!` of a call is polled, with its branches in either order. -/
def poll (call : Nat) (recvFirst : Bool) (s : DatagramInbox) : DatagramInbox :=
  if recvFirst then ((s.recv call).or (s.wait call)).getD s
    else ((s.wait call).or (s.recv call)).getD s

/-- The future of a call is dropped. -/
def drop (call : Nat) (s : DatagramInbox) : Option DatagramInbox :=
  if s.holder = some call then some s.release
  else if call ∈ s.lockWaiters then some { s with lockWaiters := s.lockWaiters.erase call }
  else none

inductive Label
  | onMessage (data : Bytes)
  | senderDropped
  | receiveDatagram
  | poll (recvFirst : Bool)
  | drop (call : Nat)
  | close

def step (s : DatagramInbox) : Label → Option DatagramInbox
  | .onMessage data => if s.sender then some (s.onMessage data) else none
  | .senderDropped => some { s with sender := false }
  | .receiveDatagram => some s.receiveDatagram
  | .poll recvFirst => s.holder.map fun call => s.poll call recvFirst
  | .drop call => s.drop call
  | .close => some { s with closed := true }

/-- A poll takes a datagram. -/
def takes (s : DatagramInbox) (recvFirst : Bool) : Bool :=
  !s.queue.isEmpty && (recvFirst || !s.closed)

/-- What a step is to the buffer that drops its oldest datagram. -/
def ops (s : DatagramInbox) : Label → List (HandOff.Op Bytes)
  | .onMessage data => [.arrive data]
  | .poll recvFirst => if s.takes recvFirst then [.call false] else []
  | _ => []

end DatagramInbox

/-- The receiving side, and the buffer it should be. -/
structure Buffered where
  inbox : DatagramInbox := {}
  buffer : HandOff Bytes := {}

namespace Buffered

open DatagramInbox (Label)

def step (b : Buffered) (label : Label) : Option Buffered :=
  (b.inbox.step label).map fun inbox =>
    ⟨inbox, (b.inbox.ops label).foldl (HandOff.step (some datagramCapacity)) b.buffer⟩

/-- The two hold and have delivered the same datagrams. -/
def Same (b : Buffered) : Prop := b.buffer.Delivers b.inbox.queue (b.inbox.received.map Prod.snd)

/-- A datagram that finds the channel full finds it full of its like. -/
def Repeats (b : Buffered) : Label → Prop
  | .onMessage data => b.inbox.sender = true → b.inbox.queue.length = datagramCapacity →
      ∀ other ∈ b.inbox.queue, other = data
  | _ => True

instance (b : Buffered) (label : Label) : Decidable (Repeats b label) := by
  unfold Repeats
  split <;> infer_instance

/-- The two hold as many datagrams. -/
structure Sync (b : Buffered) : Prop where
  waiters : b.buffer.waiters = []
  length : b.buffer.items.length = b.inbox.queue.length
  capacity : b.inbox.queue.length ≤ datagramCapacity
  buffer : b.buffer.Inv (some datagramCapacity)

variable {b b' : Buffered} {label : Label}

/-- **What a poll does**: it takes the first datagram, or leaves them. -/
theorem poll_cases (s : DatagramInbox) (call : Nat) (recvFirst : Bool) :
    (s.takes recvFirst = true ∧ ∃ data rest, s.queue = data :: rest ∧
      (s.poll call recvFirst).queue = rest ∧
      (s.poll call recvFirst).received = s.received ++ [(call, data)]) ∨
    (s.takes recvFirst = false ∧ (s.poll call recvFirst).queue = s.queue ∧
      (s.poll call recvFirst).received = s.received) := by
  unfold DatagramInbox.poll DatagramInbox.takes DatagramInbox.wait DatagramInbox.recv
  cases queue : s.queue with
  | nil =>
    right
    cases recvFirst <;> cases s.closed <;> cases s.sender <;> simp [DatagramInbox.release, queue]
  | cons data rest =>
    cases recvFirst <;> cases s.closed <;> simp [DatagramInbox.release]

/-- A step that is nothing to the buffer leaves the queue. -/
theorem quiet_step {s s' : DatagramInbox} (stepped : s.step label = some s')
    (quiet : s.ops label = []) :
    s'.queue = s.queue ∧ s'.received = s.received := by
  cases label with
  | onMessage data => cases quiet
  | senderDropped =>
    cases stepped
    exact ⟨rfl, rfl⟩
  | receiveDatagram =>
    cases stepped
    unfold DatagramInbox.receiveDatagram
    split <;> exact ⟨rfl, rfl⟩
  | poll recvFirst =>
    obtain ⟨call, -, rfl⟩ := Option.map_eq_some_iff.mp stepped
    rcases poll_cases s call recvFirst with ⟨takes, -⟩ | ⟨-, same⟩
    · have quiet : (if s.takes recvFirst then [HandOff.Op.call false] else []) =
        ([] : List (HandOff.Op Bytes)) := quiet
      rw [if_pos takes] at quiet
      cases quiet
    · exact same
  | drop call =>
    have stepped : s.drop call = some s' := stepped
    unfold DatagramInbox.drop at stepped
    split at stepped
    · cases stepped
      exact ⟨rfl, rfl⟩
    · split at stepped <;> cases stepped
      exact ⟨rfl, rfl⟩
  | close =>
    cases stepped
    exact ⟨rfl, rfl⟩

/-- **A step of the two**: a datagram arrives, a call takes one, or neither happens. -/
theorem step_cases (stepped : b.step label = some b') :
    (∃ data, label = .onMessage data ∧ b.inbox.sender = true ∧
      b' = ⟨b.inbox.onMessage data, b.buffer.arrive (some datagramCapacity) data⟩) ∨
    (∃ call data, b.inbox.queue = data :: b'.inbox.queue ∧
      b'.inbox.received = b.inbox.received ++ [(call, data)] ∧
      b'.buffer = b.buffer.call false ∧ Repeats b label) ∨
    (b'.inbox.queue = b.inbox.queue ∧ b'.inbox.received = b.inbox.received ∧ b'.buffer = b.buffer ∧
      Repeats b label) := by
  obtain ⟨inbox, moved, rfl⟩ := Option.map_eq_some_iff.mp stepped
  cases label with
  | onMessage data =>
    left
    have moved : (if b.inbox.sender then some (b.inbox.onMessage data) else none) = some inbox :=
      moved
    split at moved <;> cases moved
    next sender => exact ⟨data, rfl, sender, rfl⟩
  | poll recvFirst =>
    right
    obtain ⟨call, -, rfl⟩ := Option.map_eq_some_iff.mp moved
    rcases poll_cases b.inbox call recvFirst with ⟨takes, data, rest, queue, queue', received⟩
      | ⟨takes, queue, received⟩
    · left
      have ops : b.inbox.ops (.poll recvFirst) = [.call false] := if_pos takes
      rw [ops]
      exact ⟨call, data, queue.trans (congrArg (data :: ·) queue'.symm), received, rfl, trivial⟩
    · right
      have ops : b.inbox.ops (.poll recvFirst) = [] := if_neg (takes ▸ Bool.false_ne_true)
      rw [ops]
      exact ⟨queue, received, rfl, trivial⟩
  | _ =>
    obtain ⟨queue, received⟩ := quiet_step moved rfl
    exact Or.inr (Or.inr ⟨queue, received, rfl, trivial⟩)

/-- **One step keeps the two in step.** -/
theorem Sync.step (sync : Sync b) (stepped : b.step label = some b') : Sync b' := by
  rcases step_cases stepped with ⟨data, -, -, rfl⟩ | ⟨call, data, queue, -, buffer, -⟩
    | ⟨queue, -, buffer, -⟩
  · obtain ⟨length, waiters⟩ :=
      HandOff.length_arrive sync.waiters (sync.length ▸ sync.capacity) data
    have queued : (b.inbox.onMessage data).queue.length =
        min (b.inbox.queue.length + 1) datagramCapacity := by
      have capacity := sync.capacity
      unfold DatagramInbox.onMessage
      split
      · show (b.inbox.queue ++ [data]).length = _
        rw [List.length_append, List.length_singleton]
        omega
      · omega
    refine ⟨waiters, ?_, ?_, sync.buffer.arrive data⟩
    · rw [length, queued, sync.length]
    · rw [queued]
      exact Nat.min_le_right _ _
  · cases items : b.buffer.items with
    | nil =>
      have empty := sync.length
      rw [items, queue] at empty
      cases empty
    | cons item rest =>
      have delivers : b.buffer.Delivers (item :: rest) (b.buffer.gifts.map Prod.snd) := ⟨items, rfl⟩
      have length := sync.length
      have capacity := sync.capacity
      rw [items, queue, List.length_cons, List.length_cons] at length
      rw [queue, List.length_cons] at capacity
      refine ⟨?_, ?_, by omega, buffer ▸ sync.buffer.call false⟩
      · rw [buffer, HandOff.waiters_take items, sync.waiters]
      · rw [buffer, (delivers.take false).items]
        omega
  · exact ⟨buffer ▸ sync.waiters, buffer ▸ queue ▸ sync.length, queue ▸ sync.capacity,
      buffer ▸ sync.buffer⟩

/-- **When a step keeps the two the same**: always, but for a datagram that the channel has no room
for. -/
theorem same_step (sync : Sync b) (same : Same b) (stepped : b.step label = some b') :
    Same b' ↔ Repeats b label := by
  rcases step_cases stepped with ⟨data, rfl, sender, rfl⟩
    | ⟨call, data, queue, received, buffer, meets⟩ |
    ⟨queue, received, buffer, meets⟩
  · by_cases room : b.inbox.queue.length < datagramCapacity
    · refine iff_of_true ?_ fun _ full => absurd full (Nat.ne_of_lt room)
      show (b.buffer.arrive (some datagramCapacity) data).Delivers (b.inbox.onMessage data).queue
        ((b.inbox.onMessage data).received.map Prod.snd)
      unfold DatagramInbox.onMessage
      rw [if_pos room]
      exact HandOff.Delivers.room same sync.waiters room data
    · have full : b.inbox.queue.length = datagramCapacity :=
        Nat.le_antisymm sync.capacity (Nat.le_of_not_lt room)
      show (b.buffer.arrive (some datagramCapacity) data).Delivers (b.inbox.onMessage data).queue
        ((b.inbox.onMessage data).received.map Prod.snd) ↔ _
      unfold DatagramInbox.onMessage
      rw [if_neg room, HandOff.Delivers.full same sync.waiters full data]
      exact ⟨fun alike _ _ => alike, fun repeats => repeats sender full⟩
  · refine iff_of_true ?_ meets
    unfold Same at same ⊢
    rw [queue] at same
    rw [buffer, received, List.map_append]
    exact same.take false
  · refine iff_of_true ?_ meets
    unfold Same
    rw [buffer, received, queue]
    exact same

theorem sync_new : Sync {} := ⟨rfl, rfl, Nat.zero_le _, HandOff.inv_new⟩

/-- **The channel drops its oldest datagram** in every state of a run, if and only if a datagram
that finds it full finds it full of its like. -/
theorem receiveDatagram_drops_oldest {labels : List Label} :
    (∀ before b, before <+: labels → run step {} before = some b → Same b) ↔
      Meets step Repeats {} labels := by
  have preserves (b : Buffered) (label : Label) (b' : Buffered) (sync : Sync b)
    (stepped : step b label = some b') :
      Sync b' := sync.step stepped
  refine always_iff_meets preserves (fun _ _ _ sync same stepped => same_step sync same stepped)
    (fun b label stuck => ?_) sync_new ⟨rfl, rfl⟩
  cases label with
  | onMessage data =>
    intro sender
    have stuck : (b.inbox.step (.onMessage data)).isSome = false := by
      unfold step at stuck
      rw [Option.map_eq_none_iff.mp stuck]
      rfl
    rw [show b.inbox.step (.onMessage data) =
      some (b.inbox.onMessage data) from if_pos sender] at stuck
    cases stuck
  | _ => exact trivial

end Buffered

end Kps.Rust
