/-
**The datagrams a Go connection receives** (the `OnMessage` of `openDatagramChannel` and
`ReceiveDatagram` of `conn.go`).

A datagram is sent to the buffered channel `dgInbox` in a `select` with a `default`;
`ReceiveDatagram` selects between that channel, its context and `closedCh`, and blocks when none is
ready. A `select` picks any branch that is ready. Beside it stands the buffer that drops its oldest
datagram when there are more than 256, to which the same datagrams arrive and which the same calls
ask.

* `Buffered.Sync.step` — the two hold as many datagrams, and the same calls wait, in every run;
* `receiveDatagram_drops_oldest` — they hold and deliver the same ones in every state of a run, if
  and only if a datagram that finds the channel full finds it full of its like.
-/

import Kps.Lib.Bytes
import Kps.Lib.HandOff
import Kps.Lib.Run

namespace Kps.Go

open Kps.Lib

/-- The capacity of `dgInbox`. -/
def dgInboxCapacity : Nat := 256

/-- The branches of the `select` in `ReceiveDatagram`. -/
inductive ReceiveBranch
  | dgInbox
  | ctxDone
  | closedCh
  deriving DecidableEq, Repr

/-- The receiving side: the channel, the calls that block on it, and what the calls returned; a call
that returns no datagram returns the error of a branch. -/
structure DatagramInbox where
  dgInbox : List Bytes := []
  recvq : List Nat := []
  closedCh : Bool := false
  calls : Nat := 0
  received : List (Nat × Bytes) := []
  failed : List (Nat × ReceiveBranch) := []

namespace DatagramInbox

/-- `OnMessage`: a call that blocks gets the datagram, and none is buffered when the channel is
full. -/
def onMessage (data : Bytes) (s : DatagramInbox) : DatagramInbox :=
  match s.recvq with
  | call :: rest => { s with recvq := rest, received := s.received ++ [(call, data)] }
  | [] =>
    if s.dgInbox.length < dgInboxCapacity then { s with dgInbox := s.dgInbox ++ [data] } else s

/-- A branch is ready, for a call whose context is done or not. -/
def ready (s : DatagramInbox) (ctxDone : Bool) : ReceiveBranch → Bool
  | .dgInbox => !s.dgInbox.isEmpty
  | .ctxDone => ctxDone
  | .closedCh => s.closedCh

/-- A call, whose `select` picks `branch`; `none` if it blocks. -/
def receiveDatagram (branch : Option ReceiveBranch) (s : DatagramInbox) : DatagramInbox :=
  match branch with
  | none => { s with recvq := s.recvq ++ [s.calls], calls := s.calls + 1 }
  | some .dgInbox =>
    match s.dgInbox with
    | data :: rest => { s with
      dgInbox := rest
      received := s.received ++ [(s.calls, data)]
      calls := s.calls + 1 }
    | [] => s
  | some branch => { s with failed := s.failed ++ [(s.calls, branch)], calls := s.calls + 1 }

/-- What a `select` may do. -/
def mayPick (s : DatagramInbox) (ctxDone : Bool) : Option ReceiveBranch → Bool
  | none => !(s.ready ctxDone .dgInbox || s.ready ctxDone .ctxDone || s.ready ctxDone .closedCh)
  | some branch => s.ready ctxDone branch

inductive Label
  | onMessage (data : Bytes)
  | receiveDatagram (ctxDone : Bool) (branch : Option ReceiveBranch)
  /-- The context of a call that blocks is done. -/
  | ctxDone (call : Nat)
  /-- `closedCh` is closed. -/
  | close

def step (s : DatagramInbox) : Label → Option DatagramInbox
  | .onMessage data => some (s.onMessage data)
  | .receiveDatagram ctxDone branch =>
    if s.mayPick ctxDone branch then some (s.receiveDatagram branch) else none
  | .ctxDone call =>
    if call ∈ s.recvq then
      some { s with recvq := s.recvq.erase call, failed := s.failed ++ [(call, .ctxDone)] }
    else none
  | .close =>
    if s.closedCh then none
    else some { s with
      closedCh := true
      recvq := []
      failed := s.failed ++ s.recvq.map (·, .closedCh) }

/-- What a step is to the buffer that drops its oldest datagram. -/
def ops : Label → List (HandOff.Op Bytes)
  | .onMessage data => [.arrive data]
  | .receiveDatagram _ none => [.call false]
  | .receiveDatagram _ (some .dgInbox) => [.call false]
  | .receiveDatagram _ (some _) => [.reject]
  | .ctxDone call => [.abort call]
  | .close => [.stop]

end DatagramInbox

/-- The receiving side, and the buffer it should be. -/
structure Buffered where
  inbox : DatagramInbox := {}
  buffer : HandOff Bytes := {}

namespace Buffered

open DatagramInbox (Label)

def step (b : Buffered) (label : Label) : Option Buffered :=
  (b.inbox.step label).map fun inbox =>
    ⟨inbox, (DatagramInbox.ops label).foldl (HandOff.step (some dgInboxCapacity)) b.buffer⟩

/-- The two hold and have delivered the same datagrams. -/
def Same (b : Buffered) : Prop := b.buffer.Delivers b.inbox.dgInbox (b.inbox.received.map Prod.snd)

/-- A datagram that finds the channel full finds it full of its like. -/
def Repeats (b : Buffered) : Label → Prop
  | .onMessage data =>
    b.inbox.dgInbox.length = dgInboxCapacity → ∀ other ∈ b.inbox.dgInbox, other = data
  | _ => True

instance (b : Buffered) (label : Label) : Decidable (Repeats b label) := by
  unfold Repeats
  split <;> infer_instance

/-- The two hold as many datagrams, and the same calls wait. -/
structure Sync (b : Buffered) : Prop where
  waiters : b.buffer.waiters = b.inbox.recvq
  calls : b.buffer.calls = b.inbox.calls
  length : b.buffer.items.length = b.inbox.dgInbox.length
  capacity : b.inbox.dgInbox.length ≤ dgInboxCapacity
  buffer : b.buffer.Inv (some dgInboxCapacity)

variable {b b' : Buffered} {label : Label}

/-- A call waits only on a channel that is empty. -/
theorem Sync.empty (sync : Sync b) {call : Nat} {rest : List Nat}
    (waiting : b.inbox.recvq = call :: rest) :
    b.inbox.dgInbox = [] := by
  have items : b.buffer.items = [] := sync.buffer.apart.resolve_right (by
    rw [sync.waiters, waiting]
    exact List.cons_ne_nil _ _)
  have length := sync.length
  rw [items] at length
  exact List.length_eq_zero_iff.mp length.symm

/-- A datagram arrives. -/
theorem Sync.arrive (sync : Sync b) (data : Bytes) :
    Sync ⟨b.inbox.onMessage data, b.buffer.arrive (some dgInboxCapacity) data⟩ ∧
    (Same b → (Same ⟨b.inbox.onMessage data, b.buffer.arrive (some dgInboxCapacity) data⟩ ↔
      Repeats b (.onMessage data))) := by
  have inv := sync.buffer.arrive data
  have calls := (HandOff.arrive_same (some dgInboxCapacity) data b.buffer).2.1.trans sync.calls
  cases waiting : b.inbox.recvq with
  | cons call rest =>
    have given : b.inbox.onMessage data =
        { b.inbox with recvq := rest, received := b.inbox.received ++ [(call, data)] } := by
      unfold DatagramInbox.onMessage
      rw [waiting]
    have waiters : b.buffer.waiters = call :: rest := sync.waiters.trans waiting
    have arrived : b.buffer.arrive (some dgInboxCapacity) data = _ :=
      HandOff.arrive_give waiters data
    rw [given]
    refine ⟨⟨?_, calls, ?_, sync.capacity, inv⟩, fun same => iff_of_true ?_ fun full => ?_⟩
    · rw [arrived]
    · rw [arrived]
      exact sync.length
    · have delivers : HandOff.Delivers (b.buffer.arrive (some dgInboxCapacity) data) _ _ :=
        same.give waiters data
      unfold Same
      rw [List.map_append]
      exact delivers
    · rw [sync.empty waiting] at full
      cases full
  | nil =>
    have none : b.buffer.waiters = [] := sync.waiters.trans waiting
    obtain ⟨length, waiters⟩ := HandOff.length_arrive none (sync.length ▸ sync.capacity) data
    have made : b.inbox.onMessage data = if b.inbox.dgInbox.length < dgInboxCapacity then
        { b.inbox with dgInbox := b.inbox.dgInbox ++ [data] } else b.inbox := by
      unfold DatagramInbox.onMessage
      split
      · next call rest waiting' => cases waiting.symm.trans waiting'
      · rfl
    by_cases room : b.inbox.dgInbox.length < dgInboxCapacity
    · rw [made, if_pos room]
      refine ⟨⟨waiters.trans waiting.symm, calls, ?_, ?_, inv⟩,
        fun same => iff_of_true ?_ fun full => ?_⟩
      · show (b.buffer.arrive _ data).items.length = (b.inbox.dgInbox ++ [data]).length
        rw [length, sync.length, List.length_append, List.length_singleton]
        omega
      · show (b.inbox.dgInbox ++ [data]).length ≤ _
        rw [List.length_append, List.length_singleton]
        omega
      · exact HandOff.Delivers.room same none room data
      · exact absurd full (Nat.ne_of_lt room)
    · have full : b.inbox.dgInbox.length = dgInboxCapacity :=
        Nat.le_antisymm sync.capacity (Nat.le_of_not_lt room)
      rw [made, if_neg room]
      refine ⟨⟨waiters.trans waiting.symm, calls, ?_, sync.capacity, inv⟩, fun same => ?_⟩
      · show (b.buffer.arrive _ data).items.length = b.inbox.dgInbox.length
        rw [length, sync.length]
        omega
      · unfold Same
        rw [HandOff.Delivers.full same none full data]
        exact ⟨fun alike _ => alike, fun repeats => repeats full⟩

/-- A call takes a datagram, blocks, or returns an error. -/
theorem Sync.receive (sync : Sync b) {ctxDone : Bool} {branch : Option ReceiveBranch}
    (may : b.inbox.mayPick ctxDone branch = true) :
    Sync ⟨b.inbox.receiveDatagram branch,
      (DatagramInbox.ops (.receiveDatagram ctxDone branch)).foldl
      (HandOff.step (some dgInboxCapacity)) b.buffer⟩ ∧
    (Same b →
      Same ⟨b.inbox.receiveDatagram branch,
        (DatagramInbox.ops (.receiveDatagram ctxDone branch)).foldl
      (HandOff.step (some dgInboxCapacity)) b.buffer⟩) := by
  cases branch with
  | none =>
    have empty : b.inbox.dgInbox = [] := by
      cases queue : b.inbox.dgInbox with
      | nil => rfl
      | cons data rest =>
        unfold DatagramInbox.mayPick DatagramInbox.ready at may
        rw [queue] at may
        cases may
    have items : b.buffer.items = [] :=
      List.length_eq_zero_iff.mp (sync.length.trans (congrArg List.length empty))
    show Sync ⟨_, b.buffer.call false⟩ ∧ (Same b → Same ⟨_, b.buffer.call false⟩)
    have inv := sync.buffer.call false
    rw [HandOff.call_wait items] at inv ⊢
    refine ⟨⟨?_, congrArg (· + 1) sync.calls, sync.length, sync.capacity, inv⟩,
      fun same => ⟨same.items, same.received⟩⟩
    show b.buffer.waiters ++ [b.buffer.calls] = b.inbox.recvq ++ [b.inbox.calls]
    rw [sync.waiters, sync.calls]
  | some branch =>
    cases branch with
    | dgInbox =>
      cases queue : b.inbox.dgInbox with
      | nil =>
        unfold DatagramInbox.mayPick DatagramInbox.ready at may
        rw [queue] at may
        cases may
      | cons data rest =>
        have taken : b.inbox.receiveDatagram (some .dgInbox) = { b.inbox with
            dgInbox := rest
            received := b.inbox.received ++ [(b.inbox.calls, data)]
            calls := b.inbox.calls + 1 } := by
          unfold DatagramInbox.receiveDatagram
          rw [queue]
        have capacity := sync.capacity
        rw [queue, List.length_cons] at capacity
        rw [taken]
        show Sync ⟨_, b.buffer.call false⟩ ∧ (Same b → Same ⟨_, b.buffer.call false⟩)
        refine ⟨?_, fun same => ?_⟩
        · cases items : b.buffer.items with
          | nil =>
            have length := sync.length
            rw [items, queue] at length
            cases length
          | cons item others =>
            have delivers : b.buffer.Delivers (item :: others) (b.buffer.gifts.map Prod.snd) :=
              ⟨items, rfl⟩
            have length := sync.length
            rw [items, queue, List.length_cons, List.length_cons] at length
            refine ⟨(HandOff.waiters_take items false).trans sync.waiters, ?_, ?_,
              Nat.le_of_succ_le capacity, sync.buffer.call false⟩
            · exact (HandOff.call_same false b.buffer).2.1.trans (congrArg (· + 1) sync.calls)
            · rw [(delivers.take false).items]
              exact Nat.succ.inj length
        · unfold Same at same ⊢
          rw [queue] at same
          rw [List.map_append]
          exact same.take false
    | ctxDone =>
      exact ⟨⟨sync.waiters, congrArg (· + 1) sync.calls, sync.length, sync.capacity,
        sync.buffer.reject⟩, fun same => ⟨same.items, same.received⟩⟩
    | closedCh =>
      exact ⟨⟨sync.waiters, congrArg (· + 1) sync.calls, sync.length, sync.capacity,
        sync.buffer.reject⟩, fun same => ⟨same.items, same.received⟩⟩

/-- **One step keeps the two in step**, and the same, but for a datagram that the channel has no
room for. -/
theorem Sync.step (sync : Sync b) (stepped : b.step label = some b') :
    Sync b' ∧ (Same b → (Same b' ↔ Repeats b label)) := by
  obtain ⟨inbox, moved, rfl⟩ := Option.map_eq_some_iff.mp stepped
  cases label with
  | onMessage data =>
    cases moved
    exact sync.arrive data
  | receiveDatagram ctxDone branch =>
    have moved :
        (if b.inbox.mayPick ctxDone branch then some (b.inbox.receiveDatagram branch) else none) =
        some inbox := moved
    split at moved <;> cases moved
    next may =>
      obtain ⟨kept, same⟩ := sync.receive may
      exact ⟨kept, fun before => iff_of_true (same before) trivial⟩
  | ctxDone call =>
    have moved : (if call ∈ b.inbox.recvq then
        some { b.inbox with
          recvq := b.inbox.recvq.erase call
          failed := b.inbox.failed ++ [(call, .ctxDone)] }
      else none) = some inbox := moved
    split at moved <;> cases moved
    next waiting =>
      have inv := sync.buffer.abort call
      show Sync ⟨_, b.buffer.abort call⟩ ∧ (Same b → (Same ⟨_, b.buffer.abort call⟩ ↔ True))
      unfold HandOff.abort at inv ⊢
      rw [sync.waiters, if_pos waiting] at inv
      rw [sync.waiters, if_pos waiting]
      exact ⟨⟨rfl, sync.calls, sync.length, sync.capacity, inv⟩,
        fun same => iff_of_true ⟨same.items, same.received⟩ trivial⟩
  | close =>
    have moved : (if b.inbox.closedCh then none else some { b.inbox with
        closedCh := true
        recvq := []
        failed := b.inbox.failed ++ b.inbox.recvq.map (·, .closedCh) }) = some inbox := moved
    split at moved <;> cases moved
    exact ⟨⟨rfl, sync.calls, sync.length, sync.capacity, sync.buffer.stop⟩,
      fun same => iff_of_true ⟨same.items, same.received⟩ trivial⟩

theorem sync_new : Sync {} := ⟨rfl, rfl, rfl, Nat.zero_le _, HandOff.inv_new⟩

/-- **The channel drops its oldest datagram** in every state of a run, if and only if a datagram
that finds it full finds it full of its like. -/
theorem receiveDatagram_drops_oldest {labels : List Label} :
    (∀ before b, before <+: labels → run step {} before = some b → Same b) ↔
      Meets step Repeats {} labels := by
  have preserves (b : Buffered) (label : Label) (b' : Buffered) (sync : Sync b)
    (stepped : step b label = some b') :
      Sync b' := (sync.step stepped).1
  refine always_iff_meets preserves (fun _ _ _ sync same stepped => (sync.step stepped).2 same)
    (fun b label stuck => ?_) sync_new ⟨rfl, rfl⟩
  cases label with
  | onMessage data => cases stuck
  | _ => exact trivial

end Buffered

end Kps.Go
