/-
**A stream among the streams of its connection.**

The streams of a connection share its credit. Each has an entry of its own there, under an id that
no other stream of the connection has, and a section changes the entry of its own stream only.

* `exec_revises` — what a section leaves of the shared credit, and what it counts as received and
  consumed;
* `stream_runs` — so each stream of a connection takes a run of its own, in which the others leave
  its entry; what holds in every such run holds of every stream of a connection;
* `reservations_conserved` — the ledger of every stream balances in bytes, and an ended write half
  pins the grant that is pending, and what was dropped with the DATA queue;
* `credit_pinned` — there are such grants, and such entries.
-/

import Kps.Rust.Holdings
import Kps.Rust.Slots

namespace Kps.Rust

open Kps.Lib

namespace WebrtcStream

variable {s : WebrtcStream} {op : StreamSection} {e : Effect WebrtcStream StreamSection}

/-- The payload that a section counts as received. -/
def admits (s : WebrtcStream) : StreamSection → Bytes
  | .onDataReceived payload =>
    match (s.flow.onDataReceived s.id (UInt64.ofNat payload.length)).value with
    | .ok _ => payload
    | .error _ => []
  | _ => []

/-- The bytes that a section counts as consumed. -/
def consumes : StreamSection → UInt64
  | .consumed n => n
  | _ => 0

/-- **A section changes the entry of its own stream only**, and makes no stream. -/
theorem exec_revises (ran : s.exec op = some e) :
    ∃ change, ConnFlow.Revises s.id change s.flow e.shared.flow ∧ ∀ totals : Totals,
      (change totals).received = totals.received + UInt64.ofNat (s.admits op).length ∧
      (change totals).consumed = totals.consumed + consumes op := by
  have same (bills : op.bills = false) (admits : s.admits op = []) (spent : consumes op = 0) :
      ∃ change, ConnFlow.Revises s.id change s.flow e.shared.flow ∧ ∀ totals : Totals,
        (change totals).received = totals.received + UInt64.ofNat (s.admits op).length ∧
        (change totals).consumed = totals.consumed + consumes op := by
    refine ⟨_, .same ((exec_leaves ran).streams bills) ((exec_leaves ran).nextId bills),
      fun totals => ?_⟩
    rw [admits, spent]
    exact ⟨(add_zero _).symm, (add_zero _).symm⟩
  -- nothing is received or consumed
  have still {totals : Totals} : totals.received = totals.received + UInt64.ofNat
      ([] : Bytes).length ∧
      totals.consumed = totals.consumed + 0 := ⟨(add_zero _).symm, (add_zero _).symm⟩
  cases op with
  | onFrame data => exact ⟨_, onFrame_revises ran, fun _ => still⟩
  | onDataReceived payload =>
    simp only [exec] at ran
    split at ran
    · next rejected =>
      have none : s.admits (.onDataReceived payload) = [] := by simp only [admits, rejected]
      cases ran
      rw [none]
      exact ⟨_, .same rfl rfl, fun _ => still⟩
    · next admitted =>
      have all : s.admits (.onDataReceived payload) = payload := by simp only [admits, admitted]
      cases ran
      rw [all]
      exact ⟨_, ConnFlow.revises_onDataReceived admitted, fun _ => ⟨rfl, still.2⟩⟩
  | consumed n =>
    cases ran
    exact ⟨_, ConnFlow.revises_onConsumed n, fun _ => ⟨still.1, rfl⟩⟩
  | failSend =>
    cases ran
    exact ⟨_, ConnFlow.revises_failSend, fun _ => still⟩
  | dropStream =>
    cases ran
    exact ⟨_, ConnFlow.revises_dropStream, fun _ => still⟩
  | release n =>
    cases ran
    exact ⟨_, ConnFlow.revises_release n, fun _ => still⟩
  | commit n =>
    cases ran
    exact ⟨_, ConnFlow.revises_commit n, fun _ => still⟩
  | markCancelled =>
    cases ran
    exact ⟨_, ConnFlow.revises_markCancelled, fun _ => still⟩
  | reserveCredit buf =>
    simp only [exec, reserveCredit] at ran
    split at ran
    · next pending =>
      cases ran
      obtain ⟨streams, nextId, -⟩ := ConnFlow.pollReserve_pending pending
      exact ⟨_, .same streams nextId, fun _ => still⟩
    · cases ran
      exact ⟨_, .same rfl rfl, fun _ => still⟩
    · next granted =>
      cases ran
      exact ⟨_, (ConnFlow.pollReserve_granted granted).2.2, fun _ => still⟩
  | refuseData =>
    cases ran
    exact ⟨_, ConnFlow.revises_release _, fun _ => still⟩
  | dropGrant => exact ⟨_, (dropGrant_releases ran).1, fun _ => still⟩
  | _ => exact same rfl rfl rfl

theorem onCredit_step {t t' : Tasks} {label : Label} (stepped : WebrtcStream.step t label = some t')
    (other : ∀ flow, label ≠ .credit flow) : t'.shared.id = t.shared.id ∧
      ∃ change, ConnFlow.Revises t.shared.id change t.shared.flow t'.shared.flow := by
  by_cases runs : ∃ thread, label = .run thread
  · obtain ⟨thread, rfl⟩ := runs
    obtain ⟨op, rest, e, top, ran, rfl⟩ := Threads.advance_eq_some.mp stepped
    obtain ⟨change, revises, -⟩ := exec_revises ran
    exact ⟨(exec_leaves ran).id, change, revises⟩
  · have notRun : ∀ thread, label ≠ .run thread := fun thread same => runs ⟨thread, same⟩
    refine ⟨(congrArg WebrtcStream.id (step_shared stepped notRun)).trans rfl, ?_⟩
    rw [step_flow stepped notRun other]
    exact ⟨_, .same rfl rfl⟩

end WebrtcStream

namespace ConnStreams

open WebrtcStream

variable {c c' : ConnStreams} {t : Tasks}

/-- A stream on the credit of its connection. -/
def onCredit (c : ConnStreams) (t : Tasks) : Tasks := touch t { t.shared with flow := c.flow }

/-- The stream has taken a run in which the others left its entry. -/
def Ran (t : Tasks) : Prop :=
  ∃ flow peerInitiated isOpen labels,
    run WebrtcStream.step (start flow peerInitiated isOpen) labels = some t ∧
      Meets WebrtcStream.step Steady (start flow peerInitiated isOpen) labels

theorem Ran.step {t' : Tasks} {label : Label} (ran : Ran t) (steady : Steady t label)
    (stepped : WebrtcStream.step t label = some t') : Ran t' := by
  obtain ⟨flow, peerInitiated, isOpen, labels, before, meets⟩ := ran
  refine ⟨flow, peerInitiated, isOpen, labels ++ [label], ?_, meets_concat meets before steady⟩
  exact run_append.mpr ⟨t, before, run_cons.mpr ⟨t', stepped, rfl⟩⟩

/-- The credit moves elsewhere. -/
theorem Ran.credit (ran : Ran (onCredit c t))
    (kept : c'.flow.streams t.shared.id = c.flow.streams t.shared.id) : Ran (onCredit c' t) := by
  have stepped : WebrtcStream.step (onCredit c t) (.credit c'.flow) = some (onCredit c' t) := rfl
  refine ran.step ?_ stepped
  exact kept

/-- The streams have consecutive ids, and each has taken a run of its own. -/
structure StreamsInv (c : ConnStreams) : Prop where
  count : c.flow.nextId.toNat = c.streams.length
  ids : ∀ place t, c.streams[place]? = some t → t.shared.id.toNat = place + 1
  ran : ∀ t ∈ c.streams, Ran (onCredit c t)

/-- The credit moves, and every entry is left. -/
theorem StreamsInv.credit (inv : StreamsInv c) (streams : c'.flow.streams = c.flow.streams)
    (nextId : c'.flow.nextId = c.flow.nextId) (same : c'.streams = c.streams) : StreamsInv c' := by
  refine ⟨by rw [nextId, same]; exact inv.count, same ▸ inv.ids, fun t member => ?_⟩
  rw [same] at member
  exact (inv.ran t member).credit (by rw [streams])

theorem StreamsInv.incoming (inv : StreamsInv c) {flow : ConnFlow}
    (opened : c.flow.peerStreamOpened.value = .ok flow) (creating : List Bool) :
    StreamsInv { c with flow, creating } := by
  unfold ConnFlow.peerStreamOpened at opened
  split at opened <;> cases opened
  exact inv.credit rfl rfl rfl

theorem StreamsInv.reserve (inv : StreamsInv c) {flow : ConnFlow}
    (reserved : c.flow.reserveStreamSlot.value = .reserved flow) (n : Nat) :
    StreamsInv { c with flow, reserved := n } := by
  unfold ConnFlow.reserveStreamSlot at reserved
  split at reserved
  · cases reserved
  · dsimp only [bind, pure] at reserved
    split at reserved <;> cases reserved
    exact inv.credit rfl rfl rfl

/-- A stream is made, under an id of its own. -/
theorem StreamsInv.newStream (inv : StreamsInv c) (few : c.streams.length + 1 < 2 ^ 64)
    (peerInitiated isOpen : Bool) (creating : List Bool) :
    StreamsInv { c with
      flow := (start c.flow peerInitiated isOpen).shared.flow
      streams := c.streams ++ [start c.flow peerInitiated isOpen]
      creating } := by
  have count := inv.count
  have next : (c.flow.nextId + 1).toNat = c.streams.length + 1 := by
    rw [UInt64.toNat_add, count]
    exact Nat.mod_eq_of_lt few
  refine ⟨?_, fun place t found => ?_, fun t member => ?_⟩
  · show (c.flow.nextId + 1).toNat = _
    rw [next, List.length_append]
    rfl
  · rw [List.getElem?_append] at found
    split at found
    · exact inv.ids place t found
    · next beyond =>
      have place' : place = c.streams.length := by
        have inside := (List.getElem?_eq_some_iff.mp found).1
        simp only [List.length_cons, List.length_nil] at inside
        omega
      subst place'
      rw [Nat.sub_self] at found
      cases found
      exact next
  · rcases List.mem_append.mp member with old | new
    · obtain ⟨place, found⟩ := List.mem_iff_getElem?.mp old
      have here := (List.getElem?_eq_some_iff.mp found).1
      refine (inv.ran t old).credit ?_
      show c.flow.streams.insert (c.flow.nextId + 1) _ t.shared.id = c.flow.streams t.shared.id
      refine Table.insert_of_ne fun same => ?_
      have id := inv.ids place t found
      rw [same, next] at id
      omega
    · rw [List.mem_singleton.mp new]
      exact ⟨c.flow, peerInitiated, isOpen, [], rfl, trivial⟩

/-- A stream takes a step; the others see the credit move. -/
theorem StreamsInv.turn (inv : StreamsInv c) {place : Nat} {t' : Tasks} {label : Label}
    (found : c.streams[place]? = some t) (stepped : streamStep t c.flow label = some t') :
    StreamsInv { c with flow := t'.shared.flow, streams := c.streams.set place t' } := by
  have here := (List.getElem?_eq_some_iff.mp found).1
  have other : ∀ flow, label ≠ .credit flow := by
    rintro flow rfl
    cases stepped
  have stepped : WebrtcStream.step (onCredit c t) label = some t' := by
    cases label with
    | credit flow => exact absurd rfl (other flow)
    | _ => exact stepped
  obtain ⟨id, change, revises⟩ := onCredit_step stepped other
  refine ⟨?_, fun place' u found' => ?_, fun u member => ?_⟩
  · rw [List.length_set]
    exact (congrArg UInt64.toNat revises.nextId).trans inv.count
  · rw [List.getElem?_set] at found'
    split at found'
    · next same =>
      subst same
      cases found'
      rw [id]
      exact inv.ids place t found
    · exact inv.ids place' u found'
  · obtain ⟨place', found'⟩ := List.mem_iff_getElem?.mp member
    rw [List.getElem?_set] at found'
    split at found'
    · cases found'
      refine (inv.ran t (List.mem_of_getElem? found)).step ?_ stepped
      cases label with
      | credit flow => exact absurd rfl (other flow)
      | _ => trivial
    · next different =>
      refine (inv.ran u (List.mem_of_getElem? found')).credit ?_
      refine revises.elsewhere _ fun same => ?_
      have mine := inv.ids place t found
      have theirs := inv.ids place' u found'
      have equal : u.shared.id = t.shared.id := same
      rw [equal] at theirs
      omega

theorem streams_grow {label : ConnLabel} (stepped : ConnStreams.step c label = some c') :
    c.streams.length ≤ c'.streams.length := by
  cases label with
  | incoming =>
    simp only [ConnStreams.step] at stepped
    split at stepped <;> cases stepped <;> exact le_refl _
  | reserveSlot =>
    simp only [ConnStreams.step] at stepped
    split at stepped <;> cases stepped <;> exact le_refl _
  | releaseSlot =>
    simp only [ConnStreams.step] at stepped
    split at stepped <;> cases stepped
    exact le_refl _
  | commitSlot =>
    simp only [ConnStreams.step] at stepped
    split at stepped <;> cases stepped
    exact le_refl _
  | newStream place isOpen =>
    simp only [ConnStreams.step] at stepped
    split at stepped <;> cases stepped
    simp
  | stream place label =>
    simp only [ConnStreams.step] at stepped
    split at stepped
    · obtain ⟨t', -, rfl⟩ := Option.map_eq_some_iff.mp stepped
      simp
    · cases stepped
  | hello limits =>
    cases stepped
    exact le_refl _
  | maxData v =>
    cases stepped
    exact le_refl _
  | maxStreams v =>
    cases stepped
    exact le_refl _
  | fail error =>
    cases stepped
    exact le_refl _

/-- **One step of the connection** is a step, or none, of each stream. -/
theorem StreamsInv.step {label : ConnLabel} (inv : StreamsInv c) (few : c'.streams.length < 2 ^ 64)
    (stepped : ConnStreams.step c label = some c') : StreamsInv c' := by
  cases label with
  | incoming =>
    simp only [ConnStreams.step] at stepped
    split at stepped
    · cases stepped
      exact inv.credit rfl rfl rfl
    · next opened =>
      cases stepped
      exact inv.incoming opened _
  | reserveSlot =>
    simp only [ConnStreams.step] at stepped
    split at stepped
    · next reserved =>
      cases stepped
      exact inv.reserve reserved _
    · cases stepped
      exact inv
    · cases stepped
  | releaseSlot =>
    simp only [ConnStreams.step] at stepped
    split at stepped <;> cases stepped
    exact inv.credit rfl rfl rfl
  | commitSlot =>
    simp only [ConnStreams.step] at stepped
    split at stepped <;> cases stepped
    exact inv.credit rfl rfl rfl
  | newStream place isOpen =>
    simp only [ConnStreams.step] at stepped
    split at stepped <;> cases stepped
    refine inv.newStream ?_ _ _ _
    simpa using few
  | stream place label =>
    simp only [ConnStreams.step] at stepped
    split at stepped
    · next t found =>
      obtain ⟨t', turned, rfl⟩ := Option.map_eq_some_iff.mp stepped
      exact inv.turn found turned
    · cases stepped
  | hello limits =>
    cases stepped
    exact inv.credit rfl rfl rfl
  | maxData v =>
    cases stepped
    unfold ConnFlow.onPeerMaxData
    split <;> exact inv.credit rfl rfl rfl
  | maxStreams v =>
    cases stepped
    unfold ConnFlow.onPeerMaxStreams
    split <;> exact inv.credit rfl rfl rfl
  | fail error =>
    cases stepped
    unfold ConnFlow.fail
    split <;> exact inv.credit rfl rfl rfl

/-- **Each stream of a connection takes a run of its own**, in which the others leave its entry. Ids
are words, so this is for connections that make fewer than `2 ^ 64` streams. -/
theorem stream_runs {limits : FlowWindows} {labels : List ConnLabel}
    (ran : run ConnStreams.step (new limits) labels = some c) (few : c.streams.length < 2 ^ 64) :
    ∀ t ∈ c.streams, Ran (onCredit c t) := by
  have inv : c.streams.length < 2 ^ 64 → StreamsInv c := by
    have preserves : ∀ (c : ConnStreams) label c', (c.streams.length < 2 ^ 64 → StreamsInv c) →
        c.step label = some c' → c'.streams.length < 2 ^ 64 → StreamsInv c' :=
      fun c label c' inv stepped few => (inv (lt_of_le_of_lt (streams_grow stepped) few)).step few
        stepped
    refine run_invariant preserves (fun _ => ?_) ran
    exact ⟨rfl, fun place t found => (by cases found), fun t member => (by cases member)⟩
  exact (inv few).ran

/-- **Reservations are conserved**: in every run of a connection, as long as a stream has an entry
and its writer task is alive, the engine counts the bytes of its pending grant, of its queue and of
what its writer task holds; and once a terminal frame was handed over and the queue is empty,
whether the writer task is alive or not, it counts nothing exactly when no grant is pending, no
reservation was dropped with the queue when the writer task ended, and the writer task holds
nothing. -/
theorem reservations_conserved {limits : FlowWindows} {labels : List ConnLabel}
    (ran : run ConnStreams.step (new limits) labels = some c) (few : c.streams.length < 2 ^ 64)
    (member : t ∈ c.streams) {s : StreamState} (found : c.flow.streams t.shared.id = some s) :
    (t.shared.writerGone = false →
      s.sendReserved.toNat =
        (grantHeld t).toNat + reservedBytes t.shared.data + (writerHeld t).toNat) ∧
    (Ended t.shared → t.shared.data = [] →
      (s.sendReserved = 0 ↔
        grantHeld t = 0 ∧ reservedBytes t.shared.abandoned = 0 ∧ writerHeld t = 0)) := by
  obtain ⟨flow, peerInitiated, isOpen, own, owns, steady⟩ := stream_runs ran few t member
  obtain ⟨ledger, alive⟩ := ledger_exact steady owns
  have balanced : s.sendReserved.toNat = (grantHeld t).toNat + reservedBytes t.shared.data +
      reservedBytes t.shared.abandoned + (writerHeld t).toNat := ledger s found
  refine ⟨fun kept => ?_, fun _ drained => ?_⟩
  · have kept : t.shared.abandoned = [] := alive kept
    rw [balanced, kept]
    rfl
  · have none : reservedBytes t.shared.data = 0 := by
      rw [drained]
      rfl
    have zero (n : UInt64) : n = 0 ↔ n.toNat = 0 := UInt64.toNat_inj.symm
    rw [zero, zero (grantHeld t), zero (writerHeld t)]
    omega

/-- The application opens a stream to a peer that grants 64 bytes. -/
def opensStream : List ConnLabel :=
  [.hello ⟨64, 64, 8⟩, .reserveSlot, .commitSlot, .newStream 0 true]

/-- Writes of one byte, each up to its return. -/
def writesOnce (n : Nat) : List ConnLabel :=
  (List.replicate n [ConnLabel.stream 0 (.call (.pollWrite [1])), .stream 0 (.run 2),
    .stream 0 (.run 2), .stream 0 (.run 2)]).flatten

/-- A write that is queued and sent, and a reset. -/
def writesAndResets : List ConnLabel :=
  opensStream ++ writesOnce 1 ++ List.replicate 8 (.stream 0 (.run 1)) ++
    [.stream 0 (.call (.resetWrite .cancelled))] ++ List.replicate 4 (.stream 0 (.run 2)) ++
    List.replicate 4 (.stream 0 (.run 1))

theorem reservations_conserved_writesAndResets : ∃ c t s,
    run ConnStreams.step (new defaultFlowLimits) writesAndResets = some c ∧ t ∈ c.streams ∧
      c.flow.streams t.shared.id = some s ∧ Ended t.shared ∧ t.shared.data = [] ∧
      s.sendReserved.toNat =
        (grantHeld t).toNat + reservedBytes t.shared.data + (writerHeld t).toNat ∧
      (s.sendReserved = 0 ↔
        grantHeld t = 0 ∧ reservedBytes t.shared.abandoned = 0 ∧ writerHeld t = 0) := by
  have resets : (run ConnStreams.step (new defaultFlowLimits) writesAndResets).any (fun c =>
      decide (c.streams.length < 2 ^ 64) && c.streams.head?.any fun t =>
        decide (t.shared.writerGone = false ∧ (c.flow.streams t.shared.id).isSome = true ∧
          Ended t.shared ∧ t.shared.data = [])) = true := by decide +kernel
  obtain ⟨c, ran, facts⟩ := (Option.any_eq_true _ _).mp resets
  obtain ⟨few, facts⟩ := (Bool.and_eq_true _ _).mp facts
  obtain ⟨t, first, facts⟩ := (Option.any_eq_true _ _).mp facts
  obtain ⟨alive, present, ended, drained⟩ := of_decide_eq_true facts
  obtain ⟨s, found⟩ := Option.isSome_iff_exists.mp present
  have member := List.mem_of_mem_head? first
  obtain ⟨balanced, pins⟩ := reservations_conserved ran (of_decide_eq_true few) member found
  exact ⟨c, t, s, ran, member, found, ended, drained, balanced alive, pins ended drained⟩

/-- Writes until the queue is full and one more waits for room with a grant, a reset, and the writer
task until the RESET is handed over and the queue is empty. -/
def resetsWhileFull : List ConnLabel :=
  opensStream ++ writesOnce 33 ++ [.stream 0 (.call (.resetWrite .cancelled))] ++
    List.replicate 4 (.stream 0 (.run 2)) ++ List.replicate 133 (.stream 0 (.run 1))

/-- Three writes, a reset, and the writer task until the RESET is handed over; the peer sends four
bytes and ends its half, two are read and credit for them is queued, the channel closes, and the
writer task goes on. -/
def resetsAndCloses : List ConnLabel :=
  opensStream ++ writesOnce 3 ++ [.stream 0 (.call (.resetWrite .cancelled))] ++
    List.replicate 4 (.stream 0 (.run 2)) ++ List.replicate 5 (.stream 0 (.run 1)) ++
    [.stream 0 (.message [0, 1, 2, 3, 4])] ++ List.replicate 3 (.stream 0 (.run 0)) ++
    [.stream 0 (.message [1])] ++ List.replicate 2 (.stream 0 (.run 0)) ++
    [.stream 0 (.call (.pollRead 2))] ++ List.replicate 4 (.stream 0 (.run 2)) ++
    [.stream 0 .channelClosed] ++ List.replicate 3 (.stream 0 (.run 1))

/-- **A reset stream pins credit**: the RESET was handed over, the queue is empty, the writer task
holds nothing, and the engine still counts the grant of a write that waited for room, or the entries
that were queued when the writer task ended. -/
theorem credit_pinned :
    (∃ c t s, run ConnStreams.step (new defaultFlowLimits) resetsWhileFull = some c ∧
      t ∈ c.streams ∧ t.shared.writerGone = false ∧ c.flow.streams t.shared.id = some s ∧
      ¬(Ended t.shared → t.shared.data = [] → s.sendReserved = 0) ∧ writerHeld t = 0) ∧
    ∃ c t s, run ConnStreams.step (new ⟨4, 8, 8⟩) resetsAndCloses = some c ∧ t ∈ c.streams ∧
      t.shared.writerGone = true ∧ c.flow.streams t.shared.id = some s ∧
      ¬(Ended t.shared → t.shared.data = [] → s.sendReserved = 0) ∧
      grantHeld t + writerHeld t = 0 := by
  have pins : (run ConnStreams.step (new defaultFlowLimits) resetsWhileFull).any (fun c =>
      c.streams.head?.any fun t => (c.flow.streams t.shared.id).any fun s =>
        decide (t.shared.writerGone = false ∧ Ended t.shared ∧ t.shared.data = [] ∧
          s.sendReserved ≠ 0 ∧ writerHeld t = 0)) = true := by decide +kernel
  have drops : (run ConnStreams.step (new ⟨4, 8, 8⟩) resetsAndCloses).any (fun c =>
      c.streams.head?.any fun t => (c.flow.streams t.shared.id).any fun s =>
        decide (t.shared.writerGone = true ∧ Ended t.shared ∧ t.shared.data = [] ∧
          s.sendReserved ≠ 0 ∧ grantHeld t + writerHeld t = 0)) = true := by decide +kernel
  constructor
  · obtain ⟨c, ran, facts⟩ := (Option.any_eq_true _ _).mp pins
    obtain ⟨t, first, facts⟩ := (Option.any_eq_true _ _).mp facts
    obtain ⟨s, found, facts⟩ := (Option.any_eq_true _ _).mp facts
    obtain ⟨alive, ended, drained, pinned, empty⟩ := of_decide_eq_true facts
    exact ⟨c, t, s, ran, List.mem_of_mem_head? first, alive, found,
      fun freed => pinned (freed ended drained), empty⟩
  · obtain ⟨c, ran, facts⟩ := (Option.any_eq_true _ _).mp drops
    obtain ⟨t, first, facts⟩ := (Option.any_eq_true _ _).mp facts
    obtain ⟨s, found, facts⟩ := (Option.any_eq_true _ _).mp facts
    obtain ⟨gone, ended, drained, pinned, empty⟩ := of_decide_eq_true facts
    exact ⟨c, t, s, ran, List.mem_of_mem_head? first, gone, found,
      fun freed => pinned (freed ended drained), empty⟩

end ConnStreams

end Kps.Rust
