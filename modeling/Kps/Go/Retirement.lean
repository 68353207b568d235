/-
**The retirement of a Go stream.**

`maybeRetire` starts a goroutine that closes the channel of a stream that is wire-complete and
drained. The frame that ends the local write half has to be on the channel by then.

* `closes_after_terminal` — while the connection is healthy and the peer closes channels only after
  our terminal frame, the channel is closed only after a FIN or RESET was sent, in every run in
  which the closing goroutine does not run between the decision for a terminal frame and its `Send`;
* `closes_before_terminal` — a run in which it does.
-/

import Kps.Go.StreamSender

namespace Kps.Go

open Kps.Lib

/-- The sections that are only pending once the channel was open. -/
def StreamSection.needsOpen : StreamSection → Bool
  | .onFrame _ => true
  | .sendResetIfOpen _ => true
  | .sendTerminal _ => true
  | .closeOpenCh => true
  | .onChannelClose => true
  | _ => false

namespace WebrtcStream

/-- Nothing fatal happened, and the connection is not being torn down. -/
def Healthy (s : WebrtcStream) : Prop := s.isTeardown = false ∧ s.fatals = []

/-- A FIN or RESET was handed to the channel. -/
def Ended (s : WebrtcStream) : Prop := ∃ frame ∈ s.frames, isTerminal frame = true

/-- Every `Close` comes after a FIN or RESET. -/
def ClosesAfterTerminal (calls : List Call) : Prop :=
  ∀ before after, calls = before ++ .close :: after →
    ∃ frame, .send frame ∈ before ∧ isTerminal frame = true

/-- What a section leaves of the channel's opening, of the connection's health, and to its
goroutine. -/
structure Keeps (s : WebrtcStream) (op : StreamSection) (e : Effect WebrtcStream StreamSection) :
    Prop where
  connecting : e.shared.dc.readyState = .connecting → s.dc.readyState = .connecting
  openCh : e.shared.openCh = true → s.openCh = true ∨ op = .closeOpenCh
  teardown : e.shared.isTeardown = s.isTeardown
  fatals : e.shared.fatals = [] → s.fatals = []
  next : ∀ other ∈ e.next, other.needsOpen = true →
    op.needsOpen = true ∨ s.dc.readyState = .opened ∨ op = .destroy
  destroy : StreamSection.destroy ∉ e.next

variable {s : WebrtcStream} {op : StreamSection} {e : Effect WebrtcStream StreamSection}

/-- No section of the list is a `destroy`, or needs an open channel. -/
def Late (sections : List StreamSection) : Prop :=
  ∀ op ∈ sections, op.needsOpen = false ∧ op ≠ .destroy

theorem late_nil : Late [] := fun _ member => absurd member List.not_mem_nil

theorem Late.cons {rest : List StreamSection} (closed : op.needsOpen = false)
    (alive : op ≠ .destroy) (late : Late rest) : Late (op :: rest) := by
  intro other member
  rcases List.mem_cons.mp member with rfl | member
  · exact ⟨closed, alive⟩
  · exact late other member

theorem Late.append {first second : List StreamSection} (left : Late first) (right : Late second) :
    Late (first ++ second) := by
  intro other member
  rcases List.mem_append.mp member with member | member
  · exact left other member
  · exact right other member

theorem late_single (closed : op.needsOpen = false) (alive : op ≠ .destroy) : Late [op] :=
  .cons closed alive late_nil

theorem late_consumed (n : Nat) : Late (consumed n) := by
  unfold consumed
  split
  · exact late_single rfl (by simp)
  · exact late_nil

/-- A section that leaves the opening and the health. -/
theorem Keeps.ofAndThen {s' : WebrtcStream} {next : List StreamSection}
    (ran : andThen next s' = some e) (ready : s'.dc.readyState = s.dc.readyState)
    (openCh : s'.openCh = s.openCh) (teardown : s'.isTeardown = s.isTeardown)
    (fatals : s'.fatals = s.fatals) (late : Late next) : Keeps s op e := by
  cases ran
  exact ⟨fun connecting => ready ▸ connecting, fun opened => Or.inl (openCh ▸ opened), teardown,
    fun none => fatals ▸ none,
    fun other member needs => absurd needs (by simp [(late other member).1]),
    fun member => (late _ member).2 rfl⟩

theorem onFrame_keeps {data : Bytes} (ran : s.onFrame data = some e) :
    Keeps s (.onFrame data) e := by
  unfold onFrame at ran
  split at ran
  · exact .ofAndThen ran rfl rfl rfl rfl (late_single rfl (by simp))
  · split at ran
    · split at ran <;> exact .ofAndThen ran rfl rfl rfl rfl (late_single rfl (by simp))
    · split at ran <;> exact .ofAndThen ran rfl rfl rfl rfl (late_single rfl (by simp))
    · split at ran
      · exact .ofAndThen ran rfl rfl rfl rfl (late_single rfl (by simp))
      · exact .ofAndThen ran rfl rfl rfl rfl ((late_consumed _).append (late_single rfl (by simp)))
    · split at ran
      · exact .ofAndThen ran rfl rfl rfl rfl late_nil
      · dsimp only at ran
        split at ran
        · cases ran
          exact ⟨id, Or.inl, rfl, id, fun _ _ _ => Or.inl rfl, by simp⟩
        · exact .ofAndThen ran rfl rfl rfl rfl (late_single rfl (by simp))
    · exact .ofAndThen ran rfl rfl rfl rfl late_nil

theorem maybeRetire_keeps (ran : s.maybeRetire = some e) : Keeps s .maybeRetire e := by
  unfold maybeRetire at ran
  split at ran
  · split at ran
    · split at ran
      · exact .ofAndThen ran rfl rfl rfl rfl late_nil
      · exact .ofAndThen ran rfl rfl rfl rfl (late_single rfl (by simp))
    · cases ran
      exact ⟨id, Or.inl, rfl, id, fun _ member => absurd member List.not_mem_nil, List.not_mem_nil⟩
  · exact .ofAndThen ran rfl rfl rfl rfl late_nil

theorem read_keeps {size : Nat} (ran : s.read size = some e) : Keeps s (.read size) e := by
  unfold read at ran
  split at ran
  · exact .ofAndThen ran rfl rfl rfl rfl late_nil
  split at ran
  · exact .ofAndThen ran rfl rfl rfl rfl (.cons rfl (by simp) (late_single rfl (by simp)))
  split at ran
  · exact .ofAndThen ran rfl rfl rfl rfl late_nil
  split at ran
  · exact .ofAndThen ran rfl rfl rfl rfl late_nil
  split at ran
  · exact .ofAndThen ran rfl rfl rfl rfl late_nil
  split at ran
  · exact .ofAndThen ran rfl rfl rfl rfl late_nil
  · cases ran

theorem readyState_trySend (dc : DataChannel) (frame : Wire.Frame) :
    (dc.trySend frame).readyState = dc.readyState := by
  unfold DataChannel.trySend
  cases sent : dc.send frame with
  | none => rfl
  | some dc' =>
    obtain ⟨-, rfl⟩ := send_eq_some sent
    rfl

theorem Keeps.ofTrySend (frame : Wire.Frame) :
    Keeps s op { shared := { s with dc := s.dc.trySend frame } } where
  connecting := fun connecting => (readyState_trySend s.dc frame).symm.trans connecting
  openCh := Or.inl
  teardown := rfl
  fatals := id
  next := fun _ member => absurd member List.not_mem_nil
  destroy := List.not_mem_nil

/-- **What a section keeps.** -/
theorem exec_keeps (ran : s.exec op = some e) : Keeps s op e := by
  cases op with
  | onFrame data => exact onFrame_keeps ran
  | onDataReceived payload cancelled =>
    simp only [exec] at ran
    split at ran
    · exact .ofAndThen ran rfl rfl rfl rfl (late_single rfl (by simp))
    · refine .ofAndThen ran rfl rfl rfl rfl ?_
      split <;> exact late_single rfl (by simp)
  | appendData payload => exact .ofAndThen ran rfl rfl rfl rfl late_nil
  | fatal code text =>
    cases ran
    exact ⟨id, Or.inl, rfl, fun none => by simp at none,
      fun _ member => absurd member List.not_mem_nil, List.not_mem_nil⟩
  | failSend failure => exact .ofAndThen ran rfl rfl rfl rfl late_nil
  | sendResetIfOpen code =>
    cases ran
    exact .ofTrySend _
  | write p =>
    simp only [exec] at ran
    split at ran
    · exact .ofAndThen ran rfl rfl rfl rfl (late_single rfl (by simp))
    · exact .ofAndThen ran rfl rfl rfl rfl late_nil
    · cases ran
  | writeLoop p written =>
    simp only [exec, writeLoop] at ran
    split at ran
    · exact .ofAndThen ran rfl rfl rfl rfl late_nil
    · split at ran
      · exact .ofAndThen ran rfl rfl rfl rfl late_nil
      · exact .ofAndThen ran rfl rfl rfl rfl (late_single rfl (by simp))
      · cases ran
  | sendReserved chunk rest written =>
    simp only [exec, sendReserved] at ran
    split at ran
    · exact .ofAndThen ran rfl rfl rfl rfl (late_single rfl (by simp))
    split at ran
    · exact .ofAndThen ran rfl rfl rfl rfl (late_single rfl (by simp))
    split at ran
    · exact .ofAndThen ran rfl rfl rfl rfl (late_single rfl (by simp))
    split at ran
    · exact .ofAndThen ran rfl rfl rfl rfl (late_single rfl (by simp))
    · cases ran
  | sendData chunk rest written =>
    simp only [exec] at ran
    split at ran
    · next sent =>
      obtain ⟨-, rfl⟩ := send_eq_some sent
      exact .ofAndThen ran rfl rfl rfl rfl (.cons rfl (by simp) (late_single rfl (by simp)))
    · exact .ofAndThen ran rfl rfl rfl rfl (late_single rfl (by simp))
  | commit n => exact .ofAndThen ran rfl rfl rfl rfl late_nil
  | release n => exact .ofAndThen ran rfl rfl rfl rfl late_nil
  | closeWrite =>
    simp only [exec] at ran
    split at ran
    · exact .ofAndThen ran rfl rfl rfl rfl late_nil
    · exact .ofAndThen ran rfl rfl rfl rfl (.cons rfl (by simp) (late_single rfl (by simp)))
  | resetWrite code =>
    simp only [exec] at ran
    split at ran
    · exact .ofAndThen ran rfl rfl rfl rfl late_nil
    · exact .ofAndThen ran rfl rfl rfl rfl (.cons rfl (by simp) (late_single rfl (by simp)))
  | waitOpen terminal =>
    simp only [exec] at ran
    split at ran
    · next waited =>
      cases ran
      have isOpen := (waitOpen_eq_some waited).2.mp rfl
      exact ⟨id, Or.inl, rfl, id, fun _ _ _ => Or.inr (Or.inl isOpen), by simp⟩
    · exact .ofAndThen ran rfl rfl rfl rfl late_nil
    · cases ran
  | sendTerminal terminal =>
    cases ran
    exact .ofTrySend _
  | cancelRead code =>
    simp only [exec] at ran
    split at ran
    · exact .ofAndThen ran rfl rfl rfl rfl late_nil
    · refine .ofAndThen ran rfl rfl rfl rfl ?_
      refine Late.append
        (Late.append (Late.append (late_single rfl (by simp)) (late_consumed _)) ?_)
        (late_single rfl (by simp))
      split
      · exact late_nil
      · exact late_single rfl (by simp)
  | markCancelled => exact .ofAndThen ran rfl rfl rfl rfl late_nil
  | onConsumed n =>
    refine .ofAndThen ran rfl rfl rfl rfl (Late.append (fun op member => ?_) fun op member => ?_)
    · obtain ⟨v, -, rfl⟩ := Option.map_eq_some_iff.mp (Option.mem_toList.mp member)
      exact ⟨rfl, by simp⟩
    · obtain ⟨v, -, rfl⟩ := Option.map_eq_some_iff.mp (Option.mem_toList.mp member)
      exact ⟨rfl, by simp⟩
  | sendMaxStreamData v =>
    cases ran
    exact .ofTrySend _
  | sendMaxData v => exact .ofAndThen ran rfl rfl rfl rfl late_nil
  | waitOpenStop code =>
    simp only [exec] at ran
    split at ran
    · exact .ofAndThen ran rfl rfl rfl rfl (late_single rfl (by simp))
    · exact .ofAndThen ran rfl rfl rfl rfl late_nil
    · cases ran
  | sendStop code =>
    cases ran
    exact .ofTrySend _
  | read size => exact read_keeps ran
  | maybeRetire => exact maybeRetire_keeps ran
  | dcClose =>
    cases ran
    refine ⟨fun connecting => ?_, Or.inl, rfl, id, fun _ member => absurd member List.not_mem_nil,
      List.not_mem_nil⟩
    unfold DataChannel.close at connecting
    dsimp only at connecting
    split at connecting <;> cases connecting
  | retired => exact .ofAndThen ran rfl rfl rfl rfl late_nil
  | onChannelClose =>
    cases ran
    exact ⟨id, Or.inl, rfl, id, fun _ _ _ => Or.inl rfl, by simp⟩
  | policeClose wireComplete =>
    simp only [exec] at ran
    split at ran
    · exact .ofAndThen ran rfl rfl rfl rfl (late_single rfl (by simp))
    · exact .ofAndThen ran rfl rfl rfl rfl late_nil
  | closeOpenCh =>
    cases ran
    exact ⟨id, fun _ => Or.inr rfl, rfl, id, fun _ member => absurd member List.not_mem_nil,
      List.not_mem_nil⟩
  | closeClosedCh => exact .ofAndThen ran rfl rfl rfl rfl late_nil
  | destroy =>
    cases ran
    refine ⟨id, Or.inl, rfl, id, fun _ _ _ => Or.inr (Or.inr rfl), fun member => ?_⟩
    rcases List.mem_append.mp member with member | member
    · exact (late_consumed _ _ member).2 rfl
    · simp at member

/-! ### The invariant -/

/-- While the connection is healthy the peer closes the channel only after our terminal frame. -/
def PeerConforms (t : Goroutines) : Label → Prop
  | .channelClosed => Healthy t.shared → t.shared.dc.readyState ≠ .closing → Ended t.shared
  | _ => True

/-- While the connection is healthy the retirement goroutine does not close the channel between the
decision for a terminal frame and its `Send`. -/
def ClosesAlone (t : Goroutines) : Label → Prop
  | .run thread =>
    match t.pool[thread]? with
    | some (op :: _) => op.closes = true → Healthy t.shared →
      ∀ other ∈ t.pending, other.endsWrite = false
    | _ => True
  | _ => True

/-- The invariant of a healthy connection: a decided terminal frame is sent or about to be, a
channel that left the open state carries one, and what is only pending once the channel was open is
only pending then. -/
structure Retiring (t : Goroutines) : Prop where
  decided : t.shared.localTerminal ≠ .terminalNone →
    Ended t.shared ∨ ∃ op ∈ t.pending, op.endsWrite = true
  left : t.shared.dc.readyState = .closing ∨ t.shared.dc.readyState = .closed → Ended t.shared
  openCh : t.shared.openCh = true → t.shared.dc.readyState ≠ .connecting
  opening : ∀ op ∈ t.pending, op.needsOpen = true → t.shared.dc.readyState ≠ .connecting
  retiring : ∀ op ∈ t.pending, op.closes = true → t.shared.localTerminal ≠ .terminalNone
  ordered : ClosesAfterTerminal t.shared.dc.calls

structure RetireInv (t : Goroutines) : Prop where
  destroyed : .destroy ∈ t.pending → t.shared.isTeardown = true
  healthy : Healthy t.shared → Retiring t

theorem closes_send {calls : List Call} (ordered : ClosesAfterTerminal calls) (frame : Wire.Frame) :
    ClosesAfterTerminal (calls ++ [.send frame]) := by
  intro before after split
  rcases List.append_eq_append_iff.mp split with ⟨middle, rest, tail⟩ | ⟨middle, rest, tail⟩
  · cases middle with
    | nil => simp at tail
    | cons head middle =>
      simp only [List.cons_append, List.cons.injEq] at tail
      exact absurd tail.2 (by simp)
  · cases middle with
    | nil => simp at tail
    | cons head middle =>
      rw [List.cons_append, List.cons.injEq] at tail
      obtain ⟨rfl, -⟩ := tail
      exact ordered before middle rest

theorem closes_close {calls : List Call} (ordered : ClosesAfterTerminal calls)
    (ended : ∃ frame, .send frame ∈ calls ∧ isTerminal frame = true) :
    ClosesAfterTerminal (calls ++ [.close]) := by
  intro before after split
  rcases List.append_eq_append_iff.mp split with ⟨middle, rest, tail⟩ | ⟨middle, rest, tail⟩
  · cases middle with
    | nil =>
      rw [List.append_nil] at rest
      exact rest ▸ ended
    | cons head middle =>
      simp only [List.cons_append, List.cons.injEq] at tail
      exact absurd tail.2 (by simp)
  · cases middle with
    | nil =>
      rw [List.append_nil] at rest
      exact rest ▸ ended
    | cons head middle =>
      rw [List.cons_append, List.cons.injEq] at tail
      obtain ⟨rfl, -⟩ := tail
      exact ordered before middle rest

theorem ended_iff : Ended s ↔ ∃ frame, .send frame ∈ s.dc.calls ∧ isTerminal frame = true := by
  unfold Ended frames
  constructor
  · rintro ⟨frame, member, terminal⟩
    obtain ⟨call, present, found⟩ := List.mem_filterMap.mp member
    cases call with
    | send other =>
      cases found
      exact ⟨frame, present, terminal⟩
    | close => cases found
  · rintro ⟨frame, present, terminal⟩
    exact ⟨frame, List.mem_filterMap.mpr ⟨_, present, rfl⟩, terminal⟩

/-- A decision for a terminal frame is not taken back. -/
theorem Acts.terminal (acts : Acts s op e) (decided : s.localTerminal ≠ .terminalNone) :
    e.shared.localTerminal ≠ .terminalNone := by
  cases acts with
  | quiet _ same _ _ _ _ => rwa [same]
  | decides _ _ now _ _ _ _ _ => exact now
  | sendsData _ _ same _ _ => rwa [same]
  | _ => exact decided

theorem Ended.trySend (ended : Ended s) (frame : Wire.Frame) :
    Ended { s with dc := s.dc.trySend frame } := by
  obtain ⟨earlier, member, terminal⟩ := ended
  refine ⟨earlier, ?_, terminal⟩
  rcases frames_trySend s frame with same | ⟨-, sent⟩
  · rw [same]
    exact member
  · rw [sent]
    exact List.mem_append_left _ member

/-- What was sent stays sent. -/
theorem Acts.ended (acts : Acts s op e) (ended : Ended s) : Ended e.shared := by
  cases acts with
  | quiet dc _ _ _ _ _ =>
    unfold Ended
    rw [frames_congr (congrArg DataChannel.calls dc)]
    exact ended
  | decides _ dc _ _ _ _ _ _ =>
    unfold Ended
    rw [frames_congr (congrArg DataChannel.calls dc)]
    exact ended
  | ends _ _ _ _ _ => exact ended.trySend _
  | sends _ _ _ _ _ => exact ended.trySend _
  | @sendsData chunk _ _ _ _ dc _ _ _ =>
    obtain ⟨earlier, member, terminal⟩ := ended
    refine ⟨earlier, ?_, terminal⟩
    rw [frames_send (congrArg DataChannel.calls dc)]
    exact List.mem_append_left _ member
  | closes =>
    unfold Ended
    rw [frames_close]
    exact ended
  | _ => exact ended

/-- The channel leaves the open state only by the closing section. -/
theorem Acts.left (acts : Acts s op e) (open' : op.closes = false)
    (left : e.shared.dc.readyState = .closing ∨ e.shared.dc.readyState = .closed) :
    s.dc.readyState = .closing ∨ s.dc.readyState = .closed := by
  cases acts with
  | quiet dc _ _ _ _ _ => rwa [dc] at left
  | decides _ dc _ _ _ _ _ _ => rwa [dc] at left
  | ends _ _ _ _ _ =>
    rw [show ({ s with dc := s.dc.trySend _ } : WebrtcStream).dc.readyState = _ from
      readyState_trySend s.dc _] at left
    exact left
  | sends _ _ _ _ _ =>
    rw [show ({ s with dc := s.dc.trySend _ } : WebrtcStream).dc.readyState = _ from
      readyState_trySend s.dc _] at left
    exact left
  | sendsData _ dc _ _ _ =>
    rw [dc] at left
    exact left
  | closes => cases open'
  | _ => exact left

/-- The calls only grow by frames, but for the closing section. -/
theorem Acts.ordered (acts : Acts s op e) (ordered : ClosesAfterTerminal s.dc.calls)
    (ended : op.closes = true → Ended s) : ClosesAfterTerminal e.shared.dc.calls := by
  have trySend (frame : Wire.Frame) : ClosesAfterTerminal (s.dc.trySend frame).calls := by
    unfold DataChannel.trySend
    cases sent : s.dc.send frame with
    | none => exact ordered
    | some dc =>
      obtain ⟨-, rfl⟩ := send_eq_some sent
      exact closes_send ordered frame
  cases acts with
  | quiet dc _ _ _ _ _ => rwa [dc]
  | decides _ dc _ _ _ _ _ _ => rwa [dc]
  | ends _ _ _ _ _ => exact trySend _
  | sends _ _ _ _ _ => exact trySend _
  | sendsData _ dc _ _ _ =>
    rw [dc]
    exact closes_send ordered _
  | closes => exact closes_close ordered (ended_iff.mp (ended rfl))
  | _ => exact ordered

/-- A section between the decision and its `Send` leaves the next one, or the frame is sent, or the
channel is not open. -/
theorem Acts.endsWrite (acts : Acts s op e) (ends : op.endsWrite = true)
    (connecting : op.needsOpen = true → s.dc.readyState ≠ .connecting) :
    Ended e.shared ∨ (∃ other ∈ e.next, other.endsWrite = true) ∨
      s.dc.readyState = .closing ∨ s.dc.readyState = .closed ∨
        (s.openCh = true ∧ s.dc.readyState = .connecting) := by
  cases acts with
  | quiet _ _ _ _ op_ends _ =>
    rw [op_ends] at ends
    cases ends
  | decides _ _ _ _ _ op_ends _ _ =>
    rw [op_ends] at ends
    cases ends
  | sends _ _ op_ends _ _ =>
    rw [op_ends] at ends
    cases ends
  | ready _ => exact Or.inr (Or.inl ⟨_, List.mem_cons_self, rfl⟩)
  | givesUp openCh notOpen =>
    cases state : s.dc.readyState with
    | connecting => exact Or.inr (Or.inr (Or.inr (Or.inr ⟨openCh, rfl⟩)))
    | opened => exact absurd state notOpen
    | closing => exact Or.inr (Or.inr (Or.inl rfl))
    | closed => exact Or.inr (Or.inr (Or.inr (Or.inl rfl)))
  | @ends _ frame terminal _ op_sends _ _ =>
    have notConnecting : s.dc.readyState ≠ .connecting := by
      apply connecting
      cases op <;> first | rfl | cases op_sends
    cases state : s.dc.readyState with
    | connecting => exact absurd state notConnecting
    | opened =>
      refine Or.inl (ended_iff.mpr ⟨frame, ?_, terminal⟩)
      show .send frame ∈ (s.dc.trySend frame).calls
      unfold DataChannel.trySend DataChannel.send
      rw [if_pos state]
      exact List.mem_append_right _ (List.mem_singleton.mpr rfl)
    | closing => exact Or.inr (Or.inr (Or.inl rfl))
    | closed => exact Or.inr (Or.inr (Or.inr (Or.inl rfl)))
  | admits _ => cases ends
  | sendsData _ _ _ _ _ => cases ends
  | retires _ _ _ => cases ends
  | closes => cases ends

/-- A terminal frame that is decided was decided before, or the section leaves its `Send`. -/
theorem Acts.decided (acts : Acts s op e) (decided : e.shared.localTerminal ≠ .terminalNone) :
    s.localTerminal ≠ .terminalNone ∨
      op.endsWrite = false ∧ ∃ other ∈ e.next, other.endsWrite = true := by
  cases acts with
  | quiet _ same _ _ _ _ => exact Or.inl (same ▸ decided)
  | decides _ _ _ next _ op_ends _ _ =>
    obtain ⟨failure, ending, others, next, ends, -⟩ := next
    refine Or.inr ⟨op_ends, ending, ?_, ends⟩
    rw [next]
    simp
  | sendsData _ _ same _ _ => exact Or.inl (same ▸ decided)
  | _ => exact Or.inl decided

/-- Only the goroutine that `maybeRetire` starts closes the channel. -/
theorem Acts.next_closes (acts : Acts s op e) : ∀ other ∈ e.next, other.closes = false := by
  intro other member
  cases acts with
  | quiet _ _ next _ _ _ => exact (next other member).2.2
  | admits _ =>
    rw [List.mem_singleton.mp member]
    rfl
  | decides _ _ _ next _ _ _ _ =>
    obtain ⟨failure, ending, others, next, -, -, closes, plain⟩ := next
    rw [next] at member
    simp only [List.cons_append, List.nil_append, List.mem_cons] at member
    rcases member with rfl | rfl | member
    · rfl
    · exact closes
    · exact (plain other member).2.2
  | ready _ =>
    simp only [List.mem_cons, List.not_mem_nil, or_false] at member
    rcases member with rfl | rfl <;> rfl
  | sendsData _ _ _ next _ => exact (next other member).2.2
  | _ => cases member

/-- A decided terminal frame is sent, once no section between the decision and its `Send` is
pending. -/
theorem Retiring.ended {t : Goroutines} (inv : Retiring t)
    (decided : t.shared.localTerminal ≠ .terminalNone)
    (alone : ∀ other ∈ t.pending, other.endsWrite = false) : Ended t.shared := by
  rcases inv.decided decided with ended | ⟨other, member, ends⟩
  · exact ended
  · rw [alone other member] at ends
    cases ends

theorem Retiring.run {t t' : Goroutines} (inv : Retiring t) {thread : Nat}
    {rest : List StreamSection}
    (top : t.pool[thread]? = some (op :: rest)) (acts : Acts t.shared op e)
    (keeps : Keeps t.shared op e)
    (after : t' = ⟨e.shared, t.pool.set thread (e.next ++ rest) ++ e.started⟩)
    (alive : op ≠ .destroy)
    (alone : op.closes = true → ∀ other ∈ t.pending, other.endsWrite = false) : Retiring t' := by
  obtain ⟨members, counts⟩ := pending_after top after
  have pending := Threads.mem_pending top
  have shared : t'.shared = e.shared := by rw [after]
  have closing : op.closes = true → Ended t.shared := fun closes =>
    inv.ended (inv.retiring op pending closes) (alone closes)
  have started : ∀ other ∈ e.started.flatten,
      other = .dcClose ∧ t.shared.localTerminal ≠ .terminalNone := by
    intro other member
    rcases acts.started_eq with none | ⟨one, decided⟩
    · rw [none] at member
      cases member
    · rw [one] at member
      exact ⟨by simpa using member, decided⟩
  constructor
  · -- a decided terminal frame
    intro decided
    rw [shared] at decided ⊢
    have count := counts StreamSection.endsWrite
    have present : (∃ other ∈ t'.pending, other.endsWrite = true) ↔
        0 < t'.pending.countP StreamSection.endsWrite := List.countP_pos_iff.symm
    rw [present]
    rcases acts.decided decided with earlier | ⟨op_ends, leaves⟩
    · rcases inv.decided earlier with ended | waits
      · exact Or.inl (acts.ended ended)
      · have waits : 0 < t.pending.countP StreamSection.endsWrite := List.countP_pos_iff.mpr waits
        cases ends : op.endsWrite with
        | false =>
          simp only [ends] at count
          exact Or.inr (by simp at count; omega)
        | true =>
          simp only [ends, if_true] at count
          rcases acts.endsWrite ends (inv.opening op pending) with
            ended | leaves | left | left | ⟨openCh, connecting⟩
          · exact Or.inl ended
          · have leaves : 0 < e.next.countP StreamSection.endsWrite :=
              List.countP_pos_iff.mpr leaves
            exact Or.inr (by omega)
          · exact Or.inl (acts.ended (inv.left (Or.inl left)))
          · exact Or.inl (acts.ended (inv.left (Or.inr left)))
          · exact absurd connecting (inv.openCh openCh)
    · have leaves : 0 < e.next.countP StreamSection.endsWrite := List.countP_pos_iff.mpr leaves
      simp only [op_ends] at count
      exact Or.inr (by simp at count; omega)
  · -- a channel that left the open state
    intro left
    rw [shared] at left ⊢
    cases closes : op.closes with
    | false => exact acts.ended (inv.left (acts.left closes left))
    | true => exact acts.ended (closing closes)
  · -- the wait for the opening
    intro openCh connecting
    rw [shared] at openCh connecting
    rcases keeps.openCh openCh with earlier | rfl
    · exact inv.openCh earlier (keeps.connecting connecting)
    · exact inv.opening _ pending rfl (keeps.connecting connecting)
  · -- what needs the opening
    intro other member needs connecting
    rw [shared] at connecting
    have connecting := keeps.connecting connecting
    rcases members other member with new | new | old
    · rcases keeps.next other new needs with op_needs | isOpen | rfl
      · exact inv.opening op pending op_needs connecting
      · rw [connecting] at isOpen
        cases isOpen
      · exact alive rfl
    · rw [(started other new).1] at needs
      cases needs
    · exact inv.opening other old needs connecting
  · -- the retirement goroutine
    intro other member closes
    rw [shared]
    rcases members other member with new | new | old
    · rw [acts.next_closes other new] at closes
      cases closes
    · exact acts.terminal (started other new).2
    · exact acts.terminal (inv.retiring other old closes)
  · rw [shared]
    exact acts.ordered inv.ordered closing

theorem RetireInv.run {t t' : Goroutines} (inv : RetireInv t) {thread : Nat}
    (alone : ClosesAlone t (.run thread)) (stepped : t.advance exec thread = some t') :
    RetireInv t' := by
  obtain ⟨op, rest, e, top, ran, after⟩ := Threads.advance_eq_some.mp stepped
  obtain ⟨members, -⟩ := pending_after top after
  have keeps := exec_keeps ran
  have acts := exec_acts ran
  have shared : t'.shared = e.shared := by rw [after]
  unfold ClosesAlone at alone
  simp only [top] at alone
  refine ⟨fun member => ?_, fun healthy => ?_⟩
  · rw [shared, keeps.teardown]
    rcases members _ member with new | new | old
    · exact absurd new keeps.destroy
    · rcases acts.started_eq with none | ⟨one, -⟩
      · rw [none] at new
        cases new
      · rw [one] at new
        simp at new
    · exact inv.destroyed old
  · rw [shared] at healthy
    have before : Healthy t.shared := ⟨keeps.teardown ▸ healthy.1, keeps.fatals healthy.2⟩
    refine (inv.healthy before).run top acts keeps after ?_ fun closes => alone closes before
    rintro rfl
    have teardown := inv.destroyed (Threads.mem_pending top)
    rw [before.1] at teardown
    cases teardown

/-- A step of the application or the transport: sections are added that do not close the channel. -/
theorem RetireInv.ofAdded {t t' : Goroutines} (inv : RetireInv t) {added : List StreamSection}
    (pending : t'.pending.Perm (added ++ t.pending))
    (calls : t'.shared.dc.calls = t.shared.dc.calls)
    (terminal : t'.shared.localTerminal = t.shared.localTerminal)
    (openCh : t'.shared.openCh = t.shared.openCh)
    (teardown : t'.shared.isTeardown = t.shared.isTeardown)
    (fatals : t'.shared.fatals = t.shared.fatals)
    (closes : ∀ op ∈ added, op.closes = false ∧ op ≠ .destroy)
    (connecting : t'.shared.dc.readyState = .connecting →
      t.shared.dc.readyState = .connecting ∧ ∀ op ∈ added, op.needsOpen = false)
    (left : Healthy t.shared →
      t'.shared.dc.readyState = .closing ∨ t'.shared.dc.readyState = .closed →
      t.shared.dc.readyState = .closing ∨ t.shared.dc.readyState = .closed ∨ Ended t.shared) :
    RetireInv t' := by
  have members : ∀ op ∈ t'.pending, op ∈ added ∨ op ∈ t.pending := fun op member =>
    List.mem_append.mp (pending.subset member)
  have ended (sent : Ended t.shared) : Ended t'.shared := by
    unfold Ended
    rw [frames_congr calls]
    exact sent
  refine ⟨fun member => ?_, fun healthy => ?_⟩
  · rw [teardown]
    rcases members _ member with new | old
    · exact absurd rfl (closes _ new).2
    · exact inv.destroyed old
  have before : Healthy t.shared := ⟨teardown ▸ healthy.1, fatals ▸ healthy.2⟩
  have inv := inv.healthy before
  constructor
  · intro decided
    rw [terminal] at decided
    rcases inv.decided decided with sent | ⟨op, member, ends⟩
    · exact Or.inl (ended sent)
    · exact Or.inr ⟨op, pending.symm.subset (List.mem_append_right _ member), ends⟩
  · intro now
    rcases left before now with closing | closed | sent
    · exact ended (inv.left (Or.inl closing))
    · exact ended (inv.left (Or.inr closed))
    · exact ended sent
  · intro opened now
    rw [openCh] at opened
    exact inv.openCh opened (connecting now).1
  · intro op member needs now
    rcases members op member with new | old
    · rw [(connecting now).2 op new] at needs
      cases needs
    · exact inv.opening op old needs (connecting now).1
  · intro op member closing
    rw [terminal]
    rcases members op member with new | old
    · rw [(closes op new).1] at closing
      cases closing
    · exact inv.retiring op old closing
  · rw [calls]
    exact inv.ordered

theorem Method.sections_late (method : Method) : Late method.sections := by
  cases method with
  | close => exact .cons rfl (by simp) (late_single rfl (by simp))
  | closeWithError code => exact .cons rfl (by simp) (late_single rfl (by simp))
  | _ => exact late_single rfl (by simp)

theorem RetireInv.step {t t' : Goroutines} {label : Label} (inv : RetireInv t)
    (conforms : PeerConforms t label) (alone : ClosesAlone t label)
    (stepped : WebrtcStream.step t label = some t') : RetireInv t' := by
  cases label with
  | run thread => exact inv.run alone stepped
  | call method =>
    cases stepped
    exact inv.ofAdded (pending_start_perm _ _) rfl rfl rfl rfl rfl
      (fun op member => ⟨(method.sections_plain op member).2.2, (method.sections_late op member).2⟩)
      (fun connecting => ⟨connecting, fun op member => (method.sections_late op member).1⟩)
      fun _ left => or_assoc.mp (Or.inl left)
  | channelOpen =>
    simp only [WebrtcStream.step] at stepped
    split at stepped <;> cases stepped
    exact inv.ofAdded (pending_start_perm _ (touch t _)) rfl rfl rfl rfl rfl (by decide)
      (fun connecting => by cases connecting)
        fun _ left => by rcases left with left | left <;> cases left
  | message data =>
    simp only [WebrtcStream.step] at stepped
    split at stepped
    · next isOpen =>
      obtain ⟨pending, shared⟩ := Threads.pending_resume stepped
      refine inv.ofAdded pending (by rw [shared]) (by rw [shared]) (by rw [shared]) (by rw [shared])
        (by rw [shared]) (fun op member => ?_) (fun connecting => ?_) fun _ left => ?_
      · rw [List.mem_singleton.mp member]
        exact ⟨rfl, by simp⟩
      · rw [shared] at connecting
        rw [connecting] at isOpen
        rcases isOpen with isOpen | isOpen <;> cases isOpen
      · rw [shared] at left
        exact or_assoc.mp (Or.inl left)
    · cases stepped
  | channelClosed =>
    simp only [WebrtcStream.step] at stepped
    split at stepped <;> cases stepped
    refine inv.ofAdded (pending_start_perm _ (touch t _)) rfl rfl rfl rfl rfl (by decide)
      (fun connecting => by cases connecting) fun healthy _ => ?_
    by_cases closing : t.shared.dc.readyState = .closing
    · exact Or.inl closing
    · exact Or.inr (Or.inr (conforms healthy closing))
  | buffered amount =>
    cases stepped
    have pending : t.pending.Perm ([] ++ t.pending) := List.Perm.refl _
    exact inv.ofAdded pending rfl rfl rfl rfl rfl (by decide)
      (fun connecting => ⟨connecting, by decide⟩) fun _ left => or_assoc.mp (Or.inl left)
  | credit flow =>
    cases stepped
    have pending : t.pending.Perm ([] ++ t.pending) := List.Perm.refl _
    exact inv.ofAdded pending rfl rfl rfl rfl rfl (by decide)
      (fun connecting => ⟨connecting, by decide⟩) fun _ left => or_assoc.mp (Or.inl left)
  | teardown =>
    cases stepped
    refine ⟨fun _ => rfl, fun healthy => ?_⟩
    cases healthy.1
  | destroy =>
    simp only [WebrtcStream.step] at stepped
    split at stepped
    · next teardown =>
      cases stepped
      refine ⟨fun _ => teardown, fun healthy => ?_⟩
      have alive : t.shared.isTeardown = false := healthy.1
      rw [teardown] at alive
      cases alive
    · cases stepped

theorem retireInv_start (limits : FlowWindows) (isOpen : Bool) :
    RetireInv (start limits isOpen) where
  destroyed := fun member => by simp [start, Threads.pending] at member
  healthy := fun _ =>
    { decided := fun decided => absurd rfl decided
      left := fun left => by cases isOpen <;> rcases left with left | left <;> cases left
      openCh := fun openCh => by
        have opened : isOpen = true := openCh
        subst opened
        intro connecting
        cases connecting
      opening := fun _ member => by simp [start, Threads.pending] at member
      retiring := fun _ member => by simp [start, Threads.pending] at member
      ordered := fun before after split => by
        have none : [] = before ++ .close :: after := split
        simp at none }

/-- **The channel is closed only after a FIN or RESET was sent**, while the connection is healthy
and its peer conforms, in every run in which the retirement goroutine does not close it between the
decision for a terminal frame and its `Send`. -/
theorem closes_after_terminal {limits : FlowWindows} {isOpen : Bool} {labels : List Label}
    {t : Goroutines}
    (meets : Meets WebrtcStream.step (fun t label => PeerConforms t label ∧ ClosesAlone t label)
      (start limits isOpen) labels)
    (ran : Lib.run WebrtcStream.step (start limits isOpen) labels = some t)
    (healthy : Healthy t.shared) : ClosesAfterTerminal t.shared.dc.calls := by
  have inv : RetireInv t :=
    run_invariant_of_meets (fun _ _ _ condition inv stepped => RetireInv.step inv condition.1
      condition.2 stepped) meets (retireInv_start limits isOpen) ran
  exact (inv.healthy healthy).ordered

instance (s : WebrtcStream) : Decidable (Healthy s) := by
  unfold Healthy
  infer_instance

instance (s : WebrtcStream) : Decidable (Ended s) := by
  unfold Ended
  infer_instance

instance (t : Goroutines) (label : Label) : Decidable (PeerConforms t label) := by
  unfold PeerConforms
  split <;> infer_instance

instance (t : Goroutines) : (label : Label) → Decidable (ClosesAlone t label)
  | .run thread =>
    match top : t.pool[thread]? with
    | some (op :: _) =>
      decidable_of_iff
        (op.closes = true → Healthy t.shared → ∀ other ∈ t.pending, other.endsWrite = false)
        (by simp only [ClosesAlone, top])
    | some [] => .isTrue (by simp only [ClosesAlone, top])
    | none => .isTrue (by simp only [ClosesAlone, top])
  | .call _ => .isTrue trivial
  | .channelOpen => .isTrue trivial
  | .message _ => .isTrue trivial
  | .channelClosed => .isTrue trivial
  | .buffered _ => .isTrue trivial
  | .credit _ => .isTrue trivial
  | .teardown => .isTrue trivial
  | .destroy => .isTrue trivial

/-- A `CloseWrite`, the peer's FIN, and the retirement. -/
def finsThenRetires : List Label :=
  [.call .closeWrite, .run 1, .run 1, .run 1, .run 1, .run 1, .message [1], .run 0, .run 0, .run 2,
    .channelClosed]

theorem closes_after_terminal_finsThenRetires : ∃ t,
    Lib.run WebrtcStream.step (start defaultFlowLimits true) finsThenRetires = some t ∧
      Healthy t.shared ∧ ClosesAfterTerminal t.shared.dc.calls := by
  have healthy : (Lib.run WebrtcStream.step (start defaultFlowLimits true) finsThenRetires).any
      (fun t => decide (Healthy t.shared)) = true := by decide +kernel
  obtain ⟨t, ran, healthy⟩ := (Option.any_eq_true _ _).mp healthy
  have healthy : Healthy t.shared := of_decide_eq_true healthy
  exact ⟨t, ran, healthy, closes_after_terminal (by decide +kernel) ran healthy⟩

/-- A `CloseWrite` decides its FIN; the peer's FIN arrives, and the retirement goroutine closes the
channel before the FIN is sent. -/
def retiresEarly : List Label :=
  [.call .closeWrite, .run 1, .message [1], .run 0, .run 0, .run 2]

theorem closes_before_terminal :
    Meets WebrtcStream.step PeerConforms (start defaultFlowLimits true) retiresEarly ∧
      (Lib.run WebrtcStream.step (start defaultFlowLimits true) retiresEarly).map
        (fun t => (t.shared.dc.calls, decide (Healthy t.shared))) = some ([.close], true) ∧
      ¬ ClosesAfterTerminal [.close] := by
  refine ⟨by decide +kernel, by decide +kernel, fun ordered => ?_⟩
  obtain ⟨frame, member, -⟩ := ordered [] [] rfl
  cases member

end WebrtcStream

end Kps.Go
