/-
**What a section of a Rust stream leaves alone, and where it leads.**

* `exec_leaves` — which sections change the receive side, the decisions about the write half, the
  DATA queue, the pending grant and the credit of the stream; every other section leaves them;
* `exec_leads` — the sections a section can push, as a graph;
* `step_shared`, `step_pending` — what the application, the transport and the connection leave, and
  the sections they give a task.

An invariant about one of these parts looks at the sections that change it.
-/

import Kps.Rust.StreamTasks

namespace Kps.Rust

open Kps.Lib

namespace StreamSection

/-- The sections that change the receive side. -/
def receives : StreamSection → Bool
  | .onFrame _ => true
  | .pushData _ => true
  | .pollRead _ => true
  | .cancelRead _ => true
  | _ => false

/-- The sections that decide how the write half ends. -/
def decides : StreamSection → Bool
  | .onFrame _ => true
  | .pollShutdown => true
  | .undoFin => true
  | .closeWrite => true
  | .resetWrite _ => true
  | _ => false

/-- The sections that change the DATA queue or its permits. -/
def queues : StreamSection → Bool
  | .selectData => true
  | .writerEnd => true
  | .queueData _ => true
  | .reserveFin => true
  | .sendFin => true
  | _ => false

/-- The sections that change the lifecycle queue. -/
def lives : StreamSection → Bool
  | .lifeSend _ => true
  | .selectLife => true
  | .writerEnd => true
  | _ => false

/-- The sections that change the pending grant. -/
def grants : StreamSection → Bool
  | .reserveCredit _ => true
  | .queueData _ => true
  | .refuseData => true
  | _ => false

/-- The sections of `poll_write`, which return its result. -/
def writes : StreamSection → Bool
  | .pollWrite _ => true
  | .reserveCredit _ => true
  | .queueData _ => true
  | .refuseData => true
  | _ => false

/-- The sections that change the credit of the stream. -/
def bills : StreamSection → Bool
  | .onFrame _ => true
  | .onDataReceived _ => true
  | .consumed _ => true
  | .failSend => true
  | .dropStream => true
  | .release _ => true
  | .commit _ => true
  | .reserveCredit _ => true
  | .refuseData => true
  | .markCancelled => true
  | .dropGrant => true
  | _ => false

/-- The sections a section can push. -/
def leadsTo : StreamSection → StreamSection → Bool
  | .onFrame _, .fatal .. => true
  | .onFrame _, .onDataReceived _ => true
  | .onFrame _, .consumed _ => true
  | .onFrame _, .failSend => true
  | .onFrame _, .lifeSend (.reset _) => true
  | .onFrame _, .maybeRetire => true
  | .onDataReceived _, .fatal .. => true
  | .onDataReceived payload, .pushData payload' => decide (payload' = payload)
  | .pushData _, .consumed _ => true
  | .onChannelClose, .policeClose _ => true
  | .onChannelClose, .failSend => true
  | .onChannelClose, .markClosed => true
  | .onChannelClose, .maybeRetire => true
  | .policeClose _, .fatal .. => true
  | .consumed _, .lifeSend (.maxStreamData _) => true
  | .maybeRetire, .dropStream => true
  | .maybeRetire, .retired => true
  | .writerOpen, .selectLife => true
  | .writerOpen, .writerEnd => true
  | .selectLife, .writerLife _ => true
  | .selectLife, .selectData => true
  | .selectData, .writerData .. => true
  | .selectData, .selectLife => true
  | .selectData, .writerEnd => true
  | .writerLife _, .markTerminalSent => true
  | .writerLife _, .selectLife => true
  | .writerLife _, .writerEnd => true
  | .writerData _ reserved, .release n => decide (n = reserved)
  | .writerData .., .selectLife => true
  | .writerData frame reserved, .writerRoom frame' reserved' =>
    decide (frame' = frame ∧ reserved' = reserved)
  | .writerRoom _ reserved, .release n => decide (n = reserved)
  | .writerRoom .., .writerEnd => true
  | .writerRoom frame reserved, .writerBuffered frame' reserved' =>
    decide (frame' = frame ∧ reserved' = reserved)
  | .writerBuffered frame reserved, .writerSend frame' reserved' =>
    decide (frame' = frame ∧ reserved' = reserved)
  | .writerBuffered frame reserved, .writerRoom frame' reserved' =>
    decide (frame' = frame ∧ reserved' = reserved)
  | .writerSend _ reserved, .release n => decide (n = reserved)
  | .writerSend _ reserved, .commit n => decide (n = reserved)
  | .writerSend .., .markTerminalSent => true
  | .writerSend .., .selectLife => true
  | .writerSend .., .writerEnd => true
  | .markTerminalSent, .maybeRetire => true
  | .pollRead _, .consumed _ => true
  | .pollRead _, .maybeRetire => true
  | .pollWrite buf, .reserveCredit buf' => decide (buf' = buf)
  | .pollWrite buf, .queueData buf' => decide (buf' = buf)
  | .reserveCredit buf, .queueData buf' => decide (buf' = buf)
  | .queueData _, .refuseData => true
  | .pollShutdown, .reserveFin => true
  | .reserveFin, .failSend => true
  | .reserveFin, .maybeRetire => true
  | .reserveFin, .undoFin => true
  | .closeWrite, .failSend => true
  | .closeWrite, .sendFin => true
  | .sendFin, .maybeRetire => true
  | .resetWrite _, .failSend => true
  | .resetWrite code, .lifeSend (.reset code') => decide (code' = code)
  | .resetWrite _, .maybeRetire => true
  | .cancelRead _, .markCancelled => true
  | .cancelRead _, .consumed _ => true
  | .cancelRead code, .lifeSend (.stopSending code') => decide (code' = code)
  | .cancelRead _, .maybeRetire => true
  | .dropGrant, .dropSenders => true
  | _, _ => false

end StreamSection

namespace WebrtcStream

/-- The receive side. -/
def reading (s : WebrtcStream) : List Bytes × Bool × Option StreamError × Bool × List ReadResult :=
  (s.inbuf, s.peerFin, s.peerReset, s.readCancel, s.reads)

/-- How the write half ends. -/
def ending (s : WebrtcStream) : Option Terminal × Bool × Option StreamError :=
  (s.localTerminal, s.dropData, s.peerStop)

/-- The DATA queue, its permits, its receiver, and what was dropped with it. -/
def queueing (s : WebrtcStream) :
    List (ParsedFrame × UInt64) × Nat × PollSender × Bool × List (ParsedFrame × UInt64) :=
  (s.data, s.permits, s.dataPollTx, s.writerGone, s.abandoned)

/-- What a section leaves. -/
structure Leaves (s : WebrtcStream) (op : StreamSection) (s' : WebrtcStream) : Prop where
  id : s'.id = s.id
  reading : op.receives = false → s'.reading = s.reading
  ending : op.decides = false → s'.ending = s.ending
  queueing : op.queues = false → s'.queueing = s.queueing
  life : op.lives = false → s'.life = s.life
  grant : op.grants = false → s'.pendingGrant = s.pendingGrant
  writes : op.writes = false → s'.writes = s.writes
  dropped : op ≠ .dropSenders → s'.handleDropped = s.handleDropped
  channel : op ≠ .dcClose → s'.dc.readyState = s.dc.readyState
  opened : op ≠ .onOpen → s'.dcOpen = s.dcOpen
  teardown : s'.isTeardown = s.isTeardown
  calls : s.dc.calls <+: s'.dc.calls
  gone : op ≠ .writerEnd → s'.writerGone = s.writerGone
  fatals : (∀ code text, op ≠ .fatal code text) → s'.fatals = s.fatals
  streams : op.bills = false → s'.flow.streams = s.flow.streams
  nextId : op.bills = false → s'.flow.nextId = s.flow.nextId

variable {s : WebrtcStream} {op : StreamSection} {e : Effect WebrtcStream StreamSection}

theorem send_eq_some {dc dc' : RTCDataChannel} {frame : ParsedFrame}
    (sent : dc.send frame = some dc') :
    dc.readyState = .opened ∧ dc' = { dc with calls := dc.calls ++ [.send frame] } := by
  unfold RTCDataChannel.send at sent
  split at sent
  · next isOpen =>
    cases sent
    exact ⟨isOpen, rfl⟩
  · cases sent

/-- The parts that a section leaves are left, by computation. -/
theorem Leaves.of_parts {s' : WebrtcStream}
    (parts :
        (s'.id, s'.reading, s'.ending, s'.queueing, s'.life, s'.pendingGrant, s'.writes,
          s'.isTeardown,
        s'.flow.streams, s'.flow.nextId) =
      (s.id, cond op.receives s'.reading s.reading, cond op.decides s'.ending s.ending,
        cond op.queues s'.queueing s.queueing, cond op.lives s'.life s.life,
        cond op.grants s'.pendingGrant s.pendingGrant, cond op.writes s'.writes s.writes,
        s.isTeardown,
        cond op.bills s'.flow.streams s.flow.streams, cond op.bills s'.flow.nextId s.flow.nextId))
    (single : (s'.handleDropped, s'.dc.readyState, s'.dcOpen, s'.writerGone, s'.fatals) =
      (match op with | .dropSenders => s'.handleDropped | _ => s.handleDropped,
        match op with | .dcClose => s'.dc.readyState | _ => s.dc.readyState,
        match op with | .onOpen => s'.dcOpen | _ => s.dcOpen,
        match op with | .writerEnd => s'.writerGone | _ => s.writerGone,
        match op with | .fatal _ _ => s'.fatals | _ => s.fatals))
    (calls : s.dc.calls <+: s'.dc.calls) : Leaves s op s' := by
  simp only [Prod.mk.injEq] at parts single
  obtain ⟨id, reading, ending, queueing, life, grant, writes, teardown, streams, nextId⟩ := parts
  obtain ⟨dropped, channel, opened, gone, fatals⟩ := single
  have stays {α : Type} {changes : Bool} {after before : α}
    (same : after = cond changes after before)
      (leaves : changes = false) : after = before := by
    rw [leaves] at same
    exact same
  refine ⟨id, stays reading, stays ending, stays queueing, stays life, stays grant, stays writes,
    fun other => ?_, fun other => ?_, fun other => ?_, teardown, calls, fun other => ?_,
    fun other => ?_, stays streams, stays nextId⟩
  · cases op with
    | dropSenders => exact absurd rfl other
    | _ => exact dropped
  · cases op with
    | dcClose => exact absurd rfl other
    | _ => exact channel
  · cases op with
    | onOpen => exact absurd rfl other
    | _ => exact opened
  · cases op with
    | writerEnd => exact absurd rfl other
    | _ => exact gone
  · cases op with
    | fatal code text => exact absurd rfl (other code text)
    | _ => exact fatals

theorem Leaves.of {s' : WebrtcStream} {next : List StreamSection} (ran : andThen next s' = some e)
    (leaves : Leaves s op s') : Leaves s op e.shared := by
  cases ran
  exact leaves

theorem onFrame_leaves {data : Bytes} (ran : s.onFrame data = some e) :
    Leaves s (.onFrame data) e.shared := by
  unfold onFrame at ran
  split at ran
  · exact .of ran (.of_parts rfl rfl (List.prefix_refl _))
  · split at ran <;> exact .of ran (.of_parts rfl rfl (List.prefix_refl _))
  · split at ran <;> exact .of ran (.of_parts rfl rfl (List.prefix_refl _))
  · split at ran <;> exact .of ran (.of_parts rfl rfl (List.prefix_refl _))
  · split at ran
    · exact .of ran (.of_parts rfl rfl (List.prefix_refl _))
    · dsimp only at ran
      split at ran <;> exact .of ran (.of_parts rfl rfl (List.prefix_refl _))
  · exact .of ran (.of_parts rfl rfl (List.prefix_refl _))

theorem maybeRetire_leaves (ran : s.maybeRetire = some e) : Leaves s .maybeRetire e.shared := by
  unfold maybeRetire at ran
  split at ran
  · split at ran
    · split at ran <;> exact .of ran (.of_parts rfl rfl (List.prefix_refl _))
    · cases ran
      exact .of_parts rfl rfl (List.prefix_refl _)
  · exact .of ran (.of_parts rfl rfl (List.prefix_refl _))

theorem pollRead_leaves {size : Nat} (ran : s.pollRead size = some e) :
    Leaves s (.pollRead size) e.shared := by
  unfold pollRead at ran
  split at ran
  · exact .of ran (.of_parts rfl rfl (List.prefix_refl _))
  split at ran
  · exact .of ran (.of_parts rfl rfl (List.prefix_refl _))
  split at ran
  · exact .of ran (.of_parts rfl rfl (List.prefix_refl _))
  split at ran
  · exact .of ran (.of_parts rfl rfl (List.prefix_refl _))
  split at ran <;> exact .of ran (.of_parts rfl rfl (List.prefix_refl _))

theorem pollWrite_leaves {buf : Bytes} (ran : s.pollWrite buf = some e) :
    Leaves s (.pollWrite buf) e.shared := by
  unfold pollWrite at ran
  split at ran
  · exact .of ran (.of_parts rfl rfl (List.prefix_refl _))
  split at ran
  · exact .of ran (.of_parts rfl rfl (List.prefix_refl _))
  split at ran
  · exact .of ran (.of_parts rfl rfl (List.prefix_refl _))
  split at ran <;> exact .of ran (.of_parts rfl rfl (List.prefix_refl _))

theorem reserveCredit_leaves {buf : Bytes} (ran : s.reserveCredit buf = some e) :
    Leaves s (.reserveCredit buf) e.shared := by
  unfold reserveCredit at ran
  split at ran <;> exact .of ran (.of_parts rfl rfl (List.prefix_refl _))

/-- A permit's reservation only moves the sender. -/
theorem pollPermit_eq (s : WebrtcStream) : s.pollPermit =
    { s with permits := s.pollPermit.permits, dataPollTx := s.pollPermit.dataPollTx } := by
  unfold pollPermit
  split
  · split
    · rfl
    split <;> rfl
  · split
    · rfl
    split <;> rfl
  · rfl
  · rfl

theorem queueData_leaves {buf : Bytes} (ran : s.queueData buf = some e) :
    Leaves s (.queueData buf) e.shared := by
  unfold queueData at ran
  rw [pollPermit_eq] at ran
  dsimp only at ran
  split at ran
  · exact .of ran (.of_parts rfl rfl (List.prefix_refl _))
  · split at ran <;> exact .of ran (.of_parts rfl rfl (List.prefix_refl _))
  · exact .of ran (.of_parts rfl rfl (List.prefix_refl _))

theorem reserveFin_leaves (ran : s.reserveFin = some e) : Leaves s .reserveFin e.shared := by
  unfold reserveFin at ran
  rw [pollPermit_eq] at ran
  dsimp only at ran
  split at ran <;> exact .of ran (.of_parts rfl rfl (List.prefix_refl _))

theorem selectData_leaves (ran : s.selectData = some e) : Leaves s .selectData e.shared := by
  unfold selectData at ran
  split at ran
  · unfold freePermit at ran
    split at ran <;> exact .of ran (.of_parts rfl rfl (List.prefix_refl _))
  split at ran
  · exact .of ran (.of_parts rfl rfl (List.prefix_refl _))
  split at ran
  · exact .of ran (.of_parts rfl rfl (List.prefix_refl _))
  · cases ran

/-- **What a section leaves.** -/
theorem exec_leaves (ran : s.exec op = some e) : Leaves s op e.shared := by
  cases op with
  | onFrame data => exact onFrame_leaves ran
  | maybeRetire => exact maybeRetire_leaves ran
  | pollRead size => exact pollRead_leaves ran
  | pollWrite buf => exact pollWrite_leaves ran
  | reserveCredit buf => exact reserveCredit_leaves ran
  | queueData buf => exact queueData_leaves ran
  | reserveFin => exact reserveFin_leaves ran
  | selectData => exact selectData_leaves ran
  | writerSend frame reserved =>
    simp only [exec, writerSend] at ran
    split at ran
    · next sent =>
      obtain ⟨-, rfl⟩ := send_eq_some sent
      exact .of ran (.of_parts rfl rfl (List.prefix_append _ _))
    · exact .of ran (.of_parts rfl rfl (List.prefix_refl _))
  | writerLife frame =>
    simp only [exec] at ran
    split at ran
    · next sent =>
      obtain ⟨-, rfl⟩ := send_eq_some sent
      exact .of ran (.of_parts rfl rfl (List.prefix_append _ _))
    · exact .of ran (.of_parts rfl rfl (List.prefix_refl _))
  | writerOpen =>
    simp only [exec] at ran
    split at ran
    · exact .of ran (.of_parts rfl rfl (List.prefix_refl _))
    split at ran
    · exact .of ran (.of_parts rfl rfl (List.prefix_refl _))
    · cases ran
  | sendFin =>
    simp only [exec] at ran
    split at ran
    · exact .of ran (.of_parts rfl rfl (List.prefix_refl _))
    split at ran
    · exact .of ran (.of_parts rfl rfl (List.prefix_refl _))
    · cases ran
  | onOpen => exact .of ran (.of_parts rfl rfl (List.prefix_refl _))
  | onChannelClose => exact .of ran (.of_parts rfl rfl (List.prefix_refl _))
  | markClosed => exact .of ran (.of_parts rfl rfl (List.prefix_refl _))
  | fatal code text => exact .of ran (.of_parts rfl rfl (List.prefix_refl _))
  | consumed n => exact .of ran (.of_parts rfl rfl (List.prefix_refl _))
  | failSend => exact .of ran (.of_parts rfl rfl (List.prefix_refl _))
  | dropStream => exact .of ran (.of_parts rfl rfl (List.prefix_refl _))
  | retired =>
    have streams : s.fireRetired.flow.streams = s.flow.streams := by
      unfold fireRetired
      split <;> rfl
    have nextId : s.fireRetired.flow.nextId = s.flow.nextId := by
      unfold fireRetired
      split <;> rfl
    refine .of ran (.of_parts ?_ rfl (List.prefix_refl _))
    rw [streams, nextId]
    rfl
  | dcClose => exact .of ran (.of_parts rfl rfl (List.prefix_append _ _))
  | release n => exact .of ran (.of_parts rfl rfl (List.prefix_refl _))
  | commit n => exact .of ran (.of_parts rfl rfl (List.prefix_refl _))
  | writerEnd => exact .of ran (.of_parts rfl rfl (List.prefix_refl _))
  | markTerminalSent => exact .of ran (.of_parts rfl rfl (List.prefix_refl _))
  | refuseData => exact .of ran (.of_parts rfl rfl (List.prefix_refl _))
  | undoFin => exact .of ran (.of_parts rfl rfl (List.prefix_refl _))
  | markCancelled => exact .of ran (.of_parts rfl rfl (List.prefix_refl _))
  | dropSenders => exact .of ran (.of_parts rfl rfl (List.prefix_refl _))
  | _ =>
    simp only [exec] at ran
    split at ran <;> exact .of ran (.of_parts rfl rfl (List.prefix_refl _))

/-! ### Where a section leads -/

/-- The section can push these sections. -/
def Leads (op : StreamSection) (next : List StreamSection) : Prop :=
  ∀ other ∈ next, op.leadsTo other = true

theorem mem_discarded {n : Nat} {other : StreamSection} (member : other ∈ discarded n) :
    other = .consumed (UInt64.ofNat n) := by
  unfold discarded at member
  split at member
  · exact List.mem_singleton.mp member
  · cases member

theorem mem_settleReserved {settle : UInt64 → StreamSection} {n : UInt64} {other : StreamSection}
    (member : other ∈ settleReserved settle n) : other = settle n := by
  unfold settleReserved at member
  split at member
  · exact List.mem_singleton.mp member
  · cases member

theorem mem_marks {frame : ParsedFrame} {other : StreamSection}
    (member : other ∈ if isTerminal frame then [StreamSection.markTerminalSent] else []) :
    other = .markTerminalSent := by
  split at member
  · exact List.mem_singleton.mp member
  · cases member

theorem leads_nil : Leads op [] := fun _ member => absurd member List.not_mem_nil

theorem Leads.cons {other : StreamSection} {rest : List StreamSection}
    (first : op.leadsTo other = true) (others : Leads op rest) : Leads op (other :: rest) := by
  intro another member
  rcases List.mem_cons.mp member with rfl | member
  · exact first
  · exact others another member

theorem Leads.append {first second : List StreamSection} (left : Leads op first)
    (right : Leads op second) : Leads op (first ++ second) := by
  intro other member
  rcases List.mem_append.mp member with member | member
  · exact left other member
  · exact right other member

theorem leads_single {other : StreamSection} (leads : op.leadsTo other = true) : Leads op [other] :=
  .cons leads leads_nil

theorem leads_discarded {n : Nat} (leads : op.leadsTo (.consumed (UInt64.ofNat n)) = true) :
    Leads op (discarded n) := fun other member => by
  rw [mem_discarded member]
  exact leads

theorem leads_settleReserved {settle : UInt64 → StreamSection} {n : UInt64}
    (leads : op.leadsTo (settle n) = true) : Leads op (settleReserved settle n) :=
  fun other member => by
    rw [mem_settleReserved member]
    exact leads

theorem leads_marks {frame : ParsedFrame} (leads : op.leadsTo .markTerminalSent = true) :
    Leads op (if isTerminal frame then [.markTerminalSent] else []) := fun other member => by
  rw [mem_marks member]
  exact leads

theorem Leads.of {s' : WebrtcStream} {next : List StreamSection} (ran : andThen next s' = some e)
    (leads : Leads op next) : Leads op e.next := by
  cases ran
  exact leads

theorem onFrame_leads {data : Bytes} (ran : s.onFrame data = some e) :
    Leads (.onFrame data) e.next := by
  unfold onFrame at ran
  split at ran
  · exact .of ran (leads_single rfl)
  · split at ran <;> exact .of ran (leads_single rfl)
  · split at ran <;> exact .of ran (leads_single rfl)
  · split at ran
    · exact .of ran (leads_single rfl)
    · exact .of ran ((leads_discarded rfl).append (leads_single rfl))
  · split at ran
    · exact .of ran leads_nil
    · dsimp only at ran
      split at ran
      · exact .of ran (.cons rfl (.cons rfl (leads_single rfl)))
      · exact .of ran (leads_single rfl)
  · exact .of ran leads_nil

theorem maybeRetire_leads (ran : s.maybeRetire = some e) : Leads .maybeRetire e.next := by
  unfold maybeRetire at ran
  split at ran
  · split at ran
    · split at ran
      · exact .of ran leads_nil
      · exact .of ran (.cons rfl (leads_single rfl))
    · cases ran
      exact leads_nil
  · exact .of ran leads_nil

theorem pollRead_leads {size : Nat} (ran : s.pollRead size = some e) :
    Leads (.pollRead size) e.next := by
  unfold pollRead at ran
  split at ran
  · exact .of ran (.cons rfl (leads_single rfl))
  split at ran
  · exact .of ran leads_nil
  split at ran
  · exact .of ran leads_nil
  split at ran
  · exact .of ran leads_nil
  split at ran <;> exact .of ran leads_nil

theorem pollWrite_leads {buf : Bytes} (ran : s.pollWrite buf = some e) :
    Leads (.pollWrite buf) e.next := by
  unfold pollWrite at ran
  split at ran
  · exact .of ran leads_nil
  split at ran
  · exact .of ran leads_nil
  split at ran
  · exact .of ran leads_nil
  split at ran <;> exact .of ran (leads_single (decide_eq_true rfl))

theorem reserveCredit_leads {buf : Bytes} (ran : s.reserveCredit buf = some e) :
    Leads (.reserveCredit buf) e.next := by
  unfold reserveCredit at ran
  split at ran
  · exact .of ran leads_nil
  · exact .of ran leads_nil
  · exact .of ran (leads_single (decide_eq_true rfl))

theorem queueData_leads {buf : Bytes} (ran : s.queueData buf = some e) :
    Leads (.queueData buf) e.next := by
  unfold queueData at ran
  dsimp only at ran
  split at ran
  · exact .of ran (leads_single rfl)
  · split at ran <;> exact .of ran leads_nil
  · exact .of ran leads_nil

theorem reserveFin_leads (ran : s.reserveFin = some e) : Leads .reserveFin e.next := by
  unfold reserveFin at ran
  dsimp only at ran
  split at ran
  · exact .of ran leads_nil
  · exact .of ran (.cons rfl (leads_single rfl))
  · exact .of ran (leads_single rfl)

theorem selectData_leads (ran : s.selectData = some e) : Leads .selectData e.next := by
  unfold selectData at ran
  split at ran
  · exact .of ran (leads_single rfl)
  split at ran
  · exact .of ran (leads_single rfl)
  split at ran
  · exact .of ran (leads_single rfl)
  · cases ran

theorem writerSend_leads {frame : ParsedFrame} {reserved : UInt64}
    (ran : s.writerSend frame reserved = some e) : Leads (.writerSend frame reserved) e.next := by
  unfold writerSend at ran
  split at ran
  · exact .of ran
      (((leads_settleReserved (by exact decide_eq_true rfl)).append (leads_marks rfl)).append
      (leads_single rfl))
  · exact .of ran ((leads_settleReserved (by exact decide_eq_true rfl)).append (leads_single rfl))

/-- **Where a section leads.** -/
theorem exec_leads (ran : s.exec op = some e) : Leads op e.next := by
  cases op with
  | onFrame data => exact onFrame_leads ran
  | onDataReceived payload =>
    simp only [exec] at ran
    split at ran
    · exact .of ran (leads_single rfl)
    · exact .of ran (leads_single (decide_eq_true rfl))
  | pushData payload =>
    simp only [exec] at ran
    split at ran
    · exact .of ran (leads_single rfl)
    · exact .of ran leads_nil
  | onChannelClose => exact .of ran (.cons rfl (.cons rfl (.cons rfl (leads_single rfl))))
  | policeClose wireComplete =>
    simp only [exec] at ran
    split at ran
    · exact .of ran (leads_single rfl)
    · exact .of ran leads_nil
  | consumed n =>
    refine .of ran fun other member => ?_
    obtain ⟨v, -, rfl⟩ := Option.map_eq_some_iff.mp (Option.mem_toList.mp member)
    rfl
  | lifeSend frame =>
    simp only [exec] at ran
    split at ran <;> exact .of ran leads_nil
  | maybeRetire => exact maybeRetire_leads ran
  | writerOpen =>
    simp only [exec] at ran
    split at ran
    · exact .of ran (leads_single rfl)
    split at ran
    · exact .of ran (leads_single rfl)
    · cases ran
  | selectLife =>
    simp only [exec] at ran
    split at ran <;> exact .of ran (leads_single rfl)
  | selectData => exact selectData_leads ran
  | writerLife frame =>
    simp only [exec] at ran
    split at ran
    · exact .of ran ((leads_marks rfl).append (leads_single rfl))
    · exact .of ran (leads_single rfl)
  | writerData frame reserved =>
    simp only [exec] at ran
    split at ran
    · exact .of ran ((leads_settleReserved (by exact decide_eq_true rfl)).append (leads_single rfl))
    · exact .of ran (leads_single (decide_eq_true ⟨rfl, rfl⟩))
  | writerRoom frame reserved =>
    simp only [exec] at ran
    split at ran
    · exact .of ran ((leads_settleReserved (by exact decide_eq_true rfl)).append (leads_single rfl))
    · exact .of ran (leads_single (decide_eq_true ⟨rfl, rfl⟩))
  | writerBuffered frame reserved =>
    simp only [exec] at ran
    split at ran <;> exact .of ran (leads_single (decide_eq_true ⟨rfl, rfl⟩))
  | writerSend frame reserved => exact writerSend_leads ran
  | markTerminalSent => exact .of ran (leads_single rfl)
  | pollRead size => exact pollRead_leads ran
  | pollWrite buf => exact pollWrite_leads ran
  | reserveCredit buf => exact reserveCredit_leads ran
  | queueData buf => exact queueData_leads ran
  | pollShutdown =>
    simp only [exec] at ran
    split at ran
    · exact .of ran leads_nil
    · exact .of ran (leads_single rfl)
  | reserveFin => exact reserveFin_leads ran
  | closeWrite =>
    simp only [exec] at ran
    split at ran
    · exact .of ran leads_nil
    · exact .of ran (.cons rfl (leads_single rfl))
  | sendFin =>
    simp only [exec] at ran
    split at ran
    · exact .of ran leads_nil
    split at ran
    · exact .of ran (leads_single rfl)
    · cases ran
  | resetWrite code =>
    simp only [exec] at ran
    split at ran
    · exact .of ran leads_nil
    · exact .of ran (.cons rfl (.cons (decide_eq_true rfl) (leads_single rfl)))
  | cancelRead code =>
    simp only [exec] at ran
    split at ran
    · exact .of ran leads_nil
    · refine .of ran (Leads.append (Leads.append (Leads.append (leads_single rfl)
        (leads_discarded rfl)) ?_) (leads_single rfl))
      split
      · exact leads_nil
      · exact leads_single (decide_eq_true rfl)
  | dropGrant =>
    simp only [exec] at ran
    split at ran <;> exact .of ran (leads_single rfl)
  | onOpen => exact .of ran leads_nil
  | markClosed => exact .of ran leads_nil
  | fatal code text => exact .of ran leads_nil
  | failSend => exact .of ran leads_nil
  | dropStream => exact .of ran leads_nil
  | retired => exact .of ran leads_nil
  | dcClose => exact .of ran leads_nil
  | release n => exact .of ran leads_nil
  | commit n => exact .of ran leads_nil
  | writerEnd => exact .of ran leads_nil
  | refuseData => exact .of ran leads_nil
  | undoFin => exact .of ran leads_nil
  | markCancelled => exact .of ran leads_nil
  | dropSenders => exact .of ran leads_nil

theorem mem_started (ran : s.exec op = some e) {other : StreamSection}
    (member : other ∈ e.started.flatten) : other = .dcClose := by
  rcases (exec_follows ran).2 with none | ⟨-, one⟩
  · rw [none] at member
    cases member
  · rw [one] at member
    exact List.mem_singleton.mp member

/-- The channel is closed only once the stream is wire-complete. -/
theorem started_complete (ran : s.exec op = some e) {other : StreamSection}
    (member : other ∈ e.started.flatten) : op = .maybeRetire ∧ s.wireComplete = true := by
  rcases (exec_follows ran).2 with none | ⟨rfl, -⟩
  · rw [none] at member
    cases member
  refine ⟨rfl, ?_⟩
  simp only [exec, maybeRetire] at ran
  split at ran
  · next ready => exact (Bool.and_eq_true_iff.mp ready).1
  · cases ran
    cases member

/-- Where a section that is pending after a step comes from. -/
theorem run_comes {t : Tasks} {thread : Nat} {rest : List StreamSection}
    (top : t.pool[thread]? = some (op :: rest)) (ran : t.shared.exec op = some e) :
    ∀ other ∈ (⟨e.shared, t.pool.set thread (e.next ++ rest) ++ e.started⟩ : Tasks).pending,
      op.leadsTo other = true ∨ other = .dcClose ∨ other ∈ t.pending := by
  intro other member
  rcases (Threads.pending_members (e := e) top).2.2 other member with pushed | new | old
  · exact Or.inl (exec_leads ran other pushed)
  · exact Or.inr (Or.inl (mem_started ran new))
  · exact Or.inr (Or.inr old)

/-- **The sections that wait**: for the channel, for a frame, and for room in the DATA queue. -/
theorem exec_waits (stuck : s.exec op = none) :
    op = .writerOpen ∧ s.dcOpen = false ∧ s.dcClosed = false ∨
    op = .selectData ∧ s.data = [] ∧ s.life = [] ∧ s.handleDropped = false ∨ op = .sendFin := by
  cases op with
  | writerOpen =>
    simp only [exec] at stuck
    split at stuck
    · cases stuck
    next unopened =>
    split at stuck
    · cases stuck
    next unclosed => exact Or.inl ⟨rfl, by simpa using unopened, by simpa using unclosed⟩
  | selectData =>
    simp only [exec, selectData] at stuck
    split at stuck
    · cases stuck
    next empty =>
    split at stuck
    · cases stuck
    next kept =>
    split at stuck
    · cases stuck
    next quiet => exact Or.inr (Or.inl ⟨rfl, empty, by simpa using quiet, by simpa using kept⟩)
  | sendFin => exact Or.inr (Or.inr rfl)
  | onFrame data =>
    simp only [exec, onFrame] at stuck
    split at stuck
    · cases stuck
    · split at stuck <;> cases stuck
    · split at stuck <;> cases stuck
    · split at stuck <;> cases stuck
    · split at stuck
      · cases stuck
      split at stuck <;> cases stuck
    · cases stuck
  | maybeRetire =>
    simp only [exec, maybeRetire] at stuck
    split at stuck
    · split at stuck
      · split at stuck <;> cases stuck
      · cases stuck
    · cases stuck
  | pollRead size =>
    simp only [exec, pollRead] at stuck
    split at stuck
    · cases stuck
    split at stuck
    · cases stuck
    split at stuck
    · cases stuck
    split at stuck
    · cases stuck
    split at stuck <;> cases stuck
  | pollWrite buf =>
    simp only [exec, pollWrite] at stuck
    split at stuck
    · cases stuck
    split at stuck
    · cases stuck
    split at stuck
    · cases stuck
    split at stuck <;> cases stuck
  | reserveCredit buf =>
    simp only [exec, reserveCredit] at stuck
    split at stuck <;> cases stuck
  | queueData buf =>
    simp only [exec, queueData] at stuck
    split at stuck
    · cases stuck
    · split at stuck <;> cases stuck
    · cases stuck
  | reserveFin =>
    simp only [exec, reserveFin] at stuck
    split at stuck <;> cases stuck
  | writerSend frame reserved =>
    simp only [exec, writerSend] at stuck
    split at stuck <;> cases stuck
  | onOpen => cases stuck
  | onChannelClose => cases stuck
  | markClosed => cases stuck
  | fatal code text => cases stuck
  | consumed n => cases stuck
  | failSend => cases stuck
  | dropStream => cases stuck
  | retired => cases stuck
  | dcClose => cases stuck
  | markTerminalSent => cases stuck
  | release n => cases stuck
  | commit n => cases stuck
  | writerEnd => cases stuck
  | refuseData => cases stuck
  | undoFin => cases stuck
  | markCancelled => cases stuck
  | dropSenders => cases stuck
  | _ =>
    simp only [exec] at stuck
    split at stuck <;> cases stuck

/-! ### The steps that run no section -/

/-- The sections that the application or the transport gives a task. -/
def Label.sections : Label → List StreamSection
  | .call method => method.sections
  | .channelOpen => [.onOpen]
  | .message data => [.onFrame data]
  | .channelClosed => [.onChannelClose]
  | _ => []

variable {t t' : Tasks} {label : Label}

/-- **What the application, the transport and the connection leave.** -/
theorem step_shared (stepped : WebrtcStream.step t label = some t')
    (notRun : ∀ thread, label ≠ .run thread) : t'.shared =
      { t.shared with
        dc := { t'.shared.dc with calls := t.shared.dc.calls }
        flow := t'.shared.flow
        isTeardown := t'.shared.isTeardown } := by
  cases label with
  | run thread => exact absurd rfl (notRun thread)
  | call method =>
    simp only [WebrtcStream.step] at stepped
    split at stepped
    · cases stepped
    · rw [(Threads.pending_resume stepped).2]
  | dropFuture =>
    simp only [WebrtcStream.step] at stepped
    split at stepped <;> cases stepped
    rfl
  | channelOpen =>
    simp only [WebrtcStream.step] at stepped
    split at stepped <;> cases stepped
    rfl
  | message data =>
    simp only [WebrtcStream.step] at stepped
    split at stepped
    · rw [(Threads.pending_resume stepped).2]
    · cases stepped
  | channelClosed =>
    simp only [WebrtcStream.step] at stepped
    split at stepped
    · cases stepped
    · rw [(Threads.pending_resume stepped).2]
      rfl
  | _ =>
    cases stepped
    rfl

/-- Only other streams move the credit. -/
theorem step_flow (stepped : WebrtcStream.step t label = some t')
    (notRun : ∀ thread, label ≠ .run thread)
    (own : ∀ flow, label ≠ .credit flow) : t'.shared.flow = t.shared.flow := by
  cases label with
  | run thread => exact absurd rfl (notRun thread)
  | credit flow => exact absurd rfl (own flow)
  | call method =>
    simp only [WebrtcStream.step] at stepped
    split at stepped
    · cases stepped
    · rw [(Threads.pending_resume stepped).2]
  | dropFuture =>
    simp only [WebrtcStream.step] at stepped
    split at stepped <;> cases stepped
    rfl
  | channelOpen =>
    simp only [WebrtcStream.step] at stepped
    split at stepped <;> cases stepped
    rfl
  | message data =>
    simp only [WebrtcStream.step] at stepped
    split at stepped
    · rw [(Threads.pending_resume stepped).2]
    · cases stepped
  | channelClosed =>
    simp only [WebrtcStream.step] at stepped
    split at stepped
    · cases stepped
    · rw [(Threads.pending_resume stepped).2]
      rfl
  | _ =>
    cases stepped
    rfl

/-- **The sections that are given a task** are pending, with those that were. -/
theorem step_pending (stepped : WebrtcStream.step t label = some t')
    (notRun : ∀ thread, label ≠ .run thread) (keeps : label ≠ .dropFuture) :
    t'.pending.Perm (label.sections ++ t.pending) := by
  cases label with
  | run thread => exact absurd rfl (notRun thread)
  | dropFuture => exact absurd rfl keeps
  | call method =>
    simp only [WebrtcStream.step] at stepped
    split at stepped
    · cases stepped
    · exact (Threads.pending_resume stepped).1
  | channelOpen =>
    simp only [WebrtcStream.step] at stepped
    split at stepped <;> cases stepped
    rw [Threads.pending_start]
    exact List.perm_append_comm
  | message data =>
    simp only [WebrtcStream.step] at stepped
    split at stepped
    · exact (Threads.pending_resume stepped).1
    · cases stepped
  | channelClosed =>
    simp only [WebrtcStream.step] at stepped
    split at stepped
    · cases stepped
    · exact (Threads.pending_resume stepped).1
  | _ =>
    cases stepped
    exact List.Perm.refl _

theorem step_comes (stepped : WebrtcStream.step t label = some t')
    (notRun : ∀ thread, label ≠ .run thread) :
    ∀ op ∈ t'.pending, op ∈ label.sections ∨ op ∈ t.pending := by
  intro op member
  by_cases drops : label = .dropFuture
  · subst drops
    simp only [WebrtcStream.step] at stepped
    split at stepped
    · next rest top =>
      cases stepped
      exact Or.inr ((Threads.pending_clear top).subset (List.mem_append_right _ member))
    · cases stepped
  · exact List.mem_append.mp ((step_pending stepped notRun drops).subset member)

/-- Only a section that waits, and what is below it, is taken away. -/
theorem step_stays (rules : Ruled t) (stepped : WebrtcStream.step t label = some t')
    (notRun : ∀ thread, label ≠ .run thread) :
    ∀ op ∈ t.pending, op ∈ t'.pending ∨ op = .sendFin ∨ op.isCancelRead = true := by
  intro op member
  by_cases drops : label = .dropFuture
  · subst drops
    simp only [WebrtcStream.step] at stepped
    split at stepped
    · next rest top =>
      cases stepped
      have below : ∀ op ∈ rest, op.isCancelRead = true := rules.shaped _ (List.mem_of_getElem? top)
      rcases List.mem_append.mp ((Threads.pending_clear top).symm.subset member) with taken | kept
      · exact Or.inr ((List.mem_cons.mp taken).imp_right (below op))
      · exact Or.inl kept
    · cases stepped
  · exact Or.inl ((step_pending stepped notRun drops).symm.subset (List.mem_append_right _ member))

/-- **What becomes of the channel.** -/
theorem step_channel (stepped : WebrtcStream.step t label = some t')
    (notRun : ∀ thread, label ≠ .run thread) :
    label ≠ .channelOpen ∧ label ≠ .channelClosed ∧
      t'.shared.dc.readyState = t.shared.dc.readyState ∨
    label = .channelOpen ∧ t.shared.dc.readyState = .connecting ∧
    t'.shared.dc.readyState = .opened ∨
    label = .channelClosed ∧ t'.shared.dc.readyState = .closed := by
  cases label with
  | run thread => exact absurd rfl (notRun thread)
  | call method =>
    simp only [WebrtcStream.step] at stepped
    split at stepped
    · cases stepped
    · rw [(Threads.pending_resume stepped).2]
      exact Or.inl ⟨by simp, by simp, rfl⟩
  | dropFuture =>
    simp only [WebrtcStream.step] at stepped
    split at stepped <;> cases stepped
    exact Or.inl ⟨by simp, by simp, rfl⟩
  | channelOpen =>
    simp only [WebrtcStream.step] at stepped
    split at stepped <;> cases stepped
    next connecting => exact Or.inr (Or.inl ⟨rfl, connecting, rfl⟩)
  | message data =>
    simp only [WebrtcStream.step] at stepped
    split at stepped
    · rw [(Threads.pending_resume stepped).2]
      exact Or.inl ⟨by simp, by simp, rfl⟩
    · cases stepped
  | channelClosed =>
    simp only [WebrtcStream.step] at stepped
    split at stepped
    · cases stepped
    · rw [(Threads.pending_resume stepped).2]
      exact Or.inr (Or.inr ⟨rfl, rfl⟩)
  | _ =>
    cases stepped
    exact Or.inl ⟨by simp, by simp, rfl⟩

/-- The program counter of a task that is given nothing, and whose future is not dropped. -/
theorem step_control {task : Task} (rules : Ruled t) (stepped : WebrtcStream.step t label = some t')
    (notRun : ∀ thread, label ≠ .run thread)
    (quiet : ∀ op ∈ label.sections, ownedBy task op = false)
    (keeps : label = .dropFuture → task ≠ .application) :
    t'.control (ownedBy task) = t.control (ownedBy task) := by
  have perm : (t'.pending.filter (ownedBy task)).Perm (t.pending.filter (ownedBy task)) := by
    by_cases drops : label = .dropFuture
    · subst drops
      simp only [WebrtcStream.step] at stepped
      split at stepped
      · next rest top =>
        cases stepped
        have other : 2 ≠ task.thread := by
          cases task <;> first | decide | exact absurd rfl (keeps rfl)
        have none : (StreamSection.sendFin :: rest).filter (ownedBy task) = [] :=
          List.filter_eq_nil_iff.mpr fun op member => by
            simp [(rules.owned task).elsewhere 2 _ top other op member]
        have perm := (Threads.pending_clear top).filter (ownedBy task)
        rwa [List.filter_append, none, List.nil_append] at perm
      · cases stepped
    · have none : label.sections.filter (ownedBy task) = [] :=
        List.filter_eq_nil_iff.mpr fun op member => by simp [quiet op member]
      have perm := (step_pending stepped notRun drops).filter (ownedBy task)
      rwa [List.filter_append, none, List.nil_append] at perm
  exact Threads.find?_eq_of_perm perm (rules.owned task).once

/-- Sections of a kind stay in their thread. -/
theorem step_elsewhere {p : StreamSection → Bool} {i : Nat} (only : t.Elsewhere p i)
    (stepped : WebrtcStream.step t label = some t') (notRun : ∀ thread, label ≠ .run thread)
    (quiet : ∀ op ∈ label.sections, p op = false) : t'.Elsewhere p i := by
  cases label with
  | run thread => exact absurd rfl (notRun thread)
  | call method =>
    simp only [WebrtcStream.step] at stepped
    split at stepped
    · cases stepped
    · exact only.resume stepped fun _ => quiet
  | dropFuture =>
    simp only [WebrtcStream.step] at stepped
    split at stepped <;> cases stepped
    exact only.set fun _ op member => absurd member List.not_mem_nil
  | channelOpen =>
    simp only [WebrtcStream.step] at stepped
    split at stepped <;> cases stepped
    exact Threads.Elsewhere.start only quiet
  | message data =>
    simp only [WebrtcStream.step] at stepped
    split at stepped
    · exact only.resume stepped fun _ => quiet
    · cases stepped
  | channelClosed =>
    simp only [WebrtcStream.step] at stepped
    split at stepped
    · cases stepped
    · have touched :
        (touch t { t.shared with dc := { t.shared.dc with readyState := .closed } }).Elsewhere
          p i := only
      exact touched.resume stepped fun _ => quiet
  | _ =>
    cases stepped
    exact only

end WebrtcStream

end Kps.Rust
