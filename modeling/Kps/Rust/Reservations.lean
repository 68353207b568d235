/-
**The reservations of a Rust stream.**

A reservation passes from the credit engine to the pending grant of `poll_write`, to an entry of the
DATA queue, to the writer task, which commits or releases it.

* `exec_conserves` — a section moves reservations, and leaves their sum what the engine counts;
* `HandleInv.step` — one task at a time has the handle, and with it the pending grant;
* `LedgerInv.step` — so the engine counts the pending grant, the queue, what the writer task holds
  and what was dropped with the queue's receiver, as long as the stream has an entry.
-/

import Kps.Lib.Weights
import Kps.Rust.Entries
import Kps.Rust.StreamFrame
import Kps.Rust.StreamWriter
import Mathlib.Tactic.Abel

namespace Kps.Rust

open Kps.Lib

namespace StreamSection

/-- The reservation that the writer task holds in a section. -/
def carries : StreamSection → UInt64
  | .writerData _ reserved => reserved
  | .writerRoom _ reserved => reserved
  | .writerBuffered _ reserved => reserved
  | .writerSend _ reserved => reserved
  | .release n => n
  | .commit n => n
  | _ => 0

/-- The sections that pass a reservation on. -/
def passes : StreamSection → Bool
  | .selectData => true
  | .writerData .. => true
  | .writerRoom .. => true
  | .writerBuffered .. => true
  | .writerSend .. => true
  | _ => false

/-- The sections of `drop`. -/
def drops : StreamSection → Bool
  | .dropGrant => true
  | .dropSenders => true
  | _ => false

/-- The sections that have the handle. -/
def handles (op : StreamSection) : Bool := ownedBy .application op || op.drops

theorem leadsTo_carries {op other : StreamSection} (leads : op.leadsTo other = true)
    (keeps : op.passes = false) : other.carries = 0 := by
  cases other with
  | writerData frame reserved => cases op <;> first
    | exact (Bool.false_ne_true leads).elim | exact (Bool.false_ne_true keeps.symm).elim
  | writerRoom frame reserved => cases op <;> first
    | exact (Bool.false_ne_true leads).elim | exact (Bool.false_ne_true keeps.symm).elim
  | writerBuffered frame reserved => cases op <;> first
    | exact (Bool.false_ne_true leads).elim | exact (Bool.false_ne_true keeps.symm).elim
  | writerSend frame reserved => cases op <;> first
    | exact (Bool.false_ne_true leads).elim | exact (Bool.false_ne_true keeps.symm).elim
  | release n => cases op <;> first
    | exact (Bool.false_ne_true leads).elim | exact (Bool.false_ne_true keeps.symm).elim
  | commit n => cases op <;> first
    | exact (Bool.false_ne_true leads).elim | exact (Bool.false_ne_true keeps.symm).elim
  | _ => rfl

theorem leadsTo_drops {op other : StreamSection} (leads : op.leadsTo other = true)
    (keeps : op ≠ .dropGrant) : other.drops = false := by
  cases other with
  | dropGrant => cases op <;> exact (Bool.false_ne_true leads).elim
  | dropSenders => cases op <;> first
    | exact (Bool.false_ne_true leads).elim | exact absurd rfl keeps
  | _ => rfl

end StreamSection

namespace WebrtcStream

variable {s : WebrtcStream} {op : StreamSection} {e : Effect WebrtcStream StreamSection}

/-- The reservations of the queued entries. -/
def queuedCredit (s : WebrtcStream) : UInt64 := (s.data.map Prod.snd).sum

/-- The reservations of the entries that were dropped with the receiver of the queue. -/
def abandonedCredit (s : WebrtcStream) : UInt64 := (s.abandoned.map Prod.snd).sum

/-- The reservations of both. -/
def entryCredit (s : WebrtcStream) : UInt64 := s.queuedCredit + s.abandonedCredit

theorem sum_settleReserved {settle : UInt64 → StreamSection} (carries : ∀ n, (settle n).carries = n)
    (n : UInt64) : ((settleReserved settle n).map StreamSection.carries).sum = n := by
  unfold settleReserved
  split
  · simp [carries]
  · next small =>
    have zero : n = 0 := by
      rw [← UInt64.toNat_inj]
      rw [gt_iff_lt, UInt64.lt_iff_toNat_lt] at small
      have none : (0 : UInt64).toNat = 0 := rfl
      omega
    rw [zero]
    rfl

theorem sum_marks (frame : ParsedFrame) :
    ((if isTerminal frame then [.markTerminalSent] else []).map StreamSection.carries).sum = 0 := by
  split <;> rfl

/-- What the engine counts for the stream moves with what the pending grant, the queue and the
writer task hold. -/
structure Conserves (s : WebrtcStream) (op : StreamSection)
    (e : Effect WebrtcStream StreamSection) :
    Prop where
  here : ∀ after, e.shared.flow.streams s.id = some after → ∃ before,
    s.flow.streams s.id = some before ∧
    after.sendReserved + (s.pendingGrant + s.entryCredit + op.carries) =
      before.sendReserved +
        (e.shared.pendingGrant + e.shared.entryCredit + (e.next.map StreamSection.carries).sum)

theorem Conserves.revises {change : Totals → Totals}
    (revises : ConnFlow.Revises s.id change s.flow e.shared.flow)
    (balance : ∀ totals : Totals,
      (change totals).reserved + (s.pendingGrant + s.entryCredit + op.carries) = totals.reserved +
        (e.shared.pendingGrant + e.shared.entryCredit + (e.next.map StreamSection.carries).sum)) :
    Conserves s op e where
  here := fun after found => by
    obtain ⟨before, there, changed⟩ := revises.here after found
    refine ⟨before, there, ?_⟩
    have moved : after.sendReserved = (change before.totals).reserved :=
      congrArg Totals.reserved changed
    rw [moved]
    exact balance before.totals

/-- A section that leaves what the engine counts. -/
theorem Conserves.passes (streams : e.shared.flow.streams = s.flow.streams)
    (balance : s.pendingGrant + s.entryCredit + op.carries =
      e.shared.pendingGrant + e.shared.entryCredit + (e.next.map StreamSection.carries).sum) :
    Conserves s op e where
  here := fun after found => ⟨after, streams ▸ found, by rw [balance]⟩

/-- A section that has no part in the reservations. -/
theorem exec_carries (ran : s.exec op = some e) (keeps : op.passes = false) :
    (e.next.map StreamSection.carries).sum = 0 :=
  Threads.sum_eq_zero fun other member => StreamSection.leadsTo_carries
    (exec_leads ran other member) keeps

theorem entryCredit_eq (same : e.shared.queueing = s.queueing) :
    e.shared.entryCredit = s.entryCredit := by
  simp only [queueing, Prod.mk.injEq] at same
  unfold entryCredit queuedCredit abandonedCredit
  rw [same.1, same.2.2.2.2]

theorem selectData_conserves (ran : s.selectData = some e) : Conserves s .selectData e := by
  unfold selectData at ran
  split at ran
  · next frame reserved rest next =>
    have first : s.queuedCredit = reserved + (rest.map Prod.snd).sum := by
      unfold queuedCredit
      rw [next]
      simp
    unfold freePermit at ran
    split at ran <;> cases ran
    · refine .passes rfl ?_
      show s.pendingGrant + (s.queuedCredit + s.abandonedCredit) + 0 =
        s.pendingGrant + ((rest.map Prod.snd).sum + s.abandonedCredit) + (reserved + 0)
      rw [first]
      abel
    · refine .passes rfl ?_
      show s.pendingGrant + (s.queuedCredit + s.abandonedCredit) + 0 =
        s.pendingGrant + ((rest.map Prod.snd).sum + s.abandonedCredit) + (reserved + 0)
      rw [first]
      abel
  split at ran
  · cases ran
    exact .passes rfl rfl
  split at ran
  · cases ran
    exact .passes rfl rfl
  · cases ran

theorem writerSend_conserves {frame : ParsedFrame} {reserved : UInt64}
    (ran : s.writerSend frame reserved = some e) : Conserves s (.writerSend frame reserved) e := by
  unfold writerSend at ran
  split at ran
  · cases ran
    refine .passes rfl ?_
    rw [List.map_append, List.map_append, List.sum_append, List.sum_append,
      sum_settleReserved (fun _ => rfl), sum_marks]
    show s.pendingGrant + s.entryCredit + reserved =
      s.pendingGrant + s.entryCredit + (reserved + 0 + 0)
    abel
  · cases ran
    refine .passes rfl ?_
    rw [List.map_append, List.sum_append, sum_settleReserved (fun _ => rfl)]
    show s.pendingGrant + s.entryCredit + reserved = s.pendingGrant + s.entryCredit + (reserved + 0)
    abel

/-- The writer task gives its entry back. -/
theorem Conserves.gives {reserved : UInt64} {last : StreamSection}
    (ran : andThen (settleReserved .release reserved ++ [last]) s = some e)
    (holds : op.carries = reserved)
    (light : last.carries = 0) : Conserves s op e := by
  cases ran
  refine .passes rfl ?_
  rw [List.map_append, List.sum_append, sum_settleReserved (fun _ => rfl), holds]
  show s.pendingGrant + s.entryCredit + reserved =
    s.pendingGrant + s.entryCredit + (reserved + (last.carries + 0))
  rw [light]
  abel

/-- The writer task goes on with its entry. -/
theorem Conserves.goesOn {other : StreamSection} (ran : andThen [other] s = some e)
    (same : other.carries = op.carries) : Conserves s op e := by
  cases ran
  refine .passes rfl ?_
  show s.pendingGrant + s.entryCredit + op.carries =
    s.pendingGrant + s.entryCredit + (other.carries + 0)
  rw [same, add_zero]

/-- A section that neither takes nor gives a reservation. -/
theorem Conserves.light {s' : WebrtcStream} {next : List StreamSection}
    (ran : andThen next s' = some e)
    (streams : s'.flow.streams = s.flow.streams) (grant : s'.pendingGrant = s.pendingGrant)
    (credit : s'.entryCredit = s.entryCredit) (own : op.carries = 0)
    (light : (next.map StreamSection.carries).sum = 0) : Conserves s op e := by
  cases ran
  refine .passes streams ?_
  show _ = s'.pendingGrant + s'.entryCredit + (next.map StreamSection.carries).sum
  rw [grant, credit, own, light]

/-- An item is queued, or dropped. -/
theorem entryCredit_sendItem (item : ParsedFrame × UInt64) (s : WebrtcStream) :
    (s.sendItem item).entryCredit = s.entryCredit + item.2 := by
  unfold entryCredit queuedCredit abandonedCredit sendItem
  cases s.writerGone with
  | true =>
    show (s.data.map Prod.snd).sum + ((s.abandoned ++ [item]).map Prod.snd).sum = _
    rw [List.map_append, List.sum_append]
    simp [add_assoc]
  | false =>
    show ((s.data ++ [item]).map Prod.snd).sum + (s.abandoned.map Prod.snd).sum = _
    rw [List.map_append, List.sum_append]
    simp [add_right_comm]

/-- The pending grant goes into the queue. -/
theorem Conserves.accepts {s' : WebrtcStream} (ran : andThen [] s' = some e)
    (streams : s'.flow.streams = s.flow.streams) (grant : s'.pendingGrant = 0)
    (credit : s'.entryCredit = s.entryCredit + s.pendingGrant) (own : op.carries = 0) :
    Conserves s op e := by
  cases ran
  refine .passes streams ?_
  show _ = s'.pendingGrant + s'.entryCredit + 0
  rw [grant, credit, own]
  abel

theorem queueData_conserves {buf : Bytes} (ran : s.queueData buf = some e) :
    Conserves s (.queueData buf) e := by
  unfold queueData at ran
  rw [pollPermit_eq] at ran
  dsimp only at ran
  split at ran
  · exact .light ran rfl rfl rfl rfl rfl
  · split at ran
    · exact .accepts ran rfl rfl (entryCredit_sendItem _ _) rfl
    · exact .light ran rfl rfl rfl rfl rfl
  · exact .light ran rfl rfl rfl rfl rfl

theorem reserveFin_conserves (ran : s.reserveFin = some e) : Conserves s .reserveFin e := by
  unfold reserveFin at ran
  rw [pollPermit_eq] at ran
  dsimp only at ran
  split at ran
  · exact .light ran rfl rfl rfl rfl rfl
  · refine .light ran rfl rfl ?_ rfl rfl
    exact (entryCredit_sendItem _ _).trans (add_zero _)
  · exact .light ran rfl rfl rfl rfl rfl

/-- A section outside the way of a reservation, and what it does to the engine. -/
theorem conserves_of_revises {change : Totals → Totals} (ran : s.exec op = some e)
    (passes : op.passes = false) (queues : op.queues = false) (grants : op.grants = false)
    (revises : ConnFlow.Revises s.id change s.flow e.shared.flow)
    (moved : ∀ totals : Totals, (change totals).reserved + op.carries = totals.reserved) :
    Conserves s op e := by
  have leaves := exec_leaves ran
  refine .revises revises fun totals => ?_
  rw [leaves.grant grants, entryCredit_eq (leaves.queueing queues), exec_carries ran passes,
    add_zero, ← moved totals]
  abel

theorem onFrame_revises {data : Bytes} (ran : s.onFrame data = some e) :
    ConnFlow.Revises s.id (fun totals => totals) s.flow e.shared.flow := by
  unfold onFrame at ran
  split at ran
  · cases ran
    exact .same rfl rfl
  · split at ran <;> cases ran <;> exact .same rfl rfl
  · split at ran <;> cases ran <;> exact .same rfl rfl
  · split at ran <;> cases ran <;> exact .same rfl rfl
  · split at ran
    · cases ran
      exact .same rfl rfl
    · split at ran <;> cases ran <;> exact .same rfl rfl
  · cases ran
    exact ConnFlow.revises_onPeerMaxStreamData _

theorem onDataReceived_revises {payload : Bytes} (ran : s.exec (.onDataReceived payload) = some e) :
    ConnFlow.Revises s.id (fun totals => totals) s.flow e.shared.flow ∨
    ConnFlow.Revises s.id
      (fun totals => { totals with received := totals.received + UInt64.ofNat payload.length })
        s.flow
      e.shared.flow := by
  simp only [exec] at ran
  split at ran
  · cases ran
    exact Or.inl (.same rfl rfl)
  · next admitted =>
    cases ran
    exact Or.inr (ConnFlow.revises_onDataReceived admitted)

theorem reserveCredit_conserves {buf : Bytes} (ran : s.reserveCredit buf = some e)
    (fresh : s.pendingGrant = 0) : Conserves s (.reserveCredit buf) e := by
  unfold reserveCredit at ran
  split at ran
  · next pending =>
    exact .light ran (ConnFlow.pollReserve_pending pending).1 rfl rfl rfl rfl
  · exact .light ran rfl rfl rfl rfl rfl
  · next amount flow granted =>
    cases ran
    obtain ⟨-, -, revises⟩ := ConnFlow.pollReserve_granted granted
    refine .revises revises fun totals => ?_
    show totals.reserved + amount + (s.pendingGrant + s.entryCredit + 0) =
      totals.reserved + (amount + s.entryCredit + (0 + 0))
    rw [fresh]
    abel

/-- **A section conserves the reservations.** -/
theorem exec_conserves (ran : s.exec op = some e)
    (fresh : ∀ buf, op = .reserveCredit buf → s.pendingGrant = 0) (keeps : op ≠ .dropGrant) :
    Conserves s op e := by
  have same (passes : op.passes = false) (queues : op.queues = false) (grants : op.grants = false)
      (bills : op.bills = false) (light : op.carries = 0) : Conserves s op e :=
    conserves_of_revises ran passes queues grants (.same ((exec_leaves ran).streams bills)
      ((exec_leaves ran).nextId bills)) fun _ => by
      rw [light, add_zero]
  cases op with
  | onFrame data =>
    exact conserves_of_revises ran rfl rfl rfl (onFrame_revises ran) fun _ => add_zero _
  | onDataReceived payload =>
    rcases onDataReceived_revises ran with revises | revises
    · exact conserves_of_revises ran rfl rfl rfl revises fun _ => add_zero _
    · exact conserves_of_revises ran rfl rfl rfl revises fun _ => add_zero _
  | consumed n =>
    have revises :
      ConnFlow.Revises s.id (fun totals => { totals with consumed := totals.consumed + n })
        s.flow e.shared.flow := by
      cases ran
      exact ConnFlow.revises_onConsumed n
    exact conserves_of_revises ran rfl rfl rfl revises fun _ => add_zero _
  | failSend =>
    have revises : ConnFlow.Revises s.id (fun totals => totals) s.flow e.shared.flow := by
      cases ran
      exact ConnFlow.revises_failSend
    exact conserves_of_revises ran rfl rfl rfl revises fun _ => add_zero _
  | dropStream =>
    have revises : ConnFlow.Revises s.id (fun totals => totals) s.flow e.shared.flow := by
      cases ran
      exact ConnFlow.revises_dropStream
    exact conserves_of_revises ran rfl rfl rfl revises fun _ => add_zero _
  | markCancelled =>
    have revises : ConnFlow.Revises s.id (fun totals => totals) s.flow e.shared.flow := by
      cases ran
      exact ConnFlow.revises_markCancelled
    exact conserves_of_revises ran rfl rfl rfl revises fun _ => add_zero _
  | release n =>
    have revises :
      ConnFlow.Revises s.id (fun totals => { totals with reserved := totals.reserved - n })
        s.flow e.shared.flow := by
      cases ran
      exact ConnFlow.revises_release n
    exact conserves_of_revises ran rfl rfl rfl revises fun _ => sub_add_cancel _ _
  | commit n =>
    have revises : ConnFlow.Revises s.id
        (fun totals => { totals with reserved := totals.reserved - n, sent := totals.sent + n })
          s.flow
        e.shared.flow := by
      cases ran
      exact ConnFlow.revises_commit n
    exact conserves_of_revises ran rfl rfl rfl revises fun _ => sub_add_cancel _ _
  | selectData => exact selectData_conserves ran
  | writerData frame reserved =>
    simp only [exec] at ran
    split at ran
    · exact .gives ran rfl rfl
    · exact .goesOn ran rfl
  | writerRoom frame reserved =>
    simp only [exec] at ran
    split at ran
    · exact .gives ran rfl rfl
    · exact .goesOn ran rfl
  | writerBuffered frame reserved =>
    simp only [exec] at ran
    split at ran <;> exact .goesOn ran rfl
  | writerSend frame reserved => exact writerSend_conserves ran
  | writerEnd =>
    refine .light ran rfl rfl ?_ rfl rfl
    show 0 + ((s.abandoned ++ s.data).map Prod.snd).sum = s.entryCredit
    rw [List.map_append, List.sum_append, zero_add, add_comm]
    rfl
  | reserveCredit buf => exact reserveCredit_conserves ran (fresh buf rfl)
  | queueData buf => exact queueData_conserves ran
  | refuseData =>
    cases ran
    refine .revises (ConnFlow.revises_release s.pendingGrant) fun totals => ?_
    show totals.reserved - s.pendingGrant + (s.pendingGrant + s.entryCredit + 0) =
      totals.reserved + (0 + s.entryCredit + 0)
    abel
  | reserveFin => exact reserveFin_conserves ran
  | sendFin =>
    simp only [exec] at ran
    split at ran
    · exact .light ran rfl rfl rfl rfl rfl
    split at ran
    · refine .light ran rfl rfl ?_ rfl rfl
      show ((s.data ++ [(ParsedFrame.fin, 0)]).map Prod.snd).sum + s.abandonedCredit = s.entryCredit
      rw [List.map_append, List.sum_append]
      exact congrArg (· + s.abandonedCredit) (add_zero _)
    · cases ran
  | dropGrant => exact absurd rfl keeps
  | _ => exact same rfl rfl rfl rfl rfl

/-- `drop` releases the pending grant. -/
theorem dropGrant_releases (ran : s.exec .dropGrant = some e) :
    ConnFlow.Revises s.id
      (fun totals => { totals with reserved := totals.reserved - s.pendingGrant }) s.flow
      e.shared.flow ∧ e.next = [.dropSenders] := by
  simp only [exec] at ran
  split at ran
  · cases ran
    exact ⟨ConnFlow.revises_release _, rfl⟩
  · next small =>
    have zero : s.pendingGrant = 0 := by
      rw [← UInt64.toNat_inj]
      rw [gt_iff_lt, UInt64.lt_iff_toNat_lt] at small
      have none : (0 : UInt64).toNat = 0 := rfl
      omega
    cases ran
    refine ⟨⟨rfl, fun _ _ => rfl, fun after found => ⟨after, found, ?_⟩⟩, rfl⟩
    rw [zero]
    simp

/-! ### Who has the handle -/

/-- The application's sections and those of `drop` have the handle, one at a time, until it is
dropped. -/
structure HandleInv (t : Tasks) : Prop where
  rules : Ruled t
  owned : t.Owned StreamSection.handles 2
  gone : t.shared.handleDropped = true → ∀ op ∈ t.pending, op.handles = false

theorem exec_handles (ran : s.exec op = some e) :
    e.next.countP StreamSection.handles ≤ if op.handles then 1 else 0 := by
  by_cases drops : op = .dropGrant
  · subst drops
    rw [(dropGrant_releases ran).2]
    exact le_refl _
  · have same : e.next.countP StreamSection.handles = e.next.countP (ownedBy .application) := by
      refine List.countP_congr fun other member => ?_
      have quiet := StreamSection.leadsTo_drops (exec_leads ran other member) drops
      simp [StreamSection.handles, quiet]
    have count := (exec_follows ran).1.countP .application
    rw [same]
    refine le_trans count ?_
    by_cases owned : ownedBy .application op = true
    · simp [StreamSection.handles, owned]
    · simp [owned]

theorem Method.sections_handles (method : Method) :
    method.sections.countP StreamSection.handles ≤ 1 := by
  cases method <;>
    simp [Method.sections, StreamSection.handles, StreamSection.drops, ownedBy, StreamSection.task]

theorem HandleInv.run {t t' : Tasks} (inv : HandleInv t) {thread : Nat}
    (stepped : t.advance exec thread = some t') : HandleInv t' := by
  have rules := inv.rules.run stepped
  obtain ⟨op, rest, e, top, ran, rfl⟩ := Threads.advance_eq_some.mp stepped
  have quiet : ∀ other ∈ e.started.flatten, other.handles = false := by
    intro other member
    rw [mem_started ran member]
    rfl
  have owned := inv.owned.advance top (exec_handles ran) quiet
  refine ⟨rules, owned, fun dropped other member => ?_⟩
  by_contra has
  have has : other.handles = true := by simpa using has
  have pending := Threads.mem_pending top
  rcases inv.owned.origin top (exec_handles ran) quiet has member with ⟨handles, pushed⟩
    | ⟨-, waits⟩
  · by_cases drops : op = .dropSenders
    · subst drops
      cases ran
      cases pushed
    · change e.shared.handleDropped = true at dropped
      rw [(exec_leaves ran).dropped drops] at dropped
      rw [inv.gone dropped op pending] at handles
      cases handles
  · by_cases drops : op = .dropSenders
    · subst drops
      have same := (inv.owned.control_eq pending rfl).symm.trans (inv.owned.control_eq waits has)
      cases same
      rcases inv.owned.origin top (exec_handles ran) quiet has member with ⟨-, pushed⟩ | ⟨other, -⟩
      · cases ran
        cases pushed
      · cases other
    · change e.shared.handleDropped = true at dropped
      rw [(exec_leaves ran).dropped drops] at dropped
      rw [inv.gone dropped other waits] at has
      cases has

/-- A task that is idle is given sections. -/
theorem HandleInv.resume {t t' : Tasks} {stack : List StreamSection} {thread : Nat}
    (inv : HandleInv t) (rules : Ruled t') (resumed : t.resume thread stack = some t')
    (once : stack.countP StreamSection.handles ≤ 1)
    (quiet : thread ≠ 2 ∨ t.shared.handleDropped = true → ∀ op ∈ stack, op.handles = false) :
    HandleInv t' := by
  obtain ⟨perm, shared⟩ := Threads.pending_resume resumed
  refine ⟨rules, inv.owned.resume resumed (fun other => quiet (Or.inl other)) once,
    fun dropped op member => ?_⟩
  rw [shared] at dropped
  rcases List.mem_append.mp (perm.subset member) with new | old
  · exact quiet (Or.inr dropped) op new
  · exact inv.gone dropped op old

theorem HandleInv.touch {t : Tasks} (inv : HandleInv t) {s : WebrtcStream}
    (dropped : s.handleDropped = t.shared.handleDropped) : HandleInv (touch t s) :=
  ⟨inv.rules.touch s, ⟨inv.owned.here, inv.owned.elsewhere, inv.owned.once⟩, fun gone =>
    inv.gone (dropped ▸ gone)⟩

/-- **One step keeps the handle with one task.** -/
theorem HandleInv.step {t t' : Tasks} {label : Label} (inv : HandleInv t)
    (stepped : WebrtcStream.step t label = some t') : HandleInv t' := by
  have rules := inv.rules.step stepped
  cases label with
  | run thread => exact inv.run stepped
  | call method =>
    simp only [WebrtcStream.step] at stepped
    split at stepped
    · cases stepped
    · next free =>
      refine inv.resume rules stepped method.sections_handles fun other => ?_
      rcases other with other | dropped
      · exact absurd rfl other
      · exact absurd dropped free
  | dropFuture =>
    simp only [WebrtcStream.step] at stepped
    split at stepped
    · next rest top =>
      cases stepped
      refine ⟨rules, inv.owned.clear.1, fun dropped op member => ?_⟩
      exact inv.gone dropped op
        ((Threads.pending_clear top).subset (List.mem_append_right _ member))
    · cases stepped
  | channelOpen =>
    simp only [WebrtcStream.step] at stepped
    split at stepped <;> cases stepped
    have quiet : ∀ op ∈ [StreamSection.onOpen], op.handles = false := fun op member => by
      rw [List.mem_singleton.mp member]
      rfl
    have touched :=
      inv.touch (s := { t.shared with dc := { t.shared.dc with readyState := .opened } }) rfl
    refine ⟨rules, touched.owned.start quiet, fun dropped op member => ?_⟩
    rw [Threads.pending_start] at member
    rcases List.mem_append.mp member with old | new
    · exact inv.gone dropped op old
    · exact quiet op new
  | message data =>
    simp only [WebrtcStream.step] at stepped
    split at stepped
    · exact inv.resume rules stepped (Nat.zero_le _) fun _ op member => by
        rw [List.mem_singleton.mp member]
        rfl
    · cases stepped
  | channelClosed =>
    simp only [WebrtcStream.step] at stepped
    split at stepped
    · cases stepped
    · refine (inv.touch ?_).resume rules stepped (Nat.zero_le _) fun _ op member => ?_
      · rfl
      · rw [List.mem_singleton.mp member]
        rfl
  | buffered amount =>
    cases stepped
    exact inv.touch rfl
  | credit flow =>
    cases stepped
    exact inv.touch rfl
  | teardown =>
    cases stepped
    exact inv.touch rfl

theorem handleInv_start (flow : ConnFlow) (peerInitiated isOpen : Bool) :
    HandleInv (start flow peerInitiated isOpen) := by
  refine ⟨ruled_start flow peerInitiated isOpen, ⟨?_, fun j stack found other op member => ?_, ?_⟩,
    fun dropped => ?_⟩
  · show 2 < 3
    decide
  · match j, found with
    | 0, found => cases found; cases member
    | 1, found =>
      cases found
      rw [List.mem_singleton.mp member]
      rfl
    | 2, found => cases found; cases member
  · show [StreamSection.writerOpen].countP StreamSection.handles ≤ 1
    decide
  · cases dropped

/-! ### The ledger -/

/-- The handle is dropped, or its pending grant is released already. -/
def Dropping (t : Tasks) : Prop := t.shared.handleDropped = true ∨ .dropSenders ∈ t.pending

instance (t : Tasks) : Decidable (Dropping t) :=
  inferInstanceAs (Decidable (t.shared.handleDropped = true ∨ .dropSenders ∈ t.pending))

/-- `pending_grant`, as long as there is a handle. -/
def grantHeld (t : Tasks) : UInt64 := if Dropping t then 0 else t.shared.pendingGrant

/-- The reservation of the entry that the writer task holds, or is about to settle. -/
def writerHeld (t : Tasks) : UInt64 := t.weight StreamSection.carries

/-- What the engine counts for the stream. -/
def entry (t : Tasks) : Option StreamState := t.shared.flow.streams t.shared.id

/-- The invariant of the reservations. -/
structure LedgerInv (t : Tasks) : Prop where
  handle : HandleInv t
  fresh : ∀ buf, .reserveCredit buf ∈ t.pending → t.shared.pendingGrant = 0
  kept : t.shared.writerGone = false → t.shared.abandoned = []
  balanced : ∀ s, entry t = some s →
    s.sendReserved = grantHeld t + t.shared.entryCredit + writerHeld t

/-- The other streams and the control channel leave the entry of this stream. -/
def Steady (t : Tasks) : Label → Prop
  | .credit flow => flow.streams t.shared.id = entry t
  | _ => True

def Label.movesCredit : Label → Bool
  | .credit _ => true
  | _ => false

/-- A run of the stream alone. -/
theorem steady_alone {labels : List Label} (alone : ∀ label ∈ labels, label.movesCredit = false)
    (t : Tasks) : Meets WebrtcStream.step Steady t labels :=
  meets_of_labels (fun label member t => by
    have quiet := alone label member
    cases label <;> first | exact trivial | cases quiet) t

theorem abandoned_sendItem {item : ParsedFrame × UInt64} (alive : s.writerGone = false) :
    (s.sendItem item).abandoned = s.abandoned := by
  simp [sendItem, alive]

/-- Entries are dropped when the writer task ends, and after it. -/
theorem exec_abandoned (ran : s.exec op = some e) (alive : e.shared.writerGone = false) :
    s.writerGone = false ∧ e.shared.abandoned = s.abandoned := by
  by_cases queues : op.queues = false
  · have same := (exec_leaves ran).queueing queues
    simp only [queueing, Prod.mk.injEq] at same
    exact ⟨same.2.2.2.1 ▸ alive, same.2.2.2.2⟩
  · have gone : s.writerGone = false := by
      rw [← (exec_leaves ran).gone ?_]
      · exact alive
      · rintro rfl
        cases ran
        cases alive
    refine ⟨gone, ?_⟩
    cases op with
    | selectData =>
      simp only [exec, selectData, freePermit] at ran
      repeat' split at ran
      all_goals first | (cases ran; rfl) | cases ran
    | queueData buf =>
      simp only [exec, queueData] at ran
      rw [pollPermit_eq] at ran
      dsimp only at ran
      repeat' split at ran
      all_goals cases ran
      all_goals first | rfl | exact abandoned_sendItem gone
    | reserveFin =>
      simp only [exec, reserveFin] at ran
      rw [pollPermit_eq] at ran
      dsimp only at ran
      repeat' split at ran
      all_goals cases ran
      all_goals first | rfl | exact abandoned_sendItem gone
    | sendFin =>
      simp only [exec] at ran
      repeat' split at ran
      all_goals first | (cases ran; rfl) | cases ran
    | writerEnd =>
      cases ran
      cases alive
    | _ => exact absurd rfl queues

theorem dropping_run {t : Tasks} {thread : Nat} {rest : List StreamSection}
    (top : t.pool[thread]? = some (op :: rest)) (ran : t.shared.exec op = some e)
    (keeps : op ≠ .dropGrant) (started : ∀ other ∈ e.started.flatten, other.handles = false) :
    Dropping ⟨e.shared, t.pool.set thread (e.next ++ rest) ++ e.started⟩ ↔ Dropping t := by
  obtain ⟨-, stays, comes⟩ := Threads.pending_members (e := e) top
  unfold Dropping
  constructor
  · rintro (dropped | member)
    · by_cases drops : op = .dropSenders
      · subst drops
        exact Or.inr (Threads.mem_pending top)
      · change e.shared.handleDropped = true at dropped
        rw [(exec_leaves ran).dropped drops] at dropped
        exact Or.inl dropped
    · rcases comes _ member with new | new | old
      · have quiet := StreamSection.leadsTo_drops (exec_leads ran _ new) keeps
        cases quiet
      · have quiet := started _ new
        cases quiet
      · exact Or.inr old
  · rintro (dropped | member)
    · refine Or.inl ?_
      show e.shared.handleDropped = true
      by_cases drops : op = .dropSenders
      · subst drops
        cases ran
        rfl
      · rw [(exec_leaves ran).dropped drops]
        exact dropped
    · rcases stays _ member with same | old
      · subst same
        cases ran
        exact Or.inl rfl
      · exact Or.inr old

theorem LedgerInv.run {t t' : Tasks} (inv : LedgerInv t) {thread : Nat}
    (stepped : t.advance exec thread = some t') : LedgerInv t' := by
  have handle := inv.handle.run stepped
  obtain ⟨op, rest, e, top, ran, rfl⟩ := Threads.advance_eq_some.mp stepped
  have pending := Threads.mem_pending top
  have leaves := exec_leaves ran
  have quiet : ∀ other ∈ e.started.flatten, other.handles = false ∧ other.carries = 0 := by
    intro other member
    rw [mem_started ran member]
    exact ⟨rfl, rfl⟩
  have started := fun other member => (quiet other member).1
  -- a section of `poll_write` has the handle, so it is not being dropped
  have held (handles : op.handles = true) (other : op ≠ .dropSenders) : ¬ Dropping t := by
    rintro (dropped | member)
    · rw [inv.handle.gone dropped op pending] at handles
      cases handles
    · have same := (inv.handle.owned.control_eq pending handles).symm.trans
        (inv.handle.owned.control_eq member rfl)
      cases same
      exact other rfl
  have weight :
      op.carries + writerHeld ⟨e.shared, t.pool.set thread (e.next ++ rest) ++ e.started⟩ =
      (e.next.map StreamSection.carries).sum + writerHeld t := by
    have moved := Threads.weight_advance (w := StreamSection.carries) (e := e) top
    rw [Threads.sum_eq_zero (fun other member => (quiet other member).2), add_zero] at moved
    exact moved
  refine ⟨handle, fun buf member => ?_, fun alive => ?_, fun after found => ?_⟩
  · have has : (StreamSection.reserveCredit buf).handles = true := rfl
    show e.shared.pendingGrant = 0
    rcases inv.handle.owned.origin top (exec_handles ran) started has member with
      ⟨-, pushed⟩ | ⟨other, waits⟩
    · have leads := exec_leads ran _ pushed
      cases op with
      | pollWrite buf' =>
        rw [leaves.grant rfl]
        simp only [exec, pollWrite] at ran
        split at ran
        · cases ran
          cases pushed
        split at ran
        · cases ran
          cases pushed
        split at ran
        · cases ran
          cases pushed
        split at ran
        · next none => exact none
        · cases ran
          simp at pushed
      | _ => exact (Bool.false_ne_true leads).elim
    · rw [leaves.grant ?_]
      · exact inv.fresh buf waits
      · cases op <;> first | rfl | exact (Bool.false_ne_true other.symm).elim
  · obtain ⟨before, same⟩ := exec_abandoned ran alive
    exact same.trans (inv.kept before)
  · have id : e.shared.id = t.shared.id := leaves.id
    have found : e.shared.flow.streams t.shared.id = some after := id ▸ found
    by_cases drops : op = .dropGrant
    · subst drops
      obtain ⟨revises, next⟩ := dropGrant_releases ran
      obtain ⟨before, there, changed⟩ := revises.here after found
      have reserved : after.sendReserved = before.sendReserved - t.shared.pendingGrant :=
        congrArg Totals.reserved changed
      have free := held rfl (by simp)
      have dropping : Dropping ⟨e.shared, t.pool.set thread (e.next ++ rest) ++ e.started⟩ := by
        refine Or.inr ((Threads.pending_members (e := e) top).1 _ ?_)
        rw [next]
        exact List.mem_singleton.mpr rfl
      have balanced := inv.balanced before there
      unfold grantHeld at balanced ⊢
      rw [if_neg free] at balanced
      rw [if_pos dropping, reserved, balanced, entryCredit_eq (leaves.queueing rfl)]
      have light : (e.next.map StreamSection.carries).sum = 0 := by
        rw [next]
        rfl
      rw [light, zero_add] at weight
      have weight := (zero_add _).symm.trans weight
      rw [weight]
      abel
    · have conserves := exec_conserves ran
        (fun buf same => inv.fresh buf (same ▸ pending)) drops
      obtain ⟨before, there, moved⟩ := conserves.here after found
      have balanced := inv.balanced before there
      have dropping := dropping_run top ran drops started
      rw [balanced] at moved
      unfold grantHeld at moved ⊢
      by_cases dropped : Dropping t
      · have kept : op.grants = false := by
          by_contra grants
          refine held ?_ ?_ dropped
          · cases op <;> first | rfl | exact absurd rfl grants
          · rintro rfl
            exact grants rfl
        rw [leaves.grant kept, if_pos dropped] at moved
        rw [if_pos (dropping.mpr dropped)]
        grind
      · rw [if_neg dropped] at moved
        rw [if_neg (mt dropping.mp dropped)]
        show after.sendReserved = e.shared.pendingGrant + _ + _
        grind

/-- A step of the application, the transport or the connection. -/
theorem LedgerInv.ofSame {t t' : Tasks} (inv : LedgerInv t) (handle : HandleInv t')
    (found : entry t' = entry t) (grant : t'.shared.pendingGrant = t.shared.pendingGrant)
    (queueing : t'.shared.queueing = t.shared.queueing)
    (dropped : t'.shared.handleDropped = t.shared.handleDropped)
    (comes : ∀ op ∈ t'.pending, op.handles = true → op ∈ t.pending ∨ ¬ Dropping t ∧
      op ≠ .dropSenders ∧ ∀ buf, op ≠ .reserveCredit buf)
    (stays : .dropSenders ∈ t.pending → .dropSenders ∈ t'.pending)
    (weight : writerHeld t' = writerHeld t) : LedgerInv t' := by
  have dropping : Dropping t' ↔ Dropping t := by
    unfold Dropping
    rw [dropped]
    refine or_congr_right ⟨fun member => ?_, stays⟩
    exact (comes _ member rfl).elim (fun old => old) fun new => absurd rfl new.2.1
  have entries := entryCredit_eq (e := ⟨t'.shared, [], []⟩) queueing
  have parts := queueing
  simp only [WebrtcStream.queueing, Prod.mk.injEq] at parts
  refine ⟨handle, fun buf member => ?_, fun alive => ?_, fun s there => ?_⟩
  · rw [grant]
    exact (comes _ member rfl).elim (inv.fresh buf) fun new => absurd rfl (new.2.2 buf)
  · rw [parts.2.2.2.2]
    exact inv.kept (parts.2.2.2.1 ▸ alive)
  · rw [found] at there
    rw [inv.balanced s there, show t'.shared.entryCredit = t.shared.entryCredit from entries]
    unfold grantHeld
    rw [grant, weight]
    by_cases now : Dropping t
    · rw [if_pos now, if_pos (dropping.mpr now)]
    · rw [if_neg now, if_neg (mt dropping.mp now)]

theorem LedgerInv.resume {t t' : Tasks} {stack : List StreamSection} {thread : Nat}
    (inv : LedgerInv t) (handle : HandleInv t') (resumed : t.resume thread stack = some t')
    (light : ∀ op ∈ stack, op.carries = 0)
    (fresh : ∀ op ∈ stack, op.handles = true → ¬ Dropping t ∧ op ≠ .dropSenders ∧
      ∀ buf, op ≠ .reserveCredit buf) : LedgerInv t' := by
  obtain ⟨perm, shared⟩ := Threads.pending_resume resumed
  refine inv.ofSame handle ?_ ?_ ?_ ?_ (fun op member handles => ?_) (fun member => ?_) ?_
  · unfold entry
    rw [shared]
  · rw [shared]
  · rw [shared]
  · rw [shared]
  · rcases List.mem_append.mp (perm.subset member) with new | old
    · exact Or.inr (fresh op new handles)
    · exact Or.inl old
  · exact perm.symm.subset (List.mem_append_right _ member)
  · unfold writerHeld
    rw [Threads.weight_resume resumed, Threads.sum_eq_zero light, zero_add]

theorem Method.sections_light (method : Method) (op : StreamSection)
    (member : op ∈ method.sections) :
    op.carries = 0 ∧ op ≠ .dropSenders ∧ ∀ buf, op ≠ .reserveCredit buf := by
  cases method <;>
    simp only [Method.sections, List.mem_cons, List.not_mem_nil, or_false] at member <;>
    rcases member with rfl | rfl <;> simp [StreamSection.carries]

/-- A method begins when nothing is dropped. -/
theorem HandleInv.idle {t t' : Tasks} {stack : List StreamSection} (inv : HandleInv t)
    (resumed : t.resume 2 stack = some t') (kept : ¬ t.shared.handleDropped = true) :
      ¬ Dropping t := by
  rintro (dropped | member)
  · exact kept dropped
  · have quiet := inv.owned.idle (Threads.idle_of_resume resumed) _ member
    cases quiet

/-- **One step keeps the ledger.** -/
theorem LedgerInv.step {t t' : Tasks} {label : Label} (inv : LedgerInv t) (steady : Steady t label)
    (stepped : WebrtcStream.step t label = some t') : LedgerInv t' := by
  have handle := inv.handle.step stepped
  cases label with
  | run thread => exact inv.run stepped
  | call method =>
    simp only [WebrtcStream.step] at stepped
    split at stepped
    · cases stepped
    · next kept =>
      have free := inv.handle.idle stepped kept
      exact inv.resume handle stepped (fun op member => (Method.sections_light method op member).1)
        fun op member _ => ⟨free, (Method.sections_light method op member).2⟩
  | dropFuture =>
    simp only [WebrtcStream.step] at stepped
    split at stepped
    · next rest top =>
      cases stepped
      have perm := Threads.pending_clear top
      have below : ∀ op ∈ rest, op.isCancelRead = true :=
        inv.handle.rules.shaped _ (List.mem_of_getElem? top)
      have light : ∀ op ∈ StreamSection.sendFin :: rest, op.carries = 0 ∧ op ≠ .dropSenders := by
        intro op member
        rcases List.mem_cons.mp member with rfl | inside
        · exact ⟨rfl, by simp⟩
        · obtain ⟨code, rfl⟩ := StreamSection.eq_cancelRead (below op inside)
          exact ⟨rfl, by simp⟩
      refine inv.ofSame handle rfl rfl rfl rfl
        (fun op member _ => Or.inl (perm.subset (List.mem_append_right _ member)))
        (fun member => ?_) ?_
      · rcases List.mem_append.mp (perm.symm.subset member) with given | kept
        · exact absurd rfl (light _ given).2
        · exact kept
      · have moved := Threads.weight_clear (w := StreamSection.carries) top
        rw [Threads.sum_eq_zero fun op member => (light op member).1, zero_add] at moved
        exact moved
    · cases stepped
  | channelOpen =>
    simp only [WebrtcStream.step] at stepped
    split at stepped <;> cases stepped
    refine inv.ofSame handle rfl rfl rfl rfl (fun op member handles => ?_) (fun member => ?_) ?_
    · rw [Threads.pending_start] at member
      rcases List.mem_append.mp member with old | new
      · exact Or.inl old
      · rw [List.mem_singleton.mp new] at handles
        cases handles
    · rw [Threads.pending_start]
      exact List.mem_append_left _ member
    · unfold writerHeld
      rw [Threads.weight_start]
      exact add_zero _
  | message data =>
    simp only [WebrtcStream.step] at stepped
    split at stepped
    · refine inv.resume handle stepped (fun op member => ?_) fun op member handles => ?_
      · rw [List.mem_singleton.mp member]
        rfl
      · rw [List.mem_singleton.mp member] at handles
        cases handles
    · cases stepped
  | channelClosed =>
    simp only [WebrtcStream.step] at stepped
    split at stepped
    · cases stepped
    · have touched : LedgerInv
          (touch t { t.shared with dc := { t.shared.dc with readyState := .closed } }) :=
        inv.ofSame (inv.handle.touch rfl) rfl rfl rfl rfl (fun _ member _ => Or.inl member)
          (fun member => member) rfl
      refine touched.resume handle stepped (fun op member => ?_) fun op member handles => ?_
      · rw [List.mem_singleton.mp member]
        rfl
      · rw [List.mem_singleton.mp member] at handles
        cases handles
  | buffered amount =>
    cases stepped
    exact inv.ofSame handle rfl rfl rfl rfl (fun _ member _ => Or.inl member)
      (fun member => member) rfl
  | credit flow =>
    cases stepped
    exact inv.ofSame handle steady rfl rfl rfl (fun _ member _ => Or.inl member)
      (fun member => member) rfl
  | teardown =>
    cases stepped
    exact inv.ofSame handle rfl rfl rfl rfl (fun _ member _ => Or.inl member)
      (fun member => member) rfl

theorem ledgerInv_start (flow : ConnFlow) (peerInitiated isOpen : Bool) :
    LedgerInv (start flow peerInitiated isOpen) := by
  have pending : (start flow peerInitiated isOpen).pending = [.writerOpen] := rfl
  refine ⟨handleInv_start flow peerInitiated isOpen, fun buf member => ?_, fun _ => rfl,
    fun s found => ?_⟩
  · rw [pending] at member
    cases List.mem_singleton.mp member
  · have new : entry (start flow peerInitiated isOpen) =
        some { localMax := flow.limits.maxStreamData } :=
      Table.insert_self
    rw [new] at found
    cases found
    rfl

/-- **The ledger of a stream** balances in every run in which the others leave its entry; entries
are dropped with their reservations only once the writer task has ended. -/
theorem ledger_balances {flow : ConnFlow} {peerInitiated isOpen : Bool} {labels : List Label}
    {t : Tasks} (steady : Meets WebrtcStream.step Steady (start flow peerInitiated isOpen) labels)
    (ran : Lib.run WebrtcStream.step (start flow peerInitiated isOpen) labels = some t) :
    (∀ s, entry t = some s →
      s.sendReserved = grantHeld t + t.shared.queuedCredit + t.shared.abandonedCredit +
        writerHeld t) ∧
    (t.shared.writerGone = false → t.shared.abandonedCredit = 0) := by
  have inv : LedgerInv t := run_invariant_of_meets
    (fun _ _ _ steady inv stepped => LedgerInv.step inv steady stepped) steady
    (ledgerInv_start flow peerInitiated isOpen) ran
  refine ⟨fun s found => ?_, fun alive => ?_⟩
  · rw [inv.balanced s found, add_assoc (grantHeld t) t.shared.queuedCredit]
    rfl
  · unfold abandonedCredit
    rw [inv.kept alive]
    rfl

end WebrtcStream

end Kps.Rust
