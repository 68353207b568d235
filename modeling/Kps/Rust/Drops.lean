/-
**Dropping the handle of a stream.**

`Drop` gives back the pending grant, and the senders of the DATA queue are dropped with the handle.
It decides no terminal frame and cancels no read. The writer task goes on until the DATA queue is
empty, and then stops.

* `Outbound.Step.lasting` — the frames that the writer hands over before it stops;
* `dropped_finished` — so a stream that is dropped once both of its halves have ended is never
  stranded;
* `dropped_stranded` — a stream that is dropped before answers no STOP_SENDING and returns no
  credit.
-/

import Kps.Rust.Discard
import Kps.Rust.ReadSide

namespace Kps.Rust

open Kps.Lib

namespace Outbound

/-- The frames that the writer hands over before it stops because the senders are dropped. `looked`
says that it has just found the lifecycle queue empty: it does not look there again if the DATA
queue is empty too. -/
def lasting (looked : Bool) (o : Outbound) : List ParsedFrame :=
  if o.pc = .gone then o.sent
  else
    o.sent ++ o.pc.held ++ o.pc.lifecycle.map LifeFrame.frame ++ o.data ++
      if looked && o.data.isEmpty then [] else o.life.map LifeFrame.frame

variable {o o' : Outbound} {looked looked' : Bool} {frame : ParsedFrame}

theorem mem_lasting : frame ∈ o.lasting looked ↔ frame ∈ o.sent ∨ o.pc ≠ .gone ∧
    (frame ∈ o.pc.held ∨ (∃ other ∈ o.pc.lifecycle, other.frame = frame) ∨ frame ∈ o.data ∨
      (looked = true → o.data ≠ []) ∧ ∃ other ∈ o.life, other.frame = frame) := by
  unfold lasting
  by_cases gone : o.pc = .gone
  · simp [gone]
  · rw [if_neg gone]
    have last : frame ∈ (if looked && o.data.isEmpty then [] else o.life.map LifeFrame.frame) ↔
        (looked = true → o.data ≠ []) ∧ ∃ other ∈ o.life, other.frame = frame := by
      cases looked <;> cases o.data <;> simp
    simp only [List.mem_append, List.mem_map, last, or_assoc, ne_eq, gone, not_false_eq_true,
      true_and]

/-- What was handed over stays handed over. -/
theorem Step.sent (step : Step o o') (member : frame ∈ o.sent) : frame ∈ o'.sent := by
  cases step with
  | sendLife other holds => exact List.mem_append_left _ member
  | sendData other holds => exact List.mem_append_left _ member
  | _ => exact member

/-- **A frame that is not DATA lasts**, if the writer does not look away from it, and stops only
when it has handed it over. -/
theorem Step.lasting (step : Step o o') (other : isData frame = false)
    (member : frame ∈ o.lasting looked)
    (look : looked' = true → o'.pc = .idle ∧ (looked = true ∨ o.life = []))
    (stop : o'.pc = .gone → o.pc = .gone ∨ frame ∈ o.sent) : frame ∈ o'.lasting looked' := by
  rcases mem_lasting.mp member with sent | ⟨alive, waits⟩
  · exact mem_lasting.mpr (Or.inl (step.sent sent))
  by_cases gone : o'.pc = .gone
  · exact mem_lasting.mpr (Or.inl (step.sent ((stop gone).resolve_left alive)))
  -- a frame of the lifecycle queue is looked at again
  have looks (data : o'.pc = .idle → o.data ≠ [] → o'.data ≠ [])
    (seen : looked = true → o.data ≠ [])
      (life : ∃ other ∈ o.life, other.frame = frame) : looked' = true → o'.data ≠ [] := by
    intro looked'
    obtain ⟨idle, earlier | none⟩ := look looked'
    · exact data idle (seen earlier)
    · obtain ⟨other, inside, -⟩ := life
      rw [none] at inside
      cases inside
  have still (sent : o'.sent = o.sent) (pc : o'.pc = o.pc)
    (data : ∀ frame ∈ o.data, frame ∈ o'.data)
      (life : ∀ frame ∈ o.life, frame ∈ o'.life) : frame ∈ o'.lasting looked' := by
    refine mem_lasting.mpr (Or.inr ⟨gone, ?_⟩)
    rw [pc]
    rcases waits with held | lifecycle | queued | ⟨seen, next, inside, same⟩
    · exact Or.inl held
    · exact Or.inr (Or.inl lifecycle)
    · exact Or.inr (Or.inr (Or.inl (data frame queued)))
    · refine Or.inr (Or.inr (Or.inr ⟨looks (fun _ some none => ?_) seen ⟨next, inside, same⟩,
        next, life next inside, same⟩))
      obtain ⟨first, rest⟩ := List.exists_mem_of_ne_nil _ some
      have kept := data first rest
      rw [none] at kept
      cases kept
  cases step with
  | queueFin owed => exact still rfl rfl (fun _ => List.mem_append_left _) fun _ => id
  | accept bytes admitted => exact still rfl rfl (fun _ => List.mem_append_left _) fun _ => id
  | queueReset code n owed => exact still rfl rfl (fun _ => id) fun _ => List.mem_append_left _
  | queueLife next other => exact still rfl rfl (fun _ => id) fun _ => List.mem_append_left _
  | takeLife next rest idle front =>
    refine mem_lasting.mpr (Or.inr ⟨gone, ?_⟩)
    rw [idle, front] at waits
    rcases waits with held | ⟨_, inside, -⟩ | queued | ⟨seen, next', inside, same⟩
    · cases held
    · cases inside
    · exact Or.inr (Or.inr (Or.inl queued))
    · rcases List.mem_cons.mp inside with rfl | later
      · exact Or.inr (Or.inl ⟨next', List.mem_cons_self, same⟩)
      · refine Or.inr (Or.inr (Or.inr ⟨fun now => ?_, next', later, same⟩))
        cases (look now).1
  | sendLife next holds =>
    rw [holds] at waits
    rcases waits with held | ⟨next', inside, same⟩ | queued | ⟨seen, life⟩
    · cases held
    · rw [List.mem_singleton.mp inside] at same
      exact mem_lasting.mpr (Or.inl (List.mem_append_right _ (List.mem_singleton.mpr same.symm)))
    · exact mem_lasting.mpr (Or.inr ⟨gone, Or.inr (Or.inr (Or.inl queued))⟩)
    · exact mem_lasting.mpr
        (Or.inr ⟨gone, Or.inr (Or.inr (Or.inr ⟨looks (fun _ => id) seen life, life⟩))⟩)
  | takeData next rest idle front =>
    refine mem_lasting.mpr (Or.inr ⟨gone, ?_⟩)
    rw [idle] at waits
    rcases waits with held | ⟨_, inside, -⟩ | queued | ⟨seen, life⟩
    · cases held
    · cases inside
    · rw [front] at queued
      rcases List.mem_cons.mp queued with rfl | later
      · exact Or.inl List.mem_cons_self
      · exact Or.inr (Or.inr (Or.inl later))
    · refine Or.inr (Or.inr (Or.inr ⟨fun now => ?_, life⟩))
      cases (look now).1
  | discard next holds dropping data =>
    refine mem_lasting.mpr (Or.inr ⟨gone, ?_⟩)
    rw [holds] at waits
    rcases waits with held | ⟨_, inside, -⟩ | queued | ⟨seen, life⟩
    · rw [List.mem_singleton.mp held, data] at other
      cases other
    · cases inside
    · exact Or.inr (Or.inr (Or.inl queued))
    · exact Or.inr (Or.inr (Or.inr ⟨looks (fun _ => id) seen life, life⟩))
  | pass next holds kept =>
    refine mem_lasting.mpr (Or.inr ⟨gone, ?_⟩)
    rw [holds] at waits
    rcases waits with held | ⟨_, inside, -⟩ | queued | ⟨seen, life⟩
    · exact Or.inl held
    · cases inside
    · exact Or.inr (Or.inr (Or.inl queued))
    · exact Or.inr (Or.inr (Or.inr ⟨looks (fun _ => id) seen life, life⟩))
  | sendData next holds =>
    rw [holds] at waits
    rcases waits with held | ⟨_, inside, -⟩ | queued | ⟨seen, life⟩
    · refine mem_lasting.mpr (Or.inl (List.mem_append_right _ ?_))
      exact held
    · cases inside
    · exact mem_lasting.mpr (Or.inr ⟨gone, Or.inr (Or.inr (Or.inl queued))⟩)
    · exact mem_lasting.mpr
        (Or.inr ⟨gone, Or.inr (Or.inr (Or.inr ⟨looks (fun _ => id) seen life, life⟩))⟩)
  | stop => exact absurd rfl gone
  | clear none => exact absurd none alive
  | _ => exact still rfl rfl (fun _ => id) fun _ => id

/-- A writer that has stopped has handed over what lasts. -/
theorem lasting_gone (gone : o.pc = .gone) : o.lasting looked = o.sent := if_pos gone

/-- A terminal frame that lasts was decided. -/
theorem Decided.of_lasting (decided : Decided o) (member : frame ∈ o.lasting looked)
    (terminates : isTerminal frame = true) : o.terminal.isSome = true := by
  obtain ⟨kind, ending⟩ := isTerminal_iff.mp terminates
  have counted : 0 < o.tokens kind := by
    unfold tokens
    have frames (inside : frame ∈ o.sent ++ o.pc.held ++ o.data) :
        0 < (o.sent ++ o.pc.held ++ o.data).countP (ends kind) := countP_pos_of_mem _ inside ending
    have life {other : LifeFrame} (inside : other ∈ o.pc.lifecycle ++ o.life)
      (same : other.frame = frame) :
        0 < (o.pc.lifecycle ++ o.life).countP fun frame => ends kind frame.frame :=
      List.countP_pos_iff.mpr ⟨other, inside, by rw [same]; exact ending⟩
    rcases mem_lasting.mp member with sent | ⟨-, held | ⟨other, inside, same⟩ | queued |
      ⟨-, other, inside, same⟩⟩
    · have some := frames (by simp [sent])
      omega
    · have some := frames (by simp [held])
      omega
    · have some := life (List.mem_append_left _ inside) same
      omega
    · have some := frames (by simp [queued])
      omega
    · have some := life (List.mem_append_right _ inside) same
      omega
  by_contra undecided
  have none := decided.undecided (Option.not_isSome_iff_eq_none.mp undecided)
  cases kind with
  | fin => omega
  | reset => omega

end Outbound

namespace WebrtcStream

variable {s : WebrtcStream} {op : StreamSection} {e : Effect WebrtcStream StreamSection}

/-! ### Sections of the writer -/

/-- What a section leaves to a task, the task runs. -/
theorem Follows.owner {next : List StreamSection} (follows : Follows op next)
    {other : StreamSection}
    (member : other ∈ next) {task : Task} (owned : other.task = some task) :
      op.task = some task := by
  obtain ⟨quiet, last, rfl, unowned, same⟩ := follows
  rcases List.mem_append.mp member with inside | inside
  · rw [unowned other inside] at owned
    cases owned
  · rw [← (same other (Option.mem_toList.mp inside)).2]
    exact owned

/-- **Why the writer task stops**: the channel is closed, or is not open any more, or there is no
DATA left and the senders are dropped. -/
theorem exec_stops (ran : s.exec op = some e) (stops : .writerEnd ∈ e.next) :
    s.dcClosed = true ∨ op ≠ .writerOpen ∧ s.dc.readyState ≠ .opened ∨
      op = .selectData ∧ s.data = [] ∧ s.handleDropped = true := by
  have leads := exec_leads ran _ stops
  have unsent {frame : ParsedFrame} (failed : s.dc.send frame = none) :
      s.dc.readyState ≠ .opened := by
    unfold RTCDataChannel.send at failed
    split at failed
    · cases failed
    · next other => exact other
  cases op with
  | writerOpen =>
    simp only [exec] at ran
    split at ran
    · cases ran
      simp at stops
    split at ran
    · next closed => exact Or.inl closed
    · cases ran
  | selectData =>
    simp only [exec, selectData] at ran
    split at ran
    · cases ran
      simp at stops
    next empty =>
    split at ran
    · next dropped => exact Or.inr (Or.inr ⟨rfl, empty, dropped⟩)
    split at ran
    · cases ran
      simp at stops
    · cases ran
  | writerLife frame =>
    simp only [exec] at ran
    split at ran
    · cases ran
      rcases List.mem_append.mp stops with marks | last
      · cases mem_marks marks
      · simp at last
    · next failed => exact Or.inr (Or.inl ⟨by simp, unsent failed⟩)
  | writerRoom frame reserved =>
    simp only [exec] at ran
    split at ran
    · next closed => exact Or.inl closed
    · cases ran
      simp at stops
  | writerSend frame reserved =>
    simp only [exec, writerSend] at ran
    split at ran
    · cases ran
      rcases List.mem_append.mp stops with before | last
      · rcases List.mem_append.mp before with settles | marks
        · cases mem_settleReserved settles
        · cases mem_marks marks
      · simp at last
    · next failed => exact Or.inr (Or.inl ⟨by simp, unsent failed⟩)
  | _ => exact (Bool.false_ne_true leads).elim

/-- The writer looks at the DATA queue once it has found the lifecycle queue empty. -/
theorem exec_looks (ran : s.exec op = some e) (looks : .selectData ∈ e.next) :
    op = .selectLife ∧ s.life = [] := by
  have leads := exec_leads ran _ looks
  cases op with
  | selectLife =>
    simp only [exec] at ran
    split at ran
    · cases ran
      simp at looks
    · next empty => exact ⟨rfl, empty⟩
  | _ => exact (Bool.false_ne_true leads).elim

/-- The frames that the writer task hands over before it stops because the handle is dropped. -/
def lasting (t : Tasks) : List ParsedFrame :=
  (outbound t).lasting (decide (t.control (ownedBy .writer) = some .selectData))

theorem writerPc_gone {other : StreamSection} (owned : ownedBy .writer other = true)
    (gone : WriterPc.of (some other) = .gone) : other = .writerEnd := by
  cases other <;> first | rfl | (cases gone; done) | cases owned

/-- **A section keeps what lasts**, unless it stops the writer for another reason. -/
theorem lasting_run {t : Tasks} (rules : Ruled t) {thread : Nat} {rest : List StreamSection}
    (top : t.pool[thread]? = some (op :: rest)) (ran : t.shared.exec op = some e)
    (runs : .writerEnd ∈ e.next → op = .selectData ∧ t.shared.data = [])
    (frame : ParsedFrame) (other : isData frame = false) (member : frame ∈ lasting t) :
    frame ∈ lasting ⟨e.shared, t.pool.set thread (e.next ++ rest) ++ e.started⟩ := by
  have stands := rules.stands top
  have moves := exec_moves ran stands
  have after := outbound_run rules top ran
  have control : Threads.control (ownedBy .writer)
      ⟨e.shared, t.pool.set thread (e.next ++ rest) ++ e.started⟩ =
      if ownedBy .writer op then e.next.find? (ownedBy .writer) else t.control (ownedBy .writer) :=
    (rules.owned .writer).control_advance top ((exec_follows ran).1.countP .writer)
      fun other member => by rw [mem_started ran member]; rfl
  unfold lasting
  rw [after, control]
  have pc : (viewAfter op e (t.control (ownedBy .writer)) (t.control (ownedBy .application))
      (t.pending.countP StreamSection.queuesReset)).pc =
      WriterPc.of (if ownedBy .writer op then e.next.find? (ownedBy .writer)
        else t.control (ownedBy .writer)) := rfl
  have look : decide ((if ownedBy .writer op then e.next.find? (ownedBy .writer)
        else t.control (ownedBy .writer)) = some .selectData) = true →
      (viewAfter op e (t.control (ownedBy .writer)) (t.control (ownedBy .application))
        (t.pending.countP StreamSection.queuesReset)).pc = .idle ∧
      (decide (t.control (ownedBy .writer) = some .selectData) = true ∨ t.shared.life = []) := by
    intro looked
    have looked := of_decide_eq_true looked
    refine ⟨by rw [pc, looked]; rfl, ?_⟩
    split at looked
    · exact Or.inr (exec_looks ran (List.mem_of_find?_eq_some looked)).2
    · exact Or.inl (decide_eq_true looked)
  have stop : (viewAfter op e (t.control (ownedBy .writer)) (t.control (ownedBy .application))
        (t.pending.countP StreamSection.queuesReset)).pc = .gone →
      (outbound t).pc = .gone ∨ frame ∈ (outbound t).sent := by
    intro gone
    rw [pc] at gone
    split at gone
    · next owned =>
      by_cases ends : op = .writerEnd
      · subst ends
        refine Or.inl ?_
        show WriterPc.of (t.control (ownedBy .writer)) = .gone
        rw [stands.atWriter rfl]
        rfl
      · obtain ⟨next, inside, task⟩ := exec_goesOn ran (of_decide_eq_true owned) ends
        obtain ⟨found, at'⟩ := Option.isSome_iff_exists.mp
          (List.find?_isSome.mpr ⟨next, inside, decide_eq_true task⟩ :
            (e.next.find? (ownedBy .writer)).isSome)
        rw [at'] at gone
        rw [writerPc_gone (List.find?_some at') gone] at at'
        obtain ⟨rfl, empty⟩ := runs (List.mem_of_find?_eq_some at')
        have idle : (outbound t).pc = .idle := by
          show WriterPc.of (t.control (ownedBy .writer)) = .idle
          rw [stands.atWriter rfl]
          rfl
        have none : (outbound t).data = [] := by
          show t.shared.data.map Prod.fst = []
          rw [empty]
          rfl
        refine Or.inr ?_
        rcases Outbound.mem_lasting.mp member with sent
          | ⟨-, held | ⟨_, inside, -⟩ | queued | ⟨seen, -⟩⟩
        · exact sent
        · rw [idle] at held
          cases held
        · rw [idle] at inside
          cases inside
        · rw [none] at queued
          cases queued
        · exact absurd none (seen (decide_eq_true (stands.atWriter rfl)))
    · exact Or.inl gone
  rcases moves with same | step
  · -- the outbound half is the same, and the lifecycle queue is looked at again, or is empty
    rw [same] at look ⊢
    rcases Outbound.mem_lasting.mp member with sent
      | ⟨alive, held | lifecycle | queued | ⟨seen, life⟩⟩
    · exact Outbound.mem_lasting.mpr (Or.inl sent)
    · exact Outbound.mem_lasting.mpr (Or.inr ⟨alive, Or.inl held⟩)
    · exact Outbound.mem_lasting.mpr (Or.inr ⟨alive, Or.inr (Or.inl lifecycle)⟩)
    · exact Outbound.mem_lasting.mpr (Or.inr ⟨alive, Or.inr (Or.inr (Or.inl queued))⟩)
    · refine Outbound.mem_lasting.mpr
        (Or.inr ⟨alive, Or.inr (Or.inr (Or.inr ⟨fun looked => ?_, life⟩))⟩)
      rcases (look looked).2 with earlier | none
      · exact seen earlier
      · obtain ⟨next, inside, -⟩ := life
        have inside : next ∈ t.shared.life := inside
        rw [none] at inside
        cases inside
  · exact step.lasting other member look stop

/-! ### Sections of the receive side -/

/-- A read that was cancelled stays cancelled. -/
theorem exec_cancelled (ran : s.exec op = some e) :
    s.readCancel = true → e.shared.readCancel = true := by
  by_cases receives : op.receives = false
  · have same := (exec_leaves ran).reading receives
    simp only [reading, Prod.mk.injEq] at same
    rw [same.2.2.2.1]
    exact fun now => now
  · cases op with
    | onFrame data =>
      simp only [exec, onFrame] at ran
      split at ran
      · cases ran
        exact fun now => now
      · split at ran <;> cases ran <;> exact fun now => now
      · split at ran <;> cases ran <;> exact fun now => now
      · split at ran <;> cases ran <;> exact fun now => now
      · split at ran
        · cases ran
          exact fun now => now
        split at ran <;> cases ran <;> exact fun now => now
      · cases ran
        exact fun now => now
    | pushData payload =>
      simp only [exec] at ran
      split at ran <;> cases ran <;> exact fun now => now
    | pollRead size =>
      simp only [exec, pollRead] at ran
      split at ran
      · cases ran
        exact fun now => now
      split at ran
      · cases ran
        exact fun now => now
      split at ran
      · cases ran
        exact fun now => now
      split at ran
      · cases ran
        exact fun now => now
      split at ran <;> cases ran <;> exact fun now => now
    | cancelRead code =>
      simp only [exec] at ran
      split at ran <;> cases ran
      · exact fun now => now
      · exact fun _ => rfl
    | _ => exact absurd rfl receives

/-- Wire-complete, with nothing left to read: what `maybe_retire` asks of a stream before it closes
the channel. -/
structure Ready (s : WebrtcStream) : Prop where
  complete : s.wireComplete = true
  drained : s.inbuf = []

theorem Ready.congr {s' : WebrtcStream} (ready : Ready s')
    (sent : s'.localTerminalSent = s.localTerminalSent)
    (ended : s'.peerEnded = s.peerEnded) (inbuf : s'.inbuf = s.inbuf) : Ready s := by
  obtain ⟨complete, drained⟩ := ready
  unfold wireComplete at complete
  rw [sent, ended] at complete
  exact ⟨complete, inbuf ▸ drained⟩

/-- **The section that makes a stream ready leaves a `maybe_retire` to its task.** -/
theorem exec_readies (ran : s.exec op = some e) (ready : Ready e.shared) :
    Ready s ∨ .maybeRetire ∈ e.next := by
  by_cases marks : op = .markTerminalSent
  · subst marks
    cases ran
    exact Or.inr List.mem_cons_self
  have sent : e.shared.localTerminalSent = s.localTerminalSent := by
    have climbs := (exec_climbs ran).sent
    simp only [marks, or_false] at climbs
    exact Bool.eq_iff_iff.mpr climbs
  by_cases receives : op.receives = false
  · have same := (exec_leaves ran).reading receives
    simp only [reading, Prod.mk.injEq] at same
    refine Or.inl (ready.congr sent ?_ same.1)
    unfold peerEnded
    rw [same.2.1, same.2.2.1]
  · cases op with
    | onFrame data =>
      simp only [exec, onFrame] at ran
      split at ran
      · cases ran
        exact Or.inl ready
      · split at ran <;> cases ran <;> exact Or.inl ready
      · split at ran <;> cases ran
        · exact Or.inl ready
        · exact Or.inr List.mem_cons_self
      · split at ran <;> cases ran
        · exact Or.inl ready
        · exact Or.inr (List.mem_append_right _ List.mem_cons_self)
      · split at ran
        · cases ran
          exact Or.inl ready
        split at ran <;> cases ran <;> exact Or.inl (ready.congr rfl rfl rfl)
      · cases ran
        exact Or.inl (ready.congr rfl rfl rfl)
    | pushData payload =>
      simp only [exec] at ran
      split at ran <;> cases ran
      · exact Or.inl ready
      · exact absurd ready.drained (by simp [wakeReader])
    | pollRead size =>
      simp only [exec, pollRead] at ran
      split at ran
      · cases ran
        exact Or.inr (List.mem_cons_of_mem _ List.mem_cons_self)
      split at ran
      · cases ran
        exact Or.inl (ready.congr rfl rfl rfl)
      split at ran
      · cases ran
        exact Or.inl (ready.congr rfl rfl rfl)
      split at ran
      · cases ran
        exact Or.inl (ready.congr rfl rfl rfl)
      split at ran <;> cases ran <;> exact Or.inl (ready.congr rfl rfl rfl)
    | cancelRead code =>
      simp only [exec] at ran
      split at ran <;> cases ran
      · exact Or.inl ready
      · exact Or.inr (List.mem_append_right _ List.mem_cons_self)
    | _ => exact absurd rfl receives

/-- `maybe_retire` closes the channel of a stream that is ready, unless it is closed. -/
theorem maybeRetire_closes (ran : s.exec .maybeRetire = some e) (ready : Ready s) :
    s.dcClosed = true ∨ .dcClose ∈ e.started.flatten := by
  simp only [exec, maybeRetire] at ran
  rw [if_pos (by simp [ready.complete, ready.drained])] at ran
  split at ran
  · next closed => exact Or.inl closed
  · cases ran
    exact Or.inr (by simp)

/-! ### The channel and the writer task -/

/-- What every run keeps of the channel and the writer task. -/
structure ChannelInv (t : Tasks) : Prop where
  ladder : LadderInv t
  writer : WriterInv t
  connecting : t.shared.dc.readyState = .connecting → t.shared.dcOpen = false ∧
    ∀ op ∈ t.pending, op ≠ .onOpen ∧ (op.task = some .writer → op = .writerOpen ∨ op = .writerEnd)
  runs : t.control (ownedBy .writer) = none → t.shared.writerGone = true
  closing : t.shared.dc.readyState = .closing ∨ .dcClose ∈ t.pending →
    Ended t.shared ∧ t.shared.peerEnded = true
  closes : Ready t.shared → t.shared.dcClosed = true ∨ .maybeRetire ∈ t.pending ∨
    .dcClose ∈ t.pending ∨ .close ∈ t.shared.dc.calls

theorem ChannelInv.run {t t' : Tasks} {thread : Nat} (inv : ChannelInv t)
    (stepped : t.advance exec thread = some t') : ChannelInv t' := by
  have ladder := inv.ladder.run stepped
  have taken : WebrtcStream.step t (.run thread) = some t' := stepped
  have writer := inv.writer.step taken
  obtain ⟨op, rest, e, top, ran, rfl⟩ := Threads.advance_eq_some.mp stepped
  have pending := Threads.mem_pending top
  have rules := inv.ladder.rules
  have leaves := exec_leaves ran
  have climbs := exec_climbs ran
  obtain ⟨pushed, stays, comes⟩ := Threads.pending_members (e := e) top
  have persists (now : Ended t.shared ∧ t.shared.peerEnded = true) :
      Ended e.shared ∧ e.shared.peerEnded = true := ⟨climbs.hands now.1, climbs.ended now.2⟩
  have begun : ∀ other ∈ e.started.flatten, other ∈
      (⟨e.shared, t.pool.set thread (e.next ++ rest) ++ e.started⟩ : Tasks).pending := by
    intro other member
    show other ∈ (t.pool.set thread (e.next ++ rest) ++ e.started).flatten
    rw [List.flatten_append]
    exact List.mem_append_right _ member
  -- a closed or closing channel does not connect again
  have connects (now : e.shared.dc.readyState = .connecting) :
      t.shared.dc.readyState = .connecting := by
    by_cases closes : op = .dcClose
    · subst closes
      cases ran
      simp only [RTCDataChannel.close] at now
      split at now <;> cases now
    · rw [← leaves.channel closes]
      exact now
  refine ⟨ladder, writer, fun now => ?_, fun none => ?_, fun now => ?_, fun ready => ?_⟩
  · obtain ⟨unopened, quiet⟩ := inv.connecting (connects now)
    refine ⟨(leaves.opened (quiet op pending).1).trans unopened, fun other member => ?_⟩
    rcases comes other member with new | new | old
    · refine ⟨?_, fun owned => ?_⟩
      · rintro rfl
        have leads := exec_leads ran _ new
        cases op <;> cases leads
      · rcases (quiet op pending).2 ((exec_follows ran).1.owner new owned) with rfl | rfl
        · simp only [exec, unopened] at ran
          split at ran
          · next open' => cases open'
          split at ran
          · cases ran
            exact Or.inr (List.mem_singleton.mp new)
          · cases ran
        · cases ran
          cases new
    · rw [mem_started ran new]
      exact ⟨by simp, fun owned => by cases owned⟩
    · exact quiet other old
  · rw [(rules.owned .writer).control_advance top ((exec_follows ran).1.countP .writer)
      fun other member => by rw [mem_started ran member]; rfl] at none
    split at none
    · next owned =>
      by_cases ends : op = .writerEnd
      · subst ends
        cases ran
        rfl
      · obtain ⟨next, inside, task⟩ := exec_goesOn ran (of_decide_eq_true owned) ends
        exact absurd (decide_eq_true task) (List.find?_eq_none.mp none next inside)
    · next free =>
      have other : op ≠ .writerEnd := by
        rintro rfl
        exact free rfl
      show e.shared.writerGone = true
      rw [leaves.gone other]
      exact inv.runs none
  · rcases now with now | waits
    · by_cases closes : op = .dcClose
      · subst closes
        exact persists (inv.closing (Or.inr pending))
      · exact persists (inv.closing (Or.inl ((leaves.channel closes).symm.trans now)))
    · rcases comes _ waits with new | new | old
      · have leads := exec_leads ran _ new
        cases op <;> cases leads
      · have complete := (started_complete ran new).2
        simp only [wireComplete, Bool.and_eq_true] at complete
        exact persists ⟨inv.ladder.marks.mpr (Or.inl complete.1), complete.2⟩
      · exact persists (inv.closing (Or.inr old))
  · rcases exec_readies ran ready with earlier | new
    · have closed (now : t.shared.dcClosed = true) : e.shared.dcClosed = true :=
        climbs.closed.mpr (Or.inl now)
      rcases inv.closes earlier with now | waits | waits | called
      · exact Or.inl (closed now)
      · rcases stays _ waits with rfl | later
        · rcases maybeRetire_closes ran earlier with now | started
          · exact Or.inl (closed now)
          · exact Or.inr (Or.inr (Or.inl (begun _ started)))
        · exact Or.inr (Or.inl later)
      · rcases stays _ waits with rfl | later
        · cases ran
          exact Or.inr (Or.inr (Or.inr (List.mem_append_right _ List.mem_cons_self)))
        · exact Or.inr (Or.inr (Or.inl later))
      · exact Or.inr (Or.inr (Or.inr (leaves.calls.subset called)))
    · exact Or.inr (Or.inl (pushed _ new))

/-- **One step keeps the channel and the writer task.** -/
theorem ChannelInv.step {t t' : Tasks} {label : Label} (inv : ChannelInv t)
    (stepped : WebrtcStream.step t label = some t') : ChannelInv t' := by
  by_cases runs : ∃ thread, label = .run thread
  · obtain ⟨thread, rfl⟩ := runs
    exact inv.run stepped
  have notRun : ∀ thread, label ≠ .run thread := fun thread same => runs ⟨thread, same⟩
  have rules := inv.ladder.rules
  have shared := step_shared stepped notRun
  have stays := step_stays rules stepped notRun
  have comes := step_comes stepped notRun
  have channel := step_channel stepped notRun
  have ended : Ended t'.shared ↔ Ended t.shared := by
    rw [shared]
    exact ended_congr rfl
  have sections : ∀ op ∈ label.sections, op.task ≠ some .writer ∧ op ≠ .dcClose := by
    cases label with
    | call method => cases method <;> simp [Label.sections, Method.sections, StreamSection.task]
    | _ => simp [Label.sections, StreamSection.task]
  have control : t'.control (ownedBy .writer) = t.control (ownedBy .writer) :=
    step_control rules stepped notRun
      (fun op member => by simp [ownedBy, (sections op member).1]) fun _ => by simp
  refine ⟨inv.ladder.step stepped, inv.writer.step stepped, fun now => ?_, fun none => ?_,
    fun now => ?_, fun ready => ?_⟩
  · rcases channel with ⟨unopening, -, same⟩ | ⟨-, -, opened⟩ | ⟨-, closed⟩
    · rw [same] at now
      obtain ⟨unopened, quiet⟩ := inv.connecting now
      refine ⟨(congrArg WebrtcStream.dcOpen shared).trans unopened, fun op member => ?_⟩
      rcases comes op member with new | old
      · refine ⟨?_, fun owned => absurd owned (sections op new).1⟩
        rintro rfl
        -- only the channel that opens gives that section
        cases label with
        | channelOpen => exact unopening rfl
        | call method => cases method <;> simp [Label.sections, Method.sections] at new
        | _ => simp [Label.sections] at new
      · exact quiet op old
    · rw [opened] at now
      cases now
    · rw [closed] at now
      cases now
  · rw [control] at none
    exact (congrArg WebrtcStream.writerGone shared).trans (inv.runs none)
  · have earlier : t.shared.dc.readyState = .closing ∨ .dcClose ∈ t.pending := by
      rcases now with now | waits
      · rcases channel with ⟨-, -, same⟩ | ⟨-, -, opened⟩ | ⟨-, closed⟩
        · exact Or.inl (same ▸ now)
        · rw [opened] at now
          cases now
        · rw [closed] at now
          cases now
      · exact Or.inr ((comes _ waits).resolve_left fun new => (sections _ new).2 rfl)
    obtain ⟨handed, received⟩ := inv.closing earlier
    exact ⟨ended.mpr handed, (congrArg WebrtcStream.peerEnded shared).trans received⟩
  · have earlier : Ready t.shared := by
      rw [shared] at ready
      exact ready.congr rfl rfl rfl
    have calls : t'.shared.dc.calls = t.shared.dc.calls :=
      (congrArg (fun s => s.dc.calls) shared).trans rfl
    rcases inv.closes earlier with now | waits | waits | called
    · exact Or.inl ((congrArg WebrtcStream.dcClosed shared).trans now)
    · exact Or.inr (Or.inl ((stays _ waits).resolve_right (by simp [StreamSection.isCancelRead])))
    · exact Or.inr
        (Or.inr (Or.inl ((stays _ waits).resolve_right (by simp [StreamSection.isCancelRead]))))
    · exact Or.inr (Or.inr (Or.inr (calls ▸ called)))

/-! ### Dropping the handle -/

def isStopSending : ParsedFrame → Bool
  | .stopSending _ => true
  | _ => false

theorem not_data_of_terminal {frame : ParsedFrame} (terminates : isTerminal frame = true) :
    isData frame = false := by
  cases frame <;> first | rfl | cases terminates

theorem not_data_of_stopSending {frame : ParsedFrame} (stops : isStopSending frame = true) :
    isData frame = false := by
  cases frame <;> first | rfl | cases stops

/-- Both terminal frames are on the wire, or the connection is torn down. -/
def Concluded (s : WebrtcStream) : Prop := Ended s ∧ s.peerEnded = true ∨ s.isTeardown = true

/-- Both halves have ended, as far as this end is concerned: a terminal frame lasts, and the peer's
was received and everything is read, or the read was cancelled and the STOP_SENDING lasts. -/
structure Finished (t : Tasks) : Prop where
  ends : ∃ frame ∈ lasting t, isTerminal frame = true
  stops : t.shared.peerEnded = true ∨
    t.shared.readCancel = true ∧ ∃ frame ∈ lasting t, isStopSending frame = true
  drained : t.shared.inbuf = []

instance (t : Tasks) : Decidable (Finished t) :=
  decidable_of_iff ((∃ frame ∈ lasting t, isTerminal frame = true) ∧ (t.shared.peerEnded = true ∨
      t.shared.readCancel = true ∧ ∃ frame ∈ lasting t, isStopSending frame = true) ∧
      t.shared.inbuf = [])
    ⟨fun ⟨ends, stops, drained⟩ => ⟨ends, stops, drained⟩,
      fun ⟨ends, stops, drained⟩ => ⟨ends, stops, drained⟩⟩

instance (s : WebrtcStream) : Decidable (Concluded s) :=
  inferInstanceAs (Decidable (Ended s ∧ s.peerEnded = true ∨ s.isTeardown = true))

/-- The handle is dropped once both halves have ended, and the channel is closed by a peer that
conforms. -/
def Orderly (t : Tasks) : Label → Prop
  | .run thread => (t.pool[thread]?.bind List.head?) = some .dropSenders → Finished t
  | .channelClosed => Concluded t.shared
  | _ => True

instance (t : Tasks) (label : Label) : Decidable (Orderly t label) := by
  unfold Orderly
  cases label <;> infer_instance

/-- What every orderly run keeps. -/
structure DropInv (t : Tasks) : Prop where
  channel : ChannelInv t
  closed : t.shared.dc.readyState = .closed → Concluded t.shared
  stopped : t.shared.writerGone = true ∨ .writerEnd ∈ t.pending →
    Concluded t.shared ∨ t.shared.handleDropped = true
  dropped : t.shared.handleDropped = true → Concluded t.shared ∨
    (∃ frame ∈ lasting t, isTerminal frame = true) ∧
      (t.shared.peerEnded = true ∨ ∃ frame ∈ lasting t, isStopSending frame = true)
  drained : t.shared.handleDropped = true →
    t.shared.readCancel = true ∨ t.shared.peerEnded = true ∧ t.shared.inbuf = []

/-- A channel that was open and is not any more. -/
theorem DropInv.concluded {t : Tasks} (inv : DropInv t)
    (connected : t.shared.dc.readyState ≠ .connecting)
    (closed : t.shared.dc.readyState ≠ .opened) : Concluded t.shared := by
  cases state : t.shared.dc.readyState with
  | connecting => exact absurd state connected
  | opened => exact absurd state closed
  | closing => exact Or.inl (inv.channel.closing (Or.inl state))
  | closed => exact inv.closed state

theorem DropInv.run {t t' : Tasks} {thread : Nat} (inv : DropInv t)
    (orderly : Orderly t (.run thread))
    (stepped : t.advance exec thread = some t') : DropInv t' := by
  have channel := inv.channel.run stepped
  obtain ⟨op, rest, e, top, ran, rfl⟩ := Threads.advance_eq_some.mp stepped
  have pending := Threads.mem_pending top
  have rules := inv.channel.ladder.rules
  have leaves := exec_leaves ran
  have climbs := exec_climbs ran
  obtain ⟨pushed, stays, comes⟩ := Threads.pending_members (e := e) top
  have persists (now : Concluded t.shared) : Concluded e.shared :=
    now.imp (fun both => ⟨climbs.hands both.1, climbs.ended both.2⟩) leaves.teardown.trans
  -- the writer stops because the stream is concluded, or has nothing left to hand over
  have stops (ends : .writerEnd ∈ e.next) : Concluded t.shared ∨
      op = .selectData ∧ t.shared.data = [] ∧ t.shared.handleDropped = true := by
    rcases exec_stops ran ends with closed | ⟨past, closed⟩ | drained
    · exact Or.inl (inv.closed (inv.channel.ladder.closed.mpr (Or.inl closed)))
    · refine Or.inl (inv.concluded (fun connecting => ?_) closed)
      rcases ((inv.channel.connecting connecting).2 op pending).2
        ((exec_follows ran).1.owner ends rfl) with rfl | rfl
      · exact past rfl
      · cases ran
        cases ends
    · exact Or.inr drained
  have dropped (now : e.shared.handleDropped = true) :
      t.shared.handleDropped = true ∨ op = .dropSenders := by
    by_cases drops : op = .dropSenders
    · exact Or.inr drops
    · exact Or.inl ((leaves.dropped drops).symm.trans now)
  have finished (drops : op = .dropSenders) : Finished t := by
    subst drops
    refine orderly ?_
    rw [top]
    rfl
  refine ⟨channel, fun now => ?_, fun now => ?_, fun now => ?_, fun now => ?_⟩
  · refine persists (inv.closed ?_)
    exact climbs.ready.mp now
  · have keeps (before : Concluded t.shared ∨ t.shared.handleDropped = true) :
        Concluded e.shared ∨ e.shared.handleDropped = true := by
      refine before.imp persists fun earlier => ?_
      by_cases drops : op = .dropSenders
      · subst drops
        cases ran
        rfl
      · exact (leaves.dropped drops).trans earlier
    rcases now with gone | waits
    · by_cases ends : op = .writerEnd
      · exact keeps (inv.stopped (Or.inr (ends ▸ pending)))
      · exact keeps (inv.stopped (Or.inl ((leaves.gone ends).symm.trans gone)))
    · rcases comes _ waits with new | new | old
      · exact keeps ((stops new).imp_right fun drained => drained.2.2)
      · cases mem_started ran new
      · exact keeps (inv.stopped (Or.inr old))
  · have before : Concluded t.shared ∨ (∃ frame ∈ lasting t, isTerminal frame = true) ∧
        (t.shared.peerEnded = true ∨ ∃ frame ∈ lasting t, isStopSending frame = true) := by
      rcases dropped now with earlier | drops
      · exact inv.dropped earlier
      · have finished := finished drops
        exact Or.inr ⟨finished.ends, finished.stops.imp_right And.right⟩
    rcases before with concluded | ⟨⟨frame, lasts, terminates⟩, received⟩
    · exact Or.inl (persists concluded)
    by_cases concluded : Concluded t.shared
    · exact Or.inl (persists concluded)
    have keeps := lasting_run rules top ran fun ends =>
      have drained := (stops ends).resolve_left concluded
      ⟨drained.1, drained.2.1⟩
    refine Or.inr ⟨⟨frame, keeps frame (not_data_of_terminal terminates) lasts, terminates⟩, ?_⟩
    rcases received with ended | ⟨frame, lasts, stops⟩
    · exact Or.inl (climbs.ended ended)
    · exact Or.inr ⟨frame, keeps frame (not_data_of_stopSending stops) lasts, stops⟩
  · have before : t.shared.readCancel = true ∨ t.shared.peerEnded = true ∧ t.shared.inbuf = [] := by
      rcases dropped now with earlier | drops
      · exact inv.drained earlier
      · have finished := finished drops
        exact finished.stops.symm.imp And.left fun ended => ⟨ended, finished.drained⟩
    rcases before with cancelled | ⟨ended, empty⟩
    · exact Or.inl (exec_cancelled ran cancelled)
    · refine Or.inr ⟨climbs.ended ended, (climbs.fills empty).resolve_right fun carries => ?_⟩
      rw [inv.channel.ladder.quiet ended op pending] at carries
      cases carries

/-- A teardown is not taken back. -/
theorem step_torn {t t' : Tasks} {label : Label} (stepped : WebrtcStream.step t label = some t')
    (notRun : ∀ thread, label ≠ .run thread) (torn : t.shared.isTeardown = true) :
    t'.shared.isTeardown = true := by
  cases label with
  | run thread => exact absurd rfl (notRun thread)
  | call method =>
    simp only [WebrtcStream.step] at stepped
    split at stepped
    · cases stepped
    · rw [(Threads.pending_resume stepped).2]
      exact torn
  | dropFuture =>
    simp only [WebrtcStream.step] at stepped
    split at stepped <;> cases stepped
    exact torn
  | channelOpen =>
    simp only [WebrtcStream.step] at stepped
    split at stepped <;> cases stepped
    exact torn
  | message data =>
    simp only [WebrtcStream.step] at stepped
    split at stepped
    · rw [(Threads.pending_resume stepped).2]
      exact torn
    · cases stepped
  | channelClosed =>
    simp only [WebrtcStream.step] at stepped
    split at stepped
    · cases stepped
    · rw [(Threads.pending_resume stepped).2]
      exact torn
  | teardown =>
    cases stepped
    rfl
  | _ =>
    cases stepped
    exact torn

/-- **One orderly step keeps the promises of a handle that was dropped.** -/
theorem DropInv.step {t t' : Tasks} {label : Label} (inv : DropInv t) (orderly : Orderly t label)
    (stepped : WebrtcStream.step t label = some t') : DropInv t' := by
  by_cases runs : ∃ thread, label = .run thread
  · obtain ⟨thread, rfl⟩ := runs
    exact inv.run orderly stepped
  have notRun : ∀ thread, label ≠ .run thread := fun thread same => runs ⟨thread, same⟩
  have rules := inv.channel.ladder.rules
  have shared := step_shared stepped notRun
  have comes := step_comes stepped notRun
  have dropped : t'.shared.handleDropped = t.shared.handleDropped :=
    (congrArg WebrtcStream.handleDropped shared).trans rfl
  have ended : t'.shared.peerEnded = t.shared.peerEnded :=
    (congrArg WebrtcStream.peerEnded shared).trans rfl
  have persists (now : Concluded t.shared) : Concluded t'.shared := by
    rcases now with ⟨handed, received⟩ | torn
    · refine Or.inl ⟨?_, ended.trans received⟩
      rw [shared]
      exact (ended_congr rfl).mpr handed
    · exact Or.inr (step_torn stepped notRun torn)
  have sections : ∀ op ∈ label.sections, op.task ≠ some .writer := by
    cases label with
    | call method => cases method <;> simp [Label.sections, Method.sections, StreamSection.task]
    | _ => simp [Label.sections, StreamSection.task]
  have lasts : lasting t' = lasting t := by
    have control : t'.control (ownedBy .writer) = t.control (ownedBy .writer) :=
      step_control rules stepped notRun
        (fun op member => by simp [ownedBy, sections op member]) fun _ => by simp
    unfold lasting
    rw [control]
    by_cases drops : label = .dropFuture
    · subst drops
      rw [outbound_dropFuture rules stepped]
      rfl
    · rw [step_still rules stepped notRun drops]
  refine ⟨inv.channel.step stepped, fun now => ?_, fun now => ?_, fun now => ?_, fun now => ?_⟩
  · rcases step_channel stepped notRun with ⟨-, -, same⟩ | ⟨-, -, opened⟩ | ⟨rfl, -⟩
    · exact persists (inv.closed (same ▸ now))
    · rw [opened] at now
      cases now
    · exact persists orderly
  · have before : t.shared.writerGone = true ∨ .writerEnd ∈ t.pending := by
      rcases now with gone | waits
      · exact Or.inl (((congrArg WebrtcStream.writerGone shared).trans rfl).symm.trans gone)
      · exact Or.inr ((comes _ waits).resolve_left fun new => sections _ new rfl)
    exact (inv.stopped before).imp persists dropped.trans
  · rw [lasts, ended]
    exact (inv.dropped (dropped.symm.trans now)).imp_left persists
  · rw [ended, (congrArg WebrtcStream.readCancel shared).trans rfl,
      (congrArg WebrtcStream.inbuf shared).trans rfl]
    exact inv.drained (dropped.symm.trans now)

theorem channelInv_start (flow : ConnFlow) (peerInitiated isOpen : Bool) :
    ChannelInv (start flow peerInitiated isOpen) := by
  have pending : (start flow peerInitiated isOpen).pending = [.writerOpen] := rfl
  refine ⟨ladderInv_start flow peerInitiated isOpen, writerInv_start flow peerInitiated isOpen,
    fun connecting => ?_, fun none => (by cases none), fun now => ?_, fun ready => ?_⟩
  · rw [pending]
    refine ⟨?_, fun op member => ?_⟩
    · cases isOpen
      · rfl
      · cases connecting
    · rw [List.mem_singleton.mp member]
      exact ⟨by simp, fun _ => Or.inl rfl⟩
  · rw [pending] at now
    rcases now with closing | waits
    · cases isOpen <;> cases closing
    · simp at waits
  · have complete := ready.complete
    cases complete

theorem dropInv_start (flow : ConnFlow) (peerInitiated isOpen : Bool) :
    DropInv (start flow peerInitiated isOpen) := by
  refine ⟨channelInv_start flow peerInitiated isOpen, fun closed => ?_, fun stopped => ?_,
    fun dropped => (by cases dropped), fun dropped => (by cases dropped)⟩
  · cases isOpen <;> cases closed
  · have pending : (start flow peerInitiated isOpen).pending = [.writerOpen] := rfl
    rw [pending] at stopped
    rcases stopped with gone | waits
    · cases gone
    · simp at waits

variable {t : Tasks}

/-- The writer task of a channel that is open can go on, or has stopped, once the senders are
dropped. -/
theorem ChannelInv.gone (inv : ChannelInv t) (opened : t.shared.dcOpen = true)
    (dropped : t.shared.handleDropped = true) (stuck : WebrtcStream.step t (.run 1) = none) :
    t.shared.writerGone = true := by
  have owned := inv.ladder.rules.owned .writer
  obtain ⟨stack, found⟩ : ∃ stack, t.pool[1]? = some stack :=
    ⟨_, List.getElem?_eq_getElem owned.here⟩
  cases stack with
  | nil => exact inv.runs (Threads.control_eq_none.mpr (owned.idle found))
  | cons op rest =>
    have waits : t.shared.exec op = none := by
      cases ran : t.shared.exec op with
      | none => rfl
      | some e =>
        have stepped : t.advance exec 1 = some _ :=
          Threads.advance_eq_some.mpr ⟨op, rest, e, found, ran, rfl⟩
        change t.advance exec 1 = none at stuck
        rw [stuck] at stepped
        cases stepped
    rcases exec_waits waits with ⟨-, unopened, -⟩ | ⟨-, -, -, kept⟩ | rfl
    · rw [opened] at unopened
      cases unopened
    · rw [dropped] at kept
      cases kept
    · have quiet := (inv.ladder.rules.owned .application).elsewhere 1 _ found (by decide) _
        List.mem_cons_self
      cases quiet

/-- **A writer task that has stopped has handed over the frames that end both halves.** -/
theorem DropInv.ended (inv : DropInv t) (healthy : t.shared.isTeardown = false)
    (gone : t.shared.writerGone = true) :
    Ended t.shared ∧ (t.shared.peerEnded = true ∨ ∃ code, .stopSending code ∈ t.shared.frames) := by
  have concludes (now : Concluded t.shared) : Ended t.shared ∧ t.shared.peerEnded = true := by
    rcases now with both | torn
    · exact both
    · rw [healthy] at torn
      cases torn
  rcases inv.stopped (Or.inl gone) with concluded | dropped
  · exact (concludes concluded).imp_right Or.inl
  rcases inv.dropped dropped with concluded | ⟨⟨frame, lasts, terminates⟩, received⟩
  · exact (concludes concluded).imp_right Or.inl
  have sent : lasting t = t.shared.frames :=
    Outbound.lasting_gone (inv.channel.writer.handed.stopped gone)
  rw [sent] at lasts received
  refine ⟨⟨frame, lasts, terminates⟩, received.imp_right ?_⟩
  rintro ⟨frame, inside, stops⟩
  cases frame with
  | stopSending code => exact ⟨code, inside⟩
  | _ => cases stops

theorem DropInv.decided (inv : DropInv t) (healthy : t.shared.isTeardown = false)
    (dropped : t.shared.handleDropped = true) : t.shared.localTerminal.isSome = true := by
  have decided {frame : ParsedFrame} (lasts : frame ∈ lasting t)
    (terminates : isTerminal frame = true) :
      t.shared.localTerminal.isSome = true := inv.channel.writer.decided.of_lasting lasts terminates
  rcases inv.dropped dropped with (⟨⟨frame, sent, terminates⟩, -⟩ | torn)
    | ⟨⟨frame, lasts, terminates⟩, -⟩
  · exact decided (Outbound.mem_lasting.mpr (Or.inl sent)) terminates
  · rw [healthy] at torn
    cases torn
  · exact decided lasts terminates

/-- At rest, a stream that is ready has its channel closed, or has called `close`. -/
theorem ChannelInv.closed (inv : ChannelInv t) (settled : Settled t) (handed : Ended t.shared)
    (received : t.shared.peerEnded = true) (empty : t.shared.inbuf = []) :
    t.shared.dc.readyState = .closed ∨ .close ∈ t.shared.dc.calls := by
  have still := settled.still inv.ladder.rules
  have sent := (inv.ladder.marks.mp handed).resolve_right fun waits => by cases still _ waits
  rcases inv.closes ⟨by simp [wireComplete, sent, received], empty⟩ with now | waits | waits
    | called
  · exact Or.inl (inv.ladder.closed.mpr (Or.inl now))
  · cases still _ waits
  · rcases settled.only inv.ladder.rules _ waits with writes | same | cancels
    · cases writes
    · cases same
    · cases cancels
  · exact Or.inr called

/-- **A handle that is dropped once both halves have ended strands nothing.** In every such run on a
healthy connection: a writer task that has stopped has handed over a terminal frame; and once the
handle is dropped, the write half is decided, nothing is left unread and every byte received is
counted as consumed, the writer task hands over the terminal frame, and the STOP_SENDING of a peer
that has not ended, and a stream that is wire-complete closes its channel and retires. -/
theorem dropped_finished {flow : ConnFlow} {peerInitiated isOpen : Bool} {labels : List Label}
    (ran : Lib.run WebrtcStream.step (start flow peerInitiated isOpen) labels = some t)
    (orderly : Meets WebrtcStream.step Orderly (start flow peerInitiated isOpen) labels)
    (healthy : t.shared.isTeardown = false) :
    (t.shared.writerGone = true → Ended t.shared) ∧
    (t.shared.handleDropped = true →
      t.shared.localTerminal.isSome = true ∧ t.shared.inbuf = [] ∧
      (t.shared.dcOpen = true → WebrtcStream.step t (.run 1) = none →
        Ended t.shared ∧
        (t.shared.peerEnded = true ∨ ∃ code, .stopSending code ∈ t.shared.frames)) ∧
      (Meets WebrtcStream.step Steady (start flow peerInitiated isOpen) labels → ReadIdle t →
        ∀ s, entry t = some s → s.received = s.consumed) ∧
      (Settled t → Ended t.shared → t.shared.peerEnded = true →
        (t.shared.dc.readyState = .closed ∨ .close ∈ t.shared.dc.calls) ∧
        (t.shared.dc.readyState = .closed → t.shared.retired = 1))) := by
  have inv : DropInv t :=
    run_invariant_of_meets (fun _ _ _ here inv stepped => DropInv.step inv here stepped)
    orderly (dropInv_start flow peerInitiated isOpen) ran
  refine ⟨fun gone => (inv.ended healthy gone).1, fun dropped => ?_⟩
  have empty : t.shared.inbuf = [] := by
    rcases inv.drained dropped with cancelled | ⟨-, empty⟩
    · exact (readInv_of_run ran).empty cancelled
    · exact empty
  refine ⟨inv.decided healthy dropped, empty, fun opened stuck => ?_, fun steady idle s found => ?_,
    fun settled handed received => ⟨inv.channel.closed settled handed received empty,
      fun closed => ?_⟩⟩
  · exact inv.ended healthy (inv.channel.gone opened dropped stuck)
  · have settled := (count_of_steady steady ran).settled s found
    have none : t.shared.buffered = 0 := by
      unfold buffered
      rw [empty]
      rfl
    rw [idle.weight, none, add_zero] at settled
    exact settled.trans (add_zero _)
  · exact inv.channel.ladder.retired_of_settled settled ⟨handed, received, closed, empty⟩

/-- A write, a `close`, the drop, and the writer task until it stops; then the peer's RESET, and the
channel is closed. -/
def closesAndDrops : List Label :=
  [.call (.pollWrite [1, 2]), .run 2, .run 2, .run 2, .call .close] ++ List.replicate 8 (.run 2) ++
    [.call .drop, .run 2, .run 2] ++ List.replicate 21 (.run 1) ++
    [.message [2, 0, 0, 0, 1], .run 0, .run 0, .run 3, .channelClosed] ++ List.replicate 7 (.run 0)

theorem dropped_finished_closesAndDrops : ∃ t,
    Lib.run WebrtcStream.step (start granted true true) closesAndDrops = some t ∧
      t.shared.frames = [.stopSending .closed, .data [1, 2], .fin] ∧ t.shared.inbuf = [] ∧
      t.shared.retired = 1 := by
  have drops : (Lib.run WebrtcStream.step (start granted true true) closesAndDrops).any (fun t =>
      decide
        (t.shared.isTeardown = false ∧ t.shared.handleDropped = true ∧ Settled t ∧ Ended t.shared ∧
        t.shared.peerEnded = true ∧ t.shared.dc.readyState = .closed ∧
        t.shared.frames = [.stopSending .closed, .data [1, 2], .fin])) = true := by
    decide +kernel
  obtain ⟨t, ran, facts⟩ := (Option.any_eq_true _ _).mp drops
  obtain ⟨healthy, dropped, settled, handed, received, closed, frames⟩ := of_decide_eq_true facts
  have orderly : Meets WebrtcStream.step Orderly (start granted true true) closesAndDrops := by
    decide +kernel
  obtain ⟨-, empty, -, -, retires⟩ := (dropped_finished ran orderly healthy).2 dropped
  exact ⟨t, ran, frames, empty, (retires settled handed received).2 closed⟩

/-- DATA arrives, the handle is dropped, the writer task stops, and a STOP_SENDING arrives. -/
def dropsOpen : List Label :=
  [.message [0, 1, 2, 3], .run 0, .run 0, .run 0, .call .drop, .run 2, .run 2] ++
    List.replicate 4 (.run 1) ++ [.message stopSending] ++ List.replicate 4 (.run 0)

/-- **A handle that is dropped before both halves have ended strands the stream**: the writer task
has stopped on an open channel, the RESET that answers the STOP_SENDING is decided and never handed
over, and the bytes that were not read stay buffered and are not counted as consumed. -/
theorem dropped_stranded : ∃ t s,
    Lib.run WebrtcStream.step (start granted true true) dropsOpen = some t ∧
      t.shared.dc.readyState = .opened ∧ t.shared.isTeardown = false ∧ t.shared.fatals = [] ∧
      t.shared.handleDropped = true ∧ t.pool = [[], [], []] ∧ t.shared.writerGone = true ∧
      t.shared.peerStop = some ⟨.cancelled, true⟩ ∧ t.shared.localTerminal = some .reset ∧
      t.shared.frames = [] ∧ t.shared.inbuf = [[1, 2, 3]] ∧
      entry t = some s ∧ s.received = 3 ∧ s.consumed = 0 := by
  have drops : (Lib.run WebrtcStream.step (start granted true true) dropsOpen).any (fun t =>
      decide
        (t.shared.dc.readyState = .opened ∧ t.shared.isTeardown = false ∧ t.shared.fatals = [] ∧
        t.shared.handleDropped = true ∧ t.pool = [[], [], []] ∧ t.shared.writerGone = true ∧
        t.shared.peerStop = some ⟨.cancelled, true⟩ ∧ t.shared.localTerminal = some .reset ∧
        t.shared.frames = [] ∧ t.shared.inbuf = [[1, 2, 3]]) &&
      (entry t).any fun s => decide (s.received = 3 ∧ s.consumed = 0)) = true := by
    decide +kernel
  obtain ⟨t, ran, both⟩ := (Option.any_eq_true _ _).mp drops
  obtain ⟨facts, counts⟩ := (Bool.and_eq_true _ _).mp both
  obtain ⟨s, found, counts⟩ := (Option.any_eq_true _ _).mp counts
  obtain ⟨opened, healthy, fatals, dropped, idle, gone, stop, decided, frames, unread⟩ :=
    of_decide_eq_true facts
  obtain ⟨received, consumed⟩ := of_decide_eq_true counts
  exact ⟨t, s, ran, opened, healthy, fatals, dropped, idle, gone, stop, decided, frames, unread,
    found, received, consumed⟩

end WebrtcStream

end Kps.Rust
