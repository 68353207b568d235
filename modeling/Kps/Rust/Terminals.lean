/-
**A decided terminal frame reaches its queue.**

`close_write` sets `local_terminal` before it waits for room in the DATA queue, and `poll_shutdown`
takes its FIN back when there is no room.

* `Outbound.Whole.step` — a step that loses no frame it owes keeps every decision on its way;
* `terminal_queued` — so a decision has exactly one frame, in every run in which no future that
  waits for room is dropped and no FIN is taken back after a STOP_SENDING;
* `terminal_lost` — and it has none after a `close_write` that timed out.
-/

import Kps.Rust.StreamFrame
import Kps.Rust.StreamWriter

namespace Kps.Rust

open Kps.Lib

namespace Outbound

/-- The frames of a kind that are queued, on their way to the transport, or handed to it. -/
def queued (kind : Terminal) (o : Outbound) : Nat :=
  (o.sent ++ o.pc.held ++ o.data).countP (ends kind) +
    (o.pc.lifecycle ++ o.life).countP fun frame => ends kind frame.frame

/-- Every decision has its frame, or owes it, unless the writer stops. -/
def Whole (o : Outbound) : Prop :=
  ∀ kind, o.terminal = some kind → o.pc = .gone ∨ 1 ≤ o.tokens kind

/-- A frame that is owed no more was queued, taken back, or owed to a writer that has stopped. -/
structure Pays (o o' : Outbound) : Prop where
  fin : o.ending = true → o'.ending = true ∨ o'.terminal = none ∨ o'.data = o.data ++ [.fin] ∨
    o.stopped = true
  reset : o.resetting ≤ o'.resetting ∨ (∃ code, o'.life = o.life ++ [.reset code]) ∨
    o.stopped = true

variable {o o' : Outbound}

theorem Whole.keep (whole : Whole o) (terminal : o'.terminal = o.terminal)
    (pc : o.pc = .gone → o'.pc = .gone)
    (tokens : ∀ kind, o.tokens kind ≤ o'.tokens kind) : Whole o' := by
  intro kind decided
  rw [terminal] at decided
  exact (whole kind decided).imp pc fun has => le_trans has (tokens kind)

theorem Whole.gone (gone : o'.pc = .gone) : Whole o' := fun _ _ => Or.inl gone

/-- **A step that loses no frame keeps the decisions on their way.** -/
theorem Whole.step (handed : Handed o) (whole : Whole o) (pays : Pays o o') (step : Step o o') :
    Whole o' := by
  cases step with
  | endWrite undecided free =>
    intro kind decided
    cases decided
    refine Or.inr ?_
    rw [tokens_fin]
    simp
  | undo owed => exact fun kind decided => by cases decided
  | abandon =>
    cases owed : o.ending with
    | false =>
      refine whole.keep rfl id fun kind => ?_
      cases kind with
      | fin => simp [tokens_fin, owed]
      | reset => simp [tokens_reset]
    | true =>
      rcases pays.fin owed with now | none | queued | stopped
      · cases now
      · exact fun kind decided => by rw [none] at decided; cases decided
      · simp at queued
      · exact .gone (handed.stopped stopped)
  | queueFin owed =>
    refine whole.keep rfl id fun kind => ?_
    cases kind with
    | fin =>
      simp only [tokens_fin, owed, List.countP_append, List.countP_singleton, if_pos fin_ends,
        Bool.toNat_true, Bool.toNat_false]
      omega
    | reset =>
      simp only [tokens_reset, List.countP_append]
      omega
  | reset undecided =>
    intro kind decided
    cases decided
    refine Or.inr ?_
    simp only [tokens_reset]
    omega
  | queueReset code n owed =>
    refine whole.keep rfl id fun kind => ?_
    cases kind with
    | fin => simp [tokens_fin]
    | reset =>
      have one : ends .reset (LifeFrame.reset code).frame = true := rfl
      simp only [tokens_reset, owed, List.countP_append, List.countP_singleton, if_pos one]
      omega
  | loseReset n owed =>
    rcases pays.reset with more | ⟨code, queued⟩ | stopped
    · simp only [owed] at more
      omega
    · simp at queued
    · exact .gone (handed.stopped stopped)
  | queueLife frame other =>
    refine whole.keep rfl id fun kind => ?_
    cases kind with
    | fin => simp [tokens_fin]
    | reset =>
      simp only [tokens_reset, List.countP_append]
      omega
  | admits undecided => exact whole.keep rfl id fun kind => by cases kind <;> exact le_refl _
  | refuse => exact whole.keep rfl id fun kind => by cases kind <;> exact le_refl _
  | accept bytes admitted =>
    refine whole.keep rfl id fun kind => ?_
    cases kind with
    | fin =>
      simp only [tokens_fin, List.countP_append]
      omega
    | reset =>
      simp only [tokens_reset, List.countP_append]
      omega
  | acceptLost bytes admitted stopped =>
    exact whole.keep rfl id fun kind => by cases kind <;> exact le_refl _
  | takeLife frame rest idle next =>
    refine whole.keep rfl (fun gone => by rw [idle] at gone; cases gone) fun kind => ?_
    cases kind with
    | fin =>
      simp only [tokens_fin, idle]
      exact le_refl _
    | reset =>
      simp only [tokens_reset, idle, next, WriterPc.lifecycle, WriterPc.held, List.countP_cons,
        List.countP_nil]
      omega
  | sendLife frame holds =>
    refine whole.keep rfl (fun gone => by rw [holds] at gone; cases gone) fun kind => ?_
    cases kind with
    | fin => simp [tokens_fin, holds, WriterPc.held, life_not_fin]
    | reset =>
      simp only [tokens_reset, holds, WriterPc.lifecycle, WriterPc.held, List.countP_append,
        List.countP_cons, List.countP_nil]
      omega
  | takeData frame rest idle next =>
    refine whole.keep rfl (fun gone => by rw [idle] at gone; cases gone) fun kind => ?_
    cases kind with
    | fin =>
      simp only [tokens_fin, idle, next, WriterPc.held, List.countP_cons, List.countP_nil]
      omega
    | reset =>
      simp only [tokens_reset, idle, next, WriterPc.lifecycle, WriterPc.held, List.countP_cons,
        List.countP_nil]
      omega
  | discard frame holds dropping data =>
    have quiet (kind : Terminal) : ends kind frame = false := by
      cases frame <;> cases kind <;> first | rfl | cases data
    refine whole.keep rfl (fun gone => by rw [holds] at gone; cases gone) fun kind => ?_
    cases kind with
    | fin => simp [tokens_fin, holds, WriterPc.held, quiet]
    | reset => simp [tokens_reset, holds, WriterPc.held, WriterPc.lifecycle, quiet]
  | pass frame holds kept =>
    refine whole.keep rfl (fun gone => by rw [holds] at gone; cases gone) fun kind => ?_
    cases kind with
    | fin =>
      simp only [tokens_fin, holds]
      exact le_refl _
    | reset =>
      simp only [tokens_reset, holds]
      exact le_refl _
  | sendData frame holds =>
    refine whole.keep rfl (fun gone => by rw [holds] at gone; cases gone) fun kind => ?_
    cases kind with
    | fin =>
      simp only [tokens_fin, holds, WriterPc.held, List.countP_append, List.countP_nil]
      omega
    | reset =>
      simp only [tokens_reset, holds, WriterPc.lifecycle, WriterPc.held, List.countP_append,
        List.countP_nil]
      omega
  | stop => exact .gone rfl
  | clear gone => exact .gone gone

/-- A decision that owes nothing has exactly one frame, of its kind. -/
theorem queued_iff (decided : Decided o) (whole : Whole o) (alive : o.pc ≠ .gone)
    (paid : o.ending = false ∧ o.resetting = 0) (kind : Terminal) :
    o.terminal = some kind ↔ o.queued kind = 1 := by
  have same : o.tokens kind = o.queued kind := by
    unfold tokens queued
    cases kind with
    | fin => simp [paid.1]
    | reset => simp [paid.2]
  have fins := decided.fins
  have resets := decided.resets
  rw [← same]
  constructor
  · intro terminal
    have has := (whole kind terminal).resolve_left alive
    cases kind with
    | fin =>
      rw [if_pos terminal] at fins
      omega
    | reset =>
      rw [if_pos terminal] at resets
      omega
  · intro one
    by_contra other
    cases kind with
    | fin =>
      rw [if_neg other] at fins
      omega
    | reset =>
      rw [if_neg other] at resets
      omega

end Outbound

namespace WebrtcStream

variable {s : WebrtcStream} {op : StreamSection} {e : Effect WebrtcStream StreamSection}
  {writer application : Option StreamSection} {resetting : Nat}

/-! ### What a section pays -/

theorem pollPermit_closed (closed : s.pollPermit.dataPollTx = .closed) :
    s.writerGone = true ∨ s.dataPollTx = .closed := by
  unfold pollPermit at closed
  split at closed
  · split at closed
    · next gone => exact Or.inl gone
    split at closed <;> cases closed
  · split at closed
    · next gone => exact Or.inl gone
    split at closed
    · cases closed
    · exact Or.inr closed
  · exact Or.inr closed
  · next shut => exact Or.inr shut

theorem exec_closed (ran : s.exec op = some e)
    (closed : s.dataPollTx = .closed → s.writerGone = true) :
    e.shared.dataPollTx = .closed → e.shared.writerGone = true := by
  by_cases queues : op.queues = false
  · have same := (exec_leaves ran).queueing queues
    simp only [queueing, Prod.mk.injEq] at same
    rw [same.2.2.1, same.2.2.2.1]
    exact closed
  · have permits : s.pollPermit.dataPollTx = .closed → s.writerGone = true :=
      fun shut => (pollPermit_closed shut).elim (fun gone => gone) closed
    cases op with
    | selectData =>
      simp only [exec, selectData] at ran
      split at ran
      · unfold freePermit at ran
        split at ran <;> cases ran
        · exact fun shut => by cases shut
        · exact closed
      split at ran
      · cases ran
        exact closed
      split at ran
      · cases ran
        exact closed
      · cases ran
    | writerEnd =>
      cases ran
      exact fun _ => rfl
    | queueData buf =>
      simp only [exec, queueData] at ran
      rw [pollPermit_eq] at ran
      dsimp only at ran
      split at ran
      · next shut =>
        cases ran
        exact fun _ => permits shut
      · split at ran <;> cases ran
        · exact fun shut => by cases shut
        · next ready _ =>
          intro shut
          change s.pollPermit.dataPollTx = .closed at shut
          rw [ready] at shut
          cases shut
      · cases ran
        exact permits
    | reserveFin =>
      simp only [exec, reserveFin] at ran
      rw [pollPermit_eq] at ran
      dsimp only at ran
      split at ran
      · next shut =>
        cases ran
        exact fun _ => permits shut
      · cases ran
        exact fun shut => by cases shut
      · cases ran
        exact permits
    | sendFin =>
      simp only [exec] at ran
      split at ran
      · cases ran
        exact closed
      split at ran
      · cases ran
        exact closed
      · cases ran
    | _ => exact absurd rfl queues

/-- A RESET that is about to be queued is queued, unless the writer has stopped. -/
theorem exec_pays_reset (ran : s.exec op = some e) :
    (view s writer application resetting).resetting ≤
        (viewAfter op e writer application resetting).resetting ∨
      (∃ code, (viewAfter op e writer application resetting).life =
        (view s writer application resetting).life ++ [.reset code]) ∨
      (view s writer application resetting).stopped = true := by
  by_cases queues : op.queuesReset = true
  · cases op with
    | lifeSend frame =>
      cases frame with
      | reset code =>
        simp only [exec] at ran
        split at ran
        · next gone => exact Or.inr (Or.inr gone)
        · cases ran
          exact Or.inr (Or.inl ⟨code, rfl⟩)
      | stopSending code => cases queues
      | maxStreamData v => cases queues
    | _ => cases queues
  · refine Or.inl ?_
    show resetting ≤ resetting + e.next.countP StreamSection.queuesReset -
      if op.queuesReset then 1 else 0
    rw [if_neg queues]
    omega

/-- **A section pays what it owes.** -/
theorem exec_pays (ran : s.exec op = some e) (stands : Stands s op writer application resetting)
    (closed : s.dataPollTx = .closed → s.writerGone = true) :
    Outbound.Pays (view s writer application resetting)
      (viewAfter op e writer application resetting) := by
  refine ⟨fun owed => ?_, exec_pays_reset ran⟩
  change StreamSection.owesFin application = true at owed
  by_cases owned : ownedBy .application op = true
  · rw [stands.atApplication owned] at owed
    cases op with
    | reserveFin =>
      have permits : s.pollPermit.dataPollTx = .closed → s.writerGone = true :=
        fun shut => (pollPermit_closed shut).elim (fun gone => gone) closed
      simp only [exec, reserveFin] at ran
      rw [pollPermit_eq] at ran
      dsimp only at ran
      split at ran
      · next shut => exact Or.inr (Or.inr (Or.inr (permits shut)))
      · cases gone : s.writerGone with
        | true => exact Or.inr (Or.inr (Or.inr gone))
        | false =>
          cases ran
          refine Or.inr (Or.inr (Or.inl ?_))
          simp [viewAfter, view, returnFinish, sendItem, gone]
      · cases ran
        exact Or.inl rfl
    | undoFin =>
      cases ran
      exact Or.inr (Or.inl rfl)
    | sendFin =>
      simp only [exec] at ran
      split at ran
      · next gone => exact Or.inr (Or.inr (Or.inr gone))
      split at ran
      · cases ran
        refine Or.inr (Or.inr (Or.inl ?_))
        simp [viewAfter, view, returnFinish]
      · cases ran
    | _ => cases owed
  · refine Or.inl ?_
    show StreamSection.owesFin (if ownedBy .application op then _ else application) = true
    rw [if_neg owned]
    exact owed

/-- A STOP_SENDING that was received has decided how the write half ends. -/
def Answered (s : WebrtcStream) : Prop := s.peerStop.isSome = true → s.localTerminal.isSome = true

/-- Only taking a FIN back leaves a STOP_SENDING without a decision. -/
theorem exec_answered (ran : s.exec op = some e) (answered : Answered s)
    (keeps : op = .undoFin → s.peerStop = none) : Answered e.shared := by
  unfold Answered at answered ⊢
  by_cases decides : op.decides = false
  · have same := (exec_leaves ran).ending decides
    simp only [ending, Prod.mk.injEq] at same
    rw [same.1, same.2.2]
    exact answered
  · cases op with
    | onFrame data =>
      simp only [exec, onFrame] at ran
      split at ran
      · cases ran
        exact answered
      · split at ran <;> cases ran <;> exact answered
      · split at ran <;> cases ran <;> exact answered
      · split at ran <;> cases ran <;> exact answered
      · split at ran
        · cases ran
          exact answered
        · split at ran
          · cases ran
            exact fun _ => rfl
          · next decided =>
            cases ran
            intro _
            show s.localTerminal.isSome = true
            cases at' : s.localTerminal with
            | none =>
              rw [at'] at decided
              exact absurd rfl decided
            | some kind => rfl
      · cases ran
        exact answered
    | pollShutdown =>
      simp only [exec] at ran
      split at ran <;> cases ran
      · exact answered
      · exact fun _ => rfl
    | undoFin =>
      cases ran
      intro stopped
      change s.peerStop.isSome = true at stopped
      rw [keeps rfl] at stopped
      cases stopped
    | closeWrite =>
      simp only [exec] at ran
      split at ran <;> cases ran
      · exact answered
      · exact fun _ => rfl
    | resetWrite code =>
      simp only [exec] at ran
      split at ran <;> cases ran
      · exact answered
      · exact fun _ => rfl
    | _ => exact absurd rfl decides

/-! ### Runs -/

/-- The writer task has not stopped, and is not about to. -/
def WriterAlive (t : Tasks) : Prop := (outbound t).pc ≠ .gone

instance (t : Tasks) : Decidable (WriterAlive t) :=
  inferInstanceAs (Decidable ((outbound t).pc ≠ .gone))

/-- The thread is about to take its FIN back. -/
def takesBack (t : Tasks) (thread : Nat) : Bool :=
  match t.pool[thread]? with
  | some (.undoFin :: _) => true
  | _ => false

/-- No future that waits for room is dropped while the writer is alive, and no FIN is taken back
after a STOP_SENDING. -/
def Kept (t : Tasks) : Label → Prop
  | .dropFuture => ¬ WriterAlive t
  | .run thread => takesBack t thread = true → t.shared.peerStop = none
  | _ => True

instance (t : Tasks) : (label : Label) → Decidable (Kept t label)
  | .dropFuture => inferInstanceAs (Decidable (¬ WriterAlive t))
  | .run thread =>
    inferInstanceAs (Decidable (takesBack t thread = true → t.shared.peerStop = none))
  | .call _ => .isTrue trivial
  | .channelOpen => .isTrue trivial
  | .message _ => .isTrue trivial
  | .channelClosed => .isTrue trivial
  | .buffered _ => .isTrue trivial
  | .credit _ => .isTrue trivial
  | .teardown => .isTrue trivial

/-- The invariant of the decisions. -/
structure TerminalInv (t : Tasks) : Prop where
  writer : WriterInv t
  closed : t.shared.dataPollTx = .closed → t.shared.writerGone = true
  whole : (outbound t).Whole
  answered : Answered t.shared

theorem gone_stays {o o' : Outbound} (moves : Moves o o') (gone : o.pc = .gone) :
    o'.pc = .gone := by
  rcases moves with rfl | step
  · exact gone
  · cases step <;> first | exact gone | rfl | (rw [gone] at *; contradiction)

/-- The application, the transport and the connection leave the queues and the decisions. -/
theorem step_leaves {t t' : Tasks} {label : Label} (stepped : WebrtcStream.step t label = some t')
    (notRun : ∀ thread, label ≠ .run thread) :
    t'.shared.queueing = t.shared.queueing ∧ t'.shared.ending = t.shared.ending :=
  ⟨(congrArg queueing (step_shared stepped notRun)).trans rfl,
    (congrArg ending (step_shared stepped notRun)).trans rfl⟩

/-- **One step that is kept keeps the decisions.** -/
theorem TerminalInv.step {t t' : Tasks} {label : Label} (inv : TerminalInv t) (kept : Kept t label)
    (stepped : WebrtcStream.step t label = some t') : TerminalInv t' := by
  have writer := inv.writer.step stepped
  have moves := step_moves inv.writer.rules stepped
  by_cases runs : ∃ thread, label = .run thread
  · obtain ⟨thread, rfl⟩ := runs
    obtain ⟨op, rest, e, top, ran, rfl⟩ := Threads.advance_eq_some.mp stepped
    have stands := inv.writer.rules.stands top
    refine ⟨writer, exec_closed ran inv.closed, ?_, exec_answered ran inv.answered fun undoes => ?_⟩
    · have pays := exec_pays ran stands inv.closed
      rw [← outbound_run inv.writer.rules top ran] at pays
      rcases moves with same | step
      · rw [same]
        exact inv.whole
      · exact inv.whole.step inv.writer.handed pays step
    · subst undoes
      refine kept ?_
      unfold takesBack
      rw [top]
  · have notRun : ∀ thread, label ≠ .run thread := fun thread same => runs ⟨thread, same⟩
    obtain ⟨queueing, ending⟩ := step_leaves stepped notRun
    simp only [WebrtcStream.queueing, WebrtcStream.ending, Prod.mk.injEq] at queueing ending
    refine ⟨writer, ?_, ?_, ?_⟩
    · rw [queueing.2.2.1, queueing.2.2.2.1]
      exact inv.closed
    · by_cases drops : label = .dropFuture
      · subst drops
        exact .gone (gone_stays moves (not_not.mp kept))
      · rw [step_still inv.writer.rules stepped notRun drops]
        exact inv.whole
    · unfold Answered
      rw [ending.1, ending.2.2]
      exact inv.answered

theorem terminalInv_start (flow : ConnFlow) (peerInitiated isOpen : Bool) :
    TerminalInv (start flow peerInitiated isOpen) :=
  ⟨writerInv_start flow peerInitiated isOpen, fun shut => (by cases shut),
    fun _ decided => (by cases decided), fun stopped => (by cases stopped)⟩

/-- No method is between its decision and its frame, and no RESET is about to be queued. -/
def Resting (t : Tasks) : Prop :=
  ∀ op ∈ t.pending, StreamSection.owesFin (some op) = false ∧ op.queuesReset = false

instance (t : Tasks) : Decidable (Resting t) := inferInstanceAs (Decidable (∀ op ∈ t.pending, _))

theorem Resting.paid {t : Tasks} (resting : Resting t) :
    (outbound t).ending = false ∧ (outbound t).resetting = 0 := by
  constructor
  · show StreamSection.owesFin (t.control (ownedBy .application)) = false
    cases at' : t.control (ownedBy .application) with
    | none => rfl
    | some op => exact (resting op (Threads.mem_of_control at').1).1
  · exact List.countP_eq_zero.mpr fun op member => by simp [(resting op member).2]

/-- **A decided terminal frame reaches its queue**: in every run in which no future that waits for
room is dropped and no FIN is taken back after a STOP_SENDING, while the writer task is alive and
nothing is between a decision and its frame, a kind is decided exactly when one frame of that kind
is queued or was handed to the transport; and a STOP_SENDING that was received has such a frame. -/
theorem terminal_queued {flow : ConnFlow} {peerInitiated isOpen : Bool} {labels : List Label}
    {t : Tasks} (kept : Meets WebrtcStream.step Kept (start flow peerInitiated isOpen) labels)
    (ran : Lib.run WebrtcStream.step (start flow peerInitiated isOpen) labels = some t)
    (alive : WriterAlive t) (resting : Resting t) :
    (∀ kind, t.shared.localTerminal = some kind ↔ (outbound t).queued kind = 1) ∧
      (t.shared.peerStop.isSome = true → ∃ kind, (outbound t).queued kind = 1) := by
  have inv : TerminalInv t := run_invariant_of_meets
    (fun _ _ _ kept inv stepped => TerminalInv.step inv kept stepped) kept
    (terminalInv_start flow peerInitiated isOpen) ran
  have exact' (kind : Terminal) : t.shared.localTerminal = some kind ↔
      (outbound t).queued kind = 1 :=
    Outbound.queued_iff inv.writer.decided inv.whole alive resting.paid kind
  refine ⟨exact', fun stopped => ?_⟩
  obtain ⟨kind, decided⟩ := Option.isSome_iff_exists.mp (inv.answered stopped)
  exact ⟨kind, (exact' kind).mp decided⟩

/-- A `close_write`, up to the `maybe_retire` after its FIN is queued. -/
def closesWrite : List Label := .call .closeWrite :: List.replicate 4 (.run 2)

theorem terminal_queued_closesWrite : ∃ t,
    Lib.run WebrtcStream.step (start granted true true) closesWrite = some t ∧
      t.shared.localTerminal = some .fin ∧
      (∀ kind, t.shared.localTerminal = some kind ↔ (outbound t).queued kind = 1) ∧
        (t.shared.peerStop.isSome = true → ∃ kind, (outbound t).queued kind = 1) := by
  have closes : (Lib.run WebrtcStream.step (start granted true true) closesWrite).any
      (fun t => decide (WriterAlive t ∧ Resting t ∧ t.shared.localTerminal = some .fin)) =
        true := by
    decide +kernel
  obtain ⟨t, ran, facts⟩ := (Option.any_eq_true _ _).mp closes
  obtain ⟨alive, resting, decided⟩ := of_decide_eq_true facts
  exact ⟨t, ran, decided, terminal_queued (by decide +kernel) ran alive resting⟩

/-- A peer that grants more than the queue holds in frames of one byte. -/
def ample : ConnFlow := ConnFlow.onPeerHello ⟨64, 64, 8⟩ (.new defaultFlowLimits)

/-- Writes that fill the DATA queue, before the writer task runs. -/
def fillsQueue : List Label :=
  (List.replicate 32 [.call (.pollWrite [1]), .run 2, .run 2, .run 2]).flatten

/-- The queue is full, and a `close_write` times out. -/
def closeTimesOut : List Label := fillsQueue ++ [.call .closeWrite, .run 2, .run 2, .dropFuture]

/-- The queue is full, and a STOP_SENDING arrives while `poll_shutdown` takes its FIN back. -/
def stopWhileUndoing : List Label :=
  fillsQueue ++ [.call .pollShutdown, .run 2, .message [3, 0, 0, 0, 1], .run 0, .run 0, .run 2,
    .run 2]

/-- **A decided FIN is lost** when `close_write` times out, **and a STOP_SENDING is not answered**
when it arrives before a FIN is taken back. -/
theorem terminal_lost :
    (∃ t, Lib.run WebrtcStream.step (start ample true true) closeTimesOut = some t ∧
      WriterAlive t ∧ Resting t ∧
      ¬(t.shared.localTerminal = some .fin ↔ (outbound t).queued .fin = 1)) ∧
    ∃ t, Lib.run WebrtcStream.step (start ample true true) stopWhileUndoing = some t ∧
      WriterAlive t ∧ Resting t ∧ t.shared.peerStop.isSome = true ∧
      (outbound t).queued .fin = 0 ∧ (outbound t).queued .reset = 0 := by
  have loses : (Lib.run WebrtcStream.step (start ample true true) closeTimesOut).any
      (fun t => decide (WriterAlive t ∧ Resting t ∧
        ¬(t.shared.localTerminal = some .fin ↔ (outbound t).queued .fin = 1))) = true := by
    decide +kernel
  have ignores : (Lib.run WebrtcStream.step (start ample true true) stopWhileUndoing).any
      (fun t => decide (WriterAlive t ∧ Resting t ∧ t.shared.peerStop.isSome = true ∧
        (outbound t).queued .fin = 0 ∧ (outbound t).queued .reset = 0)) = true := by
    decide +kernel
  obtain ⟨lost, lost_ran, loses⟩ := (Option.any_eq_true _ _).mp loses
  obtain ⟨ignored, ignored_ran, ignores⟩ := (Option.any_eq_true _ _).mp ignores
  exact ⟨⟨lost, lost_ran, of_decide_eq_true loses⟩,
    ⟨ignored, ignored_ran, of_decide_eq_true ignores⟩⟩

end WebrtcStream

end Kps.Rust
