/-
**What STOP_SENDING and `reset_write` discard.**

Both decide a RESET and set `drop_data`, unless `local_terminal` is set already. The writer task
samples `drop_data` when it takes an entry of the DATA queue, before it waits for room in the send
buffer.

* `Outbound.Discarding.step` — once a RESET is decided and the writer holds no DATA that passed, no
  DATA is handed to the transport any more;
* `queue_discarded` — so after a STOP_SENDING or a `reset_write` that comes before a FIN is decided,
  and while the writer holds no such DATA, the queue is discarded, its credit is released and the
  terminal frame is RESET;
* `queue_not_discarded` — a queued FIN is sent after a STOP_SENDING, and so is DATA that waits for
  room.
-/

import Kps.Rust.Reservations
import Kps.Rust.Terminals

namespace Kps.Rust

open Kps.Lib

namespace Outbound

variable {o o' : Outbound}

/-- A RESET that was decided has its frame, or owes it, unless the writer stops. -/
def Resets (o : Outbound) : Prop := o.terminal = some .reset → o.pc = .gone ∨ 1 ≤ o.tokens .reset

/-- A RESET that is about to be queued is queued, unless the writer has stopped. -/
def PaysReset (o o' : Outbound) : Prop :=
  o.resetting ≤ o'.resetting ∨ (∃ code, o'.life = o.life ++ [.reset code]) ∨ o.stopped = true

theorem Decided.not_ending (decided : Decided o) (terminal : o.terminal = some .reset) :
    o.ending = false := by
  by_contra owed
  have owes : 0 < o.tokens .fin := by
    simp only [tokens_fin, Bool.not_eq_false _ ▸ owed, Bool.toNat_true]
    omega
  rw [(decided.ended owes).1] at terminal
  cases terminal

/-- A decided RESET stays decided. -/
theorem Step.terminal (step : Step o o') (decided : Decided o)
    (terminal : o.terminal = some .reset) :
    o'.terminal = some .reset := by
  cases step with
  | endWrite undecided free =>
    rw [terminal] at undecided
    cases undecided
  | undo owed =>
    rw [decided.not_ending terminal] at owed
    cases owed
  | reset undecided => rfl
  | _ => exact terminal

theorem Resets.step (decided : Decided o) (handed : Handed o) (resets : Resets o)
    (pays : PaysReset o o') (step : Step o o') : Resets o' := by
  intro terminal'
  by_cases terminal : o.terminal = some .reset
  · have whole : Whole o := fun kind same => by
      rw [terminal] at same
      cases same
      exact resets terminal
    have all : Pays o o' := by
      refine ⟨fun owed => ?_, pays⟩
      rw [decided.not_ending terminal] at owed
      cases owed
    exact whole.step handed all step .reset terminal'
  · cases step with
    | endWrite undecided free => cases terminal'
    | undo owed => cases terminal'
    | reset undecided =>
      refine Or.inr ?_
      simp only [tokens_reset]
      omega
    | _ => exact absurd terminal' terminal

/-- A RESET is decided, and the writer holds no DATA that passed. -/
structure Discarding (o : Outbound) : Prop where
  terminal : o.terminal = some .reset
  sampled : ∀ frame ∈ o.pc.passed, isData frame = false

/-- **No DATA is handed to the transport any more.** -/
theorem Discarding.step (decided : Decided o) (discarding : Discarding o) (step : Step o o') :
    Discarding o' ∧ ∃ new, o'.sent = o.sent ++ new ∧ ∀ frame ∈ new, isData frame = false := by
  have terminal := step.terminal decided discarding.terminal
  have dropping : o.dropping = true := decided.dropping.mpr discarding.terminal
  have none : ∀ frame ∈ ([] : List ParsedFrame), isData frame = false :=
    fun _ member => absurd member List.not_mem_nil
  have same (sent : o'.sent = o.sent) (passed : o'.pc.passed = o.pc.passed) :
      Discarding o' ∧ ∃ new, o'.sent = o.sent ++ new ∧ ∀ frame ∈ new, isData frame = false :=
    ⟨⟨terminal, passed ▸ discarding.sampled⟩, [], by rw [sent, List.append_nil], none⟩
  have idle (sent : o'.sent = o.sent) (passed : o'.pc.passed = []) :
      Discarding o' ∧ ∃ new, o'.sent = o.sent ++ new ∧ ∀ frame ∈ new, isData frame = false :=
    ⟨⟨terminal, passed ▸ none⟩, [], by rw [sent, List.append_nil], none⟩
  cases step with
  | takeLife frame rest idle' next => exact idle rfl rfl
  | sendLife frame holds =>
    refine ⟨⟨terminal, none⟩, [frame.frame], rfl, fun sent member => ?_⟩
    rw [List.mem_singleton.mp member]
    exact life_not_data frame
  | takeData frame rest idle' next => exact idle rfl rfl
  | discard frame holds dropping isData => exact idle rfl rfl
  | pass frame holds kept =>
    refine ⟨⟨terminal, fun passed member => ?_⟩, [], by rw [List.append_nil], none⟩
    rw [dropping, Bool.true_and] at kept
    rw [List.mem_singleton.mp member]
    exact kept
  | sendData frame holds =>
    refine ⟨⟨terminal, none⟩, [frame], rfl, fun sent member => ?_⟩
    rw [List.mem_singleton.mp member]
    exact discarding.sampled frame (by simp [holds, WriterPc.passed])
  | stop => exact idle rfl rfl
  | _ => exact same rfl rfl

/-- The frames that are queued, on their way to the transport, or handed to it. -/
def onWay (o : Outbound) : List ParsedFrame :=
  o.sent ++ o.pc.held ++ o.data ++ (o.pc.lifecycle ++ o.life).map LifeFrame.frame

theorem mem_onWay {frame : ParsedFrame} : frame ∈ o.onWay ↔
    frame ∈ o.sent ∨ frame ∈ o.pc.held ∨ frame ∈ o.data ∨
      (∃ other ∈ o.pc.lifecycle, other.frame = frame) ∨ ∃ other ∈ o.life, other.frame = frame := by
  simp only [onWay, List.map_append, List.mem_append, List.mem_map, or_assoc]

theorem frame_injective {frame other : LifeFrame} (same : frame.frame = other.frame) :
    frame = other := by
  cases frame <;> cases other <;> cases same <;> rfl

/-- A lifecycle frame on its way was on its way, or is in the lifecycle queue. -/
theorem Step.arrives (frame : LifeFrame) (step : Step o o') (member : frame.frame ∈ o'.onWay) :
    frame.frame ∈ o.onWay ∨ frame ∈ o'.life := by
  rcases mem_onWay.mp member with sent | held | data | lifecycle | ⟨other, inside, same⟩
  · refine Or.inl (mem_onWay.mpr ?_)
    cases step with
    | sendLife next holds =>
      rcases List.mem_append.mp sent with old | new
      · exact Or.inl old
      · have same := List.mem_singleton.mp new
        exact Or.inr
          (Or.inr (Or.inr (Or.inl ⟨next, by simp [holds, WriterPc.lifecycle], same.symm⟩)))
    | sendData next holds =>
      rcases List.mem_append.mp sent with old | new
      · exact Or.inl old
      · rw [List.mem_singleton.mp new]
        exact Or.inr (Or.inl (by simp [holds, WriterPc.held]))
    | _ => exact Or.inl sent
  · refine Or.inl (mem_onWay.mpr (Or.inr ?_))
    cases step with
    | takeData next rest idle front =>
      rw [List.mem_singleton.mp held, front]
      exact Or.inr (Or.inl List.mem_cons_self)
    | pass next holds kept => exact Or.inl (by simpa [holds, WriterPc.held] using held)
    | takeLife next rest idle front => cases held
    | sendLife next holds => cases held
    | discard next holds dropping isData => cases held
    | sendData next holds => cases held
    | stop => cases held
    | _ => exact Or.inl held
  · refine Or.inl (mem_onWay.mpr (Or.inr (Or.inr ?_)))
    cases step with
    | queueFin owed =>
      rcases List.mem_append.mp data with old | new
      · exact Or.inl old
      · have same := List.mem_singleton.mp new
        cases frame <;> cases same
    | accept bytes admitted =>
      rcases List.mem_append.mp data with old | new
      · exact Or.inl old
      · have same := List.mem_singleton.mp new
        cases frame <;> cases same
    | takeData next rest idle front => exact Or.inl (front ▸ List.mem_cons_of_mem _ data)
    | clear gone => cases data
    | _ => exact Or.inl data
  · refine Or.inl (mem_onWay.mpr (Or.inr (Or.inr (Or.inr ?_))))
    obtain ⟨other, inside, same⟩ := lifecycle
    cases step with
    | takeLife next rest idle front =>
      rw [List.mem_singleton.mp inside] at same
      exact Or.inr ⟨next, front ▸ List.mem_cons_self, same⟩
    | sendLife next holds => cases inside
    | takeData next rest idle front => cases inside
    | discard next holds dropping isData => cases inside
    | pass next holds kept => cases inside
    | sendData next holds => cases inside
    | stop => cases inside
    | _ => exact Or.inl ⟨other, inside, same⟩
  · exact Or.inr (frame_injective same ▸ inside)

/-- Before a decision no RESET is on its way, or about to be queued. -/
theorem Decided.none_onWay (decided : Decided o) (undecided : o.terminal = none) :
    (∀ code, .reset code ∉ o.onWay) ∧ o.resetting = 0 := by
  have resets := (decided.undecided undecided).2.1
  have counts := resets
  rw [tokens_reset] at counts
  unfold tokens at resets
  refine ⟨fun code member => ?_, by omega⟩
  rw [onWay, List.mem_append] at member
  rcases member with frame | life
  · have some := countP_pos_of_mem _ frame (rfl : ends .reset (.reset code) = true)
    omega
  · obtain ⟨frame, inside, same⟩ := List.mem_map.mp life
    have some : 0 < (o.pc.lifecycle ++ o.life).countP fun frame => ends .reset frame.frame :=
      List.countP_pos_iff.mpr ⟨frame, inside, by rw [same]; rfl⟩
    omega

end Outbound

namespace WebrtcStream

variable {s : WebrtcStream} {op : StreamSection} {e : Effect WebrtcStream StreamSection}

/-! ### What decides a RESET -/

/-- A RESET is queued only by the section that decided it. -/
theorem exec_resets {code : ErrorCode} (ran : s.exec op = some e)
    (member : .lifeSend (.reset code) ∈ e.next) : s.localTerminal = none := by
  have leads := exec_leads ran _ member
  cases op with
  | onFrame data =>
    simp only [exec, onFrame] at ran
    split at ran
    · cases ran
      simp at member
    · split at ran <;> cases ran <;> simp at member
    · split at ran <;> cases ran <;> simp at member
    · split at ran <;> cases ran
      · simp at member
      · rcases List.mem_append.mp member with spent | last
        · cases mem_discarded spent
        · simp at last
    · split at ran
      · cases ran
        simp at member
      · split at ran
        · next undecided => exact Option.isNone_iff_eq_none.mp undecided
        · cases ran
          simp at member
    · cases ran
      simp at member
  | resetWrite code' =>
    simp only [exec] at ran
    split at ran
    · cases ran
      simp at member
    · next undecided => simpa using undecided
  | _ => exact (Bool.false_ne_true leads).elim

/-- A frame of the lifecycle queue was there, or is queued now. -/
theorem exec_life (ran : s.exec op = some e) {frame : LifeFrame} (member : frame ∈ e.shared.life) :
    frame ∈ s.life ∨ op = .lifeSend frame := by
  by_cases lives : op.lives = false
  · rw [(exec_leaves ran).life lives] at member
    exact Or.inl member
  · cases op with
    | lifeSend frame' =>
      simp only [exec] at ran
      split at ran
      · cases ran
        exact Or.inl member
      · cases ran
        rcases List.mem_append.mp member with old | new
        · exact Or.inl old
        · rw [List.mem_singleton.mp new]
          exact Or.inr rfl
    | selectLife =>
      simp only [exec] at ran
      split at ran
      · next next =>
        cases ran
        rw [next]
        exact Or.inl (List.mem_cons_of_mem _ member)
      · cases ran
        exact Or.inl member
    | writerEnd =>
      cases ran
      cases member
    | _ => exact absurd rfl lives

/-- The writer task goes on until it stops. -/
theorem exec_goesOn (ran : s.exec op = some e) (owned : op.task = some .writer)
    (other : op ≠ .writerEnd) :
    ∃ next ∈ e.next, next.task = some .writer := by
  have last {s' : WebrtcStream} (before : List StreamSection) {next : StreamSection}
      (ran : andThen (before ++ [next]) s' = some e) (owned : next.task = some .writer) :
      ∃ next ∈ e.next, next.task = some .writer := by
    cases ran
    exact ⟨next, by simp, owned⟩
  have only {s' : WebrtcStream} {next : StreamSection} (ran : andThen [next] s' = some e)
      (owned : next.task = some .writer) : ∃ next ∈ e.next, next.task = some .writer :=
    last [] ran owned
  cases op with
  | writerEnd => exact absurd rfl other
  | writerOpen =>
    simp only [exec] at ran
    split at ran
    · exact only ran rfl
    split at ran
    · exact only ran rfl
    · cases ran
  | selectLife =>
    simp only [exec] at ran
    split at ran <;> exact only ran rfl
  | selectData =>
    simp only [exec, selectData] at ran
    split at ran
    · exact only ran rfl
    split at ran
    · exact only ran rfl
    split at ran
    · exact only ran rfl
    · cases ran
  | writerLife frame =>
    simp only [exec] at ran
    split at ran
    · exact last _ ran rfl
    · exact only ran rfl
  | writerData frame reserved =>
    simp only [exec] at ran
    split at ran
    · exact last _ ran rfl
    · exact only ran rfl
  | writerRoom frame reserved =>
    simp only [exec] at ran
    split at ran
    · exact last _ ran rfl
    · exact only ran rfl
  | writerBuffered frame reserved =>
    simp only [exec] at ran
    split at ran <;> exact only ran rfl
  | writerSend frame reserved =>
    simp only [exec, writerSend] at ran
    split at ran <;> exact last _ ran rfl
  | _ => cases owned

/-- Nothing is queued for a writer task that has ended. -/
theorem exec_emptied (ran : s.exec op = some e) (other : op.task ≠ some .writer)
    (gone : s.writerGone = true) (empty : s.data = []) : e.shared.data = [] := by
  by_cases queues : op.queues = false
  · have same := (exec_leaves ran).queueing queues
    simp only [queueing, Prod.mk.injEq] at same
    exact same.1.trans empty
  cases op with
  | queueData buf =>
    simp only [exec, queueData] at ran
    rw [pollPermit_eq] at ran
    dsimp only at ran
    repeat' split at ran
    all_goals cases ran
    all_goals simp [returnWrite, sendItem, gone, empty]
  | reserveFin =>
    simp only [exec, reserveFin] at ran
    rw [pollPermit_eq] at ran
    dsimp only at ran
    repeat' split at ran
    all_goals cases ran
    all_goals simp [returnFinish, sendItem, gone, empty]
  | sendFin =>
    simp only [exec] at ran
    rw [if_pos gone] at ran
    cases ran
    exact empty
  | selectData | writerEnd => exact absurd rfl other
  | _ => exact absurd rfl queues

/-! ### Runs -/

/-- What every run keeps: the outbound half, the decided RESETs, who has the reservations, and that
a writer task that has ended left nothing in its queue. -/
structure ResetInv (t : Tasks) : Prop where
  writer : WriterInv t
  resets : (outbound t).Resets
  held : t.Elsewhere (fun op => decide (op.carries ≠ 0)) 1
  emptied : t.control (ownedBy .writer) = none → t.shared.writerGone = true ∧ t.shared.data = []

theorem light_of_carries {sections : List StreamSection} (light : ∀ op ∈ sections, op.carries = 0) :
    ∀ op ∈ sections, decide (op.carries ≠ 0) = false := fun op member => by simp [light op member]

theorem ResetInv.run {t t' : Tasks} {thread : Nat} (inv : ResetInv t)
    (stepped : t.advance exec thread = some t') : ResetInv t' := by
  have rules := inv.writer.rules
  have taken : WebrtcStream.step t (.run thread) = some t' := stepped
  have writer := inv.writer.step taken
  have moves := step_moves rules taken
  obtain ⟨op, rest, e, top, ran, rfl⟩ := Threads.advance_eq_some.mp stepped
  refine ⟨writer, ?_, inv.held.advance top (fun other => light_of_carries fun op' pushed => ?_)
    (light_of_carries fun op' new => by rw [mem_started ran new]; rfl), fun none => ?_⟩
  · have pays : (outbound t).PaysReset (outbound
        ⟨e.shared, t.pool.set thread (e.next ++ rest) ++ e.started⟩) := by
      rw [outbound_run rules top ran]
      exact exec_pays_reset ran
    rcases moves with same | step
    · rw [same]
      exact inv.resets
    · exact inv.resets.step inv.writer.decided inv.writer.handed pays step
  · -- a section that passes a reservation on is the writer's
    refine StreamSection.leadsTo_carries (exec_leads ran op' pushed) ?_
    by_contra passes
    have quiet := (rules.owned .writer).elsewhere thread _ top other op List.mem_cons_self
    cases op <;> first | exact passes rfl | cases quiet
  · rw [(rules.owned .writer).control_advance top ((exec_follows ran).1.countP .writer)
      fun other member => by rw [mem_started ran member]; rfl] at none
    split at none
    · next owned =>
      by_cases ends : op = .writerEnd
      · subst ends
        cases ran
        exact ⟨rfl, rfl⟩
      · obtain ⟨next, inside, task⟩ := exec_goesOn ran (of_decide_eq_true owned) ends
        exact absurd (decide_eq_true task) (List.find?_eq_none.mp none next inside)
    · next free =>
      have other : op.task ≠ some .writer := fun task => free (decide_eq_true task)
      obtain ⟨gone, empty⟩ := inv.emptied none
      refine ⟨((exec_leaves ran).gone ?_).trans gone, exec_emptied ran other gone empty⟩
      rintro rfl
      exact other rfl

theorem ResetInv.step {t t' : Tasks} {label : Label} (inv : ResetInv t)
    (stepped : WebrtcStream.step t label = some t') : ResetInv t' := by
  by_cases runs : ∃ thread, label = .run thread
  · obtain ⟨thread, rfl⟩ := runs
    exact inv.run stepped
  have notRun : ∀ thread, label ≠ .run thread := fun thread same => runs ⟨thread, same⟩
  refine ⟨inv.writer.step stepped, ?_, ?_, fun none => ?_⟩
  · by_cases drops : label = .dropFuture
    · subst drops
      rw [outbound_dropFuture inv.writer.rules stepped]
      exact inv.resets
    · rw [step_still inv.writer.rules stepped notRun drops]
      exact inv.resets
  · refine step_elsewhere inv.held stepped notRun (light_of_carries fun op member => ?_)
    cases label with
    | run thread => exact absurd rfl (notRun thread)
    | call method => exact (Method.sections_light method op member).1
    | channelOpen =>
      rw [List.mem_singleton.mp member]
      rfl
    | message data =>
      rw [List.mem_singleton.mp member]
      rfl
    | channelClosed =>
      rw [List.mem_singleton.mp member]
      rfl
    | _ => cases member
  · have sections : ∀ op ∈ label.sections, op.task ≠ some .writer := by
      cases label with
      | call method => cases method <;> simp [Label.sections, Method.sections, StreamSection.task]
      | _ => simp [Label.sections, StreamSection.task]
    rw [step_control inv.writer.rules stepped notRun
      (fun op member => by simp [ownedBy, sections op member]) fun _ => by simp] at none
    rw [step_shared stepped notRun]
    exact inv.emptied none

theorem resetInv_start (flow : ConnFlow) (peerInitiated isOpen : Bool) :
    ResetInv (start flow peerInitiated isOpen) := by
  refine ⟨writerInv_start flow peerInitiated isOpen, fun decided => (by cases decided),
    fun j stack found other => light_of_carries fun op member => ?_, fun none => (by cases none)⟩
  have inside : op ∈ (start flow peerInitiated isOpen).pending :=
    List.mem_flatten.mpr ⟨stack, List.mem_of_getElem? found, member⟩
  have pending : (start flow peerInitiated isOpen).pending = [.writerOpen] := rfl
  rw [pending] at inside
  rw [List.mem_singleton.mp inside]
  rfl

/-- A RESET was decided while the writer held no DATA that passed; what has been handed to the
transport since then is not DATA, and every RESET has the code of the STOP_SENDING, if it was
one. -/
structure DiscardInv (first : List ParsedFrame) (code : Option ErrorCode) (t : Tasks) : Prop where
  all : ResetInv t
  discarding : (outbound t).Discarding
  handed : ∃ new, t.shared.frames = first ++ new ∧ ∀ frame ∈ new, isData frame = false
  queued : ∀ c, .reset c ∈ (outbound t).onWay → ∀ c' ∈ code, c = c'
  pending : ∀ c, .lifeSend (.reset c) ∈ t.pending → ∀ c' ∈ code, c = c'

theorem DiscardInv.step {first : List ParsedFrame} {code : Option ErrorCode} {t t' : Tasks}
    {label : Label}
    (inv : DiscardInv first code t) (stepped : WebrtcStream.step t label = some t') :
    DiscardInv first code t' := by
  have rules := inv.all.writer.rules
  have decided := inv.all.writer.decided
  have all := inv.all.step stepped
  have moves := step_moves rules stepped
  have sent : (outbound t').Discarding ∧
      ∃ new, t'.shared.frames = t.shared.frames ++ new ∧ ∀ frame ∈ new, isData frame = false := by
    rcases moves with same | step
    · have frames : t'.shared.frames = t.shared.frames := congrArg Outbound.sent same
      rw [same]
      exact ⟨inv.discarding, [], by rw [frames, List.append_nil], fun _ member => by cases member⟩
    · exact inv.discarding.step decided step
  obtain ⟨discarding, more, frames, silent⟩ := sent
  obtain ⟨new, handed, quiet⟩ := inv.handed
  have onWay : ∀ c, .reset c ∈ (outbound t').onWay →
      .reset c ∈ (outbound t).onWay ∨ .reset c ∈ t'.shared.life := by
    intro c member
    rcases moves with same | step
    · rw [same] at member
      exact Or.inl member
    · exact step.arrives (.reset c) member
  have ofLife : ∀ c, LifeFrame.reset c ∈ t.shared.life → .reset c ∈ (outbound t).onWay :=
    fun c member =>
    Outbound.mem_onWay.mpr (Or.inr (Or.inr (Or.inr (Or.inr ⟨_, member, rfl⟩))))
  refine ⟨all, discarding,
    ⟨new ++ more, by rw [frames, handed, List.append_assoc], fun frame member => ?_⟩,
    fun c member => ?_, fun c member => ?_⟩
  · rcases List.mem_append.mp member with old | fresh
    · exact quiet frame old
    · exact silent frame fresh
  · rcases onWay c member with old | life
    · exact inv.queued c old
    · by_cases runs : ∃ thread, label = .run thread
      · obtain ⟨thread, rfl⟩ := runs
        obtain ⟨op, rest, e, top, ran, rfl⟩ := Threads.advance_eq_some.mp stepped
        rcases exec_life ran life with old | rfl
        · exact inv.queued c (ofLife c old)
        · exact inv.pending c (Threads.mem_pending top)
      · have same := (congrArg WebrtcStream.life (step_shared stepped fun thread same =>
          runs ⟨thread, same⟩)).trans rfl
        rw [same] at life
        exact inv.queued c (ofLife c life)
  · by_cases runs : ∃ thread, label = .run thread
    · obtain ⟨thread, rfl⟩ := runs
      obtain ⟨op, rest, e, top, ran, rfl⟩ := Threads.advance_eq_some.mp stepped
      rcases (Threads.pending_members (e := e) top).2.2 _ member with pushed | new | old
      · have undecided := exec_resets ran pushed
        have terminal : t.shared.localTerminal = some .reset := inv.discarding.terminal
        rw [terminal] at undecided
        cases undecided
      · cases mem_started ran new
      · exact inv.pending c old
    · rcases step_comes stepped (fun thread same => runs ⟨thread, same⟩) _ member with new | old
      · cases label with
        | run thread => exact absurd ⟨thread, rfl⟩ runs
        | call method =>
          cases method <;> simp [Label.sections, Method.sections] at new
        | _ => simp [Label.sections] at new
      · exact inv.pending c old

/-! ### Where it begins -/

/-- The thread processes a STOP_SENDING with this code, or a `reset_write`. -/
inductive Discards (t : Tasks) (thread : Nat) : Option ErrorCode → Prop
  | stop {data : Bytes} {code : ErrorCode} {rest : List StreamSection}
    (top : t.pool[thread]? = some (.onFrame data :: rest))
    (parsed : parseFrame data = .ok (.stopSending code)) (new : t.shared.peerStop = none) :
    Discards t thread (some code)
  | reset {code : ErrorCode} {rest : List StreamSection}
    (top : t.pool[thread]? = some (.resetWrite code :: rest)) : Discards t thread none

/-- A STOP_SENDING comes before a terminal frame is decided, a `reset_write` before a FIN is, and
the writer holds no DATA that passed its check of `drop_data`. -/
structure InTime (t : Tasks) (code : Option ErrorCode) : Prop where
  stop : code.isSome = true → t.shared.localTerminal = none
  reset : t.shared.localTerminal ≠ some .fin
  sampled : ∀ frame ∈ (outbound t).pc.passed, isData frame = false

instance (t : Tasks) (code : Option ErrorCode) : Decidable (InTime t code) :=
  decidable_of_iff ((code.isSome = true → t.shared.localTerminal = none) ∧
      t.shared.localTerminal ≠ some .fin ∧ ∀ frame ∈ (outbound t).pc.passed, isData frame = false)
    ⟨fun ⟨stop, reset, sampled⟩ => ⟨stop, reset, sampled⟩,
      fun ⟨stop, reset, sampled⟩ => ⟨stop, reset, sampled⟩⟩

/-- The section has decided a RESET, or finds one decided. -/
theorem DiscardInv.begin {code : Option ErrorCode} {t : Tasks} {thread : Nat}
    {rest : List StreamSection}
    (inv : ResetInv t) (timely : InTime t code) (top : t.pool[thread]? = some (op :: rest))
    (ran : t.shared.exec op = some e) (notWriter : ownedBy .writer op = false)
    (calls : e.shared.dc.calls = t.shared.dc.calls) (life : e.shared.life = t.shared.life)
    (data : e.shared.data = t.shared.data) (terminal : e.shared.localTerminal = some .reset)
    (codes : ∀ c, .lifeSend (.reset c) ∈ e.next → ∀ c' ∈ code, c = c') :
    DiscardInv t.shared.frames code ⟨e.shared,
      t.pool.set thread (e.next ++ rest) ++ e.started⟩ := by
  have rules := inv.writer.rules
  have taken : WebrtcStream.step t (.run thread) =
      some ⟨e.shared, t.pool.set thread (e.next ++ rest) ++ e.started⟩ :=
    Threads.advance_eq_some.mpr ⟨op, rest, e, top, ran, rfl⟩
  have all := inv.step taken
  have frames : e.shared.frames = t.shared.frames := frames_congr calls
  have after := outbound_run rules top ran
  have writer : (outbound ⟨e.shared, t.pool.set thread (e.next ++ rest) ++ e.started⟩).pc =
      (outbound t).pc := by
    rw [after]
    show WriterPc.of (if ownedBy .writer op then _ else _) = _
    rw [if_neg (by simp [notWriter])]
    rfl
  have onWay : (outbound ⟨e.shared, t.pool.set thread (e.next ++ rest) ++ e.started⟩).onWay =
      (outbound t).onWay := by
    unfold Outbound.onWay
    rw [writer]
    show e.shared.frames ++ _ ++ e.shared.data.map Prod.fst ++ List.map _ (_ ++ e.shared.life) = _
    rw [frames, data, life]
    rfl
  -- before a STOP_SENDING nothing was decided
  have fresh : ∀ c' ∈ code, (∀ c, .reset c ∉ (outbound t).onWay) ∧ (outbound t).resetting = 0 := by
    intro c' some
    refine inv.writer.decided.none_onWay (timely.stop ?_)
    rw [Option.mem_def.mp some]
    rfl
  refine ⟨all, ⟨terminal, ?_⟩,
    ⟨[], by rw [List.append_nil]; exact frames, fun _ member => by cases member⟩,
    fun c member c' some => ?_, fun c member c' some => ?_⟩
  · rw [writer]
    exact timely.sampled
  · rw [onWay] at member
    exact absurd member ((fresh c' some).1 c)
  · rcases (Threads.pending_members (e := e) top).2.2 _ member with pushed | new | old
    · exact codes c pushed c' some
    · cases mem_started ran new
    · have none := List.countP_eq_zero.mp (fresh c' some).2 _ old
      exact absurd rfl none

theorem DiscardInv.start {code : Option ErrorCode} {t t' : Tasks} {thread : Nat} (inv : ResetInv t)
    (event : Discards t thread code) (timely : InTime t code)
    (stepped : WebrtcStream.step t (.run thread) = some t') :
    DiscardInv t.shared.frames code t' := by
  obtain ⟨op, rest, e, top, ran, rfl⟩ := Threads.advance_eq_some.mp stepped
  cases event with
  | @stop data code rest' top' parsed new =>
    rw [top] at top'
    cases top'
    have undecided := timely.stop rfl
    have whole := ran
    simp only [exec, onFrame, parsed, new, undecided, Option.isSome_none, Option.isNone_none] at ran
    cases ran
    refine .begin inv timely top whole rfl rfl rfl rfl rfl fun c member c' some => ?_
    have same : c = code := by simpa using member
    rw [same]
    exact Option.mem_some.mp some
  | @reset code rest' top' =>
    rw [top] at top'
    cases top'
    have whole := ran
    simp only [exec] at ran
    split at ran
    · next decided =>
      cases ran
      refine .begin inv timely top whole rfl rfl rfl rfl ?_ fun c member c' some => by cases some
      cases kind : t.shared.localTerminal with
      | none =>
        rw [kind] at decided
        cases decided
      | some terminal =>
        cases terminal with
        | fin => exact absurd kind timely.reset
        | reset => rfl
    · cases ran
      exact .begin inv timely top whole rfl rfl rfl rfl rfl fun c member c' some => by cases some

/-- The writer task waits for a frame. -/
def WriterWaits (t : Tasks) : Prop :=
  t.pool[1]? = some [.selectData] ∧ WebrtcStream.step t (.run 1) = none

/-- The other threads hold no reservation. -/
theorem ResetInv.unheld {t : Tasks} {stack : List StreamSection} (inv : ResetInv t)
    (top : t.pool[1]? = some stack) (light : ∀ op ∈ stack, op.carries = 0) : writerHeld t = 0 := by
  refine Threads.sum_eq_zero fun op member => ?_
  obtain ⟨other, inside, member⟩ := List.mem_flatten.mp member
  obtain ⟨j, found⟩ := List.mem_iff_getElem?.mp inside
  by_cases same : j = 1
  · subst same
    rw [top] at found
    cases found
    exact light op member
  · simpa using inv.held j other found same op member

/-- The queue is empty, and the writer task holds no reservation. -/
theorem WriterWaits.empty {t : Tasks} (waits : WriterWaits t) (inv : ResetInv t) :
    t.shared.data = [] ∧ t.shared.life = [] ∧ (outbound t).pc = .idle ∧ writerHeld t = 0 := by
  obtain ⟨top, stuck⟩ := waits
  have none : t.shared.selectData = none := by
    cases at' : t.shared.selectData with
    | none => rfl
    | some e =>
      have stepped : t.advance exec 1 = some _ :=
        Threads.advance_eq_some.mpr ⟨.selectData, [], e, top, at', rfl⟩
      change t.advance exec 1 = none at stuck
      rw [stuck] at stepped
      cases stepped
  have control : t.control (ownedBy .writer) = some .selectData :=
    (inv.writer.rules.owned .writer).control_eq (Threads.mem_pending top) rfl
  have idle : (outbound t).pc = .idle := by
    show WriterPc.of (t.control (ownedBy .writer)) = .idle
    rw [control]
    rfl
  unfold selectData at none
  split at none
  · cases none
  next empty =>
  split at none
  · cases none
  split at none
  · cases none
  next quiet =>
  refine ⟨empty, by simpa using quiet, idle, inv.unheld top fun op member => ?_⟩
  rw [List.mem_singleton.mp member]
  rfl

/-- The writer task has ended, and dropped no entry of the queue. -/
def WriterDone (t : Tasks) : Prop := t.pool[1]? = some [] ∧ t.shared.abandoned = []

/-- The queue is empty, nothing of it was dropped, and the writer task holds no reservation. -/
theorem WriterDone.empty {t : Tasks} (done : WriterDone t) (inv : ResetInv t) :
    t.shared.data = [] ∧ t.shared.abandonedCredit = 0 ∧ writerHeld t = 0 := by
  obtain ⟨top, kept⟩ := done
  have none : t.control (ownedBy .writer) = none :=
    List.find?_eq_none.mpr fun op member => by
      simp [(inv.writer.rules.owned .writer).idle top op member]
  refine ⟨(inv.emptied none).2, ?_, inv.unheld top fun op member => by cases member⟩
  unfold abandonedCredit
  rw [kept]
  rfl

/-- **What was discarded.** After a STOP_SENDING or a `reset_write` that came in time, in every run:
no DATA is handed to the transport any more, and every terminal frame handed to it is a RESET, with
the code of the STOP_SENDING. Once the writer task waits for a frame, the RESET was handed over; and
then, or once the writer task has ended without an entry in its queue, the queue is empty and the
engine counts no reservation for it. -/
theorem queue_discarded {flow : ConnFlow} {peerInitiated isOpen : Bool} {before after : List Label}
    {t t' final : Tasks} {thread : Nat} {code : Option ErrorCode}
    (ran : Lib.run WebrtcStream.step (start flow peerInitiated isOpen) before = some t)
    (event : Discards t thread code) (timely : InTime t code)
    (stepped : WebrtcStream.step t (.run thread) = some t')
    (later : Lib.run WebrtcStream.step t' after = some final) :
    (∃ new, final.shared.frames = t.shared.frames ++ new ∧ ∀ frame ∈ new, isData frame = false) ∧
    (∀ frame ∈ final.shared.frames, isTerminal frame = true → ∃ c, frame = .reset c ∧ ∀ c' ∈ code,
      c = c') ∧
    (WriterWaits final → (∀ op ∈ final.pending, op.queuesReset = false) →
      ∃ c, .reset c ∈ final.shared.frames) ∧
    (WriterWaits final ∨ WriterDone final → final.shared.data = [] ∧
      (Meets WebrtcStream.step Steady (start flow peerInitiated isOpen)
        (before ++ .run thread :: after) →
        ∀ s, entry final = some s → s.sendReserved = grantHeld final)) := by
  have start : ResetInv t := run_invariant (fun _ _ _ inv stepped => ResetInv.step inv stepped)
    (resetInv_start flow peerInitiated isOpen) ran
  have inv : DiscardInv t.shared.frames code final :=
    run_invariant (fun _ _ _ inv stepped => DiscardInv.step inv stepped)
      (.start start event timely stepped)
      later
  have terminal : (outbound final).terminal = some .reset := inv.discarding.terminal
  refine ⟨inv.handed, fun frame member terminates => ?_, fun waits quiet => ?_, fun still => ?_⟩
  · obtain ⟨kind, ending⟩ := isTerminal_iff.mp terminates
    cases kind with
    | fin =>
      have some := Outbound.countP_pos_of_mem (outbound final).sent member ending
      have fins := inv.all.writer.decided.fins
      rw [Outbound.tokens_fin, if_neg (by rw [terminal]; simp)] at fins
      omega
    | reset =>
      cases frame with
      | reset c => exact ⟨c, rfl, inv.queued c (Outbound.mem_onWay.mpr (Or.inl member))⟩
      | _ => cases ending
  · obtain ⟨empty, quietLife, idle, -⟩ := waits.empty inv.all
    have whole := (inv.all.resets terminal).resolve_left (by rw [idle]; simp)
    have none : (outbound final).resetting = 0 :=
      List.countP_eq_zero.mpr fun op member => by simp [quiet op member]
    have life : (outbound final).life = [] := quietLife
    have data : (outbound final).data = [] := by
      show final.shared.data.map Prod.fst = []
      rw [empty]
      rfl
    rw [Outbound.tokens_reset, idle, none, life, data] at whole
    simp only [WriterPc.held, WriterPc.lifecycle, List.countP_nil, Nat.add_zero] at whole
    obtain ⟨frame, member, ending⟩ := List.countP_pos_iff.mp whole
    cases frame with
    | reset c => exact ⟨c, member⟩
    | _ => cases ending
  · have settled : final.shared.data = [] ∧ writerHeld final = 0 ∧
        (final.shared.writerGone = true → final.shared.abandonedCredit = 0) := by
      rcases still with waits | done
      · obtain ⟨empty, -, idle, held⟩ := waits.empty inv.all
        refine ⟨empty, held, fun gone => ?_⟩
        have stopped := inv.all.writer.handed.stopped gone
        rw [idle] at stopped
        cases stopped
      · obtain ⟨empty, kept, held⟩ := done.empty inv.all
        exact ⟨empty, held, fun _ => kept⟩
    obtain ⟨empty, held, kept⟩ := settled
    refine ⟨empty, fun steady s found => ?_⟩
    have whole : Lib.run WebrtcStream.step (WebrtcStream.start flow peerInitiated isOpen)
        (before ++ .run thread :: after) = some final :=
      run_append.mpr ⟨t, ran, run_cons.mpr ⟨t', stepped, later⟩⟩
    obtain ⟨balanced, alive⟩ := ledger_balances steady whole
    have dropped : final.shared.abandonedCredit = 0 := by
      cases gone : final.shared.writerGone with
      | true => exact kept gone
      | false => exact alive gone
    have none : final.shared.queuedCredit = 0 := by
      unfold queuedCredit
      rw [empty]
      rfl
    rw [balanced s found, none, dropped, held, add_zero, add_zero, add_zero]

/-- A STOP_SENDING message. -/
def stopSending : Bytes := [3, 0, 0, 0, 1]

theorem parse_stopSending :
    parseFrame stopSending = .ok (.stopSending .cancelled) := by decide +kernel

/-- A write is queued, and a STOP_SENDING arrives before the writer task runs. -/
def stopsQueued : List Label :=
  [.call (.pollWrite [1, 2]), .run 2, .run 2, .run 2, .message stopSending]

/-- The read loop answers the STOP_SENDING, and the writer task runs until it waits. -/
def answers : List Label := List.replicate 3 (.run 0) ++ List.replicate 10 (.run 1)

/-- The RESET of a stream that has nothing reserved any more. -/
theorem queue_discarded_stopsQueued : ∃ t t' final s,
    Lib.run WebrtcStream.step (start granted true true) stopsQueued = some t ∧
      Discards t 0 (some .cancelled) ∧ WebrtcStream.step t (.run 0) = some t' ∧
      Lib.run WebrtcStream.step t' answers = some final ∧ t.shared.data = [(.data [1, 2], 2)] ∧
      (∃ c, .reset c ∈ final.shared.frames) ∧ entry final = some s ∧
      s.sendReserved = grantHeld final := by
  have stops : (Lib.run WebrtcStream.step (start granted true true) stopsQueued).any (fun t =>
      decide (t.pool[0]? = some [.onFrame stopSending] ∧ t.shared.peerStop = none ∧
        InTime t (some .cancelled) ∧ t.shared.data = [(.data [1, 2], 2)]) &&
      (WebrtcStream.step t (.run 0)).any fun t' =>
        (Lib.run WebrtcStream.step t' answers).any fun final =>
          decide (final.pool[1]? = some [.selectData] ∧
            ∀ op ∈ final.pending, op.queuesReset = false) &&
          (WebrtcStream.step final (.run 1)).isNone && (entry final).isSome) = true := by
    decide +kernel
  obtain ⟨t, ran, both⟩ := (Option.any_eq_true _ _).mp stops
  obtain ⟨facts, steps⟩ := (Bool.and_eq_true _ _).mp both
  obtain ⟨top, new, timely, queued⟩ := of_decide_eq_true facts
  obtain ⟨t', stepped, runs⟩ := (Option.any_eq_true _ _).mp steps
  obtain ⟨final, later, ends⟩ := (Option.any_eq_true _ _).mp runs
  obtain ⟨both, present⟩ := (Bool.and_eq_true _ _).mp ends
  obtain ⟨facts, stuck⟩ := (Bool.and_eq_true _ _).mp both
  obtain ⟨waits, quiet⟩ := of_decide_eq_true facts
  have waits : WriterWaits final := ⟨waits, Option.isNone_iff_eq_none.mp stuck⟩
  obtain ⟨s, found⟩ := Option.isSome_iff_exists.mp present
  have event : Discards t 0 (some .cancelled) := .stop top parse_stopSending new
  obtain ⟨-, -, resets, released⟩ := queue_discarded ran event timely stepped later
  exact ⟨t, t', final, s, ran, event, stepped, later, queued, resets waits quiet, found,
    (released (Or.inl waits)).2 (steady_alone (by decide) _) s found⟩

/-- A FIN is queued, and a STOP_SENDING arrives before the writer task runs. -/
def stopsFin : List Label :=
  .call .closeWrite :: (List.replicate 4 (.run 2) ++ [.message stopSending])

/-- A write is queued, the writer task takes it and looks for room in the send buffer, and a
STOP_SENDING arrives. -/
def stopsSampled : List Label :=
  [.call (.pollWrite [1, 2]), .run 2, .run 2, .run 2] ++ List.replicate 4
  (.run 1) ++ [.message stopSending]

/-- **A queued FIN is sent after a STOP_SENDING, and so is DATA that passed the check of
`drop_data`.** -/
theorem queue_not_discarded :
    (∃ t t' final, Lib.run WebrtcStream.step (start granted true true) stopsFin = some t ∧
      (∀ frame ∈ t.shared.frames, isTerminal frame = false) ∧ Discards t 0 (some .cancelled) ∧
      WebrtcStream.step t (.run 0) = some t' ∧
      Lib.run WebrtcStream.step t' (.run 0 :: List.replicate 7 (.run 1)) = some final ∧
      ParsedFrame.fin ∈ final.shared.frames) ∧
    ∃ t t' final, Lib.run WebrtcStream.step (start granted true true) stopsSampled = some t ∧
      (∀ frame ∈ t.shared.frames, isTerminal frame = false) ∧ Discards t 0 (some .cancelled) ∧
      WebrtcStream.step t (.run 0) = some t' ∧
      Lib.run WebrtcStream.step t' (List.replicate 3 (.run 0) ++ List.replicate 3 (.run 1)) =
        some final ∧
      t.shared.frames = [] ∧ final.shared.frames = [.data [1, 2]] := by
  have sendsFin : (Lib.run WebrtcStream.step (start granted true true) stopsFin).any (fun t =>
      decide (t.pool[0]? = some [.onFrame stopSending] ∧ t.shared.peerStop = none ∧
        ∀ frame ∈ t.shared.frames, isTerminal frame = false) &&
      (WebrtcStream.step t (.run 0)).any fun t' =>
        (Lib.run WebrtcStream.step t' (.run 0 :: List.replicate 7 (.run 1))).any fun final =>
          decide (ParsedFrame.fin ∈ final.shared.frames)) = true := by
    decide +kernel
  have sendsData : (Lib.run WebrtcStream.step (start granted true true) stopsSampled).any (fun t =>
      decide (t.pool[0]? = some [.onFrame stopSending] ∧ t.shared.peerStop = none ∧
        t.shared.frames = []) &&
      (WebrtcStream.step t (.run 0)).any fun t' =>
        (Lib.run WebrtcStream.step t' (List.replicate 3 (.run 0) ++ List.replicate 3 (.run 1))).any
          fun final => decide (final.shared.frames = [.data [1, 2]])) = true := by
    decide +kernel
  refine ⟨?_, ?_⟩
  · obtain ⟨t, ran, both⟩ := (Option.any_eq_true _ _).mp sendsFin
    obtain ⟨facts, steps⟩ := (Bool.and_eq_true _ _).mp both
    obtain ⟨top, new, unsent⟩ := of_decide_eq_true facts
    obtain ⟨t', stepped, runs⟩ := (Option.any_eq_true _ _).mp steps
    obtain ⟨final, later, sent⟩ := (Option.any_eq_true _ _).mp runs
    exact ⟨t, t', final, ran, unsent, .stop top parse_stopSending new, stepped, later,
      of_decide_eq_true sent⟩
  · obtain ⟨t, ran, both⟩ := (Option.any_eq_true _ _).mp sendsData
    obtain ⟨facts, steps⟩ := (Bool.and_eq_true _ _).mp both
    obtain ⟨top, new, unsent⟩ := of_decide_eq_true facts
    obtain ⟨t', stepped, runs⟩ := (Option.any_eq_true _ _).mp steps
    obtain ⟨final, later, sent⟩ := (Option.any_eq_true _ _).mp runs
    refine ⟨t, t', final, ran, fun frame member => ?_, .stop top parse_stopSending new, stepped,
      later, unsent, of_decide_eq_true sent⟩
    rw [unsent] at member
    cases member

end WebrtcStream

end Kps.Rust
