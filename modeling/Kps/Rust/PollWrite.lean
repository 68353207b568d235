/-
**What `poll_write` answers.**

A grant of credit that was sized for one buffer is kept across `Pending`, and the next call queues
that many bytes of whatever buffer it has.

* `QueueInv` — the permits of the DATA queue and its entries are 32 together, so a permit that is
  missing is an entry of the queue;
* `exec_honours` — a section of `poll_write` honours its contract, when the grant fits the buffer;
* `pollWrite_honours` — so every call does, in every run whose buffers are not empty and in which no
  call queues less than was granted;
* `pollWrite_dishonours` — and a shorter buffer panics, and an empty one waits.
-/

import Kps.Rust.Entries
import Kps.Rust.StreamFrame
import Kps.Rust.Terminals

namespace Kps.Rust

open Kps.Lib

namespace StreamSection

/-- The buffer a section of `poll_write` has. -/
def buffer : StreamSection → Option Bytes
  | .pollWrite buf => some buf
  | .reserveCredit buf => some buf
  | .queueData buf => some buf
  | _ => none

/-- A section of `poll_write` follows one with the same buffer. -/
theorem leadsTo_buffer {op other : StreamSection} (leads : op.leadsTo other = true)
    (writes : other.writes = true) :
    op.writes = true ∧ ∀ buf, other.buffer = some buf → op.buffer = some buf := by
  cases other with
  | pollWrite buf => cases op <;> exact (Bool.false_ne_true leads).elim
  | reserveCredit buf =>
    cases op with
    | pollWrite buf' =>
      have same : buf = buf' := of_decide_eq_true leads
      exact ⟨rfl, fun b found => same ▸ found⟩
    | _ => exact (Bool.false_ne_true leads).elim
  | queueData buf =>
    cases op with
    | pollWrite buf' =>
      have same : buf = buf' := of_decide_eq_true leads
      exact ⟨rfl, fun b found => same ▸ found⟩
    | reserveCredit buf' =>
      have same : buf = buf' := of_decide_eq_true leads
      exact ⟨rfl, fun b found => same ▸ found⟩
    | _ => exact (Bool.false_ne_true leads).elim
  | refuseData =>
    cases op with
    | queueData buf' => exact ⟨rfl, fun b found => by cases found⟩
    | _ => exact (Bool.false_ne_true leads).elim
  | _ => cases writes

end StreamSection

namespace WebrtcStream

variable {s : WebrtcStream} {op : StreamSection} {e : Effect WebrtcStream StreamSection}

/-! ### The permits of the queue -/

/-- The permit that was given to a pending reservation. -/
def assigned (s : WebrtcStream) : Nat := if s.dataPollTx = .acquiring true then 1 else 0

/-- Between two sections no permit is held, and those missing are entries of the queue. -/
structure QueueInv (s : WebrtcStream) : Prop where
  rest : s.dataPollTx ≠ .readyToSend
  room : s.writerGone = false → s.permits + s.data.length + s.assigned = 32 ∧
    (s.dataPollTx = .acquiring false → s.permits = 0)

/-- **What a reservation of a permit finds**: a permit, a receiver that is gone, or a full queue. -/
theorem QueueInv.pollPermit_cases (inv : QueueInv s) :
    (s.pollPermit.dataPollTx = .readyToSend ∧ s.writerGone = false ∧
      s.pollPermit.permits + s.data.length + 1 = 32) ∨
    QueueInv s.pollPermit ∧ (s.pollPermit.dataPollTx = .closed ∨ s.data.length = 32) := by
  unfold WebrtcStream.pollPermit
  split
  · next idle =>
    have none : s.assigned = 0 := by simp [assigned, idle]
    split
    · next gone => exact Or.inr ⟨⟨by simp, fun alive => by simp [gone] at alive⟩, Or.inl rfl⟩
    · next alive =>
      have alive : s.writerGone = false := by simpa using alive
      obtain ⟨count, -⟩ := inv.room alive
      split
      · next free =>
        refine Or.inl ⟨rfl, alive, ?_⟩
        show s.permits - 1 + s.data.length + 1 = 32
        omega
      · next full =>
        have empty : s.permits = 0 := by omega
        refine Or.inr ⟨⟨by simp, fun _ => ⟨?_, fun _ => empty⟩⟩, Or.inr (by omega)⟩
        show s.permits + s.data.length + 0 = 32
        omega
  · next given waits =>
    split
    · next gone => exact Or.inr ⟨⟨by simp, fun alive => by simp [gone] at alive⟩, Or.inl rfl⟩
    · next alive =>
      have alive : s.writerGone = false := by simpa using alive
      obtain ⟨count, empty⟩ := inv.room alive
      split
      · next has =>
        have one : s.assigned = 1 := by simp [assigned, waits, has]
        refine Or.inl ⟨rfl, alive, ?_⟩
        show s.permits + s.data.length + 1 = 32
        omega
      · next lacks =>
        have lacks : given = false := by simpa using lacks
        have none : s.assigned = 0 := by simp [assigned, waits, lacks]
        have empty := empty (by rw [waits, lacks])
        exact Or.inr ⟨inv, Or.inr (by omega)⟩
  · next ready => exact absurd ready inv.rest
  · next shut => exact Or.inr ⟨inv, Or.inl shut⟩

theorem QueueInv.pollPermit_ready (inv : QueueInv s)
    (ready : s.pollPermit.dataPollTx = .readyToSend) :
    s.writerGone = false ∧ s.pollPermit.permits + s.data.length + 1 = 32 := by
  rcases inv.pollPermit_cases with ⟨-, found⟩ | ⟨held, -⟩
  · exact found
  · exact absurd ready held.rest

theorem QueueInv.pollPermit_waits (inv : QueueInv s)
    (ready : s.pollPermit.dataPollTx ≠ .readyToSend) :
    QueueInv s.pollPermit ∧ (s.pollPermit.dataPollTx = .closed ∨ s.data.length = 32) :=
  inv.pollPermit_cases.resolve_left fun found => ready found.1

/-- An item takes the permit that was reserved for it. -/
theorem QueueInv.sendItem {item : ParsedFrame × UInt64} (alive : s.writerGone = false)
    (count : s.permits + s.data.length + 1 = 32) : QueueInv (s.sendItem item) := by
  refine ⟨by simp [WebrtcStream.sendItem], fun _ => ⟨?_, fun waits => by cases waits⟩⟩
  have length : (s.sendItem item).data.length = s.data.length + 1 := by
    simp [WebrtcStream.sendItem, alive]
  have none : (s.sendItem item).assigned = 0 := rfl
  rw [length, none]
  show s.permits + (s.data.length + 1) + 0 = 32
  omega

theorem QueueInv.congr {s' : WebrtcStream} (inv : QueueInv s) (same : s'.queueing = s.queueing) :
    QueueInv s' := by
  simp only [queueing, Prod.mk.injEq] at same
  obtain ⟨data, permits, sender, gone, -⟩ := same
  have given : s'.assigned = s.assigned := by
    unfold assigned
    rw [sender]
  refine ⟨sender ▸ inv.rest, fun alive => ?_⟩
  rw [permits, data, given, sender]
  exact inv.room (gone ▸ alive)

/-- A `poll_write` queues less than was granted. -/
def Overruns (s : WebrtcStream) (buf : Bytes) : Prop :=
  s.writerGone = false ∧ s.data.length < 32 ∧ buf.length < s.pendingGrant.toNat

instance (s : WebrtcStream) (buf : Bytes) : Decidable (Overruns s buf) :=
  inferInstanceAs (Decidable (_ ∧ _ ∧ _))

theorem selectData_queue (ran : s.selectData = some e) (inv : QueueInv s) : QueueInv e.shared := by
  unfold selectData at ran
  split at ran
  · next frame reserved rest next =>
    have length : s.data.length = rest.length + 1 := by rw [next]; rfl
    unfold freePermit at ran
    split at ran
    · next waits =>
      cases ran
      refine ⟨by simp, fun alive => ⟨?_, fun lacks => by cases lacks⟩⟩
      obtain ⟨count, empty⟩ := inv.room alive
      have none : s.assigned = 0 := by
        change s.dataPollTx = .acquiring false at waits
        simp [assigned, waits]
      have empty := empty waits
      show s.permits + rest.length + 1 = 32
      omega
    · next other =>
      cases ran
      refine ⟨inv.rest, fun alive => ⟨?_, fun waits => absurd waits other⟩⟩
      obtain ⟨count, -⟩ := inv.room alive
      show s.permits + 1 + rest.length + s.assigned = 32
      omega
  split at ran
  · cases ran
    exact inv
  split at ran
  · cases ran
    exact inv
  · cases ran

/-- **A section leaves no permit held.** -/
theorem exec_queue (ran : s.exec op = some e) (inv : QueueInv s)
    (fits : ∀ buf, op = .queueData buf → ¬ Overruns s buf) : QueueInv e.shared := by
  by_cases queues : op.queues = false
  · exact inv.congr ((exec_leaves ran).queueing queues)
  · cases op with
    | selectData => exact selectData_queue ran inv
    | writerEnd =>
      cases ran
      exact ⟨inv.rest, fun alive => by cases alive⟩
    | queueData buf =>
      simp only [exec, queueData] at ran
      split at ran
      · next shut =>
        cases ran
        exact (inv.pollPermit_waits (by simp [shut])).1
      · next ready =>
        obtain ⟨alive, count⟩ := inv.pollPermit_ready ready
        have grant : s.pollPermit.pendingGrant = s.pendingGrant := by rw [pollPermit_eq]
        split at ran
        · cases ran
          refine QueueInv.congr (s := s.pollPermit.sendItem _) (.sendItem ?_ ?_) rfl
          · rw [pollPermit_eq]
            exact alive
          · rw [pollPermit_eq]
            exact count
        · next short =>
          rw [grant] at short
          exact absurd ⟨alive, by omega, by omega⟩ (fits buf rfl)
      · next shut ready =>
        cases ran
        exact (inv.pollPermit_waits ready).1.congr rfl
    | reserveFin =>
      simp only [exec, reserveFin] at ran
      split at ran
      · next shut =>
        cases ran
        exact (inv.pollPermit_waits (by simp [shut])).1.congr rfl
      · next ready =>
        obtain ⟨alive, count⟩ := inv.pollPermit_ready ready
        cases ran
        refine QueueInv.congr (s := s.pollPermit.sendItem _) (.sendItem ?_ ?_) rfl
        · rw [pollPermit_eq]
          exact alive
        · rw [pollPermit_eq]
          exact count
      · next shut ready =>
        cases ran
        exact (inv.pollPermit_waits ready).1
    | sendFin =>
      simp only [exec] at ran
      split at ran
      · cases ran
        exact inv.congr rfl
      · next alive =>
        split at ran
        · next free =>
          cases ran
          refine ⟨inv.rest, fun _ => ⟨?_, fun waits => ?_⟩⟩
          · obtain ⟨count, -⟩ := inv.room (by simpa using alive)
            show s.permits - 1 + (s.data ++ [_]).length + s.assigned = 32
            rw [List.length_append, List.length_singleton]
            omega
          · have empty := (inv.room (by simpa using alive)).2 waits
            omega
        · cases ran
    | _ => exact absurd rfl queues

/-! ### What a call returns -/

/-- The contract of `poll_write`, for a call with `buf` that returns in the section from `s` to
`s'`. -/
structure Honours (buf : Bytes) (result : WriteResult) (s s' : WebrtcStream) : Prop where
  returns : result ≠ .panicked
  accepts : ∀ b n, result = .accepted b n → b = buf ∧ n ≤ buf.length ∧
    (buf ≠ [] → s'.data = s.data ++ [(.data (buf.take n), UInt64.ofNat n)])
  empty : buf = [] → result = .accepted [] 0 ∧ s'.data = s.data
  waits : result = .pending → s.flow.Exhausted s.id ∨ s.data.length = 32

variable {buf : Bytes} {result : WriteResult} {s' : WebrtcStream}

theorem honours_error {error : Error} (filled : buf ≠ []) : Honours buf (.error error) s s' :=
  ⟨fun same => (by cases same), fun _ _ same => (by cases same), fun empty => absurd empty filled,
    fun same => (by cases same)⟩

theorem honours_pending (filled : buf ≠ []) (waits : s.flow.Exhausted s.id ∨ s.data.length = 32) :
    Honours buf .pending s s' :=
  ⟨fun same => (by cases same), fun _ _ same => (by cases same), fun empty => absurd empty filled,
    fun _ => waits⟩

/-- What was wished for is not nothing. -/
theorem want_ne_zero (filled : buf ≠ []) : UInt64.ofNat (min buf.length maxFramePayload) ≠ 0 := by
  have positive : 0 < buf.length := List.length_pos_iff.mpr filled
  have small : min buf.length maxFramePayload < 2 ^ 64 :=
    lt_of_le_of_lt (Nat.min_le_right _ _) (by decide)
  intro zero
  have none := congrArg UInt64.toNat zero
  rw [UInt64.toNat_ofNat_of_lt' small] at none
  have some : 0 < min buf.length maxFramePayload := Nat.lt_min.mpr ⟨positive, by decide⟩
  exact absurd none (Nat.ne_of_gt some)

/-- A section returns nothing, or a result. -/
def Returns (buf : Bytes) (s s' : WebrtcStream) : Prop :=
  s'.writes = s.writes ∨ ∃ result, s'.writes = s.writes ++ [result] ∧ Honours buf result s s'

theorem pollWrite_returns {b : Bytes} (ran : s.pollWrite b = some e) (filled : buf ≠ []) :
    Returns buf s e.shared := by
  unfold pollWrite at ran
  split at ran
  · cases ran
    exact Or.inr ⟨_, rfl, honours_error filled⟩
  split at ran
  · cases ran
    exact Or.inr ⟨_, rfl, honours_error filled⟩
  split at ran
  · cases ran
    exact Or.inr ⟨_, rfl, honours_error filled⟩
  split at ran <;> cases ran <;> exact Or.inl rfl

theorem reserveCredit_returns (ran : s.reserveCredit buf = some e) (filled : buf ≠ []) :
    Returns buf s e.shared := by
  unfold reserveCredit at ran
  split at ran
  · next flow pending =>
    cases ran
    obtain ⟨-, -, waits⟩ := ConnFlow.pollReserve_pending pending
    exact Or.inr ⟨_, rfl,
      honours_pending filled (Or.inl (waits.resolve_left (want_ne_zero filled)))⟩
  · cases ran
    exact Or.inr ⟨_, rfl, honours_error filled⟩
  · cases ran
    exact Or.inl rfl

theorem queueData_returns (ran : s.queueData buf = some e) (inv : QueueInv s) (filled : buf ≠ [])
    (fits : ¬ Overruns s buf) : Returns buf s e.shared := by
  unfold queueData at ran
  rw [pollPermit_eq] at ran
  dsimp only at ran
  split at ran
  · cases ran
    exact Or.inl rfl
  · next ready =>
    obtain ⟨alive, count⟩ := inv.pollPermit_ready ready
    split at ran
    · next enough =>
      cases ran
      refine Or.inr ⟨.accepted buf s.pendingGrant.toNat, rfl, fun same => (by cases same),
        fun b n same => ?_, fun empty => absurd empty filled, fun same => (by cases same)⟩
      cases same
      refine ⟨rfl, enough, fun _ => ?_⟩
      rw [UInt64.ofNat_toNat]
      simp [returnWrite, sendItem, alive]
    · next short => exact absurd ⟨alive, by omega, by omega⟩ fits
  · next shut ready =>
    cases ran
    have full := (inv.pollPermit_waits ready).2.resolve_left shut
    exact Or.inr ⟨_, rfl, honours_pending filled (Or.inr full)⟩

/-- **A section returns what its call's contract says.** -/
theorem exec_honours (ran : s.exec op = some e) (inv : QueueInv s) (filled : buf ≠ [])
    (has : ∀ b, op.buffer = some b → b = buf) (fits : ∀ b, op = .queueData b → ¬ Overruns s b) :
    Returns buf s e.shared := by
  by_cases writes : op.writes = false
  · exact Or.inl ((exec_leaves ran).writes writes)
  · cases op with
    | pollWrite b => exact pollWrite_returns ran filled
    | reserveCredit b =>
      cases has b rfl
      exact reserveCredit_returns ran filled
    | queueData b =>
      cases has b rfl
      exact queueData_returns ran inv filled (fits buf rfl)
    | refuseData =>
      cases ran
      exact Or.inr ⟨_, rfl, honours_error filled⟩
    | _ => exact absurd rfl writes

/-! ### Runs -/

/-- The buffer of a call of `poll_write`. -/
def Label.buffer : Label → List Bytes
  | .call (.pollWrite buf) => [buf]
  | _ => []

/-- The buffers of the calls of `poll_write`, in order. -/
def buffers (t : Tasks) (labels : List Label) : List Bytes :=
  outputs WebrtcStream.step (fun _ label => label.buffer) t labels

/-- The thread is about to queue less than was granted. -/
def overruns (t : Tasks) (thread : Nat) : Bool :=
  match t.pool[thread]? with
  | some (.queueData buf :: _) => decide (Overruns t.shared buf)
  | _ => false

/-- No buffer is empty, and no `poll_write` queues less than was granted. -/
def Fits (t : Tasks) : Label → Prop
  | .call (.pollWrite buf) => buf ≠ []
  | .run thread => overruns t thread = false
  | _ => True

instance (t : Tasks) : (label : Label) → Decidable (Fits t label)
  | .call (.pollWrite buf) => inferInstanceAs (Decidable (buf ≠ []))
  | .run thread => inferInstanceAs (Decidable (overruns t thread = false))
  | .call (.pollRead _) => .isTrue trivial
  | .call .pollShutdown => .isTrue trivial
  | .call .closeWrite => .isTrue trivial
  | .call (.resetWrite _) => .isTrue trivial
  | .call (.cancelRead _) => .isTrue trivial
  | .call .close => .isTrue trivial
  | .call (.closeWithError _) => .isTrue trivial
  | .call .drop => .isTrue trivial
  | .dropFuture => .isTrue trivial
  | .channelOpen => .isTrue trivial
  | .message _ => .isTrue trivial
  | .channelClosed => .isTrue trivial
  | .buffered _ => .isTrue trivial
  | .credit _ => .isTrue trivial
  | .teardown => .isTrue trivial

/-- The invariant of the calls of `poll_write` made so far, of which the last may be going on. -/
structure PollWriteInv (calls : List Bytes) (t : Tasks) : Prop where
  rules : Ruled t
  queue : QueueInv t.shared
  filled : ∀ buf ∈ calls, buf ≠ []
  called : ∀ op ∈ t.pending, op.writes = true →
    ∃ buf, calls.getLast? = some buf ∧ ∀ b, op.buffer = some b → b = buf

theorem Fits.run {t : Tasks} {thread : Nat} {rest : List StreamSection}
    (top : t.pool[thread]? = some (op :: rest)) (fits : Fits t (.run thread)) (b : Bytes)
    (queues : op = .queueData b) : ¬ Overruns t.shared b := by
  subst queues
  change overruns t thread = false at fits
  unfold overruns at fits
  rw [top] at fits
  exact of_decide_eq_false fits

theorem PollWriteInv.run {calls : List Bytes} {t t' : Tasks} {thread : Nat}
    (inv : PollWriteInv calls t)
    (fits : Fits t (.run thread)) (stepped : t.advance exec thread = some t') :
      PollWriteInv calls t' := by
  have rules := inv.rules.run stepped
  obtain ⟨op, rest, e, top, ran, rfl⟩ := Threads.advance_eq_some.mp stepped
  refine ⟨rules, exec_queue ran inv.queue (Fits.run top fits), inv.filled,
    fun other member writes => ?_⟩
  rcases run_comes top ran other member with leads | rfl | old
  · obtain ⟨from', same⟩ := StreamSection.leadsTo_buffer leads writes
    obtain ⟨buf, last, has⟩ := inv.called op (Threads.mem_pending top) from'
    exact ⟨buf, last, fun b found => has b (same b found)⟩
  · cases writes
  · exact inv.called other old writes

/-- What the application, the transport and the connection add, other than a call of
`poll_write`. -/
theorem PollWriteInv.others {calls : List Bytes} {t t' : Tasks} {label : Label}
    (inv : PollWriteInv calls t) (stepped : WebrtcStream.step t label = some t')
    (notRun : ∀ thread, label ≠ .run thread) (silent : label.buffer = [])
    (quiet : ∀ op ∈ label.sections, op.writes = false) :
      PollWriteInv (calls ++ label.buffer) t' := by
  rw [silent, List.append_nil]
  refine ⟨inv.rules.step stepped, inv.queue.congr (step_leaves stepped notRun).1, inv.filled,
    fun op member writes => ?_⟩
  rcases step_comes stepped notRun op member with new | old
  · rw [quiet op new] at writes
    cases writes
  · exact inv.called op old writes

/-- The application begins a call of `poll_write`. -/
theorem PollWriteInv.call {calls : List Bytes} {t t' : Tasks} {buf : Bytes}
    (inv : PollWriteInv calls t)
    (filled : buf ≠ []) (stepped : WebrtcStream.step t (.call (.pollWrite buf)) = some t') :
    PollWriteInv (calls ++ [buf]) t' := by
  refine ⟨inv.rules.step stepped, inv.queue.congr (step_leaves stepped (by simp)).1,
    fun b member => ?_, fun op member writes => ⟨buf, List.getLast?_concat, ?_⟩⟩
  · rcases List.mem_append.mp member with old | new
    · exact inv.filled b old
    · exact List.mem_singleton.mp new ▸ filled
  · rcases step_comes stepped (by simp) op member with new | old
    · rw [List.mem_singleton.mp new]
      intro b same
      cases same
      rfl
    · -- the application was idle, so no other call is going on
      have owned : ownedBy .application op = true := by
        cases op <;> first | rfl | cases writes
      simp only [WebrtcStream.step] at stepped
      split at stepped
      · cases stepped
      · have quiet := (inv.rules.owned .application).idle (Threads.idle_of_resume stepped) op old
        rw [quiet] at owned
        cases owned

/-- **One step that fits keeps the invariant.** -/
theorem PollWriteInv.step {calls : List Bytes} {t t' : Tasks} {label : Label}
    (inv : PollWriteInv calls t)
    (fits : Fits t label) (stepped : WebrtcStream.step t label = some t') :
    PollWriteInv (calls ++ label.buffer) t' := by
  cases label with
  | run thread =>
    show PollWriteInv (calls ++ []) t'
    rw [List.append_nil]
    exact inv.run fits stepped
  | call method =>
    cases method with
    | pollWrite buf => exact inv.call fits stepped
    | _ =>
      refine inv.others stepped (by simp) rfl ?_
      simp [Label.sections, Method.sections, StreamSection.writes]
  | _ =>
    refine inv.others stepped (by simp) rfl ?_
    simp [Label.sections, StreamSection.writes]

theorem pollWriteInv_start (flow : ConnFlow) (peerInitiated isOpen : Bool) :
    PollWriteInv [] (start flow peerInitiated isOpen) := by
  refine ⟨ruled_start flow peerInitiated isOpen,
    ⟨fun ready => (by cases ready), fun _ => ⟨rfl, fun waits => (by cases waits)⟩⟩,
    fun buf member => (by cases member), fun op member writes => ?_⟩
  have pending : (start flow peerInitiated isOpen).pending = [.writerOpen] := rfl
  rw [pending] at member
  rw [List.mem_singleton.mp member] at writes
  cases writes

/-- **`poll_write` honours its contract** in every run whose buffers are not empty and in which no
call queues less than was granted: a step returns nothing, or a result as the contract says for the
last call. -/
theorem pollWrite_honours {flow : ConnFlow} {peerInitiated isOpen : Bool} {labels : List Label}
    {t t' : Tasks} {label : Label}
    (fits : Meets WebrtcStream.step Fits (start flow peerInitiated isOpen) (labels ++ [label]))
    (ran : Lib.run WebrtcStream.step (start flow peerInitiated isOpen) labels = some t)
    (stepped : WebrtcStream.step t label = some t') :
    t'.shared.writes = t.shared.writes ∨
    ∃ buf result, (buffers (start flow peerInitiated isOpen) labels).getLast? = some buf ∧
      t'.shared.writes = t.shared.writes ++ [result] ∧ Honours buf result t.shared t'.shared := by
  obtain ⟨before, here, -⟩ := meets_append fits ran
  have inv : PollWriteInv (buffers (start flow peerInitiated isOpen) labels) t :=
    run_invariant_of_outputs
      (fun _ _ _ _ fits inv stepped => PollWriteInv.step inv fits stepped) before
      (pollWriteInv_start flow peerInitiated isOpen) ran
  cases label with
  | run thread =>
    obtain ⟨op, rest, e, top, ran, rfl⟩ := Threads.advance_eq_some.mp stepped
    by_cases writes : op.writes = true
    · obtain ⟨buf, last, has⟩ := inv.called op (Threads.mem_pending top) writes
      have filled := inv.filled buf (List.mem_of_getLast? last)
      refine (exec_honours ran inv.queue filled has (Fits.run top here)).imp_right ?_
      rintro ⟨result, logged, honours⟩
      exact ⟨buf, result, last, logged, honours⟩
    · exact Or.inl ((exec_leaves ran).writes (by simpa using writes))
  | _ => exact Or.inl ((congrArg WebrtcStream.writes (step_shared stepped (by simp))).trans rfl)

/-- A call of `poll_write`, up to its last section. -/
def writesTwo : List Label := [.call (.pollWrite [1, 2]), .run 2, .run 2]

theorem pollWrite_honours_writesTwo : ∃ t t',
    Lib.run WebrtcStream.step (start granted true true) writesTwo = some t ∧
      WebrtcStream.step t (.run 2) = some t' ∧ t'.shared.writes ≠ t.shared.writes ∧
      (t'.shared.writes = t.shared.writes ∨
        ∃ buf result, (buffers (start granted true true) writesTwo).getLast? = some buf ∧
          t'.shared.writes = t.shared.writes ++ [result] ∧
          Honours buf result t.shared t'.shared) := by
  have accepts : (Lib.run WebrtcStream.step (start granted true true) writesTwo).any (fun t =>
      (WebrtcStream.step t (.run 2)).any fun t' => decide (t'.shared.writes ≠ t.shared.writes)) =
        true := by
    decide +kernel
  obtain ⟨t, ran, steps⟩ := (Option.any_eq_true _ _).mp accepts
  obtain ⟨t', stepped, returns⟩ := (Option.any_eq_true _ _).mp steps
  exact ⟨t, t', ran, stepped, of_decide_eq_true returns,
    pollWrite_honours (by decide +kernel) ran stepped⟩

/-- The queue is full, a write of two bytes waits with its grant, the writer task takes an entry,
and a write of one byte is about to queue what was granted. -/
def writesShorter : List Label :=
  fillsQueue ++ [.call (.pollWrite [1, 2]), .run 2, .run 2, .run 2, .run 1, .run 1, .run 1,
    .call (.pollWrite [1]), .run 2]

/-- A write of nothing is about to reserve credit. -/
def writesNothing : List Label := [.call (.pollWrite []), .run 2]

/-- **A shorter buffer after `Pending` panics, and an empty buffer waits** with credit and an empty
queue. -/
theorem pollWrite_dishonours :
    (∃ t t', Lib.run WebrtcStream.step (start ample true true) writesShorter = some t ∧
      WebrtcStream.step t (.run 2) = some t' ∧
      (buffers (start ample true true) writesShorter).getLast? = some [1] ∧
      t'.shared.writes = t.shared.writes ++ [.panicked] ∧
      ¬ Honours [1] .panicked t.shared t'.shared) ∧
    ∃ t t', Lib.run WebrtcStream.step (start ample true true) writesNothing = some t ∧
      WebrtcStream.step t (.run 2) = some t' ∧
      (buffers (start ample true true) writesNothing).getLast? = some [] ∧
      t'.shared.writes = t.shared.writes ++ [.pending] ∧ ¬ t.shared.flow.Exhausted t.shared.id ∧
      t.shared.data = [] ∧ ¬ Honours [] .pending t.shared t'.shared := by
  have panics : (Lib.run WebrtcStream.step (start ample true true) writesShorter).any (fun t =>
      (WebrtcStream.step t (.run 2)).any fun t' =>
        decide (t'.shared.writes = t.shared.writes ++ [.panicked])) = true := by
    decide +kernel
  have waits : (Lib.run WebrtcStream.step (start ample true true) writesNothing).any (fun t =>
      (WebrtcStream.step t (.run 2)).any fun t' =>
        decide (t'.shared.writes = t.shared.writes ++ [.pending] ∧
          ¬ t.shared.flow.Exhausted t.shared.id ∧ t.shared.data = [])) = true := by
    decide +kernel
  obtain ⟨t, ran, steps⟩ := (Option.any_eq_true _ _).mp panics
  obtain ⟨t', stepped, panicked⟩ := (Option.any_eq_true _ _).mp steps
  obtain ⟨u, ran', steps⟩ := (Option.any_eq_true _ _).mp waits
  obtain ⟨u', stepped', waited⟩ := (Option.any_eq_true _ _).mp steps
  obtain ⟨pending, credit, room⟩ := of_decide_eq_true waited
  refine ⟨⟨t, t', ran, stepped, by decide +kernel, of_decide_eq_true panicked, fun honours => ?_⟩,
    u, u', ran', stepped', by decide +kernel, pending, credit, room, fun honours => ?_⟩
  · exact honours.returns rfl
  · cases (honours.empty rfl).1

end WebrtcStream

end Kps.Rust
