/-
**The tasks of a Rust stream.**

The read loop, the writer task and the application each have their own sections, of which at most
one is pending: the task's program counter. Below it in the task's stack there is at most the
`cancel_read` of a `close`.

* `exec_follows` — a section leaves its own task's next section, if any, after sections that no task
  owns;
* `Ruled.step` — so every step keeps the ownership.
-/

import Kps.Rust.Stream

namespace Kps.Rust

open Kps.Lib

/-- The tasks of a stream. -/
inductive Task
  | callbacks
  | writer
  | application
  deriving DecidableEq, Repr

def Task.thread : Task → Nat
  | callbacks => 0
  | writer => 1
  | application => 2

namespace StreamSection

/-- The task that alone runs a section. -/
def task : StreamSection → Option Task
  | .onFrame _ => some .callbacks
  | .onDataReceived _ => some .callbacks
  | .pushData _ => some .callbacks
  | .onChannelClose => some .callbacks
  | .writerOpen => some .writer
  | .selectLife => some .writer
  | .selectData => some .writer
  | .writerLife _ => some .writer
  | .writerData .. => some .writer
  | .writerRoom .. => some .writer
  | .writerBuffered .. => some .writer
  | .writerSend .. => some .writer
  | .writerEnd => some .writer
  | .pollWrite _ => some .application
  | .reserveCredit _ => some .application
  | .queueData _ => some .application
  | .refuseData => some .application
  | .pollShutdown => some .application
  | .reserveFin => some .application
  | .undoFin => some .application
  | .closeWrite => some .application
  | .sendFin => some .application
  | _ => none

def isCancelRead : StreamSection → Bool
  | .cancelRead _ => true
  | _ => false

theorem eq_cancelRead {op : StreamSection} (cancels : op.isCancelRead = true) :
    ∃ code, op = .cancelRead code := by
  cases op with
  | cancelRead code => exact ⟨code, rfl⟩
  | _ => cases cancels

end StreamSection

def ownedBy (task : Task) (op : StreamSection) : Bool := decide (op.task = some task)

namespace WebrtcStream

/-- No task owns a section of the list. -/
def Unowned (sections : List StreamSection) : Prop := ∀ op ∈ sections, op.task = none

/-- What a section leaves to its task. -/
def Follows (op : StreamSection) (next : List StreamSection) : Prop :=
  ∃ quiet last, next = quiet ++ Option.toList last ∧ Unowned quiet ∧
    ∀ other ∈ last, op.task.isSome = true ∧ other.task = op.task

theorem unowned_nil : Unowned [] := fun _ member => absurd member List.not_mem_nil

theorem Unowned.cons {op : StreamSection} {rest : List StreamSection} (free : op.task = none)
    (quiet : Unowned rest) : Unowned (op :: rest) := by
  intro other member
  rcases List.mem_cons.mp member with rfl | member
  · exact free
  · exact quiet other member

theorem unowned_single {op : StreamSection} (free : op.task = none) : Unowned [op] :=
  .cons free unowned_nil

theorem Unowned.append {first second : List StreamSection} (left : Unowned first)
    (right : Unowned second) : Unowned (first ++ second) := by
  intro op member
  rcases List.mem_append.mp member with member | member
  · exact left op member
  · exact right op member

theorem unowned_discarded (n : Nat) : Unowned (discarded n) := by
  unfold discarded
  split
  · exact unowned_single rfl
  · exact unowned_nil

theorem unowned_settleReserved {settle : UInt64 → StreamSection}
    (free : ∀ n, (settle n).task = none) (n : UInt64) : Unowned (settleReserved settle n) := by
  unfold settleReserved
  split
  · exact unowned_single (free n)
  · exact unowned_nil

variable {s : WebrtcStream} {op : StreamSection} {e : Effect WebrtcStream StreamSection}

/-- The effect of a section: what follows it, and that only `maybe_retire` starts a task, which
closes the channel. -/
def Goes (op : StreamSection) (e : Effect WebrtcStream StreamSection) : Prop :=
  Follows op e.next ∧ (e.started = [] ∨ op = .maybeRetire ∧ e.started = [[.dcClose]])

theorem Goes.quiet {s' : WebrtcStream} {next : List StreamSection} (ran : andThen next s' = some e)
    (unowned : Unowned next) : Goes op e := by
  cases ran
  exact ⟨⟨next, none, (List.append_nil _).symm, unowned, fun _ member => by cases member⟩,
    Or.inl rfl⟩

theorem Goes.last {s' : WebrtcStream} {quiet : List StreamSection} {last : StreamSection}
    (ran : andThen (quiet ++ [last]) s' = some e) (unowned : Unowned quiet)
    (owned : op.task.isSome = true) (same : last.task = op.task) : Goes op e := by
  cases ran
  refine ⟨⟨quiet, some last, rfl, unowned, fun other member => ?_⟩, Or.inl rfl⟩
  cases member
  exact ⟨owned, same⟩

theorem Goes.only {s' : WebrtcStream} {last : StreamSection} (ran : andThen [last] s' = some e)
    (owned : op.task.isSome = true) (same : last.task = op.task) : Goes op e :=
  .last (show andThen ([] ++ [last]) s' = some e from ran) unowned_nil owned same

theorem onFrame_goes {data : Bytes} (ran : s.onFrame data = some e) : Goes (.onFrame data) e := by
  unfold onFrame at ran
  split at ran
  · exact .quiet ran (unowned_single rfl)
  · split at ran
    · exact .quiet ran (unowned_single rfl)
    · exact .only ran rfl rfl
  · split at ran
    · exact .quiet ran (unowned_single rfl)
    · exact .quiet ran (unowned_single rfl)
  · split at ran
    · exact .quiet ran (unowned_single rfl)
    · exact .quiet ran ((unowned_discarded _).append (unowned_single rfl))
  · split at ran
    · exact .quiet ran unowned_nil
    · dsimp only at ran
      split at ran
      · exact .quiet ran (.cons rfl (.cons rfl (unowned_single rfl)))
      · exact .quiet ran (unowned_single rfl)
  · exact .quiet ran unowned_nil

theorem maybeRetire_goes (ran : s.maybeRetire = some e) : Goes .maybeRetire e := by
  unfold maybeRetire at ran
  split at ran
  · split at ran
    · split at ran
      · exact .quiet ran unowned_nil
      · exact .quiet ran (.cons rfl (unowned_single rfl))
    · cases ran
      exact ⟨⟨[], none, rfl, unowned_nil, fun _ member => by cases member⟩, Or.inr ⟨rfl, rfl⟩⟩
  · exact .quiet ran unowned_nil

theorem pollRead_goes {size : Nat} (ran : s.pollRead size = some e) : Goes (.pollRead size) e := by
  unfold pollRead at ran
  split at ran
  · exact .quiet ran (.cons rfl (unowned_single rfl))
  split at ran
  · exact .quiet ran unowned_nil
  split at ran
  · exact .quiet ran unowned_nil
  split at ran
  · exact .quiet ran unowned_nil
  split at ran <;> exact .quiet ran unowned_nil

theorem pollWrite_goes {buf : Bytes} (ran : s.pollWrite buf = some e) :
    Goes (.pollWrite buf) e := by
  unfold pollWrite at ran
  split at ran
  · exact .quiet ran unowned_nil
  split at ran
  · exact .quiet ran unowned_nil
  split at ran
  · exact .quiet ran unowned_nil
  split at ran <;> exact .only ran rfl rfl

theorem reserveCredit_goes {buf : Bytes} (ran : s.reserveCredit buf = some e) :
    Goes (.reserveCredit buf) e := by
  unfold reserveCredit at ran
  split at ran
  · exact .quiet ran unowned_nil
  · exact .quiet ran unowned_nil
  · exact .only ran rfl rfl

theorem queueData_goes {buf : Bytes} (ran : s.queueData buf = some e) :
    Goes (.queueData buf) e := by
  unfold queueData at ran
  dsimp only at ran
  split at ran
  · exact .only ran rfl rfl
  · split at ran <;> exact .quiet ran unowned_nil
  · exact .quiet ran unowned_nil

theorem reserveFin_goes (ran : s.reserveFin = some e) : Goes .reserveFin e := by
  unfold reserveFin at ran
  dsimp only at ran
  split at ran
  · exact .quiet ran unowned_nil
  · exact .quiet ran (.cons rfl (unowned_single rfl))
  · exact .only ran rfl rfl

theorem selectData_goes (ran : s.selectData = some e) : Goes .selectData e := by
  unfold selectData at ran
  split at ran
  · exact .only ran rfl rfl
  · split at ran
    · exact .only ran rfl rfl
    split at ran
    · exact .only ran rfl rfl
    · cases ran

theorem unowned_marks (frame : ParsedFrame) :
    Unowned (if isTerminal frame then [.markTerminalSent] else []) := by
  split
  · exact unowned_single rfl
  · exact unowned_nil

theorem writerSend_goes {frame : ParsedFrame} {reserved : UInt64}
    (ran : s.writerSend frame reserved = some e) : Goes (.writerSend frame reserved) e := by
  unfold writerSend at ran
  split at ran
  · exact .last ran ((unowned_settleReserved (fun _ => rfl) _).append (unowned_marks _)) rfl rfl
  · exact .last ran (unowned_settleReserved (fun _ => rfl) _) rfl rfl

/-- **What a section leaves to its task.** -/
theorem exec_follows (ran : s.exec op = some e) : Goes op e := by
  cases op with
  | onOpen => exact .quiet ran unowned_nil
  | onFrame data => exact onFrame_goes ran
  | onDataReceived payload =>
    simp only [exec] at ran
    split at ran
    · exact .quiet ran (unowned_single rfl)
    · exact .only ran rfl rfl
  | pushData payload =>
    simp only [exec] at ran
    split at ran
    · exact .quiet ran (unowned_single rfl)
    · exact .quiet ran unowned_nil
  | onChannelClose => exact .quiet ran (.cons rfl (.cons rfl (.cons rfl (unowned_single rfl))))
  | policeClose wireComplete =>
    simp only [exec] at ran
    split at ran
    · exact .quiet ran (unowned_single rfl)
    · exact .quiet ran unowned_nil
  | markClosed => exact .quiet ran unowned_nil
  | fatal code text => exact .quiet ran unowned_nil
  | consumed n =>
    refine .quiet ran fun op member => ?_
    obtain ⟨v, -, rfl⟩ := Option.map_eq_some_iff.mp (Option.mem_toList.mp member)
    rfl
  | lifeSend frame =>
    simp only [exec] at ran
    split at ran <;> exact .quiet ran unowned_nil
  | failSend => exact .quiet ran unowned_nil
  | maybeRetire => exact maybeRetire_goes ran
  | dropStream => exact .quiet ran unowned_nil
  | retired => exact .quiet ran unowned_nil
  | dcClose => exact .quiet ran unowned_nil
  | writerOpen =>
    simp only [exec] at ran
    split at ran
    · exact .only ran rfl rfl
    split at ran
    · exact .only ran rfl rfl
    · cases ran
  | selectLife =>
    simp only [exec] at ran
    split at ran <;> exact .only ran rfl rfl
  | selectData => exact selectData_goes ran
  | writerLife frame =>
    simp only [exec] at ran
    split at ran
    · exact .last ran (unowned_marks _) rfl rfl
    · exact .only ran rfl rfl
  | writerData frame reserved =>
    simp only [exec] at ran
    split at ran
    · exact .last ran (unowned_settleReserved (fun _ => rfl) _) rfl rfl
    · exact .only ran rfl rfl
  | writerRoom frame reserved =>
    simp only [exec] at ran
    split at ran
    · exact .last ran (unowned_settleReserved (fun _ => rfl) _) rfl rfl
    · exact .only ran rfl rfl
  | writerBuffered frame reserved =>
    simp only [exec] at ran
    split at ran <;> exact .only ran rfl rfl
  | writerSend frame reserved => exact writerSend_goes ran
  | markTerminalSent => exact .quiet ran (unowned_single rfl)
  | release n => exact .quiet ran unowned_nil
  | commit n => exact .quiet ran unowned_nil
  | writerEnd => exact .quiet ran unowned_nil
  | pollRead size => exact pollRead_goes ran
  | pollWrite buf => exact pollWrite_goes ran
  | reserveCredit buf => exact reserveCredit_goes ran
  | queueData buf => exact queueData_goes ran
  | refuseData => exact .quiet ran unowned_nil
  | pollShutdown =>
    simp only [exec] at ran
    split at ran
    · exact .quiet ran unowned_nil
    · exact .only ran rfl rfl
  | reserveFin => exact reserveFin_goes ran
  | undoFin => exact .quiet ran unowned_nil
  | closeWrite =>
    simp only [exec] at ran
    split at ran
    · exact .quiet ran unowned_nil
    · exact .last (show andThen ([.failSend] ++ [.sendFin]) _ = some e from ran)
        (unowned_single rfl)
        rfl rfl
  | sendFin =>
    simp only [exec] at ran
    split at ran
    · exact .quiet ran unowned_nil
    split at ran
    · exact .quiet ran (unowned_single rfl)
    · cases ran
  | resetWrite code =>
    simp only [exec] at ran
    split at ran
    · exact .quiet ran unowned_nil
    · exact .quiet ran (.cons rfl (.cons rfl (unowned_single rfl)))
  | cancelRead code =>
    simp only [exec] at ran
    split at ran
    · exact .quiet ran unowned_nil
    · refine .quiet ran (Unowned.append (Unowned.append (Unowned.append (unowned_single rfl)
        (unowned_discarded _)) ?_) (unowned_single rfl))
      split
      · exact unowned_nil
      · exact unowned_single rfl
  | markCancelled => exact .quiet ran unowned_nil
  | dropGrant =>
    simp only [exec] at ran
    split at ran <;> exact .quiet ran (unowned_single rfl)
  | dropSenders => exact .quiet ran unowned_nil

/-! ### Ownership in every run -/

/-- An owned section has at most a `cancel_read` below it. -/
def Shaped : List StreamSection → Prop
  | [] => True
  | op :: rest =>
    if op.task.isSome then ∀ below ∈ rest, below.isCancelRead = true else Shaped rest

/-- Each task owns its sections, and its stack is shaped. -/
structure Ruled (t : Tasks) : Prop where
  owned : ∀ task, t.Owned (ownedBy task) task.thread
  shaped : ∀ stack ∈ t.pool, Shaped stack

theorem unowned_countP {sections : List StreamSection} (quiet : Unowned sections) (task : Task) :
    sections.countP (ownedBy task) = 0 :=
  List.countP_eq_zero.mpr fun op member => by simp [ownedBy, quiet op member]

theorem unowned_find? {sections : List StreamSection} (quiet : Unowned sections) (task : Task) :
    sections.find? (ownedBy task) = none :=
  List.find?_eq_none.mpr fun op member => by simp [ownedBy, quiet op member]

theorem Follows.countP {next : List StreamSection} (follows : Follows op next) (task : Task) :
    next.countP (ownedBy task) ≤ if ownedBy task op then 1 else 0 := by
  obtain ⟨quiet, last, rfl, unowned, same⟩ := follows
  rw [List.countP_append, unowned_countP unowned, Nat.zero_add]
  cases last with
  | none => exact Nat.zero_le _
  | some other =>
    have same : other.task = op.task := (same other rfl).2
    have agree : ownedBy task other = ownedBy task op := by
      unfold ownedBy
      rw [same]
    rw [Option.toList_some, List.countP_singleton, agree]

theorem shaped_of_cancelRead {stack : List StreamSection}
    (only : ∀ op ∈ stack, op.isCancelRead = true) : Shaped stack := by
  induction stack with
  | nil => exact trivial
  | cons op rest ih =>
    have first := only op List.mem_cons_self
    have free : op.task = none := by
      obtain ⟨code, rfl⟩ := StreamSection.eq_cancelRead first
      rfl
    unfold Shaped
    rw [free, if_neg (by simp)]
    exact ih fun other member => only other (List.mem_cons_of_mem _ member)

theorem shaped_append {quiet rest : List StreamSection} (unowned : Unowned quiet)
    (shaped : Shaped rest) : Shaped (quiet ++ rest) := by
  induction quiet with
  | nil => exact shaped
  | cons op quiet ih =>
    rw [List.cons_append, Shaped, unowned op List.mem_cons_self, if_neg (by simp)]
    exact ih fun other member => unowned other (List.mem_cons_of_mem _ member)

theorem Follows.shaped {next rest : List StreamSection} (follows : Follows op next)
    (shaped : Shaped (op :: rest)) : Shaped (next ++ rest) := by
  obtain ⟨quiet, last, rfl, unowned, same⟩ := follows
  rw [List.append_assoc]
  refine shaped_append unowned ?_
  rw [Shaped] at shaped
  cases last with
  | none =>
    split at shaped
    · exact shaped_of_cancelRead shaped
    · exact shaped
  | some other =>
    obtain ⟨owned, same⟩ := same other rfl
    rw [owned, if_pos rfl] at shaped
    show Shaped (other :: rest)
    rw [Shaped, same, owned, if_pos rfl]
    exact shaped

theorem started_quiet (started : e.started = [] ∨ op = .maybeRetire ∧ e.started = [[.dcClose]]) :
    Unowned e.started.flatten := by
  rcases started with none | ⟨-, one⟩
  · rw [none]
    exact unowned_nil
  · rw [one]
    exact unowned_single rfl

theorem started_shaped (started : e.started = [] ∨ op = .maybeRetire ∧ e.started = [[.dcClose]]) :
    ∀ stack ∈ e.started, Shaped stack := by
  intro stack member
  rcases started with none | ⟨-, one⟩
  · rw [none] at member
    cases member
  · rw [one] at member
    rw [List.mem_singleton.mp member]
    simp [Shaped, StreamSection.task]

theorem Ruled.run {t t' : Tasks} (rules : Ruled t) {thread : Nat}
    (stepped : t.advance exec thread = some t') : Ruled t' := by
  obtain ⟨op, rest, e, top, ran, rfl⟩ := Threads.advance_eq_some.mp stepped
  obtain ⟨follows, started⟩ := exec_follows ran
  refine ⟨fun task => (rules.owned task).advance top (follows.countP task) fun other member => ?_,
    fun stack member => ?_⟩
  · simp [ownedBy, started_quiet started other member]
  · rcases List.mem_append.mp member with inside | new
    · rcases List.mem_or_eq_of_mem_set inside with old | rfl
      · exact rules.shaped stack old
      · exact follows.shaped (rules.shaped _ (List.mem_of_getElem? top))
    · exact started_shaped started stack new

theorem Method.sections_once (method : Method) (task : Task) :
    method.sections.countP (ownedBy task) ≤ 1 ∧
      (task ≠ .application → ∀ op ∈ method.sections, ownedBy task op = false) := by
  cases method <;> cases task <;> simp [Method.sections, ownedBy, StreamSection.task]

theorem Method.sections_shaped (method : Method) : Shaped method.sections := by
  cases method <;> simp [Method.sections, Shaped, StreamSection.task, StreamSection.isCancelRead]

theorem Ruled.resume {t t' : Tasks} (rules : Ruled t) {thread : Nat} {stack : List StreamSection}
    (resumed : t.resume thread stack = some t') (shaped : Shaped stack)
    (owned : ∀ task : Task, stack.countP (ownedBy task) ≤ 1 ∧
      (thread ≠ task.thread → ∀ op ∈ stack, ownedBy task op = false)) : Ruled t' := by
  refine ⟨fun task => (rules.owned task).resume resumed (owned task).2 (owned task).1,
    fun other member => ?_⟩
  unfold Threads.resume at resumed
  split at resumed <;> cases resumed
  rcases List.mem_or_eq_of_mem_set member with old | rfl
  · exact rules.shaped other old
  · exact shaped

theorem Ruled.start {t : Tasks} (rules : Ruled t) {stack : List StreamSection}
    (unowned : Unowned stack) : Ruled (t.start stack) := by
  refine ⟨fun task =>
    (rules.owned task).start fun op member => by simp [ownedBy, unowned op member],
    fun other member => ?_⟩
  rcases List.mem_append.mp member with old | new
  · exact rules.shaped other old
  · rw [List.mem_singleton.mp new]
    have shaped : Shaped (stack ++ []) := shaped_append unowned trivial
    rwa [List.append_nil] at shaped

theorem Ruled.touch {t : Tasks} (rules : Ruled t) (s : WebrtcStream) : Ruled (touch t s) :=
  ⟨fun task => ⟨(rules.owned task).here, (rules.owned task).elsewhere, (rules.owned task).once⟩,
    rules.shaped⟩

/-- **One step keeps the ownership.** -/
theorem Ruled.step {t t' : Tasks} {label : Label} (rules : Ruled t)
    (stepped : WebrtcStream.step t label = some t') : Ruled t' := by
  cases label with
  | run thread => exact rules.run stepped
  | call method =>
    simp only [WebrtcStream.step] at stepped
    split at stepped
    · cases stepped
    · refine rules.resume stepped method.sections_shaped fun task => ?_
      refine ⟨(method.sections_once task).1, fun other => (method.sections_once task).2 ?_⟩
      rintro rfl
      exact other rfl
  | dropFuture =>
    simp only [WebrtcStream.step] at stepped
    split at stepped
    · next rest top =>
      cases stepped
      refine ⟨fun task => ?_, fun stack member => ?_⟩
      · by_cases same : task = .application
        · subst same
          exact (rules.owned .application).clear.1
        · have other :
            (2 : Nat) ≠ task.thread := by cases task <;> first | decide | exact absurd rfl same
          refine (rules.owned task).set (fun _ op member => absurd member List.not_mem_nil) ?_
          have once := (rules.owned task).once
          rw [← (Threads.pending_clear top).countP_eq, List.countP_append] at once
          exact le_trans (Nat.le_add_left _ _) once
      · rcases List.mem_or_eq_of_mem_set member with old | rfl
        · exact rules.shaped stack old
        · exact trivial
    · cases stepped
  | channelOpen =>
    simp only [WebrtcStream.step] at stepped
    split at stepped <;> cases stepped
    exact (rules.touch _).start (unowned_single rfl)
  | message data =>
    simp only [WebrtcStream.step] at stepped
    split at stepped
    · refine rules.resume stepped (by simp [Shaped, StreamSection.task]) fun task => ?_
      cases task <;> simp [ownedBy, StreamSection.task, Task.thread]
    · cases stepped
  | channelClosed =>
    simp only [WebrtcStream.step] at stepped
    split at stepped
    · cases stepped
    · refine (rules.touch _).resume stepped (by simp [Shaped, StreamSection.task]) fun task => ?_
      cases task <;> simp [ownedBy, StreamSection.task, Task.thread]
  | buffered amount =>
    cases stepped
    exact rules.touch _
  | credit flow =>
    cases stepped
    exact rules.touch _
  | teardown =>
    cases stepped
    exact rules.touch _

theorem ruled_start (flow : ConnFlow) (peerInitiated isOpen : Bool) :
    Ruled (start flow peerInitiated isOpen) := by
  refine ⟨fun task => ⟨?_, fun j stack found other op member => ?_, ?_⟩, fun stack member => ?_⟩
  · show task.thread < 3
    cases task <;> decide
  · match j, found with
    | 0, found => cases found; cases member
    | 1, found =>
      cases found
      rw [List.mem_singleton.mp member]
      cases task with
      | writer => exact absurd rfl other
      | callbacks => rfl
      | application => rfl
    | 2, found => cases found; cases member
  · show [StreamSection.writerOpen].countP (ownedBy task) ≤ 1
    cases task <;> decide
  · simp only [WebrtcStream.start, List.mem_cons, List.not_mem_nil, or_false] at member
    rcases member with rfl | rfl | rfl <;> simp [Shaped, StreamSection.task]

end WebrtcStream

end Kps.Rust
