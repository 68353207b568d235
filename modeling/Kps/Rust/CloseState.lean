/-
**The close state of a Rust connection** (`CloseState` of `conn.rs`, and those who read it).

`mark` swaps the flag, writes the reason under a mutex and notifies the waiters, in three sections.
An observer sees the flag, and reads the reason in a section of its own. `wait` registers with
`notify_waiters` before it looks at the flag, and a waiter that is parked goes on when it is
notified. Any number of marks and of observers run at the same time.

* `Inv.step` — every write is of the reason of the mark that won the swap, and one that is written
  stays;
* `close_state_published` — every observer reads that reason if and only if none reads between the
  winner's swap and its write of a reason;
* `close_state_unpublished` — an observer that does takes a coded failure for a clean close.
-/

import Kps.Lib.Run
import Kps.Lib.Threads
import Kps.Rust.Flow

namespace Kps.Rust

open Kps.Lib

/-- Who looks at the close state. -/
inductive Observer
  /-- `closed`. -/
  | closed
  | waitEstablished
  | acceptStream
  | err
  /-- The task that fails the credit waiters. -/
  | watcher
  deriving DecidableEq, Repr

inductive CloseSection
  /-- The sections of `mark`. -/
  | swap (reason : Option StreamError)
  | write (reason : Option StreamError)
  | notifyWaiters
  | isClosed (o : Observer)
  /-- The sections of `wait`: `enable`, the check, and `notified.await`. -/
  | enable (o : Observer)
  | check (o : Observer) (since : Nat)
  | parked (o : Observer) (since : Nat)
  /-- `err.lock()`. -/
  | lockErr (o : Observer)
  | failFlow (reason : Option StreamError)
  deriving DecidableEq, Repr

namespace Observer

/-- What an observer does first. -/
def sections : Observer → List CloseSection
  | acceptStream => [.isClosed acceptStream]
  | err => [.isClosed err]
  | o => [.enable o]

/-- What it does when it finds the connection open. -/
def onOpen : Observer → List CloseSection
  | acceptStream => [.enable acceptStream]
  | _ => []

/-- What it does when its wait returns. -/
def onClosed : Observer → List CloseSection
  | closed => []
  | acceptStream => [.isClosed acceptStream]
  | o => [.lockErr o]

/-- What it does with the reason. -/
def onRead (reason : Option StreamError) : Observer → List CloseSection
  | watcher => [.failFlow reason]
  | _ => []

end Observer

/-- `CloseState`, and the credit of the connection. `notifies` counts the calls of `notify_waiters`;
`winner` is the reason of the mark that won the swap, and `reads` logs what the observers read. -/
structure CloseState where
  flow : ConnFlow
  err : Option StreamError := none
  closed : Bool := false
  notifies : Nat := 0
  winner : Option (Option StreamError) := none
  reads : List (Observer × Option StreamError) := []

namespace CloseState

abbrev Tasks := Threads CloseState CloseSection

def andThen (next : List CloseSection) (s : CloseState) : Option (Effect CloseState CloseSection) :=
  some ⟨s, next, []⟩

def exec (s : CloseState) : CloseSection → Option (Effect CloseState CloseSection)
  | .swap reason =>
    if s.closed then andThen [] s
    else andThen [.write reason, .notifyWaiters] { s with closed := true, winner := some reason }
  | .write reason => andThen [] { s with err := reason }
  | .notifyWaiters => andThen [] { s with notifies := s.notifies + 1 }
  | .isClosed o => andThen (if s.closed then [.lockErr o] else o.onOpen) s
  | .enable o => andThen [.check o s.notifies] s
  | .check o since => andThen (if s.closed then o.onClosed else [.parked o since]) s
  | .parked o since => if since < s.notifies then andThen [.enable o] s else none
  | .lockErr o => andThen (o.onRead s.err) { s with reads := s.reads ++ [(o, s.err)] }
  | .failFlow reason => andThen [] { s with flow := s.flow.fail reason }

inductive Label
  | run (thread : Nat)
  | mark (reason : Option StreamError)
  | observe (o : Observer)
  /-- A parked observer is woken by another branch of its `select!`, and starts over or returns. -/
  | leave (thread : Nat) (again : Bool)
  deriving DecidableEq, Repr

def step (t : Tasks) : Label → Option Tasks
  | .run thread => t.advance exec thread
  | .mark reason => some (t.start [.swap reason])
  | .observe o => some (t.start o.sections)
  | .leave thread again =>
    match t.pool[thread]? with
    | some [.parked o _] => some ⟨t.shared, t.pool.set thread (if again then o.sections else [])⟩
    | _ => none

def new (limits : FlowWindows) : Tasks := ⟨{ flow := .new limits }, []⟩

variable {s : CloseState} {t t' : Tasks} {op : CloseSection} {e : Effect CloseState CloseSection}
    {label : Label}

/-! ### What a section does to the flag and the reason -/

/-- The flag and the reason are as they were, and what follows reads a reason only if the flag is
set. -/
structure Leaves (s : CloseState) (e : Effect CloseState CloseSection) : Prop where
  closed : e.shared.closed = s.closed
  winner : e.shared.winner = s.winner
  err : e.shared.err = s.err
  started : e.started = []
  unwritten : ∀ reason, .write reason ∉ e.next
  reads : ∀ o, .lockErr o ∈ e.next → s.closed = true

theorem onOpen_quiet (o : Observer) : ∀ op ∈ o.onOpen, op = .enable .acceptStream := by
  cases o <;> simp [Observer.onOpen]

theorem onClosed_quiet (o : Observer) : ∀ op ∈ o.onClosed, op = .isClosed o ∨ op = .lockErr o := by
  cases o <;> simp [Observer.onClosed]

theorem onRead_quiet (o : Observer) (reason : Option StreamError) :
    ∀ op ∈ o.onRead reason, op = .failFlow reason := by
  cases o <;> simp [Observer.onRead]

/-- **What a section does**: it wins the swap, writes the reason, or leaves both. -/
theorem exec_cases (ran : s.exec op = some e) :
    (∃ reason, op = .swap reason ∧ s.closed = false ∧
      e = ⟨{ s with closed := true, winner := some reason }, [.write reason, .notifyWaiters], []⟩) ∨
    (∃ reason, op = .write reason ∧ e = ⟨{ s with err := reason }, [], []⟩) ∨
    (Leaves s e ∧ ∀ reason, op ≠ .write reason) := by
  cases op with
  | swap reason =>
    simp only [exec] at ran
    split at ran
    · cases ran
      exact Or.inr (Or.inr ⟨⟨rfl, rfl, rfl, rfl, by simp, by simp⟩, by simp⟩)
    · next opened =>
      cases ran
      exact Or.inl ⟨reason, rfl, Bool.not_eq_true _ ▸ opened, rfl⟩
  | write reason =>
    cases ran
    exact Or.inr (Or.inl ⟨reason, rfl, rfl⟩)
  | notifyWaiters =>
    cases ran
    exact Or.inr (Or.inr ⟨⟨rfl, rfl, rfl, rfl, by simp, by simp⟩, by simp⟩)
  | isClosed o =>
    cases ran
    refine Or.inr
      (Or.inr ⟨⟨rfl, rfl, rfl, rfl, fun reason member => ?_, fun other member => ?_⟩, by simp⟩)
    · dsimp only at member
      split at member
      · simp at member
      · cases onOpen_quiet o _ member
    · dsimp only at member
      split at member
      · assumption
      · cases onOpen_quiet o _ member
  | enable o =>
    cases ran
    exact Or.inr (Or.inr ⟨⟨rfl, rfl, rfl, rfl, by simp, by simp⟩, by simp⟩)
  | check o since =>
    cases ran
    refine Or.inr
      (Or.inr ⟨⟨rfl, rfl, rfl, rfl, fun reason member => ?_, fun other member => ?_⟩, by simp⟩)
    · dsimp only at member
      split at member
      · rcases onClosed_quiet o _ member with same | same <;> cases same
      · simp at member
    · dsimp only at member
      split at member
      · assumption
      · simp at member
  | parked o since =>
    simp only [exec] at ran
    split at ran <;> cases ran
    exact Or.inr (Or.inr ⟨⟨rfl, rfl, rfl, rfl, by simp, by simp⟩, by simp⟩)
  | lockErr o =>
    cases ran
    refine Or.inr
      (Or.inr ⟨⟨rfl, rfl, rfl, rfl, fun reason member => ?_, fun other member => ?_⟩, by simp⟩)
    · cases onRead_quiet o _ _ member
    · cases onRead_quiet o _ _ member
  | failFlow reason =>
    cases ran
    exact Or.inr (Or.inr ⟨⟨rfl, rfl, rfl, rfl, by simp, by simp⟩, by simp⟩)

/-- A write of the reason. -/
def isWrite : CloseSection → Bool
  | .write _ => true
  | _ => false

/-- A write, or a section of a reader that saw the flag. -/
def matters : CloseSection → Bool
  | .write _ => true
  | .lockErr _ => true
  | .failFlow _ => true
  | _ => false

/-- **Threads start and leave their waits** without the flag or the reason. -/
theorem step_other (stepped : step t label = some t') (notRun : ∀ thread, label ≠ .run thread) :
    t'.shared = t.shared ∧ (t'.pending.filter matters).Perm (t.pending.filter matters) := by
  have quiet (o : Observer) : o.sections.filter matters = [] := by
    cases o <;> rfl
  have starts {stack : List CloseSection} (none : stack.filter matters = []) :
      ((t.start stack).pending.filter matters).Perm (t.pending.filter matters) := by
    rw [Threads.pending_start, List.filter_append, none, List.append_nil]
  cases label with
  | run thread => exact absurd rfl (notRun thread)
  | mark reason =>
    cases stepped
    exact ⟨rfl, starts rfl⟩
  | observe o =>
    cases stepped
    exact ⟨rfl, starts (quiet o)⟩
  | leave thread again =>
    simp only [CloseState.step] at stepped
    split at stepped
    · next o since found =>
      cases stepped
      refine ⟨rfl, ?_⟩
      have perm := (Threads.pending_replace (if again then o.sections else []) found).filter matters
      have none : (if again then o.sections else []).filter matters = [] := by
        split
        · exact quiet o
        · rfl
      rw [List.filter_append, List.filter_append, none] at perm
      exact perm
    · cases stepped

/-- So the pending sections that matter are the same. -/
theorem mem_other (same : (t'.pending.filter matters).Perm (t.pending.filter matters))
    {op : CloseSection} (matter : matters op = true) : op ∈ t'.pending ↔ op ∈ t.pending := by
  have found := same.mem_iff (a := op)
  rwa [List.mem_filter, List.mem_filter, matter, and_iff_left rfl, and_iff_left rfl] at found

theorem countP_isWrite (ops : List CloseSection) :
    (ops.filter matters).countP isWrite = ops.countP isWrite := by
  rw [List.countP_filter]
  refine List.countP_congr fun op _ => ?_
  cases op <;> simp [isWrite, matters]

theorem countP_run {thread : Nat} {rest : List CloseSection}
    (top : t.pool[thread]? = some (op :: rest)) (started : e.started = []) :
    (⟨e.shared, t.pool.set thread (e.next ++ rest) ++ e.started⟩ : Tasks).pending.countP isWrite =
      e.next.countP isWrite + t.pending.countP isWrite - [op].countP isWrite := by
  have count := (Threads.pending_advance (e := e) top).countP_eq isWrite
  rw [List.countP_append, List.countP_append, List.countP_cons, started, List.flatten_nil,
    List.countP_nil] at count
  rw [started, List.countP_singleton]
  omega

/-! ### The reason in every run -/

/-- `winner` is the reason of the mark that won, and the only one that is or will be written. -/
structure Inv (t : Tasks) : Prop where
  opened : t.shared.closed = false → t.shared.winner = none ∧ t.shared.err = none
  writes : ∀ reason, .write reason ∈ t.pending → t.shared.winner = some reason ∧ t.shared.err = none
  once : t.pending.countP isWrite ≤ 1
  reads : ∀ o, .lockErr o ∈ t.pending → t.shared.closed = true
  settled : t.shared.closed = true →
    (∃ reason, .write reason ∈ t.pending) ∨ t.shared.winner = some t.shared.err
  stored : t.shared.err = none ∨ t.shared.winner = some t.shared.err

theorem Inv.congr (inv : Inv t) (shared : t'.shared = t.shared)
    (same : (t'.pending.filter matters).Perm (t.pending.filter matters)) : Inv t' := by
  have mem {op : CloseSection} (matter : matters op = true) := mem_other same matter
  refine ⟨?_, fun reason member => ?_, ?_, fun o member => ?_, fun closed => ?_, ?_⟩
  · rw [shared]
    exact inv.opened
  · rw [shared]
    exact inv.writes reason ((mem rfl).mp member)
  · have count := same.countP_eq isWrite
    rw [countP_isWrite, countP_isWrite] at count
    rw [count]
    exact inv.once
  · rw [shared]
    exact inv.reads o ((mem rfl).mp member)
  · rw [shared] at closed ⊢
    exact (inv.settled closed).imp_left fun ⟨reason, member⟩ => ⟨reason, (mem rfl).mpr member⟩
  · rw [shared]
    exact inv.stored

/-- **One step keeps the invariant.** -/
theorem Inv.step (inv : Inv t) (stepped : step t label = some t') : Inv t' := by
  by_cases runs : ∃ thread, label = .run thread
  · obtain ⟨thread, rfl⟩ := runs
    obtain ⟨op, rest, e, top, ran, rfl⟩ := Threads.advance_eq_some.mp stepped
    obtain ⟨pushed, kept, comes⟩ := Threads.pending_members (e := e) top
    rcases exec_cases ran with ⟨reason, rfl, opened, rfl⟩ | ⟨reason, rfl, rfl⟩ | ⟨leaves, other⟩
    · have unwritten : t.pending.countP isWrite = 0 := by
        refine List.countP_eq_zero.mpr fun op member => ?_
        cases op with
        | write other =>
          have winner := (inv.writes other member).1
          rw [(inv.opened opened).1] at winner
          cases winner
        | _ => simp [isWrite]
      refine ⟨fun closed => Bool.noConfusion closed, fun other member => ?_, ?_, fun _ _ => rfl,
        fun _ => Or.inl ⟨reason, pushed _ (by simp)⟩, Or.inl (inv.opened opened).2⟩
      · refine ⟨?_, (inv.opened opened).2⟩
        rcases comes _ member with new | new | old
        · simp at new
          rw [new]
        · cases new
        · exact absurd rfl (List.countP_eq_zero.mp unwritten _ old)
      · refine (countP_run top rfl).trans_le ?_
        rw [unwritten]
        exact Nat.le_refl 1
    · obtain ⟨winner, -⟩ := inv.writes reason (Threads.mem_pending top)
      have unwritten : (⟨{ t.shared with err := reason }, t.pool.set thread ([] ++ rest) ++ []⟩ :
          Tasks).pending.countP isWrite = 0 := by
        refine (countP_run (e := ⟨{ t.shared with err := reason }, [], []⟩) top rfl).trans ?_
        have once := inv.once
        simp only [List.countP_nil, List.countP_singleton, isWrite, if_true]
        omega
      refine ⟨fun closed => ?_,
        fun other member => absurd rfl (List.countP_eq_zero.mp unwritten _ member),
        unwritten.trans_le (Nat.zero_le 1), fun o member => ?_, fun _ => Or.inr winner,
        Or.inr winner⟩
      · have none := (inv.opened closed).1
        rw [winner] at none
        cases none
      · rcases comes _ member with new | new | old
        · cases new
        · cases new
        · exact inv.reads o old
    · refine ⟨fun closed => ?_, fun reason member => ?_, ?_, fun o member => ?_, fun closed => ?_,
        ?_⟩
      · rw [leaves.winner, leaves.err]
        exact inv.opened (leaves.closed ▸ closed)
      · rw [leaves.winner, leaves.err]
        rcases comes _ member with new | new | old
        · exact absurd new (leaves.unwritten reason)
        · rw [leaves.started] at new
          cases new
        · exact inv.writes reason old
      · have none : e.next.countP isWrite = 0 := by
          refine List.countP_eq_zero.mpr fun op member => ?_
          cases op with
          | write reason => exact absurd member (leaves.unwritten reason)
          | _ => simp [isWrite]
        refine (countP_run top leaves.started).trans_le ?_
        have once := inv.once
        omega
      · rw [leaves.closed]
        rcases comes _ member with new | new | old
        · exact leaves.reads o new
        · rw [leaves.started] at new
          cases new
        · exact inv.reads o old
      · rw [leaves.winner, leaves.err]
        refine (inv.settled (leaves.closed ▸ closed)).imp_left fun ⟨reason, member⟩ => ⟨reason, ?_⟩
        exact (kept _ member).resolve_left (Ne.symm (other reason))
      · rw [leaves.winner, leaves.err]
        exact inv.stored
  · obtain ⟨shared, same⟩ := step_other stepped fun thread is => runs ⟨thread, is⟩
    exact inv.congr shared same

theorem inv_new (limits : FlowWindows) : Inv (new limits) where
  opened _ := ⟨rfl, rfl⟩
  writes _ member := by cases member
  once := Nat.zero_le 1
  reads _ member := by cases member
  settled closed := Bool.noConfusion closed
  stored := Or.inl rfl

/-- The winner wrote its reason. -/
def Written (t : Tasks) : Prop := t.shared.closed = true ∧ ∀ reason, .write reason ∉ t.pending

/-- **The first mark wins for good**, and what it wrote is never written over. -/
theorem step_keeps (stepped : CloseState.step t label = some t') (closed : t.shared.closed = true) :
    t'.shared.closed = true ∧ t'.shared.winner = t.shared.winner ∧ (Written t → Written t') := by
  by_cases runs : ∃ thread, label = .run thread
  · obtain ⟨thread, rfl⟩ := runs
    obtain ⟨op, rest, e, top, ran, rfl⟩ := Threads.advance_eq_some.mp stepped
    have comes := (Threads.pending_members (e := e) top).2.2
    rcases exec_cases ran with ⟨reason, rfl, opened, rfl⟩ | ⟨reason, rfl, rfl⟩ | ⟨leaves, -⟩
    · rw [closed] at opened
      cases opened
    · exact ⟨closed, rfl, fun written => absurd (Threads.mem_pending top) (written.2 reason)⟩
    · refine ⟨leaves.closed.trans closed, leaves.winner,
        fun written => ⟨leaves.closed.trans closed, ?_⟩⟩
      intro reason member
      rcases comes _ member with new | new | old
      · exact leaves.unwritten reason new
      · rw [leaves.started] at new
        cases new
      · exact written.2 reason old
  · obtain ⟨shared, same⟩ := step_other stepped fun thread is => runs ⟨thread, is⟩
    rw [shared]
    refine ⟨closed, rfl, fun written => ⟨shared ▸ closed, fun reason member => written.2 reason ?_⟩⟩
    exact (mem_other same rfl).mp member

theorem run_keeps {labels : List Label} (ran : run CloseState.step t labels = some t')
    (closed : t.shared.closed = true) :
    t'.shared.closed = true ∧ t'.shared.winner = t.shared.winner ∧ (Written t → Written t') := by
  have preserves (now : Tasks) (label : Label) (next : Tasks)
      (held : now.shared.closed = true ∧ now.shared.winner = t.shared.winner ∧
        (Written t → Written now))
      (stepped : CloseState.step now label = some next) :
      next.shared.closed = true ∧ next.shared.winner = t.shared.winner ∧
        (Written t → Written next) := by
    obtain ⟨closed, winner, written⟩ := held
    obtain ⟨closed', winner', written'⟩ := step_keeps stepped closed
    exact ⟨closed', winner'.trans winner, fun first => written' (written first)⟩
  exact run_invariant preserves ⟨closed, rfl, fun written => written⟩ ran

theorem Inv.err_of_written (inv : Inv t) (written : Written t) :
    t.shared.winner = some t.shared.err :=
  (inv.settled written.1).resolve_left fun ⟨reason, member⟩ => written.2 reason member

/-! ### What the observers read -/

/-- A reason that is not written yet. -/
def unwritten : CloseSection → Bool
  | .write (some _) => true
  | _ => false

/-- The reader whose next section reads the reason. -/
def readsErr : Option (List CloseSection) → Bool
  | some (.lockErr _ :: _) => true
  | _ => false

/-- Nobody reads between the winner's swap and its write of a reason. -/
def ReadsWritten (t : Tasks) : Label → Prop
  | .run thread => readsErr t.pool[thread]? = true → ∀ op ∈ t.pending, unwritten op = false
  | _ => True

instance (t : Tasks) (label : Label) : Decidable (ReadsWritten t label) := by
  unfold ReadsWritten
  split <;> infer_instance

/-- Every observer that saw the flag read the reason of the mark that won, and so do those who wait
for credit. -/
structure Published (t : Tasks) : Prop where
  reads : ∀ read ∈ t.shared.reads, t.shared.winner = some read.2
  flow : t.shared.flow.isFailed = true → t.shared.winner = some t.shared.flow.failed

/-- What was read, and what is on its way to the credit. -/
structure Told (t : Tasks) : Prop where
  published : Published t
  fails : ∀ reason, .failFlow reason ∈ t.pending → t.shared.winner = some reason

theorem Inv.reads_winner (inv : Inv t) (closed : t.shared.closed = true)
    (written : ∀ op ∈ t.pending, unwritten op = false) : t.shared.winner = some t.shared.err := by
  rcases inv.settled closed with ⟨reason, member⟩ | winner
  · obtain ⟨winner, none⟩ := inv.writes reason member
    rw [winner, none]
    cases reason with
    | none => rfl
    | some error => exact absurd (written _ member) (by simp [unwritten])
  · exact winner

/-- **One step tells the winner's reason**, if it does not read before the reason is written. -/
theorem Told.step (told : Told t) (inv : Inv t) (reads : ReadsWritten t label)
    (stepped : CloseState.step t label = some t') : Told t' := by
  have winner {reason : Option StreamError} (won : t.shared.winner = some reason) :
      t'.shared.winner = some reason := by
    have closed : t.shared.closed = true := by
      by_contra opened
      rw [(inv.opened (Bool.not_eq_true _ ▸ opened)).1] at won
      cases won
    exact (step_keeps stepped closed).2.1.trans won
  by_cases runs : ∃ thread, label = .run thread
  · obtain ⟨thread, rfl⟩ := runs
    obtain ⟨op, rest, e, top, ran, rfl⟩ := Threads.advance_eq_some.mp stepped
    have comes := (Threads.pending_members (e := e) top).2.2
    -- a section that neither reads nor fails the credit
    have quiet (log : e.shared.reads = t.shared.reads) (flow : e.shared.flow = t.shared.flow)
        (next : ∀ reason, .failFlow reason ∉ e.next) (started : e.started = []) :
        Told ⟨e.shared, t.pool.set thread (e.next ++ rest) ++ e.started⟩ := by
      refine ⟨⟨fun read member => winner (told.published.reads read (log ▸ member)), ?_⟩,
        fun reason member => ?_⟩
      · show e.shared.flow.isFailed = true → _
        intro failed
        have was := winner (told.published.flow (flow ▸ failed))
        show e.shared.winner = some e.shared.flow.failed
        rw [flow]
        exact was
      · rcases comes _ member with new | new | old
        · exact absurd new (next reason)
        · rw [started] at new
          cases new
        · exact winner (told.fails reason old)
    cases op with
    | lockErr o =>
      cases ran
      have now := inv.reads_winner (inv.reads o (Threads.mem_pending top))
        (reads (by rw [top]; rfl))
      refine ⟨⟨fun read member => ?_, told.published.flow⟩, fun reason member => ?_⟩
      · rcases List.mem_append.mp member with old | new
        · exact told.published.reads read old
        · rw [List.mem_singleton.mp new]
          exact now
      · rcases comes _ member with new | new | old
        · cases onRead_quiet o _ _ new
          exact now
        · cases new
        · exact told.fails reason old
    | failFlow reason =>
      cases ran
      have won := told.fails reason (Threads.mem_pending top)
      refine ⟨⟨told.published.reads, fun failed => ?_⟩, fun other member => ?_⟩
      · show t.shared.winner = some (t.shared.flow.fail reason).failed
        by_cases before : t.shared.flow.isFailed = true
        · have same : t.shared.flow.fail reason = t.shared.flow := by
            unfold ConnFlow.fail
            rw [if_pos before]
          rw [same]
          exact told.published.flow before
        · have same : (t.shared.flow.fail reason).failed = reason := by
            unfold ConnFlow.fail
            rw [if_neg before]
            rfl
          rw [same]
          exact won
      · rcases comes _ member with new | new | old
        · cases new
        · cases new
        · exact told.fails other old
    | swap reason =>
      simp only [exec] at ran
      split at ran <;> cases ran
      · exact quiet rfl rfl (by simp) rfl
      · exact quiet rfl rfl (by simp) rfl
    | write reason =>
      cases ran
      exact quiet rfl rfl (by simp) rfl
    | notifyWaiters =>
      cases ran
      exact quiet rfl rfl (by simp) rfl
    | isClosed o =>
      cases ran
      refine quiet rfl rfl (fun reason member => ?_) rfl
      dsimp only at member
      split at member
      · simp at member
      · cases onOpen_quiet o _ member
    | enable o =>
      cases ran
      exact quiet rfl rfl (by simp) rfl
    | check o since =>
      cases ran
      refine quiet rfl rfl (fun reason member => ?_) rfl
      dsimp only at member
      split at member
      · rcases onClosed_quiet o _ member with same | same <;> cases same
      · simp at member
    | parked o since =>
      simp only [exec] at ran
      split at ran <;> cases ran
      exact quiet rfl rfl (by simp) rfl
  · obtain ⟨shared, same⟩ := step_other stepped fun thread is => runs ⟨thread, is⟩
    refine ⟨⟨fun read member => ?_, fun failed => ?_⟩, fun reason member => ?_⟩
    · rw [shared] at member ⊢
      exact told.published.reads read member
    · rw [shared] at failed ⊢
      exact told.published.flow failed
    · rw [shared]
      exact told.fails reason ((mem_other same rfl).mp member)

/-- **A read between the swap and the write is of another reason.** -/
theorem Inv.unpublished (inv : Inv t) (early : ¬ ReadsWritten t label) :
    ∃ t', CloseState.step t label = some t' ∧ ¬ Published t' := by
  cases label with
  | run thread =>
    simp only [ReadsWritten, Classical.not_imp, not_forall] at early
    obtain ⟨reader, op, member, unwritten'⟩ := early
    unfold readsErr at reader
    split at reader
    · next o rest top =>
      refine ⟨_, Threads.advance_eq_some.mpr ⟨_, _, _, top, rfl, rfl⟩, fun published => ?_⟩
      cases op with
      | write reason =>
        obtain ⟨winner, none⟩ := inv.writes reason member
        have read :=
          published.reads (o, t.shared.err) (List.mem_append_right _ (List.mem_singleton_self _))
        have read : t.shared.winner = some t.shared.err := read
        rw [winner, none] at read
        cases read
        exact unwritten' rfl
      | _ => exact unwritten' rfl
    · cases reader
  | _ => exact absurd trivial early

theorem told_new (limits : FlowWindows) : Told (new limits) :=
  ⟨⟨fun _ member => absurd member List.not_mem_nil, fun failed => Bool.noConfusion failed⟩,
    fun _ member => absurd member List.not_mem_nil⟩

/-- **The reason that is published.** In every run the first mark to swap wins for good, only its
reason is written, and it stays once it is; and in every state of a run every observer that saw the
flag has read that reason if and only if nobody reads between the winner's swap and its write of a
reason. -/
theorem close_state_published {limits : FlowWindows} {labels : List Label} :
    (∀ t, run step (new limits) labels = some t → t.shared.closed = true →
      (∃ reason, t.shared.winner = some reason ∧ (t.shared.err = none ∨ t.shared.err = reason) ∧
        (Written t → t.shared.err = reason) ∧ ∀ other, .write other ∈ t.pending → other = reason) ∧
      ∀ later t', run step t later = some t' → t'.shared.closed = true ∧
        t'.shared.winner = t.shared.winner ∧
        (Written t → Written t' ∧ t'.shared.err = t.shared.err)) ∧
    ((∀ before t, before <+: labels → run step (new limits) before = some t → Published t) ↔
      Meets step ReadsWritten (new limits) labels) := by
  have inv_run {labels : List Label} {t : Tasks} (ran : run step (new limits) labels = some t) :
      Inv t :=
    run_invariant (fun _ _ _ inv stepped => Inv.step inv stepped) (inv_new limits) ran
  refine ⟨fun t ran closed => ⟨?_, fun later t' rest => ?_⟩, fun published => ?_,
    fun meets before t head ran => ?_⟩
  · have inv := inv_run ran
    have won : ∃ reason, t.shared.winner = some reason := by
      rcases inv.settled closed with ⟨reason, member⟩ | winner
      · exact ⟨reason, (inv.writes reason member).1⟩
      · exact ⟨_, winner⟩
    obtain ⟨reason, winner⟩ := won
    refine ⟨reason, winner, inv.stored.imp_right fun stored => ?_, fun written => ?_,
      fun other member => ?_⟩
    · rw [winner] at stored
      exact (Option.some.inj stored).symm
    · have stored := inv.err_of_written written
      rw [winner] at stored
      exact (Option.some.inj stored).symm
    · have same := (inv.writes other member).1
      rw [winner] at same
      exact (Option.some.inj same).symm
  · obtain ⟨closed', winner, written⟩ := run_keeps rest closed
    refine ⟨closed', winner, fun first => ⟨written first, ?_⟩⟩
    have inv := inv_run ran
    have inv' := inv_run (run_append.mpr ⟨t, ran, rest⟩)
    have same :=
      (inv'.err_of_written (written first)).symm.trans (winner.trans (inv.err_of_written first))
    exact Option.some.inj same
  · refine meets_of_never_of_inv (fun _ _ _ inv stepped => Inv.step inv stepped)
      (fun _ _ inv early => inv.unpublished early) (inv_new limits) fun before t head ran => ?_
    exact not_not_intro (published before t head ran)
  · refine of_meets_of_before (fun labels t meets ran => ?_) meets head ran
    have preserves : ∀ t label t', ReadsWritten t label → Inv t ∧ Told t → step t label = some t' →
        Inv t' ∧ Told t' := fun t label t' reads held stepped =>
      ⟨held.1.step stepped, held.2.step held.1 reads stepped⟩
    exact (run_invariant_of_meets preserves meets ⟨inv_new limits, told_new limits⟩ ran).2.published

/-- Two marks race for the swap, and `err` and the watcher look at what the winner wrote. -/
def marksTwice : List Label :=
  [.mark (some ⟨.protocolError, false⟩), .mark none, .observe .watcher, .run 2, .run 2, .run 0,
    .run 1, .run 0, .observe .err, .run 3, .run 3, .run 0, .run 2, .run 2, .run 2, .run 2, .run 2]

theorem close_state_published_marksTwice :
    ∃ t, run step (new defaultFlowLimits) marksTwice = some t ∧
    t.shared.reads =
      [(.err, some ⟨.protocolError, false⟩), (.watcher, some ⟨.protocolError, false⟩)] ∧
    t.shared.flow.failed = some ⟨.protocolError, false⟩ ∧ Published t := by
  have marks : (run step (new defaultFlowLimits) marksTwice).any (fun t => decide (
      t.shared.reads =
        [(.err, some ⟨.protocolError, false⟩), (.watcher, some ⟨.protocolError, false⟩)] ∧
        t.shared.flow.failed = some ⟨.protocolError, false⟩)) = true := by decide +kernel
  have meets : Meets step ReadsWritten (new defaultFlowLimits) marksTwice := by decide +kernel
  obtain ⟨t, ran, both⟩ := (Option.any_eq_true _ _).mp marks
  obtain ⟨reads, failed⟩ := of_decide_eq_true both
  exact ⟨t, ran, reads, failed, close_state_published.2.mpr meets _ t (List.prefix_refl _) ran⟩

/-- The connection ends with `protocol-error`; `err` and the watcher look between the swap and the
write. -/
def readsEarly : List Label :=
  [.mark (some ⟨.protocolError, false⟩), .observe .err, .observe .watcher, .run 0, .run 1, .run 1,
    .run 2, .run 2, .run 2, .run 2]

/-- **A coded failure reads as a clean close**, and is passed on to every credit waiter. -/
theorem close_state_unpublished : ∃ t, run step (new defaultFlowLimits) readsEarly = some t ∧
    t.shared.winner = some (some ⟨.protocolError, false⟩) ∧
    t.shared.reads = [(.err, none), (.watcher, none)] ∧ t.shared.flow.isFailed = true ∧
    t.shared.flow.failure = .connClosed ∧ ¬ Published t := by
  have early : (run step (new defaultFlowLimits) readsEarly).any (fun t => decide (
      t.shared.winner = some (some ⟨.protocolError, false⟩) ∧
        t.shared.reads = [(.err, none), (.watcher, none)] ∧ t.shared.flow.isFailed = true ∧
        t.shared.flow.failure = .connClosed)) = true := by decide +kernel
  obtain ⟨t, ran, facts⟩ := (Option.any_eq_true _ _).mp early
  obtain ⟨winner, reads, failed, closed⟩ := of_decide_eq_true facts
  refine ⟨t, ran, winner, reads, failed, closed, fun published => ?_⟩
  have read := published.reads (.err, none) (by rw [reads]; exact List.mem_cons_self)
  rw [winner] at read
  cases read

end CloseState

end Kps.Rust
