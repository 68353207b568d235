/-
**Threads over a shared state.**

A thread is a stack of atomic sections it has still to run. Running the section at the top of a
stack changes the shared state, pushes what the thread does next, and may start threads. A section
that has to wait is not enabled.

* `pending_advance` — the sections pending after a step, with the one that ran, are those pending
  before it with the ones it pushed;
* `pending_start`, `pending_replace` — the same for a thread that starts, or is given a stack.

An invariant that speaks of what threads are about to do speaks of `pending`.

`Elsewhere p i` says that the sections satisfying `p` are pending in thread `i` only. A thread's
program counter is the one section of a kind that only it can have pending: `Owned p i` says that
the sections satisfying `p` are those of thread `i`, and at most one, and `control p` is that
section. `Owned.advance`, `Owned.start`, `Owned.resume` and `Owned.clear` keep the ownership;
`Owned.control_advance`, `control_start`, `Owned.control_resume` and `Owned.clear` say what becomes
of the program counter.
-/

import Mathlib.Data.List.Perm.Basic

namespace Kps.Lib

variable {σ ω : Type}

/-- A shared state, and what each thread of the pool has still to run. -/
structure Threads (σ ω : Type) where
  shared : σ
  pool : List (List ω)

/-- What a section did: the shared state it leaves, what its thread does next, and the threads it
started. -/
structure Effect (σ ω : Type) where
  shared : σ
  next : List ω := []
  started : List (List ω) := []

namespace Threads

/-- The sections some thread has still to run. -/
def pending (t : Threads σ ω) : List ω := t.pool.flatten

/-- Run the section at the top of the stack of thread `i`. -/
def advance (exec : σ → ω → Option (Effect σ ω)) (i : Nat) (t : Threads σ ω) :
    Option (Threads σ ω) :=
  match t.pool[i]? with
  | some (op :: rest) =>
    (exec t.shared op).map fun e => ⟨e.shared, t.pool.set i (e.next ++ rest) ++ e.started⟩
  | _ => none

/-- Start a thread. -/
def start (stack : List ω) (t : Threads σ ω) : Threads σ ω := { t with pool := t.pool ++ [stack] }

/-- Give a thread that has nothing to run a stack. -/
def resume (i : Nat) (stack : List ω) (t : Threads σ ω) : Option (Threads σ ω) :=
  match t.pool[i]? with
  | some [] => some { t with pool := t.pool.set i stack }
  | _ => none

variable {exec : σ → ω → Option (Effect σ ω)} {t t' : Threads σ ω} {i : Nat}

theorem advance_eq_some : t.advance exec i = some t' ↔
    ∃ op rest e, t.pool[i]? = some (op :: rest) ∧ exec t.shared op = some e ∧
      t' = ⟨e.shared, t.pool.set i (e.next ++ rest) ++ e.started⟩ := by
  unfold advance
  constructor
  · intro stepped
    split at stepped
    · next op rest top =>
      obtain ⟨e, ran, rfl⟩ := Option.map_eq_some_iff.mp stepped
      exact ⟨op, rest, e, top, ran, rfl⟩
    · cases stepped
  · rintro ⟨op, rest, e, top, ran, rfl⟩
    rw [top]
    exact Option.map_eq_some_iff.mpr ⟨e, ran, rfl⟩

theorem flatten_set {pool : List (List ω)} {i : Nat} {op : ω} {rest next : List ω}
    (top : pool[i]? = some (op :: rest)) :
    (op :: (pool.set i (next ++ rest)).flatten).Perm (next ++ pool.flatten) := by
  induction pool generalizing i with
  | nil => cases top
  | cons stack pool ih =>
    cases i with
    | zero =>
      cases top
      simp only [List.set_cons_zero, List.flatten_cons, List.append_assoc, List.cons_append]
      exact List.perm_middle.symm
    | succ i =>
      simp only [List.set_cons_succ, List.flatten_cons]
      have tail := ih (i := i) top
      calc op :: (stack ++ (pool.set i (next ++ rest)).flatten)
        List.Perm _ (stack ++ op :: (pool.set i (next ++ rest)).flatten) := List.perm_middle.symm
        List.Perm _ (stack ++ (next ++ pool.flatten)) := tail.append_left stack
        List.Perm _ (next ++ (stack ++ pool.flatten)) := List.perm_append_comm_assoc _ _ _

/-- **The sections pending after a step.** -/
theorem pending_advance {op : ω} {rest : List ω} {e : Effect σ ω}
    (top : t.pool[i]? = some (op :: rest)) :
    (op :: (⟨e.shared, t.pool.set i (e.next ++ rest) ++ e.started⟩ : Threads σ ω).pending).Perm
      (e.next ++ e.started.flatten ++ t.pending) := by
  unfold pending
  simp only [List.flatten_append]
  calc op :: ((t.pool.set i (e.next ++ rest)).flatten ++ e.started.flatten)
    List.Perm _ (e.next ++ t.pool.flatten ++ e.started.flatten) :=
      (flatten_set top).append_right e.started.flatten
    List.Perm _ (e.next ++ e.started.flatten ++ t.pool.flatten) := by
      rw [List.append_assoc, List.append_assoc]
      exact (List.perm_append_comm).append_left e.next

/-- What a thread does next is pending, and so is what was, but for the section that ran. -/
theorem pending_members {op : ω} {rest : List ω} {e : Effect σ ω}
    (top : t.pool[i]? = some (op :: rest)) :
    (∀ other ∈ e.next,
      other ∈ (⟨e.shared, t.pool.set i (e.next ++ rest) ++ e.started⟩ : Threads σ ω).pending) ∧
    (∀ other ∈ t.pending, other = op ∨
      other ∈ (⟨e.shared, t.pool.set i (e.next ++ rest) ++ e.started⟩ : Threads σ ω).pending) ∧
    ∀ other ∈ (⟨e.shared, t.pool.set i (e.next ++ rest) ++ e.started⟩ : Threads σ ω).pending,
      other ∈ e.next ∨ other ∈ e.started.flatten ∨ other ∈ t.pending := by
  have perm := pending_advance (e := e) top
  refine ⟨fun other member => ?_, fun other member => ?_, fun other member => ?_⟩
  · obtain ⟨here, -⟩ := List.getElem?_eq_some_iff.mp top
    have pushed : e.next ++ rest ∈ t.pool.set i (e.next ++ rest) := List.mem_set here _
    exact List.mem_flatten.mpr
      ⟨_, List.mem_append_left _ pushed, List.mem_append_left _ member⟩
  · exact List.mem_cons.mp (perm.symm.subset (List.mem_append_right _ member))
  · have found := perm.subset (List.mem_cons_of_mem op member)
    simpa [or_assoc] using found

theorem mem_pending {op : ω} {rest : List ω} (top : t.pool[i]? = some (op :: rest)) :
    op ∈ t.pending :=
  List.mem_flatten.mpr ⟨op :: rest, List.mem_of_getElem? top, List.mem_cons_self⟩

theorem pending_start (stack : List ω) (t : Threads σ ω) :
    (t.start stack).pending = t.pending ++ stack := by
  simp [pending, start]

theorem idle_of_resume {stack : List ω} (resumed : t.resume i stack = some t') :
    t.pool[i]? = some [] := by
  unfold resume at resumed
  split at resumed
  · next idle => exact idle
  · cases resumed

/-- **The sections pending once a thread is given another stack.** -/
theorem pending_replace {old : List ω} (stack : List ω) (found : t.pool[i]? = some old) :
    (old ++ (⟨t.shared, t.pool.set i stack⟩ : Threads σ ω).pending).Perm (stack ++ t.pending) := by
  unfold pending
  dsimp only
  generalize t.pool = pool at found ⊢
  induction pool generalizing i with
  | nil => cases found
  | cons head pool ih =>
    cases i with
    | zero =>
      cases found
      exact List.perm_append_comm_assoc _ _ _
    | succ i =>
      simp only [List.set_cons_succ, List.flatten_cons]
      calc old ++ (head ++ (pool.set i stack).flatten)
        List.Perm _ (head ++ (old ++ (pool.set i stack).flatten)) :=
          List.perm_append_comm_assoc _ _ _
        List.Perm _ (head ++ (stack ++ pool.flatten)) := (ih found).append_left head
        List.Perm _ (stack ++ (head ++ pool.flatten)) := List.perm_append_comm_assoc _ _ _

theorem pending_resume {stack : List ω} (resumed : t.resume i stack = some t') :
    t'.pending.Perm (stack ++ t.pending) ∧ t'.shared = t.shared := by
  unfold resume at resumed
  split at resumed
  · next idle =>
    cases resumed
    exact ⟨pending_replace stack idle, rfl⟩
  · cases resumed

/-- Giving up a thread takes its sections away. -/
theorem pending_clear {stack : List ω} (found : t.pool[i]? = some stack) :
    (stack ++ (⟨t.shared, t.pool.set i []⟩ : Threads σ ω).pending).Perm t.pending :=
  pending_replace _ found

/-! ### Program counters -/

variable {p : ω → Bool}

/-- The sections satisfying `p` are pending in thread `i` only. -/
def Elsewhere (p : ω → Bool) (i : Nat) (t : Threads σ ω) : Prop :=
  ∀ j stack, t.pool[j]? = some stack → j ≠ i → ∀ op ∈ stack, p op = false

namespace Elsewhere

theorem advance (only : Elsewhere p i t) {j : Nat} {op : ω} {rest : List ω} {e : Effect σ ω}
    (top : t.pool[j]? = some (op :: rest)) (next : j ≠ i → ∀ other ∈ e.next, p other = false)
    (started : ∀ other ∈ e.started.flatten, p other = false) :
    Elsewhere p i ⟨e.shared, t.pool.set j (e.next ++ rest) ++ e.started⟩ := by
  intro k stack found other
  rw [List.getElem?_append] at found
  split at found
  · rw [List.getElem?_set] at found
    split at found
    · next same =>
      subst same
      split at found <;> cases found
      intro op' member
      rcases List.mem_append.mp member with pushed | old
      · exact next other op' pushed
      · exact only j _ top other op' (List.mem_cons_of_mem _ old)
    · exact only k stack found other
  · intro op' member
    exact started op' (List.mem_flatten.mpr ⟨stack, List.mem_of_getElem? found, member⟩)

theorem start (only : Elsewhere p i t) {stack : List ω} (quiet : ∀ op ∈ stack, p op = false) :
    Elsewhere p i (t.start stack) := by
  intro j found member other
  unfold Threads.start at member
  dsimp only at member
  rw [List.getElem?_append] at member
  split at member
  · exact only j _ member other
  · have same : found = stack := by simpa using List.mem_of_getElem? member
    rw [same]
    exact quiet

theorem set (only : Elsewhere p i t) {j : Nat} {stack : List ω}
    (quiet : j ≠ i → ∀ op ∈ stack, p op = false) :
    Elsewhere p i ⟨t.shared, t.pool.set j stack⟩ := by
  intro k found member other
  rw [List.getElem?_set] at member
  split at member
  · next same =>
    split at member <;> cases member
    exact quiet (same ▸ other)
  · exact only k found member other

theorem resume (only : Elsewhere p i t) {j : Nat} {stack : List ω}
    (resumed : t.resume j stack = some t') (quiet : j ≠ i → ∀ op ∈ stack, p op = false) :
    Elsewhere p i t' := by
  unfold Threads.resume at resumed
  split at resumed <;> cases resumed
  exact only.set quiet

end Elsewhere

/-- The sections satisfying `p` are pending in thread `i` only, and there is at most one. -/
structure Owned (p : ω → Bool) (i : Nat) (t : Threads σ ω) : Prop where
  here : i < t.pool.length
  elsewhere : ∀ j stack, t.pool[j]? = some stack → j ≠ i → ∀ op ∈ stack, p op = false
  once : t.pending.countP p ≤ 1

/-- The section satisfying `p` that is pending. -/
def control (p : ω → Bool) (t : Threads σ ω) : Option ω := t.pending.find? p

theorem find?_eq_of_perm {first second : List ω} (perm : (first.filter p).Perm (second.filter p))
    (once : second.countP p ≤ 1) : first.find? p = second.find? p := by
  rw [← List.head?_filter, ← List.head?_filter]
  rw [List.countP_eq_length_filter] at once
  match same : second.filter p with
  | [] => rw [same] at perm; rw [List.perm_nil.mp perm]
  | [op] => rw [same] at perm; rw [List.perm_singleton.mp perm]
  | _ :: _ :: _ => rw [same] at once; simp at once

theorem control_eq_none : t.control p = none ↔ ∀ op ∈ t.pending, p op = false := by
  unfold control
  simp

theorem mem_of_control {op : ω} (at' : t.control p = some op) : op ∈ t.pending ∧ p op = true :=
  ⟨List.mem_of_find?_eq_some at', List.find?_some at'⟩

theorem control_start {stack : List ω} (quiet : ∀ op ∈ stack, p op = false) :
    (t.start stack).control p = t.control p := by
  have none : stack.find? p = none :=
    List.find?_eq_none.mpr fun op member => by simp [quiet op member]
  unfold control
  rw [pending_start, List.find?_append, none, Option.or_none]

namespace Owned

theorem control_eq (owned : Owned p i t) {op : ω} (member : op ∈ t.pending) (has : p op = true) :
    t.control p = some op := by
  unfold control
  rw [← List.head?_filter]
  have found : op ∈ t.pending.filter p := List.mem_filter.mpr ⟨member, has⟩
  have once := owned.once
  rw [List.countP_eq_length_filter] at once
  match same : t.pending.filter p with
  | [] => rw [same] at found; cases found
  | [other] =>
    rw [same] at found
    rw [List.mem_singleton.mp found]
    rfl
  | _ :: _ :: _ => rw [same] at once; simp at once

theorem advance (owned : Owned p i t) {j : Nat} {op : ω} {rest : List ω} {e : Effect σ ω}
    (top : t.pool[j]? = some (op :: rest)) (next : e.next.countP p ≤ if p op then 1 else 0)
    (started : ∀ other ∈ e.started.flatten, p other = false) :
    Owned p i ⟨e.shared, t.pool.set j (e.next ++ rest) ++ e.started⟩ := by
  refine ⟨?_, Elsewhere.advance owned.elsewhere top (fun other op' pushed => ?_) started, ?_⟩
  · have here := owned.here
    simp only [List.length_append, List.length_set]
    omega
  · rw [owned.elsewhere j _ top other op List.mem_cons_self, if_neg (by simp)] at next
    simpa using List.countP_eq_zero.mp (Nat.le_zero.mp next) op' pushed
  · have counted := (pending_advance (e := e) top).countP_eq p
    have none : e.started.flatten.countP p = 0 :=
      List.countP_eq_zero.mpr fun other member => by simp [started other member]
    rw [List.countP_append, List.countP_append, List.countP_cons, none] at counted
    have once := owned.once
    cases has : p op with
    | true =>
      rw [has, if_pos rfl] at counted next
      omega
    | false =>
      rw [has, if_neg (by simp)] at counted next
      omega

/-- **The program counter after a step** of another section, or of the one it points at. -/
theorem control_advance (owned : Owned p i t) {j : Nat} {op : ω} {rest : List ω} {e : Effect σ ω}
    (top : t.pool[j]? = some (op :: rest)) (next : e.next.countP p ≤ if p op then 1 else 0)
    (started : ∀ other ∈ e.started.flatten, p other = false) :
    control p ⟨e.shared, t.pool.set j (e.next ++ rest) ++ e.started⟩ =
      if p op then e.next.find? p else t.control p := by
  have perm := (pending_advance (e := e) top).filter p
  have none : e.started.flatten.filter p = [] :=
    List.filter_eq_nil_iff.mpr fun other member => by simp [started other member]
  rw [List.filter_append, List.filter_append, none, List.append_nil, List.filter_cons] at perm
  unfold control
  cases has : p op with
  | true =>
    rw [has, if_pos rfl] at perm next
    have alone : t.pending.filter p = [op] := by
      have once := owned.once
      have found : op ∈ t.pending.filter p := List.mem_filter.mpr ⟨mem_pending top, has⟩
      rw [List.countP_eq_length_filter] at once
      match same : t.pending.filter p with
      | [] => rw [same] at found; cases found
      | [other] => rw [same] at found; rw [List.mem_singleton.mp found]
      | _ :: _ :: _ => rw [same] at once; simp at once
    rw [alone] at perm
    have swapped : (e.next.filter p ++ [op]).Perm ([op] ++ e.next.filter p) := List.perm_append_comm
    have perm := perm.trans swapped
    rw [if_pos rfl]
    exact find?_eq_of_perm ((List.perm_cons op).mp perm) next
  | false =>
    rw [has, if_neg (by simp)] at perm next
    have quiet : e.next.filter p = [] := by
      rw [← List.length_eq_zero_iff, ← List.countP_eq_length_filter]
      omega
    rw [quiet] at perm
    rw [if_neg (by simp)]
    exact find?_eq_of_perm perm owned.once

/-- **Where a pending section of the kind comes from**: the step pushed it, or it was pending and
another section ran. -/
theorem origin (owned : Owned p i t) {j : Nat} {op other : ω} {rest : List ω} {e : Effect σ ω}
    (top : t.pool[j]? = some (op :: rest)) (next : e.next.countP p ≤ if p op then 1 else 0)
    (started : ∀ other ∈ e.started.flatten, p other = false) (has : p other = true)
    (member : other ∈
      (⟨e.shared, t.pool.set j (e.next ++ rest) ++ e.started⟩ : Threads σ ω).pending) :
    (p op = true ∧ other ∈ e.next) ∨ (p op = false ∧ other ∈ t.pending) := by
  have after := owned.advance top next started
  have at' := after.control_eq member has
  rw [owned.control_advance top next started] at at'
  cases kind : p op with
  | true =>
    rw [kind, if_pos rfl] at at'
    exact Or.inl ⟨rfl, List.mem_of_find?_eq_some at'⟩
  | false =>
    rw [kind, if_neg (by simp)] at at'
    exact Or.inr ⟨rfl, (mem_of_control at').1⟩

theorem start (owned : Owned p i t) {stack : List ω} (quiet : ∀ op ∈ stack, p op = false) :
    Owned p i (t.start stack) := by
  refine ⟨?_, Elsewhere.start owned.elsewhere quiet, ?_⟩
  · have here := owned.here
    simp only [Threads.start, List.length_append]
    omega
  · rw [pending_start, List.countP_append]
    have none : stack.countP p = 0 :=
      List.countP_eq_zero.mpr fun op member => by simp [quiet op member]
    have once := owned.once
    omega

/-- Nothing is pending once the thread is idle. -/
theorem idle (owned : Owned p i t) (empty : t.pool[i]? = some []) :
    ∀ op ∈ t.pending, p op = false := by
  intro op member
  obtain ⟨stack, inside, member⟩ := List.mem_flatten.mp member
  obtain ⟨j, found⟩ := List.mem_iff_getElem?.mp inside
  by_cases same : j = i
  · subst same
    rw [empty] at found
    cases found
    cases member
  · exact owned.elsewhere j stack found same op member

theorem set (owned : Owned p i t) {j : Nat} {stack : List ω}
    (quiet : j ≠ i → ∀ op ∈ stack, p op = false)
    (once : (⟨t.shared, t.pool.set j stack⟩ : Threads σ ω).pending.countP p ≤ 1) :
    Owned p i ⟨t.shared, t.pool.set j stack⟩ := by
  refine ⟨?_, Elsewhere.set owned.elsewhere quiet, once⟩
  rw [List.length_set]
  exact owned.here

theorem resume (owned : Owned p i t) {j : Nat} {stack : List ω}
    (resumed : t.resume j stack = some t')
    (quiet : j ≠ i → ∀ op ∈ stack, p op = false) (once : stack.countP p ≤ 1) : Owned p i t' := by
  obtain ⟨perm, -⟩ := pending_resume resumed
  unfold Threads.resume at resumed
  split at resumed
  · next empty =>
    cases resumed
    refine owned.set quiet ?_
    have counted := perm.countP_eq p
    rw [List.countP_append] at counted
    by_cases same : j = i
    · subst same
      have none : t.pending.countP p = 0 :=
        List.countP_eq_zero.mpr fun op member => by simp [owned.idle empty op member]
      omega
    · have none : stack.countP p = 0 :=
        List.countP_eq_zero.mpr fun op member => by simp [quiet same op member]
      have once := owned.once
      omega
  · cases resumed

theorem control_resume (owned : Owned p i t) {j : Nat} {stack : List ω}
    (resumed : t.resume j stack = some t') (quiet : j ≠ i → ∀ op ∈ stack, p op = false)
    (once : stack.countP p ≤ 1) :
    t'.control p = if j = i then stack.find? p else t.control p := by
  obtain ⟨perm, -⟩ := pending_resume resumed
  have perm := perm.filter p
  rw [List.filter_append] at perm
  unfold Threads.resume at resumed
  split at resumed
  · next empty =>
    unfold control
    by_cases same : j = i
    · subst same
      have none : t.pending.filter p = [] :=
        List.filter_eq_nil_iff.mpr fun op member => by simp [owned.idle empty op member]
      rw [none, List.append_nil] at perm
      rw [if_pos rfl]
      exact find?_eq_of_perm perm once
    · have none : stack.filter p = [] :=
        List.filter_eq_nil_iff.mpr fun op member => by simp [quiet same op member]
      rw [none, List.nil_append] at perm
      rw [if_neg same]
      exact find?_eq_of_perm perm owned.once
  · cases resumed

/-- The thread is given up. -/
theorem clear (owned : Owned p i t) : Owned p i ⟨t.shared, t.pool.set i []⟩ ∧
    control p ⟨t.shared, t.pool.set i []⟩ = none := by
  have quiet : ∀ op ∈ (⟨t.shared, t.pool.set i []⟩ : Threads σ ω).pending, p op = false := by
    intro op member
    obtain ⟨stack, inside, member⟩ := List.mem_flatten.mp member
    obtain ⟨j, found⟩ := List.mem_iff_getElem?.mp inside
    rw [List.getElem?_set] at found
    split at found
    · split at found <;> cases found
      cases member
    · next other => exact owned.elsewhere j stack found (Ne.symm other) op member
  refine ⟨owned.set (fun _ op member => absurd member List.not_mem_nil) ?_,
    control_eq_none.mpr quiet⟩
  rw [List.countP_eq_zero.mpr fun op member => by simp [quiet op member]]
  exact Nat.zero_le 1

end Owned

end Threads

end Kps.Lib
