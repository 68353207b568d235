/-
**What the pending sections of threads weigh.**

A section weighs something: the credit it is about to settle, the bytes it carries. `weight` is the
sum over the pending sections.

* `weight_advance` — a step takes away the weight of the section that ran, and adds that of the
  sections it pushed;
* `weight_start`, `weight_resume`, `weight_clear` — the same for a thread that starts, is given a
  stack, or gives its stack up;
* `weight_conserved` — what the shared state keeps and the sections weigh adds up to what was made,
  after a step that moves it or makes more.
-/

import Kps.Lib.Threads
import Mathlib.Algebra.BigOperators.Group.List.Basic
import Mathlib.Tactic.Abel

namespace Kps.Lib.Threads

variable {σ ω M : Type} [AddCommMonoid M] {t t' : Threads σ ω} {i : Nat}

/-- The weight of the pending sections. -/
def weight (w : ω → M) (t : Threads σ ω) : M := (t.pending.map w).sum

variable {w : ω → M}

theorem sum_eq_of_perm {first second : List ω} (perm : first.Perm second) :
    (first.map w).sum = (second.map w).sum := (perm.map w).sum_eq

theorem sum_eq_zero {sections : List ω} (none : ∀ op ∈ sections, w op = 0) :
    (sections.map w).sum = 0 :=
  List.sum_eq_zero fun _ member => by
    obtain ⟨op, inside, rfl⟩ := List.mem_map.mp member
    exact none op inside

/-- **The weight after a step.** -/
theorem weight_advance {op : ω} {rest : List ω} {e : Effect σ ω}
    (top : t.pool[i]? = some (op :: rest)) :
    w op + weight w ⟨e.shared, t.pool.set i (e.next ++ rest) ++ e.started⟩ =
      (e.next.map w).sum + (e.started.flatten.map w).sum + t.weight w := by
  have perm := sum_eq_of_perm (w := w) (pending_advance (e := e) top)
  rwa [List.map_cons, List.sum_cons, List.map_append, List.map_append, List.sum_append,
    List.sum_append] at perm

theorem weight_start (stack : List ω) :
    (t.start stack).weight w = t.weight w + (stack.map w).sum := by
  unfold weight
  rw [pending_start, List.map_append, List.sum_append]

theorem weight_resume {stack : List ω} (resumed : t.resume i stack = some t') :
    t'.weight w = (stack.map w).sum + t.weight w := by
  have perm := sum_eq_of_perm (w := w) (pending_resume resumed).1
  rwa [List.map_append, List.sum_append] at perm

theorem weight_clear {stack : List ω} (found : t.pool[i]? = some stack) :
    (stack.map w).sum + weight w ⟨t.shared, t.pool.set i []⟩ = t.weight w := by
  have perm := sum_eq_of_perm (w := w) (pending_clear found)
  rwa [List.map_append, List.sum_append] at perm

/-- **A step that moves what is kept, or makes more, conserves it.** -/
theorem weight_conserved {N : Type} [AddCancelCommMonoid N] {w : ω → N} {op : ω} {rest : List ω}
    {e : Effect σ ω} {kept kept' made made' : N} (top : t.pool[i]? = some (op :: rest))
    (moved : w op + kept + made' = (e.next.map w).sum + (e.started.flatten.map w).sum + kept' +
      made)
    (conserved : kept + t.weight w = made) :
    kept' + weight w ⟨e.shared, t.pool.set i (e.next ++ rest) ++ e.started⟩ = made' := by
  have step := weight_advance (w := w) (e := e) top
  refine add_left_cancel (a := w op + made) ?_
  calc w op + made + (kept' + weight w ⟨e.shared, t.pool.set i (e.next ++ rest) ++ e.started⟩)
      = w op + weight w ⟨e.shared, t.pool.set i (e.next ++ rest) ++ e.started⟩ +
        (kept' + made) := by abel
    _ = (e.next.map w).sum + (e.started.flatten.map w).sum + kept' + made +
      t.weight w := by rw [step]; abel
    _ = w op + kept + made' + t.weight w := by rw [← moved]
    _ = w op + made' + (kept + t.weight w) := by abel
    _ = w op + made + made' := by rw [conserved]; abel

end Kps.Lib.Threads
