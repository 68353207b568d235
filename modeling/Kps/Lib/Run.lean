/-
**Runs of a labelled machine.**

A machine is a step function `σ → ι → Option σ`: `none` means that the label is not enabled. A run
is a list of labels executed from a state.

* `run_append` — a run of a concatenation is the two runs, one after the other;
* `run_invariant` — what every enabled step preserves, every run preserves;
* `run_invariant_of_labels` — the same for the runs whose labels satisfy a predicate;
* `Meets` says that every step of a run meets a condition on its label and the state it is taken
  in, and `run_invariant_of_meets` is the invariant rule for such runs;
* `meets_of_never` — a run that reaches no bad state meets a condition whose breach leads to one.
* `good_iff_meets` — a run ends well exactly if it meets a condition, if each of its steps does;
* `always_iff_meets` — all of its states are good exactly if it meets a condition, likewise;
* `of_meets_of_before` — what the runs that meet a condition end in, they are in all along.

`outputs` is what the steps of a run emit, and `run_invariant_of_outputs` the rule for an invariant
that speaks of it. `fold_invariant` is the rule for a machine whose steps are always enabled.
-/

import Mathlib.Data.List.Basic

namespace Kps.Lib

variable {σ ι : Type*}

/-- Execute a list of labels from a state; `none` if one of them is not enabled. -/
def run (step : σ → ι → Option σ) : σ → List ι → Option σ
  | state, [] => some state
  | state, label :: labels => (step state label).bind fun next => run step next labels

variable {step : σ → ι → Option σ}

@[simp] theorem run_nil (state : σ) : run step state [] = some state := rfl

theorem run_cons {state final : σ} {label : ι} {labels : List ι} :
    run step state (label :: labels) = some final ↔
      ∃ next, step state label = some next ∧ run step next labels = some final := by
  simp only [run, Option.bind_eq_some_iff]

theorem run_append {state final : σ} {first second : List ι} :
    run step state (first ++ second) = some final ↔
      ∃ middle, run step state first = some middle ∧ run step middle second = some final := by
  induction first generalizing state with
  | nil => simp
  | cons label labels ih =>
    rw [List.cons_append, run_cons]
    constructor
    · rintro ⟨next, stepped, rest⟩
      obtain ⟨middle, ran, last⟩ := ih.mp rest
      exact ⟨middle, run_cons.mpr ⟨next, stepped, ran⟩, last⟩
    · rintro ⟨middle, ran, last⟩
      obtain ⟨next, stepped, rest⟩ := run_cons.mp ran
      exact ⟨next, stepped, ih.mpr ⟨middle, rest, last⟩⟩

/-- **Invariant rule**, for the runs all of whose labels satisfy `allowed`. -/
theorem run_invariant_of_labels {Inv : σ → Prop} (allowed : ι → Prop)
    (preserves : ∀ state label next, allowed label → Inv state →
      step state label = some next → Inv next)
    {state final : σ} {labels : List ι} (all : ∀ label ∈ labels, allowed label)
    (start : Inv state) (ran : run step state labels = some final) : Inv final := by
  induction labels generalizing state with
  | nil =>
    cases ran
    exact start
  | cons label labels ih =>
    obtain ⟨next, stepped, rest⟩ := run_cons.mp ran
    have here : Inv next := preserves _ _ _ (all label List.mem_cons_self) start stepped
    exact ih (fun other member => all other (List.mem_cons_of_mem _ member)) here rest

/-- **Invariant rule.** What every enabled step preserves holds at the end of every run. -/
theorem run_invariant {Inv : σ → Prop}
    (preserves : ∀ state label next, Inv state → step state label = some next → Inv next)
    {state final : σ} {labels : List ι} (start : Inv state)
    (ran : run step state labels = some final) : Inv final :=
  run_invariant_of_labels (fun _ => True)
    (fun _ _ _ _ inv stepped => preserves _ _ _ inv stepped) (fun _ _ => trivial) start ran

/-- Every step of the run meets the condition, in the state it is taken in. -/
def Meets (step : σ → ι → Option σ) (condition : σ → ι → Prop) : σ → List ι → Prop
  | _, [] => True
  | state, label :: labels =>
    condition state label ∧ ∀ next, step state label = some next → Meets step condition next labels

theorem meets_cons {condition : σ → ι → Prop} {state next : σ} {label : ι} {labels : List ι}
    (stepped : step state label = some next) : Meets step condition state (label :: labels) ↔
      condition state label ∧ Meets step condition next labels := by
  constructor
  · exact fun ⟨here, later⟩ => ⟨here, later next stepped⟩
  · rintro ⟨here, later⟩
    refine ⟨here, fun other other_stepped => ?_⟩
    rw [stepped] at other_stepped
    cases other_stepped
    exact later

theorem meets_stuck {condition : σ → ι → Prop} {state : σ} {label : ι} {labels : List ι}
    (stuck : step state label = none) : Meets step condition state (label :: labels) ↔
      condition state label := by
  refine ⟨And.left, fun here => ⟨here, fun other stepped => ?_⟩⟩
  rw [stuck] at stepped
  cases stepped

instance decidableMeets {condition : σ → ι → Prop}
    [∀ state label, Decidable (condition state label)] (state : σ) :
    (labels : List ι) → Decidable (Meets step condition state labels)
  | [] => .isTrue trivial
  | label :: labels =>
    match stepped : step state label with
    | none => decidable_of_iff (condition state label) (meets_stuck stepped).symm
    | some next =>
      have : Decidable (Meets step condition next labels) := decidableMeets next labels
      decidable_of_iff (condition state label ∧ Meets step condition next labels)
        (meets_cons stepped).symm

theorem meets_of_labels {condition : σ → ι → Prop} {labels : List ι}
    (all : ∀ label ∈ labels, ∀ state, condition state label) (state : σ) :
    Meets step condition state labels := by
  induction labels generalizing state with
  | nil => exact trivial
  | cons label labels ih =>
    exact ⟨all label List.mem_cons_self state, fun next _ =>
      ih (fun other member => all other (List.mem_cons_of_mem _ member)) next⟩

theorem Meets.and {first second : σ → ι → Prop} {state : σ} {labels : List ι}
    (left : Meets step first state labels) (right : Meets step second state labels) :
    Meets step (fun state label => first state label ∧ second state label) state labels := by
  induction labels generalizing state with
  | nil => exact trivial
  | cons label labels ih =>
    exact ⟨⟨left.1, right.1⟩, fun next stepped => ih (left.2 next stepped) (right.2 next stepped)⟩

theorem meets_append {condition : σ → ι → Prop} {state middle : σ} {first second : List ι}
    (meets : Meets step condition state (first ++ second))
    (ran : run step state first = some middle) :
    Meets step condition state first ∧ Meets step condition middle second := by
  induction first generalizing state with
  | nil =>
    cases ran
    exact ⟨trivial, meets⟩
  | cons label labels ih =>
    obtain ⟨here, later⟩ := meets
    obtain ⟨next, stepped, rest⟩ := run_cons.mp ran
    refine ⟨⟨here, fun other other_stepped => ?_⟩, (ih (later next stepped) rest).2⟩
    rw [stepped] at other_stepped
    cases other_stepped
    exact (ih (later next stepped) rest).1

theorem meets_concat {condition : σ → ι → Prop} {state middle : σ} {labels : List ι} {label : ι}
    (meets : Meets step condition state labels) (ran : run step state labels = some middle)
    (here : condition middle label) : Meets step condition state (labels ++ [label]) := by
  induction labels generalizing state with
  | nil =>
    cases ran
    exact ⟨here, fun _ _ => trivial⟩
  | cons first labels ih =>
    obtain ⟨condition, later⟩ := meets
    obtain ⟨next, stepped, rest⟩ := run_cons.mp ran
    refine ⟨condition, fun other other_stepped => ?_⟩
    rw [stepped] at other_stepped
    cases other_stepped
    exact ih (later next stepped) rest

/-- A run that reaches no bad state meets the condition, if a step that does not meet it leads from
a state of the run to one. -/
theorem meets_of_never_of_inv {condition : σ → ι → Prop} {Inv bad : σ → Prop}
    (preserves : ∀ state label next, Inv state → step state label = some next → Inv next)
    (breaks : ∀ state label, Inv state → ¬ condition state label →
      ∃ next, step state label = some next ∧ bad next)
    {state : σ} {labels : List ι} (start : Inv state)
    (never : ∀ before final, before <+: labels → run step state before = some final → ¬ bad final) :
    Meets step condition state labels := by
  induction labels generalizing state with
  | nil => exact trivial
  | cons label labels ih =>
    refine ⟨?_,
      fun next stepped => ih (preserves _ _ _ start stepped) fun before final head ran => ?_⟩
    · by_contra broken
      obtain ⟨next, stepped, reached⟩ := breaks state label start broken
      exact never [label] next (List.prefix_append [label] labels)
        (run_cons.mpr ⟨next, stepped, rfl⟩) reached
    · obtain ⟨rest, rfl⟩ := head
      exact never (label :: before) final (List.prefix_append (label :: before) rest)
        (run_cons.mpr ⟨next, stepped, ran⟩)

/-- The same, if a step that does not meet it leads from any state to a bad one. -/
theorem meets_of_never {condition : σ → ι → Prop} {bad : σ → Prop}
    (breaks : ∀ state label, ¬ condition state label → ∃ next, step state label = some next ∧
      bad next)
    {state : σ} {labels : List ι}
    (never : ∀ before final, before <+: labels → run step state before = some final → ¬ bad final) :
    Meets step condition state labels :=
  have preserves (state : σ) (label : ι) (next : σ) (_ : True) (_ : step state label = some next) :
    True := trivial
  meets_of_never_of_inv preserves (fun state label _ => breaks state label) trivial never

/-- What holds at the end of every run that meets a condition, holds in every state of such a
run. -/
theorem of_meets_of_before {condition : σ → ι → Prop} {good : σ → Prop} {state : σ}
    {labels : List ι}
    (holds : ∀ labels final, Meets step condition state labels →
      run step state labels = some final → good final)
    (meets : Meets step condition state labels) {before : List ι} {final : σ}
    (head : before <+: labels)
    (ran : run step state before = some final) : good final := by
  obtain ⟨rest, rfl⟩ := head
  exact holds before final (meets_append meets ran).1 ran

/-- **Invariant rule**, for the runs all of whose steps meet a condition. -/
theorem run_invariant_of_meets {Inv : σ → Prop} {condition : σ → ι → Prop}
    (preserves : ∀ state label next, condition state label → Inv state →
      step state label = some next → Inv next)
    {state final : σ} {labels : List ι} (meets : Meets step condition state labels)
    (start : Inv state) (ran : run step state labels = some final) : Inv final := by
  induction labels generalizing state with
  | nil =>
    cases ran
    exact start
  | cons label labels ih =>
    obtain ⟨here, later⟩ := meets
    obtain ⟨next, stepped, rest⟩ := run_cons.mp ran
    exact ih (later next stepped) (preserves _ _ _ here start stepped) rest

/-- A run ends well exactly if it meets a condition, where a step from a good state ends in one
exactly if it does, and no step mends a bad one. -/
theorem good_iff_meets {condition : σ → ι → Prop} {Inv good : σ → Prop}
    (preserves : ∀ state label next, Inv state → step state label = some next → Inv next)
    (exact : ∀ state label next, Inv state → good state → step state label = some next →
      (good next ↔ condition state label))
    (mends : ∀ state label next, step state label = some next → good next → good state)
    {state final : σ} {labels : List ι} (start : Inv state) (well : good state)
    (ran : run step state labels = some final) : good final ↔
      Meets step condition state labels := by
  induction labels generalizing state with
  | nil =>
    cases ran
    exact iff_of_true well trivial
  | cons label labels ih =>
    obtain ⟨next, stepped, rest⟩ := run_cons.mp ran
    rw [meets_cons stepped]
    by_cases here : condition state label
    · rw [ih (preserves _ _ _ start stepped) ((exact _ _ _ start well stepped).mpr here) rest,
        and_iff_right here]
    · refine iff_of_false (fun ended => here ?_) fun both => here both.1
      have before (middle : σ) (labels : List ι) (ran : run step middle labels = some final) :
          good middle := by
        induction labels generalizing middle with
        | nil =>
          cases ran
          exact ended
        | cons other labels ih =>
          obtain ⟨later, stepped, rest⟩ := run_cons.mp ran
          exact mends _ _ _ stepped (ih _ rest)
      exact (exact _ _ _ start well stepped).mp (before next labels rest)

/-- Every state of a run is good exactly if it meets a condition, where a step from a good state
ends in one exactly if it does, and only a label that is enabled can breach it. -/
theorem always_iff_meets {condition : σ → ι → Prop} {Inv good : σ → Prop}
    (preserves : ∀ state label next, Inv state → step state label = some next → Inv next)
    (exact : ∀ state label next, Inv state → good state → step state label = some next →
      (good next ↔ condition state label))
    (enabled : ∀ state label, step state label = none → condition state label)
    {state : σ} {labels : List ι} (start : Inv state) (well : good state) :
    (∀ before final, before <+: labels → run step state before = some final → good final) ↔
      Meets step condition state labels := by
  constructor
  · intro always
    have breaks (state : σ) (label : ι) (both : Inv state ∧ good state)
      (broken : ¬ condition state label) :
        ∃ next, step state label = some next ∧ ¬ good next := by
      cases stepped : step state label with
      | none => exact absurd (enabled _ _ stepped) broken
      | some next =>
        exact ⟨next, rfl, fun kept => broken ((exact _ _ _ both.1 both.2 stepped).mp kept)⟩
    induction labels generalizing state with
    | nil => exact trivial
    | cons label labels ih =>
      refine ⟨?_, fun next stepped => ?_⟩
      · by_contra broken
        obtain ⟨next, stepped, bad⟩ := breaks state label ⟨start, well⟩ broken
        exact bad
          (always [label] next (List.prefix_append [label] labels)
            (run_cons.mpr ⟨next, stepped, rfl⟩))
      · have kept : good next :=
          always [label] next (List.prefix_append [label] labels)
            (run_cons.mpr ⟨next, stepped, rfl⟩)
        refine ih (preserves _ _ _ start stepped) kept fun before final head ran => ?_
        obtain ⟨rest, rfl⟩ := head
        exact always (label :: before) final (List.prefix_append (label :: before) rest)
          (run_cons.mpr ⟨next, stepped, ran⟩)
  · intro meets before final head ran
    obtain ⟨rest, rfl⟩ := head
    have keeps (state : σ) (label : ι) (next : σ) (here : condition state label)
      (both : Inv state ∧ good state)
        (stepped : step state label = some next) : Inv next ∧ good next :=
      ⟨preserves _ _ _ both.1 stepped, (exact _ _ _ both.1 both.2 stepped).mpr here⟩
    exact (run_invariant_of_meets keeps (meets_append meets ran).1 ⟨start, well⟩ ran).2

section Outputs

variable {α : Type*}

/-- What the steps of a run emit, in order. -/
def outputs (step : σ → ι → Option σ) (emit : σ → ι → List α) : σ → List ι → List α
  | _, [] => []
  | state, label :: labels =>
    emit state label ++ (step state label).elim [] fun next => outputs step emit next labels

variable {emit : σ → ι → List α}

theorem outputs_cons {state next : σ} {label : ι} {labels : List ι}
    (stepped : step state label = some next) : outputs step emit state (label :: labels) =
      emit state label ++ outputs step emit next labels := by
  rw [outputs, stepped, Option.elim_some]

theorem invariant_of_outputs {Inv : List α → σ → Prop} {condition : σ → ι → Prop}
    (preserves : ∀ emitted state label next, condition state label → Inv emitted state →
      step state label = some next → Inv (emitted ++ emit state label) next)
    {emitted : List α} {state final : σ} {labels : List ι}
    (meets : Meets step condition state labels)
    (start : Inv emitted state) (ran : run step state labels = some final) :
    Inv (emitted ++ outputs step emit state labels) final := by
  induction labels generalizing state emitted with
  | nil =>
    cases ran
    rw [outputs, List.append_nil]
    exact start
  | cons label labels ih =>
    obtain ⟨here, later⟩ := meets
    obtain ⟨next, stepped, rest⟩ := run_cons.mp ran
    rw [outputs_cons stepped, ← List.append_assoc]
    exact ih (later next stepped) (preserves _ _ _ _ here start stepped) rest

/-- **Invariant rule**, for an invariant that speaks of what was emitted so far. -/
theorem run_invariant_of_outputs {Inv : List α → σ → Prop} {condition : σ → ι → Prop}
    (preserves : ∀ emitted state label next, condition state label → Inv emitted state →
      step state label = some next → Inv (emitted ++ emit state label) next)
    {state final : σ} {labels : List ι} (meets : Meets step condition state labels)
    (start : Inv [] state) (ran : run step state labels = some final) :
    Inv (outputs step emit state labels) final :=
  invariant_of_outputs preserves meets start ran

end Outputs

/-- The invariant rule for a machine whose steps are always enabled. -/
theorem fold_invariant {Inv : σ → Prop} {next : σ → ι → σ}
    (preserves : ∀ state label, Inv state → Inv (next state label)) {state : σ}
    (labels : List ι) (start : Inv state) : Inv (labels.foldl next state) := by
  induction labels generalizing state with
  | nil => exact start
  | cons label labels ih => exact ih (preserves state label start)

end Kps.Lib
