/-
**Two deterministic machines in lockstep.**

A machine reads an operation and answers; its next state is part of the answer. `answers` lists what
it answers to a list of operations, and `Admitted` says that every operation is allowed in the state
it finds.

`lockstep`: if related states answer the same to every allowed operation and stay related, then the
two machines answer the same to every admitted list, step by step.
-/

import Mathlib.Data.List.Forall2

namespace Kps.Lib

variable {σ σ' ι ο ο' : Type*}

/-- The answers to a list of operations. -/
def answers (step : σ → ι → ο) (next : ο → σ) : σ → List ι → List ο
  | _, [] => []
  | state, op :: ops => step state op :: answers step next (next (step state op)) ops

/-- Every operation is allowed in the state it finds. -/
def Admitted (step : σ → ι → ο) (next : ο → σ) (allowed : σ → ι → Prop) : σ → List ι → Prop
  | _, [] => True
  | state, op :: ops =>
    allowed state op ∧ Admitted step next allowed (next (step state op)) ops

variable {step : σ → ι → ο} {next : ο → σ} {step' : σ' → ι → ο'} {next' : ο' → σ'}

/-- **The lockstep rule.** -/
theorem lockstep {Related : σ → σ' → Prop} {Same : ο → ο' → Prop} {allowed : σ' → ι → Prop}
    (keeps : ∀ state state' op, Related state state' → allowed state' op →
      Same (step state op) (step' state' op) ∧
        Related (next (step state op)) (next' (step' state' op)))
    {state : σ} {state' : σ'} {ops : List ι} (start : Related state state')
    (admitted : Admitted step' next' allowed state' ops) :
    List.Forall₂ Same (answers step next state ops) (answers step' next' state' ops) := by
  induction ops generalizing state state' with
  | nil => exact .nil
  | cons op ops ih =>
    obtain ⟨here, later⟩ := admitted
    obtain ⟨same, related⟩ := keeps _ _ _ start here
    exact .cons same (ih related later)

instance decidableAdmitted {allowed : σ → ι → Prop} [∀ state op, Decidable (allowed state op)]
    (state : σ) : (ops : List ι) → Decidable (Admitted step next allowed state ops)
  | [] => .isTrue trivial
  | op :: ops =>
    have : Decidable (Admitted step next allowed (next (step state op)) ops) :=
      decidableAdmitted (next (step state op)) ops
    inferInstanceAs (Decidable (_ ∧ _))

end Kps.Lib
