/-
**Limits that are advertised.**

A limit starts at an initial value and is raised; each value it is raised to is advertised. What is
advertised may be overtaken, repeated or still on its way, and whoever learns of it keeps the
largest value.

* `Advertised initial limit values` — `limit` is the largest of `initial` and `values`;
* `Advertised.advance` — it stays so when the limit is raised, `Advertised.merge` when a value is
  learned;
* `Advertised.le_of_subset`, `Advertised.eq_of_subset` — who learned of some of the values knows no
  larger limit, and who learned of all of them knows the limit, in whatever order and however often.
-/

import Mathlib.Order.MinMax

namespace Kps.Lib

variable {α : Type*} [LinearOrder α]

/-- The limit is the largest of the initial value and of the values advertised. -/
structure Advertised (initial limit : α) (values : List α) : Prop where
  initial_le : initial ≤ limit
  within : ∀ value ∈ values, value ≤ limit
  latest : limit = initial ∨ limit ∈ values

/-- The limit stays and nothing is advertised, or it is raised and advertised. -/
def Advances (limit limit' : α) (values : List α) : Prop :=
  (limit' = limit ∧ values = []) ∨ (limit ≤ limit' ∧ values = [limit'])

namespace Advertised

variable {initial limit limit' : α} {values values' : List α}

theorem start (initial : α) :
    Advertised initial initial [] := ⟨le_refl _, fun _ none => (by cases none), Or.inl rfl⟩

/-- Only which values are advertised counts. -/
theorem congr (advertised : Advertised initial limit values)
    (same : ∀ value, value ∈ values' ↔ value ∈ values) :
    Advertised initial limit values' where
  initial_le := advertised.initial_le
  within value member := advertised.within value ((same value).mp member)
  latest := advertised.latest.imp id (same limit).mpr

theorem advance (advertised : Advertised initial limit values) {more : List α}
    (advances : Advances limit limit' more) :
    Advertised initial limit' (values ++ more) := by
  rcases advances with ⟨rfl, rfl⟩ | ⟨raised, rfl⟩
  · rw [List.append_nil]
    exact advertised
  · refine ⟨le_trans advertised.initial_le raised, fun value member => ?_, ?_⟩
    · rcases List.mem_append.mp member with old | new
      · exact le_trans (advertised.within value old) raised
      · exact le_of_eq (List.mem_singleton.mp new)
    · exact Or.inr (List.mem_append_right _ List.mem_cons_self)

/-- A value is learned: a smaller one is ignored. -/
theorem merge (advertised : Advertised initial limit values) (value : α) :
    Advertised initial (max limit value) (values ++ [value]) := by
  refine ⟨le_max_of_le_left advertised.initial_le, fun other member => ?_, ?_⟩
  · rcases List.mem_append.mp member with old | new
    · exact le_max_of_le_left (advertised.within other old)
    · rw [List.mem_singleton.mp new]
      exact le_max_right _ _
  · rcases max_choice limit value with same | same
    · rw [same]
      exact advertised.latest.imp id (List.mem_append_left _)
    · rw [same]
      exact Or.inr (List.mem_append_right _ List.mem_cons_self)

/-- A larger initial value becomes known. -/
theorem floor (advertised : Advertised initial limit values) {initial' : α}
    (raised : initial ≤ initial') :
    Advertised initial' (max limit initial') values := by
  refine ⟨le_max_right _ _, fun value member => le_max_of_le_left (advertised.within value member),
    ?_⟩
  rcases max_choice limit initial' with same | same
  · rw [same]
    rcases advertised.latest with first | later
    · refine Or.inl (le_antisymm ?_ ?_)
      · rw [first]
        exact raised
      · rw [← same]
        exact le_max_right _ _
    · exact Or.inr later
  · exact Or.inl same

/-- **Who learned of some of the values knows no larger limit.** -/
theorem le_of_subset (advertised : Advertised initial limit values)
    (learned : Advertised initial limit' values') (some_ : values' ⊆ values) : limit' ≤ limit := by
  rcases learned.latest with first | later
  · rw [first]
    exact advertised.initial_le
  · exact advertised.within limit' (some_ later)

/-- **Who learned of all of the values knows the limit.** -/
theorem eq_of_subset (advertised : Advertised initial limit values)
    (learned : Advertised initial limit' values')
    (some_ : values' ⊆ values) (all : values ⊆ values') : limit' = limit :=
  le_antisymm (advertised.le_of_subset learned some_) (learned.le_of_subset advertised all)

end Advertised

end Kps.Lib
