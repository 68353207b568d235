/-
**Totals over a keyed store.**

A store `κ → α` with a list of keys in use; `total keys weight store` adds a weight over the keys.

* `total_update_of_mem` — changing one entry changes the total by the change of its weight;
* `total_concat` — a new key adds its weight;
* `total_le_total` — two stores with different keys, compared key by key.
-/

import Mathlib.Algebra.BigOperators.Group.List.Basic
import Mathlib.Algebra.Order.Group.Int
import Mathlib.Algebra.Ring.Int.Defs
import Mathlib.Data.List.Nodup
import Mathlib.Logic.Function.Basic

namespace Kps.Lib

variable {κ α β : Type*}

/-- The sum of a weight over the keys in use. -/
def total (keys : List κ) (weight : α → Int) (store : κ → α) : Int :=
  (keys.map fun key => weight (store key)).sum

variable {keys keys' : List κ} {weight : α → Int} {store : κ → α}

@[simp] theorem total_nil : total [] weight store = 0 := rfl

@[simp] theorem total_cons (key : κ) :
    total (key :: keys) weight store = weight (store key) + total keys weight store := by
  simp [total]

@[simp] theorem total_concat (key : κ) :
    total (keys ++ [key]) weight store = total keys weight store + weight (store key) := by
  simp [total]

theorem total_congr {weight' : β → Int} {store' : κ → β}
    (same : ∀ key ∈ keys, weight (store key) = weight' (store' key)) :
    total keys weight store = total keys weight' store' := by
  unfold total
  rw [List.map_congr_left same]

theorem total_nonneg (nonneg : ∀ key ∈ keys, 0 ≤ weight (store key)) :
    0 ≤ total keys weight store := by
  induction keys with
  | nil => exact le_refl _
  | cons key keys ih =>
    have head := nonneg key List.mem_cons_self
    have tail := ih fun other member => nonneg other (List.mem_cons_of_mem _ member)
    rw [total_cons]
    omega

theorem total_sub (other : α → Int) :
    total keys (fun value => weight value - other value) store =
      total keys weight store - total keys other store := by
  induction keys with
  | nil => rfl
  | cons key keys ih =>
    simp only [total_cons, ih]
    omega

section Update

variable [DecidableEq κ]

theorem total_update_of_notMem {key : κ} (absent : key ∉ keys) (value : α) :
    total keys weight (Function.update store key value) = total keys weight store := by
  refine total_congr fun other member => ?_
  have different : other ≠ key := fun same => absent (same ▸ member)
  rw [Function.update_of_ne different]

/-- A new entry adds its weight. -/
theorem total_concat_update {key : κ} (absent : key ∉ keys) (value : α) :
    total (keys ++ [key]) weight (Function.update store key value) =
      total keys weight store + weight value := by
  rw [total_concat, total_update_of_notMem absent, Function.update_self]

/-- Changing one entry changes the total by the change of its weight. -/
theorem total_update_of_mem (nodup : keys.Nodup) {key : κ} (present : key ∈ keys) (value : α) :
    total keys weight (Function.update store key value) =
      total keys weight store + (weight value - weight (store key)) := by
  induction keys with
  | nil => cases present
  | cons head keys ih =>
    obtain ⟨fresh, nodup⟩ := List.nodup_cons.mp nodup
    simp only [total_cons]
    by_cases same : key = head
    · subst same
      rw [total_update_of_notMem fresh, Function.update_self]
      omega
    · have later : key ∈ keys := (List.mem_cons.mp present).resolve_left same
      rw [ih nodup later, Function.update_of_ne (Ne.symm same)]
      omega

theorem total_erase {key : κ} (present : key ∈ keys) :
    total keys weight store = weight (store key) + total (keys.erase key) weight store := by
  induction keys with
  | nil => cases present
  | cons head keys ih =>
    by_cases same : head = key
    · subst same
      rw [List.erase_cons_head, total_cons]
    · have later : key ∈ keys := (List.mem_cons.mp present).resolve_left (Ne.symm same)
      rw [List.erase_cons_tail (by simpa using same), total_cons, total_cons, ih later]
      omega

theorem weight_le_total (weight : α → Int) (nonneg : ∀ key ∈ keys, 0 ≤ weight (store key)) {key : κ}
    (present : key ∈ keys) : weight (store key) ≤ total keys weight store := by
  have rest : 0 ≤ total (keys.erase key) weight store :=
    total_nonneg fun other member => nonneg other (List.mem_of_mem_erase member)
  rw [total_erase present]
  omega

/-- Two totals compared key by key: a key only the first store uses weighs nothing there. -/
theorem total_le_total {weight' : β → Int} {store' : κ → β} (nodup : keys.Nodup)
    (nodup' : keys'.Nodup) (nonneg : ∀ key ∈ keys', 0 ≤ weight' (store' key))
    (shared : ∀ key ∈ keys, key ∈ keys' → weight (store key) ≤ weight' (store' key))
    (alone : ∀ key ∈ keys, key ∉ keys' → weight (store key) ≤ 0) :
    total keys weight store ≤ total keys' weight' store' := by
  induction keys generalizing keys' with
  | nil => exact total_nonneg nonneg
  | cons key keys ih =>
    obtain ⟨fresh, nodup⟩ := List.nodup_cons.mp nodup
    rw [total_cons]
    by_cases present : key ∈ keys'
    · have rest : total keys weight store ≤ total (keys'.erase key) weight' store' := by
        refine ih nodup (nodup'.erase key) (fun other member => ?_) (fun other member both => ?_)
          fun other member absent => ?_
        · exact nonneg other (List.mem_of_mem_erase member)
        · exact shared other (List.mem_cons_of_mem _ member) (List.mem_of_mem_erase both)
        · refine alone other (List.mem_cons_of_mem _ member) fun inside => absent ?_
          have different : other ≠ key := fun same => fresh (same ▸ member)
          exact (List.mem_erase_of_ne different).mpr inside
      have head := shared key List.mem_cons_self present
      rw [total_erase present]
      omega
    · have rest : total keys weight store ≤ total keys' weight' store' :=
        ih nodup nodup' nonneg
          (fun other member both => shared other (List.mem_cons_of_mem _ member) both)
          (fun other member absent => alone other (List.mem_cons_of_mem _ member) absent)
      have head := alone key List.mem_cons_self present
      omega

/-- The same, with a surplus at one shared key. -/
theorem total_add_le_total {weight' : β → Int} {store' : κ → β} (nodup : keys.Nodup)
    (nodup' : keys'.Nodup) (nonneg : ∀ key ∈ keys', 0 ≤ weight' (store' key))
    (shared : ∀ key ∈ keys, key ∈ keys' → weight (store key) ≤ weight' (store' key))
    (alone : ∀ key ∈ keys, key ∉ keys' → weight (store key) ≤ 0) {key : κ} {surplus : Int}
    (present : key ∈ keys) (present' : key ∈ keys')
    (raised : weight (store key) + surplus ≤ weight' (store' key)) :
    total keys weight store + surplus ≤ total keys' weight' store' := by
  have rest : total (keys.erase key) weight store ≤ total (keys'.erase key) weight' store' := by
    refine total_le_total (nodup.erase key) (nodup'.erase key) (fun other member => ?_)
      (fun other member both => ?_) fun other member absent => ?_
    · exact nonneg other (List.mem_of_mem_erase member)
    · exact shared other (List.mem_of_mem_erase member) (List.mem_of_mem_erase both)
    · have different : other ≠ key := by
        rintro rfl
        exact nodup.not_mem_erase member
      exact alone other (List.mem_of_mem_erase member) fun inside =>
        absent ((List.mem_erase_of_ne different).mpr inside)
  rw [total_erase present, total_erase present']
  omega

end Update

end Kps.Lib
