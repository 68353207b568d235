/-
**Tables, and addresses routed through names.**

A `Table` maps a key to at most one value. `Routed` relates two tables: `names` registers entries
under names, `addrs` routes addresses to the inbox of an entry, and no address is routed to the
inbox of an entry that is not registered.

* `Routed.insert_name`, `Routed.insert_addr` — registering under a free name, and routing an address
  to an entry that is registered;
* `Routed.remove` — removing an entry together with every address routed to its inbox.
-/

import Mathlib.Data.Option.Basic
import Mathlib.Logic.Function.Basic

namespace Kps.Lib

variable {κ ν α ε ι : Type}

/-- A map with at most one value for a key. -/
def Table (κ ν : Type) := κ → Option ν

namespace Table

def empty : Table κ ν := fun _ => none

def insert [DecidableEq κ] (key : κ) (value : ν) (t : Table κ ν) : Table κ ν :=
  Function.update t key (some value)

def erase [DecidableEq κ] (key : κ) (t : Table κ ν) : Table κ ν := Function.update t key none

/-- Keep the entries whose value passes. -/
def retain (keep : ν → Bool) (t : Table κ ν) : Table κ ν := fun key => (t key).filter keep

section Insert

variable [DecidableEq κ] {t : Table κ ν} {key other : κ} {value : ν}

@[simp] theorem insert_self : t.insert key value key = some value := Function.update_self ..

theorem insert_of_ne (different : other ≠ key) : t.insert key value other = t other :=
  Function.update_of_ne different ..

@[simp] theorem erase_self : t.erase key key = none := Function.update_self ..

theorem erase_of_ne (different : other ≠ key) : t.erase key other = t other :=
  Function.update_of_ne different ..

/-- What is left after an erasure was there before, under another key. -/
theorem erase_eq_some (found : t.erase key other = some value) :
    other ≠ key ∧ t other = some value := by
  by_cases same : other = key
  · subst same
    rw [erase_self] at found
    cases found
  · exact ⟨same, by rwa [erase_of_ne same] at found⟩

end Insert

theorem retain_eq_some {t : Table κ ν} {keep : ν → Bool} {key : κ} {value : ν} :
    t.retain keep key = some value ↔ t key = some value ∧ keep value = true := by
  unfold retain
  exact Option.filter_eq_some_iff

end Table

/-- No address is routed to the inbox of an entry that is not registered. -/
def Routed (inbox : ε → ι) (names : Table κ ε) (addrs : Table α ι) : Prop :=
  ∀ addr target, addrs addr = some target → ∃ name entry, names name = some entry ∧
    inbox entry = target

namespace Routed

variable {inbox : ε → ι} {names : Table κ ε} {addrs : Table α ι} {name : κ} {entry : ε}

theorem empty (names : Table κ ε) : Routed inbox names (Table.empty : Table α ι) := by
  intro addr target routed
  cases routed

theorem insert_name [DecidableEq κ] (routed : Routed inbox names addrs) (free : names name = none) :
    Routed inbox (names.insert name entry) addrs := by
  intro addr target found
  obtain ⟨other, owner, registered, same⟩ := routed addr target found
  refine ⟨other, owner, ?_, same⟩
  rw [Table.insert_of_ne ?_]
  · exact registered
  · rintro rfl
    rw [free] at registered
    cases registered

theorem insert_addr [DecidableEq α] (routed : Routed inbox names addrs)
    (registered : names name = some entry) (addr : α) :
    Routed inbox names (addrs.insert addr (inbox entry)) := by
  intro other target found
  by_cases same : other = addr
  · subst same
    rw [Table.insert_self] at found
    cases found
    exact ⟨name, entry, registered, rfl⟩
  · rw [Table.insert_of_ne same] at found
    exact routed other target found

theorem remove [DecidableEq κ] [DecidableEq ι] (routed : Routed inbox names addrs)
    (registered : names name = some entry) :
    Routed inbox (names.erase name) (addrs.retain fun target => decide (target ≠ inbox entry)) := by
  intro addr target found
  obtain ⟨found, kept⟩ := Table.retain_eq_some.mp found
  obtain ⟨other, owner, present, same⟩ := routed addr target found
  refine ⟨other, owner, ?_, same⟩
  rw [Table.erase_of_ne ?_]
  · exact present
  · rintro rfl
    rw [registered] at present
    cases present
    exact of_decide_eq_true kept same.symm

end Routed

end Kps.Lib
