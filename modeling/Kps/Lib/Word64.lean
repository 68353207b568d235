/-
**Arithmetic on 64-bit words that records wrapping.**

`Traced α` is a value computed with machine words, together with whether an addition or a
subtraction on the way left the range of the word. `Word.add` and `Word.sub` are the wrapping
operations.

* `Word.add_exact`, `Word.sub_exact` — an operation whose exact result is in range does not wrap,
  and its value is the exact one;
* `Word.int_min`, `Word.int_max`, `Word.int_half` — the operations that cannot wrap.

Words are compared with exact integers through `Word.int`.
-/

import Mathlib.Algebra.Group.Nat.Defs
import Mathlib.Data.Int.Basic
import Mathlib.Order.Defs.LinearOrder
import Mathlib.Tactic.Common

namespace Kps.Lib

/-- A value computed with machine words; `wrapped` if an operation on the way wrapped. -/
structure Traced (α : Type) where
  value : α
  wrapped : Bool := false
  deriving DecidableEq, Repr

namespace Traced

instance : Monad Traced where
  pure value := { value }
  bind first next :=
    { value := (next first.value).value
      wrapped := first.wrapped || (next first.value).wrapped }

variable {α β : Type}

@[simp] theorem pure_bind (value : α) (next : α → Traced β) :
    (pure value >>= next) = next value := rfl

theorem value_bind (first : Traced α) (next : α → Traced β) :
    (first >>= next).value = (next first.value).value := rfl

@[simp] theorem value_pure (value : α) : (pure value : Traced α).value = value := rfl

@[simp] theorem wrapped_pure (value : α) : (pure value : Traced α).wrapped = false := rfl

@[simp] theorem map_pure (f : α → β) (value : α) :
    (f <$> (pure value : Traced α)) = pure (f value) :=
  rfl

end Traced

namespace Word

/-- The exact value of a word. -/
def int (a : UInt64) : Int := a.toNat

def add (a b : UInt64) : Traced UInt64 where
  value := a + b
  wrapped := decide (2 ^ 64 ≤ a.toNat + b.toNat)

def sub (a b : UInt64) : Traced UInt64 where
  value := a - b
  wrapped := decide (a.toNat < b.toNat)

theorem int_nonneg (a : UInt64) : 0 ≤ int a := Int.natCast_nonneg _

@[simp] theorem int_ofNat {n : Nat} (small : n < 2 ^ 64) : int (UInt64.ofNat n) = n := by
  unfold int
  rw [UInt64.toNat_ofNat_of_lt' small]

theorem int_le_iff {a b : UInt64} : int a ≤ int b ↔ a ≤ b := by
  rw [UInt64.le_iff_toNat_le]
  unfold int
  omega

theorem int_lt_iff {a b : UInt64} : int a < int b ↔ a < b := by
  rw [UInt64.lt_iff_toNat_lt]
  unfold int
  omega

theorem int_inj {a b : UInt64} : int a = int b ↔ a = b := by
  rw [← UInt64.toNat_inj]
  unfold int
  omega

/-- Words whose sum is one add up. -/
theorem toNat_add {a b : UInt64} (fits : a.toNat + b.toNat < 2 ^ 64) :
    (a + b).toNat = a.toNat + b.toNat := by
  rw [UInt64.toNat_add, Nat.mod_eq_of_lt fits]

/-- An addition in range is exact. -/
theorem add_exact {a b : UInt64} (fits : int a + int b < 18446744073709551616) :
    ∃ c, add a b = pure c ∧ int c = int a + int b := by
  have fits : a.toNat + b.toNat < 2 ^ 64 := by
    unfold int at fits
    omega
  refine ⟨a + b, ?_, ?_⟩
  · have kept : decide (2 ^ 64 ≤ a.toNat + b.toNat) = false := decide_eq_false (not_le.mpr fits)
    unfold add
    rw [kept]
    rfl
  · unfold int
    rw [toNat_add fits]
    exact Int.natCast_add _ _

/-- A subtraction in range is exact. -/
theorem sub_exact {a b : UInt64} (fits : int b ≤ int a) :
    ∃ c, sub a b = pure c ∧ int c = int a - int b := by
  have fits : b.toNat ≤ a.toNat := by
    unfold int at fits
    omega
  refine ⟨a - b, ?_, ?_⟩
  · have kept : decide (a.toNat < b.toNat) = false := decide_eq_false (not_lt.mpr fits)
    unfold sub
    rw [kept]
    rfl
  · unfold int
    rw [UInt64.toNat_sub_of_le _ _ (UInt64.le_iff_toNat_le.mpr fits)]
    exact Int.natCast_sub fits

theorem int_min (a b : UInt64) : int (min a b) = min (int a) (int b) := by
  show int (if a ≤ b then a else b) = _
  by_cases le : a ≤ b
  · have := int_le_iff.mpr le
    rw [if_pos le]
    omega
  · have := mt int_le_iff.mp le
    rw [if_neg le]
    omega

theorem int_max (a b : UInt64) : int (max a b) = max (int a) (int b) := by
  show int (if a ≤ b then b else a) = _
  by_cases le : a ≤ b
  · have := int_le_iff.mpr le
    rw [if_pos le]
    omega
  · have := mt int_le_iff.mp le
    rw [if_neg le]
    omega

theorem min_le_right (a b : UInt64) : min a b ≤ b := by
  rw [← int_le_iff, int_min]
  exact Int.min_le_right _ _

/-- Of three words one is zero, if the smallest is. -/
theorem min_min_eq_zero {a b c : UInt64} (small : ¬ min (min a b) c ≥ 1) :
    a = 0 ∨ b = 0 ∨ c = 0 := by
  rw [ge_iff_le, ← int_le_iff, int_min, int_min] at small
  have zero : int 0 = 0 := rfl
  have one : int 1 = 1 := rfl
  rw [← int_inj, ← int_inj, ← int_inj, zero]
  have := int_nonneg a
  have := int_nonneg b
  have := int_nonneg c
  omega

theorem int_half (a : UInt64) : int (a / 2) = int a / 2 := by
  unfold int
  rw [UInt64.toNat_div]
  rfl

end Word

end Kps.Lib
