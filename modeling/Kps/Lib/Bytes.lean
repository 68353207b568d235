/-
**Big-endian integers as byte strings.**

`toBE w v` are the `w` low-order bytes of `v`, most significant first; `ofBE` reads a byte string
back. The two are inverse on the values and strings of the width (`ofBE_toBE`, `toBE_ofBE`).
-/

import Mathlib.Data.List.Induction
import Mathlib.Tactic.Ring

namespace Kps.Lib

/-- A byte string. -/
abbrev Bytes := List UInt8

/-- The `w` low-order bytes of `v`, most significant first. -/
def toBE : Nat → Nat → Bytes
  | 0, _ => []
  | w + 1, v => toBE w (v / 256) ++ [UInt8.ofNat (v % 256)]

/-- Read a byte string as a big-endian integer. -/
def ofBE (bytes : Bytes) : Nat :=
  bytes.foldl (fun acc byte => acc * 256 + byte.toNat) 0

@[simp] theorem length_toBE (w v : Nat) : (toBE w v).length = w := by
  induction w generalizing v with
  | zero => rfl
  | succ w ih => simp [toBE, ih]

@[simp] theorem ofBE_nil : ofBE [] = 0 := rfl

theorem ofBE_append_singleton (bytes : Bytes) (byte : UInt8) :
    ofBE (bytes ++ [byte]) = ofBE bytes * 256 + byte.toNat := by
  simp [ofBE, List.foldl_append]

theorem ofBE_toBE (w v : Nat) : ofBE (toBE w v) = v % 256 ^ w := by
  induction w generalizing v with
  | zero => simp [toBE, Nat.mod_one]
  | succ w ih =>
    rw [toBE, ofBE_append_singleton, ih]
    have byte : (UInt8.ofNat (v % 256)).toNat = v % 256 := by
      simp
    rw [byte, pow_succ', Nat.mod_mul, Nat.mul_comm, Nat.add_comm]

theorem ofBE_toBE_of_lt {w v : Nat} (small : v < 256 ^ w) : ofBE (toBE w v) = v := by
  rw [ofBE_toBE, Nat.mod_eq_of_lt small]

theorem ofBE_lt (bytes : Bytes) : ofBE bytes < 256 ^ bytes.length := by
  induction bytes using List.reverseRecOn with
  | nil => simp
  | append_singleton bytes byte ih =>
    rw [ofBE_append_singleton, List.length_append, List.length_singleton, pow_succ]
    have := byte.toNat_lt
    omega

theorem toBE_ofBE (bytes : Bytes) : toBE bytes.length (ofBE bytes) = bytes := by
  induction bytes using List.reverseRecOn with
  | nil => rfl
  | append_singleton bytes byte ih =>
    have small := byte.toNat_lt
    rw [List.length_append, List.length_singleton, toBE, ofBE_append_singleton]
    have high : (ofBE bytes * 256 + byte.toNat) / 256 = ofBE bytes := by omega
    have low : (ofBE bytes * 256 + byte.toNat) % 256 = byte.toNat := by omega
    rw [high, low, ih, UInt8.ofNat_toNat]

end Kps.Lib
