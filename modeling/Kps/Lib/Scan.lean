/-
**Reading texts**, over any units that stand for characters.

* `splitOnce_eq_some` — the parts before and after the first occurrence of a unit,
  `splitOnce_eq_indexOf` — the same by its position;
* `Decimal.read_eq_some`, `Decimal.read_write` — the value of a run of decimal digits, and of a
  number that was written.
-/

import Kps.Lib.Lines

namespace Kps.Lib

variable {α : Type*} [DecidableEq α]

/-- The parts before and after the first occurrence. -/
def splitOnce (u : α) : List α → Option (List α × List α)
  | [] => none
  | v :: rest => if v = u then some ([], rest) else (splitOnce u rest).map (Prod.map (v :: ·) id)

/-- The position of the first occurrence. -/
def indexOf (u : α) : List α → Option Nat
  | [] => none
  | v :: rest => if v = u then some 0 else (indexOf u rest).map (· + 1)

variable {u : α} {s x y : List α}

theorem splitOnce_eq_some : splitOnce u s = some (x, y) ↔ s = x ++ u :: y ∧ u ∉ x := by
  induction s generalizing x with
  | nil =>
    unfold splitOnce
    constructor
    · intro found
      cases found
    · rintro ⟨same, -⟩
      cases x <;> cases same
  | cons v rest ih =>
    unfold splitOnce
    by_cases here : v = u
    · subst here
      rw [if_pos rfl, Option.some.injEq, Prod.mk.injEq]
      constructor
      · rintro ⟨rfl, rfl⟩
        exact ⟨rfl, List.not_mem_nil⟩
      · rintro ⟨same, absent⟩
        cases x with
        | nil =>
          cases same
          exact ⟨rfl, rfl⟩
        | cons w x =>
          cases same
          exact absurd List.mem_cons_self absent
    · rw [if_neg here, Option.map_eq_some_iff]
      constructor
      · rintro ⟨⟨front, back⟩, found, same⟩
        cases same
        obtain ⟨rfl, absent⟩ := ih.mp found
        exact ⟨rfl,
          fun member => (List.mem_cons.mp member).elim (fun same => here same.symm) absent⟩
      · rintro ⟨same, absent⟩
        cases x with
        | nil =>
          cases same
          exact absurd rfl here
        | cons w x =>
          cases same
          exact ⟨(x, y), ih.mpr ⟨rfl, fun member => absent (List.mem_cons_of_mem _ member)⟩, rfl⟩

theorem splitOnce_eq_indexOf (u : α) (s : List α) :
    splitOnce u s = (indexOf u s).map fun i => (s.take i, s.drop (i + 1)) := by
  induction s with
  | nil => rfl
  | cons v rest ih =>
    unfold splitOnce indexOf
    by_cases here : v = u
    · rw [if_pos here, if_pos here]
      rfl
    · rw [if_neg here, if_neg here, ih, Option.map_map, Option.map_map]
      rfl

/-- The position splits the text. -/
theorem splitOnce_of_indexOf {i : Nat} (found : indexOf u s = some i) :
    splitOnce u s = some (s.take i, s.drop (i + 1)) := by
  rw [splitOnce_eq_indexOf, found, Option.map_some]

/-- The split has a position. -/
theorem indexOf_of_splitOnce (split : splitOnce u s = some (x, y)) :
    ∃ i, indexOf u s = some i ∧ s.take i = x ∧ s.drop (i + 1) = y := by
  rw [splitOnce_eq_indexOf] at split
  obtain ⟨i, found, same⟩ := Option.map_eq_some_iff.mp split
  cases same
  exact ⟨i, found, rfl, rfl⟩

namespace Decimal

variable (a : Alphabet α)

def digits : List Char := ['0', '1', '2', '3', '4', '5', '6', '7', '8', '9']

/-- The digit that a unit stands for. -/
def digit (u : α) : Option Char := digits.find? fun c => decide (a.unit c = u)

/-- The digits of a text; none if one of its units is no digit. -/
def readDigits : List α → Option (List Char)
  | [] => some []
  | u :: rest => (digit a u).bind fun c => (readDigits rest).map (c :: ·)

/-- The value of a run of digits. -/
def read (s : List α) : Option Nat :=
  if s = [] then none else (readDigits a s).map fun cs => Nat.ofDigitChars 10 cs 0

/-- The digits of a number. -/
def write (n : Nat) : List α := (toString n).toList.map a.unit

/-- The text is a run of digits with this value. -/
def Reads (a : Alphabet α) (s : List α) (n : Nat) : Prop :=
  ∃ cs, cs ≠ [] ∧ (∀ c ∈ cs, c ∈ digits) ∧ s = cs.map a.unit ∧ Nat.ofDigitChars 10 cs 0 = n

variable {a}

theorem digits_ascii : ∀ c ∈ digits, c.toNat < 128 := by
  have all : digits.all (fun c => c.toNat < 128) = true := by decide
  intro c member
  exact of_decide_eq_true (List.all_eq_true.mp all c member)

theorem digit_eq_some {c : Char} : digit a u = some c ↔ c ∈ digits ∧ a.unit c = u := by
  constructor
  · intro found
    have same := List.find?_some found
    exact ⟨List.mem_of_find?_eq_some found, of_decide_eq_true same⟩
  · rintro ⟨member, rfl⟩
    cases found : digit a (a.unit c) with
    | none =>
      have differs := List.find?_eq_none.mp found c member
      exact absurd (decide_eq_true rfl) differs
    | some d =>
      have same := List.find?_some found
      have same : a.unit d = a.unit c := of_decide_eq_true same
      have there := List.mem_of_find?_eq_some found
      rw [a.injective d c (digits_ascii d there) (digits_ascii c member) same]

theorem readDigits_eq_some {cs : List Char} :
    readDigits a s = some cs ↔ (∀ c ∈ cs, c ∈ digits) ∧ s = cs.map a.unit := by
  induction s generalizing cs with
  | nil =>
    unfold readDigits
    rw [Option.some.injEq]
    constructor
    · rintro rfl
      exact ⟨fun c none => absurd none List.not_mem_nil, rfl⟩
    · rintro ⟨-, same⟩
      exact (List.map_eq_nil_iff.mp same.symm).symm
  | cons u rest ih =>
    unfold readDigits
    simp only [Option.bind_eq_some_iff, Option.map_eq_some_iff, digit_eq_some, ih]
    constructor
    · rintro ⟨c, ⟨is, rfl⟩, later, ⟨others, rfl⟩, rfl⟩
      exact ⟨List.forall_mem_cons.mpr ⟨is, others⟩, rfl⟩
    · rintro ⟨all, same⟩
      cases cs with
      | nil => cases same
      | cons c later =>
        rw [List.map_cons, List.cons.injEq] at same
        obtain ⟨rfl, rfl⟩ := same
        obtain ⟨here, others⟩ := List.forall_mem_cons.mp all
        exact ⟨c, ⟨here, rfl⟩, later, ⟨others, rfl⟩, rfl⟩

/-- **The value of a run of digits.** -/
theorem read_eq_some {n : Nat} : read a s = some n ↔ Reads a s n := by
  unfold read Reads
  by_cases empty : s = []
  · subst empty
    rw [if_pos rfl]
    constructor
    · intro wrong
      cases wrong
    · rintro ⟨cs, some_, -, same, -⟩
      exact absurd (List.map_eq_nil_iff.mp same.symm) some_
  · rw [if_neg empty, Option.map_eq_some_iff]
    constructor
    · rintro ⟨cs, found, value⟩
      obtain ⟨all, rfl⟩ := readDigits_eq_some.mp found
      exact ⟨cs, fun none => empty (by rw [none]; rfl), all, rfl, value⟩
    · rintro ⟨cs, -, all, same, value⟩
      exact ⟨cs, readDigits_eq_some.mpr ⟨all, same⟩, value⟩

theorem mem_digits {c : Char} (digit : c.isDigit = true) : c ∈ digits := by
  obtain ⟨least, most⟩ := Char.isDigit_iff_toNat.mp digit
  have least : 48 ≤ c.toNat := least
  have most : c.toNat ≤ 57 := most
  have same : c = Char.ofNat c.toNat := (Char.ofNat_toNat c).symm
  have all : ∀ n, 48 ≤ n → n ≤ 57 → Char.ofNat n ∈ digits := by
    intro n least most
    have cases_ : n = 48 ∨ n = 49 ∨ n = 50 ∨ n = 51 ∨ n = 52 ∨ n = 53 ∨ n = 54 ∨ n = 55 ∨ n = 56 ∨
      n = 57 := by omega
    rcases cases_ with rfl | rfl | rfl | rfl | rfl | rfl | rfl | rfl | rfl | rfl <;> decide
  rw [same]
  exact all _ least most

omit [DecidableEq α] in
/-- **A number that was written is read again.** -/
theorem reads_write (n : Nat) : Reads a (write a n) n := by
  have chars : (toString n).toList = Nat.toDigits 10 n := String.toList_ofList
  refine ⟨(toString n).toList, ?_, fun c member => ?_, rfl, ?_⟩
  · rw [chars]
    exact Nat.toDigits_ne_nil
  · rw [chars] at member
    exact mem_digits (Nat.isDigit_of_mem_toDigits (by decide) (by decide) member)
  · rw [chars, Nat.ofDigitChars_ten_toDigits]

omit [DecidableEq α] in
/-- A run of digits has no other character. -/
theorem Reads.notMem {n : Nat} (reads : Reads a s n) {c : Char} (ascii : c.toNat < 128)
    (other : c ∉ digits) :
    a.unit c ∉ s := by
  obtain ⟨cs, -, all, rfl, -⟩ := reads
  intro member
  obtain ⟨d, found, same⟩ := List.mem_map.mp member
  rw [a.injective d c (digits_ascii d (all d found)) ascii same] at found
  exact other (all c found)

end Decimal

end Kps.Lib
