/-
**Base64** without padding, over any units that stand for characters.

`encode` writes the characters of the standard alphabet; `sextets` are their numbers, and
`ofSextets` the bytes they stand for, with or without a check of the unused bits of the last one.
`values` reads the numbers of a text in an alphabet.

* `plain_encode` — what it writes is plain text;
* `ofSextets_sextets` — what is written is read again;
* `ofSextets_true`, `ofSextets_false` — with the check the numbers are those of the bytes, and
  without it they are once the unused bits are cleared;
* `values_eq_some` — the numbers of a text are the ones it is written with.
-/

import Kps.Lib.Bytes
import Kps.Lib.Lines
import Mathlib.Data.List.Nodup

namespace Kps.Lib.Base64

/-- The character of a number below 64. -/
def character (n : Nat) : Char :=
  if n < 26 then Char.ofNat (65 + n)
  else if n < 52 then Char.ofNat (97 + (n - 26))
  else if n < 62 then Char.ofNat (48 + (n - 52))
  else if n = 62 then '+'
  else '/'

/-- Three bytes are four characters; the last group of one or two bytes is two or three. -/
def encode : Bytes → List Char
  | a :: b :: c :: rest =>
    [a.toNat / 4, a.toNat % 4 * 16 + b.toNat / 16, b.toNat % 16 * 4 + c.toNat / 64,
      c.toNat % 64].map character ++ encode rest
  | [a, b] => [a.toNat / 4, a.toNat % 4 * 16 + b.toNat / 16, b.toNat % 16 * 4].map character
  | [a] => [a.toNat / 4, a.toNat % 4 * 16].map character
  | [] => []

theorem plain_character (n : Nat) : plain (character n) = true := by
  by_cases small : n < 64
  · have all : ∀ n < 64, plain (character n) = true := by decide
    exact all n small
  · have last : character n = '/' := by
      unfold character
      rw [if_neg (by omega), if_neg (by omega), if_neg (by omega), if_neg (by omega)]
    rw [last]
    decide

theorem plain_encode (data : Bytes) : ∀ c ∈ encode data, plain c = true := by
  have mapped (ns : List Nat) : ∀ c ∈ ns.map character, plain c = true := by
    intro c member
    obtain ⟨n, -, rfl⟩ := List.mem_map.mp member
    exact plain_character n
  induction data using encode.induct with
  | case1 a b c rest ih =>
    intro c' member
    rcases List.mem_append.mp member with here | later
    · exact mapped _ c' here
    · exact ih c' later
  | case2 a b => exact mapped _
  | case3 a => exact mapped _
  | case4 =>
    intro c member
    cases member

/-- What it writes ends no line. -/
theorem isLine_encode {α : Type*} (a : Alphabet α) (data : Bytes) :
    a.IsLine .either ((encode data).map a.unit) := by
  have plain : ∀ c ∈ (String.ofList (encode data)).toList, plain c = true := by
    rw [String.toList_ofList]
    exact plain_encode data
  have line := @Alphabet.isLine_text _ a .either _ plain
  unfold Alphabet.text at line
  rw [String.toList_ofList] at line
  exact line

example : encode [102, 111, 111, 98, 97, 114] = "Zm9vYmFy".toList := by decide

/-! ### The numbers of the characters -/

/-- Three bytes are four numbers below 64; the last group of one or two bytes is two or three. -/
def sextets : Bytes → List Nat
  | a :: b :: c :: rest =>
    a.toNat / 4 :: (a.toNat % 4 * 16 + b.toNat / 16) :: (b.toNat % 16 * 4 + c.toNat / 64) ::
      c.toNat % 64 ::
      sextets rest
  | [a, b] => [a.toNat / 4, a.toNat % 4 * 16 + b.toNat / 16, b.toNat % 16 * 4]
  | [a] => [a.toNat / 4, a.toNat % 4 * 16]
  | [] => []

/-- The bytes that the numbers stand for; a strict reader wants the unused bits of the last one to
be zero. -/
def ofSextets (strict : Bool) : List Nat → Option Bytes
  | p :: q :: r :: t :: rest =>
    (ofSextets strict rest).map fun data =>
      UInt8.ofNat (p * 4 + q / 16) :: UInt8.ofNat (q % 16 * 16 + r / 4) :: UInt8.ofNat
        (r % 4 * 64 + t) :: data
  | [p, q, r] =>
    if strict = true ∧ r % 4 ≠ 0 then none
    else some [UInt8.ofNat (p * 4 + q / 16), UInt8.ofNat (q % 16 * 16 + r / 4)]
  | [p, q] => if strict = true ∧ q % 16 ≠ 0 then none else some [UInt8.ofNat (p * 4 + q / 16)]
  | [_] => none
  | [] => some []

/-- The numbers with the unused bits of the last one cleared. -/
def cleared : List Nat → List Nat
  | p :: q :: r :: t :: rest => p :: q :: r :: t :: cleared rest
  | [p, q, r] => [p, q, r / 4 * 4]
  | [p, q] => [p, q / 16 * 16]
  | [p] => [p]
  | [] => []

theorem sextets_lt (data : Bytes) : ∀ n ∈ sextets data, n < 64 := by
  induction data using sextets.induct with
  | case1 a b c rest ih =>
    have := a.toNat_lt
    have := b.toNat_lt
    have := c.toNat_lt
    unfold sextets
    simp only [List.forall_mem_cons]
    exact ⟨by omega, by omega, by omega, by omega, ih⟩
  | case2 a b =>
    have := a.toNat_lt
    have := b.toNat_lt
    unfold sextets
    simp only [List.forall_mem_cons]
    exact ⟨by omega, by omega, by omega, fun n none => by cases none⟩
  | case3 a =>
    have := a.toNat_lt
    unfold sextets
    simp only [List.forall_mem_cons]
    exact ⟨by omega, by omega, fun n none => by cases none⟩
  | case4 => exact fun n none => by cases none

/-- A byte from the number it is. -/
theorem ofNat_eq {n : Nat} {a : UInt8} (same : n = a.toNat) : UInt8.ofNat n = a := by
  rw [same, UInt8.ofNat_toNat]

/-- **What is written is read again.** -/
theorem ofSextets_sextets (strict : Bool) (data : Bytes) :
    ofSextets strict (sextets data) = some data := by
  induction data using sextets.induct with
  | case1 a b c rest ih =>
    have := a.toNat_lt
    have := b.toNat_lt
    have := c.toNat_lt
    unfold sextets ofSextets
    rw [ih, Option.map_some, ofNat_eq (by omega : _ = a.toNat), ofNat_eq (by omega : _ = b.toNat),
      ofNat_eq (by omega : _ = c.toNat)]
  | case2 a b =>
    have := a.toNat_lt
    have := b.toNat_lt
    unfold sextets ofSextets
    rw [if_neg (by omega), ofNat_eq (by omega : _ = a.toNat), ofNat_eq (by omega : _ = b.toNat)]
  | case3 a =>
    have := a.toNat_lt
    unfold sextets ofSextets
    rw [if_neg (by omega), ofNat_eq (by omega : _ = a.toNat)]
  | case4 => rfl

/-- Who does not check the unused bits reads as if they were cleared. -/
theorem ofSextets_cleared (ns : List Nat) : ofSextets false (cleared ns) = ofSextets false ns := by
  induction ns using cleared.induct with
  | case1 p q r t rest ih =>
    unfold cleared ofSextets
    rw [ih]
  | case2 p q r =>
    have same : r / 4 * 4 / 4 = r / 4 := by omega
    simp [cleared, ofSextets, same]
  | case3 p q =>
    have same : q / 16 * 16 / 16 = q / 16 := by omega
    simp [cleared, ofSextets, same]
  | case4 p => rfl
  | case5 => rfl

theorem toNat_ofNat {n : Nat} (small : n < 256) : (UInt8.ofNat n).toNat = n := by
  rw [UInt8.toNat_ofNat', Nat.mod_eq_of_lt small]

/-- The numbers of what was read are the ones it was read from. -/
theorem sextets_of_ofSextets {ns : List Nat} {data : Bytes} (small : ∀ n ∈ ns, n < 64)
    (read : ofSextets false ns = some data) : sextets data = cleared ns := by
  induction ns using cleared.induct generalizing data with
  | case1 p q r t rest ih =>
    simp only [List.forall_mem_cons] at small
    obtain ⟨p_lt, q_lt, r_lt, t_lt, small⟩ := small
    obtain ⟨later, inner, rfl⟩ := Option.map_eq_some_iff.mp read
    unfold sextets cleared
    rw [ih small inner, toNat_ofNat (by omega), toNat_ofNat (by omega), toNat_ofNat (by omega)]
    congr 1
    · omega
    congr 1
    · omega
    congr 1
    · omega
    congr 1
    omega
  | case2 p q r =>
    simp only [List.forall_mem_cons] at small
    obtain ⟨p_lt, q_lt, r_lt, -⟩ := small
    unfold ofSextets at read
    rw [if_neg (by simp)] at read
    cases read
    unfold sextets cleared
    rw [toNat_ofNat (by omega), toNat_ofNat (by omega)]
    congr 1
    · omega
    congr 1
    · omega
    congr 1
    omega
  | case3 p q =>
    simp only [List.forall_mem_cons] at small
    obtain ⟨p_lt, q_lt, -⟩ := small
    unfold ofSextets at read
    rw [if_neg (by simp)] at read
    cases read
    unfold sextets cleared
    rw [toNat_ofNat (by omega)]
    congr 1
    · omega
    congr 1
    omega
  | case4 p => cases read
  | case5 =>
    cases read
    rfl

/-- **Without the check**, bytes are read from the numbers that are theirs once the unused bits are
cleared. -/
theorem ofSextets_false {ns : List Nat} {data : Bytes} (small : ∀ n ∈ ns, n < 64) :
    ofSextets false ns = some data ↔ cleared ns = sextets data := by
  constructor
  · exact fun read => (sextets_of_ofSextets small read).symm
  · intro same
    rw [← ofSextets_cleared, same, ofSextets_sextets]

/-- Who checks the unused bits reads what another one reads, if they are clear. -/
theorem ofSextets_strict {ns : List Nat} {data : Bytes} (read : ofSextets true ns = some data) :
    ofSextets false ns = some data ∧ cleared ns = ns := by
  induction ns using cleared.induct generalizing data with
  | case1 p q r t rest ih =>
    obtain ⟨later, inner, rfl⟩ := Option.map_eq_some_iff.mp read
    obtain ⟨lenient, clear⟩ := ih inner
    unfold ofSextets cleared
    rw [lenient, clear]
    exact ⟨rfl, rfl⟩
  | case2 p q r =>
    obtain ⟨clear, same⟩ := Option.ite_none_left_eq_some.mp read
    have unused : r / 4 * 4 = r := by
      have zero : r % 4 = 0 := by
        by_contra used
        exact clear ⟨rfl, used⟩
      omega
    unfold ofSextets cleared
    rw [if_neg (by simp), unused]
    exact ⟨same, rfl⟩
  | case3 p q =>
    obtain ⟨clear, same⟩ := Option.ite_none_left_eq_some.mp read
    have unused : q / 16 * 16 = q := by
      have zero : q % 16 = 0 := by
        by_contra used
        exact clear ⟨rfl, used⟩
      omega
    unfold ofSextets cleared
    rw [if_neg (by simp), unused]
    exact ⟨same, rfl⟩
  | case4 p => cases read
  | case5 => exact ⟨read, rfl⟩

/-- **With the check**, bytes are read from their numbers only. -/
theorem ofSextets_true {ns : List Nat} {data : Bytes} (small : ∀ n ∈ ns, n < 64) :
    ofSextets true ns = some data ↔ ns = sextets data := by
  constructor
  · intro read
    obtain ⟨lenient, clear⟩ := ofSextets_strict read
    rw [sextets_of_ofSextets small lenient, clear]
  · rintro rfl
    exact ofSextets_sextets true data

theorem length_sextets (data : Bytes) : (sextets data).length = (4 * data.length + 2) / 3 := by
  induction data using sextets.induct with
  | case1 a b c rest ih =>
    unfold sextets
    simp only [List.length_cons, ih]
    omega
  | case2 a b => simp [sextets]
  | case3 a => simp [sextets]
  | case4 => rfl

theorem length_cleared (ns : List Nat) : (cleared ns).length = ns.length := by
  induction ns using cleared.induct with
  | case1 p q r t rest ih =>
    unfold cleared
    simp only [List.length_cons, ih]
  | case2 p q r => rfl
  | case3 p q => rfl
  | case4 p => rfl
  | case5 => rfl

/-- The numbers of bytes have no unused bits. -/
theorem cleared_sextets (data : Bytes) : cleared (sextets data) = sextets data :=
  (sextets_of_ofSextets (sextets_lt data) (ofSextets_sextets false data)).symm

/-- Every group but a single number stands for bytes. -/
theorem exists_ofSextets {ns : List Nat} (groups : ns.length % 4 ≠ 1) :
    ∃ data, ofSextets false ns = some data := by
  induction ns using cleared.induct with
  | case1 p q r t rest ih =>
    simp only [List.length_cons] at groups
    obtain ⟨data, read⟩ := ih (by omega)
    unfold ofSextets
    exact ⟨_, by rw [read]; rfl⟩
  | case2 p q r => exact ⟨_, rfl⟩
  | case3 p q => exact ⟨_, rfl⟩
  | case4 p => exact absurd rfl groups
  | case5 => exact ⟨_, rfl⟩

/-! ### Texts in an alphabet -/

/-- The characters of the numbers below 64. -/
structure Charset where
  char : Nat → Char
  ascii : ∀ n < 64, (char n).toNat < 128
  injective : ((List.range 64).map char).Nodup

/-- The standard alphabet. -/
def standard : Charset := ⟨character, by decide, by decide⟩

/-- The alphabet for URLs. -/
def urlSafe : Charset where
  char n := if n = 62 then '-' else if n = 63 then '_' else character n
  ascii := by decide
  injective := by decide

variable {α : Type*} [DecidableEq α] (t : Charset) (a : Alphabet α)

/-- The unit that a number is written with. -/
def Charset.unit (n : Nat) : α := a.unit (t.char n)

/-- The text of the bytes. -/
def write (data : Bytes) : List α := (sextets data).map (t.unit a)

/-- The number that a unit is written for. -/
def value (u : α) : Option Nat := (List.range 64).find? fun n => decide (t.unit a n = u)

/-- The numbers of a text; none if one of its units is not in the alphabet. -/
def values : List α → Option (List Nat)
  | [] => some []
  | u :: rest => (value t a u).bind fun n => (values rest).map (n :: ·)

/-- The bytes of a text. -/
def decode (strict : Bool) (s : List α) : Option Bytes := (values t a s).bind (ofSextets strict)

variable {t a}

omit [DecidableEq α] in
theorem unit_inj {m n : Nat} (small : m < 64) (small' : n < 64) (same : t.unit a m = t.unit a n) :
    m = n := by
  have chars := a.injective _ _ (t.ascii m small) (t.ascii n small') same
  refine List.inj_on_of_nodup_map t.injective ?_ ?_ chars
  · exact List.mem_range.mpr small
  · exact List.mem_range.mpr small'

theorem value_eq_some {u : α} {n : Nat} : value t a u = some n ↔ n < 64 ∧ t.unit a n = u := by
  constructor
  · intro found
    have member := List.mem_of_find?_eq_some found
    have same := List.find?_some found
    exact ⟨List.mem_range.mp member, of_decide_eq_true same⟩
  · rintro ⟨small, rfl⟩
    cases found : value t a (t.unit a n) with
    | none =>
      have differs := List.find?_eq_none.mp found n (List.mem_range.mpr small)
      exact absurd (decide_eq_true rfl) differs
    | some m =>
      have member := List.mem_of_find?_eq_some found
      have same := List.find?_some found
      have same : t.unit a m = t.unit a n := of_decide_eq_true same
      rw [unit_inj (List.mem_range.mp member) small same]

/-- **The numbers of a text** are the ones it is written with. -/
theorem values_eq_some {s : List α} {ns : List Nat} :
    values t a s = some ns ↔ (∀ n ∈ ns, n < 64) ∧ s = ns.map (t.unit a) := by
  induction s generalizing ns with
  | nil =>
    unfold values
    rw [Option.some.injEq]
    constructor
    · rintro rfl
      exact ⟨fun n none => absurd none List.not_mem_nil, rfl⟩
    · rintro ⟨-, same⟩
      exact (List.map_eq_nil_iff.mp same.symm).symm
  | cons u rest ih =>
    unfold values
    simp only [Option.bind_eq_some_iff, Option.map_eq_some_iff, value_eq_some, ih]
    constructor
    · rintro ⟨n, ⟨small, rfl⟩, later, ⟨others, rfl⟩, rfl⟩
      exact ⟨List.forall_mem_cons.mpr ⟨small, others⟩, rfl⟩
    · rintro ⟨small, same⟩
      cases ns with
      | nil => cases same
      | cons n later =>
        rw [List.map_cons, List.cons.injEq] at same
        obtain ⟨rfl, rfl⟩ := same
        obtain ⟨here, others⟩ := List.forall_mem_cons.mp small
        exact ⟨n, ⟨here, rfl⟩, later, ⟨others, rfl⟩, rfl⟩

/-- A text has one reading. -/
theorem map_unit_inj {ns ns' : List Nat} (small : ∀ n ∈ ns, n < 64) (small' : ∀ n ∈ ns', n < 64)
    (same : ns.map (t.unit a) = ns'.map (t.unit a)) : ns = ns' := by
  have reads : values t a (ns.map (t.unit a)) = some ns := values_eq_some.mpr ⟨small, rfl⟩
  rw [values_eq_some.mpr ⟨small', same⟩, Option.some.injEq] at reads
  exact reads.symm

/-- **A strict reader** reads bytes from their text only. -/
theorem decode_true {s : List α} {data : Bytes} :
    decode t a true s = some data ↔ s = write t a data := by
  unfold decode write
  rw [Option.bind_eq_some_iff]
  constructor
  · rintro ⟨ns, found, read⟩
    obtain ⟨small, rfl⟩ := values_eq_some.mp found
    rw [(ofSextets_true small).mp read]
  · rintro rfl
    exact ⟨sextets data, values_eq_some.mpr ⟨sextets_lt data, rfl⟩, ofSextets_sextets true data⟩

/-- **A lenient reader** ignores the unused bits. -/
theorem decode_false {s : List α} {data : Bytes} : decode t a false s = some data ↔
    ∃ ns, (∀ n ∈ ns, n < 64) ∧ s = ns.map (t.unit a) ∧ cleared ns = sextets data := by
  unfold decode
  rw [Option.bind_eq_some_iff]
  constructor
  · rintro ⟨ns, found, read⟩
    obtain ⟨small, same⟩ := values_eq_some.mp found
    exact ⟨ns, small, same, (ofSextets_false small).mp read⟩
  · rintro ⟨ns, small, same, clear⟩
    exact ⟨ns, values_eq_some.mpr ⟨small, same⟩, (ofSextets_false small).mpr clear⟩

end Kps.Lib.Base64
