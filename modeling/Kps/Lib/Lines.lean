/-
**Texts in lines**, over characters or over the bytes that stand for them.

An `Alphabet` maps each ASCII character to a unit of its own. A text is a sequence of lines, each of
which ends with a carriage return and a line feed. What may stand in a line depends on what a reader
takes for its end: the pair, or either of the two.

* `IsLine.append_iff` — plain text before a string decides nothing;
* `isLine_text` — plain text is a line;
* `mismatch_prefix` — two texts that differ early on are no prefixes of each other.
-/

import Mathlib.Data.List.Infix

namespace Kps.Lib

/-- Units that stand for characters, the ASCII ones apart from each other. -/
structure Alphabet (α : Type*) where
  unit : Char → α
  injective : ∀ c d : Char, c.toNat < 128 → d.toNat < 128 → unit c = unit d → c = d

/-- What ends a line. -/
inductive LineEnd
  /-- A carriage return and a line feed. -/
  | pair
  /-- Either of the two. -/
  | either
  deriving DecidableEq, Repr

/-- A character of a line of ASCII text. -/
def plain (c : Char) : Bool := c.toNat < 128 && c ≠ '\r' && c ≠ '\n'

theorem plain_of_all {s : String} (all : s.toList.all plain = true) :
    ∀ c ∈ s.toList, plain c = true :=
  List.all_eq_true.mp all

namespace Alphabet

/-- Each character for itself. -/
def chars : Alphabet Char := ⟨id, fun _ _ _ _ same => same⟩

/-- Each character as one byte. -/
def bytes : Alphabet UInt8 where
  unit c := UInt8.ofNat c.toNat
  injective c d small small' same := by
    have same := congrArg UInt8.toNat same
    rw [UInt8.toNat_ofNat', UInt8.toNat_ofNat', Nat.mod_eq_of_lt (by omega),
      Nat.mod_eq_of_lt (by omega)] at same
    exact Char.toNat_inj.mp same

variable {α : Type*} (a : Alphabet α)

def text (s : String) : List α := s.toList.map a.unit

def cr : α := a.unit '\r'

def lf : α := a.unit '\n'

/-- The text of the lines. -/
def unlines (lines : List (List α)) : List α := lines.flatMap (· ++ [a.cr, a.lf])

/-- No line ends within it. -/
def IsLine (ends : LineEnd) (line : List α) : Prop :=
  match ends with
  | .pair => ¬ [a.cr, a.lf] <:+: line
  | .either => a.cr ∉ line ∧ a.lf ∉ line

instance [DecidableEq α] (ends : LineEnd) (line : List α) : Decidable (a.IsLine ends line) := by
  unfold IsLine
  cases ends <;> infer_instance

variable {a} {ends : LineEnd} {line : List α} {s t : String}

theorem IsLine.of_either (free : a.IsLine .either line) : a.IsLine ends line := by
  cases ends with
  | either => exact free
  | pair => exact fun infix' => free.1 (infix'.subset List.mem_cons_self)

/-- **Text that ends no line, before another**, leaves the question to that one. -/
theorem IsLine.append_iff {first : List α} (free : a.IsLine .either first) :
    a.IsLine ends (first ++ line) ↔ a.IsLine ends line := by
  cases ends with
  | either =>
    obtain ⟨cr, lf⟩ := free
    simp [IsLine, cr, lf]
  | pair =>
    obtain ⟨cr, -⟩ := free
    induction first with
    | nil => exact Iff.rfl
    | cons unit first ih =>
      have apart : ¬ [a.cr, a.lf] <+: unit :: (first ++ line) := by
        intro found
        exact cr (List.mem_cons.mpr (Or.inl (List.cons_prefix_cons.mp found).1))
      have rest := ih fun member => cr (List.mem_cons_of_mem _ member)
      unfold IsLine at rest ⊢
      rw [List.cons_append, List.infix_cons_iff, or_iff_right apart]
      exact rest

/-- **Plain text is a line.** -/
theorem isLine_text (all : ∀ c ∈ s.toList, plain c = true) : a.IsLine ends (a.text s) := by
  have apart (last : Char) (small : last.toNat < 128) (ends : plain last = false) :
      a.unit last ∉ a.text s := by
    intro member
    obtain ⟨c, member, same⟩ := List.mem_map.mp member
    have plain := all c member
    have ascii : c.toNat < 128 := by
      unfold Kps.Lib.plain at plain
      simp only [Bool.and_eq_true, decide_eq_true_eq] at plain
      exact plain.1.1
    rw [a.injective c last ascii small same, ends] at plain
    cases plain
  exact IsLine.of_either ⟨apart '\r' (by decide) (by decide), apart '\n' (by decide) (by decide)⟩

theorem text_append : a.text (s ++ t) = a.text s ++ a.text t := by
  unfold text
  rw [String.toList_append, List.map_append]

/-- They differ at a place both reach. -/
def mismatch : List Char → List Char → Bool
  | c :: s, d :: t => c ≠ d || mismatch s t
  | _, _ => false

/-- **Texts that differ early on** are no prefixes of each other. -/
theorem mismatch_prefix {s t : List Char} (ascii : s.all (·.toNat < 128) = true)
    (ascii' : t.all (·.toNat < 128) = true)
    (differ : mismatch s t = true) (rest : List α) : ¬ s.map a.unit <+: t.map a.unit ++ rest := by
  induction s generalizing t with
  | nil => cases t <;> cases differ
  | cons c s ih =>
    cases t with
    | nil => cases differ
    | cons d t =>
      rw [List.all_cons, Bool.and_eq_true, decide_eq_true_eq] at ascii ascii'
      intro found
      obtain ⟨same, found⟩ := List.cons_prefix_cons.mp found
      have same := a.injective c d ascii.1 ascii'.1 same
      refine ih ascii.2 ascii'.2 ?_ found
      unfold mismatch at differ
      simpa [same] using differ

end Alphabet

end Kps.Lib
