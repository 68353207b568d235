/-
**The last word of a log.**

`Silent ends speaks log`: nothing that `speaks` stands behind something that `ends`. It is kept by
entries that do not speak, and by any entry while nothing has ended.

`Behind mark p stack`: in a stack of sections the ones satisfying `p` stand behind one satisfying
`mark`, so that the mark runs first.
-/

import Mathlib.Data.List.Basic

namespace Kps.Lib

variable {α ω : Type*}

/-- Nothing that speaks follows anything that ends. -/
def Silent (ends speaks : α → Bool) (log : List α) : Prop :=
  log.Pairwise fun earlier later => ends earlier = true → speaks later = false

namespace Silent

variable {ends speaks : α → Bool} {log new : List α}

theorem nil : Silent ends speaks [] := List.Pairwise.nil

theorem sublist (silent : Silent ends speaks new) (part : log.Sublist new) :
    Silent ends speaks log :=
  List.Pairwise.sublist part silent

/-- What does not speak is added. -/
theorem mute (silent : Silent ends speaks log) (quiet : ∀ entry ∈ new, speaks entry = false) :
    Silent ends speaks (log ++ new) := by
  refine List.pairwise_append.mpr ⟨silent, ?_, ?_⟩
  · exact List.pairwise_of_forall_mem_list fun _ _ later member _ => quiet later member
  · exact fun _ _ later member _ => quiet later member

/-- Something is added before the end. -/
theorem before (silent : Silent ends speaks log) (open_ : ∀ earlier ∈ log, ends earlier = false)
    (entry : α) :
    Silent ends speaks (log ++ [entry]) := by
  refine List.pairwise_append.mpr ⟨silent, List.pairwise_singleton _ _, ?_⟩
  intro earlier member later _ ended
  rw [open_ earlier member] at ended
  cases ended

/-- Something that speaks at the end of a log tells that nothing has ended. -/
theorem of_concat {entry : α} (silent : Silent ends speaks (log ++ [entry]))
    (spoken : speaks entry = true) :
    ∀ earlier ∈ log, ends earlier = false := by
  intro earlier member
  by_contra ended
  have quiet := (List.pairwise_append.mp silent).2.2 earlier member entry List.mem_cons_self
    (Bool.not_eq_false _ ▸ ended)
  rw [spoken] at quiet
  cases quiet

/-- Entries that neither end nor speak may be left out. -/
theorem of_filter {about : α → Bool} (silent : Silent ends speaks (log.filter about))
    (ended : ∀ entry, ends entry = true → about entry = true)
    (spoken : ∀ entry, speaks entry = true → about entry = true) : Silent ends speaks log := by
  have kept := List.pairwise_filter.mp silent
  refine kept.imp ?_
  intro earlier later apart end_
  by_contra speaks_
  have quiet := apart (ended earlier end_) (spoken later (Bool.not_eq_false _ ▸ speaks_)) end_
  exact speaks_ quiet

end Silent

/-- The sections satisfying `p` stand behind a mark. -/
def Behind (mark p : ω → Bool) : List ω → Prop
  | [] => True
  | op :: rest => mark op = true ∨ p op = false ∧ Behind mark p rest

namespace Behind

variable {mark p : ω → Bool} {stack rest : List ω}

theorem of_quiet (quiet : ∀ op ∈ stack, p op = false) : Behind mark p stack := by
  induction stack with
  | nil => exact True.intro
  | cons op stack ih =>
    refine Or.inr ⟨quiet op List.mem_cons_self, ih ?_⟩
    exact fun other member => quiet other (List.mem_cons_of_mem _ member)

theorem append (quiet : ∀ op ∈ stack, p op = false) (behind : Behind mark p rest) :
    Behind mark p (stack ++ rest) := by
  induction stack with
  | nil => exact behind
  | cons op stack ih =>
    refine Or.inr ⟨quiet op List.mem_cons_self, ih ?_⟩
    exact fun other member => quiet other (List.mem_cons_of_mem _ member)

/-- Below a section that is no mark. -/
theorem tail {op : ω} (behind : Behind mark p (op :: rest)) (plain : mark op = false) :
    p op = false ∧ Behind mark p rest := by
  rcases behind with marked | below
  · rw [plain] at marked
    cases marked
  · exact below

end Behind

end Kps.Lib
