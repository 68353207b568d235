/-
**Credit windows.**

A receiver lets its peer send cumulative amounts up to an absolute limit, and moves the limit as
what it received is consumed. Amounts are cumulative and exact (`Int`), limits saturate at a ceiling
`cap`.

* `Window.receive` enforces the limit, `Window.consume` advances it once half a window is consumed
  and not yet advertised.
* `Window.Valid` is the invariant: `0 ≤ advertisedAt ≤ consumed ≤ received ≤ consumed + size` and
  `limit ≤ advertisedAt + size`. `Window.Valid.outstanding_le` bounds what is held unread by the
  size of the window, whatever the sender does.
* `Window.Sound` adds what saturation at the ceiling keeps of the initial limit.
* `Window.Batched` says that little is withheld: a window whose advertised limit is the ceiling
  formula and which holds nothing back past half of it. `Window.Batched.room`: with everything
  received also consumed there is room for one more.
-/

import Mathlib.Data.Int.Basic
import Mathlib.Order.Lattice
import Mathlib.Order.Defs.LinearOrder

namespace Kps.Lib

/-- A receive window: its size, the limit it enforces, and the cumulative counters. -/
structure Window where
  size : Int
  limit : Int
  received : Int
  consumed : Int
  advertisedAt : Int

namespace Window

/-- Admit `n` more, or reject them as above the limit. -/
def receive (n : Int) (w : Window) : Option Window :=
  if w.received + n > w.limit then none else some { w with received := w.received + n }

/-- Count `n` as consumed. -/
def take (n : Int) (w : Window) : Window := { w with consumed := w.consumed + n }

/-- Half a window is consumed and not advertised. -/
def due (w : Window) : Bool := decide (w.consumed - w.advertisedAt ≥ w.size / 2)

/-- Move the limit one window above what is consumed, below the ceiling. -/
def advertise (cap : Int) (w : Window) : Window :=
  { w with advertisedAt := w.consumed, limit := min (w.consumed + w.size) cap }

/-- Consume `n`; when `grant` is set and an advertisement is due, move the limit and return it. -/
def consume (cap : Int) (grant : Bool) (n : Int) (w : Window) : Window × Option Int :=
  if grant && (w.take n).due then
    ((w.take n).advertise cap, some ((w.take n).advertise cap).limit)
  else (w.take n, none)

theorem consume_granted {cap n : Int} {grant : Bool} {w : Window}
    (granted : (grant && (w.take n).due) = true) :
    w.consume cap grant n = ((w.take n).advertise cap, some ((w.take n).advertise cap).limit) :=
  if_pos granted

theorem consume_withheld {cap n : Int} {grant : Bool} {w : Window}
    (withheld : ¬ (grant && (w.take n).due) = true) : w.consume cap grant n = (w.take n, none) :=
  if_neg withheld

section Consume

variable {cap n : Int} {grant : Bool} {w : Window}

@[simp] theorem received_consume : (w.consume cap grant n).1.received = w.received := by
  unfold consume
  split <;> rfl

@[simp] theorem consumed_consume : (w.consume cap grant n).1.consumed = w.consumed + n := by
  unfold consume
  split <;> rfl

@[simp] theorem size_consume : (w.consume cap grant n).1.size = w.size := by
  unfold consume
  split <;> rfl

/-- The limit stays, or moves to what is returned, below the ceiling. -/
theorem limit_consume (cap n : Int) (grant : Bool) (w : Window) :
    ((w.consume cap grant n).2 = none ∧ (w.consume cap grant n).1.limit = w.limit) ∨
      ((w.consume cap grant n).2 = some (w.consume cap grant n).1.limit ∧
        (w.consume cap grant n).1.limit ≤ cap) := by
  unfold consume
  split
  · exact Or.inr ⟨rfl, min_le_right _ _⟩
  · exact Or.inl ⟨rfl, rfl⟩

end Consume

/-- The counters are ordered, at most one window is outstanding, and the limit is at most one
window above the last advertisement. -/
structure Valid (w : Window) : Prop where
  start : 0 ≤ w.advertisedAt
  behind : w.advertisedAt ≤ w.consumed
  taken : w.consumed ≤ w.received
  outstanding : w.received ≤ w.consumed + w.size
  limit_le : w.limit ≤ w.advertisedAt + w.size

/-- Never more than one window is received and not consumed. -/
theorem Valid.outstanding_le {w : Window} (valid : w.Valid) : w.received - w.consumed ≤ w.size := by
  have := valid.outstanding
  omega

theorem Valid.receive {w w' : Window} {n : Int} (valid : w.Valid) (nonneg : 0 ≤ n)
    (admitted : w.receive n = some w') : w'.Valid := by
  unfold Window.receive at admitted
  split at admitted
  · cases admitted
  · rename_i fits
    cases admitted
    obtain ⟨start, behind, taken, outstanding, limit_le⟩ := valid
    exact ⟨start, behind, by simp only; omega, by simp only; omega, limit_le⟩

theorem Valid.take {w : Window} {n : Int} (valid : w.Valid) (nonneg : 0 ≤ n)
    (available : w.consumed + n ≤ w.received) : (w.take n).Valid := by
  obtain ⟨start, behind, taken, outstanding, limit_le⟩ := valid
  refine ⟨start, ?_, available, ?_, limit_le⟩
  · show w.advertisedAt ≤ w.consumed + n
    omega
  · show w.received ≤ w.consumed + n + w.size
    omega

theorem Valid.advertise {w : Window} {cap : Int} (valid : w.Valid) : (w.advertise cap).Valid := by
  obtain ⟨start, behind, taken, outstanding, limit_le⟩ := valid
  refine ⟨?_, le_refl _, taken, outstanding, ?_⟩
  · show 0 ≤ w.consumed
    omega
  · show min (w.consumed + w.size) cap ≤ w.consumed + w.size
    omega

theorem Valid.consume {w : Window} {cap n : Int} {grant : Bool} (valid : w.Valid)
    (nonneg : 0 ≤ n) (available : w.consumed + n ≤ w.received) :
    (w.consume cap grant n).1.Valid := by
  have taken := valid.take nonneg available
  by_cases granted : (grant && (w.take n).due) = true
  · rw [consume_granted granted]
    exact taken.advertise
  · rw [consume_withheld granted]
    exact taken

/-- Below the ceiling the limit never moves down. -/
theorem Valid.limit_le_consume {w : Window} (valid : w.Valid) (cap : Int) (grant : Bool) {n : Int}
    (nonneg : 0 ≤ n) : min w.limit cap ≤ (w.consume cap grant n).1.limit := by
  by_cases granted : (grant && (w.take n).due) = true
  · obtain ⟨start, behind, taken, outstanding, limit_le⟩ := valid
    rw [consume_granted granted]
    show min w.limit cap ≤ min (w.consumed + n + w.size) cap
    omega
  · rw [consume_withheld granted]
    exact min_le_left _ _

/-- Sound below a ceiling: valid, never below the initial limit, and below the ceiling if the
initial limit is. -/
structure Sound (cap : Int) (w : Window) : Prop where
  valid : w.Valid
  floor : min w.size cap ≤ w.limit
  capped : w.size ≤ cap → w.limit ≤ cap

theorem Sound.limit_nonneg {cap : Int} {w : Window} (sound : w.Sound cap) (size : 0 ≤ w.size)
    (ceiling : 0 ≤ cap) : 0 ≤ w.limit := by
  have := sound.floor
  omega

theorem Sound.receive {cap n : Int} {w w' : Window} (sound : w.Sound cap) (nonneg : 0 ≤ n)
    (admitted : w.receive n = some w') : w'.Sound cap := by
  have valid := sound.valid.receive nonneg admitted
  unfold Window.receive at admitted
  split at admitted
  · cases admitted
  · cases admitted
    exact ⟨valid, sound.floor, sound.capped⟩

theorem Sound.consume {cap n : Int} {grant : Bool} {w : Window} (sound : w.Sound cap)
    (nonneg : 0 ≤ n) (available : w.consumed + n ≤ w.received) :
    (w.consume cap grant n).1.Sound cap := by
  have valid : (w.consume cap grant n).1.Valid := sound.valid.consume nonneg available
  by_cases granted : (grant && (w.take n).due) = true
  · have positive : 0 ≤ w.consumed + n := by
      have := sound.valid.start
      have := sound.valid.behind
      omega
    rw [consume_granted granted] at valid ⊢
    refine ⟨valid, ?_, fun _ => min_le_right _ _⟩
    show min w.size cap ≤ min (w.consumed + n + w.size) cap
    omega
  · rw [consume_withheld granted] at valid ⊢
    exact ⟨valid, sound.floor, sound.capped⟩

/-- What the window withholds: the limit is the ceiling formula at the last advertisement, and
either nothing or less than half a window was consumed since. -/
structure Batched (cap : Int) (w : Window) : Prop where
  formula : w.limit = min (w.advertisedAt + w.size) cap
  pending : w.consumed = w.advertisedAt ∨ w.consumed - w.advertisedAt < w.size / 2

theorem Batched.consume {w : Window} {cap n : Int} (batched : w.Batched cap) :
    (w.consume cap true n).1.Batched cap := by
  by_cases granted : (true && (w.take n).due) = true
  · rw [consume_granted granted]
    exact ⟨rfl, Or.inl rfl⟩
  · rw [consume_withheld granted]
    refine ⟨batched.formula, Or.inr ?_⟩
    simpa [due] using granted

/-- A drained window has room: below the ceiling, when all that was received is consumed, the
limit is above what was received. -/
theorem Batched.room {w : Window} {cap : Int} (batched : w.Batched cap) (size : 1 ≤ w.size)
    (drained : w.consumed = w.received) (below : w.received + w.size ≤ cap)
    (valid : w.Valid) : w.received + 1 ≤ w.limit := by
  have behind := valid.behind
  rw [batched.formula]
  rcases batched.pending with same | small <;> omega

end Window

end Kps.Lib
