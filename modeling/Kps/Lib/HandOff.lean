/-
**Handing items to the calls that ask for them.**

Items arrive in a queue and calls ask for one. A call that finds no item waits for one, or is
refused; a call that waits can be aborted, and all of them can be stopped. A queue of a limited
capacity drops its oldest item when one too many is in it. `left` says, in order, what became of the
items that are no longer queued: `dropped n` that an item was dropped as the oldest of `n`.

* `HandOff.Inv` — never both an item and a call wait; what arrived is, in order, what left and what
  is queued; every call was given an item, was refused, or waits, and just one of these; items are
  dropped at the limit alone;
* `HandOff.inv_run` — every sequence of operations keeps it.
-/

import Mathlib.Data.List.Range
import Mathlib.Data.List.Perm.Basic

namespace Kps.Lib

/-- What became of an item. -/
inductive Fate
  | given (call : Nat)
  | dropped (of : Nat)
  deriving DecidableEq, Repr

/-- The call it was given to. -/
def Fate.call : Fate → Option Nat
  | given call => some call
  | dropped _ => none

/-- The items and the calls so far; calls are numbered in order. `aborted` are those whose abort
found them waiting. -/
structure HandOff (α : Type) where
  arrived : List α := []
  left : List (α × Fate) := []
  items : List α := []
  calls : Nat := 0
  waiters : List Nat := []
  refused : List Nat := []
  aborted : List Nat := []

namespace HandOff

variable {α : Type}

inductive Op (α : Type)
  | arrive (item : α)
  /-- A call, which does not wait if `refuse`. -/
  | call (refuse : Bool)
  /-- A call that is refused, whatever is queued. -/
  | reject
  | abort (call : Nat)
  | stop

/-- The oldest item is dropped if there are more than `limit`. -/
def trim (limit : Option Nat) (h : HandOff α) : HandOff α :=
  match h.items with
  | [] => h
  | oldest :: rest =>
    if limit.any (fun limit => decide (h.items.length > limit)) then
      { h with left := h.left ++ [(oldest, .dropped h.items.length)], items := rest }
    else h

def arrive (limit : Option Nat) (item : α) (h : HandOff α) : HandOff α :=
  match h.waiters with
  | call :: rest =>
    { h with
      arrived := h.arrived ++ [item], left := h.left ++ [(item, .given call)], waiters := rest }
  | [] => trim limit { h with arrived := h.arrived ++ [item], items := h.items ++ [item] }

def reject (h : HandOff α) : HandOff α :=
  { h with refused := h.refused ++ [h.calls], calls := h.calls + 1 }

def call (refuse : Bool) (h : HandOff α) : HandOff α :=
  match h.items with
  | item :: rest =>
    { h with left := h.left ++ [(item, .given h.calls)], items := rest, calls := h.calls + 1 }
  | [] =>
    if refuse then h.reject
    else { h with waiters := h.waiters ++ [h.calls], calls := h.calls + 1 }

def abort (call : Nat) (h : HandOff α) : HandOff α :=
  if call ∈ h.waiters then
    { h with
      waiters := h.waiters.erase call
      refused := h.refused ++ [call]
      aborted := h.aborted ++ [call] }
  else h

def stop (h : HandOff α) : HandOff α := { h with waiters := [], refused := h.refused ++ h.waiters }

def step (limit : Option Nat) (h : HandOff α) : Op α → HandOff α
  | .arrive item => h.arrive limit item
  | .call refuse => h.call refuse
  | .reject => h.reject
  | .abort call => h.abort call
  | .stop => h.stop

/-- The calls that were given an item, in order, with it. -/
def handed (left : List (α × Fate)) : List (Nat × α) :=
  left.filterMap fun gone => gone.2.call.map fun call => (call, gone.1)

def gifts (h : HandOff α) : List (Nat × α) := handed h.left

structure Inv (limit : Option Nat) (h : HandOff α) : Prop where
  apart : h.items = [] ∨ h.waiters = []
  order : h.arrived = h.left.map Prod.fst ++ h.items
  settled : (h.gifts.map Prod.fst ++ h.refused ++ h.waiters).Perm (List.range h.calls)
  aborted : ∀ call ∈ h.aborted, call ∈ h.refused
  full : ∀ item n, (item, .dropped n) ∈ h.left → limit.any (fun limit => decide (n > limit)) = true

variable {limit : Option Nat} {h : HandOff α}

theorem handed_given (left : List (α × Fate)) (item : α) (call : Nat) :
    handed (left ++ [(item, .given call)]) = handed left ++ [(call, item)] := by
  simp [handed, Fate.call]

theorem handed_dropped (left : List (α × Fate)) (item : α) (n : Nat) :
    handed (left ++ [(item, .dropped n)]) = handed left := by
  simp [handed, Fate.call]

theorem trim_none (h : HandOff α) : h.trim none = h := by
  unfold trim
  split <;> rfl

/-! ### What arrived, and the calls -/

theorem trim_same (limit : Option Nat) (h : HandOff α) :
    (h.trim limit).arrived = h.arrived ∧ (h.trim limit).calls = h.calls ∧
    (h.trim limit).aborted = h.aborted := by
  unfold trim
  split
  · exact ⟨rfl, rfl, rfl⟩
  · split <;> exact ⟨rfl, rfl, rfl⟩

theorem arrive_same (limit : Option Nat) (item : α) (h : HandOff α) :
    (h.arrive limit item).arrived = h.arrived ++ [item] ∧ (h.arrive limit item).calls = h.calls ∧
      (h.arrive limit item).aborted = h.aborted := by
  unfold arrive
  split
  · exact ⟨rfl, rfl, rfl⟩
  · exact trim_same _ _

theorem call_same (refuse : Bool) (h : HandOff α) :
    (h.call refuse).arrived = h.arrived ∧ (h.call refuse).calls = h.calls + 1 ∧
      (h.call refuse).aborted = h.aborted := by
  unfold call
  split
  · exact ⟨rfl, rfl, rfl⟩
  · split <;> exact ⟨rfl, rfl, rfl⟩

theorem abort_same (call : Nat) (h : HandOff α) :
    (h.abort call).arrived = h.arrived ∧ (h.abort call).calls = h.calls ∧
      (call ∈ h.waiters → call ∈ (h.abort call).aborted) ∧
      ∀ other ∈ h.aborted, other ∈ (h.abort call).aborted := by
  unfold abort
  split
  · exact ⟨rfl, rfl, fun _ => List.mem_append_right _ List.mem_cons_self,
      fun _ => List.mem_append_left _⟩
  · next absent => exact ⟨rfl, rfl, fun waiting => absurd waiting absent, fun _ => id⟩

/-- The item that arrives. -/
def Op.item : Op α → Option α
  | .arrive item => some item
  | _ => none

def Op.isCall : Op α → Bool
  | .call _ => true
  | .reject => true
  | _ => false

/-- **What operations record**: the items that arrive, the calls, and the aborts of calls that
wait. -/
theorem run_same (limit : Option Nat) (ops : List (Op α)) (h : HandOff α) :
    (ops.foldl (step limit) h).arrived = h.arrived ++ ops.filterMap Op.item ∧
    (ops.foldl (step limit) h).calls = h.calls + ops.countP Op.isCall ∧
    ∀ call ∈ h.aborted, call ∈ (ops.foldl (step limit) h).aborted := by
  induction ops generalizing h with
  | nil => exact ⟨(List.append_nil _).symm, rfl, fun _ => id⟩
  | cons op ops ih =>
    obtain ⟨arrived, calls, aborted⟩ := ih (h.step limit op)
    rw [List.foldl_cons, arrived, calls, List.countP_cons]
    cases op with
    | arrive item =>
      obtain ⟨arrived', calls', aborted'⟩ := arrive_same limit item h
      refine ⟨?_, congrArg (· + _) calls', fun call member => aborted call (aborted' ▸ member)⟩
      exact (congrArg (· ++ _) arrived').trans (List.append_assoc _ _ _)
    | call refuse =>
      obtain ⟨arrived', calls', aborted'⟩ := call_same refuse h
      refine ⟨congrArg (· ++ _) arrived', ?_, fun call member => aborted call (aborted' ▸ member)⟩
      show (h.call refuse).calls + _ = h.calls + (_ + 1)
      rw [calls']
      omega
    | reject =>
      refine ⟨rfl, ?_, aborted⟩
      show h.calls + 1 + _ = h.calls + (_ + 1)
      omega
    | abort call =>
      obtain ⟨arrived', calls', -, aborted'⟩ := abort_same call h
      exact ⟨congrArg (· ++ _) arrived', congrArg (· + _) calls', fun other member =>
        aborted other (aborted' other member)⟩
    | stop => exact ⟨rfl, rfl, aborted⟩

/-! ### The invariant -/

/-- A queue without a limit gives all that leaves it to a call. -/
theorem Inv.left_none {h : HandOff α} (inv : Inv none h) :
    h.left.map Prod.fst = h.gifts.map Prod.snd := by
  have full := inv.full
  unfold gifts handed
  generalize h.left = left at full
  induction left with
  | nil => rfl
  | cons gone left ih =>
    obtain ⟨item, fate⟩ := gone
    have rest := ih fun item n member => full item n (List.mem_cons_of_mem _ member)
    cases fate with
    | given call => exact congrArg (item :: ·) rest
    | dropped n => cases full item n List.mem_cons_self

/-- No call is given an item and refused. -/
theorem Inv.not_given (inv : Inv limit h) {call : Nat} (refused : call ∈ h.refused) (item : α) :
    (call, item) ∉ h.gifts := by
  intro given
  have nodup := inv.settled.nodup_iff.mpr List.nodup_range
  have disjoint := (List.nodup_append.mp (List.nodup_append.mp nodup).1).2.2
  exact disjoint call (List.mem_map_of_mem given) call refused rfl

theorem Inv.trim (order : h.arrived = h.left.map Prod.fst ++ h.items)
    (settled : (h.gifts.map Prod.fst ++ h.refused ++ h.waiters).Perm (List.range h.calls))
    (aborted : ∀ call ∈ h.aborted, call ∈ h.refused)
    (full : ∀ item n, (item, .dropped n) ∈ h.left →
      limit.any (fun limit => decide (n > limit)) = true)
    (none : h.waiters = []) : Inv limit (h.trim limit) := by
  unfold HandOff.trim
  split
  · next empty => exact ⟨Or.inl empty, order, settled, aborted, full⟩
  · next oldest rest items =>
    split
    · next over' =>
      refine ⟨Or.inr none, ?_, ?_, aborted, fun item n member => ?_⟩
      · show h.arrived = (h.left ++ [(oldest, _)]).map Prod.fst ++ rest
        rw [order, items, List.map_append, List.append_assoc]
        rfl
      · unfold gifts
        rw [handed_dropped]
        exact settled
      · rcases List.mem_append.mp member with old | new
        · exact full item n old
        · cases List.mem_singleton.mp new
          exact over'
    · exact ⟨Or.inr none, order, settled, aborted, full⟩

theorem Inv.arrive (inv : Inv limit h) (item : α) : Inv limit (h.arrive limit item) := by
  unfold HandOff.arrive
  split
  · next call rest waiting =>
    have empty : h.items = [] :=
      inv.apart.resolve_right (by rw [waiting]; exact List.cons_ne_nil _ _)
    refine ⟨Or.inl empty, ?_, ?_, inv.aborted, fun other n member => ?_⟩
    · show h.arrived ++ [item] = (h.left ++ [(item, _)]).map Prod.fst ++ h.items
      rw [inv.order, empty, List.append_nil, List.append_nil, List.map_append]
      rfl
    · show ((handed (h.left ++ [(item, .given call)])).map Prod.fst ++ h.refused ++ rest).Perm _
      rw [handed_given, List.map_append]
      refine List.Perm.trans ?_ inv.settled
      rw [waiting]
      show (h.gifts.map Prod.fst ++ [call] ++ h.refused ++ rest).Perm
        (h.gifts.map Prod.fst ++ h.refused ++ ([call] ++ rest))
      rw [← List.append_assoc _ [call] rest, List.append_assoc _ [call] h.refused,
        List.append_assoc _ h.refused [call]]
      exact (List.perm_append_comm.append_left _).append_right _
    · rcases List.mem_append.mp member with old | new
      · exact inv.full other n old
      · cases List.mem_singleton.mp new
  · next none =>
    refine Inv.trim ?_ inv.settled inv.aborted inv.full none
    show h.arrived ++ [item] = h.left.map Prod.fst ++ (h.items ++ [item])
    rw [inv.order, List.append_assoc]

/-- One more call, among those that are settled or wait. -/
theorem settled_succ {calls : List Nat} {n : Nat} {first second third : List Nat}
    (settled : calls.Perm (List.range n)) (same : (first ++ second ++ third).Perm (calls ++ [n])) :
    (first ++ second ++ third).Perm (List.range (n + 1)) := by
  rw [List.range_succ]
  exact same.trans (settled.append_right _)

theorem Inv.reject (inv : Inv limit h) : Inv limit h.reject := by
  refine ⟨inv.apart, inv.order, settled_succ inv.settled ?_, fun call member => ?_, inv.full⟩
  · show (h.gifts.map Prod.fst ++ (h.refused ++ [h.calls]) ++ h.waiters).Perm _
    rw [← List.append_assoc, List.append_assoc _ [h.calls], List.append_assoc _ h.waiters]
    exact List.perm_append_comm.append_left _
  · exact List.mem_append_left _ (inv.aborted call member)

theorem Inv.call (inv : Inv limit h) (refuse : Bool) : Inv limit (h.call refuse) := by
  unfold HandOff.call
  split
  · next item rest items =>
    have none : h.waiters = [] := inv.apart.resolve_left (by rw [items]; exact List.cons_ne_nil _ _)
    refine ⟨Or.inr none, ?_, settled_succ inv.settled ?_, inv.aborted, fun other n member => ?_⟩
    · show h.arrived = (h.left ++ [(item, _)]).map Prod.fst ++ rest
      rw [inv.order, items, List.map_append, List.append_assoc]
      rfl
    · show ((handed (h.left ++ [(item, .given h.calls)])).map Prod.fst ++ h.refused ++
        h.waiters).Perm _
      rw [handed_given, List.map_append, none, List.append_nil, List.append_nil, List.append_assoc,
        List.append_assoc]
      exact List.perm_append_comm.append_left _
    · rcases List.mem_append.mp member with old | new
      · exact inv.full other n old
      · cases List.mem_singleton.mp new
  · next empty =>
    split
    · exact inv.reject
    · refine ⟨Or.inl empty, inv.order, settled_succ inv.settled ?_, inv.aborted, inv.full⟩
      show (h.gifts.map Prod.fst ++ h.refused ++ (h.waiters ++ [h.calls])).Perm _
      rw [← List.append_assoc]

theorem Inv.abort (inv : Inv limit h) (call : Nat) : Inv limit (h.abort call) := by
  unfold HandOff.abort
  split
  · next waiting =>
    refine ⟨inv.apart.imp_right fun none => ?_, inv.order, ?_, fun other member => ?_, inv.full⟩
    · rw [none] at waiting
      cases waiting
    · refine List.Perm.trans ?_ inv.settled
      show (h.gifts.map Prod.fst ++ (h.refused ++ [call]) ++ h.waiters.erase call).Perm _
      rw [← List.append_assoc, List.append_assoc _ [call]]
      exact ((List.perm_cons_erase waiting).symm).append_left _
    · rcases List.mem_append.mp member with old | new
      · exact List.mem_append_left _ (inv.aborted other old)
      · exact List.mem_append_right _ new
  · exact inv

theorem Inv.stop (inv : Inv limit h) : Inv limit h.stop := by
  refine ⟨Or.inr rfl, inv.order, ?_,
    fun call member => List.mem_append_left _ (inv.aborted call member), inv.full⟩
  show (h.gifts.map Prod.fst ++ (h.refused ++ h.waiters) ++ []).Perm _
  rw [List.append_nil, ← List.append_assoc]
  exact inv.settled

theorem inv_new : Inv limit ({} : HandOff α) := by
  refine ⟨Or.inl rfl, rfl, .refl _, fun call member => ?_, fun item n member => ?_⟩
  · cases member
  · cases member

/-- **One operation keeps the invariant.** -/
theorem Inv.step (inv : Inv limit h) (op : Op α) : Inv limit (h.step limit op) := by
  cases op with
  | arrive item => exact inv.arrive item
  | call refuse => exact inv.call refuse
  | reject => exact inv.reject
  | abort call => exact inv.abort call
  | stop => exact inv.stop

theorem Inv.run (inv : Inv limit h) (ops : List (Op α)) :
    Inv limit (ops.foldl (HandOff.step limit) h) := by
  induction ops generalizing h with
  | nil => exact inv
  | cons op ops ih => exact ih (inv.step op)

/-! ### What a buffer delivers -/

/-- A buffer holds the items of the queue, and has delivered those it handed out. -/
structure Delivers (h : HandOff α) (items received : List α) : Prop where
  items : h.items = items
  received : h.gifts.map Prod.snd = received

theorem cons_eq_concat_iff {item first : α} {rest : List α} :
    first :: rest = rest ++ [item] ↔ ∀ other ∈ first :: rest, other = item := by
  induction rest generalizing first with
  | nil => simp
  | cons second rest ih =>
    rw [List.cons_append, List.cons.injEq, ih]
    constructor
    · rintro ⟨rfl, same⟩ other member
      rcases List.mem_cons.mp member with rfl | later
      · exact same _ List.mem_cons_self
      · exact same other later
    · intro same
      refine ⟨?_, fun other member => same other (List.mem_cons_of_mem _ member)⟩
      exact (same first List.mem_cons_self).trans
        (same second (List.mem_cons_of_mem _ List.mem_cons_self)).symm

/-- **To drop the newest item is to drop the oldest** just if all the items are alike. -/
theorem eq_tail_append_iff {item : α} {items : List α} :
    (items ++ [item]).tail = items ↔ ∀ other ∈ items, other = item := by
  cases items with
  | nil => simp
  | cons first rest =>
    rw [List.cons_append, List.tail_cons, eq_comm]
    exact cons_eq_concat_iff

section Delivers

variable {items received : List α} {bound : Nat}

theorem Delivers.give (delivers : Delivers h items received) {call : Nat} {rest : List Nat}
    (waiting : h.waiters = call :: rest) (item : α) : Delivers (h.arrive limit item) items
    (received ++ [item]) := by
  unfold HandOff.arrive
  rw [waiting]
  refine ⟨delivers.items, ?_⟩
  show (handed (h.left ++ [(item, .given call)])).map Prod.snd = received ++ [item]
  rw [handed_given, List.map_append]
  exact congrArg (· ++ [item]) delivers.received

theorem Delivers.take {item : α} (delivers : Delivers h (item :: items) received) (refuse : Bool) :
    Delivers (h.call refuse) items (received ++ [item]) := by
  unfold HandOff.call
  rw [delivers.items]
  refine ⟨rfl, ?_⟩
  show (handed (h.left ++ [(item, .given h.calls)])).map Prod.snd = received ++ [item]
  rw [handed_given, List.map_append]
  exact congrArg (· ++ [item]) delivers.received

/-- There is room for an item. -/
theorem Delivers.room (delivers : Delivers h items received) (none : h.waiters = [])
    (room : items.length < bound)
    (item : α) : Delivers (h.arrive (some bound) item) (items ++ [item]) received := by
  have few : ¬ (items ++ [item]).length > bound := by
    rw [List.length_append, List.length_singleton]
    omega
  unfold HandOff.arrive
  rw [none]
  unfold HandOff.trim
  dsimp only
  rw [delivers.items]
  split
  · exact ⟨rfl, delivers.received⟩
  · rw [if_neg (by simpa using few)]
    exact ⟨rfl, delivers.received⟩

/-- An item that finds the queue full makes it drop the oldest. -/
theorem arrive_full (none : h.waiters = []) (full : h.items.length = bound) (item : α) :
    (h.arrive (some bound) item).items = (h.items ++ [item]).tail ∧
    (h.arrive (some bound) item).gifts = h.gifts ∧
      (h.arrive (some bound) item).waiters = [] := by
  have many : (h.items ++ [item]).length > bound := by
    rw [List.length_append, List.length_singleton]
    omega
  unfold HandOff.arrive
  rw [none]
  unfold HandOff.trim
  dsimp only
  cases queue : h.items ++ [item] with
  | nil => exact absurd queue (by simp)
  | cons oldest rest =>
    rw [queue] at many
    dsimp only
    rw [if_pos (by simpa using many)]
    exact ⟨rfl, handed_dropped _ _ _, rfl⟩

/-- How many items there are after an arrival that no call waits for. -/
theorem length_arrive (none : h.waiters = []) (few : h.items.length ≤ bound) (item : α) :
    (h.arrive (some bound) item).items.length = min (h.items.length + 1) bound ∧
      (h.arrive (some bound) item).waiters = [] := by
  by_cases full : h.items.length = bound
  · obtain ⟨items, -, waiters⟩ := arrive_full none full item
    rw [items, List.length_tail, List.length_append, List.length_singleton]
    exact ⟨by omega, waiters⟩
  · have delivers : Delivers h h.items (h.gifts.map Prod.snd) := ⟨rfl, rfl⟩
    have room := delivers.room none (by omega : h.items.length < bound) item
    rw [room.items, List.length_append, List.length_singleton]
    refine ⟨by omega, ?_⟩
    unfold HandOff.arrive HandOff.trim
    rw [none]
    dsimp only
    split
    · rfl
    · split <;> rfl

theorem arrive_give {call : Nat} {rest : List Nat} (waiting : h.waiters = call :: rest) (item : α) :
    h.arrive limit item =
      { h with
        arrived := h.arrived ++ [item], left := h.left ++ [(item, .given call)],
        waiters := rest } := by
  unfold HandOff.arrive
  rw [waiting]

theorem call_wait (empty : h.items = []) :
    h.call false = { h with waiters := h.waiters ++ [h.calls], calls := h.calls + 1 } := by
  unfold HandOff.call
  rw [empty]
  rfl

theorem waiters_take {item : α} (queue : h.items = item :: items) (refuse : Bool) :
    (h.call refuse).waiters = h.waiters := by
  unfold HandOff.call
  rw [queue]

theorem Delivers.full (delivers : Delivers h items received) (none : h.waiters = [])
    (full : items.length = bound)
    (item : α) : Delivers (h.arrive (some bound) item) items received ↔
      ∀ other ∈ items, other = item := by
  obtain ⟨dropped, gifts, -⟩ := arrive_full none (delivers.items ▸ full) item
  rw [delivers.items] at dropped
  refine ⟨fun kept => ?_, fun same => ⟨dropped.trans ?_, ?_⟩⟩
  · exact eq_tail_append_iff.mp (dropped.symm.trans kept.items)
  · exact eq_tail_append_iff.mpr same
  · rw [gifts]
    exact delivers.received

end Delivers

end HandOff

end Kps.Lib
