/-
**A channel between two machines.**

The sender keeps a log of what it hands to the channel, and the channel hands it to the receiver, in
order. The two run at their own pace, and between deliveries each may do anything.

* `Ends.projects` — a run of the two is a run of the sender and a run of the receiver, in which the
  messages that arrive are the first that were sent;
* `restrict` is a machine that only takes the steps that meet a condition, and `run_restrict` says
  what its runs are.
-/

import Kps.Lib.Run

namespace Kps.Lib

variable {σ α ρ β μ : Type*}

section Restrict

variable {step : σ → α → Option σ} {condition : σ → α → Prop}
    [∀ state label, Decidable (condition state label)]

/-- Only the steps that meet the condition. -/
def restrict (step : σ → α → Option σ) (condition : σ → α → Prop)
    [∀ state label, Decidable (condition state label)] (state : σ) (label : α) : Option σ :=
  if condition state label then step state label else none

theorem run_restrict {state final : σ} {labels : List α}
    (ran : run (restrict step condition) state labels = some final) :
    Meets step condition state labels ∧ run step state labels = some final := by
  induction labels generalizing state with
  | nil => exact ⟨trivial, ran⟩
  | cons label labels ih =>
    obtain ⟨next, stepped, rest⟩ := run_cons.mp ran
    unfold restrict at stepped
    split at stepped
    · next here =>
      obtain ⟨later, ended⟩ := ih rest
      exact ⟨(meets_cons stepped).mpr ⟨here, later⟩, run_cons.mpr ⟨next, stepped, ended⟩⟩
    · cases stepped

end Restrict

/-- What a run emits, where that depends on the labels alone. -/
theorem outputs_of_labels {step : σ → α → Option σ} {emit : α → Option β} {state final : σ}
    {labels : List α} (ran : run step state labels = some final) :
    outputs step (fun _ label => (emit label).toList) state labels = labels.filterMap emit := by
  induction labels generalizing state with
  | nil => rfl
  | cons label labels ih =>
    obtain ⟨next, stepped, rest⟩ := run_cons.mp ran
    rw [outputs_cons stepped, ih rest]
    cases emitted : emit label with
    | none => exact (List.filterMap_cons_none emitted).symm
    | some output => exact (List.filterMap_cons_some emitted).symm

/-- The two ends of a channel: their steps, the sender's log, and which labels of the receiver are
deliveries. -/
structure Ends (σ α ρ β μ : Type*) where
  sends : σ → α → Option σ
  receives : ρ → β → Option ρ
  sent : σ → List μ
  deliver : μ → β
  arrival : β → Option μ
  arrival_deliver : ∀ message, arrival (deliver message) = some message
  grows : ∀ state label next, sends state label = some next → sent state <+: sent next

/-- A sender, a receiver, and how many messages were delivered. -/
structure Link (σ ρ : Type*) where
  sender : σ
  receiver : ρ
  delivered : Nat := 0

/-- What happens next: at one of the two ends alone, or in between. -/
inductive LinkLabel (α β : Type*)
  | send (label : α)
  | receive (label : β)
  | deliver

namespace Ends

variable {ends : Ends σ α ρ β μ}

def step (ends : Ends σ α ρ β μ) (link : Link σ ρ) : LinkLabel α β → Option (Link σ ρ)
  | .send label => (ends.sends link.sender label).map fun sender => { link with sender }
  | .receive label =>
    match ends.arrival label with
    | some _ => none
    | none => (ends.receives link.receiver label).map fun receiver => { link with receiver }
  | .deliver =>
    (ends.sent link.sender)[link.delivered]?.bind fun message =>
      (ends.receives link.receiver (ends.deliver message)).map fun receiver =>
        { link with receiver, delivered := link.delivered + 1 }

/-- What has happened at the two ends, each seen alone. -/
structure Projects (ends : Ends σ α ρ β μ) (start link : Link σ ρ) (sending : List α)
    (receiving : List β) : Prop where
  sender : run ends.sends start.sender sending = some link.sender
  receiver : run ends.receives start.receiver receiving = some link.receiver
  arrived : receiving.filterMap ends.arrival = (ends.sent link.sender).take link.delivered
  inRange : link.delivered ≤ (ends.sent link.sender).length

theorem run_concat {step : σ → α → Option σ} {state middle final : σ} {labels : List α} {label : α}
    (ran : run step state labels = some middle) (stepped : step middle label = some final) :
    run step state (labels ++ [label]) = some final :=
  run_append.mpr ⟨middle, ran, run_cons.mpr ⟨final, stepped, rfl⟩⟩

theorem Projects.step {start link link' : Link σ ρ} {sending : List α} {receiving : List β}
    {label : LinkLabel α β}
    (projects : Projects ends start link sending receiving)
    (stepped : ends.step link label = some link') :
    ∃ sending' receiving', Projects ends start link' sending' receiving' := by
  obtain ⟨sender, receiver, arrived, inRange⟩ := projects
  cases label with
  | send label =>
    obtain ⟨next, sends, rfl⟩ := Option.map_eq_some_iff.mp stepped
    obtain ⟨more, grown⟩ := ends.grows _ _ _ sends
    refine ⟨sending ++ [label], receiving, run_concat sender sends, receiver, ?_, ?_⟩
    · rw [← grown, List.take_append_of_le_length inRange]
      exact arrived
    · rw [← grown, List.length_append]
      exact Nat.le_add_right_of_le inRange
  | receive label =>
    simp only [Ends.step] at stepped
    split at stepped
    · cases stepped
    next own =>
      obtain ⟨next, receives, rfl⟩ := Option.map_eq_some_iff.mp stepped
      refine ⟨sending, receiving ++ [label], sender, run_concat receiver receives, ?_, inRange⟩
      rw [List.filterMap_append, List.filterMap_cons_none own, List.filterMap_nil, List.append_nil]
      exact arrived
  | deliver =>
    obtain ⟨message, next, stepped⟩ := Option.bind_eq_some_iff.mp stepped
    obtain ⟨state, receives, rfl⟩ := Option.map_eq_some_iff.mp stepped
    refine ⟨sending, receiving ++ [ends.deliver message], sender, run_concat receiver receives, ?_,
      ?_⟩
    · rw [List.filterMap_append, List.filterMap_cons_some (ends.arrival_deliver message), arrived,
        List.take_add_one, next]
      rfl
    · exact (List.getElem?_eq_some_iff.mp next).1

/-- **A run of the two is a run of each**, and what arrives is what was sent first. -/
theorem projects {sender : σ} {receiver : ρ} {link : Link σ ρ} {labels : List (LinkLabel α β)}
    (ran : run ends.step { sender, receiver } labels = some link) :
    ∃ sending receiving, Projects ends { sender, receiver } link sending receiving := by
  have start : Projects ends { sender, receiver } { sender, receiver } [] [] :=
    ⟨rfl, rfl, rfl, Nat.zero_le _⟩
  have preserves (link : Link σ ρ) (label : LinkLabel α β) (link' : Link σ ρ)
      (inv : ∃ sending receiving, Projects ends { sender, receiver } link sending receiving)
      (stepped : ends.step link label = some link') :
      ∃ sending receiving, Projects ends { sender, receiver } link' sending receiving := by
    obtain ⟨sending, receiving, projects⟩ := inv
    exact projects.step stepped
  exact run_invariant preserves ⟨[], [], start⟩ ran

end Ends

end Kps.Lib
