/-
**The routing tables of the two listeners.**

* `routing_consistent` — when the tables are consistent, and when a state callback touches its own
  connection alone, for every run of the Rust and of the Go listener;
* `routing_inconsistent` — runs in which they are not: a Rust address routed to a connection that is
  no longer registered, or that was closed before it was registered, and a late callback that
  removes a newer connection under the same ufrag.
-/

import Kps.Go.Listener
import Kps.Rust.Listener

namespace Kps

open Kps.Lib

/-- **Consistency of the routing tables.** A routed address leads to a registered entry, whose
connection is not closed: in Go in every run, in Rust in every run in which no step removes the
entry the pump is about to link, or registers a connection that is closed. In both a state callback
touches its own connection alone exactly when no other connection is registered under its ufrag. -/
theorem routing_consistent {rustLabels : List Rust.Listener.Label}
    {goLabels : List Go.Listener.Label} {l : Rust.Listener} {g : Go.Listener}
    (rustRan : run Rust.Listener.step {} rustLabels = some l)
    (goRan : run Go.Listener.step {} goLabels = some g) :
    ((Meets Rust.Listener.step Rust.Listener.Undisturbed {} rustLabels → l.Consistent) ∧
      ∀ pc l', l.step (.stateChange pc) = some l' →
        (Rust.Listener.OnlyOwn pc l l' ↔ Rust.Listener.OwnUfrag pc l)) ∧
      g.Consistent ∧
        ∀ entry g', g.step (.stateChange entry) = some g' →
          (Go.Listener.OnlyOwn entry g g' ↔ Go.Listener.OwnUfrag entry g) := by
  refine ⟨⟨fun meets => Rust.Listener.consistent meets rustRan, fun pc l' stepped => ?_⟩,
    Go.Listener.consistent goRan, fun entry g' stepped => ?_⟩
  · exact Rust.Listener.onlyOwn_iff (Rust.Listener.owned_run rustRan) stepped
  · exact Go.Listener.onlyOwn_iff stepped

/-- A first STUN message of the ufrag `u`. -/
def rustBinding : Rust.Datagram where
  source := { ip := .v4 0x0A000001#32, port := 4000 }
  isMessage := true
  username := some "u:u"

def goBinding : Go.Datagram where
  source := { addr := .v4 0x0A000001#32, port := 4000 }
  isMessage := true
  username := some "u:u"

/-- The pump spawns and registers a connection, whose `Failed` callback then runs before the pump
links the source address. -/
def rustStaleRun : List Rust.Listener.Label :=
  [.recv rustBinding, .pump, .pump, .spawned true, .stateChange 0, .pump]

/-- The `Failed` callback runs while `spawn_pc` is awaited, before the connection is registered. -/
def rustClosedRun : List Rust.Listener.Label :=
  [.recv rustBinding, .pump, .pump, .stateChange 0, .spawned true, .pump, .pump]

/-- A connection fails and a new one registers under its ufrag. -/
def rustReplaceRun : List Rust.Listener.Label :=
  [.recv rustBinding, .pump, .pump, .spawned true, .pump, .pump, .stateChange 0,
    .recv rustBinding, .pump, .pump, .spawned true, .pump, .pump]

def goReplaceRun : List Go.Listener.Label :=
  [.recv goBinding, .pump, .pump, .pump, .stateChange 0, .recv goBinding, .pump, .pump, .pump]

/-- No step of the run disturbs the pump. -/
theorem rustReplaceRun_undisturbed :
    Meets Rust.Listener.step Rust.Listener.Undisturbed {} rustReplaceRun := by
  have spawned {l : Rust.Listener} {conn : Rust.PeerConnection} {pc : Nat} {ufrag : String}
      {d : Rust.Datagram} (spawning : l.pump = .spawning ufrag pc d)
      (present : l.conns[pc]? = some conn)
      (alive : conn.closed = false) : l.Undisturbed (.spawned true) := by
    intro _ _ _ _ other spawning' present'
    rw [spawning] at spawning'
    cases spawning'
    rw [present] at present'
    cases present'
    exact alive
  have idle {l : Rust.Listener} {notified : Bool} {pc : Nat} (idle : l.pump = .receive notified) :
      l.Undisturbed (.stateChange pc) := by
    intro tx d _ _ link
    rw [idle] at link
    cases link
  refine (meets_cons rfl).mpr ⟨trivial,
    (meets_cons rfl).mpr ⟨trivial, (meets_cons rfl).mpr ⟨trivial, ?_⟩⟩⟩
  refine (meets_cons rfl).mpr ⟨spawned rfl rfl rfl, ?_⟩
  refine (meets_cons rfl).mpr ⟨trivial, (meets_cons rfl).mpr ⟨trivial, ?_⟩⟩
  refine (meets_cons rfl).mpr ⟨idle rfl, ?_⟩
  refine (meets_cons rfl).mpr ⟨trivial,
    (meets_cons rfl).mpr ⟨trivial, (meets_cons rfl).mpr ⟨trivial, ?_⟩⟩⟩
  refine (meets_cons rfl).mpr ⟨spawned rfl rfl rfl, ?_⟩
  exact (meets_cons rfl).mpr ⟨trivial, (meets_cons rfl).mpr ⟨trivial, trivial⟩⟩

theorem routing_consistent_replace : ∃ l g,
    run Rust.Listener.step {} rustReplaceRun = some l ∧
      run Go.Listener.step {} goReplaceRun = some g ∧
      l.entries.byAddr rustBinding.fromAddr = some 1 ∧ g.byAddr goBinding.srcAddr = some 1 ∧
      l.Consistent ∧ g.Consistent ∧
      ∀ pc l', l.step (.stateChange pc) = some l' →
        (Rust.Listener.OnlyOwn pc l l' ↔ Rust.Listener.OwnUfrag pc l) := by
  obtain ⟨l, rustRan, rustRouted⟩ : ∃ l, run Rust.Listener.step {} rustReplaceRun = some l ∧
      l.entries.byAddr rustBinding.fromAddr = some 1 := ⟨_, rfl, rfl⟩
  obtain ⟨g, goRan, goRouted⟩ : ∃ g, run Go.Listener.step {} goReplaceRun = some g ∧
      g.byAddr goBinding.srcAddr = some 1 := ⟨_, rfl, rfl⟩
  have routing := routing_consistent rustRan goRan
  exact ⟨l, g, rustRan, goRan, rustRouted, goRouted, routing.1.1 rustReplaceRun_undisturbed,
    routing.2.1, routing.1.2⟩

theorem routing_inconsistent :
    (∃ l, run Rust.Listener.step {} rustStaleRun = some l ∧ ¬ l.Consistent) ∧
      (∃ l, run Rust.Listener.step {} rustClosedRun = some l ∧
        l.entries.byAddr rustBinding.fromAddr = some 0 ∧
        (l.conns[0]?.map Rust.PeerConnection.closed) = some true ∧ ¬ l.Consistent) ∧
      (∃ l l', run Rust.Listener.step {} rustReplaceRun = some l ∧
        l.step (.stateChange 0) = some l' ∧ l.entries.byUfrag "u" = some ⟨1, 1⟩ ∧
        l'.entries.byUfrag "u" = none ∧ l'.entries.byAddr rustBinding.fromAddr = none) ∧
      ∃ l l', run Go.Listener.step {} goReplaceRun = some l ∧
        l.step (.stateChange 0) = some l' ∧ l.byUfrag "u" = some 1 ∧ l'.byUfrag "u" = none ∧
        (l'.entries[1]?.map fun e => (e.kcClosed, e.connClosed)) = some (true, true) := by
  refine ⟨⟨_, rfl, fun consistent => ?_⟩, ⟨_, rfl, rfl, rfl, fun consistent => ?_⟩,
    ⟨_, _, rfl, rfl, rfl, rfl, rfl⟩, ⟨_, _, rfl, rfl, rfl, rfl, rfl⟩⟩
  · obtain ⟨name, entry, found, -⟩ := consistent.routed rustBinding.fromAddr 0 rfl
    have found : ((Table.empty.insert "u" (⟨0, 0⟩ : Rust.Entry)).erase "u") name = some entry :=
      found
    obtain ⟨different, found⟩ := Table.erase_eq_some found
    rw [Table.insert_of_ne different] at found
    cases found
  · obtain ⟨conn, present, alive⟩ := consistent.alive rustBinding.fromAddr 0 rfl
    cases present
    cases alive

end Kps
