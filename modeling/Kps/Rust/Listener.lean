/-
**The Rust listener's routing** (`listener.rs`).

The pump task reads the shared socket and routes each datagram by source address, by the ufrag of a
STUN message, or to QUIC. Every section under the lock of `Entries` is one step; between two of them
peer-connection callbacks and `Listener::close` may run. `spawn_pc` is awaited without the lock, and
its connection exists, with its callback, before it is registered. The two calls of a callback,
`close_state.mark` and `remove_ufrag`, are one step.

What the `stun` crate reads in a datagram is part of `Datagram`. A channel and the peer connection
that reads it have one number, in order of creation.

* `Listener.consistent` — in the runs in which no entry is removed between the pump's lookup and its
  `by_addr` insertion, and no connection is closed before its registration, every routed address
  leads to a registered entry, and its connection is not closed;
* `Listener.onlyOwn_iff` — a state callback touches its own connection alone if and only if no other
  connection is registered under its ufrag.
-/

import Kps.Lib.Run
import Kps.Lib.Table
import Mathlib.Data.List.Basic

namespace Kps.Rust

open Kps.Lib

inductive IpAddr
  | v4 (octets : BitVec 32)
  | v6 (octets : BitVec 128)
  deriving DecidableEq, Repr

/-- `to_canonical`: a v4-mapped IPv6 address is the IPv4 address. -/
def IpAddr.toCanonical : IpAddr → IpAddr
  | .v4 octets => .v4 octets
  | .v6 octets =>
    if octets.extractLsb' 32 96 = 0xFFFF#96 then .v4 (octets.extractLsb' 0 32) else .v6 octets

/-- A socket address; an IPv4 address has neither flow information nor a scope. -/
structure SocketAddr where
  ip : IpAddr
  port : UInt16
  flowinfo : UInt32 := 0
  scopeId : UInt32 := 0
  deriving DecidableEq, Repr

/-- An inbound datagram: its source, and what the `stun` crate finds in it. `username` is the
USERNAME attribute, when the message parses and the attribute is UTF-8. -/
structure Datagram where
  source : SocketAddr
  isMessage : Bool
  username : Option String := none
  deriving DecidableEq, Repr

/-- The source under its canonical address: the key of `by_addr`. -/
def Datagram.fromAddr (d : Datagram) : SocketAddr where
  ip := d.source.ip.toCanonical
  port := d.source.port

/-- What stands before the first `:`. -/
def beforeColon (s : String) : String := String.ofList (s.toList.takeWhile (· ≠ ':'))

def extractUfrag (d : Datagram) : Option String := d.username.map beforeColon

/-- The number of a channel; `same_channel` compares it. -/
abbrev Inbox := Nat

structure Entry where
  inbox : Inbox
  pc : Nat
  deriving DecidableEq, Repr

structure EntriesInner where
  byUfrag : Table String Entry := .empty
  byAddr : Table SocketAddr Inbox := .empty

namespace EntriesInner

def removeUfrag (ufrag : String) (inner : EntriesInner) : EntriesInner :=
  match inner.byUfrag ufrag with
  | some entry =>
    { byUfrag := inner.byUfrag.erase ufrag
      byAddr := inner.byAddr.retain fun tx => decide (tx ≠ entry.inbox) }
  | none => inner

def closeAll (_ : EntriesInner) : EntriesInner := {}

end EntriesInner

/-- A peer connection `spawn_pc` has begun; `closed` once its callback ran with `Failed` or
`Closed`. -/
structure PeerConnection where
  ufrag : String
  clientAddr : SocketAddr
  closed : Bool := false
  deriving DecidableEq, Repr

/-- Where the pump is: at its `select!` (`notified` if `notify_waiters` found it there), or at the
lock of its next step for the datagram it handles. -/
inductive Pump
  | receive (notified : Bool)
  | lookup (d : Datagram)
  | stun (ufrag : String) (d : Datagram)
  | spawning (ufrag : String) (pc : Nat) (d : Datagram)
  | link (tx : Inbox) (d : Datagram)
  | forward (route : Option Inbox) (d : Datagram)
  | stopped
  deriving DecidableEq, Repr

/-- The listener; `sent` logs what the pump passed to `try_send`, `none` being the QUIC inbox. -/
structure Listener where
  entries : EntriesInner := {}
  conns : List PeerConnection := []
  pump : Pump := .receive false
  sent : List (Option Inbox × Datagram) := []

namespace Listener

inductive Label
  /-- A datagram arrives at the `select!`. -/
  | recv (d : Datagram)
  /-- `recv_from` fails. -/
  | recvError
  /-- The `select!` takes the shutdown branch. -/
  | shutdown
  /-- The pump's next step under the lock, or its `try_send`. -/
  | pump
  /-- `spawn_pc` returns. -/
  | spawned (ok : Bool)
  /-- The state callback of a peer connection, with `Failed` or `Closed`. -/
  | stateChange (pc : Nat)
  /-- `notify_waiters` of `Listener::close`. -/
  | notify
  /-- `close_all` of `Listener::close`. -/
  | closeAll

/-- The pump's next step. -/
def pumpStep (l : Listener) : Option Listener :=
  match l.pump with
  | .lookup d =>
    match l.entries.byAddr d.fromAddr with
    | some tx => some { l with pump := .forward (some tx) d }
    | none =>
      if d.isMessage then
        match extractUfrag d with
        | some ufrag => some { l with pump := .stun ufrag d }
        | none => some { l with pump := .forward none d }
      else some { l with pump := .forward none d }
  | .stun ufrag d =>
    match l.entries.byUfrag ufrag with
    | some entry => some { l with pump := .link entry.inbox d }
    | none =>
      some { l with
        conns := l.conns ++ [{ ufrag, clientAddr := d.fromAddr }]
        pump := .spawning ufrag l.conns.length d }
  | .link tx d =>
    some { l with
      entries := { l.entries with byAddr := l.entries.byAddr.insert d.fromAddr tx }
      pump := .forward (some tx) d }
  | .forward route d => some { l with sent := l.sent ++ [(route, d)], pump := .receive false }
  | _ => none

def step (l : Listener) : Label → Option Listener
  | .recv d =>
    match l.pump with
    | .receive _ => some { l with pump := .lookup d }
    | _ => none
  | .recvError =>
    match l.pump with
    | .receive _ => some { l with pump := .receive false }
    | _ => none
  | .shutdown => if l.pump = .receive true then some { l with pump := .stopped } else none
  | .pump => l.pumpStep
  | .spawned ok =>
    match l.pump with
    | .spawning ufrag pc d =>
      if ok then
        some { l with
          entries := { l.entries with byUfrag := l.entries.byUfrag.insert ufrag ⟨pc, pc⟩ }
          pump := .link pc d }
      else some { l with pump := .receive false }
    | _ => none
  | .stateChange pc =>
    match l.conns[pc]? with
    | some conn =>
      some { l with
        conns := l.conns.set pc { conn with closed := true }
        entries := l.entries.removeUfrag conn.ufrag }
    | none => none
  | .notify =>
    match l.pump with
    | .receive _ => some { l with pump := .receive true }
    | _ => some l
  | .closeAll => some { l with entries := l.entries.closeAll }

/-! ### What holds of the tables -/

/-- Every routed address leads to the inbox of a registered entry, whose connection is not
closed. -/
structure Consistent (l : Listener) : Prop where
  routed : Routed Entry.inbox l.entries.byUfrag l.entries.byAddr
  alive : ∀ addr tx, l.entries.byAddr addr = some tx →
    ∃ conn, l.conns[tx]? = some conn ∧ conn.closed = false

/-- Entries are registered under their connection's ufrag, and the ufrag the pump is spawning for is
free. -/
structure Owned (l : Listener) : Prop where
  owner : ∀ ufrag entry, l.entries.byUfrag ufrag = some entry →
    entry.inbox = entry.pc ∧ ∃ conn, l.conns[entry.pc]? = some conn ∧ conn.ufrag = ufrag
  spawning : ∀ ufrag pc d, l.pump = .spawning ufrag pc d →
    l.entries.byUfrag ufrag = none ∧ ∃ conn, l.conns[pc]? = some conn ∧ conn.ufrag = ufrag

/-- No connection that is registered is closed, and an entry the pump is about to link is
registered. -/
structure Inv (l : Listener) : Prop extends l.Owned where
  routed : Routed Entry.inbox l.entries.byUfrag l.entries.byAddr
  alive : ∀ ufrag entry conn, l.entries.byUfrag ufrag = some entry →
    l.conns[entry.pc]? = some conn → conn.closed = false
  linking : ∀ tx d, l.pump = .link tx d →
    ∃ ufrag entry, l.entries.byUfrag ufrag = some entry ∧ entry.inbox = tx

/-- The step does not remove the entry the pump is about to link, and does not register a connection
that is closed. -/
def Undisturbed (l : Listener) : Label → Prop
  | .stateChange pc => ∀ tx d conn entry, l.pump = .link tx d → l.conns[pc]? = some conn →
    l.entries.byUfrag conn.ufrag = some entry → entry.inbox ≠ tx
  | .closeAll => ∀ tx d, l.pump ≠ .link tx d
  | .spawned ok => ok = true → ∀ ufrag pc d conn, l.pump = .spawning ufrag pc d →
    l.conns[pc]? = some conn → conn.closed = false
  | _ => True

theorem inv_new : Inv {} where
  owner _ _ found := by cases found
  spawning _ _ _ next := by cases next
  routed := .empty _
  alive _ _ _ found := by cases found
  linking _ _ next := by cases next

variable {l l' : Listener}

/-- A routed address leads to the connection of a registered entry. -/
theorem Inv.consistent (inv : l.Inv) : l.Consistent where
  routed := inv.routed
  alive addr tx found := by
    obtain ⟨ufrag, entry, registered, rfl⟩ := inv.routed addr tx found
    obtain ⟨inbox, conn, present, -⟩ := inv.owner ufrag entry registered
    exact ⟨conn, inbox ▸ present, inv.alive ufrag entry conn registered present⟩

/-- What a state callback leaves registered was registered before, and is not of the callback's
ufrag. -/
theorem removeUfrag_byUfrag {inner : EntriesInner} {ufrag name : String} {entry : Entry}
    (found : (inner.removeUfrag ufrag).byUfrag name = some entry) :
    inner.byUfrag name = some entry ∧ (inner.byUfrag ufrag ≠ none → name ≠ ufrag) := by
  unfold EntriesInner.removeUfrag at found
  split at found
  · obtain ⟨different, found⟩ := Table.erase_eq_some found
    exact ⟨found, fun _ => different⟩
  · next absent => exact ⟨found, fun present => absurd absent present⟩

theorem removeUfrag_kept {inner : EntriesInner} {ufrag name : String} {entry : Entry}
    (found : inner.byUfrag name = some entry) (different : name ≠ ufrag) :
    (inner.removeUfrag ufrag).byUfrag name = some entry := by
  unfold EntriesInner.removeUfrag
  split
  · exact (Table.erase_of_ne different).trans found
  · exact found

theorem removeUfrag_routed {inner : EntriesInner} (ufrag : String)
    (routed : Routed Entry.inbox inner.byUfrag inner.byAddr) :
    Routed Entry.inbox (inner.removeUfrag ufrag).byUfrag (inner.removeUfrag ufrag).byAddr := by
  unfold EntriesInner.removeUfrag
  split
  · next found => exact routed.remove found
  · exact routed

theorem conns_set {conns : List PeerConnection} {pc : Nat} {conn : PeerConnection}
    (present : conns[pc]? = some conn) {other : Nat} {found : PeerConnection}
    (at_other : conns[other]? = some found) :
    ∃ same, (conns.set pc { conn with closed := true })[other]? = some same ∧
      same.ufrag = found.ufrag := by
  by_cases same : other = pc
  · subst same
    rw [present] at at_other
    cases at_other
    refine ⟨_, List.getElem?_set_self ?_, rfl⟩
    exact (List.getElem?_eq_some_iff.mp present).1
  · refine ⟨found, ?_, rfl⟩
    rw [List.getElem?_set_ne (Ne.symm same)]
    exact at_other

/-- A step that leaves the entries and the connections. -/
theorem Owned.keep (owned : l.Owned) {pump : Pump} {sent : List (Option Inbox × Datagram)}
    (notSpawn : ∀ ufrag pc d, pump ≠ .spawning ufrag pc d) : Owned { l with pump, sent } where
  owner := owned.owner
  spawning ufrag pc d next := absurd next (notSpawn ufrag pc d)

theorem Owned.pumpStep (owned : l.Owned) (stepped : l.pumpStep = some l') : l'.Owned := by
  unfold Listener.pumpStep at stepped
  split at stepped
  · split at stepped
    · cases stepped
      exact owned.keep (by simp)
    · split at stepped
      · split at stepped <;> (cases stepped; exact owned.keep (by simp))
      · cases stepped
        exact owned.keep (by simp)
  · next ufrag d _ =>
    split at stepped
    · cases stepped
      exact owned.keep (by simp)
    · next free =>
      cases stepped
      refine ⟨fun name entry found => ?_, fun name pc other next => ?_⟩
      · obtain ⟨same, conn, present, named⟩ := owned.owner name entry found
        refine ⟨same, conn, ?_, named⟩
        rw [List.getElem?_append_left (List.getElem?_eq_some_iff.mp present).1]
        exact present
      · cases next
        exact ⟨free, _, List.getElem?_concat_length, rfl⟩
  · cases stepped
    exact ⟨owned.owner, fun _ _ _ next => (by cases next)⟩
  · cases stepped
    exact owned.keep (by simp)
  · cases stepped

theorem Owned.stateChange (owned : l.Owned) {pc : Nat} {conn : PeerConnection}
    (present : l.conns[pc]? = some conn) :
    Owned { l with
      conns := l.conns.set pc { conn with closed := true }
      entries := l.entries.removeUfrag conn.ufrag } := by
  refine ⟨fun name entry found => ?_, fun name other d next => ?_⟩
  · obtain ⟨same, owner, at_entry, named⟩ := owned.owner name entry (removeUfrag_byUfrag found).1
    obtain ⟨kept, at_kept, sameUfrag⟩ := conns_set present at_entry
    exact ⟨same, kept, at_kept, sameUfrag.trans named⟩
  · obtain ⟨free, spawned, at_spawned, named⟩ := owned.spawning name other d next
    obtain ⟨kept, at_kept, sameUfrag⟩ := conns_set present at_spawned
    refine ⟨?_, kept, at_kept, sameUfrag.trans named⟩
    cases found : (l.entries.removeUfrag conn.ufrag).byUfrag name with
    | none => rfl
    | some entry =>
      rw [(removeUfrag_byUfrag found).1] at free
      cases free

theorem step_stateChange {pc : Nat} (stepped : l.step (.stateChange pc) = some l') :
    ∃ conn, l.conns[pc]? = some conn ∧ l' = { l with
      conns := l.conns.set pc { conn with closed := true }
      entries := l.entries.removeUfrag conn.ufrag } := by
  simp only [Listener.step] at stepped
  split at stepped
  · next conn present =>
    cases stepped
    exact ⟨conn, present, rfl⟩
  · cases stepped

theorem step_spawned {ok : Bool} (stepped : l.step (.spawned ok) = some l') :
    ∃ ufrag pc d, l.pump = .spawning ufrag pc d ∧
      ((ok = false ∧ l' = { l with pump := .receive false }) ∨
        (ok = true ∧ l' = { l with
          entries := { l.entries with byUfrag := l.entries.byUfrag.insert ufrag ⟨pc, pc⟩ }
          pump := .link pc d })) := by
  simp only [Listener.step] at stepped
  split at stepped
  · next ufrag pc d spawning =>
    refine ⟨ufrag, pc, d, spawning, ?_⟩
    cases ok with
    | false =>
      cases stepped
      exact Or.inl ⟨rfl, rfl⟩
    | true =>
      cases stepped
      exact Or.inr ⟨rfl, rfl⟩
  · cases stepped

/-- The steps that only move the pump to or from its `select!`. -/
theorem step_idle {label : Label} (stepped : l.step label = some l')
    (idle : (∃ d, label = .recv d) ∨ label = .recvError ∨ label = .shutdown ∨ label = .notify) :
    ∃ pump, l' = { l with pump } ∧ ((∀ ufrag pc d, pump ≠ .spawning ufrag pc d) ∧
      (∀ tx d, pump ≠ .link tx d) ∨ pump = l.pump) := by
  rcases idle with ⟨d, rfl⟩ | rfl | rfl | rfl <;> simp only [Listener.step] at stepped <;>
    split at stepped <;> cases stepped
  · exact ⟨_, rfl, Or.inl ⟨by simp, by simp⟩⟩
  · exact ⟨_, rfl, Or.inl ⟨by simp, by simp⟩⟩
  · exact ⟨_, rfl, Or.inl ⟨by simp, by simp⟩⟩
  · exact ⟨_, rfl, Or.inl ⟨by simp, by simp⟩⟩
  · exact ⟨_, rfl, Or.inr rfl⟩

theorem Owned.idle (owned : l.Owned) {pump : Pump}
    (idle : (∀ ufrag pc d, pump ≠ .spawning ufrag pc d) ∧ (∀ tx d, pump ≠ .link tx d) ∨
      pump = l.pump) : Owned { l with pump } := by
  rcases idle with ⟨notSpawn, -⟩ | rfl
  · exact owned.keep notSpawn
  · exact owned

/-- Every step keeps entries with their connections. -/
theorem Owned.step (owned : l.Owned) {label : Label} (stepped : l.step label = some l') :
    l'.Owned := by
  cases label with
  | recv d =>
    obtain ⟨pump, rfl, idle⟩ := step_idle stepped (Or.inl ⟨d, rfl⟩)
    exact owned.idle idle
  | recvError =>
    obtain ⟨pump, rfl, idle⟩ := step_idle stepped (Or.inr (Or.inl rfl))
    exact owned.idle idle
  | shutdown =>
    obtain ⟨pump, rfl, idle⟩ := step_idle stepped (Or.inr (Or.inr (Or.inl rfl)))
    exact owned.idle idle
  | notify =>
    obtain ⟨pump, rfl, idle⟩ := step_idle stepped (Or.inr (Or.inr (Or.inr rfl)))
    exact owned.idle idle
  | pump => exact owned.pumpStep stepped
  | spawned ok =>
    obtain ⟨ufrag, pc, d, spawning, ⟨-, rfl⟩ | ⟨-, rfl⟩⟩ := step_spawned stepped
    · exact owned.keep (by simp)
    · obtain ⟨-, conn, present, named⟩ := owned.spawning ufrag pc d spawning
      refine ⟨fun name entry found => ?_, fun _ _ _ next => (by cases next)⟩
      have found : (l.entries.byUfrag.insert ufrag ⟨pc, pc⟩) name = some entry := found
      by_cases same : name = ufrag
      · subst same
        rw [Table.insert_self] at found
        cases found
        exact ⟨rfl, conn, present, named⟩
      · rw [Table.insert_of_ne same] at found
        exact owned.owner name entry found
  | stateChange pc =>
    obtain ⟨conn, present, rfl⟩ := step_stateChange stepped
    exact owned.stateChange present
  | closeAll =>
    cases stepped
    exact ⟨fun _ _ found => (by cases found),
      fun name pc d next => ⟨rfl, (owned.spawning name pc d next).2⟩⟩

/-- What the pump's own step does to the tables: it links the entry it found, or leaves them. -/
theorem Inv.pumpStep (inv : l.Inv) (stepped : l.pumpStep = some l') : l'.Inv := by
  have owned := inv.toOwned.pumpStep stepped
  have idle {pump : Pump} {sent : List (Option Inbox × Datagram)}
    (moved : l' = { l with pump, sent })
      (notLink : ∀ tx d, pump ≠ .link tx d) : l'.Inv := by
    subst moved
    exact ⟨owned, inv.routed, inv.alive, fun tx d next => absurd next (notLink tx d)⟩
  unfold Listener.pumpStep at stepped
  split at stepped
  · split at stepped
    · cases stepped
      exact idle rfl (by simp)
    · split at stepped
      · split at stepped <;> (cases stepped; exact idle rfl (by simp))
      · cases stepped
        exact idle rfl (by simp)
  · split at stepped
    · next entry found =>
      cases stepped
      refine ⟨owned, inv.routed, inv.alive, fun tx d next => ?_⟩
      cases next
      exact ⟨_, entry, found, rfl⟩
    · cases stepped
      refine ⟨owned, inv.routed, fun name entry conn registered present => ?_,
        fun _ _ next => (by cases next)⟩
      -- the connection that is begun is not registered
      obtain ⟨-, owner, before, -⟩ := inv.owner name entry registered
      rw [List.getElem?_append_left (List.getElem?_eq_some_iff.mp before).1] at present
      exact inv.alive name entry conn registered present
  · next tx d link =>
    cases stepped
    obtain ⟨ufrag, entry, found, rfl⟩ := inv.linking tx d link
    exact ⟨owned, inv.routed.insert_addr found _, inv.alive, fun _ _ next => (by cases next)⟩
  · cases stepped
    exact idle rfl (by simp)
  · cases stepped

theorem Inv.idle (inv : l.Inv) {pump : Pump}
    (idle : (∀ ufrag pc d, pump ≠ .spawning ufrag pc d) ∧ (∀ tx d, pump ≠ .link tx d) ∨
      pump = l.pump) : Inv { l with pump } := by
  refine ⟨inv.toOwned.idle idle, inv.routed, inv.alive, fun tx d next => ?_⟩
  rcases idle with ⟨-, notLink⟩ | rfl
  · exact absurd next (notLink tx d)
  · exact inv.linking tx d next

/-- **One step keeps the tables consistent.** -/
theorem Inv.step (inv : l.Inv) {label : Label} (undisturbed : l.Undisturbed label)
    (stepped : l.step label = some l') : l'.Inv := by
  have owned := inv.toOwned.step stepped
  cases label with
  | recv d =>
    obtain ⟨pump, rfl, idle⟩ := step_idle stepped (Or.inl ⟨d, rfl⟩)
    exact inv.idle idle
  | recvError =>
    obtain ⟨pump, rfl, idle⟩ := step_idle stepped (Or.inr (Or.inl rfl))
    exact inv.idle idle
  | shutdown =>
    obtain ⟨pump, rfl, idle⟩ := step_idle stepped (Or.inr (Or.inr (Or.inl rfl)))
    exact inv.idle idle
  | notify =>
    obtain ⟨pump, rfl, idle⟩ := step_idle stepped (Or.inr (Or.inr (Or.inr rfl)))
    exact inv.idle idle
  | pump => exact inv.pumpStep stepped
  | spawned ok =>
    obtain ⟨ufrag, pc, d, spawning, ⟨-, rfl⟩ | ⟨succeeded, rfl⟩⟩ := step_spawned stepped
    · exact ⟨owned, inv.routed, inv.alive, fun _ _ next => (by cases next)⟩
    · obtain ⟨free, -⟩ := inv.spawning ufrag pc d spawning
      refine ⟨owned, inv.routed.insert_name free, fun name entry conn registered present => ?_,
        fun tx other next => ?_⟩
      · have registered : (l.entries.byUfrag.insert ufrag ⟨pc, pc⟩) name = some entry := registered
        by_cases same : name = ufrag
        · subst same
          rw [Table.insert_self] at registered
          cases registered
          exact undisturbed succeeded name pc d conn spawning present
        · rw [Table.insert_of_ne same] at registered
          exact inv.alive name entry conn registered present
      · cases next
        exact ⟨ufrag, _, Table.insert_self, rfl⟩
  | stateChange pc =>
    obtain ⟨conn, present, rfl⟩ := step_stateChange stepped
    refine ⟨owned, removeUfrag_routed _ inv.routed, fun name entry other kept at_entry => ?_,
      fun tx d next => ?_⟩
    · obtain ⟨registered, different⟩ := removeUfrag_byUfrag kept
      obtain ⟨-, owner, at_owner, named⟩ := inv.owner name entry registered
      -- what is registered under another name is another connection
      have apart : entry.pc ≠ pc := by
        intro same
        rw [same, present] at at_owner
        cases at_owner
        rw [named, registered] at different
        exact different (Option.some_ne_none _) rfl
      have at_entry : (l.conns.set pc { conn with closed := true })[entry.pc]? = some other :=
        at_entry
      rw [List.getElem?_set_ne (Ne.symm apart)] at at_entry
      exact inv.alive name entry other registered at_entry
    · obtain ⟨name, entry, found, rfl⟩ := inv.linking tx d next
      refine ⟨name, entry, removeUfrag_kept found ?_, rfl⟩
      rintro rfl
      exact undisturbed entry.inbox d conn entry next present found rfl
  | closeAll =>
    cases stepped
    exact ⟨owned, .empty _, fun _ _ _ found => (by cases found),
      fun tx d next => absurd next (undisturbed tx d)⟩

/-- **The tables are consistent** in every state of a run in which no step removes the entry the
pump is about to link, or registers a connection that is closed. -/
theorem consistent {labels : List Label} (meets : Meets step Undisturbed {} labels)
    (ran : run step {} labels = some l) : l.Consistent :=
  (run_invariant_of_meets (fun _ _ _ condition inv stepped => Inv.step inv condition stepped) meets
    inv_new ran).consistent

theorem step_link {tx : Inbox} {d : Datagram} (link : l.pump = .link tx d) :
    l.step .pump = some { l with
      entries := { l.entries with byAddr := l.entries.byAddr.insert d.fromAddr tx }
      pump := .forward (some tx) d } := by
  simp only [Listener.step, Listener.pumpStep]
  rw [link]

/-- Conversely, once a state callback has removed the entry the pump is about to link, the pump's
next step leaves an address routed to an inbox that is not registered. -/
theorem link_stale (owned : l.Owned) {tx : Inbox} {d : Datagram} {pc : Nat}
    (link : l.pump = .link tx d) (notMet : ¬ l.Undisturbed (.stateChange pc))
    (stepped : l.step (.stateChange pc) = some l') :
    ∃ l'', l'.step .pump = some l'' ∧ ¬ l''.Consistent := by
  obtain ⟨conn, present, rfl⟩ := step_stateChange stepped
  unfold Undisturbed at notMet
  push Not at notMet
  obtain ⟨tx', d', owner, entry, link', at_pc, registered, rfl⟩ := notMet
  rw [link] at link'
  cases link'
  rw [present] at at_pc
  cases at_pc
  refine ⟨_, step_link link, fun consistent => ?_⟩
  obtain ⟨name, other, found, same⟩ := consistent.routed d.fromAddr entry.inbox Table.insert_self
  have found : (l.entries.removeUfrag conn.ufrag).byUfrag name = some other := found
  obtain ⟨before, different⟩ := removeUfrag_byUfrag found
  -- entries with one inbox are one entry, under its connection's ufrag
  obtain ⟨otherInbox, first, at_first, firstNamed⟩ := owned.owner name other before
  obtain ⟨entryInbox, second, at_second, secondNamed⟩ := owned.owner _ entry registered
  have one : other.pc = entry.pc := by rw [← otherInbox, ← entryInbox, same]
  rw [one, at_second] at at_first
  cases at_first
  exact different (by simp [registered]) (firstNamed.symm.trans secondNamed)

/-- And once a connection that is closed is registered, it leaves an address routed to it. -/
theorem spawn_stale (notMet : ¬ l.Undisturbed (.spawned true))
    (stepped : l.step (.spawned true) = some l') :
    ∃ l'', l'.step .pump = some l'' ∧ ¬ l''.Consistent := by
  unfold Undisturbed at notMet
  push Not at notMet
  obtain ⟨-, ufrag, pc, d, conn, spawning, present, closed⟩ := notMet
  obtain ⟨_, _, _, spawning', ⟨other, -⟩ | ⟨-, rfl⟩⟩ := step_spawned stepped
  · cases other
  · rw [spawning] at spawning'
    cases spawning'
    refine ⟨_, step_link rfl, fun consistent => ?_⟩
    obtain ⟨other, at_pc, alive⟩ := consistent.alive d.fromAddr pc Table.insert_self
    rw [present] at at_pc
    cases at_pc
    exact closed alive

/-! ### What a state callback touches -/

/-- The step touches the tables' entries of the connection `pc` alone, and marks no other connection
closed. -/
structure OnlyOwn (pc : Nat) (l l' : Listener) : Prop where
  byUfrag : ∀ ufrag entry, entry.pc ≠ pc → l.entries.byUfrag ufrag = some entry →
    l'.entries.byUfrag ufrag = some entry
  byAddr : ∀ addr tx, tx ≠ pc → l.entries.byAddr addr = some tx →
    l'.entries.byAddr addr = some tx
  conns : ∀ other, other ≠ pc → l'.conns[other]? = l.conns[other]?

/-- No other connection is registered under the ufrag of `pc`. -/
def OwnUfrag (pc : Nat) (l : Listener) : Prop :=
  ∀ conn entry, l.conns[pc]? = some conn → l.entries.byUfrag conn.ufrag = some entry →
    entry.pc = pc

/-- **A state callback touches its own connection alone** exactly when no other connection is
registered under its ufrag. -/
theorem onlyOwn_iff (owned : l.Owned) {pc : Nat} (stepped : l.step (.stateChange pc) = some l') :
    OnlyOwn pc l l' ↔ OwnUfrag pc l := by
  obtain ⟨conn, present, rfl⟩ := step_stateChange stepped
  constructor
  · intro only owner entry at_pc registered
    rw [present] at at_pc
    cases at_pc
    by_contra different
    have kept := only.byUfrag _ _ different registered
    exact (removeUfrag_byUfrag kept).2 (by simp [registered]) rfl
  · intro own
    refine ⟨fun ufrag entry different registered => ?_, fun addr tx different routed => ?_,
      fun other different => List.getElem?_set_ne (Ne.symm different)⟩
    · refine removeUfrag_kept registered ?_
      rintro rfl
      exact different (own conn entry present registered)
    · show (l.entries.removeUfrag conn.ufrag).byAddr addr = some tx
      unfold EntriesInner.removeUfrag
      split
      · next entry registered =>
        have mine := own conn entry present registered
        refine Table.retain_eq_some.mpr ⟨routed, decide_eq_true ?_⟩
        rw [(owned.owner _ _ registered).1, mine]
        exact different
      · exact routed

theorem owned_run {labels : List Label} (ran : run step {} labels = some l) : l.Owned :=
  run_invariant (fun _ _ _ owned stepped => Owned.step owned stepped) inv_new.toOwned ran

end Listener

end Kps.Rust
