/-
**The Go listener's routing** (`listener.go`).

The pump routes each datagram by source address, by the ufrag of a STUN message, or to QUIC. Every
section under `l.mu` is one step. `spawnPC` runs under the mutex, so a connection is created,
registered and linked in one step; a connection whose `spawnPC` fails exists too, with its callback.

What the STUN library reads in a datagram is part of `Datagram`. A `pcEntry` is a number, in order
of creation.

* `Listener.consistent` — in every run, every routed address leads to a registered entry, which is
  not closed;
* `Listener.onlyOwn_iff` — a state callback touches its own connection alone if and only if no other
  connection is registered under its ufrag.
-/

import Kps.Lib.Run
import Kps.Lib.Table
import Mathlib.Data.List.Basic

namespace Kps.Go

open Kps.Lib

/-- `netip.Addr`. -/
inductive Addr
  | v4 (octets : BitVec 32)
  | v6 (octets : BitVec 128) (zone : String)
  deriving DecidableEq, Repr

/-- `Unmap`: a v4-mapped IPv6 address is the IPv4 address. -/
def Addr.unmap : Addr → Addr
  | .v4 octets => .v4 octets
  | .v6 octets zone =>
    if octets.extractLsb' 32 96 = 0xFFFF#96 then .v4 (octets.extractLsb' 0 32)
    else .v6 octets zone

/-- `netip.AddrPort`. -/
structure AddrPort where
  addr : Addr
  port : UInt16
  deriving DecidableEq, Repr

/-- An inbound datagram: its source, and what the STUN library finds in it. `username` is the
USERNAME attribute, when the message decodes. -/
structure Datagram where
  source : AddrPort
  isMessage : Bool
  username : Option String := none
  deriving DecidableEq, Repr

/-- The source under its unmapped address: the key of `byAddr`. -/
def Datagram.srcAddr (d : Datagram) : AddrPort where
  addr := d.source.addr.unmap
  port := d.source.port

/-- What stands before the first `:` of the username; empty when there is none. -/
def extractUfrag (d : Datagram) : String :=
  String.ofList ((d.username.getD "").toList.takeWhile (· ≠ ':'))

/-- A `pcEntry`: `kcClosed` is set by `markClosed`, `connClosed` by `conn.Close`. -/
structure PcEntry where
  ufrag : String
  srcAddr : AddrPort
  kcClosed : Bool := false
  connClosed : Bool := false
  deriving DecidableEq, Repr

/-- Neither the connection of the entry nor its transport is closed. -/
def PcEntry.Alive (e : PcEntry) : Prop := e.kcClosed = false ∧ e.connClosed = false

/-- Where the pump is: reading the socket, or at its next step for the datagram it handles. -/
inductive Pump
  | read
  | lookup (d : Datagram)
  | register (ufrag : String) (d : Datagram)
  | forward (entry : Option Nat) (d : Datagram)
  | stopped
  deriving DecidableEq, Repr

/-- The listener; `sent` logs what the pump offered to an inbox, `none` being the QUIC inbox. -/
structure Listener where
  byUfrag : Table String Nat := .empty
  byAddr : Table AddrPort Nat := .empty
  entries : List PcEntry := []
  pump : Pump := .read
  closed : Bool := false
  sent : List (Option Nat × Datagram) := []

namespace Listener

inductive Label
  /-- A datagram arrives. -/
  | recv (d : Datagram)
  /-- The pump's next step; `spawnPC` succeeds if it is called. -/
  | pump
  /-- The pump's step under the mutex, where `spawnPC` is called and fails. -/
  | spawnFailed
  /-- The state callback of a peer connection, with `Failed` or `Closed`. -/
  | stateChange (entry : Nat)
  /-- `Close`: the socket closes, and every registered peer connection. -/
  | close
  /-- The pump finds the socket closed. -/
  | readClosed

/-- `kc.markClosed(nil)`. -/
def markClosed (entry : Nat) (l : Listener) : Listener :=
  { l with entries := l.entries.modify entry fun e => { e with kcClosed := true } }

/-- `removeEntry`: what is registered under the ufrag goes, with its addresses. -/
def removeEntry (ufrag : String) (l : Listener) : Listener :=
  match l.byUfrag ufrag with
  | none => l
  | some entry =>
    { l with
      byUfrag := l.byUfrag.erase ufrag
      byAddr := l.byAddr.retain fun other => decide (other ≠ entry)
      entries := l.entries.modify entry fun e => { e with kcClosed := true, connClosed := true } }

/-- `spawnPC`: the entry of a new peer connection. -/
def spawnPC (ufrag : String) (d : Datagram) (l : Listener) : Listener :=
  { l with entries := l.entries ++ [{ ufrag, srcAddr := d.srcAddr }] }

/-- The entry is linked to the datagram's source. -/
def link (entry : Nat) (d : Datagram) (l : Listener) : Listener :=
  { l with byAddr := l.byAddr.insert d.srcAddr entry, pump := .forward (some entry) d }

def pumpStep (l : Listener) : Option Listener :=
  match l.pump with
  | .lookup d =>
    match l.byAddr d.srcAddr with
    | some entry => some { l with pump := .forward (some entry) d }
    | none =>
      if d.isMessage ∧ extractUfrag d ≠ "" then
        some { l with pump := .register (extractUfrag d) d }
      else some { l with pump := .forward none d }
  | .register ufrag d =>
    match l.byUfrag ufrag with
    | some entry => some (l.link entry d)
    | none =>
      let spawned := l.spawnPC ufrag d
      some ({ spawned with byUfrag := spawned.byUfrag.insert ufrag l.entries.length }.link
        l.entries.length d)
  | .forward entry d => some { l with sent := l.sent ++ [(entry, d)], pump := .read }
  | _ => none

def step (l : Listener) : Label → Option Listener
  | .recv d => if l.pump = .read ∧ l.closed = false then some { l with pump := .lookup d } else none
  | .pump => l.pumpStep
  | .spawnFailed =>
    match l.pump with
    | .register ufrag d =>
      match l.byUfrag ufrag with
      | some _ => none
      | none => some { l.spawnPC ufrag d with pump := .forward none d }
    | _ => none
  | .stateChange entry =>
    match l.entries[entry]? with
    | some e => some ((l.markClosed entry).removeEntry e.ufrag)
    | none => none
  | .close => some { l with closed := true }
  | .readClosed =>
    if l.pump = .read ∧ l.closed = true then some { l with pump := .stopped } else none

/-! ### What holds of the tables -/

/-- Every routed address leads to a registered entry, which is not closed. -/
structure Consistent (l : Listener) : Prop where
  routed : Routed id l.byUfrag l.byAddr
  alive : ∀ addr entry, l.byAddr addr = some entry → ∃ e, l.entries[entry]? = some e ∧ e.Alive

/-- Entries are registered under their own ufrag, and none that is registered is closed. -/
structure Inv (l : Listener) : Prop where
  routed : Routed id l.byUfrag l.byAddr
  owner : ∀ ufrag entry, l.byUfrag ufrag = some entry →
    ∃ e, l.entries[entry]? = some e ∧ e.ufrag = ufrag ∧ e.Alive

theorem inv_new : Inv {} where
  routed := .empty _
  owner _ _ found := by cases found

variable {l l' : Listener}

/-- A routed address leads to an entry that is registered. -/
theorem Inv.consistent (inv : l.Inv) : l.Consistent where
  routed := inv.routed
  alive addr entry found := by
    obtain ⟨ufrag, other, registered, rfl⟩ := inv.routed addr entry found
    obtain ⟨e, present, -, alive⟩ := inv.owner ufrag other registered
    exact ⟨e, present, alive⟩

theorem Inv.keep (inv : l.Inv) {pump : Pump} {closed : Bool} {sent : List (Option Nat × Datagram)} :
    Inv { l with pump, closed, sent } where
  routed := inv.routed
  owner := inv.owner

theorem Inv.spawnPC (inv : l.Inv) (ufrag : String) (d : Datagram) : (l.spawnPC ufrag d).Inv where
  routed := inv.routed
  owner name entry found := by
    obtain ⟨e, present, kept⟩ := inv.owner name entry found
    refine ⟨e, ?_, kept⟩
    show (l.entries ++ _)[entry]? = some e
    rw [List.getElem?_append_left (List.getElem?_eq_some_iff.mp present).1]
    exact present

theorem Inv.link (inv : l.Inv) {ufrag : String} {entry : Nat} (found : l.byUfrag ufrag = some entry)
    (d : Datagram) : (l.link entry d).Inv where
  routed := inv.routed.insert_addr found d.srcAddr
  owner := inv.owner

/-- A new entry is registered under a free ufrag. -/
theorem Inv.register (inv : l.Inv) {ufrag : String} {entry : Nat} {e : PcEntry}
    (free : l.byUfrag ufrag = none) (present : l.entries[entry]? = some e) (named : e.ufrag = ufrag)
    (alive : e.Alive) : Inv { l with byUfrag := l.byUfrag.insert ufrag entry } := by
  refine ⟨inv.routed.insert_name free, fun name other found => ?_⟩
  have found : (l.byUfrag.insert ufrag entry) name = some other := found
  by_cases same : name = ufrag
  · subst same
    rw [Table.insert_self] at found
    cases found
    exact ⟨e, present, named, alive⟩
  · rw [Table.insert_of_ne same] at found
    exact inv.owner name other found

theorem Inv.pumpStep (inv : l.Inv) (stepped : l.pumpStep = some l') : l'.Inv := by
  unfold Listener.pumpStep at stepped
  split at stepped
  · split at stepped
    · cases stepped
      exact inv.keep
    · split at stepped <;> (cases stepped; exact inv.keep)
  · next ufrag d _ =>
    split at stepped
    · next entry found =>
      cases stepped
      exact inv.link found d
    · next free =>
      cases stepped
      have registered := (inv.spawnPC ufrag d).register free (e := { ufrag, srcAddr := d.srcAddr })
        List.getElem?_concat_length rfl ⟨rfl, rfl⟩
      exact registered.link Table.insert_self d
  · cases stepped
    exact inv.keep
  · cases stepped

/-- What `removeEntry` leaves registered was registered before, under another ufrag. -/
theorem removeEntry_byUfrag {ufrag name : String} {entry : Nat}
    (found : (l.removeEntry ufrag).byUfrag name = some entry) :
    l.byUfrag name = some entry ∧ (l.byUfrag ufrag ≠ none → name ≠ ufrag) := by
  unfold Listener.removeEntry at found
  split at found
  · next free => exact ⟨found, fun present => absurd free present⟩
  · obtain ⟨different, found⟩ := Table.erase_eq_some found
    exact ⟨found, fun _ => different⟩

theorem removeEntry_routed (ufrag : String) (routed : Routed id l.byUfrag l.byAddr) :
    Routed id (l.removeEntry ufrag).byUfrag (l.removeEntry ufrag).byAddr := by
  unfold Listener.removeEntry
  split
  · exact routed
  · next registered => exact routed.remove registered

/-- And it closes the entry that is registered under the ufrag alone. -/
theorem removeEntry_entries {ufrag : String} {entry : Nat} (other : l.byUfrag ufrag ≠ some entry) :
    (l.removeEntry ufrag).entries[entry]? = l.entries[entry]? := by
  unfold Listener.removeEntry
  split
  · rfl
  · next victim registered =>
    have different : victim ≠ entry := fun same => other (same ▸ registered)
    simp [different]

/-- A state callback removes its own connection, if that is registered. -/
theorem Inv.stateChange (inv : l.Inv) {entry : Nat} {e : PcEntry}
    (present : l.entries[entry]? = some e) :
    ((l.markClosed entry).removeEntry e.ufrag).Inv := by
  refine ⟨removeEntry_routed e.ufrag inv.routed, fun name other found => ?_⟩
  obtain ⟨before, different⟩ := removeEntry_byUfrag found
  have registered : l.byUfrag name = some other := before
  obtain ⟨kept, at_other, named, alive⟩ := inv.owner name other registered
  have apart : other ≠ entry := by
    rintro rfl
    rw [present] at at_other
    cases at_other
    have here : (l.markClosed other).byUfrag e.ufrag ≠ none := by
      show l.byUfrag e.ufrag ≠ none
      rw [named, registered]
      exact Option.some_ne_none _
    exact different here named.symm
  refine ⟨kept, ?_, named, alive⟩
  rw [removeEntry_entries ?_]
  · show (l.entries.modify entry _)[other]? = some kept
    rw [List.getElem?_modify, at_other]
    simp [Ne.symm apart]
  · intro victim
    -- what is registered under the callback's ufrag has it for its own, and so is gone
    have victim : l.byUfrag e.ufrag = some other := victim
    obtain ⟨same, at_same, ufrag, -⟩ := inv.owner e.ufrag other victim
    rw [at_other] at at_same
    cases at_same
    refine different ?_ (named.symm.trans ufrag)
    show l.byUfrag e.ufrag ≠ none
    rw [victim]
    exact Option.some_ne_none _

theorem step_stateChange {entry : Nat} (stepped : l.step (.stateChange entry) = some l') :
    ∃ e, l.entries[entry]? = some e ∧ l' = (l.markClosed entry).removeEntry e.ufrag := by
  simp only [Listener.step] at stepped
  split at stepped
  · next e present =>
    cases stepped
    exact ⟨e, present, rfl⟩
  · cases stepped

/-- **Every step keeps the tables consistent.** -/
theorem Inv.step (inv : l.Inv) {label : Label} (stepped : l.step label = some l') : l'.Inv := by
  cases label with
  | recv d =>
    simp only [Listener.step] at stepped
    split at stepped <;> cases stepped
    exact inv.keep
  | pump => exact inv.pumpStep stepped
  | spawnFailed =>
    simp only [Listener.step] at stepped
    split at stepped
    · split at stepped
      · cases stepped
      · cases stepped
        exact (inv.spawnPC _ _).keep
    · cases stepped
  | stateChange entry =>
    obtain ⟨e, present, rfl⟩ := step_stateChange stepped
    exact inv.stateChange present
  | close =>
    cases stepped
    exact inv.keep
  | readClosed =>
    simp only [Listener.step] at stepped
    split at stepped <;> cases stepped
    exact inv.keep

theorem inv_run {labels : List Label} (ran : run step {} labels = some l) : l.Inv :=
  run_invariant (fun _ _ _ inv stepped => Inv.step inv stepped) inv_new ran

/-- **The tables are consistent** in every state of a run. -/
theorem consistent {labels : List Label} (ran : run step {} labels = some l) : l.Consistent :=
  (inv_run ran).consistent

/-! ### What a state callback touches -/

/-- The step touches the tables' entries of the connection `entry` alone, and marks no other
connection closed. -/
structure OnlyOwn (entry : Nat) (l l' : Listener) : Prop where
  byUfrag : ∀ ufrag other, other ≠ entry → l.byUfrag ufrag = some other →
    l'.byUfrag ufrag = some other
  byAddr : ∀ addr other, other ≠ entry → l.byAddr addr = some other → l'.byAddr addr = some other
  entries : ∀ other, other ≠ entry → l'.entries[other]? = l.entries[other]?

/-- No other connection is registered under the ufrag of `entry`. -/
def OwnUfrag (entry : Nat) (l : Listener) : Prop :=
  ∀ e other, l.entries[entry]? = some e → l.byUfrag e.ufrag = some other → other = entry

/-- **A state callback touches its own connection alone** exactly when no other connection is
registered under its ufrag. -/
theorem onlyOwn_iff {entry : Nat} (stepped : l.step (.stateChange entry) = some l') :
    OnlyOwn entry l l' ↔ OwnUfrag entry l := by
  obtain ⟨e, present, rfl⟩ := step_stateChange stepped
  have marked : (l.markClosed entry).byUfrag = l.byUfrag := rfl
  have modified {f : PcEntry → PcEntry} {entries : List PcEntry} {other : Nat}
      (different : other ≠ entry) : (entries.modify entry f)[other]? = entries[other]? := by
    simp [Ne.symm different]
  constructor
  · intro only own other at_entry registered
    rw [present] at at_entry
    cases at_entry
    by_contra different
    have kept := only.byUfrag _ other different registered
    unfold Listener.removeEntry at kept
    rw [marked, registered] at kept
    exact (Table.erase_eq_some kept).1 rfl
  · intro own
    cases registered : l.byUfrag e.ufrag with
    | none =>
      unfold Listener.removeEntry
      rw [marked, registered]
      exact ⟨fun _ _ _ found => found, fun _ _ _ found => found,
        fun _ different => modified different⟩
    | some other =>
      obtain rfl := own e other present registered
      unfold Listener.removeEntry
      rw [marked, registered]
      refine ⟨fun name another different found => ?_, fun addr another different found => ?_,
        fun another different => (modified different).trans (modified different)⟩
      · refine (Table.erase_of_ne ?_).trans found
        rintro rfl
        rw [registered] at found
        cases found
        exact different rfl
      · exact Table.retain_eq_some.mpr ⟨found, decide_eq_true different⟩

end Listener

end Kps.Go
