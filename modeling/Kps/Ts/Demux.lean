/-
**The demultiplexer of the TypeScript server** (`demux.ts`).

One public socket relays to two backends on the loopback. The first packet of a source chooses the
backend, and the choice is remembered in a table until the source has been idle in both directions.
The key of the table is the address and the port of the source, joined by a colon; a port has none,
so that it stands for the source. What goes back to the client is left out.

`IsStunMessage` is what section 5.1 of the specification routes by, and `Refines` what it asks of
the packets that were relayed; `first` records that a choice was made for the first packet of its
source.

* `demux_refines` — the relay follows it if and only if no source whose packets went to QUIC starts
  to send STUN while its choice is remembered, and none begins with a packet that has the cookie but
  not the leading bits;
* `demux_misroutes` — runs in which they do.
-/

import Kps.Lib.Bytes
import Kps.Lib.Run
import Kps.Lib.Table

namespace Kps.Ts

open Kps.Lib

/-- Where a packet comes from. -/
structure Rinfo where
  address : String
  port : UInt16
  deriving DecidableEq, Repr

inductive Backend
  | webrtc
  | quic
  deriving DecidableEq, Repr

def isStun (b : Bytes) : Bool := decide (b.length ≥ 8 ∧ ofBE ((b.drop 4).take 4) = 0x2112A442)

/-- The magic cookie at bytes 4–7, and the leading two bits zero. -/
def IsStunMessage (b : Bytes) : Prop :=
  b.length ≥ 8 ∧ ofBE ((b.drop 4).take 4) = 0x2112A442 ∧ b.headD 0 < 0x40

instance (b : Bytes) : Decidable (IsStunMessage b) :=
  inferInstanceAs
    (Decidable (b.length ≥ 8 ∧ ofBE ((b.drop 4).take 4) = 0x2112A442 ∧ b.headD 0 < 0x40))

/-- An entry of the table; `last` is in milliseconds. -/
structure Entry where
  backend : Backend
  last : Int
  first : Bool
  deriving DecidableEq, Repr

/-- A packet that was relayed. -/
structure Relayed where
  source : Rinfo
  data : Bytes
  backend : Backend
  first : Bool
  deriving DecidableEq, Repr

structure Demux where
  table : Table Rinfo Entry := .empty
  closed : Bool := false
  sent : List Relayed := []

/-- `idleMs`, when it is not given. -/
def defaultIdleMs : Int := 120000

namespace Demux

inductive Label
  /-- A packet arrives at the public socket. -/
  | message (rinfo : Rinfo) (data : Bytes) (now : Int)
  /-- A backend answers the source. -/
  | response (rinfo : Rinfo) (now : Int)
  /-- The interval. -/
  | gc (now : Int)
  | close
  deriving DecidableEq, Repr

/-- The entry of a source, which its packet makes if there is none. -/
def entryFor (rinfo : Rinfo) (data : Bytes) (now : Int) (d : Demux) : Entry :=
  match d.table rinfo with
  | some e => e
  | none =>
    { backend := if isStun data then .webrtc else .quic
      last := now
      first := d.sent.all fun sent => decide (sent.source ≠ rinfo) }

def step (idleMs : Int) (d : Demux) : Label → Option Demux
  | .message rinfo data now =>
    if d.closed then none
    else
      let e := d.entryFor rinfo data now
      some { d with
        table := d.table.insert rinfo { e with last := now }
        sent := d.sent ++ [⟨rinfo, data, e.backend, e.first⟩] }
  | .response rinfo now =>
    match d.table rinfo with
    | some e => some { d with table := d.table.insert rinfo { e with last := now } }
    | none => none
  | .gc now =>
    if d.closed then none
    else some { d with table := d.table.retain fun e => !decide (now - e.last > idleMs) }
  | .close => some { d with table := .empty, closed := true }

/-- The source has sent a STUN message. -/
def StunSent (rinfo : Rinfo) (sent : List Relayed) : Prop :=
  ∃ relayed ∈ sent, relayed.source = rinfo ∧ IsStunMessage relayed.data

instance (rinfo : Rinfo) (sent : List Relayed) : Decidable (StunSent rinfo sent) :=
  inferInstanceAs
    (Decidable (∃ relayed ∈ sent, relayed.source = rinfo ∧ IsStunMessage relayed.data))

/-- A packet is relayed as it should be, after the packets `before`. -/
structure Right (before : List Relayed) (relayed : Relayed) : Prop where
  classified : ¬ StunSent relayed.source before →
    (relayed.backend = .webrtc ↔ IsStunMessage relayed.data)
  /-- The choice made for the first packet sends no STUN message to QUIC. -/
  binding : relayed.first = true → IsStunMessage relayed.data → relayed.backend = .webrtc
  firstPacket : (∀ earlier ∈ before, earlier.source ≠ relayed.source) →
    ¬ IsStunMessage relayed.data → relayed.backend = .quic

/-- Every packet is. -/
def Refines (sent : List Relayed) : Prop :=
  ∀ before relayed, before ++ [relayed] <+: sent → Right before relayed

/-- A source that has sent no STUN message sends none while its choice is remembered, and makes its
choice with no packet that has the cookie alone. -/
def Faithful (d : Demux) : Label → Prop
  | .message rinfo data _ => StunSent rinfo d.sent ∨
    if (d.table rinfo).isSome then ¬ IsStunMessage data else isStun data = true → IsStunMessage data
  | _ => True

instance (d : Demux) (label : Label) : Decidable (Faithful d label) := by
  unfold Faithful
  split
  · exact inferInstance
  · exact inferInstance

variable {idleMs : Int} {d d' : Demux} {label : Label} {rinfo : Rinfo} {data : Bytes}
    {sent : List Relayed}
  {relayed : Relayed}

/-! ### One packet -/

theorem isStun_of_message (message : IsStunMessage data) : isStun data = true :=
  decide_eq_true ⟨message.1, message.2.1⟩

theorem stunSent_append : StunSent rinfo (sent ++ [relayed]) ↔
    StunSent rinfo sent ∨ relayed.source = rinfo ∧ IsStunMessage relayed.data := by
  unfold StunSent
  constructor
  · rintro ⟨other, member, facts⟩
    rcases List.mem_append.mp member with old | new
    · exact Or.inl ⟨other, old, facts⟩
    · rw [List.mem_singleton.mp new] at facts
      exact Or.inr facts
  · rintro (⟨other, old, facts⟩ | facts)
    · exact ⟨other, List.mem_append_left _ old, facts⟩
    · exact ⟨relayed, List.mem_append_right _ (List.mem_singleton_self _), facts⟩

theorem refines_append : Refines (sent ++ [relayed]) ↔ Refines sent ∧ Right sent relayed := by
  constructor
  · intro refines
    exact ⟨fun before other head => refines before other (head.trans (List.prefix_append _ _)),
      refines sent relayed (List.prefix_refl _)⟩
  · rintro ⟨refines, right⟩ before other head
    rcases List.prefix_concat_iff.mp head with same | head
    · obtain ⟨rfl, last⟩ := List.append_inj' same rfl
      cases last
      exact right
    · exact refines before other head

/-- What is remembered, if the packets so far were relayed as they should be: a source that has sent
no STUN message goes to QUIC, and one that goes there by the choice of its first packet has sent
none. -/
def Inv (d : Demux) : Prop := Refines d.sent → ∀ rinfo e, d.table rinfo = some e →
  (¬ StunSent rinfo d.sent → e.backend = .quic) ∧
  (e.first = true → e.backend = .quic → ¬ StunSent rinfo d.sent)

theorem not_stunSent (none : ∀ earlier ∈ sent, earlier.source ≠ rinfo) : ¬ StunSent rinfo sent := by
  rintro ⟨earlier, member, same, -⟩
  exact none earlier member same

/-- The choice of a source without an entry. -/
theorem entryFor_none (absent : d.table rinfo = none) (now : Int) :
    ((d.entryFor rinfo data now).backend = .webrtc ↔ isStun data = true) ∧
    ((d.entryFor rinfo data now).first = true → ∀ earlier ∈ d.sent, earlier.source ≠ rinfo) := by
  simp only [entryFor, absent]
  constructor
  · split <;> simp_all
  · intro first earlier member
    exact of_decide_eq_true (List.all_eq_true.mp first earlier member)

theorem entryFor_some {e : Entry} (present : d.table rinfo = some e) (now : Int) :
    d.entryFor rinfo data now = e := by
  simp only [entryFor, present]

theorem faithful_none (absent : d.table rinfo = none) {now : Int} :
    Faithful d (.message rinfo data now) ↔
    StunSent rinfo d.sent ∨ (isStun data = true → IsStunMessage data) := by
  simp only [Faithful, absent, Option.isSome_none, Bool.false_eq_true, if_false]

theorem faithful_some {e : Entry} (present : d.table rinfo = some e) {now : Int} :
    Faithful d (.message rinfo data now) ↔ StunSent rinfo d.sent ∨ ¬ IsStunMessage data := by
  simp only [Faithful, present, Option.isSome_some, if_true]

theorem backend_quic {b : Backend} : b = .quic ↔ b ≠ .webrtc := by
  cases b <;> decide

/-- **A packet is relayed as it should be exactly if it is one that the remembered choice
suits.** -/
theorem right_iff (inv : Inv d) (refines : Refines d.sent) (now : Int) :
    Right d.sent ⟨rinfo, data, (d.entryFor rinfo data now).backend,
      (d.entryFor rinfo data now).first⟩ ↔ Faithful d (.message rinfo data now) := by
  cases entry : d.table rinfo with
  | none =>
    obtain ⟨choice, first⟩ := @entryFor_none d rinfo data entry now
    rw [faithful_none entry]
    constructor
    · intro right
      rw [or_iff_not_imp_left]
      exact fun silent cookie => (right.classified silent).mp (choice.mpr cookie)
    · intro faithful
      have classified (silent : ¬ StunSent rinfo d.sent) :
          (d.entryFor rinfo data now).backend = .webrtc ↔ IsStunMessage data :=
        choice.trans ⟨faithful.resolve_left silent, isStun_of_message⟩
      refine ⟨classified, fun _ message => choice.mpr (isStun_of_message message),
        fun none other => ?_⟩
      exact backend_quic.mpr (mt (classified (not_stunSent none)).mp other)
  | some e =>
    rw [entryFor_some entry now, faithful_some entry]
    obtain ⟨quic, silent⟩ := inv refines rinfo e entry
    constructor
    · intro right
      rw [or_iff_not_imp_left]
      exact fun silent message => backend_quic.mp (quic silent)
        ((right.classified silent).mpr message)
    · intro faithful
      have classified (silent : ¬ StunSent rinfo d.sent) : e.backend = .webrtc ↔
          IsStunMessage data := by
        have other := faithful.resolve_left silent
        exact iff_of_false (backend_quic.mp (quic silent)) other
      refine ⟨classified, fun first message => ?_, fun none _ => quic (not_stunSent none)⟩
      by_contra other
      have none := silent first (backend_quic.mpr other)
      exact other ((classified none).mpr message)

/-! ### Every packet of a run -/

theorem step_message {now : Int} (stepped : step idleMs d (.message rinfo data now) = some d') :
    d'.table = d.table.insert rinfo { d.entryFor rinfo data now with last := now } ∧
    d'.sent = d.sent ++
      [⟨rinfo, data, (d.entryFor rinfo data now).backend, (d.entryFor rinfo data now).first⟩] := by
  simp only [step] at stepped
  split at stepped <;> cases stepped
  exact ⟨rfl, rfl⟩

/-- A step that relays no packet. -/
theorem step_other (stepped : step idleMs d label = some d')
    (other : ∀ rinfo data now, label ≠ .message rinfo data now) :
    d'.sent = d.sent ∧ ∀ rinfo e, d'.table rinfo = some e →
      ∃ e', d.table rinfo = some e' ∧ e'.backend = e.backend ∧ e'.first = e.first := by
  cases label with
  | message rinfo data now => exact absurd rfl (other rinfo data now)
  | response source now =>
    simp only [step] at stepped
    split at stepped
    · next e present =>
      cases stepped
      refine ⟨rfl, fun rinfo e' found => ?_⟩
      by_cases same : rinfo = source
      · subst same
        have found : d.table.insert rinfo { e with last := now } rinfo = some e' := found
        rw [Table.insert_self] at found
        cases found
        exact ⟨e, present, rfl, rfl⟩
      · have found : d.table.insert source { e with last := now } rinfo = some e' := found
        rw [Table.insert_of_ne same] at found
        exact ⟨e', found, rfl, rfl⟩
    · cases stepped
  | gc now =>
    simp only [step] at stepped
    split at stepped <;> cases stepped
    exact ⟨rfl, fun rinfo e found => ⟨e, (Table.retain_eq_some.mp found).1, rfl, rfl⟩⟩
  | close =>
    cases stepped
    exact ⟨rfl, fun rinfo e found => by cases found⟩

/-- **One step keeps what is remembered**, while the packets are relayed as they should be. -/
theorem Inv.step (inv : Inv d) (stepped : Demux.step idleMs d label = some d') : Inv d' := by
  by_cases message : ∃ rinfo data now, label = .message rinfo data now
  · obtain ⟨rinfo, data, now, rfl⟩ := message
    obtain ⟨table, sent⟩ := step_message stepped
    intro refines source e found
    rw [sent] at refines
    obtain ⟨earlier, right⟩ := refines_append.mp refines
    rw [table] at found
    rw [sent, stunSent_append]
    by_cases same : source = rinfo
    · subst same
      rw [Table.insert_self] at found
      cases found
      refine ⟨fun silent => ?_, fun first quic => ?_⟩
      · obtain ⟨silent, other⟩ := not_or.mp silent
        exact backend_quic.mpr (mt (right.classified silent).mp fun message => other ⟨rfl, message⟩)
      · have none : ¬ StunSent source d.sent := by
          cases entry : d.table source with
          | none => exact not_stunSent ((entryFor_none entry now).2 first)
          | some e =>
            rw [entryFor_some entry now] at first quic
            exact (inv earlier source e entry).2 first quic
        exact not_or.mpr ⟨none, fun message => backend_quic.mp quic (right.binding first message.2)⟩
    · rw [Table.insert_of_ne same] at found
      have other : ¬ (rinfo = source ∧ IsStunMessage data) := fun both => same both.1.symm
      rw [or_iff_left other]
      exact inv earlier source e found
  · obtain ⟨sent, kept⟩ :=
      step_other stepped fun rinfo data now same => message ⟨rinfo, data, now, same⟩
    intro refines rinfo e found
    rw [sent] at refines ⊢
    obtain ⟨e', present, backend, first⟩ := kept rinfo e found
    rw [← backend, ← first]
    exact inv refines rinfo e' present

/-- **One step relays as it should** exactly if it meets the condition. -/
theorem step_refines (inv : Inv d) (refines : Refines d.sent)
    (stepped : step idleMs d label = some d') :
    Refines d'.sent ↔ Faithful d label := by
  by_cases message : ∃ rinfo data now, label = .message rinfo data now
  · obtain ⟨rinfo, data, now, rfl⟩ := message
    rw [(step_message stepped).2, refines_append, right_iff inv refines now]
    exact and_iff_right refines
  · have other (rinfo : Rinfo) (data : Bytes) (now : Int) (same : label = .message rinfo data now) :
        False :=
      message ⟨rinfo, data, now, same⟩
    rw [(step_other stepped other).1]
    refine iff_of_true refines ?_
    cases label with
    | message rinfo data now => exact (other rinfo data now rfl).elim
    | _ => exact trivial

theorem step_grows (stepped : step idleMs d label = some d') : d.sent <+: d'.sent := by
  by_cases message : ∃ rinfo data now, label = .message rinfo data now
  · obtain ⟨rinfo, data, now, rfl⟩ := message
    rw [(step_message stepped).2]
    exact List.prefix_append _ _
  · have same := (step_other stepped fun rinfo data now same => message ⟨rinfo, data, now, same⟩).1
    exact same ▸ List.prefix_refl d.sent

theorem inv_new : Inv {} := by
  intro _ rinfo e found
  cases found

theorem refines_nil : Refines [] := by
  intro before relayed head
  have short := head.length_le
  simp at short

/-- **The relay refines section 5.1** in a run if and only if every packet of it meets the
condition. -/
theorem demux_refines {idleMs : Int} {labels : List Label} {d : Demux}
    (ran : run (step idleMs) {} labels = some d) :
    Refines d.sent ↔ Meets (step idleMs) Faithful {} labels := by
  refine good_iff_meets (fun _ _ _ inv stepped => Inv.step inv stepped)
    (fun d label d' inv (refines : Refines d.sent) stepped => step_refines inv refines stepped) ?_
      inv_new refines_nil ran
  intro d label d' stepped refines before relayed head
  exact refines before relayed (head.trans (step_grows stepped))

def client : Rinfo := ⟨"192.0.2.1", 4000⟩

/-- A STUN binding. -/
def binding : Bytes := [0x00, 0x01, 0x00, 0x00, 0x21, 0x12, 0xA4, 0x42]

/-- The first bytes of a QUIC Initial packet. -/
def initialPacket : Bytes := [0xC0, 0x00, 0x00, 0x00, 0x01, 0x08, 0x11, 0x22]

/-- A QUIC packet with a short header whose bytes 4–7 are the cookie. -/
def cookiePacket : Bytes := [0x40, 0x01, 0x02, 0x03, 0x21, 0x12, 0xA4, 0x42]

/-- A source uses QUIC; after it was idle its port is used for WebRTC. -/
def portReused : List Label :=
  [.message client initialPacket 0, .response client 5, .gc 120000,
    .message client initialPacket 120000, .gc 240001,
    .message client binding 250000, .message client initialPacket 250001]

theorem demux_refines_portReused : ∃ d, run (step defaultIdleMs) {} portReused = some d ∧
    d.sent.map Relayed.backend = [.quic, .quic, .webrtc, .webrtc] ∧ Refines d.sent := by
  have relays : (run (step defaultIdleMs) {} portReused).any (fun d =>
      decide (d.sent.map Relayed.backend = [.quic, .quic, .webrtc, .webrtc])) =
        true := by decide +kernel
  obtain ⟨d, ran, relayed⟩ := (Option.any_eq_true _ _).mp relays
  exact ⟨d, ran, of_decide_eq_true relayed, (demux_refines ran).mpr (by decide +kernel)⟩

/-- **What is relayed to the wrong backend**: a STUN binding from a port that was used for QUIC
shortly before, and a first packet that is not STUN but has the cookie. -/
theorem demux_misroutes :
    (∃ d, run (step defaultIdleMs) {}
      [.message client initialPacket 0, .message client binding 1000] = some d ∧
      IsStunMessage binding ∧ d.sent.map Relayed.backend = [.quic, .quic] ∧ ¬ Refines d.sent) ∧
    ∃ d, run (step defaultIdleMs) {} [.message client cookiePacket 0] = some d ∧
      ¬ IsStunMessage cookiePacket ∧ d.sent.map Relayed.backend = [.webrtc] ∧ ¬ Refines d.sent := by
  have reused :
    (run (step defaultIdleMs) {}
      [.message client initialPacket 0, .message client binding 1000]).any (fun d =>
      decide (d.sent = [⟨client, initialPacket, .quic, true⟩, ⟨client, binding, .quic, true⟩])) =
        true := by decide +kernel
  have cookie : (run (step defaultIdleMs) {} [.message client cookiePacket 0]).any (fun d =>
      decide (d.sent = [⟨client, cookiePacket, .webrtc, true⟩])) = true := by decide +kernel
  obtain ⟨d, ran, sent⟩ := (Option.any_eq_true _ _).mp reused
  obtain ⟨d', ran', sent'⟩ := (Option.any_eq_true _ _).mp cookie
  have sent := of_decide_eq_true sent
  have sent' := of_decide_eq_true sent'
  have stun : IsStunMessage binding := by decide +kernel
  have other : ¬ IsStunMessage cookiePacket := by decide +kernel
  refine ⟨⟨d, ran, stun, by rw [sent]; rfl, fun refines => ?_⟩,
    ⟨d', ran', other, by rw [sent']; rfl, fun refines => ?_⟩⟩
  · have right := refines [⟨client, initialPacket, .quic, true⟩] ⟨client, binding, .quic, true⟩ (by
      rw [sent]
      exact List.prefix_refl _)
    cases right.binding rfl stun
  · have right := refines [] ⟨client, cookiePacket, .webrtc, true⟩ (by
      rw [sent']
      exact List.prefix_refl _)
    cases right.firstPacket (fun _ member => absurd member List.not_mem_nil) other

end Demux

end Kps.Ts
