/-
**The bytes a Rust stream has reserved.**

No reservation is larger than a frame. The DATA queue and the entries that were dropped with it are
at most 32, the pending grant is one more, and the writer task holds one; so the ledger of a stream
adds up in bytes, and the engine counts nothing only if none of them has a reservation.

* `exec_bounded` — a section keeps the queue within its permits, and a reservation within a frame;
* `Held.step` — only the section that the writer task is about to run has a reservation;
* `ledger_exact` — the ledger in bytes.
-/

import Kps.Rust.Reservations
import Mathlib.Algebra.Order.BigOperators.Group.List

namespace Kps.Rust

open Kps.Lib

/-- The section has a reservation. -/
def StreamSection.laden (op : StreamSection) : Bool := decide (op.carries ≠ 0)

theorem StreamSection.laden_eq_false {op : StreamSection} : op.laden = false ↔ op.carries = 0 := by
  unfold laden
  rw [decide_eq_false_iff_not, not_not]

/-- The permit that the handle has and did not use. -/
def PollSender.permit : PollSender → Nat
  | .acquiring true => 1
  | .readyToSend => 1
  | _ => 0

/-- The bytes that are reserved for entries. -/
def reservedBytes (entries : List (ParsedFrame × UInt64)) : Nat :=
  (entries.map fun entry => entry.2.toNat).sum

theorem reservedBytes_le {entries : List (ParsedFrame × UInt64)}
    (small : ∀ entry ∈ entries, entry.2.toNat ≤ maxFramePayload) :
    reservedBytes entries ≤ entries.length * maxFramePayload := by
  have bound := List.sum_le_card_nsmul (entries.map fun entry => entry.2.toNat) maxFramePayload
    fun n member => by
      obtain ⟨entry, inside, rfl⟩ := List.mem_map.mp member
      exact small entry inside
  rwa [List.length_map] at bound

/-- Reservations that fit a word add up. -/
theorem toNat_sum {entries : List (ParsedFrame × UInt64)} (small : reservedBytes entries < 2 ^ 64) :
    ((entries.map Prod.snd).sum).toNat = reservedBytes entries := by
  induction entries with
  | nil => rfl
  | cons entry entries ih =>
    have total : reservedBytes (entry :: entries) = entry.2.toNat + reservedBytes entries := rfl
    rw [total] at small
    have rest := ih (by omega)
    rw [List.map_cons, List.sum_cons, Word.toNat_add (by omega), rest, total]

namespace WebrtcStream

variable {s : WebrtcStream} {op : StreamSection} {e : Effect WebrtcStream StreamSection}

/-! ### The queue and the grant -/

/-- The entries have permits of their own, and no reservation is larger than a frame. -/
structure Bounded (s : WebrtcStream) : Prop where
  room : s.permits + s.dataPollTx.permit + s.data.length + s.abandoned.length ≤ 32
  entries : ∀ entry ∈ s.data ++ s.abandoned, entry.2.toNat ≤ maxFramePayload
  grant : s.pendingGrant.toNat ≤ maxFramePayload

theorem Bounded.congr {s' : WebrtcStream} (bounded : Bounded s)
    (queueing : s'.queueing = s.queueing) (grant : s'.pendingGrant.toNat ≤ maxFramePayload) :
    Bounded s' := by
  simp only [WebrtcStream.queueing, Prod.mk.injEq] at queueing
  obtain ⟨data, permits, sender, -, abandoned⟩ := queueing
  refine ⟨?_, ?_, grant⟩
  · rw [permits, sender, data, abandoned]
    exact bounded.room
  · rw [data, abandoned]
    exact bounded.entries

/-- A reservation of a permit makes none. -/
theorem permit_pollPermit (s : WebrtcStream) :
    s.pollPermit.permits + s.pollPermit.dataPollTx.permit ≤ s.permits + s.dataPollTx.permit := by
  unfold pollPermit
  split
  · next idle =>
    rw [idle]
    split
    · exact le_refl _
    split
    · next free =>
      show s.permits - 1 + 1 ≤ s.permits + 0
      omega
    · exact le_refl _
  · next assigned waits =>
    split
    · exact Nat.add_le_add_left (Nat.zero_le _) _
    split
    · next has =>
      rw [waits, has]
      exact le_refl _
    · exact le_refl _
  · exact le_refl _
  · exact le_refl _

theorem Bounded.pollPermit (bounded : Bounded s) : Bounded s.pollPermit := by
  have permits := permit_pollPermit s
  rw [pollPermit_eq]
  refine ⟨?_, bounded.entries, bounded.grant⟩
  have room := bounded.room
  show s.pollPermit.permits + s.pollPermit.dataPollTx.permit + s.data.length +
    s.abandoned.length ≤ 32
  omega

/-- An item takes the permit, in the queue or among what is dropped. -/
theorem Bounded.sendItem (bounded : Bounded s) (ready : s.dataPollTx = .readyToSend)
    {item : ParsedFrame × UInt64} (small : item.2.toNat ≤ maxFramePayload) :
    Bounded (s.sendItem item) := by
  have room := bounded.room
  rw [ready] at room
  change s.permits + 1 + s.data.length + s.abandoned.length ≤ 32 at room
  have within : ∀ entry ∈ s.data ++ s.abandoned ++ [item], entry.2.toNat ≤ maxFramePayload := by
    intro entry member
    rcases List.mem_append.mp member with old | new
    · exact bounded.entries entry old
    · rw [List.mem_singleton.mp new]
      exact small
  unfold WebrtcStream.sendItem
  cases s.writerGone with
  | true =>
    refine ⟨?_, fun entry member => within entry ?_, bounded.grant⟩
    · show s.permits + 0 + s.data.length + (s.abandoned ++ [item]).length ≤ 32
      rw [List.length_append, List.length_singleton]
      omega
    · rw [List.append_assoc]
      exact member
  | false =>
    refine ⟨?_, fun entry member => within entry ?_, bounded.grant⟩
    · show s.permits + 0 + (s.data ++ [item]).length + s.abandoned.length ≤ 32
      rw [List.length_append, List.length_singleton]
      omega
    · change entry ∈ s.data ++ [item] ++ s.abandoned at member
      rw [List.append_assoc] at member ⊢
      rcases List.mem_append.mp member with old | new
      · exact List.mem_append_left _ old
      · exact List.mem_append_right _ (List.mem_append.mpr (List.mem_append.mp new).symm)

/-- The next entry gives its permit back. -/
theorem selectData_bounded (ran : s.selectData = some e) (bounded : Bounded s) :
    Bounded e.shared := by
  unfold selectData at ran
  split at ran
  · next frame reserved rest next =>
    have room := bounded.room
    have entries := bounded.entries
    rw [next] at room entries
    rw [List.length_cons] at room
    have within : ∀ entry ∈ rest ++ s.abandoned, entry.2.toNat ≤ maxFramePayload :=
      fun entry member => entries entry (List.mem_cons_of_mem _ member)
    unfold freePermit at ran
    split at ran
    · next waits =>
      change s.dataPollTx = .acquiring false at waits
      rw [waits] at room
      change s.permits + 0 + _ + _ ≤ 32 at room
      cases ran
      refine ⟨?_, within, bounded.grant⟩
      show s.permits + 1 + rest.length + s.abandoned.length ≤ 32
      omega
    · cases ran
      refine ⟨?_, within, bounded.grant⟩
      show s.permits + 1 + s.dataPollTx.permit + rest.length + s.abandoned.length ≤ 32
      omega
  split at ran
  · cases ran
    exact bounded
  split at ran
  · cases ran
    exact bounded
  · cases ran

theorem queueData_bounded {buf : Bytes} (ran : s.queueData buf = some e) (bounded : Bounded s) :
    Bounded e.shared := by
  have polled := bounded.pollPermit
  unfold queueData at ran
  dsimp only at ran
  split at ran
  · cases ran
    exact polled
  · next ready =>
    split at ran
    · cases ran
      exact (polled.sendItem ready polled.grant).congr rfl (Nat.zero_le _)
    · cases ran
      exact polled.congr rfl polled.grant
  · cases ran
    exact polled.congr rfl polled.grant

theorem reserveFin_bounded (ran : s.reserveFin = some e) (bounded : Bounded s) :
    Bounded e.shared := by
  have polled := bounded.pollPermit
  unfold reserveFin at ran
  dsimp only at ran
  split at ran
  · cases ran
    exact polled.congr rfl polled.grant
  · next ready =>
    cases ran
    have queued : Bounded (s.pollPermit.sendItem (.fin, 0)) :=
      polled.sendItem ready (Nat.zero_le _)
    exact queued.congr rfl queued.grant
  · cases ran
    exact polled

theorem reserveCredit_bounded {buf : Bytes} (ran : s.reserveCredit buf = some e)
    (bounded : Bounded s) : Bounded e.shared := by
  unfold reserveCredit at ran
  split at ran
  · cases ran
    exact bounded.congr rfl bounded.grant
  · cases ran
    exact bounded.congr rfl bounded.grant
  · next amount flow granted =>
    cases ran
    exact bounded.congr rfl (ConnFlow.pollReserve_fits granted)

theorem sendFin_bounded (ran : s.exec .sendFin = some e) (bounded : Bounded s) :
    Bounded e.shared := by
  simp only [exec] at ran
  split at ran
  · cases ran
    exact bounded.congr rfl bounded.grant
  split at ran
  · next free =>
    cases ran
    have room := bounded.room
    refine ⟨?_, fun entry member => ?_, bounded.grant⟩
    · show s.permits - 1 + s.dataPollTx.permit + (s.data ++ [_]).length + s.abandoned.length ≤ 32
      rw [List.length_append, List.length_singleton]
      omega
    · change entry ∈ s.data ++ [(ParsedFrame.fin, 0)] ++ s.abandoned at member
      rw [List.append_assoc] at member
      rcases List.mem_append.mp member with old | new
      · exact bounded.entries entry (List.mem_append_left _ old)
      · rcases List.mem_cons.mp new with rfl | old
        · exact Nat.zero_le _
        · exact bounded.entries entry (List.mem_append_right _ old)
  · cases ran

/-- **A section keeps the bounds.** -/
theorem exec_bounded (ran : s.exec op = some e) (bounded : Bounded s) : Bounded e.shared := by
  have leaves := exec_leaves ran
  have same (queues : op.queues = false) (grants : op.grants = false) : Bounded e.shared :=
    bounded.congr (leaves.queueing queues) (leaves.grant grants ▸ bounded.grant)
  cases op with
  | selectData => exact selectData_bounded ran bounded
  | queueData buf => exact queueData_bounded ran bounded
  | reserveFin => exact reserveFin_bounded ran bounded
  | sendFin => exact sendFin_bounded ran bounded
  | reserveCredit buf => exact reserveCredit_bounded ran bounded
  | refuseData =>
    cases ran
    exact bounded.congr rfl (Nat.zero_le _)
  | writerEnd =>
    cases ran
    have room := bounded.room
    refine ⟨?_, fun entry member => bounded.entries entry ?_, bounded.grant⟩
    · show s.permits + s.dataPollTx.permit + 0 + (s.abandoned ++ s.data).length ≤ 32
      rw [List.length_append]
      omega
    · change entry ∈ s.abandoned ++ s.data at member
      exact List.mem_append.mpr (List.mem_append.mp member).symm
  | _ => exact same rfl rfl

/-! ### What the writer task holds -/

/-- Only the first section has a reservation, of a frame at most. -/
def Topped : List StreamSection → Prop
  | [] => True
  | op :: rest => op.carries.toNat ≤ maxFramePayload ∧ ∀ other ∈ rest, other.carries = 0

theorem topped_of_light {stack : List StreamSection} (light : ∀ op ∈ stack, op.carries = 0) :
    Topped stack := by
  cases stack with
  | nil => trivial
  | cons op rest =>
    refine ⟨?_, fun other member => light other (List.mem_cons_of_mem _ member)⟩
    rw [light op List.mem_cons_self]
    exact Nat.zero_le _

theorem Topped.append {next rest : List StreamSection} (topped : Topped next)
    (light : ∀ op ∈ rest, op.carries = 0) : Topped (next ++ rest) := by
  cases next with
  | nil => exact topped_of_light light
  | cons op next =>
    refine ⟨topped.1, fun other member => ?_⟩
    rcases List.mem_append.mp member with new | old
    · exact topped.2 other new
    · exact light other old

theorem topped_settleReserved {settle : UInt64 → StreamSection} {n : UInt64}
    (carries : (settle n).carries = n) (small : n.toNat ≤ maxFramePayload) :
    Topped (settleReserved settle n) := by
  unfold settleReserved
  split
  · refine ⟨?_, fun other member => by cases member⟩
    rw [carries]
    exact small
  · trivial

/-- **The writer task goes on with its entry first.** -/
theorem exec_topped (ran : s.exec op = some e) (bounded : Bounded s)
    (small : op.carries.toNat ≤ maxFramePayload) : Topped e.next := by
  have gives {reserved : UInt64} (fits : reserved.toNat ≤ maxFramePayload)
      {last : StreamSection} (light : last.carries = 0) :
      Topped (settleReserved .release reserved ++ [last]) :=
    (topped_settleReserved rfl fits).append fun other member => by
      rw [List.mem_singleton.mp member]
      exact light
  have goesOn {other : StreamSection} (fits : other.carries.toNat ≤ maxFramePayload) :
      Topped [other] := ⟨fits, fun _ member => by cases member⟩
  by_cases passes : op.passes = false
  · exact topped_of_light fun other member =>
      StreamSection.leadsTo_carries (exec_leads ran other member) passes
  · cases op with
    | selectData =>
      simp only [exec, selectData] at ran
      split at ran
      · next frame reserved rest next =>
        cases ran
        refine goesOn (bounded.entries (frame, reserved) (List.mem_append_left _ ?_))
        rw [next]
        exact List.mem_cons_self
      split at ran
      · cases ran
        exact goesOn (Nat.zero_le _)
      split at ran
      · cases ran
        exact goesOn (Nat.zero_le _)
      · cases ran
    | writerData frame reserved =>
      simp only [exec] at ran
      split at ran <;> cases ran
      · exact gives small rfl
      · exact goesOn small
    | writerRoom frame reserved =>
      simp only [exec] at ran
      split at ran <;> cases ran
      · exact gives small rfl
      · exact goesOn small
    | writerBuffered frame reserved =>
      simp only [exec] at ran
      split at ran <;> cases ran <;> exact goesOn small
    | writerSend frame reserved =>
      simp only [exec, writerSend] at ran
      split at ran <;> cases ran
      · rw [List.append_assoc]
        refine (topped_settleReserved rfl small).append fun other member => ?_
        rcases List.mem_append.mp member with mark | last
        · split at mark
          · rw [List.mem_singleton.mp mark]
            rfl
          · cases mark
        · rw [List.mem_singleton.mp last]
          rfl
      · exact gives small rfl
    | _ => exact absurd rfl passes

/-- The bounds, and which section of which task has a reservation. -/
structure Held (t : Tasks) : Prop where
  rules : Ruled t
  bounded : Bounded t.shared
  elsewhere : t.Elsewhere StreamSection.laden Task.writer.thread
  writer : ∀ stack, t.pool[Task.writer.thread]? = some stack → Topped stack

theorem Held.run {t t' : Tasks} (held : Held t) {thread : Nat}
    (stepped : t.advance exec thread = some t') : Held t' := by
  have rules := held.rules.run stepped
  obtain ⟨op, rest, e, top, ran, rfl⟩ := Threads.advance_eq_some.mp stepped
  have here := (held.rules.owned .writer).here
  have started : ∀ other ∈ e.started.flatten, other.laden = false := by
    intro other member
    rw [mem_started ran member]
    rfl
  refine ⟨rules, exec_bounded ran held.bounded,
    held.elsewhere.advance top (fun other op' member => ?_) started, fun stack found => ?_⟩
  · have notWriter := (held.rules.owned .writer).elsewhere thread _ top other op List.mem_cons_self
    have passes : op.passes = false := by
      cases op <;> first | rfl | cases notWriter
    exact StreamSection.laden_eq_false.mpr
      (StreamSection.leadsTo_carries (exec_leads ran op' member) passes)
  · have inside : Task.writer.thread < (t.pool.set thread (e.next ++ rest)).length := by
      rw [List.length_set]
      exact here
    rw [List.getElem?_append_left inside] at found
    by_cases own : thread = Task.writer.thread
    · subst own
      rw [List.getElem?_set_self here] at found
      cases found
      obtain ⟨small, light⟩ := held.writer _ top
      exact (exec_topped ran held.bounded small).append light
    · rw [List.getElem?_set_ne own] at found
      exact held.writer stack found

/-- A step that leaves the writer task. -/
theorem Held.others {t t' : Tasks} (held : Held t) (rules : Ruled t')
    (queueing : t'.shared.queueing = t.shared.queueing)
    (grant : t'.shared.pendingGrant = t.shared.pendingGrant)
    (elsewhere : t'.Elsewhere StreamSection.laden Task.writer.thread)
    (writer : t'.pool[Task.writer.thread]? = t.pool[Task.writer.thread]?) : Held t' :=
  ⟨rules, held.bounded.congr queueing (grant ▸ held.bounded.grant), elsewhere, fun stack found =>
    held.writer stack (writer ▸ found)⟩

/-- A task other than the writer is given sections. -/
theorem Held.resume {t t' : Tasks} (held : Held t) (rules : Ruled t') {thread : Nat}
    {stack : List StreamSection} (resumed : t.resume thread stack = some t')
    (other : thread ≠ Task.writer.thread) (light : ∀ op ∈ stack, op.carries = 0) : Held t' := by
  have elsewhere := Threads.Elsewhere.resume held.elsewhere resumed fun _ op member =>
    StreamSection.laden_eq_false.mpr (light op member)
  unfold Threads.resume at resumed
  split at resumed <;> cases resumed
  exact held.others rules rfl rfl elsewhere (List.getElem?_set_ne other)

/-- **One step keeps the bounds.** -/
theorem Held.step {t t' : Tasks} {label : Label} (held : Held t)
    (stepped : WebrtcStream.step t label = some t') : Held t' := by
  have rules := held.rules.step stepped
  cases label with
  | run thread => exact held.run stepped
  | call method =>
    simp only [WebrtcStream.step] at stepped
    split at stepped
    · cases stepped
    · exact held.resume rules stepped (by decide) fun op member =>
        (Method.sections_light method op member).1
  | dropFuture =>
    simp only [WebrtcStream.step] at stepped
    split at stepped <;> cases stepped
    refine held.others rules rfl rfl (Threads.Elsewhere.set held.elsewhere ?_)
      (List.getElem?_set_ne (by decide))
    exact fun _ op member => absurd member List.not_mem_nil
  | channelOpen =>
    simp only [WebrtcStream.step] at stepped
    split at stepped <;> cases stepped
    refine held.others rules rfl rfl (Threads.Elsewhere.start held.elsewhere fun op member => ?_)
      (List.getElem?_append_left (held.rules.owned .writer).here)
    rw [List.mem_singleton.mp member]
    rfl
  | message data =>
    simp only [WebrtcStream.step] at stepped
    split at stepped
    · refine held.resume rules stepped (by decide) fun op member => ?_
      rw [List.mem_singleton.mp member]
      rfl
    · cases stepped
  | channelClosed =>
    simp only [WebrtcStream.step] at stepped
    split at stepped
    · cases stepped
    · have touched : Held
          (touch t { t.shared with dc := { t.shared.dc with readyState := .closed } }) :=
        held.others (held.rules.touch _) rfl rfl held.elsewhere rfl
      refine touched.resume rules stepped (by decide) fun op member => ?_
      rw [List.mem_singleton.mp member]
      rfl
  | buffered amount =>
    cases stepped
    exact held.others rules rfl rfl held.elsewhere rfl
  | credit flow =>
    cases stepped
    exact held.others rules rfl rfl held.elsewhere rfl
  | teardown =>
    cases stepped
    exact held.others rules rfl rfl held.elsewhere rfl

theorem held_start (flow : ConnFlow) (peerInitiated isOpen : Bool) :
    Held (start flow peerInitiated isOpen) := by
  have bounded : Bounded (start flow peerInitiated isOpen).shared :=
    ⟨le_refl 32, fun entry member => absurd member List.not_mem_nil, Nat.zero_le _⟩
  refine ⟨ruled_start flow peerInitiated isOpen, bounded, fun j stack found other op member => ?_,
    fun stack found => ?_⟩
  · match j, found with
    | 0, found => cases found; cases member
    | 1, found => exact absurd rfl other
    | 2, found => cases found; cases member
  · cases found
    exact topped_of_light fun op member => by
      rw [List.mem_singleton.mp member]
      rfl

/-- The writer task holds the reservation of one entry at most. -/
theorem Held.writerHeld_le {t : Tasks} (held : Held t) :
    (writerHeld t).toNat ≤ maxFramePayload := by
  obtain ⟨stack, found⟩ : ∃ stack, t.pool[Task.writer.thread]? = some stack :=
    ⟨_, List.getElem?_eq_getElem (held.rules.owned .writer).here⟩
  have others : Threads.weight StreamSection.carries
      ⟨t.shared, t.pool.set Task.writer.thread []⟩ = 0 := by
    refine Threads.sum_eq_zero fun op member => ?_
    obtain ⟨other, inside, member⟩ := List.mem_flatten.mp member
    obtain ⟨j, place⟩ := List.mem_iff_getElem?.mp inside
    rw [List.getElem?_set] at place
    split at place
    · split at place <;> cases place
      cases member
    · next apart =>
      exact StreamSection.laden_eq_false.mp (held.elsewhere j other place (Ne.symm apart) op member)
  have total := Threads.weight_clear (w := StreamSection.carries) found
  rw [others, add_zero] at total
  show (Threads.weight StreamSection.carries t).toNat ≤ maxFramePayload
  rw [← total]
  have topped := held.writer stack found
  cases stack with
  | nil => exact Nat.zero_le _
  | cons op rest =>
    rw [List.map_cons, List.sum_cons, Threads.sum_eq_zero topped.2, add_zero]
    exact topped.1

/-! ### The ledger in bytes -/

/-- **The ledger of a stream balances in bytes**, in every run in which the others leave its entry;
entries are dropped only once the writer task has ended. -/
theorem ledger_exact {flow : ConnFlow} {peerInitiated isOpen : Bool} {labels : List Label}
    {t : Tasks} (steady : Meets WebrtcStream.step Steady (start flow peerInitiated isOpen) labels)
    (ran : Lib.run WebrtcStream.step (start flow peerInitiated isOpen) labels = some t) :
    (∀ s, entry t = some s →
      s.sendReserved.toNat = (grantHeld t).toNat + reservedBytes t.shared.data +
        reservedBytes t.shared.abandoned + (writerHeld t).toNat) ∧
    (t.shared.writerGone = false → t.shared.abandoned = []) := by
  have held : Held t := run_invariant (fun _ _ _ held stepped => Held.step held stepped)
    (held_start flow peerInitiated isOpen) ran
  have inv : LedgerInv t := run_invariant_of_meets
    (fun _ _ _ steady inv stepped => LedgerInv.step inv steady stepped) steady
    (ledgerInv_start flow peerInitiated isOpen) ran
  refine ⟨fun s found => ?_, inv.kept⟩
  have room := held.bounded.room
  have data := reservedBytes_le fun entry member =>
    held.bounded.entries entry (List.mem_append_left t.shared.abandoned member)
  have abandoned := reservedBytes_le fun entry member =>
    held.bounded.entries entry (List.mem_append_right t.shared.data member)
  have grant : (grantHeld t).toNat ≤ maxFramePayload := by
    unfold grantHeld
    split
    · exact Nat.zero_le _
    · exact held.bounded.grant
  have writer := held.writerHeld_le
  have frame : maxFramePayload < 2 ^ 32 := by decide
  have few : reservedBytes t.shared.data + reservedBytes t.shared.abandoned ≤
      32 * maxFramePayload := by
    refine (Nat.add_le_add data abandoned).trans ?_
    rw [← Nat.add_mul]
    exact Nat.mul_le_mul_right _ (by omega)
  have queued : t.shared.queuedCredit.toNat = reservedBytes t.shared.data := toNat_sum (by omega)
  have dropped : t.shared.abandonedCredit.toNat = reservedBytes t.shared.abandoned :=
    toNat_sum (by omega)
  have entries : t.shared.entryCredit.toNat =
      reservedBytes t.shared.data + reservedBytes t.shared.abandoned := by
    unfold entryCredit
    rw [Word.toNat_add (by omega), queued, dropped]
  have kept : (grantHeld t + t.shared.entryCredit).toNat =
      (grantHeld t).toNat + t.shared.entryCredit.toNat := Word.toNat_add (by omega)
  rw [inv.balanced s found, Word.toNat_add (by omega), kept, entries]
  omega

end WebrtcStream

end Kps.Rust
