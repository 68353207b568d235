/-
**The retirement of a Rust stream.**

A stream is complete when its terminal frame was handed to the transport, the peer's terminal frame
was received, the channel is closed and the receive buffer is empty. The four become true in any
order, on different tasks; each time, the task that made one true runs `maybe_retire`.

* `exec_climbs` — what a section does to the four, and that it leaves a `maybe_retire` to its task
  when it completes them;
* `LadderInv.step` — so a complete stream has retired, or some task is about to run `maybe_retire`.
-/

import Kps.Rust.StreamWriter

namespace Kps.Rust

open Kps.Lib

namespace StreamSection

/-- A DATA frame that passed the first check of `on_frame`. -/
def carriesData : StreamSection → Bool
  | .onDataReceived _ => true
  | .pushData _ => true
  | _ => false

def firesRetired : StreamSection → Bool
  | .retired => true
  | _ => false

/-- The sections that set a flag of the retirement, or fire it. -/
def rung : StreamSection → Bool
  | .markTerminalSent => true
  | .onChannelClose => true
  | .maybeRetire => true
  | .retired => true
  | _ => false

end StreamSection

namespace WebrtcStream

/-- A FIN or RESET was handed to the transport. -/
def Ended (s : WebrtcStream) : Prop := ∃ frame ∈ s.frames, isTerminal frame = true

/-- The four conditions of retirement, as `maybe_retire` reads them. -/
structure Flagged (s : WebrtcStream) : Prop where
  sent : s.localTerminalSent = true
  ended : s.peerEnded = true
  closed : s.dcClosed = true
  drained : s.inbuf = []

/-- What a section does to the four conditions and to the retirement. -/
structure Climbs (s : WebrtcStream) (op : StreamSection) (e : Effect WebrtcStream StreamSection) :
    Prop where
  hands : Ended s → Ended e.shared
  marks : Ended e.shared → Ended s ∨ .markTerminalSent ∈ e.next
  marked : .markTerminalSent ∈ e.next → Ended e.shared
  sent : e.shared.localTerminalSent = true ↔ s.localTerminalSent = true ∨ op = .markTerminalSent
  ended : s.peerEnded = true → e.shared.peerEnded = true
  ends : e.shared.peerEnded = true → s.peerEnded = true ∨
    ownedBy .callbacks op = true ∧ ∀ other ∈ e.next, ownedBy .callbacks other = false
  closed : e.shared.dcClosed = true ↔ s.dcClosed = true ∨ op = .onChannelClose
  ready : e.shared.dc.readyState = .closed ↔ s.dc.readyState = .closed
  fills : s.inbuf = [] → e.shared.inbuf = [] ∨ op.carriesData = true
  data : ∀ other ∈ e.next, other.carriesData = true → s.peerEnded = false ∨ op.carriesData = true
  closes : ∀ other ∈ e.next, other ≠ .onChannelClose
  fired : e.shared.retiredFired = true ↔ s.retiredFired = true ∨ op = .maybeRetire ∧ Flagged s
  counts : e.shared.retired + e.next.countP StreamSection.firesRetired +
      s.retiredFired.toNat =
    s.retired + (if op.firesRetired then 1 else 0) + e.shared.retiredFired.toNat
  climbs : Flagged e.shared → Flagged s ∨ .maybeRetire ∈ e.next

variable {s : WebrtcStream} {op : StreamSection} {e : Effect WebrtcStream StreamSection}

theorem ended_congr {s' : WebrtcStream} (same : s'.dc.calls = s.dc.calls) : Ended s' ↔ Ended s := by
  unfold Ended
  rw [frames_congr same]

/-- A section of none of the kinds that the retirement speaks of. -/
def Aside (op : StreamSection) : Prop :=
  op.carriesData = false ∧ op.firesRetired = false ∧ op ≠ .onChannelClose ∧ op ≠ .markTerminalSent

/-- A section that leaves the four conditions and the retirement, but for the receive buffer. -/
theorem Climbs.still {s' : WebrtcStream} {next : List StreamSection}
    (ran : andThen next s' = some e)
    (calls : s'.dc.calls = s.dc.calls) (ready : s'.dc.readyState = s.dc.readyState)
    (sent : s'.localTerminalSent = s.localTerminalSent) (ended : s'.peerEnded = s.peerEnded)
    (closed : s'.dcClosed = s.dcClosed) (fired : s'.retiredFired = s.retiredFired)
    (retired : s'.retired = s.retired) (inbuf : s'.inbuf = s.inbuf)
    (aside : ∀ other ∈ next, Aside other) (op_aside : op.rung = false) : Climbs s op e := by
  cases ran
  have op_silent : op.firesRetired = false := by cases op <;> first | rfl | cases op_aside
  have op_marks : op ≠ .markTerminalSent := by rintro rfl; cases op_aside
  have op_closes : op ≠ .onChannelClose := by rintro rfl; cases op_aside
  have op_retires : op ≠ .maybeRetire := by rintro rfl; cases op_aside
  have silent : next.countP StreamSection.firesRetired = 0 :=
    List.countP_eq_zero.mpr fun other member => by simp [(aside other member).2.1]
  refine ⟨(ended_congr calls).mpr, fun sent => Or.inl ((ended_congr calls).mp sent),
    fun member => absurd rfl (aside _ member).2.2.2, ?_, fun now => ?_, fun now => Or.inl ?_, ?_,
    ?_, fun none => Or.inl ?_, fun other member carries => ?_,
    fun other member => (aside other member).2.2.1, ?_, ?_, fun now => Or.inl ?_⟩
  · show s'.localTerminalSent = true ↔ _
    rw [sent]
    simp [op_marks]
  · show s'.peerEnded = true
    rwa [ended]
  · rw [← ended]
    exact now
  · show s'.dcClosed = true ↔ _
    rw [closed]
    simp [op_closes]
  · show s'.dc.readyState = _ ↔ _
    rw [ready]
  · show s'.inbuf = []
    rwa [inbuf]
  · rw [(aside other member).1] at carries
    cases carries
  · show s'.retiredFired = true ↔ _
    rw [fired]
    exact ⟨Or.inl, fun now => now.elim (fun earlier => earlier) fun now => absurd now.1 op_retires⟩
  · show s'.retired + next.countP _ + _ = _ + _ + s'.retiredFired.toNat
    rw [retired, fired, silent, op_silent]
    rfl
  · exact ⟨sent ▸ now.sent, ended ▸ now.ended, closed ▸ now.closed, inbuf ▸ now.drained⟩

theorem aside_nil : ∀ other ∈ ([] : List StreamSection), Aside other :=
  fun _ member => absurd member List.not_mem_nil

theorem aside_cons {rest : List StreamSection} (first : Aside op)
    (others : ∀ other ∈ rest, Aside other) : ∀ other ∈ op :: rest, Aside other := by
  intro other member
  rcases List.mem_cons.mp member with rfl | member
  · exact first
  · exact others other member

theorem aside_append {first second : List StreamSection} (left : ∀ other ∈ first, Aside other)
    (right : ∀ other ∈ second, Aside other) : ∀ other ∈ first ++ second, Aside other := by
  intro other member
  rcases List.mem_append.mp member with member | member
  · exact left other member
  · exact right other member

theorem aside_single (carries : op.carriesData = false) (silent : op.firesRetired = false)
    (other : op ≠ .onChannelClose ∧ op ≠ .markTerminalSent) : ∀ other ∈ [op], Aside other :=
  aside_cons ⟨carries, silent, other⟩ aside_nil

theorem aside_discarded (n : Nat) : ∀ other ∈ discarded n, Aside other := by
  unfold discarded
  split
  · exact aside_single rfl rfl (by simp)
  · exact aside_nil

theorem aside_settleReserved {settle : UInt64 → StreamSection} (aside : ∀ n, Aside (settle n))
    (n : UInt64) : ∀ other ∈ settleReserved settle n, Aside other := by
  unfold settleReserved
  split
  · exact aside_cons (aside n) aside_nil
  · exact aside_nil

/-- A section that may complete the four conditions, and leaves a `maybe_retire`. -/
theorem Climbs.completes {s' : WebrtcStream} {next : List StreamSection}
    (ran : andThen next s' = some e) (retire : .maybeRetire ∈ next)
    (calls : s'.dc.calls = s.dc.calls) (ready : s'.dc.readyState = s.dc.readyState)
    (sent : s'.localTerminalSent = true ↔ s.localTerminalSent = true ∨ op = .markTerminalSent)
    (ended : s.peerEnded = true → s'.peerEnded = true)
    (ends : s'.peerEnded = true → s.peerEnded = true ∨
      ownedBy .callbacks op = true ∧ ∀ other ∈ next, ownedBy .callbacks other = false)
    (closed : s'.dcClosed = true ↔ s.dcClosed = true ∨ op = .onChannelClose)
    (fired : s'.retiredFired = s.retiredFired) (retired : s'.retired = s.retired)
    (fills : s.inbuf = [] → s'.inbuf = []) (aside : ∀ other ∈ next, Aside other)
    (op_silent : op.firesRetired = false) (op_retires : op ≠ .maybeRetire) : Climbs s op e := by
  cases ran
  have silent : next.countP StreamSection.firesRetired = 0 :=
    List.countP_eq_zero.mpr fun other member => by simp [(aside other member).2.1]
  refine ⟨(ended_congr calls).mpr, fun sent => Or.inl ((ended_congr calls).mp sent),
    fun member => absurd rfl (aside _ member).2.2.2, sent, ended, ends, closed, ?_,
    fun none => Or.inl (fills none), fun other member carries => ?_,
    fun other member => (aside other member).2.2.1, ?_, ?_, fun _ => Or.inr retire⟩
  · show s'.dc.readyState = _ ↔ _
    rw [ready]
  · rw [(aside other member).1] at carries
    cases carries
  · show s'.retiredFired = true ↔ _
    rw [fired]
    exact ⟨Or.inl, fun now => now.elim (fun earlier => earlier) fun now => absurd now.1 op_retires⟩
  · show s'.retired + next.countP _ + _ = _ + _ + s'.retiredFired.toNat
    rw [retired, fired, silent, op_silent]
    rfl

/-- A frame is handed to the transport, and marked if it is terminal. -/
theorem Climbs.sends {dc : RTCDataChannel} {frame : ParsedFrame} {before after : List StreamSection}
    (sent : s.dc.send frame = some dc)
    (ran : andThen (before ++ (if isTerminal frame then [.markTerminalSent] else []) ++ after)
      { s with dc } = some e)
    (aside : ∀ other ∈ before ++ after, Aside other) (op_aside : op.rung = false) :
      Climbs s op e := by
  obtain ⟨-, rfl⟩ := send_eq_some sent
  cases ran
  have op_silent : op.firesRetired = false := by cases op <;> first | rfl | cases op_aside
  have op_marks : op ≠ .markTerminalSent := by rintro rfl; cases op_aside
  have op_closes : op ≠ .onChannelClose := by rintro rfl; cases op_aside
  have op_retires : op ≠ .maybeRetire := by rintro rfl; cases op_aside
  have next : ∀ other ∈ before ++ (if isTerminal frame then [.markTerminalSent] else []) ++ after,
      other = .markTerminalSent ∧ isTerminal frame = true ∨ Aside other := by
    intro other member
    simp only [List.mem_append] at member
    rcases member with (member | member) | member
    · exact Or.inr (aside other (List.mem_append_left _ member))
    · split at member
      · next terminal => exact Or.inl ⟨List.mem_singleton.mp member, terminal⟩
      · cases member
    · exact Or.inr (aside other (List.mem_append_right _ member))
  have quiet : ∀ other ∈ before ++ (if isTerminal frame then [.markTerminalSent] else []) ++ after,
      other.carriesData = false ∧ other.firesRetired = false ∧ other ≠ .onChannelClose := by
    intro other member
    rcases next other member with ⟨rfl, -⟩ | aside
    · exact ⟨rfl, rfl, by simp⟩
    · exact ⟨aside.1, aside.2.1, aside.2.2.1⟩
  have silent : (before ++ (if isTerminal frame then [StreamSection.markTerminalSent] else []) ++
      after).countP StreamSection.firesRetired = 0 :=
    List.countP_eq_zero.mpr fun other member => by simp [(quiet other member).2.1]
  have handed : frames { s with dc := { s.dc with calls := s.dc.calls ++ [.send frame] } } =
      s.frames ++ [frame] := frames_send rfl
  have ended (terminal : isTerminal frame = true) :
      Ended { s with dc := { s.dc with calls := s.dc.calls ++ [.send frame] } } := by
    refine ⟨frame, ?_, terminal⟩
    rw [handed]
    exact List.mem_append_right _ (List.mem_singleton.mpr rfl)
  refine ⟨?_, ?_, fun member => ?_, by simp [op_marks], fun now => now, Or.inl, by simp [op_closes],
    Iff.rfl, Or.inl, fun other member carries => ?_, fun other member => (quiet other member).2.2,
    ⟨Or.inl, fun now => now.elim (fun earlier => earlier) fun now => absurd now.1 op_retires⟩, ?_,
    fun now => Or.inl ⟨now.sent, now.ended, now.closed, now.drained⟩⟩
  · rintro ⟨earlier, member, terminal⟩
    refine ⟨earlier, ?_, terminal⟩
    show earlier ∈ frames _
    rw [handed]
    exact List.mem_append_left _ member
  · rintro ⟨later, member, terminal⟩
    have member : later ∈ frames _ := member
    rw [handed] at member
    rcases List.mem_append.mp member with old | new
    · exact Or.inl ⟨later, old, terminal⟩
    · rw [List.mem_singleton.mp new] at terminal
      refine Or.inr ?_
      show StreamSection.markTerminalSent ∈ _
      rw [if_pos terminal]
      simp
  · rcases next _ member with ⟨-, terminal⟩ | aside
    · exact ended terminal
    · exact absurd rfl aside.2.2.2
  · rw [(quiet other member).1] at carries
    cases carries
  · show s.retired + List.countP _ _ + _ = _ + _ + s.retiredFired.toNat
    rw [silent, op_silent]
    rfl

/-- DATA goes on to the next section of its handler. -/
theorem Climbs.passes {s' : WebrtcStream} {other : StreamSection}
    (ran : andThen [other] s' = some e)
    (calls : s'.dc.calls = s.dc.calls) (ready : s'.dc.readyState = s.dc.readyState)
    (sent : s'.localTerminalSent = s.localTerminalSent) (ended : s'.peerEnded = s.peerEnded)
    (closed : s'.dcClosed = s.dcClosed) (fired : s'.retiredFired = s.retiredFired)
    (retired : s'.retired = s.retired) (inbuf : s'.inbuf = s.inbuf)
    (data : s.peerEnded = false ∨ op.carriesData = true) (carries : other.carriesData = true)
    (op_aside : op.rung = false) : Climbs s op e := by
  have empty : Climbs s op { shared := s' } :=
    .still (show andThen [] s' = some { shared := s' } from rfl) calls ready sent ended closed fired
      retired inbuf aside_nil op_aside
  have silent : other.firesRetired = false := by cases other <;> first | rfl | cases carries
  have closes : other ≠ .onChannelClose := by rintro rfl; cases carries
  cases ran
  refine { empty with
    marks := ?_, marked := ?_, ends := ?_, data := fun _ _ _ => data, closes := ?_, counts := ?_,
    climbs := ?_ }
  · exact fun now => Or.inl ((ended_congr calls).mp now)
  · intro member
    rw [← List.mem_singleton.mp member] at carries
    cases carries
  · intro now
    refine Or.inl ?_
    rw [← ended]
    exact now
  · intro later member
    rw [List.mem_singleton.mp member]
    exact closes
  · have counts := empty.counts
    simpa [silent] using counts
  · exact fun now => Or.inl ((empty.climbs now).resolve_right List.not_mem_nil)

/-- DATA is buffered. -/
theorem Climbs.buffers {payload : Bytes} (ran : andThen []
    { s with inbuf := s.inbuf ++ [payload] }.wakeReader = some e) :
      Climbs s (.pushData payload) e := by
  cases ran
  exact ⟨(ended_congr rfl).mpr, fun now => Or.inl ((ended_congr rfl).mp now),
    fun member => absurd member List.not_mem_nil, by simp [wakeReader],
    fun now => now, Or.inl, by simp [wakeReader], Iff.rfl, fun _ => Or.inr rfl,
    fun _ member => absurd member List.not_mem_nil, fun _ member => absurd member List.not_mem_nil,
    by simp [wakeReader], rfl, fun now => absurd now.drained (by simp [wakeReader])⟩

theorem onFrame_climbs {data : Bytes} (ran : s.onFrame data = some e) :
    Climbs s (.onFrame data) e := by
  unfold onFrame at ran
  split at ran
  · exact .still ran rfl rfl rfl rfl rfl rfl rfl rfl (aside_single rfl rfl (by simp)) rfl
  · split at ran
    · exact .still ran rfl rfl rfl rfl rfl rfl rfl rfl (aside_single rfl rfl (by simp)) rfl
    · next open' =>
      exact .passes ran rfl rfl rfl rfl rfl rfl rfl rfl
        (Or.inl (Bool.not_eq_true _ ▸ open')) rfl rfl
  · split at ran
    · exact .still ran rfl rfl rfl rfl rfl rfl rfl rfl (aside_single rfl rfl (by simp)) rfl
    · refine .completes ran List.mem_cons_self rfl rfl (by simp [wakeReader]) ?_ ?_
        (by simp [wakeReader]) rfl rfl (fun none => none) (aside_single rfl rfl (by simp)) rfl
        (by simp)
      · simp [peerEnded, wakeReader]
      · refine fun _ => Or.inr ⟨rfl, fun other member => ?_⟩
        rw [List.mem_singleton.mp member]
        rfl
  · split at ran
    · exact .still ran rfl rfl rfl rfl rfl rfl rfl rfl (aside_single rfl rfl (by simp)) rfl
    · refine .completes ran (by simp) rfl rfl (by simp [wakeReader]) ?_ ?_
        (by simp [wakeReader]) rfl rfl
        (fun _ => rfl) (aside_append (aside_discarded _) (aside_single rfl rfl (by simp))) rfl
        (by simp)
      · simp [peerEnded, wakeReader]
      · refine fun _ => Or.inr ⟨rfl, fun other member => ?_⟩
        have unowned := (unowned_discarded _).append (unowned_single
          (show StreamSection.maybeRetire.task = none from rfl)) other member
        simp [ownedBy, unowned]
  · split at ran
    · exact .still ran rfl rfl rfl rfl rfl rfl rfl rfl aside_nil rfl
    · dsimp only at ran
      split at ran
      · exact .still ran rfl rfl rfl rfl rfl rfl rfl rfl (aside_cons ⟨rfl, rfl, by simp⟩
          (aside_cons ⟨rfl, rfl, by simp⟩ (aside_single rfl rfl (by simp)))) rfl
      · exact .still ran rfl rfl rfl rfl rfl rfl rfl rfl (aside_single rfl rfl (by simp)) rfl
  · exact .still ran rfl rfl rfl rfl rfl rfl rfl rfl aside_nil rfl

theorem flagged_iff :
    Flagged s ↔ (s.wireComplete && s.inbuf.isEmpty) = true ∧ s.dcClosed = true := by
  unfold wireComplete
  rw [Bool.and_eq_true, Bool.and_eq_true, List.isEmpty_iff]
  exact ⟨fun now => ⟨⟨⟨now.sent, now.ended⟩, now.drained⟩, now.closed⟩,
    fun ⟨⟨⟨sent, ended⟩, drained⟩, closed⟩ => ⟨sent, ended, closed, drained⟩⟩

/-- `maybe_retire` that does not fire. -/
theorem Climbs.holds {started : List (List StreamSection)}
    (ran : some { shared := s, started : Effect WebrtcStream StreamSection } = some e)
    (fired : Flagged s → s.retiredFired = true) : Climbs s .maybeRetire e := by
  cases ran
  exact ⟨fun now => now, Or.inl, fun member => absurd member List.not_mem_nil, by simp,
    fun now => now, Or.inl, by simp, Iff.rfl, Or.inl,
    fun _ member => absurd member List.not_mem_nil, fun _ member => absurd member List.not_mem_nil,
    ⟨Or.inl, fun now => now.elim (fun earlier => earlier) fun now => fired now.2⟩, rfl, Or.inl⟩

theorem maybeRetire_climbs (ran : s.maybeRetire = some e) : Climbs s .maybeRetire e := by
  unfold maybeRetire at ran
  split at ran
  · next ready =>
    split at ran
    · next closed =>
      have flagged : Flagged s := flagged_iff.mpr ⟨ready, closed⟩
      split at ran
      · next fired => exact .holds ran fun _ => fired
      · next unfired =>
        have unfired : s.retiredFired = false := Bool.not_eq_true _ ▸ unfired
        cases ran
        exact ⟨fun now => now, Or.inl, fun member => by simp at member, by simp, fun now => now,
          Or.inl, by simp, Iff.rfl, Or.inl, fun other member => by
            simp only [List.mem_cons, List.not_mem_nil, or_false] at member
            rcases member with rfl | rfl <;> simp [StreamSection.carriesData],
          fun other member => by
            simp only [List.mem_cons, List.not_mem_nil, or_false] at member
            rcases member with rfl | rfl <;> simp,
          ⟨fun _ => Or.inr ⟨rfl, flagged⟩, fun _ => rfl⟩, by
            simp [StreamSection.firesRetired, unfired],
          fun now => Or.inl ⟨now.sent, now.ended, now.closed, now.drained⟩⟩
    · next closed => exact .holds ran fun flagged => absurd flagged.closed closed
  · next ready => exact .holds ran fun flagged => absurd (flagged_iff.mp flagged).1 ready

theorem pollRead_climbs {size : Nat} (ran : s.pollRead size = some e) :
    Climbs s (.pollRead size) e := by
  unfold pollRead at ran
  split at ran
  · next chunk rest full =>
    refine .completes ran (by simp) rfl rfl (by simp [returnRead]) (fun now => now) Or.inl
      (by simp [returnRead]) rfl rfl (fun none => ?_)
      (aside_cons ⟨rfl, rfl, by simp⟩ (aside_single rfl rfl (by simp))) rfl (by simp)
    rw [full] at none
    cases none
  split at ran
  · exact .still ran rfl rfl rfl rfl rfl rfl rfl rfl aside_nil rfl
  split at ran
  · exact .still ran rfl rfl rfl rfl rfl rfl rfl rfl aside_nil rfl
  split at ran
  · exact .still ran rfl rfl rfl rfl rfl rfl rfl rfl aside_nil rfl
  split at ran <;> exact .still ran rfl rfl rfl rfl rfl rfl rfl rfl aside_nil rfl

theorem pollWrite_climbs {buf : Bytes} (ran : s.pollWrite buf = some e) :
    Climbs s (.pollWrite buf) e := by
  unfold pollWrite at ran
  split at ran
  · exact .still ran rfl rfl rfl rfl rfl rfl rfl rfl aside_nil rfl
  split at ran
  · exact .still ran rfl rfl rfl rfl rfl rfl rfl rfl aside_nil rfl
  split at ran
  · exact .still ran rfl rfl rfl rfl rfl rfl rfl rfl aside_nil rfl
  split at ran <;>
    exact .still ran rfl rfl rfl rfl rfl rfl rfl rfl (aside_single rfl rfl (by simp)) rfl

theorem reserveCredit_climbs {buf : Bytes} (ran : s.reserveCredit buf = some e) :
    Climbs s (.reserveCredit buf) e := by
  unfold reserveCredit at ran
  split at ran
  · exact .still ran rfl rfl rfl rfl rfl rfl rfl rfl aside_nil rfl
  · exact .still ran rfl rfl rfl rfl rfl rfl rfl rfl aside_nil rfl
  · exact .still ran rfl rfl rfl rfl rfl rfl rfl rfl (aside_single rfl rfl (by simp)) rfl

/-- What a reservation of a permit leaves. -/
theorem pollPermit_keeps (s : WebrtcStream) : s.pollPermit.dc = s.dc ∧
    s.pollPermit.localTerminalSent = s.localTerminalSent ∧ s.pollPermit.peerEnded = s.peerEnded ∧
    s.pollPermit.dcClosed = s.dcClosed ∧ s.pollPermit.retiredFired = s.retiredFired ∧
    s.pollPermit.retired = s.retired ∧ s.pollPermit.inbuf = s.inbuf := by
  unfold pollPermit
  split
  · split
    · exact ⟨rfl, rfl, rfl, rfl, rfl, rfl, rfl⟩
    split <;> exact ⟨rfl, rfl, rfl, rfl, rfl, rfl, rfl⟩
  · split
    · exact ⟨rfl, rfl, rfl, rfl, rfl, rfl, rfl⟩
    split <;> exact ⟨rfl, rfl, rfl, rfl, rfl, rfl, rfl⟩
  · exact ⟨rfl, rfl, rfl, rfl, rfl, rfl, rfl⟩
  · exact ⟨rfl, rfl, rfl, rfl, rfl, rfl, rfl⟩

/-- A section that only moves the queues, after a reservation of a permit. -/
theorem Climbs.permits {s' : WebrtcStream} {next : List StreamSection}
    (ran : andThen next s' = some e) (dc : s'.dc = s.pollPermit.dc)
    (sent : s'.localTerminalSent = s.pollPermit.localTerminalSent)
    (ended : s'.peerEnded = s.pollPermit.peerEnded) (closed : s'.dcClosed = s.pollPermit.dcClosed)
    (fired : s'.retiredFired = s.pollPermit.retiredFired)
    (retired : s'.retired = s.pollPermit.retired)
    (inbuf : s'.inbuf = s.pollPermit.inbuf) (aside : ∀ other ∈ next, Aside other)
    (op_aside : op.rung = false) : Climbs s op e := by
  obtain ⟨same_dc, same_sent, same_ended, same_closed, same_fired, same_retired, same_inbuf⟩ :=
    pollPermit_keeps s
  exact .still ran (by rw [dc, same_dc]) (by rw [dc, same_dc]) (sent.trans same_sent)
    (ended.trans same_ended) (closed.trans same_closed) (fired.trans same_fired)
    (retired.trans same_retired) (inbuf.trans same_inbuf) aside op_aside

theorem queueData_climbs {buf : Bytes} (ran : s.queueData buf = some e) :
    Climbs s (.queueData buf) e := by
  unfold queueData at ran
  dsimp only at ran
  split at ran
  · exact .permits ran rfl rfl rfl rfl rfl rfl rfl (aside_single rfl rfl (by simp)) rfl
  · split at ran <;> exact .permits ran rfl rfl rfl rfl rfl rfl rfl aside_nil rfl
  · exact .permits ran rfl rfl rfl rfl rfl rfl rfl aside_nil rfl

theorem reserveFin_climbs (ran : s.reserveFin = some e) : Climbs s .reserveFin e := by
  unfold reserveFin at ran
  dsimp only at ran
  split at ran
  · exact .permits ran rfl rfl rfl rfl rfl rfl rfl aside_nil rfl
  · exact .permits ran rfl rfl rfl rfl rfl rfl rfl
      (aside_cons ⟨rfl, rfl, by simp⟩ (aside_single rfl rfl (by simp))) rfl
  · exact .permits ran rfl rfl rfl rfl rfl rfl rfl (aside_single rfl rfl (by simp)) rfl

theorem selectData_climbs (ran : s.selectData = some e) : Climbs s .selectData e := by
  unfold selectData at ran
  split at ran
  · unfold freePermit at ran
    split at ran <;>
      exact .still ran rfl rfl rfl rfl rfl rfl rfl rfl (aside_single rfl rfl (by simp)) rfl
  · split at ran
    · exact .still ran rfl rfl rfl rfl rfl rfl rfl rfl (aside_single rfl rfl (by simp)) rfl
    split at ran
    · exact .still ran rfl rfl rfl rfl rfl rfl rfl rfl (aside_single rfl rfl (by simp)) rfl
    · cases ran

theorem aside_release (n : UInt64) : ∀ other ∈ settleReserved .release n, Aside other :=
  aside_settleReserved (fun _ => ⟨rfl, rfl, by simp⟩) n

theorem writerSend_climbs {frame : ParsedFrame} {reserved : UInt64}
    (ran : s.writerSend frame reserved = some e) : Climbs s (.writerSend frame reserved) e := by
  unfold writerSend at ran
  split at ran
  · next dc sent =>
    exact .sends sent ran (aside_append (aside_settleReserved (fun _ => ⟨rfl, rfl, by simp⟩) _)
      (aside_single rfl rfl (by simp))) rfl
  · exact .still ran rfl rfl rfl rfl rfl rfl rfl rfl
      (aside_append (aside_release _) (aside_single rfl rfl (by simp))) rfl

/-- **What a section does to the retirement.** -/
theorem exec_climbs (ran : s.exec op = some e) : Climbs s op e := by
  cases op with
  | onOpen => exact .still ran rfl rfl rfl rfl rfl rfl rfl rfl aside_nil rfl
  | onFrame data => exact onFrame_climbs ran
  | onDataReceived payload =>
    simp only [exec] at ran
    split at ran
    · exact .still ran rfl rfl rfl rfl rfl rfl rfl rfl (aside_single rfl rfl (by simp)) rfl
    · exact .passes ran rfl rfl rfl rfl rfl rfl rfl rfl (Or.inr rfl) rfl rfl
  | pushData payload =>
    simp only [exec] at ran
    split at ran
    · exact .still ran rfl rfl rfl rfl rfl rfl rfl rfl (aside_single rfl rfl (by simp)) rfl
    · exact .buffers ran
  | onChannelClose =>
    exact .completes ran (by simp) rfl rfl (by simp [wakeReader]) (fun now => now) Or.inl
      (by simp [wakeReader]) rfl rfl (fun none => none)
      (aside_cons ⟨rfl, rfl, by simp⟩ (aside_cons ⟨rfl, rfl, by simp⟩
        (aside_cons ⟨rfl, rfl, by simp⟩ (aside_single rfl rfl (by simp))))) rfl (by simp)
  | policeClose wireComplete =>
    simp only [exec] at ran
    split at ran
    · exact .still ran rfl rfl rfl rfl rfl rfl rfl rfl (aside_single rfl rfl (by simp)) rfl
    · exact .still ran rfl rfl rfl rfl rfl rfl rfl rfl aside_nil rfl
  | markClosed => exact .still ran rfl rfl rfl rfl rfl rfl rfl rfl aside_nil rfl
  | fatal code text => exact .still ran rfl rfl rfl rfl rfl rfl rfl rfl aside_nil rfl
  | consumed n =>
    refine .still ran rfl rfl rfl rfl rfl rfl rfl rfl (fun other member => ?_) rfl
    obtain ⟨v, -, rfl⟩ := Option.map_eq_some_iff.mp (Option.mem_toList.mp member)
    exact ⟨rfl, rfl, by simp⟩
  | lifeSend frame =>
    simp only [exec] at ran
    split at ran <;> exact .still ran rfl rfl rfl rfl rfl rfl rfl rfl aside_nil rfl
  | failSend => exact .still ran rfl rfl rfl rfl rfl rfl rfl rfl aside_nil rfl
  | maybeRetire => exact maybeRetire_climbs ran
  | dropStream => exact .still ran rfl rfl rfl rfl rfl rfl rfl rfl aside_nil rfl
  | retired =>
    cases ran
    exact ⟨fun now => now, Or.inl,
      fun member => absurd member List.not_mem_nil, by simp [fireRetired], fun now => now, Or.inl,
      by simp [fireRetired], Iff.rfl, Or.inl, fun _ member => absurd member List.not_mem_nil,
      fun _ member => absurd member List.not_mem_nil, by simp [fireRetired], rfl,
      fun now => Or.inl ⟨now.sent, now.ended, now.closed, now.drained⟩⟩
  | dcClose =>
    cases ran
    have same : frames { s with dc := s.dc.close } = s.frames := by
      unfold frames RTCDataChannel.close
      simp
    have kept : Ended { s with dc := s.dc.close } ↔ Ended s := by
      unfold Ended
      rw [same]
    refine ⟨kept.mpr, fun now => Or.inl (kept.mp now),
      fun member => absurd member List.not_mem_nil, by simp, fun now => now, Or.inl, by simp, ?_,
      Or.inl, fun _ member => absurd member List.not_mem_nil,
      fun _ member => absurd member List.not_mem_nil, by simp, rfl,
      fun now => Or.inl ⟨now.sent, now.ended, now.closed, now.drained⟩⟩
    unfold RTCDataChannel.close
    by_cases closed : s.dc.readyState = .closed <;> simp [closed]
  | writerOpen =>
    simp only [exec] at ran
    split at ran
    · exact .still ran rfl rfl rfl rfl rfl rfl rfl rfl (aside_single rfl rfl (by simp)) rfl
    split at ran
    · exact .still ran rfl rfl rfl rfl rfl rfl rfl rfl (aside_single rfl rfl (by simp)) rfl
    · cases ran
  | selectLife =>
    simp only [exec] at ran
    split at ran <;>
      exact .still ran rfl rfl rfl rfl rfl rfl rfl rfl (aside_single rfl rfl (by simp)) rfl
  | selectData => exact selectData_climbs ran
  | writerLife frame =>
    simp only [exec] at ran
    split at ran
    · next dc sent =>
      have ran : andThen ([] ++ (if isTerminal frame.frame then [.markTerminalSent] else []) ++
        [.selectLife]) { s with dc } = some e := ran
      exact .sends sent ran (aside_single rfl rfl (by simp)) rfl
    · exact .still ran rfl rfl rfl rfl rfl rfl rfl rfl (aside_single rfl rfl (by simp)) rfl
  | writerData frame reserved =>
    simp only [exec] at ran
    split at ran
    · exact .still ran rfl rfl rfl rfl rfl rfl rfl rfl
        (aside_append (aside_release _) (aside_single rfl rfl (by simp))) rfl
    · exact .still ran rfl rfl rfl rfl rfl rfl rfl rfl (aside_single rfl rfl (by simp)) rfl
  | writerRoom frame reserved =>
    simp only [exec] at ran
    split at ran
    · exact .still ran rfl rfl rfl rfl rfl rfl rfl rfl
        (aside_append (aside_release _) (aside_single rfl rfl (by simp))) rfl
    · exact .still ran rfl rfl rfl rfl rfl rfl rfl rfl (aside_single rfl rfl (by simp)) rfl
  | writerBuffered frame reserved =>
    simp only [exec] at ran
    split at ran <;>
      exact .still ran rfl rfl rfl rfl rfl rfl rfl rfl (aside_single rfl rfl (by simp)) rfl
  | writerSend frame reserved => exact writerSend_climbs ran
  | markTerminalSent =>
    exact .completes ran List.mem_cons_self rfl rfl (by simp) (fun now => now) Or.inl
      (by simp) rfl rfl
      (fun none => none) (aside_single rfl rfl (by simp)) rfl (by simp)
  | release n => exact .still ran rfl rfl rfl rfl rfl rfl rfl rfl aside_nil rfl
  | commit n => exact .still ran rfl rfl rfl rfl rfl rfl rfl rfl aside_nil rfl
  | writerEnd => exact .still ran rfl rfl rfl rfl rfl rfl rfl rfl aside_nil rfl
  | pollRead size => exact pollRead_climbs ran
  | pollWrite buf => exact pollWrite_climbs ran
  | reserveCredit buf => exact reserveCredit_climbs ran
  | queueData buf => exact queueData_climbs ran
  | refuseData => exact .still ran rfl rfl rfl rfl rfl rfl rfl rfl aside_nil rfl
  | pollShutdown =>
    simp only [exec] at ran
    split at ran
    · exact .still ran rfl rfl rfl rfl rfl rfl rfl rfl aside_nil rfl
    · exact .still ran rfl rfl rfl rfl rfl rfl rfl rfl (aside_single rfl rfl (by simp)) rfl
  | reserveFin => exact reserveFin_climbs ran
  | undoFin => exact .still ran rfl rfl rfl rfl rfl rfl rfl rfl aside_nil rfl
  | closeWrite =>
    simp only [exec] at ran
    split at ran
    · exact .still ran rfl rfl rfl rfl rfl rfl rfl rfl aside_nil rfl
    · exact .still ran rfl rfl rfl rfl rfl rfl rfl rfl
        (aside_cons ⟨rfl, rfl, by simp⟩ (aside_single rfl rfl (by simp))) rfl
  | sendFin =>
    simp only [exec] at ran
    split at ran
    · exact .still ran rfl rfl rfl rfl rfl rfl rfl rfl aside_nil rfl
    split at ran
    · exact .still ran rfl rfl rfl rfl rfl rfl rfl rfl (aside_single rfl rfl (by simp)) rfl
    · cases ran
  | resetWrite code =>
    simp only [exec] at ran
    split at ran
    · exact .still ran rfl rfl rfl rfl rfl rfl rfl rfl aside_nil rfl
    · exact .still ran rfl rfl rfl rfl rfl rfl rfl rfl (aside_cons ⟨rfl, rfl, by simp⟩
        (aside_cons ⟨rfl, rfl, by simp⟩ (aside_single rfl rfl (by simp)))) rfl
  | cancelRead code =>
    simp only [exec] at ran
    split at ran
    · exact .still ran rfl rfl rfl rfl rfl rfl rfl rfl aside_nil rfl
    · refine .completes ran (by simp) rfl rfl (by simp [wakeReader]) (fun now => now) Or.inl
        (by simp [wakeReader]) rfl rfl (fun _ => rfl) (aside_append (aside_append (aside_append
          (aside_single rfl rfl (by simp)) (aside_discarded _)) ?_)
          (aside_single rfl rfl (by simp)))
        rfl (by simp)
      split
      · exact aside_nil
      · exact aside_single rfl rfl (by simp)
  | markCancelled => exact .still ran rfl rfl rfl rfl rfl rfl rfl rfl aside_nil rfl
  | dropGrant =>
    simp only [exec] at ran
    split at ran <;>
      exact .still ran rfl rfl rfl rfl rfl rfl rfl rfl (aside_single rfl rfl (by simp)) rfl
  | dropSenders => exact .still ran rfl rfl rfl rfl rfl rfl rfl rfl aside_nil rfl

/-! ### The ladder -/

/-- A complete stream: both terminal frames are on the wire, the channel is closed, and nothing is
left to read. -/
structure Complete (s : WebrtcStream) : Prop where
  handed : Ended s
  ended : s.peerEnded = true
  closed : s.dc.readyState = .closed
  drained : s.inbuf = []

instance (s : WebrtcStream) : Decidable (Ended s) := by
  unfold Ended
  infer_instance

instance (s : WebrtcStream) : Decidable (Complete s) :=
  decidable_of_iff (Ended s ∧ s.peerEnded = true ∧ s.dc.readyState = .closed ∧ s.inbuf = [])
    ⟨fun ⟨handed, ended, closed, drained⟩ => ⟨handed, ended, closed, drained⟩,
      fun ⟨handed, ended, closed, drained⟩ => ⟨handed, ended, closed, drained⟩⟩

/-- The invariant of the ladder. -/
structure LadderInv (t : Tasks) : Prop where
  rules : Ruled t
  marks : Ended t.shared ↔ t.shared.localTerminalSent = true ∨ .markTerminalSent ∈ t.pending
  closed : t.shared.dc.readyState = .closed ↔ t.shared.dcClosed = true ∨ .onChannelClose ∈ t.pending
  quiet : t.shared.peerEnded = true → ∀ op ∈ t.pending, op.carriesData = false
  fired : t.shared.retiredFired = true → Flagged t.shared
  counts : t.shared.retired + t.pending.countP StreamSection.firesRetired =
    t.shared.retiredFired.toNat
  climbs : Flagged t.shared → t.shared.retiredFired = true ∨ .maybeRetire ∈ t.pending

theorem carriesData_owned (carries : op.carriesData = true) : ownedBy .callbacks op = true := by
  cases op <;> first | rfl | cases carries

theorem LadderInv.run {t t' : Tasks} (inv : LadderInv t) {thread : Nat}
    (stepped : t.advance exec thread = some t') : LadderInv t' := by
  have rules := inv.rules.run stepped
  obtain ⟨op, rest, e, top, ran, rfl⟩ := Threads.advance_eq_some.mp stepped
  obtain ⟨pushed, stays, comes⟩ := Threads.pending_members (e := e) top
  have count := (Threads.pending_advance (e := e) top).countP_eq StreamSection.firesRetired
  have climbs := exec_climbs ran
  obtain ⟨follows, -⟩ := exec_follows ran
  have pending := Threads.mem_pending top
  have closing : ∀ other ∈ e.started.flatten, other = .dcClose := fun other => mem_started ran
  -- no DATA is on the way once the peer's terminal frame was received
  have quiet : e.shared.peerEnded = true → ∀ other ∈
      (⟨e.shared, t.pool.set thread (e.next ++ rest) ++ e.started⟩ : Tasks).pending,
      other.carriesData = false := by
    intro now other member
    by_contra carries
    have carries : other.carriesData = true := Bool.not_eq_false _ ▸ carries
    rcases climbs.ends now with earlier | ⟨owned, none⟩
    · rcases comes other member with new | new | old
      · rcases climbs.data other new carries with open' | carrier
        · rw [earlier] at open'
          cases open'
        · rw [inv.quiet earlier op pending] at carrier
          cases carrier
      · rw [closing other new] at carries
        cases carries
      · rw [inv.quiet earlier other old] at carries
        cases carries
    · have at' := (rules.owned .callbacks).control_eq member (carriesData_owned carries)
      rw [(inv.rules.owned .callbacks).control_advance top (follows.countP .callbacks)
        (fun other member => by rw [closing other member]; rfl), if_pos owned,
        List.find?_eq_none.mpr fun other member => by simp [none other member]] at at'
      cases at'
  have keeps : Flagged t.shared → Flagged e.shared := by
    intro flagged
    refine ⟨climbs.sent.mpr (Or.inl flagged.sent), climbs.ended flagged.ended,
      climbs.closed.mpr (Or.inl flagged.closed), ?_⟩
    rcases climbs.fills flagged.drained with drained | carries
    · exact drained
    · rw [inv.quiet flagged.ended op pending] at carries
      cases carries
  refine ⟨rules, ⟨fun now => ?_, fun now => ?_⟩, ⟨fun now => ?_, fun now => ?_⟩, quiet,
    fun now => ?_, ?_, fun now => ?_⟩
  · -- the terminal frame is marked
    rcases climbs.marks now with earlier | new
    · rcases inv.marks.mp earlier with sent | waits
      · exact Or.inl (climbs.sent.mpr (Or.inl sent))
      · rcases stays _ waits with rfl | later
        · exact Or.inl (climbs.sent.mpr (Or.inr rfl))
        · exact Or.inr later
    · exact Or.inr (pushed _ new)
  · rcases now with sent | waits
    · rcases climbs.sent.mp sent with earlier | rfl
      · exact climbs.hands (inv.marks.mpr (Or.inl earlier))
      · exact climbs.hands (inv.marks.mpr (Or.inr pending))
    · rcases comes _ waits with new | new | old
      · exact climbs.marked new
      · cases closing _ new
      · exact climbs.hands (inv.marks.mpr (Or.inr old))
  · -- the close of the channel is noticed
    rcases inv.closed.mp (climbs.ready.mp now) with noticed | waits
    · exact Or.inl (climbs.closed.mpr (Or.inl noticed))
    · rcases stays _ waits with rfl | later
      · exact Or.inl (climbs.closed.mpr (Or.inr rfl))
      · exact Or.inr later
  · refine climbs.ready.mpr ?_
    rcases now with noticed | waits
    · rcases climbs.closed.mp noticed with earlier | rfl
      · exact inv.closed.mpr (Or.inl earlier)
      · exact inv.closed.mpr (Or.inr pending)
    · rcases comes _ waits with new | new | old
      · exact absurd rfl (climbs.closes _ new)
      · cases closing _ new
      · exact inv.closed.mpr (Or.inr old)
  · -- what fired stays complete
    rcases climbs.fired.mp now with earlier | ⟨-, flagged⟩
    · exact keeps (inv.fired earlier)
    · exact keeps flagged
  · have silent : e.started.flatten.countP StreamSection.firesRetired = 0 :=
      List.countP_eq_zero.mpr
        fun other member => by simp [closing other member, StreamSection.firesRetired]
    rw [List.countP_cons, List.countP_append, List.countP_append, silent] at count
    have before := inv.counts
    have counts := climbs.counts
    dsimp only
    omega
  · -- a complete stream has retired, or will
    rcases climbs.climbs now with earlier | new
    · rcases inv.climbs earlier with fired | waits
      · exact Or.inl (climbs.fired.mpr (Or.inl fired))
      · rcases stays _ waits with rfl | later
        · exact Or.inl (climbs.fired.mpr (Or.inr ⟨rfl, earlier⟩))
        · exact Or.inr later
    · exact Or.inr (pushed _ new)

/-- A step of the application, the transport or the connection: sections are added, or the ones of a
future that is dropped are taken away. -/
theorem LadderInv.ofSame {t t' : Tasks} (inv : LadderInv t) (rules : Ruled t')
    (calls : t'.shared.dc.calls = t.shared.dc.calls)
    (sent : t'.shared.localTerminalSent = t.shared.localTerminalSent)
    (ended : t'.shared.peerEnded = t.shared.peerEnded)
    (noticed : t'.shared.dcClosed = t.shared.dcClosed)
    (fired : t'.shared.retiredFired = t.shared.retiredFired)
    (retired : t'.shared.retired = t.shared.retired) (inbuf : t'.shared.inbuf = t.shared.inbuf)
    (closed : t'.shared.dc.readyState = .closed ↔
      t.shared.dc.readyState = .closed ∨ .onChannelClose ∈ t'.pending ∧ .onChannelClose ∉ t.pending)
    (stays : ∀ op ∈ t.pending, op.rung = true → op ∈ t'.pending)
    (comes : ∀ op ∈ t'.pending, op ∈ t.pending ∨
      op.carriesData = false ∧ op ≠ .markTerminalSent ∧ op.firesRetired = false)
    (counts : t'.pending.countP StreamSection.firesRetired =
      t.pending.countP StreamSection.firesRetired) : LadderInv t' := by
  have flagged : Flagged t'.shared ↔ Flagged t.shared :=
    ⟨fun now => ⟨sent ▸ now.sent, ended ▸ now.ended, noticed ▸ now.closed, inbuf ▸ now.drained⟩,
      fun now => ⟨sent ▸ now.sent, ended ▸ now.ended, noticed ▸ now.closed, inbuf ▸ now.drained⟩⟩
  refine ⟨rules, ?_, ?_, fun now op member => ?_, fun now => ?_, ?_, fun now => ?_⟩
  · rw [ended_congr calls, sent, inv.marks]
    constructor
    · exact fun now => now.imp_right fun waits => stays _ waits rfl
    · refine fun now => now.imp_right fun waits => ?_
      rcases comes _ waits with old | ⟨-, other, -⟩
      · exact old
      · exact absurd rfl other
  · rw [closed, noticed, inv.closed]
    constructor
    · rintro ((now | waits) | ⟨waits, -⟩)
      · exact Or.inl now
      · exact Or.inr (stays _ waits rfl)
      · exact Or.inr waits
    · rintro (now | waits)
      · exact Or.inl (Or.inl now)
      · by_cases old : StreamSection.onChannelClose ∈ t.pending
        · exact Or.inl (Or.inr old)
        · exact Or.inr ⟨waits, old⟩
  · rw [ended] at now
    rcases comes op member with old | ⟨aside, -⟩
    · exact inv.quiet now op old
    · exact aside
  · rw [fired] at now
    exact flagged.mpr (inv.fired now)
  · rw [retired, counts, fired]
    exact inv.counts
  · rw [fired]
    exact (inv.climbs (flagged.mp now)).imp_right fun waits => stays _ waits rfl

/-- Off the ladder, nothing fires. -/
theorem countP_firesRetired {sections : List StreamSection}
    (off : ∀ op ∈ sections, op.rung = false) :
    sections.countP StreamSection.firesRetired = 0 := by
  refine List.countP_eq_zero.mpr fun op member fires => ?_
  have off := off op member
  cases op with
  | retired => cases off
  | _ => cases fires

theorem LadderInv.touch {t : Tasks} (inv : LadderInv t) {s : WebrtcStream}
    (dc : s.dc.calls = t.shared.dc.calls)
    (ready : s.dc.readyState = .closed ↔ t.shared.dc.readyState = .closed)
    (sent : s.localTerminalSent = t.shared.localTerminalSent)
    (ended : s.peerEnded = t.shared.peerEnded) (noticed : s.dcClosed = t.shared.dcClosed)
    (fired : s.retiredFired = t.shared.retiredFired) (retired : s.retired = t.shared.retired)
    (inbuf : s.inbuf = t.shared.inbuf) : LadderInv (touch t s) :=
  inv.ofSame (inv.rules.touch s) dc sent ended noticed fired retired inbuf
    ⟨fun now => Or.inl (ready.mp now), fun now => ready.mpr (now.elim (fun now => now)
      fun now => absurd now.1 now.2)⟩
    (fun _ member _ => member) (fun _ member => Or.inl member) rfl

/-- Sections of the application or the transport are added. -/
theorem LadderInv.add {t t' : Tasks} {stack : List StreamSection} (inv : LadderInv t)
    (rules : Ruled t') (shared : t'.shared = t.shared)
    (pending : t'.pending.Perm (stack ++ t.pending))
    (aside : ∀ op ∈ stack, op.carriesData = false ∧ op.rung = false) : LadderInv t' := by
  have others : ∀ op ∈ stack, op ≠ .markTerminalSent ∧ op ≠ .onChannelClose ∧
      op.firesRetired = false := by
    intro op member
    have off := (aside op member).2
    refine ⟨?_, ?_, ?_⟩
    · rintro rfl
      cases off
    · rintro rfl
      cases off
    · cases op <;> first | rfl | cases off
  have silent := countP_firesRetired fun op member => (aside op member).2
  refine inv.ofSame rules (by rw [shared]) (by rw [shared]) (by rw [shared]) (by rw [shared])
    (by rw [shared]) (by rw [shared]) (by rw [shared]) ?_
    (fun op member _ => pending.symm.subset (List.mem_append_right _ member)) ?_ ?_
  · rw [shared]
    refine ⟨Or.inl, fun now => now.elim (fun now => now) fun ⟨waits, fresh⟩ => ?_⟩
    rcases List.mem_append.mp (pending.subset waits) with new | old
    · exact absurd rfl (others _ new).2.1
    · exact absurd old fresh
  · intro op member
    rcases List.mem_append.mp (pending.subset member) with new | old
    · exact Or.inr ⟨(aside op new).1, (others op new).1, (others op new).2.2⟩
    · exact Or.inl old
  · rw [pending.countP_eq, List.countP_append, silent, Nat.zero_add]

theorem Method.sections_aside (method : Method) :
    ∀ op ∈ method.sections, op.carriesData = false ∧ op.rung = false := by
  cases method <;> simp [Method.sections, StreamSection.carriesData, StreamSection.rung]

/-- **One step keeps the ladder.** -/
theorem LadderInv.step {t t' : Tasks} {label : Label} (inv : LadderInv t)
    (stepped : WebrtcStream.step t label = some t') : LadderInv t' := by
  have rules := inv.rules.step stepped
  cases label with
  | run thread => exact inv.run stepped
  | call method =>
    simp only [WebrtcStream.step] at stepped
    split at stepped
    · cases stepped
    · obtain ⟨pending, shared⟩ := Threads.pending_resume stepped
      exact inv.add rules shared pending method.sections_aside
  | dropFuture =>
    simp only [WebrtcStream.step] at stepped
    split at stepped
    · next rest top =>
      cases stepped
      have below : ∀ op ∈ rest, op.isCancelRead = true :=
        inv.rules.shaped _ (List.mem_of_getElem? top)
      have pending := Threads.pending_clear top
      have off : ∀ op ∈ StreamSection.sendFin :: rest, op.rung = false := by
        intro op member
        rcases List.mem_cons.mp member with rfl | inside
        · rfl
        · obtain ⟨code, rfl⟩ := StreamSection.eq_cancelRead (below op inside)
          rfl
      have silent := countP_firesRetired off
      refine inv.ofSame rules rfl rfl rfl rfl rfl rfl rfl ⟨Or.inl, ?_⟩ (fun op member rung => ?_)
        (fun op member => Or.inl (pending.subset (List.mem_append_right _ member))) ?_
      · rintro (now | ⟨waits, fresh⟩)
        · exact now
        · exact absurd (pending.subset (List.mem_append_right _ waits)) fresh
      · rcases List.mem_append.mp (pending.symm.subset member) with gone | kept
        · rw [off op gone] at rung
          cases rung
        · exact kept
      · have count := pending.countP_eq StreamSection.firesRetired
        rw [List.countP_append, silent, Nat.zero_add] at count
        exact count
    · cases stepped
  | channelOpen =>
    simp only [WebrtcStream.step] at stepped
    split at stepped <;> cases stepped
    next connecting =>
    have touched : LadderInv
        (WebrtcStream.touch t { t.shared with dc := { t.shared.dc with readyState := .opened } }) :=
      inv.touch rfl (by simp [connecting]) rfl rfl rfl rfl rfl rfl
    refine touched.add rules rfl (?_ : List.Perm _ ([.onOpen] ++ _)) ?_
    · rw [Threads.pending_start]
      exact List.perm_append_comm
    · simp [StreamSection.carriesData, StreamSection.rung]
  | message data =>
    simp only [WebrtcStream.step] at stepped
    split at stepped
    · obtain ⟨pending, shared⟩ := Threads.pending_resume stepped
      exact inv.add rules shared pending (by simp [StreamSection.carriesData, StreamSection.rung])
    · cases stepped
  | channelClosed =>
    simp only [WebrtcStream.step] at stepped
    split at stepped
    · cases stepped
    · next open' =>
      obtain ⟨pending, shared⟩ := Threads.pending_resume stepped
      refine inv.ofSame rules (by rw [shared]; rfl) (by rw [shared]; rfl) (by rw [shared]; rfl)
        (by rw [shared]; rfl) (by rw [shared]; rfl) (by rw [shared]; rfl) (by rw [shared]; rfl) ?_
        (fun op member _ => pending.symm.subset (List.mem_append_right _ member)) ?_ ?_
      · rw [shared]
        refine ⟨fun _ => Or.inr ⟨pending.symm.subset (List.mem_append_left _ List.mem_cons_self),
          ?_⟩, fun _ => rfl⟩
        exact fun waits => open' (inv.closed.mpr (Or.inr waits))
      · intro op member
        rcases List.mem_append.mp (pending.subset member) with new | old
        · rw [List.mem_singleton.mp new]
          exact Or.inr ⟨rfl, by simp, rfl⟩
        · exact Or.inl old
      · rw [pending.countP_eq, List.countP_append]
        show 0 + t.pending.countP _ = _
        rw [Nat.zero_add]
  | buffered amount =>
    cases stepped
    exact inv.touch rfl Iff.rfl rfl rfl rfl rfl rfl rfl
  | credit flow =>
    cases stepped
    exact inv.touch rfl Iff.rfl rfl rfl rfl rfl rfl rfl
  | teardown =>
    cases stepped
    exact inv.touch rfl Iff.rfl rfl rfl rfl rfl rfl rfl

theorem ladderInv_start (flow : ConnFlow) (peerInitiated isOpen : Bool) :
    LadderInv (start flow peerInitiated isOpen) := by
  have pending : (start flow peerInitiated isOpen).pending = [.writerOpen] := rfl
  refine ⟨ruled_start flow peerInitiated isOpen, ⟨?_, ?_⟩, ⟨?_, ?_⟩, ?_, ?_, rfl, ?_⟩
  · rintro ⟨_, member, _⟩
    cases member
  · rw [pending]
    rintro (sent | waits)
    · cases sent
    · simp at waits
  · cases isOpen <;> intro closed <;> cases closed
  · rw [pending]
    rintro (noticed | waits)
    · cases noticed
    · simp at waits
  · rw [pending]
    simp [StreamSection.carriesData]
  · exact fun fired => by cases fired
  · exact fun flagged => by cases flagged.sent

/-! ### At rest -/

/-- No handler is in the middle of its work: a task is idle, the writer is at one of its own
sections, or the application waits for room for its FIN. -/
def Settled (t : Tasks) : Prop :=
  ∀ stack ∈ t.pool, ∀ op ∈ stack.head?, ownedBy .writer op = true ∨ op = .sendFin

instance (t : Tasks) : Decidable (Settled t) := by
  unfold Settled
  infer_instance

/-- At rest only these sections are pending. -/
theorem Settled.only {t : Tasks} (settled : Settled t) (rules : Ruled t) :
    ∀ op ∈ t.pending, ownedBy .writer op = true ∨ op = .sendFin ∨ op.isCancelRead = true := by
  intro op member
  obtain ⟨stack, inside, member⟩ := List.mem_flatten.mp member
  cases stack with
  | nil => cases member
  | cons top rest =>
    have at' := settled _ inside top rfl
    have owned : top.task.isSome = true := by
      rcases at' with writes | rfl
      · rw [of_decide_eq_true writes]
        rfl
      · rfl
    have below := rules.shaped _ inside
    rw [Shaped, if_pos owned] at below
    rcases List.mem_cons.mp member with rfl | later
    · exact at'.imp_right Or.inl
    · exact Or.inr (Or.inr (below op later))

theorem Settled.still {t : Tasks} (settled : Settled t) (rules : Ruled t) :
    ∀ op ∈ t.pending, op.rung = false := by
  intro op member
  rcases settled.only rules op member with writes | rfl | cancels
  · cases op <;> first | rfl | cases writes
  · rfl
  · obtain ⟨code, rfl⟩ := StreamSection.eq_cancelRead cancels
    rfl

namespace LadderInv

variable {t : Tasks}

/-- What fired had met the four conditions. -/
theorem complete_of_fired (inv : LadderInv t) (fired : t.shared.retiredFired = true) :
    Complete t.shared :=
  have flagged := inv.fired fired
  ⟨inv.marks.mpr (Or.inl flagged.sent), flagged.ended, inv.closed.mpr (Or.inl flagged.closed),
    flagged.drained⟩

theorem retired_le (inv : LadderInv t) : t.shared.retired ≤ 1 := by
  have counts := inv.counts
  have le : t.shared.retiredFired.toNat ≤ 1 := Bool.toNat_le _
  omega

theorem complete_of_retired (inv : LadderInv t) (retired : 0 < t.shared.retired) :
    Complete t.shared := by
  refine inv.complete_of_fired ?_
  by_contra silent
  have counts := inv.counts
  rw [Bool.eq_false_of_not_eq_true silent, Bool.toNat_false] at counts
  omega

/-- A stream whose hook is about to be called is complete. -/
theorem complete_of_firing (inv : LadderInv t) (firing : .retired ∈ t.pending) :
    Complete t.shared := by
  have some' : 0 < t.pending.countP StreamSection.firesRetired :=
    List.countP_pos_iff.mpr ⟨.retired, firing, rfl⟩
  refine inv.complete_of_fired ?_
  by_contra silent
  have counts := inv.counts
  rw [Bool.eq_false_of_not_eq_true silent, Bool.toNat_false] at counts
  omega

/-- **A complete stream at rest has retired.** -/
theorem retired_of_settled (inv : LadderInv t) (settled : Settled t)
    (complete : Complete t.shared) :
    t.shared.retired = 1 := by
  have still := settled.still inv.rules
  have gone : ∀ {op : StreamSection}, op.rung = true → op ∉ t.pending := by
    intro op rung member
    rw [still op member] at rung
    cases rung
  have flagged : Flagged t.shared := by
    refine ⟨?_, complete.ended, ?_, complete.drained⟩
    · exact (inv.marks.mp complete.handed).resolve_right (gone rfl)
    · exact (inv.closed.mp complete.closed).resolve_right (gone rfl)
  have fired := (inv.climbs flagged).resolve_right (gone rfl)
  have silent := countP_firesRetired still
  have counts := inv.counts
  rwa [silent, fired, Nat.add_zero, Bool.toNat_true] at counts

end LadderInv

end WebrtcStream

end Kps.Rust
