/-
**A close of the channel that a Rust stream reports as mid-stream.**

`on_channel_close` reads `local_terminal_sent`, which the writer task sets in a section of its own,
after `dc.send` of the terminal frame returned. Between the two the frame is on the wire and the
flag is not set.

* `exec_accuses` — only `on_channel_close` reports a close, by the flags it read;
* `midStream_just` — so the report is just in every run where no flag is late;
* `midStream_unjust` — and it is not in one where the peer closes in between.
-/

import Kps.Rust.Retirement

namespace Kps.Rust

open Kps.Lib

/-- What `on_channel_close` reports. -/
def midStream : ErrorCode × String := (.protocolError, "data channel closed mid-stream")

/-- The sections on the way to the report, and the one that sets the flag it reads. -/
def StreamSection.accuses : StreamSection → Bool
  | .markTerminalSent => true
  | .policeClose _ => true
  | .fatal code text => decide ((code, text) = midStream)
  | _ => false

theorem parseFrame_ne_midStream {data : Bytes} {text : String}
    (refused : parseFrame data = .error text) : text ≠ midStream.2 := by
  have first (l r : String) (different : l.toList.head? ≠ some 'd') (nonempty : l.toList ≠ []) :
      l ++ r ≠ midStream.2 := by
    intro same
    have heads : (l ++ r).toList.head? = some 'd' := by
      rw [same]
      rfl
    rw [String.toList_append, List.head?_append_of_ne_nil _ nonempty] at heads
    exact different heads
  unfold parseFrame at refused
  split at refused
  · cases refused
    decide
  · split at refused
    · cases refused
      rw [String.append_assoc, String.append_assoc, String.append_assoc]
      exact first _ _ (by decide) (by decide)
    split at refused
    · split at refused <;> cases refused
      decide
    split at refused
    · split at refused <;> cases refused
      decide
    split at refused
    · split at refused
      · cases refused
        decide
      · dsimp only at refused
        split at refused <;> cases refused
    split at refused
    · split at refused
      · cases refused
        decide
      · dsimp only at refused
        split at refused <;> cases refused
        decide
    · cases refused
      exact first _ _ (by decide) (by decide)

namespace WebrtcStream

/-- What a section does to the reports. -/
structure Accuses (s : WebrtcStream) (op : StreamSection) (e : Effect WebrtcStream StreamSection) :
    Prop where
  teardown : e.shared.isTeardown = s.isTeardown
  logged : midStream ∈ e.shared.fatals → midStream ∈ s.fatals ∨ op = .fatal midStream.1 midStream.2
  next : ∀ other ∈ e.next, other.accuses = true →
    other = .markTerminalSent ∧ s.dc.readyState = .opened ∨
    op = .onChannelClose ∧ other = .policeClose s.wireComplete ∨
    op = .policeClose false ∧ s.isTeardown = false ∧ other = .fatal midStream.1 midStream.2

variable {s : WebrtcStream} {op : StreamSection} {e : Effect WebrtcStream StreamSection}

/-- The sections that have no part in a report. -/
def Mild (sections : List StreamSection) : Prop := ∀ other ∈ sections, other.accuses = false

theorem mild_nil : Mild [] := fun _ member => absurd member List.not_mem_nil

theorem Mild.cons {rest : List StreamSection} (first : op.accuses = false) (others : Mild rest) :
    Mild (op :: rest) := by
  intro other member
  rcases List.mem_cons.mp member with rfl | member
  · exact first
  · exact others other member

theorem Mild.append {first second : List StreamSection} (left : Mild first) (right : Mild second) :
    Mild (first ++ second) := by
  intro other member
  rcases List.mem_append.mp member with member | member
  · exact left other member
  · exact right other member

theorem mild_single (first : op.accuses = false) : Mild [op] := .cons first mild_nil

theorem mild_discarded (n : Nat) : Mild (discarded n) := by
  unfold discarded
  split
  · exact mild_single rfl
  · exact mild_nil

theorem mild_settleReserved {settle : UInt64 → StreamSection}
    (mild : ∀ n, (settle n).accuses = false) (n : UInt64) : Mild (settleReserved settle n) := by
  unfold settleReserved
  split
  · exact mild_single (mild n)
  · exact mild_nil

/-- A fatal error with a text of its own. -/
theorem mild_fatal {code : ErrorCode} {text : String} (other : text ≠ midStream.2) :
    Mild [.fatal code text] :=
  mild_single (decide_eq_false fun same => other (congrArg Prod.snd same))

/-- A section that has no part in a report. -/
theorem Accuses.still {s' : WebrtcStream} {next : List StreamSection}
    (ran : andThen next s' = some e)
    (teardown : s'.isTeardown = s.isTeardown) (fatals : s'.fatals = s.fatals) (mild : Mild next) :
    Accuses s op e := by
  cases ran
  refine ⟨teardown, fun logged => Or.inl (fatals ▸ logged), fun other member accuses => ?_⟩
  rw [mild other member] at accuses
  cases accuses

/-- A frame is handed to an open channel, and marked if it is terminal. -/
theorem Accuses.sends {dc : RTCDataChannel} {frame : ParsedFrame}
    {before after : List StreamSection} (sent : s.dc.send frame = some dc)
    (ran : andThen (before ++ (if isTerminal frame then [.markTerminalSent] else []) ++ after)
      { s with dc } = some e)
    (mild : Mild (before ++ after)) : Accuses s op e := by
  obtain ⟨opened, rfl⟩ := send_eq_some sent
  cases ran
  refine ⟨rfl, Or.inl, fun other member accuses => ?_⟩
  have quiet (inside : other ∈ before ++ after) : False := by
    rw [mild other inside] at accuses
    cases accuses
  simp only [List.mem_append] at member
  rcases member with (member | member) | member
  · exact (quiet (List.mem_append_left _ member)).elim
  · split at member
    · exact Or.inl ⟨List.mem_singleton.mp member, opened⟩
    · cases member
  · exact (quiet (List.mem_append_right _ member)).elim

theorem onFrame_accuses {data : Bytes} (ran : s.onFrame data = some e) :
    Accuses s (.onFrame data) e := by
  unfold onFrame at ran
  split at ran
  · next text refused => exact .still ran rfl rfl (mild_fatal (parseFrame_ne_midStream refused))
  · split at ran
    · exact .still ran rfl rfl (mild_fatal (by decide))
    · exact .still ran rfl rfl (mild_single rfl)
  · split at ran
    · exact .still ran rfl rfl (mild_fatal (by decide))
    · exact .still ran rfl rfl (mild_single rfl)
  · split at ran
    · exact .still ran rfl rfl (mild_fatal (by decide))
    · exact .still ran rfl rfl ((mild_discarded _).append (mild_single rfl))
  · split at ran
    · exact .still ran rfl rfl mild_nil
    · dsimp only at ran
      split at ran
      · exact .still ran rfl rfl (.cons rfl (.cons rfl (mild_single rfl)))
      · exact .still ran rfl rfl (mild_single rfl)
  · exact .still ran rfl rfl mild_nil

theorem onDataReceived_ne_midStream {f : ConnFlow} {id n : UInt64} {text : String}
    (refused : (f.onDataReceived id n).value = .error text) : text ≠ midStream.2 := by
  unfold ConnFlow.onDataReceived at refused
  split at refused
  · cases refused
  · dsimp only [bind, pure] at refused
    split at refused
    · cases refused
      decide
    · split at refused <;> cases refused
      decide

theorem maybeRetire_accuses (ran : s.maybeRetire = some e) : Accuses s .maybeRetire e := by
  unfold maybeRetire at ran
  split at ran
  · split at ran
    · split at ran
      · exact .still ran rfl rfl mild_nil
      · exact .still ran rfl rfl (.cons rfl (mild_single rfl))
    · cases ran
      exact ⟨rfl, Or.inl, fun _ member => absurd member List.not_mem_nil⟩
  · exact .still ran rfl rfl mild_nil

theorem pollRead_accuses {size : Nat} (ran : s.pollRead size = some e) :
    Accuses s (.pollRead size) e := by
  unfold pollRead at ran
  split at ran
  · exact .still ran rfl rfl (.cons rfl (mild_single rfl))
  split at ran
  · exact .still ran rfl rfl mild_nil
  split at ran
  · exact .still ran rfl rfl mild_nil
  split at ran
  · exact .still ran rfl rfl mild_nil
  split at ran <;> exact .still ran rfl rfl mild_nil

theorem pollWrite_accuses {buf : Bytes} (ran : s.pollWrite buf = some e) :
    Accuses s (.pollWrite buf) e := by
  unfold pollWrite at ran
  split at ran
  · exact .still ran rfl rfl mild_nil
  split at ran
  · exact .still ran rfl rfl mild_nil
  split at ran
  · exact .still ran rfl rfl mild_nil
  split at ran <;> exact .still ran rfl rfl (mild_single rfl)

theorem reserveCredit_accuses {buf : Bytes} (ran : s.reserveCredit buf = some e) :
    Accuses s (.reserveCredit buf) e := by
  unfold reserveCredit at ran
  split at ran
  · exact .still ran rfl rfl mild_nil
  · exact .still ran rfl rfl mild_nil
  · exact .still ran rfl rfl (mild_single rfl)

theorem pollPermit_reports (s : WebrtcStream) :
    s.pollPermit.isTeardown = s.isTeardown ∧ s.pollPermit.fatals = s.fatals := by
  unfold pollPermit
  split
  · split
    · exact ⟨rfl, rfl⟩
    split <;> exact ⟨rfl, rfl⟩
  · split
    · exact ⟨rfl, rfl⟩
    split <;> exact ⟨rfl, rfl⟩
  · exact ⟨rfl, rfl⟩
  · exact ⟨rfl, rfl⟩

theorem queueData_accuses {buf : Bytes} (ran : s.queueData buf = some e) :
    Accuses s (.queueData buf) e := by
  obtain ⟨teardown, fatals⟩ := pollPermit_reports s
  unfold queueData at ran
  dsimp only at ran
  split at ran
  · exact .still ran teardown fatals (mild_single rfl)
  · split at ran <;> exact .still ran teardown fatals mild_nil
  · exact .still ran teardown fatals mild_nil

theorem reserveFin_accuses (ran : s.reserveFin = some e) : Accuses s .reserveFin e := by
  obtain ⟨teardown, fatals⟩ := pollPermit_reports s
  unfold reserveFin at ran
  dsimp only at ran
  split at ran
  · exact .still ran teardown fatals mild_nil
  · exact .still ran teardown fatals (.cons rfl (mild_single rfl))
  · exact .still ran teardown fatals (mild_single rfl)

theorem selectData_accuses (ran : s.selectData = some e) : Accuses s .selectData e := by
  unfold selectData at ran
  split at ran
  · unfold freePermit at ran
    split at ran <;> exact .still ran rfl rfl (mild_single rfl)
  split at ran
  · exact .still ran rfl rfl (mild_single rfl)
  split at ran
  · exact .still ran rfl rfl (mild_single rfl)
  · cases ran

theorem writerSend_accuses {frame : ParsedFrame} {reserved : UInt64}
    (ran : s.writerSend frame reserved = some e) : Accuses s (.writerSend frame reserved) e := by
  unfold writerSend at ran
  split at ran
  · next dc sent =>
    exact .sends sent ran ((mild_settleReserved (fun _ => rfl) _).append (mild_single rfl))
  · exact .still ran rfl rfl ((mild_settleReserved (fun _ => rfl) _).append (mild_single rfl))

/-- **Only `on_channel_close` reports a close**, by the flags it read. -/
theorem exec_accuses (ran : s.exec op = some e) : Accuses s op e := by
  cases op with
  | onOpen => exact .still ran rfl rfl mild_nil
  | onFrame data => exact onFrame_accuses ran
  | onDataReceived payload =>
    simp only [exec] at ran
    split at ran
    · next text refused =>
      exact .still ran rfl rfl (mild_fatal (onDataReceived_ne_midStream refused))
    · exact .still ran rfl rfl (mild_single rfl)
  | pushData payload =>
    simp only [exec] at ran
    split at ran
    · exact .still ran rfl rfl (mild_single rfl)
    · exact .still ran rfl rfl mild_nil
  | onChannelClose =>
    cases ran
    refine ⟨rfl, Or.inl, fun other member accuses => Or.inr (Or.inl ⟨rfl, ?_⟩)⟩
    rcases List.mem_cons.mp member with same | member
    · exact same
    · have mild : Mild [.failSend, .markClosed, .maybeRetire] :=
        .cons rfl (.cons rfl (mild_single rfl))
      rw [mild other member] at accuses
      cases accuses
  | policeClose wireComplete =>
    simp only [exec] at ran
    split at ran
    · next unjust =>
      simp only [Bool.and_eq_true, Bool.not_eq_true'] at unjust
      obtain ⟨rfl, going⟩ := unjust
      cases ran
      exact ⟨rfl, Or.inl, fun other member _ =>
        Or.inr (Or.inr ⟨rfl, going, List.mem_singleton.mp member⟩)⟩
    · exact .still ran rfl rfl mild_nil
  | markClosed => exact .still ran rfl rfl mild_nil
  | fatal code text =>
    cases ran
    refine ⟨rfl, fun logged => ?_, fun _ member => absurd member List.not_mem_nil⟩
    rcases List.mem_append.mp logged with old | new
    · exact Or.inl old
    · rw [List.mem_singleton.mp new]
      exact Or.inr rfl
  | consumed n =>
    refine .still ran rfl rfl fun other member => ?_
    obtain ⟨v, -, rfl⟩ := Option.map_eq_some_iff.mp (Option.mem_toList.mp member)
    rfl
  | lifeSend frame =>
    simp only [exec] at ran
    split at ran <;> exact .still ran rfl rfl mild_nil
  | failSend => exact .still ran rfl rfl mild_nil
  | maybeRetire => exact maybeRetire_accuses ran
  | dropStream => exact .still ran rfl rfl mild_nil
  | retired => exact .still ran rfl rfl mild_nil
  | dcClose => exact .still ran rfl rfl mild_nil
  | writerOpen =>
    simp only [exec] at ran
    split at ran
    · exact .still ran rfl rfl (mild_single rfl)
    split at ran
    · exact .still ran rfl rfl (mild_single rfl)
    · cases ran
  | selectLife =>
    simp only [exec] at ran
    split at ran <;> exact .still ran rfl rfl (mild_single rfl)
  | selectData => exact selectData_accuses ran
  | writerLife frame =>
    simp only [exec] at ran
    split at ran
    · next dc sent =>
      have ran : andThen ([] ++ (if isTerminal frame.frame then [.markTerminalSent] else []) ++
        [.selectLife]) { s with dc } = some e := ran
      exact .sends sent ran (mild_single rfl)
    · exact .still ran rfl rfl (mild_single rfl)
  | writerData frame reserved =>
    simp only [exec] at ran
    split at ran
    · exact .still ran rfl rfl ((mild_settleReserved (fun _ => rfl) _).append (mild_single rfl))
    · exact .still ran rfl rfl (mild_single rfl)
  | writerRoom frame reserved =>
    simp only [exec] at ran
    split at ran
    · exact .still ran rfl rfl ((mild_settleReserved (fun _ => rfl) _).append (mild_single rfl))
    · exact .still ran rfl rfl (mild_single rfl)
  | writerBuffered frame reserved =>
    simp only [exec] at ran
    split at ran <;> exact .still ran rfl rfl (mild_single rfl)
  | writerSend frame reserved => exact writerSend_accuses ran
  | markTerminalSent => exact .still ran rfl rfl (mild_single rfl)
  | release n => exact .still ran rfl rfl mild_nil
  | commit n => exact .still ran rfl rfl mild_nil
  | writerEnd => exact .still ran rfl rfl mild_nil
  | pollRead size => exact pollRead_accuses ran
  | pollWrite buf => exact pollWrite_accuses ran
  | reserveCredit buf => exact reserveCredit_accuses ran
  | queueData buf => exact queueData_accuses ran
  | refuseData => exact .still ran rfl rfl mild_nil
  | pollShutdown =>
    simp only [exec] at ran
    split at ran
    · exact .still ran rfl rfl mild_nil
    · exact .still ran rfl rfl (mild_single rfl)
  | reserveFin => exact reserveFin_accuses ran
  | undoFin => exact .still ran rfl rfl mild_nil
  | closeWrite =>
    simp only [exec] at ran
    split at ran
    · exact .still ran rfl rfl mild_nil
    · exact .still ran rfl rfl (.cons rfl (mild_single rfl))
  | sendFin =>
    simp only [exec] at ran
    split at ran
    · exact .still ran rfl rfl mild_nil
    split at ran
    · exact .still ran rfl rfl (mild_single rfl)
    · cases ran
  | resetWrite code =>
    simp only [exec] at ran
    split at ran
    · exact .still ran rfl rfl mild_nil
    · exact .still ran rfl rfl (.cons rfl (.cons rfl (mild_single rfl)))
  | cancelRead code =>
    simp only [exec] at ran
    split at ran
    · exact .still ran rfl rfl mild_nil
    · refine .still ran rfl rfl (Mild.append (Mild.append (Mild.append (mild_single rfl)
        (mild_discarded _)) ?_) (mild_single rfl))
      split
      · exact mild_nil
      · exact mild_single rfl
  | markCancelled => exact .still ran rfl rfl mild_nil
  | dropGrant =>
    simp only [exec] at ran
    split at ran <;> exact .still ran rfl rfl (mild_single rfl)
  | dropSenders => exact .still ran rfl rfl mild_nil

/-! ### Every run in which no flag is late -/

/-- Not wire-complete: our terminal frame was not handed to the transport, or the peer's was not
received. -/
def Incomplete (s : WebrtcStream) : Prop := ¬(Ended s ∧ s.peerEnded = true)

/-- The thread is about to run `on_channel_close`. -/
def closing (t : Tasks) (thread : Nat) : Bool :=
  match t.pool[thread]? with
  | some (.onChannelClose :: _) => true
  | _ => false

/-- When `on_channel_close` runs after the peer's terminal frame was received and no teardown has
begun, no task is between `dc.send` of our terminal frame and `mark_terminal_sent`. -/
def Timely (t : Tasks) : Label → Prop
  | .run thread => closing t thread = true →
      t.shared.isTeardown = true ∨ t.shared.peerEnded = false ∨ .markTerminalSent ∉ t.pending
  | _ => True

instance (t : Tasks) : (label : Label) → Decidable (Timely t label)
  | .run thread => inferInstanceAs (Decidable (closing t thread = true →
      t.shared.isTeardown = true ∨ t.shared.peerEnded = false ∨ .markTerminalSent ∉ t.pending))
  | .call _ => .isTrue trivial
  | .dropFuture => .isTrue trivial
  | .channelOpen => .isTrue trivial
  | .message _ => .isTrue trivial
  | .channelClosed => .isTrue trivial
  | .buffered _ => .isTrue trivial
  | .credit _ => .isTrue trivial
  | .teardown => .isTrue trivial

/-- The invariant of the report. -/
structure JustInv (t : Tasks) : Prop where
  ladder : LadderInv t
  reading : t.shared.dc.readyState = .closed →
    ∀ op ∈ t.pending, ownedBy .callbacks op = true → op = .onChannelClose
  due : .policeClose false ∈ t.pending →
    t.shared.dcClosed = true ∧ (t.shared.isTeardown = true ∨ Incomplete t.shared)
  reported : .fatal midStream.1 midStream.2 ∈ t.pending ∨ midStream ∈ t.shared.fatals →
    t.shared.dcClosed = true ∧ Incomplete t.shared

theorem Incomplete.congr {s' : WebrtcStream} (incomplete : Incomplete s)
    (calls : s'.dc.calls = s.dc.calls) (ended : s'.peerEnded = s.peerEnded) : Incomplete s' := by
  rintro ⟨sent, received⟩
  exact incomplete ⟨(ended_congr calls).mp sent, ended ▸ received⟩

theorem JustInv.run {t t' : Tasks} (inv : JustInv t) {thread : Nat}
    (timely : Timely t (.run thread)) (stepped : t.advance exec thread = some t') : JustInv t' := by
  have ladder := inv.ladder.run stepped
  obtain ⟨op, rest, e, top, ran, rfl⟩ := Threads.advance_eq_some.mp stepped
  obtain ⟨pushed, stays, comes⟩ := Threads.pending_members (e := e) top
  have pending := Threads.mem_pending top
  have climbs := exec_climbs ran
  have accuses := exec_accuses ran
  obtain ⟨follows, -⟩ := exec_follows ran
  have closing' : ∀ other ∈ e.started.flatten, other = .dcClose := fun other => mem_started ran
  -- the section of the read loop that runs once the channel is closed
  have noticed (shut : t.shared.dc.readyState = .closed) (owned : ownedBy .callbacks op = true) :
      e.shared.peerEnded = t.shared.peerEnded ∧ ∀ other ∈ e.next,
        ownedBy .callbacks other = false := by
    have same := inv.reading shut op pending owned
    subst same
    cases ran
    refine ⟨rfl, fun other member => ?_⟩
    simp only [List.mem_cons, List.not_mem_nil, or_false] at member
    rcases member with rfl | rfl | rfl | rfl <;> rfl
  -- nothing is sent or received after the close
  have frozen (closed : t.shared.dcClosed = true) (incomplete : Incomplete t.shared) :
      Incomplete e.shared := by
    have shut := inv.ladder.closed.mpr (Or.inl closed)
    rintro ⟨sent, received⟩
    refine incomplete ⟨?_, ?_⟩
    · rcases climbs.marks sent with earlier | marking
      · exact earlier
      · rcases accuses.next _ marking rfl with ⟨-, opened⟩ | ⟨-, other⟩ | ⟨-, -, other⟩
        · rw [shut] at opened
          cases opened
        · cases other
        · cases other
    · rcases climbs.ends received with earlier | ⟨owned, -⟩
      · exact earlier
      · exact (noticed shut owned).1 ▸ received
  have later (closed : t.shared.dcClosed = true) : e.shared.dcClosed = true :=
    climbs.closed.mpr (Or.inl closed)
  refine ⟨ladder, fun shut other member owned => ?_, fun waits => ?_, fun reports => ?_⟩
  · have shut := climbs.ready.mp shut
    rcases comes other member with new | new | old
    · have count := follows.countP .callbacks
      have present : 0 < e.next.countP (ownedBy .callbacks) :=
        List.countP_pos_iff.mpr ⟨other, new, owned⟩
      by_cases at' : ownedBy .callbacks op = true
      · rw [(noticed shut at').2 other new] at owned
        cases owned
      · rw [if_neg at'] at count
        omega
    · rw [closing' other new] at owned
      cases owned
    · exact inv.reading shut other old owned
  · rcases comes _ waits with new | new | old
    · rcases accuses.next _ new rfl with ⟨other, -⟩ | ⟨rfl, verdict⟩ | ⟨-, -, other⟩
      · cases other
      · refine ⟨climbs.closed.mpr (Or.inr rfl), ?_⟩
        rw [accuses.teardown]
        have here : closing t thread = true := by
          unfold closing
          rw [top]
        rcases timely here with begun | unread | unmarked
        · exact Or.inl begun
        · refine Or.inr fun now => ?_
          cases ran
          rw [show t.shared.peerEnded = true from now.2] at unread
          cases unread
        · refine Or.inr fun now => ?_
          have verdict : t.shared.wireComplete = false :=
            (StreamSection.policeClose.inj verdict).symm
          cases ran
          have sent : t.shared.localTerminalSent = true :=
            (inv.ladder.marks.mp ((ended_congr rfl).mp now.1)).resolve_right unmarked
          have received : t.shared.peerEnded = true := now.2
          rw [wireComplete, sent, received] at verdict
          cases verdict
      · cases other
    · cases closing' _ new
    · obtain ⟨closed, just⟩ := inv.due old
      refine ⟨later closed, ?_⟩
      rw [accuses.teardown]
      exact just.imp_right (frozen closed)
  · have carried : .fatal midStream.1 midStream.2 ∈ t.pending ∨ midStream ∈ t.shared.fatals →
        e.shared.dcClosed = true ∧ Incomplete e.shared := by
      intro reports
      obtain ⟨closed, just⟩ := inv.reported reports
      exact ⟨later closed, frozen closed just⟩
    rcases reports with waits | logged
    · rcases comes _ waits with new | new | old
      · rcases accuses.next _ new rfl with ⟨other, -⟩ | ⟨-, other⟩ | ⟨rfl, going, -⟩
        · cases other
        · cases other
        · obtain ⟨closed, just⟩ := inv.due pending
          rw [going] at just
          exact ⟨later closed, frozen closed (just.resolve_left (by simp))⟩
      · cases closing' _ new
      · exact carried (Or.inl old)
    · rcases accuses.logged logged with earlier | rfl
      · exact carried (Or.inr earlier)
      · exact carried (Or.inl pending)

/-- A step of the application, the transport or the connection. -/
theorem JustInv.ofSame {t t' : Tasks} (inv : JustInv t) (ladder : LadderInv t')
    (calls : t'.shared.dc.calls = t.shared.dc.calls)
    (ended : t'.shared.peerEnded = t.shared.peerEnded)
    (noticed : t'.shared.dcClosed = t.shared.dcClosed) (fatals : t'.shared.fatals = t.shared.fatals)
    (teardown : t.shared.isTeardown = true → t'.shared.isTeardown = true)
    (comes : ∀ op ∈ t'.pending, op ∈ t.pending ∨ op.accuses = false)
    (reading : t'.shared.dc.readyState = .closed →
      ∀ op ∈ t'.pending, ownedBy .callbacks op = true → op = .onChannelClose) : JustInv t' := by
  refine ⟨ladder, reading, fun waits => ?_, fun reports => ?_⟩
  · rcases comes _ waits with old | mild
    · obtain ⟨closed, just⟩ := inv.due old
      rw [noticed]
      exact ⟨closed, just.imp teardown fun incomplete => incomplete.congr calls ended⟩
    · cases mild
  · rw [fatals] at reports
    have old : .fatal midStream.1 midStream.2 ∈ t.pending ∨ midStream ∈ t.shared.fatals := by
      rcases reports with waits | logged
      · rcases comes _ waits with old | mild
        · exact Or.inl old
        · cases mild
      · exact Or.inr logged
    obtain ⟨closed, just⟩ := inv.reported old
    rw [noticed]
    exact ⟨closed, just.congr calls ended⟩

theorem JustInv.resume {t t' : Tasks} {stack : List StreamSection} {thread : Nat} (inv : JustInv t)
    (ladder : LadderInv t') (resumed : t.resume thread stack = some t') (mild : Mild stack)
    (reading : t.shared.dc.readyState = .closed → ∀ op ∈ stack, ownedBy .callbacks op = false) :
    JustInv t' := by
  obtain ⟨pending, shared⟩ := Threads.pending_resume resumed
  refine inv.ofSame ladder (by rw [shared]) (by rw [shared]) (by rw [shared]) (by rw [shared])
    (by rw [shared]; exact fun begun => begun) (fun op member => ?_)
    (fun shut op member owned => ?_)
  · rcases List.mem_append.mp (pending.subset member) with new | old
    · exact Or.inr (mild op new)
    · exact Or.inl old
  · rw [shared] at shut
    rcases List.mem_append.mp (pending.subset member) with new | old
    · rw [reading shut op new] at owned
      cases owned
    · exact inv.reading shut op old owned

theorem Method.sections_mild (method : Method) : Mild method.sections := by
  cases method <;> simp [Method.sections, Mild, StreamSection.accuses]

/-- **One step in time keeps the reports just.** -/
theorem JustInv.step {t t' : Tasks} {label : Label} (inv : JustInv t) (timely : Timely t label)
    (stepped : WebrtcStream.step t label = some t') : JustInv t' := by
  have ladder := inv.ladder.step stepped
  cases label with
  | run thread => exact inv.run timely stepped
  | call method =>
    simp only [WebrtcStream.step] at stepped
    split at stepped
    · cases stepped
    · exact inv.resume ladder stepped method.sections_mild fun _ op member =>
        (method.sections_once .callbacks).2 (by simp) op member
  | dropFuture =>
    simp only [WebrtcStream.step] at stepped
    split at stepped
    · next rest top =>
      cases stepped
      have fewer {op : StreamSection} (member : op ∈
          (⟨t.shared, t.pool.set 2 []⟩ : Tasks).pending) : op ∈ t.pending :=
        (Threads.pending_clear top).subset (List.mem_append_right _ member)
      exact inv.ofSame ladder rfl rfl rfl rfl (fun begun => begun)
        (fun op member => Or.inl (fewer member))
        fun shut op member owned => inv.reading shut op (fewer member) owned
    · cases stepped
  | channelOpen =>
    simp only [WebrtcStream.step] at stepped
    split at stepped <;> cases stepped
    refine inv.ofSame ladder rfl rfl rfl rfl (fun begun => begun) (fun op member => ?_)
      (fun shut => by cases shut)
    rw [Threads.pending_start] at member
    rcases List.mem_append.mp member with old | new
    · exact Or.inl old
    · rw [List.mem_singleton.mp new]
      exact Or.inr rfl
  | message data =>
    simp only [WebrtcStream.step] at stepped
    split at stepped
    · next receives =>
      refine inv.resume ladder stepped (mild_single rfl) fun shut => ?_
      rcases receives with opened | closing
      · rw [shut] at opened
        cases opened
      · rw [shut] at closing
        cases closing
    · cases stepped
  | channelClosed =>
    simp only [WebrtcStream.step] at stepped
    split at stepped
    · cases stepped
    · obtain ⟨pending, shared⟩ := Threads.pending_resume stepped
      refine inv.ofSame ladder (by rw [shared]; rfl) (by rw [shared]; rfl) (by rw [shared]; rfl)
        (by rw [shared]; rfl) (by rw [shared]; exact fun begun => begun) (fun op member => ?_)
        (fun _ op member owned => ?_)
      · rcases List.mem_append.mp (pending.subset member) with new | old
        · rw [List.mem_singleton.mp new]
          exact Or.inr rfl
        · exact Or.inl old
      · rcases List.mem_append.mp (pending.subset member) with new | old
        · exact List.mem_singleton.mp new
        · -- the read loop was idle
          unfold Threads.resume at stepped
          split at stepped
          · next idle =>
            have none := (inv.ladder.rules.owned .callbacks).idle idle op old
            rw [none] at owned
            cases owned
          · cases stepped
  | buffered amount =>
    cases stepped
    exact inv.ofSame ladder rfl rfl rfl rfl (fun begun => begun) (fun _ member => Or.inl member)
      inv.reading
  | credit flow =>
    cases stepped
    exact inv.ofSame ladder rfl rfl rfl rfl (fun begun => begun) (fun _ member => Or.inl member)
      inv.reading
  | teardown =>
    cases stepped
    exact inv.ofSame ladder rfl rfl rfl rfl (fun _ => rfl) (fun _ member => Or.inl member)
      inv.reading

theorem justInv_start (flow : ConnFlow) (peerInitiated isOpen : Bool) :
    JustInv (start flow peerInitiated isOpen) := by
  have pending : (start flow peerInitiated isOpen).pending = [.writerOpen] := rfl
  refine ⟨ladderInv_start flow peerInitiated isOpen, fun shut => ?_, fun waits => ?_,
    fun reports => ?_⟩
  · cases isOpen <;> cases shut
  · rw [pending] at waits
    simp at waits
  · rw [pending] at reports
    rcases reports with waits | logged
    · simp at waits
    · cases logged

/-- **A close is reported as mid-stream only when it is**, in every run in which no flag is late. -/
theorem midStream_just {flow : ConnFlow} {peerInitiated isOpen : Bool} {labels : List Label}
    {t : Tasks} (timely : Meets WebrtcStream.step Timely (start flow peerInitiated isOpen) labels)
    (ran : Lib.run WebrtcStream.step (start flow peerInitiated isOpen) labels = some t) :
    midStream ∈ t.shared.fatals → ¬((∃ frame ∈ t.shared.frames, isTerminal frame = true) ∧
      t.shared.peerEnded = true) := by
  have inv : JustInv t := run_invariant_of_meets
    (fun _ _ _ timely inv stepped => JustInv.step inv timely stepped) timely
    (justInv_start flow peerInitiated isOpen) ran
  exact fun reported => (inv.reported (Or.inr reported)).2

/-- The channel closes before either side sent a terminal frame. -/
def closesEarly : List Label := [.channelClosed, .run 0, .run 0, .run 0]

theorem midStream_just_closesEarly : ∃ t,
    Lib.run WebrtcStream.step (start granted true true) closesEarly = some t ∧
      midStream ∈ t.shared.fatals ∧ ¬((∃ frame ∈ t.shared.frames, isTerminal frame = true) ∧
        t.shared.peerEnded = true) := by
  have reports : (Lib.run WebrtcStream.step (start granted true true) closesEarly).any
      (fun t => decide (midStream ∈ t.shared.fatals)) = true := by decide +kernel
  obtain ⟨t, ran, reported⟩ := (Option.any_eq_true _ _).mp reports
  have reported := of_decide_eq_true reported
  exact ⟨t, ran, reported, midStream_just (by decide +kernel) ran reported⟩

/-- The peer sends FIN, the application shuts down, `dc.send` of the FIN returns, and the peer
closes the channel before `mark_terminal_sent`. -/
def closesAtOnce : List Label :=
  [.message [1], .run 0, .run 0, .call .pollShutdown] ++ List.replicate 4 (.run 2) ++
    List.replicate 7 (.run 1) ++ [.channelClosed, .run 0, .run 0, .run 0]

/-- **A complete stream is reported as mid-stream** when the peer closes between `dc.send` and
`mark_terminal_sent`. -/
theorem midStream_unjust : ∃ t,
    Lib.run WebrtcStream.step (start granted true true) closesAtOnce = some t ∧
      ¬(midStream ∈ t.shared.fatals → ¬((∃ frame ∈ t.shared.frames, isTerminal frame = true) ∧
        t.shared.peerEnded = true)) := by
  have reports : (Lib.run WebrtcStream.step (start granted true true) closesAtOnce).any
      (fun t => decide (midStream ∈ t.shared.fatals ∧
        (∃ frame ∈ t.shared.frames, isTerminal frame = true) ∧
        t.shared.peerEnded = true)) = true := by
    decide +kernel
  obtain ⟨t, ran, reported⟩ := (Option.any_eq_true _ _).mp reports
  obtain ⟨reported, complete⟩ := of_decide_eq_true reported
  exact ⟨t, ran, fun just => just reported complete⟩

end WebrtcStream

end Kps.Rust
