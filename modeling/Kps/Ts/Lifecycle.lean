/-
**The lifecycle of a stream.**

* `Accounts` — what credit updates leave of a stream;
* `Takes` — what receiving a frame does to it: the halves that a RESET or a STOP_SENDING of the peer
  ends, and the frames that answer it;
* `Writes` — what a write leaves of it.
-/

import Kps.Ts.Changes

namespace Kps.Ts

open Kps.Lib

/-! ### Frames -/

namespace Frame

/-- The reason that a RESET of the peer surfaces. -/
def resetReason : Frame → Option KpsReason
  | .reset code => some { code := some ((numToCode code).getD .reset) }
  | _ => none

/-- The reason that a STOP_SENDING of the peer surfaces. -/
def stopReason : Frame → Option KpsReason
  | .stopSending code => some { code := some ((numToCode code).getD .cancelled) }
  | _ => none

def isCredit : Frame → Bool
  | .maxStreamData _ => true
  | _ => false

def isData : Frame → Bool
  | .data _ => true
  | _ => false

/-- Neither an end of a half nor the wish for one. -/
def isMild (frame : Frame) : Bool := frame.isData || frame.isCredit

end Frame

/-! ### What methods leave alone -/

namespace StreamCtx

/-- Credit is counted, and perhaps advertised. -/
structure Accounts (x x' : StreamCtx) : Prop where
  stream : x'.s = { x.s with ch := x'.s.ch, sf := x'.s.sf }
  opened : x'.s.ch.opened = x.s.ch.opened
  closed : x'.s.ch.closed = x.s.ch.closed
  sent : ∃ credit, x'.s.ch.sent = x.s.ch.sent ++ credit ∧ ∀ frame ∈ credit, frame.isCredit = true
  sendFailure : x'.s.sf.sendFailure = x.s.sf.sendFailure
  failure : x'.flow.failure = x.flow.failure
  amount : x.s.ch.bufferedAmount ≤ x'.s.ch.bufferedAmount

/-- A guarded send appends the frame, or does nothing. -/
theorem sent_sendIfOpen (frame : Frame) (ch : Channel Frame) :
    ∃ more, (ch.sendIfOpen frame).sent = ch.sent ++ more ∧ ∀ other ∈ more, other = frame := by
  rw [Channel.sent_sendIfOpen]
  split
  · exact ⟨[frame], rfl, fun _ member => List.mem_singleton.mp member⟩
  · exact ⟨[], (List.append_nil _).symm, fun _ none => by cases none⟩

theorem onConsumed_accounts (n : Nat) (x : StreamCtx) : Accounts x (x.onConsumed n) := by
  have stream : Accounts x (x.streamConsumed n) := by
    have failing : (x.s.sf.streamConsumed x.flow.localLimits n).1.sendFailure =
        x.s.sf.sendFailure := by
      obtain ⟨_, _, same⟩ := StreamFlow.streamConsumed_fields x.flow.localLimits n x.s.sf
      rw [same]
    unfold streamConsumed
    rcases result : x.s.sf.streamConsumed x.flow.localLimits n with ⟨sf, _ | v⟩ <;>
      rw [result] at failing
    · exact ⟨rfl, rfl, rfl, ⟨[], by simp⟩, failing, rfl, le_refl _⟩
    · obtain ⟨more, sent, kinds⟩ := sent_sendIfOpen (.maxStreamData (asUint64 v)) x.s.ch
      refine ⟨rfl, Channel.opened_sendIfOpen, Channel.closed_sendIfOpen, ⟨more, sent, ?_⟩,
        failing, rfl, Channel.amount_sendIfOpen⟩
      intro frame member
      rw [kinds frame member]
      rfl
  have conn (y : StreamCtx) : (y.connConsumed n).s = y.s ∧
      (y.connConsumed n).flow.failure = y.flow.failure := by
    have failing : (y.flow.connDataConsumed n).1.failure = y.flow.failure := by
      obtain ⟨_, _, same⟩ := ConnFlow.connDataConsumed_fields n y.flow
      rw [same]
    unfold connConsumed
    rcases result : y.flow.connDataConsumed n with ⟨flow, _ | v⟩ <;> rw [result] at failing <;>
      exact ⟨rfl, failing⟩
  obtain ⟨same, failure⟩ := conn (x.streamConsumed n)
  unfold onConsumed
  constructor
  · rw [same]
    exact stream.stream
  · rw [same]
    exact stream.opened
  · rw [same]
    exact stream.closed
  · rw [same]
    exact stream.sent
  · rw [same]
    exact stream.sendFailure
  · rw [failure]
    exact stream.failure
  · rw [same]
    exact stream.amount

/-- Dropping the buffer counts as consumption. -/
theorem discardInbuf_accounts (x : StreamCtx) :
    Accounts { x with s := { x.s with inbuf := [] } } x.discardInbuf := by
  unfold discardInbuf
  split
  · next empty =>
    have same : { x.s with inbuf := [] } = x.s := by rw [← empty]
    rw [same]
    exact ⟨rfl, rfl, rfl, ⟨[], by simp⟩, rfl, rfl, le_refl _⟩
  · exact onConsumed_accounts _ _

/-- Accepting a frame: what it changes, besides the buffer, the credit and the wake of the
reader. -/
structure Takes (frame : Frame) (x x' : StreamCtx) : Prop where
  stream : x'.s = { x.s with
    ch := x'.s.ch
    sf := x'.s.sf
    accepted := x.s.accepted ++ [frame]
    inbuf := x'.s.inbuf
    peerFin := x.s.peerFin || frame.isFin
    peerReset := x.s.peerReset.or frame.resetReason
    peerStop := x.s.peerStop.or frame.stopReason
    localTerminal := x.s.localTerminal.or
      (if x.s.peerStop.isSome then none else frame.stopReason.map fun _ => .reset)
    readWake := x'.s.readWake }
  opened : x'.s.ch.opened = x.s.ch.opened
  closed : x'.s.ch.closed = x.s.ch.closed
  sent : ∃ more, x'.s.ch.sent = x.s.ch.sent ++ more ∧
    ∀ other ∈ more, other.isCredit = true ∨ other.isReset = true ∧ frame.stopReason.isSome = true
  amount : x.s.ch.bufferedAmount ≤ x'.s.ch.bufferedAmount

theorem handleFrame_takes {frame : Frame} {x x' : StreamCtx} {retires : Bool}
    (handled : x.handleFrame frame = .done x' retires) : Takes frame x x' := by
  unfold handleFrame at handled
  have silent {sent : List Frame} : ∃ more, sent = sent ++ more ∧ ∀ other ∈ more,
      other.isCredit = true ∨ other.isReset = true ∧ frame.stopReason.isSome = true :=
    ⟨[], by simp⟩
  cases frame with
  | data bytes =>
    dsimp only at handled
    split at handled
    · cases handled
    · split at handled
      · cases handled
      · next flow sf received =>
        obtain ⟨rfl, rfl, -⟩ := StreamFlow.onDataReceived_ok received
        split at handled <;> cases handled
        · have accounts := onConsumed_accounts bytes.length ({ x with
            flow := { x.flow with connReceived := x.flow.connReceived + bytes.length }
            s := { x.s with
              accepted := x.s.accepted ++ [.data bytes]
              sf := { x.s.sf with received := x.s.sf.received + bytes.length } } })
          obtain ⟨credit, sent, kinds⟩ := accounts.sent
          refine ⟨?_, accounts.opened, accounts.closed,
            ⟨credit, sent, fun other member => Or.inl (kinds other member)⟩, accounts.amount⟩
          rw [accounts.stream]
          simp [Frame.isFin, Frame.resetReason, Frame.stopReason]
        · refine ⟨?_, rfl, rfl, silent, le_refl _⟩
          simp [KpsStream.wakeReader, Frame.isFin, Frame.resetReason, Frame.stopReason]
  | fin =>
    dsimp only at handled
    split at handled <;> cases handled
    refine ⟨?_, rfl, rfl, silent, le_refl _⟩
    simp [KpsStream.wakeReader, Frame.isFin, Frame.resetReason, Frame.stopReason]
  | reset code =>
    dsimp only at handled
    split at handled <;> cases handled
    next ended =>
      have reset : x.s.peerReset = none := by
        have unended : x.s.peerFin = false ∧ x.s.peerReset = none := by simpa using ended
        exact unended.2
      have accounts := discardInbuf_accounts ({ x with s := { x.s with
        accepted := x.s.accepted ++ [.reset code]
        peerReset := some { code := some ((numToCode code).getD .reset) } } })
      obtain ⟨credit, sent, kinds⟩ := accounts.sent
      refine ⟨?_, accounts.opened, accounts.closed,
        ⟨credit, sent, fun other member => Or.inl (kinds other member)⟩, accounts.amount⟩
      dsimp only
      rw [accounts.stream]
      simp [KpsStream.wakeReader, Frame.isFin, Frame.resetReason, Frame.stopReason, reset]
  | stopSending code =>
    dsimp only at handled
    split at handled
    · next again =>
      cases handled
      refine ⟨?_, rfl, rfl, silent, le_refl _⟩
      obtain ⟨reason, known⟩ := Option.isSome_iff_exists.mp again
      simp [Frame.isFin, Frame.resetReason, known]
    · next first =>
      have first : x.s.peerStop = none := by simpa using first
      split at handled <;> cases handled
      · next ended =>
        obtain ⟨terminal, known⟩ := Option.isSome_iff_exists.mp ended
        refine ⟨?_, rfl, rfl, silent, le_refl _⟩
        simp [failSend, Frame.isFin, Frame.resetReason, Frame.stopReason, first, known]
      · next open_ =>
        have open_ : x.s.localTerminal = none := by simpa using open_
        obtain ⟨more, sent, kinds⟩ := sent_sendIfOpen (.reset code) x.s.ch
        refine ⟨?_, Channel.opened_sendIfOpen, Channel.closed_sendIfOpen, ⟨more, sent, ?_⟩,
          Channel.amount_sendIfOpen⟩
        · simp [failSend, sendIfOpen, Frame.isFin, Frame.resetReason, Frame.stopReason, first,
            open_]
        · intro other member
          rw [kinds other member]
          exact Or.inr ⟨rfl, rfl⟩
  | maxStreamData value =>
    cases handled
    refine ⟨?_, rfl, rfl, silent, le_refl _⟩
    simp [Frame.isFin, Frame.resetReason, Frame.stopReason]

/-- A `#writeChunk` goes on: it reserves, sends or waits. It waits for the send queue with a ticket
of its own, and only while the channel is open and the queue is full. -/
structure Writes (x x' : StreamCtx) : Prop where
  stream : x'.s = { x.s with ch := x'.s.ch, sf := x'.s.sf, writable := x'.s.writable }
  opened : x'.s.ch.opened = x.s.ch.opened
  closed : x'.s.ch.closed = x.s.ch.closed
  sent : ∃ data, x'.s.ch.sent = x.s.ch.sent ++ data ∧ ∀ frame ∈ data, frame.isData = true
  sendFailure : x'.s.sf.sendFailure = x.s.sf.sendFailure
  failure : x'.flow.failure = x.flow.failure
  draining : ∀ call amount ticket, x'.s.writable.call = some call →
    call.pc = .draining amount ticket → x'.s.writable.call = x.s.writable.call ∨
      x.s.ch.isOpen = true ∧ ticket = x.s.drainWake.wakes ∧
        localSendBufferLow ≤ x'.s.ch.bufferedAmount
  amount : x.s.ch.bufferedAmount ≤ x'.s.ch.bufferedAmount

namespace Writes

variable {x x' x'' : StreamCtx}

theorem refl (x : StreamCtx) : Writes x x :=
  ⟨rfl, rfl, rfl, ⟨[], by simp⟩, rfl, rfl, fun _ _ _ _ _ => Or.inl rfl, le_refl _⟩

/-- Nothing is sent, and what it waits for is not the send queue. -/
theorem quiet {flow : ConnFlow} {control : Channel ControlMsg} {sf : StreamFlow}
    {writable : Writable} (sendFailure : sf.sendFailure = x.s.sf.sendFailure)
    (failure : flow.failure = x.flow.failure)
    (idle : ∀ call amount ticket, writable.call = some call → call.pc ≠ .draining amount ticket) :
    Writes x ⟨flow, control, { x.s with sf, writable }⟩ :=
  ⟨rfl, rfl, rfl, ⟨[], by simp⟩, sendFailure, failure,
    fun call amount ticket running waits => absurd waits (idle call amount ticket running),
    le_refl _⟩

theorem reject (error : KpsError) (x : StreamCtx) : Writes x (x.rejectWrite error) :=
  quiet rfl rfl fun _ _ _ running => by cases running

theorem reserveStep (chunk : Bytes) (off : Nat) (x : StreamCtx) :
    Writes x (x.reserveStep chunk off) := by
  unfold StreamCtx.reserveStep
  rcases x.flow.reserveData_cases x.s.sf (min (chunk.length - off) maxFramePayload : Nat) with
    ⟨error, same⟩ | ⟨grant, -, -, -, same⟩ | ⟨-, -, -, same⟩ <;> rw [same]
  · exact reject error x
  · refine quiet rfl rfl ?_
    rintro _ _ _ ⟨⟩ waits
    cases waits
  · refine quiet rfl rfl ?_
    rintro _ _ _ ⟨⟩ waits
    cases waits

theorem writeLoop (chunk : Bytes) (off : Nat) (x : StreamCtx) :
    Writes x (x.writeLoop chunk off) := by
  unfold StreamCtx.writeLoop
  split
  · split
    · exact reject _ x
    · exact reserveStep chunk off x
  · exact quiet rfl rfl fun _ _ _ running => by cases running

theorem drainLocal (chunk : Bytes) (off amount : Nat) (x : StreamCtx) :
    Writes x (x.drainLocal chunk off amount) := by
  unfold StreamCtx.drainLocal
  split
  · next full =>
    obtain ⟨isOpen, full⟩ := (Bool.and_eq_true _ _).mp full
    refine ⟨rfl, rfl, rfl, ⟨[], (List.append_nil _).symm, fun _ none => by cases none⟩, rfl, rfl,
      ?_, le_refl _⟩
    rintro _ _ _ ⟨⟩ ⟨⟩
    exact Or.inr ⟨isOpen, rfl, of_decide_eq_true full⟩
  · refine quiet rfl rfl ?_
    rintro _ _ _ ⟨⟩ waits
    cases waits

theorem sendChunk (chunk : Bytes) (off amount : Nat) (x : StreamCtx) :
    Writes x (x.sendChunk chunk off amount) := by
  have refused (error : KpsError) : Writes x ((x.release amount).rejectWrite error) :=
    quiet rfl rfl fun _ _ _ running => by cases running
  unfold StreamCtx.sendChunk
  split
  · exact refused _
  · split
    · exact refused _
    · next ch sent =>
      have handed := Channel.eq_of_send sent
      have goes := writeLoop chunk (off + amount) ({ x with s := { x.s with ch } }.commit amount)
      obtain ⟨data, more, kinds⟩ := goes.sent
      refine ⟨goes.stream, ?_, ?_, ?_, goes.sendFailure, goes.failure, ?_, le_trans ?_ goes.amount⟩
      · rw [goes.opened]
        show ch.opened = x.s.ch.opened
        rw [handed]
      · rw [goes.closed]
        show ch.closed = x.s.ch.closed
        rw [handed]
      · refine ⟨.data ((chunk.drop off).take amount) :: data, ?_, ?_⟩
        · rw [more]
          show ch.sent ++ data = _
          rw [handed, List.append_assoc]
          rfl
        · intro frame member
          rcases List.mem_cons.mp member with rfl | later
          · rfl
          · exact kinds frame later
      · intro call amount' ticket running waits
        have isOpen : ch.isOpen = x.s.ch.isOpen := by
          rw [handed]
          rfl
        rw [← isOpen]
        exact goes.draining call amount' ticket running waits
      · show x.s.ch.bufferedAmount ≤ ch.bufferedAmount
        rw [handed]
        exact Nat.le_add_right _ _

theorem writeChunk (chunk : Bytes) (x : StreamCtx) : Writes x (x.writeChunk chunk) := by
  unfold StreamCtx.writeChunk
  split
  · exact refl x
  · have goes := writeLoop chunk 0 { x with s := { x.s with
      writable := { x.s.writable with written := x.s.writable.written ++ [chunk] } } }
    exact ⟨goes.stream, goes.opened, goes.closed, goes.sent, goes.sendFailure, goes.failure,
      goes.draining, goes.amount⟩

theorem writeResume (x : StreamCtx) : Writes x x.writeResume := by
  unfold StreamCtx.writeResume
  split
  · exact refl x
  · split
    · exact reserveStep _ _ x
    · exact refl x
  · exact drainLocal _ _ _ x
  · split
    · exact drainLocal _ _ _ x
    · exact refl x
  · exact sendChunk _ _ _ x

end Writes

end StreamCtx

end Kps.Ts
