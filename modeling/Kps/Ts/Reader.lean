/-
**The reader of a stream.**

A `pull` that finds nothing waits for `readWake`. Whatever changes what a `pull` would find must
wake it, or the reader waits for bytes, or for an end, that have come already.

* `ReaderParked` — a `pull` that waits and was not woken would still find nothing;
* `KpsStream.Reads` — what a method may do to the reader: it keeps `ReaderParked`, and it ends the
  reading with EOF only while the half is not cancelled;
* `StreamCtx.handleFrame_reads`, `StreamCtx.pull_reads`, … — every method does no more.
-/

import Kps.Ts.Conn

namespace Kps.Ts

open Kps.Lib

/-- What a reader depends on. -/
structure ReadSide where
  inbuf : List Bytes
  peerFin : Bool
  peerReset : Option KpsReason
  readCancelled : Bool
  readError : Option KpsReason
  channelClosed : Bool
  wake : Wakeable
  pulling : Option Nat
  state : ReadableState

def KpsStream.readSide (s : KpsStream) : ReadSide where
  inbuf := s.inbuf
  peerFin := s.peerFin
  peerReset := s.peerReset
  readCancelled := s.readCancelled
  readError := s.readError
  channelClosed := s.channelClosed
  wake := s.readWake
  pulling := s.readable.pulling
  state := s.readable.state

/-- A `pull` that waits has been waiting. -/
def ReaderEarly (s : KpsStream) : Prop :=
  ∀ ticket, s.readable.pulling = some ticket → ticket ≤ s.readWake.wakes

/-- A `pull` that waits and was not woken would find nothing. -/
def ReaderParked (s : KpsStream) : Prop :=
  ReaderEarly s ∧ ∀ ticket, s.readable.pulling = some ticket →
    s.readWake.resolved ticket = false → s.pullOutcome = .wait

/-- What a method may do to the reader. -/
structure KpsStream.Reads (s s' : KpsStream) : Prop where
  early : ReaderEarly s → ReaderEarly s'
  parked : ReaderParked s → ReaderParked s'
  cancelled : s.readCancelled = true → s'.readCancelled = true
  eof : s'.readable.state = .closed → s.readable.state = .closed ∨ s.readCancelled = false

namespace KpsStream

variable {s s' s'' : KpsStream}

theorem pullOutcome_congr (same : s'.readSide = s.readSide) : s'.pullOutcome = s.pullOutcome := by
  have inbuf : s'.inbuf = s.inbuf := congrArg ReadSide.inbuf same
  have fin : s'.peerFin = s.peerFin := congrArg ReadSide.peerFin same
  have reset : s'.peerReset = s.peerReset := congrArg ReadSide.peerReset same
  have cancelled : s'.readCancelled = s.readCancelled := congrArg ReadSide.readCancelled same
  have error : s'.readError = s.readError := congrArg ReadSide.readError same
  have closed : s'.channelClosed = s.channelClosed := congrArg ReadSide.channelClosed same
  unfold pullOutcome
  rw [inbuf, fin, reset, cancelled, error, closed]

/-- A `pull` that has been waiting is parked once the reader is woken. -/
theorem parked_of_woken (early : ReaderEarly s) (woken : s'.readWake = s.readWake.wake)
    (pulling : s'.readable.pulling = s.readable.pulling) : ReaderParked s' := by
  constructor
  · intro ticket waiting
    rw [woken]
    exact Nat.le_succ_of_le (early ticket (pulling ▸ waiting))
  · intro ticket waiting unresolved
    rw [woken, Wakeable.resolved_wake (early ticket (pulling ▸ waiting))] at unresolved
    cases unresolved

namespace Reads

theorem refl (s : KpsStream) : s.Reads s := ⟨id, id, id, Or.inl⟩

theorem trans (first : s.Reads s') (second : s'.Reads s'') : s.Reads s'' where
  early := second.early ∘ first.early
  parked := second.parked ∘ first.parked
  cancelled := second.cancelled ∘ first.cancelled
  eof := fun closed => by
    rcases second.eof closed with before | uncancelled
    · exact first.eof before
    · refine Or.inr (Bool.eq_false_iff.mpr fun cancelled => ?_)
      rw [first.cancelled cancelled] at uncancelled
      cases uncancelled

/-- Nothing that a reader depends on changes. -/
theorem of_same (same : s'.readSide = s.readSide) : s.Reads s' := by
  have pulling : s'.readable.pulling = s.readable.pulling := congrArg ReadSide.pulling same
  have wake : s'.readWake = s.readWake := congrArg ReadSide.wake same
  have state : s'.readable.state = s.readable.state := congrArg ReadSide.state same
  have early : ReaderEarly s → ReaderEarly s' := by
    unfold ReaderEarly
    rw [pulling, wake]
    exact id
  refine ⟨early, fun parked => ⟨early parked.1, ?_⟩, ?_, ?_⟩
  · rw [pulling, wake, pullOutcome_congr same]
    exact parked.2
  · exact fun cancelled => (congrArg ReadSide.readCancelled same).trans cancelled
  · exact fun closed => Or.inl (state.symm.trans closed)

/-- Something changes, and the reader is woken. -/
theorem of_woken (woken : s'.readWake = s.readWake.wake)
    (pulling : s'.readable.pulling = s.readable.pulling)
    (cancelled : s.readCancelled = true → s'.readCancelled = true)
    (state : s'.readable.state = s.readable.state) : s.Reads s' where
  early := fun early => (parked_of_woken early woken pulling).1
  parked := fun parked => parked_of_woken parked.1 woken pulling
  cancelled := cancelled
  eof := fun closed => Or.inl (state.symm.trans closed)

/-- A `pull` ends. -/
theorem of_pulled (pulling : s'.readable.pulling = none)
    (cancelled : s'.readCancelled = s.readCancelled)
    (eof : s'.readable.state = .closed → s.readable.state = .closed ∨ s.readCancelled = false) :
    s.Reads s' := by
  have early : ReaderEarly s' := fun ticket waiting => by
    rw [pulling] at waiting
    cases waiting
  refine ⟨fun _ => early, fun _ => ⟨early, fun ticket waiting => ?_⟩, ?_, eof⟩
  · rw [pulling] at waiting
    cases waiting
  · rw [cancelled]
    exact id

end Reads

@[simp] theorem readSide_settle (info : CloseInfo) (s : KpsStream) :
    (s.settle info).readSide = s.readSide := by
  unfold settle
  split <;> rfl

@[simp] theorem readSide_settleOpen (error : Option KpsError) (s : KpsStream) :
    (s.settleOpen error).readSide = s.readSide := by
  unfold settleOpen
  split <;> rfl

@[simp] theorem readSide_wakeDrain (s : KpsStream) : s.wakeDrain.readSide = s.readSide := rfl

theorem readSide_wakeReader (s : KpsStream) :
    s.wakeReader.readSide = { s.readSide with wake := s.readSide.wake.wake } := rfl

theorem readSide_finish (info : CloseInfo) (error : Option KpsError) (s : KpsStream) :
    ((((s.settleOpen error).settle info).wakeReader).wakeDrain).readSide =
      { s.readSide with wake := s.readWake.wake } := by
  have same : ((s.settleOpen error).settle info).readSide = s.readSide := by
    rw [readSide_settle, readSide_settleOpen]
  rw [readSide_wakeDrain, readSide_wakeReader, same]
  rfl

/-- Waking changes nothing else. -/
theorem Reads.wakeReader (s : KpsStream) : s.Reads s.wakeReader :=
  of_woken rfl rfl id rfl

/-- The `error` event of the channel. -/
theorem onError_reads (text : String) (s : KpsStream) : s.Reads (s.onError text) := by
  unfold onError
  refine Reads.trans ?_ (.of_same (readSide_wakeDrain _))
  refine Reads.trans (.of_same ?_) (.wakeReader _)
  rw [readSide_settleOpen, readSide_settle]

end KpsStream

namespace StreamCtx

variable {x : StreamCtx}

@[simp] theorem readSide_onConsumed (n : Nat) (x : StreamCtx) :
    (x.onConsumed n).s.readSide = x.s.readSide := by
  unfold onConsumed streamConsumed
  rcases x.s.sf.streamConsumed x.flow.localLimits n with ⟨sf, _ | v⟩ <;>
    unfold connConsumed sendIfOpen trySendControl <;> dsimp only <;> split <;> rfl

/-- Dropping the buffer changes nothing else. -/
@[simp] theorem readSide_discardInbuf (x : StreamCtx) :
    x.discardInbuf.s.readSide = { x.s.readSide with inbuf := [] } := by
  unfold discardInbuf
  split
  · next empty => exact congrArg (fun inbuf => { x.s.readSide with inbuf }) empty
  · exact readSide_onConsumed _ _

/-! ### Inbound -/

/-- A frame that is accepted wakes the reader, if there is something to find. -/
theorem handleFrame_reads {frame : Frame} {x' : StreamCtx} {retire : Bool}
    (handled : x.handleFrame frame = .done x' retire) : x.s.Reads x'.s := by
  unfold handleFrame at handled
  cases frame with
  | data bytes =>
    dsimp only at handled
    split at handled
    · cases handled
    · split at handled
      · cases handled
      · split at handled <;> cases handled
        · exact .of_same (readSide_onConsumed _ _)
        · exact .of_woken rfl rfl id rfl
  | fin =>
    dsimp only at handled
    split at handled <;> cases handled
    exact .of_woken rfl rfl id rfl
  | reset code =>
    dsimp only at handled
    split at handled <;> cases handled
    have same := readSide_discardInbuf ({ x with s := { x.s with
      accepted := x.s.accepted ++ [.reset code]
      peerReset := some { code := some ((numToCode code).getD .reset) } } })
    refine .of_woken ?_ (congrArg ReadSide.pulling same) (fun cancelled => ?_)
      (congrArg ReadSide.state same)
    · exact congrArg Wakeable.wake (congrArg ReadSide.wake same)
    · exact (congrArg ReadSide.readCancelled same).trans cancelled
  | stopSending code =>
    dsimp only at handled
    split at handled
    · cases handled
      exact .of_same rfl
    · split at handled <;> cases handled <;> exact .of_same rfl
  | maxStreamData value =>
    cases handled
    exact .of_same rfl

theorem channelLost_reads (x : StreamCtx) :
    x.s.Reads x.channelLost.s ∧ (ReaderEarly x.s → ReaderParked x.channelLost.s) := by
  have same : x.channelLost.s.readSide = { x.s.readSide with wake := x.s.readWake.wake } :=
    KpsStream.readSide_finish _ _ _
  have wake : x.channelLost.s.readWake = x.s.readWake.wake := congrArg ReadSide.wake same
  have pulling : x.channelLost.s.readable.pulling = x.s.readable.pulling :=
    congrArg ReadSide.pulling same
  refine ⟨.of_woken wake pulling (fun cancelled => ?_) (congrArg ReadSide.state same),
    fun early => KpsStream.parked_of_woken early wake pulling⟩
  exact (congrArg ReadSide.readCancelled same).trans cancelled

/-! ### Writing -/

theorem readSide_reserveStep (chunk : Bytes) (off : Nat) (x : StreamCtx) :
    (x.reserveStep chunk off).s.readSide = x.s.readSide := by
  unfold reserveStep
  split <;> rfl

theorem readSide_writeLoop (chunk : Bytes) (off : Nat) (x : StreamCtx) :
    (x.writeLoop chunk off).s.readSide = x.s.readSide := by
  unfold writeLoop
  split
  · split
    · rfl
    · exact readSide_reserveStep _ _ _
  · rfl

theorem readSide_drainLocal (chunk : Bytes) (off amount : Nat) (x : StreamCtx) :
    (x.drainLocal chunk off amount).s.readSide = x.s.readSide := by
  unfold drainLocal
  split <;> rfl

theorem readSide_sendChunk (chunk : Bytes) (off amount : Nat) (x : StreamCtx) :
    (x.sendChunk chunk off amount).s.readSide = x.s.readSide := by
  unfold sendChunk
  split
  · rfl
  · split
    · rfl
    · exact readSide_writeLoop _ _ _

theorem writeChunk_reads (chunk : Bytes) (x : StreamCtx) : x.s.Reads (x.writeChunk chunk).s := by
  unfold writeChunk
  split
  · exact .refl _
  · exact .of_same (readSide_writeLoop _ _ _)

theorem writeResume_reads (x : StreamCtx) : x.s.Reads x.writeResume.s := by
  unfold writeResume
  split
  · exact .refl _
  · split
    · exact .of_same (readSide_reserveStep _ _ _)
    · exact .refl _
  · exact .of_same (readSide_drainLocal _ _ _ _)
  · split
    · exact .of_same (readSide_drainLocal _ _ _ _)
    · exact .refl _
  · exact .of_same (readSide_sendChunk _ _ _ _)

/-! ### Reading -/

theorem pull_reads (x : StreamCtx) : x.s.Reads x.pull.1.s := by
  unfold pull
  split
  · next error outcome =>
    refine .of_pulled rfl rfl fun closed => ?_
    dsimp only [endRead] at closed
    split at closed
    · cases closed
    · exact Or.inl closed
  · next chunk rest outcome =>
    have same := readSide_onConsumed chunk.length { x with s := { x.s with
      inbuf := rest
      readable := { x.s.readable with
        enqueued := x.s.readable.enqueued ++ [chunk]
        pulling := none } } }
    refine .of_pulled (congrArg ReadSide.pulling same) (congrArg ReadSide.readCancelled same)
      fun closed => Or.inl ?_
    exact (congrArg ReadSide.state same).symm.trans closed
  · next outcome =>
    refine .of_pulled rfl rfl fun _ => Or.inr ?_
    unfold KpsStream.pullOutcome at outcome
    split at outcome
    · cases outcome
    · next uncancelled => exact Bool.eq_false_iff.mpr uncancelled
  · next outcome =>
    have early : ReaderEarly x.parkRead.s := by
      rintro ticket ⟨⟩
      exact Nat.le_refl _
    exact ⟨fun _ => early, fun _ => ⟨early, fun _ _ _ => outcome⟩, id, Or.inl⟩

theorem read_reads (x : StreamCtx) : x.s.Reads x.read.1.s := by
  unfold read
  split
  · exact pull_reads x
  · exact .refl _

theorem readResume_reads (x : StreamCtx) : x.s.Reads x.readResume.1.s := by
  unfold readResume
  split
  · exact .refl _
  · split
    · exact pull_reads x
    · exact .refl _

/-! ### Lifecycle -/

theorem endWrite_reads (terminal : Terminal) (error : KpsError) (frame : Frame) (x : StreamCtx) :
    x.s.Reads (x.endWrite terminal error frame).s := .of_same rfl

theorem cancelRead_reads (reason : Option KpsReason) (x : StreamCtx) :
    x.s.Reads (x.cancelRead reason).s := by
  have same := readSide_discardInbuf ({ x with s := { x.s with
    readCancelled := true
    readError := some (reason.getD { code := some .cancelled })
    sf := x.s.sf.markCancelled } })
  unfold cancelRead
  dsimp only
  split <;> exact .of_woken (congrArg Wakeable.wake (congrArg ReadSide.wake same))
    (congrArg ReadSide.pulling same) (fun _ => congrArg ReadSide.readCancelled same)
    (congrArg ReadSide.state same)

/-- Teardown of a stream cancels its read half. -/
theorem readSide_destroy (reason : Option KpsReason) (x : StreamCtx) :
    (x.destroy reason).s.readSide = { x.s.readSide with
      inbuf := []
      readCancelled := true
      readError := some
        (reason.getD { code := some .closed, message := some "kps: connection closed" })
      wake := x.s.readWake.wake } := by
  unfold destroy
  dsimp only
  rw [KpsStream.readSide_finish]
  have same := readSide_discardInbuf x
  have wake : x.discardInbuf.s.readWake = x.s.readWake := congrArg ReadSide.wake same
  exact congrArg (fun side : ReadSide => { side with
    readCancelled := true
    readError := some
      (reason.getD { code := some .closed, message := some "kps: connection closed" })
    wake := x.discardInbuf.s.readWake.wake }) same |>.trans (by rw [wake])

theorem destroy_reads (reason : Option KpsReason) (x : StreamCtx) :
    x.s.Reads (x.destroy reason).s := by
  have same := readSide_destroy reason x
  exact .of_woken (congrArg ReadSide.wake same) (congrArg ReadSide.pulling same)
    (fun _ => congrArg ReadSide.readCancelled same) (congrArg ReadSide.state same)

end StreamCtx

end Kps.Ts
