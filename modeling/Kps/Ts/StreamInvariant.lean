/-
**What is kept of a stream.**

The history of a stream's channel is two lists of frames, those sent and those accepted. This file
says what the lists amount to (`payload`, `explicitCredit`, `Conforming`) and how the stream's state
follows from them.

* `ReadInv` is the invariant of the read half: the receive window is sound, the buffer holds what is
  received and not consumed, and what the reader got followed by the buffer is the payload of the
  accepted frames until the half is reset or cancelled;
* `WriteInv` is the invariant of the write half: what is sent is counted and within credit, nothing
  follows a terminal frame, and what is sent is what `#writeChunk` was given;
* `CtxInv` joins them with the connection's credit, and `CtxStep` is what one method may do: the
  connection's counters move with the stream's, sent frames are only appended, and credit that
  becomes available wakes whoever waits for it.
-/

import Mathlib.Data.List.Infix
import Kps.Ts.Conn

namespace Kps.Ts

open Kps.Lib

/-! ### Lists of frames -/

namespace Frame

/-- The payload bytes of a frame; only DATA has any. -/
def payload : Frame → Bytes
  | .data payload => payload
  | _ => []

/-- The credit a frame advertises. -/
def credit : Frame → Nat
  | .maxStreamData value => value
  | _ => 0

def isFin : Frame → Bool
  | .fin => true
  | _ => false

def isReset : Frame → Bool
  | .reset _ => true
  | _ => false

/-- FIN and RESET end a write half. -/
def isTerminal (frame : Frame) : Bool := frame.isFin || frame.isReset

/-- What may not follow a terminal frame: DATA and another one. -/
def isBarred : Frame → Bool
  | .data _ => true
  | frame => frame.isTerminal

end Frame

def payload (frames : List Frame) : Bytes := frames.flatMap Frame.payload

/-- The largest credit advertised. -/
def explicitCredit (frames : List Frame) : Nat :=
  frames.foldl (fun credit frame => max credit frame.credit) 0

def hasFin (frames : List Frame) : Bool := frames.any Frame.isFin

def hasReset (frames : List Frame) : Bool := frames.any Frame.isReset

def hasTerminal (frames : List Frame) : Bool := frames.any Frame.isTerminal

/-- No DATA and no terminal frame after a terminal frame. -/
def Conforming (frames : List Frame) : Prop :=
  frames.Pairwise fun earlier later => earlier.isTerminal = true → later.isBarred = false

section Lists

variable {frames more : List Frame} {frame : Frame}

@[simp] theorem payload_nil : payload [] = [] := rfl

@[simp] theorem payload_append : payload (frames ++ more) = payload frames ++ payload more :=
  List.flatMap_append

@[simp] theorem payload_singleton : payload [frame] = frame.payload := List.flatMap_singleton _ _

@[simp] theorem explicitCredit_nil : explicitCredit [] = 0 := rfl

@[simp] theorem explicitCredit_concat :
    explicitCredit (frames ++ [frame]) = max (explicitCredit frames) frame.credit := by
  simp [explicitCredit]

@[simp] theorem hasFin_append : hasFin (frames ++ more) = (hasFin frames || hasFin more) :=
  List.any_append

@[simp] theorem hasReset_append : hasReset (frames ++ more) = (hasReset frames || hasReset more) :=
  List.any_append

@[simp] theorem hasTerminal_append :
    hasTerminal (frames ++ more) = (hasTerminal frames || hasTerminal more) := List.any_append

@[simp] theorem hasFin_singleton : hasFin [frame] = frame.isFin := by simp [hasFin]

@[simp] theorem hasReset_singleton : hasReset [frame] = frame.isReset := by simp [hasReset]

@[simp] theorem hasTerminal_singleton : hasTerminal [frame] = frame.isTerminal := by
  simp [hasTerminal]

@[simp] theorem hasFin_nil : hasFin [] = false := rfl

@[simp] theorem hasReset_nil : hasReset [] = false := rfl

@[simp] theorem hasTerminal_nil : hasTerminal [] = false := rfl

theorem hasTerminal_eq : hasTerminal frames = (hasFin frames || hasReset frames) := by
  induction frames with
  | nil => rfl
  | cons head tail ih =>
    simp only [hasTerminal, hasFin, hasReset, List.any_cons] at ih ⊢
    rw [ih, Frame.isTerminal]
    cases head.isFin <;> cases head.isReset <;> simp

@[simp] theorem conforming_nil : Conforming [] := List.Pairwise.nil

theorem conforming_concat :
    Conforming (frames ++ [frame]) ↔
      Conforming frames ∧ (hasTerminal frames = true → frame.isBarred = false) := by
  simp only [Conforming, hasTerminal, List.pairwise_append, List.pairwise_singleton, true_and,
    List.mem_singleton, forall_eq, List.any_eq_true]
  constructor
  · rintro ⟨conforming, apart⟩
    exact ⟨conforming, fun ⟨earlier, member, terminal⟩ => apart earlier member terminal⟩
  · rintro ⟨conforming, apart⟩
    exact ⟨conforming, fun earlier member terminal => apart ⟨earlier, member, terminal⟩⟩

/-- Nothing but STOP_SENDING and credit can be added after a terminal frame, and these always. -/
theorem Conforming.concat_of_not_isBarred (conforming : Conforming frames)
    (free : frame.isBarred = false) : Conforming (frames ++ [frame]) :=
  conforming_concat.mpr ⟨conforming, fun _ => free⟩

theorem Conforming.concat_of_open (conforming : Conforming frames)
    (unended : hasTerminal frames = false) : Conforming (frames ++ [frame]) :=
  conforming_concat.mpr ⟨conforming, fun ended => by simp [unended] at ended⟩

theorem explicitCredit_le {bound : Int} (nonneg : 0 ≤ bound)
    (below : ∀ value, Frame.maxStreamData value ∈ frames → (value : Int) ≤ bound) :
    (explicitCredit frames : Int) ≤ bound := by
  induction frames using List.reverseRecOn with
  | nil => exact nonneg
  | append_singleton frames frame ih =>
    have before := ih fun value member => below value (List.mem_append_left _ member)
    have here : (frame.credit : Int) ≤ bound := by
      cases frame with
      | maxStreamData value => exact below value (by simp)
      | _ => exact nonneg
    rw [explicitCredit_concat]
    omega

end Lists

/-! ### The read half -/

/-- What the read half of a stream depends on. -/
structure ReadHalf where
  accepted : List Frame
  inbuf : List Bytes
  peerFin : Bool
  peerReset : Option KpsReason
  readCancelled : Bool
  cancelled : Bool
  state : ReadableState
  enqueued : List Bytes
  window : Window

def KpsStream.readHalf (limits : FlowLimits) (s : KpsStream) : ReadHalf where
  accepted := s.accepted
  inbuf := s.inbuf
  peerFin := s.peerFin
  peerReset := s.peerReset
  readCancelled := s.readCancelled
  cancelled := s.sf.cancelled
  state := s.readable.state
  enqueued := s.readable.enqueued
  window := s.sf.window limits

/-- The invariant of a read half, while `pending` bytes have left the buffer and are not counted as
consumed. -/
structure ReadInv (pending : Int) (r : ReadHalf) : Prop where
  window : r.window.Sound maxOffset
  batched : r.window.size ≤ maxOffset → r.cancelled = false → r.window.Batched maxOffset
  held : (byteCount r.inbuf : Int) + pending = r.window.received - r.window.consumed
  received : r.window.received = (payload r.accepted).length
  conforming : Conforming r.accepted
  fin : r.peerFin = hasFin r.accepted
  reset : r.peerReset.isSome = hasReset r.accepted
  whole : r.readCancelled = false → r.peerReset = none →
    r.enqueued.flatten ++ r.inbuf.flatten = payload r.accepted
  obtained : r.enqueued.flatten <+: payload r.accepted
  discarded : (r.readCancelled = true ∨ r.peerReset.isSome = true) → r.inbuf = []
  filled : (∀ frame ∈ r.accepted, frame.WF) → ∀ chunk ∈ r.inbuf, chunk ≠ []
  eof : r.state = .closed →
    r.peerFin = true ∧ r.peerReset = none ∧ r.enqueued.flatten = payload r.accepted

/-- Counting what is pending as consumed. -/
theorem ReadInv.consume {n : Nat} {r : ReadHalf} (inv : ReadInv n r) :
    ReadInv 0 { r with window := (r.window.consume maxOffset (!r.cancelled) n).1 } := by
  have held := inv.held
  have available : r.window.consumed + n ≤ r.window.received := by omega
  refine { inv with window := inv.window.consume (by omega) available, batched := ?_, held := ?_,
                    received := ?_ }
  · intro small uncancelled
    have uncancelled : r.cancelled = false := uncancelled
    have batched := inv.batched (by simpa using small) uncancelled
    simpa [uncancelled] using batched.consume
  · simp only [Window.received_consume, Window.consumed_consume]
    omega
  · simpa using inv.received

/-- A frame that neither carries payload nor ends the half. -/
theorem ReadInv.accept {pending : Int} {r : ReadHalf} (inv : ReadInv pending r) (frame : Frame)
    (empty : frame.payload = []) (free : frame.isBarred = false) :
    ReadInv pending { r with accepted := r.accepted ++ [frame] } := by
  have same : payload (r.accepted ++ [frame]) = payload r.accepted := by simp [empty]
  have unended : frame.isFin = false ∧ frame.isReset = false := by
    cases frame <;> first | exact ⟨rfl, rfl⟩ | cases free
  refine { inv with
    received := by simpa only [same] using inv.received
    conforming := inv.conforming.concat_of_not_isBarred free
    fin := by simpa [unended] using inv.fin
    reset := by simpa [unended] using inv.reset
    whole := by simpa only [same] using inv.whole
    obtained := by simpa only [same] using inv.obtained
    filled := fun wf => inv.filled fun other member => wf other (List.mem_append_left _ member)
    eof := by simpa only [same] using inv.eof }

/-- DATA within the window, while the half is open: counted, and buffered unless it is dropped. -/
theorem ReadInv.receive {r : ReadHalf} {bytes : Bytes} {inbuf : List Bytes} {pending : Int}
    (inv : ReadInv 0 r) (unended : r.peerFin = false ∧ r.peerReset = none)
    (fits : r.window.received + bytes.length ≤ r.window.limit)
    (kept : (r.readCancelled = true ∧ inbuf = r.inbuf ∧ pending = bytes.length) ∨
      (r.readCancelled = false ∧ inbuf = r.inbuf ++ [bytes] ∧ pending = 0)) :
    ReadInv pending { r with
      accepted := r.accepted ++ [.data bytes]
      inbuf
      window := { r.window with received := r.window.received + bytes.length } } := by
  obtain ⟨window, batched, held, received, conforming, fin, reset, whole, obtained, discarded,
    filled, eof⟩ := inv
  have arrived : payload (r.accepted ++ [.data bytes]) = payload r.accepted ++ bytes := by
    simp [Frame.payload]
  have admitted : r.window.receive bytes.length =
    some { r.window with received := r.window.received + bytes.length } := if_neg (not_lt.mpr fits)
  have open_ : hasTerminal r.accepted = false := by
    rw [hasTerminal_eq, ← fin, ← reset, unended.1, unended.2]
    rfl
  refine ⟨window.receive (by omega) admitted, ?_, ?_, ?_, conforming.concat_of_open open_, ?_, ?_,
    ?_, ?_, ?_, ?_, ?_⟩
  · intro small uncancelled
    exact ⟨(batched small uncancelled).formula, (batched small uncancelled).pending⟩
  · rcases kept with ⟨-, rfl, rfl⟩ | ⟨-, rfl, rfl⟩
    · simp only
      omega
    · simp only [byteCount_append, byteCount_singleton]
      omega
  · rw [arrived, List.length_append]
    simp only
    omega
  · simpa [Frame.isFin] using fin
  · simpa [Frame.isReset] using reset
  · rw [arrived]
    intro uncancelled unreset
    rcases kept with ⟨cancelled, -⟩ | ⟨-, rfl, -⟩
    · simp_all
    · simp [← whole uncancelled unreset]
  · rw [arrived]
    exact obtained.trans (List.prefix_append _ _)
  · intro ended
    rcases kept with ⟨cancelled, rfl, -⟩ | ⟨cancelled, -⟩
    · exact discarded (Or.inl cancelled)
    · simp [cancelled, unended.2] at ended
  · intro wf chunk member
    have before := filled fun frame member => wf frame (List.mem_append_left _ member)
    rcases kept with ⟨-, rfl, -⟩ | ⟨-, rfl, -⟩
    · exact before chunk member
    · rcases List.mem_append.mp member with old | new
      · exact before chunk old
      · rw [List.mem_singleton.mp new]
        exact List.ne_nil_of_length_pos (wf (.data bytes) (by simp)).1
  · intro closed
    have ended := (eof closed).1
    rw [unended.1] at ended
    cases ended

/-- FIN and RESET on an open half. -/
theorem ReadInv.finish {r : ReadHalf} (inv : ReadInv 0 r)
    (unended : r.peerFin = false ∧ r.peerReset = none) :
    ReadInv 0 { r with accepted := r.accepted ++ [.fin], peerFin := true } := by
  have open_ : hasTerminal r.accepted = false := by
    rw [hasTerminal_eq, ← inv.fin, ← inv.reset, unended.1, unended.2]
    rfl
  exact { inv with
    received := by simpa [Frame.payload] using inv.received
    conforming := inv.conforming.concat_of_open open_
    fin := by simp [Frame.isFin]
    reset := by simpa [Frame.isReset] using inv.reset
    whole := by simpa [Frame.payload] using inv.whole
    obtained := by simpa [Frame.payload] using inv.obtained
    filled := fun wf => inv.filled fun other member => wf other (List.mem_append_left _ member)
    eof := fun closed => by
      have ended := (inv.eof closed).1
      rw [unended.1] at ended
      cases ended }

theorem ReadInv.resetBy {r : ReadHalf} (inv : ReadInv 0 r)
    (unended : r.peerFin = false ∧ r.peerReset = none) (code : Nat) (reason : KpsReason) :
    ReadInv (byteCount r.inbuf) { r with
      accepted := r.accepted ++ [.reset code]
      peerReset := some reason
      inbuf := [] } := by
  have open_ : hasTerminal r.accepted = false := by
    rw [hasTerminal_eq, ← inv.fin, ← inv.reset, unended.1, unended.2]
    rfl
  exact { inv with
    held := by
      have held := inv.held
      simp only [byteCount_nil]
      omega
    received := by simpa [Frame.payload] using inv.received
    conforming := inv.conforming.concat_of_open open_
    fin := by simpa [Frame.isFin] using inv.fin
    reset := by simp [Frame.isReset]
    whole := fun _ unreset => by cases unreset
    obtained := by simpa [Frame.payload] using inv.obtained
    discarded := fun _ => rfl
    filled := fun _ _ none => by cases none
    eof := fun closed => by
      have ended := (inv.eof closed).1
      rw [unended.1] at ended
      cases ended }

/-- `cancelRead` and teardown drop the buffer. -/
theorem ReadInv.cancel {r : ReadHalf} (inv : ReadInv 0 r) (cancelled : Bool)
    (kept : cancelled = false → r.cancelled = false) :
    ReadInv (byteCount r.inbuf) { r with readCancelled := true, cancelled, inbuf := [] } :=
  { inv with
    batched := fun small uncancelled => inv.batched small (kept uncancelled)
    held := by
      have held := inv.held
      simp only [byteCount_nil]
      omega
    whole := fun uncancelled => by cases uncancelled
    discarded := fun _ => rfl
    filled := fun _ _ none => by cases none }

/-- The first chunk of the buffer goes to the reader. -/
theorem ReadInv.deliver {r : ReadHalf} {chunk : Bytes} {rest : List Bytes} (inv : ReadInv 0 r)
    (uncancelled : r.readCancelled = false) (buffered : r.inbuf = chunk :: rest) :
    ReadInv chunk.length { r with inbuf := rest, enqueued := r.enqueued ++ [chunk] } := by
  have unreset : r.peerReset = none := by
    cases reset : r.peerReset with
    | none => rfl
    | some reason =>
      have empty := inv.discarded (Or.inr (by simp [reset]))
      rw [buffered] at empty
      cases empty
  have whole := inv.whole uncancelled unreset
  rw [buffered, List.flatten_cons, ← List.append_assoc] at whole
  refine { inv with
    held := ?_
    whole := ?_
    obtained := ?_
    discarded := ?_
    filled := fun wf other member => inv.filled wf other (buffered ▸ List.mem_cons_of_mem _ member)
    eof := ?_ }
  · have held := inv.held
    rw [buffered] at held
    simp only [byteCount, List.map_cons, List.sum_cons] at held ⊢
    omega
  · intro _ _
    simpa using whole
  · rw [← whole]
    simp
  · intro ended
    simp [uncancelled, unreset] at ended
  · intro closed
    obtain ⟨-, -, all⟩ := inv.eof closed
    rw [← whole] at all
    have empty := congrArg List.length all
    simp only [List.length_append] at empty
    have none : chunk = [] ∧ rest.flatten = [] :=
      ⟨List.length_eq_zero_iff.mp (by omega), List.length_eq_zero_iff.mp (by omega)⟩
    refine ⟨(inv.eof closed).1, unreset, ?_⟩
    simp [← whole, none]

/-- The reader is told that the half has ended. -/
theorem ReadInv.finished {pending : Int} {r : ReadHalf} (inv : ReadInv pending r)
    (state : ReadableState)
    (eof : state = .closed → r.readCancelled = false ∧ r.inbuf = [] ∧ r.peerFin = true ∧
      r.peerReset = none) :
    ReadInv pending { r with state } :=
  { inv with
    eof := fun closed => by
      obtain ⟨uncancelled, empty, fin, unreset⟩ := eof closed
      have whole := inv.whole uncancelled unreset
      rw [empty, List.flatten_nil, List.append_nil] at whole
      exact ⟨fin, unreset, whole⟩ }

/-! ### The write half -/

/-- How far a `#writeChunk` is: what is sent of its chunk, and the credit it holds. -/
structure Progress where
  chunk : Bytes
  off : Nat
  grant : Option Nat

def WriteCall.progress (call : WriteCall) : Progress := ⟨call.chunk, call.off, call.pc.grant⟩

/-- The credit held by a `#writeChunk` that may be in progress. -/
def held (progress : Option Progress) : Nat := ((progress.bind Progress.grant).getD 0)

/-- What the write half of a stream depends on. -/
structure WriteHalf where
  sent : List Frame
  terminal : Option Terminal
  sendSent : Int
  sendReserved : Int
  limit : Int
  errored : Option KpsError
  written : List Bytes
  resolved : List Bytes

def KpsStream.writeHalf (initial : Int) (s : KpsStream) : WriteHalf where
  sent := s.ch.sent
  terminal := s.localTerminal
  sendSent := s.sf.sendSent
  sendReserved := s.sf.sendReserved
  limit := max s.sf.peerMaxExplicit initial
  errored := s.writable.errored
  written := s.writable.written
  resolved := s.writable.resolved

def KpsStream.progress (s : KpsStream) : Option Progress := s.writable.call.map WriteCall.progress

/-- What is sent is what was written: all of the resolved chunks and then the part of the last chunk
that is handed over. -/
structure Handed (progress : Option Progress) (w : WriteHalf) : Prop where
  running : ∀ p, progress = some p → w.errored = none ∧ w.written = w.resolved ++ [p.chunk] ∧
    payload w.sent = w.resolved.flatten ++ p.chunk.take p.off
  idle : progress = none → w.errored = none →
    w.written = w.resolved ∧ payload w.sent = w.resolved.flatten
  failed : w.errored.isSome = true → ∃ chunk n, w.written = w.resolved ++ [chunk] ∧
    payload w.sent = w.resolved.flatten ++ chunk.take n

/-- The invariant of a write half with a `#writeChunk` in progress or not. -/
structure WriteInv (progress : Option Progress) (w : WriteHalf) : Prop where
  sent : w.sendSent = (payload w.sent).length
  reserved : w.sendReserved = held progress
  within : w.sendSent + w.sendReserved ≤ w.limit
  inside : ∀ p, progress = some p → p.off ≤ p.chunk.length ∧ ∀ n, p.grant = some n →
    1 ≤ n ∧ p.off + n ≤ p.chunk.length ∧ n ≤ maxFramePayload
  wf : ∀ frame ∈ w.sent, frame.WF
  conforming : Conforming w.sent
  unended : w.terminal = none → hasTerminal w.sent = false
  handed : Handed progress w

theorem Handed.congr {progress : Option Progress} {w w' : WriteHalf} (handed : Handed progress w)
    (sent : payload w'.sent = payload w.sent) (errored : w'.errored = w.errored := by rfl)
    (written : w'.written = w.written := by rfl) (resolved : w'.resolved = w.resolved := by rfl) :
    Handed progress w' := by
  obtain ⟨running, idle, failed⟩ := handed
  exact ⟨by simpa only [sent, errored, written, resolved] using running,
    by simpa only [sent, errored, written, resolved] using idle,
    by simpa only [sent, errored, written, resolved] using failed⟩

/-- A frame without payload that may follow anything. -/
theorem WriteInv.silent {progress : Option Progress} {w : WriteHalf} {frame : Frame}
    (inv : WriteInv progress w) (empty : frame.payload = []) (wf : frame.WF)
    (free : frame.isBarred = false) : WriteInv progress { w with sent := w.sent ++ [frame] } := by
  have same : payload (w.sent ++ [frame]) = payload w.sent := by simp [empty]
  have unended : frame.isTerminal = false := by
    cases frame <;> first | rfl | cases free
  refine { inv with sent := ?_, wf := ?_, conforming := ?_, unended := ?_, handed := ?_ }
  · simpa only [same] using inv.sent
  · intro other member
    rcases List.mem_append.mp member with before | here
    · exact inv.wf other before
    · exact List.mem_singleton.mp here ▸ wf
  · exact inv.conforming.concat_of_not_isBarred free
  · intro terminal
    simpa [unended] using inv.unended terminal
  · exact inv.handed.congr same

/-- The write half is marked as ended, -/
theorem WriteInv.mark {progress : Option Progress} {w : WriteHalf} (inv : WriteInv progress w)
    (terminal : Terminal) : WriteInv progress { w with terminal := some terminal } :=
  { inv with
    unended := fun none => by cases none
    handed := inv.handed.congr rfl }

/-- and a terminal frame ends it on the wire. -/
theorem WriteInv.finish {progress : Option Progress} {w : WriteHalf} {frame : Frame}
    (inv : WriteInv progress w) (unended : w.terminal = none) (terminal : Terminal)
    (empty : frame.payload = []) (wf : frame.WF) :
    WriteInv progress { w with sent := w.sent ++ [frame], terminal := some terminal } := by
  have same : payload (w.sent ++ [frame]) = payload w.sent := by simp [empty]
  refine { inv with
    sent := by simpa only [same] using inv.sent
    wf := ?_
    conforming := inv.conforming.concat_of_open (inv.unended unended)
    unended := fun none => by cases none
    handed := inv.handed.congr same }
  intro other member
  rcases List.mem_append.mp member with before | here
  · exact inv.wf other before
  · exact List.mem_singleton.mp here ▸ wf

section Writing

variable {w : WriteHalf} {chunk : Bytes} {off n : Nat}

/-- `#writeChunk` is called. -/
theorem WriteInv.start (inv : WriteInv none w) (working : w.errored = none) (chunk : Bytes) :
    WriteInv (some ⟨chunk, 0, none⟩) { w with written := w.written ++ [chunk] } := by
  obtain ⟨written, sent⟩ := inv.handed.idle rfl working
  refine { inv with inside := ?_, handed := ⟨?_, (fun none => by cases none), ?_⟩ }
  · rintro p ⟨⟩
    exact ⟨Nat.zero_le _, fun n grant => by cases grant⟩
  · rintro p ⟨⟩
    exact ⟨working, by rw [written], by simpa using sent⟩
  · intro failed
    simp [working] at failed

/-- It rejects. -/
theorem WriteInv.fail (inv : WriteInv (some ⟨chunk, off, none⟩) w) (error : KpsError) :
    WriteInv none { w with errored := some error } := by
  obtain ⟨-, written, sent⟩ := inv.handed.running _ rfl
  exact { inv with
    inside := fun p running => by cases running
    handed := ⟨(fun p running => by cases running), (fun _ working => by cases working),
      fun _ => ⟨chunk, off, written, sent⟩⟩ }

/-- It resolves, with its whole chunk sent. -/
theorem WriteInv.resolve (inv : WriteInv (some ⟨chunk, off, none⟩) w) (all : chunk.length ≤ off) :
    WriteInv none { w with resolved := w.resolved ++ [chunk] } := by
  obtain ⟨working, written, sent⟩ := inv.handed.running _ rfl
  rw [List.take_of_length_le all] at sent
  exact { inv with
    inside := fun p running => by cases running
    handed := ⟨(fun p running => by cases running), fun _ _ => ⟨written, by simpa using sent⟩,
      fun failed => by simp [working] at failed⟩ }

/-- It is granted credit. -/
theorem WriteInv.grant (inv : WriteInv (some ⟨chunk, off, none⟩) w) (positive : 1 ≤ n)
    (inside : off + n ≤ chunk.length) (small : n ≤ maxFramePayload)
    (room : w.sendSent + w.sendReserved + n ≤ w.limit) :
    WriteInv (some ⟨chunk, off, some n⟩) { w with sendReserved := w.sendReserved + n } := by
  have reserved : w.sendReserved = 0 := inv.reserved
  refine { inv with
    reserved := by simp [reserved, held]
    within := by simp only; omega
    inside := ?_
    handed := ⟨?_, (fun none => by cases none), inv.handed.failed⟩ }
  · rintro p ⟨⟩
    refine ⟨by simp only; omega, ?_⟩
    rintro m ⟨⟩
    exact ⟨positive, inside, small⟩
  · rintro p ⟨⟩
    exact inv.handed.running ⟨chunk, off, none⟩ rfl

/-- It gives its credit back. -/
theorem WriteInv.release (inv : WriteInv (some ⟨chunk, off, some n⟩) w) :
    WriteInv (some ⟨chunk, off, none⟩) { w with sendReserved := w.sendReserved - n } := by
  have reserved : w.sendReserved = n := inv.reserved
  have within := inv.within
  refine { inv with
    reserved := by simp [reserved, held]
    within := by simp only; omega
    inside := ?_
    handed := ⟨?_, (fun none => by cases none), inv.handed.failed⟩ }
  · rintro p ⟨⟩
    exact ⟨(inv.inside _ rfl).1, fun m grant => by cases grant⟩
  · rintro p ⟨⟩
    exact inv.handed.running ⟨chunk, off, some n⟩ rfl

/-- It sends what its credit covers. -/
theorem WriteInv.send (inv : WriteInv (some ⟨chunk, off, some n⟩) w) (unended : w.terminal = none) :
    WriteInv (some ⟨chunk, off + n, none⟩) { w with
      sent := w.sent ++ [.data ((chunk.drop off).take n)]
      sendReserved := w.sendReserved - n
      sendSent := w.sendSent + n } := by
  have reserved : w.sendReserved = n := inv.reserved
  have within := inv.within
  obtain ⟨positive, inside, small⟩ : 1 ≤ n ∧ off + n ≤ chunk.length ∧ n ≤ maxFramePayload :=
    (inv.inside _ rfl).2 n rfl
  obtain ⟨working, written, sent⟩ := inv.handed.running _ rfl
  have length : ((chunk.drop off).take n).length = n := by simp; omega
  have handed : payload (w.sent ++ [.data ((chunk.drop off).take n)]) =
      payload w.sent ++ (chunk.drop off).take n := by simp [Frame.payload]
  refine {
    sent := ?_
    reserved := by simp [reserved, held]
    within := by simp only; omega
    inside := ?_
    wf := ?_
    conforming := inv.conforming.concat_of_open (inv.unended unended)
    unended := ?_
    handed := ⟨?_, (fun none => by cases none), fun failed => by simp [working] at failed⟩ }
  · rw [handed, List.length_append, length]
    have := inv.sent
    simp only
    omega
  · rintro p ⟨⟩
    exact ⟨inside, fun m grant => by cases grant⟩
  · intro frame member
    rcases List.mem_append.mp member with before | here
    · exact inv.wf frame before
    · rw [List.mem_singleton.mp here]
      exact ⟨by omega, by omega⟩
  · intro _
    simp [inv.unended unended, Frame.isTerminal, Frame.isFin, Frame.isReset]
  · rintro p ⟨⟩
    refine ⟨working, written, ?_⟩
    rw [handed, sent, List.append_assoc, List.take_add]

end Writing

/-! ### The stream and the connection's credit -/

/-- What the stream's own credit leaves to reserve. -/
def ConnFlow.streamRoom (f : ConnFlow) (sf : StreamFlow) : Int :=
  f.peerMaxStreamData sf - sf.sendSent - sf.sendReserved

/-- What the connection's credit leaves to reserve. -/
def ConnFlow.connRoom (f : ConnFlow) : Int := f.peerMaxData - f.connSent - f.connReserved

theorem ConnFlow.available_eq (f : ConnFlow) (sf : StreamFlow) :
    f.available sf = min (f.streamRoom sf) f.connRoom := by
  show (if f.streamRoom sf < f.connRoom then f.streamRoom sf else f.connRoom) = _
  split <;> omega

theorem ConnFlow.peerMaxStreamData_eq (f : ConnFlow) (sf : StreamFlow) :
    f.peerMaxStreamData sf = max sf.peerMaxExplicit f.peerMaxStreamDataInitial := by
  unfold ConnFlow.peerMaxStreamData
  split <;> omega

/-- A writer that waits for credit and was not woken finds none. -/
def Parked (f : ConnFlow) (s : KpsStream) : Prop :=
  ∀ chunk off ticket, s.writable.call = some ⟨chunk, off, .credit ticket⟩ →
    off < chunk.length ∧ ticket ≤ f.credit.wakes ∧ (f.credit.resolved ticket = false →
      f.failure = none ∧ s.sf.sendFailure = none ∧ min (f.streamRoom s.sf) f.connRoom ≤ 0)

/-- The invariant of a stream, given its connection's credit. -/
structure StreamInv (f : ConnFlow) (progress : Option Progress) (pending : Int)
    (s : KpsStream) : Prop where
  read : ReadInv pending (s.readHalf f.localLimits)
  write : WriteInv progress (s.writeHalf f.peerMaxStreamDataInitial)
  adverts : ∀ value, Frame.maxStreamData value ∈ s.ch.sent →
    (value : Int) ≤ min s.sf.localMaxStreamData maxOffset
  explicit : s.sf.peerMaxExplicit = explicitCredit s.accepted
  parked : Parked f s

/-- The invariant of the connection's byte credit. -/
structure DataInv (f : ConnFlow) (control : Channel ControlMsg) : Prop where
  window : f.window.Sound maxOffset
  batched : f.window.size ≤ maxOffset → f.window.Batched maxOffset
  within : f.connSent + f.connReserved ≤ f.peerMaxData
  adverts : ∀ value, ControlMsg.maxData value ∈ control.sent →
    (value : Int) ≤ min f.localMaxData maxOffset

/-- The invariant of a stream together with its connection's credit. -/
structure CtxInv (progress : Option Progress) (pending : Int) (x : StreamCtx) : Prop where
  stream : StreamInv x.flow progress pending x.s
  data : DataInv x.flow x.control
  share : x.s.sf.received - x.s.sf.consumed ≤ x.flow.connReceived - x.flow.connConsumed

/-- The invariant while no method runs. -/
def StreamCtx.Inv (x : StreamCtx) : Prop := CtxInv x.s.progress 0 x

/-! ### Steps -/

/-- The credit engine but for its byte counters, its windows and its wakeable. -/
def ConnFlow.SameBut (f f' : ConnFlow) : Prop :=
  f' = { f with
    connSent := f'.connSent
    connReserved := f'.connReserved
    localMaxData := f'.localMaxData
    connReceived := f'.connReceived
    connConsumed := f'.connConsumed
    connAdvertisedAt := f'.connAdvertisedAt
    credit := f'.credit }

/-- The limit that stands advertised on the control channel. -/
def dataLimit (limits : FlowLimits) (sent : List ControlMsg) : Nat :=
  sent.foldl (fun limit message => match message with
    | .maxData value => max limit value
    | _ => limit) limits.initialMaxData

/-- The limit that stands advertised on a stream's channel. -/
def streamLimit (limits : FlowLimits) (sent : List Frame) : Nat :=
  max limits.initialMaxStreamData (explicitCredit sent)

/-- What one method of a stream may do, besides accepting `frames`. -/
structure CtxStep (frames : List Frame) (x x' : StreamCtx) : Prop where
  same : x.flow.SameBut x'.flow
  initiated : x'.s.peerInitiated = x.s.peerInitiated
  retiredFired : x'.s.retiredFired = x.s.retiredFired
  opened : x'.s.ch.opened = x.s.ch.opened
  closed : x'.s.ch.closed = x.s.ch.closed
  controlOpened : x'.control.opened = x.control.opened
  controlClosed : x'.control.closed = x.control.closed
  connSent : x'.flow.connSent - x.flow.connSent = x'.s.sf.sendSent - x.s.sf.sendSent
  connReserved :
    x'.flow.connReserved - x.flow.connReserved = x'.s.sf.sendReserved - x.s.sf.sendReserved
  connReceived : x'.flow.connReceived - x.flow.connReceived = x'.s.sf.received - x.s.sf.received
  connConsumed : x'.flow.connConsumed - x.flow.connConsumed = x'.s.sf.consumed - x.s.sf.consumed
  accepted : x'.s.accepted = x.s.accepted ++ frames
  sent : x.s.ch.sent <+: x'.s.ch.sent
  control : ∃ extra, x'.control.sent = x.control.sent ++ extra ∧
    ∀ message ∈ extra, ∃ value ≤ maxOffset, message = .maxData value
  ended : x.s.localTerminal.isSome = true → x'.s.localTerminal.isSome = true
  /-- A write half that ends while the channel is open ends with a terminal frame. -/
  announced : (x.s.ch.isOpen = true ∨ x.s.localTerminal.isSome = true) →
    (x.s.localTerminal.isSome = true → hasTerminal x.s.ch.sent = true) →
    x'.s.localTerminal.isSome = true → hasTerminal x'.s.ch.sent = true
  /-- What is granted is advertised, if the channel to say it on is open. -/
  advertised : x.s.ch.isOpen = true → x.flow.localLimits.initialMaxStreamData ≤ maxOffset →
    x.s.sf.localMaxStreamData = streamLimit x.flow.localLimits x.s.ch.sent →
    x'.s.sf.localMaxStreamData = streamLimit x'.flow.localLimits x'.s.ch.sent
  dataAdvertised : x.control.isOpen = true → x.flow.localLimits.initialMaxData ≤ maxOffset →
    x.flow.localMaxData = dataLimit x.flow.localLimits x.control.sent →
    x'.flow.localMaxData = dataLimit x'.flow.localLimits x'.control.sent
  wakes : x.flow.credit.wakes ≤ x'.flow.credit.wakes
  unwoken : x'.flow.credit.wakes = x.flow.credit.wakes →
    x'.flow.connRoom ≤ x.flow.connRoom ∧ x'.flow.streamRoom x'.s.sf ≤ x.flow.streamRoom x.s.sf ∧
      x'.s.sf.sendFailure = x.s.sf.sendFailure

end Kps.Ts
