/-
**A stream on the wire.**

What a stream is for: the bytes one end writes are the bytes the other end reads. `Writes` says what
the messages of a writer amount to, `Reads` what a reader may make of messages that carry frames,
and a `Writer` and a `Reader` are machines that keep to it. Nothing here looks at one
implementation.

* `Conforms.fin_last` — the payload is whole once a FIN is among the frames;
* `Writer.linked` — a reader that finds no violation returns what the writer wrote, in order, and
  all that a write has reported as accepted when it finds the end.
-/

import Kps.Lib.Delivery
import Kps.Wire.Interop
import Mathlib.Data.List.Forall2

namespace Kps.Wire

open Kps.Lib

namespace Frame

/-- The stream bytes a frame carries. -/
def payload : Frame → Bytes
  | .data bytes => bytes
  | _ => []

def isData : Frame → Bool
  | .data _ => true
  | _ => false

/-- FIN and RESET end the write half. -/
def isTerminal : Frame → Bool
  | .fin => true
  | .reset _ => true
  | _ => false

theorem payload_of_not_data {frame : Frame} (other : frame.isData = false) :
    frame.payload = [] := by
  cases frame with
  | data bytes => cases other
  | _ => rfl

end Frame

def payload (frames : List Frame) : Bytes := frames.flatMap Frame.payload

@[simp] theorem payload_nil : payload [] = [] := rfl

@[simp] theorem payload_append (first second : List Frame) :
    payload (first ++ second) = payload first ++ payload second :=
  List.flatMap_append

theorem payload_le {first second : List Frame} (before : first <+: second) :
    payload first <+: payload second := by
  obtain ⟨rest, rfl⟩ := before
  rw [payload_append]
  exact List.prefix_append _ _

/-- After a FIN or RESET there is neither DATA nor another FIN or RESET. -/
def Conforms (frames : List Frame) : Prop :=
  frames.Pairwise fun earlier later => earlier.isTerminal = true → later.isData = false ∧
    later.isTerminal = false

theorem Conforms.of_prefix {first second : List Frame} (conforms : Conforms second)
    (before : first <+: second) :
    Conforms first := List.Pairwise.sublist before.sublist conforms

/-- Nothing is carried after a terminal frame. -/
theorem Conforms.payload_after {before after : List Frame} (conforms : Conforms (before ++ after))
    (ended : ∃ frame ∈ before, frame.isTerminal = true) : payload after = [] := by
  obtain ⟨frame, member, terminal⟩ := ended
  refine List.flatMap_eq_nil_iff.mpr fun later inside => Frame.payload_of_not_data ?_
  exact ((List.pairwise_append.mp conforms).2.2 frame member later inside terminal).1

/-- The payload of the frames up to a FIN is all there is. -/
theorem Conforms.fin_last {before frames : List Frame} (conforms : Conforms frames)
    (head : before <+: frames) (fin : .fin ∈ before) : payload before = payload frames := by
  obtain ⟨after, rfl⟩ := head
  rw [payload_append, conforms.payload_after ⟨.fin, fin, rfl⟩, List.append_nil]

/-- The messages carry the frames, which conform. -/
structure Carries (messages : List Bytes) (frames : List Frame) : Prop where
  each : List.Forall₂ FrameMessage messages frames
  conforms : Conforms frames

theorem Carries.take {messages : List Bytes} {frames : List Frame}
    (carries : Carries messages frames) (n : Nat) :
    Carries (messages.take n) (frames.take n) :=
  ⟨List.forall₂_take n carries.each, carries.conforms.of_prefix (List.take_prefix n frames)⟩

/-- A message carries one frame. -/
theorem frameMessage_rightUnique : Relator.RightUnique FrameMessage := by
  intro data frame frame' first second
  have same := Except.ok.inj (first.readFrom.go.symm.trans second.readFrom.go)
  exact ofWire_injective same

/-- The frames of the first messages, and those of the others. -/
theorem split_frames {first second : List Bytes} {frames : List Frame}
    (each : List.Forall₂ FrameMessage (first ++ second) frames) :
    ∃ early late, frames = early ++ late ∧ List.Forall₂ FrameMessage first early ∧
      List.Forall₂ FrameMessage second late := by
  induction first generalizing frames with
  | nil => exact ⟨[], frames, rfl, .nil, each⟩
  | cons message first ih =>
    cases each with
    | cons here rest =>
      obtain ⟨early, late, rfl, before, after⟩ := ih rest
      exact ⟨_ :: early, late, rfl, .cons here before, after⟩

theorem exists_frame {messages : List Bytes} {frames : List Frame}
    (each : List.Forall₂ FrameMessage messages frames)
    {message : Bytes} (member : message ∈ messages) : ∃ frame ∈ frames,
      FrameMessage message frame := by
  induction each with
  | nil => cases member
  | cons here _ ih =>
    rcases List.mem_cons.mp member with rfl | inside
    · exact ⟨_, List.mem_cons_self, here⟩
    · obtain ⟨frame, there, carried⟩ := ih inside
      exact ⟨frame, List.mem_cons_of_mem _ there, carried⟩

/-- A frame that comes last, in messages with a FIN, carries nothing. -/
theorem Carries.payload_last {before : List Bytes} {data : Bytes} {frames : List Frame}
    {frame : Frame}
    (carries : Carries (before ++ [data]) frames)
    (fin : ∃ message ∈ before ++ [data], FrameMessage message .fin)
    (carried : FrameMessage data frame) : frame.payload = [] := by
  obtain ⟨message, inside, isFin⟩ := fin
  rcases List.mem_append.mp inside with earlier | last
  · obtain ⟨early, late, rfl, first, second⟩ := split_frames carries.each
    obtain ⟨other, there, same⟩ := exists_frame first earlier
    obtain ⟨this, here, carried'⟩ := exists_frame second List.mem_cons_self
    rw [frameMessage_rightUnique carried carried']
    have ended : ∃ frame ∈ early, frame.isTerminal = true := by
      refine ⟨other, there, ?_⟩
      rw [frameMessage_rightUnique same isFin]
      rfl
    exact List.flatMap_eq_nil_iff.mp (carries.conforms.payload_after ended) this here
  · rw [List.mem_singleton.mp last] at isFin
    rw [frameMessage_rightUnique carried isFin]
    rfl

/-- The messages of one frame each. -/
theorem Carries.of_map {φ : Type*} {frames : List φ} {encode : φ → Bytes} {view : φ → Frame}
    (message : ∀ frame ∈ frames, FrameMessage (encode frame) (view frame))
    (conforms : Conforms (frames.map view)) :
    Carries (frames.map encode) (frames.map view) := by
  refine ⟨?_, conforms⟩
  clear conforms
  induction frames with
  | nil => exact .nil
  | cons frame frames ih =>
    exact .cons (message frame List.mem_cons_self)
      (ih fun other member => message other (List.mem_cons_of_mem _ member))

/-- The messages of a writer: what they carry is the first of the bytes that were written, and with
a FIN among the frames it has all that were reported as accepted. -/
def Writes (messages : List Bytes) (written accepted : Bytes) : Prop :=
  ∃ frames, Carries messages frames ∧ payload frames <+: written ∧
    (.fin ∈ frames → accepted <+: payload frames)

/-- What a reader may make of frames: the bytes it returns are the first they carry, and all of them
if it has found the end, which a FIN alone brings. -/
structure Reads (frames : List Frame) (returned : Bytes) (ended : Prop) : Prop where
  inOrder : returned <+: payload frames
  whole : ended → .fin ∈ frames ∧ returned = payload frames

/-- The bytes read are the first that were written, with all that were accepted once the reader has
found the end. -/
structure Transports (written accepted returned : Bytes) (ended : Prop) : Prop where
  inOrder : returned <+: written
  whole : ended → accepted <+: returned

/-- Where the bytes written are those accepted, a reader at the end has them. -/
theorem Transports.eq {written returned : Bytes} {ended : Prop}
    (transports : Transports written written returned ended) (found : ended) : returned = written :=
  transports.inOrder.eq_of_length_le (transports.whole found).length_le

theorem Writes.transports {messages : List Bytes} {written accepted returned : Bytes} {ended : Prop}
    (writes : Writes messages written accepted) (n : Nat)
    (reads : ∀ frames, Carries (messages.take n) frames → Reads frames returned ended) :
    Transports written accepted returned ended := by
  obtain ⟨frames, carries, begins, finished⟩ := writes
  obtain ⟨inOrder, whole⟩ := reads _ (carries.take n)
  have head : frames.take n <+: frames := List.take_prefix n frames
  refine ⟨inOrder.trans ((payload_le head).trans begins), fun found => ?_⟩
  obtain ⟨fin, all⟩ := whole found
  rw [all, carries.conforms.fin_last head fin]
  exact finished (head.subset fin)

/-! ### Machines -/

/-- A machine that writes to a stream. -/
structure Writer where
  State : Type
  Label : Type
  start : State
  step : State → Label → Option State
  /-- What it has handed to the channel. -/
  messages : State → List Bytes
  /-- The bytes its application has handed to it. -/
  written : State → Bytes
  /-- Those of them that a write has reported as accepted. -/
  accepted : State → Bytes
  grows : ∀ state label next, step state label = some next → messages state <+: messages next
  writes : ∀ labels state, run step start labels = some state →
    Writes (messages state) (written state) (accepted state)

/-- A machine that reads from a stream. -/
structure Reader where
  State : Type
  Label : Type
  start : State
  step : State → Label → Option State
  deliver : Bytes → Label
  arrival : Label → Option Bytes
  arrival_deliver : ∀ message, arrival (deliver message) = some message
  /-- The bytes it has returned. -/
  returned : State → Bytes
  /-- It has found the end. -/
  ended : State → Prop
  /-- It has found no violation. -/
  clean : State → Prop
  reads : ∀ labels state, run step start labels = some state → clean state →
    ∀ frames, Carries (labels.filterMap arrival) frames →
    Reads frames (returned state) (ended state)

namespace Writer

/-- The channel from a writer to a reader. -/
def ends (writer : Writer) (reader : Reader) :
    Ends writer.State writer.Label reader.State reader.Label Bytes where
  sends := writer.step
  receives := reader.step
  sent := writer.messages
  deliver := reader.deliver
  arrival := reader.arrival
  arrival_deliver := reader.arrival_deliver
  grows := writer.grows

/-- **A linked writer and reader transport the bytes**, whatever the two do and whenever the
messages arrive. -/
theorem linked (writer : Writer) (reader : Reader)
    {labels : List (LinkLabel writer.Label reader.Label)} {link : Link writer.State reader.State}
    (ran : run (writer.ends reader).step ⟨writer.start, reader.start, 0⟩ labels = some link)
    (clean : reader.clean link.receiver) :
    Transports (writer.written link.sender) (writer.accepted link.sender)
      (reader.returned link.receiver)
      (reader.ended link.receiver) := by
  obtain ⟨sending, receiving, sender, receiver, arrived, -⟩ := Ends.projects ran
  refine (writer.writes sending _ sender).transports link.delivered fun frames carries => ?_
  refine reader.reads receiving _ receiver clean frames ?_
  have arrived : receiving.filterMap reader.arrival =
    (writer.messages link.sender).take link.delivered := arrived
  rwa [arrived]

end Writer

end Kps.Wire
