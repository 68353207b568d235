/-
**The engine as a writer and a reader.**

`byte_stream` links two engines. Here one engine faces any peer: what it hands to the channel of a
stream are frames of the wire, and what its reader gets of a peer's frames are the bytes they carry,
for as long as it does not call `fatal`.

* `Engine` — an engine that its invariants describe;
* `Engine.hears` — the frames it accepts are those that arrive, unless it calls `fatal`;
* `Engine.writer`, `Engine.reader` — so each of its streams is a writer and a reader.
-/

import Kps.Ts.ByteStream
import Kps.Ts.ControlMachine
import Kps.Wire.Stream

namespace Kps.Ts

open Kps.Lib

/-- The frame as the wire has it. -/
def Frame.toWire : Frame → Wire.Frame
  | .data payload => .data payload
  | .fin => .fin
  | .reset code => .reset code
  | .stopSending code => .stopSending code
  | .maxStreamData value => .maxStreamData value

@[simp] theorem Frame.toWire_ofWire (frame : Wire.Frame) : (Frame.ofWire frame).toWire = frame := by
  cases frame <;> rfl

theorem Frame.WF.message {frame : Frame} (wf : frame.WF) :
    Wire.FrameMessage (encodeFrame frame) frame.toWire := by
  have encoded : encodeFrame frame = frame.toWire.message := by cases frame <;> rfl
  rw [encoded]
  refine .of_wf ?_
  cases frame <;> exact wf

theorem payload_toWire (frames : List Frame) :
    Wire.payload (frames.map Frame.toWire) = payload frames := by
  unfold Wire.payload payload
  rw [List.flatMap_map]
  congr 1
  funext frame
  cases frame <;> rfl

theorem conforms_toWire {frames : List Frame} (conforming : Conforming frames) :
    Wire.Conforms (frames.map Frame.toWire) := by
  refine List.pairwise_map.mpr (conforming.imp fun {earlier later} apart terminal => ?_)
  have terminal : earlier.isTerminal = true := by cases earlier <;> first | rfl | cases terminal
  have free := apart terminal
  cases later <;> first
    | exact ⟨rfl, rfl⟩
    | cases free

theorem mem_fin_toWire {frames : List Frame} (fin : hasFin frames = true) :
    .fin ∈ frames.map Frame.toWire := by
  obtain ⟨frame, member, isFin⟩ := List.any_eq_true.mp fin
  refine List.mem_map.mpr ⟨frame, member, ?_⟩
  cases frame <;> first | rfl | cases isFin

theorem message_of_parse {data : Bytes} {frame : Frame} (parsed : parseFrame data = .ok frame) :
    Wire.FrameMessage data frame.toWire := by
  obtain ⟨frame, message, rfl⟩ := (parseFrame_decodes data frame).mp parsed
  rw [Frame.toWire_ofWire]
  exact message

/-- `fatal` is logged. -/
theorem ConnCore.log_fatal (reason : KpsReason) (c : ConnCore) :
    .fatal reason ∈ (c.fatal reason).log := by
  have told : .fatal reason ∈ (c.report (.fatal reason)).log :=
    List.mem_append_right _ List.mem_cons_self
  unfold fatal
  dsimp only
  split
  · exact told
  · next alive =>
    have log {c : ConnCore} {info : CloseInfo} (alive : c.closeFired = false) :
        (c.teardown info).log = c.log ++ c.farewell info :=
          congrArg Handshake.log (handshake_teardown alive)
    rw [log (Bool.not_eq_true _ ▸ alive)]
    exact List.mem_append_left _ told

/-- An engine, with what its invariants say of it. -/
structure Engine where
  core : ConnCore
  inv : ConnInv core
  hand : HandshakeInv core.handshake
  heard : ∃ past, Heard past core.handshake

namespace Engine

def new (limits : FlowLimits) (controlOpen : Bool) : Engine where
  core := .new limits controlOpen
  inv := .new limits controlOpen
  hand := (handshake_new limits controlOpen).1
  heard := ⟨_, (handshake_new limits controlOpen).2.1⟩

def step (engine : Engine) (event : Event) : Engine where
  core := engine.core.step event
  inv := (engine.inv.step event).inv
  hand := by
    obtain ⟨past, heard⟩ := engine.heard
    exact (ConnCore.handshake_step event engine.hand heard).inv
  heard := by
    obtain ⟨past, heard⟩ := engine.heard
    exact ⟨_, (ConnCore.handshake_step event engine.hand heard).heard⟩

/-- Stream `k`. -/
def stream (engine : Engine) (k : Nat) : KpsStream := engine.core.streams k

/-- `fatal` was not called. -/
def Faultless (engine : Engine) : Prop := ∀ reason, .fatal reason ∉ engine.core.log

variable {engine : Engine} {event : Event} {k : Nat} {data : Bytes}

theorem log_step (engine : Engine) (event : Event) :
    engine.core.log <+: (engine.step event).core.log := by
  obtain ⟨past, heard⟩ := engine.heard
  exact (ConnCore.handshake_step event engine.hand heard).log

theorem Faultless.before (faultless : (engine.step event).Faultless) :
    engine.Faultless := fun reason member =>
  faultless reason ((engine.log_step event).subset member)

/-- What the engine hands to a channel is only added to. -/
theorem sent_step (engine : Engine) (event : Event) (k : Nat) :
    (engine.stream k).ch.sent <+: ((engine.step event).stream k).ch.sent := by
  obtain ⟨heard, middle, arrives, -, reaction⟩ := (engine.inv.step event).split
  exact ((arrives.moves engine.inv).react reaction.step).sent k

/-! ### A writer -/

/-- The messages of a stream. -/
theorem writes (engine : Engine) (k : Nat) :
    Wire.Writes ((engine.stream k).ch.sent.map encodeFrame)
      (engine.stream k).writable.written.flatten
      (engine.stream k).writable.resolved.flatten := by
  have write := (engine.inv.stream k).write
  have handed := write.handed_prefix
  have wf : ∀ frame ∈ (engine.stream k).ch.sent, frame.WF := write.wf
  have conforming : Conforming (engine.stream k).ch.sent := write.conforming
  refine ⟨(engine.stream k).ch.sent.map Frame.toWire,
    .of_map (fun frame member => (wf frame member).message) (conforms_toWire conforming), ?_,
    fun _ => ?_⟩
  · rw [payload_toWire]
    exact handed.1
  · rw [payload_toWire]
    exact handed.2

/-- Stream `k` of an engine as a writer: a write that resolved is accepted. -/
def writer (limits : FlowLimits) (controlOpen : Bool) (k : Nat) : Wire.Writer where
  State := Engine
  Label := Event
  start := new limits controlOpen
  step engine event := some (engine.step event)
  messages engine := (engine.stream k).ch.sent.map encodeFrame
  written engine := (engine.stream k).writable.written.flatten
  accepted engine := (engine.stream k).writable.resolved.flatten
  grows engine event next stepped := by
    cases stepped
    exact (engine.sent_step event k).map encodeFrame
  writes _ engine _ := engine.writes k

/-! ### A reader -/

/-- The message that arrives on channel `k`. -/
def arrival (k : Nat) : Event → Option Bytes
  | .channelMessage j data => if j = k then some data else none
  | _ => none

/-- What the streams accept in an event: the frames that arrive, or none and `fatal` is called. -/
theorem accepts (engine : Engine) (event : Event) (k : Nat)
    (faultless : (engine.step event).Faultless)
    (known : arrival k event ≠ none → k ∈ engine.core.ids) :
    ∃ frames, ((engine.step event).stream k).accepted = (engine.stream k).accepted ++ frames ∧
      List.Forall₂ Wire.FrameMessage (arrival k event).toList (frames.map Frame.toWire) := by
  obtain ⟨heard, middle, arrives, -, reaction⟩ := (engine.inv.step event).split
  have accepted := ((arrives.moves engine.inv).react reaction.step).accepted k
  refine ⟨heard k, accepted, ?_⟩
  cases arriving : arrival k event with
  | none =>
    have silent : heard k = [] := by
      cases arrives with
      | @channelMessage j data frame =>
        refine Function.update_of_ne (fun same => ?_) _ _
        subst same
        rw [show arrival k (.channelMessage k data) = some data from if_pos rfl] at arriving
        cases arriving
      | _ => rfl
    rw [silent]
    exact .nil
  | some data =>
    have present := known (by rw [arriving]; exact Option.some_ne_none data)
    obtain ⟨j, message, rfl⟩ : ∃ j message, event = .channelMessage j message := by
      cases event <;> first | exact ⟨_, _, rfl⟩ | cases arriving
    simp only [arrival] at arriving
    split at arriving
    · next here =>
      cases arriving
      subst here
      cases arrives with
      | «local» silent => cases silent
      | stranger about absent =>
        cases about
        exact absurd present absent
      | @badFrame _ _ text _ bad =>
        have ran : engine.core.step (.channelMessage j data) = engine.core.onFrame j data :=
          if_pos present
        have told :=
          ConnCore.log_fatal { code := some .protocolError, message := some text } engine.core
        rw [← ConnCore.protocolError, ← ConnCore.onFrame_bad bad, ← ran] at told
        exact absurd told (faultless _)
      | channelMessage _ parsed =>
        rw [Function.update_self]
        exact .cons (message_of_parse parsed) .nil
    · cases arriving

/-- The engine has stream `k` if a message of it arrives. -/
def Has (k : Nat) (engine : Engine) (event : Event) : Prop :=
  arrival k event = none ∨ k ∈ engine.core.ids

instance (k : Nat) (engine : Engine) (event : Event) : Decidable (Has k engine event) :=
  inferInstanceAs (Decidable (_ ∨ _))

/-- An engine that is given messages of a stream it has. -/
def receive (k : Nat) : Engine → Event → Option Engine :=
  restrict (fun engine event => some (engine.step event)) (Has k)

/-- The frames a stream has accepted are those of the messages, unless `fatal` was called. -/
theorem hears {limits : FlowLimits} {controlOpen : Bool} {events : List Event}
    (ran : run (receive k) (new limits controlOpen) events = some engine)
    (faultless : engine.Faultless) :
    List.Forall₂ Wire.FrameMessage (events.filterMap (arrival k))
      ((engine.stream k).accepted.map Frame.toWire) := by
  obtain ⟨meets, ran⟩ := run_restrict ran
  have start : (new limits controlOpen).Faultless → List.Forall₂ Wire.FrameMessage []
      (((new limits controlOpen).stream k).accepted.map Frame.toWire) := by
    intro _
    have blank : ((new limits controlOpen).stream k).accepted = [] := by cases controlOpen <;> rfl
    rw [blank]
    exact .nil
  have preserves (messages : List Bytes) (engine : Engine) (event : Event) (next : Engine)
    (known : Has k engine event)
      (inv : engine.Faultless →
        List.Forall₂ Wire.FrameMessage messages ((engine.stream k).accepted.map Frame.toWire))
      (stepped : some (engine.step event) = some next) : next.Faultless →
        List.Forall₂ Wire.FrameMessage
        (messages ++ (arrival k event).toList) ((next.stream k).accepted.map Frame.toWire) := by
    intro faultless
    cases stepped
    obtain ⟨frames, accepted, new⟩ :=
      engine.accepts event k faultless fun arriving => known.resolve_left arriving
    rw [accepted, List.map_append]
    exact List.rel_append (inv faultless.before) new
  have heard := run_invariant_of_outputs preserves meets start ran
  rw [outputs_of_labels ran] at heard
  exact heard faultless

/-- Stream `k` of an engine as a reader: it is clean until `fatal` is called. -/
def reader (limits : FlowLimits) (controlOpen : Bool) (k : Nat) : Wire.Reader where
  State := Engine
  Label := Event
  start := new limits controlOpen
  step := receive k
  deliver := .channelMessage k
  arrival := arrival k
  arrival_deliver _ := if_pos rfl
  returned engine := (engine.stream k).readable.enqueued.flatten
  ended engine := (engine.stream k).readable.state = .closed
  clean := Faultless
  reads events engine ran faultless frames carries := by
    have read := (engine.inv.stream k).read
    have same : frames = (engine.stream k).accepted.map Frame.toWire :=
      List.right_unique_forall₂' Wire.frameMessage_rightUnique carries.each (hears ran faultless)
    subst same
    refine ⟨?_, fun closed => ?_⟩
    · rw [payload_toWire]
      exact read.obtained
    · obtain ⟨fin, -, whole⟩ := read.eof closed
      refine ⟨mem_fin_toWire (read.fin.symm.trans fin), ?_⟩
      rw [payload_toWire]
      exact whole

end Engine

end Kps.Ts
