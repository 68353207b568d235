/-
**What one implementation writes, the others read.**

The three encoders write the same bytes, those of `Frame.message` and `Control.message`; a Rust
`ErrorCode` is a code of the registry, and a Go or Rust HELLO is of version 1.

* `FrameMessage.of_wf`, `ControlMessage.of_wf` — the encoding of a frame in range is a message of
  the language;
* `codec_interoperates` — whatever an encoder writes for a frame in range, each decoder reads as
  that frame, and no two frames are written alike.
-/

import Kps.Wire.Agreement

namespace Kps.Wire

open Kps.Lib

/-- The integers and the size of a frame are within the ranges of the wire. -/
def Frame.WF : Frame → Prop
  | .data payload => 1 ≤ payload.length ∧ payload.length ≤ maxPayload
  | .fin => True
  | .reset code => code < 2 ^ 32
  | .stopSending code => code < 2 ^ 32
  | .maxStreamData value => value ≤ maxCredit

/-- The message that carries a frame. -/
def Frame.message : Frame → Bytes
  | .data payload => 0x00 :: payload
  | .fin => [0x01]
  | .reset code => 0x02 :: toBE 4 code
  | .stopSending code => 0x03 :: toBE 4 code
  | .maxStreamData value => 0x04 :: toBE 8 value

def Control.WF : Control → Prop
  | .close code => code < 2 ^ 32
  | .hello version streamData data streams =>
    version < 256 ∧ streamData ≤ maxCredit ∧ data ≤ maxCredit ∧ streams ≤ maxCredit
  | .maxData value => value ≤ maxCredit
  | .maxStreams value => value ≤ maxCredit

/-- The bytes of a control message. -/
def Control.message : Control → Bytes
  | .close code => 0x00 :: toBE 4 code
  | .hello version streamData data streams =>
    0x01 :: UInt8.ofNat version :: (toBE 8 streamData ++ (toBE 8 data ++ toBE 8 streams))
  | .maxData value => 0x02 :: toBE 8 value
  | .maxStreams value => 0x03 :: toBE 8 value

/-! ### The encoding in the language -/

theorem ofBE_credit {value : Nat} (inRange : value ≤ maxCredit) : ofBE (toBE 8 value) = value := by
  refine ofBE_toBE_of_lt ?_
  unfold maxCredit at inRange
  omega

theorem ofBE_code {code : Nat} (inRange : code < 2 ^ 32) : ofBE (toBE 4 code) = code := by
  refine ofBE_toBE_of_lt ?_
  omega

theorem FrameMessage.of_wf {frame : Frame} (wf : frame.WF) : FrameMessage frame.message frame := by
  cases frame with
  | data payload =>
    obtain ⟨filled, small⟩ := wf
    exact .data filled small
  | fin => exact .fin
  | reset code =>
    have written : FrameMessage (0x02 :: toBE 4 code) _ := .reset (length_toBE 4 code)
    rw [ofBE_code wf] at written
    exact written
  | stopSending code =>
    have written : FrameMessage (0x03 :: toBE 4 code) _ := .stopSending (length_toBE 4 code)
    rw [ofBE_code wf] at written
    exact written
  | maxStreamData value =>
    have inRange : ofBE (toBE 8 value) ≤ maxCredit := (ofBE_credit wf).le.trans wf
    have written : FrameMessage (0x04 :: toBE 8 value) _ :=
      .maxStreamData (length_toBE 8 value) inRange
    rw [ofBE_credit wf] at written
    exact written

theorem ControlMessage.of_wf {control : Control} (wf : control.WF) :
    ControlMessage control.message control := by
  cases control with
  | close code =>
    have written : ControlMessage (0x00 :: toBE 4 code) _ := .close (length_toBE 4 code)
    rw [ofBE_code wf] at written
    exact written
  | hello version streamData data streams =>
    obtain ⟨byte, first, second, third⟩ := wf
    have written :
        ControlMessage
        (0x01 :: UInt8.ofNat version :: (toBE 8 streamData ++ (toBE 8 data ++ toBE 8 streams))) _ :=
      .hello ⟨length_toBE 8 _, length_toBE 8 _, length_toBE 8 _⟩
        ⟨(ofBE_credit first).le.trans first, (ofBE_credit second).le.trans second,
          (ofBE_credit third).le.trans third⟩
    have version_back : (UInt8.ofNat version).toNat = version := UInt8.toNat_ofNat_of_lt' byte
    rw [ofBE_credit first, ofBE_credit second, ofBE_credit third, version_back] at written
    exact written
  | maxData value =>
    have inRange : ofBE (toBE 8 value) ≤ maxCredit := (ofBE_credit wf).le.trans wf
    have written : ControlMessage (0x02 :: toBE 8 value) _ := .maxData (length_toBE 8 value) inRange
    rw [ofBE_credit wf] at written
    exact written
  | maxStreams value =>
    have inRange : ofBE (toBE 8 value) ≤ maxCredit := (ofBE_credit wf).le.trans wf
    have written : ControlMessage (0x03 :: toBE 8 value) _ :=
      .maxStreams (length_toBE 8 value) inRange
    rw [ofBE_credit wf] at written
    exact written

/-! ### The encoders -/

/-- The codes of a frame are in the registry. -/
def Frame.Registered : Frame → Prop
  | .reset code => code ≤ 11
  | .stopSending code => code ≤ 11
  | _ => True

/-- A Rust connection can send it. -/
def Control.Registered : Control → Prop
  | .close code => code ≤ 11
  | _ => True

/-- It is no HELLO of another version. -/
def Control.Current : Control → Prop
  | .hello version _ _ _ => version = 1
  | _ => True

/-- Some implementation writes the message for the frame. -/
inductive Frame.Encodes (frame : Frame) : Bytes → Prop
  | ts : frame.Encodes (Ts.encodeFrame (.ofWire frame))
  | go : frame.Encodes (Go.encodeFrame frame)
  | rust (registered : frame.Registered) : frame.Encodes (Rust.encodeFrame (.ofWire frame))

inductive Control.Encodes (control : Control) : Bytes → Prop
  | ts : control.Encodes (Ts.encodeControl (.ofWire control))
  | go (current : control.Current) : control.Encodes (Go.encodeControl control)
  | rust (registered : control.Registered) (current : control.Current) :
    control.Encodes (Rust.encodeControl (.ofWire control))

theorem toWire_code {code : Nat} (registered : code ≤ 11) :
    toBE 4 (Rust.ErrorCode.fromWire code).toWire = toBE 4 code := by
  rw [Rust.ErrorCode.toWire_fromWire registered]

theorem Frame.Encodes.eq {frame : Frame} {data : Bytes} (encodes : frame.Encodes data) :
    data = frame.message := by
  cases encodes with
  | ts => cases frame <;> rfl
  | go => cases frame <;> rfl
  | rust registered =>
    cases frame with
    | reset code => exact congrArg (List.cons 0x02) (toWire_code registered)
    | stopSending code => exact congrArg (List.cons 0x03) (toWire_code registered)
    | _ => rfl

theorem Control.Encodes.eq {control : Control} {data : Bytes} (encodes : control.Encodes data) :
    data = control.message := by
  cases encodes with
  | ts => cases control <;> rfl
  | go current =>
    cases control with
    | hello version streamData data streams =>
      cases current
      rfl
    | _ => rfl
  | rust registered current =>
    cases control with
    | close code => exact congrArg (List.cons 0x00) (toWire_code registered)
    | hello version streamData data streams =>
      cases current
      rfl
    | _ => rfl

/-! ### The decoders -/

/-- The three decoders read the frame. -/
structure Frame.ReadFrom (frame : Frame) (data : Bytes) : Prop where
  ts : Ts.parseFrame data = .ok (.ofWire frame)
  go : Go.parseFrame data = .ok (.ofWire frame)
  rust : Rust.parseFrame data = .ok (.ofWire frame)

structure Control.ReadFrom (control : Control) (data : Bytes) : Prop where
  ts : Ts.decodeControl data = .ok (.ofWire control)
  go : Go.decodeControl data = .ok (.ofWire control)
  rust : Rust.decodeControl data = .ok (.ofWire control)

theorem FrameMessage.readFrom {data : Bytes} {frame : Frame} (message : FrameMessage data frame) :
    frame.ReadFrom data where
  ts := (Ts.parseFrame_decodes data _).mpr ⟨frame, message, rfl⟩
  go := (Go.parseFrame_decodes data _).mpr ⟨frame, message, rfl⟩
  rust := (Rust.parseFrame_decodes data _).mpr ⟨frame, message, rfl⟩

theorem ControlMessage.readFrom {data : Bytes} {control : Control}
    (message : ControlMessage data control) :
    control.ReadFrom data where
  ts := (Ts.decodeControl_decodes data _).mpr ⟨control, message, rfl⟩
  go := (Go.decodeControl_decodes data _).mpr ⟨control, message, rfl⟩
  rust := (Rust.decodeControl_decodes data _).mpr ⟨control, message, rfl⟩

/-- The Go decoder forgets nothing. -/
theorem ofWire_injective : Function.Injective Go.ParsedFrame.ofWire := by
  intro frame frame' same
  cases frame <;> cases frame' <;> simp_all [Go.ParsedFrame.ofWire]

theorem controlOfWire_injective {control control' : Control} (wf : control.WF) (wf' : control'.WF)
    (same : Go.ControlMsg.ofWire control = Go.ControlMsg.ofWire control') : control = control' := by
  cases control with
  | hello version streamData data streams =>
    cases control' with
    | hello version' streamData' data' streams' =>
      obtain ⟨-, -, versions, limits, -⟩ := Go.ControlMsg.mk.inj same
      obtain ⟨rfl, rfl, rfl⟩ := Go.FlowLimits.mk.inj limits
      have back : version = version' := by
        have bytes := congrArg UInt8.toNat versions
        rwa [UInt8.toNat_ofNat_of_lt' wf.1, UInt8.toNat_ofNat_of_lt' wf'.1] at bytes
      rw [back]
    | _ => cases same
  | _ => cases control' <;> simp_all [Go.ControlMsg.ofWire]

/-- **What one implementation writes, the others read**: the message that any of the three encoders
writes for a frame or control message in range is read by each of the three decoders as that frame
or message, and no two are written alike. -/
theorem codec_interoperates :
    (∀ (frame : Frame) (data : Bytes), frame.WF → frame.Encodes data →
      frame.ReadFrom data ∧ ∀ other : Frame, other.WF → other.Encodes data → other = frame) ∧
    ∀ (control : Control) (data : Bytes), control.WF → control.Encodes data →
      control.ReadFrom data ∧ ∀ other : Control, other.WF → other.Encodes data →
      other = control := by
  constructor
  · intro frame data wf encodes
    have reads {frame : Frame} (wf : frame.WF) (encodes : frame.Encodes data) :
        frame.ReadFrom data := by
      rw [encodes.eq]
      exact (FrameMessage.of_wf wf).readFrom
    refine ⟨reads wf encodes, fun other wf' encodes' => ofWire_injective ?_⟩
    exact Except.ok.inj ((reads wf' encodes').go.symm.trans (reads wf encodes).go)
  · intro control data wf encodes
    have reads {control : Control} (wf : control.WF) (encodes : control.Encodes data) :
        control.ReadFrom data := by
      rw [encodes.eq]
      exact (ControlMessage.of_wf wf).readFrom
    refine ⟨reads wf encodes, fun other wf' encodes' => controlOfWire_injective wf' wf ?_⟩
    exact Except.ok.inj ((reads wf' encodes').go.symm.trans (reads wf encodes).go)

/-- A RESET with a code outside the registry, which only Go and TypeScript send, and a HELLO. -/
theorem codec_interoperates_reset : (Frame.reset 12).ReadFrom (Go.encodeFrame (.reset 12)) ∧
    (Control.hello 1 8 8 8).ReadFrom (Go.encodeControl (.hello 1 8 8 8)) := by
  have reset : (Frame.reset 12).WF := show 12 < 2 ^ 32 by decide
  have hello : (Control.hello 1 8 8 8).WF :=
    show 1 < 256 ∧ 8 ≤ maxCredit ∧ 8 ≤ maxCredit ∧ 8 ≤ maxCredit by decide
  exact ⟨(codec_interoperates.1 _ _ reset .go).1, (codec_interoperates.2 _ _ hello (.go rfl)).1⟩

end Kps.Wire
