/-
**The wire codec of the Rust crate** (`framing.rs` and `ErrorCode` of `error.rs`).

* `parseFrame_decodes`, `decodeControl_decodes` — the two decoders accept the language of the wire;
* `codec_exact` — and re-encoding what they accept gives the same bytes, but for a code outside the
  registry and the version of a HELLO.
-/

import Kps.Lib.Decoder
import Kps.Wire.Language
import Mathlib.Tactic.IntervalCases

namespace Kps.Rust

open Kps.Lib

inductive ErrorCode
  | none
  | cancelled
  | closed
  | reset
  | timeout
  | networkError
  | protocolError
  | unsupported
  | tooLarge
  | queueFull
  | permissionDenied
  | internalError
  deriving DecidableEq, Repr

namespace ErrorCode

/-- Unknown values sink to `InternalError`, except `0` which is `None`. -/
def fromWire : Nat → ErrorCode
  | 0 => none
  | 1 => cancelled
  | 2 => closed
  | 3 => reset
  | 4 => timeout
  | 5 => networkError
  | 6 => protocolError
  | 7 => unsupported
  | 8 => tooLarge
  | 9 => queueFull
  | 10 => permissionDenied
  | _ => internalError

def toWire : ErrorCode → Nat
  | none => 0
  | cancelled => 1
  | closed => 2
  | reset => 3
  | timeout => 4
  | networkError => 5
  | protocolError => 6
  | unsupported => 7
  | tooLarge => 8
  | queueFull => 9
  | permissionDenied => 10
  | internalError => 11

/-- `Display`. -/
def display : ErrorCode → String
  | none => "none"
  | cancelled => "cancelled"
  | closed => "closed"
  | reset => "reset"
  | timeout => "timeout"
  | networkError => "network-error"
  | protocolError => "protocol-error"
  | unsupported => "unsupported"
  | tooLarge => "too-large"
  | queueFull => "queue-full"
  | permissionDenied => "permission-denied"
  | internalError => "internal-error"

@[simp] theorem fromWire_toWire (code : ErrorCode) : fromWire code.toWire = code := by
  cases code <;> rfl

theorem toWire_le (code : ErrorCode) : code.toWire ≤ 11 := by cases code <;> decide

theorem toWire_fromWire {v : Nat} (registered : v ≤ 11) : (fromWire v).toWire = v := by
  interval_cases v <;> rfl

theorem fromWire_of_gt {v : Nat} (outside : 11 < v) : fromWire v = internalError := by
  match v, outside with
  | v + 12, _ => rfl

end ErrorCode

/-! ### Frames -/

inductive FrameType
  | data
  | fin
  | reset
  | stopSending
  | maxStreamData
  deriving DecidableEq, Repr

def FrameType.toByte : FrameType → UInt8
  | data => 0x00
  | fin => 0x01
  | reset => 0x02
  | stopSending => 0x03
  | maxStreamData => 0x04

def maxWebrtcFrameSize : Nat := 16384

def maxFramePayload : Nat := maxWebrtcFrameSize - 1

def maxOffset : Nat := 4611686018427387903

def encodeData (p : Bytes) : Bytes := FrameType.data.toByte :: p

def encodeFin : Bytes := [FrameType.fin.toByte]

def encodeCode (t : FrameType) (code : ErrorCode) : Bytes := t.toByte :: toBE 4 code.toWire

def encodeMaxStreamData (v : Nat) : Bytes := FrameType.maxStreamData.toByte :: toBE 8 v

inductive ParsedFrame
  | data (payload : Bytes)
  | fin
  | reset (code : ErrorCode)
  | stopSending (code : ErrorCode)
  | maxStreamData (v : Nat)
  deriving DecidableEq, Repr

/-- The encoder of each frame. -/
def encodeFrame : ParsedFrame → Bytes
  | .data payload => encodeData payload
  | .fin => encodeFin
  | .reset code => encodeCode .reset code
  | .stopSending code => encodeCode .stopSending code
  | .maxStreamData v => encodeMaxStreamData v

/-- A byte as `{t:02x}` writes it. -/
def hex02 (byte : UInt8) : String :=
  let digits := Nat.toDigits 16 byte.toNat
  String.ofList (if digits.length < 2 then '0' :: digits else digits)

def parseFrame (data : Bytes) : Except String ParsedFrame :=
  match data with
  | [] => .error "empty data-channel message"
  | t :: payload =>
    if data.length > maxWebrtcFrameSize then
      .error ("frame exceeds " ++ toString maxWebrtcFrameSize ++ " bytes (" ++
        toString data.length ++ ")")
    else if t = 0x00 then
      if payload.isEmpty then .error "empty DATA frame" else .ok (.data payload)
    else if t = 0x01 then
      if !payload.isEmpty then .error "FIN with payload" else .ok .fin
    else if t = 0x02 ∨ t = 0x03 then
      if payload.length ≠ 4 then .error "RESET/STOP_SENDING payload must be 4 bytes"
      else
        let code := ErrorCode.fromWire (ofBE payload)
        if t = 0x02 then .ok (.reset code) else .ok (.stopSending code)
    else if t = 0x04 then
      if payload.length ≠ 8 then .error "MAX_STREAM_DATA payload must be 8 bytes"
      else
        let v := ofBE payload
        if v > maxOffset then .error "MAX_STREAM_DATA above MAX_OFFSET"
        else .ok (.maxStreamData v)
    else .error ("unknown frame type 0x" ++ hex02 t)

/-- The frame a message carries, in the crate's terms. -/
def ParsedFrame.ofWire : Wire.Frame → ParsedFrame
  | .data payload => .data payload
  | .fin => .fin
  | .reset code => .reset (ErrorCode.fromWire code)
  | .stopSending code => .stopSending (ErrorCode.fromWire code)
  | .maxStreamData value => .maxStreamData value

/-- **`parse_frame` decodes the language of frames.** -/
theorem parseFrame_decodes : Decodes Wire.FrameMessage parseFrame ParsedFrame.ofWire := by
  intro data frame
  constructor
  · intro parsed
    unfold parseFrame at parsed
    split at parsed
    · cases parsed
    next t payload =>
    split at parsed
    · cases parsed
    next fits =>
    have small : payload.length ≤ Wire.maxPayload := by
      rw [List.length_cons] at fits
      unfold maxWebrtcFrameSize at fits
      unfold Wire.maxPayload
      omega
    split at parsed
    · next data =>
      subst data
      split at parsed
      · cases parsed
      next filled =>
        cases parsed
        have filled : payload ≠ [] := by simpa using filled
        exact ⟨.data payload, .data (List.length_pos_iff.mpr filled) small, rfl⟩
    split at parsed
    · next fin =>
      subst fin
      split at parsed
      · cases parsed
      next empty =>
        cases parsed
        have empty : payload = [] := by simpa using empty
        subst empty
        exact ⟨.fin, .fin, rfl⟩
    split at parsed
    · next code =>
      split at parsed
      · cases parsed
      next wide =>
      have wide : payload.length = 4 := not_not.mp wide
      dsimp only at parsed
      split at parsed
      · next reset =>
        subst reset
        cases parsed
        exact ⟨_, .reset wide, rfl⟩
      · next other =>
        have stop := code.resolve_left other
        subst stop
        cases parsed
        exact ⟨_, .stopSending wide, rfl⟩
    split at parsed
    · next credit =>
      subst credit
      split at parsed
      · cases parsed
      next wide =>
      dsimp only at parsed
      split at parsed
      · cases parsed
      next inRange =>
        cases parsed
        exact ⟨_, .maxStreamData (not_not.mp wide) (not_lt.mp inRange), rfl⟩
    · cases parsed
  · rintro ⟨carried, message, rfl⟩
    unfold parseFrame
    cases message with
    | @data payload filled small =>
      unfold Wire.maxPayload at small
      have fits : ¬ (payload.length + 1 > maxWebrtcFrameSize) := by
        unfold maxWebrtcFrameSize
        omega
      have filled : payload ≠ [] := List.length_pos_iff.mp filled
      simp [fits, filled, ParsedFrame.ofWire]
    | fin => rfl
    | reset wide => simp [wide, maxWebrtcFrameSize, ParsedFrame.ofWire]
    | stopSending wide => simp [wide, maxWebrtcFrameSize, ParsedFrame.ofWire]
    | maxStreamData wide inRange =>
      have inRange : ¬ (_ > maxOffset) := Nat.not_lt.mpr inRange
      simp [wide, maxWebrtcFrameSize, inRange, ParsedFrame.ofWire]

/-- A frame the encoders take, within the ranges of the wire. -/
def ParsedFrame.WF : ParsedFrame → Prop
  | .data payload => 1 ≤ payload.length ∧ payload.length ≤ maxFramePayload
  | .maxStreamData v => v ≤ maxOffset
  | _ => True

theorem ofBE_toWire (code : ErrorCode) : ofBE (toBE 4 code.toWire) = code.toWire := by
  have small := code.toWire_le
  exact ofBE_toBE_of_lt (by omega)

theorem parseFrame_encodeFrame {frame : ParsedFrame} (wf : frame.WF) :
    parseFrame (encodeFrame frame) = .ok frame := by
  rw [parseFrame_decodes]
  cases frame with
  | data payload => exact ⟨.data payload, .data wf.1 wf.2, rfl⟩
  | fin => exact ⟨.fin, .fin, rfl⟩
  | reset code =>
    refine ⟨_, .reset (length_toBE 4 _), ?_⟩
    rw [ofBE_toWire, ParsedFrame.ofWire, ErrorCode.fromWire_toWire]
  | stopSending code =>
    refine ⟨_, .stopSending (length_toBE 4 _), ?_⟩
    rw [ofBE_toWire, ParsedFrame.ofWire, ErrorCode.fromWire_toWire]
  | maxStreamData v =>
    have inRange : v ≤ maxOffset := wf
    have back : ofBE (toBE 8 v) = v :=
      ofBE_toBE_of_lt (by unfold maxOffset at inRange; omega)
    exact ⟨_, .maxStreamData (length_toBE 8 v) (back.le.trans inRange), by rw [back]; rfl⟩

/-- Re-encoding a code of four bytes, registered or not. -/
theorem toBE_fromWire {code : Bytes} (wide : code.length = 4) :
    toBE 4 (ErrorCode.fromWire (ofBE code)).toWire =
      if 11 < ofBE code then toBE 4 ErrorCode.internalError.toWire else code := by
  by_cases outside : 11 < ofBE code
  · rw [if_pos outside, ErrorCode.fromWire_of_gt outside]
  · rw [if_neg outside, ErrorCode.toWire_fromWire (Nat.not_lt.mp outside), ← wide, toBE_ofBE]

/-- The bytes a frame message is re-encoded to: its own, with a code outside the registry replaced
by `internal-error`. -/
def reencodedFrame : Bytes → Bytes
  | t :: payload =>
    if (t = 0x02 ∨ t = 0x03) ∧ 11 < ofBE payload then t :: toBE 4 ErrorCode.internalError.toWire
    else t :: payload
  | [] => []

theorem encodeFrame_parseFrame {data : Bytes} {frame : ParsedFrame}
    (parsed : parseFrame data = .ok frame) : encodeFrame frame = reencodedFrame data := by
  obtain ⟨carried, message, rfl⟩ := (parseFrame_decodes data frame).mp parsed
  cases message with
  | data filled small => rfl
  | fin => rfl
  | reset wide =>
    simp only [ParsedFrame.ofWire, encodeFrame, encodeCode, FrameType.toByte, reencodedFrame,
      toBE_fromWire wide, true_or, true_and]
    split <;> rfl
  | stopSending wide =>
    simp only [ParsedFrame.ofWire, encodeFrame, encodeCode, FrameType.toByte, reencodedFrame,
      toBE_fromWire wide, or_true, true_and]
    split <;> rfl
  | @maxStreamData value wide inRange =>
    show FrameType.maxStreamData.toByte :: toBE 8 (ofBE value) = _
    rw [← wide, toBE_ofBE]
    rfl

/-! ### The control channel -/

def wireVersion : UInt8 := 1

/-- `FlowLimits` of `flow.rs`. -/
structure FlowLimits where
  maxStreamData : Nat
  maxData : Nat
  maxStreams : Nat
  deriving DecidableEq, Repr

def encodeConnClose (code : ErrorCode) : Bytes := 0x00 :: toBE 4 code.toWire

def encodeHello (l : FlowLimits) : Bytes :=
  0x01 :: wireVersion :: (toBE 8 l.maxStreamData ++ (toBE 8 l.maxData ++ toBE 8 l.maxStreams))

def encodeMaxData (v : Nat) : Bytes := 0x02 :: toBE 8 v

def encodeMaxStreams (v : Nat) : Bytes := 0x03 :: toBE 8 v

inductive ControlMsg
  | close (code : ErrorCode)
  | hello (version : UInt8) (limits : FlowLimits)
  | maxData (v : Nat)
  | maxStreams (v : Nat)
  deriving DecidableEq, Repr

/-- The encoder of each control message; `encode_hello` takes no version. -/
def encodeControl : ControlMsg → Bytes
  | .close code => encodeConnClose code
  | .hello _ limits => encodeHello limits
  | .maxData v => encodeMaxData v
  | .maxStreams v => encodeMaxStreams v

/-- `data[first..last]`, as a big-endian integer. -/
def fromBe (data : Bytes) (first last : Nat) : Nat :=
  ofBE ((data.drop first).take (last - first))

def decodeControl (data : Bytes) : Except String ControlMsg :=
  match data with
  | [] => .error "empty control message"
  | t :: rest =>
    if t = 0x00 then
      if data.length ≠ 5 then .error "CONNECTION_CLOSE must be 5 bytes"
      else .ok (.close (ErrorCode.fromWire (fromBe data 1 5)))
    else if t = 0x01 then
      if data.length ≠ 26 then .error "HELLO must be 26 bytes"
      else
        let limits : FlowLimits := {
          maxStreamData := fromBe data 2 10
          maxData := fromBe data 10 18
          maxStreams := fromBe data 18 26 }
        if limits.maxStreamData > maxOffset ∨ limits.maxData > maxOffset ∨
            limits.maxStreams > maxOffset then .error "HELLO credit above MAX_OFFSET"
        else .ok (.hello (rest.headD 0) limits)
    else if t = 0x02 ∨ t = 0x03 then
      if data.length ≠ 9 then .error "MAX_DATA/MAX_STREAMS must be 9 bytes"
      else
        let v := fromBe data 1 9
        if v > maxOffset then .error "credit above MAX_OFFSET"
        else if t = 0x02 then .ok (.maxData v)
        else .ok (.maxStreams v)
    else .error ("unknown control message type 0x" ++ hex02 t)

/-- What a control message carries, in the crate's terms. -/
def ControlMsg.ofWire : Wire.Control → ControlMsg
  | .close code => .close (ErrorCode.fromWire code)
  | .hello version streamData data streams =>
    .hello (UInt8.ofNat version) ⟨streamData, data, streams⟩
  | .maxData value => .maxData value
  | .maxStreams value => .maxStreams value

/-- **`decode_control` decodes the language of control messages.** -/
theorem decodeControl_decodes : Decodes Wire.ControlMessage decodeControl ControlMsg.ofWire := by
  intro data message
  constructor
  · intro decoded
    unfold decodeControl at decoded
    split at decoded
    · cases decoded
    next t rest =>
    split at decoded
    · next close =>
      subst close
      split at decoded
      · cases decoded
      next wide =>
        have wide : rest.length = 4 := Nat.succ.inj (not_not.mp wide)
        have whole : fromBe (0x00 :: rest) 1 5 = ofBE rest := by
          simp [fromBe, List.take_of_length_le wide.le]
        cases decoded
        rw [whole]
        exact ⟨_, .close wide, rfl⟩
    split at decoded
    · next hello =>
      subst hello
      split at decoded
      · cases decoded
      next long =>
      have long : rest.length = 25 := Nat.succ.inj (not_not.mp long)
      dsimp only at decoded
      split at decoded
      · cases decoded
      next inRange =>
        push Not at inRange
        cases decoded
        refine ⟨_, .of_hello long inRange, ?_⟩
        rw [ControlMsg.ofWire, UInt8.ofNat_toNat]
        rfl
    split at decoded
    · next credit =>
      split at decoded
      · cases decoded
      next nine =>
      have wide : rest.length = 8 := Nat.succ.inj (not_not.mp nine)
      clear nine
      have whole : fromBe (t :: rest) 1 9 = ofBE rest := by
        simp [fromBe, List.take_of_length_le wide.le]
      dsimp only at decoded
      rw [whole] at decoded
      split at decoded
      · cases decoded
      next inRange =>
      have inRange : ofBE rest ≤ Wire.maxCredit := Nat.not_lt.mp inRange
      split at decoded
      · next data =>
        subst data
        cases decoded
        exact ⟨_, .maxData wide inRange, rfl⟩
      · next other =>
        have streams := credit.resolve_left other
        subst streams
        cases decoded
        exact ⟨_, .maxStreams wide inRange, rfl⟩
    · cases decoded
  · rintro ⟨carried, carries, rfl⟩
    unfold decodeControl
    cases carries with
    | close wide => simp [wide, fromBe, List.take_of_length_le wide.le, ControlMsg.ofWire]
    | @hello version streamData data streams wide inRange =>
      obtain ⟨first, second, third⟩ := Wire.hello_fields version wide
      have inRange : ¬ (ofBE streamData > maxOffset ∨ ofBE data > maxOffset ∨
          ofBE streams > maxOffset) := by
        rintro (exceeds | exceeds | exceeds)
        · exact absurd exceeds (Nat.not_lt.mpr inRange.1)
        · exact absurd exceeds (Nat.not_lt.mpr inRange.2.1)
        · exact absurd exceeds (Nat.not_lt.mpr inRange.2.2)
      have fields : fromBe (0x01 :: version :: (streamData ++ (data ++ streams))) 2 10 =
            ofBE streamData ∧
          fromBe (0x01 :: version :: (streamData ++ (data ++ streams))) 10 18 = ofBE data ∧
          fromBe (0x01 :: version :: (streamData ++ (data ++ streams))) 18 26 = ofBE streams :=
        ⟨congrArg ofBE first, congrArg ofBE second, congrArg ofBE third⟩
      simp [wide, fields, inRange, ControlMsg.ofWire]
    | maxData wide inRange =>
      have inRange : ¬ (_ > maxOffset) := Nat.not_lt.mpr inRange
      simp [wide, fromBe, List.take_of_length_le wide.le, inRange, ControlMsg.ofWire]
    | maxStreams wide inRange =>
      have inRange : ¬ (_ > maxOffset) := Nat.not_lt.mpr inRange
      simp [wide, fromBe, List.take_of_length_le wide.le, inRange, ControlMsg.ofWire]

/-- A control message the encoders produce, within the ranges of the wire. -/
def ControlMsg.WF : ControlMsg → Prop
  | .close _ => True
  | .hello version limits => version = wireVersion ∧ limits.maxStreamData ≤ maxOffset ∧
    limits.maxData ≤ maxOffset ∧ limits.maxStreams ≤ maxOffset
  | .maxData v => v ≤ maxOffset
  | .maxStreams v => v ≤ maxOffset

theorem ofBE_offset {v : Nat} (inRange : v ≤ maxOffset) : ofBE (toBE 8 v) = v :=
  ofBE_toBE_of_lt (by unfold maxOffset at inRange; omega)

theorem decodeControl_encodeControl {message : ControlMsg} (wf : message.WF) :
    decodeControl (encodeControl message) = .ok message := by
  rw [decodeControl_decodes]
  cases message with
  | close code =>
    refine ⟨_, .close (length_toBE 4 _), ?_⟩
    rw [ofBE_toWire, ControlMsg.ofWire, ErrorCode.fromWire_toWire]
  | hello version limits =>
    obtain ⟨rfl, streamData, data, streams⟩ := wf
    have message : Wire.ControlMessage (0x01 :: wireVersion :: (toBE 8 limits.maxStreamData ++
        (toBE 8 limits.maxData ++ toBE 8 limits.maxStreams))) _ := .hello
      ⟨length_toBE 8 _, length_toBE 8 _, length_toBE 8 _⟩
      ⟨(ofBE_offset streamData).le.trans streamData, (ofBE_offset data).le.trans data,
        (ofBE_offset streams).le.trans streams⟩
    rw [ofBE_offset streamData, ofBE_offset data, ofBE_offset streams] at message
    exact ⟨_, message, rfl⟩
  | maxData v =>
    exact ⟨_, .maxData (length_toBE 8 v) ((ofBE_offset wf).le.trans wf),
      by rw [ofBE_offset wf]; rfl⟩
  | maxStreams v =>
    exact ⟨_, .maxStreams (length_toBE 8 v) ((ofBE_offset wf).le.trans wf),
      by rw [ofBE_offset wf]; rfl⟩

/-- The bytes a control message is re-encoded to: its own, with a code outside the registry replaced
by `internal-error` and the version of a HELLO by the crate's. -/
def reencodedControl : Bytes → Bytes
  | t :: rest =>
    if t = 0x00 ∧ 11 < ofBE rest then t :: toBE 4 ErrorCode.internalError.toWire
    else if t = 0x01 then t :: wireVersion :: rest.tail
    else t :: rest
  | [] => []

theorem encodeControl_decodeControl {data : Bytes} {message : ControlMsg}
    (decoded : decodeControl data = .ok message) :
    encodeControl message = reencodedControl data := by
  obtain ⟨carried, carries, rfl⟩ := (decodeControl_decodes data message).mp decoded
  cases carries with
  | close wide =>
    simp only [ControlMsg.ofWire, encodeControl, encodeConnClose, reencodedControl,
      toBE_fromWire wide, true_and]
    split <;> rfl
  | @hello version streamData data streams wide inRange =>
    obtain ⟨first, second, third⟩ := wide
    show 0x01 :: wireVersion :: (toBE 8 (ofBE streamData) ++ (toBE 8 (ofBE data) ++
      toBE 8 (ofBE streams))) = _
    have back {bytes : Bytes} (eight : bytes.length = 8) : toBE 8 (ofBE bytes) = bytes := by
      rw [← eight, toBE_ofBE]
    rw [back first, back second, back third]
    rfl
  | @maxData value wide inRange =>
    show 0x02 :: toBE 8 (ofBE value) = _
    rw [← wide, toBE_ofBE]
    rfl
  | @maxStreams value wide inRange =>
    show 0x03 :: toBE 8 (ofBE value) = _
    rw [← wide, toBE_ofBE]
    rfl

/-- **The codec is exact.** The decoders accept the language of the wire and no more, decoding gives
back whatever was encoded, and re-encoding gives back whatever was decoded, but for the codes
outside the registry and the versions of HELLOs. -/
theorem codec_exact :
    (∀ data, (∃ frame, parseFrame data = .ok frame) ↔ ∃ carried, Wire.FrameMessage data carried) ∧
    (∀ data, (∃ message, decodeControl data = .ok message) ↔
      ∃ carried, Wire.ControlMessage data carried) ∧
    (∀ frame : ParsedFrame, frame.WF → parseFrame (encodeFrame frame) = .ok frame) ∧
    (∀ message : ControlMsg, message.WF → decodeControl (encodeControl message) = .ok message) ∧
    (∀ data frame, parseFrame data = .ok frame → encodeFrame frame = reencodedFrame data) ∧
    ∀ data message, decodeControl data = .ok message →
      encodeControl message = reencodedControl data :=
  ⟨fun _ => parseFrame_decodes.accepts_iff, fun _ => decodeControl_decodes.accepts_iff,
    fun _ => parseFrame_encodeFrame, fun _ => decodeControl_encodeControl,
    fun _ _ => encodeFrame_parseFrame, fun _ _ => encodeControl_decodeControl⟩

end Kps.Rust
