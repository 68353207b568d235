/-
**The wire codec of the Go module** (`framing.go`).

`parseFrame_decodes` and `decodeControl_decodes`: the two decoders accept the language of the wire.
An `ErrorCode` is the `uint32` of the wire as it came; a code is not looked up in the registry.
-/

import Kps.Lib.Decoder
import Kps.Wire.Language

namespace Kps.Go

open Kps.Lib

inductive FrameType
  | frameData
  | frameFin
  | frameReset
  | frameStopSending
  | frameMaxStreamData
  deriving DecidableEq, Repr

def FrameType.toByte : FrameType → UInt8
  | frameData => 0x00
  | frameFin => 0x01
  | frameReset => 0x02
  | frameStopSending => 0x03
  | frameMaxStreamData => 0x04

def maxWebRTCFrameSize : Nat := 16384

def maxFramePayload : Nat := maxWebRTCFrameSize - 1

def maxOffset : Nat := 4611686018427387903

/-- The text of `errProtocol`. -/
def errProtocol (text : String) : String := "kps: protocol violation: " ++ text

/-- An application-level code, a `uint32`. -/
abbrev ErrorCode := Nat

def codeNone : ErrorCode := 0
def codeClosed : ErrorCode := 2
def codeTimeout : ErrorCode := 4
def codeNetworkError : ErrorCode := 5
def codeProtocolError : ErrorCode := 6
def codeUnsupported : ErrorCode := 7

/-- `*StreamError`. -/
structure StreamError where
  code : ErrorCode
  remote : Bool
  deriving DecidableEq, Repr

def encodeData (p : Bytes) : Bytes := FrameType.frameData.toByte :: p

def encodeFin : Bytes := [FrameType.frameFin.toByte]

def encodeCode (t : FrameType) (code : ErrorCode) : Bytes := t.toByte :: toBE 4 code

def encodeMaxStreamData (v : Nat) : Bytes := FrameType.frameMaxStreamData.toByte :: toBE 8 v

/-- The encoder of each frame. -/
def encodeFrame : Wire.Frame → Bytes
  | .data payload => encodeData payload
  | .fin => encodeFin
  | .reset code => encodeCode .frameReset code
  | .stopSending code => encodeCode .frameStopSending code
  | .maxStreamData value => encodeMaxStreamData value

/-- One strictly-validated frame: `payload` is of DATA only, `credit` of MAX_STREAM_DATA only. -/
structure ParsedFrame where
  typ : FrameType
  payload : Bytes := []
  code : ErrorCode := 0
  credit : Nat := 0
  deriving DecidableEq, Repr

/-- A byte as `%02x` writes it. -/
def hex02 (byte : UInt8) : String :=
  let digits := Nat.toDigits 16 byte.toNat
  String.ofList (if digits.length < 2 then '0' :: digits else digits)

def parseFrame (data : Bytes) : Except String ParsedFrame :=
  match data with
  | [] => .error (errProtocol "empty data-channel message")
  | t :: payload =>
    if data.length > maxWebRTCFrameSize then
      .error (errProtocol ("frame exceeds " ++ toString maxWebRTCFrameSize ++ " bytes (" ++
        toString data.length ++ ")"))
    else if t = 0x00 then
      if payload.length = 0 then .error (errProtocol "empty DATA frame")
      else .ok { typ := .frameData, payload }
    else if t = 0x01 then
      if payload.length ≠ 0 then .error (errProtocol "FIN with payload")
      else .ok { typ := .frameFin }
    else if t = 0x02 ∨ t = 0x03 then
      if payload.length ≠ 4 then
        .error (errProtocol "RESET/STOP_SENDING payload must be 4 bytes")
      else
        .ok { typ := if t = 0x02 then .frameReset else .frameStopSending, code := ofBE payload }
    else if t = 0x04 then
      if payload.length ≠ 8 then .error (errProtocol "MAX_STREAM_DATA payload must be 8 bytes")
      else
        let v := ofBE payload
        if v > maxOffset then .error (errProtocol "MAX_STREAM_DATA above MAX_OFFSET")
        else .ok { typ := .frameMaxStreamData, credit := v }
    else .error (errProtocol ("unknown frame type 0x" ++ hex02 t))

/-- The frame a message carries, in the module's terms. -/
def ParsedFrame.ofWire : Wire.Frame → ParsedFrame
  | .data payload => { typ := .frameData, payload }
  | .fin => { typ := .frameFin }
  | .reset code => { typ := .frameReset, code }
  | .stopSending code => { typ := .frameStopSending, code }
  | .maxStreamData value => { typ := .frameMaxStreamData, credit := value }

/-- **`parseFrame` decodes the language of frames.** -/
theorem parseFrame_decodes : Decodes Wire.FrameMessage parseFrame ParsedFrame.ofWire := by
  intro data frame
  constructor
  · intro parsed
    unfold parseFrame at parsed
    split at parsed
    · cases parsed
    next t payload =>
    split at parsed
    · cases parsed
    next fits =>
    have small : payload.length ≤ Wire.maxPayload := by
      rw [List.length_cons] at fits
      unfold maxWebRTCFrameSize at fits
      unfold Wire.maxPayload
      omega
    split at parsed
    · next data =>
      subst data
      split at parsed
      · cases parsed
      next filled =>
        cases parsed
        exact ⟨.data payload, .data (Nat.pos_of_ne_zero filled) small, rfl⟩
    split at parsed
    · next fin =>
      subst fin
      split at parsed
      · cases parsed
      next empty =>
        cases parsed
        have empty : payload = [] := List.length_eq_zero_iff.mp (not_not.mp empty)
        subst empty
        exact ⟨.fin, .fin, rfl⟩
    split at parsed
    · next code =>
      split at parsed
      · cases parsed
      next four =>
      have wide : payload.length = 4 := not_not.mp four
      cases parsed
      by_cases reset : t = 0x02
      · subst reset
        exact ⟨_, .reset wide, rfl⟩
      · have stop := code.resolve_left reset
        subst stop
        exact ⟨_, .stopSending wide, rfl⟩
    split at parsed
    · next credit =>
      subst credit
      split at parsed
      · cases parsed
      next wide =>
      dsimp only at parsed
      split at parsed
      · cases parsed
      next inRange =>
        cases parsed
        exact ⟨_, .maxStreamData (not_not.mp wide) (not_lt.mp inRange), rfl⟩
    · cases parsed
  · rintro ⟨carried, message, rfl⟩
    unfold parseFrame
    cases message with
    | @data payload filled small =>
      unfold Wire.maxPayload at small
      have fits : ¬ (payload.length + 1 > maxWebRTCFrameSize) := by
        unfold maxWebRTCFrameSize
        omega
      have filled : payload ≠ [] := List.length_pos_iff.mp filled
      simp [fits, filled, ParsedFrame.ofWire]
    | fin => rfl
    | reset wide => simp [wide, maxWebRTCFrameSize, ParsedFrame.ofWire]
    | stopSending wide => simp [wide, maxWebRTCFrameSize, ParsedFrame.ofWire]
    | maxStreamData wide inRange =>
      have inRange : ¬ (_ > maxOffset) := Nat.not_lt.mpr inRange
      simp [wide, maxWebRTCFrameSize, inRange, ParsedFrame.ofWire]

/-! ### The control channel -/

/-- `flowLimits` of `flow.go`, in `uint64`. -/
structure FlowLimits where
  maxStreamData : Nat
  maxData : Nat
  maxStreams : Nat
  deriving DecidableEq, Repr

inductive ControlType
  | ctrlConnClose
  | ctrlHello
  | ctrlMaxData
  | ctrlMaxStreams
  deriving DecidableEq, Repr

def ControlType.toByte : ControlType → UInt8
  | ctrlConnClose => 0x00
  | ctrlHello => 0x01
  | ctrlMaxData => 0x02
  | ctrlMaxStreams => 0x03

def wireVersion : Nat := 1

def encodeConnClose (code : ErrorCode) : Bytes := ControlType.ctrlConnClose.toByte :: toBE 4 code

def encodeHello (l : FlowLimits) : Bytes :=
  ControlType.ctrlHello.toByte :: UInt8.ofNat wireVersion ::
    (toBE 8 l.maxStreamData ++ (toBE 8 l.maxData ++ toBE 8 l.maxStreams))

def encodeMaxData (v : Nat) : Bytes := ControlType.ctrlMaxData.toByte :: toBE 8 v

def encodeMaxStreams (v : Nat) : Bytes := ControlType.ctrlMaxStreams.toByte :: toBE 8 v

/-- The encoder of each control message; `encodeHello` takes no version. -/
def encodeControl : Wire.Control → Bytes
  | .close code => encodeConnClose code
  | .hello _ streamData data streams => encodeHello ⟨streamData, data, streams⟩
  | .maxData value => encodeMaxData value
  | .maxStreams value => encodeMaxStreams value

/-- `code` is of CONNECTION_CLOSE, `version` and `limits` of HELLO, `value` of the other two. -/
structure ControlMsg where
  typ : ControlType
  code : ErrorCode := 0
  version : UInt8 := 0
  limits : FlowLimits := ⟨0, 0, 0⟩
  value : Nat := 0
  deriving DecidableEq, Repr

/-- `binary.BigEndian` at an offset, over `width` bytes. -/
def bigEndian (data : Bytes) (offset width : Nat) : Nat := ofBE ((data.drop offset).take width)

def decodeControl (data : Bytes) : Except String ControlMsg :=
  match data with
  | [] => .error (errProtocol "empty control message")
  | t :: rest =>
    if t = 0x00 then
      if data.length ≠ 5 then .error (errProtocol "CONNECTION_CLOSE must be 5 bytes")
      else .ok { typ := .ctrlConnClose, code := bigEndian data 1 4 }
    else if t = 0x01 then
      if data.length ≠ 26 then .error (errProtocol "HELLO must be 26 bytes")
      else
        let l : FlowLimits := {
          maxStreamData := bigEndian data 2 8
          maxData := bigEndian data 10 8
          maxStreams := bigEndian data 18 8 }
        if l.maxStreamData > maxOffset ∨ l.maxData > maxOffset ∨ l.maxStreams > maxOffset then
          .error (errProtocol "HELLO credit above MAX_OFFSET")
        else .ok { typ := .ctrlHello, version := rest.headD 0, limits := l }
    else if t = 0x02 ∨ t = 0x03 then
      if data.length ≠ 9 then .error (errProtocol "MAX_DATA/MAX_STREAMS must be 9 bytes")
      else
        let v := bigEndian data 1 8
        if v > maxOffset then .error (errProtocol "credit above MAX_OFFSET")
        else .ok { typ := if t = 0x02 then .ctrlMaxData else .ctrlMaxStreams, value := v }
    else .error (errProtocol ("unknown control message type 0x" ++ hex02 t))

/-- What a control message carries, in the module's terms. -/
def ControlMsg.ofWire : Wire.Control → ControlMsg
  | .close code => { typ := .ctrlConnClose, code }
  | .hello version streamData data streams =>
    { typ := .ctrlHello, version := UInt8.ofNat version, limits := ⟨streamData, data, streams⟩ }
  | .maxData value => { typ := .ctrlMaxData, value }
  | .maxStreams value => { typ := .ctrlMaxStreams, value }

/-- **`decodeControl` decodes the language of control messages.** -/
theorem decodeControl_decodes : Decodes Wire.ControlMessage decodeControl ControlMsg.ofWire := by
  intro data message
  constructor
  · intro decoded
    unfold decodeControl at decoded
    split at decoded
    · cases decoded
    next t rest =>
    split at decoded
    · next close =>
      subst close
      split at decoded
      · cases decoded
      next wide =>
        have wide : rest.length = 4 := Nat.succ.inj (not_not.mp wide)
        have whole : bigEndian (0x00 :: rest) 1 4 = ofBE rest := by
          simp [bigEndian, List.take_of_length_le wide.le]
        cases decoded
        rw [whole]
        exact ⟨_, .close wide, rfl⟩
    split at decoded
    · next hello =>
      subst hello
      split at decoded
      · cases decoded
      next long =>
      have long : rest.length = 25 := Nat.succ.inj (not_not.mp long)
      dsimp only at decoded
      split at decoded
      · cases decoded
      next inRange =>
        push Not at inRange
        cases decoded
        refine ⟨_, .of_hello long inRange, ?_⟩
        rw [ControlMsg.ofWire, UInt8.ofNat_toNat]
        rfl
    split at decoded
    · next credit =>
      split at decoded
      · cases decoded
      next nine =>
      have wide : rest.length = 8 := Nat.succ.inj (not_not.mp nine)
      clear nine
      have whole : bigEndian (t :: rest) 1 8 = ofBE rest := by
        simp [bigEndian, List.take_of_length_le wide.le]
      dsimp only at decoded
      rw [whole] at decoded
      split at decoded
      · cases decoded
      next inRange =>
      have inRange : ofBE rest ≤ Wire.maxCredit := Nat.not_lt.mp inRange
      cases decoded
      by_cases data : t = 0x02
      · subst data
        exact ⟨_, .maxData wide inRange, rfl⟩
      · have streams := credit.resolve_left data
        subst streams
        exact ⟨_, .maxStreams wide inRange, rfl⟩
    · cases decoded
  · rintro ⟨carried, carries, rfl⟩
    unfold decodeControl
    cases carries with
    | close wide => simp [wide, bigEndian, List.take_of_length_le wide.le, ControlMsg.ofWire]
    | @hello version streamData data streams wide inRange =>
      obtain ⟨first, second, third⟩ := Wire.hello_fields version wide
      have inRange : ¬ (ofBE streamData > maxOffset ∨ ofBE data > maxOffset ∨
          ofBE streams > maxOffset) := by
        rintro (exceeds | exceeds | exceeds)
        · exact absurd exceeds (Nat.not_lt.mpr inRange.1)
        · exact absurd exceeds (Nat.not_lt.mpr inRange.2.1)
        · exact absurd exceeds (Nat.not_lt.mpr inRange.2.2)
      have fields : bigEndian (0x01 :: version :: (streamData ++ (data ++ streams))) 2 8 =
            ofBE streamData ∧
          bigEndian (0x01 :: version :: (streamData ++ (data ++ streams))) 10 8 = ofBE data ∧
          bigEndian (0x01 :: version :: (streamData ++ (data ++ streams))) 18 8 = ofBE streams :=
        ⟨congrArg ofBE first, congrArg ofBE second, congrArg ofBE third⟩
      simp [wide, fields, inRange, ControlMsg.ofWire]
    | maxData wide inRange =>
      have inRange : ¬ (_ > maxOffset) := Nat.not_lt.mpr inRange
      simp [wide, bigEndian, List.take_of_length_le wide.le, inRange, ControlMsg.ofWire]
    | maxStreams wide inRange =>
      have inRange : ¬ (_ > maxOffset) := Nat.not_lt.mpr inRange
      simp [wide, bigEndian, List.take_of_length_le wide.le, inRange, ControlMsg.ofWire]

end Kps.Go
