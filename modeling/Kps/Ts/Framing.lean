/-
**The stream frames of the WebRTC mapping** (`framing.ts`).

One data-channel message is one frame: a type byte and a payload. `parseFrame` enforces the wire
rules, and `parseFrame_encodeFrame` says that it reads every well-formed frame back.

A `Frame` is what the source calls a `ParsedFrame`; the encoders of the source are `encodeFrame` at
the five constructors.
-/

import Kps.Lib.Bytes
import Kps.Ts.Errors

namespace Kps.Ts

open Kps.Lib

def maxWebrtcFrameSize : Nat := 16384

def maxFramePayload : Nat := maxWebrtcFrameSize - 1

/-- Ceiling for every offset, limit and count, `2^62 - 1`. -/
def maxOffset : Nat := 4611686018427387903

/-- A parsed frame; integers are the unsigned values on the wire. -/
inductive Frame
  | data (payload : Bytes)
  | fin
  | reset (code : Nat)
  | stopSending (code : Nat)
  | maxStreamData (value : Nat)
  deriving DecidableEq, Repr

def encodeData (payload : Bytes) : Bytes := 0x00 :: payload

def encodeFin : Bytes := [0x01]

/-- The type byte and the code as a big-endian `uint32`. -/
def encodeCode (type : UInt8) (code : Nat) : Bytes := type :: toBE 4 code

def encodeMaxStreamData (value : Nat) : Bytes := 0x04 :: toBE 8 value

/-- The message that carries a frame. -/
def encodeFrame : Frame → Bytes
  | .data payload => encodeData payload
  | .fin => encodeFin
  | .reset code => encodeCode 0x02 code
  | .stopSending code => encodeCode 0x03 code
  | .maxStreamData value => encodeMaxStreamData value

/-- A byte in hexadecimal, as `toString(16)` writes it. -/
def hexString (byte : UInt8) : String := String.ofList (Nat.toDigits 16 byte.toNat)

/-- Parse one data-channel message; the error is the text of the `ProtocolViolation`. -/
def parseFrame (data : Bytes) : Except String Frame :=
  match data with
  | [] => .error "empty data-channel message"
  | type :: payload =>
    if data.length > maxWebrtcFrameSize then
      .error ("frame exceeds 16384 bytes (" ++ toString data.length ++ ")")
    else if type = 0x00 then
      if payload.length = 0 then .error "empty DATA frame" else .ok (.data payload)
    else if type = 0x01 then
      if payload.length ≠ 0 then .error "FIN with payload" else .ok .fin
    else if type = 0x02 then
      if payload.length ≠ 4 then .error "RESET payload must be 4 bytes"
      else .ok (.reset (ofBE payload))
    else if type = 0x03 then
      if payload.length ≠ 4 then .error "STOP_SENDING payload must be 4 bytes"
      else .ok (.stopSending (ofBE payload))
    else if type = 0x04 then
      if payload.length ≠ 8 then .error "MAX_STREAM_DATA payload must be 8 bytes"
      else if ofBE payload > maxOffset then .error "MAX_STREAM_DATA above MAX_OFFSET"
      else .ok (.maxStreamData (ofBE payload))
    else .error ("unknown frame type 0x" ++ hexString type)

/-- A frame the encoders can be given: sizes and integers within their wire ranges. -/
def Frame.WF : Frame → Prop
  | .data payload => 1 ≤ payload.length ∧ payload.length ≤ maxFramePayload
  | .fin => True
  | .reset code => code < 2 ^ 32
  | .stopSending code => code < 2 ^ 32
  | .maxStreamData value => value ≤ maxOffset

/-- Every well-formed frame is read back from its message. -/
theorem parseFrame_encodeFrame {frame : Frame} (wf : frame.WF) :
    parseFrame (encodeFrame frame) = .ok frame := by
  cases frame with
  | data payload =>
    obtain ⟨nonempty, small⟩ := wf
    unfold maxFramePayload maxWebrtcFrameSize at small
    have fits : ¬ (payload.length + 1 > maxWebrtcFrameSize) := by
      unfold maxWebrtcFrameSize
      omega
    have filled : payload.length ≠ 0 := by omega
    simp only [encodeFrame, encodeData, parseFrame, List.length_cons, fits, filled, if_false,
      if_true]
  | fin => rfl
  | reset code =>
    have back : ofBE (toBE 4 code) = code := ofBE_toBE_of_lt (by simpa [Frame.WF] using wf)
    simp [encodeFrame, encodeCode, parseFrame, maxWebrtcFrameSize, back]
  | stopSending code =>
    have back : ofBE (toBE 4 code) = code := ofBE_toBE_of_lt (by simpa [Frame.WF] using wf)
    simp [encodeFrame, encodeCode, parseFrame, maxWebrtcFrameSize, back]
  | maxStreamData value =>
    have inRange : value ≤ maxOffset := wf
    have back : ofBE (toBE 8 value) = value :=
      ofBE_toBE_of_lt (by unfold maxOffset at inRange; omega)
    have notOver : ¬ (value > maxOffset) := by omega
    simp [encodeFrame, encodeMaxStreamData, parseFrame, maxWebrtcFrameSize, back, notOver]

/-- Whatever `parseFrame` accepts is well formed. -/
theorem wf_of_parseFrame {data : Bytes} {frame : Frame} (parsed : parseFrame data = .ok frame) :
    frame.WF := by
  unfold parseFrame at parsed
  split at parsed
  · cases parsed
  · rename_i type payload
    split at parsed
    · cases parsed
    rename_i fits
    rw [List.length_cons] at fits
    split at parsed
    · split at parsed
      · cases parsed
      · cases parsed
        refine ⟨by omega, ?_⟩
        unfold maxFramePayload
        omega
    split at parsed
    · split at parsed
      · cases parsed
      · cases parsed
        trivial
    have bound := ofBE_lt payload
    split at parsed
    · split at parsed
      · cases parsed
      · rename_i length
        cases parsed
        rw [not_not.mp length] at bound
        exact bound
    split at parsed
    · split at parsed
      · cases parsed
      · rename_i length
        cases parsed
        rw [not_not.mp length] at bound
        exact bound
    split at parsed
    · split at parsed
      · cases parsed
      split at parsed
      · cases parsed
      · rename_i inRange
        cases parsed
        exact not_lt.mp inRange
    · cases parsed

end Kps.Ts
