/-
**The control channel's messages** (`control.ts`, and `FlowLimits` of `flow.ts`).

Four messages with exact lengths. `decodeControl` accepts nothing else, and
`decodeControl_encodeControl` reads every well-formed message back.
-/

import Kps.Ts.Framing

namespace Kps.Ts

open Kps.Lib

def wireVersion : Nat := 1

/-- A receiver's initial windows, announced in HELLO. All limits are unsigned. -/
structure FlowLimits where
  initialMaxStreamData : Nat
  initialMaxData : Nat
  initialMaxStreams : Nat
  deriving DecidableEq, Repr

/-- Every limit is at most `MAX_OFFSET`. -/
structure FlowLimits.Valid (limits : FlowLimits) : Prop where
  streamData : limits.initialMaxStreamData ≤ maxOffset
  data : limits.initialMaxData ≤ maxOffset
  streams : limits.initialMaxStreams ≤ maxOffset

instance (limits : FlowLimits) : Decidable limits.Valid :=
  decidable_of_iff (limits.initialMaxStreamData ≤ maxOffset ∧ limits.initialMaxData ≤ maxOffset ∧
      limits.initialMaxStreams ≤ maxOffset)
    ⟨fun h => ⟨h.1, h.2.1, h.2.2⟩, fun h => ⟨h.streamData, h.data, h.streams⟩⟩

/-- A decoded control message. -/
inductive ControlMsg
  | close (code : Nat)
  | hello (version : Nat) (limits : FlowLimits)
  | maxData (value : Nat)
  | maxStreams (value : Nat)
  deriving DecidableEq, Repr

def encodeConnClose (code : Nat) : Bytes := 0x00 :: toBE 4 code

def encodeHello (limits : FlowLimits) (version : Nat) : Bytes :=
  0x01 :: UInt8.ofNat version :: (toBE 8 limits.initialMaxStreamData ++
    (toBE 8 limits.initialMaxData ++ toBE 8 limits.initialMaxStreams))

def encodeMaxData (value : Nat) : Bytes := 0x02 :: toBE 8 value

def encodeMaxStreams (value : Nat) : Bytes := 0x03 :: toBE 8 value

/-- The bytes of a control message. -/
def encodeControl : ControlMsg → Bytes
  | .close code => encodeConnClose code
  | .hello version limits => encodeHello limits version
  | .maxData value => encodeMaxData value
  | .maxStreams value => encodeMaxStreams value

/-- `width` bytes of a message from an offset, as a big-endian integer. -/
def getUint (data : Bytes) (offset width : Nat) : Nat := ofBE ((data.drop offset).take width)

/-- Decode one control message; the error is the text of the `ProtocolViolation`. -/
def decodeControl (data : Bytes) : Except String ControlMsg :=
  match data with
  | [] => .error "empty control message"
  | type :: rest =>
    if type = 0x00 then
      if data.length ≠ 5 then .error "CONNECTION_CLOSE must be 5 bytes"
      else .ok (.close (getUint data 1 4))
    else if type = 0x01 then
      if data.length ≠ 26 then .error "HELLO must be 26 bytes"
      else
        let limits : FlowLimits := {
          initialMaxStreamData := getUint data 2 8
          initialMaxData := getUint data 10 8
          initialMaxStreams := getUint data 18 8 }
        if limits.Valid then .ok (.hello (getUint rest 0 1) limits)
        else .error "HELLO credit above MAX_OFFSET"
    else if type = 0x02 then
      if data.length ≠ 9 then .error "MAX_DATA must be 9 bytes"
      else if getUint data 1 8 > maxOffset then .error "MAX_DATA above MAX_OFFSET"
      else .ok (.maxData (getUint data 1 8))
    else if type = 0x03 then
      if data.length ≠ 9 then .error "MAX_STREAMS must be 9 bytes"
      else if getUint data 1 8 > maxOffset then .error "MAX_STREAMS above MAX_OFFSET"
      else .ok (.maxStreams (getUint data 1 8))
    else .error ("unknown control message type 0x" ++ hexString type)

/-- A message the encoders can be given. -/
def ControlMsg.WF : ControlMsg → Prop
  | .close code => code < 2 ^ 32
  | .hello version limits => version < 256 ∧ limits.Valid
  | .maxData value => value ≤ maxOffset
  | .maxStreams value => value ≤ maxOffset

/-- A field that ends where the next one starts. -/
theorem getUint_append (before : Bytes) {field after : Bytes} {offset width : Nat}
    (at_offset : before.length = offset) (wide : field.length = width) :
    getUint (before ++ (field ++ after)) offset width = ofBE field := by
  subst at_offset wide
  simp [getUint]

theorem ofBE_offset {value : Nat} (small : value ≤ maxOffset) : ofBE (toBE 8 value) = value :=
  ofBE_toBE_of_lt (by unfold maxOffset at small; omega)

/-- The fields of an encoded HELLO. -/
theorem getUint_encodeHello (version : Nat) (limits : FlowLimits) (valid : limits.Valid) :
    getUint (encodeHello limits version) 2 8 = limits.initialMaxStreamData ∧
      getUint (encodeHello limits version) 10 8 = limits.initialMaxData ∧
      getUint (encodeHello limits version) 18 8 = limits.initialMaxStreams := by
  refine ⟨?_, ?_, ?_⟩
  · rw [← ofBE_offset valid.streamData]
    exact getUint_append [0x01, UInt8.ofNat version] rfl (length_toBE 8 _)
  · rw [← ofBE_offset valid.data]
    have split : encodeHello limits version =
        (0x01 :: UInt8.ofNat version :: toBE 8 limits.initialMaxStreamData) ++
          (toBE 8 limits.initialMaxData ++ toBE 8 limits.initialMaxStreams) := by
      simp [encodeHello]
    rw [split]
    refine getUint_append _ ?_ (length_toBE 8 _)
    simp
  · rw [← ofBE_offset valid.streams]
    have split : encodeHello limits version =
        (0x01 :: UInt8.ofNat version :: (toBE 8 limits.initialMaxStreamData ++
          toBE 8 limits.initialMaxData)) ++ (toBE 8 limits.initialMaxStreams ++ []) := by
      simp [encodeHello]
    rw [split]
    refine getUint_append _ ?_ (length_toBE 8 _)
    simp

/-- Every well-formed control message is read back from its bytes. -/
theorem decodeControl_encodeControl {message : ControlMsg} (wf : message.WF) :
    decodeControl (encodeControl message) = .ok message := by
  cases message with
  | close code =>
    have back : ofBE (toBE 4 code) = code := ofBE_toBE_of_lt (by simpa [ControlMsg.WF] using wf)
    simp [encodeControl, encodeConnClose, decodeControl, getUint, back, List.take_of_length_le]
  | hello version limits =>
    obtain ⟨small, valid⟩ := wf
    obtain ⟨streamData, data, streams⟩ := getUint_encodeHello version limits valid
    have byte : getUint (UInt8.ofNat version :: (toBE 8 limits.initialMaxStreamData ++
        (toBE 8 limits.initialMaxData ++ toBE 8 limits.initialMaxStreams))) 0 1 = version := by
      simp [getUint, ofBE, Nat.mod_eq_of_lt small]
    unfold encodeControl
    simp only [encodeHello] at streamData data streams ⊢
    simp [decodeControl, streamData, data, streams, byte, valid]
  | maxData value =>
    have inRange : ¬ (value > maxOffset) := not_lt.mpr wf
    simp [encodeControl, encodeMaxData, decodeControl, getUint, ofBE_offset wf, inRange,
      List.take_of_length_le]
  | maxStreams value =>
    have inRange : ¬ (value > maxOffset) := not_lt.mpr wf
    simp [encodeControl, encodeMaxStreams, decodeControl, getUint, ofBE_offset wf, inRange,
      List.take_of_length_le]

end Kps.Ts
