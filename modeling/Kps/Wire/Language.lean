/-
**The language of the wire**, version 1.

What the three implementations are to agree on: the messages that carry a stream frame
(`FrameMessage`), those that carry a control message (`ControlMessage`), and the registry of error
codes (`codeName`). Integers are the unsigned values on the wire.
-/

import Kps.Lib.Bytes
import Mathlib.Tactic.IntervalCases

namespace Kps.Wire

open Kps.Lib

/-- The most bytes a DATA frame carries. -/
def maxPayload : Nat := 16383

/-- The largest credit, `2^62 - 1`. -/
def maxCredit : Nat := 4611686018427387903

inductive Frame
  | data (payload : Bytes)
  | fin
  | reset (code : Nat)
  | stopSending (code : Nat)
  | maxStreamData (value : Nat)
  deriving DecidableEq, Repr

/-- The data-channel messages and the frames they carry. -/
inductive FrameMessage : Bytes → Frame → Prop
  | data {payload : Bytes} (filled : 1 ≤ payload.length) (small : payload.length ≤ maxPayload) :
    FrameMessage (0x00 :: payload) (.data payload)
  | fin : FrameMessage [0x01] .fin
  | reset {code : Bytes} (wide : code.length = 4) :
    FrameMessage (0x02 :: code) (.reset (ofBE code))
  | stopSending {code : Bytes} (wide : code.length = 4) :
    FrameMessage (0x03 :: code) (.stopSending (ofBE code))
  | maxStreamData {value : Bytes} (wide : value.length = 8) (inRange : ofBE value ≤ maxCredit) :
    FrameMessage (0x04 :: value) (.maxStreamData (ofBE value))

inductive Control
  | close (code : Nat)
  | hello (version streamData data streams : Nat)
  | maxData (value : Nat)
  | maxStreams (value : Nat)
  deriving DecidableEq, Repr

/-- The messages of the control channel and what they carry. -/
inductive ControlMessage : Bytes → Control → Prop
  | close {code : Bytes} (wide : code.length = 4) :
    ControlMessage (0x00 :: code) (.close (ofBE code))
  | hello {version : UInt8} {streamData data streams : Bytes}
    (wide : streamData.length = 8 ∧ data.length = 8 ∧ streams.length = 8)
    (inRange : ofBE streamData ≤ maxCredit ∧ ofBE data ≤ maxCredit ∧ ofBE streams ≤ maxCredit) :
    ControlMessage (0x01 :: version :: (streamData ++ (data ++ streams)))
      (.hello version.toNat (ofBE streamData) (ofBE data) (ofBE streams))
  | maxData {value : Bytes} (wide : value.length = 8) (inRange : ofBE value ≤ maxCredit) :
    ControlMessage (0x02 :: value) (.maxData (ofBE value))
  | maxStreams {value : Bytes} (wide : value.length = 8) (inRange : ofBE value ≤ maxCredit) :
    ControlMessage (0x03 :: value) (.maxStreams (ofBE value))

/-- The three credits of a HELLO, behind its version. -/
theorem hello_fields (version : UInt8) {streamData data streams : Bytes}
    (wide : streamData.length = 8 ∧ data.length = 8 ∧ streams.length = 8) :
    ((version :: (streamData ++ (data ++ streams))).drop 1).take 8 = streamData ∧
      ((version :: (streamData ++ (data ++ streams))).drop 9).take 8 = data ∧
      ((version :: (streamData ++ (data ++ streams))).drop 17).take 8 = streams := by
  obtain ⟨first, second, third⟩ := wide
  refine ⟨?_, ?_, ?_⟩
  · simp [← first]
  · rw [show 9 = (version :: streamData).length by simp [first],
      show version :: (streamData ++ (data ++ streams)) =
        (version :: streamData) ++ (data ++ streams) from rfl, List.drop_left, ← second,
      List.take_left]
  · rw [show 17 = (version :: (streamData ++ data)).length by simp [first, second],
      show version :: (streamData ++ (data ++ streams)) =
        (version :: (streamData ++ data)) ++ streams by simp, List.drop_left, ← third,
      List.take_length]

/-- A message of the type and the length of a HELLO is one, if its credits are in range. -/
theorem ControlMessage.of_hello {rest : Bytes} (long : rest.length = 25)
    (inRange : ofBE ((rest.drop 1).take 8) ≤ maxCredit ∧
      ofBE ((rest.drop 9).take 8) ≤ maxCredit ∧ ofBE ((rest.drop 17).take 8) ≤ maxCredit) :
    ControlMessage (0x01 :: rest) (.hello (rest.headD 0).toNat (ofBE ((rest.drop 1).take 8))
      (ofBE ((rest.drop 9).take 8)) (ofBE ((rest.drop 17).take 8))) := by
  match rest, long with
  | version :: fields, long =>
    have long : fields.length = 24 := Nat.succ.inj long
    have last : (fields.drop 16).take 8 = fields.drop 16 :=
      List.take_of_length_le (by rw [List.length_drop]; omega)
    have parts : fields = fields.take 8 ++ ((fields.drop 8).take 8 ++ (fields.drop 16).take 8) := by
      rw [last]
      have tail : (fields.drop 8).take 8 ++ fields.drop 16 = fields.drop 8 := by
        have next : fields.drop 16 = (fields.drop 8).drop 8 := by rw [List.drop_drop]
        rw [next, List.take_append_drop]
      rw [tail, List.take_append_drop]
    have wide : (fields.take 8).length = 8 ∧ ((fields.drop 8).take 8).length = 8 ∧
        ((fields.drop 16).take 8).length = 8 := by
      simp [List.length_take, List.length_drop, long]
    have message : ControlMessage (0x01 :: version :: _) _ := .hello wide inRange
    rw [← parts] at message
    exact message

/-- The registry of error codes. -/
def codeName : Nat → Option String
  | 0 => some "none"
  | 1 => some "cancelled"
  | 2 => some "closed"
  | 3 => some "reset"
  | 4 => some "timeout"
  | 5 => some "network-error"
  | 6 => some "protocol-error"
  | 7 => some "unsupported"
  | 8 => some "too-large"
  | 9 => some "queue-full"
  | 10 => some "permission-denied"
  | 11 => some "internal-error"
  | _ => none

theorem codeName_eq_none {code : Nat} : codeName code = none ↔ 11 < code := by
  constructor
  · intro unnamed
    by_contra small
    interval_cases code <;> cases unnamed
  · intro outside
    match code, outside with
    | code + 12, _ => rfl

/-- An error code as it surfaces: no specific reason, a name of the registry, or a number that is
none of its codes. -/
inductive SurfacedCode
  | noReason
  | named (name : String)
  | number (code : Nat)
  deriving DecidableEq, Repr

/-- A frame as the holder of a stream sees it. -/
inductive SurfacedFrame
  | data (payload : Bytes)
  | fin
  | reset (code : SurfacedCode)
  | stopSending (code : SurfacedCode)
  | maxStreamData (value : Nat)
  deriving DecidableEq, Repr

/-- A control message as the connection sees it. -/
inductive SurfacedControl
  | close (code : SurfacedCode)
  | hello (version streamData data streams : Nat)
  | maxData (value : Nat)
  | maxStreams (value : Nat)
  deriving DecidableEq, Repr

end Kps.Wire
