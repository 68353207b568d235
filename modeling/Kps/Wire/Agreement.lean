/-
**Three decoders, one language.**

The TypeScript, Go and Rust decoders accept the same messages (`Ts.parseFrame_decodes` and its
siblings) and read the same values from them. Only error codes differ: TypeScript and Rust sink a
code outside the registry to `internal-error`, Go surfaces it as it came; and a RESET or
STOP_SENDING without a reason surfaces in TypeScript as `reset` or `cancelled`.

* `decoders_agree_iff` — the three agree on a message unless it carries such a code.
-/

import Kps.Go.Framing
import Kps.Rust.Framing
import Kps.Ts.Control

namespace Kps.Ts

open Kps.Lib

/-- The frame a message carries, in the engine's terms. -/
def Frame.ofWire : Wire.Frame → Frame
  | .data payload => .data payload
  | .fin => .fin
  | .reset code => .reset code
  | .stopSending code => .stopSending code
  | .maxStreamData value => .maxStreamData value

def ControlMsg.ofWire : Wire.Control → ControlMsg
  | .close code => .close code
  | .hello version streamData data streams => .hello version ⟨streamData, data, streams⟩
  | .maxData value => .maxData value
  | .maxStreams value => .maxStreams value

/-- **`parseFrame` decodes the language of frames.** -/
theorem parseFrame_decodes : Decodes Wire.FrameMessage parseFrame Frame.ofWire := by
  intro data frame
  constructor
  · intro parsed
    unfold parseFrame at parsed
    split at parsed
    · cases parsed
    next type payload =>
    split at parsed
    · cases parsed
    next fits =>
    have small : payload.length ≤ Wire.maxPayload := by
      rw [List.length_cons] at fits
      unfold maxWebrtcFrameSize at fits
      unfold Wire.maxPayload
      omega
    split at parsed
    · next data =>
      subst data
      split at parsed
      · cases parsed
      next filled =>
        cases parsed
        exact ⟨.data payload, .data (Nat.pos_of_ne_zero filled) small, rfl⟩
    split at parsed
    · next fin =>
      subst fin
      split at parsed
      · cases parsed
      next empty =>
        cases parsed
        have empty : payload = [] := List.length_eq_zero_iff.mp (not_not.mp empty)
        subst empty
        exact ⟨.fin, .fin, rfl⟩
    split at parsed
    · next reset =>
      subst reset
      split at parsed
      · cases parsed
      next wide =>
        cases parsed
        exact ⟨_, .reset (not_not.mp wide), rfl⟩
    split at parsed
    · next stop =>
      subst stop
      split at parsed
      · cases parsed
      next wide =>
        cases parsed
        exact ⟨_, .stopSending (not_not.mp wide), rfl⟩
    split at parsed
    · next credit =>
      subst credit
      split at parsed
      · cases parsed
      next wide =>
      split at parsed
      · cases parsed
      next inRange =>
        cases parsed
        exact ⟨_, .maxStreamData (not_not.mp wide) (not_lt.mp inRange), rfl⟩
    · cases parsed
  · rintro ⟨carried, message, rfl⟩
    unfold parseFrame
    cases message with
    | @data payload filled small =>
      unfold Wire.maxPayload at small
      have fits : ¬ (payload.length + 1 > maxWebrtcFrameSize) := by
        unfold maxWebrtcFrameSize
        omega
      have filled : payload ≠ [] := List.length_pos_iff.mp filled
      simp [fits, filled, Frame.ofWire]
    | fin => rfl
    | reset wide => simp [wide, maxWebrtcFrameSize, Frame.ofWire]
    | stopSending wide => simp [wide, maxWebrtcFrameSize, Frame.ofWire]
    | maxStreamData wide inRange =>
      have inRange : ¬ (_ > maxOffset) := Nat.not_lt.mpr inRange
      simp [wide, maxWebrtcFrameSize, inRange, Frame.ofWire]

/-- The version byte of a HELLO. -/
theorem getUint_version {rest : Bytes} (long : rest.length = 25) :
    getUint rest 0 1 = (rest.headD 0).toNat := by
  match rest, long with
  | version :: fields, _ => simp [getUint, ofBE]

/-- **`decodeControl` decodes the language of control messages.** -/
theorem decodeControl_decodes : Decodes Wire.ControlMessage decodeControl ControlMsg.ofWire := by
  intro data message
  constructor
  · intro decoded
    unfold decodeControl at decoded
    split at decoded
    · cases decoded
    next type rest =>
    split at decoded
    · next close =>
      subst close
      split at decoded
      · cases decoded
      next wide =>
        have wide : rest.length = 4 := Nat.succ.inj (not_not.mp wide)
        have whole : getUint (0x00 :: rest) 1 4 = ofBE rest := by
          simp [getUint, List.take_of_length_le wide.le]
        cases decoded
        rw [whole]
        exact ⟨_, .close wide, rfl⟩
    split at decoded
    · next hello =>
      subst hello
      split at decoded
      · cases decoded
      next long =>
      have long : rest.length = 25 := Nat.succ.inj (not_not.mp long)
      dsimp only at decoded
      split at decoded
      · next valid =>
        cases decoded
        rw [getUint_version long]
        exact ⟨_, .of_hello long ⟨valid.streamData, valid.data, valid.streams⟩, rfl⟩
      · cases decoded
    have whole (wide : rest.length = 8) : getUint (type :: rest) 1 8 = ofBE rest := by
      simp [getUint, List.take_of_length_le wide.le]
    split at decoded
    · next data =>
      split at decoded
      · cases decoded
      next nine =>
      have wide : rest.length = 8 := Nat.succ.inj (not_not.mp nine)
      rw [whole wide] at decoded
      split at decoded
      · cases decoded
      next inRange =>
        cases decoded
        subst data
        exact ⟨_, .maxData wide (Nat.not_lt.mp inRange), rfl⟩
    split at decoded
    · next streams =>
      split at decoded
      · cases decoded
      next nine =>
      have wide : rest.length = 8 := Nat.succ.inj (not_not.mp nine)
      rw [whole wide] at decoded
      split at decoded
      · cases decoded
      next inRange =>
        cases decoded
        subst streams
        exact ⟨_, .maxStreams wide (Nat.not_lt.mp inRange), rfl⟩
    · cases decoded
  · rintro ⟨carried, carries, rfl⟩
    unfold decodeControl
    cases carries with
    | close wide => simp [wide, getUint, List.take_of_length_le wide.le, ControlMsg.ofWire]
    | @hello version streamData data streams wide inRange =>
      obtain ⟨first, second, third⟩ := Wire.hello_fields version wide
      have valid : FlowLimits.Valid ⟨ofBE streamData, ofBE data, ofBE streams⟩ :=
        ⟨inRange.1, inRange.2.1, inRange.2.2⟩
      have fields : getUint (0x01 :: version :: (streamData ++ (data ++ streams))) 2 8 =
            ofBE streamData ∧
          getUint (0x01 :: version :: (streamData ++ (data ++ streams))) 10 8 = ofBE data ∧
          getUint (0x01 :: version :: (streamData ++ (data ++ streams))) 18 8 = ofBE streams :=
        ⟨congrArg ofBE first, congrArg ofBE second, congrArg ofBE third⟩
      have byte : getUint (version :: (streamData ++ (data ++ streams))) 0 1 = version.toNat := by
        simp [getUint, ofBE]
      simp [wide, fields, valid, byte, ControlMsg.ofWire]
    | maxData wide inRange =>
      have inRange : ¬ (_ > maxOffset) := Nat.not_lt.mpr inRange
      simp [wide, getUint, List.take_of_length_le wide.le, inRange, ControlMsg.ofWire]
    | maxStreams wide inRange =>
      have inRange : ¬ (_ > maxOffset) := Nat.not_lt.mpr inRange
      simp [wide, getUint, List.take_of_length_le wide.le, inRange, ControlMsg.ofWire]

/-- A code of a stream frame: the stream takes `default` for no specific reason. -/
def surfaceCode (default : KpsErrorCode) (code : Nat) : Wire.SurfacedCode :=
  .named ((numToCode code).getD default).name

/-- A code of CONNECTION_CLOSE: `0` is a clean close. -/
def surfaceClose (code : Nat) : Wire.SurfacedCode :=
  if code = 0 then .noReason else surfaceCode .internalError code

def Frame.surface : Frame → Wire.SurfacedFrame
  | .data payload => .data payload
  | .fin => .fin
  | .reset code => .reset (surfaceCode .reset code)
  | .stopSending code => .stopSending (surfaceCode .cancelled code)
  | .maxStreamData value => .maxStreamData value

def ControlMsg.surface : ControlMsg → Wire.SurfacedControl
  | .close code => .close (surfaceClose code)
  | .hello version limits =>
    .hello version limits.initialMaxStreamData limits.initialMaxData limits.initialMaxStreams
  | .maxData value => .maxData value
  | .maxStreams value => .maxStreams value

end Kps.Ts

namespace Kps.Rust

def ErrorCode.surface : ErrorCode → Wire.SurfacedCode
  | .none => .noReason
  | code => .named code.display

def ParsedFrame.surface : ParsedFrame → Wire.SurfacedFrame
  | .data payload => .data payload
  | .fin => .fin
  | .reset code => .reset code.surface
  | .stopSending code => .stopSending code.surface
  | .maxStreamData v => .maxStreamData v

def ControlMsg.surface : ControlMsg → Wire.SurfacedControl
  | .close code => .close code.surface
  | .hello version limits =>
    .hello version.toNat limits.maxStreamData limits.maxData limits.maxStreams
  | .maxData v => .maxData v
  | .maxStreams v => .maxStreams v

end Kps.Rust

namespace Kps.Go

/-- `StreamError.Code` is the `uint32` itself; it has a name if it is one of the constants. -/
def surfaceCode (code : ErrorCode) : Wire.SurfacedCode :=
  if code = codeNone then .noReason
  else
    match Wire.codeName code with
    | some name => .named name
    | none => .number code

def ParsedFrame.surface (f : ParsedFrame) : Wire.SurfacedFrame :=
  match f.typ with
  | .frameData => .data f.payload
  | .frameFin => .fin
  | .frameReset => .reset (surfaceCode f.code)
  | .frameStopSending => .stopSending (surfaceCode f.code)
  | .frameMaxStreamData => .maxStreamData f.credit

def ControlMsg.surface (m : ControlMsg) : Wire.SurfacedControl :=
  match m.typ with
  | .ctrlConnClose => .close (surfaceCode m.code)
  | .ctrlHello =>
    .hello m.version.toNat m.limits.maxStreamData m.limits.maxData m.limits.maxStreams
  | .ctrlMaxData => .maxData m.value
  | .ctrlMaxStreams => .maxStreams m.value

end Kps.Go

namespace Kps.Wire

open Kps.Lib

/-- The three frame parsers say the same of a message. -/
def FramesAgree (data : Bytes) : Prop :=
  surfaced Ts.parseFrame Ts.Frame.surface data =
    surfaced Rust.parseFrame Rust.ParsedFrame.surface data ∧
    surfaced Ts.parseFrame Ts.Frame.surface data =
      surfaced Go.parseFrame Go.ParsedFrame.surface data

/-- The three control decoders say the same of a message. -/
def ControlsAgree (data : Bytes) : Prop :=
  surfaced Ts.decodeControl Ts.ControlMsg.surface data =
      surfaced Rust.decodeControl Rust.ControlMsg.surface data ∧
    surfaced Ts.decodeControl Ts.ControlMsg.surface data =
      surfaced Go.decodeControl Go.ControlMsg.surface data

/-- RESET or STOP_SENDING without a reason, or with a code outside the registry. -/
def UnnamedFrame (data : Bytes) : Prop :=
  ∃ code : Bytes, code.length = 4 ∧ (ofBE code = 0 ∨ 11 < ofBE code) ∧
    (data = 0x02 :: code ∨ data = 0x03 :: code)

/-- CONNECTION_CLOSE with a code outside the registry. -/
def UnregisteredControl (data : Bytes) : Prop :=
  ∃ code : Bytes, code.length = 4 ∧ 11 < ofBE code ∧ data = 0x00 :: code

/-! ### Codes -/

/-- TypeScript gives a stream error without a reason a code of its own. -/
theorem surfaceCode_eq_rust (default : Ts.KpsErrorCode) (code : Nat) :
    Ts.surfaceCode default code = (Rust.ErrorCode.fromWire code).surface ↔ code ≠ 0 := by
  by_cases registered : code ≤ 11
  · interval_cases code
    · exact iff_of_false (fun same => by cases same) fun some => some rfl
    all_goals exact iff_of_true rfl (by decide)
  · rw [Ts.surfaceCode, Ts.numToCode_of_gt (by omega), Rust.ErrorCode.fromWire_of_gt (by omega)]
    exact iff_of_true rfl (by omega)

/-- Go, of a code outside the registry, gives the number. -/
theorem surfaceCode_eq_go (default : Ts.KpsErrorCode) (code : Nat) :
    Ts.surfaceCode default code = Go.surfaceCode code ↔ code ≠ 0 ∧ code ≤ 11 := by
  by_cases registered : code ≤ 11
  · interval_cases code
    · exact iff_of_false (fun same => by cases same) fun some => some.1 rfl
    all_goals exact iff_of_true rfl (by decide)
  · have some : code ≠ Go.codeNone := fun none => registered (none ▸ Nat.zero_le 11)
    have unnamed : Go.surfaceCode code = .number code := by
      rw [Go.surfaceCode, if_neg some, codeName_eq_none.mpr (by omega)]
    rw [unnamed]
    exact iff_of_false (fun same => by cases same) fun some => registered some.2

theorem surfaceClose_eq_rust (code : Nat) :
    Ts.surfaceClose code = (Rust.ErrorCode.fromWire code).surface := by
  unfold Ts.surfaceClose
  split
  · next none =>
    rw [none]
    rfl
  · next some => exact (surfaceCode_eq_rust _ code).mpr some

theorem surfaceClose_eq_go (code : Nat) :
    Ts.surfaceClose code = Go.surfaceCode code ↔ ¬ 11 < code := by
  unfold Ts.surfaceClose
  split
  · next none =>
    rw [none]
    exact iff_of_true rfl (by decide)
  · next some =>
    rw [surfaceCode_eq_go, not_lt]
    exact and_iff_right some

/-! ### Messages -/

theorem framesAgree_iff (data : Bytes) : FramesAgree data ↔ ¬ UnnamedFrame data := by
  unfold FramesAgree
  rw [Ts.parseFrame_decodes.agree_iff Rust.parseFrame_decodes,
    Ts.parseFrame_decodes.agree_iff Go.parseFrame_decodes]
  constructor
  · rintro ⟨-, go⟩ ⟨code, wide, unnamed, rfl | rfl⟩
    · have named := (surfaceCode_eq_go _ _).mp (Wire.SurfacedFrame.reset.inj (go _ (.reset wide)))
      exact unnamed.elim named.1 (not_lt.mpr named.2)
    · have named := (surfaceCode_eq_go _ _).mp
        (Wire.SurfacedFrame.stopSending.inj (go _ (.stopSending wide)))
      exact unnamed.elim named.1 (not_lt.mpr named.2)
  · intro known
    have named {code : Bytes} (wide : code.length = 4)
        (here : data = 0x02 :: code ∨ data = 0x03 :: code) : ofBE code ≠ 0 ∧ ofBE code ≤ 11 := by
      constructor
      · exact fun none => known ⟨code, wide, Or.inl none, here⟩
      · exact not_lt.mp fun outside => known ⟨code, wide, Or.inr outside, here⟩
    constructor
    · rintro carried (message | message | @⟨code, wide⟩ | @⟨code, wide⟩ | message)
      · rfl
      · rfl
      · exact congrArg SurfacedFrame.reset
          ((surfaceCode_eq_rust _ _).mpr (named wide (Or.inl rfl)).1)
      · exact congrArg SurfacedFrame.stopSending
          ((surfaceCode_eq_rust _ _).mpr (named wide (Or.inr rfl)).1)
      · rfl
    · rintro carried (message | message | @⟨code, wide⟩ | @⟨code, wide⟩ | message)
      · rfl
      · rfl
      · exact congrArg SurfacedFrame.reset ((surfaceCode_eq_go _ _).mpr (named wide (Or.inl rfl)))
      · exact congrArg SurfacedFrame.stopSending
          ((surfaceCode_eq_go _ _).mpr (named wide (Or.inr rfl)))
      · rfl

theorem controlsAgree_iff (data : Bytes) : ControlsAgree data ↔ ¬ UnregisteredControl data := by
  unfold ControlsAgree
  rw [Ts.decodeControl_decodes.agree_iff Rust.decodeControl_decodes,
    Ts.decodeControl_decodes.agree_iff Go.decodeControl_decodes]
  constructor
  · rintro ⟨-, go⟩ ⟨code, wide, outside, rfl⟩
    have same := Wire.SurfacedControl.close.inj (go _ (.close wide))
    exact (surfaceClose_eq_go _).mp same outside
  · intro registered
    constructor
    · rintro carried (@⟨code, wide⟩ | @⟨version, _, _, _, wide, inRange⟩ | message | message)
      · exact congrArg SurfacedControl.close (surfaceClose_eq_rust _)
      · simp [Ts.ControlMsg.ofWire, Ts.ControlMsg.surface, Rust.ControlMsg.ofWire,
          Rust.ControlMsg.surface]
      · rfl
      · rfl
    · rintro carried (@⟨code, wide⟩ | @⟨version, _, _, _, wide, inRange⟩ | message | message)
      · refine congrArg SurfacedControl.close ((surfaceClose_eq_go _).mpr fun outside => ?_)
        exact registered ⟨code, wide, outside, rfl⟩
      · simp [Ts.ControlMsg.ofWire, Ts.ControlMsg.surface, Go.ControlMsg.ofWire,
          Go.ControlMsg.surface]
      · rfl
      · rfl

/-- **Three decoders, one language**, of every message whose code the registry names;
CONNECTION_CLOSE may do without a reason. -/
theorem decoders_agree_iff (data : Bytes) :
    (FramesAgree data ↔ ¬ UnnamedFrame data) ∧
      (ControlsAgree data ↔ ¬ UnregisteredControl data) :=
  ⟨framesAgree_iff data, controlsAgree_iff data⟩

/-- A RESET with code 12 is `internal-error` to TypeScript and Rust, and 12 to Go; a RESET without a
reason is `reset` to TypeScript, and no reason to Rust and Go. -/
theorem decoders_disagree :
    ¬ FramesAgree [0x02, 0, 0, 0, 12] ∧ ¬ FramesAgree [0x02, 0, 0, 0, 0] ∧
      ¬ ∀ data, FramesAgree data ∧ ControlsAgree data := by
  have reset (code : UInt8) (unnamed : ofBE [0, 0, 0, code] = 0 ∨ 11 < ofBE [0, 0, 0, code]) :
      ¬ FramesAgree [0x02, 0, 0, 0, code] := fun agree =>
    (framesAgree_iff _).mp agree ⟨[0, 0, 0, code], rfl, unnamed, Or.inl rfl⟩
  have outside := reset 12 (by decide)
  exact ⟨outside, reset 0 (by decide), fun agree => outside (agree _).1⟩

end Kps.Wire
