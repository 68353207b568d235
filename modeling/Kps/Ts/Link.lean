/-
**Two engines on one transport.**

The two ends share the control channel and the channels of the streams; a stream has the same number
at both ends. A channel delivers to each end what the other end handed to it, in order (`got` and
`gotControl` count what was delivered); nothing relates the order of two channels.

* `Sys.step` — one label: a delivery, a channel that opens or closes, or an event of one end alone;
* `Label.isQuiet` — the labels of a connection that nobody closes and whose transport does not fail.
-/

import Kps.Lib.Run
import Kps.Ts.Conn

namespace Kps.Ts

open Kps.Lib

/-- The two ends. -/
inductive Side
  | left
  | right
  deriving DecidableEq, Repr

def Side.other : Side → Side
  | left => right
  | right => left

@[simp] theorem Side.other_other (side : Side) : side.other.other = side := by cases side <;> rfl

theorem Side.other_ne (side : Side) : side.other ≠ side := by cases side <;> decide

theorem Side.eq_or (side this : Side) : this = side ∨ this = side.other := by
  cases side <;> cases this <;> decide

/-- Two engines, and how much of what the other end sent was delivered to each. -/
structure Sys where
  core : Side → ConnCore
  gotControl : Side → Nat := fun _ => 0
  got : Side → Nat → Nat := fun _ _ => 0

/-- What happens next. -/
inductive Label
  /-- The next control message reaches `side`. -/
  | controlMessage (side : Side)
  /-- The next frame of channel `k` reaches `side`. -/
  | channelMessage (side : Side) (k : Nat)
  /-- The channel of a stream that the other end opened appears. -/
  | incomingChannel (side : Side) (k : Nat)
  | channelOpen (side : Side) (k : Nat)
  /-- The channel leaves the open state, because the other end closed it. -/
  | channelClosing (side : Side) (k : Nat)
  | channelClose (side : Side) (k : Nat)
  /-- The transport loses the channel. -/
  | channelLost (side : Side) (k : Nat)
  /-- Something happens at `side` alone. -/
  | event (side : Side) (event : Event)

/-- An event of one end alone, on a connection that nobody closes, whose HELLO timer does not fire
and whose transport does not fail. -/
def Event.isQuiet : Event → Bool
  | .controlOpen | .datagramOpen | .datagramMessage _ | .bufferedAmount _ _ | .openStream _
  | .openStreamResume _ _ _ | .openStreamAbort _ | .acceptStream _ _ | .acceptAbort _
  | .write _ _ | .writeResume _ | .read _ | .readResume _ | .closeWrite _ | .resetWrite _ _
  | .cancelRead _ _ | .cancelReadable _ _ | .abandonResume _ | .sendDatagram _ _
  | .receiveDatagram _ _ | .receiveAbort _ => true
  | _ => false

/-- An event that ends the connection, or may. -/
def Event.isLoud : Event → Bool
  | .controlClose | .controlError | .datagramClose | .channelError _ _ | .helloTimer
  | .transportFailed _ | .transportClosed | .close _ => true
  | _ => false

def Label.isQuiet : Label → Bool
  | .channelLost _ _ => false
  | .event _ own => own.isQuiet
  | _ => true

namespace Sys

def act (side : Side) (event : Event) (s : Sys) : Sys :=
  { s with core := Function.update s.core side ((s.core side).step event) }

/-- Every message of the other end on channel `k` was delivered to `side`. -/
def drained (side : Side) (k : Nat) (s : Sys) : Bool :=
  decide (s.got side k = ((s.core side.other).streams k).ch.sent.length)

/-- The other end has closed its end of channel `k`, and all it sent before has arrived. -/
def closedByPeer (side : Side) (k : Nat) (s : Sys) : Bool :=
  ((s.core side.other).streams k).ch.closed && s.drained side k

/-- An event that one end may have on its own. A channel that is made is a new one, and the
application and the continuations of its calls know only streams whose end is open. -/
def allows (side : Side) (event : Event) (s : Sys) : Bool :=
  (event.isQuiet || event.isLoud) &&
    match event with
    | .openStreamResume _ (.ok k) _ =>
      decide (k ∉ (s.core side).ids ∧ k ∉ (s.core side.other).ids)
    | .bufferedAmount _ _ | .channelError _ _ => true
    | event =>
      match event.stream with
      | some k => ((s.core side).streams k).ch.opened
      | none => true

def step (s : Sys) : Label → Option Sys
  | .controlMessage side =>
    match (s.core side.other).control.sent[s.gotControl side]? with
    | some message =>
      if (s.core side).control.opened then
        some { s.act side (.controlMessage (encodeControl message)) with
          gotControl := Function.update s.gotControl side (s.gotControl side + 1) }
      else none
    | none => none
  | .channelMessage side k =>
    match ((s.core side.other).streams k).ch.sent[s.got side k]? with
    | some frame =>
      if k ∈ (s.core side).ids ∧ ((s.core side).streams k).ch.opened ∧
          ((s.core side).streams k).channelClosed = false then
        some { s.act side (.channelMessage k (encodeFrame frame)) with
          got := Function.update s.got side
            (Function.update (s.got side) k (s.got side k + 1)) }
      else none
    | none => none
  | .incomingChannel side k =>
    if k ∈ (s.core side.other).ids ∧ ((s.core side.other).streams k).peerInitiated = false ∧
        k ∉ (s.core side).ids then
      some (s.act side (.incomingChannel k true))
    else none
  | .channelOpen side k =>
    if k ∈ (s.core side).ids ∧ ((s.core side).streams k).ch.opened = false then
      some (s.act side (.channelOpen k))
    else none
  | .channelClosing side k =>
    if k ∈ (s.core side).ids ∧ s.closedByPeer side k then
      some (s.act side (.channelClosing k))
    else none
  | .channelClose side k =>
    if k ∈ (s.core side).ids ∧ ((s.core side).streams k).channelClosed = false ∧
        (((s.core side).streams k).ch.closed ∨ s.closedByPeer side k) then
      some (s.act side (.channelClose k))
    else none
  | .channelLost side k =>
    if k ∈ (s.core side).ids ∧ ((s.core side).streams k).channelClosed = false then
      some (s.act side (.channelClose k))
    else none
  | .event side event => if s.allows side event then some (s.act side event) else none

/-- Two new engines. -/
def new (limits : Side → FlowLimits) (controlOpen : Side → Bool) : Sys where
  core := fun side => ConnCore.new (limits side) (controlOpen side)

/-- What a label makes one end do, under which guard, and what was delivered to it afterwards. -/
inductive Fires (s : Sys) : Label → Side → Event → Nat → (Nat → Nat) → Prop
  | controlMessage {side : Side} {message : ControlMsg}
    (next : (s.core side.other).control.sent[s.gotControl side]? = some message)
    (opened : (s.core side).control.opened = true) :
    Fires s (.controlMessage side) side (.controlMessage (encodeControl message))
      (s.gotControl side + 1) (s.got side)
  | channelMessage {side : Side} {k : Nat} {frame : Frame}
    (next : ((s.core side.other).streams k).ch.sent[s.got side k]? = some frame)
    (present : k ∈ (s.core side).ids) (opened : ((s.core side).streams k).ch.opened = true)
    (unclosed : ((s.core side).streams k).channelClosed = false) :
    Fires s (.channelMessage side k) side (.channelMessage k (encodeFrame frame))
      (s.gotControl side) (Function.update (s.got side) k (s.got side k + 1))
  | incomingChannel {side : Side} {k : Nat} (there : k ∈ (s.core side.other).ids)
    (theirs : ((s.core side.other).streams k).peerInitiated = false)
    (absent : k ∉ (s.core side).ids) :
    Fires s (.incomingChannel side k) side (.incomingChannel k true) (s.gotControl side)
      (s.got side)
  | channelOpen {side : Side} {k : Nat} (present : k ∈ (s.core side).ids)
    (unopened : ((s.core side).streams k).ch.opened = false) :
    Fires s (.channelOpen side k) side (.channelOpen k) (s.gotControl side) (s.got side)
  | channelClosing {side : Side} {k : Nat} (present : k ∈ (s.core side).ids)
    (byPeer : s.closedByPeer side k = true) :
    Fires s (.channelClosing side k) side (.channelClosing k) (s.gotControl side) (s.got side)
  | channelClose {side : Side} {k : Nat} (present : k ∈ (s.core side).ids)
    (unclosed : ((s.core side).streams k).channelClosed = false)
    (ended : ((s.core side).streams k).ch.closed = true ∨ s.closedByPeer side k = true) :
    Fires s (.channelClose side k) side (.channelClose k) (s.gotControl side) (s.got side)
  | channelLost {side : Side} {k : Nat} (present : k ∈ (s.core side).ids)
    (unclosed : ((s.core side).streams k).channelClosed = false) :
    Fires s (.channelLost side k) side (.channelClose k) (s.gotControl side) (s.got side)
  | event {side : Side} {event : Event} (allowed : s.allows side event = true) :
    Fires s (.event side event) side event (s.gotControl side) (s.got side)

theorem step_fires {s s' : Sys} {label : Label} (stepped : s.step label = some s') :
    ∃ side event gotControl got, Fires s label side event gotControl got ∧ s' = {
      core := Function.update s.core side ((s.core side).step event)
      gotControl := Function.update s.gotControl side gotControl
      got := Function.update s.got side got } := by
  have same {side : Side} {event : Event} : s.act side event = {
      core := Function.update s.core side ((s.core side).step event)
      gotControl := Function.update s.gotControl side (s.gotControl side)
      got := Function.update s.got side (s.got side) } := by
    rw [Function.update_eq_self, Function.update_eq_self]
    rfl
  unfold step at stepped
  cases label with
  | controlMessage side =>
    dsimp only at stepped
    split at stepped
    · next message next =>
      split at stepped
      · next opened =>
        cases stepped
        refine ⟨_, _, _, _, .controlMessage next opened, ?_⟩
        rw [Function.update_eq_self]
        rfl
      · cases stepped
    · cases stepped
  | channelMessage side k =>
    dsimp only at stepped
    split at stepped
    · next frame next =>
      split at stepped
      · next guard =>
        obtain ⟨present, opened, unclosed⟩ := guard
        cases stepped
        refine ⟨_, _, _, _, .channelMessage next present opened unclosed, ?_⟩
        rw [Function.update_eq_self]
        rfl
      · cases stepped
    · cases stepped
  | incomingChannel side k =>
    obtain ⟨⟨there, theirs, absent⟩, acted⟩ := Option.ite_none_right_eq_some.mp stepped
    cases acted
    exact ⟨_, _, _, _, .incomingChannel there theirs absent, same⟩
  | channelOpen side k =>
    obtain ⟨⟨present, unopened⟩, acted⟩ := Option.ite_none_right_eq_some.mp stepped
    cases acted
    exact ⟨_, _, _, _, .channelOpen present unopened, same⟩
  | channelClosing side k =>
    obtain ⟨⟨present, byPeer⟩, acted⟩ := Option.ite_none_right_eq_some.mp stepped
    cases acted
    exact ⟨_, _, _, _, .channelClosing present byPeer, same⟩
  | channelClose side k =>
    obtain ⟨⟨present, unclosed, ended⟩, acted⟩ := Option.ite_none_right_eq_some.mp stepped
    cases acted
    exact ⟨_, _, _, _, .channelClose present unclosed ended, same⟩
  | channelLost side k =>
    obtain ⟨⟨present, unclosed⟩, acted⟩ := Option.ite_none_right_eq_some.mp stepped
    cases acted
    exact ⟨_, _, _, _, .channelLost present unclosed, same⟩
  | event side event =>
    obtain ⟨allowed, acted⟩ := Option.ite_none_right_eq_some.mp stepped
    cases acted
    exact ⟨_, _, _, _, .event allowed, same⟩

end Sys

end Kps.Ts
