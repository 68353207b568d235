/-
**What an event does to one stream.**

An event runs methods of a stream: its own, then perhaps `#maybeRetire`, and `destroy` when the
connection ends.

* `KpsStream.Does` — one method of a stream, in any connection;
* `ConnCore.step_grows` — an event changes every stream by methods alone, or makes it, but for the
  event that the transport sent queued bytes;
* `KpsStream.Lasting.step` — so what every method keeps of a stream, every other event keeps.
-/

import Mathlib.Logic.Relation
import Kps.Ts.Handshake

namespace Kps.Ts

open Kps.Lib

/-- What `#onChannelClose` notes before it polices the close. -/
def KpsStream.shut (s : KpsStream) : KpsStream := { s with ch := s.ch.close, channelClosed := true }

/-- `destroy`, in some connection. -/
inductive KpsStream.Destroyed : KpsStream → KpsStream → Prop
  | destroy (reason : Option KpsReason) (x : StreamCtx) : Destroyed x.s (x.destroy reason).s

/-- One method of a stream, in some connection. -/
inductive KpsStream.Does : KpsStream → KpsStream → Prop
  | opens (s : KpsStream) : Does s ({ s with ch := { s.ch with opened := true } }.settleOpen none)
  | takes {x x' : StreamCtx} {frame : Frame} {retires : Bool}
    (handled : x.handleFrame frame = .done x' retires) : Does x.s x'.s
  | closes (s : KpsStream) : Does s { s with ch := s.ch.close }
  | retires {s : KpsStream} (complete : s.wireComplete = true) (drained : s.inbuf = [])
    (closed : s.channelClosed = true) : Does s { s with retiredFired := true }
  /-- `#onChannelClose`, with the teardown it may cause in its middle. -/
  | loses {s : KpsStream} {x : StreamCtx}
    (torn : Relation.ReflTransGen KpsStream.Destroyed s.shut x.s) : Does s x.channelLost.s
  | fails (text : String) (s : KpsStream) : Does s (s.onError text)
  | writes (chunk : Bytes) (x : StreamCtx) : Does x.s (x.writeChunk chunk).s
  | resumes (x : StreamCtx) : Does x.s x.writeResume.s
  | reads (x : StreamCtx) : Does x.s x.read.1.s
  | wakes (x : StreamCtx) : Does x.s x.readResume.1.s
  | closesWrite (x : StreamCtx) : Does x.s x.closeWrite.s
  | resetsWrite (reason : Option KpsReason) (x : StreamCtx) : Does x.s (x.resetWrite reason).s
  | cancelsRead (reason : Option KpsReason) (x : StreamCtx) : Does x.s (x.cancelRead reason).s
  | leaves (s : KpsStream) : Does s { s with readable := { s.readable with state := .cancelled } }
  | abandons (abandoned : Bool) (s : KpsStream) : Does s { s with abandoned }
  | destroyed {s s' : KpsStream} (destroyed : s.Destroyed s') : Does s s'

/-- The transport sent queued bytes. -/
def Event.isBufferedAmount : Event → Bool
  | .bufferedAmount _ _ => true
  | _ => false

/-- Some methods of a stream. -/
abbrev KpsStream.Changes : KpsStream → KpsStream → Prop := Relation.ReflTransGen KpsStream.Does

namespace ConnCore

/-- Every stream is changed by its methods alone. -/
def Touches (c c' : ConnCore) : Prop := ∀ k, (c.streams k).Changes (c'.streams k)

namespace Touches

variable {c c' c'' : ConnCore} {k op : Nat}

theorem of_same (same : c'.streams = c.streams) : Touches c c' := fun k => by
  rw [same]

theorem refl (c : ConnCore) : Touches c c := of_same rfl

theorem trans (first : Touches c c') (second : Touches c' c'') : Touches c c'' :=
  fun k => Relation.ReflTransGen.trans (first k) (second k)

/-- Something happens that is about no stream, and then streams change. -/
theorem after (touches : Touches c' c'') (same : c'.streams = c.streams) : Touches c c'' :=
  trans (of_same same) touches

/-- One stream changes. -/
theorem put {x : StreamCtx} (changes : (c.streams k).Changes x.s) : Touches c (c.put k x) := by
  intro j
  show (c.streams j).Changes (Function.update c.streams k x.s j)
  by_cases same : j = k
  · subst same
    rw [Function.update_self]
    exact changes
  · rw [Function.update_of_ne same]

theorem onStream {f : StreamCtx → StreamCtx} (does : (c.streams k).Does (f (c.ctx k)).s) :
    Touches c (c.onStream k f) := put (.single does)

theorem retired : Touches c (c.retired k) := by
  unfold ConnCore.retired
  dsimp only
  split <;> exact of_same rfl

theorem maybeRetire : Touches c (c.maybeRetire k) := by
  unfold ConnCore.maybeRetire
  rcases (c.ctx k).maybeRetire_cases with same | ⟨-, -, -, same⟩
    | ⟨complete, drained, closed, -, same⟩
  · rw [same]
    exact put .refl
  · rw [same]
    exact put (.single (.closes _))
  · rw [same]
    exact (put (.single (.retires complete drained closed))).trans retired

theorem retireAfter {f : StreamCtx → StreamCtx} (does : (c.streams k).Does (f (c.ctx k)).s) :
    Touches c (c.retireAfter k f) := (onStream does).trans maybeRetire

theorem runStream {f : StreamCtx → StreamCtx × Bool}
    (does : (c.streams k).Does (f (c.ctx k)).1.s) : Touches c (c.runStream k f) := by
  unfold ConnCore.runStream
  dsimp only
  split
  · exact (put (.single does)).trans maybeRetire
  · exact put (.single does)

theorem closeWrite : Touches c (c.closeWrite k) := by
  unfold ConnCore.closeWrite
  split
  · exact refl c
  · exact retireAfter (.closesWrite (c.ctx k))

theorem resetWrite {reason : Option KpsReason} : Touches c (c.resetWrite k reason) := by
  unfold ConnCore.resetWrite
  split
  · exact refl c
  · exact retireAfter (.resetsWrite reason (c.ctx k))

theorem cancelRead {reason : Option KpsReason} : Touches c (c.cancelRead k reason) := by
  unfold ConnCore.cancelRead
  split
  · exact refl c
  · exact retireAfter (.cancelsRead reason (c.ctx k))

theorem cancelReadable {reason : Option KpsReason} : Touches c (c.cancelReadable k reason) := by
  unfold ConnCore.cancelReadable
  split
  · exact (onStream (.leaves _)).trans cancelRead
  · exact refl c

theorem abandonResume : Touches c (c.abandonResume k) := by
  unfold ConnCore.abandonResume
  split
  · exact ((onStream (.abandons false _)).trans resetWrite).trans cancelRead
  · exact refl c

theorem abandon : Touches c (c.abandon k) := onStream (.abandons true _)

end Touches

/-! ### The end of a connection -/

/-- Every stream is destroyed, some number of times. -/
def Tears (c c' : ConnCore) : Prop :=
  ∀ k, Relation.ReflTransGen KpsStream.Destroyed (c.streams k) (c'.streams k)

namespace Tears

variable {c c' c'' : ConnCore}

theorem of_same (same : c'.streams = c.streams) : Tears c c' := fun k => by
  rw [same]

theorem trans (first : Tears c c') (second : Tears c' c'') : Tears c c'' :=
  fun k => Relation.ReflTransGen.trans (first k) (second k)

/-- Something happens that is about no stream, and then the streams are destroyed. -/
theorem after (tears : Tears c' c'') (same : c'.streams = c.streams) : Tears c c'' :=
  trans (of_same same) tears

theorem touches (tears : Tears c c') : Touches c c' := fun k =>
  Relation.ReflTransGen.mono (fun _ _ destroyed => KpsStream.Does.destroyed destroyed) _ _ (tears k)

theorem destroyAll (reason : Option KpsReason) (keys : List Nat) (c : ConnCore) :
    Tears c (c.destroyAll reason keys) := by
  induction keys generalizing c with
  | nil => exact of_same rfl
  | cons key keys ih =>
    refine trans (fun j => ?_) (ih (c.onStream key (·.destroy reason)))
    show Relation.ReflTransGen _ (c.streams j)
      (Function.update c.streams key ((c.ctx key).destroy reason).s j)
    by_cases same : j = key
    · subst same
      rw [Function.update_self]
      exact .single (.destroy reason (c.ctx j))
    · rw [Function.update_of_ne same]

theorem teardown (info : CloseInfo) (c : ConnCore) : Tears c (c.teardown info) := by
  have rejected (c : ConnCore) (error : KpsError) :
      (c.rejectEstablished error).streams = c.streams := by
    unfold rejectEstablished
    split <;> rfl
  unfold ConnCore.teardown
  dsimp only
  split
  · exact of_same rfl
  · refine trans (after (destroyAll _ _ _) ?_) (of_same rfl)
    exact rejected _ _

theorem fatal (reason : KpsReason) (c : ConnCore) : Tears c (c.fatal reason) := by
  unfold ConnCore.fatal
  dsimp only
  split
  · exact of_same rfl
  · exact (teardown _ _).after rfl

theorem protocolError (text : String) (c : ConnCore) : Tears c (c.protocolError text) :=
  fatal _ c

theorem close (reason : Option KpsReason) (c : ConnCore) : Tears c (c.close reason) := by
  unfold ConnCore.close
  split
  · exact of_same rfl
  · exact (teardown _ _).after rfl

theorem reservedChannelLost (which : String) (c : ConnCore) :
    Tears c (c.reservedChannelLost which) := by
  unfold ConnCore.reservedChannelLost
  split
  · exact of_same rfl
  · exact protocolError _ c

theorem onHelloTimer (c : ConnCore) : Tears c c.onHelloTimer := by
  unfold ConnCore.onHelloTimer
  split
  · exact (fatal _ _).after rfl
  · exact of_same rfl

theorem enqueueAll (keys : List Nat) (c : ConnCore) :
    (keys.foldl (fun c k => c.enqueueIncoming k) c).streams = c.streams := by
  have one (k : Nat) (c : ConnCore) : (c.enqueueIncoming k).streams = c.streams := by
    unfold enqueueIncoming
    split <;> rfl
  induction keys generalizing c with
  | nil => rfl
  | cons key keys ih => exact (ih _).trans (one key c)

theorem checkEstablished (c : ConnCore) : c.checkEstablished.streams = c.streams := by
  unfold ConnCore.checkEstablished
  split
  · rfl
  · split
    · rfl
    · exact enqueueAll _ _

theorem sendHello (c : ConnCore) : c.sendHello.streams = c.streams := by
  unfold ConnCore.sendHello
  split
  · rfl
  · exact checkEstablished _

theorem handleControl (message : ControlMsg) (c : ConnCore) :
    Tears c (c.handleControl message) := by
  unfold ConnCore.handleControl
  cases message with
  | close code => exact teardown _ c
  | maxData value | maxStreams value =>
    dsimp only
    split
    · exact protocolError _ c
    · exact of_same rfl
  | hello version limits =>
    dsimp only
    split
    · exact protocolError _ c
    · split
      · exact (teardown _ _).after rfl
      · exact of_same (checkEstablished _)

theorem onControl (data : Bytes) (c : ConnCore) : Tears c (c.onControl data) := by
  unfold ConnCore.onControl
  split
  · exact protocolError _ c
  · exact (handleControl _ _).after rfl

end Tears

/-! ### One event -/

namespace Touches

variable {c : ConnCore} {k op : Nat}

theorem onFrame (data : Bytes) : Touches c (c.onFrame k data) := by
  unfold ConnCore.onFrame
  split
  · exact (Tears.protocolError _ c).touches
  · split
    · exact (Tears.protocolError _ c).touches
    · next x retires handled =>
      have does : (c.streams k).Does x.s := .takes handled
      split
      · exact (put (.single does)).trans maybeRetire
      · exact put (.single does)

theorem onChannelClose : Touches c (c.onChannelClose k) := by
  have lost {c' : ConnCore} (tears : Tears (c.onStream k fun x => { x with s := x.s.shut }) c') :
      Touches c (c'.onStream k StreamCtx.channelLost) := by
    intro j
    have torn := tears j
    change Relation.ReflTransGen KpsStream.Destroyed
      (Function.update c.streams k (c.streams k).shut j) _ at torn
    show (c.streams j).Changes
      (Function.update c'.streams k (c'.ctx k).channelLost.s j)
    by_cases same : j = k
    · subst same
      rw [Function.update_self] at torn ⊢
      exact .single (.loses torn)
    · rw [Function.update_of_ne same] at torn ⊢
      exact Relation.ReflTransGen.mono (fun _ _ destroyed => KpsStream.Does.destroyed destroyed)
        _ _ torn
  unfold ConnCore.onChannelClose
  dsimp only
  split
  · exact (lost (Tears.protocolError _ _)).trans maybeRetire
  · exact (lost (Tears.of_same rfl)).trans maybeRetire

theorem streamEvent (event : Event) (other : event.isBufferedAmount = false) :
    Touches c (c.streamEvent k event) := by
  cases event with
  | channelOpen => exact put (.single (.opens (c.streams k)))
  | channelMessage _ data => exact onFrame data
  | channelClosing => exact put (.single (.closes (c.streams k)))
  | channelClose => exact onChannelClose
  | channelError _ text => exact put (.single (.fails text (c.streams k)))
  | bufferedAmount => cases other
  | write _ chunk => exact onStream (.writes chunk (c.ctx k))
  | writeResume => exact onStream (.resumes (c.ctx k))
  | read => exact runStream (.reads (c.ctx k))
  | readResume => exact runStream (.wakes (c.ctx k))
  | closeWrite => exact closeWrite
  | resetWrite => exact resetWrite
  | cancelRead => exact cancelRead
  | cancelReadable => exact cancelReadable
  | abandonResume => exact abandonResume
  | _ => exact refl c

theorem reserveSlot (aborted : Bool) : Touches c (c.reserveSlot op aborted) := by
  unfold ConnCore.reserveSlot
  split <;> exact of_same rfl

theorem openStream (aborted : Bool) : Touches c (c.openStream aborted) := by
  unfold ConnCore.openStream
  dsimp only
  split
  · exact of_same rfl
  · split
    · exact of_same rfl
    · exact (reserveSlot aborted).after rfl

theorem openStreamAbort : Touches c (c.openStreamAbort op) := by
  unfold ConnCore.openStreamAbort
  split
  · exact refl c
  · dsimp only
    split
    · split <;> exact of_same rfl
    · exact (of_same rfl).trans (abandon.trans (of_same rfl))
    · exact of_same rfl

theorem acceptStream (waiter : Nat) (aborted : Bool) :
    Touches c (c.acceptStream waiter aborted) := by
  unfold ConnCore.acceptStream
  repeat' split
  all_goals exact of_same rfl

theorem sendDatagram (data : Bytes) (aborted : Bool) : Touches c (c.sendDatagram data aborted) := by
  unfold ConnCore.sendDatagram
  repeat' split
  all_goals exact of_same rfl

theorem receiveDatagram (waiter : Nat) (aborted : Bool) :
    Touches c (c.receiveDatagram waiter aborted) := by
  unfold ConnCore.receiveDatagram
  repeat' split
  all_goals exact of_same rfl

theorem acceptAbort (waiter : Nat) : Touches c (c.acceptAbort waiter) := by
  unfold ConnCore.acceptAbort
  split <;> exact of_same rfl

theorem receiveAbort (waiter : Nat) : Touches c (c.receiveAbort waiter) := by
  unfold ConnCore.receiveAbort
  split <;> exact of_same rfl

theorem onDatagram (data : Bytes) : Touches c (c.onDatagram data) := by
  unfold ConnCore.onDatagram
  split <;> exact of_same rfl

end Touches

/-- A stream changes by its methods, or is made and then does. -/
def Grows (c c' : ConnCore) : Prop := ∀ k, (c.streams k).Changes (c'.streams k) ∨
  (k ∉ c.ids ∧ ∃ peerInitiated isOpen,
    (KpsStream.new c.flow.localLimits peerInitiated isOpen).Changes (c'.streams k))

theorem Touches.grows {c c' : ConnCore} (touches : Touches c c') : Grows c c' :=
  fun k => Or.inl (touches k)

/-- A stream is made. -/
theorem Grows.makeStream {c c' c'' : ConnCore} {k : Nat} {peerInitiated isOpen : Bool}
    (touches : Touches (c'.makeStream k peerInitiated isOpen) c'') (absent : k ∉ c.ids)
    (streams : c'.streams = c.streams) (limits : c'.flow.localLimits = c.flow.localLimits) :
    Grows c c'' := by
  intro j
  have changes := touches j
  change (Function.update c'.streams k (KpsStream.new c'.flow.localLimits peerInitiated isOpen)
    j).Changes _ at changes
  by_cases same : j = k
  · subst same
    rw [Function.update_self, limits] at changes
    exact Or.inr ⟨absent, peerInitiated, isOpen, changes⟩
  · rw [Function.update_of_ne same, streams] at changes
    exact Or.inl changes

theorem Grows.openStreamResume {c : ConnCore} {op : Nat} (channel : Except KpsError Nat)
    (isOpen : Bool) : Grows c (c.openStreamResume op channel isOpen) := by
  have quiet {c' : ConnCore} (same : c'.streams = c.streams) : Grows c c' :=
    (Touches.of_same same).grows
  unfold ConnCore.openStreamResume
  split
  · exact quiet rfl
  · exact quiet rfl
  · split
    · exact (Touches.reserveSlot _).grows
    · exact quiet rfl
  · next aborted _ =>
    split
    · exact quiet rfl
    · next k =>
      split
      · exact quiet rfl
      · next absent =>
        unfold ConnCore.openChannel
        dsimp only
        split
        · exact Grows.makeStream (Touches.abandon.trans (.of_same rfl)) absent rfl rfl
        · exact Grows.makeStream (.of_same rfl) absent rfl rfl
  · split <;> exact quiet rfl

theorem Grows.handleIncomingChannel {c : ConnCore} {k : Nat} (isOpen : Bool) (absent : k ∉ c.ids) :
    Grows c (c.handleIncomingChannel k isOpen) := by
  unfold ConnCore.handleIncomingChannel
  split
  · exact (Tears.protocolError _ c).touches.grows
  · next flow admitted =>
    have limits : flow.localLimits = c.flow.localLimits := by
      unfold ConnFlow.peerStreamOpened at admitted
      split at admitted <;> cases admitted
      rfl
    have made {c' : ConnCore} (touches : Touches ({ c with flow }.makeStream k true isOpen) c') :
        Grows c c' := by
      refine Grows.makeStream touches absent ?_ limits
      rfl
    dsimp only
    split
    · exact made (.of_same (Tears.enqueueAll [k] _))
    · exact made (.of_same rfl)

theorem Grows.connEvent {c : ConnCore} (event : Event) : Grows c (c.connEvent event) := by
  cases event with
  | controlOpen =>
    refine Touches.grows (.of_same ?_)
    exact Tears.sendHello _
  | controlMessage data => exact (Tears.onControl data c).touches.grows
  | controlClose =>
    refine Touches.grows (Tears.touches ?_)
    exact (Tears.reservedChannelLost _ _).after rfl
  | controlError => exact (Tears.reservedChannelLost _ c).touches.grows
  | datagramClose =>
    refine Touches.grows (Tears.touches ?_)
    exact (Tears.reservedChannelLost _ _).after rfl
  | datagramMessage data => exact (Touches.onDatagram data).grows
  | incomingChannel k isOpen =>
    show Grows c (if k ∈ c.ids then c else c.handleIncomingChannel k isOpen)
    split
    · exact (Touches.refl c).grows
    · next absent => exact handleIncomingChannel isOpen absent
  | helloTimer => exact (Tears.onHelloTimer c).touches.grows
  | transportFailed message => exact (Tears.teardown _ c).touches.grows
  | transportClosed => exact (Tears.teardown _ c).touches.grows
  | openStream aborted => exact (Touches.openStream aborted).grows
  | openStreamResume op channel isOpen => exact openStreamResume channel isOpen
  | openStreamAbort op => exact Touches.openStreamAbort.grows
  | acceptStream waiter aborted => exact (Touches.acceptStream waiter aborted).grows
  | acceptAbort waiter => exact (Touches.acceptAbort waiter).grows
  | sendDatagram data aborted => exact (Touches.sendDatagram data aborted).grows
  | receiveDatagram waiter aborted => exact (Touches.receiveDatagram waiter aborted).grows
  | receiveAbort waiter => exact (Touches.receiveAbort waiter).grows
  | close reason => exact (Tears.close reason c).touches.grows
  | _ => exact (Touches.of_same rfl).grows

/-- **An event changes a stream by its methods alone, or makes it.** -/
theorem step_grows (c : ConnCore) {event : Event} (other : event.isBufferedAmount = false) :
    Grows c (c.step event) := by
  unfold step
  split
  · split
    · exact (Touches.streamEvent event other).grows
    · exact (Touches.refl c).grows
  · exact Grows.connEvent event

end ConnCore

/-- What every method keeps of a stream. -/
structure KpsStream.Lasting (keeps : KpsStream → Prop) : Prop where
  blank : ∀ limits, keeps { sf := StreamFlow.new limits }
  new : ∀ limits peerInitiated isOpen, keeps (KpsStream.new limits peerInitiated isOpen)
  does : ∀ s s' : KpsStream, s.Does s' → keeps s → keeps s'

namespace KpsStream.Lasting

variable {keeps : KpsStream → Prop}

theorem changes (lasting : Lasting keeps) {s s' : KpsStream} (changes : s.Changes s')
    (kept : keeps s) : keeps s' := by
  induction changes with
  | refl => exact kept
  | tail _ does kept => exact lasting.does _ _ does kept

/-- **What every method keeps, every event keeps**, but for the sending of queued bytes. -/
theorem step (lasting : Lasting keeps) {c : ConnCore} {k : Nat} (kept : keeps (c.streams k))
    {event : Event} (other : event.isBufferedAmount = false) :
      keeps ((c.step event).streams k) := by
  rcases c.step_grows other k with changes | ⟨-, peerInitiated, isOpen, changes⟩
  · exact lasting.changes changes kept
  · exact lasting.changes changes (lasting.new _ peerInitiated isOpen)

theorem connNew (lasting : Lasting keeps) (limits : FlowLimits) (controlOpen : Bool) (k : Nat) :
    keeps ((ConnCore.new limits controlOpen).streams k) := by
  have same : (ConnCore.new limits controlOpen).streams k = { sf := StreamFlow.new limits } := by
    cases controlOpen <;> rfl
  rw [same]
  exact lasting.blank limits

end KpsStream.Lasting

end Kps.Ts
