/-
**What is kept of a connection.**

* `ConnInv` is the invariant of a `ConnCore`: every stream keeps its own, the connection's byte
  counters are the totals of the streams' (`Ledgers`), the stream counts are those of the streams
  that exist (`SlotInv`), and the limits learned from the peer are those of the control messages
  received (`peerView`). No event breaks it, whatever the peer sends.
* `Evolves` is what an end may do to itself without accepting anything: frames and control messages
  are only appended, and what is granted is advertised.
-/

import Kps.Lib.Ledger
import Kps.Ts.Reader
import Kps.Ts.StreamSteps

namespace Kps.Ts

open Kps.Lib

/-! ### Counting streams -/

/-- One for each stream this end opened. -/
def ownWeight (s : KpsStream) : Int := if s.peerInitiated then 0 else 1

/-- One for each stream the peer opened. -/
def peerWeight (s : KpsStream) : Int := if s.peerInitiated then 1 else 0

/-- One for each stream the peer opened that retired. -/
def retiredWeight (s : KpsStream) : Int := if s.peerInitiated && s.retiredFired then 1 else 0

/-- The `openStream` calls that hold a slot. -/
def reservedSlots (opens : List OpenCall) : Nat := opens.countP fun call => call.pc = .reserved

/-- The limit on streams that stands advertised on the control channel. -/
def streamsLimit (limits : FlowLimits) (sent : List ControlMsg) : Nat :=
  sent.foldl (fun limit message => match message with
    | .maxStreams value => max limit value
    | _ => limit) limits.initialMaxStreams

@[simp] theorem streamsLimit_concat (limits : FlowLimits) (sent : List ControlMsg) (value : Nat) :
    streamsLimit limits (sent ++ [.maxStreams value]) = max (streamsLimit limits sent) value := by
  simp [streamsLimit]

/-- Only MAX_STREAMS moves the limit on streams. -/
theorem streamsLimit_append {limits : FlowLimits} (sent : List ControlMsg)
    {extra : List ControlMsg} (silent : ∀ value, ControlMsg.maxStreams value ∉ extra) :
    streamsLimit limits (sent ++ extra) = streamsLimit limits sent := by
  induction extra using List.reverseRecOn with
  | nil => rw [List.append_nil]
  | append_singleton extra message ih =>
    rw [← List.append_assoc, ← ih fun value member => silent value (List.mem_append_left _ member)]
    cases message with
    | maxStreams value => exact absurd (by simp) (silent value)
    | _ => simp [streamsLimit]

/-- Only MAX_DATA moves the limit on data. -/
theorem dataLimit_append {limits : FlowLimits} (sent : List ControlMsg)
    {extra : List ControlMsg} (silent : ∀ value, ControlMsg.maxData value ∉ extra) :
    dataLimit limits (sent ++ extra) = dataLimit limits sent := by
  induction extra using List.reverseRecOn with
  | nil => rw [List.append_nil]
  | append_singleton extra message ih =>
    rw [← List.append_assoc, ← ih fun value member => silent value (List.mem_append_left _ member)]
    cases message with
    | maxData value => exact absurd (by simp) (silent value)
    | _ => simp [dataLimit]

/-! ### The limits learned from the peer -/

/-- What an end has learned of its peer's limits. -/
structure PeerView where
  hello : Option FlowLimits
  streamData : Int
  data : Int
  streams : Int

/-- How a control message changes it. -/
def PeerView.learn (view : PeerView) : ControlMsg → PeerView
  | .hello version limits =>
    if view.hello.isSome ∨ version ≠ wireVersion then view
    else ⟨some limits, limits.initialMaxStreamData, limits.initialMaxData, limits.initialMaxStreams⟩
  | .maxData value => if view.hello.isNone then view else { view with data := max view.data value }
  | .maxStreams value =>
    if view.hello.isNone then view else { view with streams := max view.streams value }
  | .close _ => view

/-- What the control messages of a peer say. -/
def peerView (received : List ControlMsg) : PeerView :=
  received.foldl PeerView.learn ⟨none, 0, 0, 0⟩

@[simp] theorem peerView_concat (received : List ControlMsg) (message : ControlMsg) :
    peerView (received ++ [message]) = (peerView received).learn message := by
  simp [peerView]

theorem peerView_nonneg (received : List ControlMsg) : 0 ≤ (peerView received).streamData := by
  induction received using List.reverseRecOn with
  | nil => exact le_refl _
  | append_singleton received message ih =>
    rw [peerView_concat]
    cases message <;> unfold PeerView.learn <;> dsimp only
    · exact ih
    · split
      · exact ih
      · exact Int.natCast_nonneg _
    all_goals
      split <;> exact ih

/-- Before HELLO nothing is granted. -/
theorem peerView_of_none {received : List ControlMsg} (none : (peerView received).hello = none) :
    peerView received = ⟨.none, 0, 0, 0⟩ := by
  induction received using List.reverseRecOn with
  | nil => rfl
  | append_singleton received message ih =>
    rw [peerView_concat] at none ⊢
    have before : (peerView received).hello = .none := by
      cases seen : (peerView received).hello with
      | none => rfl
      | some limits => cases message <;> simp [PeerView.learn, seen] at none
    have view := ih before
    rw [view] at none ⊢
    cases message with
    | hello version limits =>
      by_cases wrong : version ≠ wireVersion
      · simp [PeerView.learn, wrong]
      · simp [PeerView.learn, wrong] at none
    | _ => simp [PeerView.learn]

def ConnCore.view (c : ConnCore) : PeerView where
  hello := c.peerHello
  streamData := c.flow.peerMaxStreamDataInitial
  data := c.flow.peerMaxData
  streams := c.flow.peerMaxStreams

/-- What an end learns from a control message, apart from what it does about it. -/
def ConnCore.learn (message : ControlMsg) (c : ConnCore) : ConnCore :=
  let c := { c with ctlIn := c.ctlIn ++ [message] }
  match message with
  | .hello version limits =>
    if c.peerHello.isSome ∨ version ≠ wireVersion then c
    else { c with peerHello := some limits, flow := c.flow.onPeerHello limits }
  | .maxData value =>
    if c.peerHello.isNone then c else { c with flow := c.flow.onPeerMaxData value }
  | .maxStreams value =>
    if c.peerHello.isNone then c else { c with flow := c.flow.onPeerMaxStreams value }
  | .close _ => c

/-! ### The invariant -/

/-- The streams an end refers to exist. -/
structure Registry (c : ConnCore) : Prop where
  nodup : c.ids.Nodup
  blank : ∀ k, k ∉ c.ids → c.streams k = { sf := StreamFlow.new c.flow.localLimits }
  live : ∀ k ∈ c.live, k ∈ c.ids
  staged : ∀ k ∈ c.staged, k ∈ c.ids
  opening : ∀ call ∈ c.opens, ∀ k, call.pc = .opening k → k ∈ c.ids

/-- The connection's counters are totals over its streams. -/
structure Ledgers (c : ConnCore) : Prop where
  sent : c.flow.connSent = total c.ids (fun s => s.sf.sendSent) c.streams
  reserved : c.flow.connReserved = total c.ids (fun s => s.sf.sendReserved) c.streams
  received : c.flow.connReceived = total c.ids (fun s => s.sf.received) c.streams
  consumed : c.flow.connConsumed = total c.ids (fun s => s.sf.consumed) c.streams
  opened : c.flow.streamsOpened = total c.ids ownWeight c.streams
  slots : c.flow.streamsReserved = reservedSlots c.opens
  peerOpened : c.flow.peerOpenedStreams = total c.ids peerWeight c.streams
  peerRetired : c.flow.peerRetiredStreams = total c.ids retiredWeight c.streams

/-- The invariant of the stream counts. -/
structure SlotInv (f : ConnFlow) (control : Channel ControlMsg) : Prop where
  within : f.streamsOpened + f.streamsReserved ≤ f.peerMaxStreams
  unretired : f.peerOpenedStreams ≤ f.localLimits.initialMaxStreams + f.peerRetiredStreams
  granted : f.advertisedMaxStreams ≤ f.localLimits.initialMaxStreams + f.peerRetiredStreams
  retired : 0 ≤ f.peerRetiredStreams
  floor : min (f.localLimits.initialMaxStreams + f.peerRetiredStreams : Int) maxOffset ≤
    f.advertisedMaxStreams
  capped : f.localLimits.initialMaxStreams ≤ maxOffset → f.advertisedMaxStreams ≤ maxOffset
  adverts : ∀ value, ControlMsg.maxStreams value ∈ control.sent →
    (value : Int) ≤ min f.advertisedMaxStreams maxOffset

/-- An `openStream` that waits for a slot and was not woken finds none. -/
def OpenersParked (f : ConnFlow) (opens : List OpenCall) : Prop :=
  ∀ call ∈ opens, ∀ ticket, call.pc = .reserving ticket → ticket ≤ f.credit.wakes ∧
    (f.credit.resolved ticket = false →
      f.failure = none ∧ f.peerMaxStreams ≤ f.streamsOpened + f.streamsReserved)

/-- The invariant of a connection. -/
structure ConnInv (c : ConnCore) : Prop where
  registry : Registry c
  ledgers : Ledgers c
  stream : ∀ k, StreamInv c.flow (c.streams k).progress 0 (c.streams k)
  data : DataInv c.flow c.control
  slots : SlotInv c.flow c.control
  parked : OpenersParked c.flow c.opens
  view : c.view = peerView c.ctlIn

/-! ### What an end does by itself -/

/-- A message an end may send on the control channel after HELLO. -/
def ControlMsg.isCredit : ControlMsg → Bool
  | .maxData _ => true
  | .maxStreams _ => true
  | _ => false

def ControlMsg.isClose : ControlMsg → Bool
  | .close _ => true
  | _ => false

/-- What a stream of an end becomes, besides accepting the frames it has `heard`. -/
structure KpsStream.Evolves (limits : FlowLimits) (heard : List Frame) (s s' : KpsStream) :
    Prop where
  initiated : s'.peerInitiated = s.peerInitiated
  accepted : s'.accepted = s.accepted ++ heard
  sent : s.ch.sent <+: s'.ch.sent
  opened : s'.ch.opened = s.ch.opened
  closed : s.ch.closed = true → s'.ch.closed = true
  /-- An end closes a channel only when both halves have ended. -/
  retiring : s'.ch.closed = true → s.ch.closed = true ∨ s'.wireComplete = true
  wireComplete : s.wireComplete = true → s'.wireComplete = true
  ended : s.localTerminal.isSome = true → s'.localTerminal.isSome = true
  /-- A write half that ends while the channel is open ends with a terminal frame. -/
  announced : (s.ch.isOpen = true ∨ s.localTerminal.isSome = true) →
    (s.localTerminal.isSome = true → hasTerminal s.ch.sent = true) →
    s'.localTerminal.isSome = true → hasTerminal s'.ch.sent = true
  /-- What is granted is advertised, while the channel is open. -/
  advertised : s'.ch.isOpen = true → limits.initialMaxStreamData ≤ maxOffset →
    s.sf.localMaxStreamData = streamLimit limits s.ch.sent →
    s'.sf.localMaxStreamData = streamLimit limits s'.ch.sent
  reads : s.Reads s'

namespace KpsStream.Evolves

variable {limits : FlowLimits} {heard : List Frame} {s s' s'' : KpsStream}

theorem refl (limits : FlowLimits) (s : KpsStream) : s.Evolves limits [] s where
  initiated := rfl
  accepted := (List.append_nil _).symm
  sent := List.prefix_refl _
  opened := rfl
  closed := id
  retiring := Or.inl
  wireComplete := id
  ended := id
  announced := fun _ => id
  advertised := fun _ _ => id
  reads := .refl s

/-- A stream that changes in nothing the peer can see. -/
theorem of_halves (read : ∀ limits, s'.readHalf limits = s.readHalf limits)
    (write : ∀ initial, s'.writeHalf initial = s.writeHalf initial) (sf : s'.sf = s.sf)
    (initiated : s'.peerInitiated = s.peerInitiated) (opened : s'.ch.opened = s.ch.opened)
    (closed : s'.ch.closed = s.ch.closed) (reads : s.Reads s') : s.Evolves limits [] s' := by
  have accepted : s'.accepted = s.accepted := congrArg ReadHalf.accepted (read limits)
  have fin : s'.peerFin = s.peerFin := congrArg ReadHalf.peerFin (read limits)
  have reset : s'.peerReset = s.peerReset := congrArg ReadHalf.peerReset (read limits)
  have sent : s'.ch.sent = s.ch.sent := congrArg WriteHalf.sent (write 0)
  have terminal : s'.localTerminal = s.localTerminal := congrArg WriteHalf.terminal (write 0)
  have isOpen : s'.ch.isOpen = s.ch.isOpen := by rw [Channel.isOpen, opened, closed]; rfl
  exact {
    initiated
    accepted := by rw [accepted, List.append_nil]
    sent := by rw [sent]
    opened
    closed := by rw [closed]; exact id
    retiring := by rw [closed]; exact Or.inl
    wireComplete := by
      unfold KpsStream.wireComplete
      rw [terminal, fin, reset]
      exact id
    ended := by rw [terminal]; exact id
    announced := by rw [sent, terminal]; exact fun _ => id
    advertised := by rw [sent, sf]; exact fun _ _ => id
    reads }

/-- A channel that is open now was open. -/
theorem wasOpen (step : s.Evolves limits heard s') (isOpen : s'.ch.isOpen = true) :
    s.ch.isOpen = true := by
  simp only [Channel.isOpen, Bool.and_eq_true, Bool.not_eq_true'] at isOpen ⊢
  refine ⟨step.opened ▸ isOpen.1, ?_⟩
  cases shut : s.ch.closed with
  | false => rfl
  | true =>
    rw [step.closed shut] at isOpen
    exact absurd isOpen.2 (by decide)

/-- A write half that could end with a terminal frame still can, or has ended. -/
theorem able (step : s.Evolves limits heard s')
    (able : s.ch.isOpen = true ∨ s.localTerminal.isSome = true) :
    s'.ch.isOpen = true ∨ s'.localTerminal.isSome = true := by
  rcases able with isOpen | ended
  · simp only [Channel.isOpen, Bool.and_eq_true, Bool.not_eq_true'] at isOpen ⊢
    cases shut : s'.ch.closed with
    | false => exact Or.inl ⟨step.opened.trans isOpen.1, rfl⟩
    | true =>
      rcases step.retiring shut with before | complete
      · rw [isOpen.2] at before
        cases before
      · exact Or.inr (Bool.and_eq_true _ _ ▸ complete).1
  · exact Or.inr (step.ended ended)

theorem trans (first : s.Evolves limits heard s') (second : s'.Evolves limits [] s'') :
    s.Evolves limits heard s'' where
  initiated := second.initiated.trans first.initiated
  accepted := by rw [second.accepted, first.accepted, List.append_nil]
  sent := first.sent.trans second.sent
  opened := second.opened.trans first.opened
  closed := fun shut => second.closed (first.closed shut)
  retiring := fun shut => by
    rcases second.retiring shut with before | complete
    · exact (first.retiring before).imp id second.wireComplete
    · exact Or.inr complete
  wireComplete := fun complete => second.wireComplete (first.wireComplete complete)
  ended := fun ended => second.ended (first.ended ended)
  announced := fun able announced =>
    second.announced (first.able able) (first.announced able announced)
  advertised := fun isOpen small here =>
    second.advertised isOpen small (first.advertised (second.wasOpen isOpen) small here)
  reads := first.reads.trans second.reads

/-- One stream of many. -/
theorem update {streams : Nat → KpsStream} {k : Nat} {s' : KpsStream}
    (step : (streams k).Evolves limits heard s') (j : Nat) :
    (streams j).Evolves limits (Function.update (fun _ => []) k heard j)
      (Function.update streams k s' j) := by
  by_cases same : j = k
  · subst same
    rw [Function.update_self, Function.update_self]
    exact step
  · rw [Function.update_of_ne same, Function.update_of_ne same]
    exact refl limits _

end KpsStream.Evolves

/-- No frame on any stream. -/
def silence : Nat → List Frame := fun _ => []

/-- What an end may do to itself, besides accepting the frames it has `heard`. -/
structure Evolves (heard : Nat → List Frame) (c c' : ConnCore) : Prop where
  limits : c'.flow.localLimits = c.flow.localLimits
  ids : c'.ids = c.ids
  ctlIn : c'.ctlIn = c.ctlIn
  helloSent : c'.helloSent = c.helloSent
  streams : ∀ k, (c.streams k).Evolves c.flow.localLimits (heard k) (c'.streams k)
  controlOpened : c'.control.opened = c.control.opened
  controlClosed : c'.control.closed = c.control.closed
  /-- Credit is only sent about streams, and a close only while tearing down. -/
  control : ∃ extra, c'.control.sent = c.control.sent ++ extra ∧ ∀ message ∈ extra, message.WF ∧
    (message.isCredit = true ∧ c.ids ≠ [] ∨ message.isClose = true ∧ c'.closeFired = true)
  dataAdvertised : c.control.isOpen = true → c.flow.localLimits.initialMaxData ≤ maxOffset →
    c.flow.localMaxData = dataLimit c.flow.localLimits c.control.sent →
    c'.flow.localMaxData = dataLimit c.flow.localLimits c'.control.sent
  slotsAdvertised : c.control.isOpen = true → c.flow.localLimits.initialMaxStreams ≤ maxOffset →
    c.flow.advertisedMaxStreams = streamsLimit c.flow.localLimits c.control.sent →
    c'.flow.advertisedMaxStreams = streamsLimit c.flow.localLimits c'.control.sent
  closeFired : c.closeFired = true → c'.closeFired = true

namespace Evolves

variable {heard : Nat → List Frame} {c c' c'' : ConnCore}

theorem refl (c : ConnCore) : Evolves silence c c where
  limits := rfl
  ids := rfl
  ctlIn := rfl
  helloSent := rfl
  streams := fun _ => KpsStream.Evolves.refl _ _
  controlOpened := rfl
  controlClosed := rfl
  control := ⟨[], by simp⟩
  dataAdvertised := fun _ _ => id
  slotsAdvertised := fun _ _ => id
  closeFired := id

theorem controlIsOpen (step : Evolves heard c c') : c'.control.isOpen = c.control.isOpen := by
  unfold Channel.isOpen
  rw [step.controlOpened, step.controlClosed]

theorem trans (first : Evolves heard c c') (second : Evolves silence c' c'') :
    Evolves heard c c'' where
  limits := second.limits.trans first.limits
  ids := second.ids.trans first.ids
  ctlIn := second.ctlIn.trans first.ctlIn
  helloSent := second.helloSent.trans first.helloSent
  streams := fun k => (first.streams k).trans (first.limits ▸ second.streams k)
  controlOpened := second.controlOpened.trans first.controlOpened
  controlClosed := second.controlClosed.trans first.controlClosed
  control := by
    obtain ⟨extra, sent, kinds⟩ := first.control
    obtain ⟨extra', sent', kinds'⟩ := second.control
    refine ⟨extra ++ extra', by rw [sent', sent, List.append_assoc], fun message member => ?_⟩
    rcases List.mem_append.mp member with here | there
    · obtain ⟨wf, kind⟩ := kinds message here
      exact ⟨wf, kind.imp id fun closing => ⟨closing.1, second.closeFired closing.2⟩⟩
    · obtain ⟨wf, kind⟩ := kinds' message there
      exact ⟨wf, kind.imp (fun credit => ⟨credit.1, first.ids ▸ credit.2⟩) id⟩
  dataAdvertised := fun isOpen small here => by
    have middle := first.dataAdvertised isOpen small here
    rw [← first.limits] at small middle ⊢
    exact second.dataAdvertised (first.controlIsOpen ▸ isOpen) small middle
  slotsAdvertised := fun isOpen small here => by
    have middle := first.slotsAdvertised isOpen small here
    rw [← first.limits] at small middle ⊢
    exact second.slotsAdvertised (first.controlIsOpen ▸ isOpen) small middle
  closeFired := fun fired => second.closeFired (first.closeFired fired)

end Evolves

end Kps.Ts
