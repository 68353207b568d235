/-
**The state machine of the control channel.**

* `ConnCore.handshake_step` — what one event does to the handshake, for every event;
* `HandshakeInv.after`, `Heard.after` — the invariant in every state that is reached;
* `control_machine` — `established` resolves only after a proper exchange of HELLOs, nothing is
  granted before it, a violation ends the connection with an error, and the first reason to end is
  the one that is reported.
-/

import Kps.Ts.Handshake

namespace Kps.Ts

open Kps.Lib

/-- What a control message says, or why it does not decode. -/
abbrev ControlInput := Except String ControlMsg

/-- The control message an event brings. -/
def Event.control : Event → List ControlInput
  | .controlMessage data => [decodeControl data]
  | _ => []

/-- The control messages received, in order, well-formed or not. -/
def controlInputs (events : List Event) : List ControlInput := events.flatMap Event.control

theorem controlInputs_concat (events : List Event) (event : Event) :
    controlInputs (events ++ [event]) = controlInputs events ++ event.control := by
  simp [controlInputs]

namespace ConnCore

variable {c : ConnCore} {past : List ControlInput}

/-! ### HELLO -/

theorem handshake_checkEstablished (inv : HandshakeInv c.handshake)
    (heard : Heard past c.handshake) :
    HandshakeSpec past c.handshake c.checkEstablished.handshake := by
  have quiet : HandshakeSpec past c.handshake c.handshake :=
    .of_talks (Talks.refl _) inv heard
  unfold checkEstablished
  split
  · exact quiet
  · next open_ =>
    obtain ⟨pending, alive⟩ : c.establishedDone = false ∧ c.closeFired = false := by
      simpa using open_
    split
    · exact quiet
    · next ready =>
      obtain ⟨greeted, known⟩ : c.helloSent = true ∧ c.peerHello.isSome = true := by
        simpa [Option.isSome_iff_ne_none] using ready
      have established := inv.establish alive pending greeted known
      have first : ∃ limits, past.head? = some (.ok (.hello wireVersion limits)) := by
        obtain ⟨limits, present⟩ := Option.isSome_iff_exists.mp known
        have hello := heard.hello alive
        rw [show c.handshake.peerHello = c.peerHello from rfl, present] at hello
        obtain ⟨rest, received, -⟩ := hello
        exact ⟨limits, by rw [heard.all alive, received]; rfl⟩
      have done : HandshakeSpec past c.handshake { { c with
          establishedDone := true, state := .open, helloTimer := false }.report .established with
          staged := [] }.handshake :=
        ⟨established, ⟨heard.all, heard.hello, fun _ => first⟩, List.prefix_append _ _,
          fun halted => by
            rw [show c.handshake.closeFired = c.closeFired from rfl, alive] at halted
            cases halted⟩
      exact done.andThen (.of_talks (Talks.enqueueAll c.staged rfl) done.inv done.heard)

theorem handshake_sendHello (inv : HandshakeInv c.handshake) (heard : Heard past c.handshake) :
    HandshakeSpec past c.handshake c.sendHello.handshake := by
  unfold sendHello
  split
  · exact .of_talks (Talks.refl _) inv heard
  · have greeted : HandshakeInv { c.handshake with helloSent := true } :=
      { inv with exchanged := fun done => ⟨rfl, (inv.exchanged done).2⟩ }
    have marked : HandshakeSpec past c.handshake ({ c with helloSent := true }.trySendControl
        (.hello wireVersion c.flow.localLimits)).handshake :=
      ⟨greeted, ⟨heard.all, heard.hello, heard.first⟩, List.prefix_refl _,
        fun halted => ⟨halted, rfl⟩⟩
    exact marked.andThen (handshake_checkEstablished marked.inv marked.heard)

/-! ### Control messages -/

theorem map_ok_concat (ctlIn : List ControlMsg) (message : ControlMsg) :
    (ctlIn.map .ok ++ [.ok message] : List ControlInput) = (ctlIn ++ [message]).map .ok := by
  rw [List.map_append]
  rfl

theorem handshake_received (inv : HandshakeInv c.handshake) (ctlIn : List ControlMsg) :
    HandshakeInv { c with ctlIn }.handshake :=
  ⟨inv.tearing, inv.state, inv.established, inv.exchanged, inv.early, inv.grants, inv.lasting,
    inv.once, inv.fired⟩

/-- A control message that ends the connection. -/
theorem handshake_ends {info : CloseInfo} {c' : ConnCore} {ctlIn : List ControlMsg}
    (ends : Ends info { c with ctlIn }.handshake c'.handshake) (heard : Heard past c.handshake)
    (more : List ControlInput) : HandshakeSpec (past ++ more) c.handshake c'.handshake :=
  .of_ends
    (h := c.handshake) ⟨ends.inv, ends.log, ends.halted, ends.established, ends.reports⟩ heard
    (List.prefix_append _ _)

/-- A credit message, after HELLO. -/
theorem handshake_credit {c' : ConnCore} {message : ControlMsg} (inv : HandshakeInv c.handshake)
    (heard : Heard past c.handshake) (known : ¬ c.peerHello.isNone = true)
    (credit : message.isCredit = true)
    (same : c'.handshake = { c with ctlIn := c.ctlIn ++ [message] }.handshake) :
    HandshakeSpec (past ++ [.ok message]) c.handshake c'.handshake := by
  rw [same]
  refine ⟨handshake_received inv _, ⟨fun alive => ?_, fun alive => ?_, fun done => ?_⟩,
    List.prefix_refl _, fun halted => ⟨halted, rfl⟩⟩
  · rw [heard.all alive]
    exact map_ok_concat c.ctlIn message
  · have hello := heard.hello alive
    obtain ⟨limits, present⟩ : ∃ limits, c.peerHello = some limits := by
      cases hello : c.peerHello with
      | none => simp [hello] at known
      | some limits => exact ⟨limits, rfl⟩
    have later : { c with ctlIn := c.ctlIn ++ [message] }.handshake.peerHello = some limits :=
      present
    rw [show c.handshake.peerHello = c.peerHello from rfl, present] at hello
    rw [later]
    obtain ⟨rest, received, credits⟩ := hello
    refine ⟨rest ++ [message], ?_, fun other member => ?_⟩
    · show c.ctlIn ++ [message] = _
      rw [show c.ctlIn = _ from received]
      rfl
    rcases List.mem_append.mp member with old | new
    · exact credits other old
    · exact List.mem_singleton.mp new ▸ credit
  · obtain ⟨limits, first⟩ := heard.first done
    exact ⟨limits, by rw [List.head?_append, first]; rfl⟩

theorem handshake_handleControl (message : ControlMsg) (inv : HandshakeInv c.handshake)
    (heard : Heard past c.handshake) : HandshakeSpec (past ++ [.ok message]) c.handshake
      ({ c with ctlIn := c.ctlIn ++ [message] }.handleControl message).handshake := by
  have received := handshake_received inv (c.ctlIn ++ [message])
  unfold handleControl
  cases message with
  | close code => exact handshake_ends (plainTeardown_ends _ received) heard _
  | maxData value =>
    dsimp only
    split
    · exact handshake_ends (protocolError_ends _ received) heard _
    · next known => exact handshake_credit inv heard known rfl rfl
  | maxStreams value =>
    dsimp only
    split
    · exact handshake_ends (protocolError_ends _ received) heard _
    · next known => exact handshake_credit inv heard known rfl rfl
  | hello version limits =>
    dsimp only
    split
    · exact handshake_ends (protocolError_ends _ received) heard _
    · next fresh =>
      split
      · have ended := plainTeardown_ends (c := { c with
            ctlIn := c.ctlIn ++ [ControlMsg.hello version limits] }.trySendControl
              (.close (codeToNum (some .unsupported))))
        exact handshake_ends (c := c) (ended _ received) heard _
      · next right =>
        have right : version = wireVersion := not_not.mp right
        have unknown : c.peerHello = none := by simpa using fresh
        have learned : HandshakeSpec (past ++ [.ok (.hello version limits)]) c.handshake { c with
            ctlIn := c.ctlIn ++ [ControlMsg.hello version limits]
            peerHello := some limits
            flow := c.flow.onPeerHello limits }.handshake := by
          refine ⟨⟨inv.tearing, inv.state, inv.established, ?_, inv.early, inv.grants, inv.lasting,
            inv.once, inv.fired⟩, ⟨fun alive => ?_, fun alive => ?_, fun done => ?_⟩,
            List.prefix_refl _, fun halted => ⟨halted, rfl⟩⟩
          · exact fun done => ⟨(inv.exchanged done).1, rfl⟩
          · rw [heard.all alive]
            exact map_ok_concat c.ctlIn _
          · have hello := heard.hello alive
            rw [show c.handshake.peerHello = c.peerHello from rfl, unknown] at hello
            refine ⟨[], ?_, fun _ none => by cases none⟩
            show c.ctlIn ++ [ControlMsg.hello version limits] = _
            rw [show c.ctlIn = [] from hello, right]
            rfl
          · obtain ⟨limits, first⟩ := heard.first done
            exact ⟨limits, by rw [List.head?_append, first]; rfl⟩
        exact learned.andThen (handshake_checkEstablished learned.inv learned.heard)

theorem handshake_onControl (data : Bytes) (inv : HandshakeInv c.handshake)
    (heard : Heard past c.handshake) : HandshakeSpec (past ++ [decodeControl data]) c.handshake
      (c.onControl data).handshake := by
  unfold onControl
  cases decodeControl data with
  | error text => exact .of_ends (protocolError_ends text inv) heard (List.prefix_append _ _)
  | ok message => exact handshake_handleControl message inv heard

/-! ### One event -/

theorem handshake_streamEvent (k : Nat) (event : Event) (inv : HandshakeInv c.handshake)
    (heard : Heard past c.handshake) :
    HandshakeSpec past c.handshake (c.streamEvent k event).handshake := by
  have quiet {c' : ConnCore} (same : c'.handshake = c.handshake) :
      HandshakeSpec past c.handshake c'.handshake :=
    .of_talks (Talks.of_eq same) inv heard
  rcases streamEvent_cases k event c with on | ⟨c', text, before, after⟩
  · exact quiet on.handshake
  · have ended := HandshakeSpec.of_ends (protocolError_ends (c := c') text (before.handshake ▸ inv))
      (before.handshake ▸ heard) (List.prefix_refl _)
    rw [after.handshake, ← before.handshake]
    exact ended

theorem handshake_reservedChannelLost (which : String) (inv : HandshakeInv c.handshake)
    (heard : Heard past c.handshake) :
    HandshakeSpec past c.handshake (c.reservedChannelLost which).handshake := by
  unfold reservedChannelLost
  split
  · exact .of_talks (Talks.refl _) inv heard
  · exact .of_ends (protocolError_ends _ inv) heard (List.prefix_refl _)

theorem handshake_handleIncomingChannel (k : Nat) (isOpen : Bool) (inv : HandshakeInv c.handshake)
    (heard : Heard past c.handshake) :
    HandshakeSpec past c.handshake (c.handleIncomingChannel k isOpen).handshake := by
  unfold handleIncomingChannel
  split
  · exact .of_ends (protocolError_ends _ inv) heard (List.prefix_refl _)
  · next flow _ =>
    dsimp only
    split
    · next done =>
      exact .of_talks (Talks.enqueueIncoming (c := { c with flow }.makeStream k true isOpen) k done)
        inv heard
    · exact .of_talks (Talks.of_eq rfl) inv heard

theorem handshake_connEvent (event : Event) (inv : HandshakeInv c.handshake)
    (heard : Heard past c.handshake) : HandshakeSpec (past ++ event.control) c.handshake
      (c.connEvent event).handshake := by
  have same : past ++ [] = past := List.append_nil past
  have silent {c' : ConnCore} (spec : HandshakeSpec past c.handshake c'.handshake) :
      HandshakeSpec (past ++ []) c.handshake c'.handshake := same.symm ▸ spec
  have talks {c' : ConnCore} (talks : Talks c.handshake c'.handshake) :
      HandshakeSpec (past ++ []) c.handshake c'.handshake :=
    silent (.of_talks talks inv heard)
  have ends {info : CloseInfo} {c' : ConnCore} (ends : Ends info c.handshake c'.handshake) :
      HandshakeSpec (past ++ []) c.handshake c'.handshake :=
    .of_ends ends heard (List.prefix_append _ _)
  cases event with
  | controlMessage data => exact handshake_onControl data inv heard
  | controlOpen =>
    exact silent (handshake_sendHello
      (c := { c with control := { c.control with opened := true } }) inv heard)
  | controlClose =>
    exact silent (handshake_reservedChannelLost
      (c := { c with control := c.control.close }) "control" inv heard)
  | controlError => exact silent (handshake_reservedChannelLost "control" inv heard)
  | datagramClose =>
    exact silent (handshake_reservedChannelLost
      (c := { c with datagram := c.datagram.close }) "datagram" inv heard)
  | datagramMessage data => exact talks (Talks.onDatagram data)
  | incomingChannel k isOpen =>
    show HandshakeSpec (past ++ []) c.handshake
      (if k ∈ c.ids then c else c.handleIncomingChannel k isOpen).handshake
    rw [same]
    split
    · exact .of_talks (Talks.refl _) inv heard
    · exact handshake_handleIncomingChannel k isOpen inv heard
  | helloTimer =>
    show HandshakeSpec (past ++ []) c.handshake c.onHelloTimer.handshake
    unfold onHelloTimer
    split
    · exact ends (fatal_ends (c := { c with helloTimer := false }) _ inv)
    · exact talks (Talks.refl _)
  | transportFailed message => exact ends (plainTeardown_ends _ inv)
  | transportClosed => exact ends (plainTeardown_ends _ inv)
  | openStream aborted => exact talks (Talks.openStream aborted inv)
  | openStreamResume op channel isOpen => exact talks (Talks.openStreamResume channel isOpen inv)
  | openStreamAbort op => exact talks Talks.openStreamAbort
  | acceptStream waiter aborted => exact talks (Talks.acceptStream waiter aborted inv)
  | acceptAbort waiter => exact talks (Talks.acceptAbort waiter)
  | sendDatagram data aborted => exact talks (Talks.sendDatagram data aborted)
  | receiveDatagram waiter aborted => exact talks (Talks.receiveDatagram waiter aborted)
  | receiveAbort waiter => exact talks (Talks.receiveAbort waiter)
  | close reason => exact ends (close_ends reason inv)
  | _ => exact talks (Talks.of_eq rfl)

/-- **One event.** -/
theorem handshake_step (event : Event) (inv : HandshakeInv c.handshake)
    (heard : Heard past c.handshake) :
    HandshakeSpec (past ++ event.control) c.handshake (c.step event).handshake := by
  unfold step
  cases about : event.stream with
  | none => exact handshake_connEvent event inv heard
  | some k =>
    have silent : event.control = [] := by cases event <;> first | rfl | cases about
    rw [silent, List.append_nil]
    dsimp only
    split
    · exact handshake_streamEvent k event inv heard
    · exact .of_talks (Talks.refl _) inv heard

end ConnCore

/-! ### Our HELLO -/

/-- An end that says it sent HELLO did, and one that lost its control channel is closed. -/
structure Greeting (c : ConnCore) : Prop where
  sent : c.helloSent = true → .hello wireVersion c.flow.localLimits ∈ c.control.sent
  lost : c.control.closed = true → c.closeFired = true

namespace Greeting

variable {c middle c' : ConnCore} {heard : Nat → List Frame}

theorem react (reaction : ConnSpec heard middle c') (greeting : Greeting middle) : Greeting c' where
  sent := fun greeted => by
    obtain ⟨extra, sent, -⟩ := reaction.step.control
    rw [sent, reaction.step.limits]
    exact List.mem_append_left _ (greeting.sent (reaction.step.helloSent ▸ greeted))
  lost := fun closed =>
    reaction.step.closeFired (greeting.lost (reaction.step.controlClosed ▸ closed))

theorem controlOpen (greeting : Greeting c) (alive : c.closeFired = false) :
    Greeting { c with control := { c.control with opened := true } }.greeted where
  sent := fun _ => by
    have isOpen : Channel.isOpen { c.control with opened := true } = true := by
      cases closed : c.control.closed with
      | false => simp [Channel.isOpen, closed]
      | true =>
        rw [greeting.lost closed] at alive
        cases alive
    show ControlMsg.hello wireVersion c.flow.localLimits ∈ (Channel.sendIfOpen
      (ControlMsg.hello wireVersion c.flow.localLimits) { c.control with opened := true }).sent
    rw [Channel.sent_sendIfOpen_of_isOpen isOpen]
    exact List.mem_append_right _ List.mem_cons_self
  lost := fun closed => by
    have same : ({ c with control := { c.control with opened := true } }.greeted).control.closed =
        c.control.closed := Channel.closed_sendIfOpen
    exact greeting.lost (same ▸ closed)

theorem controlClose (hand : HandshakeInv c.handshake) (greeting : Greeting c)
    (reaction : ConnSpec heard { c with control := c.control.close }
      ({ c with control := c.control.close }.reservedChannelLost "control")) :
    Greeting ({ c with control := c.control.close }.reservedChannelLost "control") where
  sent := fun greeted => by
    obtain ⟨extra, sent, -⟩ := reaction.step.control
    rw [sent, reaction.step.limits]
    exact List.mem_append_left _ (greeting.sent (reaction.step.helloSent ▸ greeted))
  lost := fun _ => by
    unfold ConnCore.reservedChannelLost
    split
    · next already =>
      have tearing : c.tearingDown = c.closeFired := hand.tearing
      simpa [tearing] using already
    · exact (ConnCore.protocolError_ends (c := { c with control := c.control.close }) _ hand).halted

theorem step (inv : ConnInv c) (hand : HandshakeInv c.handshake) (greeting : Greeting c)
    (event : Event) : Greeting (c.step event) := by
  obtain ⟨heard, middle, arrives, -, reaction⟩ := (inv.step event).split
  by_cases isOpen : event = .controlOpen
  · subst isOpen
    cases arrives with
    | «local» silent => cases silent
    | stranger about => cases about
    | controlOpen fresh => exact react reaction (greeting.controlOpen fresh.2)
    | controlReopen => exact react reaction ⟨greeting.sent, greeting.lost⟩
  · by_cases isClose : event = .controlClose
    · subst isClose
      cases arrives with
      | «local» silent => cases silent
      | stranger about => cases about
      | controlClose => exact controlClose hand greeting reaction
    · obtain ⟨control, helloSent, closeFired⟩ := arrives.control isOpen isClose
      refine react reaction ⟨?_, ?_⟩
      · rw [control, helloSent, arrives.limits]
        exact greeting.sent
      · rw [control, closeFired]
        exact greeting.lost

end Greeting

/-! ### Whole runs -/

section Run

variable (limits : FlowLimits) (controlOpen : Bool)

/-- Before anything happens. -/
theorem handshake_fresh : HandshakeInv (ConnCore.fresh limits controlOpen).handshake ∧
    Heard [] (ConnCore.fresh limits controlOpen).handshake ∧
    Greeting (ConnCore.fresh limits controlOpen) := by
  refine ⟨⟨rfl, rfl, ?_, ?_, ?_, ?_, ?_, rfl, ?_⟩, ⟨fun _ => rfl, fun _ => rfl, ?_⟩, ⟨?_, ?_⟩⟩
  · exact ⟨(fun told => by cases told), fun done => by cases done⟩
  · exact fun done => by cases done
  · exact fun _ => ⟨rfl, fun _ none => by cases none⟩
  · exact fun _ none => by cases none
  · exact fun done => by cases done
  · exact ⟨(fun halted => by cases halted), fun some => absurd rfl some⟩
  · exact fun done => by cases done
  · exact fun greeted => by cases greeted
  · exact fun closed => by cases closed

theorem handshake_new : HandshakeInv (ConnCore.new limits controlOpen).handshake ∧
    Heard [] (ConnCore.new limits controlOpen).handshake ∧
    Greeting (ConnCore.new limits controlOpen) := by
  obtain ⟨hand, heard, greeting⟩ := handshake_fresh limits controlOpen
  unfold ConnCore.new
  dsimp only
  split
  · next isOpen =>
    have sent := ConnCore.handshake_sendHello hand heard
    refine ⟨sent.inv, sent.heard, ?_⟩
    have greeted := (ConnInv.fresh limits controlOpen).greeted
    have opened : (ConnCore.fresh limits controlOpen).greeted =
        ({ ConnCore.fresh limits controlOpen with
          control := { (ConnCore.fresh limits controlOpen).control with
            opened := true } }).greeted := by
      rw [isOpen]
      rfl
    exact Greeting.react (ConnSpec.checkEstablished greeted)
      (opened ▸ greeting.controlOpen rfl)
  · exact ⟨hand, heard, greeting⟩

theorem handshake_after (events : List Event) :
    HandshakeInv (ConnCore.after limits controlOpen events).handshake ∧
      Heard (controlInputs events) (ConnCore.after limits controlOpen events).handshake ∧
      Greeting (ConnCore.after limits controlOpen events) := by
  induction events using List.reverseRecOn with
  | nil => exact handshake_new limits controlOpen
  | append_singleton events event ih =>
    obtain ⟨hand, heard, greeting⟩ := ih
    rw [ConnCore.after_concat, controlInputs_concat]
    have step := ConnCore.handshake_step event hand heard
    exact ⟨step.inv, step.heard,
      greeting.step (ConnInv.after limits controlOpen events) hand event⟩

/-- Nothing is untold or reopened later. -/
theorem handshake_later (events later : List Event) :
    HandshakeSpec (controlInputs (events ++ later))
      (ConnCore.after limits controlOpen events).handshake
      (ConnCore.after limits controlOpen (events ++ later)).handshake := by
  induction later using List.reverseRecOn with
  | nil =>
    rw [List.append_nil]
    obtain ⟨hand, heard, -⟩ := handshake_after limits controlOpen events
    exact .of_talks (Talks.refl _) hand heard
  | append_singleton later event ih =>
    rw [← List.append_assoc, ConnCore.after_concat, controlInputs_concat]
    exact ih.andThen (ConnCore.handshake_step event ih.inv ih.heard)

theorem HandshakeInv.halted_of_closes {h : Handshake} (inv : HandshakeInv h)
    (reported : closes h.log ≠ []) : h.closeFired = true := by
  rw [inv.fired]
  intro none
  rw [inv.once, none] at reported
  exact reported rfl

/-- What `closed` reported stays as it is. -/
theorem HandshakeSpec.closes_eq {past : List ControlInput} {h h' : Handshake}
    (inv : HandshakeInv h) (spec : HandshakeSpec past h h') (halted : h.closeFired = true) :
    closes h'.log = closes h.log := by
  obtain ⟨more, log⟩ := spec.log
  obtain ⟨first, rest, told⟩ := List.exists_cons_of_ne_nil (inv.fired.mp halted)
  rw [spec.inv.once, inv.once, ← log, teardowns_append, told]
  rfl

end Run

/-! ### Violations -/

def ControlInput.isHello : ControlInput → Bool
  | .ok (.hello _ _) => true
  | _ => false

/-- A control message that must not come after the ones before it: it does not decode, it is a HELLO
of another version or a second one, or it is about credit and there was no HELLO. -/
def Violation (past : List ControlInput) : ControlInput → Prop
  | .error _ => True
  | .ok (.hello version _) => version ≠ wireVersion ∨ past.any ControlInput.isHello = true
  | .ok (.maxData _) => past.any ControlInput.isHello = false
  | .ok (.maxStreams _) => past.any ControlInput.isHello = false
  | .ok (.close _) => False

/-- An end that has not closed knows whether there was a HELLO. -/
theorem Heard.any_isHello {past : List ControlInput} {h : Handshake} (heard : Heard past h)
    (alive : h.closeFired = false) : past.any ControlInput.isHello = h.peerHello.isSome := by
  have hello := heard.hello alive
  rw [heard.all alive]
  cases known : h.peerHello with
  | none =>
    rw [known] at hello
    rw [show h.ctlIn = [] from hello]
    rfl
  | some limits =>
    rw [known] at hello
    obtain ⟨rest, received, -⟩ := hello
    rw [received]
    rfl

/-- **A violation ends the connection, and not well.** -/
theorem violation_ends {c : ConnCore} {past : List ControlInput} {data : Bytes}
    (inv : HandshakeInv c.handshake) (heard : Heard past c.handshake) (alive : c.closeFired = false)
    (violation : Violation past (decodeControl data)) :
    ∃ info, info.ok = false ∧ closes (c.onControl data).log = [info] := by
  have known : past.any ControlInput.isHello = c.peerHello.isSome := heard.any_isHello alive
  unfold ConnCore.onControl
  cases decoded : decodeControl data with
  | error text => exact ⟨_, rfl, (ConnCore.protocolError_ends text inv).reports alive⟩
  | ok message =>
    rw [decoded] at violation
    have received := ConnCore.handshake_received inv (c.ctlIn ++ [message])
    have refused (text : String) :
        ∃ info, info.ok = false ∧ closes
          ({ c with ctlIn := c.ctlIn ++ [message] }.protocolError text).log = [info] :=
      ⟨_, rfl, (ConnCore.protocolError_ends text received).reports alive⟩
    dsimp only
    unfold ConnCore.handleControl
    cases message with
    | close code => exact absurd violation id
    | maxData value =>
      have none : c.peerHello.isNone = true := by
        have absent : c.peerHello.isSome = false := known ▸ violation
        simpa using absent
      dsimp only
      rw [if_pos none]
      exact refused _
    | maxStreams value =>
      have none : c.peerHello.isNone = true := by
        have absent : c.peerHello.isSome = false := known ▸ violation
        simpa using absent
      dsimp only
      rw [if_pos none]
      exact refused _
    | hello version limits =>
      dsimp only
      split
      · exact refused _
      · next fresh =>
        have wrong : version ≠ wireVersion := by
          rcases violation with wrong | second
          · exact wrong
          · exact absurd (known ▸ second) fresh
        rw [if_pos wrong]
        have ended := ConnCore.plainTeardown_ends (c := { c with
            ctlIn := c.ctlIn ++ [ControlMsg.hello version limits] }.trySendControl
              (.close (codeToNum (some .unsupported))))
        exact ⟨_, rfl, (ended _ received).reports alive⟩

/-- **The state machine of the control channel.** -/
theorem control_machine (limits : FlowLimits) (controlOpen : Bool) (events : List Event) :
    let after := ConnCore.after limits controlOpen
    let c := after events
    -- `established` resolves only after both HELLOs and before any teardown
    (.established ∈ c.log → .hello wireVersion limits ∈ c.control.sent ∧
      (∃ peer, (controlInputs events).head? = some (.ok (.hello wireVersion peer))) ∧
      teardowns (beforeEstablished c.log) = []) ∧
    -- no stream is accepted and no channel created before that
    (∀ outcome ∈ beforeEstablished c.log, outcome.isGrant = false) ∧
    -- a violation on a connection that has not closed closes it, with an error
    (∀ data, c.closeFired = false → Violation (controlInputs events) (decodeControl data) →
      ∃ info, info.ok = false ∧
        ∀ later, closes (after (events ++ .controlMessage data :: later)).log = [info]) ∧
    -- the first teardown, and no other, is what `closed` reports
    closes c.log = (teardowns c.log).take 1 ∧
    -- and nothing reopens the connection
    (c.closeFired = true → ∀ later, (after (events ++ later)).closeFired = true ∧
      (after (events ++ later)).state = .closed ∧
      closes (after (events ++ later)).log = closes c.log ∧
      (.established ∈ (after (events ++ later)).log → .established ∈ c.log)) := by
  intro after c
  obtain ⟨hand, heard, greeting⟩ := handshake_after limits controlOpen events
  have same : c.flow.localLimits = limits := ConnCore.localLimits_after limits controlOpen events
  refine ⟨fun told => ?_, hand.grants, fun data alive violation => ?_, hand.once,
    fun halted later => ?_⟩
  · have done : c.establishedDone = true := hand.established.mp told
    refine ⟨?_, heard.first done, hand.lasting done⟩
    rw [← same]
    exact greeting.sent (hand.exchanged done).1
  · obtain ⟨info, bad, reported⟩ := violation_ends hand heard alive violation
    refine ⟨info, bad, fun later => ?_⟩
    have next := handshake_after limits controlOpen (events ++ [.controlMessage data])
    have told : closes (after (events ++ [.controlMessage data])).log = [info] := by
      rw [show after (events ++ [.controlMessage data]) = c.onControl data from
        ConnCore.after_concat limits controlOpen events _]
      exact reported
    have halted := next.1.halted_of_closes (told ▸ List.cons_ne_nil info [])
    have spec := handshake_later limits controlOpen (events ++ [.controlMessage data]) later
    rw [← List.append_cons] at spec
    exact (HandshakeSpec.closes_eq next.1 spec halted).trans told
  · have spec := handshake_later limits controlOpen events later
    obtain ⟨still, done⟩ := spec.halted halted
    refine ⟨still, ?_, HandshakeSpec.closes_eq hand spec halted, fun told => ?_⟩
    · have state := spec.inv.state
      rw [still] at state
      exact state
    · rw [show (.established ∈ c.log) ↔ _ from hand.established, ← done]
      exact spec.inv.established.mp told

end Kps.Ts
