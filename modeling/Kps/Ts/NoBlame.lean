/-
**Two ends never accuse each other.**

* `never_accused` — in every run of two linked engines in which nobody closes the connection, no
  HELLO timer fires and the transport loses no channel, neither engine calls `fatal` or closes the
  connection.

`Fine` says so of one end, with what an event leaves of the streams whose channel is not open.
`Quiet` is what is kept: an end has said HELLO and then credit alone, a write half that has ended
has said so, and a channel is closed only when both halves have ended. So what arrives next is never
a violation, and a channel that closes is never one in mid-stream.
-/

import Kps.Ts.Changes
import Kps.Ts.ControlMachine
import Kps.Ts.CreditReturns

namespace Kps.Ts

open Kps.Lib

/-! ### One event that accuses nobody -/

/-- Neither half of the stream has ended. -/
def KpsStream.Fresh (s : KpsStream) : Prop := s.localTerminal = none ∧ s.ch.closed = false

/-- The connection is up, `fatal` was not called, and the streams in `J` are fresh. -/
structure ConnCore.Fine (J : Nat → Prop) (c : ConnCore) : Prop where
  alive : c.closeFired = false
  unblamed : ∀ reason, .fatal reason ∉ c.log
  fresh : ∀ j, J j → (c.streams j).Fresh

namespace ConnCore

/-- Only stream `k` changes, and what it holds of the connection. -/
def OnStream (k : Nat) (c c' : ConnCore) : Prop :=
  ∃ flow control s live, c' = { c with
    flow, control, streams := Function.update c.streams k s, live }

namespace OnStream

variable {k : Nat} {c c' c'' : ConnCore}

theorem refl (c : ConnCore) : OnStream k c c :=
  ⟨c.flow, c.control, c.streams k, c.live, by rw [Function.update_eq_self]⟩

theorem trans (first : OnStream k c c') (second : OnStream k c' c'') : OnStream k c c'' := by
  obtain ⟨_, _, _, _, rfl⟩ := first
  obtain ⟨flow, control, s, live, rfl⟩ := second
  exact ⟨flow, control, s, live, by simp only [Function.update_idem]⟩

theorem put (x : StreamCtx) : OnStream k c (c.put k x) := ⟨_, _, _, c.live, rfl⟩

theorem onStream (f : StreamCtx → StreamCtx) : OnStream k c (c.onStream k f) := put _

theorem retired : OnStream k c (c.retired k) := by
  unfold ConnCore.retired
  dsimp only
  split
  · exact ⟨_, _, c.streams k, _, by rw [Function.update_eq_self]; rfl⟩
  · exact ⟨c.flow, c.control, c.streams k, _, by rw [Function.update_eq_self]⟩

theorem maybeRetire : OnStream k c (c.maybeRetire k) := by
  unfold ConnCore.maybeRetire
  dsimp only
  split
  · exact (put _).trans retired
  · exact put _

theorem retireAfter (f : StreamCtx → StreamCtx) :
    OnStream k c (c.retireAfter k f) := (onStream f).trans maybeRetire

theorem runStream (f : StreamCtx → StreamCtx × Bool) : OnStream k c (c.runStream k f) := by
  unfold ConnCore.runStream
  dsimp only
  split
  · exact (put _).trans maybeRetire
  · exact put _

theorem closeWrite : OnStream k c (c.closeWrite k) := by
  unfold ConnCore.closeWrite
  split
  · exact refl c
  · exact retireAfter _

theorem resetWrite (reason : Option KpsReason) : OnStream k c (c.resetWrite k reason) := by
  unfold ConnCore.resetWrite
  split
  · exact refl c
  · exact retireAfter _

theorem cancelRead (reason : Option KpsReason) : OnStream k c (c.cancelRead k reason) := by
  unfold ConnCore.cancelRead
  split
  · exact refl c
  · exact retireAfter _

theorem cancelReadable (reason : Option KpsReason) : OnStream k c (c.cancelReadable k reason) := by
  unfold ConnCore.cancelReadable
  split
  · exact (onStream _).trans (cancelRead _)
  · exact refl c

theorem abandonResume : OnStream k c (c.abandonResume k) := by
  unfold ConnCore.abandonResume
  split
  · exact ((onStream _).trans (resetWrite _)).trans (cancelRead _)
  · exact refl c

theorem channelOpen (j : Nat) : OnStream k c (c.streamEvent k (.channelOpen j)) := by
  dsimp only [streamEvent]
  exact onStream _

theorem channelClosing (j : Nat) : OnStream k c (c.streamEvent k (.channelClosing j)) := by
  dsimp only [streamEvent]
  exact onStream _

/-- An event of one end alone about a stream. -/
theorem quiet {event : Event} (quiet : event.isQuiet = true) :
    OnStream k c (c.streamEvent k event) := by
  cases event with
  | closeWrite => exact closeWrite
  | resetWrite _ reason => exact resetWrite reason
  | cancelRead _ reason => exact cancelRead reason
  | cancelReadable _ reason => exact cancelReadable reason
  | abandonResume => exact abandonResume
  | read | readResume =>
    dsimp only [streamEvent]
    exact runStream _
  | bufferedAmount | write | writeResume =>
    dsimp only [streamEvent]
    exact onStream _
  | channelOpen | channelMessage | channelClosing | channelClose | channelError => cases quiet
  | _ => exact refl c

/-- A frame that is accepted. -/
theorem onFrame {data : Bytes} {frame : Frame} {x : StreamCtx} {retires : Bool}
    (parsed : parseFrame data = .ok frame)
    (done : (c.ctx k).handleFrame frame = .done x retires) : OnStream k c (c.onFrame k data) := by
  unfold ConnCore.onFrame
  rw [parsed]
  dsimp only
  rw [done]
  dsimp only
  split
  · exact (put _).trans maybeRetire
  · exact put _

/-- A channel that closes when both halves have ended. -/
theorem onChannelClose (complete : (c.streams k).wireComplete = true) :
    OnStream k c (c.onChannelClose k) := by
  unfold ConnCore.onChannelClose
  dsimp only
  rw [if_neg]
  · exact (onStream _).trans (retireAfter _)
  · show ¬ (!(Function.update c.streams k _ k).wireComplete && !c.tearingDown) = true
    rw [Function.update_self]
    show ¬ (!(c.streams k).wireComplete && !c.tearingDown) = true
    rw [complete]
    exact Bool.false_ne_true

end OnStream

namespace Fine

variable {J : Nat → Prop} {c c' : ConnCore} {k op : Nat}

theorem talks (fine : c.Fine J) (talks : Talks c.handshake c'.handshake)
    (fresh : ∀ j, (c.streams j).Fresh → (c'.streams j).Fresh) : c'.Fine J where
  alive := (congrArg Handshake.closeFired talks.same).trans fine.alive
  unblamed reason member := by
    obtain ⟨extra, log, kinds⟩ := talks.told
    have member : .fatal reason ∈ c.log ++ extra := by
      rw [← show c'.log = c.log ++ extra from log]
      exact member
    rcases List.mem_append.mp member with old | new
    · exact fine.unblamed reason old
    · rcases kinds _ new with minor | ⟨grant, -⟩
      · cases minor
      · cases grant
  fresh j at' := fresh j (fine.fresh j at')

theorem onStream (fine : c.Fine J) (on : OnStream k c c') (other : ¬ J k) : c'.Fine J := by
  obtain ⟨_, _, _, _, rfl⟩ := on
  refine ⟨fine.alive, fine.unblamed, fun j at' => ?_⟩
  have different : j ≠ k := fun same => other (same ▸ at')
  show (Function.update c.streams k _ j).Fresh
  rw [Function.update_of_ne different]
  exact fine.fresh j at'

theorem checkEstablished (fine : c.Fine J) : c.checkEstablished.Fine J := by
  have streams : c.checkEstablished.streams = c.streams := Tears.checkEstablished c
  suffices told : c.checkEstablished.closeFired = false ∧ ∀ reason,
    .fatal reason ∉ c.checkEstablished.log from
    ⟨told.1, told.2, fun j at' => streams ▸ fine.fresh j at'⟩
  unfold ConnCore.checkEstablished
  split
  · exact ⟨fine.alive, fine.unblamed⟩
  · split
    · exact ⟨fine.alive, fine.unblamed⟩
    · have done : Fine (fun _ => False) { { c with
          establishedDone := true, state := .open,
            helloTimer := false }.report .established with staged := [] } := by
        refine ⟨fine.alive, fun reason member => ?_, fun _ none => none.elim⟩
        rcases List.mem_append.mp member with old | new
        · exact fine.unblamed reason old
        · cases List.mem_singleton.mp new
      have all := done.talks (Talks.enqueueAll c.staged rfl) fun j fresh => by
        rw [Tears.enqueueAll]
        exact fresh
      exact ⟨all.alive, all.unblamed⟩

theorem sendHello (fine : c.Fine J) : c.sendHello.Fine J := by
  rw [ConnCore.sendHello_eq]
  split
  · exact fine
  · exact checkEstablished ⟨fine.alive, fine.unblamed, fine.fresh⟩

/-- The first HELLO, or credit after it. -/
theorem handleControl {message : ControlMsg} (fine : c.Fine J)
    (expected : (c.peerHello = none ∧ ∃ limits, message = .hello wireVersion limits) ∨
      (c.peerHello.isSome = true ∧ message.isCredit = true)) :
      (c.handleControl message).Fine J := by
  rcases expected with ⟨unmet, limits, rfl⟩ | ⟨met, credit⟩
  · unfold ConnCore.handleControl
    dsimp only
    rw [if_neg (by simp [unmet]), if_neg (by simp)]
    exact checkEstablished ⟨fine.alive, fine.unblamed, fine.fresh⟩
  · have known : ¬ c.peerHello.isNone = true := by
      obtain ⟨limits, present⟩ := Option.isSome_iff_exists.mp met
      simp [present]
    unfold ConnCore.handleControl
    cases message with
    | maxData value | maxStreams value =>
      dsimp only
      rw [if_neg known]
      exact ⟨fine.alive, fine.unblamed, fine.fresh⟩
    | _ => cases credit

theorem fresh_makeStream {j : Nat} (peerInitiated isOpen : Bool) (fresh : (c.streams j).Fresh) :
    ((c.makeStream k peerInitiated isOpen).streams j).Fresh := by
  show (Function.update c.streams k _ j).Fresh
  by_cases same : j = k
  · subst same
    rw [Function.update_self]
    exact ⟨rfl, rfl⟩
  · rw [Function.update_of_ne same]
    exact fresh

theorem handleIncomingChannel {isOpen : Bool} {flow : ConnFlow} (fine : c.Fine J)
    (admitted : c.flow.peerStreamOpened = .ok flow) :
    (c.handleIncomingChannel k isOpen).Fine J := by
  have made : ({ c with flow }.makeStream k true isOpen).Fine J :=
    ⟨fine.alive, fine.unblamed,
      fun j at' => fresh_makeStream (c := { c with flow }) true isOpen (fine.fresh j at')⟩
  unfold ConnCore.handleIncomingChannel
  rw [admitted]
  dsimp only
  split
  · next done =>
    refine made.talks (Talks.enqueueIncoming k done) fun j fresh => ?_
    have same : (({ c with flow }.makeStream k true isOpen).enqueueIncoming k).streams =
        ({ c with flow }.makeStream k true isOpen).streams := Tears.enqueueAll [k] _
    rw [same]
    exact fresh
  · exact ⟨made.alive, made.unblamed, made.fresh⟩

theorem fresh_abandon {j : Nat} (fresh : (c.streams j).Fresh) :
    ((c.abandon k).streams j).Fresh := by
  show (Function.update c.streams k _ j).Fresh
  by_cases same : j = k
  · subst same
    rw [Function.update_self]
    exact fresh
  · rw [Function.update_of_ne same]
    exact fresh

theorem streams_reserveSlot (aborted : Bool) : (c.reserveSlot op aborted).streams = c.streams := by
  unfold ConnCore.reserveSlot
  split <;> rfl

theorem fresh_openStreamResume {channel : Except KpsError Nat} {isOpen : Bool} {j : Nat}
    (fresh : (c.streams j).Fresh) :
    ((c.openStreamResume op channel isOpen).streams j).Fresh := by
  unfold ConnCore.openStreamResume
  split
  · exact fresh
  · exact fresh
  · split
    · rw [streams_reserveSlot]
      exact fresh
    · exact fresh
  · split
    · exact fresh
    · next k =>
      split
      · exact fresh
      · unfold ConnCore.openChannel
        dsimp only
        split
        · exact fresh_abandon (c := _) (fresh_makeStream (k := k) false isOpen fresh)
        · exact fresh_makeStream (k := k) false isOpen fresh
  · split <;> exact fresh

/-- An event of one end alone that is about no stream. -/
theorem quiet {event : Event} (fine : c.Fine J) (inv : HandshakeInv c.handshake)
    (quiet : event.isQuiet = true) :
    (c.connEvent event).Fine J := by
  have same {c' : ConnCore} (talks : Talks c.handshake c'.handshake)
      (streams : c'.streams = c.streams) : c'.Fine J :=
    fine.talks talks fun j fresh => streams ▸ fresh
  cases event with
  | controlOpen =>
    exact sendHello (c := { c with control := { c.control with opened := true } })
      ⟨fine.alive, fine.unblamed, fine.fresh⟩
  | datagramMessage data =>
    refine same (Talks.onDatagram data) ?_
    show (c.onDatagram data).streams = _
    unfold ConnCore.onDatagram
    split <;> rfl
  | openStream aborted =>
    refine same (Talks.openStream aborted inv) ?_
    show (c.openStream aborted).streams = _
    unfold ConnCore.openStream
    dsimp only
    split
    · rfl
    · split
      · rfl
      · exact streams_reserveSlot aborted
  | openStreamResume op channel isOpen =>
    exact fine.talks (Talks.openStreamResume channel isOpen inv) fun j => fresh_openStreamResume
  | openStreamAbort op =>
    refine fine.talks Talks.openStreamAbort fun j fresh => ?_
    show ((c.openStreamAbort op).streams j).Fresh
    unfold ConnCore.openStreamAbort
    split
    · exact fresh
    · dsimp only
      split
      · split <;> exact fresh
      · exact fresh_abandon (c := { c with opens := _ }) fresh
      · exact fresh
  | acceptStream waiter aborted =>
    refine same (Talks.acceptStream waiter aborted inv) ?_
    show (c.acceptStream waiter aborted).streams = _
    unfold ConnCore.acceptStream
    repeat' split
    all_goals rfl
  | acceptAbort waiter =>
    refine same (Talks.acceptAbort waiter) ?_
    show (c.acceptAbort waiter).streams = _
    unfold ConnCore.acceptAbort
    split <;> rfl
  | sendDatagram data aborted =>
    refine same (Talks.sendDatagram data aborted) ?_
    show (c.sendDatagram data aborted).streams = _
    unfold ConnCore.sendDatagram
    repeat' split
    all_goals rfl
  | receiveDatagram waiter aborted =>
    refine same (Talks.receiveDatagram waiter aborted) ?_
    show (c.receiveDatagram waiter aborted).streams = _
    unfold ConnCore.receiveDatagram
    repeat' split
    all_goals rfl
  | receiveAbort waiter =>
    refine same (Talks.receiveAbort waiter) ?_
    show (c.receiveAbort waiter).streams = _
    unfold ConnCore.receiveAbort
    split <;> rfl
  | controlMessage | controlClose | controlError | datagramClose | incomingChannel | helloTimer
  | transportFailed
  | transportClosed | close => cases quiet
  | _ => exact same (Talks.of_eq rfl) rfl

end Fine

end ConnCore

/-! ### What an end keeps -/

/-- A half that has ended has said so, and a channel is closed when both have. -/
structure KpsStream.Orderly (s : KpsStream) : Prop where
  unopened : s.ch.opened = false → s.localTerminal = none
  announced : s.localTerminal.isSome = true → hasTerminal s.ch.sent = true
  closes : s.ch.closed = true → s.wireComplete = true

namespace KpsStream

variable {s s' : KpsStream} {limits : FlowLimits} {heard : List Frame}

theorem Fresh.orderly (fresh : s.Fresh) : s.Orderly where
  unopened _ := fresh.1
  announced ended := by
    rw [fresh.1] at ended
    cases ended
  closes closed := absurd (fresh.2.symm.trans closed) Bool.false_ne_true

theorem Orderly.fresh (orderly : s.Orderly) (unopened : s.ch.opened = false) : s.Fresh := by
  have unended := orderly.unopened unopened
  refine ⟨unended, ?_⟩
  cases closed : s.ch.closed with
  | false => rfl
  | true =>
    have complete := orderly.closes closed
    simp [wireComplete, unended] at complete

theorem Orderly.evolves (orderly : s.Orderly) (opened : s.ch.opened = true)
    (evolves : s.Evolves limits heard s') :
    s'.Orderly where
  unopened unopened := absurd (unopened.symm.trans (evolves.opened.trans opened)) Bool.false_ne_true
  announced := by
    refine evolves.announced ?_ orderly.announced
    cases closed : s.ch.closed with
    | false =>
      left
      simp [Channel.isOpen, opened, closed]
    | true =>
      have complete := orderly.closes closed
      rw [wireComplete, Bool.and_eq_true] at complete
      exact Or.inr complete.1
  closes closed := by
    rcases evolves.retiring closed with before | complete
    · exact evolves.wireComplete (orderly.closes before)
    · exact complete

/-- Both halves have ended, so the channel may close. -/
theorem Orderly.shut {channelClosed : Bool} (orderly : s.Orderly) (opened : s.ch.opened = true)
    (complete : s.wireComplete = true) : Orderly { s with ch := s.ch.close, channelClosed } where
  unopened unopened := absurd (unopened.symm.trans opened) Bool.false_ne_true
  announced := orderly.announced
  closes _ := complete

end KpsStream

/-- The peer's limits are known once anything has arrived on the control channel. -/
theorem Heard.greeted {past : List (Except String ControlMsg)} {h : Handshake}
    (heard : Heard past h) (alive : h.closeFired = false) : h.peerHello = none ↔ h.ctlIn = [] := by
  have hello := heard.hello alive
  cases met : h.peerHello with
  | none =>
    rw [met] at hello
    exact iff_of_true rfl hello
  | some limits =>
    rw [met] at hello
    obtain ⟨rest, first, -⟩ := hello
    rw [first]
    exact iff_of_false (Option.some_ne_none _) (List.cons_ne_nil _ _)

/-- An end of a connection that nobody closes. -/
structure Quiet (c : ConnCore) : Prop where
  fine : c.Fine fun _ => False
  unclosed : c.control.closed = false
  hand : HandshakeInv c.handshake
  heard : ∃ past, Heard past c.handshake
  credits : ∀ message ∈ c.control.sent.tail, message.isCredit = true
  orderly : ∀ k, (c.streams k).Orderly

namespace Quiet

variable {c : ConnCore} {event : Event}

/-- The streams whose channel is not open, and which an event is not about. -/
def Spared (c : ConnCore) (event : Event) (j : Nat) : Prop :=
  (c.streams j).ch.opened = false ∧ event.stream ≠ some j

theorem spares (quiet : Quiet c) (event : Event) : c.Fine (Spared c event) :=
  ⟨quiet.fine.alive, quiet.fine.unblamed, fun j spared => (quiet.orderly j).fresh spared.1⟩

theorem greeted (quiet : Quiet c) : c.peerHello = none ↔ c.ctlIn = [] := by
  obtain ⟨past, heard⟩ := quiet.heard
  exact heard.greeted quiet.fine.alive

/-- What arrives leaves the streams that are open as they should be. -/
theorem arrives {middle : ConnCore} {heard : Nat → List Frame} {j : Nat} (quiet : Quiet c)
    (inv : ConnInv c)
    (arrives : Arrives c event heard middle) (opened : (c.streams j).ch.opened = true)
    (opening : ∀ k, event = .channelOpen k → (c.streams k).ch.opened = false)
    (closing : ∀ k, event = .channelClosing k ∨ event = .channelClose k →
      (c.streams k).wireComplete = true) :
    (middle.streams j).Orderly ∧ (middle.streams j).ch.opened = true := by
  have kept := quiet.orderly j
  have made {k : Nat} {peerInitiated isOpen : Bool}
    (made : Creates k peerInitiated isOpen c middle) :
      (middle.streams j).Orderly ∧ (middle.streams j).ch.opened = true := by
    have different : j ≠ k := by
      rintro rfl
      rw [inv.registry.blank j made.absent] at opened
      cases opened
    rw [made.streams, Function.update_of_ne different]
    exact ⟨kept, opened⟩
  cases arrives with
  | controlMessage =>
    obtain ⟨flow, peerHello, learned, -⟩ := ConnCore.learn_eq _ c
    rw [learned]
    exact ⟨kept, opened⟩
  | incomingChannel created | openChannel created => exact made created
  | @channelOpen k present =>
    have different : j ≠ k := by
      rintro rfl
      exact Bool.false_ne_true ((opening j rfl).symm.trans opened)
    show KpsStream.Orderly (Function.update c.streams k _ j) ∧
      (Function.update c.streams k _ j).ch.opened = true
    rw [Function.update_of_ne different]
    exact ⟨kept, opened⟩
  | @channelClosing k present =>
    show KpsStream.Orderly (Function.update c.streams k _ j) ∧
      (Function.update c.streams k _ j).ch.opened = true
    by_cases same : j = k
    · subst same
      rw [Function.update_self]
      exact ⟨kept.shut opened (closing j (Or.inl rfl)), opened⟩
    · rw [Function.update_of_ne same]
      exact ⟨kept, opened⟩
  | @channelClose k present =>
    show KpsStream.Orderly (Function.update c.streams k _ j) ∧
      (Function.update c.streams k _ j).ch.opened = true
    by_cases same : j = k
    · subst same
      rw [Function.update_self]
      exact ⟨kept.shut opened (closing j (Or.inr rfl)), opened⟩
    · rw [Function.update_of_ne same]
      exact ⟨kept, opened⟩
  | _ => exact ⟨kept, opened⟩

/-- An event that accuses nobody. -/
theorem step (event : Event) (quiet : Quiet c) (tells : Tells c) (inv : ConnInv c)
    (fine : (c.step event).Fine (Spared c event))
    (notClose : event ≠ .controlClose)
    (about : ∀ k, event.stream = some k → (c.streams k).ch.opened = false →
      ((c.step event).streams k).Fresh)
    (opening : ∀ k, event = .channelOpen k → (c.streams k).ch.opened = false)
    (closing : ∀ k, event = .channelClosing k ∨ event = .channelClose k →
      (c.streams k).wireComplete = true) :
    Quiet (c.step event) := by
  obtain ⟨past, heard⟩ := quiet.heard
  have hand := ConnCore.handshake_step event quiet.hand heard
  obtain ⟨frames, middle, arrives, -, reaction⟩ := (inv.step event).split
  have alive := quiet.fine.alive
  obtain ⟨extra, sent, kinds⟩ := reaction.step.control
  have credit : ∀ message ∈ extra, message.isCredit = true := by
    intro message member
    rcases (kinds message member).2 with ⟨credit, -⟩ | ⟨-, fired⟩
    · exact credit
    · exact absurd (fine.alive.symm.trans fired) Bool.false_ne_true
  have before : middle.control.closed = false ∧ ∀ message ∈ middle.control.sent.tail,
      message.isCredit = true := by
    by_cases opens : event = .controlOpen
    · subst opens
      cases arrives with
      | «local» silent => cases silent
      | stranger about => cases about
      | controlOpen fresh =>
        -- HELLO is all that has been said
        have empty : c.control.sent = [] := by
          rcases tells.first quiet.unclosed alive with ⟨-, none, -⟩ | ⟨rest, some⟩
          · exact none
          · exact absurd (some ▸ List.mem_cons_self)
              (tells.unsaid fresh.1 wireVersion c.flow.localLimits)
        refine ⟨Channel.closed_sendIfOpen.trans quiet.unclosed, fun message member => ?_⟩
        change message ∈ (Channel.sendIfOpen (ControlMsg.hello wireVersion c.flow.localLimits)
          { c.control with opened := true }).sent.tail at member
        have silent : ({ c.control with opened := true } : Channel ControlMsg).sent = [] := empty
        rw [Channel.sent_sendIfOpen, silent] at member
        split at member <;> cases member
      | controlReopen => exact ⟨quiet.unclosed, quiet.credits⟩
    · rw [(arrives.control opens notClose).1]
      exact ⟨quiet.unclosed, quiet.credits⟩
  refine ⟨⟨fine.alive, fine.unblamed, fun _ none => none.elim⟩,
    reaction.step.controlClosed.trans before.1, hand.inv,
    ⟨_, hand.heard⟩, fun message member => ?_, fun j => ?_⟩
  · rw [sent] at member
    cases said : middle.control.sent with
    | nil =>
      rw [said, List.nil_append] at member
      exact credit message (List.mem_of_mem_tail member)
    | cons first rest =>
      have old := before.2
      rw [said] at member old
      rcases List.mem_append.mp (show message ∈ rest ++ extra from member) with here | there
      · exact old message here
      · exact credit message there
  · cases opened : (c.streams j).ch.opened with
    | false =>
      refine KpsStream.Fresh.orderly ?_
      by_cases here : event.stream = some j
      · exact about j here opened
      · exact fine.fresh j ⟨opened, here⟩
    | true =>
      obtain ⟨orderly, still⟩ := quiet.arrives inv arrives opened opening closing
      exact orderly.evolves still (reaction.step.streams j)

theorem new (limits : FlowLimits) (controlOpen : Bool) :
    Quiet (ConnCore.new limits controlOpen) := by
  obtain ⟨hand, heard, -⟩ := handshake_new limits controlOpen
  have streams : (ConnCore.new limits controlOpen).streams =
      fun _ => { sf := StreamFlow.new limits } := by
    cases controlOpen <;> rfl
  have fresh : (ConnCore.fresh limits controlOpen).Fine fun _ => False :=
    ⟨rfl, fun _ none => (by cases none), fun _ none => none.elim⟩
  refine ⟨?_, ?_, hand, ⟨_, heard⟩, ?_, fun k => ?_⟩
  · cases controlOpen with
    | false => exact fresh
    | true => exact fresh.sendHello
  · cases controlOpen <;> rfl
  · cases controlOpen <;> exact fun _ none => by cases none
  · rw [streams]
    exact KpsStream.Fresh.orderly ⟨rfl, rfl⟩

end Quiet

/-! ### Two linked ends -/

/-- The invariant of two linked engines that nobody closes. -/
structure QuietInv (limits : Side → FlowLimits) (s : Sys) : Prop where
  tells : TellsInv limits s
  quiet : ∀ side, Quiet (s.core side)

namespace QuietInv

variable {limits : Side → FlowLimits} {s s' : Sys} {side : Side} {k : Nat}

/-- The next control message is the first HELLO, or credit after it. -/
theorem expected {message : ControlMsg} (inv : QuietInv limits s)
    (next : (s.core side.other).control.sent[s.gotControl side]? = some message) :
    ((s.core side).peerHello = none ∧ ∃ limits, message = .hello wireVersion limits) ∨
      ((s.core side).peerHello.isSome = true ∧ message.isCredit = true) := by
  have peer := inv.quiet side.other
  have said := (inv.tells.tells side.other).first peer.unclosed peer.fine.alive
  obtain ⟨rest, first⟩ : ∃ rest, (s.core side.other).control.sent =
      .hello wireVersion (s.core side.other).flow.localLimits :: rest := by
    refine said.resolve_left fun ⟨_, empty, _⟩ => ?_
    rw [empty] at next
    cases next
  have received := (inv.tells.link.half side).control
  have credits := peer.credits
  rw [first] at next received credits
  cases got : s.gotControl side with
  | zero =>
    rw [got] at next received
    exact Or.inl ⟨(inv.quiet side).greeted.mpr received, _, (Option.some.inj next).symm⟩
  | succ n =>
    rw [got] at next received
    refine Or.inr ⟨?_, credits message (List.mem_of_getElem? next)⟩
    rw [Option.isSome_iff_ne_none]
    intro unmet
    have empty := (inv.quiet side).greeted.mp unmet
    rw [received] at empty
    cases empty

/-- A channel that the other end has closed, and that is drained, is one whose halves have both
ended. -/
theorem complete (inv : QuietInv limits s) (byPeer : s.closedByPeer side k = true) :
    ((s.core side).streams k).wireComplete = true := by
  unfold Sys.closedByPeer at byPeer
  rw [Bool.and_eq_true] at byPeer
  obtain ⟨closed, drained⟩ := byPeer
  have drained : s.got side k = ((s.core side.other).streams k).ch.sent.length :=
    of_decide_eq_true drained
  have half := inv.tells.link.half side
  have back := inv.tells.link.half side.other
  rw [Side.other_other] at back
  have theirs := (inv.quiet side.other).orderly k
  have ended := theirs.closes closed
  rw [KpsStream.wireComplete, Bool.and_eq_true] at ended
  have accepted : ((s.core side).streams k).accepted = ((s.core side.other).streams k).ch.sent := by
    rw [half.frames k, drained, List.take_length]
  have received (this : Side) :
      (((s.core this).streams k).peerFin || ((s.core this).streams k).peerReset.isSome) =
      hasTerminal ((s.core this).streams k).accepted := by
    have read := ((inv.tells.link.ends this).inv.stream k).read
    have fin : ((s.core this).streams k).peerFin = hasFin ((s.core this).streams k).accepted :=
      read.fin
    have reset : ((s.core this).streams k).peerReset.isSome =
      hasReset ((s.core this).streams k).accepted := read.reset
    rw [hasTerminal_eq, fin, reset]
  have ours : hasTerminal ((s.core side).streams k).ch.sent = true := by
    have told := ended.2
    rw [received] at told
    obtain ⟨frame, member, terminal⟩ := List.any_eq_true.mp told
    exact List.any_eq_true.mpr ⟨frame, (back.accepted_prefix k).subset member, terminal⟩
  have mine : ((s.core side).streams k).localTerminal.isSome = true := by
    have write := ((inv.tells.link.ends side).inv.stream k).write
    cases said : ((s.core side).streams k).localTerminal with
    | some _ => rfl
    | none =>
      have silent : hasTerminal ((s.core side).streams k).ch.sent = false := write.unended said
      exact absurd (silent.symm.trans ours) Bool.false_ne_true
  rw [KpsStream.wireComplete, mine, received, accepted, theirs.announced ended.1]
  rfl

/-- **One step accuses nobody.** -/
theorem step {label : Label} (inv : QuietInv limits s) (valid : ∀ side, (limits side).Valid)
    (quiet : label.isQuiet = true) (stepped : s.step label = some s') : QuietInv limits s' := by
  refine ⟨inv.tells.step valid stepped, fun this => ?_⟩
  obtain ⟨side, event, gotControl, got, fires, rfl⟩ := Sys.step_fires stepped
  rcases Side.eq_or side this with rfl | rfl
  · dsimp only
    rw [Function.update_self]
    have ends := inv.tells.link.ends this
    have peerEnds := inv.tells.link.ends this.other
    have half := inv.tells.link.half this
    have back := inv.tells.link.half this.other
    rw [Side.other_other] at back
    have here := inv.quiet this
    have spared := here.spares event
    have plain (k : Nat) (about : event.stream = some k) : ¬ Quiet.Spared (s.core this) event k :=
      fun at' => at'.2 about
    have next := here.step event (inv.tells.tells this) ends.inv
    cases fires with
    | @controlMessage _ message said opened =>
      refine next ?_ (by simp) (fun k about => by cases about)
        (fun k same => by cases same) fun k same => by
        rcases same with same | same <;> cases same
      show ((s.core this).onControl (encodeControl message)).Fine _
      have wf := peerEnds.wf (valid _) (List.mem_of_getElem? said)
      unfold ConnCore.onControl
      rw [decodeControl_encodeControl wf]
      exact ConnCore.Fine.handleControl
        (c := { s.core this with ctlIn := (s.core this).ctlIn ++ [message] })
        ⟨spared.alive, spared.unblamed, spared.fresh⟩ (inv.expected said)
    | @channelMessage _ k frame said present opened unclosed =>
      refine next ?_ (by simp) (fun j about unopened => ?_)
        (fun j same => by cases same) fun j same => by
        rcases same with same | same <;> cases same
      · obtain ⟨x, retires, done⟩ := half.accepts back ends peerEnds (valid this) present said
        have wf : frame.WF := (peerEnds.inv.stream k).write.wf frame (List.mem_of_getElem? said)
        show (if k ∈ (s.core this).ids then (s.core this).onFrame k (encodeFrame frame)
          else s.core this).Fine _
        rw [if_pos present]
        exact spared.onStream (.onFrame (parseFrame_encodeFrame wf) done) (plain k rfl)
      · cases about
        exact absurd (unopened.symm.trans opened) Bool.false_ne_true
    | @incomingChannel _ k there theirs absent =>
      refine next ?_ (by simp) (fun j about => by cases about)
        (fun j same => by cases same) fun j same => by
        rcases same with same | same <;> cases same
      obtain ⟨flow, admitted⟩ := half.admits back ends peerEnds (valid this) there theirs absent
      show (if k ∈
        (s.core this).ids then s.core this else (s.core this).handleIncomingChannel k true).Fine _
      rw [if_neg absent]
      exact spared.handleIncomingChannel admitted
    | @channelOpen _ k present unopened =>
      have acted : (s.core this).step (.channelOpen k) = (s.core this).streamEvent k
        (.channelOpen k) := if_pos present
      refine next ?_ (by simp) (fun j about shut => ?_)
        (fun j same => by cases same; exact unopened) fun j same => by
        rcases same with same | same <;> cases same
      · rw [acted]
        exact spared.onStream (.channelOpen k) (plain k rfl)
      · cases about
        rw [acted]
        have fresh := (here.orderly k).fresh shut
        have same := KpsStream.SameHalves.settleOpen none
          { (s.core this).streams k with
            ch := { ((s.core this).streams k).ch with opened := true } }
        have terminal := congrArg WriteHalf.terminal (same.write 0)
        have closed := congrArg (fun ch : Channel Frame => ch.closed) same.ch
        show KpsStream.Fresh (Function.update (s.core this).streams k _ k)
        rw [Function.update_self]
        exact ⟨terminal.trans fresh.1, closed.trans fresh.2⟩
    | @channelClosing _ k present byPeer =>
      have acted : (s.core this).step (.channelClosing k) = (s.core this).streamEvent k
          (.channelClosing k) :=
        if_pos present
      have complete := inv.complete byPeer
      refine next ?_ (by simp) (fun j about shut => ?_)
        (fun j same => by cases same) fun j same => by
        rcases same with same | same <;> cases same
        exact complete
      · rw [acted]
        exact spared.onStream (.channelClosing k) (plain k rfl)
      · cases about
        have unended := (here.orderly k).unopened shut
        simp [KpsStream.wireComplete, unended] at complete
    | @channelClose _ k present unclosed ended =>
      have acted : (s.core this).step (.channelClose k) = (s.core this).onChannelClose k :=
        if_pos present
      have complete : ((s.core this).streams k).wireComplete = true :=
        ended.elim (here.orderly k).closes inv.complete
      refine next ?_ (by simp) (fun j about shut => ?_)
        (fun j same => by cases same) fun j same => by
        rcases same with same | same <;> cases same
        exact complete
      · rw [acted]
        exact spared.onStream (.onChannelClose complete) (plain k rfl)
      · cases about
        have unended := (here.orderly k).unopened shut
        simp [KpsStream.wireComplete, unended] at complete
    | channelLost => cases quiet
    | event allowed =>
      have quiet : event.isQuiet = true := quiet
      have opening (k : Nat) : event ≠ .channelOpen k := by
        rintro rfl
        cases quiet
      refine next ?_ ?_ (fun k about unopened => ?_)
        (fun k same => absurd same (opening k)) fun k same => ?_
      · cases about : event.stream with
        | none =>
          have acted : (s.core this).step event = (s.core this).connEvent event := by
            unfold ConnCore.step
            rw [about]
          rw [acted]
          exact spared.quiet here.hand quiet
        | some k =>
          have acted : (s.core this).step event =
              if k ∈ (s.core this).ids then (s.core this).streamEvent k event else s.core this := by
            unfold ConnCore.step
            rw [about]
          rw [acted]
          split
          · exact spared.onStream (.quiet quiet) (plain k about)
          · exact spared
      · rintro rfl
        cases quiet
      · have fresh := (here.orderly k).fresh unopened
        cases event with
        | bufferedAmount j amount =>
          cases about
          show ((if k ∈
            (s.core this).ids then (s.core this).streamEvent k (.bufferedAmount k amount)
            else s.core this).streams k).Fresh
          split
          · show KpsStream.Fresh (Function.update (s.core this).streams k _ k)
            rw [Function.update_self]
            dsimp only
            split <;> exact fresh
          · exact fresh
        | _ => first
          | cases about; done
          | cases quiet; done
          | (cases about
             have opened := (Bool.and_eq_true _ _ ▸ allowed).2
             exact absurd (unopened.symm.trans opened) Bool.false_ne_true)
      · rcases same with rfl | rfl <;> cases quiet
  · dsimp only
    rw [Function.update_of_ne (Side.other_ne side)]
    exact inv.quiet _

end QuietInv

/-- **Two ends never accuse each other**, as long as nobody closes the connection and the transport
does not fail. -/
theorem never_accused (limits : Side → FlowLimits) (valid : ∀ side, (limits side).Valid)
    (controlOpen : Side → Bool)
    (labels : List Label) (quiet : ∀ label ∈ labels, label.isQuiet = true) (s : Sys)
    (ran : Kps.Lib.run Sys.step (Sys.new limits controlOpen) labels = some s) (side : Side) :
    (s.core side).closeFired = false ∧ ∀ reason, .fatal reason ∉ (s.core side).log := by
  have start : QuietInv limits (Sys.new limits controlOpen) :=
    ⟨⟨LinkInv.new limits controlOpen,
      fun side => Tells.new (limits side) (valid side) (controlOpen side)⟩,
      fun side => Quiet.new (limits side) (controlOpen side)⟩
  have inv : QuietInv limits s := run_invariant_of_labels (fun label => label.isQuiet = true)
    (fun _ _ _ quiet inv stepped => inv.step valid quiet stepped) quiet start ran
  exact ⟨(inv.quiet side).fine.alive, (inv.quiet side).fine.unblamed⟩

theorem never_accused_grantArrives : ∃ s,
    Kps.Lib.run Sys.step (Sys.new (fun _ => ⟨4, 8, 1⟩) fun _ => true) grantArrives = some s ∧
      (s.core .right).closeFired = false ∧ ∀ reason, .fatal reason ∉ (s.core .right).log := by
  have ran : (Kps.Lib.run Sys.step (Sys.new (fun _ => ⟨4, 8, 1⟩) fun _ => true)
      grantArrives).isSome = true := by decide +kernel
  obtain ⟨s, reached⟩ := Option.isSome_iff_exists.mp ran
  exact ⟨s, reached, never_accused _ (fun _ => by decide) _ _ (by decide) s reached .right⟩

end Kps.Ts
