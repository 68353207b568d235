/-
**What links two engines.**

* `EndInv` — what is kept of each end: its own invariant, and that its HELLOs carry its limits;
* `HalfInv` — what one end has received is what was delivered of what the other end sent;
* `HalfInv.data_le`, `HalfInv.credit_le`, … — so neither end believes in more credit than the other
  granted;
* `HalfInv.accepts` — and no frame that is delivered breaks the protocol;
* `LinkInv.step` — every label keeps all this, also when connections are closed and channels lost.
-/

import Kps.Ts.ControlMachine
import Kps.Ts.Link

namespace Kps.Ts

open Kps.Lib

/-! ### What an end shows of an event -/

/-- What an event makes visible: frames and a control message accepted, more sent, streams made. -/
structure Moves (heard : Nat → List Frame) (message : Option ControlMsg) (c c' : ConnCore) :
    Prop where
  limits : c'.flow.localLimits = c.flow.localLimits
  accepted : ∀ k, (c'.streams k).accepted = (c.streams k).accepted ++ heard k
  sent : ∀ k, (c.streams k).ch.sent <+: (c'.streams k).ch.sent
  ctlIn : c'.ctlIn = c.ctlIn ++ message.toList
  control : ∃ extra, c'.control.sent = c.control.sent ++ extra ∧ ∀ message ∈ extra,
    message = .hello wireVersion c.flow.localLimits ∨
      message.WF ∧ (message.isCredit = true ∨ message.isClose = true)
  ids : c.ids <+: c'.ids
  initiated : ∀ k ∈ c.ids, (c'.streams k).peerInitiated = (c.streams k).peerInitiated

namespace Moves

variable {heard : Nat → List Frame} {message : Option ControlMsg} {c c' c'' : ConnCore}

theorem refl (c : ConnCore) : Moves silence none c c where
  limits := rfl
  accepted := fun _ => (List.append_nil _).symm
  sent := fun _ => List.prefix_refl _
  ctlIn := (List.append_nil _).symm
  control := ⟨[], by simp⟩
  ids := List.prefix_refl _
  initiated := fun _ _ => rfl

/-- The reaction, after what arrived. -/
theorem react (arrived : Moves silence message c c') (reaction : Evolves heard c' c'') :
    Moves heard message c c'' where
  limits := reaction.limits.trans arrived.limits
  accepted := fun k => by
    rw [(reaction.streams k).accepted, arrived.accepted, silence, List.append_nil]
  sent := fun k => (arrived.sent k).trans (reaction.streams k).sent
  ctlIn := reaction.ctlIn.trans arrived.ctlIn
  control := by
    obtain ⟨extra, sent, kinds⟩ := arrived.control
    obtain ⟨extra', sent', kinds'⟩ := reaction.control
    refine ⟨extra ++ extra', by rw [sent', sent, List.append_assoc], fun message member => ?_⟩
    rcases List.mem_append.mp member with here | there
    · exact kinds message here
    · obtain ⟨wf, kind⟩ := kinds' message there
      exact Or.inr ⟨wf, kind.imp And.left And.left⟩
  ids := reaction.ids.symm ▸ arrived.ids
  initiated := fun k present => by
    rw [(reaction.streams k).initiated, arrived.initiated k present]

theorem greeted (c : ConnCore) :
    Moves silence none c { c with control := { c.control with opened := true } }.greeted :=
  { refl c with
    limits := rfl
    control := by
      show ∃ extra, (Channel.sendIfOpen (.hello wireVersion c.flow.localLimits)
        { c.control with opened := true }).sent = c.control.sent ++ extra ∧ _
      rw [Channel.sent_sendIfOpen]
      split
      · exact ⟨[.hello wireVersion c.flow.localLimits], rfl, fun message member =>
          Or.inl (List.mem_singleton.mp member)⟩
      · exact ⟨[], by simp⟩ }

theorem learn (message : ControlMsg) (c : ConnCore) :
    Moves silence (some message) c (c.learn message) := by
  obtain ⟨flow, peerHello, learned, limits⟩ := ConnCore.learn_eq message c
  rw [learned]
  exact { refl c with limits, ctlIn := rfl }

theorem creates {k : Nat} {peerInitiated isOpen : Bool} (inv : ConnInv c)
    (made : Creates k peerInitiated isOpen c c') : Moves silence none c c' := by
  have blank := inv.registry.blank k made.absent
  have stream (j : Nat) : (c'.streams j).accepted = (c.streams j).accepted ∧
      (c'.streams j).ch.sent = (c.streams j).ch.sent := by
    rw [made.streams]
    by_cases here : j = k
    · subst here
      rw [Function.update_self, blank]
      exact ⟨rfl, rfl⟩
    · rw [Function.update_of_ne here]
      exact ⟨rfl, rfl⟩
  refine ⟨?_, fun j => ?_, fun j => ?_, ?_, ⟨[], ?_, fun _ none => by cases none⟩, ?_,
    fun j present => ?_⟩
  · rw [made.flow]
  · rw [(stream j).1, silence, List.append_nil]
  · rw [(stream j).2]
  · rw [made.ctlIn]
    exact (List.append_nil _).symm
  · rw [made.control, List.append_nil]
  · rw [made.ids]
    exact List.prefix_append _ _
  · have different : j ≠ k := fun same => made.absent (same ▸ present)
    rw [made.streams, Function.update_of_ne different]

theorem touch {k : Nat} {s : KpsStream} (accepted : s.accepted = (c.streams k).accepted)
    (sent : s.ch.sent = (c.streams k).ch.sent)
    (initiated : s.peerInitiated = (c.streams k).peerInitiated) :
    Moves silence none c { c with streams := Function.update c.streams k s } := by
  have stream (j : Nat) : (Function.update c.streams k s j).accepted = (c.streams j).accepted ∧
      (Function.update c.streams k s j).ch.sent = (c.streams j).ch.sent ∧
      (Function.update c.streams k s j).peerInitiated = (c.streams j).peerInitiated := by
    by_cases here : j = k
    · subst here
      rw [Function.update_self]
      exact ⟨accepted, sent, initiated⟩
    · rw [Function.update_of_ne here]
      exact ⟨rfl, rfl, rfl⟩
  refine { refl c with
    accepted := fun j => ?_
    sent := fun j => ?_
    initiated := fun j _ => (stream j).2.2 }
  · rw [silence, List.append_nil]
    exact (stream j).1
  · show (c.streams j).ch.sent <+: (Function.update c.streams k s j).ch.sent
    rw [(stream j).2.1]

end Moves

/-- The control message an event teaches an end. -/
def Event.learned : Event → Option ControlMsg
  | .controlMessage data => (decodeControl data).toOption
  | _ => none

theorem Arrives.moves {c middle : ConnCore} {event : Event} {heard : Nat → List Frame}
    (inv : ConnInv c) (arrives : Arrives c event heard middle) :
    Moves silence event.learned c middle := by
  cases arrives with
  | «local» silent =>
    have none : event.learned = none := by cases event <;> first | rfl | cases silent
    exact none ▸ Moves.refl c
  | stranger about =>
    have none : event.learned = none := by cases event <;> first | rfl | cases about
    exact none ▸ Moves.refl c
  | controlOpen => exact Moves.greeted c
  | controlReopen => exact { Moves.refl c with limits := rfl }
  | @controlGarbled data text decoded =>
    have none : Event.learned (.controlMessage data) = none := by
      rw [Event.learned, decoded]
      rfl
    exact none ▸ Moves.refl c
  | @controlMessage data message decoded =>
    have some : Event.learned (.controlMessage data) = some message := by
      rw [Event.learned, decoded]
      rfl
    exact some ▸ Moves.learn _ c
  | controlClose => exact { Moves.refl c with limits := rfl }
  | incomingChannel made => exact Moves.creates inv made
  | openChannel made => exact Moves.creates inv made
  | @channelOpen k present =>
    have same := KpsStream.SameHalves.settleOpen none
      { c.streams k with ch := { (c.streams k).ch with opened := true } }
    have sent := congrArg (fun ch : Channel Frame => ch.sent) same.ch
    exact Moves.touch
      (congrArg ReadHalf.accepted (same.read c.flow.localLimits)) sent same.initiated
  | channelClosing present => exact Moves.touch rfl rfl rfl
  | channelClose present => exact Moves.touch rfl rfl rfl
  | _ => exact Moves.refl c

/-- The streams an event may make. -/
theorem Arrives.made {c middle : ConnCore} {event : Event} {heard : Nat → List Frame} {k : Nat}
    (arrives : Arrives c event heard middle) (present : k ∈ middle.ids) (absent : k ∉ c.ids) :
    (∃ isOpen, event = .incomingChannel k isOpen ∧ (middle.streams k).peerInitiated = true) ∨
      ∃ op isOpen, event = .openStreamResume op (.ok k) isOpen ∧
        (middle.streams k).peerInitiated = false := by
  have sole {j : Nat} {peerInitiated isOpen : Bool}
    (made : Creates j peerInitiated isOpen c middle) :
      k = j ∧ (middle.streams k).peerInitiated = peerInitiated := by
    rw [made.ids] at present
    have same : k = j :=
      List.mem_singleton.mp ((List.mem_append.mp present).resolve_left absent)
    rw [made.streams, same, Function.update_self]
    exact ⟨rfl, rfl⟩
  cases arrives with
  | @incomingChannel j isOpen _ made =>
    obtain ⟨rfl, theirs⟩ := sole made
    exact Or.inl ⟨isOpen, rfl, theirs⟩
  | @openChannel op j isOpen _ made =>
    obtain ⟨rfl, ours⟩ := sole made
    exact Or.inr ⟨op, isOpen, rfl, ours⟩
  | controlMessage =>
    obtain ⟨flow, peerHello, learned, -⟩ := ConnCore.learn_eq _ c
    rw [learned] at present
    exact absurd present absent
  | _ => exact absurd present absent

/-! ### The invariant -/

/-- What is kept of an end. -/
structure EndInv (limits : FlowLimits) (c : ConnCore) : Prop where
  inv : ConnInv c
  fixed : c.flow.localLimits = limits
  control : ∀ message ∈ c.control.sent, message = .hello wireVersion limits ∨
    message.WF ∧ (message.isCredit = true ∨ message.isClose = true)

/-- `c` has received the first `gotControl` control messages of `peer` and the first `got k` frames
of each channel, and the two agree on who opened which stream. -/
structure HalfInv (c peer : ConnCore) (gotControl : Nat) (got : Nat → Nat) : Prop where
  control : c.ctlIn = peer.control.sent.take gotControl
  controlGot : gotControl ≤ peer.control.sent.length
  frames : ∀ k, (c.streams k).accepted = (peer.streams k).ch.sent.take (got k)
  framesGot : ∀ k, got k ≤ (peer.streams k).ch.sent.length
  paired : ∀ k ∈ c.ids, (c.streams k).peerInitiated = true →
    k ∈ peer.ids ∧ (peer.streams k).peerInitiated = false
  apart : ∀ k ∈ c.ids, k ∈ peer.ids → (c.streams k).peerInitiated = false →
    (peer.streams k).peerInitiated = true

/-- The limits learned are at most what bounds each message. -/
theorem peerView_le (received : List ControlMsg) (streamData data streams : Int)
    (nonneg : 0 ≤ streamData ∧ 0 ≤ data ∧ 0 ≤ streams)
    (hello : ∀ version limits, ControlMsg.hello version limits ∈ received →
      (limits.initialMaxStreamData : Int) ≤ streamData ∧ (limits.initialMaxData : Int) ≤ data ∧
        (limits.initialMaxStreams : Int) ≤ streams)
    (maxData : ∀ value, ControlMsg.maxData value ∈ received → (value : Int) ≤ data)
    (maxStreams : ∀ value, ControlMsg.maxStreams value ∈ received → (value : Int) ≤ streams) :
    (peerView received).streamData ≤ streamData ∧ (peerView received).data ≤ data ∧
      (peerView received).streams ≤ streams := by
  induction received using List.reverseRecOn with
  | nil => exact nonneg
  | append_singleton received message ih =>
    have before :=
      ih (fun version limits member => hello version limits (List.mem_append_left _ member))
      (fun value member => maxData value (List.mem_append_left _ member))
      fun value member => maxStreams value (List.mem_append_left _ member)
    rw [peerView_concat]
    cases message <;> unfold PeerView.learn <;> dsimp only
    · exact before
    · split
      · exact before
      · exact hello _ _ (List.mem_append_right _ List.mem_cons_self)
    · split
      · exact before
      · exact ⟨before.1, max_le before.2.1 (maxData _ (by simp)), before.2.2⟩
    · split
      · exact before
      · exact ⟨before.1, before.2.1, max_le before.2.2 (maxStreams _ (by simp))⟩

namespace EndInv

variable {limits : FlowLimits} {c : ConnCore}

theorem wf (ends : EndInv limits c) (valid : limits.Valid) {message : ControlMsg}
    (sent : message ∈ c.control.sent) : message.WF := by
  rcases ends.control message sent with rfl | ⟨wf, -⟩
  · exact ⟨by decide, valid⟩
  · exact wf

theorem hello_eq (ends : EndInv limits c) {version : Nat} {hello : FlowLimits}
    (sent : .hello version hello ∈ c.control.sent) : hello = limits := by
  rcases ends.control _ sent with same | ⟨-, credit | close⟩
  · exact (ControlMsg.hello.inj same).2
  · cases credit
  · cases close

/-- What an end grants is never below what its HELLO says. -/
theorem initial_le (ends : EndInv limits c) (valid : limits.Valid) :
    (limits.initialMaxData : Int) ≤ c.flow.localMaxData ∧
      (limits.initialMaxStreams : Int) ≤ c.flow.advertisedMaxStreams ∧
      ∀ k, (limits.initialMaxStreamData : Int) ≤ (c.streams k).sf.localMaxStreamData := by
  obtain ⟨streamData, data, streams⟩ := valid
  have dataFloor := ends.inv.data.window.floor
  have streamsFloor := ends.inv.slots.floor
  have retired := ends.inv.slots.retired
  change min (c.flow.localLimits.initialMaxData : Int) maxOffset ≤ c.flow.localMaxData at dataFloor
  rw [ends.fixed] at dataFloor streamsFloor
  refine ⟨by omega, by omega, fun k => ?_⟩
  have streamFloor := (ends.inv.stream k).read.window.floor
  change min (c.flow.localLimits.initialMaxStreamData : Int) maxOffset ≤
    (c.streams k).sf.localMaxStreamData at streamFloor
  rw [ends.fixed] at streamFloor
  omega

end EndInv

namespace HalfInv

variable {limits limits' : FlowLimits} {c peer : ConnCore} {gotControl gotControl' : Nat}
  {got got' : Nat → Nat} {k : Nat}

/-! ### Credit -/

theorem view_le (half : HalfInv c peer gotControl got) (ends : EndInv limits c)
    (peerEnds : EndInv limits' peer) (valid : limits'.Valid) :
    c.flow.peerMaxStreamDataInitial ≤ limits'.initialMaxStreamData ∧
      c.flow.peerMaxData ≤ peer.flow.localMaxData ∧
      c.flow.peerMaxStreams ≤ peer.flow.advertisedMaxStreams := by
  obtain ⟨data, streams, -⟩ := peerEnds.initial_le valid
  have sent : ∀ message ∈ c.ctlIn, message ∈ peer.control.sent := by
    rw [half.control]
    exact fun message member => List.mem_of_mem_take member
  have bound := peerView_le c.ctlIn limits'.initialMaxStreamData peer.flow.localMaxData
    peer.flow.advertisedMaxStreams ⟨by omega, by omega, by omega⟩
    (fun version hello member => by
      rw [peerEnds.hello_eq (sent _ member)]
      exact ⟨le_refl _, data, streams⟩)
    (fun value member => le_trans (peerEnds.inv.data.adverts value (sent _ member))
      (min_le_left _ _))
    (fun value member => le_trans (peerEnds.inv.slots.adverts value (sent _ member))
      (min_le_left _ _))
  rw [← ends.inv.view] at bound
  exact bound

/-- Stream credit: `c` believes in no more than `peer` grants. -/
theorem credit_le (half : HalfInv c peer gotControl got) (ends : EndInv limits c)
    (peerEnds : EndInv limits' peer) (valid : limits'.Valid) (k : Nat) :
    max (c.streams k).sf.peerMaxExplicit c.flow.peerMaxStreamDataInitial ≤
      (peer.streams k).sf.localMaxStreamData := by
  obtain ⟨initial, -, -⟩ := half.view_le ends peerEnds valid
  have floor := (peerEnds.initial_le valid).2.2 k
  refine max_le ?_ (le_trans initial floor)
  rw [(ends.inv.stream k).explicit]
  refine explicitCredit_le (by omega) fun value member => ?_
  rw [half.frames k] at member
  exact le_trans ((peerEnds.inv.stream k).adverts value (List.mem_of_mem_take member))
    (min_le_left _ _)

theorem sendSent_eq (ends : EndInv limits c) (k : Nat) :
    (c.streams k).sf.sendSent = (payload (c.streams k).ch.sent).length :=
  (ends.inv.stream k).write.sent

theorem received_eq (ends : EndInv limits c) (k : Nat) :
    (c.streams k).sf.received = (payload (c.streams k).accepted).length :=
  (ends.inv.stream k).read.received

/-- What is accepted was sent. -/
theorem accepted_prefix (half : HalfInv c peer gotControl got) (k : Nat) :
    (c.streams k).accepted <+: (peer.streams k).ch.sent := by
  rw [half.frames k]
  exact List.take_prefix _ _

theorem payload_mono {frames more : List Frame} (before : frames <+: more) :
    payload frames <+: payload more := by
  obtain ⟨rest, rfl⟩ := before
  rw [payload_append]
  exact List.prefix_append _ _

theorem received_le (half : HalfInv c peer gotControl got) (ends : EndInv limits c)
    (peerEnds : EndInv limits' peer) (k : Nat) :
    (c.streams k).sf.received ≤ (peer.streams k).sf.sendSent := by
  rw [received_eq ends, sendSent_eq peerEnds]
  exact Int.ofNat_le.mpr (payload_mono (half.accepted_prefix k)).length_le

/-! ### The next frame -/

/-- Accepted with the next frame, still what was sent first. -/
theorem next_prefix {frame : Frame} (half : HalfInv c peer gotControl got)
    (next : (peer.streams k).ch.sent[got k]? = some frame) :
    (c.streams k).accepted ++ [frame] = (peer.streams k).ch.sent.take (got k + 1) := by
  rw [half.frames k, List.take_add_one, next]
  rfl

/-- A stream on which something was sent exists. -/
theorem known {frame : Frame} {n : Nat} (sent : (peer.streams k).ch.sent[n]? = some frame)
    (peerEnds : EndInv limits' peer) : k ∈ peer.ids := by
  by_contra absent
  rw [peerEnds.inv.registry.blank k absent] at sent
  cases sent

/-- The next frame fits in both windows. -/
theorem next_fits {frame : Frame} (half : HalfInv c peer gotControl got)
    (back : HalfInv peer c gotControl' got') (ends : EndInv limits c)
    (peerEnds : EndInv limits' peer) (valid : limits.Valid) (present : k ∈ c.ids)
    (next : (peer.streams k).ch.sent[got k]? = some frame) :
    (c.streams k).sf.received + frame.payload.length ≤ (c.streams k).sf.localMaxStreamData ∧
      c.flow.connReceived + frame.payload.length ≤ c.flow.localMaxData := by
  have grown : (c.streams k).sf.received + frame.payload.length ≤ (peer.streams k).sf.sendSent := by
    have before : (c.streams k).accepted ++ [frame] <+: (peer.streams k).ch.sent := by
      rw [half.next_prefix next]
      exact List.take_prefix _ _
    have shorter := (payload_mono before).length_le
    rw [payload_append, payload_singleton, List.length_append] at shorter
    rw [received_eq ends, sendSent_eq peerEnds]
    omega
  constructor
  · have within := (peerEnds.inv.stream k).write.within
    have reserved : 0 ≤ (peer.streams k).sf.sendReserved := by
      have same : (peer.streams k).sf.sendReserved = held (peer.streams k).progress :=
        (peerEnds.inv.stream k).write.reserved
      omega
    have credit := back.credit_le peerEnds ends valid k
    change (peer.streams k).sf.sendSent + (peer.streams k).sf.sendReserved ≤
      max (peer.streams k).sf.peerMaxExplicit peer.flow.peerMaxStreamDataInitial at within
    omega
  · have data := (back.view_le peerEnds ends valid).2.1
    have within := peerEnds.inv.data.within
    have reserved : 0 ≤ peer.flow.connReserved := by
      rw [peerEnds.inv.ledgers.reserved]
      refine total_nonneg fun j _ => ?_
      have same : (peer.streams j).sf.sendReserved = held (peer.streams j).progress :=
        (peerEnds.inv.stream j).write.reserved
      omega
    have received : c.flow.connReceived + frame.payload.length ≤ peer.flow.connSent := by
      rw [ends.inv.ledgers.received, peerEnds.inv.ledgers.sent]
      refine total_add_le_total ends.inv.registry.nodup peerEnds.inv.registry.nodup
        (fun j _ => ?_) (fun j _ _ => half.received_le ends peerEnds j) (fun j _ absent => ?_)
        present (known next peerEnds) grown
      · rw [sendSent_eq peerEnds]
        exact Int.natCast_nonneg _
      · refine le_trans (half.received_le ends peerEnds j) ?_
        rw [peerEnds.inv.registry.blank j absent]
        exact le_refl _
    omega

/-- A frame that breaks nothing is accepted. -/
theorem handleFrame_done {x : StreamCtx} {frame : Frame}
    (open_ : frame.isBarred = true → x.s.peerFin = false ∧ x.s.peerReset = none)
    (fits : x.s.sf.received + frame.payload.length ≤ x.s.sf.localMaxStreamData ∧
      x.flow.connReceived + frame.payload.length ≤ x.flow.localMaxData) :
    ∃ x' retires, x.handleFrame frame = .done x' retires := by
  unfold StreamCtx.handleFrame
  cases frame with
  | data bytes =>
    obtain ⟨fin, reset⟩ := open_ rfl
    dsimp only
    rw [if_neg (by simp [fin, reset]), 
      StreamFlow.onDataReceived_fits (n := bytes.length) fits.1 fits.2]
    dsimp only
    split <;> exact ⟨_, _, rfl⟩
  | fin =>
    obtain ⟨fin, reset⟩ := open_ rfl
    simp [fin, reset]
  | reset code =>
    obtain ⟨fin, reset⟩ := open_ rfl
    simp [fin, reset]
  | stopSending code =>
    dsimp only
    split
    · exact ⟨_, _, rfl⟩
    · split <;> exact ⟨_, _, rfl⟩
  | maxStreamData value => exact ⟨_, _, rfl⟩

/-- **The next frame is accepted.** -/
theorem accepts {frame : Frame} (half : HalfInv c peer gotControl got)
    (back : HalfInv peer c gotControl' got') (ends : EndInv limits c)
    (peerEnds : EndInv limits' peer) (valid : limits.Valid) (present : k ∈ c.ids)
    (next : (peer.streams k).ch.sent[got k]? = some frame) :
    ∃ x retires, (c.ctx k).handleFrame frame = .done x retires := by
  have conforming : Conforming ((c.streams k).accepted ++ [frame]) := by
    rw [half.next_prefix next]
    exact List.Pairwise.sublist (List.take_sublist _ _) (peerEnds.inv.stream k).write.conforming
  refine handleFrame_done (fun barred => ?_)
    (half.next_fits back ends peerEnds valid present next)
  have unended : hasTerminal (c.streams k).accepted = false := by
    cases ended : hasTerminal (c.streams k).accepted with
    | false => rfl
    | true =>
      rw [(conforming_concat.mp conforming).2 ended] at barred
      cases barred
  rw [hasTerminal_eq, Bool.or_eq_false_iff] at unended
  have fin : (c.streams k).peerFin = hasFin (c.streams k).accepted := (ends.inv.stream k).read.fin
  have reset : (c.streams k).peerReset.isSome = hasReset (c.streams k).accepted :=
    (ends.inv.stream k).read.reset
  refine ⟨fin.trans unended.1, Option.not_isSome_iff_eq_none.mp ?_⟩
  rw [show (c.ctx k).s.peerReset.isSome = _ from reset, unended.2]
  decide

/-- A stream that the other end opened is within the limit on streams. -/
theorem admits (half : HalfInv c peer gotControl got) (back : HalfInv peer c gotControl' got')
    (ends : EndInv limits c) (peerEnds : EndInv limits' peer) (valid : limits.Valid)
    (opened : k ∈ peer.ids) (own : (peer.streams k).peerInitiated = false) (absent : k ∉ c.ids) :
    ∃ flow, c.flow.peerStreamOpened = .ok flow := by
  have count : c.flow.peerOpenedStreams + 1 ≤ peer.flow.streamsOpened := by
    have more : total (c.ids ++ [k]) peerWeight
        (Function.update c.streams k (KpsStream.new limits true true)) =
          total c.ids peerWeight c.streams + 1 := total_concat_update absent _
    have nodup : (c.ids ++ [k]).Nodup := List.nodup_append.mpr
      ⟨ends.inv.registry.nodup, List.nodup_singleton k, fun j member other here => by
        rintro rfl
        exact absent (List.mem_singleton.mp here ▸ member)⟩
    have ours (s : KpsStream) (theirs : s.peerInitiated = false) : peerWeight s = 0 := by
      rw [peerWeight, theirs]
      rfl
    rw [ends.inv.ledgers.peerOpened, peerEnds.inv.ledgers.opened, ← more]
    refine total_le_total nodup peerEnds.inv.registry.nodup (fun j _ => ?_)
      (fun j member both => ?_)
      fun j member alone => ?_
    · unfold ownWeight
      split <;> decide
    · by_cases same : j = k
      · subst same
        rw [Function.update_self, ownWeight, own]
        exact le_refl _
      · have old : j ∈ c.ids := (List.mem_append.mp member).resolve_right fun here =>
          same (List.mem_singleton.mp here)
        rw [Function.update_of_ne same]
        cases theirs : (c.streams j).peerInitiated with
        | true =>
          rw [peerWeight, theirs, ownWeight, (half.paired j old theirs).2]
          exact le_refl _
        | false =>
          rw [ours _ theirs]
          unfold ownWeight
          split <;> decide
    · have different : j ≠ k := fun same => alone (same ▸ opened)
      have old : j ∈ c.ids := (List.mem_append.mp member).resolve_right fun here =>
        different (List.mem_singleton.mp here)
      rw [Function.update_of_ne different]
      cases theirs : (c.streams j).peerInitiated with
      | true => exact absurd (half.paired j old theirs).1 alone
      | false => exact le_of_eq (ours _ theirs)
  have streams := (back.view_le peerEnds ends valid).2.2
  have within := peerEnds.inv.slots.within
  have reserved := peerEnds.inv.ledgers.slots
  refine ⟨{ c.flow with peerOpenedStreams := c.flow.peerOpenedStreams + 1 }, if_neg ?_⟩
  omega

/-! ### Moves -/

theorem peerMoves {heard : Nat → List Frame} {message : Option ControlMsg} {peer' : ConnCore}
    (half : HalfInv c peer gotControl got) (moves : Moves heard message peer peer')
    (made : ∀ k ∈ peer'.ids, k ∉ peer.ids → k ∈ c.ids → (peer'.streams k).peerInitiated = true) :
    HalfInv c peer' gotControl got where
  control := by
    obtain ⟨extra, sent, -⟩ := moves.control
    rw [half.control, sent, List.take_append_of_le_length half.controlGot]
  controlGot := by
    obtain ⟨extra, sent, -⟩ := moves.control
    rw [sent, List.length_append]
    exact Nat.le_add_right_of_le half.controlGot
  frames := fun k => by
    obtain ⟨extra, sent⟩ := moves.sent k
    rw [half.frames, ← sent, List.take_append_of_le_length (half.framesGot k)]
  framesGot := fun k => le_trans (half.framesGot k) (moves.sent k).length_le
  paired := fun k present theirs => by
    obtain ⟨there, ours⟩ := half.paired k present theirs
    exact ⟨moves.ids.subset there, (moves.initiated k there).trans ours⟩
  apart := fun k present there ours => by
    by_cases old : k ∈ peer.ids
    · exact (moves.initiated k old).trans (half.apart k present old ours)
    · exact made k there old present

theorem selfMoves {heard : Nat → List Frame} {message : Option ControlMsg} {c' : ConnCore}
    {gotControl' : Nat} {got' : Nat → Nat} (half : HalfInv c peer gotControl got)
    (moves : Moves heard message c c')
    (control : c.ctlIn ++ message.toList = peer.control.sent.take gotControl')
    (controlGot : gotControl' ≤ peer.control.sent.length)
    (frames : ∀ k, (c.streams k).accepted ++ heard k = (peer.streams k).ch.sent.take (got' k))
    (framesGot : ∀ k, got' k ≤ (peer.streams k).ch.sent.length)
    (made : ∀ k ∈ c'.ids, k ∉ c.ids →
      (c'.streams k).peerInitiated = true ∧ k ∈ peer.ids ∧ (peer.streams k).peerInitiated = false ∨
        (c'.streams k).peerInitiated = false ∧ k ∉ peer.ids) :
    HalfInv c' peer gotControl' got' where
  control := moves.ctlIn.trans control
  controlGot := controlGot
  frames := fun k => (moves.accepted k).trans (frames k)
  framesGot := framesGot
  paired := fun k present theirs => by
    by_cases old : k ∈ c.ids
    · exact half.paired k old ((moves.initiated k old).symm.trans theirs)
    · rcases made k present old with ⟨-, there, ours⟩ | ⟨ours, -⟩
      · exact ⟨there, ours⟩
      · rw [ours] at theirs
        cases theirs
  apart := fun k present there ours => by
    by_cases old : k ∈ c.ids
    · exact half.apart k old there ((moves.initiated k old).symm.trans ours)
    · rcases made k present old with ⟨theirs, -⟩ | ⟨-, absent⟩
      · rw [ours] at theirs
        cases theirs
      · exact absurd there absent

end HalfInv

theorem EndInv.moves {limits : FlowLimits} {c c' : ConnCore} {heard : Nat → List Frame}
    {message : Option ControlMsg} (ends : EndInv limits c) (moves : Moves heard message c c')
    (inv : ConnInv c') : EndInv limits c' where
  inv := inv
  fixed := moves.limits.trans ends.fixed
  control := by
    obtain ⟨extra, sent, kinds⟩ := moves.control
    intro message member
    rw [sent] at member
    rcases List.mem_append.mp member with old | new
    · exact ends.control message old
    · rw [← ends.fixed]
      exact kinds message new

/-- The invariant of two linked engines. -/
structure LinkInv (limits : Side → FlowLimits) (s : Sys) : Prop where
  ends : ∀ side, EndInv (limits side) (s.core side)
  half : ∀ side, HalfInv (s.core side) (s.core side.other) (s.gotControl side) (s.got side)

namespace LinkInv

variable {limits : Side → FlowLimits} {s : Sys} {side : Side}

/-- One end moves, and some of what the other end sent is delivered to it. -/
theorem advance {c' : ConnCore} {heard : Nat → List Frame} {message : Option ControlMsg}
    {gotControl : Nat} {got : Nat → Nat} (inv : LinkInv limits s)
    (moves : Moves heard message (s.core side) c') (inv' : ConnInv c')
    (control : (s.core side).ctlIn ++ message.toList =
      (s.core side.other).control.sent.take gotControl)
    (controlGot : gotControl ≤ (s.core side.other).control.sent.length)
    (frames : ∀ k, ((s.core side).streams k).accepted ++ heard k =
      ((s.core side.other).streams k).ch.sent.take (got k))
    (framesGot : ∀ k, got k ≤ ((s.core side.other).streams k).ch.sent.length)
    (made : ∀ k ∈ c'.ids, k ∉ (s.core side).ids →
      (c'.streams k).peerInitiated = true ∧ k ∈ (s.core side.other).ids ∧
          ((s.core side.other).streams k).peerInitiated = false ∨
        (c'.streams k).peerInitiated = false ∧ k ∉ (s.core side.other).ids) :
    LinkInv limits {
      core := Function.update s.core side c'
      gotControl := Function.update s.gotControl side gotControl
      got := Function.update s.got side got } := by
  have self := (inv.half side).selfMoves moves control controlGot frames framesGot made
  have peer := (inv.half side.other)
  rw [Side.other_other] at peer
  have peer := peer.peerMoves moves fun k present absent there => by
    rcases made k present absent with ⟨theirs, -⟩ | ⟨-, nowhere⟩
    · exact theirs
    · exact absurd there nowhere
  constructor
  · intro this
    rcases Side.eq_or side this with rfl | rfl
    · dsimp only
      rw [Function.update_self]
      exact (inv.ends _).moves moves inv'
    · dsimp only
      rw [Function.update_of_ne (Side.other_ne side)]
      exact inv.ends _
  · intro this
    rcases Side.eq_or side this with rfl | rfl
    · dsimp only
      rw [Function.update_self, Function.update_self, Function.update_self,
        Function.update_of_ne (Side.other_ne _)]
      exact self
    · dsimp only
      rw [Side.other_other, Function.update_self, Function.update_of_ne (Side.other_ne side),
        Function.update_of_ne (Side.other_ne side), Function.update_of_ne (Side.other_ne side)]
      exact peer

/-- An event that delivers nothing. -/
theorem advanceQuietly {event : Event} (inv : LinkInv limits s)
    (noControl : event.learned = none)
    (noFrame : ∀ k data, event ≠ .channelMessage k data)
    (theirs : ∀ k isOpen, event = .incomingChannel k isOpen → k ∈ (s.core side.other).ids ∧
      ((s.core side.other).streams k).peerInitiated = false)
    (ours : ∀ op k isOpen, event = .openStreamResume op (.ok k) isOpen →
      k ∉ (s.core side.other).ids) : LinkInv limits {
        core := Function.update s.core side ((s.core side).step event)
        gotControl := Function.update s.gotControl side (s.gotControl side)
        got := Function.update s.got side (s.got side) } := by
  have ends := inv.ends side
  have half := inv.half side
  obtain ⟨heard, middle, arrives, admitted, reaction⟩ := (ends.inv.step event).split
  have silent : heard = silence := by
    cases arrives with
    | channelMessage => exact absurd rfl (noFrame _ _)
    | _ => rfl
  subst silent
  have moves := (arrives.moves ends.inv).react reaction.step
  rw [noControl] at moves
  refine inv.advance moves reaction.inv ?_ half.controlGot ?_ half.framesGot ?_
  · exact (List.append_nil _).trans half.control
  · exact fun k => (List.append_nil _).trans (half.frames k)
  · intro k present absent
    rw [reaction.step.ids] at present
    rw [(reaction.step.streams k).initiated]
    rcases arrives.made present absent with ⟨isOpen, same, initiated⟩ | ⟨op, isOpen, same, own⟩
    · exact Or.inl ⟨initiated, theirs k isOpen same⟩
    · exact Or.inr ⟨own, ours op k isOpen same⟩

/-- The next control message. -/
theorem advanceControl {message : ControlMsg} (inv : LinkInv limits s)
    (valid : ∀ side, (limits side).Valid)
    (next : (s.core side.other).control.sent[s.gotControl side]? = some message) :
    LinkInv limits {
      core := Function.update s.core side
        ((s.core side).step (.controlMessage (encodeControl message)))
      gotControl := Function.update s.gotControl side (s.gotControl side + 1)
      got := Function.update s.got side (s.got side) } := by
  have ends := inv.ends side
  have half := inv.half side
  have wf : message.WF :=
    (inv.ends side.other).wf (valid _) (List.mem_of_getElem? next)
  have learned : Event.learned (.controlMessage (encodeControl message)) = some message := by
    rw [Event.learned, decodeControl_encodeControl wf]
    rfl
  obtain ⟨heard, middle, arrives, admitted, reaction⟩ :=
    (ends.inv.step (.controlMessage (encodeControl message))).split
  have silent : heard = silence := by
    cases arrives <;> rfl
  subst silent
  have moves := (arrives.moves ends.inv).react reaction.step
  rw [learned] at moves
  refine inv.advance moves reaction.inv ?_ ?_ ?_ half.framesGot ?_
  · rw [List.take_add_one, next, half.control]
  · exact (List.getElem?_eq_some_iff.mp next).1
  · exact fun k => (List.append_nil _).trans (half.frames k)
  · intro k present absent
    rw [reaction.step.ids] at present
    rcases arrives.made present absent with ⟨_, same, -⟩ | ⟨_, _, same, -⟩ <;> cases same

/-- The next frame. -/
theorem advanceFrame {k : Nat} {frame : Frame} (inv : LinkInv limits s)
    (valid : ∀ side, (limits side).Valid) (present : k ∈ (s.core side).ids)
    (next : ((s.core side.other).streams k).ch.sent[s.got side k]? = some frame) :
    LinkInv limits {
      core := Function.update s.core side
        ((s.core side).step (.channelMessage k (encodeFrame frame)))
      gotControl := Function.update s.gotControl side (s.gotControl side)
      got := Function.update s.got side (Function.update (s.got side) k (s.got side k + 1)) } := by
  have ends := inv.ends side
  have half := inv.half side
  have back := inv.half side.other
  rw [Side.other_other] at back
  have wf : frame.WF :=
    ((inv.ends side.other).inv.stream k).write.wf frame (List.mem_of_getElem? next)
  have parsed := parseFrame_encodeFrame wf
  obtain ⟨x, retires, handled⟩ :=
    half.accepts back ends (inv.ends side.other) (valid side) present next
  have reached : (s.core side).step (.channelMessage k (encodeFrame frame)) =
      (s.core side).onFrame k (encodeFrame frame) := if_pos present
  have spec := ConnSpec.onFrame ends.inv present parsed handled
  rw [reached]
  have moves : Moves (Function.update silence k [frame]) none (s.core side)
      ((s.core side).onFrame k (encodeFrame frame)) := (Moves.refl _).react spec.step
  refine inv.advance moves spec.inv ?_ half.controlGot ?_ ?_ ?_
  · exact (List.append_nil _).trans half.control
  · intro j
    by_cases same : j = k
    · subst same
      rw [Function.update_self, Function.update_self]
      exact half.next_prefix next
    · rw [Function.update_of_ne same, Function.update_of_ne same]
      exact (List.append_nil _).trans (half.frames j)
  · intro j
    by_cases same : j = k
    · subst same
      rw [Function.update_self]
      exact (List.getElem?_eq_some_iff.mp next).1
    · rw [Function.update_of_ne same]
      exact half.framesGot j
  · intro j present absent
    rw [spec.step.ids] at present
    exact absurd present absent

/-- **Every label keeps the invariant.** -/
theorem step {label : Label} {s' : Sys} (inv : LinkInv limits s)
    (valid : ∀ side, (limits side).Valid) (stepped : s.step label = some s') :
    LinkInv limits s' := by
  obtain ⟨side, event, gotControl, got, fires, rfl⟩ := Sys.step_fires stepped
  cases fires with
  | controlMessage next => exact inv.advanceControl valid next
  | channelMessage next present => exact inv.advanceFrame valid present next
  | incomingChannel there theirs absent =>
    refine inv.advanceQuietly rfl (fun _ _ same => by cases same) ?_ fun _ _ _ same => by cases same
    rintro _ _ ⟨⟩
    exact ⟨there, theirs⟩
  | channelOpen | channelClosing | channelClose | channelLost =>
    exact inv.advanceQuietly rfl (fun _ _ same => by cases same) (fun _ _ same => by cases same)
      fun _ _ _ same => by cases same
  | event allowed =>
    unfold Sys.allows at allowed
    rw [Bool.and_eq_true] at allowed
    obtain ⟨kind, guard⟩ := allowed
    refine inv.advanceQuietly ?_ ?_ ?_ ?_
    · cases event <;> first | rfl | cases kind
    · rintro _ _ rfl
      cases kind
    · rintro _ _ rfl
      cases kind
    · rintro op k isOpen rfl
      exact (of_decide_eq_true guard).2

theorem new (limits : Side → FlowLimits) (controlOpen : Side → Bool) :
    LinkInv limits (Sys.new limits controlOpen) := by
  have empty (side : Side) : (ConnCore.new (limits side) (controlOpen side)).ctlIn = [] ∧
      (ConnCore.new (limits side) (controlOpen side)).ids = [] ∧
      ∀ k, (ConnCore.new (limits side) (controlOpen side)).streams k =
        { sf := StreamFlow.new (limits side) } := by
    cases controlOpen side <;> exact ⟨rfl, rfl, fun _ => rfl⟩
  constructor
  · intro side
    refine ⟨ConnInv.new _ _, ConnCore.localLimits_new _ _, ?_⟩
    show ∀ message ∈ (ConnCore.new (limits side) (controlOpen side)).control.sent, _
    cases controlOpen side with
    | false => exact fun _ none => by cases none
    | true => exact fun message member => Or.inl (List.mem_singleton.mp member)
  · intro side
    refine ⟨(empty side).1, Nat.zero_le _, fun k => ?_, fun k => Nat.zero_le _, ?_, ?_⟩
    · show ((ConnCore.new (limits side) (controlOpen side)).streams k).accepted = _
      rw [(empty side).2.2]
      rfl
    · intro k present
      rw [show ((Sys.new limits controlOpen).core side).ids = [] from (empty side).2.1] at present
      cases present
    · intro k present
      rw [show ((Sys.new limits controlOpen).core side).ids = [] from (empty side).2.1] at present
      cases present

/-- **In every run**, whatever ends it, each end has received what was delivered of what the other
end sent. -/
theorem run (limits : Side → FlowLimits) (valid : ∀ side, (limits side).Valid)
    (controlOpen : Side → Bool) {labels : List Label} {s : Sys}
    (ran : Kps.Lib.run Sys.step (Sys.new limits controlOpen) labels = some s) : LinkInv limits s :=
  run_invariant (fun _ _ _ inv stepped => LinkInv.step inv valid stepped)
    (LinkInv.new limits controlOpen) ran

end LinkInv

end Kps.Ts
