/-
**Credit comes back.**

An end batches what it says of its credit: it withholds less than half a window. So once everything
that was sent has arrived and was consumed, the other end has credit to go on.

* `Tells.step` — what an end grants it has advertised, on every channel that is open;
* `credit_returns` — so in every run of two linked engines a reader that has consumed everything
  leaves the writer credit on the connection and on the stream, and one whose peer's streams have
  all retired leaves it a slot.
-/

import Kps.Ts.LinkInvariant

namespace Kps.Ts

open Kps.Lib

/-! ### What an end says of its credit -/

/-- What an end grants is what it has said. -/
structure Tells (c : ConnCore) : Prop where
  /-- Nothing arrives on a stream before its channel is open. -/
  fresh : ∀ k, (c.streams k).ch.opened = false → (c.streams k).accepted = []
  stream : ∀ k, (c.streams k).ch.isOpen = true →
    (c.streams k).sf.localMaxStreamData = streamLimit c.flow.localLimits (c.streams k).ch.sent
  deaf : c.control.opened = false → c.helloSent = false ∧ c.ctlIn = []
  greets : c.control.opened = true → c.closeFired = false → c.helloSent = true
  unsaid : c.helloSent = false → ∀ version limits, .hello version limits ∉ c.control.sent
  /-- HELLO is the first that an end says, and nothing is opened before. -/
  first : c.control.closed = false → c.closeFired = false →
    (c.helloSent = false ∧ c.control.sent = [] ∧ c.ids = []) ∨
      ∃ rest, c.control.sent = .hello wireVersion c.flow.localLimits :: rest
  data : c.control.isOpen = true → c.closeFired = false →
    c.flow.localMaxData = dataLimit c.flow.localLimits c.control.sent
  slots : c.control.isOpen = true → c.closeFired = false →
    c.flow.advertisedMaxStreams = streamsLimit c.flow.localLimits c.control.sent

/-- A window on which nothing was received is as it was. -/
theorem limit_of_unreceived {cap : Int} {w : Window} (sound : w.Sound cap) (small : w.size ≤ cap)
    (unreceived : w.received ≤ 0) : w.limit = w.size := by
  obtain ⟨start, behind, taken, outstanding, limit_le⟩ := sound.valid
  have floor := sound.floor
  omega

/-- A stream on which nothing was received grants what it was made with. -/
theorem ConnInv.limit_of_fresh {c : ConnCore} {k : Nat} (inv : ConnInv c)
    (valid : c.flow.localLimits.Valid) (fresh : (c.streams k).accepted = []) :
    (c.streams k).sf.localMaxStreamData = streamLimit c.flow.localLimits (c.streams k).ch.sent := by
  have read := (inv.stream k).read
  have received : (c.streams k).sf.received = (payload (c.streams k).accepted).length :=
    read.received
  rw [fresh] at received
  have small := valid.streamData
  have limit : (c.streams k).sf.localMaxStreamData = c.flow.localLimits.initialMaxStreamData :=
    limit_of_unreceived read.window (Int.ofNat_le.mpr small) (le_of_eq received)
  have below : (explicitCredit (c.streams k).ch.sent : Int) ≤
      c.flow.localLimits.initialMaxStreamData := by
    refine explicitCredit_le (Int.natCast_nonneg _) fun value member => ?_
    rw [← limit]
    exact le_trans ((inv.stream k).adverts value member) (min_le_left _ _)
  rw [limit, streamLimit, max_eq_left (Int.ofNat_le.mp below)]

/-- An end that has opened a stream has learned the peer's HELLO. -/
theorem ConnInv.met {c : ConnCore} {k : Nat} (inv : ConnInv c) (present : k ∈ c.ids)
    (own : (c.streams k).peerInitiated = false) : c.peerHello ≠ none := by
  intro none
  have view : c.view = ⟨.none, 0, 0, 0⟩ := inv.view.trans (peerView_of_none (inv.view ▸ none))
  have streams : c.flow.peerMaxStreams = 0 := congrArg PeerView.streams view
  have within := inv.slots.within
  have reserved := inv.ledgers.slots
  have counted : total c.ids ownWeight c.streams = ownWeight (c.streams k) +
      total (c.ids.erase k) ownWeight c.streams := total_erase present
  have others : 0 ≤ total (c.ids.erase k) ownWeight c.streams := by
    refine total_nonneg fun j _ => ?_
    unfold ownWeight
    split <;> decide
  have one : ownWeight (c.streams k) = 1 := by
    rw [ownWeight, own]
    rfl
  have opened := inv.ledgers.opened
  omega

/-- Only a HELLO tells the limits. -/
theorem exists_hello {received : List ControlMsg} (told : (peerView received).hello ≠ none) :
    ∃ version limits, ControlMsg.hello version limits ∈ received := by
  induction received using List.reverseRecOn with
  | nil => exact absurd rfl told
  | append_singleton received message ih =>
    rw [peerView_concat] at told
    cases message with
    | hello version limits => exact ⟨version, limits, List.mem_append_right _ List.mem_cons_self⟩
    | maxData value | maxStreams value =>
      have before : (peerView received).hello ≠ none := by
        intro none
        simp [PeerView.learn, none] at told
      obtain ⟨version, limits, member⟩ := ih before
      exact ⟨version, limits, List.mem_append_left _ member⟩
    | close code =>
      obtain ⟨version, limits, member⟩ := ih told
      exact ⟨version, limits, List.mem_append_left _ member⟩

namespace Tells

variable {c c' middle : ConnCore} {heard : Nat → List Frame} {event : Event}

/-- An end that has learned something says HELLO first. -/
theorem hello_first (tells : Tells c) (learned : c.ctlIn ≠ []) (closed : c.control.closed = false)
    (alive : c.closeFired = false) : ∃ rest,
      c.control.sent = .hello wireVersion c.flow.localLimits :: rest := by
  refine (tells.first closed alive).resolve_left fun ⟨unsent, _, _⟩ => ?_
  cases opened : c.control.opened with
  | false => exact learned (tells.deaf opened).2
  | true => exact Bool.false_ne_true (unsent.symm.trans (tells.greets opened alive))

theorem evolves (tells : Tells c) (valid : c.flow.localLimits.Valid) (step : Evolves heard c c')
    (open_ : ∀ k, heard k ≠ [] → (c.streams k).ch.opened = true) : Tells c' where
  fresh k unopened := by
    rw [(step.streams k).opened] at unopened
    have silent : heard k = [] := by
      by_contra some
      exact Bool.false_ne_true (unopened.symm.trans (open_ k some))
    rw [(step.streams k).accepted, silent, List.append_nil]
    exact tells.fresh k unopened
  stream k isOpen := by
    have evolves := step.streams k
    rw [step.limits]
    exact evolves.advertised isOpen valid.streamData (tells.stream k (evolves.wasOpen isOpen))
  deaf unopened := by
    rw [step.helloSent, step.ctlIn]
    exact tells.deaf (step.controlOpened ▸ unopened)
  greets opened alive := by
    rw [step.helloSent]
    refine tells.greets (step.controlOpened ▸ opened) ?_
    by_contra fired
    exact Bool.false_ne_true (alive.symm.trans (step.closeFired (by simpa using fired)))
  unsaid unsent version limits member := by
    obtain ⟨extra, sent, kinds⟩ := step.control
    rw [sent] at member
    rcases List.mem_append.mp member with old | new
    · exact tells.unsaid (step.helloSent ▸ unsent) version limits old
    · rcases (kinds _ new).2 with ⟨credit, -⟩ | ⟨close, -⟩
      · cases credit
      · cases close
  first closed alive := by
    have alive' : c.closeFired = false := by
      by_contra fired
      exact Bool.false_ne_true (alive.symm.trans (step.closeFired (by simpa using fired)))
    obtain ⟨extra, sent, kinds⟩ := step.control
    rw [step.helloSent, step.ids, step.limits, sent]
    rcases tells.first (step.controlClosed ▸ closed) alive' with ⟨unsent, none, empty⟩
      | ⟨rest, some⟩
    · refine Or.inl ⟨unsent, ?_, empty⟩
      rw [none, List.nil_append]
      refine List.eq_nil_iff_forall_not_mem.mpr fun message member => ?_
      rcases (kinds message member).2 with ⟨-, present⟩ | ⟨-, fired⟩
      · exact present empty
      · exact Bool.false_ne_true (alive.symm.trans fired)
    · exact Or.inr ⟨rest ++ extra, by rw [some, List.cons_append]⟩
  data isOpen alive := by
    have alive' : c.closeFired = false := by
      by_contra fired
      exact Bool.false_ne_true (alive.symm.trans (step.closeFired (by simpa using fired)))
    rw [step.controlIsOpen] at isOpen
    rw [step.limits]
    exact step.dataAdvertised isOpen valid.data (tells.data isOpen alive')
  slots isOpen alive := by
    have alive' : c.closeFired = false := by
      by_contra fired
      exact Bool.false_ne_true (alive.symm.trans (step.closeFired (by simpa using fired)))
    rw [step.controlIsOpen] at isOpen
    rw [step.limits]
    exact step.slotsAdvertised isOpen valid.streams (tells.slots isOpen alive')

/-- The channel of a stream changes, and nothing else of what matters here. -/
theorem touch {k : Nat} {s : KpsStream} (tells : Tells c) (inv : ConnInv c)
    (valid : c.flow.localLimits.Valid)
    (accepted : s.accepted = (c.streams k).accepted) (sent : s.ch.sent = (c.streams k).ch.sent)
    (sf : s.sf = (c.streams k).sf) (opened : s.ch.opened = false → (c.streams k).ch.opened = false)
    (closed : s.ch.closed = false → (c.streams k).ch.closed = false) :
    Tells { c with streams := Function.update c.streams k s } := by
  refine ⟨fun j unopened => ?_, fun j isOpen => ?_, tells.deaf, tells.greets, tells.unsaid,
    tells.first, tells.data, tells.slots⟩
  · by_cases same : j = k
    · subst same
      simp only [Function.update_self] at unopened ⊢
      rw [accepted]
      exact tells.fresh _ (opened unopened)
    · simp only [Function.update_of_ne same] at unopened ⊢
      exact tells.fresh _ unopened
  · by_cases same : j = k
    · subst same
      simp only [Function.update_self] at isOpen ⊢
      rw [sf, sent]
      simp only [Channel.isOpen, Bool.and_eq_true, Bool.not_eq_true'] at isOpen
      cases was : (c.streams j).ch.opened with
      | false => exact inv.limit_of_fresh valid (tells.fresh j was)
      | true =>
        refine tells.stream j ?_
        simp only [Channel.isOpen, was, closed isOpen.2]
        rfl
    · simp only [Function.update_of_ne same] at isOpen ⊢
      exact tells.stream _ isOpen

/-- A new stream, of an end that has said HELLO. -/
theorem creates {k : Nat} {peerInitiated isOpen : Bool} (tells : Tells c)
    (made : Creates k peerInitiated isOpen c c')
    (said : c.control.closed = false → c.closeFired = false →
      ∃ rest, c.control.sent = .hello wireVersion c.flow.localLimits :: rest) : Tells c' := by
  have limits : c'.flow.localLimits = c.flow.localLimits := by rw [made.flow]
  have data : c'.flow.localMaxData = c.flow.localMaxData := by rw [made.flow]
  have slots : c'.flow.advertisedMaxStreams = c.flow.advertisedMaxStreams := by rw [made.flow]
  refine ⟨fun j unopened => ?_, fun j isOpen => ?_, ?_, ?_, ?_, ?_, ?_, ?_⟩
  · rw [made.streams] at unopened ⊢
    by_cases same : j = k
    · subst same
      rw [Function.update_self]
      rfl
    · rw [Function.update_of_ne same] at unopened ⊢
      exact tells.fresh j unopened
  · rw [limits]
    rw [made.streams] at isOpen ⊢
    by_cases same : j = k
    · subst same
      rw [Function.update_self]
      show (c.flow.localLimits.initialMaxStreamData : Int) = streamLimit c.flow.localLimits []
      rw [streamLimit, explicitCredit_nil, max_eq_left (Nat.zero_le _)]
    · rw [Function.update_of_ne same] at isOpen ⊢
      exact tells.stream j isOpen
  · rw [made.control, made.helloSent, made.ctlIn]
    exact tells.deaf
  · rw [made.control, made.helloSent, made.closeFired]
    exact tells.greets
  · rw [made.control, made.helloSent]
    exact tells.unsaid
  · rw [made.control, made.closeFired, limits]
    exact fun closed alive => Or.inr (said closed alive)
  · rw [made.control, made.closeFired, limits, data]
    exact tells.data
  · rw [made.control, made.closeFired, limits, slots]
    exact tells.slots

/-- HELLO is sent on a control channel that opens. -/
theorem greeted (tells : Tells c) (inv : ConnInv c) (valid : c.flow.localLimits.Valid)
    (unsent : c.helloSent = false)
    (alive : c.closeFired = false) : Tells { c with
      control := { c.control with opened := true } }.greeted := by
  have sent (closed : c.control.closed = false) :
      (Channel.sendIfOpen (ControlMsg.hello wireVersion c.flow.localLimits) { c.control with
        opened := true }).sent = [.hello wireVersion c.flow.localLimits] ∧ c.ids = [] := by
    have isOpen : Channel.isOpen { c.control with
      opened := true } = true := by simp [Channel.isOpen, closed]
    rcases tells.first closed alive with ⟨-, none, empty⟩ | ⟨rest, some⟩
    · refine ⟨?_, empty⟩
      rw [Channel.sent_sendIfOpen_of_isOpen isOpen]
      show c.control.sent ++ _ = _
      rw [none, List.nil_append]
    · exact absurd (some ▸ List.mem_cons_self) (tells.unsaid unsent wireVersion c.flow.localLimits)
  have shut : ({ c with control := { c.control with opened := true } }.greeted).control.closed =
      c.control.closed :=
    Channel.closed_sendIfOpen
  have open_ : ({ c with control := { c.control with opened := true } }.greeted).control.opened =
      true :=
    Channel.opened_sendIfOpen
  have unclosed
    (isOpen : ({ c with control := { c.control with opened := true } }.greeted).control.isOpen =
      true) :
      c.control.closed = false := by
    simp only [Channel.isOpen, Bool.and_eq_true, Bool.not_eq_true'] at isOpen
    exact shut.symm.trans isOpen.2
  refine ⟨tells.fresh, tells.stream, fun unopened => ?_, fun _ _ => rfl,
    fun none => (by cases none), fun closed _ => ?_, fun isOpen _ => ?_, fun isOpen _ => ?_⟩
  · exact absurd (unopened.symm.trans open_) Bool.false_ne_true
  · exact Or.inr ⟨[], (sent (shut.symm.trans closed)).1⟩
  · obtain ⟨log, empty⟩ := sent (unclosed isOpen)
    have received := inv.ledgers.received
    rw [empty] at received
    have small := valid.data
    have limit : c.flow.localMaxData = c.flow.localLimits.initialMaxData :=
      limit_of_unreceived inv.data.window (Int.ofNat_le.mpr small) (le_of_eq received)
    refine limit.trans ?_
    show _ =
      ((dataLimit c.flow.localLimits
        (Channel.sendIfOpen (ControlMsg.hello wireVersion c.flow.localLimits)
      { c.control with opened := true }).sent : Nat) : Int)
    rw [log]
    rfl
  · obtain ⟨log, empty⟩ := sent (unclosed isOpen)
    have retired := inv.ledgers.peerRetired
    rw [empty] at retired
    have retired : c.flow.peerRetiredStreams = 0 := retired
    have small := valid.streams
    have floor := inv.slots.floor
    have granted := inv.slots.granted
    have limit : c.flow.advertisedMaxStreams = c.flow.localLimits.initialMaxStreams := by omega
    refine limit.trans ?_
    show _ =
      ((streamsLimit c.flow.localLimits
        (Channel.sendIfOpen (ControlMsg.hello wireVersion c.flow.localLimits)
      { c.control with opened := true }).sent : Nat) : Int)
    rw [log]
    rfl

/-- An end among whose messages there is a HELLO says it first. -/
theorem hello_of_said (tells : Tells c)
    (said : ∃ version limits, ControlMsg.hello version limits ∈ c.control.sent)
    (closed : c.control.closed = false) (alive : c.closeFired = false) :
    ∃ rest, c.control.sent = .hello wireVersion c.flow.localLimits :: rest := by
  refine (tells.first closed alive).resolve_left fun ⟨_, empty, _⟩ => ?_
  obtain ⟨version, limits, member⟩ := said
  rw [empty] at member
  cases member

theorem arrives (tells : Tells c) (inv : ConnInv c) (valid : c.flow.localLimits.Valid)
    (admitted : ConnInv middle)
    (arrives : Arrives c event heard middle)
    (hears : event.learned ≠ none → c.control.opened = true)
    (said : ∀ k isOpen, event = .incomingChannel k isOpen →
      ∃ version limits, ControlMsg.hello version limits ∈ c.control.sent) : Tells middle := by
  cases arrives with
  | controlOpen fresh => exact tells.greeted inv valid fresh.1 fresh.2
  | controlReopen stale =>
    have told (alive : c.closeFired = false) : c.helloSent = true :=
      stale.resolve_right fun fired => Bool.false_ne_true (alive.symm.trans fired)
    have wasOpen (isOpen : Channel.isOpen { c.control with opened := true } = true)
      (alive : c.closeFired = false) :
        c.control.isOpen = true := by
      simp only [Channel.isOpen, Bool.true_and] at isOpen ⊢
      rw [isOpen, Bool.and_true]
      by_contra unopened
      exact Bool.false_ne_true ((tells.deaf (by simpa using unopened)).1.symm.trans (told alive))
    exact ⟨tells.fresh, tells.stream, fun unopened => (by cases unopened),
      fun _ alive => told alive, tells.unsaid,
      tells.first, fun isOpen alive => tells.data (wasOpen isOpen alive) alive,
      fun isOpen alive => tells.slots (wasOpen isOpen alive) alive⟩
  | @controlMessage data message decoded =>
    have opened : c.control.opened = true := by
      refine hears ?_
      rw [Event.learned, decoded]
      exact Option.some_ne_none _
    have granted : (c.learn message).flow.localMaxData = c.flow.localMaxData ∧
        (c.learn message).flow.advertisedMaxStreams = c.flow.advertisedMaxStreams := by
      unfold ConnCore.learn ConnFlow.onPeerMaxData ConnFlow.onPeerMaxStreams
      cases message <;> dsimp only <;> repeat' split
      all_goals exact ⟨rfl, rfl⟩
    obtain ⟨flow, peerHello, learned, limits⟩ := ConnCore.learn_eq message c
    rw [learned] at granted ⊢
    obtain ⟨data, slots⟩ := granted
    refine ⟨tells.fresh, fun k isOpen => ?_, fun unopened => ?_, tells.greets, tells.unsaid,
      fun closed alive => ?_, fun isOpen alive => ?_, fun isOpen alive => ?_⟩
    · exact (tells.stream k isOpen).trans (by rw [limits])
    · exact absurd (unopened.symm.trans opened) Bool.false_ne_true
    · exact limits ▸ tells.first closed alive
    · exact data.trans ((tells.data isOpen alive).trans (by rw [limits]))
    · exact slots.trans ((tells.slots isOpen alive).trans (by rw [limits]))
  | controlClose =>
    refine ⟨tells.fresh, tells.stream, tells.deaf, tells.greets, tells.unsaid,
      fun closed => (by cases closed),
      fun isOpen => ?_, fun isOpen => ?_⟩ <;> simp [Channel.isOpen, Channel.close] at isOpen
  | incomingChannel made => exact tells.creates made (tells.hello_of_said (said _ _ rfl))
  | @openChannel op k isOpen made' made =>
    refine tells.creates made (tells.hello_first fun none => ?_)
    have own : (middle.streams k).peerInitiated = false := by
      rw [made.streams, Function.update_self]
      rfl
    have present : k ∈ middle.ids := made.ids ▸ List.mem_append_right _ List.mem_cons_self
    have unmet : middle.peerHello = .none := by
      have view : middle.view = peerView middle.ctlIn := admitted.view
      rw [made.ctlIn, none] at view
      exact congrArg PeerView.hello view
    exact admitted.met present own unmet
  | @channelOpen k present =>
    have same := KpsStream.SameHalves.settleOpen none
      { c.streams k with ch := { (c.streams k).ch with opened := true } }
    have sent := congrArg (fun ch : Channel Frame => ch.sent) same.ch
    have opened := congrArg (fun ch : Channel Frame => ch.opened) same.ch
    have closed := congrArg (fun ch : Channel Frame => ch.closed) same.ch
    exact tells.touch inv valid
      (congrArg ReadHalf.accepted (same.read c.flow.localLimits)) sent same.sf
      (fun unopened => absurd (unopened.symm.trans opened) Bool.false_ne_true) fun unclosed =>
        closed.symm.trans unclosed
  | channelClosing present =>
    exact tells.touch inv valid rfl rfl rfl id fun closed => by cases closed
  | channelClose present => exact tells.touch inv valid rfl rfl rfl id fun closed => by cases closed
  | _ => exact tells

/-- **One event keeps what an end says.** -/
theorem step (tells : Tells c) (inv : ConnInv c) (valid : c.flow.localLimits.Valid) (event : Event)
    (hears : event.learned ≠ none → c.control.opened = true)
    (open_ : ∀ k data, event = .channelMessage k data → (c.streams k).ch.opened = true)
    (said : ∀ k isOpen, event = .incomingChannel k isOpen →
      ∃ version limits, ControlMsg.hello version limits ∈ c.control.sent) :
        Tells (c.step event) := by
  obtain ⟨heard, middle, arrives, admitted, reaction⟩ := (inv.step event).split
  have arrived := tells.arrives inv valid admitted arrives hears said
  refine arrived.evolves (arrives.limits ▸ valid) reaction.step fun k some => ?_
  cases arrives with
  | @channelMessage j data frame present parsed =>
    by_cases same : k = j
    · exact same ▸ open_ j data rfl
    · exact absurd (Function.update_of_ne same _ _) some
  | _ => exact absurd rfl some

theorem new (limits : FlowLimits) (valid : limits.Valid) (controlOpen : Bool) :
    Tells (ConnCore.new limits controlOpen) := by
  have made : Tells (ConnCore.fresh limits false) := by
    exact ⟨fun k _ => rfl, fun k isOpen => (by cases isOpen), fun _ => ⟨rfl, rfl⟩,
      fun opened => (by cases opened),
      fun _ _ _ member => (by cases member), fun _ _ => Or.inl ⟨rfl, rfl, rfl⟩,
      fun isOpen => (by cases isOpen), fun isOpen => (by cases isOpen)⟩
  cases controlOpen with
  | false => exact made
  | true =>
    have greeted := made.greeted (ConnInv.fresh limits false) valid rfl rfl
    exact greeted.evolves valid (ConnSpec.checkEstablished (ConnInv.fresh limits true).greeted).step
      fun k some => absurd rfl some

end Tells

/-! ### Two linked ends -/

/-- The link, and two ends that say what they grant. -/
structure TellsInv (limits : Side → FlowLimits) (s : Sys) : Prop where
  link : LinkInv limits s
  tells : ∀ side, Tells (s.core side)

theorem TellsInv.step {limits : Side → FlowLimits} {s s' : Sys} {label : Label}
    (inv : TellsInv limits s)
    (valid : ∀ side, (limits side).Valid) (stepped : s.step label = some s') :
      TellsInv limits s' := by
  refine ⟨inv.link.step valid stepped, fun this => ?_⟩
  obtain ⟨side, event, gotControl, got, fires, rfl⟩ := Sys.step_fires stepped
  rcases Side.eq_or side this with rfl | rfl
  · dsimp only
    rw [Function.update_self]
    have ends := inv.link.ends this
    have valid' : (s.core this).flow.localLimits.Valid := ends.fixed ▸ valid this
    refine (inv.tells this).step ends.inv valid' event (fun learned => ?_)
      (fun k data same => ?_) fun k isOpen same => ?_
    · cases fires with
      | controlMessage next opened => exact opened
      | event allowed =>
        unfold Sys.allows at allowed
        rw [Bool.and_eq_true] at allowed
        refine absurd ?_ learned
        cases event <;> first | rfl | cases allowed.1
      | _ => exact absurd rfl learned
    · cases fires with
      | channelMessage next present opened unclosed =>
        cases same
        exact opened
      | event allowed =>
        subst same
        cases (Bool.and_eq_true _ _ ▸ allowed).1
      | _ => cases same
    · -- the peer could open the stream, so it has learned this end's HELLO
      cases fires with
      | incomingChannel there theirs absent =>
        cases same
        have peer := inv.link.ends this.other
        have half := inv.link.half this.other
        rw [Side.other_other] at half
        have met := peer.inv.met there theirs
        have told : (peerView (s.core this.other).ctlIn).hello ≠ none :=
          (congrArg PeerView.hello peer.inv.view) ▸ met
        obtain ⟨version, hello, member⟩ := exists_hello told
        rw [half.control] at member
        exact ⟨version, hello, List.mem_of_mem_take member⟩
      | event allowed =>
        subst same
        cases (Bool.and_eq_true _ _ ▸ allowed).1
      | _ => cases same
  · dsimp only
    rw [Function.update_of_ne (Side.other_ne side)]
    exact inv.tells _

theorem tells_run (limits : Side → FlowLimits) (valid : ∀ side, (limits side).Valid)
    (controlOpen : Side → Bool)
    {labels : List Label} {s : Sys}
    (ran : Kps.Lib.run Sys.step (Sys.new limits controlOpen) labels = some s) :
    TellsInv limits s :=
  run_invariant (fun _ _ _ inv stepped => TellsInv.step inv valid stepped)
    ⟨LinkInv.new limits controlOpen,
      fun side => Tells.new (limits side) (valid side) (controlOpen side)⟩ ran

/-! ### What the other end knows -/

/-- Who has heard all that an end said, HELLO first, knows its limits. -/
theorem le_peerView (limits : FlowLimits) (rest : List ControlMsg) :
    (peerView (.hello wireVersion limits :: rest)).hello.isSome = true ∧
      (limits.initialMaxStreamData : Int) ≤
      (peerView (.hello wireVersion limits :: rest)).streamData ∧
      (dataLimit limits (.hello wireVersion limits :: rest) : Int) ≤
        (peerView (.hello wireVersion limits :: rest)).data ∧
      (streamsLimit limits (.hello wireVersion limits :: rest) : Int) ≤
        (peerView (.hello wireVersion limits :: rest)).streams := by
  induction rest using List.reverseRecOn with
  | nil => exact ⟨rfl, le_refl _, le_refl _, le_refl _⟩
  | append_singleton rest message ih =>
    obtain ⟨known, streamData, data, streams⟩ := ih
    obtain ⟨hello, present⟩ := Option.isSome_iff_exists.mp known
    have silentData (silent : ∀ value, message ≠ .maxData value) :
        dataLimit limits (.hello wireVersion limits :: rest ++ [message]) =
          dataLimit limits (.hello wireVersion limits :: rest) :=
      dataLimit_append _ fun value member => silent value (List.mem_singleton.mp member).symm
    have silentStreams (silent : ∀ value, message ≠ .maxStreams value) :
        streamsLimit limits (.hello wireVersion limits :: rest ++ [message]) =
          streamsLimit limits (.hello wireVersion limits :: rest) :=
      streamsLimit_append _ fun value member => silent value (List.mem_singleton.mp member).symm
    rw [← List.cons_append, peerView_concat]
    cases message with
    | hello version other =>
      have skipped : (peerView (.hello wireVersion limits :: rest)).learn (.hello version other) =
          peerView (.hello wireVersion limits :: rest) := if_pos (Or.inl known)
      rw [skipped, silentData (by simp), silentStreams (by simp)]
      exact ⟨known, streamData, data, streams⟩
    | maxData value =>
      have learned : (peerView (.hello wireVersion limits :: rest)).learn (.maxData value) =
          { peerView (.hello wireVersion limits :: rest) with
            data := max (peerView (.hello wireVersion limits :: rest)).data value } :=
        if_neg (by simp [present])
      rw [learned, dataLimit_concat, silentStreams (by simp)]
      refine ⟨known, streamData, ?_, streams⟩
      dsimp only
      omega
    | maxStreams value =>
      have learned : (peerView (.hello wireVersion limits :: rest)).learn (.maxStreams value) =
          { peerView (.hello wireVersion limits :: rest) with
            streams := max (peerView (.hello wireVersion limits :: rest)).streams value } :=
        if_neg (by simp [present])
      rw [learned, streamsLimit_concat, silentData (by simp)]
      refine ⟨known, streamData, data, ?_⟩
      dsimp only
      omega
    | close code =>
      rw [silentData (by simp), silentStreams (by simp)]
      exact ⟨known, streamData, data, streams⟩

/-- Nothing of what `side` sent is on its way, and nothing of what the other end said of its
credit. -/
structure Settled (s : Sys) (side : Side) : Prop where
  control : s.gotControl side = (s.core side.other).control.sent.length
  frames : ∀ k ∈ (s.core side).ids, s.got side.other k = ((s.core side).streams k).ch.sent.length

/-- All that was received on the connection is consumed, and a window more stays below the largest
offset. -/
structure ConnCore.Drained (c : ConnCore) : Prop where
  consumed : c.flow.connConsumed = c.flow.connReceived
  below : c.flow.connReceived + c.flow.localLimits.initialMaxData ≤ maxOffset

/-- The same of a stream that is not cancelled. -/
structure KpsStream.Drained (limits : FlowLimits) (s : KpsStream) : Prop where
  isOpen : s.ch.isOpen = true
  uncancelled : s.sf.cancelled = false
  consumed : s.sf.consumed = s.sf.received
  below : s.sf.received + limits.initialMaxStreamData ≤ maxOffset

/-- The streams that `c` opened have retired at `peer`. -/
structure Retired (c peer : ConnCore) : Prop where
  retired : ∀ k ∈ c.ids, (c.streams k).peerInitiated = false →
    k ∈ peer.ids ∧ (peer.streams k).peerInitiated = true ∧ (peer.streams k).retiredFired = true
  below : c.flow.streamsOpened + peer.flow.localLimits.initialMaxStreams ≤ maxOffset

/-- What the writer `c` is left with by the reader `peer`, where all that the reader said on the
streams that are `told` has arrived. -/
structure Returned (c peer : ConnCore) (told : Nat → Prop) : Prop where
  data : peer.Drained → c.flow.connSent + 1 ≤ c.flow.peerMaxData
  streamData : ∀ k, told k → (peer.streams k).Drained peer.flow.localLimits →
    (c.streams k).sf.sendSent + 1 ≤
      max (c.streams k).sf.peerMaxExplicit c.flow.peerMaxStreamDataInitial
  streams : Retired c peer → c.flow.streamsOpened + 1 ≤ c.flow.peerMaxStreams
  /-- A write that waits for credit is woken, unless another holds what there is. -/
  writer : ∀ k chunk off ticket, (c.streams k).writable.call = some ⟨chunk, off, .credit ticket⟩ →
    c.flow.connReserved = 0 → peer.Drained → told k →
    (peer.streams k).Drained peer.flow.localLimits → c.flow.credit.resolved ticket = true
  /-- So is an `openStream` that waits for a slot. -/
  opener : ∀ call ∈ c.opens, ∀ ticket, call.pc = .reserving ticket → c.flow.streamsReserved = 0 →
    Retired c peer → c.flow.credit.resolved ticket = true

section Returned

variable {limits limits' : FlowLimits} {c peer : ConnCore} {gotControl gotControl' : Nat}
    {got got' : Nat → Nat}

/-- What a stream has reserved is reserved on the connection. -/
theorem EndInv.reserved_le (ends : EndInv limits c) (k : Nat) :
    (c.streams k).sf.sendReserved ≤ c.flow.connReserved := by
  have nonneg (j : Nat) : 0 ≤ (c.streams j).sf.sendReserved := by
    have same : (c.streams j).sf.sendReserved = held (c.streams j).progress :=
      (ends.inv.stream j).write.reserved
    rw [same]
    exact Int.natCast_nonneg _
  rw [ends.inv.ledgers.reserved]
  by_cases present : k ∈ c.ids
  · rw [total_erase present]
    exact le_add_of_nonneg_right (total_nonneg fun j _ => nonneg j)
  · rw [ends.inv.registry.blank k present]
    exact total_nonneg fun j _ => nonneg j

/-- All that was sent was received. -/
theorem HalfInv.sent_eq (back : HalfInv peer c gotControl' got') (ends : EndInv limits c)
    (peerEnds : EndInv limits' peer)
    (frames : ∀ k, got' k = (c.streams k).ch.sent.length) (k : Nat) :
    (c.streams k).sf.sendSent = (peer.streams k).sf.received := by
  have accepted := back.frames k
  rw [frames k, List.take_length] at accepted
  rw [HalfInv.sendSent_eq ends, HalfInv.received_eq peerEnds, accepted]

theorem HalfInv.connSent_le (back : HalfInv peer c gotControl' got') (ends : EndInv limits c)
    (peerEnds : EndInv limits' peer) (frames : ∀ k, got' k = (c.streams k).ch.sent.length) :
    c.flow.connSent ≤ peer.flow.connReceived := by
  rw [ends.inv.ledgers.sent, peerEnds.inv.ledgers.received]
  refine total_le_total ends.inv.registry.nodup peerEnds.inv.registry.nodup (fun k _ => ?_)
    (fun k _ _ => ?_)
    fun k _ absent => ?_
  · rw [HalfInv.received_eq peerEnds]
    exact Int.natCast_nonneg _
  · exact le_of_eq (back.sent_eq ends peerEnds frames k)
  · refine (back.sent_eq ends peerEnds frames k).trans_le ?_
    rw [peerEnds.inv.registry.blank k absent]
    exact le_refl _

/-- The streams that `c` opened are no more than those that have retired. -/
theorem Retired.opened_le (retired : Retired c peer) (ends : EndInv limits c)
    (peerEnds : EndInv limits' peer) :
    c.flow.streamsOpened ≤ peer.flow.peerRetiredStreams := by
  have nonneg (s : KpsStream) : 0 ≤ retiredWeight s := by
    unfold retiredWeight
    split <;> decide
  have theirs {s : KpsStream} (initiated : s.peerInitiated = true) : ownWeight s = 0 := by
    rw [ownWeight, initiated]
    rfl
  rw [ends.inv.ledgers.opened, peerEnds.inv.ledgers.peerRetired]
  refine total_le_total ends.inv.registry.nodup peerEnds.inv.registry.nodup (fun k _ => nonneg _)
    (fun k member _ => ?_)
    fun k member absent => ?_
  · cases own : (c.streams k).peerInitiated with
    | true => exact (theirs own).trans_le (nonneg _)
    | false =>
      obtain ⟨-, initiated, fired⟩ := retired.retired k member own
      rw [ownWeight, own, retiredWeight, initiated, fired]
      exact le_refl _
  · cases own : (c.streams k).peerInitiated with
    | true => exact le_of_eq (theirs own)
    | false => exact absurd (retired.retired k member own).1 absent

theorem HalfInv.returned (half : HalfInv c peer gotControl got)
    (back : HalfInv peer c gotControl' got')
    (ends : EndInv limits c) (peerEnds : EndInv limits' peer) (tells : Tells peer)
    (valid : limits'.Valid)
    (positive : 1 ≤ limits'.initialMaxStreamData ∧ 1 ≤ limits'.initialMaxData ∧
      1 ≤ limits'.initialMaxStreams)
    (alive : peer.closeFired = false) (isOpen : peer.control.isOpen = true)
    (met : c.peerHello.isSome = true)
    (control : gotControl = peer.control.sent.length)
    (frames : ∀ k, got' k = (c.streams k).ch.sent.length) :
    Returned c peer fun k => got k = (peer.streams k).ch.sent.length := by
  have heard : c.ctlIn = peer.control.sent := by rw [half.control, control, List.take_length]
  have closed : peer.control.closed = false := by
    simp only [Channel.isOpen, Bool.and_eq_true, Bool.not_eq_true'] at isOpen
    exact isOpen.2
  have view : c.view = peerView peer.control.sent := ends.inv.view.trans (by rw [heard])
  have known : (peerView peer.control.sent).hello ≠ none := by
    rw [← view]
    exact Option.isSome_iff_ne_none.mp met
  obtain ⟨rest, sent⟩ := tells.hello_of_said (exists_hello known) closed alive
  obtain ⟨-, streamData, data, streams⟩ := le_peerView peer.flow.localLimits rest
  rw [← sent, ← view] at streamData data streams
  obtain ⟨somePer, some, slots⟩ := positive
  have fixed := peerEnds.fixed
  have connection (drained : peer.Drained) : c.flow.connSent + 1 ≤ c.flow.peerMaxData := by
    have small : peer.flow.window.size ≤ maxOffset := Int.ofNat_le.mpr (fixed ▸ valid.data)
    have size : 1 ≤ peer.flow.window.size := Int.ofNat_le.mpr (fixed ▸ some)
    have room : peer.flow.connReceived + 1 ≤ peer.flow.localMaxData :=
      (peerEnds.inv.data.batched small).room size drained.consumed drained.below
        peerEnds.inv.data.window.valid
    have granted := tells.data isOpen alive
    have all := back.connSent_le ends peerEnds frames
    change _ ≤ c.flow.peerMaxData at data
    omega
  have onStream (k : Nat) (told : got k = (peer.streams k).ch.sent.length)
      (drained : (peer.streams k).Drained peer.flow.localLimits) :
      (c.streams k).sf.sendSent + 1 ≤
        max (c.streams k).sf.peerMaxExplicit c.flow.peerMaxStreamDataInitial := by
    have read := (peerEnds.inv.stream k).read
    have small : ((peer.streams k).sf.window peer.flow.localLimits).size ≤ maxOffset :=
      Int.ofNat_le.mpr (fixed ▸ valid.streamData)
    have size : 1 ≤ ((peer.streams k).sf.window peer.flow.localLimits).size :=
      Int.ofNat_le.mpr (fixed ▸ somePer)
    have room : (peer.streams k).sf.received + 1 ≤ (peer.streams k).sf.localMaxStreamData :=
      (read.batched small drained.uncancelled).room size drained.consumed drained.below
        read.window.valid
    have granted := tells.stream k drained.isOpen
    have all := back.sent_eq ends peerEnds frames k
    have learned : (c.streams k).sf.peerMaxExplicit = explicitCredit (peer.streams k).ch.sent := by
      rw [(ends.inv.stream k).explicit, half.frames k, told, List.take_length]
    change _ ≤ c.flow.peerMaxStreamDataInitial at streamData
    rw [learned]
    unfold streamLimit at granted
    omega
  have slot (retired : Retired c peer) : c.flow.streamsOpened + 1 ≤ c.flow.peerMaxStreams := by
    have granted := tells.slots isOpen alive
    have floor := peerEnds.inv.slots.floor
    have below := retired.below
    have all := retired.opened_le ends peerEnds
    rw [fixed] at floor below
    change _ ≤ c.flow.peerMaxStreams at streams
    omega
  refine ⟨connection, onStream, slot, fun k chunk off ticket waits free drained told read => ?_,
    fun call member ticket waits free retired => ?_⟩
  · have reserved : (c.streams k).sf.sendReserved ≤ 0 := by
      rw [← free]
      exact ends.reserved_le k
    by_contra asleep
    obtain ⟨-, -, parked⟩ := (ends.inv.stream k).parked chunk off ticket waits
    obtain ⟨-, -, full⟩ := parked (by simpa using asleep)
    have room := connection drained
    have roomThere := onStream k told read
    unfold ConnFlow.streamRoom ConnFlow.connRoom at full
    rw [ConnFlow.peerMaxStreamData_eq] at full
    omega
  · by_contra asleep
    obtain ⟨-, full⟩ := (ends.inv.parked call member ticket waits).2 (by simpa using asleep)
    have room := slot retired
    omega

end Returned

/-- **Credit comes back**, in every run of two linked engines: when nothing is on its way to either,
a reader that has consumed what it received leaves the writer credit, and one whose peer's streams
have retired leaves it a slot. -/
theorem credit_returns (limits : Side → FlowLimits) (valid : ∀ side, (limits side).Valid)
    (positive : ∀ side, 1 ≤ (limits side).initialMaxStreamData ∧ 1 ≤ (limits side).initialMaxData ∧
      1 ≤ (limits side).initialMaxStreams) (controlOpen : Side → Bool) (labels : List Label)
        (s : Sys)
    (ran : Kps.Lib.run Sys.step (Sys.new limits controlOpen) labels = some s) (side : Side)
    (alive : (s.core side.other).closeFired = false)
    (isOpen : (s.core side.other).control.isOpen = true)
    (met : (s.core side).peerHello.isSome = true) (settled : Settled s side) :
    Returned (s.core side) (s.core side.other) fun k =>
      s.got side k = ((s.core side.other).streams k).ch.sent.length := by
  have inv := tells_run limits valid controlOpen ran
  have ends := inv.link.ends side
  have back := inv.link.half side.other
  rw [Side.other_other] at back
  refine (inv.link.half side).returned back ends (inv.link.ends side.other) (inv.tells side.other)
    (valid _) (positive _)
    alive isOpen met settled.control fun k => ?_
  by_cases present : k ∈ (s.core side).ids
  · exact settled.frames k present
  · have none := back.framesGot k
    rw [ends.inv.registry.blank k present] at none ⊢
    exact Nat.le_zero.mp none

/-- A write of five bytes on a window of four: what the window holds is read, and the grants have
arrived. -/
def grantArrives : List Label :=
  [.controlMessage .left, .controlMessage .right, .event .left (.openStream false),
    .event .left (.openStreamResume 0 (.ok 7) true), .incomingChannel .right 7,
    .event .left (.write 7 [1, 2, 3, 4, 5]), .event .left (.writeResume 7),
    .event .left (.writeResume 7),
    .channelMessage .right 7, .event .right (.read 7), .channelMessage .left 7,
    .controlMessage .left]

theorem credit_returns_grantArrives : ∃ s,
    Kps.Lib.run Sys.step (Sys.new (fun _ => ⟨4, 8, 1⟩) fun _ => true) grantArrives = some s ∧
      (s.core .left).flow.connSent + 1 ≤ (s.core .left).flow.peerMaxData ∧
      Returned (s.core .left) (s.core .right) fun k => s.got .left k =
        ((s.core .right).streams k).ch.sent.length := by
  have still : (Kps.Lib.run Sys.step (Sys.new (fun _ => ⟨4, 8, 1⟩) fun _ => true) grantArrives).any
    (fun s : Sys =>
      decide (
      ((s.core .right).closeFired = false ∧ (s.core .right).control.isOpen = true ∧
        (s.core .left).peerHello.isSome = true) ∧
      (s.gotControl .left = (s.core .right).control.sent.length ∧
        ∀ k ∈ (s.core .left).ids, s.got .right k = ((s.core .left).streams k).ch.sent.length) ∧
      (s.core .right).flow.connConsumed = (s.core .right).flow.connReceived ∧
      (s.core .right).flow.connReceived + (s.core .right).flow.localLimits.initialMaxData ≤
        maxOffset)) = true := by
    decide +kernel
  obtain ⟨s, ran, facts⟩ := (Option.any_eq_true _ _).mp still
  obtain ⟨⟨alive, isOpen, met⟩, ⟨control, frames⟩, consumed, below⟩ := of_decide_eq_true facts
  have returned :=
    credit_returns _ (fun _ => by decide) (fun _ => by decide) _ _ s ran .left alive isOpen met
    ⟨control, frames⟩
  exact ⟨s, ran, returned.data ⟨consumed, below⟩, returned⟩

end Kps.Ts
