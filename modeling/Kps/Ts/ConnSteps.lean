/-
**Every event keeps the invariant of a connection.**

* `ConnInv.ctx`, `ConnInv.put` — a stream is taken out with the connection's credit and put back;
* `ConnSpec` — an operation leads to the invariant, and the end evolves;
* `teardown_spec`, `fatal_spec`, `maybeRetire_spec`, … — one lemma for each operation of the engine;
* `ConnInv.step` — and so does every event.
-/

import Kps.Ts.ConnInvariant

namespace Kps.Ts

open Kps.Lib

/-! ### Credit for streams -/

/-- What retiring a peer's stream does to the stream counts. -/
structure SlotReturned (f f' : ConnFlow) (control control' : Channel ControlMsg) : Prop where
  slots : SlotInv f' control'
  opened : control'.opened = control.opened
  closed : control'.closed = control.closed
  sent : ∃ extra, control'.sent = control.sent ++ extra ∧
    ∀ message ∈ extra, ∃ value ≤ maxOffset, message = .maxStreams value
  exact : control.isOpen = true → f.localLimits.initialMaxStreams ≤ maxOffset →
    f.advertisedMaxStreams = streamsLimit f.localLimits control.sent →
    f'.advertisedMaxStreams = streamsLimit f.localLimits control'.sent

theorem SlotReturned.of_retired {f : ConnFlow} {control : Channel ControlMsg}
    (inv : SlotInv f control) :
    SlotReturned f f.peerStreamRetired control
      (control.sendIfOpen (.maxStreams (asUint64 f.peerStreamRetired.advertisedMaxStreams))) := by
  obtain ⟨within, unretired, granted, retired, floor, capped, adverts⟩ := inv
  have formula : f.peerStreamRetired.advertisedMaxStreams =
      min (f.localLimits.initialMaxStreams + (f.peerRetiredStreams + 1)) maxOffset :=
    saturate_eq_min _
  have ceiling : (0 : Int) ≤ maxOffset := by decide
  have value : (asUint64 f.peerStreamRetired.advertisedMaxStreams : Int) =
      f.peerStreamRetired.advertisedMaxStreams := asUint64_eq (by omega) (by omega)
  have small : asUint64 f.peerStreamRetired.advertisedMaxStreams ≤ maxOffset := by omega
  refine {
    slots := ⟨within, ?_, ?_, ?_, ?_, ?_, ?_⟩
    opened := Channel.opened_sendIfOpen
    closed := Channel.closed_sendIfOpen
    sent := ?_
    exact := ?_ }
  · show f.peerOpenedStreams ≤ f.localLimits.initialMaxStreams + (f.peerRetiredStreams + 1)
    omega
  · show f.peerStreamRetired.advertisedMaxStreams ≤
      f.localLimits.initialMaxStreams + (f.peerRetiredStreams + 1)
    omega
  · show 0 ≤ f.peerRetiredStreams + 1
    omega
  · exact le_of_eq formula.symm
  · exact fun _ => by omega
  · intro v member
    rw [Channel.sent_sendIfOpen] at member
    split at member
    · rcases List.mem_append.mp member with before | here
      · have := adverts v before
        omega
      · have := ControlMsg.maxStreams.inj (List.mem_singleton.mp here)
        omega
    · have := adverts v member
      omega
  · rw [Channel.sent_sendIfOpen]
    split
    · exact ⟨[.maxStreams _], rfl, fun message member => ⟨_, small, List.mem_singleton.mp member⟩⟩
    · exact ⟨[], by simp⟩
  · intro isOpen fits here
    have := capped fits
    rw [Channel.sent_sendIfOpen_of_isOpen isOpen, streamsLimit_concat]
    omega

/-! ### One stream of a connection -/

theorem StreamInv.onFlow {f f' : ConnFlow} {progress : Option Progress} {pending : Int}
    {s : KpsStream} (inv : StreamInv f progress pending s) (limits : f'.localLimits = f.localLimits)
    (initial : f.peerMaxStreamDataInitial ≤ f'.peerMaxStreamDataInitial) (parked : Parked f' s) :
    StreamInv f' progress pending s := by
  have write : WriteInv progress (s.writeHalf f'.peerMaxStreamDataInitial) :=
    { inv.write with
      within := by
        have within := inv.write.within
        change s.sf.sendSent + s.sf.sendReserved ≤
          max s.sf.peerMaxExplicit f.peerMaxStreamDataInitial at within
        change s.sf.sendSent + s.sf.sendReserved ≤
          max s.sf.peerMaxExplicit f'.peerMaxStreamDataInitial
        omega
      handed := inv.write.handed.congr rfl }
  exact ⟨limits ▸ inv.read, write, inv.adverts, inv.explicit, parked⟩

theorem ledger_update {keys : List Nat} (nodup : keys.Nodup) {k : Nat} (present : k ∈ keys)
    {weight : KpsStream → Int} {store : Nat → KpsStream} {s : KpsStream} {before after : Int}
    (moved : after - before = weight s - weight (store k))
    (sum : before = total keys weight store) :
    after = total keys weight (Function.update store k s) := by
  rw [total_update_of_mem nodup present, ← sum]
  omega

/-- Waking leaves no opener parked. -/
theorem OpenersParked.wake {f f' : ConnFlow} {opens : List OpenCall}
    (parked : OpenersParked f opens)
    (woken : f'.credit = f.credit.wake := by rfl) : OpenersParked f' opens := by
  intro call member ticket waiting
  obtain ⟨early, -⟩ := parked call member ticket waiting
  rw [woken, Wakeable.resolved_wake early]
  exact ⟨Nat.le_succ_of_le early, fun unresolved => by cases unresolved⟩

namespace ConnInv

variable {c : ConnCore} {k : Nat} {frames : List Frame} {x : StreamCtx}

theorem outstanding_nonneg (inv : ConnInv c) (k : Nat) :
    0 ≤ (c.streams k).sf.received - (c.streams k).sf.consumed := by
  have taken := (inv.stream k).read.window.valid.taken
  change (c.streams k).sf.consumed ≤ (c.streams k).sf.received at taken
  omega

/-- A stream with the connection's credit satisfies the invariant of its methods. -/
theorem ctx (inv : ConnInv c) (present : k ∈ c.ids) : (c.ctx k).Inv := by
  refine ⟨inv.stream k, inv.data, ?_⟩
  show (c.streams k).sf.received - (c.streams k).sf.consumed ≤
    c.flow.connReceived - c.flow.connConsumed
  rw [inv.ledgers.received, inv.ledgers.consumed, ← total_sub]
  exact weight_le_total (fun s : KpsStream => s.sf.received - s.sf.consumed)
    (fun other _ => inv.outstanding_nonneg other) present

/-- The step of a stream's method, seen by another stream. -/
theorem other (inv : ConnInv c) (step : CtxStep frames (c.ctx k) x) (j : Nat) :
    StreamInv x.flow (c.streams j).progress 0 (c.streams j) := by
  refine (inv.stream j).onFlow step.same.localLimits
    (le_of_eq step.same.peerMaxStreamDataInitial.symm) ?_
  refine (inv.stream j).parked.of_unwoken rfl step.wakes step.same.failure fun unwoken => ?_
  refine ⟨(step.unwoken unwoken).1, le_of_eq ?_, rfl⟩
  unfold ConnFlow.streamRoom
  rw [ConnFlow.peerMaxStreamData_eq, ConnFlow.peerMaxStreamData_eq,
    step.same.peerMaxStreamDataInitial]
  rfl

/-- Putting a stream back after one of its methods keeps the invariant. -/
theorem put (inv : ConnInv c) (present : k ∈ c.ids)
    (spec : CtxSpec frames x.s.progress 0 (c.ctx k) x) : ConnInv (c.put k x) := by
  obtain ⟨xinv, step⟩ := spec
  obtain ⟨sent, reserved, received, consumed, opened, slots, peerOpened, peerRetired⟩ := inv.ledgers
  have nodup := inv.registry.nodup
  have initiated : x.s.peerInitiated = (c.streams k).peerInitiated := step.initiated
  have retired : x.s.retiredFired = (c.streams k).retiredFired := step.retiredFired
  have fields := step.same
  unfold ConnFlow.SameBut at fields
  refine ⟨⟨nodup, ?_, inv.registry.live, inv.registry.staged, inv.registry.opening⟩,
    ⟨?_, ?_, ?_, ?_, ?_, ?_, ?_, ?_⟩, ?_, xinv.data, ?_, ?_, ?_⟩
  · intro j absent
    have different : j ≠ k := fun same => absent (same ▸ present)
    show Function.update c.streams k x.s j = _
    rw [Function.update_of_ne different, inv.registry.blank j absent]
    have limits : x.flow.localLimits = c.flow.localLimits := step.same.localLimits
    rw [← limits]
    rfl
  · exact ledger_update nodup present step.connSent sent
  · exact ledger_update nodup present step.connReserved reserved
  · exact ledger_update nodup present step.connReceived received
  · exact ledger_update nodup present step.connConsumed consumed
  · refine ledger_update nodup present ?_ opened
    show x.flow.streamsOpened - c.flow.streamsOpened = _
    rw [fields, ownWeight, ownWeight, initiated]
    exact (sub_self _).trans (sub_self _).symm
  · show x.flow.streamsReserved = _
    rw [fields]
    exact slots
  · refine ledger_update nodup present ?_ peerOpened
    show x.flow.peerOpenedStreams - c.flow.peerOpenedStreams = _
    rw [fields, peerWeight, peerWeight, initiated]
    exact (sub_self _).trans (sub_self _).symm
  · refine ledger_update nodup present ?_ peerRetired
    show x.flow.peerRetiredStreams - c.flow.peerRetiredStreams = _
    rw [fields, retiredWeight, retiredWeight, initiated, retired]
    exact (sub_self _).trans (sub_self _).symm
  · intro j
    by_cases here : j = k
    · subst here
      show StreamInv x.flow (Function.update c.streams j x.s j).progress 0
        (Function.update c.streams j x.s j)
      rw [Function.update_self]
      exact xinv.stream
    · show StreamInv x.flow (Function.update c.streams k x.s j).progress 0
        (Function.update c.streams k x.s j)
      rw [Function.update_of_ne here]
      exact inv.other step j
  · obtain ⟨within, unretired, granted, retired, floor, capped, adverts⟩ := inv.slots
    show SlotInv x.flow x.control
    obtain ⟨extra, log, credit⟩ := step.control
    have old : ∀ value, ControlMsg.maxStreams value ∈ x.control.sent →
        ControlMsg.maxStreams value ∈ c.control.sent := by
      intro value member
      rw [log] at member
      rcases List.mem_append.mp member with before | here
      · exact before
      · obtain ⟨_, _, same⟩ := credit _ here
        cases same
    rw [fields]
    exact ⟨within, unretired, granted, retired, floor, capped,
      fun value member => adverts value (old value member)⟩
  · intro call member ticket waiting
    obtain ⟨early, blocked⟩ := inv.parked call member ticket waiting
    have wakes : c.flow.credit.wakes ≤ x.flow.credit.wakes := step.wakes
    refine ⟨le_trans early wakes, fun unresolved => ?_⟩
    have late : ¬ ticket < x.flow.credit.wakes := of_decide_eq_false unresolved
    show x.flow.failure = none ∧
      x.flow.peerMaxStreams ≤ x.flow.streamsOpened + x.flow.streamsReserved
    rw [fields]
    exact blocked (decide_eq_false (by omega))
  · show (⟨c.peerHello, x.flow.peerMaxStreamDataInitial, x.flow.peerMaxData,
      x.flow.peerMaxStreams⟩ : PeerView) = _
    rw [fields]
    exact inv.view

/-- The two ends of a stream agree on whether it is wire-complete, whatever else it does. -/
theorem wireComplete_of {f f' : ConnFlow} {s s' : KpsStream} {progress progress' : Option Progress}
    {pending pending' : Int} (inv : StreamInv f progress pending s)
    (inv' : StreamInv f' progress' pending' s') (accepted : s'.accepted = s.accepted ++ frames)
    (ended : s.localTerminal.isSome = true → s'.localTerminal.isSome = true)
    (complete : s.wireComplete = true) : s'.wireComplete = true := by
  have fin : s.peerFin = hasFin s.accepted := inv.read.fin
  have fin' : s'.peerFin = hasFin s'.accepted := inv'.read.fin
  have reset : s.peerReset.isSome = hasReset s.accepted := inv.read.reset
  have reset' : s'.peerReset.isSome = hasReset s'.accepted := inv'.read.reset
  simp only [KpsStream.wireComplete, Bool.and_eq_true, Bool.or_eq_true] at complete ⊢
  refine ⟨ended complete.1, ?_⟩
  rw [fin', reset', accepted, hasFin_append, hasReset_append, Bool.or_eq_true, Bool.or_eq_true]
  rw [fin, reset] at complete
  exact complete.2.imp Or.inl Or.inl

/-- An update of one stream that touches neither half. -/
theorem touch {s : KpsStream} (inv : ConnInv c) (present : k ∈ c.ids)
    (read : ∀ limits, s.readHalf limits = (c.streams k).readHalf limits)
    (write : ∀ initial, s.writeHalf initial = (c.streams k).writeHalf initial)
    (sf : s.sf = (c.streams k).sf) (writable : s.writable = (c.streams k).writable)
    (initiated : s.peerInitiated = (c.streams k).peerInitiated)
    (retiredFired : s.retiredFired = (c.streams k).retiredFired) :
    ConnInv { c with streams := Function.update c.streams k s } := by
  obtain ⟨sent, reserved, received, consumed, opened, slots, peerOpened, peerRetired⟩ := inv.ledgers
  have nodup := inv.registry.nodup
  have ledger (weight : KpsStream → Int) (same : weight s = weight (c.streams k)) :
      total c.ids weight (Function.update c.streams k s) = total c.ids weight c.streams := by
    rw [total_update_of_mem nodup present, same, sub_self, add_zero]
  refine ⟨⟨nodup, ?_, inv.registry.live, inv.registry.staged, inv.registry.opening⟩,
    ⟨?_, ?_, ?_, ?_, ?_, slots, ?_, ?_⟩, ?_, inv.data, inv.slots, inv.parked, inv.view⟩
  · intro j absent
    have different : j ≠ k := fun same => absent (same ▸ present)
    show Function.update c.streams k s j = _
    rw [Function.update_of_ne different]
    exact inv.registry.blank j absent
  · exact sent.trans (ledger _ (by rw [sf])).symm
  · exact reserved.trans (ledger _ (by rw [sf])).symm
  · exact received.trans (ledger _ (by rw [sf])).symm
  · exact consumed.trans (ledger _ (by rw [sf])).symm
  · exact opened.trans (ledger _ (by rw [ownWeight, ownWeight, initiated])).symm
  · exact peerOpened.trans (ledger _ (by rw [peerWeight, peerWeight, initiated])).symm
  · exact peerRetired.trans
      (ledger _ (by rw [retiredWeight, retiredWeight, initiated, retiredFired])).symm
  · intro j
    show StreamInv c.flow (Function.update c.streams k s j).progress 0
      (Function.update c.streams k s j)
    by_cases here : j = k
    · subst here
      rw [Function.update_self]
      obtain ⟨readInv, writeInv, adverts, explicit, parked⟩ := inv.stream j
      have progress : s.progress = (c.streams j).progress := by
        rw [KpsStream.progress, writable]
        rfl
      have log : s.ch.sent = (c.streams j).ch.sent := congrArg WriteHalf.sent (write 0)
      have accepted : s.accepted = (c.streams j).accepted :=
        congrArg ReadHalf.accepted (read c.flow.localLimits)
      refine ⟨(read _).symm ▸ readInv, ?_, ?_, ?_, ?_⟩
      · rw [progress, write]
        exact writeInv
      · rwa [log, sf]
      · rwa [sf, accepted]
      · simpa only [Parked, writable, sf] using parked
    · rw [Function.update_of_ne here]
      exact inv.stream j

/-- New limits from the peer, if they are not below the old ones and whoever waits is woken. -/
theorem grant {f : ConnFlow} {hello : Option FlowLimits} {ctlIn : List ControlMsg} (inv : ConnInv c)
    (fields : f = { c.flow.wake with
      peerMaxStreamDataInitial := f.peerMaxStreamDataInitial
      peerMaxData := f.peerMaxData
      peerMaxStreams := f.peerMaxStreams })
    (initial : c.flow.peerMaxStreamDataInitial ≤ f.peerMaxStreamDataInitial)
    (data : c.flow.peerMaxData ≤ f.peerMaxData) (streams : c.flow.peerMaxStreams ≤ f.peerMaxStreams)
    (view : ⟨hello, f.peerMaxStreamDataInitial, f.peerMaxData, f.peerMaxStreams⟩ =
      peerView ctlIn) :
    ConnInv { c with flow := f, peerHello := hello, ctlIn } := by
  obtain ⟨registry, ledgers, stream, dataInv, slots, parked, -⟩ := inv
  generalize f.peerMaxStreamDataInitial = newInitial at fields initial view
  generalize f.peerMaxData = newData at fields data view
  generalize f.peerMaxStreams = newStreams at fields streams view
  subst fields
  exact ⟨⟨registry.nodup, registry.blank, registry.live, registry.staged, registry.opening⟩,
    ⟨ledgers.sent, ledgers.reserved, ledgers.received, ledgers.consumed, ledgers.opened,
      ledgers.slots, ledgers.peerOpened, ledgers.peerRetired⟩,
    fun k => (stream k).onFlow rfl initial (stream k).parked.wake,
    ⟨dataInv.window, dataInv.batched, le_trans dataInv.within data, dataInv.adverts⟩,
    ⟨le_trans slots.within streams, slots.unretired, slots.granted, slots.retired, slots.floor,
      slots.capped, slots.adverts⟩, parked.wake, view⟩

/-- A control message that teaches nothing. -/
theorem record {ctlIn : List ControlMsg} (inv : ConnInv c) (view : c.view = peerView ctlIn) :
    ConnInv { c with ctlIn } := by
  obtain ⟨registry, ledgers, stream, data, slots, parked, -⟩ := inv
  exact ⟨⟨registry.nodup, registry.blank, registry.live, registry.staged, registry.opening⟩,
    ⟨ledgers.sent, ledgers.reserved, ledgers.received, ledgers.consumed, ledgers.opened,
      ledgers.slots, ledgers.peerOpened, ledgers.peerRetired⟩, stream, data, slots, parked, view⟩

theorem learn (inv : ConnInv c) (message : ControlMsg) : ConnInv (c.learn message) := by
  have view := inv.view
  have hello : (peerView c.ctlIn).hello = c.peerHello := by rw [← view]; rfl
  have after : peerView (c.ctlIn ++ [message]) = c.view.learn message := by
    rw [peerView_concat, view]
  cases message with
  | close code => exact inv.record (by rw [after]; rfl)
  | hello version limits =>
    unfold ConnCore.learn
    dsimp only
    split
    · next known =>
      refine inv.record ?_
      rw [after]
      exact (if_pos known).symm
    · next fresh =>
      have none : c.peerHello = none := by
        cases same : c.peerHello with
        | none => rfl
        | some limits => simp [same] at fresh
      have zero := peerView_of_none (hello.trans none)
      rw [← view] at zero
      have initial : c.flow.peerMaxStreamDataInitial = 0 := congrArg PeerView.streamData zero
      have data : c.flow.peerMaxData = 0 := congrArg PeerView.data zero
      have streams : c.flow.peerMaxStreams = 0 := congrArg PeerView.streams zero
      refine inv.grant rfl ?_ ?_ ?_ ?_
      · show c.flow.peerMaxStreamDataInitial ≤ (limits.initialMaxStreamData : Int)
        omega
      · show c.flow.peerMaxData ≤ (limits.initialMaxData : Int)
        omega
      · show c.flow.peerMaxStreams ≤ (limits.initialMaxStreams : Int)
        omega
      · rw [after]
        exact (if_neg fresh).symm
  | maxData value =>
    unfold ConnCore.learn
    dsimp only
    split
    · next none =>
      refine inv.record ?_
      rw [after]
      exact (if_pos none).symm
    · next known =>
      have learned : c.view.learn (.maxData value) =
        { c.view with data := max c.view.data value } := if_neg known
      unfold ConnFlow.onPeerMaxData
      split
      · next raised =>
        refine inv.grant rfl (le_refl _) (le_of_lt raised) (le_refl _) ?_
        rw [after, learned]
        show _ = (⟨c.peerHello, _, max c.flow.peerMaxData value, _⟩ : PeerView)
        rw [max_eq_right (le_of_lt raised)]
        rfl
      · next ignored =>
        refine inv.record ?_
        rw [after, learned]
        show _ = (⟨c.peerHello, _, max c.flow.peerMaxData value, _⟩ : PeerView)
        rw [max_eq_left (not_lt.mp ignored)]
        rfl
  | maxStreams value =>
    unfold ConnCore.learn
    dsimp only
    split
    · next none =>
      refine inv.record ?_
      rw [after]
      exact (if_pos none).symm
    · next known =>
      have learned : c.view.learn (.maxStreams value) =
        { c.view with streams := max c.view.streams value } := if_neg known
      unfold ConnFlow.onPeerMaxStreams
      split
      · next raised =>
        refine inv.grant rfl (le_refl _) (le_refl _) (le_of_lt raised) ?_
        rw [after, learned]
        show _ = (⟨c.peerHello, _, _, max c.flow.peerMaxStreams value⟩ : PeerView)
        rw [max_eq_right (le_of_lt raised)]
        rfl
      · next ignored =>
        refine inv.record ?_
        rw [after, learned]
        show _ = (⟨c.peerHello, _, _, max c.flow.peerMaxStreams value⟩ : PeerView)
        rw [max_eq_left (not_lt.mp ignored)]
        rfl

/-- What putting a stream back does to the end. -/
theorem put_evolves (inv : ConnInv c) (present : k ∈ c.ids)
    (spec : CtxSpec frames x.s.progress 0 (c.ctx k) x) (reads : (c.streams k).Reads x.s) :
    Evolves (Function.update silence k frames) c (c.put k x) := by
  obtain ⟨xinv, step⟩ := spec
  have limits : x.flow.localLimits = c.flow.localLimits := step.same.localLimits
  have stream : (c.streams k).Evolves c.flow.localLimits frames x.s := {
    initiated := step.initiated
    accepted := step.accepted
    sent := step.sent
    opened := step.opened
    closed := fun shut => step.closed.trans shut
    retiring := fun shut => Or.inl (step.closed.symm.trans shut)
    wireComplete := wireComplete_of (inv.stream k) xinv.stream step.accepted step.ended
    ended := step.ended
    announced := step.announced
    advertised := fun isOpen small here =>
      limits ▸ step.advertised (step.isOpen ▸ isOpen) small here
    reads }
  exact {
    limits
    ids := rfl
    ctlIn := rfl
    helloSent := rfl
    streams := stream.update
    controlOpened := step.controlOpened
    controlClosed := step.controlClosed
    control := by
      obtain ⟨extra, sent, credit⟩ := step.control
      refine ⟨extra, sent, fun message member => ?_⟩
      obtain ⟨value, small, rfl⟩ := credit message member
      exact ⟨small, Or.inl ⟨rfl, List.ne_nil_of_mem present⟩⟩
    dataAdvertised := fun isOpen small here => limits ▸ step.dataAdvertised isOpen small here
    slotsAdvertised := fun _ _ here => by
      obtain ⟨extra, sent, credit⟩ := step.control
      have fields := step.same
      unfold ConnFlow.SameBut at fields
      have same : streamsLimit c.flow.localLimits x.control.sent =
          streamsLimit c.flow.localLimits c.control.sent := by
        rw [sent]
        refine streamsLimit_append _ fun value member => ?_
        obtain ⟨_, _, same⟩ := credit _ member
        cases same
      show x.flow.advertisedMaxStreams = streamsLimit c.flow.localLimits x.control.sent
      rw [fields, same]
      exact here
    closeFired := id }

end ConnInv

/-- An operation leads to the invariant, and the end evolves. -/
structure ConnSpec (heard : Nat → List Frame) (c c' : ConnCore) : Prop where
  inv : ConnInv c'
  step : Evolves heard c c'

namespace ConnSpec

variable {heard : Nat → List Frame} {c c' c'' : ConnCore} {k : Nat}

theorem refl (inv : ConnInv c) : ConnSpec silence c c := ⟨inv, Evolves.refl c⟩

theorem andThen (first : ConnSpec heard c c') (second : ConnSpec silence c' c'') :
    ConnSpec heard c c'' := ⟨second.inv, first.step.trans second.step⟩

/-- A method of one stream. -/
theorem put {frames : List Frame} {x : StreamCtx} (inv : ConnInv c) (present : k ∈ c.ids)
    (spec : CtxSpec frames x.s.progress 0 (c.ctx k) x) (reads : (c.streams k).Reads x.s) :
    ConnSpec (Function.update silence k frames) c (c.put k x) :=
  ⟨inv.put present spec, inv.put_evolves present spec reads⟩

/-- A method of one stream that accepts nothing. -/
theorem putQuiet {x : StreamCtx} (inv : ConnInv c) (present : k ∈ c.ids)
    (spec : CtxSpec [] x.s.progress 0 (c.ctx k) x) (reads : (c.streams k).Reads x.s) :
    ConnSpec silence c (c.put k x) := by
  have quiet : Function.update silence k [] = silence := Function.update_eq_self k silence
  exact quiet ▸ put inv present spec reads

/-- An update of the fields that no invariant reads. -/
theorem bookkeeping (inv : ConnInv c) (flow : c'.flow = c.flow) (control : c'.control = c.control)
    (ids : c'.ids = c.ids) (streams : c'.streams = c.streams) (opens : c'.opens = c.opens)
    (ctlIn : c'.ctlIn = c.ctlIn) (peerHello : c'.peerHello = c.peerHello)
    (helloSent : c'.helloSent = c.helloSent) (live : ∀ k ∈ c'.live, k ∈ c.live)
    (staged : ∀ k ∈ c'.staged, k ∈ c.staged)
    (closeFired : c.closeFired = true → c'.closeFired = true) : ConnSpec silence c c' := by
  obtain ⟨nodup, blank, alive, waiting, opening⟩ := inv.registry
  obtain ⟨sent, reserved, received, consumed, opened, slots, peerOpened, peerRetired⟩ := inv.ledgers
  refine ⟨⟨⟨?_, ?_, ?_, ?_, ?_⟩, ⟨?_, ?_, ?_, ?_, ?_, ?_, ?_, ?_⟩, ?_, ?_, ?_, ?_, ?_⟩, ?_⟩
  · rwa [ids]
  · rwa [ids, streams, flow]
  · rw [ids]
    exact fun k member => alive k (live k member)
  · rw [ids]
    exact fun k member => waiting k (staged k member)
  · rwa [ids, opens]
  · rwa [flow, ids, streams]
  · rwa [flow, ids, streams]
  · rwa [flow, ids, streams]
  · rwa [flow, ids, streams]
  · rwa [flow, ids, streams]
  · rwa [flow, opens]
  · rwa [flow, ids, streams]
  · rwa [flow, ids, streams]
  · rw [flow, streams]
    exact inv.stream
  · rw [flow, control]
    exact inv.data
  · rw [flow, control]
    exact inv.slots
  · rw [flow, opens]
    exact inv.parked
  · rw [ConnCore.view, peerHello, flow, ctlIn]
    exact inv.view
  · exact {
      limits := by rw [flow]
      ids
      ctlIn
      helloSent
      streams := fun k => by rw [streams]; exact KpsStream.Evolves.refl _ _
      controlOpened := by rw [control]
      controlClosed := by rw [control]
      control := ⟨[], by rw [control]; simp⟩
      dataAdvertised := by rw [flow, control]; exact fun _ _ => id
      slotsAdvertised := by rw [flow, control]; exact fun _ _ => id
      closeFired }

theorem report (inv : ConnInv c) (outcome : Outcome) : ConnSpec silence c (c.report outcome) :=
  bookkeeping inv rfl rfl rfl rfl rfl rfl rfl rfl (fun _ => id) (fun _ => id) id

/-- An end closes the channel of a wire-complete stream. -/
theorem closeChannel (inv : ConnInv c) (present : k ∈ c.ids)
    (complete : (c.streams k).wireComplete = true) :
    ConnSpec silence c (c.onStream k fun x => { x with s := { x.s with ch := x.s.ch.close } }) := by
  refine ⟨inv.touch present (fun _ => rfl) (fun _ => rfl) rfl rfl rfl rfl, ?_⟩
  have stream : (c.streams k).Evolves c.flow.localLimits []
      { c.streams k with ch := (c.streams k).ch.close } :=
    { KpsStream.Evolves.refl c.flow.localLimits (c.streams k) with
      closed := fun _ => rfl
      retiring := fun _ => Or.inr complete
      announced := fun _ => id
      advertised := fun isOpen => by simp [Channel.isOpen, Channel.close] at isOpen
      reads := .of_same rfl }
  have quiet : Function.update silence k [] = silence := Function.update_eq_self k silence
  exact { Evolves.refl c with streams := quiet ▸ stream.update }

/-- A stream retires; if the peer opened it, the peer gets its slot back. -/
theorem retire (inv : ConnInv c) (present : k ∈ c.ids)
    (unfired : (c.streams k).retiredFired = false) :
    ConnSpec silence c
      ((c.put k { c.ctx k with s := { c.streams k with retiredFired := true } }).retired k) := by
  have stream : (c.streams k).Evolves c.flow.localLimits []
      { c.streams k with retiredFired := true } :=
    KpsStream.Evolves.of_halves (fun _ => rfl) (fun _ => rfl) rfl rfl rfl rfl (.of_same rfl)
  have quiet : Function.update silence k [] = silence := Function.update_eq_self k silence
  obtain ⟨sent, reserved, received, consumed, opened, slots, peerOpened, peerRetired⟩ := inv.ledgers
  have nodup := inv.registry.nodup
  have ledger (weight : KpsStream → Int) :
      total c.ids weight (Function.update c.streams k
          { c.streams k with retiredFired := true }) =
        total c.ids weight c.streams +
          (weight { c.streams k with retiredFired := true } - weight (c.streams k)) :=
    total_update_of_mem nodup present _
  have live : ∀ j ∈ c.live.erase k, j ∈ c.ids := fun j member =>
    inv.registry.live j (List.mem_of_mem_erase member)
  have blank : ∀ j, j ∉ c.ids → Function.update c.streams k
      { c.streams k with
        retiredFired := true } j = { sf := StreamFlow.new c.flow.localLimits } := by
    intro j absent
    have different : j ≠ k := fun same => absent (same ▸ present)
    rw [Function.update_of_ne different]
    exact inv.registry.blank j absent
  have streams (f : ConnFlow) (same : ∀ s, StreamInv c.flow s.progress 0 s →
      StreamInv f s.progress 0 s) (j : Nat) :
      StreamInv f (Function.update c.streams k
          { c.streams k with retiredFired := true } j).progress 0
        (Function.update c.streams k { c.streams k with retiredFired := true } j) := by
    by_cases here : j = k
    · subst here
      rw [Function.update_self]
      obtain ⟨read, write, adverts, explicit, parked⟩ := same _ (inv.stream j)
      exact ⟨read, write, adverts, explicit, parked⟩
    · rw [Function.update_of_ne here]
      exact same _ (inv.stream j)
  have plain (weight : KpsStream → Int)
      (same : weight { c.streams k with retiredFired := true } = weight (c.streams k)) :
      total c.ids weight c.streams = total c.ids weight (Function.update c.streams k
        { c.streams k with retiredFired := true }) := by
    rw [ledger, same, sub_self, add_zero]
  unfold ConnCore.retired
  dsimp only
  split
  · next initiated =>
    have initiated : (c.streams k).peerInitiated = true := by
      simpa [ConnCore.put, Function.update_self] using initiated
    have returned := SlotReturned.of_retired inv.slots
    obtain ⟨extra, log, credit⟩ := returned.sent
    have old : ∀ value, ControlMsg.maxData value ∈ (c.control.sendIfOpen (.maxStreams
        (asUint64 c.flow.peerStreamRetired.advertisedMaxStreams))).sent →
        ControlMsg.maxData value ∈ c.control.sent := by
      intro value member
      rw [log] at member
      rcases List.mem_append.mp member with before | here
      · exact before
      · obtain ⟨_, _, same⟩ := credit _ here
        cases same
    refine ⟨⟨⟨nodup, blank, live, inv.registry.staged, inv.registry.opening⟩,
      ⟨sent.trans (plain _ rfl), reserved.trans (plain _ rfl), received.trans (plain _ rfl),
        consumed.trans (plain _ rfl), opened.trans (plain _ rfl), slots,
        peerOpened.trans (plain _ rfl), ?_⟩,
      streams _ fun s inv => ⟨inv.read, inv.write, inv.adverts, inv.explicit, inv.parked⟩,
      ⟨inv.data.window, inv.data.batched, inv.data.within,
        fun value member => inv.data.adverts value (old value member)⟩,
      returned.slots, inv.parked, inv.view⟩, ?_⟩
    · refine Eq.trans ?_ (ledger _).symm
      show c.flow.peerRetiredStreams + 1 = _
      rw [peerRetired]
      simp [retiredWeight, initiated, unfired]
    · exact { Evolves.refl c with
        limits := rfl
        streams := quiet ▸ stream.update
        controlOpened := returned.opened
        controlClosed := returned.closed
        control := ⟨extra, log, fun message member => by
          obtain ⟨value, small, rfl⟩ := credit message member
          exact ⟨small, Or.inl ⟨rfl, List.ne_nil_of_mem present⟩⟩⟩
        dataAdvertised := fun _ _ here => by
          refine here.trans (congrArg Int.ofNat ?_)
          show dataLimit c.flow.localLimits c.control.sent = dataLimit c.flow.localLimits
            (c.control.sendIfOpen
              (.maxStreams (asUint64 c.flow.peerStreamRetired.advertisedMaxStreams))).sent
          rw [log]
          refine (dataLimit_append _ fun value member => ?_).symm
          obtain ⟨_, _, same⟩ := credit _ member
          cases same
        slotsAdvertised := returned.exact }
  · next initiated =>
    have initiated : (c.streams k).peerInitiated = false := by
      simpa [ConnCore.put, Function.update_self] using initiated
    refine ⟨⟨⟨nodup, blank, live, inv.registry.staged, inv.registry.opening⟩,
      ⟨sent.trans (plain _ rfl), reserved.trans (plain _ rfl), received.trans (plain _ rfl),
        consumed.trans (plain _ rfl), opened.trans (plain _ rfl), slots,
        peerOpened.trans (plain _ rfl), peerRetired.trans (plain _ ?_)⟩,
      streams _ fun _ => id, inv.data, inv.slots, inv.parked, inv.view⟩, ?_⟩
    · simp [retiredWeight, initiated]
    · exact { Evolves.refl c with streams := quiet ▸ stream.update }

/-- A method of one stream, by name. -/
theorem onStream {f : StreamCtx → StreamCtx} (inv : ConnInv c) (present : k ∈ c.ids)
    (spec : CtxSpec [] (f (c.ctx k)).s.progress 0 (c.ctx k) (f (c.ctx k)))
    (reads : (c.streams k).Reads (f (c.ctx k)).s) : ConnSpec silence c (c.onStream k f) :=
  putQuiet inv present spec reads

/-- An update of one stream that the peer cannot see. -/
theorem touch {s : KpsStream} (inv : ConnInv c) (present : k ∈ c.ids)
    (read : ∀ limits, s.readHalf limits = (c.streams k).readHalf limits)
    (write : ∀ initial, s.writeHalf initial = (c.streams k).writeHalf initial)
    (sf : s.sf = (c.streams k).sf) (writable : s.writable = (c.streams k).writable)
    (initiated : s.peerInitiated = (c.streams k).peerInitiated)
    (retiredFired : s.retiredFired = (c.streams k).retiredFired)
    (opened : s.ch.opened = (c.streams k).ch.opened)
    (closed : s.ch.closed = (c.streams k).ch.closed) (reads : (c.streams k).Reads s) :
    ConnSpec silence c { c with streams := Function.update c.streams k s } := by
  have quiet : Function.update silence k [] = silence := Function.update_eq_self k silence
  have stream : (c.streams k).Evolves c.flow.localLimits [] s :=
    KpsStream.Evolves.of_halves read write sf initiated opened closed reads
  exact ⟨inv.touch present read write sf writable initiated retiredFired,
    { Evolves.refl c with streams := quiet ▸ stream.update }⟩

theorem touchLocal {s : KpsStream} (inv : ConnInv c) (present : k ∈ c.ids)
    (same : (c.streams k).SameHalves s) (reads : (c.streams k).Reads s) :
    ConnSpec silence c { c with streams := Function.update c.streams k s } :=
  touch inv present same.read same.write same.sf same.writable same.initiated same.retiredFired
    (congrArg Channel.opened same.ch) (congrArg Channel.closed same.ch) reads

/-- `#maybeRetire` of a stream. -/
theorem maybeRetire (inv : ConnInv c) (present : k ∈ c.ids) :
    ConnSpec silence c (c.maybeRetire k) := by
  unfold ConnCore.maybeRetire
  rcases (c.ctx k).maybeRetire_cases with same | ⟨complete, -, -, closes⟩ |
    ⟨-, -, -, unfired, retires⟩
  · rw [same]
    exact putQuiet inv present ⟨inv.ctx present, CtxStep.refl _⟩ (.refl _)
  · rw [closes]
    exact closeChannel inv present complete
  · rw [retires]
    exact retire inv present unfired

theorem retireAfter {f : StreamCtx → StreamCtx} (inv : ConnInv c) (present : k ∈ c.ids)
    (spec : CtxSpec [] (f (c.ctx k)).s.progress 0 (c.ctx k) (f (c.ctx k)))
    (reads : (c.streams k).Reads (f (c.ctx k)).s) : ConnSpec silence c (c.retireAfter k f) := by
  have ran := onStream inv present spec reads
  exact ran.andThen (maybeRetire ran.inv (ran.step.ids ▸ present))

theorem runStream {f : StreamCtx → StreamCtx × Bool} (inv : ConnInv c) (present : k ∈ c.ids)
    (spec : CtxSpec [] (f (c.ctx k)).1.s.progress 0 (c.ctx k) (f (c.ctx k)).1)
    (reads : (c.streams k).Reads (f (c.ctx k)).1.s) : ConnSpec silence c (c.runStream k f) := by
  have ran := putQuiet inv present spec reads
  unfold ConnCore.runStream
  dsimp only
  split
  · exact ran.andThen (maybeRetire ran.inv (ran.step.ids ▸ present))
  · exact ran

/-! ### Close paths -/

theorem destroyAll (reason : Option KpsReason) (keys : List Nat) (inv : ConnInv c)
    (present : ∀ k ∈ keys, k ∈ c.ids) : ConnSpec silence c (c.destroyAll reason keys) := by
  induction keys generalizing c with
  | nil => exact refl inv
  | cons key keys ih =>
    have here := onStream (f := (·.destroy reason)) inv (present key List.mem_cons_self)
      (StreamCtx.destroy_spec reason (inv.ctx (present key List.mem_cons_self)))
      (StreamCtx.destroy_reads reason (c.ctx key))
    exact here.andThen (ih here.inv fun other member =>
      here.step.ids ▸ present other (List.mem_cons_of_mem _ member))

/-- Failing the credit engine wakes whoever waits. -/
theorem failFlow (error : KpsError) (inv : ConnInv c) :
    ConnSpec silence c { c with flow := c.flow.fail error } := by
  unfold ConnFlow.fail
  split
  · exact refl inv
  · obtain ⟨registry, ledgers, stream, data, slots, parked, view⟩ := inv
    refine ⟨⟨⟨registry.nodup, registry.blank, registry.live, registry.staged, registry.opening⟩,
      ⟨ledgers.sent, ledgers.reserved, ledgers.received, ledgers.consumed, ledgers.opened,
        ledgers.slots, ledgers.peerOpened, ledgers.peerRetired⟩,
      fun k => (stream k).onFlow rfl (le_refl _) (stream k).parked.wake,
      ⟨data.window, data.batched, data.within, data.adverts⟩,
      ⟨slots.within, slots.unretired, slots.granted, slots.retired, slots.floor, slots.capped,
        slots.adverts⟩, ?_, view⟩, ?_⟩
    · exact parked.wake
    · exact { Evolves.refl c with
        limits := rfl }

theorem rejectEstablished (error : KpsError) (inv : ConnInv c) :
    ConnSpec silence c (c.rejectEstablished error) := by
  unfold ConnCore.rejectEstablished
  split
  · exact refl inv
  · exact report inv _

theorem settleClosed (info : CloseInfo) (inv : ConnInv c) :
    ConnSpec silence c (c.settleClosed info) :=
  bookkeeping inv rfl rfl rfl rfl rfl rfl rfl rfl (fun _ none => by cases none)
    (fun _ none => by cases none) id

/-- **Teardown.** -/
theorem teardown (info : CloseInfo) (inv : ConnInv c) :
    ConnSpec silence c (c.teardown info) ∧ (c.teardown info).closeFired = true := by
  have called := report inv (.teardown info)
  unfold ConnCore.teardown
  dsimp only
  split
  · next fired => exact ⟨called, fired⟩
  · have marked : ConnSpec silence c { c.report (.teardown info) with
        closeFired := true, tearingDown := true, state := .closed, helloTimer := false } :=
      bookkeeping inv rfl rfl rfl rfl rfl rfl rfl rfl (fun _ => id) (fun _ => id) fun _ => rfl
    have rejected := rejectEstablished (ConnCore.closeError info) marked.inv
    have failed := rejected.andThen (failFlow (ConnCore.closeError info) rejected.inv)
    have destroyed := failed.andThen (destroyAll info.reason _ failed.inv fun k member =>
      (List.mem_append.mp member).elim (rejected.inv.registry.live k)
        (rejected.inv.registry.staged k))
    have settled := destroyed.andThen (settleClosed info destroyed.inv)
    exact ⟨marked.andThen settled, settled.step.closeFired rfl⟩

/-- CONNECTION_CLOSE, on the way to a teardown. -/
theorem afterClose {n : Nat} (inv : ConnInv c) (small : n < 2 ^ 32)
    (after : ConnInv (c.trySendControl (.close n)) →
      ConnSpec silence (c.trySendControl (.close n)) c' ∧ c'.closeFired = true) :
    ConnSpec silence c c' ∧ c'.closeFired = true := by
  obtain ⟨registry, ledgers, stream, data, slots, parked, view⟩ := inv
  obtain ⟨extra, log, closes⟩ : ∃ extra, (c.control.sendIfOpen (.close n)).sent =
      c.control.sent ++ extra ∧ ∀ message ∈ extra, message = .close n := by
    rw [Channel.sent_sendIfOpen]
    split
    · exact ⟨[.close n], rfl, fun message member => List.mem_singleton.mp member⟩
    · exact ⟨[], by simp⟩
  have old : ∀ message ∈ (c.control.sendIfOpen (.close n)).sent, message.isClose = false →
      message ∈ c.control.sent := by
    intro message member credit
    rw [log] at member
    rcases List.mem_append.mp member with before | here
    · exact before
    · rw [closes message here] at credit
      cases credit
  have sent : ConnInv (c.trySendControl (.close n)) :=
    ⟨⟨registry.nodup, registry.blank, registry.live, registry.staged, registry.opening⟩,
      ⟨ledgers.sent, ledgers.reserved, ledgers.received, ledgers.consumed, ledgers.opened,
        ledgers.slots, ledgers.peerOpened, ledgers.peerRetired⟩, stream,
      ⟨data.window, data.batched, data.within,
        fun value member => data.adverts value (old _ member rfl)⟩,
      ⟨slots.within, slots.unretired, slots.granted, slots.retired, slots.floor, slots.capped,
        fun value member => slots.adverts value (old _ member rfl)⟩, parked, view⟩
  obtain ⟨spec, fired⟩ := after sent
  refine ⟨⟨spec.inv, ?_⟩, fired⟩
  have step := spec.step
  exact {
    limits := step.limits
    ids := step.ids
    ctlIn := step.ctlIn
    helloSent := step.helloSent
    streams := step.streams
    controlOpened := step.controlOpened.trans Channel.opened_sendIfOpen
    controlClosed := step.controlClosed.trans Channel.closed_sendIfOpen
    control := by
      obtain ⟨more, log', kinds⟩ := step.control
      refine ⟨extra ++ more, ?_, fun message member => ?_⟩
      · rw [log', ← List.append_assoc, ← log]
        rfl
      · rcases List.mem_append.mp member with here | there
        · rw [closes message here]
          exact ⟨small, Or.inr ⟨rfl, fired⟩⟩
        · exact kinds message there
    dataAdvertised := fun isOpen fits here => by
      refine step.dataAdvertised (Channel.isOpen_sendIfOpen.trans isOpen) fits ?_
      refine here.trans (congrArg Int.ofNat ?_)
      show dataLimit c.flow.localLimits c.control.sent =
        dataLimit c.flow.localLimits (c.control.sendIfOpen (.close n)).sent
      rw [log, dataLimit_append _ fun value member => by cases closes _ member]
    slotsAdvertised := fun isOpen fits here => by
      refine step.slotsAdvertised (Channel.isOpen_sendIfOpen.trans isOpen) fits ?_
      refine here.trans (congrArg Int.ofNat ?_)
      show streamsLimit c.flow.localLimits c.control.sent =
        streamsLimit c.flow.localLimits (c.control.sendIfOpen (.close n)).sent
      rw [log, streamsLimit_append _ fun value member => by cases closes _ member]
    closeFired := fun _ => fired }

theorem codeToNum_small (code : Option KpsErrorCode) : codeToNum code < 2 ^ 32 :=
  lt_of_le_of_lt (codeToNum_le code) (by decide)

theorem tearingDown (inv : ConnInv c) : ConnSpec silence c { c with tearingDown := true } :=
  bookkeeping inv rfl rfl rfl rfl rfl rfl rfl rfl (fun _ => id) (fun _ => id) id

theorem fatal (reason : KpsReason) (inv : ConnInv c) : ConnSpec silence c (c.fatal reason) := by
  have reported := report inv (.fatal reason)
  unfold ConnCore.fatal
  dsimp only
  split
  · exact reported
  · have tearing := reported.andThen (tearingDown reported.inv)
    exact tearing.andThen
      (afterClose tearing.inv (codeToNum_small _) fun inv => teardown _ inv).1

theorem protocolError (text : String) (inv : ConnInv c) :
    ConnSpec silence c (c.protocolError text) := fatal _ inv

theorem close (reason : Option KpsReason) (inv : ConnInv c) :
    ConnSpec silence c (c.close reason) := by
  unfold ConnCore.close
  split
  · exact refl inv
  · have tearing := tearingDown inv
    exact tearing.andThen
      (afterClose tearing.inv (codeToNum_small _) fun inv => teardown _ inv).1

theorem onTransportFailed (message : String) (inv : ConnInv c) :
    ConnSpec silence c (c.onTransportFailed message) := (teardown _ inv).1

theorem onTransportClosed (inv : ConnInv c) : ConnSpec silence c c.onTransportClosed :=
  (teardown _ inv).1

theorem reservedChannelLost (which : String) (inv : ConnInv c) :
    ConnSpec silence c (c.reservedChannelLost which) := by
  unfold ConnCore.reservedChannelLost
  split
  · exact refl inv
  · exact protocolError _ inv

theorem onHelloTimer (inv : ConnInv c) : ConnSpec silence c c.onHelloTimer := by
  unfold ConnCore.onHelloTimer
  split
  · have cleared : ConnSpec silence c { c with helloTimer := false } :=
      bookkeeping inv rfl rfl rfl rfl rfl rfl rfl rfl (fun _ => id) (fun _ => id) id
    exact cleared.andThen (fatal _ cleared.inv)
  · exact refl inv

/-! ### The control channel -/

theorem enqueueIncoming (k : Nat) (inv : ConnInv c) :
    ConnSpec silence c (c.enqueueIncoming k) := by
  unfold ConnCore.enqueueIncoming
  split <;>
    exact bookkeeping inv rfl rfl rfl rfl rfl rfl rfl rfl (fun _ => id) (fun _ => id) id

theorem enqueueAll (keys : List Nat) (inv : ConnInv c) :
    ConnSpec silence c (keys.foldl (fun c k => c.enqueueIncoming k) c) := by
  induction keys generalizing c with
  | nil => exact refl inv
  | cons key keys ih =>
    have here := enqueueIncoming key inv
    exact here.andThen (ih here.inv)

theorem checkEstablished (inv : ConnInv c) : ConnSpec silence c c.checkEstablished := by
  unfold ConnCore.checkEstablished
  split
  · exact refl inv
  · split
    · exact refl inv
    · have done : ConnSpec silence c { { c with
          establishedDone := true, state := .open, helloTimer := false }.report .established with
          staged := [] } :=
        bookkeeping inv rfl rfl rfl rfl rfl rfl rfl rfl (fun _ => id)
          (fun _ none => by cases none) id
      exact done.andThen (enqueueAll c.staged done.inv)

/-- What an end does about a control message, having learned from it. -/
theorem handleControl (message : ControlMsg) (inv : ConnInv c) :
    ConnSpec silence (c.learn message)
      ({ c with ctlIn := c.ctlIn ++ [message] }.handleControl message) := by
  have learned := inv.learn message
  unfold ConnCore.learn at learned ⊢
  cases message with
  | close code => exact (teardown _ learned).1
  | hello version limits =>
    unfold ConnCore.handleControl
    dsimp only at learned ⊢
    by_cases known : c.peerHello.isSome = true
    · rw [if_pos (Or.inl known)] at learned ⊢
      rw [if_pos known]
      exact protocolError _ learned
    · by_cases wrong : version ≠ wireVersion
      · rw [if_pos (Or.inr wrong)] at learned ⊢
        rw [if_neg known, if_pos wrong]
        exact (afterClose learned (codeToNum_small _) fun inv => teardown _ inv).1
      · have fresh : ¬ (c.peerHello.isSome = true ∨ version ≠ wireVersion) :=
          fun either => either.elim known wrong
        rw [if_neg fresh] at learned ⊢
        rw [if_neg known, if_neg wrong]
        exact checkEstablished learned
  | maxData value =>
    unfold ConnCore.handleControl
    dsimp only at learned ⊢
    split
    · next none =>
      rw [if_pos none] at learned
      exact protocolError _ learned
    · next known =>
      rw [if_neg known] at learned
      exact refl learned
  | maxStreams value =>
    unfold ConnCore.handleControl
    dsimp only at learned ⊢
    split
    · next none =>
      rw [if_pos none] at learned
      exact protocolError _ learned
    · next known =>
      rw [if_neg known] at learned
      exact refl learned

end ConnSpec

end Kps.Ts
