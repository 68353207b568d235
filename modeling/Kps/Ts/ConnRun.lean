/-
**Every event keeps the invariant of a connection**, and so does every run.

* `ConnInv.streamEvent`, `ConnInv.connEvent` — one lemma for each event that is more than a
  bookkeeping step of `ConnSteps`;
* `ConnInv.step`, `connInv_run` — the invariant holds in every state that is reached, whatever the
  peer, the transport and the application do.
-/

import Kps.Lib.Run
import Kps.Ts.ConnSteps

namespace Kps.Ts

open Kps.Lib

/-! ### HELLO -/

/-- An end with its HELLO handed to the control channel. -/
def ConnCore.greeted (c : ConnCore) : ConnCore :=
  { c with helloSent := true }.trySendControl (.hello wireVersion c.flow.localLimits)

theorem ConnCore.sendHello_eq (c : ConnCore) :
    c.sendHello = if c.helloSent || c.closeFired then c else c.greeted.checkEstablished := rfl

namespace ConnInv

variable {c : ConnCore} {k : Nat}

/-- A change of the control channel that adds no advertisement. -/
theorem onControl (control : Channel ControlMsg) (helloSent : Bool) (inv : ConnInv c)
    (old : ∀ message ∈ control.sent, message.isCredit = true → message ∈ c.control.sent) :
    ConnInv { c with control, helloSent } := by
  obtain ⟨registry, ledgers, stream, data, slots, parked, view⟩ := inv
  exact ⟨⟨registry.nodup, registry.blank, registry.live, registry.staged, registry.opening⟩,
    ⟨ledgers.sent, ledgers.reserved, ledgers.received, ledgers.consumed, ledgers.opened,
      ledgers.slots, ledgers.peerOpened, ledgers.peerRetired⟩, stream,
    ⟨data.window, data.batched, data.within,
      fun value member => data.adverts value (old _ member rfl)⟩,
    ⟨slots.within, slots.unretired, slots.granted, slots.retired, slots.floor, slots.capped,
      fun value member => slots.adverts value (old _ member rfl)⟩, parked, view⟩

theorem greeted (inv : ConnInv c) : ConnInv c.greeted := by
  refine inv.onControl _ true fun message member credit => ?_
  rw [Channel.sent_sendIfOpen] at member
  split at member
  · rcases List.mem_append.mp member with before | here
    · exact before
    · rw [List.mem_singleton.mp here] at credit
      cases credit
  · exact member

theorem sendHello (inv : ConnInv c) : ConnInv c.sendHello := by
  rw [ConnCore.sendHello_eq]
  split
  · exact inv
  · exact (ConnSpec.checkEstablished inv.greeted).inv

/-! ### A new connection -/

end ConnInv

/-- A new stream satisfies its invariant. -/
theorem StreamInv.new (f : ConnFlow) (initial : 0 ≤ f.peerMaxStreamDataInitial)
    (peerInitiated isOpen : Bool) :
    StreamInv f none 0 (KpsStream.new f.localLimits peerInitiated isOpen) := by
  have window : (StreamFlow.window f.localLimits (StreamFlow.new f.localLimits)).Valid :=
    ⟨le_refl _, le_refl _, le_refl _, by
      show (0 : Int) ≤ 0 + (f.localLimits.initialMaxStreamData : Int)
      omega, by
      show (f.localLimits.initialMaxStreamData : Int) ≤ 0 + f.localLimits.initialMaxStreamData
      omega⟩
  have read :
    ReadInv 0 ((KpsStream.new f.localLimits peerInitiated isOpen).readHalf f.localLimits) := {
    window := ⟨window, min_le_left _ _, id⟩
    batched := fun small _ => ⟨by
      show (f.localLimits.initialMaxStreamData : Int) =
        min (0 + (f.localLimits.initialMaxStreamData : Int)) maxOffset
      change (f.localLimits.initialMaxStreamData : Int) ≤ maxOffset at small
      omega, Or.inl rfl⟩
    held := rfl
    received := rfl
    conforming := conforming_nil
    fin := rfl
    reset := rfl
    whole := fun _ _ => rfl
    obtained := List.prefix_refl _
    discarded := fun _ => rfl
    filled := fun _ _ none => by cases none
    eof := fun closed => by cases closed }
  have write : WriteInv none ((KpsStream.new f.localLimits peerInitiated isOpen).writeHalf
      f.peerMaxStreamDataInitial) := {
    sent := rfl
    reserved := rfl
    within := by
      show (0 : Int) + 0 ≤ max 0 f.peerMaxStreamDataInitial
      omega
    inside := fun p running => by cases running
    wf := fun frame member => by cases member
    conforming := conforming_nil
    unended := fun _ => rfl
    handed := ⟨(fun p running => by cases running), (fun _ _ => ⟨rfl, rfl⟩),
      fun failed => by cases failed⟩ }
  exact ⟨read, write, (fun value member => by cases member), rfl,
    fun _ _ _ waiting => by cases waiting⟩

namespace ConnInv

variable {c : ConnCore} {k : Nat}

/-- Before anything happens. -/
theorem fresh (limits : FlowLimits) (controlOpen : Bool) :
    ConnInv (ConnCore.fresh limits controlOpen) := by
  have window : (ConnFlow.window (ConnFlow.new limits)).Valid :=
    ⟨le_refl _, le_refl _, le_refl _, by
      show (0 : Int) ≤ 0 + (limits.initialMaxData : Int)
      omega, by
      show (limits.initialMaxData : Int) ≤ 0 + limits.initialMaxData
      omega⟩
  refine ⟨⟨List.nodup_nil, fun _ _ => rfl, (fun _ none => by cases none),
    (fun _ none => by cases none), fun _ none => by cases none⟩,
    ⟨rfl, rfl, rfl, rfl, rfl, rfl, rfl, rfl⟩,
    fun _ => StreamInv.new (ConnFlow.new limits) (le_refl _) false false, ?_, ?_,
    (fun _ none => by cases none), rfl⟩
  · refine ⟨⟨window, min_le_left _ _, id⟩, fun small => ⟨?_, Or.inl rfl⟩, le_refl _,
      fun _ none => by cases none⟩
    show (limits.initialMaxData : Int) = min (0 + (limits.initialMaxData : Int)) maxOffset
    change (limits.initialMaxData : Int) ≤ maxOffset at small
    omega
  · refine ⟨le_refl _, ?_, ?_, le_refl _, ?_, ?_, fun _ none => by cases none⟩
    · show (0 : Int) ≤ limits.initialMaxStreams + 0
      omega
    · show (limits.initialMaxStreams : Int) ≤ limits.initialMaxStreams + 0
      omega
    · show min ((limits.initialMaxStreams : Int) + 0) maxOffset ≤ limits.initialMaxStreams
      omega
    · show limits.initialMaxStreams ≤ maxOffset → (limits.initialMaxStreams : Int) ≤ maxOffset
      omega

theorem new (limits : FlowLimits) (controlOpen : Bool) :
    ConnInv (ConnCore.new limits controlOpen) := by
  have start := fresh limits controlOpen
  unfold ConnCore.new
  dsimp only
  split
  · exact start.sendHello
  · exact start

theorem initial_nonneg (inv : ConnInv c) : 0 ≤ c.flow.peerMaxStreamDataInitial := by
  have view : c.flow.peerMaxStreamDataInitial = (peerView c.ctlIn).streamData :=
    congrArg PeerView.streamData inv.view
  rw [view]
  exact peerView_nonneg _

/-- A new stream, counted on its side. -/
theorem addStream {f : ConnFlow} {opens : List OpenCall} (inv : ConnInv c) (absent : k ∉ c.ids)
    (peerInitiated isOpen : Bool)
    (fields : f = { c.flow with
      streamsOpened := f.streamsOpened
      streamsReserved := f.streamsReserved
      peerOpenedStreams := f.peerOpenedStreams })
    (opened : f.streamsOpened = c.flow.streamsOpened + if peerInitiated then 0 else 1)
    (peerOpened : f.peerOpenedStreams = c.flow.peerOpenedStreams + if peerInitiated then 1 else 0)
    (reserved : f.streamsReserved = reservedSlots opens)
    (within : f.streamsOpened + f.streamsReserved ≤ f.peerMaxStreams)
    (unretired : f.peerOpenedStreams ≤ f.localLimits.initialMaxStreams + f.peerRetiredStreams)
    (opening : ∀ call ∈ opens, ∀ j, call.pc = .opening j → j ∈ c.ids ++ [k])
    (parked : OpenersParked f opens) :
    ConnInv ({ c with flow := f, opens }.makeStream k peerInitiated isOpen) := by
  have initial := inv.initial_nonneg
  obtain ⟨registry, ledgers, stream, data, slots, -, view⟩ := inv
  generalize f.streamsOpened = a at fields opened within
  generalize f.streamsReserved = b at fields reserved within
  generalize f.peerOpenedStreams = p at fields peerOpened unretired
  subst fields
  have grown (weight : KpsStream → Int) {n m : Int} (sum : n = total c.ids weight c.streams)
      (more : m = n + weight (KpsStream.new c.flow.localLimits peerInitiated isOpen)) :
      m = total (c.ids ++ [k]) weight (Function.update c.streams k
        (KpsStream.new c.flow.localLimits peerInitiated isOpen)) := by
    rw [total_concat_update absent, ← sum, more]
  refine ⟨⟨?_, ?_, ?_, ?_, opening⟩, ⟨grown _ ledgers.sent ?_, grown _ ledgers.reserved ?_,
    grown _ ledgers.received ?_, grown _ ledgers.consumed ?_, grown _ ledgers.opened ?_, reserved,
    grown _ ledgers.peerOpened ?_, grown _ ledgers.peerRetired ?_⟩, ?_,
    ⟨data.window, data.batched, data.within, data.adverts⟩,
    ⟨within, unretired, slots.granted, slots.retired, slots.floor, slots.capped, slots.adverts⟩,
    parked, view⟩
  · exact List.nodup_append.mpr ⟨registry.nodup, List.nodup_singleton k, fun j member other here =>
      by rintro rfl; exact absent (List.mem_singleton.mp here ▸ member)⟩
  · intro j outside
    have different : j ≠ k := fun same => outside (by simp [ConnCore.makeStream, same])
    show Function.update c.streams k _ j = _
    rw [Function.update_of_ne different]
    exact registry.blank j fun member => outside (List.mem_append_left _ member)
  · intro j member
    exact (List.mem_append.mp member).elim (fun old => List.mem_append_left _ (registry.live j old))
      (List.mem_append_right _)
  · exact fun j member => List.mem_append_left _ (registry.staged j member)
  · exact (add_zero _).symm
  · exact (add_zero _).symm
  · exact (add_zero _).symm
  · exact (add_zero _).symm
  · exact opened
  · exact peerOpened
  · simp [retiredWeight, KpsStream.new, ConnCore.makeStream]
  · intro j
    show StreamInv _ (Function.update c.streams k _ j).progress 0 (Function.update c.streams k _ j)
    by_cases here : j = k
    · subst here
      rw [Function.update_self]
      refine StreamInv.new _ ?_ peerInitiated isOpen
      exact initial
    · rw [Function.update_of_ne here]
      obtain ⟨read, write, adverts, explicit, parked⟩ := stream j
      exact ⟨read, write, adverts, explicit, parked⟩

/-! ### Opening streams -/

theorem reservedSlots_concat (opens : List OpenCall) (call : OpenCall) :
    reservedSlots (opens ++ [call]) = reservedSlots opens + if call.pc =
      .reserved then 1 else 0 := by
  simp [reservedSlots, List.countP_append, List.countP_singleton]

/-- What changing one call does to the list. -/
theorem opens_modify {opens : List OpenCall} {op : Nat} {call : OpenCall}
    (present : opens[op]? = some call) (change : OpenCall → OpenCall) :
    (reservedSlots (opens.modify op change) + (if call.pc = .reserved then 1 else 0) =
        reservedSlots opens + if (change call).pc = .reserved then 1 else 0) ∧
      ∀ other ∈ opens.modify op change, other ∈ opens ∨ other = change call := by
  obtain ⟨inside, here⟩ := List.getElem?_eq_some_iff.mp present
  obtain ⟨before, old, after, rfl, rfl, changed⟩ := List.exists_of_modify change inside
  have same : old = call := by simpa using here
  subst same
  rw [changed]
  constructor
  · simp only [reservedSlots, List.countP_append, List.countP_cons, decide_eq_true_eq]
    omega
  · intro other member
    simp only [List.mem_append, List.mem_cons] at member ⊢
    tauto

end ConnInv

/-- What an opener that waits must know. -/
def SlotBlocked (f : ConnFlow) (pc : OpenPc) : Prop :=
  ∀ ticket, pc = .reserving ticket → ticket ≤ f.credit.wakes ∧
    (f.credit.resolved ticket = false →
      f.failure = none ∧ f.peerMaxStreams ≤ f.streamsOpened + f.streamsReserved)

theorem OpenersParked.change {f : ConnFlow} {opens opens' : List OpenCall} (call : OpenCall)
    (parked : OpenersParked f opens) (members : ∀ other ∈ opens', other ∈ opens ∨ other = call)
    (blocked : SlotBlocked f call.pc) : OpenersParked f opens' := by
  intro other member ticket waiting
  rcases members other member with old | rfl
  · exact parked other old ticket waiting
  · exact blocked ticket waiting

namespace ConnSpec

variable {c : ConnCore} {k op : Nat}

/-- A change of the slots and of the calls that hold them. -/
theorem slots {f : ConnFlow} {opens : List OpenCall} (inv : ConnInv c)
    (fields : f = { c.flow with streamsReserved := f.streamsReserved, credit := f.credit })
    (wakes : c.flow.credit.wakes ≤ f.credit.wakes)
    (reserved : f.streamsReserved = reservedSlots opens)
    (within : f.streamsOpened + f.streamsReserved ≤ f.peerMaxStreams)
    (opening : ∀ call ∈ opens, ∀ j, call.pc = .opening j → j ∈ c.ids)
    (parked : OpenersParked f opens) : ConnSpec silence c { c with flow := f, opens } := by
  obtain ⟨registry, ledgers, stream, data, slots, -, view⟩ := inv
  generalize f.streamsReserved = b at fields reserved within
  generalize f.credit = credit at fields wakes
  subst fields
  refine ⟨⟨⟨registry.nodup, registry.blank, registry.live, registry.staged, opening⟩,
    ⟨ledgers.sent, ledgers.reserved, ledgers.received, ledgers.consumed, ledgers.opened, reserved,
      ledgers.peerOpened, ledgers.peerRetired⟩,
    fun k => (stream k).onFlow rfl (le_refl _) ((stream k).parked.of_unwoken rfl wakes rfl
      fun _ => ⟨le_refl _, le_refl _, rfl⟩),
    ⟨data.window, data.batched, data.within, data.adverts⟩,
    ⟨within, slots.unretired, slots.granted, slots.retired, slots.floor, slots.capped,
      slots.adverts⟩, parked, view⟩, { Evolves.refl c with limits := rfl }⟩

/-- A call that holds no slot moves on without one. -/
theorem setOpen (pc : OpenPc) (inv : ConnInv c)
    (unheld : ∀ call, c.opens[op]? = some call → call.pc ≠ .reserved) (free : pc ≠ .reserved)
    (opening : ∀ j, pc = .opening j → j ∈ c.ids) (blocked : SlotBlocked c.flow pc) :
    ConnSpec silence c (c.setOpen op pc) := by
  cases present : c.opens[op]? with
  | none =>
    have same : c.setOpen op pc = c := by
      unfold ConnCore.setOpen
      rw [List.modify_eq_self (List.getElem?_eq_none_iff.mp present)]
    rw [same]
    exact refl inv
  | some call =>
    obtain ⟨count, members⟩ := ConnInv.opens_modify present fun call => { call with pc }
    rw [if_neg (unheld call present), if_neg free] at count
    refine slots inv rfl (le_refl _) ?_ inv.slots.within ?_ (inv.parked.change _ members blocked)
    · rw [inv.ledgers.slots]
      omega
    · intro other member j here
      rcases members other member with old | rfl
      · exact inv.registry.opening other old j here
      · exact opening j here

theorem rejectOpen (error : KpsError) (inv : ConnInv c)
    (unheld : ∀ call, c.opens[op]? = some call → call.pc ≠ .reserved) :
    ConnSpec silence c (c.rejectOpen op error) := by
  have done : ConnSpec silence c (c.setOpen op .done) := setOpen .done inv unheld (by decide)
    (fun _ same => by cases same) (fun _ same => by cases same)
  exact done.andThen (report done.inv _)

/-- One pass of `reserveStreamSlot`. -/
theorem reserveSlot {call : OpenCall} (aborted : Bool) (inv : ConnInv c)
    (present : c.opens[op]? = some call) (unheld : call.pc ≠ .reserved) :
    ConnSpec silence c (c.reserveSlot op aborted) := by
  have free : ∀ call, c.opens[op]? = some call → call.pc ≠ .reserved := by
    intro other here
    rw [present] at here
    cases here
    exact unheld
  unfold ConnCore.reserveSlot
  rcases c.flow.reserveStreamSlot_cases aborted with ⟨error, failed⟩ | ⟨room, reserved⟩ |
    ⟨noFailure, full, blocked⟩
  · rw [failed]
    exact rejectOpen _ inv free
  · rw [reserved]
    obtain ⟨count, members⟩ :=
      ConnInv.opens_modify present fun call => { call with pc := .reserved }
    rw [if_neg unheld, if_pos rfl] at count
    refine slots inv rfl (le_refl _) ?_ ?_ ?_ ?_
    · show c.flow.streamsReserved + 1 =
        reservedSlots (c.opens.modify op fun call => { call with pc := .reserved })
      rw [inv.ledgers.slots]
      omega
    · show c.flow.streamsOpened + (c.flow.streamsReserved + 1) ≤ c.flow.peerMaxStreams
      omega
    · intro other member j here
      rcases members other member with old | rfl
      · exact inv.registry.opening other old j here
      · cases here
    · refine OpenersParked.change _ ?_ members fun _ same => by cases same
      intro other member ticket waiting
      obtain ⟨early, blocked⟩ := inv.parked other member ticket waiting
      refine ⟨early, fun unresolved => ?_⟩
      obtain ⟨noFailure, full⟩ := blocked unresolved
      refine ⟨noFailure, ?_⟩
      show c.flow.peerMaxStreams ≤ c.flow.streamsOpened + (c.flow.streamsReserved + 1)
      omega
  · rw [blocked]
    refine setOpen _ inv free (by simp) (fun _ same => by cases same) ?_
    rintro _ ⟨⟩
    exact ⟨le_refl _, fun _ => ⟨noFailure, full⟩⟩

theorem openStream (aborted : Bool) (inv : ConnInv c) :
    ConnSpec silence c (c.openStream aborted) := by
  have called : ConnSpec silence c { c with opens := c.opens ++ [⟨.done, aborted⟩] } := by
    refine slots inv rfl (le_refl _) ?_ inv.slots.within ?_ ?_
    · rw [inv.ledgers.slots, ConnInv.reservedSlots_concat]
      rfl
    · intro call member j here
      rcases List.mem_append.mp member with old | new
      · exact inv.registry.opening call old j here
      · rw [List.mem_singleton.mp new] at here
        cases here
    · refine inv.parked.change ⟨.done, aborted⟩ (fun call member => ?_)
        fun _ same => by cases same
      exact (List.mem_append.mp member).imp id List.mem_singleton.mp
  have present : (c.opens ++ [(⟨.done, aborted⟩ : OpenCall)])[c.opens.length]? =
      some ⟨.done, aborted⟩ := by simp
  have unheld : ∀ call, (c.opens ++ [(⟨.done, aborted⟩ : OpenCall)])[c.opens.length]? = some call →
      call.pc ≠ .reserved := by
    intro call here
    rw [present] at here
    cases here
    simp
  unfold ConnCore.openStream
  dsimp only
  split
  · exact called.andThen (rejectOpen _ called.inv unheld)
  · split
    · exact called.andThen (rejectOpen _ called.inv unheld)
    · exact called.andThen (reserveSlot _ called.inv present (by simp))

theorem abandon (inv : ConnInv c) (present : k ∈ c.ids) : ConnSpec silence c (c.abandon k) :=
  touchLocal inv present ⟨fun _ => rfl, fun _ => rfl, rfl, rfl, rfl, rfl, rfl⟩ (.of_same rfl)

theorem openStreamAbort (inv : ConnInv c) : ConnSpec silence c (c.openStreamAbort op) := by
  unfold ConnCore.openStreamAbort
  cases present : c.opens[op]? with
  | none => exact refl inv
  | some call =>
    obtain ⟨count, members⟩ :=
      ConnInv.opens_modify present fun call => { call with aborted := true }
    have marked : ConnSpec silence c { c with
        opens := c.opens.modify op fun call => { call with aborted := true } } := by
      refine slots inv rfl (le_refl _) ?_ inv.slots.within ?_ ?_
      · rw [inv.ledgers.slots]
        exact congrArg Int.ofNat (Nat.add_right_cancel count).symm
      · intro other member j here
        rcases members other member with old | rfl
        · exact inv.registry.opening other old j here
        · exact inv.registry.opening call (List.mem_of_getElem? present) j here
      · refine inv.parked.change _ members fun ticket waiting => ?_
        exact inv.parked call (List.mem_of_getElem? present) ticket waiting
    have unheld : call.pc ≠ .reserved → ∀ other,
        (c.opens.modify op fun call => { call with aborted := true })[op]? = some other →
          other.pc ≠ .reserved := by
      intro free other here
      rw [List.getElem?_modify_eq, present] at here
      cases here
      exact free
    dsimp only
    split
    · next ticket waiting =>
      split
      · exact marked
      · exact marked.andThen (rejectOpen _ marked.inv (unheld (by rw [waiting]; simp)))
    · next j waiting =>
      have known : j ∈ c.ids :=
        inv.registry.opening call (List.mem_of_getElem? present) j waiting
      have left := marked.andThen (abandon marked.inv known)
      exact left.andThen (rejectOpen _ left.inv (unheld (by rw [waiting]; simp)))
    · exact marked

end ConnSpec

/-! ### New streams -/

/-- A new stream, before anything else happens to it. -/
structure Creates (k : Nat) (peerInitiated isOpen : Bool) (c c' : ConnCore) : Prop where
  absent : k ∉ c.ids
  ids : c'.ids = c.ids ++ [k]
  streams : c'.streams =
    Function.update c.streams k (KpsStream.new c.flow.localLimits peerInitiated isOpen)
  control : c'.control = c.control
  flow : c'.flow = { c.flow with
    streamsOpened := c'.flow.streamsOpened
    streamsReserved := c'.flow.streamsReserved
    peerOpenedStreams := c'.flow.peerOpenedStreams }
  ctlIn : c'.ctlIn = c.ctlIn
  helloSent : c'.helloSent = c.helloSent
  closeFired : c'.closeFired = c.closeFired

/-- An operation that makes stream `k`. -/
def CreateSpec (k : Nat) (peerInitiated isOpen : Bool) (c c' : ConnCore) : Prop :=
  ∃ middle, ConnInv middle ∧ Creates k peerInitiated isOpen c middle ∧ ConnSpec silence middle c'

namespace ConnSpec

variable {c : ConnCore} {k op : Nat}

/-- The slot of an `openStream` becomes a stream. -/
theorem commitSlot {call : OpenCall} (pc : OpenPc) (inv : ConnInv c) (absent : k ∉ c.ids)
    (isOpen : Bool) (present : c.opens[op]? = some call) (held : call.pc = .reserved)
    (free : pc ≠ .reserved) (waits : ∀ ticket, pc ≠ .reserving ticket)
    (opening : ∀ j, pc = .opening j → j = k) :
    ConnInv ({ c with
      flow := c.flow.commitStreamSlot
      opens := c.opens.modify op fun call => { call with pc } }.makeStream k false isOpen) := by
  obtain ⟨count, members⟩ := ConnInv.opens_modify present fun call => { call with pc }
  rw [if_pos held, if_neg free] at count
  refine inv.addStream absent false isOpen rfl rfl (add_zero _).symm ?_ ?_ inv.slots.unretired ?_ ?_
  · show c.flow.streamsReserved - 1 = _
    rw [inv.ledgers.slots]
    omega
  · show c.flow.streamsOpened + 1 + (c.flow.streamsReserved - 1) ≤ c.flow.peerMaxStreams
    have := inv.slots.within
    omega
  · intro other member j here
    rcases members other member with old | rfl
    · exact List.mem_append_left _ (inv.registry.opening other old j here)
    · rw [opening j here]
      exact List.mem_append_right _ List.mem_cons_self
  · refine OpenersParked.change _ ?_ members fun ticket same => absurd same (waits ticket)
    intro other member ticket waiting
    obtain ⟨early, blocked⟩ := inv.parked other member ticket waiting
    refine ⟨early, fun unresolved => ?_⟩
    obtain ⟨noFailure, full⟩ := blocked unresolved
    refine ⟨noFailure, ?_⟩
    show c.flow.peerMaxStreams ≤ c.flow.streamsOpened + 1 + (c.flow.streamsReserved - 1)
    omega

theorem openChannel {call : OpenCall} (aborted isOpen : Bool) (inv : ConnInv c)
    (absent : k ∉ c.ids) (present : c.opens[op]? = some call) (held : call.pc = .reserved) :
    CreateSpec k false isOpen c (c.openChannel op aborted k isOpen) := by
  unfold ConnCore.openChannel
  dsimp only
  split
  · have made := commitSlot .done inv absent isOpen present held (by simp) (by simp) (by simp)
    have left := abandon made (List.mem_append_right c.ids (List.mem_cons_self (a := k)))
    refine ⟨_, made, ⟨absent, rfl, rfl, rfl, rfl, rfl, rfl, rfl⟩, ?_⟩
    exact left.andThen (bookkeeping left.inv rfl rfl rfl rfl rfl rfl rfl rfl (fun _ => id)
      (fun _ => id) id)
  · have made := commitSlot (.opening k) inv absent isOpen present held (by simp) (by simp)
      fun j same => (OpenPc.opening.inj same).symm
    refine ⟨_, made, ⟨absent, rfl, rfl, rfl, rfl, rfl, rfl, rfl⟩, ?_⟩
    exact bookkeeping made rfl rfl rfl rfl rfl rfl rfl rfl (fun _ => id) (fun _ => id) id

theorem openChannelThrew {call : OpenCall} (error : KpsError) (inv : ConnInv c)
    (present : c.opens[op]? = some call) (held : call.pc = .reserved) :
    ConnSpec silence c (c.openChannelThrew op error) := by
  obtain ⟨count, members⟩ := ConnInv.opens_modify present fun call => { call with pc := .done }
  rw [if_pos held, if_neg (by simp)] at count
  have released : ConnSpec silence c { c with
      flow := c.flow.releaseStreamSlot
      opens := c.opens.modify op fun call => { call with pc := .done } } := by
    refine slots inv rfl (Nat.le_succ _) ?_ ?_ ?_ ?_
    · show c.flow.streamsReserved - 1 = _
      rw [inv.ledgers.slots]
      omega
    · show c.flow.streamsOpened + (c.flow.streamsReserved - 1) ≤ c.flow.peerMaxStreams
      have := inv.slots.within
      omega
    · intro other member j here
      rcases members other member with old | rfl
      · exact inv.registry.opening other old j here
      · cases here
    · exact OpenersParked.change _ inv.parked.wake members fun ticket same => by cases same
  exact released.andThen
    (bookkeeping released.inv rfl rfl rfl rfl rfl rfl rfl rfl (fun _ => id) (fun _ => id) id)

theorem openStreamResume (op : Nat) (channel : Except KpsError Nat) (isOpen : Bool)
    (inv : ConnInv c) : ConnSpec silence c (c.openStreamResume op channel isOpen) ∨
      ∃ k middle, channel = .ok k ∧ ConnInv middle ∧ Creates k false isOpen c middle ∧
        ConnSpec silence middle (c.openStreamResume op channel isOpen) := by
  unfold ConnCore.openStreamResume
  cases present : c.opens[op]? with
  | none => exact .inl (refl inv)
  | some call =>
    obtain ⟨pc, aborted⟩ := call
    have unheld : pc ≠ .reserved → ∀ other, c.opens[op]? = some other → other.pc ≠ .reserved := by
      intro free other here
      rw [present] at here
      cases here
      exact free
    cases pc with
    | done => exact .inl (refl inv)
    | reserving ticket =>
      dsimp only
      split
      · exact .inl (reserveSlot aborted inv present (by simp))
      · exact .inl (refl inv)
    | reserved =>
      cases channel with
      | error error => exact .inl (openChannelThrew error inv present rfl)
      | ok k =>
        dsimp only
        split
        · exact .inl (refl inv)
        · next absent =>
          obtain ⟨middle, admitted, made, spec⟩ :=
            openChannel aborted isOpen inv absent present rfl
          exact .inr ⟨k, middle, rfl, admitted, made, spec⟩
    | opening k =>
      dsimp only
      split
      · exact .inl (refl inv)
      · have finished := setOpen .done inv (unheld (by simp)) (by simp)
          (fun _ same => by cases same) (fun _ same => by cases same)
        exact .inl (finished.andThen (report finished.inv _))
      · exact .inl (rejectOpen _ inv (unheld (by simp)))

/-- A stream waits for the handshake. -/
theorem stage (inv : ConnInv c) (present : k ∈ c.ids) :
    ConnSpec silence c { c with staged := c.staged ++ [k] } := by
  obtain ⟨⟨nodup, blank, live, staged, opening⟩, ledgers, stream, data, slots, parked, view⟩ := inv
  obtain ⟨sent, reserved, received, consumed, opened, held, peerOpened, peerRetired⟩ := ledgers
  refine ⟨⟨⟨nodup, blank, live, fun j member => ?_, opening⟩,
    ⟨sent, reserved, received, consumed, opened, held, peerOpened, peerRetired⟩, stream, data,
    slots, parked, view⟩, { Evolves.refl c with limits := rfl }⟩
  rcases List.mem_append.mp member with old | new
  · exact staged j old
  · exact List.mem_singleton.mp new ▸ present

/-- The peer's stream appears, within the limit on streams. -/
theorem handleIncomingChannel {flow : ConnFlow} (isOpen : Bool) (inv : ConnInv c)
    (absent : k ∉ c.ids) (room : c.flow.peerStreamOpened = .ok flow) :
    CreateSpec k true isOpen c (c.handleIncomingChannel k isOpen) := by
  unfold ConnCore.handleIncomingChannel
  rw [room]
  unfold ConnFlow.peerStreamOpened at room
  split at room
  · cases room
  · next under =>
    cases room
    have made : ConnInv ({ c with
        flow := { c.flow with peerOpenedStreams := c.flow.peerOpenedStreams + 1 } }.makeStream k
          true isOpen) := by
      refine inv.addStream absent true isOpen rfl (add_zero _).symm rfl inv.ledgers.slots
        inv.slots.within ?_ ?_ inv.parked
      · show c.flow.peerOpenedStreams + 1 ≤
          c.flow.localLimits.initialMaxStreams + c.flow.peerRetiredStreams
        have := inv.slots.granted
        omega
      · exact fun call member j here =>
          List.mem_append_left _ (inv.registry.opening call member j here)
    refine ⟨_, made, ⟨absent, rfl, rfl, rfl, rfl, rfl, rfl, rfl⟩, ?_⟩
    dsimp only
    split
    · exact enqueueIncoming k made
    · exact stage made (List.mem_append_right _ List.mem_cons_self)

/-! ### Events of a stream -/

/-- A frame that the stream accepts. -/
theorem onFrame {data : Bytes} {frame : Frame} {x : StreamCtx} {retires : Bool} (inv : ConnInv c)
    (present : k ∈ c.ids) (parsed : parseFrame data = .ok frame)
    (handled : (c.ctx k).handleFrame frame = .done x retires) :
    ConnSpec (Function.update silence k [frame]) c (c.onFrame k data) := by
  obtain ⟨spec, writable⟩ :=
    StreamCtx.handleFrame_spec (inv.ctx present) (wf_of_parseFrame parsed) handled
  have taken := put inv present (StreamCtx.CtxSpec.rest spec writable)
    (StreamCtx.handleFrame_reads handled)
  unfold ConnCore.onFrame
  rw [parsed]
  dsimp only
  rw [handled]
  dsimp only
  split
  · exact taken.andThen (maybeRetire taken.inv present)
  · exact taken

/-- A write half ends at most once. -/
theorem endWrite {f : StreamCtx → StreamCtx} (inv : ConnInv c) (present : k ∈ c.ids)
    (spec : (c.streams k).localTerminal = none →
      CtxSpec [] (f (c.ctx k)).s.progress 0 (c.ctx k) (f (c.ctx k)))
    (reads : (c.streams k).Reads (f (c.ctx k)).s) :
    ConnSpec silence c
      (if (c.streams k).localTerminal.isSome then c else c.retireAfter k f) := by
  split
  · exact refl inv
  · next unended =>
    exact retireAfter inv present (spec (Option.not_isSome_iff_eq_none.mp unended)) reads

theorem closeWrite (inv : ConnInv c) (present : k ∈ c.ids) : ConnSpec silence c (c.closeWrite k) :=
  endWrite inv present (StreamCtx.closeWrite_spec (inv.ctx present))
    (StreamCtx.endWrite_reads _ _ _ (c.ctx k))

theorem resetWrite (reason : Option KpsReason) (inv : ConnInv c) (present : k ∈ c.ids) :
    ConnSpec silence c (c.resetWrite k reason) :=
  endWrite inv present (StreamCtx.resetWrite_spec reason (inv.ctx present))
    (StreamCtx.endWrite_reads _ _ _ (c.ctx k))

theorem cancelRead (reason : Option KpsReason) (inv : ConnInv c) (present : k ∈ c.ids) :
    ConnSpec silence c (c.cancelRead k reason) := by
  unfold ConnCore.cancelRead
  split
  · exact refl inv
  · exact retireAfter inv present (StreamCtx.cancelRead_spec reason (inv.ctx present))
      (StreamCtx.cancelRead_reads reason (c.ctx k))

theorem cancelReadable (reason : Option KpsReason) (inv : ConnInv c) (present : k ∈ c.ids) :
    ConnSpec silence c (c.cancelReadable k reason) := by
  unfold ConnCore.cancelReadable
  split
  · have marked : ConnSpec silence c (c.onStream k fun x =>
        { x with s := { x.s with readable := { x.s.readable with state := .cancelled } } }) :=
      onStream inv present (CtxSpec.reading (inv.ctx present)
        ((inv.stream k).read.finished .cancelled fun same => by cases same)
        (List.append_nil _).symm rfl (fun _ => rfl) rfl ⟨_, rfl⟩ rfl rfl rfl)
        ⟨id, id, id, fun closed => by cases closed⟩
    exact marked.andThen (cancelRead _ marked.inv present)
  · exact refl inv

theorem abandonResume (inv : ConnInv c) (present : k ∈ c.ids) :
    ConnSpec silence c (c.abandonResume k) := by
  unfold ConnCore.abandonResume
  split
  · have cleared : ConnSpec silence c (c.onStream k fun x =>
        { x with s := { x.s with abandoned := false } }) :=
      touchLocal inv present ⟨fun _ => rfl, fun _ => rfl, rfl, rfl, rfl, rfl, rfl⟩ (.of_same rfl)
    have reset := cleared.andThen (resetWrite (k := k) (some { code := some .cancelled })
      cleared.inv present)
    exact reset.andThen (cancelRead _ reset.inv (reset.step.ids ▸ present))
  · exact refl inv

/-- The channel of a stream closes under it. A `pull` that waits is woken. -/
theorem onChannelClose (inv : ConnInv c) (present : k ∈ c.ids) :
    ConnSpec silence
        (c.onStream k fun x => { x with
          s := { x.s with ch := x.s.ch.close, channelClosed := true } })
        (c.onChannelClose k) ∧
      (ReaderEarly (c.streams k) → ReaderParked ((c.onChannelClose k).streams k)) := by
  have shut : ConnInv (c.onStream k fun x =>
      { x with s := { x.s with ch := x.s.ch.close, channelClosed := true } }) :=
    inv.touch present (fun _ => rfl) (fun _ => rfl) rfl rfl rfl rfl
  have waits (early : ReaderEarly (c.streams k)) : ReaderEarly ((c.onStream k fun x =>
      { x with s := { x.s with ch := x.s.ch.close, channelClosed := true } }).streams k) := by
    show ReaderEarly (Function.update c.streams k _ k)
    rw [Function.update_self]
    exact early
  have lost {c' : ConnCore} (so : ConnSpec silence (c.onStream k fun x =>
      { x with s := { x.s with ch := x.s.ch.close, channelClosed := true } }) c') :
      ConnSpec silence (c.onStream k fun x =>
        { x with s := { x.s with ch := x.s.ch.close, channelClosed := true } })
          (c'.retireAfter k StreamCtx.channelLost) ∧
        (ReaderEarly (c.streams k) →
          ReaderParked ((c'.retireAfter k StreamCtx.channelLost).streams k)) := by
    have present : k ∈ c'.ids := so.step.ids ▸ present
    have reads := StreamCtx.channelLost_reads (c'.ctx k)
    have ran := onStream so.inv present (StreamCtx.channelLost_spec (so.inv.ctx present)) reads.1
    have retired := maybeRetire ran.inv (ran.step.ids ▸ present)
    refine ⟨so.andThen (ran.andThen retired), fun early => ?_⟩
    refine (retired.step.streams k).reads.parked ?_
    show ReaderParked (Function.update c'.streams k _ k)
    rw [Function.update_self]
    exact reads.2 ((so.step.streams k).reads.early (waits early))
  unfold ConnCore.onChannelClose
  dsimp only
  split
  · exact lost (protocolError _ shut)
  · exact lost (refl shut)

/-! ### Streams that are accepted, and datagrams -/

theorem acceptStream (waiter : Nat) (aborted : Bool) (inv : ConnInv c) :
    ConnSpec silence c (c.acceptStream waiter aborted) := by
  unfold ConnCore.acceptStream
  split
  · exact bookkeeping inv rfl rfl rfl rfl rfl rfl rfl rfl (fun _ => id) (fun _ => id) id
  · split
    · exact report inv _
    · split
      · exact report inv _
      · exact bookkeeping inv rfl rfl rfl rfl rfl rfl rfl rfl (fun _ => id) (fun _ => id) id

theorem acceptAbort (waiter : Nat) (inv : ConnInv c) :
    ConnSpec silence c (c.acceptAbort waiter) := by
  unfold ConnCore.acceptAbort
  split
  · exact bookkeeping inv rfl rfl rfl rfl rfl rfl rfl rfl (fun _ => id) (fun _ => id) id
  · exact refl inv

theorem onDatagram (data : Bytes) (inv : ConnInv c) : ConnSpec silence c (c.onDatagram data) := by
  unfold ConnCore.onDatagram
  split <;> exact bookkeeping inv rfl rfl rfl rfl rfl rfl rfl rfl (fun _ => id) (fun _ => id) id

theorem sendDatagram (data : Bytes) (aborted : Bool) (inv : ConnInv c) :
    ConnSpec silence c (c.sendDatagram data aborted) := by
  unfold ConnCore.sendDatagram
  split
  · exact report inv _
  · split
    · exact report inv _
    · split
      · exact report inv _
      · exact bookkeeping inv rfl rfl rfl rfl rfl rfl rfl rfl (fun _ => id) (fun _ => id) id

theorem receiveDatagram (waiter : Nat) (aborted : Bool) (inv : ConnInv c) :
    ConnSpec silence c (c.receiveDatagram waiter aborted) := by
  unfold ConnCore.receiveDatagram
  split
  · exact bookkeeping inv rfl rfl rfl rfl rfl rfl rfl rfl (fun _ => id) (fun _ => id) id
  · split
    · exact report inv _
    · split
      · exact report inv _
      · exact bookkeeping inv rfl rfl rfl rfl rfl rfl rfl rfl (fun _ => id) (fun _ => id) id

theorem receiveAbort (waiter : Nat) (inv : ConnInv c) :
    ConnSpec silence c (c.receiveAbort waiter) := by
  unfold ConnCore.receiveAbort
  split
  · exact bookkeeping inv rfl rfl rfl rfl rfl rfl rfl rfl (fun _ => id) (fun _ => id) id
  · exact refl inv

end ConnSpec

/-! ### Events -/

/-- An event that brings nothing of the peer, makes no stream and leaves the channels' states. -/
def Event.isLocal : Event → Bool
  | .controlOpen | .controlMessage _ | .controlClose | .incomingChannel _ _
  | .openStreamResume _ _ _ | .channelOpen _ | .channelMessage _ _ | .channelClosing _
  | .channelClose _ => false
  | _ => true

namespace ConnInv

variable {c : ConnCore} {k : Nat}

theorem localStreamEvent {event : Event} (inv : ConnInv c) (present : k ∈ c.ids)
    (silent : event.isLocal = true) : ConnSpec silence c (c.streamEvent k event) := by
  have ctx := inv.ctx present
  cases event with
  | channelOpen | channelMessage | channelClosing | channelClose => cases silent
  | channelError _ text => exact ConnSpec.touchLocal inv present (by
      exact ((((KpsStream.SameHalves.settle _ _).trans (.settleOpen _ _)).trans
        (.wakeReader _)).trans (.wakeDrain _))) (KpsStream.onError_reads text _)
  | bufferedAmount _ amount =>
    refine ConnSpec.touch inv present ?_ ?_ ?_ ?_ ?_ ?_ ?_ ?_ ?_ <;> dsimp only [ConnCore.ctx] <;>
      split <;> first | rfl | exact fun _ => rfl | exact .of_same rfl
  | write _ chunk =>
    exact ConnSpec.onStream inv present (StreamCtx.writeChunk_spec chunk ctx)
      (StreamCtx.writeChunk_reads chunk (c.ctx k))
  | writeResume =>
    exact ConnSpec.onStream inv present (StreamCtx.writeResume_spec ctx)
      (StreamCtx.writeResume_reads (c.ctx k))
  | read =>
    exact ConnSpec.runStream inv present (StreamCtx.read_spec ctx)
      (StreamCtx.read_reads (c.ctx k))
  | readResume =>
    exact ConnSpec.runStream inv present (StreamCtx.readResume_spec ctx)
      (StreamCtx.readResume_reads (c.ctx k))
  | closeWrite => exact ConnSpec.closeWrite inv present
  | resetWrite _ reason => exact ConnSpec.resetWrite reason inv present
  | cancelRead _ reason => exact ConnSpec.cancelRead reason inv present
  | cancelReadable _ reason => exact ConnSpec.cancelReadable reason inv present
  | abandonResume => exact ConnSpec.abandonResume inv present
  | _ => exact ConnSpec.refl inv

theorem localConnEvent {event : Event} (inv : ConnInv c) (silent : event.isLocal = true) :
    ConnSpec silence c (c.connEvent event) := by
  cases event with
  | controlOpen | controlMessage | controlClose | incomingChannel | openStreamResume => cases silent
  | controlError => exact ConnSpec.reservedChannelLost _ inv
  | datagramOpen =>
    exact ConnSpec.bookkeeping inv rfl rfl rfl rfl rfl rfl rfl rfl (fun _ => id) (fun _ => id) id
  | datagramMessage data => exact ConnSpec.onDatagram data inv
  | datagramClose =>
    have shut : ConnSpec silence c { c with datagram := c.datagram.close } :=
      ConnSpec.bookkeeping inv rfl rfl rfl rfl rfl rfl rfl rfl (fun _ => id) (fun _ => id) id
    exact shut.andThen (ConnSpec.reservedChannelLost _ shut.inv)
  | helloTimer => exact ConnSpec.onHelloTimer inv
  | transportFailed message => exact ConnSpec.onTransportFailed message inv
  | transportClosed => exact ConnSpec.onTransportClosed inv
  | openStream aborted => exact ConnSpec.openStream aborted inv
  | openStreamAbort op => exact ConnSpec.openStreamAbort inv
  | acceptStream waiter aborted => exact ConnSpec.acceptStream waiter aborted inv
  | acceptAbort waiter => exact ConnSpec.acceptAbort waiter inv
  | sendDatagram data aborted => exact ConnSpec.sendDatagram data aborted inv
  | receiveDatagram waiter aborted => exact ConnSpec.receiveDatagram waiter aborted inv
  | receiveAbort waiter => exact ConnSpec.receiveAbort waiter inv
  | close reason => exact ConnSpec.close reason inv
  | _ => exact ConnSpec.refl inv

/-- An event of this end alone. -/
theorem localStep {event : Event} (inv : ConnInv c) (silent : event.isLocal = true) :
    ConnSpec silence c (c.step event) := by
  unfold ConnCore.step
  split
  · split
    · next present => exact inv.localStreamEvent present silent
    · exact ConnSpec.refl inv
  · exact inv.localConnEvent silent

end ConnInv

/-- A frame of the peer that breaks the protocol, and what `fatal` is told. -/
inductive BadFrame (c : ConnCore) (k : Nat) (data : Bytes) : String → Prop
  | unparsed {text : String} (parsed : parseFrame data = .error text) : BadFrame c k data text
  | violation {frame : Frame} {text : String} (parsed : parseFrame data = .ok frame)
    (handled : (c.ctx k).handleFrame frame = .violation text) : BadFrame c k data text

theorem ConnCore.onFrame_bad {c : ConnCore} {k : Nat} {data : Bytes} {text : String}
    (bad : BadFrame c k data text) : c.onFrame k data = c.protocolError text := by
  unfold onFrame
  cases bad with
  | unparsed parsed => rw [parsed]
  | violation parsed handled =>
    rw [parsed]
    dsimp only
    rw [handled]

/-- What an event does to an end before the end reacts to it: the frames that are accepted and the
state the reaction starts from. -/
inductive Arrives (c : ConnCore) : Event → (Nat → List Frame) → ConnCore → Prop
  | local {event : Event} (silent : event.isLocal = true) : Arrives c event silence c
  | stranger {event : Event} {k : Nat} (about : event.stream = some k) (absent : k ∉ c.ids) :
    Arrives c event silence c
  | controlOpen (fresh : c.helloSent = false ∧ c.closeFired = false) :
    Arrives c .controlOpen silence
      { c with control := { c.control with opened := true } }.greeted
  | controlReopen (stale : c.helloSent = true ∨ c.closeFired = true) :
    Arrives c .controlOpen silence { c with control := { c.control with opened := true } }
  | controlGarbled {data : Bytes} {text : String} (decoded : decodeControl data = .error text) :
    Arrives c (.controlMessage data) silence c
  | controlMessage {data : Bytes} {message : ControlMsg}
    (decoded : decodeControl data = .ok message) :
    Arrives c (.controlMessage data) silence (c.learn message)
  | controlClose : Arrives c .controlClose silence { c with control := c.control.close }
  | channelKnown {k : Nat} {isOpen : Bool} (present : k ∈ c.ids) :
    Arrives c (.incomingChannel k isOpen) silence c
  | channelRefused {k : Nat} {isOpen : Bool} {text : String}
    (full : c.flow.peerStreamOpened = .error text) :
    Arrives c (.incomingChannel k isOpen) silence c
  | incomingChannel {k : Nat} {isOpen : Bool} {middle : ConnCore}
    (made : Creates k true isOpen c middle) : Arrives c (.incomingChannel k isOpen) silence middle
  | openStreamResume {op : Nat} {channel : Except KpsError Nat} {isOpen : Bool} :
    Arrives c (.openStreamResume op channel isOpen) silence c
  | openChannel {op k : Nat} {isOpen : Bool} {middle : ConnCore}
    (made : Creates k false isOpen c middle) :
    Arrives c (.openStreamResume op (.ok k) isOpen) silence middle
  | channelOpen {k : Nat} (present : k ∈ c.ids) :
    Arrives c (.channelOpen k) silence (c.streamEvent k (.channelOpen k))
  | badFrame {k : Nat} {data : Bytes} {text : String} (present : k ∈ c.ids)
    (bad : BadFrame c k data text) : Arrives c (.channelMessage k data) silence c
  | channelMessage {k : Nat} {data : Bytes} {frame : Frame} (present : k ∈ c.ids)
    (parsed : parseFrame data = .ok frame) :
    Arrives c (.channelMessage k data) (Function.update silence k [frame]) c
  | channelClosing {k : Nat} (present : k ∈ c.ids) :
    Arrives c (.channelClosing k) silence (c.streamEvent k (.channelClosing k))
  | channelClose {k : Nat} (present : k ∈ c.ids) :
    Arrives c (.channelClose k) silence
      (c.onStream k fun x => { x with s := { x.s with ch := x.s.ch.close, channelClosed := true } })

/-- An event is something that arrives, and the reaction to it. -/
structure StepSpec (c : ConnCore) (event : Event) (c' : ConnCore) : Prop where
  split : ∃ heard middle, Arrives c event heard middle ∧ ConnInv middle ∧ ConnSpec heard middle c'

theorem StepSpec.inv {c c' : ConnCore} {event : Event} (spec : StepSpec c event c') :
    ConnInv c' := by
  obtain ⟨_, _, _, _, reaction⟩ := spec.split
  exact reaction.inv

namespace ConnInv

variable {c : ConnCore} {k : Nat}

theorem controlOpen (inv : ConnInv c) : StepSpec c .controlOpen (c.step .controlOpen) := by
  have opened : ConnInv { c with control := { c.control with opened := true } } :=
    inv.onControl { c.control with opened := true } c.helloSent fun _ member _ => member
  show StepSpec c _ (ConnCore.sendHello _)
  rw [ConnCore.sendHello_eq]
  split
  · next stale =>
    exact ⟨_, _, .controlReopen (by simpa using stale), opened, ConnSpec.refl opened⟩
  · next fresh =>
    exact ⟨_, _, .controlOpen (by simpa using fresh), opened.greeted,
      ConnSpec.checkEstablished opened.greeted⟩

theorem controlMessage (inv : ConnInv c) (data : Bytes) :
    StepSpec c (.controlMessage data) (c.step (.controlMessage data)) := by
  show StepSpec c _ (c.onControl data)
  unfold ConnCore.onControl
  cases decoded : decodeControl data with
  | error text => exact ⟨_, _, .controlGarbled decoded, inv, ConnSpec.protocolError text inv⟩
  | ok message =>
    exact ⟨_, _, .controlMessage decoded, inv.learn message, ConnSpec.handleControl message inv⟩

theorem incomingChannel (inv : ConnInv c) (k : Nat) (isOpen : Bool) :
    StepSpec c (.incomingChannel k isOpen) (c.step (.incomingChannel k isOpen)) := by
  show StepSpec c _ (if k ∈ c.ids then c else c.handleIncomingChannel k isOpen)
  split
  · next present => exact ⟨_, _, .channelKnown present, inv, ConnSpec.refl inv⟩
  · next absent =>
    cases result : c.flow.peerStreamOpened with
    | error text =>
      have refused : c.handleIncomingChannel k isOpen = c.protocolError text := by
        rw [ConnCore.handleIncomingChannel, result]
      rw [refused]
      exact ⟨_, _, .channelRefused result, inv, ConnSpec.protocolError text inv⟩
    | ok flow =>
      obtain ⟨middle, admitted, made, spec⟩ :=
        ConnSpec.handleIncomingChannel isOpen inv absent result
      exact ⟨_, middle, .incomingChannel made, admitted, spec⟩

theorem openStreamResume (inv : ConnInv c) (op : Nat) (channel : Except KpsError Nat)
    (isOpen : Bool) : StepSpec c (.openStreamResume op channel isOpen)
      (c.step (.openStreamResume op channel isOpen)) := by
  rcases ConnSpec.openStreamResume op channel isOpen inv with spec
    | ⟨k, middle, rfl, admitted, made, spec⟩
  · exact ⟨_, _, .openStreamResume, inv, spec⟩
  · exact ⟨_, middle, .openChannel made, admitted, spec⟩

theorem channelOpen (inv : ConnInv c) (present : k ∈ c.ids) :
    StepSpec c (.channelOpen k) (c.streamEvent k (.channelOpen k)) := by
  have same := KpsStream.SameHalves.settleOpen none
    { c.streams k with ch := { (c.streams k).ch with opened := true } }
  have opened : ConnInv (c.streamEvent k (.channelOpen k)) := inv.touch present same.read same.write
    same.sf same.writable same.initiated same.retiredFired
  exact ⟨_, _, .channelOpen present, opened, ConnSpec.refl opened⟩

theorem channelMessage (inv : ConnInv c) (present : k ∈ c.ids) (data : Bytes) :
    StepSpec c (.channelMessage k data) (c.onFrame k data) := by
  have refused {text : String} (bad : BadFrame c k data text) :
      StepSpec c (.channelMessage k data) (c.onFrame k data) := by
    rw [ConnCore.onFrame_bad bad]
    exact ⟨_, _, .badFrame present bad, inv, ConnSpec.protocolError text inv⟩
  cases parsed : parseFrame data with
  | error text => exact refused (.unparsed parsed)
  | ok frame =>
    cases handled : (c.ctx k).handleFrame frame with
    | violation text => exact refused (.violation parsed handled)
    | done x retires =>
      exact ⟨_, _, .channelMessage present parsed, inv,
        ConnSpec.onFrame inv present parsed handled⟩

/-- **Every event is something that arrives, and a reaction that keeps the invariant.** -/
theorem step (inv : ConnInv c) (event : Event) : StepSpec c event (c.step event) := by
  by_cases silent : event.isLocal = true
  · exact ⟨_, _, .local silent, inv, inv.localStep silent⟩
  · cases about : event.stream with
    | some k =>
      by_cases absent : k ∉ c.ids
      · have same : c.step event = c := by
          unfold ConnCore.step
          rw [about]
          exact if_neg absent
        rw [same]
        exact ⟨_, _, .stranger about absent, inv, ConnSpec.refl inv⟩
      · have present : k ∈ c.ids := not_not.mp absent
        have known : c.step event = c.streamEvent k event := by
          unfold ConnCore.step
          rw [about]
          exact if_pos present
        rw [known]
        cases event with
        | channelOpen =>
          cases about
          exact inv.channelOpen present
        | channelMessage _ data =>
          cases about
          exact inv.channelMessage present data
        | channelClosing =>
          cases about
          have closing := inv.touch (s := { c.streams k with ch := (c.streams k).ch.close }) present
            (fun _ => rfl) (fun _ => rfl) rfl rfl rfl rfl
          exact ⟨_, _, .channelClosing present, closing, ConnSpec.refl closing⟩
        | channelClose =>
          cases about
          have shut := inv.touch (s := { c.streams k with
            ch := (c.streams k).ch.close, channelClosed := true }) present
            (fun _ => rfl) (fun _ => rfl) rfl rfl rfl rfl
          exact ⟨_, _, .channelClose present, shut, (ConnSpec.onChannelClose inv present).1⟩
        | _ => first | exact absurd rfl silent | cases about
    | none =>
      cases event with
      | controlOpen => exact inv.controlOpen
      | controlMessage data => exact inv.controlMessage data
      | controlClose =>
        have shut : ConnInv { c with control := c.control.close } :=
          inv.onControl c.control.close c.helloSent fun _ member _ => member
        exact ⟨_, _, .controlClose, shut, ConnSpec.reservedChannelLost _ shut⟩
      | incomingChannel k isOpen => exact inv.incomingChannel k isOpen
      | openStreamResume op channel isOpen => exact inv.openStreamResume op channel isOpen
      | _ => first | exact absurd rfl silent | cases about

end ConnInv

/-- Learning from a control message changes the limits learned, and records the message. -/
theorem ConnCore.learn_eq (message : ControlMsg) (c : ConnCore) : ∃ flow peerHello,
    c.learn message = { c with flow, peerHello, ctlIn := c.ctlIn ++ [message] } ∧
      flow.localLimits = c.flow.localLimits := by
  unfold learn ConnFlow.onPeerMaxData ConnFlow.onPeerMaxStreams
  cases message <;> dsimp only <;> repeat' split
  all_goals exact ⟨_, _, rfl, rfl⟩

theorem Arrives.limits {c middle : ConnCore} {event : Event} {heard : Nat → List Frame}
    (arrives : Arrives c event heard middle) :
    middle.flow.localLimits = c.flow.localLimits := by
  cases arrives with
  | controlMessage =>
    obtain ⟨flow, peerHello, learned, limits⟩ := ConnCore.learn_eq _ c
    rw [learned]
    exact limits
  | incomingChannel made | openChannel made => rw [made.flow]
  | _ => rfl

/-- Only the control channel's own events change it, or HELLO, ahead of the reaction. -/
theorem Arrives.control {c middle : ConnCore} {event : Event} {heard : Nat → List Frame}
    (arrives : Arrives c event heard middle) (notOpen : event ≠ .controlOpen)
    (notClose : event ≠ .controlClose) : middle.control = c.control ∧
      middle.helloSent = c.helloSent ∧ middle.closeFired = c.closeFired := by
  cases arrives with
  | controlOpen | controlReopen => exact absurd rfl notOpen
  | controlClose => exact absurd rfl notClose
  | controlMessage =>
    obtain ⟨flow, peerHello, learned, -⟩ := ConnCore.learn_eq _ c
    rw [learned]
    exact ⟨rfl, rfl, rfl⟩
  | incomingChannel made | openChannel made => exact ⟨made.control, made.helloSent, made.closeFired⟩
  | _ => exact ⟨rfl, rfl, rfl⟩

/-- The state after some events, whatever the peer, the transport and the application do. -/
def ConnCore.after (limits : FlowLimits) (controlOpen : Bool) (events : List Event) : ConnCore :=
  events.foldl ConnCore.step (ConnCore.new limits controlOpen)

theorem ConnCore.after_concat (limits : FlowLimits) (controlOpen : Bool) (events : List Event)
    (event : Event) : ConnCore.after limits controlOpen (events ++ [event]) =
      (ConnCore.after limits controlOpen events).step event := by
  simp [ConnCore.after]

/-- **Every reachable state satisfies the invariant.** -/
theorem ConnInv.after (limits : FlowLimits) (controlOpen : Bool) (events : List Event) :
    ConnInv (ConnCore.after limits controlOpen events) :=
  fold_invariant (fun (c : ConnCore) event (inv : ConnInv c) => (inv.step event).inv) events
    (ConnInv.new limits controlOpen)

theorem ConnCore.localLimits_new (limits : FlowLimits) (controlOpen : Bool) :
    (ConnCore.new limits controlOpen).flow.localLimits = limits := by
  unfold ConnCore.new
  dsimp only
  split
  · rw [sendHello_eq]
    rfl
  · rfl

/-- The limits an end was made with are never changed. -/
theorem ConnCore.localLimits_after (limits : FlowLimits) (controlOpen : Bool)
    (events : List Event) :
    (ConnCore.after limits controlOpen events).flow.localLimits = limits := by
  induction events using List.reverseRecOn with
  | nil => exact ConnCore.localLimits_new limits controlOpen
  | append_singleton events event ih =>
    rw [ConnCore.after_concat]
    obtain ⟨_, _, arrives, _, reaction⟩ :=
      ((ConnInv.after limits controlOpen events).step event).split
    rw [reaction.step.limits, arrives.limits, ih]

end Kps.Ts
