/-
**The wait for the send queue** (`#drainLocal` of `stream-core.ts`).

A `#writeChunk` waits while `bufferedAmount` is at `LOCAL_SEND_BUFFER_LOW` or above it. It is woken
by the event `bufferedamountlow`, which a channel fires when the amount decreases from above the
threshold to the threshold or below it. `SendBuffers` is a connection with the events of its
channels that wait for their turn.

* `Drains.does` — whatever the methods of a stream do, a parked `#writeChunk` has a full queue
  before it, or an event to come;
* `never_stranded_iff` — so no `#writeChunk` is left behind in exactly those runs in which no queue
  decreases from the threshold itself under a parked `#writeChunk`;
* `frames_strand` — sixty-four frames of full size reach the threshold itself.
-/

import Kps.Lib.Run
import Kps.Ts.Lifecycle
import Mathlib.Tactic.Ring

namespace Kps.Ts

open Kps.Lib

namespace KpsStream

/-- The ticket of a `#writeChunk` in `#drainLocal`. -/
def draining (s : KpsStream) : Option Nat :=
  match s.writable.call with
  | some ⟨_, _, .draining _ ticket⟩ => some ticket
  | _ => none

/-- A `#writeChunk` is parked in `#drainLocal`, and was not woken. -/
def parked (s : KpsStream) : Bool := s.draining.any fun ticket => !s.drainWake.resolved ticket

/-- A `#writeChunk` is parked on an open channel with room in its send queue. -/
def stranded (s : KpsStream) : Bool :=
  s.parked && s.ch.isOpen && decide (s.ch.bufferedAmount < localSendBufferLow)

/-- What leaves the waiting `#writeChunk`: its call, its channel, and the bytes before it. -/
structure Spares (s s' : KpsStream) : Prop where
  call : s'.writable.call = s.writable.call
  wakes : s.drainWake.wakes ≤ s'.drainWake.wakes
  opened : s.ch.opened = true → s'.ch.opened = true
  isOpen : s.ch.opened = true → s'.ch.isOpen = true → s.ch.isOpen = true
  amount : s.ch.bufferedAmount ≤ s'.ch.bufferedAmount

variable {s s' s'' : KpsStream} {lows : Nat}

theorem Spares.same (call : s'.writable.call = s.writable.call)
    (drainWake : s'.drainWake = s.drainWake) (ch : s'.ch = s.ch) : Spares s s' where
  call := call
  wakes := by rw [drainWake]
  opened := by rw [ch]; exact id
  isOpen := by rw [ch]; exact fun _ => id
  amount := by rw [ch]

theorem Spares.refl (s : KpsStream) : Spares s s := .same rfl rfl rfl

theorem Spares.trans (first : Spares s s') (second : Spares s' s'') : Spares s s'' where
  call := second.call.trans first.call
  wakes := Nat.le_trans first.wakes second.wakes
  opened := fun opened => second.opened (first.opened opened)
  isOpen := fun opened isOpen => first.isOpen opened (second.isOpen (first.opened opened) isOpen)
  amount := Nat.le_trans first.amount second.amount

/-- Every waiting `#writeChunk` waits on a channel that opened, and has a full queue before it or an
event to come, as long as it is parked on an open channel. -/
structure Drains (lows : Nat) (s : KpsStream) : Prop where
  waits : ∀ ticket ∈ s.draining, s.ch.opened = true ∧ ticket ≤ s.drainWake.wakes
  full : s.parked = true → s.ch.isOpen = true →
    localSendBufferLow ≤ s.ch.bufferedAmount ∨ 0 < lows

theorem parked_iff : s.parked = true ↔ ∃ ticket ∈ s.draining, s.drainWake.wakes ≤ ticket := by
  unfold parked
  simp [Option.any_eq_true, Wakeable.resolved]

theorem Drains.spares (drains : Drains lows s) (spares : Spares s s') : Drains lows s' := by
  have same : s'.draining = s.draining := by
    unfold draining
    rw [spares.call]
  refine ⟨fun ticket waits => ?_, fun parked isOpen => ?_⟩
  · obtain ⟨opened, early⟩ := drains.waits ticket (same ▸ waits)
    exact ⟨spares.opened opened, Nat.le_trans early spares.wakes⟩
  · obtain ⟨ticket, waits, late⟩ := parked_iff.mp parked
    rw [same] at waits
    have before : s.parked = true := parked_iff.mpr ⟨ticket, waits, Nat.le_trans spares.wakes late⟩
    have opened := (drains.waits ticket waits).1
    rcases drains.full before (spares.isOpen opened isOpen) with full | low
    · exact Or.inl (Nat.le_trans full spares.amount)
    · exact Or.inr low

/-! ### What the methods of a stream leave -/

namespace Spares

theorem settleOpen (spares : Spares s s') (error : Option KpsError) :
    Spares s (s'.settleOpen error) := by
  refine spares.trans ?_
  unfold KpsStream.settleOpen
  split <;> exact .same rfl rfl rfl

theorem settle (spares : Spares s s') (info : CloseInfo) : Spares s (s'.settle info) := by
  refine spares.trans ?_
  unfold KpsStream.settle
  split <;> exact .same rfl rfl rfl

theorem wakeReader (spares : Spares s s') :
    Spares s s'.wakeReader := spares.trans (.same rfl rfl rfl)

theorem wakeDrain (spares : Spares s s') : Spares s s'.wakeDrain := by
  refine spares.trans ⟨rfl, Nat.le_succ _, id, fun _ => id, Nat.le_refl _⟩

theorem onError (text : String) (s : KpsStream) : Spares s (s.onError text) :=
  (((settle (.refl s) _).settleOpen _).wakeReader).wakeDrain

variable {x x' : StreamCtx}

theorem accounts (spares : Spares s x.s) (accounts : StreamCtx.Accounts x x') : Spares s x'.s :=
  spares.trans
    { call := by rw [accounts.stream]
      wakes := by rw [accounts.stream]
      opened := fun opened => accounts.opened.trans opened
      isOpen := fun _ isOpen => by
        unfold Channel.isOpen at isOpen ⊢
        rwa [← accounts.opened, ← accounts.closed]
      amount := accounts.amount }

theorem takes {frame : Frame} (takes : StreamCtx.Takes frame x x') : Spares x.s x'.s where
  call := by rw [takes.stream]
  wakes := by rw [takes.stream]
  opened := fun opened => takes.opened.trans opened
  isOpen := fun _ isOpen => by
    unfold Channel.isOpen at isOpen ⊢
    rwa [← takes.opened, ← takes.closed]
  amount := takes.amount

theorem sendIfOpen (spares : Spares s x.s) (frame : Frame) : Spares s (x.sendIfOpen frame).s :=
  spares.trans
    { call := rfl
      wakes := Nat.le_refl _
      opened := fun opened => Channel.opened_sendIfOpen.trans opened
      isOpen := fun _ isOpen => Channel.isOpen_sendIfOpen.symm.trans isOpen
      amount := Channel.amount_sendIfOpen }

theorem failSend (spares : Spares s x.s) (error : KpsError) :
    Spares s (x.failSend error).s := spares.trans (.same rfl rfl rfl)

theorem discardInbuf (spares : Spares s x.s) : Spares s x.discardInbuf.s := by
  have emptied : Spares s { x.s with inbuf := [] } := spares.trans (.same rfl rfl rfl)
  exact accounts emptied (StreamCtx.discardInbuf_accounts x)

theorem pull (x : StreamCtx) : Spares x.s x.pull.1.s := by
  unfold StreamCtx.pull
  split
  · exact .same rfl rfl rfl
  · next chunk rest _ =>
    unfold StreamCtx.deliverChunk
    refine accounts ?_ (StreamCtx.onConsumed_accounts chunk.length _)
    exact .same rfl rfl rfl
  · exact .same rfl rfl rfl
  · exact .same rfl rfl rfl

theorem read (x : StreamCtx) : Spares x.s x.read.1.s := by
  unfold StreamCtx.read
  split
  · exact pull x
  · exact .same rfl rfl rfl

theorem readResume (x : StreamCtx) : Spares x.s x.readResume.1.s := by
  unfold StreamCtx.readResume
  split
  · exact .same rfl rfl rfl
  · split
    · exact pull x
    · exact .same rfl rfl rfl

theorem endWrite (terminal : Terminal) (error : KpsError) (frame : Frame) (x : StreamCtx) :
    Spares x.s (x.endWrite terminal error frame).s := by
  unfold StreamCtx.endWrite
  refine sendIfOpen (failSend ?_ error) frame
  exact .same rfl rfl rfl

theorem closeWrite (x : StreamCtx) : Spares x.s x.closeWrite.s := by
  unfold StreamCtx.closeWrite
  exact endWrite _ _ _ x

theorem resetWrite (reason : Option KpsReason) (x : StreamCtx) :
    Spares x.s (x.resetWrite reason).s := by
  unfold StreamCtx.resetWrite
  exact endWrite _ _ _ x

theorem cancelRead (reason : Option KpsReason) (x : StreamCtx) :
    Spares x.s (x.cancelRead reason).s := by
  have marked : Spares x.s { x.s with
      readCancelled := true
      readError := some (reason.getD { code := some .cancelled })
      sf := x.s.sf.markCancelled } := .same rfl rfl rfl
  unfold StreamCtx.cancelRead
  dsimp only
  refine wakeReader ?_
  split
  · refine sendIfOpen (discardInbuf ?_) _
    exact marked
  · refine discardInbuf ?_
    exact marked

theorem destroy (reason : Option KpsReason) (x : StreamCtx) : Spares x.s (x.destroy reason).s := by
  unfold StreamCtx.destroy
  dsimp only
  refine (((settleOpen (failSend ?_ _) _).settle _).wakeReader).wakeDrain
  exact (discardInbuf (.refl x.s)).trans (.same rfl rfl rfl)

theorem channelLost (x : StreamCtx) : Spares x.s x.channelLost.s :=
  ((((failSend (.refl x.s) _).settleOpen _).settle _).wakeReader).wakeDrain

theorem close (s : KpsStream) : Spares s { s with ch := s.ch.close } where
  call := rfl
  wakes := Nat.le_refl _
  opened := id
  amount := Nat.le_refl _
  isOpen := fun _ isOpen => by
    unfold Channel.isOpen Channel.close at isOpen
    simp at isOpen

theorem destroyed (torn : Relation.ReflTransGen Destroyed s s') : Spares s s' := by
  induction torn with
  | refl => exact .refl s
  | tail _ destroyed ih =>
    cases destroyed with
    | destroy reason x => exact ih.trans (destroy reason x)

end Spares

/-- A `#writeChunk` that parks finds the channel open and the queue full. -/
theorem Drains.writes {x x' : StreamCtx} (drains : Drains lows x.s)
    (writes : StreamCtx.Writes x x') :
    Drains lows x'.s := by
  have wakes : x'.s.drainWake = x.s.drainWake := by rw [writes.stream]
  have fresh : ∀ ticket ∈ x'.s.draining, ticket ∈ x.s.draining ∨
      x.s.ch.isOpen = true ∧ ticket = x.s.drainWake.wakes ∧
        localSendBufferLow ≤ x'.s.ch.bufferedAmount := by
    intro ticket waits
    unfold draining at waits
    split at waits
    · next chunk off amount ticket' running =>
      cases waits
      rcases writes.draining _ amount ticket running rfl with same | parks
      · refine Or.inl ?_
        unfold draining
        rw [← same, running]
        rfl
      · exact Or.inr parks
    · cases waits
  have isOpen : x'.s.ch.isOpen = x.s.ch.isOpen := by
    unfold Channel.isOpen
    rw [writes.opened, writes.closed]
  refine ⟨fun ticket waits => ?_, fun parked open' => ?_⟩
  · rw [wakes, writes.opened]
    rcases fresh ticket waits with old | ⟨isOpen, now, -⟩
    · exact drains.waits ticket old
    · exact ⟨((Bool.and_eq_true _ _).mp isOpen).1, now.le⟩
  · obtain ⟨ticket, waits, late⟩ := parked_iff.mp parked
    rcases fresh ticket waits with old | ⟨-, -, full⟩
    · have before : x.s.parked = true := parked_iff.mpr ⟨ticket, old, wakes ▸ late⟩
      rw [isOpen] at open'
      exact (drains.full before open').imp (fun full => Nat.le_trans full writes.amount) id
    · exact Or.inl full

theorem drains_of_idle (idle : s.writable.call = none) : Drains lows s := by
  have none : s.draining = none := by
    unfold draining
    rw [idle]
  refine ⟨fun ticket waits => ?_, fun parked _ => ?_⟩
  · rw [none] at waits
    cases waits
  · obtain ⟨ticket, waits, -⟩ := parked_iff.mp parked
    rw [none] at waits
    cases waits

/-- **What the methods of a stream keep** of a waiting `#writeChunk`. -/
theorem Drains.does (drains : Drains lows s) (does : s.Does s') : Drains lows s' := by
  cases does with
  | opens =>
    have opens : Spares s { s with ch := { s.ch with opened := true } } := by
      refine ⟨rfl, Nat.le_refl _, fun _ => rfl, fun opened isOpen => ?_, Nat.le_refl _⟩
      unfold Channel.isOpen at isOpen ⊢
      rw [opened]
      exact isOpen
    exact drains.spares (opens.settleOpen none)
  | takes handled => exact drains.spares (.takes (StreamCtx.handleFrame_takes handled))
  | closes => exact drains.spares (.close s)
  | retires => exact drains.spares (.same rfl rfl rfl)
  | loses torn =>
    have shut : Spares s s.shut := Spares.trans (.close s) (.same rfl rfl rfl)
    exact drains.spares ((shut.trans (.destroyed torn)).trans (.channelLost _))
  | fails text => exact drains.spares (.onError text s)
  | writes chunk x => exact drains.writes (.writeChunk chunk x)
  | resumes x => exact drains.writes (.writeResume x)
  | reads x => exact drains.spares (.read x)
  | wakes x => exact drains.spares (.readResume x)
  | closesWrite x => exact drains.spares (.closeWrite x)
  | resetsWrite reason x => exact drains.spares (.resetWrite reason x)
  | cancelsRead reason x => exact drains.spares (.cancelRead reason x)
  | leaves => exact drains.spares (.same rfl rfl rfl)
  | abandons => exact drains.spares (.same rfl rfl rfl)
  | destroyed destroyed => exact drains.spares (.destroyed (.single destroyed))

theorem drains_lasting (lows : Nat) : Lasting (Drains lows) where
  blank := fun _ => drains_of_idle rfl
  new := fun _ _ _ => drains_of_idle rfl
  does := fun _ _ does drains => drains.does does

/-! ### The events of a channel -/

/-- The queue decreases to `amount`, from above the threshold to the threshold or below it. -/
def fires (s : KpsStream) (amount : Nat) : Bool :=
  decide (localSendBufferLow < s.ch.bufferedAmount) && decide (amount ≤ localSendBufferLow)

/-- The transport sent queued bytes, and `amount` are left. -/
def drain (amount : Nat) (s : KpsStream) : KpsStream :=
  { s with ch := { s.ch with bufferedAmount := amount } }

/-- A decrease of the queue leaves room only with an event to come, unless it begins at the
threshold. -/
theorem Drains.drain (drains : Drains lows s) {amount : Nat}
    (above : s.parked = true → s.ch.isOpen = true → lows = 0 →
      s.ch.bufferedAmount = localSendBufferLow → localSendBufferLow ≤ amount) :
    Drains (if s.fires amount then lows + 1 else lows) (s.drain amount) := by
  refine ⟨drains.waits, fun parked isOpen => ?_⟩
  show localSendBufferLow ≤ amount ∨ _
  split
  · exact Or.inr (Nat.succ_pos lows)
  · next quiet =>
    rcases Nat.eq_zero_or_pos lows with none | some
    · refine Or.inl ?_
      have quiet : localSendBufferLow < s.ch.bufferedAmount → localSendBufferLow < amount := by
        intro high
        by_contra low
        refine quiet ((Bool.and_eq_true _ _).mpr ⟨decide_eq_true high, decide_eq_true ?_⟩)
        exact Nat.le_of_not_lt low
      rcases drains.full parked isOpen with full | low
      · rcases Nat.eq_or_lt_of_le full with same | high
        · exact above parked isOpen none same.symm
        · exact (quiet high).le
      · exact absurd low (by omega)
    · exact Or.inr some

/-- The event `bufferedamountlow` leaves no `#writeChunk` parked. -/
theorem Drains.low (drains : Drains lows s) (left : Nat) : Drains left s.wakeDrain := by
  refine ⟨fun ticket waits => ?_, fun parked => ?_⟩
  · obtain ⟨opened, early⟩ := drains.waits ticket waits
    exact ⟨opened, Nat.le_succ_of_le early⟩
  · obtain ⟨ticket, waits, late⟩ := parked_iff.mp parked
    have early := (drains.waits ticket waits).2
    exact absurd (Nat.le_trans late early) (Nat.not_succ_le_self _)

end KpsStream

/-- A connection, and how many events `bufferedamountlow` of each channel wait for their turn. -/
structure SendBuffers where
  core : ConnCore
  lows : Nat → Nat := fun _ => 0

inductive BufferLabel
  /-- An event of the engine, of the application or of the transport. -/
  | event (event : Event)
  /-- The transport sent queued bytes, and `amount` are left. -/
  | drain (k amount : Nat)
  /-- The event `bufferedamountlow`. -/
  | low (k : Nat)

namespace SendBuffers

def new (limits : FlowLimits) (controlOpen : Bool) : SendBuffers where
  core := .new limits controlOpen

def step (b : SendBuffers) : BufferLabel → Option SendBuffers
  | .event event =>
    if event.isBufferedAmount then none else some { b with core := b.core.step event }
  | .drain k amount =>
    if amount ≤ (b.core.streams k).ch.bufferedAmount then
      some
        { core := b.core.onStream k fun x => { x with s := x.s.drain amount }
          lows :=
            if (b.core.streams k).fires amount then Function.update b.lows k
              (b.lows k + 1) else b.lows }
    else none
  | .low k =>
    if 0 < b.lows k then
      some
        { core := b.core.onStream k fun x => { x with s := x.s.wakeDrain }
          lows := Function.update b.lows k (b.lows k - 1) }
    else none

/-- A `#writeChunk` of some stream is left behind: it is parked on an open channel with room in the
queue, and no event of the channel is to come. -/
def Stranded (b : SendBuffers) : Prop := ∃ k, (b.core.streams k).stranded = true ∧ b.lows k = 0

/-- The queue does not decrease from the threshold itself under a parked `#writeChunk`, with no
event to come. -/
def FromAbove (b : SendBuffers) : BufferLabel → Prop
  | .drain k amount =>
    (b.core.streams k).parked = true → (b.core.streams k).ch.isOpen = true → b.lows k = 0 →
      (b.core.streams k).ch.bufferedAmount = localSendBufferLow → localSendBufferLow ≤ amount
  | _ => True

/-- No `#writeChunk` is left behind. -/
def DrainsAll (b : SendBuffers) : Prop := ∀ k, (b.core.streams k).Drains (b.lows k)

variable {b b' : SendBuffers} {label : BufferLabel}

theorem DrainsAll.not_stranded (drains : DrainsAll b) : ¬ Stranded b := by
  rintro ⟨k, stranded, none⟩
  unfold KpsStream.stranded at stranded
  rw [Bool.and_eq_true, Bool.and_eq_true] at stranded
  obtain ⟨⟨parked, isOpen⟩, room⟩ := stranded
  have room := of_decide_eq_true room
  rcases (drains k).full parked isOpen with full | low
  · omega
  · omega

/-- **One step leaves no `#writeChunk` behind.** -/
theorem DrainsAll.step (drains : DrainsAll b) (above : FromAbove b label)
    (stepped : b.step label = some b') :
    DrainsAll b' := by
  cases label with
  | event event =>
    simp only [SendBuffers.step] at stepped
    split at stepped
    · cases stepped
    · next other =>
      cases stepped
      intro k
      exact (KpsStream.drains_lasting (b.lows k)).step (drains k) (by simpa using other)
  | drain k amount =>
    simp only [SendBuffers.step] at stepped
    split at stepped <;> cases stepped
    intro j
    show (Function.update b.core.streams k ((b.core.streams k).drain amount) j).Drains _
    by_cases same : j = k
    · subst same
      have drained := (drains j).drain above
      rw [Function.update_self]
      dsimp only
      split
      · next fired =>
        rw [if_pos fired] at drained
        rw [Function.update_self]
        exact drained
      · next quiet => rwa [if_neg quiet] at drained
    · rw [Function.update_of_ne same]
      dsimp only
      split
      · rw [Function.update_of_ne same]
        exact drains j
      · exact drains j
  | low k =>
    simp only [SendBuffers.step] at stepped
    split at stepped <;> cases stepped
    intro j
    show (Function.update b.core.streams k (b.core.streams k).wakeDrain j).Drains
      (Function.update b.lows k (b.lows k - 1) j)
    by_cases same : j = k
    · subst same
      rw [Function.update_self, Function.update_self]
      exact (drains j).low _
    · rw [Function.update_of_ne same, Function.update_of_ne same]
      exact drains j

theorem drainsAll_new (limits : FlowLimits) (controlOpen : Bool) :
    DrainsAll (new limits controlOpen) :=
  fun k => (KpsStream.drains_lasting 0).connNew limits controlOpen k

/-- A decrease from the threshold itself under a parked `#writeChunk` leaves it behind. -/
theorem stranded_of_not_fromAbove (below : ¬ FromAbove b label) :
    ∃ b', b.step label = some b' ∧ Stranded b' := by
  cases label with
  | drain k amount =>
    unfold FromAbove at below
    simp only [Classical.not_imp, Nat.not_le] at below
    obtain ⟨parked, isOpen, none, level, room⟩ := below
    have quiet : (b.core.streams k).fires amount = false := by
      unfold KpsStream.fires
      rw [level, decide_eq_false (Nat.lt_irrefl _), Bool.false_and]
    refine ⟨_, if_pos (level ▸ room.le), k, ?_, ?_⟩
    · show (Function.update b.core.streams k ((b.core.streams k).drain amount) k).stranded = true
      rw [Function.update_self]
      unfold KpsStream.stranded
      rw [Bool.and_eq_true, Bool.and_eq_true]
      exact ⟨⟨parked, isOpen⟩, decide_eq_true room⟩
    · dsimp only
      rw [quiet]
      exact none
  | event event => exact absurd trivial below
  | low k => exact absurd trivial below

/-- **No wake-up is lost, but for queues that decrease from the threshold itself.** In every run: no
state is reached in which a `#writeChunk` is parked on an open channel with room in its queue and no
event to come, if and only if no queue decreases from the threshold itself under a parked
`#writeChunk` with no event to come. -/
theorem never_stranded_iff (limits : FlowLimits) (controlOpen : Bool) (labels : List BufferLabel) :
    (∀ before b, before <+: labels → run SendBuffers.step (new limits controlOpen) before = some b →
      ¬ Stranded b) ↔ Meets SendBuffers.step FromAbove (new limits controlOpen) labels := by
  constructor
  · exact meets_of_never fun b label => stranded_of_not_fromAbove
  · rintro meets before b ⟨after, rfl⟩ ran
    have drains : DrainsAll b := run_invariant_of_meets
      (fun _ _ _ above drains stepped => DrainsAll.step drains above stepped)
      (meets_append meets ran).1
      (drainsAll_new limits controlOpen) ran
    exact drains.not_stranded

end SendBuffers

/-! ### Frames of full size -/

namespace StreamCtx

/-- A `#writeChunk` of 1 MiB has handed over `i` frames of full size, and holds the credit of the
next. -/
structure Filling (chunk : Bytes) (i : Nat) (x : StreamCtx) : Prop where
  isOpen : x.s.ch.isOpen = true
  amount : x.s.ch.bufferedAmount = i * 16384
  call : x.s.writable.call = some ⟨chunk, i * 16383, .granted (min (1048576 - i * 16383) 16383)⟩
  idle : x.s.peerStop = none ∧ x.s.localTerminal = none ∧ x.s.channelClosed = false
  failure : x.flow.failure = none ∧ x.s.sf.sendFailure = none
  window : x.s.sf.peerMaxExplicit = 0 ∧ x.flow.peerMaxStreamDataInitial = 1048576 ∧
    x.flow.peerMaxData = 8388608
  sent : x.s.sf.sendSent = i * 16383 ∧ x.flow.connSent = i * 16383
  reserved : x.s.sf.sendReserved = (min (1048576 - i * 16383) 16383 : Nat) ∧
    x.flow.connReserved = (min (1048576 - i * 16383) 16383 : Nat)

variable {x : StreamCtx} {chunk : Bytes} {i : Nat}

/-- The credit of the next frame is granted. -/
theorem Filling.reserve (i : Nat) (few : i ≤ 64) (length : chunk.length = 1048576)
    (isOpen : x.s.ch.isOpen = true) (amount : x.s.ch.bufferedAmount = i * 16384)
    (idle : x.s.peerStop = none ∧ x.s.localTerminal = none ∧ x.s.channelClosed = false)
    (failure : x.flow.failure = none ∧ x.s.sf.sendFailure = none)
    (window : x.s.sf.peerMaxExplicit = 0 ∧ x.flow.peerMaxStreamDataInitial = 1048576 ∧
      x.flow.peerMaxData = 8388608)
    (sent : x.s.sf.sendSent = i * 16383 ∧ x.flow.connSent = i * 16383)
    (reserved : x.s.sf.sendReserved = 0 ∧ x.flow.connReserved = 0) :
    Filling chunk i (x.writeLoop chunk (i * 16383)) := by
  obtain ⟨stop, terminal, closed⟩ := idle
  have more : i * 16383 < chunk.length := by omega
  have writable : x.s.checkWritable = none := by
    unfold KpsStream.checkWritable
    simp [stop, terminal, closed, isOpen]
  have granted : x.flow.reserveData x.s.sf (min (chunk.length - i * 16383) maxFramePayload : Nat) =
      .granted (min (1048576 - i * 16383) 16383 : Nat)
        { x.flow with connReserved := (min (1048576 - i * 16383) 16383 : Nat) }
        { x.s.sf with sendReserved := (min (1048576 - i * 16383) 16383 : Nat) } := by
    have available : x.flow.available x.s.sf = 1048576 - (i * 16383 : Int) := by
      unfold ConnFlow.available ConnFlow.peerMaxStreamData
      have explicit : ¬ (0 : Int) > 1048576 := by decide
      simp only [window, sent, reserved, if_neg explicit]
      omega
    unfold ConnFlow.reserveData
    simp only [failure, available, length, reserved, maxFramePayload, maxWebrtcFrameSize]
    have grant :
      (if 1048576 - (i * 16383 : Int) > ((min (1048576 - i * 16383) (16384 - 1) : Nat) : Int) then
        ((min (1048576 - i * 16383) (16384 - 1) : Nat) : Int) else 1048576 - (i * 16383 : Int)) =
        (min (1048576 - i * 16383) 16383 : Nat) := by
      split <;> omega
    rw [grant, if_pos (by omega)]
    simp
  unfold writeLoop
  rw [if_pos more, writable]
  dsimp only
  unfold reserveStep
  rw [granted]
  exact ⟨isOpen, amount, rfl, ⟨stop, terminal, closed⟩, failure, window, sent, rfl, rfl⟩

/-- A frame of full size is handed over. -/
theorem Filling.next (filling : Filling chunk i x) (few : i < 64)
    (length : chunk.length = 1048576) :
    Filling chunk (i + 1) x.writeResume.writeResume := by
  obtain ⟨stop, terminal, closed⟩ := filling.idle
  have full : min (1048576 - i * 16383) 16383 = 16383 := by omega
  have call := filling.call
  obtain ⟨streamReserved, connReserved⟩ := filling.reserved
  rw [full] at call streamReserved connReserved
  have room : ¬ x.s.ch.bufferedAmount ≥ localSendBufferLow := by
    rw [filling.amount]
    unfold localSendBufferLow
    omega
  have drained : x.writeResume = x.suspendWrite ⟨chunk, i * 16383, .drained 16383⟩ := by
    unfold writeResume
    rw [call]
    show x.drainLocal chunk (i * 16383) 16383 = _
    unfold drainLocal
    rw [decide_eq_false room, Bool.and_false, if_neg Bool.false_ne_true]
  have writable : (x.suspendWrite ⟨chunk, i * 16383, .drained 16383⟩).s.checkWritable = none := by
    unfold KpsStream.checkWritable suspendWrite
    simp [stop, terminal, closed, filling.isOpen]
  have bytes : (Wire.encode (Frame.data ((chunk.drop (i * 16383)).take 16383))).length = 16384 := by
    show ((chunk.drop (i * 16383)).take 16383).length + 1 = 16384
    rw [List.length_take, List.length_drop, length]
    omega
  rw [drained]
  show Filling chunk (i + 1)
    ((x.suspendWrite ⟨chunk, i * 16383, .drained 16383⟩).sendChunk chunk (i * 16383) 16383)
  unfold sendChunk
  rw [writable]
  dsimp only
  rw [show (x.suspendWrite ⟨chunk, i * 16383, .drained 16383⟩).s.ch = x.s.ch from rfl,
    Channel.send_of_isOpen filling.isOpen]
  dsimp only
  have next : i * 16383 + 16383 = (i + 1) * 16383 := by omega
  rw [next]
  have amount :
      x.s.ch.bufferedAmount +
      (Wire.encode (Frame.data ((chunk.drop (i * 16383)).take 16383))).length =
      (i + 1) * 16384 := by
    have before := filling.amount
    omega
  have sent (before : Int) (same : before = i * 16383) : before + (16383 : Nat) =
      (i + 1 : Nat) * 16383 := by
    rw [same]
    push_cast
    ring
  have none (before : Int) (same : before = (16383 : Nat)) : before - (16383 : Nat) = 0 := by
    rw [same]
    rfl
  exact Filling.reserve
    (i + 1) few length filling.isOpen amount filling.idle filling.failure filling.window
    ⟨sent _ filling.sent.1, sent _ filling.sent.2⟩ ⟨none _ streamReserved, none _ connReserved⟩

/-- After sixty-four frames the queue is at the threshold itself, and the `#writeChunk` parks. -/
theorem Filling.parks (filling : Filling chunk 64 x) :
    x.writeResume = x.suspendWrite ⟨chunk, 64 * 16383, .draining 64 x.s.drainWake.wakes⟩ ∧
      x.s.ch.bufferedAmount = localSendBufferLow := by
  have level : x.s.ch.bufferedAmount = localSendBufferLow := filling.amount
  have call : x.s.writable.call = some ⟨chunk, 64 * 16383, .granted 64⟩ := filling.call
  refine ⟨?_, level⟩
  unfold writeResume
  rw [call]
  unfold drainLocal
  rw [filling.isOpen, decide_eq_true level.ge]
  rfl

end StreamCtx

namespace SendBuffers

/-- The HELLO of the peer and a stream of the peer, over default windows; a `#writeChunk` of a
chunk, and the events that resume it until it has handed over sixty-four frames and goes on. Then
the transport sends a byte. -/
def fills (chunk : Bytes) : List BufferLabel :=
  [.event (.controlMessage (encodeControl (.hello wireVersion (resolveLimits none none none)))),
    .event (.incomingChannel 0 true), .event (.write 0 chunk)] ++
  (List.replicate 64 [.event (.writeResume 0), .event (.writeResume 0)]).flatten ++
  [.event (.writeResume 0), .drain 0 1048575]

theorem fills_frames {chunk : Bytes} (length : chunk.length = 1048576) (frames : Nat) {i : Nat}
    (few : i + frames ≤ 64) {b : SendBuffers} (present : 0 ∈ b.core.ids) (quiet : b.lows 0 = 0)
    (filling : (b.core.ctx 0).Filling chunk i) : ∃ b',
      run SendBuffers.step b
        (List.replicate frames [.event (.writeResume 0), .event (.writeResume 0)]).flatten =
        some b' ∧ 0 ∈ b'.core.ids ∧ b'.lows 0 = 0 ∧ (b'.core.ctx 0).Filling chunk (i + frames) := by
  induction frames generalizing b i with
  | zero => exact ⟨b, rfl, present, quiet, filling⟩
  | succ frames ih =>
    have resumed (c : ConnCore) (present : 0 ∈ c.ids) :
        c.step (.writeResume 0) = c.onStream 0 StreamCtx.writeResume := if_pos present
    have ctx (c : ConnCore) : (c.onStream 0 StreamCtx.writeResume).ctx 0 =
        (c.ctx 0).writeResume := by
      unfold ConnCore.onStream ConnCore.put
      show StreamCtx.mk _ _ (Function.update c.streams 0 (c.ctx 0).writeResume.s 0) = _
      rw [Function.update_self]
    have after : (b.core.onStream 0 StreamCtx.writeResume).step (.writeResume 0) =
        (b.core.onStream 0 StreamCtx.writeResume).onStream 0 StreamCtx.writeResume :=
          resumed _ present
    have twice : ((b.core.step (.writeResume 0)).step (.writeResume 0)).ctx 0 =
        (b.core.ctx 0).writeResume.writeResume := by
      rw [resumed _ present, after, ctx, ctx]
    obtain ⟨b', ran, rest⟩ := ih (i := i + 1) (by omega)
      (b := { b with core := (b.core.step (.writeResume 0)).step (.writeResume 0) })
      (by rw [resumed _ present, after]; exact present) quiet
      (by rw [twice]; exact filling.next (by omega) length)
    refine ⟨b', ?_, by rwa [show i + (frames + 1) = i + 1 + frames by omega]⟩
    rw [List.replicate_succ, List.flatten_cons]
    exact run_append.mpr ⟨_, rfl, ran⟩

/-- **Sixty-four frames of full size strand the `#writeChunk`** that goes on: the queue is at the
threshold itself when it parks, and decreases with no event. -/
theorem frames_strand {chunk : Bytes} (length : chunk.length = 1048576) : ∃ b,
    run SendBuffers.step (new (resolveLimits none none none) true) (fills chunk) = some b ∧
    Stranded b := by
  obtain ⟨c, same⟩ : ∃ c : ConnCore, c = ((ConnCore.new (resolveLimits none none none) true).step
      (.controlMessage (encodeControl (.hello wireVersion (resolveLimits none none none))))).step
      (.incomingChannel 0 true) := ⟨_, rfl⟩
  have present : 0 ∈ c.ids := by rw [same]; decide +kernel
  have written : (c.step (.write 0 chunk)).ctx 0 = (c.ctx 0).writeChunk chunk := by
    have stepped : c.step (.write 0 chunk) = c.onStream 0 (·.writeChunk chunk) := if_pos present
    rw [stepped]
    unfold ConnCore.onStream ConnCore.put
    show StreamCtx.mk _ _ (Function.update c.streams 0 ((c.ctx 0).writeChunk chunk).s 0) = _
    rw [Function.update_self]
  have filling : ((c.step (.write 0 chunk)).ctx 0).Filling chunk 0 := by
    have blank : c.streams 0 = KpsStream.new (resolveLimits none none none) true true := by
      rw [same]
      rfl
    have flow : c.flow.failure = none ∧ c.flow.peerMaxStreamDataInitial = 1048576 ∧
        c.flow.peerMaxData = 8388608 ∧ c.flow.connSent = 0 ∧ c.flow.connReserved = 0 := by
      rw [same]
      exact ⟨rfl, rfl, rfl, rfl, rfl⟩
    obtain ⟨failure, initial, data, sent, reserved⟩ := flow
    have begins : (c.ctx 0).writeChunk chunk = StreamCtx.writeLoop chunk (0 * 16383)
        { c.ctx 0 with s := { c.streams 0 with writable := { (c.streams 0).writable with
            written := (c.streams 0).writable.written ++ [chunk] } } } := by
      refine if_neg ?_
      show ¬ ((c.streams 0).writable.call.isSome || (c.streams 0).writable.errored.isSome) = true
      rw [blank]
      decide
    rw [written, begins]
    refine StreamCtx.Filling.reserve 0
      (Nat.zero_le _) length ?_ ?_ ?_ ⟨failure, ?_⟩ ⟨?_, initial, data⟩
      ⟨?_, sent⟩ ⟨?_, reserved⟩
    · show (c.streams 0).ch.isOpen = true
      rw [blank]
      rfl
    · show (c.streams 0).ch.bufferedAmount = 0
      rw [blank]
      rfl
    · show (c.streams 0).peerStop = none ∧ (c.streams 0).localTerminal = none ∧
        (c.streams 0).channelClosed = false
      rw [blank]
      exact ⟨rfl, rfl, rfl⟩
    · show (c.streams 0).sf.sendFailure = none
      rw [blank]
      rfl
    · show (c.streams 0).sf.peerMaxExplicit = 0
      rw [blank]
      rfl
    · show (c.streams 0).sf.sendSent = 0
      rw [blank]
      rfl
    · show (c.streams 0).sf.sendReserved = 0
      rw [blank]
      rfl
  have kept : 0 ∈ (c.step (.write 0 chunk)).ids := by
    have stepped : c.step (.write 0 chunk) = c.onStream 0 (·.writeChunk chunk) := if_pos present
    rw [stepped]
    exact present
  obtain ⟨b, ran, here, quiet, filling⟩ :=
    fills_frames (b := { core := c.step (.write 0 chunk) }) length 64
      (Nat.le_refl _) kept rfl filling
  obtain ⟨parks, level⟩ := StreamCtx.Filling.parks filling
  have resumed : (b.core.step (.writeResume 0)).streams 0 = ((b.core.ctx 0).suspendWrite
      ⟨chunk, 64 * 16383, .draining 64 (b.core.ctx 0).s.drainWake.wakes⟩).s := by
    have stepped : b.core.step (.writeResume 0) = b.core.onStream 0 StreamCtx.writeResume :=
      if_pos here
    rw [stepped, ← parks]
    show Function.update b.core.streams 0 (b.core.ctx 0).writeResume.s 0 = _
    rw [Function.update_self]
  have below : ¬ FromAbove { b with core := b.core.step (.writeResume 0) } (.drain 0 1048575) := by
    intro above
    unfold FromAbove at above
    dsimp only at above
    rw [resumed] at above
    have parked : KpsStream.parked ((b.core.ctx 0).suspendWrite
        ⟨chunk, 64 * 16383, .draining 64 (b.core.ctx 0).s.drainWake.wakes⟩).s = true :=
      KpsStream.parked_iff.mpr ⟨_, rfl, Nat.le_refl _⟩
    exact absurd (above parked filling.isOpen quiet level) (by decide)
  obtain ⟨b', drained, stranded⟩ := stranded_of_not_fromAbove below
  refine ⟨b', run_append.mpr ⟨b, run_append.mpr ⟨{ core := c.step (.write 0 chunk) }, ?_, ran⟩, ?_⟩,
    stranded⟩
  · rw [same]
    rfl
  · exact run_cons.mpr ⟨_, rfl, run_cons.mpr ⟨b', drained, rfl⟩⟩

/-- A chunk of 1 MiB, over the default windows. -/
theorem wake_lost : ∃ b,
    run SendBuffers.step (new (resolveLimits none none none) true)
      (fills (List.replicate 1048576 0)) = some b ∧ Stranded b :=
  frames_strand List.length_replicate

end SendBuffers

end Kps.Ts
