/-
**Lifecycle calls and the opening of a channel** (`stream-core.ts`).

`closeWrite`, `resetWrite`, `cancelRead` and the RESET that answers a STOP_SENDING note the end of
their half, and send their frame if the channel happens to be open. Whether it has opened is told by
a later event.

* `Halves` — what a stream has noted of the ends of its halves, and how many frames it sent about
  them;
* `Halves.sound_act` — one of its methods keeps what was noted in step with what was sent exactly if
  it is `Timely`;
* `Watch` is a connection that remembers who asked the peer to stop and which channels the engine
  itself closed, and `Watch.lawful_iff` says in which runs each end that was noted reached the peer.
-/

import Kps.Lib.Run
import Kps.Ts.Lifecycle

namespace Kps.Ts

open Kps.Lib

def Frame.isStopSending : Frame → Bool
  | .stopSending _ => true
  | _ => false

/-! ### The halves of a stream -/

/-- What a stream noted of the ends of its halves and of its channel, and what it sent about
them. -/
@[ext] structure Halves where
  opened : Bool := false
  closed : Bool := false
  /-- `localTerminal` is set. -/
  terminal : Bool := false
  /-- The peer sent FIN or RESET. -/
  peerEnded : Bool := false
  cancelled : Bool := false
  /-- How many terminal frames were sent. -/
  terminals : Nat := 0
  /-- How many STOP_SENDING were sent. -/
  stops : Nat := 0

/-- What a call or an event does to the halves of a stream. -/
inductive Act
  | idle
  | opens
  | closes
  /-- The write half ends, if it has not. -/
  | ends
  /-- The read half is cancelled, if it is not. -/
  | cancels
  /-- The write half ends, and then the read half is cancelled. -/
  | abandons
  | peerEnds

namespace Halves

def isOpen (h : Halves) : Bool := h.opened && !h.closed

/-- Both write halves ended. -/
def complete (h : Halves) : Bool := h.terminal && h.peerEnded

def close (h : Halves) : Halves := { h with closed := true }

def finish (h : Halves) : Halves :=
  if h.terminal then h
  else { h with terminal := true, terminals := if h.isOpen then h.terminals + 1 else h.terminals }

def cancel (h : Halves) : Halves :=
  if h.cancelled then h
  else { h with
    cancelled := true, stops := if !h.peerEnded && h.isOpen then h.stops + 1 else h.stops }

def act (act : Act) (h : Halves) : Halves :=
  match act with
  | .idle => h
  | .opens => { h with opened := true }
  | .closes => h.close
  | .ends => h.finish
  | .cancels => h.cancel
  | .abandons => h.finish.cancel
  | .peerEnds => { h with peerEnded := true }

/-- `#maybeRetire`: the channel of a stream whose halves both ended may be closed. -/
def Retires (h h' : Halves) : Prop := h' = h ∨ (h.complete = true ∧ h' = h.close)

/-- The write half can end with its frame sent, or before the channel opened. -/
def CanEnd (h : Halves) : Prop :=
  h.terminal = true ∨ h.isOpen = true ∨ (h.opened = false ∧ h.peerEnded = false)

/-- The read half can be cancelled with its frame sent or with no frame due, or before the channel
opened. -/
def CanCancel (h : Halves) : Prop :=
  h.cancelled = true ∨ h.peerEnded = true ∨ h.isOpen = true ∨ h.opened = false

/-- What an act needs, for the frames that it owes to reach the peer. `wished` says that the read
half was cancelled before the peer had ended its own. -/
def Timely (wished : Bool) (act : Act) (h : Halves) : Prop :=
  match act with
  | .idle | .closes => True
  | .opens => h.opened = true ∨ (h.terminal = false ∧ wished = false)
  | .ends => h.CanEnd
  | .cancels => h.CanCancel
  | .abandons => h.CanEnd ∧ h.CanCancel
  | .peerEnds => h.peerEnded = true ∨ h.terminal = false ∨ h.opened = true

/-- What was noted was sent. -/
structure Sound (wished : Bool) (h : Halves) : Prop where
  terminal : h.opened = true → (h.terminal = true ↔ h.terminals = 1)
  stop : h.opened = true → wished = true → h.stops = 1
  complete : h.complete = true → h.terminals = 1

/-- Nothing was sent that was not noted. -/
structure Honest (wished : Bool) (h : Halves) : Prop where
  unsent : h.opened = false → h.terminals = 0 ∧ h.stops = 0
  unended : h.terminal = false → h.terminals = 0
  uncancelled : h.cancelled = false → h.stops = 0
  wished : wished = true → h.cancelled = true

/-- The read half was cancelled before the peer had ended its own. -/
def wishes (wished : Bool) (h h' : Halves) : Bool :=
  wished || (!h.cancelled && h'.cancelled && !h.peerEnded)

variable {h h' : Halves} {wished : Bool}

theorem blank_honest (opened : Bool) : Honest false { opened } := 
  ⟨fun _ => ⟨rfl, rfl⟩, fun _ => rfl, fun _ => rfl, fun wished => (by cases wished)⟩

theorem blank_sound (opened : Bool) :
    Sound false { opened } := ⟨fun _ => by simp, by simp, by simp [Halves.complete]⟩

theorem finish_ended (ended : h.terminal = true) : h.finish = h := if_pos ended

theorem finish_unended (unended : h.terminal = false) : h.finish =
    { h with
      terminal := true, terminals := if h.isOpen then h.terminals + 1 else h.terminals } := by
  unfold finish
  rw [unended]
  exact if_neg Bool.false_ne_true

theorem cancel_cancelled (cancelled : h.cancelled = true) : h.cancel = h := if_pos cancelled

theorem cancel_uncancelled (uncancelled : h.cancelled = false) : h.cancel =
    { h with
      cancelled := true, stops := if !h.peerEnded && h.isOpen then h.stops + 1 else h.stops } := by
  unfold cancel
  rw [uncancelled]
  exact if_neg Bool.false_ne_true

theorem wishes_same (same : h'.cancelled = h.cancelled) : wishes wished h h' = wished := by
  unfold wishes
  rw [same]
  cases h.cancelled <;> simp

theorem cancelled_finish : h.finish.cancelled = h.cancelled := by
  unfold finish
  split <;> rfl

theorem peerEnded_finish : h.finish.peerEnded = h.peerEnded := by
  unfold finish
  split <;> rfl

theorem isOpen_finish : h.finish.isOpen = h.isOpen := by
  unfold finish
  split <;> rfl

theorem opened_finish : h.finish.opened = h.opened := by
  unfold finish
  split <;> rfl

theorem canCancel_finish : h.finish.CanCancel ↔ h.CanCancel := by
  unfold CanCancel
  rw [cancelled_finish, peerEnded_finish, isOpen_finish, opened_finish]

/-! What each act keeps. -/

theorem Honest.finish (honest : Honest wished h) : Honest wished h.finish := by
  cases ended : h.terminal with
  | true =>
    rw [finish_ended ended]
    exact honest
  | false =>
    rw [finish_unended ended]
    refine ⟨fun shut => ⟨?_, (honest.unsent shut).2⟩, fun unended => (by cases unended),
      honest.uncancelled, honest.wished⟩
    have closed : h.isOpen = false := by
      unfold isOpen
      rw [show h.opened = false from shut, Bool.false_and]
    rw [closed]
    exact (honest.unsent shut).1

theorem Honest.cancel (honest : Honest wished h) : Honest (wishes wished h h.cancel) h.cancel := by
  cases before : h.cancelled with
  | true =>
    rw [cancel_cancelled before, wishes_same rfl]
    exact honest
  | false =>
    rw [cancel_uncancelled before]
    refine ⟨fun shut => ⟨(honest.unsent shut).1, ?_⟩, honest.unended,
      fun uncancelled => (by cases uncancelled), fun _ => rfl⟩
    have closed : h.isOpen = false := by
      unfold isOpen
      rw [show h.opened = false from shut, Bool.false_and]
    rw [closed, Bool.and_false]
    exact (honest.unsent shut).2

/-- The write half ends with its frame sent exactly if it can. -/
theorem sound_finish (honest : Honest wished h) (sound : Sound wished h) :
    Sound wished h.finish ↔ h.CanEnd := by
  cases ended : h.terminal with
  | true =>
    rw [finish_ended ended]
    exact iff_of_true sound (Or.inl ended)
  | false =>
    have none := honest.unended ended
    rw [finish_unended ended]
    constructor
    · intro sound'
      cases able : h.isOpen with
      | true => exact Or.inr (Or.inl able)
      | false =>
        refine Or.inr (Or.inr ⟨?_, ?_⟩)
        · by_contra opened
          have sent := (sound'.terminal (by simpa using opened)).mp rfl
          simp [able, none] at sent
        · by_contra both
          have sent := sound'.complete (by simpa [complete] using both)
          simp [able, none] at sent
    · intro can
      unfold CanEnd at can
      rw [ended] at can
      rcases can with impossible | able | ⟨unopened, alone⟩
      · cases impossible
      · refine ⟨fun _ => ?_, sound.stop, fun _ => ?_⟩ <;> simp [able, none]
      · refine ⟨fun opened => ?_, sound.stop, fun both => ?_⟩
        · rw [show h.opened = true from opened] at unopened
          cases unopened
        · simp [complete, alone] at both

/-- The read half is cancelled with its frame sent exactly if it can. -/
theorem sound_cancel (honest : Honest wished h) (sound : Sound wished h) :
    Sound (wishes wished h h.cancel) h.cancel ↔ h.CanCancel := by
  cases before : h.cancelled with
  | true =>
    rw [cancel_cancelled before, wishes_same rfl]
    exact iff_of_true sound (Or.inl before)
  | false =>
    have none := honest.uncancelled before
    have fresh : wished = false := by
      by_contra wished'
      have cancelled := honest.wished (by simpa using wished')
      rw [before] at cancelled
      cases cancelled
    rw [cancel_uncancelled before]
    constructor
    · intro sound'
      by_contra cannot
      unfold CanCancel at cannot
      simp only [not_or, Bool.not_eq_true, Bool.not_eq_false] at cannot
      obtain ⟨-, alone, unable, opened⟩ := cannot
      have sent := sound'.stop opened (by simp [wishes, before, alone])
      simp [alone, unable, none] at sent
    · intro can
      refine ⟨sound.terminal, fun opened wishes => ?_, sound.complete⟩
      unfold CanCancel at can
      rw [before, show h.opened = true from opened] at can
      have alone : h.peerEnded = false := by
        simp only [Halves.wishes, fresh, before] at wishes
        simpa using wishes
      have able : h.isOpen = true := by simpa [alone] using can
      simp [alone, able, none]

/-- A frame that was not sent when its half ended is not sent later. -/
theorem sound_of_cancel (honest : Honest wished h)
    (sound : Sound (wishes wished h h.cancel) h.cancel) : Sound wished h := by
  cases before : h.cancelled with
  | true =>
    rw [cancel_cancelled before, wishes_same rfl] at sound
    exact sound
  | false =>
    rw [cancel_uncancelled before] at sound
    refine ⟨sound.terminal, fun _ wished => ?_, sound.complete⟩
    have cancelled := honest.wished wished
    rw [before] at cancelled
    cases cancelled

theorem honest_act (honest : Honest wished h) (act : Act) :
    Honest (wishes wished h (h.act act)) (h.act act) := by
  cases act with
  | idle =>
    rw [@wishes_same h (h.act .idle) wished rfl]
    exact honest
  | opens =>
    rw [@wishes_same h (h.act .opens) wished rfl]
    exact ⟨fun shut => (by cases shut), honest.unended, honest.uncancelled, honest.wished⟩
  | closes =>
    rw [@wishes_same h (h.act .closes) wished rfl]
    exact ⟨honest.unsent, honest.unended, honest.uncancelled, honest.wished⟩
  | ends =>
    rw [@wishes_same h (h.act .ends) wished cancelled_finish]
    exact honest.finish
  | cancels => exact honest.cancel
  | abandons =>
    have same : wishes wished h (h.act .abandons) = wishes wished h.finish h.finish.cancel := by
      unfold wishes
      rw [cancelled_finish, peerEnded_finish]
      rfl
    rw [same]
    exact honest.finish.cancel
  | peerEnds =>
    rw [@wishes_same h (h.act .peerEnds) wished rfl]
    exact ⟨honest.unsent, honest.unended, honest.uncancelled, honest.wished⟩

/-- **One act keeps what was noted in step with what was sent exactly if it is timely.** -/
theorem sound_act (honest : Honest wished h) (sound : Sound wished h) (act : Act) :
    Sound (wishes wished h (h.act act)) (h.act act) ↔ Timely wished act h := by
  cases act with
  | idle =>
    rw [@wishes_same h (h.act .idle) wished rfl]
    exact iff_of_true sound trivial
  | closes =>
    rw [@wishes_same h (h.act .closes) wished rfl]
    exact iff_of_true ⟨sound.terminal, sound.stop, sound.complete⟩ trivial
  | opens =>
    rw [@wishes_same h (h.act .opens) wished rfl]
    cases opened : h.opened with
    | true =>
      exact iff_of_true ⟨fun _ => sound.terminal opened, fun _ => sound.stop opened, sound.complete⟩
        (Or.inl opened)
    | false =>
      obtain ⟨terminals, stops⟩ := honest.unsent opened
      constructor
      · intro sound'
        refine Or.inr ⟨?_, ?_⟩
        · by_contra ended
          have ended : h.terminal = true := by simpa using ended
          have sent := (sound'.terminal rfl).mp ended
          exact absurd (terminals.symm.trans sent) Nat.zero_ne_one
        · by_contra wished'
          have sent := sound'.stop rfl (by simpa using wished')
          exact absurd (stops.symm.trans sent) Nat.zero_ne_one
      · intro timely
        unfold Timely at timely
        rw [opened] at timely
        rcases timely with impossible | ⟨unended, quiet⟩
        · cases impossible
        · refine ⟨fun _ => ?_, fun _ wished => ?_, sound.complete⟩
          · simp [Halves.act, unended, terminals]
          · rw [quiet] at wished
            cases wished
  | ends =>
    rw [@wishes_same h (h.act .ends) wished cancelled_finish]
    exact sound_finish honest sound
  | cancels => exact sound_cancel honest sound
  | abandons =>
    have same : wishes wished h (h.act .abandons) = wishes wished h.finish h.finish.cancel := by
      unfold wishes
      rw [cancelled_finish, peerEnded_finish]
      rfl
    rw [same]
    show Sound (wishes wished h.finish h.finish.cancel) h.finish.cancel ↔ h.CanEnd ∧ h.CanCancel
    rw [← sound_finish honest sound, ← canCancel_finish]
    constructor
    · intro sound'
      have middle := sound_of_cancel honest.finish sound'
      exact ⟨middle, (sound_cancel honest.finish middle).mp sound'⟩
    · rintro ⟨middle, can⟩
      exact (sound_cancel honest.finish middle).mpr can
  | peerEnds =>
    rw [@wishes_same h (h.act .peerEnds) wished rfl]
    constructor
    · intro sound'
      by_contra late
      simp only [Timely, not_or, Bool.not_eq_true, Bool.not_eq_false] at late
      obtain ⟨-, ended, unopened⟩ := late
      have sent := sound'.complete (by simp [Halves.act, complete, ended])
      exact absurd ((honest.unsent unopened).1.symm.trans sent) Nat.zero_ne_one
    · intro timely
      refine ⟨sound.terminal, sound.stop, fun both => ?_⟩
      have ended : h.terminal = true := by simpa [Halves.act, complete] using both
      rcases timely with already | unended | opened
      · exact sound.complete (by simp [complete, ended, already])
      · rw [ended] at unended
        cases unended
      · exact (sound.terminal opened).mp ended

theorem Retires.same (retires : Retires h h') : h'.opened = h.opened ∧ h'.terminal = h.terminal ∧
    h'.peerEnded = h.peerEnded ∧ h'.cancelled = h.cancelled ∧ h'.terminals = h.terminals ∧
    h'.stops = h.stops := by
  rcases retires with rfl | ⟨-, rfl⟩
  · exact ⟨rfl, rfl, rfl, rfl, rfl, rfl⟩
  · exact ⟨rfl, rfl, rfl, rfl, rfl, rfl⟩

theorem Retires.trans {h'' : Halves} (first : Retires h h') (second : Retires h' h'') :
    Retires h h'' := by
  rcases first with rfl | ⟨complete, rfl⟩
  · exact second
  · rcases second with rfl | ⟨-, rfl⟩
    · exact Or.inr ⟨complete, rfl⟩
    · exact Or.inr ⟨complete, rfl⟩

theorem Retires.complete (retires : Retires h h') : h'.complete = h.complete := by
  rcases retires with rfl | ⟨-, rfl⟩ <;> rfl

theorem complete_act (complete : h.complete = true) (act : Act) : (h.act act).complete = true := by
  obtain ⟨terminal, peerEnded⟩ := (Bool.and_eq_true _ _).mp complete
  have finish : h.finish = h := finish_ended terminal
  have cancel : h.cancel.complete = true := by
    unfold Halves.cancel
    split <;> exact complete
  cases act with
  | ends => exact (congrArg Halves.complete finish).trans complete
  | cancels => exact cancel
  | abandons =>
    show h.finish.cancel.complete = true
    rw [finish]
    exact cancel
  | peerEnds => simp [Halves.act, Halves.complete, terminal]
  | _ => exact complete

theorem closed_act {act : Act} (other : act ≠ .closes) : (h.act act).closed = h.closed := by
  have finish (h : Halves) : h.finish.closed = h.closed := by
    unfold Halves.finish
    split <;> rfl
  have cancel (h : Halves) : h.cancel.closed = h.closed := by
    unfold Halves.cancel
    split <;> rfl
  cases act with
  | ends => exact finish h
  | cancels => exact cancel h
  | abandons => exact (cancel h.finish).trans (finish h)
  | closes => exact absurd rfl other
  | _ => rfl

/-- A stream whose halves both ended owes no STOP_SENDING, whether its channel is closed or not. -/
theorem retires_cancel (complete : h.complete = true) : Retires h.cancel h.close.cancel := by
  obtain ⟨terminal, peerEnded⟩ := (Bool.and_eq_true _ _).mp complete
  refine Or.inr ⟨?_, ?_⟩
  · unfold cancel
    split
    · exact complete
    · exact complete
  · unfold cancel
    split
    · next cancelled =>
      rw [if_pos (show h.cancelled = true from cancelled)]
    · next uncancelled =>
      rw [if_neg (show ¬ h.cancelled = true from uncancelled)]
      simp [close, peerEnded]

theorem Retires.honest (retires : Retires h h') (honest : Honest wished h) : Honest wished h' := by
  rcases retires with rfl | ⟨-, rfl⟩
  · exact honest
  · exact ⟨honest.unsent, honest.unended, honest.uncancelled, honest.wished⟩

theorem Retires.sound (retires : Retires h h') : Sound wished h' ↔ Sound wished h := by
  rcases retires with rfl | ⟨-, rfl⟩
  · exact Iff.rfl
  · exact ⟨fun sound => ⟨sound.terminal, sound.stop, sound.complete⟩,
      fun sound => ⟨sound.terminal, sound.stop, sound.complete⟩⟩

end Halves

/-! ### What the methods of a stream do to its halves -/

namespace KpsStream

def halves (s : KpsStream) : Halves where
  opened := s.ch.opened
  closed := s.ch.closed
  terminal := s.localTerminal.isSome
  peerEnded := s.peerFin || s.peerReset.isSome
  cancelled := s.readCancelled
  terminals := s.ch.sent.countP Frame.isTerminal
  stops := s.ch.sent.countP Frame.isStopSending

variable {s s' : KpsStream}

/-- DATA and credit are no ends. -/
theorem count_mild {frames more : List Frame} (mild : ∀ frame ∈ more, frame.isMild = true) :
    (frames ++ more).countP Frame.isTerminal = frames.countP Frame.isTerminal ∧
      (frames ++ more).countP Frame.isStopSending = frames.countP Frame.isStopSending := by
  have none : ∀ frame ∈ more, frame.isTerminal = false ∧ frame.isStopSending = false := by
    intro frame member
    have mild := mild frame member
    cases frame with
    | data => exact ⟨rfl, rfl⟩
    | maxStreamData => exact ⟨rfl, rfl⟩
    | _ => cases mild
  have terminals : more.countP Frame.isTerminal = 0 :=
    List.countP_eq_zero.mpr fun frame member => by simp [none frame member]
  have stops : more.countP Frame.isStopSending = 0 :=
    List.countP_eq_zero.mpr fun frame member => by simp [none frame member]
  rw [List.countP_append, List.countP_append, terminals, stops]
  exact ⟨rfl, rfl⟩

/-- A method that ends no half. -/
theorem halves_same (opened : s'.ch.opened = s.ch.opened) (closed : s'.ch.closed = s.ch.closed)
    (terminal : s'.localTerminal = s.localTerminal) (fin : s'.peerFin = s.peerFin)
    (reset : s'.peerReset = s.peerReset)
    (cancelled : s'.readCancelled = s.readCancelled)
    (sent : ∃ more, s'.ch.sent = s.ch.sent ++ more ∧ ∀ frame ∈ more, frame.isMild = true) :
      s'.halves = s.halves := by
  obtain ⟨more, sent, mild⟩ := sent
  obtain ⟨terminals, stops⟩ := @count_mild s.ch.sent _ mild
  unfold halves
  rw [opened, closed, terminal, fin, reset, cancelled, sent, terminals, stops]

theorem halves_settleOpen (error : Option KpsError) (s : KpsStream) :
    (s.settleOpen error).halves = s.halves := by
  unfold settleOpen
  split <;> rfl

theorem halves_settle (info : CloseInfo) (s : KpsStream) : (s.settle info).halves = s.halves := by
  unfold settle
  split <;> rfl

theorem halves_onError (text : String) (s : KpsStream) : (s.onError text).halves = s.halves := by
  show ((s.settle _).settleOpen _).halves = s.halves
  rw [halves_settleOpen, halves_settle]

end KpsStream

namespace StreamCtx

variable {x x' : StreamCtx}

theorem Accounts.halves (accounts : Accounts x x') : x'.s.halves = x.s.halves := by
  obtain ⟨credit, sent, kinds⟩ := accounts.sent
  have stream := accounts.stream
  refine KpsStream.halves_same accounts.opened accounts.closed ?_ ?_ ?_ ?_ ⟨credit, sent,
    fun frame member => ?_⟩
  · rw [stream]
  · rw [stream]
  · rw [stream]
  · rw [stream]
  · unfold Frame.isMild
    rw [kinds frame member, Bool.or_true]

theorem Writes.halves (writes : Writes x x') : x'.s.halves = x.s.halves := by
  obtain ⟨data, sent, kinds⟩ := writes.sent
  have stream := writes.stream
  refine KpsStream.halves_same writes.opened writes.closed ?_ ?_ ?_ ?_ ⟨data, sent,
    fun frame member => ?_⟩
  · rw [stream]
  · rw [stream]
  · rw [stream]
  · rw [stream]
  · unfold Frame.isMild
    rw [kinds frame member, Bool.true_or]

theorem halves_discardInbuf (x : StreamCtx) :
    x.discardInbuf.s.halves = x.s.halves := (discardInbuf_accounts x).halves

theorem halves_pull (x : StreamCtx) : x.pull.1.s.halves = x.s.halves := by
  unfold pull
  split
  · rfl
  · next chunk rest _ =>
    unfold deliverChunk
    exact (onConsumed_accounts chunk.length _).halves
  · rfl
  · rfl

theorem halves_read (x : StreamCtx) : x.read.1.s.halves = x.s.halves := by
  unfold read
  split
  · exact halves_pull x
  · rfl

theorem halves_readResume (x : StreamCtx) : x.readResume.1.s.halves = x.s.halves := by
  unfold readResume
  split
  · rfl
  · split
    · exact halves_pull x
    · rfl

theorem halves_channelLost (x : StreamCtx) : x.channelLost.s.halves = x.s.halves := by
  unfold channelLost
  exact (KpsStream.halves_settle _ _).trans (KpsStream.halves_settleOpen _ _)

theorem halves_sendIfOpen (frame : Frame) (x : StreamCtx) :
    (x.sendIfOpen frame).s.halves = { x.s.halves with
    terminals := if x.s.ch.isOpen && frame.isTerminal then x.s.halves.terminals +
      1 else x.s.halves.terminals
    stops := if x.s.ch.isOpen && frame.isStopSending then x.s.halves.stops +
      1 else x.s.halves.stops } := by
  cases able : x.s.ch.isOpen with
  | true =>
    unfold sendIfOpen KpsStream.halves
    rw [Channel.opened_sendIfOpen, Channel.closed_sendIfOpen,
      Channel.sent_sendIfOpen_of_isOpen able,
      List.countP_append, List.countP_append, List.countP_singleton, List.countP_singleton,
      Bool.true_and, Bool.true_and]
    cases frame.isTerminal <;> cases frame.isStopSending <;> rfl
  | false =>
    unfold sendIfOpen
    rw [Channel.sendIfOpen_of_not_isOpen able, Bool.false_and, Bool.false_and]
    rfl

theorem halves_endWrite {terminal : Terminal} {error : KpsError} {frame : Frame}
    (ends : frame.isTerminal = true)
    (unended : x.s.localTerminal = none) : (x.endWrite terminal error frame).s.halves =
      x.s.halves.finish := by
  have other : frame.isStopSending = false := by
    cases frame with
    | stopSending => cases ends
    | _ => rfl
  have fresh : x.s.halves.terminal = false := by
    show x.s.localTerminal.isSome = false
    rw [unended]
    rfl
  unfold endWrite
  rw [halves_sendIfOpen, ends, other, Bool.and_true, Bool.and_false, Halves.finish_unended fresh]
  rfl

theorem halves_closeWrite (unended : x.s.localTerminal = none) :
    x.closeWrite.s.halves = x.s.halves.finish :=
  halves_endWrite rfl unended

theorem halves_resetWrite {reason : Option KpsReason} (unended : x.s.localTerminal = none) :
    (x.resetWrite reason).s.halves = x.s.halves.finish := halves_endWrite rfl unended

theorem halves_cancelRead {reason : Option KpsReason} (uncancelled : x.s.readCancelled = false) :
    (x.cancelRead reason).s.halves = x.s.halves.cancel := by
  obtain ⟨y, same⟩ : ∃ y : StreamCtx, y = StreamCtx.discardInbuf { x with s := { x.s with
      readCancelled := true
      readError := some (reason.getD { code := some .cancelled })
      sf := x.s.sf.markCancelled } } := ⟨_, rfl⟩
  have halves : y.s.halves = { x.s.halves with cancelled := true } := by
    rw [same, halves_discardInbuf]
    rfl
  have accounts := discardInbuf_accounts { x with s := { x.s with
      readCancelled := true
      readError := some (reason.getD { code := some .cancelled })
      sf := x.s.sf.markCancelled } }
  rw [← same] at accounts
  have isOpen : y.s.ch.isOpen = x.s.ch.isOpen := by
    unfold Channel.isOpen
    rw [accounts.opened, accounts.closed]
  have peerFin : y.s.peerFin = x.s.peerFin := by rw [accounts.stream]
  have peerReset : y.s.peerReset = x.s.peerReset := by rw [accounts.stream]
  rw [Halves.cancel_uncancelled uncancelled]
  unfold cancelRead
  dsimp only
  rw [← same, peerFin, peerReset]
  have due : (!x.s.halves.peerEnded) = (!x.s.peerFin && !x.s.peerReset.isSome) := Bool.not_or _ _
  rw [due]
  split
  · next owed =>
    refine (halves_sendIfOpen _ y).trans ?_
    rw [halves, isOpen, owed]
    cases able : x.s.ch.isOpen <;>
      simp [Frame.isTerminal, Frame.isFin, Frame.isReset, Frame.isStopSending,
      show x.s.halves.isOpen = x.s.ch.isOpen from rfl, able]
  · next free =>
    refine halves.trans ?_
    rw [Bool.not_eq_true] at free
    rw [free]
    simp

/-- A frame that asks for nothing ends at most the peer's half. -/
theorem Takes.halves {frame : Frame} (takes : Takes frame x x') (other : frame.stopReason = none) :
    x'.s.halves = { x.s.halves with peerEnded := x.s.halves.peerEnded || frame.isTerminal } := by
  obtain ⟨more, sent, kinds⟩ := takes.sent
  have mild : ∀ frame ∈ more, frame.isMild = true := by
    intro frame' member
    unfold Frame.isMild
    rcases kinds frame' member with credit | ⟨-, asks⟩
    · rw [credit, Bool.or_true]
    · rw [other] at asks
      cases asks
  obtain ⟨terminals, stops⟩ := @KpsStream.count_mild x.s.ch.sent _ mild
  have resets : frame.resetReason.isSome = frame.isReset := by cases frame <;> rfl
  have localTerminal : x'.s.localTerminal = x.s.localTerminal := by
    rw [takes.stream]
    simp [other]
  have peerEnded : (x'.s.peerFin || x'.s.peerReset.isSome) =
      (x.s.peerFin || x.s.peerReset.isSome || frame.isTerminal) := by
    rw [takes.stream]
    simp only [Option.isSome_or, resets, Frame.isTerminal]
    cases x.s.peerFin <;> cases frame.isFin <;> simp
  have cancelled : x'.s.readCancelled = x.s.readCancelled := by rw [takes.stream]
  unfold KpsStream.halves
  rw [takes.opened, takes.closed, localTerminal, peerEnded, cancelled, sent, terminals, stops]

/-- What a frame of the peer does to the halves. -/
theorem halves_handleFrame {frame : Frame} {retires : Bool}
    (handled : x.handleFrame frame = .done x' retires) :
    x'.s.halves =
      if frame.isStopSending && !x.s.peerStop.isSome then x.s.halves.finish
      else { x.s.halves with peerEnded := x.s.halves.peerEnded || frame.isTerminal } := by
  cases frame with
  | stopSending code =>
    have same : { x.s.halves with
        peerEnded := x.s.halves.peerEnded || (Frame.stopSending code).isTerminal } =
        x.s.halves := by
      show { x.s.halves with peerEnded := x.s.halves.peerEnded || false } = x.s.halves
      rw [Bool.or_false]
    rw [same]
    unfold handleFrame at handled
    dsimp only at handled
    split at handled
    · next again =>
      cases handled
      rw [again]
      rfl
    · next first =>
      rw [Bool.not_eq_true] at first
      rw [first]
      show x'.s.halves = x.s.halves.finish
      split at handled <;> cases handled
      · next ended =>
        rw [Halves.finish_ended ended]
        rfl
      · next unended =>
        rw [Bool.not_eq_true] at unended
        rw [Halves.finish_unended unended, halves_sendIfOpen,
          show (Frame.reset code).isTerminal = true from rfl,
          show (Frame.reset code).isStopSending = false from rfl, Bool.and_true, Bool.and_false]
        rfl
  | _ => exact (handleFrame_takes handled).halves rfl

/-- What the stream answers with a violation is DATA, or the end of a half that has ended. -/
theorem violation_halves {frame : Frame} {text : String}
    (handled : x.handleFrame frame = .violation text) :
    frame.isStopSending = false ∧ (frame.isTerminal = true → x.s.halves.peerEnded = true) := by
  unfold handleFrame at handled
  cases frame with
  | data => exact ⟨rfl, fun terminal => by cases terminal⟩
  | maxStreamData => exact ⟨rfl, fun terminal => by cases terminal⟩
  | stopSending =>
    dsimp only at handled
    split at handled
    · cases handled
    · split at handled <;> cases handled
  | _ =>
    dsimp only at handled
    split at handled
    · next ended => exact ⟨rfl, fun _ => ended⟩
    · cases handled

end StreamCtx

/-! ### What an event does to the halves -/

/-- What a message of the peer does to the halves. -/
def KpsStream.messageAct (data : Bytes) (s : KpsStream) : Act :=
  match parseFrame data with
  | .error _ => .idle
  | .ok frame =>
    if frame.isStopSending && !s.peerStop.isSome then .ends
    else if frame.isTerminal then .peerEnds
    else .idle

/-- What an event does to the halves of the stream it is about. -/
def Event.act (s : KpsStream) : Event → Act
  | .channelOpen _ => .opens
  | .channelClosing _ | .channelClose _ => .closes
  | .channelMessage _ data => s.messageAct data
  | .closeWrite _ | .resetWrite _ _ => .ends
  | .cancelRead _ _ => .cancels
  | .cancelReadable _ _ => if s.readable.state = .readable then .cancels else .idle
  | .abandonResume _ => if s.abandoned ∧ s.openState = .resolved then .abandons else .idle
  | _ => .idle

namespace ConnCore

/-- The halves of stream `k` change by an act, and perhaps it retires; the other streams are
left. -/
structure Acts (k : Nat) (act : Act) (c c' : ConnCore) : Prop where
  closeFired : c'.closeFired = c.closeFired
  ids : c'.ids = c.ids
  halves : Halves.Retires ((c.streams k).halves.act act) (c'.streams k).halves
  others : ∀ j, j ≠ k → (c'.streams j).halves = (c.streams j).halves

variable {c c' c'' : ConnCore} {k : Nat} {act : Act}

namespace Acts

theorem refl (k : Nat) (c : ConnCore) : Acts k .idle c c := ⟨rfl, rfl, Or.inl rfl, fun _ _ => rfl⟩

theorem put {x : StreamCtx} (halves : x.s.halves = (c.streams k).halves.act act) :
    Acts k act c (c.put k x) := by
  refine ⟨rfl, rfl, Or.inl ?_, fun j other => ?_⟩
  · show (Function.update c.streams k x.s k).halves = _
    rw [Function.update_self, halves]
  · show (Function.update c.streams k x.s j).halves = _
    rw [Function.update_of_ne other]

theorem onStream {f : StreamCtx → StreamCtx}
    (halves : (f (c.ctx k)).s.halves = (c.streams k).halves.act act) :
    Acts k act c (c.onStream k f) := put halves

/-- The connection changes at most as `#maybeRetire` changes it. -/
theorem retired (acts : Acts k act c c') : Acts k act c (c'.retired k) := by
  unfold ConnCore.retired
  dsimp only
  split
  · exact ⟨acts.closeFired, acts.ids, acts.halves, acts.others⟩
  · exact ⟨acts.closeFired, acts.ids, acts.halves, acts.others⟩

theorem retirePut (acts : Acts k act c c') {x : StreamCtx}
    (retires : Halves.Retires (c'.streams k).halves x.s.halves) :
    Acts k act c (c'.put k x) := by
  refine ⟨acts.closeFired, acts.ids, ?_, fun j other => ?_⟩
  · show Halves.Retires _ (Function.update c'.streams k x.s k).halves
    rw [Function.update_self]
    exact acts.halves.trans retires
  · show (Function.update c'.streams k x.s j).halves = _
    rw [Function.update_of_ne other]
    exact acts.others j other

theorem maybeRetire (acts : Acts k act c c') : Acts k act c (c'.maybeRetire k) := by
  unfold ConnCore.maybeRetire
  rcases (c'.ctx k).maybeRetire_cases with same | ⟨complete, -, -, same⟩ | ⟨-, -, -, -, same⟩ <;>
    rw [same]
  · exact acts.retirePut (Or.inl rfl)
  · exact acts.retirePut (Or.inr ⟨complete, rfl⟩)
  · exact (acts.retirePut (Or.inl rfl)).retired

theorem retireAfter {f : StreamCtx → StreamCtx}
    (halves : (f (c.ctx k)).s.halves = (c.streams k).halves.act act) :
    Acts k act c (c.retireAfter k f) := (onStream halves).maybeRetire

theorem runStream {f : StreamCtx → StreamCtx × Bool}
    (halves : (f (c.ctx k)).1.s.halves = (c.streams k).halves) :
    Acts k .idle c (c.runStream k f) := by
  unfold ConnCore.runStream
  dsimp only
  split
  · exact (put halves).maybeRetire
  · exact put halves

theorem closeWrite : Acts k .ends c (c.closeWrite k) := by
  unfold ConnCore.closeWrite
  split
  · next ended => exact ⟨rfl, rfl, Or.inl (Halves.finish_ended ended).symm, fun _ _ => rfl⟩
  · next unended =>
    have unended : (c.streams k).localTerminal = none := by simpa using unended
    exact retireAfter (StreamCtx.halves_closeWrite unended)

theorem resetWrite {reason : Option KpsReason} : Acts k .ends c (c.resetWrite k reason) := by
  unfold ConnCore.resetWrite
  split
  · next ended => exact ⟨rfl, rfl, Or.inl (Halves.finish_ended ended).symm, fun _ _ => rfl⟩
  · next unended =>
    have unended : (c.streams k).localTerminal = none := by simpa using unended
    exact retireAfter (StreamCtx.halves_resetWrite unended)

theorem cancelRead {reason : Option KpsReason} : Acts k .cancels c (c.cancelRead k reason) := by
  unfold ConnCore.cancelRead
  split
  · next cancelled =>
      exact ⟨rfl, rfl, Or.inl (Halves.cancel_cancelled cancelled).symm, fun _ _ => rfl⟩
  · next uncancelled =>
    have uncancelled : (c.streams k).readCancelled = false := by simpa using uncancelled
    exact retireAfter (StreamCtx.halves_cancelRead uncancelled)

/-- The stream changes and its halves are left, and then an act changes them. -/
theorem after {f : StreamCtx → StreamCtx} (acts : Acts k act (c.onStream k f) c')
    (same : (f (c.ctx k)).s.halves = (c.streams k).halves) : Acts k act c c' := by
  have left : Acts k .idle c (c.onStream k f) := onStream same
  refine ⟨acts.closeFired, acts.ids, ?_,
    fun j other => (acts.others j other).trans (left.others j other)⟩
  have halves := acts.halves
  change Halves.Retires ((Function.update c.streams k (f (c.ctx k)).s k).halves.act act) _ at halves
  rw [Function.update_self, same] at halves
  exact halves

/-- A stream that retires between the two acts of `abandons` owes no STOP_SENDING. -/
theorem abandons (first : Acts k .ends c c') (second : Acts k .cancels c' c'') :
    Acts k .abandons c c'' := by
  refine ⟨second.closeFired.trans first.closeFired, second.ids.trans first.ids, ?_,
    fun j other => ?_⟩
  · show Halves.Retires (c.streams k).halves.finish.cancel _
    have retires := second.halves
    rcases first.halves with same | ⟨complete, closed⟩
    · rw [same] at retires
      exact retires
    · rw [closed] at retires
      refine Halves.Retires.trans ?_ retires
      exact Halves.retires_cancel complete
  · exact (second.others j other).trans (first.others j other)

end Acts

/-! The end of the connection. -/

theorem fired_teardown (info : CloseInfo) (c : ConnCore) : (c.teardown info).closeFired = true := by
  unfold teardown
  dsimp only
  split
  · next fired => exact fired
  · obtain ⟨_, _, _, _, same⟩ := OnStreams.destroyAll info.reason _ _
    rw [same]
    unfold settleClosed rejectEstablished
    dsimp only
    split <;> rfl

theorem fired_fatal (reason : KpsReason) (c : ConnCore) : (c.fatal reason).closeFired = true := by
  unfold fatal
  dsimp only
  split
  · next fired => exact fired
  · exact fired_teardown _ _

theorem fired_protocolError (text : String) (c : ConnCore) :
    (c.protocolError text).closeFired = true := fired_fatal _ c

theorem OnStreams.fired (on : OnStreams c c') (fired : c.closeFired = true) :
    c'.closeFired = true := by
  obtain ⟨_, _, _, _, rfl⟩ := on
  exact fired

/-- The connection is torn down by an event that owes no frame of the stream. -/
def Tears.Idle (k : Nat) (act : Act) (c c' : ConnCore) : Prop :=
  c'.closeFired = true ∧ ∀ wished, (c.streams k).halves.Timely wished act

theorem onFrame_acts (data : Bytes) :
    Tears.Idle k ((c.streams k).messageAct data) c (c.onFrame k data) ∨
    Acts k ((c.streams k).messageAct data) c (c.onFrame k data) := by
  unfold onFrame KpsStream.messageAct
  cases parsed : parseFrame data with
  | error text => exact Or.inl ⟨fired_protocolError _ c, fun _ => trivial⟩
  | ok frame =>
    dsimp only
    cases handled : (c.ctx k).handleFrame frame with
    | violation text =>
      refine Or.inl ⟨fired_protocolError _ c, fun wished => ?_⟩
      obtain ⟨other, ended⟩ := StreamCtx.violation_halves handled
      rw [other, Bool.false_and, if_neg Bool.false_ne_true]
      split
      · next terminal => exact Or.inl (ended terminal)
      · exact trivial
    | done x retire =>
      right
      have halves : x.s.halves = (c.streams k).halves.act
          (if frame.isStopSending && !(c.streams k).peerStop.isSome then .ends
            else if frame.isTerminal then .peerEnds else .idle) := by
        refine (StreamCtx.halves_handleFrame handled).trans ?_
        show (if frame.isStopSending && !(c.streams k).peerStop.isSome then _ else _) = _
        split
        · rfl
        · split
          · next terminal =>
            rw [terminal, Bool.or_true]
            rfl
          · next other =>
            rw [Bool.not_eq_true] at other
            rw [other, Bool.or_false]
            rfl
      cases retire with
      | true => exact (Acts.put halves).maybeRetire
      | false => exact Acts.put halves

theorem onChannelClose_acts :
    Tears.Idle k .closes c (c.onChannelClose k) ∨ Acts k .closes c (c.onChannelClose k) := by
  have shut : Acts k .closes c (c.onStream k fun x => { x with s := x.s.shut }) := by
    refine Acts.onStream ?_
    rfl
  unfold onChannelClose
  dsimp only
  split
  · refine Or.inl ⟨OnStreams.fired (.retireAfter _) (fired_protocolError _ _), fun _ => trivial⟩
  · refine Or.inr (Acts.maybeRetire ?_)
    have lost := shut.retirePut (x := StreamCtx.channelLost
      ((c.onStream k fun x => { x with s := x.s.shut }).ctx k))
      (Or.inl (StreamCtx.halves_channelLost _))
    exact lost

/-- **What an event does to the halves of the stream it is about.** -/
theorem streamEvent_acts (k : Nat) (event : Event) (c : ConnCore) (about : event.stream = some k) :
    Tears.Idle k (event.act (c.streams k)) c (c.streamEvent k event) ∨
      Acts k (event.act (c.streams k)) c (c.streamEvent k event) := by
  cases event with
  | channelOpen =>
    dsimp only [streamEvent, Event.act]
    refine Or.inr (Acts.onStream ?_)
    exact KpsStream.halves_settleOpen none _
  | channelMessage _ data => exact onFrame_acts data
  | channelClosing =>
    dsimp only [streamEvent, Event.act]
    refine Or.inr (Acts.onStream ?_)
    rfl
  | channelClose => exact onChannelClose_acts
  | channelError _ text =>
    dsimp only [streamEvent, Event.act]
    refine Or.inr (Acts.onStream ?_)
    exact KpsStream.halves_onError text _
  | bufferedAmount _ amount =>
    dsimp only [streamEvent, Event.act]
    refine Or.inr (Acts.onStream ?_)
    dsimp only
    split <;> rfl
  | write _ chunk => exact Or.inr (Acts.onStream (StreamCtx.Writes.writeChunk chunk _).halves)
  | writeResume => exact Or.inr (Acts.onStream (StreamCtx.Writes.writeResume _).halves)
  | read => exact Or.inr (Acts.runStream (StreamCtx.halves_read _))
  | readResume => exact Or.inr (Acts.runStream (StreamCtx.halves_readResume _))
  | closeWrite => exact Or.inr Acts.closeWrite
  | resetWrite => exact Or.inr Acts.resetWrite
  | cancelRead => exact Or.inr Acts.cancelRead
  | cancelReadable _ reason =>
    right
    show Acts k (if (c.streams k).readable.state = .readable then .cancels else .idle) c
      (c.cancelReadable k reason)
    unfold ConnCore.cancelReadable
    split
    · refine Acts.cancelRead.after ?_
      rfl
    · exact .refl k c
  | abandonResume =>
    right
    show Acts k
      (if (c.streams k).abandoned ∧ (c.streams k).openState = .resolved then .abandons else .idle) c
      (c.abandonResume k)
    unfold ConnCore.abandonResume
    split
    · refine Acts.abandons (Acts.resetWrite.after ?_) .cancelRead
      rfl
    · exact .refl k c
  | _ => cases about

/-! ### What an event does that is about no stream -/

/-- The halves of all streams are left. -/
structure Leaves (c c' : ConnCore) : Prop where
  closeFired : c'.closeFired = c.closeFired
  ids : c'.ids = c.ids
  halves : ∀ j, (c'.streams j).halves = (c.streams j).halves

namespace Leaves

theorem of_same (closeFired : c'.closeFired = c.closeFired) (ids : c'.ids = c.ids)
    (streams : c'.streams = c.streams) :
    Leaves c c' := ⟨closeFired, ids, fun j => by rw [streams]⟩

theorem refl (c : ConnCore) : Leaves c c := of_same rfl rfl rfl

theorem trans (first : Leaves c c') (second : Leaves c' c'') : Leaves c c'' :=
  ⟨second.closeFired.trans first.closeFired, second.ids.trans first.ids,
    fun j => (second.halves j).trans (first.halves j)⟩

theorem enqueueIncoming (k : Nat) (c : ConnCore) : Leaves c (c.enqueueIncoming k) := by
  unfold ConnCore.enqueueIncoming
  split <;> exact of_same rfl rfl rfl

theorem enqueueAll (keys : List Nat) (c : ConnCore) :
    Leaves c (keys.foldl (fun c k => c.enqueueIncoming k) c) := by
  induction keys generalizing c with
  | nil => exact refl c
  | cons key keys ih => exact (enqueueIncoming key c).trans (ih _)

theorem checkEstablished (c : ConnCore) : Leaves c c.checkEstablished := by
  unfold ConnCore.checkEstablished
  split
  · exact refl c
  · split
    · exact refl c
    · refine Leaves.trans ?_ (enqueueAll _ _)
      exact of_same rfl rfl rfl

theorem sendHello (c : ConnCore) : Leaves c c.sendHello := by
  unfold ConnCore.sendHello
  split
  · exact refl c
  · refine Leaves.trans ?_ (checkEstablished _)
    exact of_same rfl rfl rfl

theorem rejectOpen {op : Nat} (error : KpsError) (c : ConnCore) :
    Leaves c (c.rejectOpen op error) := of_same rfl rfl rfl

theorem reserveSlot {op : Nat} (aborted : Bool) (c : ConnCore) :
    Leaves c (c.reserveSlot op aborted) := by
  unfold ConnCore.reserveSlot
  split <;> exact of_same rfl rfl rfl

theorem openStream (aborted : Bool) (c : ConnCore) : Leaves c (c.openStream aborted) := by
  unfold ConnCore.openStream
  dsimp only
  split
  · exact of_same rfl rfl rfl
  · split
    · exact of_same rfl rfl rfl
    · refine Leaves.trans ?_ (reserveSlot aborted _)
      exact of_same rfl rfl rfl

theorem abandon (k : Nat) (c : ConnCore) : Leaves c (c.abandon k) := by
  refine ⟨rfl, rfl, fun j => ?_⟩
  show (Function.update c.streams k { c.streams k with abandoned := true } j).halves = _
  by_cases same : j = k
  · subst same
    rw [Function.update_self]
    rfl
  · rw [Function.update_of_ne same]

theorem openStreamAbort (op : Nat) (c : ConnCore) : Leaves c (c.openStreamAbort op) := by
  unfold ConnCore.openStreamAbort
  split
  · exact refl c
  · dsimp only
    split
    · split <;> exact of_same rfl rfl rfl
    · have marked (opens : List OpenCall) : Leaves c { c with opens } := of_same rfl rfl rfl
      exact (marked _).trans ((abandon _ _).trans (rejectOpen _ _))
    · exact of_same rfl rfl rfl

theorem acceptStream (waiter : Nat) (aborted : Bool) (c : ConnCore) :
    Leaves c (c.acceptStream waiter aborted) := by
  unfold ConnCore.acceptStream
  split
  · exact of_same rfl rfl rfl
  · split
    · exact of_same rfl rfl rfl
    · split <;> exact of_same rfl rfl rfl

theorem acceptAbort (waiter : Nat) (c : ConnCore) : Leaves c (c.acceptAbort waiter) := by
  unfold ConnCore.acceptAbort
  split <;> exact of_same rfl rfl rfl

theorem onDatagram (data : Bytes) (c : ConnCore) : Leaves c (c.onDatagram data) := by
  unfold ConnCore.onDatagram
  split <;> exact of_same rfl rfl rfl

theorem sendDatagram (data : Bytes) (aborted : Bool) (c : ConnCore) :
    Leaves c (c.sendDatagram data aborted) := by
  unfold ConnCore.sendDatagram
  split
  · exact of_same rfl rfl rfl
  · split
    · exact of_same rfl rfl rfl
    · split <;> exact of_same rfl rfl rfl

theorem receiveDatagram (waiter : Nat) (aborted : Bool) (c : ConnCore) :
    Leaves c (c.receiveDatagram waiter aborted) := by
  unfold ConnCore.receiveDatagram
  split
  · exact of_same rfl rfl rfl
  · split
    · exact of_same rfl rfl rfl
    · split <;> exact of_same rfl rfl rfl

theorem receiveAbort (waiter : Nat) (c : ConnCore) : Leaves c (c.receiveAbort waiter) := by
  unfold ConnCore.receiveAbort
  split <;> exact of_same rfl rfl rfl

end Leaves

/-- A stream is made; the halves of the others are left. -/
structure Makes (k : Nat) (c c' : ConnCore) : Prop where
  absent : k ∉ c.ids
  closeFired : c'.closeFired = c.closeFired
  ids : c'.ids = c.ids ++ [k]
  made : ∃ opened, (c'.streams k).halves = { opened }
  others : ∀ j, j ≠ k → (c'.streams j).halves = (c.streams j).halves

namespace Makes

theorem makeStream {peerInitiated isOpen : Bool} (absent : k ∉ c.ids)
    (closeFired : c'.closeFired = c.closeFired)
    (ids : c'.ids = c.ids) (streams : c'.streams = c.streams) :
      Makes k c (c'.makeStream k peerInitiated isOpen) := by
  refine ⟨absent, closeFired, congrArg (· ++ [k]) ids, ⟨isOpen, ?_⟩, fun j other => ?_⟩
  · show (Function.update c'.streams k (KpsStream.new c'.flow.localLimits peerInitiated isOpen)
      k).halves = _
    rw [Function.update_self]
    rfl
  · show (Function.update c'.streams k _ j).halves = _
    rw [Function.update_of_ne other, streams]

theorem before (makes : Makes k c' c'') (leaves : Leaves c c') : Makes k c c'' :=
  ⟨leaves.ids ▸ makes.absent, makes.closeFired.trans leaves.closeFired, leaves.ids ▸ makes.ids,
    makes.made, fun j other => (makes.others j other).trans (leaves.halves j)⟩

theorem after (makes : Makes k c c') (leaves : Leaves c' c'') : Makes k c c'' := by
  obtain ⟨opened, made⟩ := makes.made
  exact ⟨makes.absent, leaves.closeFired.trans makes.closeFired, leaves.ids.trans makes.ids,
    ⟨opened, (leaves.halves k).trans made⟩,
    fun j other => (leaves.halves j).trans (makes.others j other)⟩

end Makes

/-- The connection is torn down, or it changes and the halves of its streams are left, but for a
stream that is made. -/
def Steady (c c' : ConnCore) : Prop := c'.closeFired = true ∨ Leaves c c' ∨ ∃ k, Makes k c c'

theorem Leaves.steady (leaves : Leaves c c') : Steady c c' := Or.inr (Or.inl leaves)

theorem Makes.steady (makes : Makes k c c') : Steady c c' := Or.inr (Or.inr ⟨k, makes⟩)

theorem handleControl_steady (message : ControlMsg) (c : ConnCore) :
    Steady c (c.handleControl message) := by
  unfold handleControl
  cases message with
  | hello version limits =>
    dsimp only
    split
    · exact Or.inl (fired_protocolError _ c)
    · split
      · exact Or.inl (fired_teardown _ _)
      · refine Leaves.steady (Leaves.trans ?_ (.checkEstablished _))
        exact .of_same rfl rfl rfl
  | close code => exact Or.inl (fired_teardown _ c)
  | maxData value =>
    dsimp only
    split
    · exact Or.inl (fired_protocolError _ c)
    · exact Leaves.steady (.of_same rfl rfl rfl)
  | maxStreams value =>
    dsimp only
    split
    · exact Or.inl (fired_protocolError _ c)
    · exact Leaves.steady (.of_same rfl rfl rfl)

theorem Steady.before (steady : Steady c' c'') (leaves : Leaves c c') : Steady c c'' :=
  steady.imp id (Or.imp leaves.trans fun ⟨k, makes⟩ => ⟨k, makes.before leaves⟩)

theorem onControl_steady (data : Bytes) (c : ConnCore) : Steady c (c.onControl data) := by
  unfold onControl
  split
  · exact Or.inl (fired_protocolError _ c)
  · next message _ =>
    refine (handleControl_steady message _).before ?_
    exact .of_same rfl rfl rfl

theorem reservedChannelLost_steady (which : String) (c : ConnCore) :
    Steady c (c.reservedChannelLost which) := by
  unfold reservedChannelLost
  split
  · exact (Leaves.refl c).steady
  · exact Or.inl (fired_protocolError _ c)

theorem onHelloTimer_steady (c : ConnCore) : Steady c c.onHelloTimer := by
  unfold onHelloTimer
  split
  · exact Or.inl (fired_fatal _ _)
  · exact (Leaves.refl c).steady

theorem close_steady (reason : Option KpsReason) (c : ConnCore) : Steady c (c.close reason) := by
  unfold ConnCore.close
  split
  · exact (Leaves.refl c).steady
  · exact Or.inl (fired_teardown _ _)

theorem handleIncomingChannel_steady (isOpen : Bool) (absent : k ∉ c.ids) :
    Steady c (c.handleIncomingChannel k isOpen) := by
  unfold handleIncomingChannel
  split
  · exact Or.inl (fired_protocolError _ c)
  · next flow _ =>
    have made : Makes k c ({ c with flow }.makeStream k true isOpen) :=
      .makeStream absent rfl rfl rfl
    dsimp only
    split
    · exact (made.after (.enqueueIncoming k _)).steady
    · refine (made.after ?_).steady
      exact .of_same rfl rfl rfl

theorem openChannel_makes {op : Nat} (aborted isOpen : Bool) (absent : k ∉ c.ids) :
    Makes k c (c.openChannel op aborted k isOpen) := by
  have made : Makes k c (({ c with seq := c.seq + 1, flow := c.flow.commitStreamSlot }.report
      (.channelCreated k ("kps-" ++ toString (c.seq + 1)))).makeStream k false isOpen) :=
    .makeStream absent rfl rfl rfl
  unfold openChannel
  dsimp only
  split
  · exact made.after ((Leaves.abandon k _).trans (.rejectOpen _ _))
  · exact made.after (.of_same rfl rfl rfl)

theorem openStreamResume_steady {op : Nat} (channel : Except KpsError Nat) (isOpen : Bool)
    (c : ConnCore) :
    Steady c (c.openStreamResume op channel isOpen) := by
  unfold openStreamResume
  split
  · exact (Leaves.refl c).steady
  · exact (Leaves.refl c).steady
  · split
    · exact (Leaves.reserveSlot _ c).steady
    · exact (Leaves.refl c).steady
  · split
    · exact Leaves.steady (.of_same rfl rfl rfl)
    · split
      · exact (Leaves.refl c).steady
      · next absent => exact (openChannel_makes _ _ absent).steady
  · split <;> exact Leaves.steady (.of_same rfl rfl rfl)

/-- **What an event does that is about no stream.** -/
theorem connEvent_steady (event : Event) (c : ConnCore) : Steady c (c.connEvent event) := by
  cases event with
  | controlOpen =>
    refine (Leaves.sendHello _).steady.before ?_
    exact .of_same rfl rfl rfl
  | controlMessage data => exact onControl_steady data c
  | controlClose =>
    refine (reservedChannelLost_steady _ _).before ?_
    exact .of_same rfl rfl rfl
  | controlError => exact reservedChannelLost_steady _ c
  | datagramClose =>
    refine (reservedChannelLost_steady _ _).before ?_
    exact .of_same rfl rfl rfl
  | datagramMessage data => exact (Leaves.onDatagram data c).steady
  | incomingChannel k isOpen =>
    show Steady c (if k ∈ c.ids then c else c.handleIncomingChannel k isOpen)
    split
    · exact (Leaves.refl c).steady
    · next absent => exact handleIncomingChannel_steady isOpen absent
  | helloTimer => exact onHelloTimer_steady c
  | transportFailed message => exact Or.inl (fired_teardown _ c)
  | transportClosed => exact Or.inl (fired_teardown _ c)
  | openStream aborted => exact (Leaves.openStream aborted c).steady
  | openStreamResume op channel isOpen => exact openStreamResume_steady channel isOpen c
  | openStreamAbort op => exact (Leaves.openStreamAbort op c).steady
  | acceptStream waiter aborted => exact (Leaves.acceptStream waiter aborted c).steady
  | acceptAbort waiter => exact (Leaves.acceptAbort waiter c).steady
  | sendDatagram data aborted => exact (Leaves.sendDatagram data aborted c).steady
  | receiveDatagram waiter aborted => exact (Leaves.receiveDatagram waiter aborted c).steady
  | receiveAbort waiter => exact (Leaves.receiveAbort waiter c).steady
  | close reason => exact close_steady reason c
  | _ => exact Leaves.steady (.of_same rfl rfl rfl)

end ConnCore

/-! ### The law -/

/-- The channel of a stream leaves the open state, other than by the engine. -/
def Event.isClose : Event → Bool
  | .channelClosing _ | .channelClose _ => true
  | _ => false

/-- A connection. `wished` are the streams whose read half was cancelled before the peer had ended
its own, and `shut` those whose channel was closed by the engine itself. -/
structure Watch where
  core : ConnCore
  wished : Nat → Bool := fun _ => false
  shut : Nat → Bool := fun _ => false

namespace Watch

def new (limits : FlowLimits) (controlOpen : Bool) : Watch where
  core := .new limits controlOpen

def step (w : Watch) (event : Event) : Option Watch :=
  let core := w.core.step event
  some
    { core
      wished := fun k =>
        w.wished k || (!(w.core.streams k).readCancelled && (core.streams k).readCancelled &&
          !((w.core.streams k).peerFin || (w.core.streams k).peerReset.isSome))
      shut := fun k =>
        w.shut k || (!(w.core.streams k).ch.closed && (core.streams k).ch.closed && !event.isClose)
          }

/-- What was asked of stream `k` reached its channel. -/
structure Lawful (w : Watch) (k : Nat) : Prop where
  terminal : (w.core.streams k).ch.opened = true →
    ((w.core.streams k).localTerminal.isSome = true ↔
      (w.core.streams k).ch.sent.countP Frame.isTerminal = 1)
  stop : (w.core.streams k).ch.opened = true → w.wished k = true →
    (w.core.streams k).ch.sent.countP Frame.isStopSending = 1
  complete : (w.core.streams k).wireComplete = true →
    (w.core.streams k).ch.sent.countP Frame.isTerminal = 1
  shut : w.shut k = true → (w.core.streams k).ch.sent.countP Frame.isTerminal = 1

/-- Until the connection is torn down, what was asked of each stream reached its channel. -/
def Survives (w : Watch) : Prop := w.core.closeFired = false → ∀ k, Lawful w k

/-- The event finds its stream ready: no half ends, or ended, that the peer cannot be told of. -/
def InTime (w : Watch) (event : Event) : Prop :=
  w.core.closeFired = false → ∀ k ∈ w.core.ids, event.stream = some k →
    (w.core.streams k).halves.Timely (w.wished k) (event.act (w.core.streams k))

/-- What the law of stream `k` rests on. -/
structure Rests (w : Watch) (k : Nat) : Prop where
  honest : (w.core.streams k).halves.Honest (w.wished k)
  shut : w.shut k = true → (w.core.streams k).wireComplete = true
  blank : k ∉ w.core.ids → (w.core.streams k).halves = {} ∧ w.wished k = false ∧ w.shut k = false

def Inv (w : Watch) : Prop := w.core.closeFired = false → ∀ k, Rests w k

variable {w w' : Watch} {event : Event} {k : Nat}

theorem Rests.lawful_iff (rests : Rests w k) :
    Lawful w k ↔ (w.core.streams k).halves.Sound (w.wished k) := by
  constructor
  · exact fun lawful => ⟨lawful.terminal, lawful.stop, lawful.complete⟩
  · exact fun sound => ⟨sound.terminal, sound.stop, sound.complete,
      fun shut => sound.complete (rests.shut shut)⟩

/-- A stream whose halves are left. -/
theorem left (stepped : w.step event = some w')
    (same : (w'.core.streams k).halves = (w.core.streams k).halves) :
    w'.wished k = w.wished k ∧ w'.shut k = w.shut k := by
  cases stepped
  have cancelled : ((w.core.step event).streams k).readCancelled =
      (w.core.streams k).readCancelled :=
    congrArg Halves.cancelled same
  have closed : ((w.core.step event).streams k).ch.closed = (w.core.streams k).ch.closed :=
    congrArg Halves.closed same
  dsimp only
  rw [cancelled, closed]
  cases (w.core.streams k).readCancelled <;> cases (w.core.streams k).ch.closed <;> simp

theorem Rests.left (rests : Rests w k) (stepped : w.step event = some w')
    (same : (w'.core.streams k).halves = (w.core.streams k).halves)
    (present : k ∉ w'.core.ids → k ∉ w.core.ids) :
    Rests w' k ∧ (Lawful w k → Lawful w' k) := by
  obtain ⟨wished, shut⟩ := Watch.left stepped same
  have rests' : Rests w' k := by
    refine ⟨?_, fun closed => ?_, fun absent => ?_⟩
    · rw [same, wished]
      exact rests.honest
    · have complete := rests.shut (shut ▸ closed)
      exact (congrArg Halves.complete same).trans complete
    · rw [same, wished, shut]
      exact rests.blank (present absent)
  refine ⟨rests', fun lawful => ?_⟩
  rw [rests'.lawful_iff, same, wished]
  exact rests.lawful_iff.mp lawful

theorem act_closes {s : KpsStream} (closes : event.act s = .closes) : event.isClose = true := by
  cases event with
  | channelClosing => rfl
  | channelClose => rfl
  | channelMessage _ data =>
    change s.messageAct data = .closes at closes
    unfold KpsStream.messageAct at closes
    split at closes
    · cases closes
    · split at closes
      · cases closes
      · split at closes <;> cases closes
  | cancelReadable =>
    dsimp only [Event.act] at closes
    split at closes <;> cases closes
  | abandonResume =>
    dsimp only [Event.act] at closes
    split at closes <;> cases closes
  | _ => cases closes

/-- The stream that an event is about. -/
theorem Rests.acts (rests : Rests w k) (stepped : w.step event = some w')
    (acts : w.core.Acts k (event.act (w.core.streams k)) w'.core) (present : k ∈ w.core.ids) :
    Rests w' k ∧ (Lawful w k → (Lawful w' k ↔
      (w.core.streams k).halves.Timely (w.wished k) (event.act (w.core.streams k)))) := by
  have retires := acts.halves
  obtain ⟨act, same⟩ : ∃ act, act = event.act (w.core.streams k) := ⟨_, rfl⟩
  rw [← same] at retires
  rw [← same]
  have wished : w'.wished k =
      Halves.wishes (w.wished k) (w.core.streams k).halves ((w.core.streams k).halves.act act) := by
    have cancelled := retires.same.2.2.2.1
    cases stepped
    unfold Halves.wishes
    rw [← cancelled]
    rfl
  have honest : (w'.core.streams k).halves.Honest (w'.wished k) := by
    rw [wished]
    exact retires.honest (Halves.honest_act rests.honest act)
  have rests' : Rests w' k := by
    refine ⟨honest, fun shut => ?_, fun absent => ?_⟩
    · show (w'.core.streams k).halves.complete = true
      have after := retires.complete
      rw [after]
      cases before : w.shut k with
      | true =>
        have complete : (w.core.streams k).halves.complete = true := rests.shut before
        exact Halves.complete_act complete act
      | false =>
        rcases retires with left | ⟨complete, -⟩
        · have closed := congrArg Halves.closed left
          cases stepped
          dsimp only at shut
          rw [before, Bool.false_or, Bool.and_eq_true, Bool.and_eq_true, Bool.not_eq_true',
            Bool.not_eq_true'] at shut
          obtain ⟨⟨opened, closed'⟩, other⟩ := shut
          have still := @Halves.closed_act (w.core.streams k).halves act fun closes => by
            have isClose := act_closes (closes ▸ same).symm
            rw [other] at isClose
            cases isClose
          have impossible := closed'.symm.trans (closed.trans still)
          rw [show (w.core.streams k).halves.closed = false from opened] at impossible
          cases impossible
        · exact complete
    · rw [acts.ids] at absent
      exact absurd present absent
  refine ⟨rests', fun lawful => ?_⟩
  rw [rests'.lawful_iff, wished, retires.sound]
  exact Halves.sound_act rests.honest (rests.lawful_iff.mp lawful) act

theorem Makes.rests {j : Nat} (makes : ConnCore.Makes j w.core w'.core)
    (stepped : w.step event = some w') (rests : Rests w j) : Rests w' j ∧ Lawful w' j := by
  obtain ⟨blank, wished, shut⟩ := rests.blank makes.absent
  obtain ⟨opened, made⟩ := makes.made
  have ghosts : w'.wished j = false ∧ w'.shut j = false := by
    have cancelled : (w'.core.streams j).readCancelled = false := congrArg Halves.cancelled made
    have closed : (w'.core.streams j).ch.closed = false := congrArg Halves.closed made
    cases stepped
    dsimp only at cancelled closed ⊢
    rw [wished, shut, cancelled, closed]
    simp
  obtain ⟨wished', shut'⟩ := ghosts
  have rests' : Rests w' j := by
    refine ⟨?_, fun shut => ?_, fun absent => ?_⟩
    · rw [made, wished']
      exact Halves.blank_honest opened
    · rw [shut'] at shut
      cases shut
    · refine absurd ?_ absent
      rw [makes.ids]
      exact List.mem_append_right _ List.mem_cons_self
  refine ⟨rests', ?_⟩
  rw [rests'.lawful_iff, made, wished']
  exact Halves.blank_sound opened

/-- **One event**: what was asked of each stream still reaches its channel exactly if the event is
in time. -/
theorem step_law (inv : Inv w) (stepped : w.step event = some w') :
    Inv w' ∧ (Survives w → (Survives w' ↔ InTime w event)) := by
  have core : w'.core = w.core.step event := by
    cases stepped
    rfl
  -- A connection that is torn down is under no law.
  have torn (fired : w'.core.closeFired = true) (free : InTime w event) :
      Inv w' ∧ (Survives w → (Survives w' ↔ InTime w event)) := by
    refine ⟨fun alive => ?_, fun _ => iff_of_true (fun alive => ?_) free⟩
    · rw [fired] at alive
      cases alive
    · rw [fired] at alive
      cases alive
  -- Where the halves of all streams are left, nothing is asked.
  have calm (leaves : ConnCore.Leaves w.core w'.core) (free : InTime w event) :
      Inv w' ∧ (Survives w → (Survives w' ↔ InTime w event)) := by
    refine ⟨fun alive k => ?_, fun lawful => iff_of_true (fun alive k => ?_) free⟩
    · exact ((inv (leaves.closeFired ▸ alive) k).left stepped (leaves.halves k) (leaves.ids ▸ id)).1
    · exact ((inv (leaves.closeFired ▸ alive) k).left stepped (leaves.halves k) (leaves.ids ▸ id)).2
        (lawful (leaves.closeFired ▸ alive) k)
  cases about : event.stream with
  | none =>
    have free : InTime w event := by
      intro _ k _ about'
      rw [about] at about'
      cases about'
    have stepped' : w'.core = w.core.connEvent event := by
      rw [core]
      unfold ConnCore.step
      rw [about]
    have steady := ConnCore.connEvent_steady event w.core
    rw [← stepped'] at steady
    rcases steady with fired | leaves | ⟨j, makes⟩
    · exact torn fired free
    · exact calm leaves free
    · have others {k : Nat} (other : k ≠ j) (absent : k ∉ w'.core.ids) : k ∉ w.core.ids := by
        rw [makes.ids] at absent
        exact fun member => absent (List.mem_append_left _ member)
      refine ⟨fun alive k => ?_, fun lawful => iff_of_true (fun alive k => ?_) free⟩
      · have rests := inv (makes.closeFired ▸ alive)
        by_cases same : k = j
        · subst same
          exact (Makes.rests makes stepped (rests k)).1
        · exact ((rests k).left stepped (makes.others k same) (others same)).1
      · have rests := inv (makes.closeFired ▸ alive)
        by_cases same : k = j
        · subst same
          exact (Makes.rests makes stepped (rests k)).2
        · exact ((rests k).left stepped (makes.others k same) (others same)).2
            (lawful (makes.closeFired ▸ alive) k)
  | some k =>
    by_cases present : k ∈ w.core.ids
    · have stepped' : w'.core = w.core.streamEvent k event := by
        rw [core]
        unfold ConnCore.step
        rw [about]
        exact if_pos present
      have done := ConnCore.streamEvent_acts k event w.core about
      rw [← stepped'] at done
      have timely_iff : InTime w event ↔ (w.core.closeFired = false →
          (w.core.streams k).halves.Timely (w.wished k) (event.act (w.core.streams k))) := by
        constructor
        · exact fun inTime alive => inTime alive k present about
        · intro timely alive j _ about'
          rw [about] at about'
          cases about'
          exact timely alive
      rcases done with ⟨fired, idle⟩ | acts
      · exact torn fired (timely_iff.mpr fun _ => idle _)
      · rw [timely_iff]
        have others {j : Nat} (absent : j ∉ w'.core.ids) : j ∉ w.core.ids := acts.ids ▸ absent
        refine ⟨fun alive j => ?_, ?_⟩
        · have rests := inv (acts.closeFired ▸ alive)
          by_cases same : j = k
          · subst same
            exact ((rests j).acts stepped acts present).1
          · exact ((rests j).left stepped (acts.others j same) others).1
        · intro lawful
          unfold Survives
          rw [acts.closeFired]
          constructor
          · intro survives alive
            exact (((inv alive k).acts stepped acts present).2 (lawful alive k)).mp
              (survives alive k)
          · intro timely alive j
            by_cases same : j = k
            · subst same
              exact (((inv alive j).acts stepped acts present).2 (lawful alive j)).mpr
                (timely alive)
            · exact ((inv alive j).left stepped (acts.others j same) others).2 (lawful alive j)
    · have stepped' : w'.core = w.core := by
        rw [core]
        unfold ConnCore.step
        rw [about]
        exact if_neg present
      refine calm ?_ fun _ j member about' => ?_
      · rw [stepped']
        exact .refl w.core
      · rw [about] at about'
        cases about'
        exact absurd member present

theorem new_law (limits : FlowLimits) (controlOpen : Bool) :
    Inv (new limits controlOpen) ∧ Survives (new limits controlOpen) := by
  have blank (k : Nat) : ((new limits controlOpen).core.streams k).halves =
    {} := by cases controlOpen <;> rfl
  have rests (k : Nat) : Rests (new limits controlOpen) k := by
    refine ⟨?_, fun shut => (by cases shut), fun _ => ⟨blank k, rfl, rfl⟩⟩
    rw [blank k]
    exact Halves.blank_honest false
  refine ⟨fun _ => rests, fun _ k => ?_⟩
  rw [(rests k).lawful_iff, blank k]
  exact Halves.blank_sound false

/-- **What is asked of the streams reaches the peer in exactly those runs whose events are in
time.** In every run, until the connection is torn down: a stream whose channel has opened sent one
terminal frame exactly if its write half ended, and one STOP_SENDING if its read half was cancelled
before the peer had ended its own; and the engine takes no stream for complete, and closes no
channel, before the terminal frame was sent. -/
theorem survives_iff (limits : FlowLimits) (controlOpen : Bool) (events : List Event) :
    (∀ before w, before <+: events → run Watch.step (new limits controlOpen) before = some w →
      Survives w) ↔ Meets Watch.step InTime (new limits controlOpen) events := by
  obtain ⟨inv, survives⟩ := new_law limits controlOpen
  refine @always_iff_meets _ _ _ _ Inv Survives ?_ ?_ ?_ _ _ inv survives
  · intro w event w' inv stepped
    exact (step_law inv stepped).1
  · intro w event w' inv survives stepped
    exact (step_law inv stepped).2 survives
  · intro w event stuck
    cases stuck

/-- The HELLO of the peer, and a stream of the peer that the application takes and closes before its
channel opens; then the peer ends its half. -/
def closing : List Event :=
  [.controlMessage (encodeControl (.hello wireVersion (resolveLimits none none none))),
    .incomingChannel 0 false,
    .acceptStream 0 false, .closeWrite 0, .cancelRead 0 none, .channelOpen 0,
    .channelMessage 0 (encodeFrame .fin)]

/-- Neither FIN nor STOP_SENDING is sent, and the engine closes the channel as that of a complete
stream. -/
theorem farewell_lost :
    ∃ w, run Watch.step (new (resolveLimits none none none) true) closing = some w ∧
    w.core.closeFired = false ∧ (w.core.streams 0).ch.opened = true ∧
    (w.core.streams 0).localTerminal = some .fin ∧
    w.wished 0 = true ∧ w.shut 0 = true ∧ (w.core.streams 0).ch.sent = [] ∧ ¬ Survives w := by
  refine ⟨_,
    rfl, by decide +kernel, by decide +kernel, by decide +kernel, by decide +kernel,
    by decide +kernel, by decide +kernel, fun survives => ?_⟩
  have lawful := survives (by decide +kernel) 0
  exact absurd (lawful.stop (by decide +kernel) (by decide +kernel)) (by decide +kernel)

end Watch

end Kps.Ts
