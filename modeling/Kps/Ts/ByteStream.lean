/-
**The bytes of a stream, end to end.**

* `ConnCore.afterRead` — what a reader gets next: a pass of `pull`, fresh or resumed;
* `ConnInv.readers` — no event leaves a `pull` waiting for what has come (`ReaderParked`);
* `EndToEnd` — what one direction of a stream owes to its reader: the bytes in order, EOF exactly
  after FIN and everything before it, an error for every other end;
* `byte_stream` — and so it is in every run of two linked engines.
-/

import Kps.Ts.LinkInvariant

namespace Kps.Ts

open Kps.Lib

/-! ### What a read gets -/

namespace ConnCore

variable {c : ConnCore} {k : Nat}

/-- The reader asks for a chunk, or what it waits for has come. -/
def afterRead (k : Nat) (c : ConnCore) : ConnCore := (c.step (.read k)).step (.readResume k)

@[simp] theorem streams_put (k : Nat) (x : StreamCtx) (c : ConnCore) :
    (c.put k x).streams k = x.s := by
  unfold put
  exact Function.update_self ..

@[simp] theorem streams_retired (k : Nat) (c : ConnCore) : (c.retired k).streams = c.streams := by
  unfold retired
  dsimp only
  split <;> rfl

/-- `#maybeRetire` leaves a stream as it is, but for its channel and the retirement. -/
theorem maybeRetire_stream (k : Nat) (c : ConnCore) : ∃ ch retiredFired,
    (c.maybeRetire k).streams k = { c.streams k with ch, retiredFired } := by
  unfold maybeRetire
  rcases (c.ctx k).maybeRetire_cases with same | ⟨-, -, -, closes⟩ | ⟨-, -, -, -, retires⟩
  · rw [same]
    exact ⟨(c.streams k).ch, (c.streams k).retiredFired, streams_put k (c.ctx k) c⟩
  · rw [closes]
    exact ⟨(c.streams k).ch.close, (c.streams k).retiredFired, streams_put k _ c⟩
  · rw [retires]
    exact ⟨(c.streams k).ch, true,
      (congrFun (streams_retired k _) k).trans (streams_put k _ c)⟩

/-- A method that reads, seen by the reader. -/
theorem runStream_stream (k : Nat) (f : StreamCtx → StreamCtx × Bool) (c : ConnCore) :
    ∃ ch retiredFired,
      (c.runStream k f).streams k = { (f (c.ctx k)).1.s with ch, retiredFired } := by
  unfold runStream
  dsimp only
  split
  · have retired := maybeRetire_stream k (c.put k (f (c.ctx k)).1)
    rwa [streams_put] at retired
  · exact ⟨_, _, streams_put _ _ _⟩

end ConnCore

/-- The state a pass of `pull` leaves a readable stream in. -/
def PullOutcome.ends : PullOutcome → ReadableState
  | .error failure => .errored failure
  | .eof => .closed
  | _ => .readable

/-- The chunk it hands over. -/
def PullOutcome.chunks : PullOutcome → List Bytes
  | .chunk bytes _ => [bytes]
  | _ => []

/-- A pass of `pull` over a readable stream. -/
theorem StreamCtx.pull_ends {x : StreamCtx} (readable : x.s.readable.state = .readable) :
    x.pull.1.s.readable.state = x.s.pullOutcome.ends ∧
      x.pull.1.s.readable.enqueued = x.s.readable.enqueued ++ x.s.pullOutcome.chunks ∧
      ∀ ticket, x.pull.1.s.readable.pulling = some ticket →
        x.pull.1.s.readWake.resolved ticket = false := by
  unfold pull
  split
  · next error outcome =>
    rw [outcome]
    exact ⟨if_pos readable, (List.append_nil _).symm, fun ticket waiting => by cases waiting⟩
  · next chunk rest outcome =>
    rw [deliverChunk, onConsumed_eq, outcome]
    exact ⟨readable, rfl, fun ticket waiting => by cases waiting⟩
  · next outcome =>
    rw [outcome]
    exact ⟨if_pos readable, (List.append_nil _).symm, fun ticket waiting => by cases waiting⟩
  · next outcome =>
    rw [outcome]
    refine ⟨readable, (List.append_nil _).symm, ?_⟩
    rintro ticket ⟨⟩
    exact decide_eq_false (Nat.lt_irrefl _)

/-- A waiting `pull` that was not woken stays as it is. -/
theorem StreamCtx.readResume_of_asleep {x : StreamCtx}
    (asleep : ∀ ticket, x.s.readable.pulling = some ticket → x.s.readWake.resolved ticket = false) :
    x.readResume = (x, false) := by
  unfold readResume
  split
  · rfl
  · next ticket waiting => rw [if_neg (by simp [asleep ticket waiting])]

theorem StreamCtx.readResume_of_waiting {x : StreamCtx} {ticket : Nat}
    (waiting : x.s.readable.pulling = some ticket) :
    x.readResume = if x.s.readWake.resolved ticket then x.pull else (x, false) := by
  unfold readResume
  rw [waiting]

/-- **What a reader gets** is what a pass of `pull` finds. -/
theorem ConnInv.afterRead_ends {c : ConnCore} {k : Nat} (inv : ConnInv c) (present : k ∈ c.ids)
    (parked : ReaderParked (c.streams k)) (readable : (c.streams k).readable.state = .readable) :
    ((c.afterRead k).streams k).readable.state = (c.streams k).pullOutcome.ends ∧
      ((c.afterRead k).streams k).readable.enqueued =
        (c.streams k).readable.enqueued ++ (c.streams k).pullOutcome.chunks := by
  have first : c.step (.read k) = c.runStream k StreamCtx.read := if_pos present
  have kept : k ∈ (c.runStream k StreamCtx.read).ids := by
    have ran := ConnSpec.runStream inv present (StreamCtx.read_spec (inv.ctx present))
      (StreamCtx.read_reads (c.ctx k))
    rw [ran.step.ids]
    exact present
  have second : c.afterRead k =
      (c.runStream k StreamCtx.read).runStream k StreamCtx.readResume := by
    unfold ConnCore.afterRead
    rw [first]
    exact if_pos kept
  obtain ⟨ch, retiredFired, once⟩ := c.runStream_stream k StreamCtx.read
  obtain ⟨ch', retiredFired', twice⟩ :=
    (c.runStream k StreamCtx.read).runStream_stream k StreamCtx.readResume
  rw [second, twice]
  cases pulling : (c.streams k).readable.pulling with
  | none =>
    have read : (c.ctx k).read = (c.ctx k).pull := if_pos ⟨readable, pulling⟩
    rw [read] at once
    obtain ⟨state, enqueued, asleep⟩ := StreamCtx.pull_ends (x := c.ctx k) readable
    rw [StreamCtx.readResume_of_asleep (by
      show ∀ ticket, ((c.runStream k StreamCtx.read).streams k).readable.pulling = some ticket →
        ((c.runStream k StreamCtx.read).streams k).readWake.resolved ticket = false
      rw [once]
      exact asleep)]
    show ((c.runStream k StreamCtx.read).streams k).readable.state = _ ∧
      ((c.runStream k StreamCtx.read).streams k).readable.enqueued = _
    rw [once]
    exact ⟨state, enqueued⟩
  | some ticket =>
    have read : (c.ctx k).read = (c.ctx k, false) := if_neg fun both => by
      rw [show (c.ctx k).s.readable.pulling = some ticket from pulling] at both
      cases both.2
    rw [read] at once
    have same : ((c.runStream k StreamCtx.read).streams k).readSide = (c.streams k).readSide := by
      rw [once]
      rfl
    have now : ((c.runStream k StreamCtx.read).ctx k).s.readable = (c.streams k).readable := by
      show ((c.runStream k StreamCtx.read).streams k).readable = _
      rw [once]
      rfl
    have outcome := KpsStream.pullOutcome_congr same
    have wake : ((c.runStream k StreamCtx.read).ctx k).s.readWake = (c.streams k).readWake :=
      congrArg ReadSide.wake same
    have waiting : ((c.runStream k StreamCtx.read).ctx k).s.readable.pulling = some ticket := by
      rw [now, pulling]
    rw [StreamCtx.readResume_of_waiting waiting, wake]
    cases woken : (c.streams k).readWake.resolved ticket with
    | true =>
      rw [if_pos rfl]
      obtain ⟨state, enqueued, -⟩ := StreamCtx.pull_ends
        (x := (c.runStream k StreamCtx.read).ctx k) (by rw [now, readable])
      rw [now] at enqueued
      exact ⟨state.trans (congrArg PullOutcome.ends outcome),
        enqueued.trans (congrArg (_ ++ PullOutcome.chunks ·) outcome)⟩
    | false =>
      rw [if_neg (by decide), parked.2 ticket pulling woken]
      dsimp only
      rw [now]
      exact ⟨readable, (List.append_nil _).symm⟩

/-! ### When a pull finds the end -/

/-- What the half has accepted is all that the other end handed over, once it ends with FIN. -/
theorem payload_of_fin {frames sent : List Frame} (before : frames <+: sent)
    (conforming : Conforming sent) (fin : hasFin frames = true) :
      payload frames = payload sent := by
  obtain ⟨rest, rfl⟩ := before
  have ended : hasTerminal frames = true := by
    rw [hasTerminal_eq, fin]
    rfl
  obtain ⟨last, member, terminal⟩ := List.any_eq_true.mp ended
  have apart := (List.pairwise_append.mp conforming).2.2
  have empty : payload rest = [] := by
    refine List.flatMap_eq_nil_iff.mpr fun frame there => ?_
    have free := apart last member frame there terminal
    cases frame with
    | data bytes => cases free
    | _ => rfl
  rw [payload_append, empty, List.append_nil]

/-- Nothing is buffered once all that was accepted is read. -/
theorem ReadInv.drained {s : KpsStream} {limits : FlowLimits} (inv : ReadInv 0 (s.readHalf limits))
    (wf : ∀ frame ∈ s.accepted, frame.WF) (uncancelled : s.readCancelled = false)
    (unreset : s.peerReset = none) (all : s.readable.enqueued.flatten = payload s.accepted) :
    s.inbuf = [] := by
  have whole : s.readable.enqueued.flatten ++ s.inbuf.flatten = payload s.accepted :=
    inv.whole uncancelled unreset
  rw [all] at whole
  have left : s.inbuf.flatten = [] :=
    List.append_cancel_left (whole.trans (List.append_nil _).symm)
  cases buffered : s.inbuf with
  | nil => rfl
  | cons chunk rest =>
    have member : chunk ∈ s.inbuf := buffered ▸ List.mem_cons_self
    have filled : chunk ≠ [] := inv.filled wf chunk member
    rw [buffered, List.flatten_cons, List.append_eq_nil_iff] at left
    exact absurd left.1 filled

/-- A pull finds EOF after FIN and all that came before it, while the half is neither cancelled nor
reset. -/
theorem ReadInv.pullOutcome_eof {s : KpsStream} {limits : FlowLimits}
    (inv : ReadInv 0 (s.readHalf limits)) (wf : ∀ frame ∈ s.accepted, frame.WF) :
    s.pullOutcome = .eof ↔ hasFin s.accepted = true ∧
      s.readable.enqueued.flatten = payload s.accepted ∧ s.readCancelled = false ∧
      s.peerReset = none := by
  have fin : s.peerFin = hasFin s.accepted := inv.fin
  constructor
  · intro outcome
    rcases StreamCtx.pullOutcome_cases s with ⟨error, other⟩ | ⟨chunk, rest, other, -⟩ |
      ⟨-, uncancelled, empty, ended, unreset⟩ | ⟨other, -⟩
    · rw [other] at outcome
      cases outcome
    · rw [other] at outcome
      cases outcome
    · have whole : s.readable.enqueued.flatten ++ s.inbuf.flatten = payload s.accepted :=
        inv.whole uncancelled unreset
      rw [empty, List.flatten_nil, List.append_nil] at whole
      exact ⟨fin ▸ ended, whole, uncancelled, unreset⟩
    · rw [other] at outcome
      cases outcome
  · rintro ⟨ended, all, uncancelled, unreset⟩
    have drained := inv.drained wf uncancelled unreset all
    rw [← fin] at ended
    simp [KpsStream.pullOutcome, uncancelled, drained, unreset, ended]

/-- Every other end of the half is an error. -/
theorem ReadInv.pullOutcome_error {s : KpsStream} {limits : FlowLimits}
    (inv : ReadInv 0 (s.readHalf limits)) (wf : ∀ frame ∈ s.accepted, frame.WF)
    (ended : s.readCancelled = true ∨ s.peerReset.isSome = true ∨
      s.channelClosed = true ∧ hasFin s.accepted = false ∧
        s.readable.enqueued.flatten = payload s.accepted) :
    ∃ error, s.pullOutcome = .error error := by
  have fin : s.peerFin = hasFin s.accepted := inv.fin
  rcases StreamCtx.pullOutcome_cases s with found | ⟨chunk, rest, -, uncancelled, buffered⟩ |
    ⟨-, uncancelled, empty, ended', unreset⟩ | ⟨-, uncancelled, empty, unended, unreset, opened⟩
  · exact found
  · have empty : s.inbuf = [] := by
      cases reset : s.peerReset with
      | some reason => exact inv.discarded (Or.inr (by
          show s.peerReset.isSome = true
          rw [reset]
          rfl))
      | none =>
        have all := ended.resolve_left (by simp [uncancelled])
        exact inv.drained wf uncancelled reset (all.resolve_left (by simp [reset])).2.2
    rw [empty] at buffered
    cases buffered
  · simp [uncancelled, unreset, ← fin, ended'] at ended
  · simp [uncancelled, unreset, opened] at ended

/-! ### Readers over a run -/

/-- What arrives wakes no reader and starves none, but for the closing of its own channel. -/
theorem Arrives.reads {c middle : ConnCore} {event : Event} {heard : Nat → List Frame}
    (inv : ConnInv c) (arrives : Arrives c event heard middle) (j : Nat)
    (spared : event ≠ .channelClose j) : (c.streams j).Reads (middle.streams j) := by
  have update {k : Nat} {s : KpsStream} (same : s.readSide = (c.streams k).readSide) :
      (c.streams j).Reads (Function.update c.streams k s j) := by
    by_cases here : j = k
    · subst here
      rw [Function.update_self]
      exact .of_same same
    · rw [Function.update_of_ne here]
      exact .refl _
  have creates {k : Nat} {peerInitiated isOpen : Bool}
      (made : Creates k peerInitiated isOpen c middle) :
      (c.streams j).Reads (middle.streams j) := by
    rw [made.streams]
    refine update ?_
    rw [inv.registry.blank k made.absent]
    rfl
  cases arrives with
  | controlMessage =>
    obtain ⟨flow, peerHello, learned, -⟩ := ConnCore.learn_eq _ c
    rw [learned]
    exact .refl _
  | incomingChannel made => exact creates made
  | openChannel made => exact creates made
  | channelOpen present => exact update (KpsStream.readSide_settleOpen none _)
  | channelClosing present => exact update rfl
  | @channelClose k present =>
    have other : j ≠ k := fun same => spared (same ▸ rfl)
    show (c.streams j).Reads (Function.update c.streams k _ j)
    rw [Function.update_of_ne other]
    exact .refl _
  | _ => exact .refl _

namespace ConnInv

variable {c : ConnCore} {k : Nat}

/-- **No reader waits for what has come**, after any event. -/
theorem readers (inv : ConnInv c) (event : Event) (parked : ReaderParked (c.streams k)) :
    ReaderParked ((c.step event).streams k) := by
  by_cases closes : event = .channelClose k
  · subst closes
    by_cases present : k ∈ c.ids
    · rw [show c.step (.channelClose k) = c.onChannelClose k from if_pos present]
      exact (ConnSpec.onChannelClose inv present).2 parked.1
    · rw [show c.step (.channelClose k) = c from if_neg present]
      exact parked
  · obtain ⟨heard, middle, arrives, -, reaction⟩ := (inv.step event).split
    exact (reaction.step.streams k).reads.parked ((arrives.reads inv k closes).parked parked)

/-- A reader is told of EOF only while the half is not cancelled. -/
theorem toldEof (inv : ConnInv c) (event : Event)
    (told : ((c.step event).streams k).readable.state = .closed) :
    (c.streams k).readable.state = .closed ∨ (c.streams k).readCancelled = false := by
  obtain ⟨heard, middle, arrives, -, reaction⟩ := (inv.step event).split
  have reads := (reaction.step.streams k).reads
  by_cases closes : event = .channelClose k
  · subst closes
    cases arrives with
    | «local» silent => cases silent
    | stranger => exact reads.eof told
    | channelClose present =>
      have now := reads.eof told
      change (Function.update c.streams k _ k).readable.state = _ ∨
        (Function.update c.streams k _ k).readCancelled = _ at now
      rw [Function.update_self] at now
      exact now
  · exact ((arrives.reads inv k closes).trans reads).eof told

end ConnInv

/-! ### Teardown -/

namespace ConnCore

theorem destroyAll_cancels (reason : Option KpsReason) (keys : List Nat) (c : ConnCore) (k : Nat)
    (among : k ∈ keys ∨ (c.streams k).readCancelled = true) :
    ((c.destroyAll reason keys).streams k).readCancelled = true := by
  induction keys generalizing c with
  | nil => exact among.resolve_left List.not_mem_nil
  | cons key keys ih =>
    refine ih (c.onStream key (·.destroy reason)) ?_
    show k ∈ keys ∨ (Function.update c.streams key _ k).readCancelled = true
    have cancelled : ((c.ctx key).destroy reason).s.readCancelled = true :=
      congrArg ReadSide.readCancelled (StreamCtx.readSide_destroy reason (c.ctx key))
    by_cases here : k = key
    · rw [here, Function.update_self]
      exact Or.inr cancelled
    · rw [Function.update_of_ne here]
      exact among.imp (fun member => (List.mem_cons.mp member).resolve_left here) id

/-- Teardown cancels the read half of every stream that is not retired. -/
theorem teardown_cancels (info : CloseInfo) {c : ConnCore} {k : Nat} (opened : c.closeFired = false)
    (live : k ∈ c.live) : ((c.teardown info).streams k).readCancelled = true := by
  unfold teardown
  dsimp only [report]
  rw [if_neg (by simp [opened])]
  show (ConnCore.streams (ConnCore.destroyAll _ _ _) k).readCancelled = true
  refine destroyAll_cancels _ _ _ k (Or.inl (List.mem_append_left _ ?_))
  unfold rejectEstablished
  split <;> exact live

end ConnCore

/-! ### End to end -/

/-- What a writer has handed to its channel: what was written, in order, and all of the writes that
resolved. -/
theorem WriteInv.handed_prefix {progress : Option Progress} {w : WriteHalf}
    (inv : WriteInv progress w) :
    payload w.sent <+: w.written.flatten ∧ w.resolved.flatten <+: payload w.sent := by
  have part (chunk : Bytes) (n : Nat) (written : w.written = w.resolved ++ [chunk])
      (sent : payload w.sent = w.resolved.flatten ++ chunk.take n) :
      payload w.sent <+: w.written.flatten ∧ w.resolved.flatten <+: payload w.sent := by
    rw [sent, written, List.flatten_append, List.flatten_singleton]
    exact ⟨(List.prefix_append_right_inj _).mpr (List.take_prefix _ _), List.prefix_append _ _⟩
  cases running : progress with
  | some p =>
    obtain ⟨-, written, sent⟩ := inv.handed.running p running
    exact part p.chunk p.off written sent
  | none =>
    cases working : w.errored with
    | none =>
      obtain ⟨written, sent⟩ := inv.handed.idle running working
      rw [sent, written]
      exact ⟨List.prefix_refl _, List.prefix_refl _⟩
    | some error =>
      obtain ⟨chunk, n, written, sent⟩ := inv.handed.failed (by rw [working]; rfl)
      exact part chunk n written sent

/-- The peer's FIN was received, and every byte handed over before it has been read. -/
def ReadToEnd (reader writer : KpsStream) : Prop :=
  hasFin reader.accepted = true ∧ reader.readable.enqueued.flatten = payload writer.ch.sent

/-- What stream `k` of `c`, which `writer` writes to, gives to its reader. `readCancelled` says that
the read half was cancelled or torn down, `peerReset` that the peer reset it. -/
structure EndToEnd (c : ConnCore) (writer : KpsStream) (k : Nat) : Prop where
  /-- No loss, duplication or reordering. -/
  order : (c.streams k).readable.enqueued.flatten <+: payload writer.ch.sent
  handed : payload writer.ch.sent <+: writer.writable.written.flatten
  resolved : writer.writable.resolved.flatten <+: payload writer.ch.sent
  /-- A reader that saw EOF read all there was; -/
  eof : (c.streams k).readable.state = .closed →
    ReadToEnd (c.streams k) writer ∧ (c.streams k).peerReset = none
  /-- and saw it while the half was not cancelled. -/
  told : ∀ event, ((c.step event).streams k).readable.state = .closed →
    (c.streams k).readable.state = .closed ∨ (c.streams k).readCancelled = false
  /-- What a reader that has not seen the end gets. -/
  reads : k ∈ c.ids → (c.streams k).readable.state = .readable →
    (((c.afterRead k).streams k).readable.state = .closed ↔ ReadToEnd (c.streams k) writer ∧
      (c.streams k).readCancelled = false ∧ (c.streams k).peerReset = none)
  fails : k ∈ c.ids → (c.streams k).readable.state = .readable →
    ((c.streams k).readCancelled = true ∨ (c.streams k).peerReset.isSome = true ∨
      (c.streams k).channelClosed = true ∧ hasFin (c.streams k).accepted = false ∧
        (c.streams k).readable.enqueued.flatten = payload (c.streams k).accepted) →
    ∃ error, ((c.afterRead k).streams k).readable.state = .errored error
  torn : ∀ info, c.closeFired = false → k ∈ c.live →
    ((c.teardown info).streams k).readCancelled = true

theorem HalfInv.endToEnd {limits limits' : FlowLimits} {c peer : ConnCore} {gotControl : Nat}
    {got : Nat → Nat} {k : Nat} (half : HalfInv c peer gotControl got) (ends : EndInv limits c)
    (peerEnds : EndInv limits' peer) (parked : ReaderParked (c.streams k)) :
    EndToEnd c (peer.streams k) k := by
  have read := (ends.inv.stream k).read
  have write := (peerEnds.inv.stream k).write
  have before := half.accepted_prefix k
  have conforming : Conforming (peer.streams k).ch.sent := write.conforming
  have wf : ∀ frame ∈ (c.streams k).accepted, frame.WF := fun frame member =>
    write.wf frame (before.subset member)
  have all (fin : hasFin (c.streams k).accepted = true) :
      payload (c.streams k).accepted = payload (peer.streams k).ch.sent :=
    payload_of_fin before conforming fin
  have fin : (c.streams k).peerFin = hasFin (c.streams k).accepted := read.fin
  have obtained : (c.streams k).readable.enqueued.flatten <+: payload (c.streams k).accepted :=
    read.obtained
  have handed := write.handed_prefix
  refine ⟨obtained.trans (HalfInv.payload_mono before), handed.1, handed.2, ?_, ?_, ?_, ?_, ?_⟩
  · intro closed
    obtain ⟨ended, unreset, whole⟩ := read.eof closed
    have ended : hasFin (c.streams k).accepted = true := fin ▸ ended
    exact ⟨⟨ended, whole.trans (all ended)⟩, unreset⟩
  · exact fun event => ends.inv.toldEof event
  · intro present readable
    have finds := read.pullOutcome_eof wf
    rw [(ends.inv.afterRead_ends present parked readable).1]
    constructor
    · intro closed
      have outcome : (c.streams k).pullOutcome = .eof := by
        cases found : (c.streams k).pullOutcome <;> rw [found] at closed <;>
          first | rfl | cases closed
      obtain ⟨ended, whole, uncancelled, unreset⟩ := finds.mp outcome
      exact ⟨⟨ended, whole.trans (all ended)⟩, uncancelled, unreset⟩
    · rintro ⟨⟨ended, whole⟩, uncancelled, unreset⟩
      rw [finds.mpr ⟨ended, whole.trans (all ended).symm, uncancelled, unreset⟩]
      rfl
  · intro present readable ended
    obtain ⟨error, outcome⟩ := read.pullOutcome_error wf ended
    exact ⟨error, by rw [(ends.inv.afterRead_ends present parked readable).1, outcome]; rfl⟩
  · exact fun info opened live => ConnCore.teardown_cancels info opened live

/-- The link, and readers that wait for what is missing. -/
structure ReadersInv (limits : Side → FlowLimits) (s : Sys) : Prop where
  link : LinkInv limits s
  parked : ∀ side k, ReaderParked ((s.core side).streams k)

theorem ReadersInv.step {limits : Side → FlowLimits} {s s' : Sys} {label : Label}
    (inv : ReadersInv limits s) (valid : ∀ side, (limits side).Valid)
    (stepped : s.step label = some s') : ReadersInv limits s' := by
  refine ⟨inv.link.step valid stepped, fun this j => ?_⟩
  obtain ⟨side, event, gotControl, got, -, rfl⟩ := Sys.step_fires stepped
  rcases Side.eq_or side this with rfl | rfl
  · dsimp only
    rw [Function.update_self]
    exact (inv.link.ends _).inv.readers event (inv.parked _ j)
  · dsimp only
    rw [Function.update_of_ne (Side.other_ne side)]
    exact inv.parked _ j

theorem ReadersInv.new (limits : Side → FlowLimits) (controlOpen : Side → Bool) :
    ReadersInv limits (Sys.new limits controlOpen) := by
  refine ⟨LinkInv.new limits controlOpen, fun this j => ?_⟩
  have blank : ((Sys.new limits controlOpen).core this).streams j =
      { sf := StreamFlow.new (limits this) } := by
    unfold Sys.new
    dsimp only
    cases controlOpen this <;> rfl
  rw [blank]
  exact ⟨fun _ waiting => (by cases waiting), fun _ waiting => by cases waiting⟩

/-- The readers of both ends, in every run. -/
theorem readers_run (limits : Side → FlowLimits) (valid : ∀ side, (limits side).Valid)
    (controlOpen : Side → Bool) {labels : List Label} {s : Sys}
    (ran : Kps.Lib.run Sys.step (Sys.new limits controlOpen) labels = some s) (side : Side)
    (k : Nat) : ReaderParked ((s.core side).streams k) := by
  have inv : ReadersInv limits s := run_invariant (fun _ _ _ inv stepped => inv.step valid stepped)
    (ReadersInv.new limits controlOpen) ran
  exact inv.parked side k

/-- **End-to-end byte stream.** In every run of two linked engines, whatever is written, read,
reset, cancelled, closed or lost, in any order. -/
theorem byte_stream (limits : Side → FlowLimits) (valid : ∀ side, (limits side).Valid)
    (controlOpen : Side → Bool) (labels : List Label) (s : Sys)
    (ran : Kps.Lib.run Sys.step (Sys.new limits controlOpen) labels = some s) (side : Side)
    (k : Nat) : EndToEnd (s.core side) ((s.core side.other).streams k) k := by
  have inv := LinkInv.run limits valid controlOpen ran
  exact (inv.half side).endToEnd (inv.ends side) (inv.ends side.other)
    (readers_run limits valid controlOpen ran side k)

/-- A write of five bytes on a window of four, closed while it waits for credit, read to its end. -/
def shortWindow : List Label :=
  [.controlMessage .left, .controlMessage .right, .event .left (.openStream false),
    .event .left (.openStreamResume 0 (.ok 7) true), .incomingChannel .right 7,
    .event .left (.write 7 [1, 2, 3, 4, 5]), .event .left (.writeResume 7),
    .event .left (.writeResume 7), .event .left (.closeWrite 7), .channelMessage .right 7,
    .channelMessage .right 7, .event .right (.read 7), .event .right (.read 7)]

theorem byte_stream_shortWindow : ∃ s,
    Kps.Lib.run Sys.step (Sys.new (fun _ => ⟨4, 8, 1⟩) fun _ => true) shortWindow = some s ∧
      EndToEnd (s.core .right) ((s.core .left).streams 7) 7 := by
  have ran : (Kps.Lib.run Sys.step (Sys.new (fun _ => ⟨4, 8, 1⟩) fun _ => true)
      shortWindow).isSome = true := by decide +kernel
  obtain ⟨s, reached⟩ := Option.isSome_iff_exists.mp ran
  exact ⟨s, reached, byte_stream _ (fun _ => by decide) _ _ s reached .right 7⟩

end Kps.Ts
