/-
**Every method of a stream keeps its invariant.**

One lemma for each method of `StreamCtx`: from the invariant it leads to the invariant by a
`CtxStep`. A method that calls another uses its lemma; `CtxSpec.andThen` joins the two.

* `handleFrame_spec` — an accepted frame is the one recorded;
* `writeChunk_spec`, `writeResume_spec` — the passes of `#writeChunk`;
* `read_spec`, `readResume_spec` — the passes of `pull`;
* `closeWrite_spec`, `resetWrite_spec`, `cancelRead_spec`, `destroy_spec`, `channelLost_spec`.
-/

import Kps.Ts.StreamInvariant

namespace Kps.Ts

open Kps.Lib

/-! ### Steps compose -/

namespace ConnFlow.SameBut

variable {f f' f'' : ConnFlow}

theorem trans (first : f.SameBut f') (second : f'.SameBut f'') : f.SameBut f'' := by
  unfold SameBut at *
  rw [second, first]

theorem localLimits (same : f.SameBut f') : f'.localLimits = f.localLimits := by
  unfold SameBut at same
  rw [same]

theorem peerMaxStreamDataInitial (same : f.SameBut f') :
    f'.peerMaxStreamDataInitial = f.peerMaxStreamDataInitial := by
  unfold SameBut at same
  rw [same]

theorem failure (same : f.SameBut f') : f'.failure = f.failure := by
  unfold SameBut at same
  rw [same]

end ConnFlow.SameBut

namespace CtxStep

variable {frames more : List Frame} {x x' x'' : StreamCtx}

theorem refl (x : StreamCtx) : CtxStep [] x x where
  same := rfl
  initiated := rfl
  retiredFired := rfl
  opened := rfl
  closed := rfl
  controlOpened := rfl
  controlClosed := rfl
  connSent := by omega
  connReserved := by omega
  connReceived := by omega
  connConsumed := by omega
  accepted := (List.append_nil _).symm
  sent := List.prefix_refl _
  control := ⟨[], (List.append_nil _).symm, by simp⟩
  ended := id
  announced := fun _ announced => announced
  advertised := fun _ _ advertised => advertised
  dataAdvertised := fun _ _ advertised => advertised
  wakes := le_refl _
  unwoken := fun _ => ⟨le_refl _, le_refl _, rfl⟩

theorem isOpen (step : CtxStep frames x x') : x'.s.ch.isOpen = x.s.ch.isOpen := by
  unfold Channel.isOpen
  rw [step.opened, step.closed]

theorem controlIsOpen (step : CtxStep frames x x') : x'.control.isOpen = x.control.isOpen := by
  unfold Channel.isOpen
  rw [step.controlOpened, step.controlClosed]

theorem trans (first : CtxStep frames x x') (second : CtxStep more x' x'') :
    CtxStep (frames ++ more) x x'' where
  same := first.same.trans second.same
  initiated := second.initiated.trans first.initiated
  retiredFired := second.retiredFired.trans first.retiredFired
  opened := second.opened.trans first.opened
  closed := second.closed.trans first.closed
  controlOpened := second.controlOpened.trans first.controlOpened
  controlClosed := second.controlClosed.trans first.controlClosed
  connSent := by
    have := first.connSent
    have := second.connSent
    omega
  connReserved := by
    have := first.connReserved
    have := second.connReserved
    omega
  connReceived := by
    have := first.connReceived
    have := second.connReceived
    omega
  connConsumed := by
    have := first.connConsumed
    have := second.connConsumed
    omega
  accepted := by rw [second.accepted, first.accepted, List.append_assoc]
  sent := first.sent.trans second.sent
  control := by
    obtain ⟨extra, sent, credit⟩ := first.control
    obtain ⟨extra', sent', credit'⟩ := second.control
    refine ⟨extra ++ extra', by rw [sent', sent, List.append_assoc], fun message member => ?_⟩
    rcases List.mem_append.mp member with here | there
    · exact credit message here
    · exact credit' message there
  ended := fun ended => second.ended (first.ended ended)
  announced := fun able announced =>
    second.announced (able.imp (fun isOpen => first.isOpen ▸ isOpen) first.ended)
      (first.announced able announced)
  advertised := fun isOpen small advertised => by
    have middle := first.advertised isOpen small advertised
    exact second.advertised (first.isOpen ▸ isOpen) (first.same.localLimits ▸ small) middle
  dataAdvertised := fun isOpen small advertised => by
    have middle := first.dataAdvertised isOpen small advertised
    exact second.dataAdvertised (first.controlIsOpen ▸ isOpen) (first.same.localLimits ▸ small)
      middle
  wakes := le_trans first.wakes second.wakes
  unwoken := fun unwoken => by
    have := first.wakes
    have := second.wakes
    obtain ⟨conn, stream, failure⟩ := first.unwoken (by omega)
    obtain ⟨conn', stream', failure'⟩ := second.unwoken (by omega)
    exact ⟨le_trans conn' conn, le_trans stream' stream, failure'.trans failure⟩

end CtxStep

/-- A call leads to the invariant by a step. -/
structure CtxSpec (frames : List Frame) (progress : Option Progress) (pending : Int)
    (x x' : StreamCtx) : Prop where
  inv : CtxInv progress pending x'
  step : CtxStep frames x x'

namespace CtxSpec

variable {frames : List Frame} {progress progress' : Option Progress} {pending pending' : Int}
  {x x' x'' : StreamCtx}

theorem andThen (first : CtxSpec frames progress pending x x')
    (second : CtxSpec [] progress' pending' x' x'') : CtxSpec frames progress' pending' x x'' :=
  ⟨second.inv, by simpa using first.step.trans second.step⟩

end CtxSpec

/-! ### Updates of one half -/

/-- Waking leaves nobody parked. -/
theorem Parked.wake {f f' : ConnFlow} {s s' : KpsStream} (parked : Parked f s)
    (woken : f'.credit = f.credit.wake := by rfl)
    (call : s'.writable.call = s.writable.call := by rfl) : Parked f' s' := by
  intro chunk off ticket waiting
  obtain ⟨inside, early, -⟩ := parked chunk off ticket (call ▸ waiting)
  rw [woken, Wakeable.resolved_wake early]
  exact ⟨inside, Nat.le_succ_of_le early, fun unresolved => by cases unresolved⟩

/-- A step that wakes nobody leaves whoever is parked without credit. -/
theorem Parked.of_unwoken {f f' : ConnFlow} {s s' : KpsStream} (parked : Parked f s)
    (call : s'.writable.call = s.writable.call) (wakes : f.credit.wakes ≤ f'.credit.wakes)
    (failure : f'.failure = f.failure)
    (unwoken : f'.credit.wakes = f.credit.wakes → f'.connRoom ≤ f.connRoom ∧
      f'.streamRoom s'.sf ≤ f.streamRoom s.sf ∧ s'.sf.sendFailure = s.sf.sendFailure) :
    Parked f' s' := by
  intro chunk off ticket waiting
  obtain ⟨inside, early, blocked⟩ := parked chunk off ticket (call ▸ waiting)
  refine ⟨inside, le_trans early wakes, fun unresolved => ?_⟩
  have late : ¬ ticket < f'.credit.wakes := of_decide_eq_false unresolved
  obtain ⟨noFailure, noSendFailure, none⟩ := blocked (decide_eq_false (by omega))
  obtain ⟨conn, stream, sendFailure⟩ := unwoken (by omega)
  exact ⟨failure.trans noFailure, sendFailure.trans noSendFailure, by omega⟩

/-- The two streams agree on both halves and on the channel. -/
structure KpsStream.SameHalves (s s' : KpsStream) : Prop where
  read : ∀ limits, s'.readHalf limits = s.readHalf limits
  write : ∀ initial, s'.writeHalf initial = s.writeHalf initial
  ch : s'.ch = s.ch
  sf : s'.sf = s.sf
  writable : s'.writable = s.writable
  initiated : s'.peerInitiated = s.peerInitiated
  retiredFired : s'.retiredFired = s.retiredFired

namespace KpsStream.SameHalves

variable {s s' s'' : KpsStream}

theorem trans (first : s.SameHalves s') (second : s'.SameHalves s'') : s.SameHalves s'' where
  read := fun limits => (second.read limits).trans (first.read limits)
  write := fun initial => (second.write initial).trans (first.write initial)
  ch := second.ch.trans first.ch
  sf := second.sf.trans first.sf
  writable := second.writable.trans first.writable
  initiated := second.initiated.trans first.initiated
  retiredFired := second.retiredFired.trans first.retiredFired

theorem settle (info : CloseInfo) (s : KpsStream) : s.SameHalves (s.settle info) := by
  unfold KpsStream.settle
  split <;> exact ⟨fun _ => rfl, fun _ => rfl, rfl, rfl, rfl, rfl, rfl⟩

theorem settleOpen (error : Option KpsError) (s : KpsStream) :
    s.SameHalves (s.settleOpen error) := by
  unfold KpsStream.settleOpen
  split <;> exact ⟨fun _ => rfl, fun _ => rfl, rfl, rfl, rfl, rfl, rfl⟩

theorem wakeReader (s : KpsStream) : s.SameHalves s.wakeReader :=
  ⟨fun _ => rfl, fun _ => rfl, rfl, rfl, rfl, rfl, rfl⟩

theorem wakeDrain (s : KpsStream) : s.SameHalves s.wakeDrain :=
  ⟨fun _ => rfl, fun _ => rfl, rfl, rfl, rfl, rfl, rfl⟩

/-- Reporting how the stream ended, and waking whoever waits. -/
theorem finish (info : CloseInfo) (error : Option KpsError) (s : KpsStream) :
    s.SameHalves ((((s.settleOpen error).settle info).wakeReader).wakeDrain) :=
  (((settleOpen error s).trans (settle info _)).trans (wakeReader _)).trans (wakeDrain _)

end KpsStream.SameHalves

section Updates

variable {frames : List Frame} {progress progress' : Option Progress} {pending pending' : Int}
  {x : StreamCtx} {s : KpsStream}

/-- An update of the read half. -/
theorem CtxSpec.reading (inv : CtxInv progress pending x)
    (read : ReadInv pending' (s.readHalf x.flow.localLimits))
    (accepted : s.accepted = x.s.accepted ++ frames)
    (explicit : explicitCredit s.accepted = explicitCredit x.s.accepted)
    (write : ∀ initial, s.writeHalf initial = x.s.writeHalf initial) (ch : s.ch = x.s.ch)
    (sf : ∃ cancelled, s.sf = { x.s.sf with cancelled })
    (call : s.writable.call = x.s.writable.call)
    (initiated : s.peerInitiated = x.s.peerInitiated)
    (retiredFired : s.retiredFired = x.s.retiredFired) :
    CtxSpec frames progress pending' x { x with s := s } := by
  obtain ⟨cancelled, sf⟩ := sf
  have terminal : s.localTerminal = x.s.localTerminal := congrArg WriteHalf.terminal (write 0)
  have step : CtxStep frames x { x with s := s } := {
    same := rfl
    initiated
    retiredFired
    opened := congrArg Channel.opened ch
    closed := congrArg Channel.closed ch
    controlOpened := rfl
    controlClosed := rfl
    connSent := by simp only [sf]; omega
    connReserved := by simp only [sf]; omega
    connReceived := by simp only [sf]; omega
    connConsumed := by simp only [sf]; omega
    accepted
    sent := by simp [ch]
    control := ⟨[], by simp⟩
    ended := by simp [terminal]
    announced := by simp only [terminal, ch]; exact fun _ => id
    advertised := by simp only [ch, sf]; exact fun _ _ => id
    dataAdvertised := fun _ _ => id
    wakes := le_refl _
    unwoken := fun _ => by
      simp only [sf, ConnFlow.streamRoom, ConnFlow.peerMaxStreamData]
      exact ⟨le_refl _, le_refl _, trivial⟩ }
  refine ⟨⟨⟨read, ?_, ?_, ?_, ?_⟩, inv.data, ?_⟩, step⟩
  · exact (write _).symm ▸ inv.stream.write
  · simp only [ch, sf]
    exact inv.stream.adverts
  · simp only [sf, explicit]
    exact inv.stream.explicit
  · simp only [Parked, call, sf]
    exact inv.stream.parked
  · simp only [sf]
    exact inv.share

/-- An update of the state of `writable`. -/
theorem CtxSpec.writing (inv : CtxInv progress pending x)
    (write : WriteInv progress' (s.writeHalf x.flow.peerMaxStreamDataInitial))
    (parked : Parked x.flow s) (read : ∀ limits, s.readHalf limits = x.s.readHalf limits)
    (ch : s.ch = x.s.ch) (sf : s.sf = x.s.sf) (terminal : s.localTerminal = x.s.localTerminal)
    (initiated : s.peerInitiated = x.s.peerInitiated)
    (retiredFired : s.retiredFired = x.s.retiredFired) :
    CtxSpec [] progress' pending x { x with s := s } := by
  have accepted : s.accepted = x.s.accepted :=
    congrArg ReadHalf.accepted (read x.flow.localLimits)
  have step : CtxStep [] x { x with s := s } := {
    same := rfl
    initiated
    retiredFired
    opened := congrArg Channel.opened ch
    closed := congrArg Channel.closed ch
    controlOpened := rfl
    controlClosed := rfl
    connSent := by simp [sf]
    connReserved := by simp [sf]
    connReceived := by simp [sf]
    connConsumed := by simp [sf]
    accepted := by simp [accepted]
    sent := by simp [ch]
    control := ⟨[], by simp⟩
    ended := by simp [terminal]
    announced := by simp only [terminal, ch]; exact fun _ => id
    advertised := by simp only [ch, sf]; exact fun _ _ => id
    dataAdvertised := fun _ _ => id
    wakes := le_refl _
    unwoken := by simp [sf] }
  refine ⟨⟨⟨?_, write, ?_, ?_, parked⟩, inv.data, ?_⟩, step⟩
  · exact (read _).symm ▸ inv.stream.read
  · simpa only [ch, sf] using inv.stream.adverts
  · simpa only [sf, accepted] using inv.stream.explicit
  · simpa only [sf] using inv.share

/-- An update that touches neither half. -/
theorem CtxSpec.local (inv : CtxInv progress pending x) (same : x.s.SameHalves s) :
    CtxSpec [] progress pending x { x with s := s } := by
  obtain ⟨read, write, ch, sf, writable, initiated, retiredFired⟩ := same
  refine CtxSpec.writing inv ((write _).symm ▸ inv.stream.write) ?_ read ch sf
    (congrArg WriteHalf.terminal (write 0)) initiated retiredFired
  simpa only [Parked, writable, sf] using inv.stream.parked

end Updates

/-! ### Consumption -/

/-- The advertisement of a connection on the control channel. -/
def dataAdvert (v : Int) : ControlMsg := .maxData (asUint64 v)

/-- The advertisement of a stream on its channel. -/
def streamAdvert (v : Int) : Frame := .maxStreamData (asUint64 v)

@[simp] theorem dataLimit_concat (limits : FlowLimits) (sent : List ControlMsg) (value : Nat) :
    dataLimit limits (sent ++ [.maxData value]) = max (dataLimit limits sent) value := by
  simp [dataLimit]

/-- What follows when a connection consumes `n` bytes. -/
structure ConnConsumed (n : Nat) (f f' : ConnFlow) (control control' : Channel ControlMsg) :
    Prop where
  data : DataInv f' control'
  opened : control'.opened = control.opened
  closed : control'.closed = control.closed
  sent : ∃ extra, control'.sent = control.sent ++ extra ∧
    ∀ message ∈ extra, ∃ value ≤ maxOffset, message = .maxData value
  exact : control.isOpen = true → f.localLimits.initialMaxData ≤ maxOffset →
    f.localMaxData = dataLimit f.localLimits control.sent →
    f'.localMaxData = dataLimit f.localLimits control'.sent

theorem ConnConsumed.of_consume {n : Nat} {f : ConnFlow} {control : Channel ControlMsg}
    (inv : DataInv f control) (available : f.connConsumed + n ≤ f.connReceived) :
    ConnConsumed n f (f.connDataConsumed n).1 control
      (control.sendOption ((f.connDataConsumed n).2.map dataAdvert)) := by
  obtain ⟨window, advert⟩ := ConnFlow.window_connDataConsumed n f
  obtain ⟨advertisedAt, limit, fields⟩ := ConnFlow.connDataConsumed_fields n f
  have sound : (f.connDataConsumed n).1.window.Sound maxOffset := by
    rw [window]
    exact inv.window.consume (by omega) available
  have batched : (f.connDataConsumed n).1.window.size ≤ maxOffset →
      (f.connDataConsumed n).1.window.Batched maxOffset := by
    rw [window]
    exact fun small => (inv.batched (by simpa using small)).consume
  have rising : min f.localMaxData maxOffset ≤ (f.connDataConsumed n).1.localMaxData := by
    have := inv.window.valid.limit_le_consume maxOffset true (Int.natCast_nonneg n)
    rwa [← window] at this
  have within : (f.connDataConsumed n).1.connSent + (f.connDataConsumed n).1.connReserved ≤
      (f.connDataConsumed n).1.peerMaxData := by
    rw [fields]
    exact inv.within
  cases due : (f.connDataConsumed n).2 with
  | none =>
    have stays : (f.connDataConsumed n).1.localMaxData = f.localMaxData := by
      rcases f.window.limit_consume maxOffset n true with
        ⟨-, limit⟩ | ⟨some, -⟩
      · rwa [← window] at limit
      · rw [← advert, due] at some
        cases some
    exact {
      data := ⟨sound, batched, within, by simpa [stays, Channel.sendOption] using inv.adverts⟩
      opened := rfl
      closed := rfl
      sent := ⟨[], by simp [Channel.sendOption]⟩
      exact := fun _ _ here => stays.trans here }
  | some v =>
    obtain ⟨same, small, value⟩ := Window.advert_le inv.window (Int.natCast_nonneg _) (by omega)
      available (advert ▸ due)
    have limit : (f.connDataConsumed n).1.localMaxData = v := by
      rw [same, ← window]
      rfl
    have bound : (asUint64 v : Int) ≤ maxOffset := le_of_eq_of_le value small
    refine {
      data := ⟨sound, batched, within, ?_⟩
      opened := Channel.opened_sendIfOpen
      closed := Channel.closed_sendIfOpen
      sent := ?_
      exact := ?_ }
    · intro value' member
      rw [limit] at rising ⊢
      rw [Channel.sent_sendOption] at member
      split at member
      · rcases List.mem_append.mp member with before | here
        · have := inv.adverts value' before
          omega
        · simp only [Option.map_some, Option.toList_some, List.mem_singleton, dataAdvert,
            ControlMsg.maxData.injEq] at here
          omega
      · have := inv.adverts value' member
        omega
    · rw [Channel.sent_sendOption]
      split
      · exact ⟨[dataAdvert v], rfl, fun message member =>
          ⟨asUint64 v, by omega, List.mem_singleton.mp member⟩⟩
      · exact ⟨[], by simp⟩
    · intro isOpen fits here
      rw [limit] at rising ⊢
      rw [Channel.sent_sendOption, if_pos isOpen]
      have capped : f.localMaxData ≤ maxOffset := inv.window.capped (Int.ofNat_le.mpr fits)
      simp only [Option.map_some, Option.toList_some, dataAdvert, dataLimit_concat]
      omega

/-- A stream whose windows count `n` more as consumed, with its advertisement. -/
def KpsStream.consumed (limits : FlowLimits) (n : Int) (s : KpsStream) : KpsStream :=
  { s with
    sf := (s.sf.streamConsumed limits n).1
    ch := s.ch.sendOption ((s.sf.streamConsumed limits n).2.map streamAdvert) }

/-- What follows when a stream consumes `n` bytes. -/
structure StreamConsumed (limits : FlowLimits) (s s' : KpsStream) : Prop where
  read : ReadInv 0 (s'.readHalf limits)
  write : ∀ progress initial, WriteInv progress (s.writeHalf initial) →
    WriteInv progress (s'.writeHalf initial)
  adverts : ∀ value, Frame.maxStreamData value ∈ s'.ch.sent →
    (value : Int) ≤ min s'.sf.localMaxStreamData maxOffset
  sent : s.ch.sent <+: s'.ch.sent
  terminal : hasTerminal s'.ch.sent = hasTerminal s.ch.sent
  exact : s.ch.isOpen = true → limits.initialMaxStreamData ≤ maxOffset →
    s.sf.localMaxStreamData = streamLimit limits s.ch.sent →
    s'.sf.localMaxStreamData = streamLimit limits s'.ch.sent

theorem StreamConsumed.of_consume {limits : FlowLimits} {n : Nat} {s : KpsStream}
    (read : ReadInv n (s.readHalf limits))
    (adverts : ∀ value, Frame.maxStreamData value ∈ s.ch.sent →
      (value : Int) ≤ min s.sf.localMaxStreamData maxOffset) :
    StreamConsumed limits s (s.consumed limits n) := by
  have available : s.sf.consumed + n ≤ s.sf.received := by
    have held := read.held
    change (byteCount s.inbuf : Int) + n = s.sf.received - s.sf.consumed at held
    omega
  obtain ⟨window, advert⟩ := StreamFlow.window_streamConsumed limits n s.sf
  obtain ⟨advertisedAt, limit, fields⟩ := StreamFlow.streamConsumed_fields limits n s.sf
  have read' : ReadInv 0 ((s.consumed limits n).readHalf limits) := by
    have counted := read.consume
    have cancelled : (s.sf.streamConsumed limits n).1.cancelled = s.sf.cancelled := by rw [fields]
    unfold KpsStream.consumed KpsStream.readHalf
    simp only [cancelled, window]
    exact counted
  have rising : min s.sf.localMaxStreamData maxOffset ≤
      (s.sf.streamConsumed limits n).1.localMaxStreamData := by
    have := read.window.valid.limit_le_consume maxOffset (!s.sf.cancelled) (Int.natCast_nonneg n)
    change min s.sf.localMaxStreamData maxOffset ≤
      ((s.sf.window limits).consume maxOffset (!s.sf.cancelled) n).1.limit at this
    rwa [← window] at this
  have writing : ∀ initial, (s.consumed limits n).writeHalf initial =
      { s.writeHalf initial with sent := (s.consumed limits n).ch.sent } := by
    intro initial
    unfold KpsStream.consumed KpsStream.writeHalf
    simp only [fields]
  cases due : (s.sf.streamConsumed limits n).2 with
  | none =>
    have stays : (s.consumed limits n).sf.localMaxStreamData = s.sf.localMaxStreamData := by
      show ((s.sf.streamConsumed limits n).1.window limits).limit = s.sf.localMaxStreamData
      rcases (s.sf.window limits).limit_consume maxOffset n (!s.sf.cancelled) with ⟨-, limit⟩
        | ⟨some, -⟩
      · rwa [← window] at limit
      · rw [← advert, due] at some
        cases some
    have silent : (s.consumed limits n).ch = s.ch := by
      simp [KpsStream.consumed, due, Channel.sendOption]
    refine ⟨read', ?_, ?_, ?_, ?_, ?_⟩
    · intro progress initial inv
      rw [writing, silent]
      exact inv
    · rw [silent, stays]
      exact adverts
    · rw [silent]
    · rw [silent]
    · intro _ _ here
      rw [silent]
      exact stays.trans here
  | some v =>
    obtain ⟨same, small, value⟩ := Window.advert_le read.window (Int.natCast_nonneg _) (by omega)
      available (advert ▸ due)
    have limit : (s.consumed limits n).sf.localMaxStreamData = v := by
      rw [same]
      show ((s.sf.streamConsumed limits n).1.window limits).limit = _
      rw [window]
      rfl
    have rising : min s.sf.localMaxStreamData maxOffset ≤ v := limit ▸ rising
    have sent : (s.consumed limits n).ch.sent =
        if s.ch.isOpen then s.ch.sent ++ [streamAdvert v] else s.ch.sent := by
      simp only [KpsStream.consumed, due, Option.map_some, Channel.sent_sendOption,
        Option.toList_some]
    have wf : (streamAdvert v).WF := by
      show asUint64 v ≤ maxOffset
      omega
    refine ⟨read', ?_, ?_, ?_, ?_, ?_⟩
    · intro progress initial inv
      rw [writing, sent]
      split
      · exact inv.silent rfl wf rfl
      · exact inv
    · intro value' member
      rw [limit]
      rw [sent] at member
      split at member
      · rcases List.mem_append.mp member with before | here
        · have := adverts value' before
          omega
        · simp only [List.mem_singleton, streamAdvert, Frame.maxStreamData.injEq] at here
          omega
      · have := adverts value' member
        omega
    · rw [sent]
      split
      · exact List.prefix_append _ _
      · exact List.prefix_refl _
    · rw [sent]
      split
      · simp [streamAdvert, Frame.isTerminal, Frame.isFin, Frame.isReset]
      · rfl
    · intro isOpen fits here
      have capped : s.sf.localMaxStreamData ≤ maxOffset :=
        read.window.capped (Int.ofNat_le.mpr fits)
      rw [limit, sent, if_pos isOpen, streamLimit, explicitCredit_concat]
      unfold streamLimit at here
      simp only [streamAdvert, Frame.credit]
      omega

namespace StreamCtx

/-- Consumption at both levels. -/
theorem onConsumed_eq (n : Nat) (x : StreamCtx) :
    x.onConsumed n = {
      flow := (x.flow.connDataConsumed n).1
      control := x.control.sendOption ((x.flow.connDataConsumed n).2.map dataAdvert)
      s := x.s.consumed x.flow.localLimits n } := by
  unfold onConsumed streamConsumed KpsStream.consumed
  rcases x.s.sf.streamConsumed x.flow.localLimits n with ⟨sf, _ | v⟩ <;>
    unfold connConsumed sendIfOpen trySendControl <;>
    rcases x.flow.connDataConsumed n with ⟨flow, _ | w⟩ <;> rfl

/-- Consumption, of bytes that have left the buffer. -/
theorem onConsumed_spec {progress : Option Progress} {n : Nat} {x : StreamCtx}
    (inv : CtxInv progress n x) : CtxSpec [] progress 0 x (x.onConsumed n) := by
  have available : x.flow.connConsumed + n ≤ x.flow.connReceived := by
    have held := inv.stream.read.held
    have share := inv.share
    change (byteCount x.s.inbuf : Int) + n = x.s.sf.received - x.s.sf.consumed at held
    omega
  have conn := ConnConsumed.of_consume inv.data available
  have stream := StreamConsumed.of_consume inv.stream.read inv.stream.adverts
  obtain ⟨_, _, fields⟩ := StreamFlow.streamConsumed_fields x.flow.localLimits n x.s.sf
  obtain ⟨_, _, connFields⟩ := ConnFlow.connDataConsumed_fields n x.flow
  have sf : (x.s.consumed x.flow.localLimits n).sf = _ := fields
  have parked : Parked (x.flow.connDataConsumed n).1 (x.s.consumed x.flow.localLimits n) := by
    unfold Parked
    rw [connFields, sf]
    exact inv.stream.parked
  have explicit : (x.s.consumed x.flow.localLimits n).sf.peerMaxExplicit =
      explicitCredit x.s.accepted := by
    rw [sf]
    exact inv.stream.explicit
  have share : (x.s.consumed x.flow.localLimits n).sf.received -
      (x.s.consumed x.flow.localLimits n).sf.consumed ≤
      (x.flow.connDataConsumed n).1.connReceived - (x.flow.connDataConsumed n).1.connConsumed := by
    have share := inv.share
    rw [sf, connFields]
    simp only
    omega
  have limits : (x.flow.connDataConsumed n).1.localLimits = x.flow.localLimits := by rw [connFields]
  have initial : (x.flow.connDataConsumed n).1.peerMaxStreamDataInitial =
    x.flow.peerMaxStreamDataInitial := by rw [connFields]
  rw [onConsumed_eq]
  refine ⟨⟨⟨?_, ?_, stream.adverts, explicit, parked⟩, conn.data, share⟩, ?_⟩
  · exact limits ▸ stream.read
  · exact initial ▸ stream.write _ _ inv.stream.write
  · exact {
      same := by simp only [connFields]; rfl
      initiated := rfl
      retiredFired := rfl
      opened := Channel.opened_sendOption
      closed := Channel.closed_sendOption
      controlOpened := conn.opened
      controlClosed := conn.closed
      connSent := by simp [connFields, sf]
      connReserved := by simp [connFields, sf]
      connReceived := by simp [connFields, sf]
      connConsumed := by simp [connFields, sf]
      accepted := (List.append_nil _).symm
      sent := stream.sent
      control := conn.sent
      ended := id
      announced := fun _ announced ended => stream.terminal.trans (announced ended)
      advertised := fun isOpen small here => limits ▸ stream.exact isOpen small here
      dataAdvertised := fun isOpen small here => limits ▸ conn.exact isOpen small here
      wakes := by simp [connFields]
      unwoken := by
        intro _
        simp [connFields, sf, ConnFlow.connRoom, ConnFlow.streamRoom, ConnFlow.peerMaxStreamData] }

/-! ### Ending a half -/

theorem failSend_spec {progress : Option Progress} {pending : Int} {x : StreamCtx}
    (error : KpsError) (inv : CtxInv progress pending x) :
    CtxSpec [] progress pending x (x.failSend error) := by
  unfold failSend StreamFlow.failSend
  by_cases failed : x.s.sf.sendFailure.isSome
  · rw [if_pos failed]
    exact ⟨inv, CtxStep.refl x⟩
  · rw [if_neg failed]
    show CtxSpec [] progress pending x { x with
      flow := x.flow.wake
      s := { x.s with sf := { x.s.sf with sendFailure := some error } } }
    refine ⟨⟨⟨inv.stream.read, inv.stream.write, inv.stream.adverts, inv.stream.explicit,
      inv.stream.parked.wake⟩, ⟨inv.data.window, inv.data.batched, inv.data.within,
      inv.data.adverts⟩, inv.share⟩, ?_⟩
    exact { CtxStep.refl x with
      same := rfl
      wakes := Nat.le_succ _
      unwoken := fun unwoken => absurd unwoken (Nat.succ_ne_self _) }

/-- A frame that carries neither payload nor credit, and what it does to the write half. -/
theorem sending_spec {progress : Option Progress} {pending : Int} {x : StreamCtx}
    {frame : Frame} (terminal : Option Terminal) (inv : CtxInv progress pending x)
    (write : WriteInv progress { x.s.writeHalf x.flow.peerMaxStreamDataInitial with
      sent := (x.s.ch.sendIfOpen frame).sent
      terminal })
    (uncredited : frame.credit = 0) (unadverted : ∀ value, frame ≠ .maxStreamData value)
    (ended : x.s.localTerminal.isSome = true → terminal.isSome = true)
    (announced : (x.s.ch.isOpen = true ∨ x.s.localTerminal.isSome = true) →
      (x.s.localTerminal.isSome = true → hasTerminal x.s.ch.sent = true) →
      terminal.isSome = true → hasTerminal (x.s.ch.sendIfOpen frame).sent = true) :
    CtxSpec [] progress pending x
      { x with s := { x.s with ch := x.s.ch.sendIfOpen frame, localTerminal := terminal } } := by
  have limit : explicitCredit (x.s.ch.sendIfOpen frame).sent = explicitCredit x.s.ch.sent := by
    rw [Channel.sent_sendIfOpen]
    split
    · simp [uncredited]
    · rfl
  refine ⟨⟨⟨inv.stream.read, write, ?_, inv.stream.explicit, inv.stream.parked⟩, inv.data,
    inv.share⟩, ?_⟩
  · intro value member
    change Frame.maxStreamData value ∈ (x.s.ch.sendIfOpen frame).sent at member
    refine inv.stream.adverts value ?_
    rw [Channel.sent_sendIfOpen] at member
    split at member
    · rcases List.mem_append.mp member with before | here
      · exact before
      · exact absurd (List.mem_singleton.mp here).symm (unadverted value)
    · exact member
  · exact { CtxStep.refl x with
      opened := Channel.opened_sendIfOpen
      closed := Channel.closed_sendIfOpen
      sent := Channel.prefix_sendIfOpen
      ended
      announced
      advertised := fun isOpen small here => by
        show x.s.sf.localMaxStreamData = streamLimit _ (x.s.ch.sendIfOpen frame).sent
        rw [streamLimit, limit]
        exact here }

/-- STOP_SENDING, which may follow anything. -/
theorem sendStop_spec {progress : Option Progress} {pending : Int} {x : StreamCtx} {code : Nat}
    (inv : CtxInv progress pending x) (wf : code < 2 ^ 32) :
    CtxSpec [] progress pending x (x.sendIfOpen (.stopSending code)) := by
  have terminal : hasTerminal (x.s.ch.sendIfOpen (.stopSending code)).sent =
      hasTerminal x.s.ch.sent := by
    rw [Channel.sent_sendIfOpen]
    split
    · simp [Frame.isTerminal, Frame.isFin, Frame.isReset]
    · rfl
  refine sending_spec x.s.localTerminal inv ?_ rfl (fun _ same => by cases same) id
    (fun _ announced ended => terminal.trans (announced ended))
  rw [Channel.sent_sendIfOpen]
  split
  · exact inv.stream.write.silent rfl wf rfl
  · exact inv.stream.write

/-- The terminal frame of an open write half. -/
theorem sendTerminal_spec {progress : Option Progress} {pending : Int} {x : StreamCtx}
    {frame : Frame} (terminal : Terminal) (inv : CtxInv progress pending x)
    (unended : x.s.localTerminal = none) (wf : frame.WF) (ends : frame.isTerminal = true) :
    CtxSpec [] progress pending x
      ({ x with s := { x.s with localTerminal := some terminal } }.sendIfOpen frame) := by
  have empty : frame.payload = [] := by cases frame <;> first | rfl | cases ends
  refine sending_spec (some terminal) inv ?_ (by cases frame <;> first | rfl | cases ends)
    (fun _ same => by subst same; cases ends) (fun _ => rfl) ?_
  · rw [Channel.sent_sendIfOpen]
    split
    · exact inv.stream.write.finish unended terminal empty wf
    · exact inv.stream.write.mark terminal
  · rintro (isOpen | ended) - -
    · simp [Channel.sent_sendIfOpen_of_isOpen isOpen, ends]
    · simp [unended] at ended

/-- The write half ends. -/
theorem endWrite_spec {progress : Option Progress} {pending : Int} {x : StreamCtx}
    {frame : Frame} (terminal : Terminal) (error : KpsError) (inv : CtxInv progress pending x)
    (unended : x.s.localTerminal = none) (wf : frame.WF) (ends : frame.isTerminal = true) :
    CtxSpec [] progress pending x (x.endWrite terminal error frame) := by
  have swap : x.endWrite terminal error frame =
      ({ x with s := { x.s with localTerminal := some terminal } }.sendIfOpen frame).failSend
        error := by
    unfold endWrite failSend StreamFlow.failSend sendIfOpen
    by_cases failed : x.s.sf.sendFailure.isSome <;> simp only [failed]
  have sent := sendTerminal_spec terminal inv unended wf ends
  rw [swap]
  exact sent.andThen (failSend_spec error sent.inv)

/-- Discarding the buffer, once it is known what emptying it does. -/
theorem discardInbuf_spec {frames : List Frame} {progress : Option Progress} {x₀ x : StreamCtx}
    (emptied : CtxSpec frames progress (byteCount x.s.inbuf) x₀
      { x with s := { x.s with inbuf := [] } }) :
    CtxSpec frames progress 0 x₀ x.discardInbuf := by
  unfold discardInbuf
  split
  · next empty =>
    have same : { x with s := { x.s with inbuf := [] } } = x := by
      rw [← empty]
    rw [same, empty] at emptied
    exact emptied
  · exact emptied.andThen (onConsumed_spec emptied.inv)

/-- The reader is woken. -/
theorem wakeReader_spec {progress : Option Progress} {pending : Int} {x : StreamCtx}
    (inv : CtxInv progress pending x) :
    CtxSpec [] progress pending x { x with s := x.s.wakeReader } :=
  CtxSpec.local inv (KpsStream.SameHalves.wakeReader _)

@[simp] theorem writable_onConsumed (n : Nat) (x : StreamCtx) :
    (x.onConsumed n).s.writable = x.s.writable := by
  rw [onConsumed_eq]
  rfl

@[simp] theorem writable_failSend (error : KpsError) (x : StreamCtx) :
    (x.failSend error).s.writable = x.s.writable := by
  unfold failSend StreamFlow.failSend
  split
  rfl

@[simp] theorem localTerminal_failSend (error : KpsError) (x : StreamCtx) :
    (x.failSend error).s.localTerminal = x.s.localTerminal := by
  unfold failSend StreamFlow.failSend
  split
  rfl

@[simp] theorem writable_discardInbuf (x : StreamCtx) :
    x.discardInbuf.s.writable = x.s.writable := by
  unfold discardInbuf
  split
  · rfl
  · exact writable_onConsumed _ _

/-! ### Inbound -/

section Inbound

variable {x x' : StreamCtx} {progress : Option Progress}

/-- DATA within both windows is counted at both. -/
theorem receive_spec {bytes : Bytes} {inbuf : List Bytes} {pending : Int} {flow : ConnFlow}
    {sf : StreamFlow} (inv : CtxInv progress 0 x)
    (unended : x.s.peerFin = false ∧ x.s.peerReset = none)
    (ok : x.s.sf.onDataReceived bytes.length x.flow = .ok (flow, sf))
    (kept : (x.s.readCancelled = true ∧ inbuf = x.s.inbuf ∧ pending = bytes.length) ∨
      (x.s.readCancelled = false ∧ inbuf = x.s.inbuf ++ [bytes] ∧ pending = 0)) :
    CtxSpec [.data bytes] progress pending x { x with
      flow
      s := { x.s with accepted := x.s.accepted ++ [.data bytes], sf, inbuf } } := by
  obtain ⟨rfl, rfl, fits, connFits⟩ := StreamFlow.onDataReceived_ok ok
  have read := inv.stream.read.receive unended fits kept
  have admitted : x.flow.window.receive bytes.length = some
      { x.flow.window with received := x.flow.window.received + bytes.length } :=
    if_neg (not_lt.mpr connFits)
  have share := inv.share
  refine ⟨⟨⟨read, inv.stream.write, inv.stream.adverts, ?_, inv.stream.parked⟩,
    ⟨inv.data.window.receive (Int.natCast_nonneg _) admitted, ?_, inv.data.within,
      inv.data.adverts⟩, ?_⟩, ?_⟩
  · simpa [Frame.credit] using inv.stream.explicit
  · intro small
    exact ⟨(inv.data.batched small).formula, (inv.data.batched small).pending⟩
  · simp only
    omega
  · exact { CtxStep.refl x with
      same := rfl
      connReceived := by simp only; omega
      accepted := rfl }

/-- MAX_STREAM_DATA raises the stream's explicit limit. -/
theorem credit_spec (value : Nat) (inv : CtxInv progress 0 x) :
    CtxSpec [.maxStreamData value] progress 0 x { x with
      flow := (x.s.sf.onPeerMaxStreamData value x.flow).1
      s := { x.s with
        accepted := x.s.accepted ++ [.maxStreamData value]
        sf := (x.s.sf.onPeerMaxStreamData value x.flow).2 } } := by
  have read := inv.stream.read.accept (.maxStreamData value) rfl rfl
  have explicit := inv.stream.explicit
  unfold StreamFlow.onPeerMaxStreamData
  by_cases raised : (value : Int) > x.s.sf.peerMaxExplicit
  · rw [if_pos raised]
    have write : WriteInv progress { x.s.writeHalf x.flow.peerMaxStreamDataInitial with
        limit := max (value : Int) x.flow.peerMaxStreamDataInitial } :=
      { inv.stream.write with
        within := by
          have within := inv.stream.write.within
          change x.s.sf.sendSent + x.s.sf.sendReserved ≤
            max x.s.sf.peerMaxExplicit x.flow.peerMaxStreamDataInitial at within
          change x.s.sf.sendSent + x.s.sf.sendReserved ≤
            max (value : Int) x.flow.peerMaxStreamDataInitial
          omega
        handed := inv.stream.write.handed.congr rfl }
    refine ⟨⟨⟨read, write, inv.stream.adverts, ?_, inv.stream.parked.wake⟩,
      ⟨inv.data.window, inv.data.batched, inv.data.within, inv.data.adverts⟩, inv.share⟩, ?_⟩
    · simp only [explicitCredit_concat, Frame.credit]
      omega
    · exact { CtxStep.refl x with
        same := rfl
        accepted := rfl
        wakes := Nat.le_succ _
        unwoken := fun unwoken => absurd unwoken (Nat.succ_ne_self _) }
  · rw [if_neg raised]
    refine CtxSpec.reading inv read rfl ?_ (fun _ => rfl) rfl ⟨_, rfl⟩ rfl rfl rfl
    simp only [explicitCredit_concat, Frame.credit]
    omega

/-- **An accepted frame** keeps the invariant and is recorded; the rest of the step is the
method's. -/
theorem handleFrame_spec {frame : Frame} {retire : Bool} (inv : x.Inv) (wf : frame.WF)
    (accepted : x.handleFrame frame = .done x' retire) :
    CtxSpec [frame] x.s.progress 0 x x' ∧ x'.s.writable = x.s.writable := by
  unfold StreamCtx.Inv at inv
  generalize x.s.progress = progress at inv ⊢
  cases frame with
  | data bytes =>
    simp only [handleFrame] at accepted
    split at accepted
    · cases accepted
    · next unended =>
      have unended : x.s.peerFin = false ∧ x.s.peerReset = none := by simpa using unended
      split at accepted
      · cases accepted
      · next flow sf ok =>
        split at accepted
        · next cancelled =>
          cases accepted
          have counted := receive_spec inv unended ok (Or.inl ⟨cancelled, rfl, rfl⟩)
          exact ⟨counted.andThen (onConsumed_spec counted.inv), writable_onConsumed _ _⟩
        · next uncancelled =>
          cases accepted
          have counted := receive_spec inv unended ok
            (Or.inr ⟨Bool.not_eq_true _ ▸ uncancelled, rfl, rfl⟩)
          exact ⟨counted.andThen (wakeReader_spec counted.inv), rfl⟩
  | fin =>
    simp only [handleFrame] at accepted
    split at accepted
    · cases accepted
    · next unended =>
      have unended : x.s.peerFin = false ∧ x.s.peerReset = none := by simpa using unended
      cases accepted
      have marked : CtxSpec [.fin] progress 0 x { x with
          s := { x.s with accepted := x.s.accepted ++ [.fin], peerFin := true } } :=
        CtxSpec.reading inv (inv.stream.read.finish unended) rfl (by simp [Frame.credit])
          (fun _ => rfl) rfl ⟨_, rfl⟩ rfl rfl rfl
      exact ⟨marked.andThen (wakeReader_spec marked.inv), rfl⟩
  | reset code =>
    simp only [handleFrame] at accepted
    split at accepted
    · cases accepted
    · next unended =>
      have unended : x.s.peerFin = false ∧ x.s.peerReset = none := by simpa using unended
      cases accepted
      have emptied : CtxSpec [.reset code] progress (byteCount x.s.inbuf) x { x with
          s := { x.s with
            accepted := x.s.accepted ++ [.reset code]
            peerReset := some { code := some ((numToCode code).getD .reset) }
            inbuf := [] } } :=
        CtxSpec.reading inv (inv.stream.read.resetBy unended code _) rfl (by simp [Frame.credit])
          (fun _ => rfl) rfl ⟨_, rfl⟩ rfl rfl rfl
      have dropped := discardInbuf_spec (x := { x with s := { x.s with
        accepted := x.s.accepted ++ [.reset code]
        peerReset := some { code := some ((numToCode code).getD .reset) } } }) emptied
      exact ⟨dropped.andThen (wakeReader_spec dropped.inv), writable_discardInbuf _⟩
  | stopSending code =>
    have recorded (peerStop : Option KpsReason) : CtxSpec [.stopSending code] progress 0 x
        { x with s := { x.s with accepted := x.s.accepted ++ [.stopSending code], peerStop } } :=
      CtxSpec.reading inv (inv.stream.read.accept _ rfl rfl) rfl (by simp [Frame.credit])
        (fun _ => rfl) rfl ⟨_, rfl⟩ rfl rfl rfl
    have failed (error : KpsError) (peerStop : Option KpsReason) :=
      (recorded peerStop).andThen (failSend_spec error (recorded peerStop).inv)
    simp only [handleFrame] at accepted
    split at accepted
    · cases accepted
      exact ⟨recorded x.s.peerStop, rfl⟩
    · split at accepted
      · cases accepted
        exact ⟨failed _ _, writable_failSend _ _⟩
      · next unended =>
        cases accepted
        have unended : x.s.localTerminal = none := by simpa using unended
        let reason : KpsReason := { code := some ((numToCode code).getD .cancelled) }
        have stopped := failed (streamError reason) (some reason)
        refine ⟨stopped.andThen (sendTerminal_spec .reset stopped.inv ?_ wf rfl),
          writable_failSend (streamError reason) _⟩
        rw [localTerminal_failSend]
        exact unended
  | maxStreamData value =>
    simp only [handleFrame] at accepted
    cases accepted
    exact ⟨credit_spec value inv, rfl⟩

end Inbound

/-! ### Lifecycle -/

section Lifecycle

variable {x : StreamCtx} {frames : List Frame}

/-- A method that leaves `writable` alone. -/
theorem CtxSpec.rest {x' : StreamCtx} (spec : CtxSpec frames x.s.progress 0 x x')
    (writable : x'.s.writable = x.s.writable) : CtxSpec frames x'.s.progress 0 x x' := by
  have same : x'.s.progress = x.s.progress := by rw [KpsStream.progress, writable]; rfl
  exact same ▸ spec

theorem writable_endWrite (terminal : Terminal) (error : KpsError) (frame : Frame)
    (x : StreamCtx) : (x.endWrite terminal error frame).s.writable = x.s.writable :=
  writable_failSend error _

theorem closeWrite_spec (inv : x.Inv) (unended : x.s.localTerminal = none) :
    CtxSpec [] x.closeWrite.s.progress 0 x x.closeWrite :=
  CtxSpec.rest (endWrite_spec .fin _ inv unended trivial rfl) (writable_endWrite ..)

theorem resetWrite_spec (reason : Option KpsReason) (inv : x.Inv)
    (unended : x.s.localTerminal = none) :
    CtxSpec [] (x.resetWrite reason).s.progress 0 x (x.resetWrite reason) := by
  refine CtxSpec.rest (endWrite_spec .reset _ inv unended ?_ rfl) (writable_endWrite ..)
  exact lt_of_le_of_lt (codeToNum_le _) (by decide)

theorem cancelRead_spec (reason : Option KpsReason) (inv : x.Inv) :
    CtxSpec [] (x.cancelRead reason).s.progress 0 x (x.cancelRead reason) := by
  have emptied : CtxSpec [] x.s.progress (byteCount x.s.inbuf) x { x with s := { x.s with
      readCancelled := true
      readError := some (reason.getD { code := some .cancelled })
      sf := x.s.sf.markCancelled
      inbuf := [] } } :=
    CtxSpec.reading inv (inv.stream.read.cancel true (fun no => by cases no))
      (List.append_nil _).symm rfl (fun _ => rfl) rfl ⟨true, rfl⟩ rfl rfl rfl
  have dropped := discardInbuf_spec (x := { x with s := { x.s with
    readCancelled := true
    readError := some (reason.getD { code := some .cancelled })
    sf := x.s.sf.markCancelled } }) emptied
  have small : codeToNum (some ((reason.bind KpsReason.code).getD .cancelled)) < 2 ^ 32 :=
    lt_of_le_of_lt (codeToNum_le _) (by decide)
  unfold cancelRead
  dsimp only
  split
  · have told := dropped.andThen (sendStop_spec dropped.inv small)
    exact CtxSpec.rest (told.andThen (wakeReader_spec told.inv)) (writable_discardInbuf _)
  · exact CtxSpec.rest (dropped.andThen (wakeReader_spec dropped.inv)) (writable_discardInbuf _)

/-- Teardown may mark the half before or after it drops the buffer. -/
theorem discardInbuf_mark (error : KpsReason) (x : StreamCtx) :
    { x.discardInbuf with s := { x.discardInbuf.s with
        readCancelled := true, readError := some error } } =
      { x with s := { x.s with
        readCancelled := true, readError := some error } }.discardInbuf := by
  unfold discardInbuf
  dsimp only
  split
  · rfl
  · rw [onConsumed_eq, onConsumed_eq]
    rfl

theorem destroy_spec (reason : Option KpsReason) (inv : x.Inv) :
    CtxSpec [] (x.destroy reason).s.progress 0 x (x.destroy reason) := by
  unfold destroy
  dsimp only
  rw [discardInbuf_mark]
  generalize reason.getD _ = error
  have emptied : CtxSpec [] x.s.progress (byteCount x.s.inbuf) x { x with s := { x.s with
      readCancelled := true
      readError := some error
      inbuf := [] } } :=
    CtxSpec.reading inv (inv.stream.read.cancel x.s.sf.cancelled id)
      (List.append_nil _).symm rfl (fun _ => rfl) rfl ⟨_, rfl⟩ rfl rfl rfl
  have dropped := discardInbuf_spec (x := { x with s := { x.s with
    readCancelled := true
    readError := some error } }) emptied
  have failed := dropped.andThen (failSend_spec (streamError error) dropped.inv)
  refine CtxSpec.rest (failed.andThen
    (CtxSpec.local failed.inv (KpsStream.SameHalves.finish _ _ _))) ?_
  rw [(KpsStream.SameHalves.finish _ _ _).writable, writable_failSend, writable_discardInbuf]

theorem channelLost_spec (inv : x.Inv) : CtxSpec [] x.channelLost.s.progress 0 x x.channelLost := by
  have failed := failSend_spec
    (streamError { code := some .networkError, message := some "kps: stream closed" }) inv
  refine CtxSpec.rest (failed.andThen
    (CtxSpec.local failed.inv (KpsStream.SameHalves.finish _ _ _))) ?_
  exact (KpsStream.SameHalves.finish _ _ _).writable.trans (writable_failSend _ _)

end Lifecycle

/-! ### Reading -/

section Reading

variable {x : StreamCtx}

theorem deliverChunk_spec {chunk : Bytes} {rest : List Bytes} (inv : x.Inv)
    (uncancelled : x.s.readCancelled = false) (buffered : x.s.inbuf = chunk :: rest) :
    CtxSpec [] (x.deliverChunk chunk rest).s.progress 0 x (x.deliverChunk chunk rest) := by
  have moved : CtxSpec [] x.s.progress chunk.length x { x with s := { x.s with
      inbuf := rest
      readable := { x.s.readable with
        enqueued := x.s.readable.enqueued ++ [chunk]
        pulling := none } } } :=
    CtxSpec.reading inv (inv.stream.read.deliver uncancelled buffered)
      (List.append_nil _).symm rfl (fun _ => rfl) rfl ⟨_, rfl⟩ rfl rfl rfl
  exact CtxSpec.rest (moved.andThen (onConsumed_spec moved.inv)) (writable_onConsumed _ _)

theorem endRead_spec (state : ReadableState) (inv : x.Inv)
    (eof : state = .closed → x.s.readCancelled = false ∧ x.s.inbuf = [] ∧ x.s.peerFin = true ∧
      x.s.peerReset = none) :
    CtxSpec [] (x.endRead state).s.progress 0 x (x.endRead state) := by
  refine CtxSpec.reading inv ?_ (List.append_nil _).symm rfl (fun _ => rfl) rfl ⟨_, rfl⟩ rfl rfl rfl
  by_cases readable : x.s.readable.state = .readable
  · have read := inv.stream.read.finished state eof
    simpa [KpsStream.readHalf, readable] using read
  · simpa [KpsStream.readHalf, readable] using inv.stream.read

theorem parkRead_spec (inv : x.Inv) : CtxSpec [] x.parkRead.s.progress 0 x x.parkRead :=
  CtxSpec.local inv ⟨fun _ => rfl, fun _ => rfl, rfl, rfl, rfl, rfl, rfl⟩

/-- The cases of one pass of `pull`. -/
theorem pullOutcome_cases (s : KpsStream) :
    (∃ error, s.pullOutcome = .error error) ∨
      (∃ chunk rest, s.pullOutcome = .chunk chunk rest ∧ s.readCancelled = false ∧
        s.inbuf = chunk :: rest) ∨
      (s.pullOutcome = .eof ∧ s.readCancelled = false ∧ s.inbuf = [] ∧ s.peerFin = true ∧
        s.peerReset = none) ∨
      (s.pullOutcome = .wait ∧ s.readCancelled = false ∧ s.inbuf = [] ∧ s.peerFin = false ∧
        s.peerReset = none ∧ s.channelClosed = false) := by
  unfold KpsStream.pullOutcome
  cases cancelled : s.readCancelled with
  | true => exact Or.inl ⟨_, rfl⟩
  | false =>
    cases inbuf : s.inbuf with
    | cons chunk rest => exact Or.inr (Or.inl ⟨chunk, rest, rfl, rfl, rfl⟩)
    | nil =>
      cases reset : s.peerReset with
      | some reason => exact Or.inl ⟨_, rfl⟩
      | none =>
        cases fin : s.peerFin with
        | true => exact Or.inr (Or.inr (Or.inl ⟨rfl, rfl, rfl, rfl, rfl⟩))
        | false =>
          cases closed : s.channelClosed with
          | true => exact Or.inl ⟨_, rfl⟩
          | false => exact Or.inr (Or.inr (Or.inr ⟨rfl, rfl, rfl, rfl, rfl, rfl⟩))

theorem pull_spec (inv : x.Inv) : CtxSpec [] x.pull.1.s.progress 0 x x.pull.1 := by
  unfold pull
  rcases pullOutcome_cases x.s with ⟨error, outcome⟩ | ⟨chunk, rest, outcome, uncancelled, buffered⟩
    |
    ⟨outcome, uncancelled, empty, fin, unreset⟩ | ⟨outcome, -⟩ <;> rw [outcome]
  · exact endRead_spec _ inv (fun closed => by cases closed)
  · exact deliverChunk_spec inv uncancelled buffered
  · exact endRead_spec _ inv (fun _ => ⟨uncancelled, empty, fin, unreset⟩)
  · exact parkRead_spec inv

theorem read_spec (inv : x.Inv) : CtxSpec [] x.read.1.s.progress 0 x x.read.1 := by
  unfold read
  split
  · exact pull_spec inv
  · exact ⟨inv, CtxStep.refl x⟩

theorem readResume_spec (inv : x.Inv) :
    CtxSpec [] x.readResume.1.s.progress 0 x x.readResume.1 := by
  unfold readResume
  split
  · exact ⟨inv, CtxStep.refl x⟩
  · split
    · exact pull_spec inv
    · exact ⟨inv, CtxStep.refl x⟩

end Reading

/-! ### Writing -/

section Writing

variable {x : StreamCtx} {chunk : Bytes} {off amount : Nat}

theorem checkWritable_eq_none {s : KpsStream} (writable : s.checkWritable = none) :
    s.localTerminal = none ∧ s.ch.isOpen = true := by
  unfold KpsStream.checkWritable at writable
  split at writable
  · cases writable
  · split at writable
    · cases writable
    · next unended =>
      split at writable
      · cases writable
      · next usable => simp_all

theorem rejectWrite_spec (error : KpsError) (inv : CtxInv (some ⟨chunk, off, none⟩) 0 x) :
    CtxSpec [] (x.rejectWrite error).s.progress 0 x (x.rejectWrite error) :=
  CtxSpec.writing inv (inv.stream.write.fail error) (fun _ _ _ waiting => by cases waiting)
    (fun _ => rfl) rfl rfl rfl rfl rfl

theorem resolveWrite_spec (inv : CtxInv (some ⟨chunk, off, none⟩) 0 x)
    (all : chunk.length ≤ off) :
    CtxSpec [] (x.resolveWrite chunk).s.progress 0 x (x.resolveWrite chunk) :=
  CtxSpec.writing inv (inv.stream.write.resolve all) (fun _ _ _ waiting => by cases waiting)
    (fun _ => rfl) rfl rfl rfl rfl rfl

theorem suspendWrite_spec (pc : WritePc) (inv : CtxInv (some ⟨chunk, off, pc.grant⟩) 0 x)
    (parked : ∀ ticket, pc = .credit ticket → off < chunk.length ∧ ticket ≤ x.flow.credit.wakes ∧
      (x.flow.credit.resolved ticket = false → x.flow.failure = none ∧
        x.s.sf.sendFailure = none ∧ min (x.flow.streamRoom x.s.sf) x.flow.connRoom ≤ 0)) :
    CtxSpec [] (x.suspendWrite ⟨chunk, off, pc⟩).s.progress 0 x
      (x.suspendWrite ⟨chunk, off, pc⟩) := by
  refine CtxSpec.writing inv inv.stream.write ?_ (fun _ => rfl) rfl rfl rfl rfl rfl
  rintro _ _ ticket ⟨⟩
  exact parked ticket rfl

/-- Credit is reserved at both levels. -/
theorem reserve_spec (inv : CtxInv (some ⟨chunk, off, none⟩) 0 x) (positive : 1 ≤ amount)
    (inside : off + amount ≤ chunk.length) (small : amount ≤ maxFramePayload)
    (room : (amount : Int) ≤ min (x.flow.streamRoom x.s.sf) x.flow.connRoom) :
    CtxSpec [] (some ⟨chunk, off, some amount⟩) 0 x { x with
      flow := { x.flow with connReserved := x.flow.connReserved + amount }
      s := { x.s with sf := { x.s.sf with sendReserved := x.s.sf.sendReserved + amount } } } := by
  have streamRoom : (amount : Int) ≤
      max x.s.sf.peerMaxExplicit x.flow.peerMaxStreamDataInitial - x.s.sf.sendSent -
        x.s.sf.sendReserved := by
    rw [← ConnFlow.peerMaxStreamData_eq]
    exact le_trans room (min_le_left _ _)
  have connRoom : (amount : Int) ≤ x.flow.peerMaxData - x.flow.connSent - x.flow.connReserved :=
    le_trans room (min_le_right _ _)
  have write := inv.stream.write.grant positive inside small (by
    show x.s.sf.sendSent + x.s.sf.sendReserved + amount ≤
      max x.s.sf.peerMaxExplicit x.flow.peerMaxStreamDataInitial
    omega)
  have step : CtxStep [] x { x with
      flow := { x.flow with connReserved := x.flow.connReserved + amount }
      s := { x.s with sf := { x.s.sf with sendReserved := x.s.sf.sendReserved + amount } } } :=
    { CtxStep.refl x with
      same := rfl
      connReserved := by simp only; omega
      unwoken := fun _ => by
        simp only [ConnFlow.connRoom, ConnFlow.streamRoom, ConnFlow.peerMaxStreamData, and_true]
        omega }
  refine ⟨⟨⟨inv.stream.read, write, inv.stream.adverts, inv.stream.explicit, ?_⟩,
    ⟨inv.data.window, inv.data.batched, ?_, inv.data.adverts⟩, inv.share⟩, step⟩
  · exact inv.stream.parked.of_unwoken rfl step.wakes rfl step.unwoken
  · simp only
    omega

theorem reserveStep_spec (inv : CtxInv (some ⟨chunk, off, none⟩) 0 x) (more : off < chunk.length) :
    CtxSpec [] (x.reserveStep chunk off).s.progress 0 x (x.reserveStep chunk off) := by
  have frame : 1 ≤ min (chunk.length - off) maxFramePayload := by
    have : 1 ≤ maxFramePayload := by decide
    omega
  have available := x.flow.available_eq x.s.sf
  unfold reserveStep
  rcases x.flow.reserveData_cases x.s.sf (min (chunk.length - off) maxFramePayload : Nat) with
    ⟨error, failed⟩ | ⟨grant, positive, fits, small, granted⟩ |
      ⟨noFailure, noSendFailure, none, blocked⟩
  · rw [failed]
    exact rejectWrite_spec error inv
  · obtain ⟨n, rfl⟩ : ∃ n : Nat, grant = n := ⟨grant.toNat, by omega⟩
    have reserved := reserve_spec inv (show 1 ≤ n by omega) (by omega) (by omega) (by omega)
    rw [granted]
    exact reserved.andThen (suspendWrite_spec (.granted n) reserved.inv
      (fun ticket waiting => by cases waiting))
  · rw [blocked]
    refine suspendWrite_spec (.credit _) inv ?_
    rintro _ ⟨⟩
    exact ⟨more, le_refl _, fun _ => ⟨noFailure, noSendFailure, by omega⟩⟩

theorem writeLoop_spec (inv : CtxInv (some ⟨chunk, off, none⟩) 0 x) :
    CtxSpec [] (x.writeLoop chunk off).s.progress 0 x (x.writeLoop chunk off) := by
  unfold writeLoop
  split
  · next more =>
    split
    · exact rejectWrite_spec _ inv
    · exact reserveStep_spec inv more
  · next done => exact resolveWrite_spec inv (not_lt.mp done)

theorem drainLocal_spec (inv : CtxInv (some ⟨chunk, off, some amount⟩) 0 x) :
    CtxSpec [] (x.drainLocal chunk off amount).s.progress 0 x (x.drainLocal chunk off amount) := by
  unfold drainLocal
  split
  · exact suspendWrite_spec (.draining _ _) inv (fun ticket waiting => by cases waiting)
  · exact suspendWrite_spec (.drained _) inv (fun ticket waiting => by cases waiting)

/-- The reservation of a frame that is not sent is released. -/
theorem release_spec (inv : CtxInv (some ⟨chunk, off, some amount⟩) 0 x) :
    CtxSpec [] (some ⟨chunk, off, none⟩) 0 x (x.release amount) := by
  have within := inv.data.within
  refine ⟨⟨⟨inv.stream.read, inv.stream.write.release, inv.stream.adverts, inv.stream.explicit,
    inv.stream.parked.wake⟩, ⟨inv.data.window, inv.data.batched, ?_, inv.data.adverts⟩,
    inv.share⟩, ?_⟩
  · show x.flow.connSent + (x.flow.connReserved - amount) ≤ x.flow.peerMaxData
    omega
  · exact { CtxStep.refl x with
      same := rfl
      connReserved := by
        simp only [release, ConnFlow.releaseData, ConnFlow.wake, StreamFlow.release]
        omega
      wakes := Nat.le_succ _
      unwoken := fun unwoken => absurd unwoken (Nat.succ_ne_self _) }

/-- The frame of a grant is sent and its credit committed. -/
theorem send_spec {ch : Channel Frame} (inv : CtxInv (some ⟨chunk, off, some amount⟩) 0 x)
    (unended : x.s.localTerminal = none)
    (sent : x.s.ch.send (.data ((chunk.drop off).take amount)) = some ch) :
    CtxSpec [] (some ⟨chunk, off + amount, none⟩) 0 x
      ({ x with s := { x.s with ch } }.commit amount) := by
  have write := inv.stream.write.send unended
  have within := inv.data.within
  rw [Channel.eq_of_send sent]
  refine ⟨⟨⟨inv.stream.read, write, ?_, inv.stream.explicit, ?_⟩,
    ⟨inv.data.window, inv.data.batched, ?_, inv.data.adverts⟩, inv.share⟩, ?_⟩
  · intro value member
    exact inv.stream.adverts value (by simpa [commit] using member)
  · refine inv.stream.parked.of_unwoken rfl (le_refl _) rfl fun _ => ?_
    simp only [commit, ConnFlow.commitData, StreamFlow.commit, ConnFlow.connRoom,
      ConnFlow.streamRoom, ConnFlow.peerMaxStreamData, and_true]
    omega
  · show x.flow.connSent + amount + (x.flow.connReserved - amount) ≤ x.flow.peerMaxData
    omega
  · exact { CtxStep.refl x with
      same := rfl
      connSent := by
        simp only [commit, ConnFlow.commitData, StreamFlow.commit]
        omega
      connReserved := by
        simp only [commit, ConnFlow.commitData, StreamFlow.commit]
        omega
      sent := List.prefix_append _ _
      announced := fun _ announced ended => by
        simp [unended, commit] at ended
      advertised := fun _ _ here => by
        simpa [commit, streamLimit, StreamFlow.commit, ConnFlow.commitData, Frame.credit] using here
      unwoken := fun _ => by
        simp only [commit, ConnFlow.commitData, StreamFlow.commit, ConnFlow.connRoom,
          ConnFlow.streamRoom, ConnFlow.peerMaxStreamData, and_true]
        omega }

theorem sendChunk_spec (inv : CtxInv (some ⟨chunk, off, some amount⟩) 0 x) :
    CtxSpec [] (x.sendChunk chunk off amount).s.progress 0 x (x.sendChunk chunk off amount) := by
  unfold sendChunk
  have released := release_spec inv
  split
  · exact released.andThen (rejectWrite_spec _ released.inv)
  · next writable =>
    split
    · exact released.andThen (rejectWrite_spec _ released.inv)
    · next ch sent =>
      have committed := send_spec inv (checkWritable_eq_none writable).1 sent
      exact committed.andThen (writeLoop_spec committed.inv)

theorem writeChunk_spec (chunk : Bytes) (inv : x.Inv) :
    CtxSpec [] (x.writeChunk chunk).s.progress 0 x (x.writeChunk chunk) := by
  unfold writeChunk
  split
  · exact ⟨inv, CtxStep.refl x⟩
  · next free =>
    obtain ⟨idle, working⟩ : x.s.writable.call = none ∧ x.s.writable.errored = none := by
      simpa using free
    have quiet : x.s.progress = none := by rw [KpsStream.progress, idle]; rfl
    have write : WriteInv none (x.s.writeHalf x.flow.peerMaxStreamDataInitial) :=
      quiet ▸ inv.stream.write
    have started : CtxSpec [] (some ⟨chunk, 0, none⟩) 0 x { x with s := { x.s with
        writable := { x.s.writable with written := x.s.writable.written ++ [chunk] } } } :=
      CtxSpec.writing inv (write.start working chunk)
        (fun _ _ _ waiting => by rw [idle] at waiting; cases waiting)
        (fun _ => rfl) rfl rfl rfl rfl rfl
    exact started.andThen (writeLoop_spec started.inv)

theorem writeResume_spec (inv : x.Inv) :
    CtxSpec [] x.writeResume.s.progress 0 x x.writeResume := by
  have running {call : WriteCall} (calling : x.s.writable.call = some call) :
      CtxInv (some call.progress) 0 x := by
    have same : x.s.progress = some call.progress := by rw [KpsStream.progress, calling]; rfl
    exact same ▸ inv
  unfold writeResume
  split
  · exact ⟨inv, CtxStep.refl x⟩
  · next chunk off ticket calling =>
    split
    · exact reserveStep_spec (running calling) (inv.stream.parked _ _ _ calling).1
    · exact ⟨inv, CtxStep.refl x⟩
  · next calling => exact drainLocal_spec (running calling)
  · next calling =>
    split
    · exact drainLocal_spec (running calling)
    · exact ⟨inv, CtxStep.refl x⟩
  · next calling => exact sendChunk_spec (running calling)

end Writing

end StreamCtx

end Kps.Ts
