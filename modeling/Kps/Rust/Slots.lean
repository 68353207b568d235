/-
**The stream slots of a Rust connection** (`WebrtcConn` of `conn.rs`, as its streams see it).

The streams of a connection share its credit. A peer-initiated stream takes a slot when its channel
is announced, and returns it when it retires.

* `exec_slots` — no section of a stream moves the slot counters, but for `hooks.retired`;
* `SlotsInv.step` — so the advertised limit counts the streams that retired;
* `retirement_ladder` — and those are, at rest, the complete ones.
-/

import Kps.Rust.Retirement

namespace Kps.Rust

open Kps.Lib

namespace ConnFlow

/-- The slot counters of a connection, and the limits it was made with. -/
def slots (f : ConnFlow) : FlowWindows × UInt64 × UInt64 × UInt64 :=
  (f.limits, f.peerOpenedStreams, f.peerRetiredStreams, f.advertisedMaxStreams)

/-- The counters of the slots that `open_stream` takes. -/
def opening (f : ConnFlow) : UInt64 × UInt64 := (f.streamsOpened, f.streamsReserved)

/-- A move of byte credit, or of a limit the peer sets, leaves the slots of both sides. -/
structure Bills (f f' : ConnFlow) : Prop where
  slots : f'.slots = f.slots
  opening : f'.opening = f.opening

variable {f : ConnFlow}

theorem Bills.trans {f' f'' : ConnFlow} (first : Bills f f') (second : Bills f' f'') :
    Bills f f'' :=
  ⟨second.slots.trans first.slots, second.opening.trans first.opening⟩

theorem bills_fail (error : Option StreamError) : Bills f (f.fail error) := by
  unfold fail
  split <;> exact ⟨rfl, rfl⟩

theorem bills_onPeerMaxData (v : UInt64) : Bills f (f.onPeerMaxData v) := by
  unfold onPeerMaxData
  split <;> exact ⟨rfl, rfl⟩

theorem bills_onPeerMaxStreams (v : UInt64) : Bills f (f.onPeerMaxStreams v) := by
  unfold onPeerMaxStreams
  split <;> exact ⟨rfl, rfl⟩

theorem bills_dropStream (id : UInt64) : Bills f (f.dropStream id).value := by
  unfold dropStream
  split <;> exact ⟨rfl, rfl⟩

theorem bills_commit (id n : UInt64) : Bills f (f.commit id n).value := by
  unfold commit
  split <;> exact ⟨rfl, rfl⟩

theorem bills_release (id n : UInt64) : Bills f (f.release id n).value := by
  unfold release
  split <;> exact ⟨rfl, rfl⟩

theorem bills_failSend (id : UInt64) : Bills f (f.failSend id) := by
  unfold failSend
  split
  · split <;> exact ⟨rfl, rfl⟩
  · exact ⟨rfl, rfl⟩

theorem bills_onPeerMaxStreamData (id v : UInt64) : Bills f (f.onPeerMaxStreamData id v) := by
  unfold onPeerMaxStreamData
  split
  · split <;> exact ⟨rfl, rfl⟩
  · exact ⟨rfl, rfl⟩

theorem bills_markCancelled (id : UInt64) : Bills f (f.markCancelled id) := by
  unfold markCancelled
  split <;> exact ⟨rfl, rfl⟩

theorem bills_pollReserve {id want : UInt64} {flow : ConnFlow}
    (reserved : (f.pollReserve id want).value = .pending flow ∨
      ∃ amount, (f.pollReserve id want).value = .granted amount flow) : Bills f flow := by
  unfold pollReserve at reserved
  split at reserved
  · rcases reserved with pending | ⟨amount, granted⟩
    · cases pending
    · cases granted
  · dsimp only [bind, pure] at reserved
    split at reserved
    · rcases reserved with pending | ⟨amount, granted⟩
      · cases pending
      · cases granted
    · split at reserved
      · rcases reserved with pending | ⟨amount, granted⟩
        · cases pending
        · cases granted
      · split at reserved <;> rcases reserved with pending | ⟨amount, granted⟩
        · cases pending
        · cases granted
          exact ⟨rfl, rfl⟩
        · cases pending
          exact ⟨rfl, rfl⟩
        · cases granted

theorem bills_onDataReceived {id n : UInt64} {flow : ConnFlow}
    (received : (f.onDataReceived id n).value = .ok flow) : Bills f flow := by
  unfold onDataReceived at received
  split at received
  · cases received
    exact ⟨rfl, rfl⟩
  · dsimp only [bind, pure] at received
    split at received
    · cases received
    · split at received <;> cases received
      exact ⟨rfl, rfl⟩

theorem bills_onConsumed (id n : UInt64) : Bills f (f.onConsumed id n).value.1 := by
  have conn (g : ConnFlow) : Bills g (g.connConsume n).value := by
    unfold connConsume
    dsimp only [bind, pure]
    split <;> exact ⟨rfl, rfl⟩
  have stream : Bills f (f.streamConsumed id n).value.1 := by
    unfold streamConsumed
    split
    · exact ⟨rfl, rfl⟩
    · dsimp only [bind, pure]
      split
      · exact ⟨rfl, rfl⟩
      · dsimp only
        split <;> exact ⟨rfl, rfl⟩
  exact stream.trans (conn _)

theorem slots_commitStreamSlot : f.commitStreamSlot.value.slots = f.slots := rfl

theorem slots_releaseStreamSlot : f.releaseStreamSlot.value.slots = f.slots := rfl

theorem slots_reserveStreamSlot {flow : ConnFlow}
    (reserved : f.reserveStreamSlot.value = .reserved flow) : flow.slots = f.slots := by
  unfold reserveStreamSlot at reserved
  split at reserved
  · cases reserved
  · dsimp only [bind, pure] at reserved
    split at reserved <;> cases reserved
    rfl

end ConnFlow

namespace WebrtcStream

/-! ### A section and the slots -/

/-- The stream is of the same side, its slot counters are where they were, and it did not retire. -/
structure Holds (s s' : WebrtcStream) : Prop where
  peer : s'.peerInitiated = s.peerInitiated
  flow : ConnFlow.Bills s.flow s'.flow
  retired : s'.retired = s.retired

variable {s : WebrtcStream} {op : StreamSection} {e : Effect WebrtcStream StreamSection}

theorem Holds.of {s' : WebrtcStream} {next : List StreamSection} (ran : andThen next s' = some e)
    (holds : Holds s s') : Holds s e.shared := by
  cases ran
  exact holds

theorem Holds.still {s' : WebrtcStream} {next : List StreamSection} (ran : andThen next s' = some e)
    (peer : s'.peerInitiated = s.peerInitiated) (flow : s'.flow = s.flow)
    (retired : s'.retired = s.retired) : Holds s e.shared :=
  .of ran ⟨peer, flow ▸ ⟨rfl, rfl⟩, retired⟩

theorem holds_pollPermit : Holds s s.pollPermit := by
  unfold pollPermit
  split
  · split
    · exact ⟨rfl, ⟨rfl, rfl⟩, rfl⟩
    split <;> exact ⟨rfl, ⟨rfl, rfl⟩, rfl⟩
  · split
    · exact ⟨rfl, ⟨rfl, rfl⟩, rfl⟩
    split <;> exact ⟨rfl, ⟨rfl, rfl⟩, rfl⟩
  · exact ⟨rfl, ⟨rfl, rfl⟩, rfl⟩
  · exact ⟨rfl, ⟨rfl, rfl⟩, rfl⟩

theorem Holds.trans {s' s'' : WebrtcStream} (first : Holds s s') (second : Holds s' s'') :
    Holds s s'' :=
  ⟨second.peer.trans first.peer, first.flow.trans second.flow, second.retired.trans first.retired⟩

theorem onFrame_holds {data : Bytes} (ran : s.onFrame data = some e) : Holds s e.shared := by
  unfold onFrame at ran
  split at ran
  · exact .still ran rfl rfl rfl
  · split at ran <;> exact .still ran rfl rfl rfl
  · split at ran <;> exact .still ran rfl rfl rfl
  · split at ran <;> exact .still ran rfl rfl rfl
  · split at ran
    · exact .still ran rfl rfl rfl
    · dsimp only at ran
      split at ran <;> exact .still ran rfl rfl rfl
  · exact .of ran ⟨rfl, ConnFlow.bills_onPeerMaxStreamData _ _, rfl⟩

theorem pollRead_holds {size : Nat} (ran : s.pollRead size = some e) : Holds s e.shared := by
  unfold pollRead at ran
  split at ran
  · exact .still ran rfl rfl rfl
  split at ran
  · exact .still ran rfl rfl rfl
  split at ran
  · exact .still ran rfl rfl rfl
  split at ran
  · exact .still ran rfl rfl rfl
  split at ran <;> exact .still ran rfl rfl rfl

theorem pollWrite_holds {buf : Bytes} (ran : s.pollWrite buf = some e) : Holds s e.shared := by
  unfold pollWrite at ran
  split at ran
  · exact .still ran rfl rfl rfl
  split at ran
  · exact .still ran rfl rfl rfl
  split at ran
  · exact .still ran rfl rfl rfl
  split at ran <;> exact .still ran rfl rfl rfl

theorem reserveCredit_holds {buf : Bytes} (ran : s.reserveCredit buf = some e) :
    Holds s e.shared := by
  unfold reserveCredit at ran
  split at ran
  · next flow pending => exact .of ran ⟨rfl, ConnFlow.bills_pollReserve (Or.inl pending), rfl⟩
  · exact .still ran rfl rfl rfl
  · next amount flow granted =>
    exact .of ran ⟨rfl, ConnFlow.bills_pollReserve (Or.inr ⟨amount, granted⟩), rfl⟩

theorem queueData_holds {buf : Bytes} (ran : s.queueData buf = some e) : Holds s e.shared := by
  refine holds_pollPermit.trans ?_
  unfold queueData at ran
  dsimp only at ran
  split at ran
  · exact .still ran rfl rfl rfl
  · split at ran <;> exact .still ran rfl rfl rfl
  · exact .still ran rfl rfl rfl

theorem reserveFin_holds (ran : s.reserveFin = some e) : Holds s e.shared := by
  refine holds_pollPermit.trans ?_
  unfold reserveFin at ran
  dsimp only at ran
  split at ran <;> exact .still ran rfl rfl rfl

theorem selectData_holds (ran : s.selectData = some e) : Holds s e.shared := by
  unfold selectData at ran
  split at ran
  · refine .of ran ?_
    unfold freePermit
    split <;> exact ⟨rfl, ⟨rfl, rfl⟩, rfl⟩
  split at ran
  · exact .still ran rfl rfl rfl
  split at ran
  · exact .still ran rfl rfl rfl
  · cases ran

theorem maybeRetire_holds (ran : s.maybeRetire = some e) : Holds s e.shared := by
  unfold maybeRetire at ran
  split at ran
  · split at ran
    · split at ran <;> exact .still ran rfl rfl rfl
    · cases ran
      exact ⟨rfl, ⟨rfl, rfl⟩, rfl⟩
  · exact .still ran rfl rfl rfl

/-- **Only `hooks.retired` moves the slot counters.** -/
theorem exec_slots (ran : s.exec op = some e) (other : op ≠ .retired) : Holds s e.shared := by
  cases op with
  | retired => exact absurd rfl other
  | onFrame data => exact onFrame_holds ran
  | onDataReceived payload =>
    simp only [exec] at ran
    split at ran
    · exact .still ran rfl rfl rfl
    · next flow received => exact .of ran ⟨rfl, ConnFlow.bills_onDataReceived received, rfl⟩
  | consumed n => exact .of ran ⟨rfl, ConnFlow.bills_onConsumed _ _, rfl⟩
  | failSend => exact .of ran ⟨rfl, ConnFlow.bills_failSend _, rfl⟩
  | maybeRetire => exact maybeRetire_holds ran
  | dropStream => exact .of ran ⟨rfl, ConnFlow.bills_dropStream _, rfl⟩
  | selectData => exact selectData_holds ran
  | release n => exact .of ran ⟨rfl, ConnFlow.bills_release _ _, rfl⟩
  | commit n => exact .of ran ⟨rfl, ConnFlow.bills_commit _ _, rfl⟩
  | pollRead size => exact pollRead_holds ran
  | pollWrite buf => exact pollWrite_holds ran
  | reserveCredit buf => exact reserveCredit_holds ran
  | queueData buf => exact queueData_holds ran
  | reserveFin => exact reserveFin_holds ran
  | refuseData => exact .of ran ⟨rfl, ConnFlow.bills_release _ _, rfl⟩
  | markCancelled => exact .of ran ⟨rfl, ConnFlow.bills_markCancelled _, rfl⟩
  | dropGrant =>
    simp only [exec] at ran
    split at ran
    · exact .of ran ⟨rfl, ConnFlow.bills_release _ _, rfl⟩
    · exact .still ran rfl rfl rfl
  | writerSend frame reserved =>
    simp only [exec, writerSend] at ran
    split at ran <;> exact .still ran rfl rfl rfl
  | writerOpen =>
    simp only [exec] at ran
    split at ran
    · exact .still ran rfl rfl rfl
    split at ran
    · exact .still ran rfl rfl rfl
    · cases ran
  | sendFin =>
    simp only [exec] at ran
    split at ran
    · exact .still ran rfl rfl rfl
    split at ran
    · exact .still ran rfl rfl rfl
    · cases ran
  | onOpen => exact .still ran rfl rfl rfl
  | onChannelClose => exact .still ran rfl rfl rfl
  | markClosed => exact .still ran rfl rfl rfl
  | fatal code text => exact .still ran rfl rfl rfl
  | dcClose => exact .still ran rfl rfl rfl
  | writerEnd => exact .still ran rfl rfl rfl
  | markTerminalSent => exact .still ran rfl rfl rfl
  | undoFin => exact .still ran rfl rfl rfl
  | dropSenders => exact .still ran rfl rfl rfl
  | _ =>
    simp only [exec] at ran
    split at ran <;> exact .still ran rfl rfl rfl

end WebrtcStream

/-! ### The streams of a connection -/

/-- The credit of a connection and the tasks of its streams. `creating` lists the streams that are
counted but not made yet, by whether the peer opened them, and `reserved` counts the slots
`open_stream` holds. `fatals` logs the fatal errors of `handle_incoming`. -/
structure ConnStreams where
  flow : ConnFlow
  streams : List WebrtcStream.Tasks := []
  creating : List Bool := []
  reserved : Nat := 0
  fatals : List (ErrorCode × String) := []

/-- What moves the streams or the credit of a connection. -/
inductive ConnLabel
  /-- `handle_incoming` counts the channel the peer announced. -/
  | incoming
  /-- `open_stream` takes a slot. -/
  | reserveSlot
  /-- `create_data_channel` failed. -/
  | releaseSlot
  /-- `create_data_channel` succeeded. -/
  | commitSlot
  /-- `WebrtcStream::new`, for the channel at this place of `creating`. -/
  | newStream (place : Nat) (isOpen : Bool)
  /-- A step of a stream. -/
  | stream (place : Nat) (label : WebrtcStream.Label)
  | hello (limits : FlowWindows)
  | maxData (v : UInt64)
  | maxStreams (v : UInt64)
  | fail (error : Option StreamError)

namespace ConnStreams

def new (limits : FlowWindows) : ConnStreams where
  flow := .new limits

/-- A stream takes a step on the credit of the connection. -/
def streamStep (t : WebrtcStream.Tasks) (flow : ConnFlow) :
    WebrtcStream.Label → Option WebrtcStream.Tasks
  | .credit _ => none
  | label => WebrtcStream.step (WebrtcStream.touch t { t.shared with flow }) label

def step (c : ConnStreams) : ConnLabel → Option ConnStreams
  | .incoming =>
    match c.flow.peerStreamOpened.value with
    | .error text => some { c with fatals := c.fatals ++ [(.protocolError, text)] }
    | .ok flow => some { c with flow, creating := c.creating ++ [true] }
  | .reserveSlot =>
    match c.flow.reserveStreamSlot.value with
    | .reserved flow => some { c with flow, reserved := c.reserved + 1 }
    | .failed _ => some c
    | .waiting => none
  | .releaseSlot =>
    if c.reserved > 0 then
      some { c with flow := c.flow.releaseStreamSlot.value, reserved := c.reserved - 1 }
    else none
  | .commitSlot =>
    if c.reserved > 0 then
      some { c with
        flow := c.flow.commitStreamSlot.value
        reserved := c.reserved - 1
        creating := c.creating ++ [false] }
    else none
  | .newStream place isOpen =>
    match c.creating[place]? with
    | some peerInitiated =>
      let t := WebrtcStream.start c.flow peerInitiated isOpen
      some { c with
        flow := t.shared.flow
        streams := c.streams ++ [t]
        creating := c.creating.eraseIdx place }
    | none => none
  | .stream place label =>
    match c.streams[place]? with
    | some t =>
      (streamStep t c.flow label).map fun t' =>
        { c with flow := t'.shared.flow, streams := c.streams.set place t' }
    | none => none
  | .hello limits => some { c with flow := c.flow.onPeerHello limits }
  | .maxData v => some { c with flow := c.flow.onPeerMaxData v }
  | .maxStreams v => some { c with flow := c.flow.onPeerMaxStreams v }
  | .fail error => some { c with flow := c.flow.fail error }

/-- The peer-initiated streams that retired. -/
def returned (t : WebrtcStream.Tasks) : Bool :=
  t.shared.peerInitiated && decide (0 < t.shared.retired)

/-- The peer-initiated streams that are complete. -/
def finished (t : WebrtcStream.Tasks) : Bool := t.shared.peerInitiated && decide t.shared.Complete

/-- The invariant of the slots. -/
structure SlotsInv (limits : FlowWindows) (c : ConnStreams) : Prop where
  limited : c.flow.limits = limits
  ladders : ∀ t ∈ c.streams, WebrtcStream.LadderInv t
  opened : c.flow.peerOpenedStreams.toNat =
    c.streams.countP (fun t => t.shared.peerInitiated) + c.creating.countP (fun peer => peer)
  bounded : c.flow.peerOpenedStreams.toNat ≤ maxOffset
  retired : c.flow.peerRetiredStreams.toNat = c.streams.countP returned
  advertised : c.flow.advertisedMaxStreams.toNat =
    min (limits.maxStreams.toNat + c.streams.countP returned) maxOffset

theorem sat_toNat (v : UInt64) : (sat v).toNat = min v.toNat maxOffset := by
  have exact := Word.int_min v (UInt64.ofNat maxOffset)
  have top : Word.int (UInt64.ofNat maxOffset) = maxOffset := Word.int_ofNat (by decide)
  rw [top] at exact
  unfold Word.int at exact
  unfold sat
  omega

/-! ### A step of a stream -/

/-- A step of a stream leaves the slots, or fires `hooks.retired`. -/
inductive Turns (flow : ConnFlow) (t t' : WebrtcStream.Tasks) : Prop
  | holds (peer : t'.shared.peerInitiated = t.shared.peerInitiated)
      (bills : ConnFlow.Bills flow t'.shared.flow) (retired : t'.shared.retired = t.shared.retired)
  | fires (peer : t'.shared.peerInitiated = t.shared.peerInitiated)
      (slots : t'.shared.flow =
        if t.shared.peerInitiated then flow.peerStreamRetired.value else flow)
      (retired : t'.shared.retired = t.shared.retired + 1)

variable {flow : ConnFlow} {t t' : WebrtcStream.Tasks} {label : WebrtcStream.Label}

theorem turns_of_shared (same : t'.shared = { t.shared with flow }) : Turns flow t t' := by
  refine .holds ?_ ?_ ?_
  · rw [same]
  · rw [same]
    exact ⟨rfl, rfl⟩
  · rw [same]

theorem turns_of_resume {stack : List StreamSection} {thread : Nat}
    (resumed : (WebrtcStream.touch t { t.shared with flow }).resume thread stack = some t') :
    Turns flow t t' :=
  turns_of_shared (Threads.pending_resume resumed).2

theorem streamStep_turns (stepped : streamStep t flow label = some t') : Turns flow t t' := by
  cases label with
  | run thread =>
    obtain ⟨op, rest, e, top, ran, rfl⟩ := Threads.advance_eq_some.mp stepped
    by_cases fires : op = .retired
    · subst fires
      cases ran
      exact .fires rfl rfl rfl
    · have holds := WebrtcStream.exec_slots ran fires
      exact .holds holds.peer holds.flow holds.retired
  | call method =>
    simp only [streamStep, WebrtcStream.step] at stepped
    split at stepped
    · cases stepped
    · exact turns_of_resume stepped
  | dropFuture =>
    simp only [streamStep, WebrtcStream.step] at stepped
    split at stepped <;> cases stepped
    exact turns_of_shared rfl
  | channelOpen =>
    simp only [streamStep, WebrtcStream.step] at stepped
    split at stepped <;> cases stepped
    exact .holds rfl ⟨rfl, rfl⟩ rfl
  | message data =>
    simp only [streamStep, WebrtcStream.step] at stepped
    split at stepped
    · exact turns_of_resume stepped
    · cases stepped
  | channelClosed =>
    simp only [streamStep, WebrtcStream.step] at stepped
    split at stepped
    · cases stepped
    · have shared := (Threads.pending_resume stepped).2
      exact .holds (by rw [shared]; rfl) (by rw [shared]; exact ⟨rfl, rfl⟩) (by rw [shared]; rfl)
  | buffered amount =>
    cases stepped
    exact .holds rfl ⟨rfl, rfl⟩ rfl
  | credit other => cases stepped
  | teardown =>
    cases stepped
    exact .holds rfl ⟨rfl, rfl⟩ rfl

theorem streamStep_ladder (inv : WebrtcStream.LadderInv t)
    (stepped : streamStep t flow label = some t') : WebrtcStream.LadderInv t' := by
  have touched : WebrtcStream.LadderInv (WebrtcStream.touch t { t.shared with flow }) :=
    inv.touch rfl Iff.rfl rfl rfl rfl rfl rfl rfl
  cases label with
  | credit other => cases stepped
  | _ =>
    simp only [streamStep] at stepped
    exact touched.step stepped

/-! ### The slots in every run -/

section Count

variable {streams : List WebrtcStream.Tasks} {place : Nat}

theorem countP_set_same {p : WebrtcStream.Tasks → Bool} (found : streams[place]? = some t)
    (same : p t' = p t) : (streams.set place t').countP p = streams.countP p := by
  obtain ⟨here, at'⟩ := List.getElem?_eq_some_iff.mp found
  rw [List.countP_set here, at', same]
  cases has : p t with
  | false => simp
  | true =>
    have present : 0 < streams.countP p :=
      List.countP_pos_iff.mpr ⟨t, List.mem_of_getElem? found, has⟩
    simp only [if_true]
    omega

theorem countP_set_fresh {p : WebrtcStream.Tasks → Bool} (found : streams[place]? = some t)
    (before : p t = false) (after : p t' = true) :
    (streams.set place t').countP p = streams.countP p + 1 := by
  obtain ⟨here, at'⟩ := List.getElem?_eq_some_iff.mp found
  rw [List.countP_set here, at', before, after]
  simp

end Count

variable {limits : FlowWindows} {c c' : ConnStreams}

theorem SlotsInv.returned_le (inv : SlotsInv limits c) : c.streams.countP returned ≤ maxOffset := by
  have fewer : c.streams.countP returned ≤ c.streams.countP fun t => t.shared.peerInitiated :=
    List.countP_mono_left fun t _ returned => (Bool.and_eq_true_iff.mp returned).1
  have opened := inv.opened
  have bounded := inv.bounded
  omega

/-- What keeps the slot counters and the streams keeps the invariant. -/
theorem SlotsInv.ofSlots (inv : SlotsInv limits c) (slots : c'.flow.slots = c.flow.slots)
    (streams : c'.streams = c.streams)
    (creating : c'.creating.countP (fun peer => peer) = c.creating.countP (fun peer => peer)) :
    SlotsInv limits c' := by
  simp only [ConnFlow.slots, Prod.mk.injEq] at slots
  obtain ⟨limited, opened, retired, advertised⟩ := slots
  refine ⟨?_, ?_, ?_, ?_, ?_, ?_⟩
  · rw [limited]
    exact inv.limited
  · rw [streams]
    exact inv.ladders
  · rw [opened, streams, creating]
    exact inv.opened
  · rw [opened]
    exact inv.bounded
  · rw [retired, streams]
    exact inv.retired
  · rw [advertised, streams]
    exact inv.advertised

/-- A peer-initiated stream is counted when its channel is announced. -/
theorem SlotsInv.incoming (inv : SlotsInv limits c) {flow : ConnFlow}
    (counted : c.flow.peerStreamOpened.value = .ok flow) :
    SlotsInv limits { c with flow, creating := c.creating ++ [true] } := by
  unfold ConnFlow.peerStreamOpened at counted
  split at counted
  · cases counted
  · next room =>
    cases counted
    have room : c.flow.peerOpenedStreams < c.flow.advertisedMaxStreams := UInt64.not_le.mp room
    rw [UInt64.lt_iff_toNat_lt, inv.advertised] at room
    have top : maxOffset < 2 ^ 64 - 1 := by decide
    have next : (c.flow.peerOpenedStreams + 1).toNat = c.flow.peerOpenedStreams.toNat + 1 := by
      rw [UInt64.toNat_add]
      exact Nat.mod_eq_of_lt (by have : (1 : UInt64).toNat = 1 := rfl; omega)
    refine ⟨inv.limited, inv.ladders, ?_, ?_, inv.retired, inv.advertised⟩
    · show (c.flow.peerOpenedStreams + 1).toNat = _
      rw [next, inv.opened, List.countP_append]
      rfl
    · show (c.flow.peerOpenedStreams + 1).toNat ≤ _
      rw [next]
      omega

/-- A counted stream is made. -/
theorem SlotsInv.newStream (inv : SlotsInv limits c) {place : Nat} {peerInitiated isOpen : Bool}
    (found : c.creating[place]? = some peerInitiated) :
    SlotsInv limits { c with
      flow := (WebrtcStream.start c.flow peerInitiated isOpen).shared.flow
      streams := c.streams ++ [WebrtcStream.start c.flow peerInitiated isOpen]
      creating := c.creating.eraseIdx place } := by
  have fresh : [WebrtcStream.start c.flow peerInitiated isOpen].countP returned = 0 := by
    cases peerInitiated <;> rfl
  refine ⟨inv.limited, fun t member => ?_, ?_, inv.bounded, ?_, ?_⟩
  · rcases List.mem_append.mp member with old | new
    · exact inv.ladders t old
    · rw [List.mem_singleton.mp new]
      exact WebrtcStream.ladderInv_start ..
  · have made : [WebrtcStream.start c.flow peerInitiated isOpen].countP
        (fun t => t.shared.peerInitiated) = if peerInitiated then 1 else 0 := by
      cases peerInitiated <;> rfl
    obtain ⟨here, at'⟩ := List.getElem?_eq_some_iff.mp found
    have split := (List.getElem_cons_eraseIdx_perm here).countP_eq fun peer => peer
    rw [at', List.countP_cons] at split
    show c.flow.peerOpenedStreams.toNat = _
    rw [inv.opened, List.countP_append, made]
    dsimp only
    omega
  · rw [List.countP_append, fresh]
    exact inv.retired
  · rw [List.countP_append, fresh]
    exact inv.advertised

/-- A retirement returns a slot. -/
theorem SlotsInv.turn (inv : SlotsInv limits c) (fits : limits.maxStreams.toNat ≤ maxOffset)
    {place : Nat} (found : c.streams[place]? = some t) (ladder : WebrtcStream.LadderInv t')
    (turns : Turns c.flow t t') :
    SlotsInv limits { c with flow := t'.shared.flow, streams := c.streams.set place t' } := by
  have ladders : ∀ other ∈ c.streams.set place t', WebrtcStream.LadderInv other := by
    intro other member
    rcases List.mem_or_eq_of_mem_set member with old | rfl
    · exact inv.ladders other old
    · exact ladder
  have sides (peer : t'.shared.peerInitiated = t.shared.peerInitiated) :
      (c.streams.set place t').countP (fun t => t.shared.peerInitiated) =
        c.streams.countP fun t => t.shared.peerInitiated := countP_set_same found peer
  cases turns with
  | holds peer bills retired =>
    have slots := bills.slots
    simp only [ConnFlow.slots, Prod.mk.injEq] at slots
    obtain ⟨limited, opened, count, advertised⟩ := slots
    have same : (c.streams.set place t').countP returned = c.streams.countP returned := by
      refine countP_set_same found ?_
      unfold returned
      rw [peer, retired]
    refine ⟨limited.trans inv.limited, ladders, ?_, ?_, ?_, ?_⟩
    · show t'.shared.flow.peerOpenedStreams.toNat = _
      rw [opened, sides peer]
      exact inv.opened
    · show t'.shared.flow.peerOpenedStreams.toNat ≤ _
      rw [opened]
      exact inv.bounded
    · show t'.shared.flow.peerRetiredStreams.toNat = _
      rw [count, same]
      exact inv.retired
    · show t'.shared.flow.advertisedMaxStreams.toNat = _
      rw [advertised, same]
      exact inv.advertised
  | fires peer slots retired =>
    have once := ladder.retired_le
    have fresh : t.shared.retired = 0 := by omega
    cases side : t.shared.peerInitiated with
    | false =>
      rw [side, if_neg (by simp)] at slots
      have same : (c.streams.set place t').countP returned = c.streams.countP returned := by
        refine countP_set_same found ?_
        unfold returned
        rw [peer, side]
        rfl
      refine ⟨?_, ladders, ?_, ?_, ?_, ?_⟩
      · show t'.shared.flow.limits = _
        rw [slots]
        exact inv.limited
      · show t'.shared.flow.peerOpenedStreams.toNat = _
        rw [slots, sides peer]
        exact inv.opened
      · show t'.shared.flow.peerOpenedStreams.toNat ≤ _
        rw [slots]
        exact inv.bounded
      · show t'.shared.flow.peerRetiredStreams.toNat = _
        rw [slots, same]
        exact inv.retired
      · show t'.shared.flow.advertisedMaxStreams.toNat = _
        rw [slots, same]
        exact inv.advertised
    | true =>
      rw [side, if_pos rfl] at slots
      have more : (c.streams.set place t').countP returned = c.streams.countP returned + 1 := by
        refine countP_set_fresh found ?_ ?_
        · unfold returned
          rw [side, fresh]
          rfl
        · unfold returned
          rw [peer, side, retired, fresh]
          rfl
      have room := inv.returned_le
      have top : 2 * maxOffset < 2 ^ 64 - 1 := by decide
      have one : (1 : UInt64).toNat = 1 := rfl
      -- neither sum wraps: the retired streams were opened, and those are at most `MAX_OFFSET`
      have count : (c.flow.peerRetiredStreams + 1).toNat = c.streams.countP returned + 1 := by
        rw [UInt64.toNat_add, inv.retired]
        exact Nat.mod_eq_of_lt (by omega)
      have slotsLeft : (c.flow.limits.maxStreams + (c.flow.peerRetiredStreams + 1)).toNat =
          limits.maxStreams.toNat + (c.streams.countP returned + 1) := by
        rw [UInt64.toNat_add, count, inv.limited]
        exact Nat.mod_eq_of_lt (by omega)
      refine ⟨?_, ladders, ?_, ?_, ?_, ?_⟩
      · show t'.shared.flow.limits = _
        rw [slots]
        exact inv.limited
      · show t'.shared.flow.peerOpenedStreams.toNat = _
        rw [slots, sides peer]
        exact inv.opened
      · show t'.shared.flow.peerOpenedStreams.toNat ≤ _
        rw [slots]
        exact inv.bounded
      · show t'.shared.flow.peerRetiredStreams.toNat = _
        rw [slots, more]
        exact count
      · show t'.shared.flow.advertisedMaxStreams.toNat = _
        rw [slots, more]
        show (sat _).toNat = _
        rw [sat_toNat]
        exact congrArg (min · maxOffset) slotsLeft

/-- **One step keeps the slots.** -/
theorem SlotsInv.step {label : ConnLabel} (inv : SlotsInv limits c)
    (fits : limits.maxStreams.toNat ≤ maxOffset) (stepped : c.step label = some c') :
    SlotsInv limits c' := by
  cases label with
  | incoming =>
    simp only [ConnStreams.step] at stepped
    split at stepped
    · cases stepped
      exact inv.ofSlots rfl rfl rfl
    · next flow counted =>
      cases stepped
      exact inv.incoming counted
  | reserveSlot =>
    simp only [ConnStreams.step] at stepped
    split at stepped
    · next flow reserved =>
      cases stepped
      exact inv.ofSlots (ConnFlow.slots_reserveStreamSlot reserved) rfl rfl
    · cases stepped
      exact inv
    · cases stepped
  | releaseSlot =>
    simp only [ConnStreams.step] at stepped
    split at stepped <;> cases stepped
    exact inv.ofSlots ConnFlow.slots_releaseStreamSlot rfl rfl
  | commitSlot =>
    simp only [ConnStreams.step] at stepped
    split at stepped <;> cases stepped
    refine inv.ofSlots ConnFlow.slots_commitStreamSlot rfl ?_
    rw [List.countP_append]
    rfl
  | newStream place isOpen =>
    simp only [ConnStreams.step] at stepped
    split at stepped
    · next peerInitiated found =>
      cases stepped
      exact inv.newStream found
    · cases stepped
  | stream place label =>
    simp only [ConnStreams.step] at stepped
    split at stepped
    · next t found =>
      obtain ⟨t', moved, rfl⟩ := Option.map_eq_some_iff.mp stepped
      have ladder := streamStep_ladder (inv.ladders t (List.mem_of_getElem? found)) moved
      exact inv.turn fits found ladder (streamStep_turns moved)
    · cases stepped
  | hello limits =>
    cases stepped
    exact inv.ofSlots rfl rfl rfl
  | maxData v =>
    cases stepped
    exact inv.ofSlots (ConnFlow.bills_onPeerMaxData v).slots rfl rfl
  | maxStreams v =>
    cases stepped
    exact inv.ofSlots (ConnFlow.bills_onPeerMaxStreams v).slots rfl rfl
  | fail error =>
    cases stepped
    exact inv.ofSlots (ConnFlow.bills_fail error).slots rfl rfl

theorem slotsInv_new (fits : limits.maxStreams.toNat ≤ maxOffset) :
    SlotsInv limits (new limits) := by
  refine ⟨rfl, fun _ member => absurd member List.not_mem_nil, rfl, Nat.zero_le _, rfl, ?_⟩
  show limits.maxStreams.toNat = min (limits.maxStreams.toNat + 0) maxOffset
  omega

/-- At rest the streams that retired are the complete ones. -/
theorem SlotsInv.finished_of_settled (inv : SlotsInv limits c)
    (settled : ∀ t ∈ c.streams, WebrtcStream.Settled t) :
    c.streams.countP returned = c.streams.countP finished := by
  refine List.countP_congr fun t member => ?_
  have ladder := inv.ladders t member
  unfold returned finished
  rw [Bool.and_eq_true_iff, Bool.and_eq_true_iff, decide_eq_true_iff, decide_eq_true_iff]
  refine and_congr_right fun _ => ⟨ladder.complete_of_retired, fun complete => ?_⟩
  rw [ladder.retired_of_settled (settled t member) complete]
  exact Nat.one_pos

/-- **The retirement ladder**: in every run of a connection each stream fires `hooks.retired` at
most once, only when complete, and it has fired once the stream is complete and at rest; and the
advertised limit counts the peer-initiated streams that retired. -/
theorem retirement_ladder {labels : List ConnLabel} (fits : limits.maxStreams.toNat ≤ maxOffset)
    (ran : run ConnStreams.step (new limits) labels = some c) :
    (∀ t ∈ c.streams, t.shared.retired ≤ 1 ∧
      (0 < t.shared.retired ∨ .retired ∈ t.pending → t.shared.Complete) ∧
      (WebrtcStream.Settled t → t.shared.Complete → t.shared.retired = 1)) ∧
    c.flow.advertisedMaxStreams.toNat =
      min (limits.maxStreams.toNat + c.streams.countP returned) maxOffset ∧
    ((∀ t ∈ c.streams, WebrtcStream.Settled t) → c.flow.advertisedMaxStreams.toNat =
      min (limits.maxStreams.toNat + c.streams.countP finished) maxOffset) := by
  have inv : SlotsInv limits c :=
    run_invariant (fun _ _ _ inv stepped => SlotsInv.step inv fits stepped) (slotsInv_new fits) ran
  refine ⟨fun t member => ?_, inv.advertised, fun settled => ?_⟩
  · have ladder := inv.ladders t member
    refine ⟨ladder.retired_le, ?_, ladder.retired_of_settled⟩
    rintro (retired | firing)
    · exact ladder.complete_of_retired retired
    · exact ladder.complete_of_firing firing
  · rw [← inv.finished_of_settled settled]
    exact inv.advertised

/-- The peer opens a stream and ends it, the application shuts it down, and the writer task hands
over the FIN, closes the channel and sees it closed. -/
def peerStreamRetires : List ConnLabel :=
  [.incoming, .newStream 0 true, .stream 0 (.message [1])] ++
    List.replicate 2 (.stream 0 (.run 0)) ++ [.stream 0 (.call .pollShutdown)] ++
    List.replicate 4 (.stream 0 (.run 2)) ++ List.replicate 10 (.stream 0 (.run 1)) ++
    [.stream 0 (.run 3), .stream 0 .channelClosed] ++ List.replicate 7 (.stream 0 (.run 0))

theorem retirement_ladder_peerStreamRetires : ∃ c,
    run ConnStreams.step (new defaultFlowLimits) peerStreamRetires = some c ∧
      c.streams.countP finished = 1 ∧
      (∀ t ∈ c.streams, t.shared.retired ≤ 1 ∧
        (0 < t.shared.retired ∨ .retired ∈ t.pending → t.shared.Complete) ∧
        (WebrtcStream.Settled t → t.shared.Complete → t.shared.retired = 1)) ∧
      c.flow.advertisedMaxStreams.toNat =
        min (defaultFlowLimits.maxStreams.toNat + c.streams.countP returned) maxOffset ∧
      ((∀ t ∈ c.streams, WebrtcStream.Settled t) → c.flow.advertisedMaxStreams.toNat =
        min (defaultFlowLimits.maxStreams.toNat + c.streams.countP finished) maxOffset) := by
  have retires : (run ConnStreams.step (new defaultFlowLimits) peerStreamRetires).any
      (fun c => decide (c.streams.countP finished = 1)) = true := by decide +kernel
  obtain ⟨c, ran, one⟩ := (Option.any_eq_true _ _).mp retires
  exact ⟨c, ran, of_decide_eq_true one, retirement_ladder (by decide) ran⟩

end ConnStreams

end Kps.Rust
