/-
**`open_stream` of the Rust crate** (`WebrtcConn::open_stream` of `conn.rs`).

A call is a future: it waits for the HELLO, for a slot, for `create_data_channel` and for the
channel to open, and wherever it waits, the application can drop it. Calls run at the same time, on
the credit and the streams of one connection. The slot is given back by code after an `await`, and
dropping the last wait drops the handle of a stream.

* `CallsInv.step` — the slots reserved are those of the calls that create a channel, and of the
  calls that were dropped there;
* `Untouched.step` — a stream whose handle was dropped with its call is sent no STOP_SENDING;
* `open_stream_cancelSafe`, `open_stream_leaks` — so the calls are safe to drop until they have a
  slot, and not from there on.
-/

import Kps.Rust.Discard
import Kps.Rust.Slots

namespace Kps.Rust

open Kps.Lib

inductive OpenResult
  /-- The stream at this place of the connection. -/
  | opened (place : Nat)
  | failed (error : Error)
  /-- `Error::Transport`. -/
  | transport
  deriving DecidableEq, Repr

/-- Where a call of `open_stream` stands. -/
inductive OpenCall
  | checking
  | establishing
  | reserving
  /-- It has a slot, and waits for `create_data_channel`. -/
  | creating
  /-- The slot is committed, and `WebrtcStream::new` follows without a wait. -/
  | making
  /-- It has the handle of a stream, and waits for the channel to open. -/
  | opening (place : Nat)
  | returned (result : OpenResult)
  /-- Dropped before it had a slot. -/
  | cancelled
  /-- Dropped while it waited for `create_data_channel`. -/
  | leaked
  /-- Dropped while it waited for the channel to open. -/
  | abandoned (place : Nat)
  deriving DecidableEq, Repr

namespace OpenCall

/-- Between the reservation and its commit or release. -/
def live : OpenCall → Bool
  | creating => true
  | _ => false

/-- The slot it reserved was neither committed nor released. -/
def holdsSlot : OpenCall → Bool
  | creating => true
  | leaked => true
  | _ => false

/-- The stream whose handle it has, or was dropped with it. -/
def handle : OpenCall → Option Nat
  | opening place => some place
  | abandoned place => some place
  | _ => none

/-- The call waits for something. -/
def awaits : OpenCall → Bool
  | checking => true
  | establishing => true
  | reserving => true
  | creating => true
  | opening _ => true
  | _ => false

end OpenCall

/-- A connection and the calls of `open_stream` on it. `closed` and `closeErr` are `close_state`. -/
structure OpenStreams where
  conn : ConnStreams
  established : Bool := false
  closed : Bool := false
  closeErr : Option StreamError := none
  calls : List OpenCall := []

/-- What moves the calls, or the connection under them. -/
inductive OpenLabel
  | call
  /-- `is_closed`. -/
  | check (k : Nat)
  /-- `wait_established` sees the HELLO exchange complete. -/
  | establish (k : Nat)
  | reserve (k : Nat)
  /-- `create_data_channel` returns. -/
  | create (k : Nat) (ok : Bool)
  | make (k : Nat) (isOpen : Bool)
  /-- `wait_open` returns. -/
  | opened (k : Nat)
  /-- `close_state.wait()` returns, in a `select!`. -/
  | closed (k : Nat)
  /-- The application drops the future. -/
  | drop (k : Nat)
  /-- The HELLO exchange is complete. -/
  | established
  /-- The two sections of `CloseState::mark`. -/
  | mark
  | reason (error : Option StreamError)
  /-- Anything else on the connection. -/
  | conn (label : ConnLabel)

namespace OpenStreams

def new (limits : FlowWindows) : OpenStreams where
  conn := .new limits

def goTo (k : Nat) (call : OpenCall) (o : OpenStreams) : OpenStreams :=
  { o with calls := o.calls.set k call }

/-- What a waiter is told once the connection is closed. -/
def closeError (o : OpenStreams) : Error :=
  match o.closeErr with
  | some error => .stream error
  | none => .connClosed

/-- The handle of a stream is dropped. -/
def dropHandle (place : Nat) (o : OpenStreams) : Option OpenStreams :=
  (o.conn.step (.stream place (.call .drop))).map fun conn => { o with conn }

/-- The slots of `open_stream` are moved, and its streams made, by its calls only; and the
application has no handle that a call has. -/
def Others (o : OpenStreams) : ConnLabel → Prop
  | .reserveSlot => False
  | .releaseSlot => False
  | .commitSlot => False
  | .newStream place _ => o.conn.creating[place]? = some true
  | .stream place (.call _) => ∀ call ∈ o.calls, call.handle ≠ some place
  | _ => True

instance (o : OpenStreams) (label : ConnLabel) : Decidable (o.Others label) := by
  unfold Others
  split <;> infer_instance

def step (o : OpenStreams) : OpenLabel → Option OpenStreams
  | .call => some { o with calls := o.calls ++ [.checking] }
  | .check k =>
    match o.calls[k]? with
    | some .checking =>
      some (o.goTo k (if o.closed then .returned (.failed .connClosed) else .establishing))
    | _ => none
  | .establish k =>
    match o.calls[k]? with
    | some .establishing => if o.established then some (o.goTo k .reserving) else none
    | _ => none
  | .reserve k =>
    match o.calls[k]? with
    | some .reserving =>
      match o.conn.flow.reserveStreamSlot.value with
      | .failed error => some (o.goTo k (.returned (.failed error)))
      | .reserved _ => (o.conn.step .reserveSlot).map fun conn => goTo k .creating { o with conn }
      | .waiting => none
    | _ => none
  | .create k ok =>
    match o.calls[k]? with
    | some .creating =>
      if ok then (o.conn.step .commitSlot).map fun conn => goTo k .making { o with conn }
      else (o.conn.step .releaseSlot).map fun conn => goTo k (.returned .transport) { o with conn }
    | _ => none
  | .make k isOpen =>
    match o.calls[k]? with
    | some .making =>
      (o.conn.step (.newStream (o.conn.creating.idxOf false) isOpen)).map fun conn =>
        goTo k (.opening o.conn.streams.length) { o with conn }
    | _ => none
  | .opened k =>
    match o.calls[k]? with
    | some (.opening place) =>
      match o.conn.streams[place]? with
      | some t =>
        if t.shared.dcOpen then some (o.goTo k (.returned (.opened place)))
        else if t.shared.dcClosed then
          (o.dropHandle place).map (goTo k (.returned (.failed .streamClosed)))
        else none
      | none => none
    | _ => none
  | .closed k =>
    if o.closed then
      match o.calls[k]? with
      | some .establishing => some (o.goTo k (.returned (.failed o.closeError)))
      | some (.opening place) => (o.dropHandle place).map (goTo k (.returned (.failed .connClosed)))
      | _ => none
    else none
  | .drop k =>
    match o.calls[k]? with
    | some .checking => some (o.goTo k .cancelled)
    | some .establishing => some (o.goTo k .cancelled)
    | some .reserving => some (o.goTo k .cancelled)
    | some .creating => some (o.goTo k .leaked)
    | some (.opening place) => (o.dropHandle place).map (goTo k (.abandoned place))
    | _ => none
  | .established => some { o with established := true }
  | .mark => some { o with closed := true }
  | .reason error => some { o with closeErr := error }
  | .conn label =>
    if o.Others label then (o.conn.step label).map fun conn => { o with conn } else none

end OpenStreams

namespace StreamSection

/-- A STOP_SENDING is decided, or about to be queued. -/
def cancels : StreamSection → Bool
  | .cancelRead _ => true
  | .lifeSend (.stopSending _) => true
  | _ => false

theorem leadsTo_cancels {op other : StreamSection} (leads : op.leadsTo other = true)
    (cancels : other.cancels = true) : op.cancels = true := by
  cases other with
  | cancelRead code => cases op <;> cases leads
  | lifeSend frame =>
    cases frame with
    | stopSending code => cases op <;> first | rfl | cases leads
    | _ => cases cancels
  | _ => cases cancels

end StreamSection

namespace WebrtcStream

/-! ### A stream the application never had -/

variable {t t' : Tasks} {label : Label}

/-- No read was cancelled. -/
structure Untouched (t : Tasks) : Prop where
  handle : HandleInv t
  onWay : ∀ code, .stopSending code ∉ (outbound t).onWay
  pending : ∀ op ∈ t.pending, op.cancels = false

/-- The handle is idle. -/
structure Idle (t : Tasks) : Prop where
  waits : t.pool[2]? = some []
  kept : t.shared.handleDropped = false

/-- **No STOP_SENDING is sent unless a read is cancelled.** -/
theorem Untouched.step (untouched : Untouched t) (quiet : ∀ op ∈ label.sections, op.cancels = false)
    (stepped : WebrtcStream.step t label = some t') : Untouched t' := by
  have handle := untouched.handle.step stepped
  have rules := untouched.handle.rules
  have moves := step_moves rules stepped
  have arrives : ∀ code, .stopSending code ∈ (outbound t').onWay →
      .stopSending code ∈ (outbound t).onWay ∨ LifeFrame.stopSending code ∈ t'.shared.life := by
    intro code member
    rcases moves with same | step
    · rw [same] at member
      exact Or.inl member
    · exact step.arrives (.stopSending code) member
  have ofLife : ∀ code, LifeFrame.stopSending code ∉ t.shared.life := fun code member =>
    untouched.onWay code
      (Outbound.mem_onWay.mpr (Or.inr (Or.inr (Or.inr (Or.inr ⟨_, member, rfl⟩)))))
  by_cases runs : ∃ thread, label = .run thread
  · obtain ⟨thread, rfl⟩ := runs
    obtain ⟨op, rest, e, top, ran, rfl⟩ := Threads.advance_eq_some.mp stepped
    have here := untouched.pending op (Threads.mem_pending top)
    refine ⟨handle, fun code member => ?_, fun other member => ?_⟩
    · rcases arrives code member with old | life
      · exact untouched.onWay code old
      · rcases exec_life ran life with old | rfl
        · exact ofLife code old
        · cases here
    · rcases run_comes top ran other member with pushed | rfl | old
      · by_contra cancels
        have cancels := StreamSection.leadsTo_cancels pushed (Bool.not_eq_false _ ▸ cancels)
        rw [here] at cancels
        cases cancels
      · rfl
      · exact untouched.pending other old
  · have notRun : ∀ thread, label ≠ .run thread := fun thread same => runs ⟨thread, same⟩
    have life : t'.shared.life = t.shared.life :=
      (congrArg WebrtcStream.life (step_shared stepped notRun)).trans rfl
    refine ⟨handle, fun code member => ?_, fun op member => ?_⟩
    · rcases arrives code member with old | new
      · exact untouched.onWay code old
      · exact ofLife code (life ▸ new)
    · exact (step_comes stepped notRun op member).elim (quiet op) (untouched.pending op)

theorem Untouched.touch (untouched : Untouched t) (flow : ConnFlow) :
    Untouched (touch t { t.shared with flow }) := by
  have same : outbound (WebrtcStream.touch t { t.shared with flow }) = outbound t :=
    outbound_touch rfl rfl rfl rfl rfl rfl rfl
  refine ⟨untouched.handle.touch rfl, fun code member => untouched.onWay code ?_, untouched.pending⟩
  rwa [same] at member

theorem untouched_start (flow : ConnFlow) (peerInitiated isOpen : Bool) :
    Untouched (start flow peerInitiated isOpen) := by
  refine ⟨handleInv_start flow peerInitiated isOpen, fun code member => ?_, fun op member => ?_⟩
  · cases member
  · have pending : (start flow peerInitiated isOpen).pending = [.writerOpen] := rfl
    rw [pending] at member
    rw [List.mem_singleton.mp member]
    rfl

/-- **Only the one who has the handle uses it.** -/
theorem Idle.step (idle : Idle t) (handle : HandleInv t) (uncalled : ∀ method, label ≠ .call method)
    (stepped : WebrtcStream.step t label = some t') : Idle t' := by
  obtain ⟨waits, kept⟩ := idle
  have resumed {t : Tasks} (waits : t.pool[2]? = some []) {stack : List StreamSection}
      (resumed : t.resume 0 stack = some t') : t'.pool[2]? = some [] := by
    unfold Threads.resume at resumed
    split at resumed <;> cases resumed
    rw [List.getElem?_set_ne (by decide)]
    exact waits
  by_cases runs : ∃ thread, label = .run thread
  · obtain ⟨thread, rfl⟩ := runs
    obtain ⟨op, rest, e, top, ran, rfl⟩ := Threads.advance_eq_some.mp stepped
    have other : thread ≠ 2 := by
      rintro rfl
      rw [waits] at top
      cases top
    refine ⟨?_, ?_⟩
    · show (t.pool.set thread _ ++ e.started)[2]? = some []
      rw [List.getElem?_append_left (by rw [List.length_set]; exact handle.owned.here),
        List.getElem?_set_ne other]
      exact waits
    · refine ((exec_leaves ran).dropped ?_).trans kept
      rintro rfl
      have quiet := handle.owned.elsewhere thread _ top other _ List.mem_cons_self
      cases quiet
  have notRun : ∀ thread, label ≠ .run thread := fun thread same => runs ⟨thread, same⟩
  refine ⟨?_,
    ((congrArg WebrtcStream.handleDropped (step_shared stepped notRun)).trans rfl).trans kept⟩
  cases label with
  | run thread => exact absurd rfl (notRun thread)
  | call method => exact absurd rfl (uncalled method)
  | dropFuture =>
    simp only [WebrtcStream.step, waits] at stepped
    cases stepped
  | channelOpen =>
    simp only [WebrtcStream.step] at stepped
    split at stepped <;> cases stepped
    show (t.pool ++ [[.onOpen]])[2]? = some []
    rw [List.getElem?_append_left handle.owned.here]
    exact waits
  | message data =>
    simp only [WebrtcStream.step] at stepped
    split at stepped
    · exact resumed waits stepped
    · cases stepped
  | channelClosed =>
    simp only [WebrtcStream.step] at stepped
    split at stepped
    · cases stepped
    · have touched : (WebrtcStream.touch t
          { t.shared with dc := { t.shared.dc with readyState := .closed } }).pool[2]? = some [] :=
            waits
      exact resumed touched stepped
  | _ =>
    cases stepped
    exact waits

/-- A handle that is idle can be dropped. -/
theorem Idle.drops (idle : Idle t) : (WebrtcStream.step t (.call .drop)).isSome = true := by
  simp only [WebrtcStream.step, idle.kept, Threads.resume, idle.waits]
  rfl

end WebrtcStream

namespace ConnStreams

variable {c c' : ConnStreams} {label : ConnLabel} {t t' : WebrtcStream.Tasks}

/-! ### A step of the connection -/

theorem streamStep_eq {flow : ConnFlow} {label : WebrtcStream.Label}
    (stepped : streamStep t flow label = some t') :
    WebrtcStream.step (WebrtcStream.touch t { t.shared with flow }) label = some t' := by
  cases label with
  | credit other => cases stepped
  | _ => exact stepped

/-- A stream is where it was, or took the step. -/
theorem step_stream (stepped : c.step label = some c') {place : Nat}
    (found : c.streams[place]? = some t) :
    c'.streams[place]? = some t ∨ ∃ own t', label = .stream place own ∧
      streamStep t c.flow own = some t' ∧ c'.streams[place]? = some t' := by
  cases label with
  | incoming =>
    simp only [ConnStreams.step] at stepped
    split at stepped <;> cases stepped <;> exact Or.inl found
  | reserveSlot =>
    simp only [ConnStreams.step] at stepped
    split at stepped <;> cases stepped <;> exact Or.inl found
  | releaseSlot =>
    simp only [ConnStreams.step] at stepped
    split at stepped <;> cases stepped
    exact Or.inl found
  | commitSlot =>
    simp only [ConnStreams.step] at stepped
    split at stepped <;> cases stepped
    exact Or.inl found
  | newStream at' isOpen =>
    simp only [ConnStreams.step] at stepped
    split at stepped <;> cases stepped
    refine Or.inl ?_
    obtain ⟨here, -⟩ := List.getElem?_eq_some_iff.mp found
    show (c.streams ++ _)[place]? = some t
    rw [List.getElem?_append_left here]
    exact found
  | stream at' own =>
    simp only [ConnStreams.step] at stepped
    split at stepped
    · next other found' =>
      obtain ⟨t', turned, rfl⟩ := Option.map_eq_some_iff.mp stepped
      by_cases same : at' = place
      · subst same
        rw [found] at found'
        cases found'
        obtain ⟨here, -⟩ := List.getElem?_eq_some_iff.mp found
        exact Or.inr ⟨own, t', rfl, turned, List.getElem?_set_self here⟩
      · refine Or.inl ?_
        show (c.streams.set at' t')[place]? = some t
        rw [List.getElem?_set_ne same]
        exact found
    · cases stepped
  | _ =>
    cases stepped
    exact Or.inl found

/-- The labels of `open_stream`. -/
def opens : ConnLabel → Bool
  | .reserveSlot => true
  | .releaseSlot => true
  | .commitSlot => true
  | _ => false

/-- **Only `open_stream` moves its slots.** -/
theorem step_opening (stepped : c.step label = some c') (other : opens label = false) :
    c'.flow.opening = c.flow.opening ∧ c'.reserved = c.reserved := by
  cases label with
  | reserveSlot => cases other
  | releaseSlot => cases other
  | commitSlot => cases other
  | incoming =>
    simp only [ConnStreams.step] at stepped
    split at stepped
    · cases stepped
      exact ⟨rfl, rfl⟩
    · next flow counted =>
      cases stepped
      unfold ConnFlow.peerStreamOpened at counted
      split at counted <;> cases counted
      exact ⟨rfl, rfl⟩
  | newStream place isOpen =>
    simp only [ConnStreams.step] at stepped
    split at stepped <;> cases stepped
    exact ⟨rfl, rfl⟩
  | stream place own =>
    simp only [ConnStreams.step] at stepped
    split at stepped
    · next t found =>
      obtain ⟨t', turned, rfl⟩ := Option.map_eq_some_iff.mp stepped
      refine ⟨?_, rfl⟩
      cases streamStep_turns turned with
      | holds peer bills retired => exact bills.opening
      | fires peer slots retired =>
        dsimp only
        rw [slots]
        split <;> rfl
    · cases stepped
  | hello limits =>
    cases stepped
    exact ⟨rfl, rfl⟩
  | maxData v =>
    cases stepped
    exact ⟨(ConnFlow.bills_onPeerMaxData v).opening, rfl⟩
  | maxStreams v =>
    cases stepped
    exact ⟨(ConnFlow.bills_onPeerMaxStreams v).opening, rfl⟩
  | fail error =>
    cases stepped
    exact ⟨(ConnFlow.bills_fail error).opening, rfl⟩

/-- The slots that are reserved are counted, and no sum of the slots wraps. -/
structure Counted (c : ConnStreams) : Prop where
  reserved : c.flow.streamsReserved.toNat = c.reserved
  bounded : c.flow.streamsOpened.toNat + c.reserved < 2 ^ 64

theorem Counted.congr (counted : Counted c) (opening : c'.flow.opening = c.flow.opening)
    (reserved : c'.reserved = c.reserved) : Counted c' := by
  simp only [ConnFlow.opening, Prod.mk.injEq] at opening
  refine ⟨?_, ?_⟩
  · rw [opening.2, reserved]
    exact counted.reserved
  · rw [opening.1, reserved]
    exact counted.bounded

theorem Counted.reserve (counted : Counted c) {flow : ConnFlow}
    (taken : c.flow.reserveStreamSlot.value = .reserved flow) :
    Counted { c with flow, reserved := c.reserved + 1 } := by
  unfold ConnFlow.reserveStreamSlot at taken
  split at taken
  · cases taken
  · dsimp only [bind, pure] at taken
    split at taken <;> cases taken
    next room =>
    have room : c.flow.streamsOpened + c.flow.streamsReserved < c.flow.peerMaxStreams := room
    have reserved := counted.reserved
    have bounded := counted.bounded
    have one : (1 : UInt64).toNat = 1 := rfl
    have used : (c.flow.streamsOpened + c.flow.streamsReserved).toNat =
        c.flow.streamsOpened.toNat + c.reserved := by
      rw [UInt64.toNat_add, reserved]
      exact Nat.mod_eq_of_lt bounded
    rw [UInt64.lt_iff_toNat_lt, used] at room
    have top := c.flow.peerMaxStreams.toNat_lt
    refine ⟨?_, ?_⟩
    · show (c.flow.streamsReserved + 1).toNat = c.reserved + 1
      rw [UInt64.toNat_add, reserved]
      exact Nat.mod_eq_of_lt (by omega)
    · show c.flow.streamsOpened.toNat + (c.reserved + 1) < 2 ^ 64
      omega

theorem pred_toNat {n : UInt64} {m : Nat} (same : n.toNat = m + 1) : (n - 1).toNat = m := by
  have one : (1 : UInt64).toNat = 1 := rfl
  rw [UInt64.toNat_sub_of_le _ _ (UInt64.le_iff_toNat_le.mpr (by omega)), same]
  omega

theorem Counted.release (counted : Counted c) {n : Nat} (some : c.reserved = n + 1) :
    Counted { c with flow := c.flow.releaseStreamSlot.value, reserved := n } := by
  have reserved := counted.reserved
  have bounded := counted.bounded
  refine ⟨pred_toNat (reserved.trans some), ?_⟩
  show c.flow.streamsOpened.toNat + n < 2 ^ 64
  omega

theorem Counted.commit (counted : Counted c) {n : Nat} (some : c.reserved = n + 1)
    (creating : List Bool) :
    Counted { c with flow := c.flow.commitStreamSlot.value, reserved := n, creating } := by
  have reserved := counted.reserved
  have bounded := counted.bounded
  have one : (1 : UInt64).toNat = 1 := rfl
  refine ⟨pred_toNat (reserved.trans some), ?_⟩
  show (c.flow.streamsOpened + 1).toNat + n < 2 ^ 64
  rw [UInt64.toNat_add, Nat.mod_eq_of_lt (by omega)]
  omega

open WebrtcStream in
/-- A stream whose handle is not used, or dropped. -/
theorem step_untouched (stepped : c.step label = some c') {place : Nat}
    (found : c.streams[place]? = some t) (untouched : Untouched t)
    (unused : ∀ method, label = .stream place (.call method) → method = .drop) :
    ∃ t', c'.streams[place]? = some t' ∧ Untouched t' ∧
      (Idle t → (∀ method, label ≠ .stream place (.call method)) → Idle t') := by
  rcases step_stream stepped found with same | ⟨own, t', rfl, turned, found'⟩
  · exact ⟨t, same, untouched, fun idle _ => idle⟩
  have touched := untouched.touch c.flow
  have stepped := streamStep_eq turned
  refine ⟨t', found', touched.step ?_ stepped, fun idle uncalled => ?_⟩
  · cases own with
    | call method =>
      rw [unused method rfl]
      simp [Label.sections, Method.sections, StreamSection.cancels]
    | _ => simp [Label.sections, StreamSection.cancels]
  · have idle : Idle (touch t { t.shared with flow := c.flow }) := ⟨idle.waits, idle.kept⟩
    refine idle.step touched.handle (fun method same => ?_) stepped
    subst same
    exact uncalled method rfl

end ConnStreams

namespace OpenStreams

open WebrtcStream

variable {o o' : OpenStreams}

/-! ### The calls in every run -/

/-- The stream of a call that has a handle, or was dropped with it. -/
def Has (c : ConnStreams) (call : OpenCall) (place : Nat) : Prop :=
  ∃ t, c.streams[place]? = some t ∧ Untouched t ∧ (call = .opening place → Idle t)

/-- The slots reserved are those that calls hold, and the streams of calls are their own. -/
structure CallsInv (o : OpenStreams) : Prop where
  counted : o.conn.Counted
  reserved : o.conn.reserved = o.calls.countP OpenCall.holdsSlot
  streams : ∀ (k : Nat) call place, o.calls[k]? = some call → call.handle = some place →
    Has o.conn call place
  distinct : ∀ (i j : Nat) first second place, o.calls[i]? = some first →
    o.calls[j]? = some second → first.handle = some place → second.handle = some place → i = j

theorem countP_goTo {calls : List OpenCall} {k : Nat} {call : OpenCall}
    (found : calls[k]? = some call) (next : OpenCall) (p : OpenCall → Bool) :
    (calls.set k next).countP p + (if p call then 1 else 0) =
      calls.countP p + if p next then 1 else 0 := by
  obtain ⟨here, at'⟩ := List.getElem?_eq_some_iff.mp found
  rw [List.countP_set here, at']
  cases has : p call with
  | false => simp
  | true =>
    have present : 0 < calls.countP p :=
      List.countP_pos_iff.mpr ⟨call, List.mem_of_getElem? found, has⟩
    simp only [if_true]
    omega

/-- A call goes on. -/
theorem CallsInv.goTo (inv : CallsInv o) {k : Nat} {call next : OpenCall} {conn : ConnStreams}
    (found : o.calls[k]? = some call) (counted : conn.Counted)
    (slot : conn.reserved + (if call.holdsSlot then 1 else 0) =
      o.conn.reserved + if next.holdsSlot then 1 else 0)
    (others : ∀ (i : Nat) other place, i ≠ k → o.calls[i]? = some other →
      other.handle = some place → Has o.conn other place → Has conn other place)
    (own : ∀ place, next.handle = some place → Has conn next place ∧
      ∀ (i : Nat) other, i ≠ k → o.calls[i]? = some other → other.handle ≠ some place) :
    CallsInv (goTo k next { o with conn }) := by
  have after {i : Nat} {other : OpenCall} (at' : (o.calls.set k next)[i]? = some other) :
      i = k ∧ other = next ∨ i ≠ k ∧ o.calls[i]? = some other := by
    rw [List.getElem?_set] at at'
    split at at'
    · next same =>
      split at at' <;> cases at'
      exact Or.inl ⟨same.symm, rfl⟩
    · next other => exact Or.inr ⟨Ne.symm other, at'⟩
  refine ⟨counted, ?_, fun i other place at' handle => ?_,
    fun i j first second place at' at'' has has' => ?_⟩
  · have count := countP_goTo found next OpenCall.holdsSlot
    have reserved := inv.reserved
    show conn.reserved = (o.calls.set k next).countP OpenCall.holdsSlot
    omega
  · rcases after at' with ⟨-, rfl⟩ | ⟨other', at'⟩
    · exact (own place handle).1
    · exact others i other place other' at' handle (inv.streams i other place at' handle)
  · rcases after at' with ⟨same, rfl⟩ | ⟨apart, old⟩ <;>
      rcases after at'' with ⟨same', rfl⟩ | ⟨apart', old'⟩
    · exact same.trans same'.symm
    · exact absurd has' ((own place has).2 j second apart' old')
    · exact absurd has ((own place has').2 i first apart old)
    · exact inv.distinct i j first second place old old' has has'

/-- A call that has no handle goes on, and the streams are where they were. -/
theorem CallsInv.goes (inv : CallsInv o) {k : Nat} {call next : OpenCall} {conn : ConnStreams}
    (found : o.calls[k]? = some call) (counted : conn.Counted)
    (slot : conn.reserved + (if call.holdsSlot then 1 else 0) =
      o.conn.reserved + if next.holdsSlot then 1 else 0)
    (streams : conn.streams = o.conn.streams) (none : next.handle = none) :
    CallsInv (OpenStreams.goTo k next { o with conn }) := by
  refine inv.goTo found counted slot (fun i other place _ _ _ has => ?_) fun place has => ?_
  · unfold Has
    rw [streams]
    exact has
  · rw [none] at has
    cases has

/-- The handle of a call is dropped. -/
theorem CallsInv.drops (inv : CallsInv o) {k place : Nat} {next : OpenCall}
    (found : o.calls[k]? = some (.opening place)) (holds : next.holdsSlot = false)
    (handle : next.handle = none ∨ next = .abandoned place)
    (dropped : (o.dropHandle place).map (OpenStreams.goTo k next) = some o') : CallsInv o' := by
  obtain ⟨o'', handed, rfl⟩ := Option.map_eq_some_iff.mp dropped
  obtain ⟨conn, stepped, rfl⟩ := Option.map_eq_some_iff.mp handed
  have free (i : Nat) (other : OpenCall) (apart : i ≠ k) (at' : o.calls[i]? = some other) :
      other.handle ≠ some place :=
        fun same => apart (inv.distinct i k other _ place at' found same rfl)
  obtain ⟨opening, reserved⟩ := ConnStreams.step_opening stepped rfl
  refine inv.goTo found (inv.counted.congr opening reserved) ?_
    (fun i other at' apart there has kept => ?_)
    fun at' has => ?_
  · rw [reserved, holds]
    rfl
  · obtain ⟨t, found', untouched, idle⟩ := kept
    have elsewhere : at' ≠ place := by
      rintro rfl
      exact free i other apart there has
    obtain ⟨t', after, untouched', idle'⟩ := ConnStreams.step_untouched stepped found' untouched
      fun method same => by
        cases same
        exact absurd rfl elsewhere
    refine ⟨t', after, untouched', fun opening => idle' (idle opening) fun method same => ?_⟩
    cases same
    exact elsewhere rfl
  · rcases handle with none | rfl
    · rw [none] at has
      cases has
    · cases has
      obtain ⟨t, found', untouched, -⟩ := inv.streams k _ place found rfl
      obtain ⟨t', after, untouched', -⟩ := ConnStreams.step_untouched stepped found' untouched
        fun method same => by
          cases same
          rfl
      exact ⟨⟨t', after, untouched', fun same => by cases same⟩, free⟩

/-- **One step keeps the slots of the calls.** -/
theorem CallsInv.step {label : OpenLabel} (inv : CallsInv o) (stepped : o.step label = some o') :
    CallsInv o' := by
  cases label with
  | call =>
    cases stepped
    have after {i : Nat} {other : OpenCall}
      (at' : (o.calls ++ [OpenCall.checking])[i]? = some other) :
        other = .checking ∨ o.calls[i]? = some other := by
      rw [List.getElem?_append] at at'
      split at at'
      · exact Or.inr at'
      · exact Or.inl (List.mem_singleton.mp (List.mem_of_getElem? at'))
    refine ⟨inv.counted, ?_, fun i other place at' handle => ?_,
      fun i j first second place at' at'' has has' => ?_⟩
    · rw [List.countP_append]
      exact inv.reserved
    · rcases after at' with rfl | old
      · cases handle
      · exact inv.streams i other place old handle
    · rcases after at' with rfl | old
      · cases has
      rcases after at'' with rfl | old'
      · cases has'
      · exact inv.distinct i j first second place old old' has has'
  | check k =>
    simp only [OpenStreams.step] at stepped
    split at stepped
    · next found =>
      cases stepped
      split <;> exact inv.goes found inv.counted rfl rfl rfl
    · cases stepped
  | establish k =>
    simp only [OpenStreams.step] at stepped
    split at stepped
    · next found =>
      split at stepped <;> cases stepped
      exact inv.goes found inv.counted rfl rfl rfl
    · cases stepped
  | reserve k =>
    simp only [OpenStreams.step] at stepped
    split at stepped
    · next found =>
      split at stepped
      · cases stepped
        exact inv.goes found inv.counted rfl rfl rfl
      · next flow taken =>
        obtain ⟨conn, moved, rfl⟩ := Option.map_eq_some_iff.mp stepped
        simp only [ConnStreams.step, taken] at moved
        cases moved
        exact inv.goes found (inv.counted.reserve taken) rfl rfl rfl
      · cases stepped
    · cases stepped
  | create k ok =>
    simp only [OpenStreams.step] at stepped
    split at stepped
    · next found =>
      have some' : 0 < o.conn.reserved := by
        rw [inv.reserved]
        exact List.countP_pos_iff.mpr ⟨_, List.mem_of_getElem? found, rfl⟩
      obtain ⟨n, more⟩ := Nat.exists_eq_succ_of_ne_zero (Nat.ne_of_gt some')
      have less : o.conn.reserved - 1 = n := by omega
      split at stepped
      · obtain ⟨conn, moved, rfl⟩ := Option.map_eq_some_iff.mp stepped
        simp only [ConnStreams.step, if_pos some', less] at moved
        cases moved
        refine inv.goes found (inv.counted.commit more _) ?_ rfl rfl
        simp [OpenCall.holdsSlot, more]
      · obtain ⟨conn, moved, rfl⟩ := Option.map_eq_some_iff.mp stepped
        simp only [ConnStreams.step, if_pos some', less] at moved
        cases moved
        refine inv.goes found (inv.counted.release more) ?_ rfl rfl
        simp [OpenCall.holdsSlot, more]
    · cases stepped
  | make k isOpen =>
    simp only [OpenStreams.step] at stepped
    split at stepped
    · next found =>
      obtain ⟨conn, moved, rfl⟩ := Option.map_eq_some_iff.mp stepped
      obtain ⟨opening, reserved⟩ := ConnStreams.step_opening moved rfl
      simp only [ConnStreams.step] at moved
      split at moved <;> cases moved
      next peerInitiated made =>
      refine inv.goTo found (inv.counted.congr opening reserved) (by simp [OpenCall.holdsSlot])
        (fun i other place _ _ _ has => ?_) fun place has => ?_
      · obtain ⟨t, there, untouched, idle⟩ := has
        obtain ⟨here, -⟩ := List.getElem?_eq_some_iff.mp there
        refine ⟨t, ?_, untouched, idle⟩
        show (o.conn.streams ++ _)[place]? = some t
        rw [List.getElem?_append_left here]
        exact there
      · cases has
        refine ⟨⟨start o.conn.flow peerInitiated isOpen, by simp, untouched_start ..,
          fun _ => ⟨rfl, rfl⟩⟩, fun i other _ at' same => ?_⟩
        obtain ⟨t, there, -⟩ := inv.streams i other _ at' same
        obtain ⟨here, -⟩ := List.getElem?_eq_some_iff.mp there
        exact absurd here (lt_irrefl _)
    · cases stepped
  | opened k =>
    simp only [OpenStreams.step] at stepped
    split at stepped
    · next place found =>
      split at stepped
      · split at stepped
        · cases stepped
          exact inv.goes found inv.counted rfl rfl rfl
        split at stepped
        · exact inv.drops found rfl (Or.inl rfl) stepped
        · cases stepped
      · cases stepped
    · cases stepped
  | closed k =>
    simp only [OpenStreams.step] at stepped
    split at stepped
    · split at stepped
      · next found =>
        cases stepped
        exact inv.goes found inv.counted rfl rfl rfl
      · next place found => exact inv.drops found rfl (Or.inl rfl) stepped
      · cases stepped
    · cases stepped
  | drop k =>
    simp only [OpenStreams.step] at stepped
    split at stepped
    · next found =>
      cases stepped
      exact inv.goes found inv.counted rfl rfl rfl
    · next found =>
      cases stepped
      exact inv.goes found inv.counted rfl rfl rfl
    · next found =>
      cases stepped
      exact inv.goes found inv.counted rfl rfl rfl
    · next found =>
      cases stepped
      exact inv.goes found inv.counted rfl rfl rfl
    · next place found => exact inv.drops found rfl (Or.inr rfl) stepped
    · cases stepped
  | established =>
    cases stepped
    exact ⟨inv.counted, inv.reserved, inv.streams, inv.distinct⟩
  | mark =>
    cases stepped
    exact ⟨inv.counted, inv.reserved, inv.streams, inv.distinct⟩
  | reason error =>
    cases stepped
    exact ⟨inv.counted, inv.reserved, inv.streams, inv.distinct⟩
  | conn label =>
    simp only [OpenStreams.step] at stepped
    split at stepped
    · next others =>
      obtain ⟨conn, moved, rfl⟩ := Option.map_eq_some_iff.mp stepped
      have other : ConnStreams.opens label = false := by
        cases label <;> first | rfl | exact others.elim
      obtain ⟨opening, reserved⟩ := ConnStreams.step_opening moved other
      refine ⟨inv.counted.congr opening reserved, reserved.trans inv.reserved,
        fun k call place at' handle => ?_, inv.distinct⟩
      obtain ⟨t, there, untouched, idle⟩ := inv.streams k call place at' handle
      have uncalled (method : Method) : label ≠ .stream place (.call method) := by
        rintro rfl
        exact others call (List.mem_of_getElem? at') handle
      obtain ⟨t', after, untouched', idle'⟩ := ConnStreams.step_untouched moved there untouched
        fun method same => absurd same (uncalled method)
      exact ⟨t', after, untouched', fun opening => idle' (idle opening) uncalled⟩
    · cases stepped

theorem callsInv_new (limits : FlowWindows) : CallsInv (new limits) :=
  ⟨⟨rfl, show (0 : UInt64).toNat + 0 < 2 ^ 64 by decide⟩, rfl,
    fun k call place at' => by simp [new] at at',
    fun i j first second place at' => by simp [new] at at'⟩

/-- **Wherever a call waits it can be dropped.** -/
theorem CallsInv.can_drop (inv : CallsInv o) {k : Nat} {call : OpenCall}
    (found : o.calls[k]? = some call)
    (awaits : call.awaits = true) : (o.step (.drop k)).isSome = true := by
  cases call with
  | opening place =>
    obtain ⟨t, there, -, idle⟩ := inv.streams k _ place found rfl
    have idle : Idle (touch t { t.shared with flow := o.conn.flow }) :=
      ⟨(idle rfl).waits, (idle rfl).kept⟩
    simp only [OpenStreams.step, found, dropHandle, ConnStreams.step, there, Option.isSome_map]
    exact idle.drops
  | checking => simp only [OpenStreams.step, found, Option.isSome_some]
  | establishing => simp only [OpenStreams.step, found, Option.isSome_some]
  | reserving => simp only [OpenStreams.step, found, Option.isSome_some]
  | creating => simp only [OpenStreams.step, found, Option.isSome_some]
  | _ => cases awaits

/-- The slots reserved are those of the calls between reservation and commit or release; and the
stream of a call that was dropped after the commit ends with RESET and STOP_SENDING, once its
channel is open and its writer task has nothing left to do. -/
def CancelSafe (o : OpenStreams) : Prop :=
  o.conn.flow.streamsReserved.toNat = o.calls.countP OpenCall.live ∧
  ∀ place t, .abandoned place ∈ o.calls → o.conn.streams[place]? = some t → t.shared.dcOpen = true →
    WebrtcStream.step t (.run 1) = none →
    (∃ code, .reset code ∈ t.shared.frames) ∧ ∃ code, .stopSending code ∈ t.shared.frames

/-- No call is dropped that has a slot or a handle. -/
def DropsEarly (o : OpenStreams) : OpenLabel → Prop
  | .drop k => ∀ call ∈ o.calls[k]?, call ≠ .creating ∧ call.handle = none
  | _ => True

instance (o : OpenStreams) (label : OpenLabel) : Decidable (o.DropsEarly label) := by
  unfold DropsEarly
  cases label <;> infer_instance

/-- No call was dropped that had a slot or a handle. -/
def Unlost (o : OpenStreams) : Prop :=
  ∀ call ∈ o.calls, call ≠ .leaked ∧ ∀ place, call ≠ .abandoned place

theorem Unlost.goTo (unlost : Unlost o) {k : Nat} {next : OpenCall}
    (calls : o'.calls = o.calls.set k next)
    (kept : next ≠ .leaked ∧ ∀ place, next ≠ .abandoned place) : Unlost o' := by
  intro call member
  rw [calls] at member
  rcases List.mem_or_eq_of_mem_set member with old | rfl
  · exact unlost call old
  · exact kept

theorem Unlost.drops (unlost : Unlost o) {k place : Nat} {next : OpenCall}
    (dropped : (o.dropHandle place).map (OpenStreams.goTo k next) = some o')
    (kept : next ≠ .leaked ∧ ∀ place, next ≠ .abandoned place) : Unlost o' := by
  obtain ⟨o'', handed, rfl⟩ := Option.map_eq_some_iff.mp dropped
  obtain ⟨conn, -, rfl⟩ := Option.map_eq_some_iff.mp handed
  exact unlost.goTo rfl kept

theorem Unlost.step {label : OpenLabel} (unlost : Unlost o) (early : DropsEarly o label)
    (stepped : o.step label = some o') : Unlost o' := by
  cases label with
  | call =>
    cases stepped
    intro call member
    rcases List.mem_append.mp member with old | new
    · exact unlost call old
    · rw [List.mem_singleton.mp new]
      simp
  | check k =>
    simp only [OpenStreams.step] at stepped
    split at stepped <;> cases stepped
    split <;> exact unlost.goTo rfl (by simp)
  | establish k =>
    simp only [OpenStreams.step] at stepped
    split at stepped
    · split at stepped <;> cases stepped
      exact unlost.goTo rfl (by simp)
    · cases stepped
  | reserve k =>
    simp only [OpenStreams.step] at stepped
    split at stepped
    · split at stepped
      · cases stepped
        exact unlost.goTo rfl (by simp)
      · obtain ⟨conn, -, rfl⟩ := Option.map_eq_some_iff.mp stepped
        exact unlost.goTo rfl (by simp)
      · cases stepped
    · cases stepped
  | create k ok =>
    simp only [OpenStreams.step] at stepped
    split at stepped
    · split at stepped <;> obtain ⟨conn, -, rfl⟩ := Option.map_eq_some_iff.mp stepped
      · exact unlost.goTo rfl (by simp)
      · exact unlost.goTo rfl (by simp)
    · cases stepped
  | make k isOpen =>
    simp only [OpenStreams.step] at stepped
    split at stepped
    · obtain ⟨conn, -, rfl⟩ := Option.map_eq_some_iff.mp stepped
      exact unlost.goTo rfl (by simp)
    · cases stepped
  | opened k =>
    simp only [OpenStreams.step] at stepped
    split at stepped
    · split at stepped
      · split at stepped
        · cases stepped
          exact unlost.goTo rfl (by simp)
        split at stepped
        · exact unlost.drops stepped (by simp)
        · cases stepped
      · cases stepped
    · cases stepped
  | closed k =>
    simp only [OpenStreams.step] at stepped
    split at stepped
    · split at stepped
      · cases stepped
        exact unlost.goTo rfl (by simp)
      · exact unlost.drops stepped (by simp)
      · cases stepped
    · cases stepped
  | drop k =>
    simp only [OpenStreams.step] at stepped
    split at stepped
    · cases stepped
      exact unlost.goTo rfl (by simp)
    · cases stepped
      exact unlost.goTo rfl (by simp)
    · cases stepped
      exact unlost.goTo rfl (by simp)
    · next found => exact absurd rfl (early _ found).1
    · next place found => cases (early _ found).2
    · cases stepped
  | conn label =>
    simp only [OpenStreams.step] at stepped
    split at stepped
    · obtain ⟨conn, -, rfl⟩ := Option.map_eq_some_iff.mp stepped
      exact unlost
    · cases stepped
  | _ =>
    cases stepped
    exact unlost

theorem callsInv_of_run {limits : FlowWindows} {labels : List OpenLabel}
    (ran : run OpenStreams.step (new limits) labels = some o) : CallsInv o :=
  run_invariant (fun _ _ _ inv stepped => CallsInv.step inv stepped) (callsInv_new limits) ran

/-- **A call can be dropped safely until it has a slot, and not from there on.** In every run in
which no call is dropped that has a slot or a handle, the slots reserved are those of the calls
between reservation and commit or release. Once a call was dropped while it created its channel,
more slots are reserved; and once one was dropped while it waited for its channel to open, its
stream is never sent a STOP_SENDING. -/
theorem open_stream_cancelSafe {limits : FlowWindows} {labels : List OpenLabel}
    (ran : run OpenStreams.step (new limits) labels = some o) :
    (Meets OpenStreams.step DropsEarly (new limits) labels → CancelSafe o) ∧
    (.leaked ∈ o.calls → o.calls.countP OpenCall.live < o.conn.flow.streamsReserved.toNat) ∧
    (∀ place t, .abandoned place ∈ o.calls → o.conn.streams[place]? = some t →
      ∀ code, .stopSending code ∉ t.shared.frames) ∧
    ∀ k call, o.calls[k]? = some call → call.awaits = true → (o.step (.drop k)).isSome = true := by
  have inv := callsInv_of_run ran
  have slots : o.conn.flow.streamsReserved.toNat =
      o.calls.countP OpenCall.live + o.calls.countP (· = .leaked) := by
    rw [inv.counted.reserved, inv.reserved]
    induction o.calls with
    | nil => rfl
    | cons call calls ih =>
      rw [List.countP_cons, List.countP_cons, List.countP_cons, ih]
      cases call <;> simp [OpenCall.live, OpenCall.holdsSlot] <;> omega
  refine ⟨fun early => ⟨?_, fun place t lost => ?_⟩, fun lost => ?_,
    fun place t lost found code member => ?_, fun k call found awaits => inv.can_drop found awaits⟩
  · have unlost : Unlost o :=
      run_invariant_of_meets (fun _ _ _ early inv stepped => Unlost.step inv early stepped)
      early (fun call member => by cases member) ran
    have none : o.calls.countP (· = .leaked) = 0 :=
      List.countP_eq_zero.mpr fun call member => by simp [(unlost call member).1]
    omega
  · have unlost : Unlost o :=
      run_invariant_of_meets (fun _ _ _ early inv stepped => Unlost.step inv early stepped)
      early (fun call member => by cases member) ran
    exact absurd rfl ((unlost _ lost).2 place)
  · have some' : 0 < o.calls.countP (· = .leaked) := List.countP_pos_iff.mpr ⟨_, lost, by simp⟩
    omega
  · obtain ⟨k, at'⟩ := List.mem_iff_getElem?.mp lost
    obtain ⟨t', there, untouched, -⟩ := inv.streams k _ place at' rfl
    rw [found] at there
    cases there
    exact untouched.onWay code (Outbound.mem_onWay.mpr (Or.inl member))

/-- Two calls: one is dropped while it waits for a slot, the other opens its stream. -/
def opensOne : List OpenLabel :=
  [.established, .conn (.hello defaultFlowLimits), .call, .call, .check 0, .establish 0, .drop 0,
    .check 1, .establish 1, .reserve 1, .create 1 true, .make 1 true, .opened 1]

theorem open_stream_cancelSafe_opensOne : ∃ o,
    run OpenStreams.step (new defaultFlowLimits) opensOne = some o ∧
      o.calls = [.cancelled, .returned (.opened 0)] ∧ CancelSafe o := by
  have opens : (run OpenStreams.step (new defaultFlowLimits) opensOne).any (fun o =>
      decide (o.calls = [.cancelled, .returned (.opened 0)])) = true := by decide +kernel
  have early :
    Meets OpenStreams.step DropsEarly (new defaultFlowLimits) opensOne := by decide +kernel
  obtain ⟨o, ran, calls⟩ := (Option.any_eq_true _ _).mp opens
  exact ⟨o, ran, of_decide_eq_true calls, (open_stream_cancelSafe ran).1 early⟩

/-- Two calls: one is dropped while it waits for `create_data_channel`, the other while it waits for
its channel to open. Then the channel opens, and the writer task runs. -/
def dropsBoth : List OpenLabel :=
  [.established, .conn (.hello defaultFlowLimits), .call, .call, .check 0, .establish 0, .reserve 0,
    .drop 0, .check 1, .establish 1, .reserve 1, .create 1 true, .make 1 false, .drop 1] ++
  [WebrtcStream.Label.run 2, .run 2, .channelOpen, .run 3, .run 1, .run 1, .run 1, .run 1].map
    fun label => .conn (.stream 0 label)

/-- **A call that is dropped from its reservation on leaves its slot reserved, or a stream that ends
neither half.** -/
theorem open_stream_leaks : ∃ o t,
    run OpenStreams.step (new defaultFlowLimits) dropsBoth = some o ∧
      o.calls = [.leaked, .abandoned 0] ∧ o.conn.flow.streamsReserved = 1 ∧ o.conn.streams = [t] ∧
      t.shared.dc.readyState = .opened ∧ t.shared.dcOpen = true ∧ t.pool = [[], [], [], []] ∧
      t.shared.frames = [] ∧ t.shared.localTerminal = none := by
  have leaks : (run OpenStreams.step (new defaultFlowLimits) dropsBoth).any (fun o =>
      decide (o.calls = [.leaked, .abandoned 0] ∧ o.conn.flow.streamsReserved = 1 ∧
        o.conn.streams.length = 1) &&
      o.conn.streams.head?.any fun t => decide
        (t.shared.dc.readyState = .opened ∧ t.shared.dcOpen = true ∧
        t.pool = [[], [], [], []] ∧ t.shared.frames = [] ∧
        t.shared.localTerminal = none)) = true := by
    decide +kernel
  obtain ⟨o, ran, both⟩ := (Option.any_eq_true _ _).mp leaks
  obtain ⟨facts, ends⟩ := (Bool.and_eq_true _ _).mp both
  obtain ⟨calls, reserved, one⟩ := of_decide_eq_true facts
  obtain ⟨t, first, ends⟩ := (Option.any_eq_true _ _).mp ends
  obtain ⟨only, same⟩ := List.length_eq_one_iff.mp one
  rw [same] at first
  cases first
  obtain ⟨opened, seen, idle, frames, undecided⟩ := of_decide_eq_true ends
  exact ⟨o, t, ran, calls, reserved, same, opened, seen, idle, frames, undecided⟩

end OpenStreams

end Kps.Rust
