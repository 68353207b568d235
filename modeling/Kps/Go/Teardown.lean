/-
**How a Go connection ends** (`webrtcConn` of `conn.go`, and the state callbacks of `listener.go`
and `webrtc_client.go`).

The first teardown to run `closeOnce` closes the connection and stores its reason; each one then
fails the credit and closes the peer connection. A teardown is run by `Close` and `CloseWithError`,
for control messages, by `fatal`, and by `markClosed(nil)`: in the callback of the peer connection's
state, and in `removeEntry`, which the callback of any connection with the same ufrag calls. A
thread is a call or a callback; a section is what it does under a lock, or one atomic access.

`closedBy` is what ended the connection, `closedCleanly` whether it was closed without a code from
here or by the peer, and `pcState` the state of the peer connection, which the module does not look
at. The streams are left out, and with them the HELLO that is sent: neither has a part in the
reason.

* `close_reason_sound` — the reasons are sound in every state of a run if and only if no
  `markClosed(nil)` and no lost transport is the first to end the connection.
-/

import Kps.Lib.Threads
import Kps.Lib.Run
import Kps.Go.Stream

namespace Kps.Go

open Kps.Lib

/-- The error it is. -/
def StreamError.failure (error : StreamError) : StreamFailure := .stream error.code error.remote

/-- `PeerConnectionState`. -/
inductive PeerConnectionState
  | new
  | connecting
  | connected
  | disconnected
  | failed
  | closed
  deriving DecidableEq, Repr

/-- The association is gone. -/
def PeerConnectionState.isDown : PeerConnectionState → Bool
  | disconnected => true
  | failed => true
  | closed => true
  | _ => false

/-- What ends a connection. -/
inductive Ending
  /-- `Close` or `CloseWithError`; the close of the listener counts as the former. -/
  | closed (code : ErrorCode)
  | closedByPeer (code : ErrorCode)
  | fatal (code : ErrorCode)
  /-- The peer connection failed, or was closed and not from here. -/
  | transport
  /-- `removeEntry`, for another connection. -/
  | removed
  deriving DecidableEq, Repr

/-- The reason for a code. -/
def ErrorCode.reason (code : ErrorCode) (remote : Bool) : Option StreamError :=
  if code ≠ codeNone then some ⟨code, remote⟩ else none

/-- The reason of a transport that failed. -/
def networkError : StreamError := ⟨codeNetworkError, false⟩

/-- What else moves the credit: `OpenStream`, and a stream with its own credit. -/
inductive CreditOp
  | reserveStreamSlot
  | commitStreamSlot
  | releaseStreamSlot
  | peerStreamRetired
  | reserveData (sf : StreamFlow StreamFailure) (n : UInt64)
  | commitData (sf : StreamFlow StreamFailure) (n : UInt64)
  | releaseData (sf : StreamFlow StreamFailure) (n : UInt64)
  | onDataReceived (sf : StreamFlow StreamFailure) (n : UInt64)
  | onConsumed (sf : StreamFlow StreamFailure) (n : UInt64)
  | onPeerMaxStreamData (sf : StreamFlow StreamFailure) (v : UInt64)
  | failSend (sf : StreamFlow StreamFailure) (error : StreamFailure)

/-- The credit of the connection after it. -/
def CreditOp.run (f : ConnFlow StreamFailure) : CreditOp → ConnFlow StreamFailure
  | reserveStreamSlot =>
    match f.reserveStreamSlot.value with
    | .reserved f => f
    | _ => f
  | commitStreamSlot => f.commitStreamSlot.value
  | releaseStreamSlot => f.releaseStreamSlot.value
  | peerStreamRetired => f.peerStreamRetired.value
  | reserveData sf n =>
    match (f.reserveData sf n).value with
    | .granted _ f _ => f
    | _ => f
  | commitData sf n => (f.commitData n sf).value.1
  | releaseData sf n => (f.releaseData n sf).value.1
  | onDataReceived sf n =>
    match (sf.onDataReceived n f).value with
    | .ok (f, _) => f
    | .error _ => f
  | onConsumed sf n => (sf.onConsumed n f).value.1
  | onPeerMaxStreamData sf v => (sf.onPeerMaxStreamData v f).1
  | failSend sf error => (sf.failSend error f).1

inductive ConnSection
  | storeTearing
  /-- `closeOnce`, with the close of `closedCh`. -/
  | closeOnce (ending : Ending) (err : Option StreamError)
  | failFlow (err : Option StreamError)
  | pcClose
  | fatal (ending : Ending) (code : ErrorCode)
  | control (data : Bytes)
  | onPeerHello (limits : FlowWindows)
  /-- `peerHello = true`. -/
  | storeHello
  | onPeerMaxData (v : UInt64)
  | onPeerMaxStreams (v : UInt64)
  | incoming
  /-- `isTeardown`, when a reserved channel is lost or a stream's is before it is wire-complete. -/
  | channelLost
  deriving DecidableEq, Repr

/-- `webrtcConn`. -/
structure WebrtcConn where
  flow : ConnFlow StreamFailure
  tearingDown : Bool := false
  closedCh : Bool := false
  closeErr : Option StreamError := none
  peerHello : Bool := false
  pcState : PeerConnectionState := .new
  /-- `pc.Close()` was called. -/
  pcClosed : Bool := false
  closedBy : Option Ending := none
  closedCleanly : Bool := false

namespace WebrtcConn

abbrev Calls := Threads WebrtcConn ConnSection

def err (c : WebrtcConn) : Option StreamFailure :=
  if c.closedCh then c.closeErr.map StreamError.failure else none

/-- What `AcceptStream` and `waitEstablished` return on a closed connection. -/
def closeError (c : WebrtcConn) : StreamFailure :=
  match c.closeErr with
  | some err => err.failure
  | none => .connClosed

def andThen (next : List ConnSection) (c : WebrtcConn) : Option (Effect WebrtcConn ConnSection) :=
  some ⟨c, next, []⟩

def teardown (ending : Ending) (err : Option StreamError) : List ConnSection :=
  [.storeTearing, .closeOnce ending err]

def protocolError : ConnSection := .fatal (.fatal codeProtocolError) codeProtocolError

/-- `onControl`, up to what it does after a check of its own. -/
def onControl (data : Bytes) (c : WebrtcConn) : Option (Effect WebrtcConn ConnSection) :=
  match decodeControl data with
  | .error _ => andThen [protocolError] c
  | .ok m =>
    match m.typ with
    | .ctrlHello =>
      if c.peerHello then andThen [protocolError] c
      else if m.version ≠ UInt8.ofNat wireVersion then
        andThen (teardown (.fatal codeUnsupported) (some ⟨codeUnsupported, false⟩)) c
      else
        andThen [.onPeerHello {
          maxStreamData := UInt64.ofNat m.limits.maxStreamData
          maxData := UInt64.ofNat m.limits.maxData
          maxStreams := UInt64.ofNat m.limits.maxStreams }, .storeHello] c
    | .ctrlConnClose =>
      andThen (teardown (.closedByPeer m.code) (ErrorCode.reason m.code true))
        { c with closedCleanly := c.closedCleanly || decide (m.code = codeNone) }
    | .ctrlMaxData =>
      if c.peerHello then andThen [.onPeerMaxData (UInt64.ofNat m.value)] c
      else andThen [protocolError] c
    | .ctrlMaxStreams =>
      if c.peerHello then andThen [.onPeerMaxStreams (UInt64.ofNat m.value)] c
      else andThen [protocolError] c

/-- The error a teardown fails the credit with. -/
def failure : Option StreamError → StreamFailure
  | some err => err.failure
  | none => .connClosed

def exec (c : WebrtcConn) : ConnSection → Option (Effect WebrtcConn ConnSection)
  | .storeTearing => andThen [] { c with tearingDown := true }
  | .closeOnce ending err =>
    if c.closedCh then andThen [.failFlow err, .pcClose] c
    else
      andThen [.failFlow err, .pcClose]
        { c with closedCh := true, closeErr := err, closedBy := some ending }
  | .failFlow err => andThen [] { c with flow := c.flow.fail (failure err) }
  | .pcClose => andThen [] { c with pcClosed := true }
  | .fatal ending code =>
    if c.tearingDown then andThen [] c
    else andThen (teardown ending (some ⟨code, false⟩)) { c with tearingDown := true }
  | .control data => c.onControl data
  | .onPeerHello limits => andThen [] { c with flow := c.flow.onPeerHello limits }
  | .storeHello => andThen [] { c with peerHello := true }
  | .onPeerMaxData v => andThen [] { c with flow := c.flow.onPeerMaxData v }
  | .onPeerMaxStreams v => andThen [] { c with flow := c.flow.onPeerMaxStreams v }
  | .incoming =>
    match c.flow.peerStreamOpened.value with
    | .error _ => andThen [protocolError] c
    | .ok flow => andThen [] { c with flow }
  | .channelLost =>
    if c.tearingDown then andThen [] c
    else if c.pcState.isDown ∧ ¬ c.pcClosed then andThen [.fatal .transport codeProtocolError] c
    else andThen [protocolError] c

inductive Label
  | run (thread : Nat)
  | close
  | closeWithError (code : ErrorCode)
  /-- The listener closes the peer connection. -/
  | shutdown
  | control (data : Bytes)
  | incoming
  /-- A reserved channel closes, or that of a stream that is not wire-complete. -/
  | channelClosed
  /-- A stream reports a violation. -/
  | violation (code : ErrorCode)
  /-- The timer of a `waitEstablished` takes its branch. -/
  | helloTimeout
  | stateChange (s : PeerConnectionState)
  /-- `removeEntry`, from the callback of a connection with the same ufrag. -/
  | removed
  | credit (op : CreditOp)

/-- `markClosed(nil)`. -/
def markClosed (ending : Ending) : List ConnSection := .storeTearing :: teardown ending none

/-- The state callback. -/
def onStateChange (c : WebrtcConn) : PeerConnectionState → List ConnSection
  | .failed => markClosed (if c.pcClosed then .closed codeNone else .transport)
  | .closed => markClosed (if c.pcClosed then .closed codeNone else .transport)
  | _ => []

/-- The connection changes, and no thread. -/
def touch (t : Calls) (c : WebrtcConn) : Calls := { t with shared := c }

/-- `CloseWithError`, and `Close` with `CodeNone`. -/
def closing (code : ErrorCode) (t : Calls) : Calls :=
  (touch t { t.shared with
    closedCleanly := t.shared.closedCleanly || decide (code = codeNone) }).start
    (.storeTearing :: teardown (.closed code) (ErrorCode.reason code false))

def step (t : Calls) : Label → Option Calls
  | .run thread => t.advance exec thread
  | .close => some (closing codeNone t)
  | .closeWithError code => some (closing code t)
  | .shutdown => some (touch t { t.shared with closedCleanly := true, pcClosed := true })
  | .control data => some (t.start [.control data])
  | .incoming => some (t.start [.incoming])
  | .channelClosed => some (t.start [.channelLost])
  | .violation code => some (t.start [.fatal (.fatal code) code])
  | .helloTimeout => some (t.start [.fatal (.fatal codeTimeout) codeTimeout])
  | .stateChange s =>
    some ((touch t { t.shared with pcState := s }).start (t.shared.onStateChange s))
  | .removed => some (t.start (markClosed .removed))
  | .credit op => some (touch t { t.shared with flow := op.run t.shared.flow })

def new (limits : FlowWindows) : Calls := ⟨{ flow := .new limits }, []⟩

variable {c c' : WebrtcConn} {t t' : Calls} {op : ConnSection} {e : Effect WebrtcConn ConnSection}
    {label : Label}

/-! ### What a section does to the reason -/

/-- What a teardown that is to come says of its reason. -/
def Tells (c : WebrtcConn) (err : Option StreamError) : Ending → Prop
  | .transport => err ≠ some networkError
  | .removed => err = none
  | _ => err = none → c.closedCh = true ∨ c.closedCleanly = true

/-- What a section that is pending says. -/
def Fits (c : WebrtcConn) : ConnSection → Prop
  | .closeOnce ending err => Tells c err ending
  | .fatal ending code => Tells c (some ⟨code, false⟩) ending
  | .pcClose => c.closedCh = true
  | _ => True

/-- The reason is not changed, and what was true of the close stays so. -/
structure Keeps (c c' : WebrtcConn) : Prop where
  closedCh : c'.closedCh = c.closedCh
  closeErr : c'.closeErr = c.closeErr
  closedBy : c'.closedBy = c.closedBy
  cleanly : c.closedCleanly = true → c'.closedCleanly = true
  own : c'.pcClosed = true → c.pcClosed = true ∨ c'.closedCh = true ∨ c'.closedCleanly = true

theorem Keeps.of_same (closedCh : c'.closedCh = c.closedCh) (closeErr : c'.closeErr = c.closeErr)
    (closedBy : c'.closedBy = c.closedBy) (cleanly : c'.closedCleanly = c.closedCleanly)
    (own : c'.pcClosed = c.pcClosed) : Keeps c c' :=
  ⟨closedCh, closeErr, closedBy, fun clean => cleanly.trans clean,
    fun now => Or.inl (own.symm.trans now)⟩

theorem Tells.mono {err : Option StreamError} {ending : Ending} (tells : Tells c err ending)
    (closes : c.closedCh = true → c'.closedCh = true)
    (cleanly : c.closedCleanly = true → c'.closedCleanly = true) :
    Tells c' err ending := by
  cases ending with
  | transport => exact tells
  | removed => exact tells
  | _ => exact fun none => (tells none).imp closes cleanly

theorem Fits.mono (fits : Fits c op) (closes : c.closedCh = true → c'.closedCh = true)
    (cleanly : c.closedCleanly = true → c'.closedCleanly = true) : Fits c' op := by
  cases op with
  | closeOnce ending err => exact Tells.mono fits closes cleanly
  | fatal ending code => exact Tells.mono fits closes cleanly
  | pcClose => exact closes fits
  | _ => exact trivial

theorem fits_one {other : ConnSection} (fits : Fits c other) : ∀ op ∈ [other], Fits c op := by
  intro op member
  rw [List.mem_singleton.mp member]
  exact fits

theorem fits_teardown {ending : Ending} {err : Option StreamError} (tells : Tells c err ending) :
    ∀ op ∈ teardown ending err, Fits c op := by
  intro op member
  simp only [teardown, List.mem_cons, List.not_mem_nil, or_false] at member
  rcases member with rfl | rfl
  · exact trivial
  · exact tells

theorem fits_markClosed {ending : Ending} (tells : Tells c none ending) :
    ∀ op ∈ markClosed ending, Fits c op := by
  intro op member
  rcases List.mem_cons.mp member with rfl | member
  · exact trivial
  · exact fits_teardown tells op member

theorem reason_eq_none {code : ErrorCode} {remote : Bool}
    (none : ErrorCode.reason code remote = Option.none) :
    code = codeNone := by
  unfold ErrorCode.reason at none
  split at none
  · cases none
  · exact not_not.mp ‹_›

theorem fits_protocolError : Fits c protocolError := fun none => by cases none

theorem onControl_keeps {data : Bytes} (ran : c.onControl data = some e) :
    Keeps c e.shared ∧ (∀ op ∈ e.next, Fits e.shared op) ∧ e.started = [] := by
  unfold onControl at ran
  split at ran
  · cases ran
    exact ⟨.of_same rfl rfl rfl rfl rfl, fits_one fits_protocolError, rfl⟩
  next m decoded =>
  split at ran
  · split at ran
    · cases ran
      exact ⟨.of_same rfl rfl rfl rfl rfl, fits_one fits_protocolError, rfl⟩
    split at ran <;> cases ran
    · exact ⟨.of_same rfl rfl rfl rfl rfl,
        fits_teardown (show Tells _ _ (.fatal _) from fun none => by cases none), rfl⟩
    · refine ⟨.of_same rfl rfl rfl rfl rfl, fun op member => ?_, rfl⟩
      simp only [List.mem_cons, List.not_mem_nil, or_false] at member
      rcases member with rfl | rfl <;> exact trivial
  · cases ran
    refine ⟨⟨rfl, rfl, rfl, fun clean => ?_, Or.inl⟩,
      fits_teardown (show Tells _ _ (.closedByPeer _) from ?_), rfl⟩
    · show (c.closedCleanly || decide (m.code = codeNone)) = true
      rw [clean, Bool.true_or]
    · refine fun none => Or.inr ?_
      show (c.closedCleanly || decide (m.code = codeNone)) = true
      rw [decide_eq_true (reason_eq_none none), Bool.or_true]
  · split at ran <;> cases ran
    · exact ⟨.of_same rfl rfl rfl rfl rfl, fits_one trivial, rfl⟩
    · exact ⟨.of_same rfl rfl rfl rfl rfl, fits_one fits_protocolError, rfl⟩
  · split at ran <;> cases ran
    · exact ⟨.of_same rfl rfl rfl rfl rfl, fits_one trivial, rfl⟩
    · exact ⟨.of_same rfl rfl rfl rfl rfl, fits_one fits_protocolError, rfl⟩

/-- **Only the first `closeOnce` tells the reason.** -/
theorem exec_reason (ran : c.exec op = some e) :
    (∃ ending err, op = .closeOnce ending err ∧ c.closedCh = false ∧
      e = ⟨{ c with closedCh := true, closeErr := err, closedBy := some ending },
        [.failFlow err, .pcClose], []⟩) ∨
    ((Fits c op → Keeps c e.shared ∧ ∀ op ∈ e.next, Fits e.shared op) ∧ e.started = []) := by
  have none : ∀ op ∈ ([] : List ConnSection), Fits e.shared op :=
    fun op member => absurd member List.not_mem_nil
  -- what neither the section nor its successors say anything about
  have silent (keeps : Keeps c e.shared) (next : e.next = []) (started : e.started = []) :
      (Fits c op → Keeps c e.shared ∧ ∀ op ∈ e.next, Fits e.shared op) ∧ e.started = [] := by
    refine ⟨fun _ => ⟨keeps, ?_⟩, started⟩
    rw [next]
    exact none
  cases op with
  | closeOnce ending err =>
    simp only [exec] at ran
    split at ran
    · next closed =>
      cases ran
      refine Or.inr ⟨fun _ => ⟨.of_same rfl rfl rfl rfl rfl, fun op member => ?_⟩, rfl⟩
      simp only [List.mem_cons, List.not_mem_nil, or_false] at member
      rcases member with rfl | rfl
      · exact trivial
      · exact closed
    · next opened =>
      cases ran
      exact Or.inl ⟨ending, err, rfl, Bool.not_eq_true _ ▸ opened, rfl⟩
  | pcClose =>
    cases ran
    exact Or.inr
      ⟨fun closed => ⟨⟨rfl, rfl, rfl, fun clean => clean, fun _ => Or.inr (Or.inl closed)⟩, none⟩,
        rfl⟩
  | fatal ending code =>
    simp only [exec] at ran
    split at ran <;> cases ran
    · exact Or.inr (silent (.of_same rfl rfl rfl rfl rfl) rfl rfl)
    · refine Or.inr ⟨fun tells => ⟨.of_same rfl rfl rfl rfl rfl, fits_teardown ?_⟩, rfl⟩
      exact Tells.mono tells id id
  | control data =>
    obtain ⟨keeps, next, started⟩ := onControl_keeps ran
    exact Or.inr ⟨fun _ => ⟨keeps, next⟩, started⟩
  | incoming =>
    simp only [exec] at ran
    split at ran <;> cases ran
    · exact Or.inr ⟨fun _ => ⟨.of_same rfl rfl rfl rfl rfl, fits_one fits_protocolError⟩, rfl⟩
    · exact Or.inr (silent (.of_same rfl rfl rfl rfl rfl) rfl rfl)
  | channelLost =>
    simp only [exec] at ran
    split at ran
    · cases ran
      exact Or.inr (silent (.of_same rfl rfl rfl rfl rfl) rfl rfl)
    split at ran <;> cases ran
    · refine Or.inr ⟨fun _ => ⟨.of_same rfl rfl rfl rfl rfl, fits_one ?_⟩, rfl⟩
      show some (⟨codeProtocolError, false⟩ : StreamError) ≠ some networkError
      decide
    · exact Or.inr ⟨fun _ => ⟨.of_same rfl rfl rfl rfl rfl, fits_one fits_protocolError⟩, rfl⟩
  | _ =>
    cases ran
    exact Or.inr (silent (.of_same rfl rfl rfl rfl rfl) rfl rfl)

/-! ### The reason in every run -/

/-- What every run keeps: the reason is told once, and what a section is about to say fits. -/
structure EndsInv (t : Calls) : Prop where
  opened : t.shared.closedCh = false → t.shared.closedBy = none ∧ t.shared.closeErr = none
  pending : ∀ op ∈ t.pending, Fits t.shared op
  own : t.shared.pcClosed = true → t.shared.closedCh = true ∨ t.shared.closedCleanly = true

/-- A reason that is told truthfully: a clean close was one, and no transport failed. -/
structure Truthful (c : WebrtcConn) : Prop where
  clean : c.closedCh = true → c.closeErr = none → c.closedCleanly = true
  lost : c.closedBy ≠ some .transport

/-- A lost transport, or the removal for another connection, is not the first to end the
connection. -/
def Orderly (t : Calls) : Label → Prop
  | .run thread =>
    match t.pool[thread]? with
    | some (.closeOnce .transport _ :: _) => t.shared.closedCh = true
    | some (.closeOnce .removed _ :: _) => t.shared.closedCh = true ∨ t.shared.closedCleanly = true
    | _ => True
  | _ => True

instance (t : Calls) (label : Label) : Decidable (Orderly t label) := by
  unfold Orderly
  split
  · split <;> infer_instance
  · infer_instance

theorem EndsInv.keep (inv : EndsInv t) (keeps : Keeps t.shared t'.shared)
    (comes : ∀ op ∈ t'.pending, op ∈ t.pending ∨ Fits t'.shared op) : EndsInv t' := by
  refine ⟨fun opened => ?_, fun op member => ?_, fun own => ?_⟩
  · rw [keeps.closedBy, keeps.closeErr]
    exact inv.opened (keeps.closedCh.symm.trans opened)
  · rcases comes op member with old | fits
    · exact (inv.pending op old).mono keeps.closedCh.trans keeps.cleanly
    · exact fits
  · rcases keeps.own own with before | now
    · rw [keeps.closedCh]
      exact (inv.own before).imp_right keeps.cleanly
    · exact now

theorem Truthful.keep (truthful : Truthful c) (keeps : Keeps c c') : Truthful c' := by
  refine ⟨fun closed none => keeps.cleanly (truthful.clean ?_ ?_), ?_⟩
  · exact keeps.closedCh.symm.trans closed
  · exact keeps.closeErr.symm.trans none
  · rw [keeps.closedBy]
    exact truthful.lost

/-- What a label does to the reason. -/
theorem step_reason (inv : EndsInv t) (stepped : step t label = some t') :
    (∃ thread ending err rest, label = .run thread ∧
      t.pool[thread]? = some (.closeOnce ending err :: rest) ∧
      t.shared.closedCh = false ∧ t'.shared =
        { t.shared with closedCh := true, closeErr := err, closedBy := some ending } ∧
      ∀ op ∈ t'.pending, op ∈ [.failFlow err, .pcClose] ∨ op ∈ t.pending) ∨
    (Keeps t.shared t'.shared ∧ ∀ op ∈ t'.pending, op ∈ t.pending ∨ Fits t'.shared op) := by
  have starts {c : WebrtcConn} {stack : List ConnSection} (fits : ∀ op ∈ stack, Fits c op) :
      ∀ op ∈ ((touch t c).start stack).pending, op ∈ t.pending ∨ Fits c op := by
    intro op member
    rw [Threads.pending_start] at member
    exact (List.mem_append.mp member).imp_right (fits op)
  have calls {stack : List ConnSection} (fits : ∀ op ∈ stack, Fits t.shared op) :
      Keeps t.shared (t.start stack).shared ∧
        ∀ op ∈ (t.start stack).pending, op ∈ t.pending ∨ Fits t.shared op :=
    ⟨.of_same rfl rfl rfl rfl rfl, starts fits⟩
  have closes (code : ErrorCode) : Keeps t.shared (closing code t).shared ∧
      ∀ op ∈ (closing code t).pending, op ∈ t.pending ∨ Fits (closing code t).shared op := by
    refine ⟨⟨rfl, rfl, rfl, fun clean => ?_, Or.inl⟩, starts fun op member => ?_⟩
    · show (t.shared.closedCleanly || decide (code = codeNone)) = true
      rw [clean, Bool.true_or]
    · rcases List.mem_cons.mp member with rfl | member
      · exact trivial
      · refine fits_teardown (show Tells _ _ (.closed code) from fun none => Or.inr ?_) op member
        show (t.shared.closedCleanly || decide (code = codeNone)) = true
        rw [decide_eq_true (reason_eq_none none), Bool.or_true]
  cases label with
  | run thread =>
    obtain ⟨op, rest, e, top, ran, rfl⟩ := Threads.advance_eq_some.mp stepped
    obtain ⟨-, -, comes⟩ := Threads.pending_members (e := e) top
    rcases exec_reason ran with ⟨ending, err, rfl, opened, rfl⟩ | ⟨quiet, started⟩
    · refine Or.inl ⟨thread, ending, err, rest, rfl, top, opened, rfl, fun op member => ?_⟩
      rcases comes op member with next | none | old
      · exact Or.inl next
      · cases none
      · exact Or.inr old
    · obtain ⟨keeps, next⟩ := quiet (inv.pending op (Threads.mem_pending top))
      refine Or.inr ⟨keeps, fun op member => ?_⟩
      rcases comes op member with new | none | old
      · exact Or.inr (next op new)
      · rw [started] at none
        cases none
      · exact Or.inl old
  | close =>
    cases stepped
    exact Or.inr (closes codeNone)
  | closeWithError code =>
    cases stepped
    exact Or.inr (closes code)
  | shutdown =>
    cases stepped
    exact Or.inr ⟨⟨rfl, rfl, rfl, fun _ => rfl, fun _ => Or.inr (Or.inr rfl)⟩,
      fun op member => Or.inl member⟩
  | control data =>
    cases stepped
    exact Or.inr (calls (fits_one trivial))
  | incoming =>
    cases stepped
    exact Or.inr (calls (fits_one trivial))
  | channelClosed =>
    cases stepped
    exact Or.inr (calls (fits_one trivial))
  | violation code =>
    cases stepped
    exact Or.inr (calls (fits_one fun none => by cases none))
  | helloTimeout =>
    cases stepped
    exact Or.inr (calls (fits_one fun none => by cases none))
  | stateChange s =>
    cases stepped
    refine Or.inr ⟨.of_same rfl rfl rfl rfl rfl, starts fun op member => ?_⟩
    have tells : Tells { t.shared with pcState := s } none
        (if t.shared.pcClosed then .closed codeNone else .transport) := by
      by_cases own : t.shared.pcClosed = true
      · rw [if_pos own]
        exact fun _ => inv.own own
      · rw [if_neg own]
        exact fun same => by cases same
    unfold onStateChange at member
    split at member
    · exact fits_markClosed tells op member
    · exact fits_markClosed tells op member
    · cases member
  | removed =>
    cases stepped
    exact Or.inr (calls (fits_markClosed rfl))
  | credit op =>
    cases stepped
    exact Or.inr ⟨.of_same rfl rfl rfl rfl rfl, fun op member => Or.inl member⟩

/-- **One step keeps what is to be said.** -/
theorem EndsInv.step (inv : EndsInv t) (stepped : WebrtcConn.step t label = some t') :
    EndsInv t' := by
  rcases step_reason inv stepped with ⟨thread, ending, err, rest, -, -, opened, shared, comes⟩
    | ⟨keeps, comes⟩
  · have closed : t'.shared.closedCh = true := by rw [shared]
    refine ⟨fun opened => ?_, fun op member => ?_, fun _ => Or.inl closed⟩
    · rw [closed] at opened
      cases opened
    · rcases comes op member with next | old
      · simp only [List.mem_cons, List.not_mem_nil, or_false] at next
        rcases next with rfl | rfl
        · exact trivial
        · exact closed
      · refine (inv.pending op old).mono (fun _ => closed) fun clean => ?_
        rw [shared]
        exact clean
  · exact inv.keep keeps comes

theorem endsInv_new (limits : FlowWindows) : EndsInv (new limits) := by
  refine ⟨fun _ => ⟨rfl, rfl⟩, fun op member => ?_, fun own => ?_⟩
  · cases member
  · cases own

/-- **An orderly step tells no false reason.** -/
theorem Truthful.step (truthful : Truthful t.shared) (inv : EndsInv t) (orderly : Orderly t label)
    (stepped : WebrtcConn.step t label = some t') : Truthful t'.shared := by
  rcases step_reason inv stepped with ⟨thread, ending, err, rest, rfl, top, opened, shared, -⟩
    | ⟨keeps, -⟩
  · have tells : Tells t.shared err ending := inv.pending _ (Threads.mem_pending top)
    have notTransport : ending ≠ .transport := by
      rintro rfl
      simp only [Orderly, top] at orderly
      rw [opened] at orderly
      cases orderly
    rw [shared]
    refine ⟨fun _ none => ?_, fun same => notTransport (Option.some.inj same)⟩
    have clean : t.shared.closedCh = true ∨ t.shared.closedCleanly = true := by
      cases ending with
      | transport => exact absurd rfl notTransport
      | removed =>
        simp only [Orderly, top] at orderly
        exact orderly
      | _ => exact tells none
    exact clean.resolve_left (by rw [opened]; decide)
  · exact truthful.keep keeps

/-- The reason that is read is sound: `Err` is `nil` on a closed connection only after a clean
close, and a connection whose transport failed tells `network-error` to `Err`, to `AcceptStream` and
to all who wait for credit. -/
structure Sound (c : WebrtcConn) : Prop where
  clean : c.closedCh = true → c.err = none → c.closedCleanly = true
  lost : c.closedBy = some .transport →
    c.err = some networkError.failure ∧ c.closeError = networkError.failure
  waits : c.closedBy = some .transport → ∀ error, c.flow.failed = some error →
    error = networkError.failure

theorem Truthful.sound (truthful : Truthful c) : Sound c := by
  refine ⟨fun closed none => truthful.clean closed ?_, fun lost => absurd lost truthful.lost,
    fun lost => absurd lost truthful.lost⟩
  unfold err at none
  rw [if_pos closed] at none
  exact Option.map_eq_none_iff.mp none

/-- **Close reasons are sound** in every state of a run exactly if a lost transport, or the removal
for another connection, is never the first to end the connection. -/
theorem close_reason_sound {limits : FlowWindows} {labels : List Label} :
    (∀ before t, before <+: labels → run step (new limits) before = some t → Sound t.shared) ↔
      Meets step Orderly (new limits) labels := by
  constructor
  · intro sound
    have preserves (t : Calls) (label : Label) (t' : Calls) (inv : EndsInv t)
      (stepped : step t label = some t') :
        EndsInv t' := inv.step stepped
    refine meets_of_never_of_inv preserves (fun t label inv broken => ?_) (endsInv_new limits)
      fun before final head ran (unsound : ¬ Sound final.shared) => unsound
        (sound before final head ran)
    cases label with
    | run thread =>
      simp only [Orderly] at broken
      split at broken
      · next err rest top =>
        have tells : Tells t.shared err .transport := inv.pending _ (Threads.mem_pending top)
        refine ⟨_, Threads.advance_eq_some.mpr ⟨_, rest, _, top, if_neg broken, rfl⟩,
          fun sound => ?_⟩
        have told : err.map StreamError.failure = some networkError.failure := (sound.lost rfl).1
        obtain ⟨error, rfl, same⟩ := Option.map_eq_some_iff.mp told
        cases error
        cases same
        exact tells rfl
      · next err rest top =>
        obtain ⟨opened, dirty⟩ := not_or.mp broken
        have tells : Tells t.shared err .removed := inv.pending _ (Threads.mem_pending top)
        cases tells
        exact ⟨_, Threads.advance_eq_some.mpr ⟨_, rest, _, top, if_neg opened, rfl⟩,
          fun sound => dirty (sound.clean rfl rfl)⟩
      · exact absurd trivial broken
    | _ => exact absurd trivial broken
  · intro meets before t head ran
    have preserves (t : Calls) (label : Label) (t' : Calls) (orderly : Orderly t label)
        (inv : EndsInv t ∧ Truthful t.shared) (stepped : step t label = some t') :
        EndsInv t' ∧ Truthful t'.shared :=
      ⟨inv.1.step stepped, inv.2.step inv.1 orderly stepped⟩
    have truthful (labels : List Label) (t : Calls) (meets : Meets step Orderly (new limits) labels)
        (ran : run step (new limits) labels = some t) : Sound t.shared := by
      refine (run_invariant_of_meets preserves meets ⟨endsInv_new limits, ?_⟩ ran).2.sound
      refine ⟨fun closed => ?_, fun lost => ?_⟩
      · cases closed
      · cases lost
    exact of_meets_of_before truthful meets head ran

end WebrtcConn

end Kps.Go
