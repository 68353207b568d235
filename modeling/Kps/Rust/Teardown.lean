/-
**How a Rust connection ends** (`WebrtcConn` of `conn.rs`, and the state callbacks of `listener.rs`
and `webrtc_client.rs`).

The first call of `mark` closes the connection, and writes its reason in a section of its own. It is
called by `close` and `close_with_error`, for control messages, by the task that `fatal` spawns,
when a reserved channel is lost, and by the callback of the peer connection's state. The watcher
task waits for the close and fails the credit, unless its timer takes it away. A thread is a call, a
callback or a spawned task; a section is what it does without giving way.

`closedBy` is what ended the connection, `closedCleanly` whether it was closed without a code from
here or by the peer, and `timeouts` logs, when the timer took its branch, whether the connection was
established. The streams that wait to be accepted are left out: `accept_stream` returns them first.
A wait for the close is over once `closed` is set.

* `watcher_rejects` — the credit waiters of a closed connection are rejected once the watcher has
  finished, if and only if the timer did not take its branch;
* `close_reason_sound` — the reasons are sound in every run in which no state callback is the first
  to mark.
-/

import Kps.Lib.Threads
import Kps.Rust.CreditWaits

namespace Kps.Rust

open Kps.Lib

/-- `RTCPeerConnectionState`. -/
inductive PcState
  | new
  | connecting
  | connected
  | disconnected
  | failed
  | closed
  deriving DecidableEq, Repr

/-- The association is gone. -/
def PcState.isDown : PcState → Bool
  | disconnected => true
  | failed => true
  | closed => true
  | _ => false

/-- What ends a connection. -/
inductive Ending
  /-- `close` or `close_with_error`; the close of the listener counts as the former. -/
  | closed (code : ErrorCode)
  | closedByPeer (code : ErrorCode)
  | fatal (code : ErrorCode)
  /-- The peer connection failed, or was closed and not from here. -/
  | transport
  deriving DecidableEq, Repr

/-- The reason that is marked for a code. -/
def ErrorCode.reason (code : ErrorCode) (remote : Bool) : Option StreamError :=
  if code = .none then Option.none else some ⟨code, remote⟩

/-- `FlowLimits`, as the engine computes with them. -/
def FlowLimits.windows (l : FlowLimits) : FlowWindows where
  maxStreamData := UInt64.ofNat l.maxStreamData
  maxData := UInt64.ofNat l.maxData
  maxStreams := UInt64.ofNat l.maxStreams

inductive ConnSection
  | storeTearing
  /-- The sections of `mark`; `closes` if `pc.close()` follows. -/
  | swap (ending : Ending) (reason : Option StreamError) (closes : Bool)
  | write (reason : Option StreamError)
  | pcClose
  | fatal (ending : Ending) (code : ErrorCode)
  | control (data : Bytes)
  | peerHello (limits : FlowWindows)
  | peerMaxData (v : UInt64)
  | peerMaxStreams (v : UInt64)
  | sendHello
  /-- `hello.check()`. -/
  | checkHello
  | incoming
  /-- The sections of `reserved_channel_lost`. -/
  | lost
  | lostOpen
  | lostState
  /-- `is_teardown` when the channel of a stream that is not wire-complete closes. -/
  | streamLost
  | streamLostOpen
  deriving DecidableEq, Repr

/-- Where the watcher task is. -/
inductive Watcher
  | select
  | waiting
  | reading
  | failing (reason : Option StreamError)
  | timedOut
  | finished
  deriving DecidableEq, Repr

/-- The branches of its `select!`. -/
inductive Branch
  | closed
  | established
  | timer
  deriving DecidableEq, Repr

/-- A connection; `closed` and `closeErr` are its `close_state`. -/
structure WebrtcConn where
  credit : CreditWaits
  tearingDown : Bool := false
  closed : Bool := false
  closeErr : Option StreamError := none
  helloSent : Bool := false
  helloReceived : Bool := false
  established : Bool := false
  pcState : PcState := .new
  /-- `pc.close()` was called. -/
  pcClosed : Bool := false
  timerElapsed : Bool := false
  watcher : Watcher := .select
  closedBy : Option Ending := none
  closedCleanly : Bool := false
  timeouts : List Bool := []

/-- The reason when the transport fails. -/
def networkError : StreamError := ⟨.networkError, false⟩

namespace WebrtcConn

abbrev Tasks := Threads WebrtcConn ConnSection

/-- `err`. -/
def err (c : WebrtcConn) : Option Error := if c.closed then c.closeErr.map .stream else none

/-- What `accept_stream` returns on a closed connection, and `wait_established`. -/
def closeError (c : WebrtcConn) : Error :=
  match c.closeErr with
  | some error => .stream error
  | none => .connClosed

def andThen (next : List ConnSection) (c : WebrtcConn) : Option (Effect WebrtcConn ConnSection) :=
  some ⟨c, next, []⟩

/-- An operation on the credit. -/
def onCredit (op : CreditOp) (c : WebrtcConn) : Option (Effect WebrtcConn ConnSection) :=
  (c.credit.step (.op op)).bind fun credit => andThen [] { c with credit }

/-- `mark`, and `pc.close()`. -/
def mark (ending : Ending) (reason : Option StreamError) : List ConnSection :=
  [.storeTearing, .swap ending reason true]

def protocolError : ConnSection := .fatal (.fatal .protocolError) .protocolError

/-- `on_control`. -/
def onControl (data : Bytes) (c : WebrtcConn) : Option (Effect WebrtcConn ConnSection) :=
  match decodeControl data with
  | .error _ => andThen [protocolError] c
  | .ok (.hello version limits) =>
    if c.helloReceived then andThen [protocolError] c
    else if version ≠ wireVersion then
      andThen (mark (.fatal .unsupported) (some ⟨.unsupported, false⟩)) { c with
        helloReceived := true }
    else andThen [.peerHello limits.windows, .checkHello] { c with helloReceived := true }
  | .ok (.close code) =>
    andThen (mark (.closedByPeer code) (code.reason true))
      { c with closedCleanly := c.closedCleanly || decide (code = .none) }
  | .ok (.maxData v) =>
    if c.helloReceived then andThen [.peerMaxData (UInt64.ofNat v)] c
    else andThen [protocolError] c
  | .ok (.maxStreams v) =>
    if c.helloReceived then andThen [.peerMaxStreams (UInt64.ofNat v)] c
    else andThen [protocolError] c

def exec (c : WebrtcConn) : ConnSection → Option (Effect WebrtcConn ConnSection)
  | .storeTearing => andThen [] { c with tearingDown := true }
  | .swap ending reason closes =>
    let close : List ConnSection := if closes then [.pcClose] else []
    if c.closed then andThen close c
    else andThen (.write reason :: close) { c with closed := true, closedBy := some ending }
  | .write reason => andThen [] { c with closeErr := reason }
  | .pcClose => andThen [] { c with pcClosed := true }
  | .fatal ending code =>
    if c.tearingDown then andThen [] c
    else some ⟨{ c with tearingDown := true }, [], [[.swap ending (some ⟨code, false⟩) true]]⟩
  | .control data => c.onControl data
  | .peerHello limits => c.onCredit (.onPeerHello limits)
  | .peerMaxData v => c.onCredit (.onPeerMaxData v)
  | .peerMaxStreams v => c.onCredit (.onPeerMaxStreams v)
  | .sendHello =>
    if c.helloSent then andThen [] c else andThen [.checkHello] { c with helloSent := true }
  | .checkHello =>
    andThen [] { c with established := c.established || (c.helloSent && c.helloReceived) }
  | .incoming =>
    match c.credit.flow.peerStreamOpened.value with
    | .error _ => andThen [protocolError] c
    | .ok _ => c.onCredit .peerStreamOpened
  | .lost => andThen (if c.tearingDown then [] else [.lostOpen]) c
  | .lostOpen => andThen (if c.closed then [] else [.lostState]) c
  | .lostState =>
    if c.pcState.isDown then andThen (mark .transport (some networkError)) c
    else andThen [protocolError] c
  | .streamLost => andThen (if c.tearingDown then [] else [.streamLostOpen]) c
  | .streamLostOpen =>
    if c.closed then andThen [] c
    else if c.pcState.isDown ∧ ¬ c.pcClosed then andThen [.fatal .transport .protocolError] c
    else andThen [protocolError] c

inductive Label
  | run (thread : Nat)
  | close
  | closeWithError (code : ErrorCode)
  /-- The listener closes the peer connection. -/
  | shutdown
  | control (data : Bytes)
  /-- The control channel opens. -/
  | controlOpen
  | incoming
  | reservedClosed
  | streamClosed
  /-- A stream reports a violation. -/
  | violation (code : ErrorCode)
  | stateChange (s : PcState)
  /-- Anything else that moves the credit, or waits for it. -/
  | credit (label : CreditWaits.Label)
  | timer
  /-- The watcher's `select!` takes a branch. -/
  | select (branch : Branch)
  /-- The watcher's next step after it. -/
  | watcher
  deriving DecidableEq, Repr

/-- The state callback: `mark(None)` if the peer connection failed or was closed. -/
def onStateChange (c : WebrtcConn) : PcState → List ConnSection
  | .failed => [.swap (if c.pcClosed then .closed .none else .transport) none false]
  | .closed => [.swap (if c.pcClosed then .closed .none else .transport) none false]
  | _ => []

/-- The connection changes, and no thread. -/
def touch (t : Tasks) (c : WebrtcConn) : Tasks := { t with shared := c }

def step (t : Tasks) : Label → Option Tasks
  | .run thread => t.advance exec thread
  | .close =>
    some ((touch t { t.shared with closedCleanly := true }).start (mark (.closed .none) none))
  | .closeWithError code =>
    some ((touch t { t.shared with
      closedCleanly := t.shared.closedCleanly || decide (code = .none) }).start
      (mark (.closed code) (code.reason false)))
  | .shutdown => some (touch t { t.shared with closedCleanly := true, pcClosed := true })
  | .control data => some (t.start [.control data])
  | .controlOpen => some (t.start [.sendHello])
  | .incoming => some (t.start [.incoming])
  | .reservedClosed => some (t.start [.lost])
  | .streamClosed => some (t.start [.streamLost])
  | .violation code => some (t.start [.fatal (.fatal code) code])
  | .stateChange s =>
    some ((touch t { t.shared with pcState := s }).start (t.shared.onStateChange s))
  | .credit label =>
    if label.isFail then none
    else (t.shared.credit.step label).map fun credit => touch t { t.shared with credit }
  | .timer => some (touch t { t.shared with timerElapsed := true })
  | .select branch =>
    match t.shared.watcher, branch with
    | .select, .closed =>
      if t.shared.closed then some (touch t { t.shared with watcher := .reading }) else none
    | .select, .established =>
      if t.shared.established then some (touch t { t.shared with watcher := .waiting }) else none
    | .select, .timer =>
      if t.shared.timerElapsed then
        some (touch t { t.shared with
          watcher := .timedOut
          timeouts := t.shared.timeouts ++ [t.shared.established] })
      else none
    | _, _ => none
  | .watcher =>
    match t.shared.watcher with
    | .waiting =>
      if t.shared.closed then some (touch t { t.shared with watcher := .reading }) else none
    | .reading => some (touch t { t.shared with watcher := .failing t.shared.closeErr })
    | .failing reason =>
      (t.shared.credit.step (.op (.fail reason))).map fun credit =>
        touch t { t.shared with credit, watcher := .finished }
    | .timedOut =>
      some ((touch t { t.shared with watcher := .finished }).start
        [.fatal (.fatal .timeout) .timeout])
    | _ => none

def new (limits : FlowWindows) : Tasks := ⟨{ credit := .new limits }, []⟩

variable {c c' : WebrtcConn} {t t' : Tasks} {op : ConnSection} {e : Effect WebrtcConn ConnSection}
    {label : Label}

/-! ### The watcher -/

/-- The watcher does not move, and the connection does not fail its credit. -/
structure Frame (c c' : WebrtcConn) : Prop where
  watcher : c'.watcher = c.watcher := by rfl
  timeouts : c'.timeouts = c.timeouts := by rfl
  credit : c'.credit = c.credit ∨ ∃ label, (∀ error, label ≠ .op (.fail error)) ∧
    c.credit.step label = some c'.credit := by exact Or.inl rfl

theorem onCredit_frame {op : CreditOp} (other : ∀ error, op ≠ .fail error)
    (ran : c.onCredit op = some e) :
    Frame c e.shared ∧ e.next = [] ∧ e.started = [] := by
  obtain ⟨credit, stepped, done⟩ := Option.bind_eq_some_iff.mp ran
  cases done
  refine ⟨⟨rfl, rfl, Or.inr ⟨.op op, fun error same => ?_, stepped⟩⟩, rfl, rfl⟩
  cases same
  exact other error rfl

theorem onControl_frame {data : Bytes} (ran : c.onControl data = some e) : Frame c e.shared := by
  unfold onControl at ran
  split at ran
  · cases ran
    exact ⟨rfl, rfl, Or.inl rfl⟩
  · split at ran
    · cases ran
      exact ⟨rfl, rfl, Or.inl rfl⟩
    split at ran <;> cases ran <;> exact ⟨rfl, rfl, Or.inl rfl⟩
  · cases ran
    exact ⟨rfl, rfl, Or.inl rfl⟩
  · split at ran <;> cases ran <;> exact ⟨rfl, rfl, Or.inl rfl⟩
  · split at ran <;> cases ran <;> exact ⟨rfl, rfl, Or.inl rfl⟩

/-- **No thread but the watcher fails the credit.** -/
theorem exec_frame (ran : c.exec op = some e) : Frame c e.shared := by
  cases op with
  | swap ending reason closes =>
    simp only [exec] at ran
    split at ran <;> cases ran <;> exact ⟨rfl, rfl, Or.inl rfl⟩
  | fatal ending code =>
    simp only [exec] at ran
    split at ran <;> cases ran <;> exact ⟨rfl, rfl, Or.inl rfl⟩
  | control data => exact onControl_frame ran
  | peerHello limits => exact (onCredit_frame (by simp) ran).1
  | peerMaxData v => exact (onCredit_frame (by simp) ran).1
  | peerMaxStreams v => exact (onCredit_frame (by simp) ran).1
  | sendHello =>
    simp only [exec] at ran
    split at ran <;> cases ran <;> exact ⟨rfl, rfl, Or.inl rfl⟩
  | incoming =>
    simp only [exec] at ran
    split at ran
    · cases ran
      exact ⟨rfl, rfl, Or.inl rfl⟩
    · exact (onCredit_frame (by simp) ran).1
  | lostState =>
    simp only [exec] at ran
    split at ran <;> cases ran <;> exact ⟨rfl, rfl, Or.inl rfl⟩
  | streamLostOpen =>
    simp only [exec] at ran
    split at ran
    · cases ran
      exact ⟨rfl, rfl, Or.inl rfl⟩
    split at ran <;> cases ran <;> exact ⟨rfl, rfl, Or.inl rfl⟩
  | _ =>
    cases ran
    exact ⟨rfl, rfl, Or.inl rfl⟩

/-- What the watcher did, and did not do. -/
structure WatchInv (c : WebrtcConn) : Prop where
  registered : c.credit.Registered
  wakes : c.credit.FailWakes
  failed : c.credit.flow.isFailed = true → c.watcher = .finished ∧ c.timeouts = []
  finished : c.watcher = .finished → c.timeouts ≠ [] ∨ c.credit.flow.isFailed = true
  timed : c.timeouts ≠ [] → c.watcher = .timedOut ∨ c.watcher = .finished
  timedOut : c.watcher = .timedOut → c.timeouts ≠ []

theorem Frame.failed (frame : Frame c c') : c'.credit.flow.isFailed = c.credit.flow.isFailed ∧
    c'.credit.flow.failed = c.credit.flow.failed := by
  rcases frame.credit with same | ⟨label, other, stepped⟩
  · rw [same]
    exact ⟨rfl, rfl⟩
  · exact CreditWaits.step_failed stepped other

theorem WatchInv.frame (inv : WatchInv c) (frame : Frame c c') : WatchInv c' := by
  have credit : c'.credit.Registered ∧ c'.credit.FailWakes := by
    rcases frame.credit with same | ⟨label, -, stepped⟩
    · rw [same]
      exact ⟨inv.registered, inv.wakes⟩
    · exact ⟨inv.registered.step stepped, inv.wakes.step inv.registered stepped⟩
  refine ⟨credit.1, credit.2, ?_, ?_, ?_, ?_⟩
  · rw [frame.failed.1, frame.watcher, frame.timeouts]
    exact inv.failed
  · rw [frame.failed.1, frame.watcher, frame.timeouts]
    exact inv.finished
  · rw [frame.watcher, frame.timeouts]
    exact inv.timed
  · rw [frame.watcher, frame.timeouts]
    exact inv.timedOut

/-- A step of anybody but the watcher. -/
theorem step_frame (stepped : step t label = some t') (select : ∀ branch, label ≠ .select branch)
    (watcher : label ≠ .watcher) : Frame t.shared t'.shared := by
  cases label with
  | run thread =>
    obtain ⟨op, rest, e, top, ran, rfl⟩ := Threads.advance_eq_some.mp stepped
    exact exec_frame ran
  | credit label =>
    simp only [WebrtcConn.step] at stepped
    split at stepped
    · cases stepped
    · next other =>
      obtain ⟨credit, moved, rfl⟩ := Option.map_eq_some_iff.mp stepped
      refine ⟨rfl, rfl, Or.inr ⟨label, fun error same => ?_, moved⟩⟩
      subst same
      exact other rfl
  | select branch => exact absurd rfl (select branch)
  | watcher => exact absurd rfl watcher
  | _ =>
    cases stepped
    exact ⟨rfl, rfl, Or.inl rfl⟩

/-- **One step keeps the watcher's invariant.** -/
theorem WatchInv.step (inv : WatchInv t.shared) (stepped : WebrtcConn.step t label = some t') :
    WatchInv t'.shared := by
  have live (early : t.shared.watcher ≠ .finished) : t.shared.credit.flow.isFailed = false := by
    by_contra failed
    exact early (inv.failed (Bool.not_eq_false _ ▸ failed)).1
  have timely (early : t.shared.watcher ≠ .finished) (time : t.shared.watcher ≠ .timedOut) :
      t.shared.timeouts = [] := by
    by_contra late
    exact (inv.timed late).elim time early
  -- the watcher goes on, and has not come to its end
  have goes {next : Watcher} (early : t.shared.watcher ≠ .finished)
    (time : t.shared.watcher ≠ .timedOut)
      (more : next ≠ .finished) (time' : next ≠ .timedOut) : WatchInv { t.shared with
        watcher := next } := by
    refine ⟨inv.registered, inv.wakes, fun failed => ?_, fun last => absurd last more,
      fun late => ?_, fun last => absurd last time'⟩
    · rw [live early] at failed
      cases failed
    · exact absurd (timely early time) late
  by_cases select : ∃ branch, label = .select branch
  · obtain ⟨branch, rfl⟩ := select
    simp only [WebrtcConn.step] at stepped
    split at stepped
    · next at' =>
      split at stepped <;> cases stepped
      exact goes (by rw [at']; decide) (by rw [at']; decide) (by decide) (by decide)
    · next at' =>
      split at stepped <;> cases stepped
      exact goes (by rw [at']; decide) (by rw [at']; decide) (by decide) (by decide)
    · next at' =>
      split at stepped <;> cases stepped
      refine ⟨inv.registered, inv.wakes, fun failed => ?_, fun last => (by cases last),
        fun _ => Or.inl rfl, fun _ => by simp [touch]⟩
      have failed : t.shared.credit.flow.isFailed = true := failed
      rw [live (by rw [at']; decide)] at failed
      cases failed
    · cases stepped
  by_cases watcher : label = .watcher
  · subst watcher
    simp only [WebrtcConn.step] at stepped
    split at stepped
    · next at' =>
      split at stepped <;> cases stepped
      exact goes (by rw [at']; decide) (by rw [at']; decide) (by decide) (by decide)
    · next at' =>
      cases stepped
      exact goes (by rw [at']; decide) (by rw [at']; decide) (by simp) (by simp)
    · next reason at' =>
      obtain ⟨credit, moved, rfl⟩ := Option.map_eq_some_iff.mp stepped
      have none := timely (by rw [at']; simp) (by rw [at']; simp)
      have failed : credit.flow.isFailed = true := by
        cases moved
        show (t.shared.credit.flow.fail reason).isFailed = true
        unfold ConnFlow.fail
        split
        · assumption
        · rfl
      exact ⟨inv.registered.step moved, inv.wakes.step inv.registered moved, fun _ => ⟨rfl, none⟩,
        fun _ => Or.inr failed, fun late => absurd none late, fun last => by cases last⟩
    · next at' =>
      cases stepped
      have late := inv.timedOut at'
      refine ⟨inv.registered, inv.wakes, fun failed => ?_, fun _ => Or.inl late,
        fun _ => Or.inr rfl, fun last => by cases last⟩
      have failed : t.shared.credit.flow.isFailed = true := failed
      rw [live (by rw [at']; decide)] at failed
      cases failed
    · cases stepped
  · exact inv.frame (step_frame stepped (fun branch same => select ⟨branch, same⟩) watcher)

theorem watchInv_new (limits : FlowWindows) : WatchInv (new limits).shared := by
  refine ⟨(CreditWaits.inv_new limits).toRegistered, fun failed => ?_, fun failed => ?_,
    fun last => ?_, fun late => ?_, fun last => ?_⟩
  · cases failed
  · cases failed
  · cases last
  · exact absurd rfl late
  · cases last

/-- The timer took its branch. -/
theorem step_timeouts (stepped : step t label = some t') :
    t'.shared.timeouts ≠ [] ↔ t.shared.timeouts ≠ [] ∨ label = .select .timer := by
  by_cases select : ∃ branch, label = .select branch
  · obtain ⟨branch, rfl⟩ := select
    simp only [WebrtcConn.step] at stepped
    split at stepped
    · split at stepped <;> cases stepped
      simp [touch]
    · split at stepped <;> cases stepped
      simp [touch]
    · split at stepped <;> cases stepped
      simp [touch]
    · cases stepped
  have other : label ≠ .select .timer := fun same => select ⟨_, same⟩
  rw [or_iff_left other]
  by_cases watcher : label = .watcher
  · subst watcher
    simp only [WebrtcConn.step] at stepped
    split at stepped
    · split at stepped <;> cases stepped
      exact Iff.rfl
    · cases stepped
      exact Iff.rfl
    · obtain ⟨credit, moved, rfl⟩ := Option.map_eq_some_iff.mp stepped
      exact Iff.rfl
    · cases stepped
      exact Iff.rfl
    · cases stepped
  · rw [(step_frame stepped (fun branch same => select ⟨branch, same⟩) watcher).timeouts]

theorem run_timeouts {labels : List Label} (ran : run step t labels = some t') :
    t'.shared.timeouts ≠ [] ↔ t.shared.timeouts ≠ [] ∨ .select .timer ∈ labels := by
  induction labels generalizing t with
  | nil =>
    cases ran
    simp
  | cons label labels ih =>
    obtain ⟨next, stepped, rest⟩ := run_cons.mp ran
    rw [ih rest, step_timeouts stepped, List.mem_cons, or_assoc, eq_comm (a := label)]

/-- The timer took its branch only while the connection was not established; and once the connection
is closed and the watcher has finished, everybody who waits for credit is rejected. -/
structure Watched (c : WebrtcConn) : Prop where
  timer : ∀ established ∈ c.timeouts, established = false
  rejects : c.closed = true → c.watcher = .finished → c.credit.Rejects

/-- **The watcher rejects everybody unless its timer takes it away.** -/
theorem watcher_rejects {limits : FlowWindows} {labels : List Label}
    (ran : run step (new limits) labels = some t) :
    (.select .timer ∉ labels → Watched t.shared) ∧
    (t.shared.closed = true → t.shared.watcher = .finished →
      (Watched t.shared ↔ .select .timer ∉ labels)) := by
  have preserves (t : Tasks) (label : Label) (t' : Tasks) (inv : WatchInv t.shared)
      (stepped : step t label = some t') : WatchInv t'.shared := inv.step stepped
  have inv : WatchInv t.shared := run_invariant preserves (watchInv_new limits) ran
  have timeouts := run_timeouts ran
  rw [or_iff_right (show ¬ (new limits).shared.timeouts ≠ [] from fun late => late rfl)] at timeouts
  have watched (timely : .select .timer ∉ labels) : Watched t.shared := by
    have none : t.shared.timeouts = [] := not_not.mp (mt timeouts.mp timely)
    refine ⟨fun established member => ?_, fun closed finished => ?_⟩
    · rw [none] at member
      cases member
    · exact inv.wakes.rejects ((inv.finished finished).resolve_left (not_not_intro none))
  refine ⟨watched, fun closed finished => ⟨fun watched late => ?_, watched⟩⟩
  exact timeouts.mpr late (inv.failed (watched.rejects closed finished).failed).2

/-- The HELLO exchange, and a writer that spends its credit and waits for more. -/
def establishes : List Label :=
  [.controlOpen, .run 0, .run 0, .control (encodeHello ⟨1, 8, 8⟩), .run 1, .run 1, .run 1,
    .credit (.op .newStream), .credit (.op (.pollReserve 1 1)), .credit (.op (.pollReserve 1 1))]

/-- The peer closes the connection with `protocol-error`, and the watcher sees it. -/
def peerCloses : List Label :=
  establishes ++ [.select .established, .control (encodeConnClose .protocolError), .run 2, .run 2,
    .run 2, .run 2, .watcher, .watcher, .watcher]

theorem watcher_rejects_peerCloses : ∃ t, run step (new defaultFlowLimits) peerCloses = some t ∧
    t.shared.credit.flow.failure = .stream ⟨.protocolError, true⟩ ∧ Watched t.shared := by
  have closes : (run step (new defaultFlowLimits) peerCloses).any (fun t =>
      decide (t.shared.credit.flow.failure = .stream ⟨.protocolError, true⟩)) =
        true := by decide +kernel
  obtain ⟨t, ran, failure⟩ := (Option.any_eq_true _ _).mp closes
  exact ⟨t, ran, of_decide_eq_true failure, (watcher_rejects ran).1 (by decide)⟩

/-- The timer elapses on a connection that is established, and the `select!` takes its branch. -/
def timesOut : List Label :=
  establishes ++ [.timer, .select .timer, .watcher, .run 2, .run 3, .run 3, .run 3]

/-- **The timer closes an established connection, and nobody fails its credit.** -/
theorem watcher_timesOut : ∃ t, run step (new defaultFlowLimits) timesOut = some t ∧
    t.shared.timeouts = [true] ∧ t.shared.err = some (.stream ⟨.timeout, false⟩) ∧
    t.shared.watcher = .finished ∧
    t.shared.credit.waits = [(1, 1)] ∧ t.shared.credit.flow.isFailed = false ∧
    ¬ Watched t.shared := by
  have times : (run step (new defaultFlowLimits) timesOut).any
      (fun t => decide (t.shared.timeouts = [true] ∧
      t.shared.err = some (.stream ⟨.timeout, false⟩) ∧ t.shared.watcher = .finished ∧
      t.shared.credit.waits = [(1, 1)] ∧ t.shared.credit.flow.isFailed = false)) =
        true := by decide +kernel
  obtain ⟨t, ran, facts⟩ := (Option.any_eq_true _ _).mp times
  obtain ⟨timeouts, err, finished, waits, live⟩ := of_decide_eq_true facts
  refine ⟨t, ran, timeouts, err, finished, waits, live, fun watched => ?_⟩
  have established := watched.timer true (by rw [timeouts]; exact List.mem_singleton_self _)
  cases established

/-! ### What ended the connection -/

/-- A reason that is told truthfully: a clean close was one, and a transport that failed is
`network-error`. -/
structure Truthful (c : WebrtcConn) (reason : Option StreamError) : Prop where
  clean : reason = none → c.closedCleanly = true
  lost : c.closedBy = some .transport → reason = some networkError

/-- What a section that is pending says. -/
def Fits (c : WebrtcConn) : ConnSection → Prop
  | .swap ending reason _ =>
    reason = none → c.closed = true ∨ ending = .transport ∨ c.closedCleanly = true
  | .write reason => c.closed = true ∧ Truthful c reason
  | .pcClose => c.closed = true
  | _ => True

/-- What no mark changes. -/
structure Grows (c c' : WebrtcConn) : Prop where
  closed : c'.closed = c.closed := by rfl
  closedBy : c'.closedBy = c.closedBy := by rfl
  closeErr : c'.closeErr = c.closeErr := by rfl
  cleanly : c.closedCleanly = true → c'.closedCleanly = true := by exact id
  own : c'.pcClosed = true → c.pcClosed = true ∨ c'.closed = true ∨
    c'.closedCleanly = true := by exact Or.inl

theorem Truthful.grow {reason : Option StreamError} (truthful : Truthful c reason)
    (cleanly : c.closedCleanly = true → c'.closedCleanly = true)
    (closedBy : c'.closedBy = c.closedBy) :
    Truthful c' reason :=
  ⟨fun none => cleanly (truthful.clean none), fun lost => truthful.lost (closedBy ▸ lost)⟩

theorem Fits.grow (fits : Fits c op) (grows : Grows c c') : Fits c' op := by
  cases op with
  | swap ending reason closes =>
    exact fun none => (fits none).imp grows.closed.trans fun rest => rest.imp_right grows.cleanly
  | write reason => exact ⟨grows.closed.trans fits.1, fits.2.grow grows.cleanly grows.closedBy⟩
  | pcClose => exact grows.closed.trans fits
  | _ => exact trivial

/-- A connection that does not close. -/
theorem Grows.of_same (closed : c'.closed = c.closed) (closedBy : c'.closedBy = c.closedBy)
    (closeErr : c'.closeErr = c.closeErr) (cleanly : c'.closedCleanly = c.closedCleanly)
    (own : c'.pcClosed = c.pcClosed) : Grows c c' :=
  ⟨closed, closedBy, closeErr, fun clean => cleanly.trans clean,
    fun now => Or.inl (own.symm.trans now)⟩

theorem fits_mark {ending : Ending} {reason : Option StreamError}
    (clean : reason = none → ending = .transport ∨ c.closedCleanly = true) :
    ∀ op ∈ mark ending reason, Fits c op := by
  intro op member
  simp only [mark, List.mem_cons, List.not_mem_nil, or_false] at member
  rcases member with rfl | rfl
  · exact trivial
  · exact fun none => Or.inr (clean none)

theorem fits_singleton {op : ConnSection} (fits : Fits c op) : ∀ other ∈ [op], Fits c other := by
  intro other member
  rw [List.mem_singleton.mp member]
  exact fits

theorem reason_eq_none {code : ErrorCode} {remote : Bool}
    (none : code.reason remote = Option.none) : code = .none := by
  unfold ErrorCode.reason at none
  split at none
  · assumption
  · cases none

theorem onControl_grows {data : Bytes} (ran : c.onControl data = some e) : Grows c e.shared ∧
    (∀ op ∈ e.next, Fits e.shared op) ∧ e.started = [] := by
  unfold onControl at ran
  split at ran
  · cases ran
    exact ⟨.of_same rfl rfl rfl rfl rfl, fits_singleton trivial, rfl⟩
  · split at ran
    · cases ran
      exact ⟨.of_same rfl rfl rfl rfl rfl, fits_singleton trivial, rfl⟩
    split at ran
    · cases ran
      exact ⟨.of_same rfl rfl rfl rfl rfl, fits_mark (by simp), rfl⟩
    · cases ran
      refine ⟨.of_same rfl rfl rfl rfl rfl, fun op member => ?_, rfl⟩
      simp only [List.mem_cons, List.not_mem_nil, or_false] at member
      rcases member with rfl | rfl <;> exact trivial
  · next code decoded =>
    cases ran
    refine ⟨⟨rfl, rfl, rfl, fun clean => ?_, Or.inl⟩, fits_mark fun none => Or.inr ?_, rfl⟩
    · show (c.closedCleanly || decide (code = .none)) = true
      rw [clean, Bool.true_or]
    · show (c.closedCleanly || decide (code = .none)) = true
      rw [decide_eq_true (reason_eq_none none), Bool.or_true]
  · split at ran <;> cases ran <;>
      exact ⟨.of_same rfl rfl rfl rfl rfl, fits_singleton trivial, rfl⟩
  · split at ran <;> cases ran <;>
      exact ⟨.of_same rfl rfl rfl rfl rfl, fits_singleton trivial, rfl⟩

theorem onCredit_grows {op : CreditOp} (ran : c.onCredit op = some e) : Grows c e.shared ∧
    (∀ op ∈ e.next, Fits e.shared op) ∧ e.started = [] := by
  obtain ⟨credit, stepped, done⟩ := Option.bind_eq_some_iff.mp ran
  cases done
  refine ⟨.of_same rfl rfl rfl rfl rfl, fun op member => ?_, rfl⟩
  cases member

/-- **What a section does to the close state**: it is the first mark to swap, it writes a reason, or
it leaves the state. -/
theorem exec_ends (ran : c.exec op = some e) :
    (∃ ending reason closes, op = .swap ending reason closes ∧ c.closed = false ∧
      e = ⟨{ c with closed := true, closedBy := some ending },
        .write reason :: (if closes then [.pcClose] else []), []⟩) ∨
    (∃ reason, op = .write reason ∧ e = ⟨{ c with closeErr := reason }, [], []⟩) ∨
    ((∀ reason, op ≠ .write reason) ∧ (Fits c op → Grows c e.shared) ∧
      (∀ op ∈ e.next, Fits e.shared op) ∧ ∀ op ∈ e.started.flatten, Fits e.shared op) := by
  have quiet (other : ∀ reason, op ≠ .write reason) (grows : Fits c op → Grows c e.shared)
      (next : ∀ op ∈ e.next, Fits e.shared op)
      (started : ∀ op ∈ e.started.flatten, Fits e.shared op) :
      (∃ ending reason closes, op = .swap ending reason closes ∧ c.closed = false ∧
        e = ⟨{ c with closed := true, closedBy := some ending },
          .write reason :: (if closes then [.pcClose] else []), []⟩) ∨
      (∃ reason, op = .write reason ∧ e = ⟨{ c with closeErr := reason }, [], []⟩) ∨
      ((∀ reason, op ≠ .write reason) ∧ (Fits c op → Grows c e.shared) ∧
        (∀ op ∈ e.next, Fits e.shared op) ∧ ∀ op ∈ e.started.flatten, Fits e.shared op) :=
    Or.inr (Or.inr ⟨other, grows, next, started⟩)
  have none : ∀ op ∈ ([] : List ConnSection), Fits e.shared op :=
    fun op member => absurd member List.not_mem_nil
  have same (closed : e.shared.closed = c.closed) (closedBy : e.shared.closedBy = c.closedBy)
      (closeErr : e.shared.closeErr = c.closeErr)
      (cleanly : e.shared.closedCleanly = c.closedCleanly)
      (own : e.shared.pcClosed = c.pcClosed) (_ : Fits c op) : Grows c e.shared :=
    .of_same closed closedBy closeErr cleanly own
  have credits {op : CreditOp} (ran : c.onCredit op = some e) : Grows c e.shared ∧
      (∀ op ∈ e.next, Fits e.shared op) ∧ ∀ op ∈ e.started.flatten, Fits e.shared op := by
    obtain ⟨grows, next, started⟩ := onCredit_grows ran
    refine ⟨grows, next, ?_⟩
    rw [started]
    exact none
  cases op with
  | swap ending reason closes =>
    simp only [exec] at ran
    split at ran
    · next closed =>
      cases ran
      refine quiet (by simp) (same rfl rfl rfl rfl rfl) (fun op member => ?_) none
      split at member
      · rw [List.mem_singleton.mp member]
        exact closed
      · cases member
    · next opened =>
      cases ran
      exact Or.inl ⟨ending, reason, closes, rfl, Bool.not_eq_true _ ▸ opened, rfl⟩
  | write reason =>
    cases ran
    exact Or.inr (Or.inl ⟨reason, rfl, rfl⟩)
  | pcClose =>
    cases ran
    exact quiet (by simp)
      (fun closed => ⟨rfl, rfl, rfl, fun clean => clean, fun _ => Or.inr (Or.inl closed)⟩) none none
  | control data =>
    obtain ⟨grows, next, started⟩ := onControl_grows ran
    refine quiet (by simp) (fun _ => grows) next ?_
    rw [started]
    exact none
  | fatal ending code =>
    simp only [exec] at ran
    split at ran <;> cases ran
    · exact quiet (by simp) (same rfl rfl rfl rfl rfl) none none
    · exact quiet (by simp) (same rfl rfl rfl rfl rfl) none
        (fits_singleton fun clean => by cases clean)
  | peerHello limits =>
    exact quiet (by simp) (fun _ => (credits ran).1) (credits ran).2.1 (credits ran).2.2
  | peerMaxData v =>
    exact quiet (by simp) (fun _ => (credits ran).1) (credits ran).2.1 (credits ran).2.2
  | peerMaxStreams v =>
    exact quiet (by simp) (fun _ => (credits ran).1) (credits ran).2.1 (credits ran).2.2
  | sendHello =>
    simp only [exec] at ran
    split at ran <;> cases ran
    · exact quiet (by simp) (same rfl rfl rfl rfl rfl) none none
    · exact quiet (by simp) (same rfl rfl rfl rfl rfl) (fits_singleton trivial) none
  | incoming =>
    simp only [exec] at ran
    split at ran
    · cases ran
      exact quiet (by simp) (same rfl rfl rfl rfl rfl) (fits_singleton trivial) none
    · exact quiet (by simp) (fun _ => (credits ran).1) (credits ran).2.1 (credits ran).2.2
  | lost =>
    cases ran
    refine quiet (by simp) (same rfl rfl rfl rfl rfl) ?_ none
    dsimp only
    split
    · exact none
    · exact fits_singleton trivial
  | lostOpen =>
    cases ran
    refine quiet (by simp) (same rfl rfl rfl rfl rfl) ?_ none
    dsimp only
    split
    · exact none
    · exact fits_singleton trivial
  | lostState =>
    simp only [exec] at ran
    split at ran <;> cases ran
    · exact quiet (by simp) (same rfl rfl rfl rfl rfl) (fits_mark (by simp)) none
    · exact quiet (by simp) (same rfl rfl rfl rfl rfl) (fits_singleton trivial) none
  | streamLost =>
    cases ran
    refine quiet (by simp) (same rfl rfl rfl rfl rfl) ?_ none
    dsimp only
    split
    · exact none
    · exact fits_singleton trivial
  | streamLostOpen =>
    simp only [exec] at ran
    split at ran
    · cases ran
      exact quiet (by simp) (same rfl rfl rfl rfl rfl) none none
    split at ran <;> cases ran
    · exact quiet (by simp) (same rfl rfl rfl rfl rfl) (fits_singleton trivial) none
    · exact quiet (by simp) (same rfl rfl rfl rfl rfl) (fits_singleton trivial) none
  | _ =>
    cases ran
    exact quiet (by simp) (same rfl rfl rfl rfl rfl) none none

/-! ### The reason in every run -/

/-- No reason that is pending or written is false, and what the watcher passes on is not either. -/
structure EndsInv (t : Tasks) : Prop where
  opened : t.shared.closed = false → t.shared.closedBy = none ∧ t.shared.closeErr = none
  pending : ∀ op ∈ t.pending, Fits t.shared op
  own : t.shared.pcClosed = true → t.shared.closed = true ∨ t.shared.closedCleanly = true
  settled : t.shared.closed = true →
    (∃ error, .write (some error) ∈ t.pending) ∨ Truthful t.shared t.shared.closeErr
  reading : t.shared.watcher = .reading → t.shared.closed = true
  failing : ∀ reason, t.shared.watcher = .failing reason → t.shared.closed = true ∧
    (t.shared.closedBy = some .transport → reason = some networkError)
  failed : t.shared.credit.flow.isFailed = true → t.shared.closed = true ∧
    (t.shared.closedBy = some .transport → t.shared.credit.flow.failed = some networkError)

/-- A reason that is not written yet. -/
def unwritten : ConnSection → Bool
  | .write (some _) => true
  | _ => false

/-- A transport failure is the first to mark only with `network-error`, and the watcher does not
read between the swap of such a mark and its write. -/
def Orderly (t : Tasks) : Label → Prop
  | .run thread =>
    match t.pool[thread]? with
    | some (.swap .transport reason _ :: _) => t.shared.closed = true ∨ reason = some networkError
    | _ => True
  | .watcher => t.shared.watcher = .reading → t.shared.closedBy = some .transport →
      ∀ op ∈ t.pending, unwritten op = false
  | _ => True

instance (t : Tasks) (label : Label) : Decidable (Orderly t label) := by
  unfold Orderly
  split
  · split <;> infer_instance
  · infer_instance
  · infer_instance

theorem EndsInv.grow (inv : EndsInv t) (grows : Grows t.shared t'.shared)
    (frame : Frame t.shared t'.shared)
    (comes : ∀ op ∈ t'.pending, op ∈ t.pending ∨ Fits t'.shared op)
    (kept : ∀ error, .write (some error) ∈ t.pending → .write (some error) ∈ t'.pending) :
      EndsInv t' := by
  refine ⟨fun opened => ?_, fun op member => ?_, fun own => ?_, fun closed => ?_, fun at' => ?_,
    fun reason at' => ?_, fun failed => ?_⟩
  · rw [grows.closedBy, grows.closeErr]
    exact inv.opened (grows.closed.symm.trans opened)
  · rcases comes op member with old | fits
    · exact (inv.pending op old).grow grows
    · exact fits
  · rcases grows.own own with before | now
    · rw [grows.closed]
      exact (inv.own before).imp_right grows.cleanly
    · exact now
  · rw [grows.closeErr]
    refine (inv.settled (grows.closed.symm.trans closed)).imp
      (fun ⟨error, member⟩ => ⟨error, kept error member⟩)
      fun truthful => truthful.grow grows.cleanly grows.closedBy
  · rw [grows.closed]
    exact inv.reading (frame.watcher.symm.trans at')
  · rw [grows.closed, grows.closedBy]
    exact inv.failing reason (frame.watcher.symm.trans at')
  · rw [grows.closed, grows.closedBy, frame.failed.2]
    exact inv.failed (frame.failed.1.symm.trans failed)

/-- The watcher moves. -/
theorem EndsInv.watch (inv : EndsInv t) {next : Watcher} {timeouts : List Bool}
    (reading : next = .reading → t.shared.closed = true)
    (failing : ∀ reason, next = .failing reason → t.shared.closed = true ∧
      (t.shared.closedBy = some .transport → reason = some networkError)) :
    EndsInv (touch t { t.shared with watcher := next, timeouts }) := by
  have grows : Grows t.shared { t.shared with watcher := next, timeouts } :=
    .of_same rfl rfl rfl rfl rfl
  refine ⟨inv.opened, fun op member => (inv.pending op member).grow grows, inv.own,
    fun closed => ?_, reading, failing, inv.failed⟩
  exact (inv.settled closed).imp_right fun truthful => truthful.grow grows.cleanly rfl

theorem EndsInv.run {thread : Nat} (inv : EndsInv t) (orderly : Orderly t (.run thread))
    (stepped : t.advance exec thread = some t') : EndsInv t' := by
  obtain ⟨op, rest, e, top, ran, rfl⟩ := Threads.advance_eq_some.mp stepped
  obtain ⟨pushed, kept, comes⟩ := Threads.pending_members (e := e) top
  have frame := exec_frame ran
  have here := inv.pending op (Threads.mem_pending top)
  rcases exec_ends ran with ⟨ending, reason, closes, rfl, opened, rfl⟩ | ⟨reason, rfl, rfl⟩
    | ⟨other, grows, next, started⟩
  · -- the first mark
    obtain ⟨none, unwritten⟩ := inv.opened opened
    have lost : ending = .transport → reason = some networkError := by
      rintro rfl
      simp only [Orderly, top] at orderly
      exact orderly.resolve_left (by rw [opened]; decide)
    have truthful : Truthful { t.shared with closed := true, closedBy := some ending } reason := by
      refine ⟨fun clean => ?_, fun by' => lost (Option.some.inj by')⟩
      rcases here clean with closed | transport | cleanly
      · rw [opened] at closed
        cases closed
      · rw [lost transport] at clean
        cases clean
      · exact cleanly
    refine ⟨fun closed => Bool.noConfusion closed, fun op member => ?_, fun _ => Or.inl rfl,
      fun _ => ?_, fun _ => rfl, fun reason at' => ?_, fun failed => ?_⟩
    · rcases comes op member with new | new | old
      · rcases List.mem_cons.mp new with rfl | new
        · exact ⟨rfl, truthful⟩
        · split at new
          · rw [List.mem_singleton.mp new]
            exact rfl
          · cases new
      · cases new
      · have fits := inv.pending op old
        cases op with
        | swap ending reason closes => exact fun none => Or.inl rfl
        | write reason =>
          have closed := fits.1
          rw [opened] at closed
          cases closed
        | pcClose => exact rfl
        | _ => exact trivial
    · cases reason with
      | none =>
        refine Or.inr ?_
        show Truthful _ t.shared.closeErr
        rw [unwritten]
        exact ⟨truthful.clean, truthful.lost⟩
      | some error => exact Or.inl ⟨error, pushed _ List.mem_cons_self⟩
    · have closed := (inv.failing reason at').1
      rw [opened] at closed
      cases closed
    · have closed := (inv.failed failed).1
      rw [opened] at closed
      cases closed
  · -- the reason is written
    obtain ⟨closed, truthful⟩ := here
    refine ⟨fun opened => ?_, fun op member => ?_, inv.own,
      fun _ => Or.inr ⟨truthful.clean, truthful.lost⟩, inv.reading, inv.failing, inv.failed⟩
    · have opened : t.shared.closed = false := opened
      rw [closed] at opened
      cases opened
    · rcases comes op member with new | new | old
      · cases new
      · cases new
      · have fits := inv.pending op old
        cases op with
        | swap ending reason closes => exact fits
        | write reason => exact ⟨fits.1, fits.2.clean, fits.2.lost⟩
        | pcClose => exact fits
        | _ => exact trivial
  · refine inv.grow (grows here) frame (fun op member => ?_) fun error member => ?_
    · rcases comes op member with new | new | old
      · exact Or.inr (next op new)
      · exact Or.inr (started op new)
      · exact Or.inl old
    · exact (kept _ member).resolve_left (Ne.symm (other (some error)))

theorem EndsInv.start (inv : EndsInv t) (grows : Grows t.shared c') (frame : Frame t.shared c')
    {stack : List ConnSection} (fits : ∀ op ∈ stack, Fits c' op) :
      EndsInv ((touch t c').start stack) := by
  refine inv.grow grows frame (fun op member => ?_) fun error member => ?_
  · rw [Threads.pending_start] at member
    exact (List.mem_append.mp member).imp_right (fits op)
  · rw [Threads.pending_start]
    exact List.mem_append_left _ member

theorem EndsInv.select {branch : Branch} (inv : EndsInv t)
    (stepped : WebrtcConn.step t (.select branch) = some t') :
    EndsInv t' := by
  simp only [WebrtcConn.step] at stepped
  split at stepped
  · split at stepped
    · next closed =>
      cases stepped
      exact inv.watch (fun _ => closed) fun _ at' => by cases at'
    · cases stepped
  · split at stepped <;> cases stepped
    exact inv.watch (fun at' => by cases at') fun _ at' => by cases at'
  · split at stepped <;> cases stepped
    exact inv.watch (fun at' => by cases at') fun _ at' => by cases at'
  · cases stepped

theorem EndsInv.watcher (inv : EndsInv t) (watch : WatchInv t.shared) (orderly : Orderly t .watcher)
    (stepped : WebrtcConn.step t .watcher = some t') : EndsInv t' := by
  simp only [WebrtcConn.step] at stepped
  split at stepped
  · split at stepped
    · next closed =>
      cases stepped
      exact inv.watch (fun _ => closed) fun _ at' => by cases at'
    · cases stepped
  · next at' =>
    cases stepped
    have closed := inv.reading at'
    refine inv.watch (fun at' => by cases at') fun reason is => ?_
    cases is
    refine ⟨closed, fun lost => ?_⟩
    rcases inv.settled closed with ⟨error, member⟩ | truthful
    · cases orderly at' lost _ member
    · exact truthful.lost lost
  · next reason at' =>
    obtain ⟨credit, moved, rfl⟩ := Option.map_eq_some_iff.mp stepped
    cases moved
    obtain ⟨closed, lost⟩ := inv.failing reason at'
    have live : t.shared.credit.flow.isFailed = false := by
      by_contra failed
      have finished := (watch.failed (Bool.not_eq_false _ ▸ failed)).1
      rw [at'] at finished
      cases finished
    refine ⟨inv.opened,
      fun op member => (inv.pending op member).grow (.of_same rfl rfl rfl rfl rfl), inv.own,
      fun closed => ?_, fun at' => (by cases at'), fun _ at' => (by cases at'),
      fun _ => ⟨closed, fun by' => ?_⟩⟩
    · exact (inv.settled closed).imp_right fun truthful => ⟨truthful.clean, truthful.lost⟩
    · show (t.shared.credit.flow.fail reason).failed = some networkError
      unfold ConnFlow.fail
      rw [if_neg (by rw [live]; decide)]
      exact lost by'
  · cases stepped
    have timed :
        EndsInv (touch t { t.shared with watcher := .finished, timeouts := t.shared.timeouts }) :=
      inv.watch (fun at' => by cases at') fun _ at' => by cases at'
    refine timed.start (.of_same rfl rfl rfl rfl rfl) ⟨rfl, rfl, Or.inl rfl⟩ fun op member => ?_
    rw [List.mem_singleton.mp member]
    exact trivial
  · cases stepped

/-- **One step tells no false reason.** -/
theorem EndsInv.step (inv : EndsInv t) (watch : WatchInv t.shared) (orderly : Orderly t label)
    (stepped : WebrtcConn.step t label = some t') : EndsInv t' := by
  -- a thread starts on a connection that does not change
  have starts {stack : List ConnSection} (fits : ∀ op ∈ stack, Fits t.shared op) :
      EndsInv (t.start stack) :=
    inv.start
      (show Grows t.shared t.shared from .of_same rfl rfl rfl rfl rfl) ⟨rfl, rfl, Or.inl rfl⟩ fits
  cases label with
  | run thread => exact inv.run orderly stepped
  | close =>
    cases stepped
    have grows : Grows t.shared { t.shared with closedCleanly := true } :=
      ⟨rfl, rfl, rfl, fun _ => rfl, Or.inl⟩
    exact inv.start grows ⟨rfl, rfl, Or.inl rfl⟩ (fits_mark fun _ => Or.inr rfl)
  | closeWithError code =>
    cases stepped
    have grows : Grows t.shared
        { t.shared with closedCleanly := t.shared.closedCleanly || decide (code = .none) } := by
      refine ⟨rfl, rfl, rfl, fun clean => ?_, Or.inl⟩
      show (t.shared.closedCleanly || decide (code = .none)) = true
      rw [clean, Bool.true_or]
    refine inv.start grows ⟨rfl, rfl, Or.inl rfl⟩ (fits_mark fun none => Or.inr ?_)
    show (t.shared.closedCleanly || decide (code = .none)) = true
    rw [decide_eq_true (reason_eq_none none), Bool.or_true]
  | shutdown =>
    cases stepped
    exact inv.grow ⟨rfl, rfl, rfl, fun _ => rfl, fun _ => Or.inr (Or.inr rfl)⟩ ⟨rfl, rfl,
      Or.inl rfl⟩
      (fun op member => Or.inl member) fun error member => member
  | control data =>
    cases stepped
    exact starts (fits_singleton trivial)
  | controlOpen =>
    cases stepped
    exact starts (fits_singleton trivial)
  | incoming =>
    cases stepped
    exact starts (fits_singleton trivial)
  | reservedClosed =>
    cases stepped
    exact starts (fits_singleton trivial)
  | streamClosed =>
    cases stepped
    exact starts (fits_singleton trivial)
  | violation code =>
    cases stepped
    exact starts (fits_singleton trivial)
  | stateChange s =>
    cases stepped
    have grows : Grows t.shared { t.shared with pcState := s } := .of_same rfl rfl rfl rfl rfl
    refine inv.start grows ⟨rfl, rfl, Or.inl rfl⟩ ?_
    have fits : Fits { t.shared with pcState := s }
        (.swap (if t.shared.pcClosed then .closed .none else .transport) none false) := by
      intro none
      by_cases own : t.shared.pcClosed = true
      · exact (inv.own own).imp_right Or.inr
      · rw [if_neg own]
        exact Or.inr (Or.inl rfl)
    intro op member
    unfold onStateChange at member
    split at member
    · rw [List.mem_singleton.mp member]
      exact fits
    · rw [List.mem_singleton.mp member]
      exact fits
    · cases member
  | credit label =>
    have frame := step_frame stepped (by simp) (by simp)
    simp only [WebrtcConn.step] at stepped
    split at stepped
    · cases stepped
    · obtain ⟨credit, moved, rfl⟩ := Option.map_eq_some_iff.mp stepped
      exact inv.grow (.of_same rfl rfl rfl rfl rfl) frame
        (fun op member => Or.inl member) fun error member => member
  | timer =>
    cases stepped
    exact inv.grow (.of_same rfl rfl rfl rfl rfl) ⟨rfl, rfl, Or.inl rfl⟩
      (fun op member => Or.inl member)
      fun error member => member
  | select branch => exact inv.select stepped
  | watcher => exact inv.watcher watch orderly stepped

theorem endsInv_new (limits : FlowWindows) : EndsInv (new limits) := by
  refine ⟨fun _ => ⟨rfl, rfl⟩, fun op member => ?_, fun own => ?_, fun closed => ?_, fun at' => ?_,
    fun _ at' => ?_, fun failed => ?_⟩
  · cases member
  · cases own
  · cases closed
  · cases at'
  · cases at'
  · cases failed

/-- The reason that is read is sound: `err` is `None` on a closed connection only after a clean
close, and a connection whose transport failed tells `network-error` to `err`, to `accept_stream`
and to all who wait for credit, once the watcher has finished. -/
structure Sound (c : WebrtcConn) : Prop where
  clean : c.closed = true → c.err = none → c.closedCleanly = true
  lost : c.closedBy = some .transport → c.err = some (.stream networkError) ∧
    c.closeError = .stream networkError
  waits : c.closedBy = some .transport → c.credit.flow.isFailed = true →
    c.credit.flow.failure = .stream networkError
  rejects : c.closedBy = some .transport → c.watcher = .finished → c.timeouts = [] →
    c.credit.Rejects

/-- A reason is between the swap and the write. -/
def Marking (t : Tasks) : Prop := ∃ error, .write (some error) ∈ t.pending

/-- **Close reasons are sound** wherever no mark stands between its sections, in every run in which
a transport failure is the first to mark only with `network-error`, and is not read by the watcher
between the sections. -/
theorem close_reason_sound {limits : FlowWindows} {labels : List Label}
    (ran : run step (new limits) labels = some t)
    (orderly : Meets step Orderly (new limits) labels) (still : ¬ Marking t) : Sound t.shared := by
  have preserves : ∀ t label t', Orderly t label → WatchInv t.shared ∧ EndsInv t →
      step t label = some t' →
      WatchInv t'.shared ∧ EndsInv t' := fun t label t' orderly inv stepped =>
    ⟨inv.1.step stepped, inv.2.step inv.1 orderly stepped⟩
  obtain ⟨watch, inv⟩ :=
    run_invariant_of_meets preserves orderly ⟨watchInv_new limits, endsInv_new limits⟩ ran
  have truthful (closed : t.shared.closed = true) : Truthful t.shared t.shared.closeErr :=
    (inv.settled closed).resolve_left still
  have closed (lost : t.shared.closedBy = some .transport) : t.shared.closed = true := by
    by_contra opened
    rw [(inv.opened (Bool.not_eq_true _ ▸ opened)).1] at lost
    cases lost
  refine ⟨fun closed none => (truthful closed).clean ?_, fun lost => ?_, fun lost failed => ?_,
    fun lost finished timely => ?_⟩
  · unfold err at none
    rw [if_pos closed] at none
    exact Option.map_eq_none_iff.mp none
  · have reason := (truthful (closed lost)).lost lost
    unfold err closeError
    rw [if_pos (closed lost), reason]
    exact ⟨rfl, rfl⟩
  · unfold ConnFlow.failure
    rw [(inv.failed failed).2 lost]
  · exact watch.wakes.rejects ((watch.finished finished).resolve_left (not_not_intro timely))

end WebrtcConn

end Kps.Rust
