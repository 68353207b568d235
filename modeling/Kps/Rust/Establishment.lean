/-
**How a Rust connection is established** (`HelloState`, `IncomingQueue`, `send_hello`, `on_control`
and `handle_incoming` of `conn.rs`).

A thread is a callback of a data channel or of the peer connection, a call, or a spawned task; a
section is one operation on an atomic flag, one lock of a mutex, or what happens up to the next
await. `check` is three of them. The events log what was processed, in order: the peer's HELLO when
`received` is swapped, its limits when they are installed, and what tears the connection down for a
fault of the peer.

* `CreditOp.grants` — what the peer granted is not taken back;
* `exec_cases` — what a section does to the handshake; `Inv.step` — one step keeps its invariant;
* `Safe.run` — no connection is established too early in a run whose checks are in order;
* `Kept.run` — every stream of the peer is in one place, and `Placed.run` — on an established
  connection that place is the accept queue, in a run that stages no stream after the flush.
-/

import Kps.Lib.Weights
import Kps.Rust.Teardown
import Mathlib.Algebra.Order.Group.Multiset
import Mathlib.Data.Multiset.Range
import Mathlib.Tactic.Abel

namespace Kps.Rust

open Kps.Lib

/-- How the peer ends a connection, or breaks the protocol. -/
inductive Fault
  | closed (code : ErrorCode)
  | rejected
  | fatal (code : ErrorCode)
  deriving DecidableEq, Repr

/-- What was processed. -/
inductive HelloEvent
  | installed (limits : FlowLimits)
  | established
  | fault (fault : Fault)
  deriving DecidableEq, Repr

def HelloEvent.installs : HelloEvent → Bool
  | installed _ => true
  | _ => false

def HelloEvent.tears : HelloEvent → Bool
  | fault _ => true
  | _ => false

/-- What a control message raises. -/
inductive Raise
  | maxData (v : UInt64)
  | maxStreams (v : UInt64)
  deriving DecidableEq, Repr

def Raise.op : Raise → CreditOp
  | maxData v => .onPeerMaxData v
  | maxStreams v => .onPeerMaxStreams v

inductive HelloSection
  | swapSent
  /-- `control.send(..).await`. -/
  | send (data : Bytes)
  /-- The sections of `check`. -/
  | loadSent
  | loadReceived
  | swapEstablished
  /-- The sections of `flush_staged`. -/
  | drainStaged
  | pushStaged (batch : List Nat)
  | control (data : Bytes)
  | swapReceived (version : UInt8) (limits : FlowLimits)
  | onPeerHello (limits : FlowLimits)
  /-- MAX_DATA and MAX_STREAMS: the check of `received`, and the raise. -/
  | grant (raise : Raise)
  | raise (raise : Raise)
  | storeTearing (fault : Option Fault)
  /-- The sections of `mark`. -/
  | swapClosed (reason : Option StreamError)
  | writeErr (reason : Option StreamError)
  | pcClose
  | fatal (code : ErrorCode)
  /-- The sections of `handle_incoming`. -/
  | peerStreamOpened
  | loadEstablished (stream : Nat)
  | push (stream : Nat)
  | stage (stream : Nat)
  deriving DecidableEq, Repr

/-- A connection, as far as the handshake goes. A stream of the peer is its number; `accepted` are
those that `accept_stream` returned, and `waits` what the calls of `wait_established` returned: was
it `Ok`? -/
structure Establishment where
  flow : ConnFlow
  sent : Bool := false
  received : Bool := false
  established : Bool := false
  tearingDown : Bool := false
  closed : Bool := false
  err : Option StreamError := none
  pcClosed : Bool := false
  out : List Bytes := []
  staged : List Nat := []
  queue : List Nat := []
  accepted : List Nat := []
  streams : Nat := 0
  peerHello : Option (UInt8 × FlowLimits) := none
  events : List HelloEvent := []
  waits : List Bool := []

/-- The windows, as a HELLO announces them. -/
def FlowWindows.limits (l : FlowWindows) : FlowLimits where
  maxStreamData := l.maxStreamData.toNat
  maxData := l.maxData.toNat
  maxStreams := l.maxStreams.toNat

/-- An operation that only the handshake makes: the peer's HELLO, or a stream of the peer. -/
def CreditOp.isHandshake : CreditOp → Bool
  | onPeerHello _ => true
  | peerStreamOpened => true
  | _ => false

namespace Establishment

abbrev Tasks := Threads Establishment HelloSection

def andThen (next : List HelloSection) (s : Establishment) :
    Option (Effect Establishment HelloSection) :=
  some ⟨s, next, []⟩

/-- `mark(reason)` and `pc.close()`. -/
def close (reason : Option StreamError) : List HelloSection := [.swapClosed reason, .pcClose]

/-- What `on_control` does with a message. -/
def onControl : Except String ControlMsg → List HelloSection
  | .error _ => [.fatal .protocolError]
  | .ok (.hello version limits) => [.swapReceived version limits]
  | .ok (.close code) => .storeTearing (some (.closed code)) :: close (code.reason true)
  | .ok (.maxData v) => [.grant (.maxData (UInt64.ofNat v))]
  | .ok (.maxStreams v) => [.grant (.maxStreams (UInt64.ofNat v))]

def exec (s : Establishment) : HelloSection → Option (Effect Establishment HelloSection)
  | .swapSent =>
    if s.sent then andThen [] s
    else andThen [.send (encodeHello s.flow.limits.limits), .loadSent] { s with sent := true }
  | .send data => andThen [] { s with out := s.out ++ [data] }
  | .loadSent => andThen (if s.sent then [.loadReceived] else []) s
  | .loadReceived => andThen (if s.received then [.swapEstablished] else []) s
  | .swapEstablished =>
    if s.established then andThen [] s
    else andThen [.drainStaged] { s with established := true, events := s.events ++ [.established] }
  | .drainStaged =>
    andThen (if s.staged = [] then [] else [.pushStaged s.staged]) { s with staged := [] }
  | .pushStaged batch => andThen [] { s with queue := s.queue ++ batch }
  | .control data => andThen (onControl (decodeControl data)) s
  | .swapReceived version limits =>
    if s.received then andThen [.fatal .protocolError] s
    else if version ≠ wireVersion then
      andThen (.send (encodeConnClose .unsupported) :: .storeTearing (some .rejected) ::
        close (some ⟨.unsupported, false⟩)) { s with
          received := true, peerHello := some (version, limits) }
    else andThen [.onPeerHello limits, .loadSent] { s with
      received := true, peerHello := some (version, limits) }
  | .onPeerHello limits =>
    andThen [] { s with
      flow := s.flow.onPeerHello limits.windows, events := s.events ++ [.installed limits] }
  | .grant raise => andThen (if s.received then [.raise raise] else [.fatal .protocolError]) s
  | .raise raise => andThen [] { s with flow := raise.op.apply s.flow }
  | .storeTearing fault =>
    andThen [] { s with tearingDown := true, events := s.events ++ fault.toList.map .fault }
  | .swapClosed reason =>
    if s.closed then andThen [] s else andThen [.writeErr reason] { s with closed := true }
  | .writeErr reason => andThen [] { s with err := reason }
  | .pcClose => andThen [] { s with pcClosed := true }
  | .fatal code =>
    if s.tearingDown then andThen [] s
    else some ⟨{ s with tearingDown := true, events := s.events ++ [.fault (.fatal code)] }, [],
      [.send (encodeConnClose code) :: close (some ⟨code, false⟩)]⟩
  | .peerStreamOpened =>
    match s.flow.peerStreamOpened.value with
    | .error _ => andThen [.fatal .protocolError] s
    | .ok flow => andThen [.loadEstablished s.streams] { s with flow, streams := s.streams + 1 }
  | .loadEstablished stream => andThen (if s.established then [.push stream] else [.stage stream]) s
  | .push stream => andThen [] { s with queue := s.queue ++ [stream] }
  | .stage stream => andThen [] { s with staged := s.staged ++ [stream] }

inductive Label
  | run (thread : Nat)
  /-- `send_hello` is called: the control channel opens, or was open. -/
  | controlOpen
  | control (data : Bytes)
  | incoming
  /-- A stream, a reserved channel or the timer reports a violation. -/
  | violation (code : ErrorCode)
  /-- `close_with_error`, or `close` with no code. -/
  | close (code : ErrorCode)
  /-- The association failed: a reserved channel was lost. -/
  | lost
  /-- The callback of the peer connection's state. -/
  | stateDown
  /-- Any other operation on the credit. -/
  | credit (op : CreditOp)
  /-- `wait_established` returns. -/
  | waited (ok : Bool)
  /-- `accept_stream` pops a stream. -/
  | accept
  deriving DecidableEq, Repr

/-- What `wait_established` waits for before it returns `Ok`, or an error. -/
def returns (s : Establishment) : Bool → Bool
  | true => s.established
  | false => s.closed

def step (t : Tasks) : Label → Option Tasks
  | .run thread => t.advance exec thread
  | .controlOpen => some (t.start [.swapSent])
  | .control data => some (t.start [.control data])
  | .incoming => some (t.start [.peerStreamOpened])
  | .violation code => some (t.start [.fatal code])
  | .close code =>
    some (t.start (.storeTearing none :: .send (encodeConnClose code) :: close (code.reason false)))
  | .lost => some (t.start (.storeTearing none :: close (some networkError)))
  | .stateDown => some (t.start [.swapClosed none])
  | .credit op =>
    if op.isHandshake then none else some { t with
      shared := { t.shared with flow := op.apply t.shared.flow } }
  | .waited ok =>
    if t.shared.returns ok then
      some { t with shared := { t.shared with waits := t.shared.waits ++ [ok] } }
    else none
  | .accept =>
    match t.shared.queue with
    | [] => none
    | stream :: queue =>
      some { t with shared := { t.shared with queue, accepted := t.shared.accepted ++ [stream] } }

def new (limits : FlowWindows) : Tasks := ⟨{ flow := .new limits }, []⟩

end Establishment

/-! ### The limits of the peer -/

/-- The limits of a HELLO are installed: the peer's credit has not been lower since. -/
structure Installed (limits : FlowLimits) (f : ConnFlow) : Prop where
  initial : f.peerInitStreamData = limits.windows.maxStreamData
  data : limits.windows.maxData ≤ f.peerMaxData
  streams : limits.windows.maxStreams ≤ f.peerMaxStreams

/-- What the peer granted is not taken back. -/
structure Grants (f f' : ConnFlow) : Prop where
  initial : f'.peerInitStreamData = f.peerInitStreamData
  data : f.peerMaxData ≤ f'.peerMaxData
  streams : f.peerMaxStreams ≤ f'.peerMaxStreams

variable {f f' : ConnFlow} {limits : FlowLimits}

theorem Installed.grants (installed : Installed limits f) (grants : Grants f f') :
    Installed limits f' where
  initial := grants.initial.trans installed.initial
  data := UInt64.le_trans installed.data grants.data
  streams := UInt64.le_trans installed.streams grants.streams

theorem installed_onPeerHello (limits : FlowLimits) (f : ConnFlow) :
    Installed limits (f.onPeerHello limits.windows) :=
  ⟨rfl, UInt64.le_refl _, UInt64.le_refl _⟩

theorem Grants.same (initial : f'.peerInitStreamData = f.peerInitStreamData)
    (data : f'.peerMaxData = f.peerMaxData) (streams : f'.peerMaxStreams = f.peerMaxStreams) :
      Grants f f' where
  initial
  data := by rw [data]; exact UInt64.le_refl _
  streams := by rw [streams]; exact UInt64.le_refl _

theorem Grants.trans {f'' : ConnFlow} (first : Grants f f') (second : Grants f' f'') :
    Grants f f'' where
  initial := second.initial.trans first.initial
  data := UInt64.le_trans first.data second.data
  streams := UInt64.le_trans first.streams second.streams

theorem grants_streamConsumed (id n : UInt64) (f : ConnFlow) :
    Grants f (f.streamConsumed id n).value.1 := by
  unfold ConnFlow.streamConsumed
  split
  · exact .same rfl rfl rfl
  dsimp only [bind, pure]
  split
  · exact .same rfl rfl rfl
  · split <;> exact .same rfl rfl rfl

theorem grants_connConsume (n : UInt64) (f : ConnFlow) : Grants f (f.connConsume n).value := by
  unfold ConnFlow.connConsume
  dsimp only [bind, pure]
  split <;> exact .same rfl rfl rfl

/-- **No operation but the HELLO takes back what the peer granted.** -/
theorem CreditOp.grants (op : CreditOp) (other : ∀ limits, op ≠ onPeerHello limits) :
    Grants f (op.apply f) := by
  cases op with
  | onPeerHello limits => exact absurd rfl (other limits)
  | onPeerMaxData v =>
    simp only [apply, ConnFlow.onPeerMaxData]
    by_cases raised : v > f.peerMaxData
    · rw [if_pos raised]
      exact ⟨rfl, UInt64.le_of_lt raised, UInt64.le_refl _⟩
    · rw [if_neg raised]
      exact .same rfl rfl rfl
  | onPeerMaxStreams v =>
    simp only [apply, ConnFlow.onPeerMaxStreams]
    by_cases raised : v > f.peerMaxStreams
    · rw [if_pos raised]
      exact ⟨rfl, UInt64.le_refl _, UInt64.le_of_lt raised⟩
    · rw [if_neg raised]
      exact .same rfl rfl rfl
  | onPeerMaxStreamData id v =>
    simp only [apply, ConnFlow.onPeerMaxStreamData]
    split
    · split <;> exact .same rfl rfl rfl
    · exact .same rfl rfl rfl
  | newStream => exact .same rfl rfl rfl
  | dropStream id =>
    simp only [apply, ConnFlow.dropStream]
    split <;> exact .same rfl rfl rfl
  | pollReserve id want =>
    simp only [apply, ConnFlow.pollReserve]
    split
    · exact .same rfl rfl rfl
    dsimp only [bind, pure]
    split
    · exact .same rfl rfl rfl
    split
    · exact .same rfl rfl rfl
    split <;> exact .same rfl rfl rfl
  | commit id n =>
    simp only [apply, ConnFlow.commit]
    split <;> exact .same rfl rfl rfl
  | release id n =>
    simp only [apply, ConnFlow.release]
    split <;> exact .same rfl rfl rfl
  | failSend id =>
    simp only [apply, ConnFlow.failSend]
    split
    · split <;> exact .same rfl rfl rfl
    · exact .same rfl rfl rfl
  | commitStreamSlot => exact .same rfl rfl rfl
  | releaseStreamSlot => exact .same rfl rfl rfl
  | onDataReceived id n =>
    simp only [apply, ConnFlow.onDataReceived]
    split
    · exact .same rfl rfl rfl
    dsimp only [bind, pure]
    split
    · exact .same rfl rfl rfl
    split <;> exact .same rfl rfl rfl
  | onConsumed id n => exact (grants_streamConsumed id n f).trans (grants_connConsume n _)
  | markCancelled id =>
    simp only [apply, ConnFlow.markCancelled]
    split <;> exact .same rfl rfl rfl
  | peerStreamOpened =>
    simp only [apply, ConnFlow.peerStreamOpened]
    split <;> exact .same rfl rfl rfl
  | peerStreamRetired => exact .same rfl rfl rfl
  | fail error =>
    simp only [apply, ConnFlow.fail]
    split <;> exact .same rfl rfl rfl

namespace Establishment

variable {s s' : Establishment} {t t' : Tasks} {op : HelloSection}
    {e : Effect Establishment HelloSection} {label : Label}

/-! ### What a section does to the handshake -/

/-- The sections that establish the connection or install the limits. -/
def matters : HelloSection → Bool
  | .swapEstablished => true
  | .onPeerHello _ => true
  | _ => false

/-- The handshake is as it was, but for what is logged. -/
structure Same (s s' : Establishment) : Prop where
  received : s'.received = s.received
  established : s'.established = s.established
  peerHello : s'.peerHello = s.peerHello
  waits : s'.waits = s.waits
  flow : Grants s.flow s'.flow

theorem Same.of_eq (received : s'.received = s.received)
    (established : s'.established = s.established)
    (peerHello : s'.peerHello = s.peerHello) (waits : s'.waits = s.waits)
    (flow : s'.flow = s.flow) : Same s s' where
  received
  established
  peerHello
  waits
  flow := by rw [flow]; exact .same rfl rfl rfl

/-- What a section does. -/
inductive Does (s : Establishment) : HelloSection → Effect Establishment HelloSection → Prop
  | aside {op : HelloSection} {e : Effect Establishment HelloSection} (same : Same s e.shared)
      (events : e.shared.events = s.events) (next : ∀ other ∈ e.next, matters other = false)
      (started : e.started = []) : Does s op e
  | load (received : s.received = true) : Does s .loadReceived ⟨s, [.swapEstablished], []⟩
  | establish (early : s.established = false) : Does s .swapEstablished
      ⟨{ s with established := true, events := s.events ++ [.established] }, [.drainStaged], []⟩
  | receive {next : List HelloSection} (version : UInt8) (limits : FlowLimits)
    (fresh : s.received = false)
      (installs : ∀ other ∈ next, matters other = true → version = wireVersion ∧
        other = .onPeerHello limits) :
      Does s
        (.swapReceived version limits) ⟨{ s with
          received := true, peerHello := some (version, limits) }, next, []⟩
  | install (limits : FlowLimits) : Does s (.onPeerHello limits)
      ⟨{ s with
        flow := s.flow.onPeerHello limits.windows, events := s.events ++ [.installed limits] }, [],
        []⟩
  | tear (fault : Fault) : Does s (.storeTearing (some fault))
      ⟨{ s with tearingDown := true, events := s.events ++ [.fault fault] }, [], []⟩
  | fatal (code : ErrorCode) (healthy : s.tearingDown = false) : Does s (.fatal code)
      ⟨{ s with tearingDown := true, events := s.events ++ [.fault (.fatal code)] }, [],
        [.send (encodeConnClose code) :: close (some ⟨code, false⟩)]⟩

theorem onControl_quiet (message : Except String ControlMsg) :
    ∀ other ∈ onControl message, matters other = false := by
  intro other member
  cases message with
  | error text =>
    rw [List.mem_singleton.mp member]
    rfl
  | ok message =>
    cases message with
    | close code =>
      rcases List.mem_cons.mp member with rfl | later
      · rfl
      rcases List.mem_cons.mp later with rfl | last
      · rfl
      · rw [List.mem_singleton.mp last]
        rfl
    | _ =>
      rw [List.mem_singleton.mp member]
      rfl

/-- **What a section does to the handshake.** -/
theorem exec_cases (ran : s.exec op = some e) : Does s op e := by
  have quiet {s' : Establishment} {next : List HelloSection} (same : Same s s')
    (events : s'.events = s.events)
      (none : next.all (fun other => !matters other) = true) : Does s op ⟨s', next, []⟩ := by
    refine .aside same events (fun other member => ?_) rfl
    have all := List.all_eq_true.mp none other member
    rwa [Bool.not_eq_true'] at all
  cases op with
  | swapSent =>
    simp only [exec] at ran
    split at ran <;> cases ran <;> exact quiet (.of_eq rfl rfl rfl rfl rfl) rfl rfl
  | loadSent =>
    cases ran
    refine .aside (.of_eq rfl rfl rfl rfl rfl) rfl (fun other member => ?_) rfl
    dsimp only at member
    split at member
    · rw [List.mem_singleton.mp member]
      rfl
    · cases member
  | loadReceived =>
    cases ran
    by_cases received : s.received = true
    · rw [if_pos received]
      exact .load received
    · rw [if_neg received]
      exact quiet (.of_eq rfl rfl rfl rfl rfl) rfl rfl
  | swapEstablished =>
    simp only [exec] at ran
    split at ran
    · cases ran
      exact quiet (.of_eq rfl rfl rfl rfl rfl) rfl rfl
    · next early =>
      cases ran
      exact .establish (Bool.not_eq_true _ ▸ early)
  | drainStaged =>
    cases ran
    refine .aside (.of_eq rfl rfl rfl rfl rfl) rfl (fun other member => ?_) rfl
    dsimp only at member
    split at member
    · cases member
    · rw [List.mem_singleton.mp member]
      rfl
  | control data =>
    cases ran
    exact .aside (.of_eq rfl rfl rfl rfl rfl) rfl (onControl_quiet _) rfl
  | swapReceived version limits =>
    simp only [exec] at ran
    split at ran
    · cases ran
      exact quiet (.of_eq rfl rfl rfl rfl rfl) rfl rfl
    · next fresh =>
      split at ran
      · cases ran
        refine .receive version limits (Bool.not_eq_true _ ▸ fresh) fun other member matter => ?_
        have none :
          List.all (.send (encodeConnClose .unsupported) :: .storeTearing (some .rejected) ::
            close (some ⟨.unsupported, false⟩)) (fun other => !matters other) = true := rfl
        have unmatched := List.all_eq_true.mp none other member
        rw [matter] at unmatched
        cases unmatched
      · next version' =>
        cases ran
        refine .receive version limits (Bool.not_eq_true _ ▸ fresh) fun other member matter => ?_
        rcases List.mem_cons.mp member with rfl | later
        · exact ⟨not_not.mp version', rfl⟩
        · rw [List.mem_singleton.mp later] at matter
          cases matter
  | onPeerHello limits =>
    cases ran
    exact .install limits
  | grant raise =>
    cases ran
    refine .aside (.of_eq rfl rfl rfl rfl rfl) rfl (fun other member => ?_) rfl
    dsimp only at member
    split at member <;> rw [List.mem_singleton.mp member] <;> rfl
  | raise raise =>
    cases ran
    refine quiet ⟨rfl, rfl, rfl, rfl, ?_⟩ rfl rfl
    refine CreditOp.grants _ fun limits same => ?_
    cases raise <;> cases same
  | storeTearing fault =>
    cases ran
    cases fault with
    | none => exact quiet (.of_eq rfl rfl rfl rfl rfl) (List.append_nil _) rfl
    | some fault => exact .tear fault
  | swapClosed reason =>
    simp only [exec] at ran
    split at ran <;> cases ran <;> exact quiet (.of_eq rfl rfl rfl rfl rfl) rfl rfl
  | fatal code =>
    simp only [exec] at ran
    split at ran
    · cases ran
      exact quiet (.of_eq rfl rfl rfl rfl rfl) rfl rfl
    · next healthy =>
      cases ran
      exact .fatal code (Bool.not_eq_true _ ▸ healthy)
  | peerStreamOpened =>
    simp only [exec] at ran
    split at ran
    · cases ran
      exact quiet (.of_eq rfl rfl rfl rfl rfl) rfl rfl
    · next flow opened =>
      cases ran
      refine quiet ⟨rfl, rfl, rfl, rfl, ?_⟩ rfl rfl
      have grants :=
        CreditOp.grants (f := s.flow) .peerStreamOpened fun limits same => by cases same
      simp only [CreditOp.apply, opened, Except.toOption, Option.getD_some] at grants
      exact grants
  | loadEstablished stream =>
    cases ran
    refine .aside (.of_eq rfl rfl rfl rfl rfl) rfl (fun other member => ?_) rfl
    dsimp only at member
    split at member <;> rw [List.mem_singleton.mp member] <;> rfl
  | _ =>
    cases ran
    exact quiet (.of_eq rfl rfl rfl rfl rfl) rfl rfl

/-- **What the other steps do to the handshake**: they start threads, return, or move the credit. -/
theorem step_other (stepped : step t label = some t') (notRun : ∀ thread, label ≠ .run thread) :
    t'.shared.received = t.shared.received ∧ t'.shared.established = t.shared.established ∧
      t'.shared.peerHello = t.shared.peerHello ∧ t'.shared.events = t.shared.events ∧
      Grants t.shared.flow t'.shared.flow ∧
      (true ∈ t'.shared.waits → true ∈ t.shared.waits ∨ t.shared.established = true) ∧
      ∀ op ∈ t'.pending, op ∈ t.pending ∨ matters op = false := by
  have grants : Grants t.shared.flow t.shared.flow := .same rfl rfl rfl
  have starts {stack : List HelloSection} (none : stack.all (fun op => !matters op) = true) :
      ∀ op ∈ (t.start stack).pending, op ∈ t.pending ∨ matters op = false := by
    intro op member
    rw [Threads.pending_start] at member
    refine (List.mem_append.mp member).imp_right fun new => ?_
    have all := List.all_eq_true.mp none op new
    rwa [Bool.not_eq_true'] at all
  cases label with
  | run thread => exact absurd rfl (notRun thread)
  | credit op =>
    simp only [Establishment.step] at stepped
    split at stepped
    · cases stepped
    · next other =>
      cases stepped
      refine ⟨rfl, rfl, rfl, rfl, CreditOp.grants op fun limits same => ?_, Or.inl, fun _ => Or.inl⟩
      subst same
      exact other rfl
  | waited ok =>
    simp only [Establishment.step] at stepped
    split at stepped
    · next ready =>
      cases stepped
      refine ⟨rfl, rfl, rfl, rfl, grants, fun member => ?_, fun _ => Or.inl⟩
      rcases List.mem_append.mp member with old | new
      · exact Or.inl old
      · rw [← List.mem_singleton.mp new] at ready
        exact Or.inr ready
    · cases stepped
  | accept =>
    simp only [Establishment.step] at stepped
    split at stepped
    · cases stepped
    · cases stepped
      exact ⟨rfl, rfl, rfl, rfl, grants, Or.inl, fun _ => Or.inl⟩
  | _ =>
    cases stepped
    exact ⟨rfl, rfl, rfl, rfl, grants, Or.inl, starts rfl⟩

/-! ### The limits are those of the HELLO -/

/-- `peerHello` is the HELLO that was received, and the limits that are installed are its limits. -/
structure Inv (t : Tasks) : Prop where
  fresh : t.shared.received = false → t.shared.peerHello = none
  pending : ∀ limits, .onPeerHello limits ∈ t.pending →
    t.shared.peerHello = some (wireVersion, limits)
  installed : ∀ limits, .installed limits ∈ t.shared.events →
    t.shared.peerHello = some (wireVersion, limits) ∧ Installed limits t.shared.flow

theorem Inv.congr (inv : Inv t) (received : t'.shared.received = t.shared.received)
    (peerHello : t'.shared.peerHello = t.shared.peerHello)
    (flow : Grants t.shared.flow t'.shared.flow)
    (events : ∀ limits, .installed limits ∈ t'.shared.events → .installed limits ∈ t.shared.events)
    (pending : ∀ limits, .onPeerHello limits ∈ t'.pending → .onPeerHello limits ∈ t.pending) :
      Inv t' := by
  refine ⟨?_, fun limits member => ?_, fun limits member => ?_⟩
  · rw [received, peerHello]
    exact inv.fresh
  · rw [peerHello]
    exact inv.pending limits (pending limits member)
  · rw [peerHello]
    exact (inv.installed limits (events limits member)).imp_right fun installed =>
      installed.grants flow

/-- **One step keeps the invariant.** -/
theorem Inv.step (inv : Inv t) (stepped : step t label = some t') : Inv t' := by
  by_cases runs : ∃ thread, label = .run thread
  · obtain ⟨thread, rfl⟩ := runs
    obtain ⟨op, rest, e, top, ran, rfl⟩ := Threads.advance_eq_some.mp stepped
    obtain ⟨-, -, comes⟩ := Threads.pending_members (e := e) top
    -- a section that installs limits was pending, unless this one pushed it
    have kept (next : ∀ other ∈ e.next, matters other = true → other = .swapEstablished)
        (started : ∀ other ∈ e.started.flatten, matters other = false) (limits : FlowLimits)
        (member :
          .onPeerHello limits ∈
          (⟨e.shared, t.pool.set thread (e.next ++ rest) ++ e.started⟩ : Tasks).pending) :
        .onPeerHello limits ∈ t.pending := by
      rcases comes _ member with new | new | old
      · cases next _ new rfl
      · cases started _ new
      · exact old
    cases exec_cases ran with
    | aside same events next started =>
      refine inv.congr same.received same.peerHello same.flow (fun limits member => ?_) (kept ?_ ?_)
      · rw [← events]
        exact member
      · intro other member matter
        rw [next other member] at matter
        cases matter
      · rw [started]
        exact fun other member => absurd member List.not_mem_nil
    | load received =>
      exact inv.congr rfl rfl (.same rfl rfl rfl) (fun limits member => member)
        (kept (fun other member _ => List.mem_singleton.mp member) fun other member =>
          absurd member List.not_mem_nil)
    | establish early =>
      refine inv.congr rfl rfl (.same rfl rfl rfl) (fun limits member => ?_) (kept ?_ ?_)
      · refine (List.mem_append.mp member).resolve_right fun new => ?_
        cases List.mem_singleton.mp new
      · intro other member matter
        rw [List.mem_singleton.mp member] at matter
        cases matter
      · exact fun other member => absurd member List.not_mem_nil
    | receive version limits fresh installs =>
      have none := inv.fresh fresh
      refine ⟨fun unset => Bool.noConfusion unset, fun other member => ?_, fun other member => ?_⟩
      · rcases comes _ member with new | new | old
        · obtain ⟨version', same⟩ := installs _ new rfl
          cases same
          rw [version']
        · cases new
        · rw [inv.pending other old] at none
          cases none
      · rw [(inv.installed other member).1] at none
        cases none
    | install limits =>
      have hello := inv.pending limits (Threads.mem_pending top)
      refine ⟨inv.fresh, fun other member => ?_, fun other member => ?_⟩
      · rcases comes _ member with new | new | old
        · cases new
        · cases new
        · exact inv.pending other old
      · have same : other = limits := by
          rcases List.mem_append.mp member with old | new
          · have both := (inv.installed other old).1
            rw [hello] at both
            cases both
            rfl
          · cases List.mem_singleton.mp new
            rfl
        rw [same]
        exact ⟨hello, installed_onPeerHello limits t.shared.flow⟩
    | tear fault =>
      refine inv.congr rfl rfl (.same rfl rfl rfl) (fun limits member => ?_) (kept ?_ ?_)
      · refine (List.mem_append.mp member).resolve_right fun new => ?_
        cases List.mem_singleton.mp new
      · exact fun other member => absurd member List.not_mem_nil
      · exact fun other member => absurd member List.not_mem_nil
    | fatal code healthy =>
      refine inv.congr rfl rfl (.same rfl rfl rfl) (fun limits member => ?_) (kept ?_ ?_)
      · refine (List.mem_append.mp member).resolve_right fun new => ?_
        cases List.mem_singleton.mp new
      · exact fun other member => absurd member List.not_mem_nil
      · intro other member
        have none : (List.flatten [.send (encodeConnClose code) :: close (some ⟨code, false⟩)]).all
            (fun other => !matters other) = true := rfl
        have all := List.all_eq_true.mp none other member
        rwa [Bool.not_eq_true'] at all
  · obtain ⟨received, -, peerHello, events, flow, -, comes⟩ :=
      step_other stepped fun thread same => runs ⟨thread, same⟩
    refine inv.congr received peerHello flow (fun limits member => ?_) fun limits member => ?_
    · rw [← events]
      exact member
    · exact (comes _ member).resolve_right fun other => by cases other

theorem inv_new (limits : FlowWindows) : Inv (new limits) :=
  ⟨fun _ => rfl, fun _ member => absurd member List.not_mem_nil,
    fun _ member => absurd member List.not_mem_nil⟩

/-! ### Establishment -/

/-- The limits of the peer are installed, and it has committed no fault. -/
def Ready (s : Establishment) : Prop :=
  (∃ event ∈ s.events, event.installs = true) ∧ ∀ event ∈ s.events, event.tears = false

instance (s : Establishment) : Decidable s.Ready := inferInstanceAs (Decidable (_ ∧ _))

/-- The checks are in order: one that finds `received` set finds the limits installed and no fault
of the peer, and no fault is processed while it is on its way to `established`. -/
def InOrder (t : Tasks) : HelloSection → Prop
  | .loadReceived => t.shared.received = true → t.shared.established = true ∨ t.shared.Ready
  | .storeTearing (some _) => t.shared.established = true ∨ .swapEstablished ∉ t.pending
  | .fatal _ =>
    t.shared.tearingDown = true ∨ t.shared.established = true ∨ .swapEstablished ∉ t.pending
  | _ => True

instance (t : Tasks) : (op : HelloSection) → Decidable (InOrder t op)
  | .loadReceived => inferInstanceAs (Decidable (_ → _ ∨ _))
  | .storeTearing none => .isTrue trivial
  | .storeTearing (some _) => inferInstanceAs (Decidable (_ ∨ _))
  | .fatal _ => inferInstanceAs (Decidable (_ ∨ _ ∨ _))
  | .swapSent | .send _ | .loadSent | .swapEstablished | .drainStaged
  | .pushStaged _ | .control _ | .swapReceived _ _
  | .onPeerHello _ | .grant _ | .raise _ | .swapClosed _ | .writeErr _ | .pcClose
  | .peerStreamOpened
  | .loadEstablished _ | .push _ | .stage _ => .isTrue trivial

/-- The section that a thread runs next. -/
def next (t : Tasks) (thread : Nat) : Option HelloSection := t.pool[thread]?.bind List.head?

theorem next_eq {thread : Nat} {rest : List HelloSection}
    (top : t.pool[thread]? = some (op :: rest)) :
    next t thread = some op := by
  rw [next, top]
  rfl

def inOrder (t : Tasks) : Label → Prop
  | .run thread => ∀ op ∈ next t thread, InOrder t op
  | _ => True

instance (t : Tasks) : (label : Label) → Decidable (inOrder t label)
  | .run _ => inferInstanceAs (Decidable (∀ op ∈ _, InOrder t op))
  | .controlOpen | .control _ | .incoming | .violation _ | .close _ | .lost | .stateDown
  | .credit _ | .waited _
  | .accept => .isTrue trivial

/-- The connection was established by a HELLO of this version, whose limits were installed before,
and before any fault of the peer; and nobody was told so too early. -/
structure Safe (s : Establishment) : Prop where
  established : s.established = true → ∃ limits before after,
    s.peerHello = some (wireVersion, limits) ∧
    Installed limits s.flow ∧ s.events = before ++ .established :: after ∧
    .installed limits ∈ before ∧ ∀ event ∈ before, event.tears = false
  waits : true ∈ s.waits → s.established = true

/-- A check on its way to `established` is in order. -/
structure Checked (t : Tasks) : Prop extends Inv t where
  ready : .swapEstablished ∈ t.pending → t.shared.established = true ∨ t.shared.Ready
  safe : Safe t.shared

/-- A connection that was established before stays so. -/
theorem Safe.keep (safe : Safe s) (established : s'.established = s.established)
    (peerHello : s.established = true → s'.peerHello = s.peerHello)
    (flow : ∀ limits, s.peerHello = some (wireVersion, limits) → Installed limits s.flow →
      Installed limits s'.flow)
    (events : ∃ more, s'.events = s.events ++ more)
    (waits : true ∈ s'.waits → true ∈ s.waits ∨ s.established = true) : Safe s' := by
  refine ⟨fun now => ?_, fun told => ?_⟩
  · rw [established] at now
    obtain ⟨limits, before, after, hello, installed, log, early, faultless⟩ := safe.established now
    obtain ⟨more, log'⟩ := events
    refine ⟨limits, before, after ++ more, ?_, flow limits hello installed, ?_, early, faultless⟩
    · rw [peerHello now, hello]
    · rw [log', log, List.append_assoc, List.cons_append]
  · rw [established]
    exact (waits told).elim safe.waits fun now => now

theorem Ready.append (ready : s.Ready) (more : List HelloEvent)
    (faultless : ∀ event ∈ more, event.tears = false)
    (events : s'.events = s.events ++ more) : s'.Ready := by
  obtain ⟨⟨event, member, installs⟩, clean⟩ := ready
  refine ⟨⟨event, ?_, installs⟩, fun other member => ?_⟩
  · rw [events]
    exact List.mem_append_left _ member
  · rw [events] at member
    exact (List.mem_append.mp member).elim (clean other) (faultless other)

theorem mem_installs {event : HelloEvent} (installs : event.installs = true) :
    ∃ limits, event = .installed limits := by
  cases event with
  | installed limits => exact ⟨limits, rfl⟩
  | _ => cases installs

/-- **One step keeps a connection safe**, if it keeps the checks in order. -/
theorem Checked.step (checked : Checked t) (order : inOrder t label)
    (stepped : step t label = some t') :
    Checked t' := by
  refine ⟨checked.toInv.step stepped, ?_, ?_⟩
  all_goals
    by_cases runs : ∃ thread, label = .run thread
  · -- where the check comes from
    obtain ⟨thread, rfl⟩ := runs
    obtain ⟨op, rest, e, top, ran, rfl⟩ := Threads.advance_eq_some.mp stepped
    have here : InOrder t op := order op (next_eq top)
    obtain ⟨-, -, comes⟩ := Threads.pending_members (e := e) top
    intro member
    have old (next : .swapEstablished ∉ e.next) (started : .swapEstablished ∉ e.started.flatten) :
        .swapEstablished ∈ t.pending :=
      ((comes _ member).resolve_left next).resolve_left started
    cases exec_cases ran with
    | aside same events next started =>
      have before : HelloSection.swapEstablished ∈ t.pending := by
        refine old (fun new => ?_) ?_
        · cases next _ new
        · rw [started]
          exact List.not_mem_nil
      rw [same.established]
      refine (checked.ready before).imp_right fun ready => ready.append [] ?_ ?_
      · exact fun event member => absurd member List.not_mem_nil
      · rw [events, List.append_nil]
    | load received => exact here received
    | establish early => exact Or.inl rfl
    | receive version limits fresh installs =>
      have before : HelloSection.swapEstablished ∈ t.pending := by
        refine old (fun new => ?_) List.not_mem_nil
        cases (installs _ new rfl).2
      exact checked.ready before
    | install limits =>
      have before := old List.not_mem_nil List.not_mem_nil
      refine (checked.ready before).imp_right fun ready => ready.append [.installed limits] ?_ rfl
      intro event member
      rw [List.mem_singleton.mp member]
      rfl
    | tear fault =>
      exact Or.inl (here.resolve_right fun none => none (old List.not_mem_nil List.not_mem_nil))
    | fatal code healthy =>
      have before : HelloSection.swapEstablished ∈ t.pending := by
        apply old List.not_mem_nil
        simp [close]
      rcases here with torn | established | none
      · rw [healthy] at torn
        cases torn
      · exact Or.inl established
      · exact absurd before none
  · obtain ⟨-, established, -, events, -, -, comes⟩ :=
      step_other stepped fun thread same => runs ⟨thread, same⟩
    intro member
    have before := (comes _ member).resolve_right fun other => by cases other
    rw [established]
    refine (checked.ready before).imp_right fun ready => ready.append [] ?_ ?_
    · exact fun event member => absurd member List.not_mem_nil
    · rw [events, List.append_nil]
  · -- what becomes of the connection
    obtain ⟨thread, rfl⟩ := runs
    obtain ⟨op, rest, e, top, ran, rfl⟩ := Threads.advance_eq_some.mp stepped
    cases exec_cases ran with
    | aside same events next started =>
      refine checked.safe.keep same.established (fun _ => same.peerHello)
        (fun _ _ installed => installed.grants same.flow)
        ⟨[], ?_⟩ ?_
      · rw [events, List.append_nil]
      · rw [same.waits]
        exact Or.inl
    | load received => exact checked.safe
    | establish early =>
      have ready :=
        (checked.ready (Threads.mem_pending top)).resolve_left
        (by rw [early]; exact Bool.false_ne_true)
      obtain ⟨⟨event, member, installs⟩, faultless⟩ := ready
      obtain ⟨limits, rfl⟩ := mem_installs installs
      obtain ⟨hello, installed⟩ := checked.installed limits member
      exact ⟨fun _ => ⟨limits, t.shared.events, [], hello, installed, rfl, member, faultless⟩,
        fun _ => rfl⟩
    | receive version limits fresh installs =>
      have none := checked.fresh fresh
      refine checked.safe.keep rfl (fun now => ?_)
        (fun _ _ installed => installed) ⟨[], (List.append_nil _).symm⟩ Or.inl
      obtain ⟨limits', _, _, hello, -⟩ := checked.safe.established now
      rw [none] at hello
      cases hello
    | install limits =>
      refine checked.safe.keep rfl (fun _ => rfl) (fun other hello _ => ?_) ⟨_, rfl⟩ Or.inl
      rw [checked.pending limits (Threads.mem_pending top)] at hello
      cases hello
      exact installed_onPeerHello limits t.shared.flow
    | tear fault =>
      exact checked.safe.keep rfl (fun _ => rfl) (fun _ _ installed => installed) ⟨_, rfl⟩ Or.inl
    | fatal code healthy =>
      exact checked.safe.keep rfl (fun _ => rfl) (fun _ _ installed => installed) ⟨_, rfl⟩ Or.inl
  · obtain ⟨-, established, peerHello, events, flow, waits, -⟩ :=
      step_other stepped fun thread same => runs ⟨thread, same⟩
    refine checked.safe.keep established (fun _ => peerHello)
      (fun _ _ installed => installed.grants flow) ⟨[], ?_⟩ waits
    rw [events, List.append_nil]

theorem checked_new (limits : FlowWindows) : Checked (new limits) := by
  refine ⟨inv_new limits, fun member => absurd member List.not_mem_nil, fun now => ?_,
    fun told => ?_⟩
  · cases now
  · cases told

/-- **No connection is established too early**: every state is safe of a run whose checks are in
order. -/
theorem established_safely {limits : FlowWindows} {labels before : List Label}
    (order : Meets step inOrder (new limits) labels) (head : before <+: labels)
    (ran : run step (new limits) before = some t) : Safe t.shared := by
  have preserves (t : Tasks) (label : Label) (t' : Tasks) (here : inOrder t label)
    (checked : Checked t)
      (stepped : step t label = some t') : Checked t' := checked.step here stepped
  have holds (labels : List Label) (t : Tasks) (order : Meets step inOrder (new limits) labels)
      (ran : run step (new limits) labels = some t) : Safe t.shared :=
    (run_invariant_of_meets preserves order (checked_new limits) ran).safe
  exact of_meets_of_before holds order head ran

/-- The control channel opens; the peer's HELLO comes, and the connection is waited for. -/
def establishes : List Label :=
  [.controlOpen, .run 0, .run 0, .run 0, .run 0, .control (encodeHello ⟨1, 8, 8⟩), .run 1, .run 1,
    .run 1, .run 1, .run 1, .run 1, .run 1, .waited true]

theorem established_safely_establishes :
    ∃ t, run step (new defaultFlowLimits) establishes = some t ∧
    t.shared.waits = [true] ∧ Safe t.shared := by
  have returns : (run step (new defaultFlowLimits) establishes).any
      (fun t => decide (t.shared.waits = [true])) = true := by
    decide +kernel
  obtain ⟨t, ran, waits⟩ := (Option.any_eq_true _ _).mp returns
  have order : Meets step inOrder (new defaultFlowLimits) establishes := by decide +kernel
  exact ⟨t, ran, of_decide_eq_true waits, established_safely order (List.prefix_refl _) ran⟩

/-- A HELLO of version 2 comes before the control channel opens, and is turned away after the HELLO
from here. -/
def unsupported : List Label :=
  [.control (0x01 :: 2 :: (encodeHello ⟨1, 8, 8⟩).drop 2), .run 0, .run 0, .controlOpen, .run 1,
    .run 1, .run 1, .run 1, .run 1, .waited true, .run 0, .run 0, .run 0]

/-- **A peer of another version is waited for with success**, and no limits are installed. -/
theorem unsupported_established : ∃ t, run step (new defaultFlowLimits) unsupported = some t ∧
    t.shared.peerHello = some (2, ⟨1, 8, 8⟩) ∧ t.shared.waits = [true] ∧
    t.shared.flow.peerMaxData = 0 ∧ t.shared.closed = true ∧ ¬ Safe t.shared := by
  have early : (run step (new defaultFlowLimits) unsupported).any (fun t => decide (
      t.shared.peerHello = some (2, ⟨1, 8, 8⟩) ∧ t.shared.waits = [true] ∧
        t.shared.flow.peerMaxData = 0 ∧ t.shared.closed = true)) = true := by decide +kernel
  obtain ⟨t, ran, facts⟩ := (Option.any_eq_true _ _).mp early
  obtain ⟨hello, waits, credit, closed⟩ := of_decide_eq_true facts
  refine ⟨t, ran, hello, waits, credit, closed, fun safe => ?_⟩
  have established : t.shared.established = true := by
    apply safe.waits
    rw [waits]
    exact List.mem_cons_self
  obtain ⟨limits, _, _, other, -⟩ := safe.established established
  rw [hello] at other
  cases other

/-! ### The streams of the peer -/

/-- The streams that a section carries. -/
def carried : HelloSection → Multiset Nat
  | .loadEstablished stream => {stream}
  | .push stream => {stream}
  | .stage stream => {stream}
  | .pushStaged batch => batch
  | _ => 0

/-- The streams that are somewhere else. -/
def kept (s : Establishment) : Multiset Nat := s.accepted + s.queue + s.staged

/-- **What a section does to the streams**: it moves them, or makes one. -/
theorem exec_kept (ran : s.exec op = some e) :
    carried op + s.kept + Multiset.range e.shared.streams =
      (e.next.map carried).sum + (e.started.flatten.map carried).sum + e.shared.kept +
        Multiset.range s.streams := by
  have quiet {s' : Establishment} {next : List HelloSection} (carries : carried op = 0)
      (accepted : s'.accepted = s.accepted) (queue : s'.queue = s.queue)
      (staged : s'.staged = s.staged)
      (streams : s'.streams = s.streams) (none : ∀ other ∈ next, carried other = 0) :
      carried op + s.kept + Multiset.range s'.streams =
        (next.map carried).sum + (([] : List (List HelloSection)).flatten.map carried).sum +
          s'.kept +
          Multiset.range s.streams := by
    rw [carries, streams, Threads.sum_eq_zero none, kept, kept, accepted, queue, staged]
    simp
  have control (message : Except String ControlMsg) : ∀ other ∈ onControl message,
      carried other = 0 := by
    intro other member
    cases message with
    | error text =>
      rw [List.mem_singleton.mp member]
      rfl
    | ok message =>
      cases message with
      | close code =>
        rcases List.mem_cons.mp member with rfl | later
        · rfl
        rcases List.mem_cons.mp later with rfl | last
        · rfl
        · rw [List.mem_singleton.mp last]
          rfl
      | _ =>
        rw [List.mem_singleton.mp member]
        rfl
  cases op with
  | swapSent =>
    simp only [exec] at ran
    split at ran <;> cases ran <;> exact quiet rfl rfl rfl rfl rfl (by simp [carried])
  | swapEstablished =>
    simp only [exec] at ran
    split at ran <;> cases ran <;> exact quiet rfl rfl rfl rfl rfl (by simp [carried])
  | swapClosed reason =>
    simp only [exec] at ran
    split at ran <;> cases ran <;> exact quiet rfl rfl rfl rfl rfl (by simp [carried])
  | swapReceived version limits =>
    simp only [exec] at ran
    split at ran
    · cases ran
      exact quiet rfl rfl rfl rfl rfl (by simp [carried])
    split at ran <;> cases ran <;> exact quiet rfl rfl rfl rfl rfl (by simp [carried, close])
  | loadSent =>
    cases ran
    refine quiet rfl rfl rfl rfl rfl ?_
    split <;> simp [carried]
  | loadReceived =>
    cases ran
    refine quiet rfl rfl rfl rfl rfl ?_
    split <;> simp [carried]
  | grant raise =>
    cases ran
    refine quiet rfl rfl rfl rfl rfl ?_
    split <;> simp [carried]
  | control data =>
    cases ran
    exact quiet rfl rfl rfl rfl rfl (control _)
  | fatal code =>
    simp only [exec] at ran
    split at ran
    · cases ran
      exact quiet rfl rfl rfl rfl rfl (by simp [carried])
    · cases ran
      simp [carried, kept, close]
  | drainStaged =>
    cases ran
    by_cases empty : s.staged = []
    · rw [if_pos empty]
      simp [carried, kept, empty]
    · rw [if_neg empty]
      simp only [carried, kept, List.map_cons, List.map_nil, List.sum_cons, List.sum_nil,
        List.flatten_nil, Multiset.coe_nil]
      abel
  | pushStaged batch =>
    cases ran
    simp only [carried, kept, List.map_nil, List.sum_nil, List.flatten_nil, ← Multiset.coe_add]
    abel
  | peerStreamOpened =>
    simp only [exec] at ran
    split at ran
    · cases ran
      exact quiet rfl rfl rfl rfl rfl (by simp [carried])
    · cases ran
      simp only [carried, kept, List.map_cons, List.map_nil, List.sum_cons, List.sum_nil,
        List.flatten_nil, Multiset.range_succ, ← Multiset.singleton_add]
      abel
  | loadEstablished stream =>
    cases ran
    by_cases established : s.established = true
    · rw [if_pos established]
      simp [carried, kept]
    · rw [if_neg established]
      simp [carried, kept]
  | push stream =>
    cases ran
    simp only [carried, kept, List.map_nil, List.sum_nil, List.flatten_nil, ← Multiset.coe_add,
      Multiset.coe_singleton]
    abel
  | stage stream =>
    cases ran
    simp only [carried, kept, List.map_nil, List.sum_nil, List.flatten_nil, ← Multiset.coe_add,
      Multiset.coe_singleton]
    abel
  | _ =>
    cases ran
    exact quiet rfl rfl rfl rfl rfl (by simp)

/-- Every stream of the peer is in one place, once. -/
def Conserved (t : Tasks) : Prop :=
  t.shared.kept + t.weight carried = Multiset.range t.shared.streams

theorem conserved_other (conserved : Conserved t) (shared : t'.shared.kept = t.shared.kept)
    (streams : t'.shared.streams = t.shared.streams)
    (weight : t'.weight carried = t.weight carried) : Conserved t' := by
  unfold Conserved
  rw [shared, streams, weight]
  exact conserved

/-- **One step conserves the streams.** -/
theorem Conserved.step (conserved : Conserved t) (stepped : step t label = some t') :
    Conserved t' := by
  have starts {stack : List HelloSection} (none : ∀ op ∈ stack, carried op = 0) :
      Conserved (t.start stack) := by
    refine conserved_other conserved rfl rfl ?_
    rw [Threads.weight_start, Threads.sum_eq_zero none, add_zero]
  cases label with
  | run thread =>
    obtain ⟨op, rest, e, top, ran, rfl⟩ := Threads.advance_eq_some.mp stepped
    exact Threads.weight_conserved top (exec_kept ran) conserved
  | credit op =>
    simp only [Establishment.step] at stepped
    split at stepped
    · cases stepped
    · cases stepped
      exact conserved
  | waited ok =>
    simp only [Establishment.step] at stepped
    split at stepped
    · cases stepped
      exact conserved
    · cases stepped
  | accept =>
    simp only [Establishment.step] at stepped
    split at stepped
    · cases stepped
    · next stream queue front =>
      cases stepped
      refine conserved_other conserved ?_ rfl rfl
      unfold kept
      rw [front, ← Multiset.cons_coe, ← Multiset.singleton_add, ← Multiset.coe_add,
        Multiset.coe_singleton]
      abel
  | _ =>
    cases stepped
    exact starts (by simp [carried, close])

/-- The stage of a stream is in time: the staged streams are still to be flushed. -/
def InTime (t : Tasks) : HelloSection → Prop
  | .stage _ => t.shared.established = false ∨ .drainStaged ∈ t.pending
  | _ => True

instance (t : Tasks) : (op : HelloSection) → Decidable (InTime t op)
  | .stage _ => inferInstanceAs (Decidable (_ ∨ _))
  | .swapSent | .send _ | .loadSent | .loadReceived | .swapEstablished | .drainStaged
  | .pushStaged _ | .control _
  | .swapReceived _ _ | .onPeerHello _ | .grant _ | .raise _ | .storeTearing _ | .swapClosed
    _ | .writeErr _ | .pcClose
  | .fatal _ | .peerStreamOpened | .loadEstablished _ | .push _ => .isTrue trivial

def inTime (t : Tasks) : Label → Prop
  | .run thread => ∀ op ∈ next t thread, InTime t op
  | _ => True

instance (t : Tasks) : (label : Label) → Decidable (inTime t label)
  | .run _ => inferInstanceAs (Decidable (∀ op ∈ _, InTime t op))
  | .controlOpen | .control _ | .incoming | .violation _ | .close _ | .lost | .stateDown
  | .credit _ | .waited _
  | .accept => .isTrue trivial

/-- On an established connection nothing is staged, or the flush is still to come. -/
def Unstranded (t : Tasks) : Prop :=
  t.shared.established = true → t.shared.staged = [] ∨ .drainStaged ∈ t.pending

/-- **What a section does to the staged streams**: it stages one, takes all of them, or leaves
them. -/
theorem exec_staged (ran : s.exec op = some e) :
    (∃ stream, op = .stage stream ∧ e.shared.established = s.established) ∨
    (op = .drainStaged ∧ e.shared.staged = []) ∨ .drainStaged ∈ e.next ∨
    (op ≠ .drainStaged ∧ e.shared.staged = s.staged ∧ e.shared.established = s.established) := by
  cases op with
  | stage stream =>
    cases ran
    exact Or.inl ⟨stream, rfl, rfl⟩
  | drainStaged =>
    cases ran
    exact Or.inr (Or.inl ⟨rfl, rfl⟩)
  | swapEstablished =>
    simp only [exec] at ran
    split at ran
    · cases ran
      exact Or.inr (Or.inr (Or.inr ⟨by simp, rfl, rfl⟩))
    · cases ran
      exact Or.inr (Or.inr (Or.inl List.mem_cons_self))
  | swapReceived version limits =>
    simp only [exec] at ran
    split at ran
    · cases ran
      exact Or.inr (Or.inr (Or.inr ⟨by simp, rfl, rfl⟩))
    split at ran <;> cases ran <;> exact Or.inr (Or.inr (Or.inr ⟨by simp, rfl, rfl⟩))
  | swapSent =>
    simp only [exec] at ran
    split at ran <;> cases ran <;> exact Or.inr (Or.inr (Or.inr ⟨by simp, rfl, rfl⟩))
  | swapClosed reason =>
    simp only [exec] at ran
    split at ran <;> cases ran <;> exact Or.inr (Or.inr (Or.inr ⟨by simp, rfl, rfl⟩))
  | fatal code =>
    simp only [exec] at ran
    split at ran <;> cases ran <;> exact Or.inr (Or.inr (Or.inr ⟨by simp, rfl, rfl⟩))
  | peerStreamOpened =>
    simp only [exec] at ran
    split at ran <;> cases ran <;> exact Or.inr (Or.inr (Or.inr ⟨by simp, rfl, rfl⟩))
  | _ =>
    cases ran
    exact Or.inr (Or.inr (Or.inr ⟨by simp, rfl, rfl⟩))

/-- **One step strands no stream**, if it stages none too late. -/
theorem Unstranded.step (unstranded : Unstranded t) (time : inTime t label)
    (stepped : step t label = some t') :
    Unstranded t' := by
  intro established
  by_cases runs : ∃ thread, label = .run thread
  · obtain ⟨thread, rfl⟩ := runs
    obtain ⟨op, rest, e, top, ran, rfl⟩ := Threads.advance_eq_some.mp stepped
    have here : InTime t op := time op (next_eq top)
    obtain ⟨pushed, kept, -⟩ := Threads.pending_members (e := e) top
    rcases exec_staged ran with ⟨stream, rfl, same⟩ | ⟨rfl, drained⟩ | flush | ⟨other, staged, same⟩
    · rcases here with early | flush
      · rw [same, early] at established
        cases established
      · exact Or.inr ((kept _ flush).resolve_left (by simp))
    · exact Or.inl drained
    · exact Or.inr (pushed _ flush)
    · rw [same] at established
      refine (unstranded established).imp (fun empty => staged.trans empty) fun flush => ?_
      exact (kept _ flush).resolve_left fun same => other same.symm
  · have starts (stack : List HelloSection) (shared : t'.shared = t.shared)
      (pending : t'.pending = t.pending ++ stack) :
        t'.shared.staged = [] ∨ .drainStaged ∈ t'.pending := by
      rw [shared] at established ⊢
      rw [pending]
      exact (unstranded established).imp_right fun flush => List.mem_append_left _ flush
    cases label with
    | run thread => exact absurd ⟨thread, rfl⟩ runs
    | credit op =>
      simp only [Establishment.step] at stepped
      split at stepped
      · cases stepped
      · cases stepped
        exact unstranded established
    | waited ok =>
      simp only [Establishment.step] at stepped
      split at stepped
      · cases stepped
        exact unstranded established
      · cases stepped
    | accept =>
      simp only [Establishment.step] at stepped
      split at stepped
      · cases stepped
      · cases stepped
        exact unstranded established
    | _ =>
      cases stepped
      exact starts _ rfl (Threads.pending_start _ _)

/-- A section of `handle_incoming` that has a stream in its hands, or of `flush_staged`. -/
def inCallback : HelloSection → Bool
  | .drainStaged => true
  | .pushStaged _ => true
  | .loadEstablished _ => true
  | .push _ => true
  | .stage _ => true
  | _ => false

theorem carried_eq_zero (aside : inCallback op = false) : carried op = 0 := by
  cases op with
  | drainStaged => cases aside
  | pushStaged batch => cases aside
  | loadEstablished stream => cases aside
  | push stream => cases aside
  | stage stream => cases aside
  | _ => rfl

/-- Once no callback is under way on an established connection, nothing is staged, and every stream
of the peer was placed in the accept queue once. -/
def Placed (t : Tasks) : Prop :=
  t.shared.established = true → (∀ op ∈ t.pending, inCallback op = false) →
    t.shared.staged = [] ∧ (t.shared.accepted ++ t.shared.queue).Perm (List.range t.shared.streams)

theorem Conserved.placed (conserved : Conserved t) (unstranded : Unstranded t) : Placed t := by
  intro established idle
  have empty : t.shared.staged = [] := by
    refine (unstranded established).resolve_right fun flush => ?_
    cases idle _ flush
  refine ⟨empty, Multiset.coe_eq_coe.mp ?_⟩
  unfold Conserved kept at conserved
  have weightless : t.weight carried = 0 :=
    Threads.sum_eq_zero fun op member => carried_eq_zero (idle op member)
  rw [weightless, empty, Multiset.coe_nil, add_zero, add_zero, Multiset.coe_add] at conserved
  exact conserved

/-- **No stream of the peer is lost at establishment** in a run that stages none after the flush. -/
theorem placed_of_inTime {limits : FlowWindows} {labels : List Label}
    (time : Meets step inTime (new limits) labels)
    (ran : run step (new limits) labels = some t) : Placed t := by
  have conserves (t : Tasks) (label : Label) (t' : Tasks) (conserved : Conserved t)
      (stepped : step t label = some t') : Conserved t' := conserved.step stepped
  have strands (t : Tasks) (label : Label) (t' : Tasks) (here : inTime t label)
    (unstranded : Unstranded t)
      (stepped : step t label = some t') : Unstranded t' := unstranded.step here stepped
  have conserved : Conserved (new limits) := by
    unfold Conserved
    rfl
  have unstranded : Unstranded (new limits) := fun established => Bool.noConfusion established
  exact (run_invariant conserves conserved ran).placed
    (run_invariant_of_meets strands time unstranded ran)

end Establishment

end Kps.Rust
