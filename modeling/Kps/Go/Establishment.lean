/-
**How a Go connection is established** (`handleIncoming`, `surfaceStream`, `sendHello`, `onControl`
and `checkEstablished` of `conn.go`).

A thread is a callback or a call; a section is what it does under `mu`, one atomic access, or one
look at a channel. `checkEstablished` takes the staged streams under the lock, and closes
`establishedCh` after it. A stream of the peer is its number; `dropped` are those that a teardown
found staged, or that were surfaced after it.

* `Conserved.step` — every stream of the peer is in one place;
* `Torn.step` — streams are dropped only by a teardown;
* `Unstranded.step` — the staged streams are still to be taken, if none is staged between the two
  parts of `checkEstablished`;
* `placed_of_inTime` — then every stream is in the accept queue, once.
-/

import Kps.Go.Teardown
import Kps.Lib.Weights
import Mathlib.Algebra.Order.Group.Multiset
import Mathlib.Data.Multiset.Range

namespace Kps.Go

open Kps.Lib

/-- What is handed to `trySendControl`. -/
inductive ControlSent
  | hello
  | close (code : ErrorCode)
  deriving DecidableEq, Repr

/-- What a control message raises. -/
inductive Raise
  | maxData (v : UInt64)
  | maxStreams (v : UInt64)
  deriving DecidableEq, Repr

def Raise.apply (f : ConnFlow StreamFailure) : Raise → ConnFlow StreamFailure
  | maxData v => f.onPeerMaxData v
  | maxStreams v => f.onPeerMaxStreams v

def FlowLimits.windows (l : FlowLimits) : FlowWindows where
  maxStreamData := UInt64.ofNat l.maxStreamData
  maxData := UInt64.ofNat l.maxData
  maxStreams := UInt64.ofNat l.maxStreams

inductive HelloSection
  /-- The first lock of `sendHello`. -/
  | setSent
  | trySendControl (message : ControlSent)
  /-- The two parts of `checkEstablished`. -/
  | check
  | closeEstablished (batch : List Nat)
  /-- The two parts of `surfaceStream`. -/
  | surface (stream : Nat)
  | enqueue (stream : Nat)
  | control (data : Bytes)
  | readPeerHello (version : UInt8) (limits : FlowLimits)
  | onPeerHello (limits : FlowLimits)
  | setPeerHello
  /-- MAX_DATA and MAX_STREAMS: `isPeerHelloDone`, and the raise. -/
  | grant (raise : Raise)
  | raise (raise : Raise)
  /-- The two parts of `handleIncoming`. -/
  | peerStreamOpened
  | register (stream : Nat)
  | fatal (code : ErrorCode)
  | storeTearing
  /-- The parts of `teardown`. -/
  | teardown (err : Option StreamError)
  | closeOnce (err : Option StreamError)
  | failFlow (err : Option StreamError)
  | clear
  | pcClose
  deriving DecidableEq, Repr

/-- `webrtcConn`, as far as the handshake goes. -/
structure Establishment where
  flow : ConnFlow StreamFailure
  helloSent : Bool := false
  peerHello : Bool := false
  /-- `establishedCh` is closed. -/
  established : Bool := false
  tearingDown : Bool := false
  closedCh : Bool := false
  closeErr : Option StreamError := none
  pcClosed : Bool := false
  sent : List ControlSent := []
  staged : List Nat := []
  incoming : List Nat := []
  accepted : List Nat := []
  dropped : List Nat := []
  streams : Nat := 0

namespace Establishment

abbrev Calls := Threads Establishment HelloSection

def andThen (next : List HelloSection) (s : Establishment) :
    Option (Effect Establishment HelloSection) :=
  some ⟨s, next, []⟩

/-- What `onControl` does with a message. -/
def onControl : Except String ControlMsg → List HelloSection
  | .error _ => [.fatal codeProtocolError]
  | .ok m =>
    match m.typ with
    | .ctrlHello => [.readPeerHello m.version m.limits]
    | .ctrlConnClose => [.teardown (ErrorCode.reason m.code true)]
    | .ctrlMaxData => [.grant (.maxData (UInt64.ofNat m.value))]
    | .ctrlMaxStreams => [.grant (.maxStreams (UInt64.ofNat m.value))]

def exec (s : Establishment) : HelloSection → Option (Effect Establishment HelloSection)
  | .setSent =>
    if s.helloSent then andThen [] s else andThen [.trySendControl .hello, .check] { s with
      helloSent := true }
  | .trySendControl message => andThen [] { s with sent := s.sent ++ [message] }
  | .check =>
    if s.helloSent && s.peerHello then andThen [.closeEstablished s.staged] { s with staged := [] }
    else andThen [] s
  | .closeEstablished batch => andThen (batch.map .surface) { s with established := true }
  | .surface stream =>
    if s.closedCh then andThen [] { s with
      dropped := s.dropped ++ [stream] } else andThen [.enqueue stream] s
  | .enqueue stream => andThen [] { s with incoming := s.incoming ++ [stream] }
  | .control data => andThen (onControl (decodeControl data)) s
  | .readPeerHello version limits =>
    if s.peerHello then andThen [.fatal codeProtocolError] s
    else if version ≠ UInt8.ofNat wireVersion then
      andThen [.trySendControl (.close codeUnsupported), .teardown (some ⟨codeUnsupported, false⟩)]
        s
    else andThen [.onPeerHello limits, .setPeerHello, .check] s
  | .onPeerHello limits => andThen [] { s with flow := s.flow.onPeerHello limits.windows }
  | .setPeerHello => andThen [] { s with peerHello := true }
  | .grant raise => andThen (if s.peerHello then [.raise raise] else [.fatal codeProtocolError]) s
  | .raise raise => andThen [] { s with flow := raise.apply s.flow }
  | .peerStreamOpened =>
    match s.flow.peerStreamOpened.value with
    | .error _ => andThen [.fatal codeProtocolError] s
    | .ok flow => andThen [.register s.streams] { s with flow, streams := s.streams + 1 }
  | .register stream =>
    if s.established then andThen [.surface stream] s else andThen [] { s with
      staged := s.staged ++ [stream] }
  | .fatal code =>
    if s.tearingDown then andThen [] s
    else andThen [.trySendControl (.close code), .teardown (some ⟨code, false⟩)] { s with
      tearingDown := true }
  | .storeTearing => andThen [] { s with tearingDown := true }
  | .teardown err => andThen [.closeOnce err] { s with tearingDown := true }
  | .closeOnce err =>
    if s.closedCh then andThen [.failFlow err] s
    else andThen [.failFlow err] { s with closedCh := true, closeErr := err }
  | .failFlow err => andThen [.clear] { s with flow := s.flow.fail (WebrtcConn.failure err) }
  | .clear => andThen [.pcClose] { s with staged := [], dropped := s.dropped ++ s.staged }
  | .pcClose => andThen [] { s with pcClosed := true }

inductive Label
  | run (thread : Nat)
  /-- `sendHello` is called: the control channel opens, or was open. -/
  | controlOpen
  | control (data : Bytes)
  | incoming
  /-- A stream, a reserved channel or a timer reports a violation. -/
  | violation (code : ErrorCode)
  /-- `CloseWithError`, and `Close` with `CodeNone`. -/
  | close (code : ErrorCode)
  | markClosed (err : Option StreamError)
  /-- Any other operation on the credit. -/
  | credit (op : CreditOp)
  /-- `AcceptStream` takes a stream. -/
  | accept

def step (t : Calls) : Label → Option Calls
  | .run thread => t.advance exec thread
  | .controlOpen => some (t.start [.setSent])
  | .control data => some (t.start [.control data])
  | .incoming => some (t.start [.peerStreamOpened])
  | .violation code => some (t.start [.fatal code])
  | .close code =>
    some (t.start [.storeTearing, .trySendControl (.close code),
      .teardown (ErrorCode.reason code false)])
  | .markClosed err => some (t.start [.storeTearing, .teardown err])
  | .credit op => some { t with shared := { t.shared with flow := op.run t.shared.flow } }
  | .accept =>
    match t.shared.incoming with
    | [] => none
    | stream :: incoming =>
      some { t with
        shared := { t.shared with incoming, accepted := t.shared.accepted ++ [stream] } }

def new (limits : FlowWindows) : Calls := ⟨{ flow := .new limits }, []⟩

variable {s s' : Establishment} {t t' : Calls} {op : HelloSection}
    {e : Effect Establishment HelloSection} {label : Label}

/-- The section that a thread runs next. -/
def next (t : Calls) (thread : Nat) : Option HelloSection := t.pool[thread]?.bind List.head?

theorem next_eq {thread : Nat} {rest : List HelloSection}
    (top : t.pool[thread]? = some (op :: rest)) :
    next t thread = some op := by
  rw [next, top]
  rfl

/-! ### The streams of the peer -/

/-- The streams that a section carries. -/
def carried : HelloSection → Multiset Nat
  | .closeEstablished batch => batch
  | .surface stream => {stream}
  | .enqueue stream => {stream}
  | .register stream => {stream}
  | _ => 0

/-- The streams that are somewhere else. -/
def kept (s : Establishment) : Multiset Nat := s.accepted + s.incoming + s.staged + s.dropped

theorem sum_surface (batch : List Nat) :
    ((batch.map HelloSection.surface).map carried).sum = (batch : Multiset Nat) := by
  induction batch with
  | nil => rfl
  | cons stream batch ih =>
    rw [List.map_cons, List.map_cons, List.sum_cons, ih, ← Multiset.cons_coe,
      ← Multiset.singleton_add]
    rfl

/-- **What a section does to the streams**: it moves them, or makes one. -/
theorem exec_kept (ran : s.exec op = some e) :
    carried op + s.kept + Multiset.range e.shared.streams =
      (e.next.map carried).sum + (e.started.flatten.map carried).sum + e.shared.kept +
        Multiset.range s.streams := by
  have quiet {s' : Establishment} {next : List HelloSection} (carries : carried op = 0)
    (same : s'.kept = s.kept)
      (streams : s'.streams = s.streams) (none : ∀ other ∈ next, carried other = 0) :
      carried op + s.kept + Multiset.range s'.streams =
        (next.map carried).sum + (([] : List (List HelloSection)).flatten.map carried).sum +
          s'.kept +
          Multiset.range s.streams := by
    rw [carries, streams, Threads.sum_eq_zero none, same]
    simp
  cases op with
  | check =>
    simp only [exec] at ran
    split at ran
    · cases ran
      simp only [carried, kept, List.map_cons, List.map_nil, List.sum_cons, List.sum_nil,
        List.flatten_nil, Multiset.coe_nil]
      abel
    · cases ran
      exact quiet rfl rfl rfl (by simp)
  | closeEstablished batch =>
    cases ran
    rw [sum_surface]
    simp only [carried, kept, List.flatten_nil, List.map_nil, List.sum_nil]
    abel
  | surface stream =>
    simp only [exec] at ran
    split at ran
    · cases ran
      simp only [carried, kept, List.map_nil, List.sum_nil, List.flatten_nil, ← Multiset.coe_add,
        Multiset.coe_singleton]
      abel
    · cases ran
      simp [carried, kept]
  | enqueue stream =>
    cases ran
    simp only [carried, kept, List.map_nil, List.sum_nil, List.flatten_nil, ← Multiset.coe_add,
      Multiset.coe_singleton]
    abel
  | control data =>
    cases ran
    refine quiet rfl rfl rfl fun other member => ?_
    unfold onControl at member
    split at member
    · rw [List.mem_singleton.mp member]
      rfl
    · split at member <;> rw [List.mem_singleton.mp member] <;> rfl
  | readPeerHello version limits =>
    simp only [exec] at ran
    split at ran
    · cases ran
      exact quiet rfl rfl rfl (by simp [carried])
    split at ran <;> cases ran <;> exact quiet rfl rfl rfl (by simp [carried])
  | grant raise =>
    cases ran
    refine quiet rfl rfl rfl ?_
    split <;> simp [carried]
  | peerStreamOpened =>
    simp only [exec] at ran
    split at ran
    · cases ran
      exact quiet rfl rfl rfl (by simp [carried])
    · cases ran
      simp only [carried, kept, List.map_cons, List.map_nil, List.sum_cons, List.sum_nil,
        List.flatten_nil, Multiset.range_succ, ← Multiset.singleton_add]
      abel
  | register stream =>
    simp only [exec] at ran
    split at ran
    · cases ran
      simp [carried, kept]
    · cases ran
      simp only [carried, kept, List.map_nil, List.sum_nil, List.flatten_nil, ← Multiset.coe_add,
        Multiset.coe_singleton]
      abel
  | clear =>
    cases ran
    refine quiet rfl ?_ rfl (by simp [carried])
    simp only [kept, ← Multiset.coe_add, Multiset.coe_nil]
    abel
  | setSent =>
    simp only [exec] at ran
    split at ran <;> cases ran <;> exact quiet rfl rfl rfl (by simp [carried])
  | fatal code =>
    simp only [exec] at ran
    split at ran <;> cases ran <;> exact quiet rfl rfl rfl (by simp [carried])
  | closeOnce err =>
    simp only [exec] at ran
    split at ran <;> cases ran <;> exact quiet rfl rfl rfl (by simp [carried])
  | _ =>
    cases ran
    exact quiet rfl rfl rfl (by simp [carried])

/-- Every stream of the peer is in one place, once. -/
def Conserved (t : Calls) : Prop :=
  t.shared.kept + t.weight carried = Multiset.range t.shared.streams

/-- **One step conserves the streams.** -/
theorem Conserved.step (conserved : Conserved t) (stepped : step t label = some t') :
    Conserved t' := by
  have starts {stack : List HelloSection} (none : ∀ op ∈ stack, carried op = 0) :
      Conserved (t.start stack) := by
    unfold Conserved
    rw [Threads.weight_start, Threads.sum_eq_zero none, add_zero]
    exact conserved
  cases label with
  | run thread =>
    obtain ⟨op, rest, e, top, ran, rfl⟩ := Threads.advance_eq_some.mp stepped
    exact Threads.weight_conserved top (exec_kept ran) conserved
  | credit op =>
    cases stepped
    exact conserved
  | accept =>
    simp only [Establishment.step] at stepped
    split at stepped
    · cases stepped
    · next stream incoming front =>
      cases stepped
      unfold Conserved kept at conserved ⊢
      rw [front, ← Multiset.cons_coe, ← Multiset.singleton_add] at conserved
      rw [← conserved, ← Multiset.coe_add, Multiset.coe_singleton]
      show _ + t.weight carried = _
      abel
  | _ =>
    cases stepped
    exact starts (by simp [carried])

/-! ### Streams that are dropped -/

/-- The sections of a teardown that has begun. -/
def tears : HelloSection → Bool
  | .closeOnce _ => true
  | .failFlow _ => true
  | .clear => true
  | _ => false

/-- Only a teardown closes the connection, and drops streams. -/
structure Torn (t : Calls) : Prop where
  closed : t.shared.closedCh = true → t.shared.tearingDown = true
  pending : ∀ op ∈ t.pending, tears op = true → t.shared.tearingDown = true
  dropped : t.shared.dropped ≠ [] → t.shared.tearingDown = true

theorem onControl_quiet (message : Except String ControlMsg) :
    ∀ op ∈ onControl message, tears op = false ∧ op ≠ .check := by
  intro op member
  unfold onControl at member
  split at member
  · rw [List.mem_singleton.mp member]
    exact ⟨rfl, by simp⟩
  · split at member <;> rw [List.mem_singleton.mp member] <;> exact ⟨rfl, by simp⟩

/-- **What a section does to a teardown.** -/
theorem exec_torn (ran : s.exec op = some e) :
    e.started = [] ∧ (s.tearingDown = true → e.shared.tearingDown = true) ∧
    (e.shared.closedCh = true → s.closedCh = true ∨ tears op = true) ∧
    (∀ other ∈ e.next, tears other = true → e.shared.tearingDown = true ∨ tears op = true) ∧
    (e.shared.dropped ≠ [] → s.dropped ≠ [] ∨ s.closedCh = true ∨ tears op = true) := by
  have quiet {s' : Establishment} {next : List HelloSection}
    (tearing : s'.tearingDown = s.tearingDown)
      (closed : s'.closedCh = s.closedCh) (dropped : s'.dropped = s.dropped)
      (none : ∀ other ∈ next, tears other = false) :
      ([] : List (List HelloSection)) = [] ∧ (s.tearingDown = true → s'.tearingDown = true) ∧
      (s'.closedCh = true → s.closedCh = true ∨ tears op = true) ∧
      (∀ other ∈ next, tears other = true → s'.tearingDown = true ∨ tears op = true) ∧
      (s'.dropped ≠ [] → s.dropped ≠ [] ∨ s.closedCh = true ∨ tears op = true) := by
    rw [tearing, closed, dropped]
    refine ⟨rfl, fun torn => torn, Or.inl, fun other member torn => ?_, Or.inl⟩
    rw [none other member] at torn
    cases torn
  cases op with
  | setSent =>
    simp only [exec] at ran
    split at ran <;> cases ran <;> exact quiet rfl rfl rfl (by simp [tears])
  | check =>
    simp only [exec] at ran
    split at ran <;> cases ran <;> exact quiet rfl rfl rfl (by simp [tears])
  | closeEstablished batch =>
    cases ran
    refine quiet rfl rfl rfl fun other member => ?_
    obtain ⟨stream, -, rfl⟩ := List.mem_map.mp member
    rfl
  | surface stream =>
    simp only [exec] at ran
    split at ran
    · next closed =>
      cases ran
      exact ⟨rfl, fun torn => torn, Or.inl, fun other member => absurd member List.not_mem_nil,
        fun _ => Or.inr (Or.inl closed)⟩
    · cases ran
      exact quiet rfl rfl rfl (by simp [tears])
  | control data =>
    cases ran
    exact quiet rfl rfl rfl fun other member => (onControl_quiet _ other member).1
  | readPeerHello version limits =>
    simp only [exec] at ran
    split at ran
    · cases ran
      exact quiet rfl rfl rfl (by simp [tears])
    split at ran <;> cases ran <;> exact quiet rfl rfl rfl (by simp [tears])
  | grant raise =>
    cases ran
    refine quiet rfl rfl rfl ?_
    split <;> simp [tears]
  | peerStreamOpened =>
    simp only [exec] at ran
    split at ran <;> cases ran <;> exact quiet rfl rfl rfl (by simp [tears])
  | register stream =>
    simp only [exec] at ran
    split at ran <;> cases ran <;> exact quiet rfl rfl rfl (by simp [tears])
  | fatal code =>
    simp only [exec] at ran
    split at ran
    · cases ran
      exact quiet rfl rfl rfl (by simp)
    · cases ran
      exact ⟨rfl, fun _ => rfl, Or.inl, fun _ _ _ => Or.inl rfl, Or.inl⟩
  | storeTearing =>
    cases ran
    exact ⟨rfl, fun _ => rfl, Or.inl, fun _ _ _ => Or.inl rfl, Or.inl⟩
  | teardown err =>
    cases ran
    exact ⟨rfl, fun _ => rfl, Or.inl, fun _ _ _ => Or.inl rfl, Or.inl⟩
  | closeOnce err =>
    simp only [exec] at ran
    split at ran <;> cases ran <;>
      exact ⟨rfl, fun torn => torn, fun _ => Or.inr rfl, fun _ _ _ => Or.inr rfl, Or.inl⟩
  | failFlow err =>
    cases ran
    exact ⟨rfl, fun torn => torn, Or.inl, fun _ _ _ => Or.inr rfl, Or.inl⟩
  | clear =>
    cases ran
    exact ⟨rfl, fun torn => torn, Or.inl, fun _ _ _ => Or.inr rfl, fun _ => Or.inr (Or.inr rfl)⟩
  | _ =>
    cases ran
    exact quiet rfl rfl rfl (by simp)

/-- **One step keeps it so.** -/
theorem Torn.step (torn : Torn t) (stepped : step t label = some t') : Torn t' := by
  have starts {stack : List HelloSection} (none : ∀ op ∈ stack, tears op = false) :
      Torn (t.start stack) := by
    refine ⟨torn.closed, fun op member tears => ?_, torn.dropped⟩
    rw [Threads.pending_start] at member
    rcases List.mem_append.mp member with old | new
    · exact torn.pending op old tears
    · rw [none op new] at tears
      cases tears
  cases label with
  | run thread =>
    obtain ⟨op, rest, e, top, ran, rfl⟩ := Threads.advance_eq_some.mp stepped
    obtain ⟨started, stays, closed, next, dropped⟩ := exec_torn ran
    obtain ⟨-, -, comes⟩ := Threads.pending_members (e := e) top
    have here (now : tears op = true) : e.shared.tearingDown = true :=
      stays (torn.pending op (Threads.mem_pending top) now)
    refine ⟨fun shut => ?_, fun other member now => ?_, fun some => ?_⟩
    · exact (closed shut).elim (fun before => stays (torn.closed before)) here
    · rcases comes other member with new | new | old
      · exact (next other new now).elim (fun tearing => tearing) here
      · rw [started] at new
        cases new
      · exact stays (torn.pending other old now)
    · rcases dropped some with before | shut | now
      · exact stays (torn.dropped before)
      · exact stays (torn.closed shut)
      · exact here now
  | credit op =>
    cases stepped
    exact ⟨torn.closed, torn.pending, torn.dropped⟩
  | accept =>
    simp only [Establishment.step] at stepped
    split at stepped
    · cases stepped
    · cases stepped
      exact ⟨torn.closed, torn.pending, torn.dropped⟩
  | _ =>
    cases stepped
    exact starts (by simp [tears])

/-! ### Streams that are staged -/

/-- `establishedCh` is about to be closed. -/
def closes : HelloSection → Bool
  | .closeEstablished _ => true
  | _ => false

/-- `establishedCh` is closed, or is about to be. -/
def Closing (t : Calls) : Prop := t.shared.established = true ∨ ∃ op ∈ t.pending, closes op = true

/-- Once `establishedCh` is about to be closed, nothing is staged, or a check is still to come that
takes it. -/
structure Unstranded (t : Calls) : Prop where
  flags : Closing t → t.shared.helloSent = true ∧ t.shared.peerHello = true
  staged : Closing t → t.shared.staged = [] ∨ .check ∈ t.pending

/-- A stream is staged in time: `establishedCh` is not about to be closed, or a check is still to
come. -/
def InTime (t : Calls) : HelloSection → Prop
  | .register _ =>
    t.shared.established = true ∨ (∀ op ∈ t.pending, closes op = false) ∨ .check ∈ t.pending
  | _ => True

instance (t : Calls) : (op : HelloSection) → Decidable (InTime t op)
  | .register _ => inferInstanceAs (Decidable (_ ∨ _ ∨ _))
  | .setSent | .trySendControl _ | .check
  | .closeEstablished _ | .surface _ | .enqueue _ | .control _
  | .readPeerHello _ _ | .onPeerHello _ | .setPeerHello | .grant _ | .raise _ | .peerStreamOpened
  | .fatal _
  | .storeTearing | .teardown _ | .closeOnce _ | .failFlow _ | .clear | .pcClose => .isTrue trivial

def inTime (t : Calls) : Label → Prop
  | .run thread => ∀ op ∈ next t thread, InTime t op
  | _ => True

instance (t : Calls) : (label : Label) → Decidable (inTime t label)
  | .run _ => inferInstanceAs (Decidable (∀ op ∈ _, InTime t op))
  | .controlOpen | .control _ | .incoming
  | .violation _ | .close _ | .markClosed _ | .credit _ | .accept => .isTrue trivial

/-- What a section does to the handshake. -/
inductive Does (s : Establishment) : HelloSection → Effect Establishment HelloSection → Prop
  | take (ready : s.helloSent = true ∧ s.peerHello = true) : Does s .check
      ⟨{ s with staged := [] }, [.closeEstablished s.staged], []⟩
  | pass (early : ¬ (s.helloSent = true ∧ s.peerHello = true)) : Does s .check ⟨s, [], []⟩
  | stage (stream : Nat) (early : s.established = false) : Does s (.register stream)
      ⟨{ s with staged := s.staged ++ [stream] }, [], []⟩
  | aside {op : HelloSection} {e : Effect Establishment HelloSection} (other : op ≠ .check)
      (staged : e.shared.staged = s.staged ∨ e.shared.staged = [])
      (established : e.shared.established = s.established ∨ closes op = true)
      (sent : s.helloSent = true → e.shared.helloSent = true)
      (hello : s.peerHello = true → e.shared.peerHello = true)
      (next : ∀ later ∈ e.next, closes later = false) : Does s op e

/-- **What a section does to the handshake.** -/
theorem exec_cases (ran : s.exec op = some e) : Does s op e := by
  have quiet {s' : Establishment} {next : List HelloSection} (other : op ≠ .check)
    (staged : s'.staged = s.staged)
      (established : s'.established = s.established) (sent : s'.helloSent = s.helloSent)
      (hello : s'.peerHello = s.peerHello) (none : ∀ later ∈ next, closes later = false) :
        Does s op ⟨s', next, []⟩ := by
    refine .aside other (Or.inl staged) (Or.inl established) (fun before => ?_)
      (fun before => ?_) none
    · exact sent.trans before
    · exact hello.trans before
  cases op with
  | setSent =>
    simp only [exec] at ran
    split at ran
    · cases ran
      exact quiet (by simp) rfl rfl rfl rfl (by simp)
    · cases ran
      exact .aside (by simp) (Or.inl rfl) (Or.inl rfl) (fun _ => rfl) (fun hello => hello)
        (by simp [closes])
  | check =>
    simp only [exec] at ran
    split at ran
    · next ready =>
      cases ran
      exact .take (Bool.and_eq_true_iff.mp ready)
    · next early =>
      cases ran
      exact .pass fun both => early (Bool.and_eq_true_iff.mpr both)
  | closeEstablished batch =>
    cases ran
    refine .aside (by simp) (Or.inl rfl) (Or.inr rfl) (fun sent => sent)
      (fun hello => hello) fun later member => ?_
    obtain ⟨stream, -, rfl⟩ := List.mem_map.mp member
    rfl
  | surface stream =>
    simp only [exec] at ran
    split at ran <;> cases ran <;> exact quiet (by simp) rfl rfl rfl rfl (by simp [closes])
  | control data =>
    cases ran
    refine quiet (by simp) rfl rfl rfl rfl fun later member => ?_
    unfold onControl at member
    split at member
    · rw [List.mem_singleton.mp member]
      rfl
    · split at member <;> rw [List.mem_singleton.mp member] <;> rfl
  | readPeerHello version limits =>
    simp only [exec] at ran
    split at ran
    · cases ran
      exact quiet (by simp) rfl rfl rfl rfl (by simp [closes])
    split at ran <;> cases ran <;> exact quiet (by simp) rfl rfl rfl rfl (by simp [closes])
  | setPeerHello =>
    cases ran
    exact .aside (by simp) (Or.inl rfl) (Or.inl rfl) (fun sent => sent) (fun _ => rfl) (by simp)
  | grant raise =>
    cases ran
    refine quiet (by simp) rfl rfl rfl rfl ?_
    split <;> simp [closes]
  | peerStreamOpened =>
    simp only [exec] at ran
    split at ran <;> cases ran <;> exact quiet (by simp) rfl rfl rfl rfl (by simp [closes])
  | register stream =>
    simp only [exec] at ran
    split at ran
    · cases ran
      exact quiet (by simp) rfl rfl rfl rfl (by simp [closes])
    · next early =>
      cases ran
      exact .stage stream (Bool.not_eq_true _ ▸ early)
  | fatal code =>
    simp only [exec] at ran
    split at ran <;> cases ran <;> exact quiet (by simp) rfl rfl rfl rfl (by simp [closes])
  | closeOnce err =>
    simp only [exec] at ran
    split at ran <;> cases ran <;> exact quiet (by simp) rfl rfl rfl rfl (by simp [closes])
  | clear =>
    cases ran
    exact .aside (by simp) (Or.inr rfl) (Or.inl rfl) (fun sent => sent) (fun hello => hello)
      (by simp [closes])
  | _ =>
    cases ran
    exact quiet (by simp) rfl rfl rfl rfl (by simp [closes])

/-- **One step strands no stream**, if it stages none too late. -/
theorem Unstranded.step (unstranded : Unstranded t) (time : inTime t label)
    (stepped : step t label = some t') :
    Unstranded t' := by
  -- a step that leaves the flags, and starts sections that do not matter
  have leaves
      (shared : t'.shared.established = t.shared.established ∧
        t'.shared.helloSent = t.shared.helloSent ∧
      t'.shared.peerHello = t.shared.peerHello ∧ t'.shared.staged = t.shared.staged)
      (comes : ∀ op ∈ t'.pending, closes op = true → op ∈ t.pending)
      (kept : .check ∈ t.pending → .check ∈ t'.pending) : Unstranded t' := by
    obtain ⟨established, sent, hello, staged⟩ := shared
    have before (closing : Closing t') : Closing t := by
      refine closing.imp (fun now => established.symm.trans now) ?_
      rintro ⟨op, member, now⟩
      exact ⟨op, comes op member now, now⟩
    refine ⟨fun closing => ?_, fun closing => ?_⟩
    · rw [sent, hello]
      exact unstranded.flags (before closing)
    · rw [staged]
      exact (unstranded.staged (before closing)).imp_right kept
  have starts (stack : List HelloSection) (none : ∀ op ∈ stack, closes op = false)
    (same : t' = t.start stack) :
      Unstranded t' := by
    subst same
    refine leaves ⟨rfl, rfl, rfl, rfl⟩ (fun op member now => ?_) fun check => ?_
    · rw [Threads.pending_start] at member
      refine (List.mem_append.mp member).resolve_right fun new => ?_
      rw [none op new] at now
      cases now
    · rw [Threads.pending_start]
      exact List.mem_append_left _ check
  cases label with
  | run thread =>
    obtain ⟨op, rest, e, top, ran, rfl⟩ := Threads.advance_eq_some.mp stepped
    have here : InTime t op := time op (next_eq top)
    obtain ⟨started, -⟩ := exec_torn ran
    obtain ⟨-, kept, comes⟩ := Threads.pending_members (e := e) top
    cases exec_cases ran with
    | take ready => exact ⟨fun _ => ready, fun _ => Or.inl rfl⟩
    | pass early =>
      refine ⟨fun closing => ?_, fun closing => ?_⟩
      all_goals
        refine absurd (unstranded.flags (closing.imp_right ?_)) early
        rintro ⟨op, member, now⟩
        rcases comes op member with new | new | old
        · cases new
        · cases new
        · exact ⟨op, old, now⟩
    | stage stream early =>
      have before (closing : Closing ⟨{ t.shared with staged := t.shared.staged ++ [stream] },
          t.pool.set thread ([] ++ rest) ++ []⟩) : ∃ op ∈ t.pending, closes op = true := by
        rcases closing with now | ⟨op, member, now⟩
        · rw [early] at now
          cases now
        · rcases comes op member with new | new | old
          · cases new
          · cases new
          · exact ⟨op, old, now⟩
      refine ⟨fun closing => unstranded.flags (Or.inr (before closing)), fun closing => Or.inr ?_⟩
      obtain ⟨op, member, now⟩ := before closing
      rcases here with established | none | check
      · rw [early] at established
        cases established
      · rw [none op member] at now
        cases now
      · exact (kept _ check).resolve_left (by simp)
    | aside other staged established sent hello next =>
      have before (closing : Closing ⟨e.shared, t.pool.set thread (e.next ++ rest) ++ e.started⟩) :
          Closing t := by
        rcases closing with now | ⟨later, member, now⟩
        · rcases established with same | closes
          · exact Or.inl (same.symm.trans now)
          · exact Or.inr ⟨op, Threads.mem_pending top, closes⟩
        · rcases comes later member with new | new | old
          · rw [next later new] at now
            cases now
          · rw [started] at new
            cases new
          · exact Or.inr ⟨later, old, now⟩
      refine ⟨fun closing => ?_, fun closing => ?_⟩
      · exact (unstranded.flags (before closing)).imp sent hello
      · rcases staged with same | empty
        · refine (unstranded.staged (before closing)).imp
            (fun empty => same.trans empty) fun check => ?_
          exact (kept _ check).resolve_left fun same => other same.symm
        · exact Or.inl empty
  | credit op =>
    cases stepped
    exact leaves ⟨rfl, rfl, rfl, rfl⟩ (fun op member _ => member) fun check => check
  | accept =>
    simp only [Establishment.step] at stepped
    split at stepped
    · cases stepped
    · cases stepped
      exact leaves ⟨rfl, rfl, rfl, rfl⟩ (fun op member _ => member) fun check => check
  | _ =>
    cases stepped
    exact starts _ (by simp [closes]) rfl

/-- A section of `handleIncoming` that has a stream in its hands, or of `checkEstablished`. -/
def inCallback : HelloSection → Bool
  | .check => true
  | .closeEstablished _ => true
  | .surface _ => true
  | .enqueue _ => true
  | .register _ => true
  | _ => false

theorem carried_eq_zero (aside : inCallback op = false) : carried op = 0 := by
  cases op with
  | check => cases aside
  | closeEstablished batch => cases aside
  | surface stream => cases aside
  | enqueue stream => cases aside
  | register stream => cases aside
  | _ => rfl

/-- Once no callback is under way on an established connection that is not torn down, nothing is
staged, and every stream of the peer was placed in the accept queue once. -/
def Placed (t : Calls) : Prop :=
  t.shared.established = true → t.shared.tearingDown = false →
    (∀ op ∈ t.pending, inCallback op = false) →
    t.shared.staged = [] ∧
    (t.shared.accepted ++ t.shared.incoming).Perm (List.range t.shared.streams)

theorem Conserved.placed (conserved : Conserved t) (torn : Torn t) (unstranded : Unstranded t) :
    Placed t := by
  intro established healthy idle
  have staged : t.shared.staged = [] := by
    refine (unstranded.staged (Or.inl established)).resolve_right fun check => ?_
    cases idle _ check
  have dropped : t.shared.dropped = [] := by
    by_contra some
    rw [torn.dropped some] at healthy
    cases healthy
  refine ⟨staged, Multiset.coe_eq_coe.mp ?_⟩
  unfold Conserved kept at conserved
  have weightless : t.weight carried = 0 :=
    Threads.sum_eq_zero fun op member => carried_eq_zero (idle op member)
  rw [weightless, staged, dropped, Multiset.coe_nil, add_zero, add_zero, add_zero,
    Multiset.coe_add] at conserved
  exact conserved

/-- **No stream of the peer is lost at establishment** in a run that stages none between the two
parts of `checkEstablished`. -/
theorem placed_of_inTime {limits : FlowWindows} {labels : List Label}
    (time : Meets step inTime (new limits) labels)
    (ran : run step (new limits) labels = some t) : Placed t := by
  have conserves (t : Calls) (label : Label) (t' : Calls) (conserved : Conserved t)
      (stepped : step t label = some t') : Conserved t' := conserved.step stepped
  have tears (t : Calls) (label : Label) (t' : Calls) (torn : Torn t)
      (stepped : step t label = some t') : Torn t' :=
    torn.step stepped
  have strands (t : Calls) (label : Label) (t' : Calls) (here : inTime t label)
    (unstranded : Unstranded t)
      (stepped : step t label = some t') : Unstranded t' := unstranded.step here stepped
  have conserved : Conserved (new limits) := by
    unfold Conserved
    rfl
  have torn : Torn (new limits) := by
    refine ⟨fun closed => ?_, fun op member => absurd member List.not_mem_nil,
      fun some => absurd rfl some⟩
    cases closed
  have unstranded : Unstranded (new limits) := by
    have open' : ¬ Closing (new limits) := by
      rintro (now | ⟨op, member, -⟩)
      · cases now
      · cases member
    exact ⟨fun closing => absurd closing open', fun closing => absurd closing open'⟩
  exact (run_invariant conserves conserved ran).placed (run_invariant tears torn ran)
    (run_invariant_of_meets strands time unstranded ran)

end Establishment

end Kps.Go
