/-
**The credit of a Go stream whose read half is cancelled** (`CancelRead` and `Read` in `stream.go`,
`onConsumed` and `markCancelled` in `flow.go`).

`onConsumed` computes an advertisement under the connection's mutex and hands it to the channel
after it has unlocked; `CancelRead` marks the stream, then its credit, and then hands over
STOP_SENDING.

* `exec_credits` — what a section hands to the channel, and what it does to the mark of the credit;
* `LastWordInv.step` — STOP_SENDING stays the last word on credit, if no advertisement is on its way
  when it is handed over; `stop_overtakes` is what happens otherwise;
* `onConsumed_releases` — a consumption is counted for the connection and advertised at half a
  window, cancelled or not.
-/

import Kps.Go.CancelRead
import Kps.Lib.LastWord

namespace Kps.Go

open Kps.Lib

namespace StreamSection

/-- The section marks the credit of the stream. -/
def marksCredit : StreamSection → Bool
  | .markCancelled => true
  | _ => false

/-- A STOP_SENDING is about to be handed over. -/
def stops : StreamSection → Bool
  | .waitOpenStop _ => true
  | .sendStop _ => true
  | _ => false

/-- An advertisement of stream credit is about to be handed over. -/
def grants : StreamSection → Bool
  | .sendMaxStreamData _ => true
  | _ => false

/-- The `Send` of STOP_SENDING. -/
def sendsStop : StreamSection → Bool
  | .sendStop _ => true
  | _ => false

theorem eq_sendStop {op : StreamSection} (sends : op.sendsStop = true) :
    ∃ code, op = .sendStop code := by
  cases op with
  | sendStop code => exact ⟨code, rfl⟩
  | _ => cases sends

end StreamSection

namespace Call

def stops : Call → Bool
  | .send (.stopSending _) => true
  | _ => false

def grants : Call → Bool
  | .send (.maxStreamData _) => true
  | _ => false

end Call

namespace WebrtcStream

/-- No section of the list hands over STOP_SENDING or stream credit. -/
def Mute (sections : List StreamSection) : Prop :=
  ∀ op ∈ sections, op.stops = false ∧ op.grants = false

/-- What a section does to the stream's part of the credit. -/
inductive Credits (s : WebrtcStream) : StreamSection → Effect WebrtcStream StreamSection → Prop
  | aside {op e} (calls : ∃ new, e.shared.dc.calls = s.dc.calls ++ new ∧
      ∀ call ∈ new, call.stops = false ∧ call.grants = false)
    (same : e.shared.sf.cancelled = s.sf.cancelled) (next : Mute e.next) (plain : op.stops = false)
    (unmarked : op.marksCredit = false) : Credits s op e
  | marks : Credits s .markCancelled { shared := { s with sf := s.sf.markCancelled } }
  /-- `CancelRead` leaves STOP_SENDING behind the mark. -/
  | cancels {code e after} (calls : e.shared.dc.calls = s.dc.calls)
    (same : e.shared.sf.cancelled = s.sf.cancelled) (next : e.next = .markCancelled :: after)
    (quiet : ∀ op ∈ after, op.grants = false) : Credits s (.cancelRead code) e
  /-- An advertisement is computed only before the mark. -/
  | counts {n e} (calls : e.shared.dc.calls = s.dc.calls)
    (same : e.shared.sf.cancelled = s.sf.cancelled)
    (next : ∀ op ∈ e.next, op.stops = false ∧ (op.grants = true → s.sf.cancelled = false)) :
    Credits s (.onConsumed n) e
  | grants {v e}
    (calls : ∃ new, e.shared.dc.calls = s.dc.calls ++ new ∧ ∀ call ∈ new,
      call = .send (.maxStreamData v.toNat))
    (same : e.shared.sf.cancelled = s.sf.cancelled) (next : e.next = []) :
      Credits s (.sendMaxStreamData v) e
  | waits {code e} (same : e.shared = s) (next : ∀ op ∈ e.next, op = .sendStop code) :
    Credits s (.waitOpenStop code) e
  | stops {code e}
    (calls : ∃ new, e.shared.dc.calls = s.dc.calls ++ new ∧ ∀ call ∈ new,
      call = .send (.stopSending code))
    (same : e.shared.sf.cancelled = s.sf.cancelled) (next : e.next = []) :
      Credits s (.sendStop code) e

variable {s : WebrtcStream} {op : StreamSection} {e : Effect WebrtcStream StreamSection}

theorem mute_nil : Mute [] := fun _ member => absurd member List.not_mem_nil

theorem mute_cons {op : StreamSection} {rest : List StreamSection} :
    Mute (op :: rest) ↔ (op.stops = false ∧ op.grants = false) ∧ Mute rest := List.forall_mem_cons

theorem mute_append {first second : List StreamSection} :
    Mute (first ++ second) ↔ Mute first ∧ Mute second :=
  List.forall_mem_append

theorem mute_single {op : StreamSection} (stops : op.stops = false) (grants : op.grants = false) :
    Mute [op] :=
  mute_cons.mpr ⟨⟨stops, grants⟩, mute_nil⟩

theorem mute_consumed (n : Nat) : Mute (consumed n) := by
  intro op member
  rw [mem_consumed member]
  exact ⟨rfl, rfl⟩

/-- What `trySend` adds to the calls. -/
theorem calls_trySend (dc : DataChannel) (frame : Wire.Frame) :
    ∃ new, (dc.trySend frame).calls = dc.calls ++ new ∧ ∀ call ∈ new, call = .send frame := by
  unfold DataChannel.trySend DataChannel.send
  by_cases isOpen : dc.readyState = .opened
  · rw [if_pos isOpen]
    exact ⟨[.send frame], rfl, fun call member => List.mem_singleton.mp member⟩
  · rw [if_neg isOpen]
    exact ⟨[], (List.append_nil _).symm, fun call member => absurd member List.not_mem_nil⟩

/-- The effect of `andThen` of a section that leaves the channel and the mark. -/
theorem Credits.ofAndThen {s' : WebrtcStream} {next : List StreamSection}
    (ran : andThen next s' = some e)
    (calls : s'.dc.calls = s.dc.calls) (same : s'.sf.cancelled = s.sf.cancelled) (mute : Mute next)
    (plain : op.stops = false) (unmarked : op.marksCredit = false) : Credits s op e := by
  cases ran
  refine .aside ⟨[], ?_, fun call member => absurd member List.not_mem_nil⟩ same mute plain unmarked
  rw [List.append_nil]
  exact calls

/-- The same of a section that hands over a frame of another kind. -/
theorem Credits.ofSend {s' : WebrtcStream} {next : List StreamSection} {frame : Wire.Frame}
    (ran : andThen next s' = some e)
    (calls : ∃ new, s'.dc.calls = s.dc.calls ++ new ∧ ∀ call ∈ new, call = .send frame)
    (other : (Call.send frame).stops = false ∧ (Call.send frame).grants = false)
    (same : s'.sf.cancelled = s.sf.cancelled) (mute : Mute next)
    (plain : op.stops = false) (unmarked : op.marksCredit = false) : Credits s op e := by
  cases ran
  obtain ⟨new, added, only⟩ := calls
  refine .aside ⟨new, added, ?_⟩ same mute plain unmarked
  intro call member
  rw [only call member]
  exact other

end WebrtcStream

/-! ### The mark of the credit -/

section Mark

variable {ε : Type} {f : ConnFlow ε} {sf : StreamFlow ε} {n : UInt64}

theorem failSend_cancelled (error : ε) : (sf.failSend error f).2.cancelled = sf.cancelled := by
  unfold StreamFlow.failSend
  split <;> rfl

theorem onPeerMaxStreamData_cancelled (v : UInt64) :
    (sf.onPeerMaxStreamData v f).2.cancelled = sf.cancelled := by
  unfold StreamFlow.onPeerMaxStreamData
  split <;> rfl

theorem reserveData_cancelled {granted : UInt64} {f' : ConnFlow ε} {sf' : StreamFlow ε}
    (reserved : (f.reserveData sf n).value = .granted granted f' sf') :
      sf'.cancelled = sf.cancelled := by
  unfold ConnFlow.reserveData at reserved
  split at reserved
  · cases reserved
  · cases reserved
  · dsimp only [bind, pure] at reserved
    split at reserved <;> cases reserved
    rfl

theorem onDataReceived_cancelled {f' : ConnFlow ε} {sf' : StreamFlow ε}
    (accepted : (sf.onDataReceived n f).value = .ok (f', sf')) : sf'.cancelled = sf.cancelled := by
  unfold StreamFlow.onDataReceived at accepted
  dsimp only [bind, pure] at accepted
  split at accepted
  · cases accepted
  · split at accepted <;> cases accepted
    rfl

theorem streamConsumed_cancelled (f : ConnFlow ε) (sf : StreamFlow ε) (n : UInt64) :
    (sf.streamConsumed n f).value.1.cancelled = sf.cancelled ∧
    (sf.cancelled = true → (sf.streamConsumed n f).value.2 = 0) := by
  unfold StreamFlow.streamConsumed
  dsimp only [bind, pure]
  by_cases cancelled : sf.cancelled = true
  · rw [if_pos cancelled]
    exact ⟨rfl, fun _ => rfl⟩
  · rw [if_neg cancelled]
    refine ⟨?_, fun marked => absurd marked cancelled⟩
    split <;> rfl

/-- No advertisement is computed for a marked stream. -/
theorem onConsumed_cancelled (f : ConnFlow ε) (sf : StreamFlow ε) (n : UInt64) :
    (sf.onConsumed n f).value.2.1.cancelled = sf.cancelled ∧
    (sf.cancelled = true → (sf.onConsumed n f).value.2.2.1 = none) := by
  obtain ⟨same, none⟩ := streamConsumed_cancelled f sf n
  refine ⟨same, fun marked => ?_⟩
  show StreamFlow.positive (sf.streamConsumed n f).value.2 = Option.none
  rw [none marked]
  rfl

/-- A consumption of `n` bytes is counted for the connection, and its credit is advertised at half a
window. -/
structure Releases (n : UInt64) (f f' : ConnFlow ε) (connAdv : Option UInt64) : Prop where
  counted : f'.connConsumed = f.connConsumed + n
  due : f.limits.maxData / 2 ≤ f'.connConsumed - f.connAdvertisedAt →
    f'.connAdvertisedAt = f'.connConsumed ∧
      f'.localMaxData = satOffset (f'.connConsumed + f.limits.maxData) ∧
      connAdv = StreamFlow.positive f'.localMaxData
  early : f'.connConsumed - f.connAdvertisedAt < f.limits.maxData / 2 →
    f'.connAdvertisedAt = f.connAdvertisedAt ∧ f'.localMaxData = f.localMaxData ∧ connAdv = none

/-- **A consumption releases the connection's credit**, whether or not the stream is marked. -/
theorem onConsumed_releases :
    Releases n f (sf.onConsumed n f).value.1 (sf.onConsumed n f).value.2.2.2 := by
  have conn : Releases n f (StreamFlow.connConsumed n f).value.1
      (StreamFlow.positive (StreamFlow.connConsumed n f).value.2) := by
    unfold StreamFlow.connConsumed
    dsimp only [bind, pure]
    by_cases due : (Word.sub (Word.add f.connConsumed n).value f.connAdvertisedAt).value ≥
      f.limits.maxData / 2
    · rw [if_pos due]
      exact ⟨rfl, fun _ => ⟨rfl, rfl, rfl⟩, fun early => absurd due (UInt64.not_le.mpr early)⟩
    · rw [if_neg due]
      exact ⟨rfl, fun now => absurd now due, fun _ => ⟨rfl, rfl, rfl⟩⟩
  exact conn

end Mark

namespace WebrtcStream

variable {s : WebrtcStream} {op : StreamSection} {e : Effect WebrtcStream StreamSection}

theorem onFrame_credits {data : Bytes} (ran : s.onFrame data = some e) :
    Credits s (.onFrame data) e := by
  unfold onFrame at ran
  split at ran
  · exact .ofAndThen ran rfl rfl (mute_single rfl rfl) rfl rfl
  · split at ran
    · split at ran <;> exact .ofAndThen ran rfl rfl (mute_single rfl rfl) rfl rfl
    · split at ran <;> exact .ofAndThen ran rfl rfl (mute_single rfl rfl) rfl rfl
    · split at ran
      · exact .ofAndThen ran rfl rfl (mute_single rfl rfl) rfl rfl
      · exact .ofAndThen ran rfl rfl
          (mute_append.mpr ⟨mute_consumed _, mute_single rfl rfl⟩) rfl rfl
    · split at ran
      · exact .ofAndThen ran rfl rfl mute_nil rfl rfl
      · dsimp only at ran
        split at ran
        · refine .ofAndThen ran rfl rfl (mute_cons.mpr ⟨⟨rfl, rfl⟩, ?_⟩) rfl rfl
          exact mute_cons.mpr ⟨⟨rfl, rfl⟩, mute_single rfl rfl⟩
        · exact .ofAndThen ran rfl rfl (mute_single rfl rfl) rfl rfl
    · exact .ofAndThen ran rfl (onPeerMaxStreamData_cancelled _) mute_nil rfl rfl

theorem read_credits {size : Nat} (ran : s.read size = some e) : Credits s (.read size) e := by
  unfold read at ran
  split at ran
  · exact .ofAndThen ran rfl rfl mute_nil rfl rfl
  split at ran
  · exact .ofAndThen ran rfl rfl (mute_cons.mpr ⟨⟨rfl, rfl⟩, mute_single rfl rfl⟩) rfl rfl
  split at ran
  · exact .ofAndThen ran rfl rfl mute_nil rfl rfl
  split at ran
  · exact .ofAndThen ran rfl rfl mute_nil rfl rfl
  split at ran
  · exact .ofAndThen ran rfl rfl mute_nil rfl rfl
  split at ran
  · exact .ofAndThen ran rfl rfl mute_nil rfl rfl
  · cases ran

theorem sendReserved_credits {chunk rest : Bytes} {written : Nat}
    (ran : s.sendReserved chunk rest written = some e) :
    Credits s (.sendReserved chunk rest written) e := by
  unfold sendReserved at ran
  split at ran
  · exact .ofAndThen ran rfl rfl (mute_single rfl rfl) rfl rfl
  split at ran
  · exact .ofAndThen ran rfl rfl (mute_single rfl rfl) rfl rfl
  split at ran
  · exact .ofAndThen ran rfl rfl (mute_single rfl rfl) rfl rfl
  split at ran
  · exact .ofAndThen ran rfl rfl (mute_single rfl rfl) rfl rfl
  · cases ran

theorem cancelRead_credits {code : ErrorCode} (ran : s.exec (.cancelRead code) = some e) :
    Credits s (.cancelRead code) e := by
  simp only [exec] at ran
  split at ran
  · exact .ofAndThen ran rfl rfl mute_nil rfl rfl
  · cases ran
    have next :
        [.markCancelled] ++ consumed s.inbuf.length ++
        (if s.peerEnded then [] else [.waitOpenStop code]) ++
        [.maybeRetire] = .markCancelled :: (consumed s.inbuf.length ++
          ((if s.peerEnded then [] else [.waitOpenStop code]) ++ [StreamSection.maybeRetire])) := by
      simp only [List.append_assoc, List.cons_append, List.nil_append]
    refine .cancels rfl rfl next fun op member => ?_
    rcases List.mem_append.mp member with counted | member
    · exact (mute_consumed _ op counted).2
    rcases List.mem_append.mp member with stop | retire
    · split at stop
      · cases stop
      · rw [List.mem_singleton.mp stop]
        rfl
    · rw [List.mem_singleton.mp retire]
      rfl

theorem onConsumed_credits {n : UInt64} (ran : s.exec (.onConsumed n) = some e) :
    Credits s (.onConsumed n) e := by
  obtain ⟨same, none⟩ := onConsumed_cancelled s.flow s.sf n
  cases ran
  refine .counts rfl same fun op member => ?_
  rcases List.mem_append.mp member with stream | conn
  · obtain ⟨v, advertised, rfl⟩ := Option.map_eq_some_iff.mp (Option.mem_toList.mp stream)
    refine ⟨rfl, fun _ => ?_⟩
    by_contra marked
    have due : (s.sf.onConsumed n s.flow).value.2.2.1 = some v := advertised
    rw [none (Bool.not_eq_false _ ▸ marked)] at due
    cases due
  · obtain ⟨v, -, rfl⟩ := Option.map_eq_some_iff.mp (Option.mem_toList.mp conn)
    exact ⟨rfl, fun wrong => by cases wrong⟩

/-- **What a section does to the stream's part of the credit.** -/
theorem exec_credits (ran : s.exec op = some e) : Credits s op e := by
  cases op with
  | onFrame data => exact onFrame_credits ran
  | onDataReceived payload cancelled =>
    simp only [exec] at ran
    split at ran
    · exact .ofAndThen ran rfl rfl (mute_single rfl rfl) rfl rfl
    · next accepted =>
      refine .ofAndThen ran rfl (onDataReceived_cancelled accepted) ?_ rfl rfl
      split <;> exact mute_single rfl rfl
  | failSend failure => exact .ofAndThen ran rfl (failSend_cancelled failure) mute_nil rfl rfl
  | sendResetIfOpen code => exact .ofSend ran (calls_trySend _ _) ⟨rfl, rfl⟩ rfl mute_nil rfl rfl
  | sendTerminal terminal =>
    refine .ofSend ran (calls_trySend _ _) ?_ rfl mute_nil rfl rfl
    cases terminal <;> exact ⟨rfl, rfl⟩
  | sendMaxStreamData v =>
    cases ran
    exact .grants (calls_trySend _ _) rfl rfl
  | sendStop code =>
    cases ran
    exact .stops (calls_trySend _ _) rfl rfl
  | sendData chunk rest written =>
    simp only [exec] at ran
    split at ran
    · next dc sent =>
      obtain ⟨-, dc'⟩ := send_eq_some sent
      have data : (Call.send (.data chunk)).stops = false ∧
        (Call.send (.data chunk)).grants = false := ⟨rfl, rfl⟩
      refine .ofSend ran ⟨[.send (.data chunk)], ?_, ?_⟩ data rfl
        (mute_cons.mpr ⟨⟨rfl, rfl⟩, mute_single rfl rfl⟩) rfl rfl
      · rw [dc']
      · exact fun call member => List.mem_singleton.mp member
    · exact .ofAndThen ran rfl rfl (mute_single rfl rfl) rfl rfl
  | dcClose =>
    cases ran
    refine .aside ⟨[.close], rfl, ?_⟩ rfl mute_nil rfl rfl
    intro call member
    rw [List.mem_singleton.mp member]
    exact ⟨rfl, rfl⟩
  | write p =>
    simp only [exec] at ran
    split at ran
    · exact .ofAndThen ran rfl rfl (mute_single rfl rfl) rfl rfl
    · exact .ofAndThen ran rfl rfl mute_nil rfl rfl
    · cases ran
  | writeLoop p written =>
    simp only [exec, writeLoop] at ran
    split at ran
    · exact .ofAndThen ran rfl rfl mute_nil rfl rfl
    · split at ran
      · exact .ofAndThen ran rfl rfl mute_nil rfl rfl
      · next reserved =>
        exact .ofAndThen ran rfl (reserveData_cancelled reserved) (mute_single rfl rfl) rfl rfl
      · cases ran
  | sendReserved chunk rest written => exact sendReserved_credits ran
  | closeWrite =>
    simp only [exec] at ran
    split at ran
    · exact .ofAndThen ran rfl rfl mute_nil rfl rfl
    · exact .ofAndThen ran rfl rfl (mute_cons.mpr ⟨⟨rfl, rfl⟩, mute_single rfl rfl⟩) rfl rfl
  | resetWrite code =>
    simp only [exec] at ran
    split at ran
    · exact .ofAndThen ran rfl rfl mute_nil rfl rfl
    · exact .ofAndThen ran rfl rfl (mute_cons.mpr ⟨⟨rfl, rfl⟩, mute_single rfl rfl⟩) rfl rfl
  | waitOpen terminal =>
    simp only [exec] at ran
    split at ran
    · exact .ofAndThen ran rfl rfl (mute_cons.mpr ⟨⟨rfl, rfl⟩, mute_single rfl rfl⟩) rfl rfl
    · exact .ofAndThen ran rfl rfl mute_nil rfl rfl
    · cases ran
  | cancelRead code => exact cancelRead_credits ran
  | markCancelled =>
    cases ran
    exact .marks
  | onConsumed n => exact onConsumed_credits ran
  | waitOpenStop code =>
    simp only [exec] at ran
    split at ran
    · cases ran
      exact .waits rfl fun op member => List.mem_singleton.mp member
    · cases ran
      exact .waits rfl fun op member => absurd member List.not_mem_nil
    · cases ran
  | read size => exact read_credits ran
  | maybeRetire =>
    simp only [exec, maybeRetire] at ran
    split at ran
    · split at ran
      · split at ran
        · exact .ofAndThen ran rfl rfl mute_nil rfl rfl
        · exact .ofAndThen ran rfl rfl (mute_single rfl rfl) rfl rfl
      · cases ran
        refine .aside ⟨[], (List.append_nil _).symm,
          fun call member => absurd member List.not_mem_nil⟩ rfl mute_nil
          rfl rfl
    · exact .ofAndThen ran rfl rfl mute_nil rfl rfl
  | onChannelClose =>
    refine .ofAndThen ran rfl rfl
      (mute_cons.mpr ⟨⟨rfl, rfl⟩, mute_cons.mpr ⟨⟨rfl, rfl⟩, ?_⟩⟩) rfl rfl
    exact mute_cons.mpr ⟨⟨rfl, rfl⟩, mute_cons.mpr ⟨⟨rfl, rfl⟩, mute_single rfl rfl⟩⟩
  | policeClose wireComplete =>
    simp only [exec] at ran
    split at ran
    · exact .ofAndThen ran rfl rfl (mute_single rfl rfl) rfl rfl
    · exact .ofAndThen ran rfl rfl mute_nil rfl rfl
  | destroy =>
    refine .ofAndThen ran rfl rfl
      (mute_append.mpr ⟨mute_consumed _, mute_cons.mpr ⟨⟨rfl, rfl⟩, ?_⟩⟩) rfl rfl
    exact mute_cons.mpr ⟨⟨rfl, rfl⟩, mute_single rfl rfl⟩
  | _ => exact .ofAndThen ran rfl rfl mute_nil rfl rfl

/-! ### The last word -/

variable {t t' : Goroutines} {label : Label}

/-- STOP_SENDING is not handed over while an advertisement of the stream's credit is on its way. -/
def InOrder (t : Goroutines) (label : Label) : Prop :=
  ∀ op ∈ running t label, op.sendsStop = true → ∀ other ∈ t.pending, other.grants = false

instance (t : Goroutines) (label : Label) : Decidable (InOrder t label) := by
  unfold InOrder
  infer_instance

/-- No credit is handed over behind STOP_SENDING, which waits for the mark. -/
structure LastWordInv (t : Goroutines) : Prop where
  silent : Silent Call.stops Call.grants t.shared.dc.calls
  behind : t.shared.sf.cancelled = false → ∀ stack ∈ t.pool,
    Behind StreamSection.marksCredit StreamSection.stops stack
  ended : (∃ call ∈ t.shared.dc.calls, call.stops = true) →
    t.shared.sf.cancelled = true ∧ ∀ op ∈ t.pending, op.grants = false

theorem lastWordInv_start (limits : FlowWindows) (isOpen : Bool) :
    LastWordInv (start limits isOpen) where
  silent := .nil
  behind := fun _ stack member => by
    rw [List.mem_singleton.mp member]
    exact True.intro
  ended := fun ⟨_, member, _⟩ => absurd member List.not_mem_nil

/-- What a step that runs no section leaves, and the stacks it makes. -/
theorem step_leaves (stepped : WebrtcStream.step t label = some t')
    (notRun : ∀ thread, label ≠ .run thread) :
    t'.shared.dc.calls = t.shared.dc.calls ∧ t'.shared.sf = t.shared.sf ∧
      ∀ stack ∈ t'.pool, stack ∈ t.pool ∨ Mute stack := by
  have start (t : Goroutines) {stack : List StreamSection} (mute : Mute stack) :
      ∀ other ∈ (t.start stack).pool, other ∈ t.pool ∨ Mute other := by
    intro other member
    rcases List.mem_append.mp member with old | new
    · exact Or.inl old
    · rw [List.mem_singleton.mp new]
      exact Or.inr mute
  cases label with
  | run thread => exact absurd rfl (notRun thread)
  | call method =>
    cases stepped
    refine ⟨rfl, rfl, start t ?_⟩
    cases method with
    | close => exact mute_cons.mpr ⟨⟨rfl, rfl⟩, mute_single rfl rfl⟩
    | closeWithError code => exact mute_cons.mpr ⟨⟨rfl, rfl⟩, mute_single rfl rfl⟩
    | _ => exact mute_single rfl rfl
  | channelOpen =>
    simp only [WebrtcStream.step] at stepped
    split at stepped <;> cases stepped
    exact ⟨rfl, rfl, start (touch t _) (mute_single rfl rfl)⟩
  | message data =>
    simp only [WebrtcStream.step] at stepped
    split at stepped
    · unfold Threads.resume at stepped
      split at stepped <;> cases stepped
      refine ⟨rfl, rfl, fun stack member => ?_⟩
      rcases List.mem_or_eq_of_mem_set member with old | rfl
      · exact Or.inl old
      · exact Or.inr (mute_single rfl rfl)
    · cases stepped
  | channelClosed =>
    simp only [WebrtcStream.step] at stepped
    split at stepped <;> cases stepped
    exact ⟨rfl, rfl, start (touch t _) (mute_single rfl rfl)⟩
  | destroy =>
    simp only [WebrtcStream.step] at stepped
    split at stepped <;> cases stepped
    exact ⟨rfl, rfl, start t (mute_single rfl rfl)⟩
  | _ =>
    cases stepped
    exact ⟨rfl, rfl, fun stack member => Or.inl member⟩

theorem LastWordInv.others (inv : LastWordInv t) (stepped : WebrtcStream.step t label = some t')
    (notRun : ∀ thread, label ≠ .run thread) : LastWordInv t' := by
  obtain ⟨calls, sf, pool⟩ := step_leaves stepped notRun
  refine ⟨calls ▸ inv.silent, fun unmarked stack member => ?_, fun ended => ?_⟩
  · rcases pool stack member with old | mute
    · exact inv.behind (sf ▸ unmarked) stack old
    · exact .of_quiet fun op inside => (mute op inside).1
  · rw [calls] at ended
    obtain ⟨marked, quiet⟩ := inv.ended ended
    refine ⟨sf ▸ marked, fun op member => ?_⟩
    obtain ⟨stack, inside, here⟩ := List.mem_flatten.mp member
    rcases pool stack inside with old | mute
    · exact quiet op (List.mem_flatten.mpr ⟨stack, old, here⟩)
    · exact (mute op here).2

/-- The calls after a section, of the two kinds, and the sections it leaves. -/
theorem Credits.calls (credits : Credits s op e) : ∃ new, e.shared.dc.calls = s.dc.calls ++ new ∧
    (∀ call ∈ new, call.grants = true → op.grants = true) ∧
    (∀ call ∈ new, call.stops = true → op.sendsStop = true) := by
  cases credits with
  | aside calls same next plain unmarked =>
    obtain ⟨new, added, others⟩ := calls
    refine ⟨new, added, fun call member grants => ?_, fun call member stops => ?_⟩
    · rw [(others call member).2] at grants
      cases grants
    · rw [(others call member).1] at stops
      cases stops
  | marks => exact ⟨[], (List.append_nil _).symm, by simp, by simp⟩
  | cancels calls same next quiet => exact ⟨[], by rw [calls, List.append_nil], by simp, by simp⟩
  | counts calls same next => exact ⟨[], by rw [calls, List.append_nil], by simp, by simp⟩
  | grants calls same next =>
    obtain ⟨new, added, only⟩ := calls
    refine ⟨new, added, fun _ _ _ => rfl, fun call member stops => ?_⟩
    rw [only call member] at stops
    cases stops
  | waits same next => exact ⟨[], by rw [same, List.append_nil], by simp, by simp⟩
  | stops calls same next =>
    obtain ⟨new, added, only⟩ := calls
    refine ⟨new, added, fun call member grants => ?_, fun _ _ _ => rfl⟩
    rw [only call member] at grants
    cases grants

/-- A section takes the mark of the credit from none, and an advertisement from a stream that is not
marked. -/
theorem Credits.marked (credits : Credits s op e) (marked : s.sf.cancelled = true) :
    e.shared.sf.cancelled = true ∧ ∀ other ∈ e.next, other.grants = false := by
  cases credits with
  | aside calls same next plain unmarked =>
    exact ⟨same.trans marked, fun other member => (next other member).2⟩
  | marks => exact ⟨rfl, fun other member => absurd member List.not_mem_nil⟩
  | cancels calls same next quiet =>
    refine ⟨same.trans marked, fun other member => ?_⟩
    rw [next] at member
    rcases List.mem_cons.mp member with rfl | member
    · rfl
    · exact quiet other member
  | counts calls same next =>
    refine ⟨same.trans marked, fun other member => ?_⟩
    by_contra grants
    rw [(next other member).2 (Bool.not_eq_false _ ▸ grants)] at marked
    cases marked
  | grants calls same next =>
    rw [next]
    exact ⟨same.trans marked, fun other member => absurd member List.not_mem_nil⟩
  | waits same next =>
    refine ⟨by rw [same]; exact marked, fun other member => ?_⟩
    rw [next other member]
    rfl
  | stops calls same next =>
    rw [next]
    exact ⟨same.trans marked, fun other member => absurd member List.not_mem_nil⟩

/-- Before the mark, a stack keeps STOP_SENDING behind it. -/
theorem Credits.behind (credits : Credits s op e) {rest : List StreamSection}
    (unmarked : e.shared.sf.cancelled = false)
    (before : s.sf.cancelled = false →
      Behind StreamSection.marksCredit StreamSection.stops (op :: rest)) :
    s.sf.cancelled = false ∧ Behind StreamSection.marksCredit StreamSection.stops
      (e.next ++ rest) := by
  have early : s.sf.cancelled = false := by
    by_contra marked
    have now := (credits.marked (Bool.not_eq_false _ ▸ marked)).1
    rw [unmarked] at now
    cases now
  have below := before early
  refine ⟨early, ?_⟩
  cases credits with
  | aside calls same next plain free =>
    exact .append (fun other member => (next other member).1) (below.tail free).2
  | marks => cases unmarked
  | cancels calls same next quiet =>
    rw [next]
    exact Or.inl rfl
  | counts calls same next =>
    exact .append (fun other member => (next other member).1) (below.tail rfl).2
  | grants calls same next =>
    rw [next]
    exact (below.tail rfl).2
  | waits same next => cases (below.tail rfl).1
  | stops calls same next => cases (below.tail rfl).1

theorem LastWordInv.run (inv : LastWordInv t) {thread : Nat} (order : InOrder t (.run thread))
    (stepped : t.advance exec thread = some t') : LastWordInv t' := by
  obtain ⟨op, rest, e, top, ran, rfl⟩ := Threads.advance_eq_some.mp stepped
  have credits := exec_credits ran
  have pending := Threads.mem_pending top
  have inside := List.mem_of_getElem? top
  obtain ⟨new, added, grants, stops⟩ := credits.calls
  have first : op ∈ running t (.run thread) := by simp [running, top]
  refine ⟨?_, fun unmarked stack member => ?_, fun ended => ?_⟩
  · show Silent _ _ e.shared.dc.calls
    rw [added]
    by_cases speaks : ∃ call ∈ new, call.grants = true
    · -- an advertisement is handed over, so no STOP_SENDING was, and it is not one
      obtain ⟨call, member, grant⟩ := speaks
      have open_ : ∀ earlier ∈ t.shared.dc.calls, earlier.stops = false := by
        intro earlier old
        by_contra ended
        have none := (inv.ended ⟨earlier, old, Bool.not_eq_false _ ▸ ended⟩).2 op pending
        rw [grants call member grant] at none
        cases none
      refine List.pairwise_append.mpr ⟨inv.silent, ?_, fun earlier old later _ ended => ?_⟩
      · refine List.pairwise_of_forall_mem_list fun earlier here later _ ended => ?_
        obtain ⟨code, rfl⟩ := StreamSection.eq_sendStop (stops earlier here ended)
        cases grants call member grant
      · rw [open_ earlier old] at ended
        cases ended
    · exact inv.silent.mute fun call member => by
        by_contra grant
        exact speaks ⟨call, member, Bool.not_eq_false _ ▸ grant⟩
  · obtain ⟨early, own⟩ := credits.behind unmarked fun early => inv.behind early _ inside
    rcases List.mem_append.mp member with old | begun
    · rcases List.mem_or_eq_of_mem_set old with old | rfl
      · exact inv.behind early stack old
      · exact own
    · refine .of_quiet fun other here => ?_
      rw [mem_started ran (List.mem_flatten.mpr ⟨stack, begun, here⟩)]
      rfl
  · have marked : t.shared.sf.cancelled = true ∧ ∀ other ∈ t.pending, other.grants = false := by
      obtain ⟨call, member, stop⟩ := ended
      change call ∈ e.shared.dc.calls at member
      rw [added] at member
      rcases List.mem_append.mp member with old | now
      · exact inv.ended ⟨call, old, stop⟩
      · have sends := stops call now stop
        refine ⟨?_, order op first sends⟩
        by_contra unmarked
        have below := inv.behind (Bool.not_eq_true _ ▸ unmarked) _ inside
        obtain ⟨code, rfl⟩ := StreamSection.eq_sendStop sends
        cases (below.tail rfl).1
    obtain ⟨kept, quiet⟩ := credits.marked marked.1
    refine ⟨kept, fun other member => ?_⟩
    rcases (Threads.pending_members (e := e) top).2.2 other member with pushed | begun | old
    · exact quiet other pushed
    · rw [mem_started ran begun]
      rfl
    · exact marked.2 other old

/-- **One step keeps the last word**, if STOP_SENDING overtakes no advertisement. -/
theorem LastWordInv.step (inv : LastWordInv t) (order : InOrder t label)
    (stepped : WebrtcStream.step t label = some t') : LastWordInv t' := by
  by_cases runs : ∃ thread, label = .run thread
  · obtain ⟨thread, rfl⟩ := runs
    exact inv.run order stepped
  · exact inv.others stepped fun thread same => runs ⟨thread, same⟩

/-! ### The credit of a cancelled stream -/

/-- What the stream does with its credit: none of its own is granted behind STOP_SENDING; once the
read half is marked every byte that was accepted is counted as consumed, or about to be; and what is
counted is released to the connection. -/
structure CancelCredit (t : Goroutines) : Prop where
  silent : Silent Call.stops Call.grants t.shared.dc.calls
  counted : t.shared.readCancel = true → t.shared.inbuf = [] ∧
    t.shared.sf.received = t.shared.sf.consumed + t.weight StreamSection.counts
  released : ∀ thread n rest, t.pool[thread]? = some (.onConsumed n :: rest) → ∃ t' connAdv,
    WebrtcStream.step t (.run thread) = some t' ∧ Releases n t.shared.flow t'.shared.flow connAdv ∧
      t'.shared.sf.consumed = t.shared.sf.consumed + n ∧ ∀ v ∈ connAdv, .sendMaxData v ∈ t'.pending

theorem released {thread : Nat} {n : UInt64} {rest : List StreamSection}
    (top : t.pool[thread]? = some (.onConsumed n :: rest)) : ∃ t' connAdv,
    WebrtcStream.step t (.run thread) = some t' ∧ Releases n t.shared.flow t'.shared.flow connAdv ∧
      t'.shared.sf.consumed = t.shared.sf.consumed + n ∧ ∀ v ∈ connAdv,
      .sendMaxData v ∈ t'.pending := by
  have consumed : (t.shared.sf.onConsumed n t.shared.flow).value.2.1.consumed =
      t.shared.sf.consumed + n :=
    (Prod.mk.inj onConsumed_inbound).2
  refine ⟨_, (t.shared.sf.onConsumed n t.shared.flow).value.2.2.2,
    Threads.advance_eq_some.mpr ⟨_, rest, _, top, rfl, rfl⟩, onConsumed_releases, consumed,
    fun v advertised => ?_⟩
  refine (Threads.pending_members top).1 _ (List.mem_append_right _ (Option.mem_toList.mpr ?_))
  exact Option.map_eq_some_iff.mpr ⟨v, advertised, rfl⟩

/-- No handler of a dead stream owes bytes but those it is about to count. -/
theorem Dead.counts (dead : Dead t) :
    t.weight StreamSection.owes = t.weight StreamSection.counts := by
  unfold Threads.weight
  congr 1
  refine List.map_congr_left fun op member => ?_
  have quiet := dead.quiet op member
  cases op with
  | appendData payload =>
    have nothing : payload = [] := by simpa [StreamSection.holds] using quiet
    rw [nothing]
    rfl
  | _ => rfl

theorem cancelCredit (inv : CancelInv t) (last : LastWordInv t) : CancelCredit t where
  silent := last.silent
  counted := fun marked => by
    have dead := inv.dead marked
    have balanced := inv.balanced
    unfold Balanced at balanced
    rw [dead.empty, dead.counts] at balanced
    refine ⟨dead.empty, balanced.trans ?_⟩
    show t.shared.sf.consumed + 0 + _ = _
    rw [add_zero]
  released := fun _ _ _ top => WebrtcStream.released top

/-- The credit in the runs that divide no handler and let STOP_SENDING overtake no advertisement. -/
theorem cancelCredit_run {limits : FlowWindows} {isOpen : Bool} {labels : List Label}
    (order : Meets WebrtcStream.step InOrder (start limits isOpen) labels)
    (undivided : Meets WebrtcStream.step Undivided (start limits isOpen) labels)
    (ran : Lib.run WebrtcStream.step (start limits isOpen) labels = some t) : CancelCredit t := by
  have preserves : ∀ t label t', InOrder t label ∧ Undivided t label → CancelInv t ∧ LastWordInv t →
      WebrtcStream.step t label = some t' → CancelInv t' ∧ LastWordInv t' :=
    fun _ _ _ allowed inv stepped => ⟨inv.1.step allowed.2 stepped, inv.2.step allowed.1 stepped⟩
  have both : CancelInv t ∧ LastWordInv t := run_invariant_of_meets preserves (order.and undivided)
    ⟨cancelInv_start limits isOpen, lastWordInv_start limits isOpen⟩ ran
  exact cancelCredit both.1 both.2

/-- **STOP_SENDING overtakes an advertisement** that another goroutine is about to hand over. -/
theorem stop_overtakes {i j : Nat} {code : ErrorCode} {v : UInt64} {rest below : List StreamSection}
    (apart : i ≠ j)
    (stop : t.pool[i]? = some (.sendStop code :: rest))
    (advert : t.pool[j]? = some (.sendMaxStreamData v :: below))
    (isOpen : t.shared.dc.readyState = .opened) :
    ∃ t', Lib.run WebrtcStream.step t [.run i, .run j] = some t' ∧
      ¬ Silent Call.stops Call.grants t'.shared.dc.calls := by
  let first : Goroutines :=
    ⟨{ t.shared with dc := t.shared.dc.trySend (.stopSending code) }, t.pool.set i rest⟩
  let second : Goroutines :=
    ⟨{ first.shared with dc := first.shared.dc.trySend (.maxStreamData v.toNat) },
      first.pool.set j below⟩
  have ranFirst : WebrtcStream.step t (.run i) = some first := by
    refine Threads.advance_eq_some.mpr ⟨_, rest, _, stop, rfl, ?_⟩
    rw [List.append_nil]
    rfl
  have top : first.pool[j]? = some (.sendMaxStreamData v :: below) :=
    (List.getElem?_set_ne apart).trans advert
  have ranSecond : WebrtcStream.step first (.run j) = some second := by
    refine Threads.advance_eq_some.mpr ⟨_, below, _, top, rfl, ?_⟩
    rw [List.append_nil]
    rfl
  have calls : second.shared.dc.calls =
      t.shared.dc.calls ++ [.send (.stopSending code)] ++ [.send (.maxStreamData v.toNat)] := by
    show ((t.shared.dc.trySend _).trySend _).calls = _
    simp [DataChannel.trySend, DataChannel.send, isOpen]
  refine ⟨second, run_cons.mpr ⟨first, ranFirst, run_cons.mpr ⟨second, ranSecond, rfl⟩⟩,
    fun silent => ?_⟩
  rw [calls] at silent
  have ended := silent.of_concat rfl (.send (.stopSending code)) (by simp)
  cases ended

end WebrtcStream

end Kps.Go
