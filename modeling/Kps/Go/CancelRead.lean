/-
**`CancelRead` of the Go module** (`stream.go`).

`CancelRead` marks the read half and discards the buffer in one section, and from then on nothing is
to be buffered. The handler of a DATA frame looks at the mark in one section, has its bytes accepted
in a second and appends them in a third.

* `exec_receives` — what a section does to the inbound bytes;
* `Dead.step` — a marked stream with no handler past its check buffers nothing, and returns no
  bytes;
* `cancelRead_law` — so `CancelRead` holds its law in every run in which the read half is not marked
  while a handler stands between its check and its append;
* `append_after_mark`, `cancelRead_leaks` — and otherwise the bytes stay in the buffer.
-/

import Kps.Go.StreamSender
import Kps.Lib.Weights
import Mathlib.Data.UInt
import Mathlib.Tactic.Abel

namespace Kps.Go

open Kps.Lib

namespace StreamSection

/-- A section of the handler of a message. -/
def handles : StreamSection → Bool
  | .onFrame _ => true
  | .onDataReceived .. => true
  | .appendData _ => true
  | _ => false

/-- The handler of a DATA frame is past its check of `readCancel`, and has bytes to append. -/
def holds : StreamSection → Bool
  | .onDataReceived payload cancelled => !cancelled && !payload.isEmpty
  | .appendData payload => !payload.isEmpty
  | _ => false

/-- The read half is marked as cancelled. -/
def marks : StreamSection → Bool
  | .cancelRead _ => true
  | .destroy => true
  | _ => false

/-- What the section counts as consumed. -/
def counts : StreamSection → UInt64
  | .onConsumed n => n
  | _ => 0

/-- The bytes that were accepted, and are neither buffered nor counted as consumed. -/
def owes : StreamSection → UInt64
  | .onConsumed n => n
  | .appendData payload => UInt64.ofNat payload.length
  | _ => 0

/-- The section has nothing to do with inbound bytes. -/
def isAside (op : StreamSection) : Bool := !op.handles && decide (op.owes = 0)

end StreamSection

/-! ### The inbound counters of a stream -/

section Counters

variable {ε : Type} {f : ConnFlow ε} {sf : StreamFlow ε} {n : UInt64}

/-- What was received on the stream, and consumed. -/
def StreamFlow.inbound (sf : StreamFlow ε) : UInt64 × UInt64 := (sf.received, sf.consumed)

theorem failSend_inbound (error : ε) : (sf.failSend error f).2.inbound = sf.inbound := by
  unfold StreamFlow.failSend
  split <;> rfl

theorem onPeerMaxStreamData_inbound (v : UInt64) :
    (sf.onPeerMaxStreamData v f).2.inbound = sf.inbound := by
  unfold StreamFlow.onPeerMaxStreamData
  split <;> rfl

theorem reserveData_inbound {granted : UInt64} {f' : ConnFlow ε} {sf' : StreamFlow ε}
    (reserved : (f.reserveData sf n).value = .granted granted f' sf') :
      sf'.inbound = sf.inbound := by
  unfold ConnFlow.reserveData at reserved
  split at reserved
  · cases reserved
  · cases reserved
  · dsimp only [bind, pure] at reserved
    split at reserved <;> cases reserved
    rfl

theorem onDataReceived_inbound {f' : ConnFlow ε} {sf' : StreamFlow ε}
    (accepted : (sf.onDataReceived n f).value = .ok (f', sf')) :
    sf'.received = sf.received + n ∧ sf'.consumed = sf.consumed := by
  unfold StreamFlow.onDataReceived at accepted
  dsimp only [bind, pure] at accepted
  split at accepted
  · cases accepted
  · split at accepted <;> cases accepted
    exact ⟨rfl, rfl⟩

theorem onConsumed_inbound :
    (sf.onConsumed n f).value.2.1.inbound = (sf.received, sf.consumed + n) := by
  unfold StreamFlow.onConsumed StreamFlow.streamConsumed
  dsimp only [bind, pure]
  split
  · rfl
  · split <;> rfl

end Counters

namespace WebrtcStream

/-- No bytes are returned. A `Read` into an empty slice returns none. -/
def Byteless (results : List ReadResult) : Prop := ∀ data, .bytes data ∈ results → data = []

/-- The buffer, the mark, and the counters of the inbound bytes. -/
def inboundBytes (s : WebrtcStream) : Bytes × Bool × UInt64 × UInt64 :=
  (s.inbuf, s.readCancel, s.sf.inbound)

/-- All the sections of the list are aside. -/
def Aside (sections : List StreamSection) : Prop := ∀ op ∈ sections, op.isAside = true

/-- What a section does to the inbound bytes. -/
inductive Receives (s : WebrtcStream) : StreamSection → Effect WebrtcStream StreamSection → Prop
  | leaves {op e} (same : e.shared.inboundBytes = s.inboundBytes)
    (reads : ∃ results, e.shared.reads = s.reads ++ results ∧ Byteless results)
    (next : Aside e.next)
    (light : op.owes = 0) : Receives s op e
  /-- The handler of a DATA frame looks at the mark. -/
  | checks {data payload} : Receives s (.onFrame data)
      { shared := s, next := [.onDataReceived payload s.readCancel] }
  | accepts {payload cancelled e} (inbuf : e.shared.inbuf = s.inbuf)
    (cancel : e.shared.readCancel = s.readCancel)
    (received : e.shared.sf.received = s.sf.received + UInt64.ofNat payload.length)
    (consumed : e.shared.sf.consumed = s.sf.consumed) (reads : e.shared.reads = s.reads)
    (next :
      e.next = if cancelled then [.onConsumed (UInt64.ofNat payload.length)]
      else [.appendData payload]) :
    Receives s (.onDataReceived payload cancelled) e
  | appends {payload} :
    Receives s (.appendData payload) { shared := { s with inbuf := s.inbuf ++ payload } }
  /-- The buffer is discarded; a peer's RESET does not mark the read half. -/
  | discards {op e before after} (inbuf : e.shared.inbuf = [])
    (cancel : op.marks = false ∧ e.shared.readCancel = s.readCancel ∨
      op.marks = true ∧ e.shared.readCancel = true)
    (received : e.shared.sf.received = s.sf.received)
    (consumed : e.shared.sf.consumed = s.sf.consumed)
    (reads : e.shared.reads = s.reads)
    (next : e.next = before ++ WebrtcStream.consumed s.inbuf.length ++ after) (first : Aside before)
    (last : Aside after) (light : op.owes = 0) : Receives s op e
  | returns {size} (some : s.inbuf ≠ []) : Receives s (.read size)
      { shared := { s with
          inbuf := s.inbuf.drop size
          reads := s.reads ++ [.bytes (s.inbuf.take size)] }
        next := [.onConsumed (UInt64.ofNat (s.inbuf.take size).length), .maybeRetire] }
  | counts {n e} (inbuf : e.shared.inbuf = s.inbuf) (cancel : e.shared.readCancel = s.readCancel)
    (received : e.shared.sf.received = s.sf.received)
    (consumed : e.shared.sf.consumed = s.sf.consumed + n)
    (reads : e.shared.reads = s.reads) (next : Aside e.next) : Receives s (.onConsumed n) e

theorem aside_nil : Aside [] := fun _ member => absurd member List.not_mem_nil

theorem aside_cons {op : StreamSection} {rest : List StreamSection} :
    Aside (op :: rest) ↔ op.isAside = true ∧ Aside rest := List.forall_mem_cons

theorem byteless_nil : Byteless [] := fun _ member => absurd member List.not_mem_nil

theorem Byteless.append {first second : List ReadResult} (left : Byteless first)
    (right : Byteless second) :
    Byteless (first ++ second) := fun data member =>
  (List.mem_append.mp member).elim (left data) (right data)

variable {s : WebrtcStream} {op : StreamSection} {e : Effect WebrtcStream StreamSection}

/-- The effect of `andThen` of a section that leaves the inbound bytes and returns no read. -/
theorem Receives.ofAndThen {s' : WebrtcStream} {next : List StreamSection}
    (ran : andThen next s' = some e)
    (same : s'.inboundBytes = s.inboundBytes) (reads : s'.reads = s.reads)
    (aside :
      Aside next :=
      by simp [Aside, StreamSection.isAside, StreamSection.handles, StreamSection.owes])
    (light : op.owes = 0 := by rfl) : Receives s op e := by
  cases ran
  exact .leaves same ⟨[], by rw [List.append_nil]; exact reads, byteless_nil⟩ aside light

/-- A `Read` that returns no bytes. -/
theorem Receives.ofRead {result : ReadResult} (none : ∀ data, result = .bytes data → data = [])
    (ran : andThen [] { s with reads := s.reads ++ [result] } = some e)
    (light : op.owes = 0 := by rfl) :
    Receives s op e := by
  cases ran
  refine .leaves rfl ⟨[result], rfl, fun data member => ?_⟩ aside_nil light
  exact none data (List.mem_singleton.mp member).symm

theorem read_receives {size : Nat} (ran : s.read size = some e) : Receives s (.read size) e := by
  unfold read at ran
  split at ran
  · exact .ofRead (fun data same => by cases same; rfl) ran
  split at ran
  · next some =>
    cases ran
    exact .returns some
  split at ran
  · exact .ofRead (fun data same => by cases same) ran
  split at ran
  · exact .ofRead (fun data same => by cases same) ran
  split at ran
  · exact .ofRead (fun data same => by cases same) ran
  split at ran
  · exact .ofRead (fun data same => by cases same) ran
  · cases ran

theorem onFrame_receives {data : Bytes} (ran : s.onFrame data = some e) :
    Receives s (.onFrame data) e := by
  unfold onFrame at ran
  split at ran
  · exact .ofAndThen ran rfl rfl
  · split at ran
    · split at ran
      · exact .ofAndThen ran rfl rfl
      · cases ran
        exact .checks
    · split at ran <;> exact .ofAndThen ran rfl rfl
    · split at ran
      · exact .ofAndThen ran rfl rfl
      · cases ran
        exact .discards rfl (Or.inl ⟨rfl, rfl⟩) rfl rfl rfl (List.nil_append _).symm aside_nil
          (aside_cons.mpr ⟨rfl, aside_nil⟩) rfl
    · split at ran
      · exact .ofAndThen ran rfl rfl
      · dsimp only at ran
        split at ran <;> exact .ofAndThen ran rfl rfl
    · next f _ _ _ =>
      have same : (s.sf.onPeerMaxStreamData (UInt64.ofNat f.credit) s.flow).2.inbound =
          s.sf.inbound :=
        onPeerMaxStreamData_inbound _
      exact .ofAndThen ran (congrArg (fun counters => (s.inbuf, s.readCancel, counters)) same) rfl

/-- **What a section does to the inbound bytes.** -/
theorem exec_receives (ran : s.exec op = some e) : Receives s op e := by
  cases op with
  | onFrame data => exact onFrame_receives ran
  | onDataReceived payload cancelled =>
    simp only [exec] at ran
    split at ran
    · exact .ofAndThen ran rfl rfl
    · next accepted =>
      obtain ⟨received, consumed⟩ := onDataReceived_inbound accepted
      cases ran
      exact .accepts rfl rfl received consumed rfl rfl
  | appendData payload =>
    cases ran
    exact .appends
  | failSend failure =>
    have same : (s.sf.failSend failure s.flow).2.inbound = s.sf.inbound := failSend_inbound failure
    exact .ofAndThen ran (congrArg (fun counters => (s.inbuf, s.readCancel, counters)) same) rfl
  | writeLoop p written =>
    simp only [exec, writeLoop] at ran
    split at ran
    · exact .ofAndThen ran rfl rfl
    · split at ran
      · exact .ofAndThen ran rfl rfl
      · next reserved =>
        exact .ofAndThen ran (by simp [inboundBytes, reserveData_inbound reserved]) rfl
      · cases ran
  | sendReserved chunk rest written =>
    simp only [exec, sendReserved] at ran
    split at ran
    · exact .ofAndThen ran rfl rfl
    split at ran
    · exact .ofAndThen ran rfl rfl
    split at ran
    · exact .ofAndThen ran rfl rfl
    split at ran
    · exact .ofAndThen ran rfl rfl
    · cases ran
  | cancelRead code =>
    simp only [exec] at ran
    split at ran
    · exact .ofAndThen ran rfl rfl
    · cases ran
      refine .discards rfl (Or.inr ⟨rfl, rfl⟩) rfl rfl rfl (List.append_assoc _ _ _) ?_ ?_ rfl
      · exact aside_cons.mpr ⟨rfl, aside_nil⟩
      · split
        · exact aside_cons.mpr ⟨rfl, aside_nil⟩
        · exact aside_cons.mpr ⟨rfl, aside_cons.mpr ⟨rfl, aside_nil⟩⟩
  | onConsumed n =>
    cases ran
    have counted : (s.sf.onConsumed n s.flow).value.2.1.inbound =
        (s.sf.received, s.sf.consumed + n) :=
      onConsumed_inbound
    obtain ⟨received, consumed⟩ := Prod.mk.inj counted
    refine .counts rfl rfl received consumed rfl fun op member => ?_
    rcases List.mem_append.mp member with advertised | advertised
    · obtain ⟨v, -, rfl⟩ := Option.map_eq_some_iff.mp (Option.mem_toList.mp advertised)
      rfl
    · obtain ⟨v, -, rfl⟩ := Option.map_eq_some_iff.mp (Option.mem_toList.mp advertised)
      rfl
  | read size => exact read_receives ran
  | maybeRetire =>
    simp only [exec, maybeRetire] at ran
    split at ran
    · split at ran
      · split at ran <;> exact .ofAndThen ran rfl rfl
      · cases ran
        exact .leaves rfl ⟨[], (List.append_nil _).symm, byteless_nil⟩ aside_nil rfl
    · exact .ofAndThen ran rfl rfl
  | destroy =>
    cases ran
    refine .discards rfl (Or.inr ⟨rfl, rfl⟩) rfl rfl rfl (List.nil_append _).symm aside_nil ?_ rfl
    exact aside_cons.mpr ⟨rfl, aside_cons.mpr ⟨rfl, aside_cons.mpr ⟨rfl, aside_nil⟩⟩⟩
  | write p =>
    simp only [exec] at ran
    split at ran <;> first | exact .ofAndThen ran rfl rfl | cases ran
  | waitOpen terminal =>
    simp only [exec] at ran
    split at ran <;> first | exact .ofAndThen ran rfl rfl | cases ran
  | waitOpenStop code =>
    simp only [exec] at ran
    split at ran <;> first | exact .ofAndThen ran rfl rfl | cases ran
  | sendData chunk rest written =>
    simp only [exec] at ran
    split at ran <;> exact .ofAndThen ran rfl rfl
  | closeWrite =>
    simp only [exec] at ran
    split at ran <;> exact .ofAndThen ran rfl rfl
  | resetWrite code =>
    simp only [exec] at ran
    split at ran <;> exact .ofAndThen ran rfl rfl
  | policeClose wireComplete =>
    simp only [exec] at ran
    split at ran <;> exact .ofAndThen ran rfl rfl
  | _ => exact .ofAndThen ran rfl rfl

/-! ### A marked stream -/

variable {t t' : Goroutines} {label : Label}

theorem isAside_holds {op : StreamSection} (aside : op.isAside = true) : op.holds = false := by
  cases op <;> first | rfl | cases aside

/-- The sections a list of `consumed` holds. -/
theorem mem_consumed {n : Nat} {op : StreamSection} (member : op ∈ consumed n) :
    op = .onConsumed (UInt64.ofNat n) := by
  unfold consumed at member
  split at member
  · exact List.mem_singleton.mp member
  · cases member

theorem holds_of_discards {before after : List StreamSection} {n : Nat} (first : Aside before)
    (last : Aside after) : ∀ op ∈ before ++ consumed n ++ after, op.holds = false := by
  intro op member
  rcases List.mem_append.mp member with member | behind
  · rcases List.mem_append.mp member with ahead | counted
    · exact isAside_holds (first op ahead)
    · rw [mem_consumed counted]
      rfl
  · exact isAside_holds (last op behind)

/-- The read half is marked, the buffer is empty, and no handler past its check has bytes to
append. -/
structure Dead (t : Goroutines) : Prop where
  marked : t.shared.readCancel = true
  empty : t.shared.inbuf = []
  quiet : ∀ op ∈ t.pending, op.holds = false

/-- A section of a marked stream buffers nothing. -/
theorem Receives.dead (receives : Receives s op e) (marked : s.readCancel = true)
    (empty : s.inbuf = [])
    (quiet : op.holds = false) : e.shared.readCancel = true ∧ e.shared.inbuf = [] ∧
      (∀ other ∈ e.next, other.holds = false) ∧
      ∃ results, e.shared.reads = s.reads ++ results ∧ Byteless results := by
  cases receives with
  | leaves same reads next =>
    simp only [inboundBytes, Prod.mk.injEq] at same
    exact ⟨same.2.1.trans marked, same.1.trans empty,
      fun other member => isAside_holds (next other member), reads⟩
  | checks =>
    refine ⟨marked, empty, fun other member => ?_, [], (List.append_nil _).symm, byteless_nil⟩
    rw [List.mem_singleton.mp member, marked]
    rfl
  | accepts inbuf cancel received consumed reads next =>
    refine ⟨cancel.trans marked, inbuf.trans empty, fun other member => ?_, [],
      by rw [reads, List.append_nil], byteless_nil⟩
    rw [next] at member
    split at member <;> rw [List.mem_singleton.mp member]
    · rfl
    · next live =>
      rw [Bool.not_eq_true] at live
      subst live
      simpa [StreamSection.holds] using quiet
  | appends =>
    next payload =>
    have nothing : payload = [] := by simpa [StreamSection.holds] using quiet
    refine ⟨marked, ?_, fun other member => (by cases member), [], (List.append_nil _).symm,
      byteless_nil⟩
    show s.inbuf ++ payload = []
    rw [empty, nothing, List.append_nil]
  | discards inbuf cancel received consumed reads next first last =>
    refine ⟨?_, inbuf, fun other member => ?_, [], by rw [reads, List.append_nil], byteless_nil⟩
    · rcases cancel with ⟨-, same⟩ | ⟨-, now⟩
      · exact same.trans marked
      · exact now
    · rw [next] at member
      exact holds_of_discards first last other member
  | returns some => exact absurd empty some
  | counts inbuf cancel received consumed reads next =>
    exact ⟨cancel.trans marked, inbuf.trans empty,
      fun other member => isAside_holds (next other member), [],
      by rw [reads, List.append_nil], byteless_nil⟩

/-- What a step that runs no section leaves, and the sections it adds. -/
theorem step_others (stepped : WebrtcStream.step t label = some t')
    (notRun : ∀ thread, label ≠ .run thread) :
    t'.shared.inboundBytes = t.shared.inboundBytes ∧ t'.shared.reads = t.shared.reads ∧
      ∃ added, t'.pending.Perm (added ++ t.pending) ∧
        ∀ op ∈ added, op.owes = 0 ∧ op.holds = false ∧
        (op.handles = true → ∃ data, label = .message data) := by
  have none : t.pending.Perm ([] ++ t.pending) := List.Perm.refl _
  cases label with
  | run thread => exact absurd rfl (notRun thread)
  | call method =>
    cases stepped
    refine ⟨rfl, rfl, _, pending_start_perm _ t, ?_⟩
    cases method <;>
      simp [Method.sections, StreamSection.owes, StreamSection.holds, StreamSection.handles]
  | channelOpen =>
    simp only [WebrtcStream.step] at stepped
    split at stepped <;> cases stepped
    exact ⟨rfl, rfl, _, pending_start_perm _ (touch t _), by
      simp [StreamSection.owes, StreamSection.holds, StreamSection.handles]⟩
  | message data =>
    simp only [WebrtcStream.step] at stepped
    split at stepped
    · obtain ⟨pending, shared⟩ := Threads.pending_resume stepped
      rw [shared]
      exact ⟨rfl, rfl, _, pending, by simp [StreamSection.owes, StreamSection.holds]⟩
    · cases stepped
  | channelClosed =>
    simp only [WebrtcStream.step] at stepped
    split at stepped <;> cases stepped
    exact ⟨rfl, rfl, _, pending_start_perm _ (touch t _), by
      simp [StreamSection.owes, StreamSection.holds, StreamSection.handles]⟩
  | destroy =>
    simp only [WebrtcStream.step] at stepped
    split at stepped <;> cases stepped
    exact ⟨rfl, rfl, _,
      pending_start_perm
      _ t, by simp [StreamSection.owes, StreamSection.holds, StreamSection.handles]⟩
  | _ =>
    cases stepped
    exact ⟨rfl, rfl, [], none, fun op member => absurd member List.not_mem_nil⟩

/-- **A dead read half stays dead**, and a `Read` returns no bytes from it. -/
theorem Dead.step (dead : Dead t) (stepped : WebrtcStream.step t label = some t') :
    Dead t' ∧ ∃ results, t'.shared.reads = t.shared.reads ++ results ∧ Byteless results := by
  by_cases runs : ∃ thread, label = .run thread
  · obtain ⟨thread, rfl⟩ := runs
    obtain ⟨op, rest, e, top, ran, rfl⟩ := Threads.advance_eq_some.mp stepped
    have pending := Threads.mem_pending top
    obtain ⟨marked, empty, quiet, reads⟩ :=
      (exec_receives ran).dead dead.marked dead.empty (dead.quiet op pending)
    refine ⟨⟨marked, empty, fun other member => ?_⟩, reads⟩
    rcases (Threads.pending_members (e := e) top).2.2 other member with pushed | new | old
    · exact quiet other pushed
    · rw [mem_started ran new]
      rfl
    · exact dead.quiet other old
  · obtain ⟨same, reads, added, pending, light⟩ :=
      step_others stepped fun thread equal => runs ⟨thread, equal⟩
    simp only [inboundBytes, Prod.mk.injEq] at same
    refine ⟨⟨same.2.1.trans dead.marked, same.1.trans dead.empty, fun other member => ?_⟩,
      [], by rw [reads, List.append_nil], byteless_nil⟩
    rcases List.mem_append.mp (pending.subset member) with new | old
    · exact (light other new).2.1
    · exact dead.quiet other old

theorem Dead.run (dead : Dead t) {labels : List Label}
    (ran : Lib.run WebrtcStream.step t labels = some t') :
    Dead t' ∧ ∃ results, t'.shared.reads = t.shared.reads ++ results ∧ Byteless results := by
  have preserves : ∀ t₁ label t₂,
      (Dead t₁ ∧ ∃ results, t₁.shared.reads = t.shared.reads ++ results ∧ Byteless results) →
      WebrtcStream.step t₁ label = some t₂ →
      Dead t₂ ∧ ∃ results, t₂.shared.reads = t.shared.reads ++ results ∧ Byteless results := by
    rintro t₁ label t₂ ⟨dead₁, results, reads, byteless⟩ stepped
    obtain ⟨dead₂, more, later, none⟩ := dead₁.step stepped
    exact ⟨dead₂, results ++ more, by rw [later, reads, List.append_assoc], byteless.append none⟩
  exact run_invariant preserves ⟨dead, [], (List.append_nil _).symm, byteless_nil⟩ ran

/-! ### What was accepted is buffered, counted, or about to be -/

theorem sum_aside {sections : List StreamSection} (aside : Aside sections) :
    (sections.map StreamSection.owes).sum = 0 :=
  Threads.sum_eq_zero fun op member => of_decide_eq_true
    (Bool.and_eq_true_iff.mp (aside op member)).2

theorem sum_consumed (n : Nat) : ((consumed n).map StreamSection.owes).sum = UInt64.ofNat n := by
  unfold consumed
  split
  · exact add_zero _
  · next none =>
    rw [Nat.eq_zero_of_not_pos none]
    rfl

/-- The bytes accepted are buffered, counted as consumed, or owed by a section. -/
def Balanced (s : WebrtcStream) (owed : UInt64) : Prop :=
  s.sf.received = s.sf.consumed + UInt64.ofNat s.inbuf.length + owed

theorem Receives.balanced (receives : Receives s op e) {owed : UInt64}
    (balanced : Balanced s (op.owes + owed)) :
      Balanced e.shared ((e.next.map StreamSection.owes).sum + owed) := by
  unfold Balanced at balanced ⊢
  cases receives with
  | leaves same reads next light =>
    simp only [inboundBytes, StreamFlow.inbound, Prod.mk.injEq] at same
    obtain ⟨inbuf, -, received, consumed⟩ := same
    rw [received, consumed, inbuf, sum_aside next, balanced, light]
  | checks => exact balanced
  | accepts inbuf cancel received consumed reads next =>
    next payload cancelled =>
    have sum : (e.next.map StreamSection.owes).sum = UInt64.ofNat payload.length := by
      rw [next]
      split <;> exact add_zero _
    have before : s.sf.received = s.sf.consumed + UInt64.ofNat s.inbuf.length + (0 + owed) :=
      balanced
    rw [received, consumed, inbuf, sum, before]
    abel
  | appends =>
    next payload =>
    show s.sf.received = s.sf.consumed + UInt64.ofNat (s.inbuf ++ payload).length + (0 + owed)
    rw [balanced, List.length_append, UInt64.ofNat_add]
    simp only [StreamSection.owes]
    abel
  | discards inbuf cancel received consumed reads next first last light =>
    rw [received, consumed, inbuf, next, List.map_append, List.map_append, List.sum_append,
      List.sum_append, sum_aside first, sum_aside last, sum_consumed, balanced, light]
    show _ = s.sf.consumed + 0 + _
    abel
  | returns some =>
    next size =>
    have split : s.inbuf.length = (s.inbuf.take size).length + (s.inbuf.drop size).length := by
      rw [← List.length_append, List.take_append_drop]
    show s.sf.received = s.sf.consumed + UInt64.ofNat (s.inbuf.drop size).length +
      (UInt64.ofNat (s.inbuf.take size).length + (0 + 0) + owed)
    rw [balanced, split, UInt64.ofNat_add]
    simp only [StreamSection.owes]
    abel
  | counts inbuf cancel received consumed reads next =>
    next n =>
    rw [received, consumed, inbuf, sum_aside next, balanced]
    simp only [StreamSection.owes]
    abel

/-- The handler of a message is where the next section of a handler is. -/
theorem Receives.handles (receives : Receives s op e) {other : StreamSection}
    (member : other ∈ e.next) (handles : other.handles = true) : op.handles = true := by
  have aside {sections : List StreamSection} (all : Aside sections) (inside : other ∈ sections) :
      False := by
    have light := (Bool.and_eq_true_iff.mp (all other inside)).1
    rw [handles] at light
    cases light
  cases receives with
  | leaves same reads next light => exact absurd member (aside next)
  | checks => rfl
  | accepts => rfl
  | appends => rfl
  | discards inbuf cancel received consumed reads next first last light =>
    rw [next] at member
    rcases List.mem_append.mp member with member | behind
    · rcases List.mem_append.mp member with ahead | counted
      · exact absurd ahead (aside first)
      · rw [mem_consumed counted] at handles
        cases handles
    · exact absurd behind (aside last)
  | returns some =>
    rcases List.mem_cons.mp member with rfl | member
    · cases handles
    · rw [List.mem_singleton.mp member] at handles
      cases handles
  | counts inbuf cancel received consumed reads next => exact absurd member (aside next)

/-- A mark is not taken back, and it is set with the buffer discarded. -/
theorem Receives.marks (receives : Receives s op e) :
    (s.readCancel = true → e.shared.readCancel = true) ∧
    (s.readCancel = false → e.shared.readCancel = true →
      op.marks = true ∧ e.shared.inbuf = [] ∧ ∀ other ∈ e.next, other.holds = false) := by
  have still (same : e.shared.readCancel = s.readCancel) :
      (s.readCancel = true → e.shared.readCancel = true) ∧
      (s.readCancel = false → e.shared.readCancel = true →
        op.marks = true ∧ e.shared.inbuf = [] ∧ ∀ other ∈ e.next, other.holds = false) :=
    ⟨fun marked => same.trans marked, fun unmarked now => by rw [same, unmarked] at now; cases now⟩
  cases receives with
  | leaves same reads next light =>
    simp only [inboundBytes, Prod.mk.injEq] at same
    exact still same.2.1
  | checks => exact still rfl
  | accepts inbuf cancel received consumed reads next => exact still cancel
  | appends => exact still rfl
  | discards inbuf cancel received consumed reads next first last light =>
    rcases cancel with ⟨-, same⟩ | ⟨marks, now⟩
    · exact still same
    · refine ⟨fun _ => now, fun _ _ => ⟨marks, inbuf, fun other member => ?_⟩⟩
      rw [next] at member
      exact holds_of_discards first last other member
  | returns some => exact still rfl
  | counts inbuf cancel received consumed reads next => exact still cancel

/-! ### Runs -/

/-- The section that a step runs. -/
def running (t : Goroutines) : Label → Option StreamSection
  | .run thread => t.pool[thread]?.bind List.head?
  | _ => none

/-- The read half is not marked while a handler with bytes stands between its check and its
append. -/
def Undivided (t : Goroutines) (label : Label) : Prop :=
  ∀ op ∈ running t label, op.marks = true → t.shared.readCancel = false →
    ∀ other ∈ t.pending, other.holds = false

instance (t : Goroutines) (label : Label) : Decidable (Undivided t label) := by
  unfold Undivided
  infer_instance

/-- What was accepted is accounted for, messages are handled by their goroutine, and a marked read
half is dead. -/
structure CancelInv (t : Goroutines) : Prop where
  balanced : Balanced t.shared (t.weight StreamSection.owes)
  handlers : t.Elsewhere StreamSection.handles 0
  here : 0 < t.pool.length
  dead : t.shared.readCancel = true → Dead t

theorem cancelInv_start (limits : FlowWindows) (isOpen : Bool) :
    CancelInv (start limits isOpen) where
  balanced := rfl
  handlers := fun j stack found other => by
    cases j with
    | zero => exact absurd rfl other
    | succ j => cases found
  here := Nat.one_pos
  dead := fun marked => by cases marked

theorem CancelInv.run (inv : CancelInv t) {thread : Nat} (undivided : Undivided t (.run thread))
    (stepped : t.advance exec thread = some t') : CancelInv t' := by
  have taken : WebrtcStream.step t (.run thread) = some t' := stepped
  obtain ⟨op, rest, e, top, ran, rfl⟩ := Threads.advance_eq_some.mp stepped
  have pending := Threads.mem_pending top
  have receives := exec_receives ran
  have weight := Threads.weight_advance (w := StreamSection.owes) (e := e) top
  have none : (e.started.flatten.map StreamSection.owes).sum = 0 :=
    Threads.sum_eq_zero fun other member => by rw [mem_started ran member]; rfl
  rw [none, add_zero] at weight
  refine ⟨?_, ?_, ?_, fun marked => ?_⟩
  · -- what the section owed, and the rest
    have split := inv.balanced
    obtain ⟨owed, sum⟩ : ∃ owed, t.weight StreamSection.owes = op.owes + owed :=
      ⟨t.weight StreamSection.owes - op.owes, by abel⟩
    rw [sum] at split weight
    have after :
        Threads.weight StreamSection.owes ⟨e.shared,
          t.pool.set thread (e.next ++ rest) ++ e.started⟩ =
        (e.next.map StreamSection.owes).sum + owed := by
      refine add_left_cancel (a := op.owes) (weight.trans ?_)
      abel
    rw [after]
    exact receives.balanced split
  · refine inv.handlers.advance top (fun other section' member => ?_) fun other member => ?_
    · by_contra handles
      rw [Bool.not_eq_false] at handles
      have mine := inv.handlers thread _ top other op List.mem_cons_self
      rw [receives.handles member handles] at mine
      cases mine
    · rw [mem_started ran member]
      rfl
  · show 0 < (t.pool.set thread (e.next ++ rest) ++ e.started).length
    rw [List.length_append, List.length_set]
    exact Nat.lt_of_lt_of_le inv.here (Nat.le_add_right _ _)
  · cases before : t.shared.readCancel with
    | true => exact ((inv.dead before).step taken).1
    | false =>
      obtain ⟨marks, empty, quiet⟩ := receives.marks.2 before marked
      have alone : ∀ other ∈ t.pending, other.holds = false := by
        refine undivided op ?_ marks before
        simp [running, top]
      refine ⟨marked, empty, fun other member => ?_⟩
      rcases (Threads.pending_members (e := e) top).2.2 other member with pushed | new | old
      · exact quiet other pushed
      · rw [mem_started ran new]
        rfl
      · exact alone other old

theorem CancelInv.others (inv : CancelInv t) (stepped : WebrtcStream.step t label = some t')
    (notRun : ∀ thread, label ≠ .run thread) : CancelInv t' := by
  obtain ⟨same, -, added, pending, light⟩ := step_others stepped notRun
  simp only [inboundBytes, StreamFlow.inbound, Prod.mk.injEq] at same
  obtain ⟨inbuf, cancel, received, consumed⟩ := same
  have weight : t'.weight StreamSection.owes = t.weight StreamSection.owes := by
    have sum := Threads.sum_eq_of_perm (w := StreamSection.owes) pending
    rw [List.map_append, List.sum_append, Threads.sum_eq_zero fun op member => (light op member).1,
      zero_add] at sum
    exact sum
  have pool : t'.Elsewhere StreamSection.handles 0 ∧ 0 < t'.pool.length := by
    have start (t : Goroutines) {stack : List StreamSection}
      (only : t.Elsewhere StreamSection.handles 0)
        (quiet : ∀ op ∈ stack, op.handles = false) :
        (t.start stack).Elsewhere StreamSection.handles 0 ∧ 0 < (t.start stack).pool.length :=
      ⟨only.start quiet, by simp [Threads.start]⟩
    cases label with
    | run thread => exact absurd rfl (notRun thread)
    | call method =>
      cases stepped
      refine start t inv.handlers ?_
      cases method <;> simp [Method.sections, StreamSection.handles]
    | channelOpen =>
      simp only [WebrtcStream.step] at stepped
      split at stepped <;> cases stepped
      exact start (touch t _) inv.handlers (by simp [StreamSection.handles])
    | message data =>
      simp only [WebrtcStream.step] at stepped
      split at stepped
      · refine ⟨inv.handlers.resume stepped fun other => absurd rfl other, ?_⟩
        unfold Threads.resume at stepped
        split at stepped <;> cases stepped
        rw [List.length_set]
        exact inv.here
      · cases stepped
    | channelClosed =>
      simp only [WebrtcStream.step] at stepped
      split at stepped <;> cases stepped
      exact start (touch t _) inv.handlers (by simp [StreamSection.handles])
    | destroy =>
      simp only [WebrtcStream.step] at stepped
      split at stepped <;> cases stepped
      exact start t inv.handlers (by simp [StreamSection.handles])
    | _ =>
      cases stepped
      exact ⟨inv.handlers, inv.here⟩
  refine ⟨?_, pool.1, pool.2, fun marked => ((inv.dead (cancel.symm.trans marked)).step stepped).1⟩
  unfold Balanced
  rw [received, consumed, inbuf, weight]
  exact inv.balanced

/-- **One step keeps a marked read half dead**, if it does not divide a handler. -/
theorem CancelInv.step (inv : CancelInv t) (undivided : Undivided t label)
    (stepped : WebrtcStream.step t label = some t') : CancelInv t' := by
  cases label with
  | run thread => exact inv.run undivided stepped
  | _ => exact inv.others stepped (by simp)

/-- The goroutine of a `CancelRead` is before its first section, or the read half is marked. -/
def Cancelling (k : Nat) (t : Goroutines) : Prop :=
  ∃ stack, t.pool[k]? = some stack ∧ (t.shared.readCancel = true ∨ ∃ code, .cancelRead code ∈ stack)

theorem Cancelling.step {k : Nat} (own : k ≠ 0) (cancelling : Cancelling k t)
    (stepped : WebrtcStream.step t label = some t') : Cancelling k t' := by
  obtain ⟨stack, found, where'⟩ := cancelling
  have here := (List.getElem?_eq_some_iff.mp found).1
  have start (t : Goroutines) (added : List StreamSection) (found : t.pool[k]? = some stack)
      (where' : t.shared.readCancel = true ∨ ∃ code, StreamSection.cancelRead code ∈ stack) :
      Cancelling k (t.start added) :=
    ⟨stack, (List.getElem?_append_left (List.getElem?_eq_some_iff.mp found).1).trans found, where'⟩
  cases label with
  | run thread =>
    obtain ⟨op, rest, e, top, ran, rfl⟩ := Threads.advance_eq_some.mp stepped
    have kept := (exec_receives ran).marks.1
    have within : k < (t.pool.set thread (e.next ++ rest)).length := by rwa [List.length_set]
    by_cases same : thread = k
    · subst same
      rw [top] at found
      cases found
      refine ⟨e.next ++ rest, ?_, ?_⟩
      · rw [List.getElem?_append_left within]
        exact List.getElem?_set_self here
      · rcases where' with marked | ⟨code, member⟩
        · exact Or.inl (kept marked)
        · rcases List.mem_cons.mp member with rfl | later
          · refine Or.inl ?_
            simp only [exec] at ran
            split at ran
            · next marked =>
              cases ran
              exact marked
            · cases ran
              rfl
          · exact Or.inr ⟨code, List.mem_append_right _ later⟩
    · refine ⟨stack, ?_, where'.imp kept id⟩
      rw [List.getElem?_append_left within, List.getElem?_set_ne same]
      exact found
  | call method =>
    cases stepped
    exact start t _ found where'
  | channelOpen =>
    simp only [WebrtcStream.step] at stepped
    split at stepped <;> cases stepped
    exact start (touch t _) _ found where'
  | message data =>
    simp only [WebrtcStream.step] at stepped
    split at stepped
    · unfold Threads.resume at stepped
      split at stepped <;> cases stepped
      exact ⟨stack, (List.getElem?_set_ne (Ne.symm own)).trans found, where'⟩
    · cases stepped
  | channelClosed =>
    simp only [WebrtcStream.step] at stepped
    split at stepped <;> cases stepped
    exact start (touch t _) _ found where'
  | destroy =>
    simp only [WebrtcStream.step] at stepped
    split at stepped <;> cases stepped
    exact start t _ found where'
  | _ =>
    cases stepped
    exact ⟨stack, found, where'⟩

/-- What `CancelRead` promises, from a state on: the buffer is empty and stays so, no `Read` returns
bytes, and every byte that was accepted is counted as consumed, but for what a `Read` has taken and
is about to count. -/
structure CancelLaw (t : Goroutines) : Prop where
  drained : t.shared.inbuf.isEmpty = true
  stays : ∀ labels t', Lib.run WebrtcStream.step t labels = some t' → t'.shared.inbuf.isEmpty = true
  reads : ∀ labels t', Lib.run WebrtcStream.step t labels = some t' →
    ∃ results, t'.shared.reads = t.shared.reads ++ results ∧ Byteless results
  counted : t.shared.sf.received = t.shared.sf.consumed + t.weight StreamSection.counts
  settled : (∀ op ∈ t.pending, op.counts = 0) → t.shared.sf.received = t.shared.sf.consumed

theorem CancelInv.law (inv : CancelInv t) (marked : t.shared.readCancel = true)
    (idle : t.pool[0]? = some []) : CancelLaw t := by
  have dead := inv.dead marked
  have handlers : ∀ op ∈ t.pending, op.handles = false := by
    intro op member
    obtain ⟨stack, inside, here⟩ := List.mem_flatten.mp member
    obtain ⟨j, found⟩ := List.mem_iff_getElem?.mp inside
    by_cases own : j = 0
    · subst own
      rw [idle] at found
      cases found
      cases here
    · exact inv.handlers j stack found own op here
  have weights : t.weight StreamSection.owes = t.weight StreamSection.counts := by
    unfold Threads.weight
    congr 1
    refine List.map_congr_left fun op member => ?_
    have none := handlers op member
    cases op <;> first | rfl | cases none
  have counted : t.shared.sf.received = t.shared.sf.consumed + t.weight StreamSection.counts := by
    have balanced := inv.balanced
    unfold Balanced at balanced
    rw [dead.empty, weights] at balanced
    rw [balanced]
    show t.shared.sf.consumed + 0 + _ = _
    rw [add_zero]
  refine ⟨List.isEmpty_iff.mpr dead.empty,
    fun labels t' ran => List.isEmpty_iff.mpr (dead.run ran).1.empty,
    fun labels t' ran => (dead.run ran).2, counted, fun none => ?_⟩
  rw [counted, show t.weight StreamSection.counts = 0 from Threads.sum_eq_zero none, add_zero]

/-- **`CancelRead` holds its law.** In every run in which the read half is not marked while a
handler with bytes stands between its check and its append: once a call that cancels the read has
returned, and no handler is under way, the buffer is empty and stays empty, no `Read` returns bytes,
and what was accepted is counted. -/
theorem cancelRead_law {limits : FlowWindows} {isOpen : Bool} {before after : List Label}
    {method : Method} {code : ErrorCode} (cancels : .cancelRead code ∈ method.sections)
    (meets :
      Meets WebrtcStream.step Undivided (start limits isOpen) (before ++ .call method :: after))
    (ran : Lib.run WebrtcStream.step (start limits isOpen) before = some t)
    (called : Lib.run WebrtcStream.step t (.call method :: after) = some t')
    (returned : t'.pool[t.pool.length]? = some []) (idle : t'.pool[0]? = some []) :
      CancelLaw t' := by
  have preserves : ∀ t label t', Undivided t label → CancelInv t →
      WebrtcStream.step t label = some t' →
      CancelInv t' := fun _ _ _ undivided inv stepped => inv.step undivided stepped
  have inv : CancelInv t :=
    run_invariant_of_meets preserves (meets_append meets ran).1 (cancelInv_start limits isOpen) ran
  have inv' : CancelInv t' :=
    run_invariant_of_meets preserves meets (cancelInv_start limits isOpen)
      (run_append.mpr ⟨t, ran, called⟩)
  obtain ⟨t₁, stepped, later⟩ := run_cons.mp called
  have own : t.pool.length ≠ 0 := Nat.pos_iff_ne_zero.mp inv.here
  have cancelling : Cancelling t.pool.length t₁ := by
    cases stepped
    exact ⟨method.sections, by simp [Threads.start], Or.inr ⟨code, cancels⟩⟩
  obtain ⟨stack, found, marked | ⟨other, member⟩⟩ : Cancelling t.pool.length t' :=
    run_invariant
      (fun _ _ _ cancelling stepped => Cancelling.step own cancelling stepped) cancelling later
  · exact inv'.law marked idle
  · rw [returned] at found
    cases found
    cases member

/-- A payload is read in part, then `CancelRead` runs while the next message has not arrived; that
message is counted as consumed. -/
def cancelsBetween : List Label :=
  [.message [0, 1, 2, 3], .run 0, .run 0, .run 0, .call (.read 2), .run 1, .run 1, .run 1]

def cancelsThenData : List Label :=
  [.run 2, .run 2, .run 2, .run 2, .run 2, .run 2, .message [0, 4], .run 0, .run 0, .run 0]

theorem cancelRead_law_cancelsBetween : ∃ t t',
    Lib.run WebrtcStream.step (start defaultFlowLimits true) cancelsBetween = some t ∧
      Lib.run WebrtcStream.step t (.call (.cancelRead 7) :: cancelsThenData) = some t' ∧
      t'.shared.sf.received = 4 ∧ CancelLaw t' := by
  have cancels : (Lib.run WebrtcStream.step (start defaultFlowLimits true) cancelsBetween).any
    (fun t =>
      (Lib.run WebrtcStream.step t (.call (.cancelRead 7) :: cancelsThenData)).any fun t' =>
        decide
          (t'.pool[t.pool.length]? = some [] ∧ t'.pool[0]? = some [] ∧ t'.shared.sf.received = 4)) =
      true := by decide +kernel
  obtain ⟨t, ran, rest⟩ := (Option.any_eq_true _ _).mp cancels
  obtain ⟨t', called, facts⟩ := (Option.any_eq_true _ _).mp rest
  obtain ⟨returned, idle, received⟩ := of_decide_eq_true facts
  have cancels : .cancelRead 7 ∈ (Method.cancelRead 7).sections := List.mem_cons_self
  exact ⟨t, t', ran, called, received,
    cancelRead_law cancels (by decide +kernel) ran called returned idle⟩

/-- **A payload that is appended after the mark stays in the buffer**, with no handler under way. -/
theorem append_after_mark {k : Nat} {rest : List StreamSection} {payload : Bytes}
    (cancel : t.pool[k]? = some (op :: rest)) (marks : op.marks = true) (other : k ≠ 0)
    (unmarked : t.shared.readCancel = false) (handler : t.pool[0]? = some [.appendData payload]) :
    ∃ t', Lib.run WebrtcStream.step t [.run k, .run 0] = some t' ∧ t'.pool[0]? = some [] ∧
      t'.shared.readCancel = true ∧ t'.shared.inbuf = payload := by
  obtain ⟨e, ran, marked, empty⟩ : ∃ e, t.shared.exec op = some e ∧ e.shared.readCancel = true ∧
      e.shared.inbuf = [] := by
    cases op with
    | cancelRead code =>
      simp only [exec, unmarked]
      exact ⟨_, rfl, rfl, rfl⟩
    | destroy => exact ⟨_, rfl, rfl, rfl⟩
    | _ => cases marks
  have first : WebrtcStream.step t (.run k) =
      some ⟨e.shared, t.pool.set k (e.next ++ rest) ++ e.started⟩ :=
    Threads.advance_eq_some.mpr ⟨op, rest, e, cancel, ran, rfl⟩
  have here : 0 < (t.pool.set k (e.next ++ rest)).length := by
    rw [List.length_set]
    exact (List.getElem?_eq_some_iff.mp handler).1
  have top : (t.pool.set k (e.next ++ rest) ++ e.started)[0]? = some [.appendData payload] := by
    rw [List.getElem?_append_left here, List.getElem?_set_ne other]
    exact handler
  refine ⟨_, run_cons.mpr ⟨_, first, run_cons.mpr ⟨_, Threads.advance_eq_some.mpr
    ⟨_, [], _, top, rfl, rfl⟩, rfl⟩⟩, ?_, marked, ?_⟩
  · have inside : 0 < (t.pool.set k (e.next ++ rest) ++ e.started).length := by
      rw [List.length_append]
      exact Nat.lt_of_lt_of_le here (Nat.le_add_right _ _)
    show ((t.pool.set k (e.next ++ rest) ++ e.started).set 0 [] ++ [])[0]? = some []
    rw [List.append_nil]
    exact List.getElem?_set_self inside
  · show e.shared.inbuf ++ payload = payload
    rw [empty, List.nil_append]

/-- A DATA frame of one byte arrives and its handler looks at the mark. -/
def checksThenCancels : List Label := [.message [0, 7], .run 0]

/-- `CancelRead` runs to its end, and then the handler appends its byte. -/
def cancelsThenAppends : List Label := [.run 1, .run 1, .run 1, .run 1, .run 1, .run 0, .run 0]

/-- **`CancelRead` leaks what is appended behind it**: the byte stays buffered and is not counted,
and a later `Read` returns it. -/
theorem cancelRead_leaks : ∃ t t' t'',
    Lib.run WebrtcStream.step (start defaultFlowLimits true) checksThenCancels = some t ∧
      Lib.run WebrtcStream.step t (.call (.cancelRead 7) :: cancelsThenAppends) = some t' ∧
      t'.pool = [[], []] ∧ t.pool.length = 1 ∧ t'.shared.inbuf = [7] ∧ t'.shared.sf.received = 1 ∧
      t'.shared.sf.consumed = 0 ∧ ¬ CancelLaw t' ∧
      Lib.run WebrtcStream.step t' [.call (.read 8), .run 2] = some t'' ∧
      t''.shared.reads = [.bytes [7]] := by
  have leaks : (Lib.run WebrtcStream.step (start defaultFlowLimits true) checksThenCancels).any
    (fun t =>
      (Lib.run WebrtcStream.step t (.call (.cancelRead 7) :: cancelsThenAppends)).any fun t' =>
        (Lib.run WebrtcStream.step t' [.call (.read 8), .run 2]).any fun t'' =>
          decide
            (t'.pool = [[], []] ∧ t.pool.length = 1 ∧ t'.shared.inbuf = [7] ∧
              t'.shared.sf.received = 1 ∧
            t'.shared.sf.consumed = 0 ∧ t''.shared.reads = [.bytes [7]])) =
              true := by decide +kernel
  obtain ⟨t, ran, rest⟩ := (Option.any_eq_true _ _).mp leaks
  obtain ⟨t', called, rest⟩ := (Option.any_eq_true _ _).mp rest
  obtain ⟨t'', read, facts⟩ := (Option.any_eq_true _ _).mp rest
  obtain ⟨pool, one, inbuf, received, consumed, returned⟩ := of_decide_eq_true facts
  refine ⟨t, t', t'', ran, called, pool, one, inbuf, received, consumed, fun law => ?_, read,
    returned⟩
  have drained := law.drained
  rw [inbuf] at drained
  cases drained

end WebrtcStream

end Kps.Go
