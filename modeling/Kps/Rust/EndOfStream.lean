/-
**A Rust stream as a reader.**

`read_exact` speaks of the bytes that were admitted. Here they are compared with the frames that the
arriving messages carry: as long as no frame is rejected, `poll_read` returns the first bytes the
frames carry, and it finds EOF only after a FIN, with all of them returned.

* `Heard.step` — the peer's FIN was among the messages;
* `EofInv.step` — nothing is admitted or returned after EOF;
* `reader` — so a stream is a reader.
-/

import Kps.Rust.Formed
import Kps.Rust.ReadSide
import Kps.Wire.Agreement

namespace Kps.Rust

open Kps.Lib

theorem parseFrame_of_message {data : Bytes} {frame : Wire.Frame}
    (message : Wire.FrameMessage data frame) :
    parseFrame data = .ok (.ofWire frame) :=
  (parseFrame_decodes data _).mpr ⟨frame, message, rfl⟩

theorem payloadOf_message {data : Bytes} {frame : Wire.Frame}
    (message : Wire.FrameMessage data frame) :
    payloadOf data = frame.payload := by
  unfold payloadOf
  rw [parseFrame_of_message message]
  cases frame <;> rfl

theorem fin_of_message {data : Bytes} {frame : Wire.Frame} (message : Wire.FrameMessage data frame)
    (fin : parseFrame data = .ok .fin) : frame = .fin := by
  have same := Except.ok.inj ((parseFrame_of_message message).symm.trans fin)
  cases frame <;> first | rfl | cases same

theorem message_of_fin {data : Bytes} (fin : parseFrame data = .ok .fin) :
    Wire.FrameMessage data .fin := by
  obtain ⟨frame, message, -⟩ := (parseFrame_decodes data _).mp fin
  rwa [fin_of_message message fin] at message

/-- The payloads of the messages are what the frames carry. -/
theorem flatMap_payloadOf {messages : List Bytes} {frames : List Wire.Frame}
    (each : List.Forall₂ Wire.FrameMessage messages frames) :
    messages.flatMap payloadOf = Wire.payload frames := by
  induction each with
  | nil => rfl
  | cons message _ ih =>
    rw [List.flatMap_cons, payloadOf_message message, ih]
    rfl

namespace WebrtcStream

variable {s : WebrtcStream} {op : StreamSection} {e : Effect WebrtcStream StreamSection}

/-! ### Sections -/

/-- The peer's FIN is recorded by `on_frame` alone, and it is not forgotten. -/
theorem exec_peerFin (ran : s.exec op = some e) :
    (s.peerFin = true → e.shared.peerFin = true) ∧
    (e.shared.peerFin = true → s.peerFin = true ∨ ∃ data, op = .onFrame data ∧
      parseFrame data = .ok .fin) := by
  have same (fin : e.shared.peerFin = s.peerFin) : (s.peerFin = true → e.shared.peerFin = true) ∧
      (e.shared.peerFin = true → s.peerFin = true ∨ ∃ data, op = .onFrame data ∧
        parseFrame data = .ok .fin) :=
    ⟨fun already => fin.trans already, fun now => Or.inl (fin.symm.trans now)⟩
  by_cases receives : op.receives = true
  · cases op with
    | onFrame data =>
      simp only [exec, onFrame] at ran
      split at ran
      · cases ran
        exact same rfl
      · split at ran <;> cases ran <;> exact same rfl
      · next parsed =>
        split at ran
        · cases ran
          exact same rfl
        · cases ran
          exact ⟨fun _ => rfl, fun _ => Or.inr ⟨data, rfl, parsed⟩⟩
      · split at ran <;> cases ran <;> exact same rfl
      · split at ran
        · cases ran
          exact same rfl
        · split at ran <;> cases ran <;> exact same rfl
      · cases ran
        exact same rfl
    | pushData payload =>
      simp only [exec] at ran
      split at ran <;> cases ran <;> exact same rfl
    | pollRead size =>
      simp only [exec, pollRead] at ran
      split at ran
      · cases ran
        exact same rfl
      split at ran
      · cases ran
        exact same rfl
      split at ran
      · cases ran
        exact same rfl
      split at ran
      · cases ran
        exact same rfl
      split at ran <;> cases ran <;> exact same rfl
    | cancelRead code =>
      simp only [exec] at ran
      split at ran <;> cases ran <;> exact same rfl
    | _ => cases receives
  · have left := (exec_leaves ran).reading (Bool.not_eq_true _ ▸ receives)
    simp only [reading, Prod.mk.injEq] at left
    exact same left.2.1

/-- The results of `poll_read` are only added to, and EOF is a result while there is nothing to read
and a FIN. -/
theorem exec_reads (ran : s.exec op = some e) :
    s.reads <+: e.shared.reads ∧
    (.eof ∈ e.shared.reads → .eof ∈ s.reads ∨
      e.shared.inbuf = [] ∧ e.shared.readCancel = false ∧ e.shared.peerReset = none ∧
      e.shared.peerFin = true) := by
  have same (reads : e.shared.reads = s.reads) : s.reads <+: e.shared.reads ∧
      (.eof ∈ e.shared.reads → .eof ∈ s.reads ∨
        e.shared.inbuf = [] ∧ e.shared.readCancel = false ∧ e.shared.peerReset = none ∧
        e.shared.peerFin = true) := by
    rw [reads]
    exact ⟨List.prefix_rfl, Or.inl⟩
  have other {result : ReadResult} (reads : e.shared.reads = s.reads ++ [result])
    (not : result ≠ .eof) :
      s.reads <+: e.shared.reads ∧ (.eof ∈ e.shared.reads → .eof ∈ s.reads ∨
        e.shared.inbuf = [] ∧ e.shared.readCancel = false ∧ e.shared.peerReset = none ∧
        e.shared.peerFin = true) := by
    rw [reads]
    refine ⟨List.prefix_append _ _, fun found => Or.inl ?_⟩
    rcases List.mem_append.mp found with old | new
    · exact old
    · exact absurd (List.mem_singleton.mp new).symm not
  by_cases receives : op.receives = true
  · cases op with
    | onFrame data =>
      simp only [exec, onFrame] at ran
      split at ran
      · cases ran
        exact same rfl
      · split at ran <;> cases ran <;> exact same rfl
      · split at ran <;> cases ran <;> exact same rfl
      · split at ran <;> cases ran <;> exact same rfl
      · split at ran
        · cases ran
          exact same rfl
        · split at ran <;> cases ran <;> exact same rfl
      · cases ran
        exact same rfl
    | pushData payload =>
      simp only [exec] at ran
      split at ran <;> cases ran <;> exact same rfl
    | pollRead size =>
      simp only [exec, pollRead] at ran
      split at ran
      · cases ran
        exact other rfl (by simp)
      next empty =>
      split at ran
      · cases ran
        exact other rfl (by simp)
      next reading =>
      split at ran
      · cases ran
        exact other rfl (by simp)
      next reset =>
      split at ran
      · next fin =>
        cases ran
        exact ⟨List.prefix_append _ _,
          fun _ => Or.inr ⟨empty, Bool.not_eq_true _ ▸ reading, reset, fin⟩⟩
      split at ran <;> cases ran <;> exact other rfl (by simp)
    | cancelRead code =>
      simp only [exec] at ran
      split at ran <;> cases ran <;> exact same rfl
    | _ => cases receives
  · have left := (exec_leaves ran).reading (Bool.not_eq_true _ ▸ receives)
    simp only [reading, Prod.mk.injEq] at left
    exact same left.2.2.2.2

/-- `on_frame` is only called by the read loop. -/
theorem onFrame_notMem_next (ran : s.exec op = some e) (data : Bytes) : .onFrame data ∉ e.next := by
  intro member
  have leads := exec_leads ran _ member
  cases op <;> cases leads

theorem returned_prefix {s' : WebrtcStream} (reads : s.reads <+: s'.reads) :
    s.returned <+: s'.returned := by
  obtain ⟨more, same⟩ := reads
  unfold returned
  rw [← same, List.flatMap_append]
  exact List.prefix_append _ _

/-! ### What was heard -/

/-- The message that arrives. -/
def arrival : Label → Option Bytes
  | .message data => some data
  | _ => none

/-- The FIN was among the messages, and the message the read loop is at came last. -/
structure Heard (messages : List Bytes) (t : Tasks) : Prop where
  fin : t.shared.peerFin = true → ∃ data ∈ messages, parseFrame data = .ok .fin
  last : ∀ data, t.control (ownedBy .callbacks) = some (.onFrame data) → ∃ before,
    messages = before ++ [data]

theorem Heard.run {messages : List Bytes} {t t' : Tasks} {thread : Nat} (heard : Heard messages t)
    (rules : Ruled t) (stepped : t.advance exec thread = some t') : Heard messages t' := by
  obtain ⟨op, rest, e, top, ran, rfl⟩ := Threads.advance_eq_some.mp stepped
  have pending := Threads.mem_pending top
  have after : Threads.control (ownedBy .callbacks)
      ⟨e.shared, t.pool.set thread (e.next ++ rest) ++ e.started⟩ =
      callbacksAfter op e (t.control (ownedBy .callbacks)) :=
    (rules.owned .callbacks).control_advance top ((exec_follows ran).1.countP .callbacks)
      fun other member => by rw [mem_started ran member]; rfl
  refine ⟨fun now => ?_, fun data at' => ?_⟩
  · rcases (exec_peerFin ran).2 now with already | ⟨data, rfl, parsed⟩
    · exact heard.fin already
    · obtain ⟨before, rfl⟩ := heard.last data ((rules.owned .callbacks).control_eq pending rfl)
      exact ⟨data, List.mem_append_right _ List.mem_cons_self, parsed⟩
  · rw [after] at at'
    unfold callbacksAfter at at'
    split at at'
    · exact absurd (List.mem_of_find?_eq_some at') (onFrame_notMem_next ran data)
    · exact heard.last data at'

theorem Heard.others {messages : List Bytes} {t t' : Tasks} {label : Label}
    (heard : Heard messages t) (rules : Ruled t)
    (stepped : WebrtcStream.step t label = some t') (notRun : ∀ thread, label ≠ .run thread) :
    Heard (messages ++ (arrival label).toList) t' := by
  have shared := step_shared stepped notRun
  have fin : t'.shared.peerFin = t.shared.peerFin :=
    (congrArg WebrtcStream.peerFin shared).trans rfl
  refine ⟨fun now => ?_, fun data at' => ?_⟩
  · obtain ⟨data, member, parsed⟩ := heard.fin (fin.symm.trans now)
    exact ⟨data, List.mem_append_left _ member, parsed⟩
  · rcases step_callbacks rules stepped notRun with ⟨other, same⟩ | ⟨-, ⟨new, rfl, now⟩ | ⟨-, now⟩⟩
    · obtain ⟨before, rfl⟩ := heard.last data (same.symm.trans at')
      have none : arrival label = none := by
        cases label with
        | message data => exact absurd rfl (other data)
        | _ => rfl
      rw [none]
      exact ⟨before, List.append_nil _⟩
    · rw [now] at at'
      cases at'
      exact ⟨messages, rfl⟩
    · rw [now] at at'
      cases at'

theorem Heard.step {messages : List Bytes} {t t' : Tasks} {label : Label} (heard : Heard messages t)
    (rules : Ruled t)
    (stepped : WebrtcStream.step t label = some t') :
      Heard (messages ++ (arrival label).toList) t' := by
  cases label with
  | run thread =>
    show Heard (messages ++ []) t'
    rw [List.append_nil]
    exact heard.run rules stepped
  | _ => exact heard.others rules stepped (by simp)

theorem heard_of_run {flow : ConnFlow} {peerInitiated isOpen : Bool} {labels : List Label}
    {t : Tasks}
    (ran : Lib.run WebrtcStream.step (start flow peerInitiated isOpen) labels = some t) :
    Heard (labels.filterMap arrival) t := by
  have first : Heard [] (start flow peerInitiated isOpen) :=
    ⟨fun now => (by cases now), fun data at' => (by cases at')⟩
  have always : Meets WebrtcStream.step (fun _ _ => True)
      (start flow peerInitiated isOpen) labels :=
    meets_of_labels (fun _ _ _ => trivial) _
  have preserves (messages : List Bytes) (t : Tasks) (label : Label) (t' : Tasks) (_ : True)
      (inv : Ruled t ∧ Heard messages t) (stepped : WebrtcStream.step t label = some t') :
      Ruled t' ∧ Heard (messages ++ (arrival label).toList) t' :=
    ⟨inv.1.step stepped, inv.2.step inv.1 stepped⟩
  have both :=
    run_invariant_of_outputs preserves always ⟨ruled_start flow peerInitiated isOpen, first⟩ ran
  rw [outputs_of_labels ran] at both
  exact both.2

/-! ### After the end -/

/-- After EOF there is a FIN, and every byte that was admitted is returned. -/
structure EofInv (log : List Inbound) (t : Tasks) : Prop where
  read : ReadInv log t
  ended : .eof ∈ t.shared.reads → t.shared.peerFin = true ∧ t.shared.returned = received log

/-- With nothing left to read after a FIN, every byte that was admitted is returned. -/
theorem ReadInv.drained {log : List Inbound} {t : Tasks} (inv : ReadInv log t)
    (empty : t.shared.inbuf = [])
    (reading : t.shared.readCancel = false) (reset : t.shared.peerReset = none)
    (fin : t.shared.peerFin = true) :
    t.shared.returned = received log := by
  have ended : t.shared.peerEnded = true := by simp [peerEnded, fin]
  have none : StreamSection.pushing (t.control (ownedBy .callbacks)) = [] := by
    cases at' : t.control (ownedBy .callbacks) with
    | none => rfl
    | some op =>
      have quiet := inv.ladder.quiet ended op (Threads.mem_of_control at').1
      cases op <;> first | rfl | cases quiet
  have kept := inv.ordered.kept (by simp [discards, reading, reset])
  rwa [empty, none, List.flatten_nil, List.append_nil, List.append_nil] at kept

theorem EofInv.step {log : List Inbound} {t t' : Tasks} {label : Label} (inv : EofInv log t)
    (stepped : WebrtcStream.step t label = some t') : EofInv (log ++ inbound t label) t' := by
  have read := inv.read.step stepped
  refine ⟨read, fun found => ?_⟩
  by_cases runs : ∃ thread, label = .run thread
  · obtain ⟨thread, rfl⟩ := runs
    obtain ⟨op, rest, e, top, ran, rfl⟩ := Threads.advance_eq_some.mp stepped
    obtain ⟨more, new⟩ := exec_reads ran
    rcases new found with already | ⟨empty, reading, reset, fin⟩
    · obtain ⟨fin, all⟩ := inv.ended already
      refine ⟨(exec_peerFin ran).1 fin, ?_⟩
      -- no DATA is on its way after the FIN
      have silent : t.shared.admits op = [] := by
        have quiet := inv.read.ladder.quiet (by simp [peerEnded, fin]) op (Threads.mem_pending top)
        cases op <;> first | rfl | cases quiet
      have nothing : received (log ++ inbound t (.run thread)) = received log := by
        rw [received_append, inbound_run top]
        show received log ++ (t.shared.admits op ++ []) = received log
        rw [silent, List.append_nil, List.append_nil]
      have before : t.shared.returned <+: e.shared.returned := returned_prefix more
      have after := read.ordered.begins
      rw [nothing, ← all] at after
      rw [nothing, ← all]
      exact after.eq_of_length_le before.length_le
    · exact ⟨fin, read.drained empty reading reset fin⟩
  · have notRun : ∀ thread, label ≠ .run thread := fun thread same => runs ⟨thread, same⟩
    have same : t'.shared.reading = t.shared.reading :=
      (congrArg reading (step_shared stepped notRun)).trans rfl
    simp only [reading, Prod.mk.injEq] at same
    obtain ⟨-, fin, -, -, reads⟩ := same
    have silent : received (inbound t label) = [] := by
      cases label with
      | run thread => exact absurd rfl (notRun thread)
      | _ => rfl
    obtain ⟨before, all⟩ := inv.ended (reads ▸ found)
    refine ⟨fin.trans before, ?_⟩
    unfold returned at all ⊢
    rw [received_append, silent, List.append_nil, reads]
    exact all

theorem eofInv_of_run {flow : ConnFlow} {peerInitiated isOpen : Bool} {labels : List Label}
    {t : Tasks}
    (ran : Lib.run WebrtcStream.step (start flow peerInitiated isOpen) labels = some t) :
    EofInv (inboundLog (start flow peerInitiated isOpen) labels) t := by
  have first : EofInv [] (start flow peerInitiated isOpen) :=
    ⟨readInv_start flow peerInitiated isOpen, fun found => (by cases found)⟩
  have always : Meets WebrtcStream.step (fun _ _ => True)
      (start flow peerInitiated isOpen) labels :=
    meets_of_labels (fun _ _ _ => trivial) _
  exact run_invariant_of_outputs
    (fun _ _ _ _ _ inv stepped => EofInv.step inv stepped) always first ran

/-! ### A reader -/

theorem arrived_of_run {t t' : Tasks} {labels : List Label}
    (ran : Lib.run WebrtcStream.step t labels = some t') :
    arrived (inboundLog t labels) = (labels.filterMap arrival).flatMap payloadOf := by
  induction labels generalizing t with
  | nil => rfl
  | cons label labels ih =>
    obtain ⟨next, stepped, rest⟩ := run_cons.mp ran
    unfold inboundLog at ih ⊢
    rw [outputs_cons stepped, arrived_append, ih rest]
    cases label with
    | message data =>
      rw [List.filterMap_cons_some (show arrival (.message data) = some data from rfl),
        List.flatMap_cons]
      show payloadOf data ++ [] ++ _ = _
      rw [List.append_nil]
    | run thread =>
      have none : arrived (inbound t (.run thread)) = [] := by
        simp only [inbound]
        split <;> rfl
      rw [none]
      rfl
    | _ => rfl

/-- A DATA frame that is about to be counted comes before the FIN. -/
theorem Heard.arriving {messages : List Bytes} {t : Tasks} {frames : List Wire.Frame}
    (heard : Heard messages t)
    (ladder : LadderInv t) (carries : Wire.Carries messages frames)
    (fin : t.shared.peerFin = true) :
    StreamSection.arriving (t.control (ownedBy .callbacks)) = [] := by
  cases at' : t.control (ownedBy .callbacks) with
  | none => rfl
  | some op =>
    have quiet := ladder.quiet (by simp [peerEnded, fin]) op (Threads.mem_of_control at').1
    cases op with
    | onDataReceived payload => cases quiet
    | onFrame data =>
      obtain ⟨before, rfl⟩ := heard.last data at'
      obtain ⟨frame, -, message⟩ :=
        Wire.exists_frame carries.each (List.mem_append_right before List.mem_cons_self)
      obtain ⟨first, inside, parsed⟩ := heard.fin fin
      show payloadOf data = []
      rw [payloadOf_message message]
      exact carries.payload_last ⟨first, inside, message_of_fin parsed⟩ message
    | _ => rfl

/-- What a stream makes of the frames, while it finds no violation. -/
theorem reads_of_run {flow : ConnFlow} {peerInitiated isOpen : Bool} {labels : List Label}
    {t : Tasks}
    (ran : Lib.run WebrtcStream.step (start flow peerInitiated isOpen) labels = some t)
    (clean : Faultless t)
    {frames : List Wire.Frame} (carries : Wire.Carries (labels.filterMap arrival) frames) :
    Wire.Reads frames t.shared.returned (.eof ∈ t.shared.reads) := by
  have heard := heard_of_run ran
  obtain ⟨read, ended⟩ := eofInv_of_run ran
  have whole := read.whole clean
  rw [arrived_of_run ran, flatMap_payloadOf carries.each] at whole
  refine ⟨?_, fun found => ?_⟩
  · rw [← whole]
    exact read.ordered.begins.trans (List.prefix_append _ _)
  · obtain ⟨fin, all⟩ := ended found
    obtain ⟨data, member, parsed⟩ := heard.fin fin
    obtain ⟨frame, inside, message⟩ := Wire.exists_frame carries.each member
    refine ⟨fin_of_message message parsed ▸ inside, ?_⟩
    rw [all, ← whole, heard.arriving read.ladder carries fin, List.append_nil]

/-- A stream as a reader: it is clean until it records, or is about to record, a violation. -/
def reader (flow : ConnFlow) (peerInitiated isOpen : Bool) : Wire.Reader where
  State := Tasks
  Label := Label
  start := start flow peerInitiated isOpen
  step := WebrtcStream.step
  deliver := .message
  arrival := arrival
  arrival_deliver _ := rfl
  returned t := t.shared.returned
  ended t := .eof ∈ t.shared.reads
  clean := Faultless
  reads _ _ ran clean _ carries := reads_of_run ran clean carries

end WebrtcStream

end Kps.Rust
