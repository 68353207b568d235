/-
**The sender of a Go stream.**

A sender conforms if the frames it hands to the channel contain at most one FIN or RESET, and no
DATA after it.

* `sender_conforms` — a stream's sender conforms in every run in which no FIN or RESET is sent while
  a `Write` stands between the checks of `sendReserved` and the `Send` of its DATA frame;
* `sender_breaks` — a run in which one is.
-/

import Kps.Go.StreamSections

namespace Kps.Go

open Kps.Lib

namespace WebrtcStream

/-- The frames handed to the channel, in order. -/
def frames (s : WebrtcStream) : List Wire.Frame :=
  s.dc.calls.filterMap fun
    | .send frame => some frame
    | .close => none

/-- After a FIN or RESET there is neither DATA nor another FIN or RESET. -/
def Conforms (frames : List Wire.Frame) : Prop :=
  frames.Pairwise fun earlier later =>
    isTerminal earlier = true → isData later = false ∧ isTerminal later = false

/-- No FIN or RESET is handed to the open channel while a checked DATA frame waits for its
`Send`. -/
def EndsAlone (t : Goroutines) : Label → Prop
  | .run thread =>
    match t.pool[thread]? with
    | some (op :: _) => op.sendsTerminal = true → t.shared.dc.readyState = .opened →
      ∀ other ∈ t.pending, other.sendsData = false
    | _ => True
  | _ => True

instance (t : Goroutines) : (label : Label) → Decidable (EndsAlone t label)
  | .run thread =>
    match top : t.pool[thread]? with
    | some (op :: _) =>
      decidable_of_iff (op.sendsTerminal = true → t.shared.dc.readyState = .opened →
          ∀ other ∈ t.pending, other.sendsData = false)
        (by simp only [EndsAlone, top])
    | some [] => .isTrue (by simp only [EndsAlone, top])
    | none => .isTrue (by simp only [EndsAlone, top])
  | .call _ => .isTrue trivial
  | .channelOpen => .isTrue trivial
  | .message _ => .isTrue trivial
  | .channelClosed => .isTrue trivial
  | .buffered _ => .isTrue trivial
  | .credit _ => .isTrue trivial
  | .teardown => .isTrue trivial
  | .destroy => .isTrue trivial

/-- The sender's invariant. Until a terminal frame is decided none is sent or about to be; then
there is one; and no checked DATA frame waits once it is sent. -/
structure SenderInv (t : Goroutines) : Prop where
  conforms : Conforms t.shared.frames
  alone : (∃ frame ∈ t.shared.frames, isTerminal frame = true) →
    ∀ op ∈ t.pending, op.sendsData = false
  once : t.shared.frames.countP isTerminal + t.pending.countP StreamSection.endsWrite ≤
    if t.shared.localTerminal = .terminalNone then 0 else 1

theorem conforms_concat {frames : List Wire.Frame} {frame : Wire.Frame} (conforms : Conforms frames)
    (allowed : (∃ earlier ∈ frames, isTerminal earlier = true) →
      isData frame = false ∧ isTerminal frame = false) : Conforms (frames ++ [frame]) := by
  unfold Conforms
  rw [List.pairwise_append]
  refine ⟨conforms, List.pairwise_singleton _ _, fun earlier member later last terminal => ?_⟩
  rw [List.mem_singleton.mp last]
  exact allowed ⟨earlier, member, terminal⟩

theorem frames_send {s s' : WebrtcStream} {frame : Wire.Frame}
    (sent : s'.dc.calls = s.dc.calls ++ [.send frame]) : s'.frames = s.frames ++ [frame] := by
  unfold frames
  rw [sent]
  simp

theorem frames_congr {s s' : WebrtcStream} (same : s'.dc.calls = s.dc.calls) :
    s'.frames = s.frames := by
  unfold frames
  rw [same]

theorem frames_trySend (s : WebrtcStream) (frame : Wire.Frame) :
    frames { s with dc := s.dc.trySend frame } = s.frames ∨
      s.dc.readyState = .opened ∧
        frames { s with dc := s.dc.trySend frame } = s.frames ++ [frame] := by
  unfold DataChannel.trySend
  cases sent : s.dc.send frame with
  | none => exact Or.inl rfl
  | some dc =>
    obtain ⟨isOpen, rfl⟩ := send_eq_some sent
    exact Or.inr ⟨isOpen, frames_send rfl⟩

theorem frames_close (s : WebrtcStream) : frames { s with dc := s.dc.close } = s.frames := by
  unfold frames DataChannel.close
  simp

/-- The counts and the memberships of the sections pending after a step. -/
theorem pending_after {t : Goroutines} {thread : Nat} {op : StreamSection}
    {rest : List StreamSection} {e : Effect WebrtcStream StreamSection} {t' : Goroutines}
    (top : t.pool[thread]? = some (op :: rest))
    (after : t' = ⟨e.shared, t.pool.set thread (e.next ++ rest) ++ e.started⟩) :
    (∀ other ∈ t'.pending, other ∈ e.next ∨ other ∈ e.started.flatten ∨ other ∈ t.pending) ∧
      ∀ p : StreamSection → Bool, t'.pending.countP p + (if p op then 1 else 0) =
        e.next.countP p + e.started.flatten.countP p + t.pending.countP p := by
  have perm := Threads.pending_advance (e := e) top
  rw [← after] at perm
  constructor
  · intro other member
    have found := perm.subset (List.mem_cons_of_mem op member)
    simpa [or_assoc] using found
  · intro p
    have counted := perm.countP_eq p
    rw [List.countP_append, List.countP_append, List.countP_cons] at counted
    exact counted

theorem countP_plain {sections : List StreamSection} (plain : Plain sections) :
    sections.countP StreamSection.endsWrite = 0 :=
  List.countP_eq_zero.mpr fun op member => by simp [(plain op member).1]

/-- What the shared state and the pending sections of the invariant are after a section that adds no
DATA section and sends nothing terminal. -/
theorem SenderInv.ofKept {t t' : Goroutines} (inv : SenderInv t)
    (conforms : Conforms t'.shared.frames)
    (terminals : t'.shared.frames.filter isTerminal = t.shared.frames.filter isTerminal)
    (data : ∀ op ∈ t'.pending, op.sendsData = true → op ∈ t.pending)
    (ends : t'.pending.countP StreamSection.endsWrite ≤ t.pending.countP StreamSection.endsWrite)
    (same : t'.shared.localTerminal = t.shared.localTerminal) : SenderInv t' := by
  refine ⟨conforms, ?_, ?_⟩
  · rintro ⟨frame, member, terminal⟩ op pending
    have earlier : frame ∈ t.shared.frames.filter isTerminal := by
      rw [← terminals]
      exact List.mem_filter.mpr ⟨member, terminal⟩
    obtain ⟨member, -⟩ := List.mem_filter.mp earlier
    by_contra sends
    have sends : op.sendsData = true := Bool.not_eq_false _ ▸ sends
    have quiet := inv.alone ⟨frame, member, terminal⟩ op (data op pending sends)
    rw [sends] at quiet
    cases quiet
  · have once := inv.once
    rw [List.countP_eq_length_filter, terminals, ← List.countP_eq_length_filter, same]
    omega

theorem SenderInv.undecided {t : Goroutines} (inv : SenderInv t)
    (undecided : t.shared.localTerminal = .terminalNone) :
    (∀ frame ∈ t.shared.frames, isTerminal frame = false) ∧
      t.shared.frames.countP isTerminal = 0 ∧ t.pending.countP StreamSection.endsWrite = 0 := by
  have once := inv.once
  rw [if_pos undecided] at once
  have none : t.shared.frames.countP isTerminal = 0 := by omega
  refine ⟨fun frame member => ?_, none, by omega⟩
  simpa using List.countP_eq_zero.mp none frame member

theorem SenderInv.run {t t' : Goroutines} (inv : SenderInv t) {thread : Nat}
    (endsAlone : EndsAlone t (.run thread)) (stepped : t.advance exec thread = some t') :
    SenderInv t' := by
  obtain ⟨op, rest, e, top, ran, after⟩ := Threads.advance_eq_some.mp stepped
  obtain ⟨members, counts⟩ := pending_after top after
  have count := counts StreamSection.endsWrite
  have pending := Threads.mem_pending top
  unfold EndsAlone at endsAlone
  simp only [top] at endsAlone
  have shared : t'.shared = e.shared := by rw [after]
  cases exec_acts ran with
  | quiet dc same next started op_ends _ =>
    have frames : t'.shared.frames = t.shared.frames := by
      rw [shared]
      exact frames_congr (congrArg DataChannel.calls dc)
    rw [countP_plain next, started, op_ends] at count
    refine inv.ofKept (by rw [frames]; exact inv.conforms) (by rw [frames])
      (fun other member sends => ?_) (by simpa using le_of_eq count) (by rw [shared]; exact same)
    rcases members other member with new | new | old
    · rw [(next other new).2.1] at sends
      cases sends
    · rw [started] at new
      cases new
    · exact old
  | @admits chunk rest written undecided =>
    obtain ⟨noTerminal, none, noEnding⟩ := inv.undecided undecided
    refine ⟨by rw [shared]; exact inv.conforms, ?_, ?_⟩
    · rintro ⟨frame, member, terminal⟩
      rw [shared] at member
      rw [noTerminal frame member] at terminal
      cases terminal
    · rw [shared, none]
      show 0 + _ ≤ if t.shared.localTerminal = .terminalNone then 0 else 1
      rw [if_pos undecided]
      have count : t'.pending.countP StreamSection.endsWrite + 0 =
        0 + 0 + t.pending.countP StreamSection.endsWrite := count
      omega
  | decides undecided dc decided next started op_ends op_data _ =>
    obtain ⟨failure, ending, others, next, ends, data, -, plain⟩ := next
    obtain ⟨noTerminal, none, noEnding⟩ := inv.undecided undecided
    have frames : t'.shared.frames = t.shared.frames := by
      rw [shared]
      exact frames_congr (congrArg DataChannel.calls dc)
    refine ⟨by rw [frames]; exact inv.conforms, ?_, ?_⟩
    · rintro ⟨frame, member, terminal⟩
      rw [frames] at member
      rw [noTerminal frame member] at terminal
      cases terminal
    · rw [frames, none, shared, if_neg decided]
      have one : e.next.countP StreamSection.endsWrite = 1 := by
        rw [next, List.countP_append, countP_plain plain, List.countP_cons, List.countP_singleton,
          ends]
        rfl
      rw [one, started, op_ends, noEnding] at count
      simp at count
      omega
  | ready isOpen =>
    refine inv.ofKept (by rw [shared]; exact inv.conforms) (by rw [shared])
      (fun other member sends => ?_) ?_ (by rw [shared])
    · rcases members other member with new | new | old
      · simp only [List.mem_cons, List.not_mem_nil, or_false] at new
        rcases new with rfl | rfl <;> cases sends
      · cases new
      · exact old
    · simp [List.countP_cons, StreamSection.endsWrite] at count
      omega
  | givesUp openCh notOpen =>
    refine inv.ofKept (by rw [shared]; exact inv.conforms) (by rw [shared])
      (fun other member sends => ?_) ?_ (by rw [shared])
    · rcases members other member with new | new | old
      · cases new
      · cases new
      · exact old
    · simp [StreamSection.endsWrite] at count
      omega
  | @ends _ frame terminal op_ends op_sends op_data _ =>
    simp only [op_ends, List.countP_nil, List.flatten_nil] at count
    have kept : ∀ op' ∈ t'.pending, op' ∈ t.pending := fun op' member => by
      rcases members op' member with new | new | old
      · cases new
      · cases new
      · exact old
    have decided : t'.shared.localTerminal = t.shared.localTerminal := by rw [shared]
    rcases frames_trySend t.shared frame with same | ⟨isOpen, sent⟩
    · refine inv.ofKept (by rw [shared, same]; exact inv.conforms) (by rw [shared, same])
        (fun op' member _ => kept op' member) ?_ decided
      simp at count
      omega
    · -- this frame is the first that ends the write half
      have once := inv.once
      have one : 0 < t.pending.countP StreamSection.endsWrite :=
        List.countP_pos_iff.mpr ⟨op, pending, op_ends⟩
      have none : t.shared.frames.countP isTerminal = 0 := by
        split at once <;> omega
      have noTerminal : ¬ ∃ earlier ∈ t.shared.frames, isTerminal earlier = true := by
        rintro ⟨earlier, member, ended⟩
        exact List.countP_eq_zero.mp none earlier member ended
      refine ⟨?_, fun _ other member => endsAlone op_sends isOpen other (kept other member), ?_⟩
      · rw [shared, sent]
        exact conforms_concat inv.conforms fun ended => absurd ended noTerminal
      · rw [decided, shared, sent, List.countP_append, List.countP_singleton, if_pos terminal]
        simp at count
        omega
  | @sendsData chunk rest written _ isOpen dc same next started =>
    have noTerminal : ¬ ∃ earlier ∈ t.shared.frames, isTerminal earlier = true := fun ended => by
      have quiet := inv.alone ended _ pending
      cases quiet
    have frames : t'.shared.frames = t.shared.frames ++ [.data chunk] := by
      rw [shared]
      exact frames_send (congrArg DataChannel.calls dc)
    rw [countP_plain next, started] at count
    refine inv.ofKept ?_ ?_ (fun other member sends => ?_) ?_ (by rw [shared]; exact same)
    · rw [frames]
      exact conforms_concat inv.conforms fun ended => absurd ended noTerminal
    · rw [frames, List.filter_append]
      simp [isTerminal]
    · rcases members other member with new | new | old
      · rw [(next other new).2.1] at sends
        cases sends
      · rw [started] at new
        cases new
      · exact old
    · simp [StreamSection.endsWrite] at count
      omega
  | @sends _ frame other notData op_ends op_data _ =>
    have kept : ∀ op' ∈ t'.pending, op'.sendsData = true → op' ∈ t.pending := fun op' member _ => by
      rcases members op' member with new | new | old
      · cases new
      · cases new
      · exact old
    simp only [op_ends, List.countP_nil, List.flatten_nil] at count
    rcases frames_trySend t.shared frame with same | ⟨-, sent⟩
    · refine inv.ofKept (by rw [shared, same]; exact inv.conforms) (by rw [shared, same]) kept ?_
        (by rw [shared])
      simp at count
      omega
    · refine inv.ofKept ?_ ?_ kept ?_ (by rw [shared])
      · rw [shared, sent]
        exact conforms_concat inv.conforms fun _ => ⟨notData, other⟩
      · rw [shared, sent, List.filter_append]
        simp [other]
      · simp at count
        omega
  | retires complete drained notClosed =>
    refine inv.ofKept (by rw [shared]; exact inv.conforms) (by rw [shared])
      (fun other member sends => ?_) ?_ (by rw [shared])
    · rcases members other member with new | new | old
      · cases new
      · simp only [List.flatten_cons, List.flatten_nil, List.append_nil, List.mem_singleton] at new
        subst new
        cases sends
      · exact old
    · simp [StreamSection.endsWrite] at count
      omega
  | closes =>
    have frames : t'.shared.frames = t.shared.frames := by
      rw [shared]
      exact frames_close t.shared
    refine inv.ofKept (by rw [frames]; exact inv.conforms) (by rw [frames])
      (fun other member sends => ?_) ?_ (by rw [shared])
    · rcases members other member with new | new | old
      · cases new
      · cases new
      · exact old
    · simp [StreamSection.endsWrite] at count
      omega

/-- A step of the application, the transport or the connection: the calls and the terminal stay, and
plain sections are added. -/
theorem SenderInv.ofPlain {t t' : Goroutines} (inv : SenderInv t) {added : List StreamSection}
    (calls : t'.shared.dc.calls = t.shared.dc.calls)
    (same : t'.shared.localTerminal = t.shared.localTerminal)
    (pending : t'.pending.Perm (added ++ t.pending)) (plain : Plain added) : SenderInv t' := by
  have frames : t'.shared.frames = t.shared.frames := frames_congr calls
  refine inv.ofKept (by rw [frames]; exact inv.conforms) (by rw [frames])
    (fun op member sends => ?_)
    ?_ same
  · rcases List.mem_append.mp (pending.subset member) with new | old
    · rw [(plain op new).2.1] at sends
      cases sends
    · exact old
  · rw [pending.countP_eq, List.countP_append, countP_plain plain]
    omega

theorem Method.sections_plain (method : Method) : Plain method.sections := by
  cases method with
  | close => exact .cons rfl rfl rfl (plain_single rfl rfl rfl)
  | closeWithError code => exact .cons rfl rfl rfl (plain_single rfl rfl rfl)
  | _ => exact plain_single rfl rfl rfl

theorem pending_start_perm (stack : List StreamSection) (t : Goroutines) :
    (t.start stack).pending.Perm (stack ++ t.pending) := by
  rw [Threads.pending_start]
  exact List.perm_append_comm

/-- **One step keeps the sender's invariant.** -/
theorem SenderInv.step {t t' : Goroutines} (inv : SenderInv t) {label : Label}
    (endsAlone : EndsAlone t label) (stepped : WebrtcStream.step t label = some t') :
    SenderInv t' := by
  cases label with
  | run thread => exact inv.run endsAlone stepped
  | call method =>
    cases stepped
    exact inv.ofPlain rfl rfl (pending_start_perm _ _) method.sections_plain
  | channelOpen =>
    simp only [WebrtcStream.step] at stepped
    split at stepped <;> cases stepped
    exact inv.ofPlain rfl rfl (pending_start_perm _ (touch t _)) (plain_single rfl rfl rfl)
  | message data =>
    simp only [WebrtcStream.step] at stepped
    split at stepped
    · obtain ⟨pending, shared⟩ := Threads.pending_resume stepped
      exact inv.ofPlain (by rw [shared]) (by rw [shared]) pending (plain_single rfl rfl rfl)
    · cases stepped
  | channelClosed =>
    simp only [WebrtcStream.step] at stepped
    split at stepped <;> cases stepped
    exact inv.ofPlain rfl rfl (pending_start_perm _ (touch t _)) (plain_single rfl rfl rfl)
  | buffered amount =>
    cases stepped
    exact inv.ofPlain rfl rfl (List.Perm.refl _) plain_nil
  | credit flow =>
    cases stepped
    exact inv.ofPlain rfl rfl (List.Perm.refl _) plain_nil
  | teardown =>
    cases stepped
    exact inv.ofPlain rfl rfl (List.Perm.refl _) plain_nil
  | destroy =>
    simp only [WebrtcStream.step] at stepped
    split at stepped <;> cases stepped
    exact inv.ofPlain rfl rfl (pending_start_perm _ _) (plain_single rfl rfl rfl)

theorem senderInv_start (limits : FlowWindows) (isOpen : Bool) :
    SenderInv (start limits isOpen) where
  conforms := List.Pairwise.nil
  alone := fun ⟨_, member, _⟩ => absurd member List.not_mem_nil
  once := le_refl _

/-- **The sender conforms** in every run in which no FIN or RESET is sent while a checked DATA frame
waits for its `Send`. -/
theorem sender_conforms {limits : FlowWindows} {isOpen : Bool} {labels : List Label}
    {t : Goroutines} (meets : Meets WebrtcStream.step EndsAlone (start limits isOpen) labels)
    (ran : Lib.run WebrtcStream.step (start limits isOpen) labels = some t) :
    Conforms t.shared.frames :=
  (run_invariant_of_meets (fun _ _ _ condition inv stepped => SenderInv.step inv condition stepped)
    meets (senderInv_start limits isOpen) ran).conforms

/-- A `Write` and a `CloseWrite`, one after the other. -/
def writeThenClose : List Label :=
  [.credit (ConnFlow.onPeerHello ⟨8, 8, 8⟩ (.new defaultFlowLimits)), .call (.write [1]), .run 1,
    .run 1, .run 1, .run 1, .run 1, .run 1, .call .closeWrite, .run 2, .run 2, .run 2, .run 2]

theorem sender_conforms_writeThenClose : ∃ t,
    Lib.run WebrtcStream.step (start defaultFlowLimits true) writeThenClose = some t ∧
      Conforms t.shared.frames := by
  obtain ⟨t, ran⟩ := Option.isSome_iff_exists.mp
    (show (Lib.run WebrtcStream.step (start defaultFlowLimits true) writeThenClose).isSome = true by
      decide +kernel)
  exact ⟨t, ran, sender_conforms (by decide +kernel) ran⟩

/-- A `Write` passes the checks of `sendReserved`, a `CloseWrite` sends its FIN, and the `Write`
sends its DATA frame. -/
def writeRace : List Label :=
  [.credit (ConnFlow.onPeerHello ⟨8, 8, 8⟩ (.new defaultFlowLimits)), .call (.write [1]), .run 1,
    .run 1, .run 1, .call .closeWrite, .run 2, .run 2, .run 2, .run 2, .run 1]

theorem sender_breaks :
    (Lib.run WebrtcStream.step (start defaultFlowLimits true) writeRace).map
        (fun t => t.shared.frames) = some [.fin, .data [1]] ∧ ¬ Conforms [.fin, .data [1]] := by
  refine ⟨by decide +kernel, fun conforms => ?_⟩
  have alone := List.pairwise_cons.mp conforms
  have quiet := (alone.1 _ (List.mem_singleton.mpr rfl) rfl).1
  cases quiet

end WebrtcStream

end Kps.Go
