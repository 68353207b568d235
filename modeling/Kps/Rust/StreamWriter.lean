/-
**The writer of a Rust stream.**

`outbound` reads the outbound half off the tasks of a stream: the queues, the program counters of
the writer and the application, and the RESETs about to be queued.

* `exec_outbound`, `step_outbound` — a step of the tasks is a step of the outbound half, or none;
* `writer_conforms` — so the frames handed to the transport conform, and carry the accepted bytes.
-/

import Kps.Rust.Outbound
import Kps.Rust.StreamFrame

namespace Kps.Rust

open Kps.Lib

/-- Where the writer stands, by its program counter. -/
def WriterPc.of : Option StreamSection → WriterPc
  | some .writerOpen => .idle
  | some .selectLife => .idle
  | some .selectData => .idle
  | some (.writerLife frame) => .life frame
  | some (.writerData frame _) => .fresh frame
  | some (.writerRoom frame _) => .past frame
  | some (.writerBuffered frame _) => .past frame
  | some (.writerSend frame _) => .past frame
  | _ => .gone

namespace StreamSection

/-- The application decided a FIN that is not queued yet. -/
def owesFin : Option StreamSection → Bool
  | some .reserveFin => true
  | some .undoFin => true
  | some .sendFin => true
  | _ => false

/-- A write passed its checks. -/
def admitted : Option StreamSection → Bool
  | some (.reserveCredit _) => true
  | some (.queueData _) => true
  | _ => false

/-- A RESET is about to be queued. -/
def queuesReset : StreamSection → Bool
  | .lifeSend (.reset _) => true
  | _ => false

end StreamSection

namespace WebrtcStream

/-- The frames handed to the transport, in order. -/
def frames (s : WebrtcStream) : List ParsedFrame :=
  s.dc.calls.filterMap fun
    | .send frame => some frame
    | .close => none

/-- The bytes `poll_write` accepted, in order. -/
def acceptedBytes (s : WebrtcStream) : Bytes :=
  s.writes.flatMap fun
    | .accepted buf n => buf.take n
    | _ => []

/-- The outbound half of a state, with the program counters of the two tasks and the number of
RESETs about to be queued. -/
def view (s : WebrtcStream) (writer application : Option StreamSection) (resetting : Nat) :
    Outbound where
  sent := s.frames
  life := s.life
  data := s.data.map Prod.fst
  pc := .of writer
  terminal := s.localTerminal
  dropping := s.dropData
  accepted := s.acceptedBytes
  ending := StreamSection.owesFin application
  resetting
  accepting := StreamSection.admitted application
  stopped := s.writerGone

def outbound (t : Tasks) : Outbound :=
  view t.shared (t.control (ownedBy .writer)) (t.control (ownedBy .application))
    (t.pending.countP StreamSection.queuesReset)

/-- The outbound half after a section. -/
def viewAfter (op : StreamSection) (e : Effect WebrtcStream StreamSection)
    (writer application : Option StreamSection) (resetting : Nat) : Outbound :=
  view e.shared (if ownedBy .writer op then e.next.find? (ownedBy .writer) else writer)
    (if ownedBy .application op then e.next.find? (ownedBy .application) else application)
    (resetting + e.next.countP StreamSection.queuesReset - if op.queuesReset then 1 else 0)

/-- A section runs with these program counters and RESETs about to be queued. -/
structure Stands (s : WebrtcStream) (op : StreamSection) (writer application : Option StreamSection)
    (resetting : Nat) : Prop where
  atWriter : ownedBy .writer op = true → writer = some op
  atApplication : ownedBy .application op = true → application = some op
  owed : op.queuesReset = true → 0 < resetting

/-- A step of the outbound half, or none. -/
def Moves (o o' : Outbound) : Prop := o' = o ∨ Outbound.Step o o'

variable {s : WebrtcStream} {op : StreamSection} {e : Effect WebrtcStream StreamSection}
  {writer application : Option StreamSection} {resetting : Nat}

theorem view_congr {s' : WebrtcStream} {writer' application' : Option StreamSection}
    {resetting' : Nat} (calls : s'.dc.calls = s.dc.calls) (life : s'.life = s.life)
    (data : s'.data = s.data) (terminal : s'.localTerminal = s.localTerminal)
    (dropping : s'.dropData = s.dropData) (accepted : s'.acceptedBytes = s.acceptedBytes)
    (stopped : s'.writerGone = s.writerGone) (pc : WriterPc.of writer' = WriterPc.of writer)
    (ending : StreamSection.owesFin application' = StreamSection.owesFin application)
    (accepting : StreamSection.admitted application' = StreamSection.admitted application)
    (owed : resetting' = resetting) :
    view s' writer' application' resetting' = view s writer application resetting := by
  unfold view frames
  rw [calls, life, data, terminal, dropping, accepted, stopped, pc, ending, accepting, owed]

/-- A section that neither the writer nor the application owns, and that leaves the outbound
half. -/
theorem Moves.quiet {s' : WebrtcStream} {next : List StreamSection} (ran : andThen next s' = some e)
    (free : op.task = none ∨ op.task = some .callbacks) (silent : op.queuesReset = false)
    (next_silent : next.countP StreamSection.queuesReset = 0) (calls : s'.dc.calls = s.dc.calls)
    (life : s'.life = s.life) (data : s'.data = s.data)
    (terminal : s'.localTerminal = s.localTerminal)
    (dropping : s'.dropData = s.dropData) (writes : s'.writes = s.writes)
    (stopped : s'.writerGone = s.writerGone) :
    Moves (view s writer application resetting) (viewAfter op e writer application resetting) := by
  cases ran
  have notWriter : ownedBy .writer op = false := by
    rcases free with free | free <;> simp [ownedBy, free]
  have notApplication : ownedBy .application op = false := by
    rcases free with free | free <;> simp [ownedBy, free]
  have accepted : s'.acceptedBytes = s.acceptedBytes := by
    unfold acceptedBytes
    rw [writes]
  refine Or.inl ?_
  unfold viewAfter
  rw [notWriter, notApplication, silent, next_silent]
  exact view_congr calls life data terminal dropping accepted stopped rfl rfl rfl rfl

theorem silent_discarded (n : Nat) : (discarded n).countP StreamSection.queuesReset = 0 := by
  unfold discarded
  split <;> rfl

/-- What the application's section returns leaves no decision behind. -/
theorem Moves.returns {s' : WebrtcStream} {next : List StreamSection}
    (ran : andThen next s' = some e)
    (owned : op.task = some .application) (stands : Stands s op writer application resetting)
    (unowned : Unowned next) (next_silent : next.countP StreamSection.queuesReset = 0)
    (silent : op.queuesReset = false) (ending : StreamSection.owesFin (some op) = false)
    (accepting : StreamSection.admitted (some op) = false) (calls : s'.dc.calls = s.dc.calls)
    (life : s'.life = s.life) (data : s'.data = s.data)
    (terminal : s'.localTerminal = s.localTerminal)
    (dropping : s'.dropData = s.dropData) (stopped : s'.writerGone = s.writerGone)
    (accepted : s'.acceptedBytes = s.acceptedBytes) :
    Moves (view s writer application resetting) (viewAfter op e writer application resetting) := by
  cases ran
  have isApplication : ownedBy .application op = true := by simp [ownedBy, owned]
  have notWriter : ownedBy .writer op = false := by simp [ownedBy, owned]
  have at' := stands.atApplication isApplication
  subst at'
  refine Or.inl ?_
  unfold viewAfter
  rw [notWriter, isApplication, silent, next_silent]
  exact view_congr calls life data terminal dropping accepted stopped rfl
    (by rw [if_pos rfl, unowned_find? unowned, ending]; rfl)
    (by rw [if_pos rfl, unowned_find? unowned, accepting]; rfl) rfl

/-- The outbound half after a section of the writer. -/
theorem viewAfter_writer {s' : WebrtcStream} {quiet : List StreamSection} {last : StreamSection}
    (ran : andThen (quiet ++ [last]) s' = some e) (owned : op.task = some .writer)
    (last_owned : last.task = some .writer) (unowned : Unowned quiet)
    (silent : quiet.countP StreamSection.queuesReset = 0) :
    viewAfter op e writer application resetting = view s' (some last) application resetting := by
  cases ran
  have isWriter : ownedBy .writer op = true := by simp [ownedBy, owned]
  have isLast : ownedBy .writer last = true := by simp [ownedBy, last_owned]
  have notApplication : ownedBy .application op = false := by simp [ownedBy, owned]
  have op_silent : op.queuesReset = false := by cases op <;> first | rfl | cases owned
  have last_silent : last.queuesReset = false := by cases last <;> first | rfl | cases last_owned
  unfold viewAfter
  rw [isWriter, notApplication, op_silent, if_pos rfl, List.find?_append, unowned_find? unowned,
    List.countP_append, silent]
  simp [isLast, last_silent]

theorem viewAfter_writer_only {s' : WebrtcStream} {last : StreamSection}
    (ran : andThen [last] s' = some e) (owned : op.task = some .writer)
    (last_owned : last.task = some .writer) :
    viewAfter op e writer application resetting = view s' (some last) application resetting :=
  viewAfter_writer
    (show andThen ([] ++ [last]) s' = some e from ran) owned last_owned unowned_nil rfl

/-- The outbound half after a section of the application. -/
theorem viewAfter_application {s' : WebrtcStream} {next : List StreamSection}
    (ran : andThen next s' = some e) (owned : op.task = some .application)
    (silent : next.countP StreamSection.queuesReset = 0) :
    viewAfter op e writer application resetting =
      view s' writer (next.find? (ownedBy .application)) resetting := by
  cases ran
  have isApplication : ownedBy .application op = true := by simp [ownedBy, owned]
  have notWriter : ownedBy .writer op = false := by simp [ownedBy, owned]
  have op_silent : op.queuesReset = false := by cases op <;> first | rfl | cases owned
  unfold viewAfter
  rw [isApplication, notWriter, op_silent, silent]
  rfl

theorem silent_settleReserved {settle : UInt64 → StreamSection}
    (other : ∀ n, (settle n).queuesReset = false) (n : UInt64) :
    (settleReserved settle n).countP StreamSection.queuesReset = 0 := by
  unfold settleReserved
  split
  · simp [other]
  · rfl

theorem silent_marks (frame : ParsedFrame) :
    (if isTerminal frame then [StreamSection.markTerminalSent] else []).countP
      StreamSection.queuesReset = 0 := by
  split <;> rfl

theorem frames_send {s' : WebrtcStream} {frame : ParsedFrame}
    (sent : s'.dc.calls = s.dc.calls ++ [.send frame]) : s'.frames = s.frames ++ [frame] := by
  unfold frames
  rw [sent]
  simp

theorem frames_congr {s' : WebrtcStream} (same : s'.dc.calls = s.dc.calls) :
    s'.frames = s.frames := by
  unfold frames
  rw [same]

theorem acceptedBytes_returnWrite (s : WebrtcStream) (result : WriteResult) :
    (s.returnWrite result).acceptedBytes = s.acceptedBytes ++
      match result with
      | .accepted buf n => buf.take n
      | _ => [] := by
  unfold acceptedBytes returnWrite
  simp only [List.flatMap_append, List.flatMap_cons, List.flatMap_nil, List.append_nil]

/-- A permit's reservation only moves the sender. -/
theorem view_pollPermit (s : WebrtcStream) : view s.pollPermit writer application resetting =
    view s writer application resetting := by
  unfold pollPermit
  split
  · split
    · rfl
    split <;> rfl
  · split
    · rfl
    split <;> rfl
  · rfl
  · rfl

theorem onFrame_moves {data : Bytes} (ran : s.onFrame data = some e) :
    Moves (view s writer application resetting)
      (viewAfter (.onFrame data) e writer application resetting) := by
  have free : (StreamSection.onFrame data).task = none ∨
      (StreamSection.onFrame data).task = some .callbacks := Or.inr rfl
  unfold onFrame at ran
  split at ran
  · exact .quiet ran free rfl rfl rfl rfl rfl rfl rfl rfl rfl
  · split at ran <;> exact .quiet ran free rfl rfl rfl rfl rfl rfl rfl rfl rfl
  · split at ran <;> exact .quiet ran free rfl rfl rfl rfl rfl rfl rfl rfl rfl
  · split at ran
    · exact .quiet ran free rfl rfl rfl rfl rfl rfl rfl rfl rfl
    · refine .quiet ran free rfl ?_ rfl rfl rfl rfl rfl rfl rfl
      rw [List.countP_append, silent_discarded]
      rfl
  · split at ran
    · exact .quiet ran free rfl rfl rfl rfl rfl rfl rfl rfl rfl
    · dsimp only at ran
      split at ran
      · next undecided =>
        cases ran
        exact Or.inr (.reset (Option.isNone_iff_eq_none.mp undecided))
      · exact .quiet ran free rfl rfl rfl rfl rfl rfl rfl rfl rfl
  · exact .quiet ran free rfl rfl rfl rfl rfl rfl rfl rfl rfl

theorem lifeSend_moves {frame : LifeFrame} (ran : s.exec (.lifeSend frame) = some e)
    (stands : Stands s (.lifeSend frame) writer application resetting) :
    Moves (view s writer application resetting)
      (viewAfter (.lifeSend frame) e writer application resetting) := by
  simp only [exec] at ran
  cases frame with
  | reset code =>
    obtain ⟨n, rfl⟩ := Nat.exists_eq_succ_of_ne_zero (Nat.ne_of_gt (stands.owed rfl))
    split at ran <;> cases ran
    · exact Or.inr (.loseReset n rfl)
    · exact Or.inr (.queueReset code n rfl)
  | stopSending code =>
    split at ran <;> cases ran
    · exact Or.inl rfl
    · exact Or.inr (.queueLife (.stopSending code) rfl)
  | maxStreamData v =>
    split at ran <;> cases ran
    · exact Or.inl rfl
    · exact Or.inr (.queueLife (.maxStreamData v) rfl)

/-- The writer stops. -/
theorem Moves.stops {quiet : List StreamSection} (ran : andThen (quiet ++ [.writerEnd]) s = some e)
    (owned : op.task = some .writer) (unowned : Unowned quiet)
    (silent : quiet.countP StreamSection.queuesReset = 0) :
    Moves (view s writer application resetting) (viewAfter op e writer application resetting) := by
  rw [viewAfter_writer ran owned rfl unowned silent]
  exact Or.inr .stop

theorem Moves.stops_only (ran : andThen [.writerEnd] s = some e) (owned : op.task = some .writer) :
    Moves (view s writer application resetting) (viewAfter op e writer application resetting) :=
  .stops (show andThen ([] ++ [.writerEnd]) s = some e from ran) owned unowned_nil rfl

theorem selectData_moves (ran : s.selectData = some e)
    (stands : Stands s .selectData writer application resetting) :
    Moves (view s writer application resetting)
      (viewAfter .selectData e writer application resetting) := by
  cases stands.atWriter rfl
  unfold selectData at ran
  split at ran
  · next frame reserved rest next =>
    rw [viewAfter_writer_only ran rfl rfl]
    have waiting : s.data.map Prod.fst = frame :: rest.map Prod.fst := by rw [next]; rfl
    have step : Outbound.Step (view s (some .selectData) application resetting)
        (view { s with data := rest } (some (.writerData frame reserved)) application resetting) :=
      .takeData frame (rest.map Prod.fst) rfl waiting
    have same : ∀ s : WebrtcStream,
      view s.freePermit (some (.writerData frame reserved)) application
        resetting = view s (some (.writerData frame reserved)) application resetting := by
      intro s
      unfold freePermit
      split <;> rfl
    rw [same]
    exact Or.inr step
  · split at ran
    · exact .stops_only ran rfl
    split at ran
    · rw [viewAfter_writer_only ran rfl rfl]
      exact Or.inl rfl
    · cases ran

theorem writerLife_moves {frame : LifeFrame} (ran : s.exec (.writerLife frame) = some e)
    (stands : Stands s (.writerLife frame) writer application resetting) :
    Moves (view s writer application resetting)
      (viewAfter (.writerLife frame) e writer application resetting) := by
  cases stands.atWriter rfl
  simp only [exec] at ran
  split at ran
  · next dc sent =>
    rw [viewAfter_writer ran rfl rfl (unowned_marks _) (silent_marks _)]
    obtain ⟨-, rfl⟩ := send_eq_some sent
    refine Or.inr ?_
    have handed : frames { s with dc := { s.dc with calls := s.dc.calls ++ [.send frame.frame] } } =
        s.frames ++ [frame.frame] := frames_send rfl
    unfold view
    rw [handed]
    exact Outbound.Step.sendLife frame rfl
  · exact .stops_only ran rfl

theorem writerData_moves {frame : ParsedFrame} {reserved : UInt64}
    (ran : s.exec (.writerData frame reserved) = some e)
    (stands : Stands s (.writerData frame reserved) writer application resetting) :
    Moves (view s writer application resetting)
      (viewAfter (.writerData frame reserved) e writer application resetting) := by
  cases stands.atWriter rfl
  simp only [exec] at ran
  split at ran
  · next dropping =>
    obtain ⟨dropping, isData⟩ := Bool.and_eq_true_iff.mp dropping
    rw [viewAfter_writer ran rfl rfl (unowned_settleReserved (fun _ => rfl) _)
      (silent_settleReserved (fun _ => rfl) _)]
    exact Or.inr (.discard frame rfl dropping isData)
  · next kept =>
    rw [viewAfter_writer_only ran rfl rfl]
    exact Or.inr (.pass frame rfl (Bool.not_eq_true _ ▸ kept))

theorem writerSend_moves {frame : ParsedFrame} {reserved : UInt64}
    (ran : s.writerSend frame reserved = some e)
    (stands : Stands s (.writerSend frame reserved) writer application resetting) :
    Moves (view s writer application resetting)
      (viewAfter (.writerSend frame reserved) e writer application resetting) := by
  cases stands.atWriter rfl
  unfold writerSend at ran
  split at ran
  · next dc sent =>
    rw [viewAfter_writer ran rfl rfl
      ((unowned_settleReserved (fun _ => rfl) _).append (unowned_marks _))
      (by rw [List.countP_append, silent_settleReserved (fun _ => rfl), silent_marks])]
    obtain ⟨-, rfl⟩ := send_eq_some sent
    refine Or.inr ?_
    have handed : frames { s with dc := { s.dc with calls := s.dc.calls ++ [.send frame] } } =
        s.frames ++ [frame] := frames_send rfl
    unfold view
    rw [handed]
    exact Outbound.Step.sendData frame rfl
  · exact .stops ran rfl (unowned_settleReserved (fun _ => rfl) _)
      (silent_settleReserved (fun _ => rfl) _)

theorem pollWrite_moves {buf : Bytes} (ran : s.pollWrite buf = some e)
    (stands : Stands s (.pollWrite buf) writer application resetting) :
    Moves (view s writer application resetting)
      (viewAfter (.pollWrite buf) e writer application resetting) := by
  have refused (result : WriteResult) (other : ∀ buf n, result ≠ .accepted buf n) :
      (s.returnWrite result).acceptedBytes = s.acceptedBytes := by
    rw [acceptedBytes_returnWrite]
    cases result with
    | accepted buf n => exact absurd rfl (other buf n)
    | _ => exact List.append_nil _
  unfold pollWrite at ran
  split at ran
  · exact .returns ran rfl stands unowned_nil rfl rfl rfl rfl rfl rfl rfl rfl rfl rfl
      (refused _ (by simp))
  split at ran
  · exact .returns ran rfl stands unowned_nil rfl rfl rfl rfl rfl rfl rfl rfl rfl rfl
      (refused _ (by simp))
  next decided =>
  have undecided : s.localTerminal = none := by simpa using decided
  split at ran
  · exact .returns ran rfl stands unowned_nil rfl rfl rfl rfl rfl rfl rfl rfl rfl rfl
      (refused _ (by simp))
  cases stands.atApplication rfl
  split at ran
  · rw [viewAfter_application ran rfl rfl]
    exact Or.inr (.admits undecided)
  · rw [viewAfter_application ran rfl rfl]
    exact Or.inr (.admits undecided)

/-- A write that passed its checks does not accept any bytes. -/
theorem Moves.refuses {s' : WebrtcStream} (same : view s' writer application resetting =
    view s writer application resetting) (result : WriteResult)
    (other : ∀ buf n, result ≠ .accepted buf n)
    (ending : StreamSection.owesFin application = false) :
    Moves (view s writer application resetting)
      (view (s'.returnWrite result) writer none resetting) := by
  have accepted : (s'.returnWrite result).acceptedBytes = s'.acceptedBytes := by
    rw [acceptedBytes_returnWrite]
    cases result with
    | accepted buf n => exact absurd rfl (other buf n)
    | _ => exact List.append_nil _
  have after : view (s'.returnWrite result) writer none resetting =
      { view s' writer application resetting with accepting := false } := by
    unfold view
    rw [accepted, ending]
    rfl
  rw [after, same]
  exact Or.inr .refuse

theorem reserveCredit_moves {buf : Bytes} (ran : s.reserveCredit buf = some e)
    (stands : Stands s (.reserveCredit buf) writer application resetting) :
    Moves (view s writer application resetting)
      (viewAfter (.reserveCredit buf) e writer application resetting) := by
  cases stands.atApplication rfl
  unfold reserveCredit at ran
  split at ran
  · rw [viewAfter_application ran rfl rfl]
    exact .refuses rfl _ (by simp) rfl
  · rw [viewAfter_application ran rfl rfl]
    exact .refuses rfl _ (by simp) rfl
  · rw [viewAfter_application ran rfl rfl]
    exact Or.inl rfl

theorem queueData_moves {buf : Bytes} (ran : s.queueData buf = some e)
    (stands : Stands s (.queueData buf) writer application resetting) :
    Moves (view s writer application resetting)
      (viewAfter (.queueData buf) e writer application resetting) := by
  cases stands.atApplication rfl
  unfold queueData at ran
  have same : view s.pollPermit writer (some (.queueData buf)) resetting =
    view s writer (some (.queueData buf)) resetting := view_pollPermit s
  rw [← same]
  dsimp only at ran
  generalize s.pollPermit = s' at ran same ⊢
  split at ran
  · rw [viewAfter_application ran rfl rfl]
    exact Or.inr .refuse
  · split at ran
    · rw [viewAfter_application ran rfl rfl]
      unfold returnWrite sendItem view acceptedBytes
      simp only [List.flatMap_append, List.flatMap_cons, List.flatMap_nil, List.append_nil]
      refine Or.inr ?_
      cases alive : s'.writerGone with
      | true => exact .acceptLost _ rfl rfl
      | false =>
        simp only [Bool.false_eq_true, if_false, List.map_append, List.map_cons, List.map_nil]
        exact .accept _ rfl
    · rw [viewAfter_application ran rfl rfl]
      exact .refuses rfl _ (by simp) rfl
  · rw [viewAfter_application ran rfl rfl]
    exact .refuses rfl _ (by simp) rfl

theorem reserveFin_moves (ran : s.reserveFin = some e)
    (stands : Stands s .reserveFin writer application resetting) :
    Moves (view s writer application resetting)
      (viewAfter .reserveFin e writer application resetting) := by
  cases stands.atApplication rfl
  unfold reserveFin at ran
  have same : view s.pollPermit writer (some .reserveFin) resetting =
    view s writer (some .reserveFin) resetting := view_pollPermit s
  rw [← same]
  dsimp only at ran
  generalize s.pollPermit = s' at ran same ⊢
  split at ran
  · rw [viewAfter_application ran rfl rfl]
    exact Or.inr .abandon
  · rw [viewAfter_application ran rfl rfl]
    unfold returnFinish sendItem view
    cases gone : s'.writerGone with
    | true => exact Or.inr .abandon
    | false =>
      simp only [Bool.false_eq_true, if_false, List.map_append, List.map_cons, List.map_nil]
      exact Or.inr (.queueFin rfl)
  · rw [viewAfter_application ran rfl rfl]
    exact Or.inl rfl

theorem pollRead_moves {size : Nat} (ran : s.pollRead size = some e) :
    Moves (view s writer application resetting)
      (viewAfter (.pollRead size) e writer application resetting) := by
  have free : (StreamSection.pollRead size).task = none ∨
      (StreamSection.pollRead size).task = some .callbacks := Or.inl rfl
  unfold pollRead at ran
  split at ran
  · exact .quiet ran free rfl rfl rfl rfl rfl rfl rfl rfl rfl
  split at ran
  · exact .quiet ran free rfl rfl rfl rfl rfl rfl rfl rfl rfl
  split at ran
  · exact .quiet ran free rfl rfl rfl rfl rfl rfl rfl rfl rfl
  split at ran
  · exact .quiet ran free rfl rfl rfl rfl rfl rfl rfl rfl rfl
  split at ran <;> exact .quiet ran free rfl rfl rfl rfl rfl rfl rfl rfl rfl

theorem maybeRetire_moves (ran : s.maybeRetire = some e) :
    Moves (view s writer application resetting)
      (viewAfter .maybeRetire e writer application resetting) := by
  unfold maybeRetire at ran
  split at ran
  · split at ran
    · split at ran <;> exact .quiet ran (Or.inl rfl) rfl rfl rfl rfl rfl rfl rfl rfl rfl
    · cases ran
      exact Or.inl rfl
  · exact .quiet ran (Or.inl rfl) rfl rfl rfl rfl rfl rfl rfl rfl rfl

/-- **A section is a step of the outbound half, or none.** -/
theorem exec_moves (ran : s.exec op = some e) (stands : Stands s op writer application resetting) :
    Moves (view s writer application resetting) (viewAfter op e writer application resetting) := by
  cases op with
  | onOpen => exact .quiet ran (Or.inl rfl) rfl rfl rfl rfl rfl rfl rfl rfl rfl
  | onFrame data => exact onFrame_moves ran
  | onDataReceived payload =>
    simp only [exec] at ran
    split at ran <;> exact .quiet ran (Or.inr rfl) rfl rfl rfl rfl rfl rfl rfl rfl rfl
  | pushData payload =>
    simp only [exec] at ran
    split at ran <;> exact .quiet ran (Or.inr rfl) rfl rfl rfl rfl rfl rfl rfl rfl rfl
  | onChannelClose => exact .quiet ran (Or.inr rfl) rfl rfl rfl rfl rfl rfl rfl rfl rfl
  | policeClose wireComplete =>
    simp only [exec] at ran
    split at ran <;> exact .quiet ran (Or.inl rfl) rfl rfl rfl rfl rfl rfl rfl rfl rfl
  | markClosed => exact .quiet ran (Or.inl rfl) rfl rfl rfl rfl rfl rfl rfl rfl rfl
  | fatal code text => exact .quiet ran (Or.inl rfl) rfl rfl rfl rfl rfl rfl rfl rfl rfl
  | consumed n =>
    refine .quiet ran (Or.inl rfl) rfl (List.countP_eq_zero.mpr fun op member => ?_) rfl rfl rfl rfl
      rfl rfl rfl
    obtain ⟨v, -, rfl⟩ := Option.map_eq_some_iff.mp (Option.mem_toList.mp member)
    simp [StreamSection.queuesReset]
  | lifeSend frame => exact lifeSend_moves ran stands
  | failSend => exact .quiet ran (Or.inl rfl) rfl rfl rfl rfl rfl rfl rfl rfl rfl
  | maybeRetire => exact maybeRetire_moves ran
  | dropStream => exact .quiet ran (Or.inl rfl) rfl rfl rfl rfl rfl rfl rfl rfl rfl
  | retired => exact .quiet ran (Or.inl rfl) rfl rfl rfl rfl rfl rfl rfl rfl rfl
  | dcClose =>
    cases ran
    have same : frames { s with dc := s.dc.close } = s.frames := by
      unfold frames RTCDataChannel.close
      simp
    refine Or.inl ?_
    unfold viewAfter view
    rw [same]
    rfl
  | writerOpen =>
    cases stands.atWriter rfl
    simp only [exec] at ran
    split at ran
    · rw [viewAfter_writer_only ran rfl rfl]
      exact Or.inl rfl
    split at ran
    · exact .stops_only ran rfl
    · cases ran
  | selectLife =>
    cases stands.atWriter rfl
    simp only [exec] at ran
    split at ran
    · next frame rest next =>
      rw [viewAfter_writer_only ran rfl rfl]
      exact Or.inr (.takeLife frame rest rfl next)
    · rw [viewAfter_writer_only ran rfl rfl]
      exact Or.inl rfl
  | selectData => exact selectData_moves ran stands
  | writerLife frame => exact writerLife_moves ran stands
  | writerData frame reserved => exact writerData_moves ran stands
  | writerRoom frame reserved =>
    cases stands.atWriter rfl
    simp only [exec] at ran
    split at ran
    · exact .stops ran rfl (unowned_settleReserved (fun _ => rfl) _)
        (silent_settleReserved (fun _ => rfl) _)
    · rw [viewAfter_writer_only ran rfl rfl]
      exact Or.inl rfl
  | writerBuffered frame reserved =>
    cases stands.atWriter rfl
    simp only [exec] at ran
    split at ran
    · rw [viewAfter_writer_only ran rfl rfl]
      exact Or.inl rfl
    · rw [viewAfter_writer_only ran rfl rfl]
      exact Or.inl rfl
  | writerSend frame reserved => exact writerSend_moves ran stands
  | markTerminalSent => exact .quiet ran (Or.inl rfl) rfl rfl rfl rfl rfl rfl rfl rfl rfl
  | release n => exact .quiet ran (Or.inl rfl) rfl rfl rfl rfl rfl rfl rfl rfl rfl
  | commit n => exact .quiet ran (Or.inl rfl) rfl rfl rfl rfl rfl rfl rfl rfl rfl
  | writerEnd =>
    cases stands.atWriter rfl
    cases ran
    exact Or.inr (.clear rfl)
  | pollRead size => exact pollRead_moves ran
  | pollWrite buf => exact pollWrite_moves ran stands
  | reserveCredit buf => exact reserveCredit_moves ran stands
  | queueData buf => exact queueData_moves ran stands
  | refuseData =>
    refine .returns ran rfl stands unowned_nil rfl rfl rfl rfl rfl rfl rfl rfl rfl rfl ?_
    rw [acceptedBytes_returnWrite]
    exact List.append_nil _
  | pollShutdown =>
    simp only [exec] at ran
    split at ran
    · exact .returns ran rfl stands unowned_nil rfl rfl rfl rfl rfl rfl rfl rfl rfl rfl rfl
    · next decided =>
      cases stands.atApplication rfl
      rw [viewAfter_application ran rfl rfl]
      have undecided : s.localTerminal = none := by simpa using decided
      exact Or.inr (.endWrite undecided rfl)
  | reserveFin => exact reserveFin_moves ran stands
  | undoFin =>
    cases stands.atApplication rfl
    rw [viewAfter_application ran rfl rfl]
    exact Or.inr (.undo rfl)
  | closeWrite =>
    simp only [exec] at ran
    split at ran
    · exact .returns ran rfl stands unowned_nil rfl rfl rfl rfl rfl rfl rfl rfl rfl rfl rfl
    · next decided =>
      cases stands.atApplication rfl
      rw [viewAfter_application ran rfl rfl]
      have undecided : s.localTerminal = none := by simpa using decided
      exact Or.inr (.endWrite undecided rfl)
  | sendFin =>
    cases stands.atApplication rfl
    simp only [exec] at ran
    split at ran
    · rw [viewAfter_application ran rfl rfl]
      exact Or.inr .abandon
    split at ran
    · rw [viewAfter_application ran rfl rfl]
      unfold returnFinish view
      simp only [List.map_append, List.map_cons, List.map_nil]
      exact Or.inr (.queueFin rfl)
    · cases ran
  | resetWrite code =>
    simp only [exec] at ran
    split at ran
    · exact .quiet ran (Or.inl rfl) rfl rfl rfl rfl rfl rfl rfl rfl rfl
    · next decided =>
      cases ran
      have undecided : s.localTerminal = none := by simpa using decided
      exact Or.inr (.reset undecided)
  | cancelRead code =>
    simp only [exec] at ran
    split at ran
    · exact .quiet ran (Or.inl rfl) rfl rfl rfl rfl rfl rfl rfl rfl rfl
    · refine .quiet ran (Or.inl rfl) rfl ?_ rfl rfl rfl rfl rfl rfl rfl
      rw [List.countP_append, List.countP_append, List.countP_append, silent_discarded]
      split <;> rfl
  | markCancelled => exact .quiet ran (Or.inl rfl) rfl rfl rfl rfl rfl rfl rfl rfl rfl
  | dropGrant =>
    simp only [exec] at ran
    split at ran <;> exact .quiet ran (Or.inl rfl) rfl rfl rfl rfl rfl rfl rfl rfl rfl
  | dropSenders => exact .quiet ran (Or.inl rfl) rfl rfl rfl rfl rfl rfl rfl rfl rfl

/-! ### Runs -/

theorem Ruled.stands {t : Tasks} (rules : Ruled t) {thread : Nat} {rest : List StreamSection}
    (top : t.pool[thread]? = some (op :: rest)) :
    Stands t.shared op (t.control (ownedBy .writer)) (t.control (ownedBy .application))
      (t.pending.countP StreamSection.queuesReset) where
  atWriter := fun owned => (rules.owned .writer).control_eq (Threads.mem_pending top) owned
  atApplication := fun owned => (rules.owned .application).control_eq
    (Threads.mem_pending top) owned
  owed := fun queues => List.countP_pos_iff.mpr ⟨op, Threads.mem_pending top, queues⟩

theorem outbound_run {t : Tasks} (rules : Ruled t) {thread : Nat} {rest : List StreamSection}
    (top : t.pool[thread]? = some (op :: rest)) (ran : t.shared.exec op = some e) :
    outbound ⟨e.shared, t.pool.set thread (e.next ++ rest) ++ e.started⟩ =
      viewAfter op e (t.control (ownedBy .writer)) (t.control (ownedBy .application))
        (t.pending.countP StreamSection.queuesReset) := by
  obtain ⟨follows, -⟩ := exec_follows ran
  have quiet (task : Task) : ∀ other ∈ e.started.flatten, ownedBy task other = false :=
    fun other member => by simp [ownedBy, mem_started ran member, StreamSection.task]
  have silent : e.started.flatten.countP StreamSection.queuesReset = 0 :=
    List.countP_eq_zero.mpr fun other member => by
      simp [mem_started ran member, StreamSection.queuesReset]
  have count := (Threads.pending_advance (e := e) top).countP_eq StreamSection.queuesReset
  rw [List.countP_cons, List.countP_append, List.countP_append, silent] at count
  unfold outbound viewAfter
  rw [(rules.owned .writer).control_advance top (follows.countP .writer) (quiet .writer),
    (rules.owned .application).control_advance top (follows.countP .application)
    (quiet .application)]
  exact view_congr rfl rfl rfl rfl rfl rfl rfl rfl rfl rfl (by omega)

theorem outbound_touch {t : Tasks} {s : WebrtcStream} (calls : s.dc.calls = t.shared.dc.calls)
    (life : s.life = t.shared.life) (data : s.data = t.shared.data)
    (terminal : s.localTerminal = t.shared.localTerminal)
    (dropping : s.dropData = t.shared.dropData)
    (writes : s.writes = t.shared.writes) (stopped : s.writerGone = t.shared.writerGone) :
    outbound (touch t s) = outbound t := by
  have accepted : s.acceptedBytes = t.shared.acceptedBytes := by
    unfold acceptedBytes
    rw [writes]
  exact view_congr calls life data terminal dropping accepted stopped rfl rfl rfl rfl

theorem outbound_start {t : Tasks} {stack : List StreamSection} (unowned : Unowned stack)
    (silent : stack.countP StreamSection.queuesReset = 0) : outbound (t.start stack) =
      outbound t := by
  have quiet (task : Task) : ∀ op ∈ stack, ownedBy task op = false :=
    fun op member => by simp [ownedBy, unowned op member]
  unfold outbound
  rw [Threads.control_start (quiet .writer), Threads.control_start (quiet .application),
    Threads.pending_start, List.countP_append, silent]
  rfl

/-- A task that is idle is given sections. -/
theorem outbound_resume {t t' : Tasks} (rules : Ruled t) {thread : Nat} {stack : List StreamSection}
    (resumed : t.resume thread stack = some t')
    (owned : ∀ task : Task, stack.countP (ownedBy task) ≤ 1 ∧
      (thread ≠ task.thread → ∀ op ∈ stack, ownedBy task op = false))
    (notWriter : thread ≠ Task.writer.thread)
    (ending : StreamSection.owesFin (stack.find? (ownedBy .application)) = false)
    (accepting : StreamSection.admitted (stack.find? (ownedBy .application)) = false)
    (silent : stack.countP StreamSection.queuesReset = 0) : outbound t' = outbound t := by
  obtain ⟨perm, shared⟩ := Threads.pending_resume resumed
  have writer := (rules.owned .writer).control_resume resumed (owned .writer).2 (owned .writer).1
  have application := (rules.owned .application).control_resume resumed (owned .application).2
    (owned .application).1
  have count : t'.pending.countP StreamSection.queuesReset =
      t.pending.countP StreamSection.queuesReset := by
    rw [perm.countP_eq, List.countP_append, silent, Nat.zero_add]
  rw [if_neg notWriter] at writer
  have idle : thread = Task.application.thread → t.control (ownedBy .application) = none := by
    rintro rfl
    exact Threads.control_eq_none.mpr
      ((rules.owned .application).idle (Threads.idle_of_resume resumed))
  unfold outbound
  rw [shared, writer, count, application]
  by_cases same : thread = Task.application.thread
  · rw [if_pos same, idle same]
    exact view_congr rfl rfl rfl rfl rfl rfl rfl rfl ending accepting rfl
  · rw [if_neg same]

/-- The application, the transport and the connection leave the outbound half. -/
theorem step_still {t t' : Tasks} {label : Label} (rules : Ruled t)
    (stepped : WebrtcStream.step t label = some t') (notRun : ∀ thread, label ≠ .run thread)
    (keeps : label ≠ .dropFuture) : outbound t' = outbound t := by
  cases label with
  | run thread => exact absurd rfl (notRun thread)
  | dropFuture => exact absurd rfl keeps
  | call method =>
    simp only [WebrtcStream.step] at stepped
    split at stepped
    · cases stepped
    · refine outbound_resume rules stepped (fun task => ?_) (by decide) ?_ ?_ ?_
      · refine ⟨(method.sections_once task).1, fun other => (method.sections_once task).2 ?_⟩
        rintro rfl
        exact other rfl
      · cases method <;> rfl
      · cases method <;> rfl
      · cases method <;> rfl
  | channelOpen =>
    simp only [WebrtcStream.step] at stepped
    split at stepped <;> cases stepped
    rw [outbound_start (unowned_single rfl) rfl]
    exact outbound_touch rfl rfl rfl rfl rfl rfl rfl
  | message data =>
    simp only [WebrtcStream.step] at stepped
    split at stepped
    · refine outbound_resume rules stepped (fun task => ?_) (by decide) rfl rfl rfl
      cases task <;> simp [ownedBy, StreamSection.task, Task.thread]
    · cases stepped
  | channelClosed =>
    simp only [WebrtcStream.step] at stepped
    split at stepped
    · cases stepped
    · have same := outbound_touch (t := t)
        (s := { t.shared with dc := { t.shared.dc with readyState := .closed } }) rfl rfl rfl rfl
          rfl rfl
        rfl
      rw [← same]
      refine outbound_resume (rules.touch _) stepped (fun task => ?_) (by decide) rfl rfl rfl
      cases task <;> simp [ownedBy, StreamSection.task, Task.thread]
  | buffered amount =>
    cases stepped
    exact outbound_touch rfl rfl rfl rfl rfl rfl rfl
  | credit flow =>
    cases stepped
    exact outbound_touch rfl rfl rfl rfl rfl rfl rfl
  | teardown =>
    cases stepped
    exact outbound_touch rfl rfl rfl rfl rfl rfl rfl

/-- The application drops a future, and what the future owed. -/
theorem outbound_dropFuture {t t' : Tasks} (rules : Ruled t)
    (stepped : WebrtcStream.step t .dropFuture = some t') :
    outbound t' = { outbound t with ending := false } := by
  simp only [WebrtcStream.step] at stepped
  split at stepped
  · next rest top =>
    cases stepped
    have shaped := rules.shaped _ (List.mem_of_getElem? top)
    have below : ∀ op ∈ rest, op.isCancelRead = true := shaped
    have application : t.control (ownedBy .application) = some .sendFin :=
      (rules.owned .application).control_eq (Threads.mem_pending top) rfl
    have silent : (StreamSection.sendFin :: rest).countP StreamSection.queuesReset = 0 := by
      refine List.countP_eq_zero.mpr fun op member => ?_
      rcases List.mem_cons.mp member with rfl | inside
      · simp [StreamSection.queuesReset]
      · obtain ⟨code, rfl⟩ := StreamSection.eq_cancelRead (below op inside)
        simp [StreamSection.queuesReset]
    have count := (Threads.pending_clear top).countP_eq StreamSection.queuesReset
    rw [List.countP_append, silent, Nat.zero_add] at count
    have writer : Threads.control (ownedBy .writer) ⟨t.shared, t.pool.set 2 []⟩ =
        t.control (ownedBy .writer) := by
      have perm := (Threads.pending_clear top).filter (ownedBy .writer)
      have none : (StreamSection.sendFin :: rest).filter (ownedBy .writer) = [] :=
        List.filter_eq_nil_iff.mpr fun op member => by
          have quiet := (rules.owned .writer).elsewhere 2 _ top (by decide) op member
          simp [quiet]
      rw [List.filter_append, none, List.nil_append] at perm
      exact Threads.find?_eq_of_perm perm (rules.owned .writer).once
    have cleared : Threads.control (ownedBy .application) ⟨t.shared, t.pool.set 2 []⟩ = none :=
      (rules.owned .application).clear.2
    unfold outbound
    rw [application, writer, cleared, count]
    rfl
  · cases stepped

/-- **A step of the tasks is a step of the outbound half, or none.** -/
theorem step_moves {t t' : Tasks} {label : Label} (rules : Ruled t)
    (stepped : WebrtcStream.step t label = some t') : Moves (outbound t) (outbound t') := by
  cases label with
  | run thread =>
    obtain ⟨op, rest, e, top, ran, rfl⟩ := Threads.advance_eq_some.mp stepped
    rw [outbound_run rules top ran]
    exact exec_moves ran (rules.stands top)
  | dropFuture =>
    rw [outbound_dropFuture rules stepped]
    exact Or.inr .abandon
  | _ => exact Or.inl (step_still rules stepped (by simp) (by simp))

theorem moves_keep {o o' : Outbound} (decided : o.Decided) (handed : o.Handed)
    (moves : Moves o o') :
    o'.Decided ∧ o'.Handed := by
  rcases moves with rfl | step
  · exact ⟨decided, handed⟩
  · exact ⟨decided.step step, handed.step decided step⟩

/-- What the tasks of a stream keep: their ownership, and the invariant of the outbound half. -/
structure WriterInv (t : Tasks) : Prop where
  rules : Ruled t
  decided : (outbound t).Decided
  handed : (outbound t).Handed

theorem writerInv_start (flow : ConnFlow) (peerInitiated isOpen : Bool) :
    WriterInv (start flow peerInitiated isOpen) := by
  have at' : outbound (start flow peerInitiated isOpen) =
      ⟨[], [], [], .idle, none, false, [], false, 0, false, false⟩ := rfl
  refine ⟨ruled_start flow peerInitiated isOpen, ?_, ?_⟩
  · rw [at']
    exact ⟨le_refl _, le_refl _, by simp, fun _ => rfl⟩
  · rw [at']
    refine ⟨List.Pairwise.nil, fun ⟨_, member, _⟩ => absurd member List.not_mem_nil,
      List.Pairwise.nil,
      List.prefix_refl _, fun _ _ => rfl, fun _ => rfl, fun stopped => by cases stopped⟩

theorem WriterInv.step {t t' : Tasks} {label : Label} (inv : WriterInv t)
    (stepped : WebrtcStream.step t label = some t') : WriterInv t' := by
  obtain ⟨decided, handed⟩ := moves_keep inv.decided inv.handed (step_moves inv.rules stepped)
  exact ⟨inv.rules.step stepped, decided, handed⟩

/-- **The writer conforms**: in every run the frames handed to the transport contain at most one
terminal frame and no DATA after it, and carry the accepted bytes in order, all of them once the FIN
is handed over. -/
theorem writer_conforms {flow : ConnFlow} {peerInitiated isOpen : Bool} {labels : List Label}
    {t : Tasks}
    (ran : Lib.run WebrtcStream.step (start flow peerInitiated isOpen) labels = some t) :
    Conforms t.shared.frames ∧ payloads t.shared.frames <+: t.shared.acceptedBytes ∧
      (.fin ∈ t.shared.frames → payloads t.shared.frames = t.shared.acceptedBytes) := by
  have inv : WriterInv t := run_invariant (fun _ _ _ inv stepped => WriterInv.step inv stepped)
    (writerInv_start flow peerInitiated isOpen) ran
  exact ⟨inv.handed.conforms, (List.prefix_append _ _).trans inv.handed.inOrder, inv.handed.final⟩

/-- A peer that grants eight bytes. -/
def granted : ConnFlow := ConnFlow.onPeerHello ⟨8, 8, 8⟩ (.new defaultFlowLimits)

/-- A write and a shutdown, and the writer task up to the FIN. -/
def writeThenShutdown : List Label :=
  [.call (.pollWrite [1, 2]), .run 2, .run 2, .run 2, .call .pollShutdown, .run 2, .run 2] ++
    List.replicate 14 (.run 1)

theorem writer_conforms_writeThenShutdown : ∃ t,
    Lib.run WebrtcStream.step (start granted true true) writeThenShutdown = some t ∧
      Conforms t.shared.frames ∧ payloads t.shared.frames <+: t.shared.acceptedBytes ∧
        (.fin ∈ t.shared.frames → payloads t.shared.frames = t.shared.acceptedBytes) := by
  obtain ⟨t, ran⟩ := Option.isSome_iff_exists.mp
    (show (Lib.run WebrtcStream.step (start granted true true) writeThenShutdown).isSome = true by
      decide +kernel)
  exact ⟨t, ran, writer_conforms ran⟩

end WebrtcStream

end Kps.Rust
