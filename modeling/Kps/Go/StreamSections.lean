/-
**What the sections of a Go stream do to its channel.**

`exec_acts` says once what a section does to the local terminal and to the channel's calls, and
which sections it leaves to its goroutine. The conformance of the sender and the retirement of the
stream are read off it.
-/

import Kps.Go.Stream

namespace Kps.Go

open Kps.Lib

namespace StreamSection

/-- The sections between the decision for a terminal frame and its `Send`. -/
def endsWrite : StreamSection → Bool
  | .waitOpen _ => true
  | .sendTerminal _ => true
  | .sendResetIfOpen _ => true
  | _ => false

/-- The `Send` of a FIN or RESET. -/
def sendsTerminal : StreamSection → Bool
  | .sendTerminal _ => true
  | .sendResetIfOpen _ => true
  | _ => false

/-- The `Send` of a DATA frame, after the checks of `sendReserved`. -/
def sendsData : StreamSection → Bool
  | .sendData .. => true
  | _ => false

/-- The `Close` of the retirement goroutine. -/
def closes : StreamSection → Bool
  | .dcClose => true
  | _ => false

end StreamSection

/-- A FIN or RESET. -/
def isTerminal : Wire.Frame → Bool
  | .fin => true
  | .reset _ => true
  | _ => false

def isData : Wire.Frame → Bool
  | .data _ => true
  | _ => false

theorem isTerminal_frame (terminal : Terminal) : isTerminal terminal.frame = true := by
  cases terminal <;> rfl

namespace WebrtcStream

/-- No section of the list ends the write half, sends DATA or closes the channel. -/
def Plain (sections : List StreamSection) : Prop :=
  ∀ op ∈ sections, op.endsWrite = false ∧ op.sendsData = false ∧ op.closes = false

/-- What a section does to the write half and the channel. -/
inductive Acts (s : WebrtcStream) : StreamSection → Effect WebrtcStream StreamSection → Prop
  /-- Neither the local terminal nor the channel changes. -/
  | quiet {op e} (dc : e.shared.dc = s.dc) (same : e.shared.localTerminal = s.localTerminal)
    (next : Plain e.next) (started : e.started = []) (op_ends : op.endsWrite = false)
    (op_closes : op.closes = false) : Acts s op e
  /-- `sendReserved` lets a DATA frame pass. -/
  | admits {chunk rest written} (undecided : s.localTerminal = .terminalNone) :
    Acts s (.sendReserved chunk rest written)
      { shared := s, next := [.sendData chunk rest written] }
  /-- A terminal frame is decided. -/
  | decides {op e} (undecided : s.localTerminal = .terminalNone) (dc : e.shared.dc = s.dc)
    (decided : e.shared.localTerminal ≠ .terminalNone)
    (next : ∃ failure ending rest, e.next = [.failSend failure, ending] ++ rest ∧
      ending.endsWrite = true ∧ ending.sendsData = false ∧ ending.closes = false ∧ Plain rest)
    (started : e.started = []) (op_ends : op.endsWrite = false) (op_data : op.sendsData = false)
    (op_closes : op.closes = false) : Acts s op e
  /-- The terminal frame may be sent. -/
  | ready {terminal} (isOpen : s.dc.readyState = .opened) :
    Acts s (.waitOpen terminal) { shared := s, next := [.sendTerminal terminal, .maybeRetire] }
  /-- The terminal frame is not sent: the channel is not open. -/
  | givesUp {terminal} (openCh : s.openCh = true) (notOpen : s.dc.readyState ≠ .opened) :
    Acts s (.waitOpen terminal) { shared := s }
  /-- The terminal frame is handed to the channel. -/
  | ends {op} {frame : Wire.Frame} (terminal : isTerminal frame = true)
    (op_ends : op.endsWrite = true)
    (op_sends : op.sendsTerminal = true) (op_data : op.sendsData = false)
    (op_closes : op.closes = false) : Acts s op { shared := { s with dc := s.dc.trySend frame } }
  /-- A DATA frame is handed to the channel. -/
  | sendsData {chunk rest written e} (isOpen : s.dc.readyState = .opened)
    (dc : e.shared.dc = { s.dc with calls := s.dc.calls ++ [.send (.data chunk)] })
    (same : e.shared.localTerminal = s.localTerminal) (next : Plain e.next)
    (started : e.started = []) : Acts s (.sendData chunk rest written) e
  /-- Another frame is handed to the channel. -/
  | sends {op} {frame : Wire.Frame} (other : isTerminal frame = false)
    (notData : isData frame = false)
    (op_ends : op.endsWrite = false) (op_data : op.sendsData = false)
    (op_closes : op.closes = false) :
    Acts s op { shared := { s with dc := s.dc.trySend frame } }
  /-- The retirement goroutine starts. -/
  | retires (complete : s.wireComplete = true) (drained : s.inbuf = [])
    (notClosed : s.dcClosed = false) :
    Acts s .maybeRetire { shared := s, started := [[.dcClose]] }
  /-- The channel is closed. -/
  | closes : Acts s .dcClose { shared := { s with dc := s.dc.close } }

theorem plain_nil : Plain [] := fun _ member => absurd member List.not_mem_nil

theorem plain_consumed (n : Nat) : Plain (consumed n) := by
  unfold consumed
  split
  · intro op member
    rw [List.mem_singleton.mp member]
    exact ⟨rfl, rfl, rfl⟩
  · exact plain_nil

theorem Plain.append {first second : List StreamSection} (left : Plain first)
    (right : Plain second) :
    Plain (first ++ second) := by
  intro op member
  rcases List.mem_append.mp member with member | member
  · exact left op member
  · exact right op member

theorem plain_single {op : StreamSection} (ends : op.endsWrite = false)
    (data : op.sendsData = false) (closes : op.closes = false) : Plain [op] := by
  intro other member
  rw [List.mem_singleton.mp member]
  exact ⟨ends, data, closes⟩

theorem Plain.cons {op : StreamSection} {rest : List StreamSection} (ends : op.endsWrite = false)
    (data : op.sendsData = false) (closes : op.closes = false) (plain : Plain rest) :
    Plain (op :: rest) :=
  (plain_single ends data closes).append plain

/-- A quiet section: the effect of `andThen`. -/
theorem Acts.ofAndThen {s s' : WebrtcStream} {op : StreamSection} {next : List StreamSection}
    {e : Effect WebrtcStream StreamSection} (ran : andThen next s' = some e) (dc : s'.dc = s.dc)
    (same : s'.localTerminal = s.localTerminal) (plain : Plain next)
    (op_ends : op.endsWrite = false)
    (op_closes : op.closes = false) : Acts s op e := by
  cases ran
  exact .quiet dc same plain rfl op_ends op_closes

variable {s : WebrtcStream} {e : Effect WebrtcStream StreamSection}

theorem onFrame_acts {data : Bytes} (ran : s.onFrame data = some e) : Acts s (.onFrame data) e := by
  unfold onFrame at ran
  split at ran
  · exact .ofAndThen ran rfl rfl (plain_single rfl rfl rfl) rfl rfl
  · next f _ =>
    split at ran
    · split at ran <;> exact .ofAndThen ran rfl rfl (plain_single rfl rfl rfl) rfl rfl
    · split at ran <;> exact .ofAndThen ran rfl rfl (plain_single rfl rfl rfl) rfl rfl
    · split at ran
      · exact .ofAndThen ran rfl rfl (plain_single rfl rfl rfl) rfl rfl
      · exact .ofAndThen ran rfl rfl ((plain_consumed _).append (plain_single rfl rfl rfl)) rfl rfl
    · split at ran
      · exact .ofAndThen ran rfl rfl plain_nil rfl rfl
      · dsimp only at ran
        split at ran
        · next undecided =>
          cases ran
          exact .decides undecided rfl (by simp)
            ⟨_, _, [.maybeRetire], rfl, rfl, rfl, rfl, plain_single rfl rfl rfl⟩ rfl rfl rfl rfl
        · exact .ofAndThen ran rfl rfl (plain_single rfl rfl rfl) rfl rfl
    · exact .ofAndThen ran rfl rfl plain_nil rfl rfl

theorem maybeRetire_acts (ran : s.maybeRetire = some e) : Acts s .maybeRetire e := by
  unfold maybeRetire at ran
  split at ran
  · next complete =>
    obtain ⟨complete, drained⟩ := Bool.and_eq_true_iff.mp complete
    split at ran
    · split at ran
      · exact .ofAndThen ran rfl rfl plain_nil rfl rfl
      · exact .ofAndThen ran rfl rfl (plain_single rfl rfl rfl) rfl rfl
    · next notClosed =>
      cases ran
      exact .retires complete (List.isEmpty_iff.mp drained) (Bool.not_eq_true _ ▸ notClosed)
  · exact .ofAndThen ran rfl rfl plain_nil rfl rfl

theorem read_acts {size : Nat} (ran : s.read size = some e) : Acts s (.read size) e := by
  unfold read at ran
  split at ran
  · exact .ofAndThen ran rfl rfl plain_nil rfl rfl
  split at ran
  · exact .ofAndThen ran rfl rfl
      (.cons rfl rfl rfl (plain_single rfl rfl rfl)) rfl rfl
  split at ran
  · exact .ofAndThen ran rfl rfl plain_nil rfl rfl
  split at ran
  · exact .ofAndThen ran rfl rfl plain_nil rfl rfl
  split at ran
  · exact .ofAndThen ran rfl rfl plain_nil rfl rfl
  split at ran
  · exact .ofAndThen ran rfl rfl plain_nil rfl rfl
  · cases ran

theorem writeLoop_acts {p : Bytes} {written : Nat} (ran : s.writeLoop p written = some e) :
    Acts s (.writeLoop p written) e := by
  unfold writeLoop at ran
  split at ran
  · exact .ofAndThen ran rfl rfl plain_nil rfl rfl
  · split at ran
    · exact .ofAndThen ran rfl rfl plain_nil rfl rfl
    · exact .ofAndThen ran rfl rfl (plain_single rfl rfl rfl) rfl rfl
    · cases ran

theorem sendReserved_acts {chunk rest : Bytes} {written : Nat}
    (ran : s.sendReserved chunk rest written = some e) :
    Acts s (.sendReserved chunk rest written) e := by
  unfold sendReserved at ran
  dsimp only at ran
  split at ran
  · exact .ofAndThen ran rfl rfl (plain_single rfl rfl rfl) rfl rfl
  split at ran
  · exact .ofAndThen ran rfl rfl (plain_single rfl rfl rfl) rfl rfl
  next undecided =>
  split at ran
  · exact .ofAndThen ran rfl rfl (plain_single rfl rfl rfl) rfl rfl
  split at ran
  · cases ran
    exact .admits (not_not.mp undecided)
  · cases ran

theorem send_eq_some {dc dc' : DataChannel} {frame : Wire.Frame} (sent : dc.send frame = some dc') :
    dc.readyState = .opened ∧ dc' = { dc with calls := dc.calls ++ [.send frame] } := by
  unfold DataChannel.send at sent
  split at sent
  · next isOpen =>
    cases sent
    exact ⟨isOpen, rfl⟩
  · cases sent

theorem waitOpen_eq_some {isOpen : Bool} (waited : s.waitOpen = some isOpen) :
    s.openCh = true ∧ (isOpen = true ↔ s.dc.readyState = .opened) := by
  unfold waitOpen at waited
  split at waited
  · next closed =>
    cases waited
    exact ⟨closed, decide_eq_true_iff⟩
  · cases waited

/-- **What a section does.** -/
theorem exec_acts {op : StreamSection} (ran : s.exec op = some e) : Acts s op e := by
  cases op with
  | onFrame data => exact onFrame_acts ran
  | onDataReceived payload cancelled =>
    simp only [exec] at ran
    split at ran
    · exact .ofAndThen ran rfl rfl (plain_single rfl rfl rfl) rfl rfl
    · refine .ofAndThen ran rfl rfl ?_ rfl rfl
      split <;> exact plain_single rfl rfl rfl
  | appendData payload => exact .ofAndThen ran rfl rfl plain_nil rfl rfl
  | fatal code text => exact .ofAndThen ran rfl rfl plain_nil rfl rfl
  | failSend failure => exact .ofAndThen ran rfl rfl plain_nil rfl rfl
  | sendResetIfOpen code =>
    cases ran
    exact .ends rfl rfl rfl rfl rfl
  | write p =>
    simp only [exec] at ran
    split at ran
    · exact .ofAndThen ran rfl rfl (plain_single rfl rfl rfl) rfl rfl
    · exact .ofAndThen ran rfl rfl plain_nil rfl rfl
    · cases ran
  | writeLoop p written => exact writeLoop_acts ran
  | sendReserved chunk rest written => exact sendReserved_acts ran
  | sendData chunk rest written =>
    simp only [exec] at ran
    split at ran
    · next sent =>
      obtain ⟨isOpen, rfl⟩ := send_eq_some sent
      cases ran
      exact .sendsData isOpen rfl rfl
        (.cons rfl rfl rfl (plain_single rfl rfl rfl)) rfl
    · exact .ofAndThen ran rfl rfl (plain_single rfl rfl rfl) rfl rfl
  | commit n => exact .ofAndThen ran rfl rfl plain_nil rfl rfl
  | release n => exact .ofAndThen ran rfl rfl plain_nil rfl rfl
  | closeWrite =>
    simp only [exec] at ran
    split at ran
    · exact .ofAndThen ran rfl rfl plain_nil rfl rfl
    · next undecided =>
      cases ran
      exact .decides (not_not.mp undecided) rfl (by simp) ⟨_, _, [], rfl, rfl, rfl, rfl, plain_nil⟩
        rfl rfl rfl rfl
  | resetWrite code =>
    simp only [exec] at ran
    split at ran
    · exact .ofAndThen ran rfl rfl plain_nil rfl rfl
    · next undecided =>
      cases ran
      exact .decides (not_not.mp undecided) rfl (by simp) ⟨_, _, [], rfl, rfl, rfl, rfl, plain_nil⟩
        rfl rfl rfl rfl
  | waitOpen terminal =>
    simp only [exec] at ran
    split at ran
    · next waited =>
      cases ran
      exact .ready ((waitOpen_eq_some waited).2.mp rfl)
    · next waited =>
      obtain ⟨openCh, isOpen⟩ := waitOpen_eq_some waited
      cases ran
      exact .givesUp openCh fun opened => by simpa using isOpen.mpr opened
    · cases ran
  | sendTerminal terminal =>
    cases ran
    exact .ends (isTerminal_frame terminal) rfl rfl rfl rfl
  | cancelRead code =>
    simp only [exec] at ran
    split at ran
    · exact .ofAndThen ran rfl rfl plain_nil rfl rfl
    · refine .ofAndThen ran rfl rfl ?_ rfl rfl
      refine Plain.append
        (Plain.append (Plain.append (plain_single rfl rfl rfl) (plain_consumed _)) ?_)
        (plain_single rfl rfl rfl)
      split
      · exact plain_nil
      · exact plain_single rfl rfl rfl
  | markCancelled => exact .ofAndThen ran rfl rfl plain_nil rfl rfl
  | onConsumed n =>
    refine .ofAndThen ran rfl rfl ?_ rfl rfl
    refine Plain.append (fun op member => ?_) fun op member => ?_
    · obtain ⟨v, -, rfl⟩ := Option.map_eq_some_iff.mp (Option.mem_toList.mp member)
      exact ⟨rfl, rfl, rfl⟩
    · obtain ⟨v, -, rfl⟩ := Option.map_eq_some_iff.mp (Option.mem_toList.mp member)
      exact ⟨rfl, rfl, rfl⟩
  | sendMaxStreamData v =>
    cases ran
    exact .sends rfl rfl rfl rfl rfl
  | sendMaxData v => exact .ofAndThen ran rfl rfl plain_nil rfl rfl
  | waitOpenStop code =>
    simp only [exec] at ran
    split at ran
    · exact .ofAndThen ran rfl rfl (plain_single rfl rfl rfl) rfl rfl
    · exact .ofAndThen ran rfl rfl plain_nil rfl rfl
    · cases ran
  | sendStop code =>
    cases ran
    exact .sends rfl rfl rfl rfl rfl
  | read size => exact read_acts ran
  | maybeRetire => exact maybeRetire_acts ran
  | dcClose =>
    cases ran
    exact .closes
  | retired => exact .ofAndThen ran rfl rfl plain_nil rfl rfl
  | onChannelClose =>
    refine .ofAndThen ran rfl rfl (fun op member => ?_) rfl rfl
    simp only [List.mem_cons, List.not_mem_nil, or_false] at member
    rcases member with rfl | rfl | rfl | rfl | rfl <;> exact ⟨rfl, rfl, rfl⟩
  | policeClose wireComplete =>
    simp only [exec] at ran
    split at ran
    · exact .ofAndThen ran rfl rfl (plain_single rfl rfl rfl) rfl rfl
    · exact .ofAndThen ran rfl rfl plain_nil rfl rfl
  | closeOpenCh => exact .ofAndThen ran rfl rfl plain_nil rfl rfl
  | closeClosedCh => exact .ofAndThen ran rfl rfl plain_nil rfl rfl
  | destroy =>
    refine .ofAndThen ran rfl rfl ((plain_consumed _).append fun op member => ?_) rfl rfl
    simp only [List.mem_cons, List.not_mem_nil, or_false] at member
    rcases member with rfl | rfl | rfl <;> exact ⟨rfl, rfl, rfl⟩

/-- What a section starts: the goroutine that closes the channel. -/
theorem Acts.started_eq {op : StreamSection} (acts : Acts s op e) :
    e.started = [] ∨ e.started = [[.dcClose]] ∧ s.localTerminal ≠ .terminalNone := by
  cases acts with
  | quiet _ _ _ started _ _ => exact Or.inl started
  | decides _ _ _ _ started _ _ _ => exact Or.inl started
  | sendsData _ _ _ _ started => exact Or.inl started
  | retires complete _ _ =>
    exact Or.inr ⟨rfl, of_decide_eq_true (Bool.and_eq_true_iff.mp complete).1⟩
  | _ => exact Or.inl rfl

theorem mem_started {op other : StreamSection} (ran : s.exec op = some e)
    (member : other ∈ e.started.flatten) :
    other = .dcClose := by
  rcases (exec_acts ran).started_eq with none | ⟨one, -⟩
  · rw [none] at member
    cases member
  · rw [one] at member
    simpa using member

end WebrtcStream

end Kps.Go
