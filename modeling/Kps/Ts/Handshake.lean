/-
**The handshake and the end of a connection.**

`ConnCore.handshake` is what the events of the control channel, of the transport and of `close` are
about; everything else leaves it alone or only adds to its log (`Talks`).

* `HandshakeInv`, `Heard` — how the flags, the log and the control messages received agree;
* `HandshakeInv.teardown` — the first teardown is the one that `closed` reports;
* `ConnCore.handshake_step` — what one event does;
* `control_machine` — the state machine of the control channel, over whole runs.
-/

import Kps.Ts.ConnRun

namespace Kps.Ts

open Kps.Lib

/-! ### Outcomes -/

/-- An outcome that only follows `established`: a stream is accepted or a channel created. -/
def Outcome.isGrant : Outcome → Bool
  | .accepted _ _ => true
  | .channelCreated _ _ => true
  | _ => false

/-- An outcome of one call, which says nothing about the connection. -/
def Outcome.isMinor : Outcome → Bool
  | .established | .establishRejected _ | .fatal _ | .teardown _ | .transportClosed | .closed _ =>
    false
  | outcome => !outcome.isGrant

def Outcome.teardownInfo : Outcome → Option CloseInfo
  | .teardown info => some info
  | _ => none

def Outcome.closeInfo : Outcome → Option CloseInfo
  | .closed info => some info
  | _ => none

/-- What `#teardown` was called with, in order. -/
def teardowns (log : List Outcome) : List CloseInfo := log.filterMap Outcome.teardownInfo

/-- What `closed` reported, in order. -/
def closes (log : List Outcome) : List CloseInfo := log.filterMap Outcome.closeInfo

/-- What was told before `established` resolved, or everything if it has not. -/
def beforeEstablished (log : List Outcome) : List Outcome := log.takeWhile (· ≠ .established)

theorem teardowns_append (log extra : List Outcome) :
    teardowns (log ++ extra) = teardowns log ++ teardowns extra := List.filterMap_append

theorem closes_append (log extra : List Outcome) :
    closes (log ++ extra) = closes log ++ closes extra := List.filterMap_append

theorem beforeEstablished_append_of_mem {log : List Outcome} (told : .established ∈ log)
    (extra : List Outcome) : beforeEstablished (log ++ extra) = beforeEstablished log := by
  unfold beforeEstablished
  induction log with
  | nil => cases told
  | cons outcome log ih =>
    by_cases here : outcome = .established
    · simp [here]
    · have later : .established ∈ log := (List.mem_cons.mp told).resolve_left (Ne.symm here)
      simpa [here] using ih later

theorem beforeEstablished_append_of_notMem {log : List Outcome} (untold : .established ∉ log)
    (extra : List Outcome) :
    beforeEstablished (log ++ extra) = log ++ beforeEstablished extra := by
  unfold beforeEstablished
  refine List.takeWhile_append_of_pos fun outcome member => ?_
  have different : outcome ≠ .established := fun same => untold (same ▸ member)
  simpa using different

theorem beforeEstablished_subset {log : List Outcome} {outcome : Outcome}
    (member : outcome ∈ beforeEstablished log) : outcome ∈ log :=
  (List.takeWhile_prefix _).subset member

/-! ### The part of an end that the handshake is about -/

structure Handshake where
  state : ConnState
  tearingDown : Bool
  closeFired : Bool
  helloSent : Bool
  peerHello : Option FlowLimits
  establishedDone : Bool
  ctlIn : List ControlMsg
  incoming : List Nat
  opens : List OpenCall
  log : List Outcome

def ConnCore.handshake (c : ConnCore) : Handshake where
  state := c.state
  tearingDown := c.tearingDown
  closeFired := c.closeFired
  helloSent := c.helloSent
  peerHello := c.peerHello
  establishedDone := c.establishedDone
  ctlIn := c.ctlIn
  incoming := c.incoming
  opens := c.opens
  log := c.log

/-- No `openStream` is in progress. -/
def Idle (opens : List OpenCall) : Prop := ∀ call ∈ opens, call.pc = .done

/-- Something happens that is neither a step of the handshake nor the end of the connection. -/
structure Talks (h h' : Handshake) : Prop where
  same : h' = { h with incoming := h'.incoming, opens := h'.opens, log := h'.log }
  told : ∃ extra, h'.log = h.log ++ extra ∧
    ∀ outcome ∈ extra, outcome.isMinor = true ∨ outcome.isGrant = true ∧ h.establishedDone = true
  incoming : h.establishedDone = false → h.incoming = [] → h'.incoming = []
  opens : h.establishedDone = false → Idle h.opens → Idle h'.opens

namespace Talks

variable {h h' h'' : Handshake}

theorem refl (h : Handshake) : Talks h h := ⟨rfl, ⟨[], by simp⟩, fun _ => id, fun _ => id⟩

theorem of_eq (same : h' = h) : Talks h h' := same ▸ refl h

theorem trans (first : Talks h h') (second : Talks h' h'') : Talks h h'' := by
  obtain ⟨same, ⟨extra, log, kinds⟩, incoming, opens⟩ := first
  obtain ⟨same', ⟨extra', log', kinds'⟩, incoming', opens'⟩ := second
  have done : h'.establishedDone = h.establishedDone := by rw [same]
  refine ⟨?_, ⟨extra ++ extra', by rw [log', log, List.append_assoc], ?_⟩, ?_, ?_⟩
  · rw [same', same]
  · intro outcome member
    rcases List.mem_append.mp member with here | there
    · exact kinds outcome here
    · rw [← done]
      exact kinds' outcome there
  · exact fun early none => incoming' (done.trans early) (incoming early none)
  · exact fun early idle => opens' (done.trans early) (opens early idle)

/-- A minor outcome is told. -/
theorem report {c : ConnCore} {outcome : Outcome} (minor : outcome.isMinor = true) :
    Talks c.handshake (c.report outcome).handshake :=
  ⟨rfl, ⟨[outcome], rfl, fun _ member => by rw [List.mem_singleton.mp member]; exact Or.inl minor⟩,
    fun _ => id, fun _ => id⟩

end Talks

/-! ### What leaves the handshake alone -/

namespace ConnCore

variable {k : Nat} {c : ConnCore}

/-- Only what the streams hold of the connection changes. -/
def OnStreams (c c' : ConnCore) : Prop :=
  ∃ flow control streams live, c' = { c with flow, control, streams, live }

namespace OnStreams

variable {c' c'' : ConnCore}

theorem refl (c : ConnCore) : OnStreams c c := ⟨c.flow, c.control, c.streams, c.live, rfl⟩

theorem trans (first : OnStreams c c') (second : OnStreams c' c'') : OnStreams c c'' := by
  obtain ⟨_, _, _, _, rfl⟩ := first
  obtain ⟨flow, control, streams, live, rfl⟩ := second
  exact ⟨flow, control, streams, live, rfl⟩

theorem handshake (on : OnStreams c c') : c'.handshake = c.handshake := by
  obtain ⟨_, _, _, _, rfl⟩ := on
  rfl

theorem put (x : StreamCtx) : OnStreams c (c.put k x) := ⟨_, _, _, c.live, rfl⟩

theorem onStream (f : StreamCtx → StreamCtx) : OnStreams c (c.onStream k f) := put _

theorem retired : OnStreams c (c.retired k) := by
  unfold ConnCore.retired
  dsimp only
  split
  · exact ⟨_, _, c.streams, _, rfl⟩
  · exact ⟨c.flow, c.control, c.streams, _, rfl⟩

theorem maybeRetire : OnStreams c (c.maybeRetire k) := by
  unfold ConnCore.maybeRetire
  dsimp only
  split
  · exact (put _).trans retired
  · exact put _

theorem retireAfter (f : StreamCtx → StreamCtx) :
    OnStreams c (c.retireAfter k f) := (onStream f).trans maybeRetire

theorem runStream (f : StreamCtx → StreamCtx × Bool) : OnStreams c (c.runStream k f) := by
  unfold ConnCore.runStream
  dsimp only
  split
  · exact (put _).trans maybeRetire
  · exact put _

theorem closeWrite : OnStreams c (c.closeWrite k) := by
  unfold ConnCore.closeWrite
  split
  · exact refl c
  · exact retireAfter _

theorem resetWrite (reason : Option KpsReason) : OnStreams c (c.resetWrite k reason) := by
  unfold ConnCore.resetWrite
  split
  · exact refl c
  · exact retireAfter _

theorem cancelRead (reason : Option KpsReason) : OnStreams c (c.cancelRead k reason) := by
  unfold ConnCore.cancelRead
  split
  · exact refl c
  · exact retireAfter _

theorem cancelReadable (reason : Option KpsReason) : OnStreams c (c.cancelReadable k reason) := by
  unfold ConnCore.cancelReadable
  split
  · exact (onStream _).trans (cancelRead _)
  · exact refl c

theorem abandonResume : OnStreams c (c.abandonResume k) := by
  unfold ConnCore.abandonResume
  split
  · exact ((onStream _).trans (resetWrite _)).trans (cancelRead _)
  · exact refl c

theorem destroyAll (reason : Option KpsReason) (keys : List Nat) (c : ConnCore) :
    OnStreams c (c.destroyAll reason keys) := by
  induction keys generalizing c with
  | nil => exact refl c
  | cons key keys ih => exact (onStream _).trans (ih _)

end OnStreams

/-- **An event about a stream** concerns the streams alone, or it is a violation. -/
theorem streamEvent_cases (k : Nat) (event : Event) (c : ConnCore) :
    OnStreams c (c.streamEvent k event) ∨
    ∃ c' text, OnStreams c c' ∧ OnStreams (c'.protocolError text) (c.streamEvent k event) := by
  cases event with
  | channelMessage _ data =>
    show OnStreams c (c.onFrame k data) ∨ ∃ c' text, OnStreams c c' ∧
      OnStreams (c'.protocolError text) (c.onFrame k data)
    unfold onFrame
    split
    · exact Or.inr ⟨c, _, .refl c, .refl _⟩
    · split
      · exact Or.inr ⟨c, _, .refl c, .refl _⟩
      · split
        · exact Or.inl ((OnStreams.put _).trans .maybeRetire)
        · exact Or.inl (.put _)
  | channelClose =>
    show OnStreams c (c.onChannelClose k) ∨ ∃ c' text, OnStreams c c' ∧
      OnStreams (c'.protocolError text) (c.onChannelClose k)
    unfold onChannelClose
    dsimp only
    split
    · exact Or.inr ⟨_, _, .onStream _, .retireAfter _⟩
    · exact Or.inl ((OnStreams.onStream _).trans (.retireAfter _))
  | read =>
    dsimp only [streamEvent]
    exact Or.inl (.runStream _)
  | readResume =>
    dsimp only [streamEvent]
    exact Or.inl (.runStream _)
  | closeWrite => exact Or.inl .closeWrite
  | resetWrite _ reason => exact Or.inl (.resetWrite reason)
  | cancelRead _ reason => exact Or.inl (.cancelRead reason)
  | cancelReadable _ reason => exact Or.inl (.cancelReadable reason)
  | abandonResume => exact Or.inl .abandonResume
  | channelOpen =>
    dsimp only [streamEvent]
    exact Or.inl (.onStream _)
  | channelClosing =>
    dsimp only [streamEvent]
    exact Or.inl (.onStream _)
  | channelError =>
    dsimp only [streamEvent]
    exact Or.inl (.onStream _)
  | bufferedAmount =>
    dsimp only [streamEvent]
    exact Or.inl (.onStream _)
  | write =>
    dsimp only [streamEvent]
    exact Or.inl (.onStream _)
  | writeResume =>
    dsimp only [streamEvent]
    exact Or.inl (.onStream _)
  | _ => exact Or.inl (.refl c)

end ConnCore

/-! ### The invariant -/

/-- How the flags and the log of an end agree. -/
structure HandshakeInv (h : Handshake) : Prop where
  tearing : h.tearingDown = h.closeFired
  state : h.state =
    if h.closeFired then .closed else if h.establishedDone then .open else .connecting
  established : .established ∈ h.log ↔ h.establishedDone = true
  exchanged : h.establishedDone = true → h.helloSent = true ∧ h.peerHello.isSome = true
  early : h.establishedDone = false → h.incoming = [] ∧ Idle h.opens
  grants : ∀ outcome ∈ beforeEstablished h.log, outcome.isGrant = false
  lasting : h.establishedDone = true → teardowns (beforeEstablished h.log) = []
  once : closes h.log = (teardowns h.log).take 1
  fired : h.closeFired = true ↔ teardowns h.log ≠ []

/-- How an end that has not closed agrees with the control messages it was sent. -/
structure Heard (past : List (Except String ControlMsg)) (h : Handshake) : Prop where
  all : h.closeFired = false → past = h.ctlIn.map .ok
  hello : h.closeFired = false → match h.peerHello with
    | none => h.ctlIn = []
    | some limits => ∃ rest, h.ctlIn = .hello wireVersion limits :: rest ∧
        ∀ message ∈ rest, message.isCredit = true
  first : h.establishedDone = true → ∃ limits, past.head? = some (.ok (.hello wireVersion limits))

theorem isMinor_plain {outcome : Outcome} (minor : outcome.isMinor = true) :
    outcome ≠ .established ∧ outcome.teardownInfo = none ∧ outcome.closeInfo = none ∧
      outcome.isGrant = false := by
  cases outcome <;> simp_all [Outcome.isMinor, Outcome.isGrant, Outcome.teardownInfo,
    Outcome.closeInfo]

theorem isGrant_plain {outcome : Outcome} (grant : outcome.isGrant = true) :
    outcome ≠ .established ∧ outcome.teardownInfo = none ∧ outcome.closeInfo = none := by
  cases outcome <;> simp_all [Outcome.isGrant, Outcome.teardownInfo, Outcome.closeInfo]

namespace HandshakeInv

variable {h h' : Handshake} {extra : List Outcome}

theorem beforeEstablished_eq (inv : HandshakeInv h) (extra : List Outcome)
    (pending : h.establishedDone = false) :
    beforeEstablished (h.log ++ extra) = h.log ++ beforeEstablished extra := by
  refine beforeEstablished_append_of_notMem ?_ extra
  rw [inv.established, pending]
  decide

/-- Before `established`, nothing was granted at all. -/
theorem ungranted (inv : HandshakeInv h) (pending : h.establishedDone = false) :
    ∀ outcome ∈ h.log, outcome.isGrant = false := by
  intro outcome member
  have all := inv.beforeEstablished_eq [] pending
  rw [List.append_nil, show beforeEstablished [] = [] from rfl, List.append_nil] at all
  refine inv.grants outcome ?_
  rwa [all]

/-- More is told, but not that the connection ends for the first time. -/
theorem tell (extra : List Outcome) (inv : HandshakeInv h)
    (same : h' = { h with incoming := h'.incoming, opens := h'.opens, log := h'.log })
    (log : h'.log = h.log ++ extra) (untold : .established ∉ extra)
    (again : teardowns extra = [] ∨ h.closeFired = true) (noClose : closes extra = [])
    (noGrant : h.establishedDone = false → ∀ outcome ∈ extra, outcome.isGrant = false)
    (stillEarly : h.establishedDone = false → h'.incoming = [] ∧ Idle h'.opens) :
    HandshakeInv h' := by
  have before : h.establishedDone = true → beforeEstablished h'.log = beforeEstablished h.log := by
    intro told
    rw [log]
    exact beforeEstablished_append_of_mem (inv.established.mpr told) extra
  have done : h'.establishedDone = h.establishedDone := by rw [same]
  have halted : h'.closeFired = h.closeFired := by rw [same]
  refine ⟨?_, ?_, ?_, ?_, ?_, ?_, ?_, ?_, ?_⟩
  · rw [same]
    exact inv.tearing
  · rw [same]
    exact inv.state
  · rw [done, log, List.mem_append, ← inv.established]
    exact ⟨fun either => either.resolve_right untold, Or.inl⟩
  · rw [same]
    exact inv.exchanged
  · rw [done]
    exact stillEarly
  · intro outcome member
    cases pending : h.establishedDone with
    | true =>
      rw [before pending] at member
      exact inv.grants outcome member
    | false =>
      rw [log, inv.beforeEstablished_eq _ pending] at member
      rcases List.mem_append.mp member with old | new
      · exact inv.ungranted pending outcome old
      · exact noGrant pending outcome (beforeEstablished_subset new)
  · intro told
    rw [done] at told
    rw [before told]
    exact inv.lasting told
  · rw [log, closes_append, teardowns_append, noClose, List.append_nil, inv.once]
    rcases again with none | fired
    · rw [none, List.append_nil]
    · obtain ⟨first, rest, some⟩ := List.exists_cons_of_ne_nil (inv.fired.mp fired)
      rw [some]
      rfl
  · rw [halted, log, teardowns_append, inv.fired]
    constructor
    · intro some none
      exact some (List.append_eq_nil_iff.mp none).1
    · intro some none
      rcases again with silent | fired
      · rw [none, silent] at some
        exact some rfl
      · exact inv.fired.mp fired none

/-- The connection ends. -/
theorem finish (info : CloseInfo) (extra : List Outcome) (inv : HandshakeInv h)
    (alive : h.closeFired = false)
    (untold : .established ∉ extra) (teardown : teardowns extra = [info])
    (close : closes extra = [info]) (noGrant : ∀ outcome ∈ extra, outcome.isGrant = false) :
    HandshakeInv { h with
      state := .closed, tearingDown := true, closeFired := true, log := h.log ++ extra } := by
  have none : teardowns h.log = [] := by
    by_contra some
    rw [inv.fired.mpr some] at alive
    cases alive
  have silent : closes h.log = [] := by rw [inv.once, none]; rfl
  refine ⟨rfl, rfl, ?_, inv.exchanged, inv.early, ?_, ?_, ?_, ?_⟩
  · rw [List.mem_append, ← inv.established]
    exact ⟨fun either => either.resolve_right untold, Or.inl⟩
  · intro outcome member
    cases pending : h.establishedDone with
    | true =>
      rw [beforeEstablished_append_of_mem (inv.established.mpr pending)] at member
      exact inv.grants outcome member
    | false =>
      rw [inv.beforeEstablished_eq _ pending] at member
      rcases List.mem_append.mp member with old | new
      · exact inv.ungranted pending outcome old
      · exact noGrant outcome (beforeEstablished_subset new)
  · intro told
    rw [beforeEstablished_append_of_mem (inv.established.mpr told)]
    exact inv.lasting told
  · rw [closes_append, teardowns_append, silent, none, teardown, close]
    rfl
  · rw [teardowns_append, none, teardown]
    simp

/-- `established` resolves. -/
theorem establish (inv : HandshakeInv h) (alive : h.closeFired = false)
    (pending : h.establishedDone = false) (greeted : h.helloSent = true)
    (known : h.peerHello.isSome = true) :
    HandshakeInv { h with
      state := .open, establishedDone := true, log := h.log ++ [.established] } := by
  have none : teardowns h.log = [] := by
    by_contra some
    rw [inv.fired.mpr some] at alive
    cases alive
  refine ⟨inv.tearing, by simp [alive], by simp, fun _ => ⟨greeted, known⟩,
    (fun early => by cases early), ?_, ?_, ?_, ?_⟩
  · intro outcome member
    rw [inv.beforeEstablished_eq _ pending] at member
    rw [show beforeEstablished [Outcome.established] = [] from rfl, List.append_nil] at member
    exact inv.ungranted pending outcome member
  · intro _
    rw [inv.beforeEstablished_eq _ pending]
    rw [show beforeEstablished [Outcome.established] = [] from rfl, List.append_nil]
    exact none
  · rw [closes_append, teardowns_append, inv.once]
    show List.take 1 (teardowns h.log) ++ [] = List.take 1 (teardowns h.log ++ [])
    rw [List.append_nil, List.append_nil]
  · rw [teardowns_append]
    show h.closeFired = true ↔ teardowns h.log ++ [] ≠ []
    rw [List.append_nil]
    exact inv.fired

end HandshakeInv

namespace Talks

variable {h h' : Handshake}

/-- What is told along the way is neither `established` nor about the end. -/
theorem plain (talks : Talks h h') : ∃ extra, h'.log = h.log ++ extra ∧ .established ∉ extra ∧
    teardowns extra = [] ∧ closes extra = [] ∧
    (h.establishedDone = false → ∀ outcome ∈ extra, outcome.isGrant = false) := by
  obtain ⟨extra, log, kinds⟩ := talks.told
  have each : ∀ outcome ∈ extra, outcome ≠ .established ∧ outcome.teardownInfo = none ∧
      outcome.closeInfo = none := by
    intro outcome member
    rcases kinds outcome member with minor | ⟨grant, -⟩
    · obtain ⟨different, teardown, close, -⟩ := isMinor_plain minor
      exact ⟨different, teardown, close⟩
    · exact isGrant_plain grant
  refine ⟨extra, log, fun member => (each _ member).1 rfl, ?_, ?_, ?_⟩
  · exact List.filterMap_eq_nil_iff.mpr fun outcome member => (each outcome member).2.1
  · exact List.filterMap_eq_nil_iff.mpr fun outcome member => (each outcome member).2.2
  · intro early outcome member
    rcases kinds outcome member with minor | ⟨-, done⟩
    · exact (isMinor_plain minor).2.2.2
    · rw [early] at done
      cases done

/-- **It keeps the invariant.** -/
theorem inv (talks : Talks h h') (inv : HandshakeInv h) : HandshakeInv h' := by
  obtain ⟨extra, log, untold, noTeardown, noClose, noGrant⟩ := talks.plain
  exact inv.tell extra talks.same log untold (Or.inl noTeardown) noClose noGrant fun pending =>
    ⟨talks.incoming pending (inv.early pending).1, talks.opens pending (inv.early pending).2⟩

theorem heard {past : List (Except String ControlMsg)} (talks : Talks h h') (heard : Heard past h) :
    Heard past h' := by
  have same := talks.same
  rw [same]
  exact ⟨heard.all, heard.hello, heard.first⟩

end Talks

/-! ### The end -/

/-- The connection is closed, by this teardown or by an earlier one. -/
structure Ends (info : CloseInfo) (h h' : Handshake) : Prop where
  inv : HandshakeInv h'
  log : h.log <+: h'.log
  halted : h'.closeFired = true
  established : h'.establishedDone = h.establishedDone
  reports : h.closeFired = false → closes h'.log = [info]

namespace ConnCore

variable {info : CloseInfo} {c : ConnCore}

/-- What the waiters and the host are told at the end of `#teardown`. -/
def settlements (info : CloseInfo) (c : ConnCore) : List Outcome :=
  let gone : KpsError := { message := "kps: connection closed" }
  c.acceptWaiters.map (.acceptRejected · gone) ++ c.dgWaiters.map (.datagramRejected · gone) ++
    [.transportClosed, .closed info]

/-- What `#teardown` tells, the first time. -/
def farewell (info : CloseInfo) (c : ConnCore) : List Outcome :=
  .teardown info :: (if c.establishedDone then [] else [.establishRejected (closeError info)]) ++
    c.settlements info

theorem handshake_settled (reason : Option KpsReason) (keys : List Nat) :
    ((c.destroyAll reason keys).settleClosed info).handshake =
      { c.handshake with log := c.log ++ c.settlements info } := by
  obtain ⟨_, _, _, _, same⟩ := OnStreams.destroyAll reason keys c
  rw [same]
  simp [settleClosed, handshake, settlements]

theorem handshake_teardown (alive : c.closeFired = false) :
    (c.teardown info).handshake = { c.handshake with
      state := .closed, tearingDown := true, closeFired := true,
        log := c.log ++ c.farewell info } := by
  have fresh : ¬ (c.report (.teardown info)).closeFired = true := by
    rw [show (c.report (.teardown info)).closeFired = c.closeFired from rfl, alive]
    decide
  unfold teardown
  dsimp only
  rw [if_neg fresh, handshake_settled]
  unfold rejectEstablished farewell report
  dsimp only
  split <;> simp [handshake, settlements]

theorem handshake_teardown_again (halted : c.closeFired = true) :
    (c.teardown info).handshake = { c.handshake with log := c.log ++ [.teardown info] } := by
  unfold teardown
  dsimp only
  rw [if_pos (show (c.report (.teardown info)).closeFired = true from halted)]
  rfl

theorem teardowns_farewell : teardowns (c.farewell info) = [info] := by
  have settle : teardowns (c.settlements info) = [] :=
    List.filterMap_eq_nil_iff.mpr (by
      simp only [settlements, List.mem_append, List.mem_map, List.mem_cons, List.not_mem_nil]
      rintro _ ((⟨_, -, rfl⟩ | ⟨_, -, rfl⟩) | rfl | rfl | none) <;> first | rfl | cases none)
  unfold farewell
  rw [teardowns_append, settle]
  split <;> rfl

theorem closes_farewell : closes (c.farewell info) = [info] := by
  have rejected (waiters : List Nat) (f : Nat → Outcome) (quiet : ∀ n, (f n).closeInfo = none) :
      closes (waiters.map f) = [] := by
    simp [closes, quiet]
  unfold farewell settlements
  dsimp only
  rw [closes_append, closes_append, closes_append, rejected _ _ fun _ => rfl,
    rejected _ _ fun _ => rfl]
  split <;> rfl

theorem farewell_plain (info : CloseInfo) (c : ConnCore) : .established ∉ c.farewell info ∧
    ∀ outcome ∈ c.farewell info, outcome.isGrant = false := by
  unfold farewell settlements
  split <;> constructor <;> simp [Outcome.isGrant, or_imp, forall_and]

/-- `#teardown`, after more was told and perhaps `tearingDown` set. -/
theorem teardown_ends {h : Handshake} (extra : List Outcome) (inv : HandshakeInv h)
    (same : c.handshake = { h with tearingDown := c.tearingDown, log := h.log ++ extra })
    (untold : .established ∉ extra) (noTeardown : teardowns extra = [])
    (noClose : closes extra = []) (noGrant : ∀ outcome ∈ extra, outcome.isGrant = false)
    (kept : h.closeFired = true → c.tearingDown = h.tearingDown) :
    Ends info h (c.teardown info).handshake := by
  have log : c.log = h.log ++ extra := congrArg Handshake.log same
  have closeFired : c.closeFired = h.closeFired := congrArg Handshake.closeFired same
  cases halted : h.closeFired with
  | true =>
    rw [handshake_teardown_again (closeFired.trans halted), same]
    have told : HandshakeInv { h with log := h.log ++ (extra ++ [.teardown info]) } := by
      refine inv.tell _ rfl rfl ?_ (Or.inr halted) ?_ ?_ inv.early
      · simp [untold]
      · rw [closes_append, noClose]
        rfl
      · intro _ outcome member
        rcases List.mem_append.mp member with here | there
        · exact noGrant outcome here
        · rw [List.mem_singleton.mp there]
          rfl
    refine ⟨?_, ?_, halted, rfl, fun alive => by rw [halted] at alive; cases alive⟩
    · dsimp only
      rw [kept halted, log, List.append_assoc]
      exact told
    · dsimp only
      rw [log, List.append_assoc]
      exact List.prefix_append _ _
  | false =>
    rw [handshake_teardown (closeFired.trans halted), same]
    obtain ⟨plain, dull⟩ := farewell_plain info c
    have finished := inv.finish info (extra ++ c.farewell info) halted
      (by simp [untold, plain]) (by rw [teardowns_append, noTeardown, teardowns_farewell]; rfl)
      (by rw [closes_append, noClose, closes_farewell]; rfl) fun outcome member =>
        (List.mem_append.mp member).elim (noGrant outcome) (dull outcome)
    refine ⟨?_, ?_, rfl, rfl, fun _ => ?_⟩
    · dsimp only
      rw [log, List.append_assoc]
      exact finished
    · dsimp only
      rw [log, List.append_assoc]
      exact List.prefix_append _ _
    · have none : teardowns h.log = [] := by
        by_contra some
        rw [inv.fired.mpr some] at halted
        cases halted
      dsimp only
      rw [log, closes_append, closes_append, noClose, closes_farewell, inv.once, none]
      rfl

theorem fatal_ends (reason : KpsReason) (inv : HandshakeInv c.handshake) :
    Ends { ok := false, reason := some reason } c.handshake (c.fatal reason).handshake := by
  have dull : ∀ outcome ∈ [Outcome.fatal reason], outcome.isGrant = false := by
    simp [Outcome.isGrant]
  unfold fatal
  dsimp only
  split
  · next halted =>
    have halted : c.handshake.closeFired = true := halted
    exact ⟨inv.tell [.fatal reason] rfl rfl (by simp) (Or.inl rfl) rfl (fun _ => dull) inv.early,
      List.prefix_append _ _, halted, rfl, fun alive => by rw [halted] at alive; cases alive⟩
  · next alive =>
    exact teardown_ends [.fatal reason] inv rfl
      (by simp) rfl rfl dull fun halted => absurd halted alive

theorem protocolError_ends (text : String) (inv : HandshakeInv c.handshake) :
    Ends { ok := false, reason := some { code := some .protocolError, message := some text } }
      c.handshake (c.protocolError text).handshake := fatal_ends _ inv

theorem plainTeardown_ends (info : CloseInfo) (inv : HandshakeInv c.handshake) :
    Ends info c.handshake (c.teardown info).handshake :=
  teardown_ends [] inv (by simp [handshake]) (by simp) rfl rfl (by simp) fun _ => rfl

theorem close_ends (reason : Option KpsReason) (inv : HandshakeInv c.handshake) :
    Ends { ok := true, reason } c.handshake (c.close reason).handshake := by
  unfold close
  split
  · next halted =>
    have halted : c.handshake.closeFired = true := halted
    exact ⟨inv, List.prefix_refl _, halted, rfl, fun alive => by rw [halted] at alive; cases alive⟩
  · next alive =>
    exact teardown_ends [] inv (by simp [handshake, trySendControl]) (by simp) rfl rfl
      (by simp) fun halted => absurd halted alive

end ConnCore

/-- A step: the invariant and what was heard, and that nothing is untold or reopened. -/
structure HandshakeSpec (past : List (Except String ControlMsg)) (h h' : Handshake) : Prop where
  inv : HandshakeInv h'
  heard : Heard past h'
  log : h.log <+: h'.log
  halted : h.closeFired = true → h'.closeFired = true ∧ h'.establishedDone = h.establishedDone

namespace HandshakeSpec

variable {past past' : List (Except String ControlMsg)} {h h' h'' : Handshake}

theorem andThen (first : HandshakeSpec past h h') (second : HandshakeSpec past' h' h'') :
    HandshakeSpec past' h h'' where
  inv := second.inv
  heard := second.heard
  log := first.log.trans second.log
  halted := fun halted => by
    obtain ⟨still, same⟩ := first.halted halted
    obtain ⟨closed, same'⟩ := second.halted still
    exact ⟨closed, same'.trans same⟩

theorem of_ends {info : CloseInfo} (ends : Ends info h h') (heard : Heard past h)
    (more : past <+: past') : HandshakeSpec past' h h' where
  inv := ends.inv
  heard := ⟨(fun alive => by rw [ends.halted] at alive; cases alive),
    (fun alive => by rw [ends.halted] at alive; cases alive), fun done => by
      rw [ends.established] at done
      obtain ⟨limits, first⟩ := heard.first done
      obtain ⟨rest, rfl⟩ := more
      exact ⟨limits, by rw [List.head?_append, first]; rfl⟩⟩
  log := ends.log
  halted := fun _ => ⟨ends.halted, ends.established⟩

theorem of_talks (talks : Talks h h') (inv : HandshakeInv h) (heard : Heard past h) :
    HandshakeSpec past h h' where
  inv := talks.inv inv
  heard := talks.heard heard
  log := by
    obtain ⟨extra, log, -⟩ := talks.told
    rw [log]
    exact List.prefix_append _ _
  halted := fun halted => by
    rw [talks.same]
    exact ⟨halted, rfl⟩

end HandshakeSpec

/-! ### Calls and streams -/

namespace Talks

variable {c : ConnCore} {op k : Nat}

/-- Once the handshake is done, calls and streams come and go. -/
theorem of_done {h h' : Handshake} (done : h.establishedDone = true)
    (same : h' = { h with incoming := h'.incoming, opens := h'.opens, log := h'.log })
    (told : ∃ extra, h'.log = h.log ++ extra ∧
      ∀ outcome ∈ extra, outcome.isMinor = true ∨ outcome.isGrant = true) : Talks h h' := by
  obtain ⟨extra, log, kinds⟩ := told
  exact ⟨same, ⟨extra, log, fun outcome member => (kinds outcome member).imp id fun g => ⟨g, done⟩⟩,
    (fun early => by rw [done] at early; cases early),
    fun early => by rw [done] at early; cases early⟩

theorem idle_modify {opens : List OpenCall} (idle : Idle opens) (op : Nat)
    {change : OpenCall → OpenCall} (keeps : ∀ call, call.pc = .done → (change call).pc = .done) :
    Idle (opens.modify op change) := by
  cases present : opens[op]? with
  | none =>
    rw [List.modify_eq_self (List.getElem?_eq_none_iff.mp present)]
    exact idle
  | some call =>
    intro other member
    rcases (ConnInv.opens_modify present change).2 other member with old | rfl
    · exact idle other old
    · exact keeps call (idle call (List.mem_of_getElem? present))

theorem setOpen {pc : OpenPc} (allowed : c.establishedDone = true ∨ pc = .done) :
    Talks c.handshake (c.setOpen op pc).handshake := by
  refine ⟨rfl, ⟨[], by simp [ConnCore.handshake, ConnCore.setOpen], by simp⟩, fun _ => id, ?_⟩
  intro early idle
  rcases allowed with done | done
  · rw [show c.handshake.establishedDone = c.establishedDone from rfl, done] at early
    cases early
  · exact idle_modify idle op fun _ _ => done

theorem rejectOpen (error : KpsError) :
    Talks c.handshake (c.rejectOpen op error).handshake :=
  (setOpen (Or.inr rfl)).trans (report rfl)

theorem reserveSlot (aborted : Bool) (done : c.establishedDone = true) :
    Talks c.handshake (c.reserveSlot op aborted).handshake := by
  unfold ConnCore.reserveSlot
  split
  · exact rejectOpen _
  · next flow _ => exact setOpen (c := { c with flow }) (Or.inl done)
  · exact setOpen (Or.inl done)

theorem openStream (aborted : Bool) (inv : HandshakeInv c.handshake) :
    Talks c.handshake (c.openStream aborted).handshake := by
  have called : Talks c.handshake
      { c with opens := c.opens ++ [(⟨.done, aborted⟩ : OpenCall)] }.handshake := by
    refine ⟨rfl, ⟨[], by simp [ConnCore.handshake], by simp⟩, fun _ => id, fun _ idle => ?_⟩
    intro call member
    rcases List.mem_append.mp member with old | new
    · exact idle call old
    · rw [List.mem_singleton.mp new]
  unfold ConnCore.openStream
  dsimp only
  split
  · exact called.trans (rejectOpen _)
  · split
    · exact called.trans (rejectOpen _)
    · next isOpen =>
      have isOpen : c.handshake.state = .open := not_not.mp isOpen
      rw [inv.state] at isOpen
      have done : c.establishedDone = true := by
        by_contra pending
        rw [show c.handshake.establishedDone = c.establishedDone from rfl,
          Bool.eq_false_iff.mpr pending] at isOpen
        split at isOpen <;> cases isOpen
      exact called.trans (reserveSlot aborted done)

/-- An `openStream` that has not ended was let in after the handshake. -/
theorem done_of_opening {call : OpenCall} (inv : HandshakeInv c.handshake)
    (present : c.opens[op]? = some call) (running : call.pc ≠ .done) :
      c.establishedDone = true := by
  by_contra pending
  exact running ((inv.early (Bool.eq_false_iff.mpr pending)).2 call (List.mem_of_getElem? present))

theorem openStreamResume (channel : Except KpsError Nat) (isOpen : Bool)
    (inv : HandshakeInv c.handshake) :
    Talks c.handshake (c.openStreamResume op channel isOpen).handshake := by
  unfold ConnCore.openStreamResume
  cases present : c.opens[op]? with
  | none => exact refl _
  | some call =>
    obtain ⟨pc, aborted⟩ := call
    cases pc with
    | done => exact refl _
    | reserving ticket =>
      have done := done_of_opening inv present (by simp)
      dsimp only
      split
      · exact reserveSlot aborted done
      · exact refl _
    | reserved =>
      have done := done_of_opening inv present (by simp)
      cases channel with
      | error error => exact rejectOpen (c := { c with
          seq := c.seq + 1, flow := c.flow.releaseStreamSlot }) error
      | ok k =>
        dsimp only
        split
        · exact refl _
        · unfold ConnCore.openChannel
          have created : Talks c.handshake ((({ c with
              seq := c.seq + 1, flow := c.flow.commitStreamSlot }.report
                (.channelCreated k ("kps-" ++ toString (c.seq + 1)))).makeStream k false
                  isOpen)).handshake :=
            of_done done rfl ⟨[.channelCreated k ("kps-" ++ toString (c.seq + 1))], rfl, by
              simp [Outcome.isGrant]⟩
          dsimp only
          split
          · exact created.trans (rejectOpen _)
          · exact created.trans (setOpen (Or.inl done))
    | opening k =>
      dsimp only
      split
      · exact refl _
      · exact (setOpen (Or.inr rfl)).trans (report rfl)
      · exact rejectOpen _

theorem openStreamAbort :
    Talks c.handshake (c.openStreamAbort op).handshake := by
  unfold ConnCore.openStreamAbort
  cases present : c.opens[op]? with
  | none => exact refl _
  | some call =>
    have marked : Talks c.handshake { c with
        opens := c.opens.modify op fun call => { call with aborted := true } }.handshake :=
      ⟨rfl, ⟨[], by simp [ConnCore.handshake], by simp⟩, fun _ => id, fun _ idle =>
        idle_modify idle op fun _ done => done⟩
    dsimp only
    split
    · split
      · exact marked
      · exact marked.trans (rejectOpen _)
    · exact marked.trans (rejectOpen _)
    · exact marked

theorem enqueueIncoming (k : Nat) (done : c.establishedDone = true) :
    Talks c.handshake (c.enqueueIncoming k).handshake := by
  unfold ConnCore.enqueueIncoming
  split
  · next waiter rest waiting =>
    exact of_done done rfl ⟨[.accepted waiter k], rfl, by simp [Outcome.isGrant]⟩
  · exact of_done done rfl ⟨[], by simp [ConnCore.handshake], by simp⟩

theorem enqueueAll (keys : List Nat) (done : c.establishedDone = true) :
    Talks c.handshake (keys.foldl (fun c k => c.enqueueIncoming k) c).handshake := by
  induction keys generalizing c with
  | nil => exact refl _
  | cons key keys ih =>
    have here := enqueueIncoming key done
    have still : (c.enqueueIncoming key).establishedDone = true := by
      have same := congrArg Handshake.establishedDone here.same
      exact same.trans done
    exact here.trans (ih still)

theorem acceptStream (waiter : Nat) (aborted : Bool) (inv : HandshakeInv c.handshake) :
    Talks c.handshake (c.acceptStream waiter aborted).handshake := by
  unfold ConnCore.acceptStream
  split
  · next k rest queued =>
    have done : c.establishedDone = true := by
      by_contra pending
      have empty := (inv.early (Bool.eq_false_iff.mpr pending)).1
      rw [show c.handshake.incoming = c.incoming from rfl, queued] at empty
      cases empty
    exact of_done done rfl ⟨[.accepted waiter k], rfl, by simp [Outcome.isGrant]⟩
  · split
    · exact report rfl
    · split
      · exact report rfl
      · exact of_eq rfl

theorem acceptAbort (waiter : Nat) : Talks c.handshake (c.acceptAbort waiter).handshake := by
  unfold ConnCore.acceptAbort
  split
  · exact report (c := { c with acceptWaiters := c.acceptWaiters.erase waiter }) rfl
  · exact refl _

theorem onDatagram (data : Bytes) : Talks c.handshake (c.onDatagram data).handshake := by
  unfold ConnCore.onDatagram
  split
  · next waiter rest _ => exact report (c := { c with dgWaiters := rest }) rfl
  · exact of_eq rfl

theorem sendDatagram (data : Bytes) (aborted : Bool) :
    Talks c.handshake (c.sendDatagram data aborted).handshake := by
  unfold ConnCore.sendDatagram
  split
  · exact report rfl
  · split
    · exact report rfl
    · split
      · exact report rfl
      · exact of_eq rfl

theorem receiveDatagram (waiter : Nat) (aborted : Bool) :
    Talks c.handshake (c.receiveDatagram waiter aborted).handshake := by
  unfold ConnCore.receiveDatagram
  split
  · next data rest _ => exact report (c := { c with dgQueue := rest }) rfl
  · split
    · exact report rfl
    · split
      · exact report rfl
      · exact of_eq rfl

theorem receiveAbort (waiter : Nat) : Talks c.handshake (c.receiveAbort waiter).handshake := by
  unfold ConnCore.receiveAbort
  split
  · exact report (c := { c with dgWaiters := c.dgWaiters.erase waiter }) rfl
  · exact refl _

end Talks

end Kps.Ts
