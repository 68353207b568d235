/-
**The part of a connection its hand-off queues are** (`acceptStream`, `#enqueueIncoming`,
`#onDatagram` and `receiveDatagram`), and what an event does to it.

* `Calm` — an event leaves the queues, but for a teardown;
* `Establishes`, `Takes` — the handshake completes, or a stream of the peer is taken;
* `ConnCore.step_queues` — an event that is not of the queues is one of these;
* `ConnCore.queues_acceptStream` and its like — the calls of the queues, on that part.
-/

import Kps.Ts.Handshake

namespace Kps.Ts

open Kps.Lib

/-! ### The part of an end the queues are about -/

/-- The stream an `acceptStream` was given. -/
def Outcome.accept : Outcome → Option (Nat × Nat)
  | .accepted waiter k => some (waiter, k)
  | _ => none

def Outcome.acceptRefusal : Outcome → Option Nat
  | .acceptRejected waiter _ => some waiter
  | _ => none

/-- The datagram a `receiveDatagram` was given. -/
def Outcome.receipt : Outcome → Option (Nat × Bytes)
  | .datagramReceived waiter data => some (waiter, data)
  | _ => none

def Outcome.receiptRefusal : Outcome → Option Nat
  | .datagramRejected waiter _ => some waiter
  | _ => none

/-- It settles no call of the queues. -/
def Outcome.aside : Outcome → Bool
  | .accepted _ _ => false
  | .acceptRejected _ _ => false
  | .datagramReceived _ _ => false
  | .datagramRejected _ _ => false
  | _ => true

/-- It is an event of the queues, or a stream of the peer appears. -/
def Event.isQueues : Event → Bool
  | .acceptStream _ _ => true
  | .acceptAbort _ => true
  | .datagramMessage _ => true
  | .receiveDatagram _ _ => true
  | .receiveAbort _ => true
  | .incomingChannel _ _ => true
  | _ => false

/-- The datagram that arrives. -/
def Event.datagram : Event → Option Bytes
  | .datagramMessage data => some data
  | _ => none

def Event.isAccept : Event → Bool
  | .acceptStream _ _ => true
  | _ => false

def Event.isReceive : Event → Bool
  | .receiveDatagram _ _ => true
  | _ => false

structure Queues where
  established : Bool
  closeFired : Bool
  isClosed : Bool
  staged : List Nat
  incoming : List Nat
  acceptWaiters : List Nat
  accepts : List (Nat × Nat)
  acceptRefusals : List Nat
  dgQueue : List Bytes
  dgWaiters : List Nat
  receipts : List (Nat × Bytes)
  receiptRefusals : List Nat

def ConnCore.queues (c : ConnCore) : Queues where
  established := c.establishedDone
  closeFired := c.closeFired
  isClosed := decide (c.state = .closed)
  staged := c.staged
  incoming := c.incoming
  acceptWaiters := c.acceptWaiters
  accepts := c.log.filterMap Outcome.accept
  acceptRefusals := c.log.filterMap Outcome.acceptRefusal
  dgQueue := c.dgQueue
  dgWaiters := c.dgWaiters
  receipts := c.log.filterMap Outcome.receipt
  receiptRefusals := c.log.filterMap Outcome.receiptRefusal

namespace Queues

/-- A teardown, if it is the first. -/
def stop (q : Queues) : Queues :=
  if q.closeFired then q
  else { q with
    closeFired := true
    isClosed := true
    staged := []
    acceptWaiters := []
    acceptRefusals := q.acceptRefusals ++ q.acceptWaiters
    dgWaiters := []
    receiptRefusals := q.receiptRefusals ++ q.dgWaiters }

/-- A stream is surfaced. -/
def enqueue (q : Queues) (k : Nat) : Queues :=
  match q.acceptWaiters with
  | waiter :: rest => { q with acceptWaiters := rest, accepts := q.accepts ++ [(waiter, k)] }
  | [] => { q with incoming := q.incoming ++ [k] }

def acceptStream (waiter : Nat) (refuse : Bool) (q : Queues) : Queues :=
  match q.incoming with
  | k :: rest => { q with incoming := rest, accepts := q.accepts ++ [(waiter, k)] }
  | [] =>
    if refuse then { q with acceptRefusals := q.acceptRefusals ++ [waiter] }
    else { q with acceptWaiters := q.acceptWaiters ++ [waiter] }

def acceptAbort (waiter : Nat) (q : Queues) : Queues :=
  if waiter ∈ q.acceptWaiters then
    { q with
      acceptWaiters := q.acceptWaiters.erase waiter
      acceptRefusals := q.acceptRefusals ++ [waiter] }
  else q

def onDatagram (data : Bytes) (q : Queues) : Queues :=
  match q.dgWaiters with
  | waiter :: rest => { q with dgWaiters := rest, receipts := q.receipts ++ [(waiter, data)] }
  | [] => { q with
    dgQueue :=
      if (q.dgQueue ++ [data]).length > maxDatagramQueue then (q.dgQueue ++ [data]).tail
        else q.dgQueue ++ [data] }

def receiveDatagram (waiter : Nat) (refuse : Bool) (q : Queues) : Queues :=
  match q.dgQueue with
  | data :: rest => { q with dgQueue := rest, receipts := q.receipts ++ [(waiter, data)] }
  | [] =>
    if refuse then { q with receiptRefusals := q.receiptRefusals ++ [waiter] }
    else { q with dgWaiters := q.dgWaiters ++ [waiter] }

def receiveAbort (waiter : Nat) (q : Queues) : Queues :=
  if waiter ∈ q.dgWaiters then
    { q with
      dgWaiters := q.dgWaiters.erase waiter
      receiptRefusals := q.receiptRefusals ++ [waiter] }
  else q

theorem acceptStream_nil {q : Queues} (none : q.incoming = []) (waiter : Nat) (refuse : Bool) :
    q.acceptStream waiter refuse =
      if refuse then { q with acceptRefusals := q.acceptRefusals ++ [waiter] }
      else { q with acceptWaiters := q.acceptWaiters ++ [waiter] } := by
  unfold acceptStream
  split
  · next k rest incoming => cases none.symm.trans incoming
  · rfl

theorem receiveDatagram_nil {q : Queues} (none : q.dgQueue = []) (waiter : Nat) (refuse : Bool) :
    q.receiveDatagram waiter refuse =
      if refuse then { q with receiptRefusals := q.receiptRefusals ++ [waiter] }
      else { q with dgWaiters := q.dgWaiters ++ [waiter] } := by
  unfold receiveDatagram
  split
  · next data rest queue => cases none.symm.trans queue
  · rfl

theorem stop_closeFired (q : Queues) : q.stop.closeFired = true := by
  unfold stop
  split
  · assumption
  · rfl

theorem stop_stop (q : Queues) : q.stop.stop = q.stop := if_pos q.stop_closeFired

theorem of_established {q : Queues} (established : q.established = true)
    (halted : q.isClosed = q.closeFired)
    (staged : q.staged = []) : q = { q with
      established := true, isClosed := q.closeFired, staged := [] } := by
  cases q
  cases established
  cases halted
  cases staged
  rfl

theorem enqueue_same (k : Nat) (q : Queues) : ∃ incoming waiters accepts,
    q.enqueue k = { q with incoming := incoming, acceptWaiters := waiters, accepts := accepts } ∧
    (q.acceptWaiters = [] → waiters = []) := by
  unfold enqueue
  split
  · next waiter rest waiting => exact ⟨_, _, _, rfl, fun none => by cases none.symm.trans waiting⟩
  · exact ⟨_, _, _, rfl, id⟩

/-- Streams that are surfaced leave the rest. -/
theorem enqueueAll_same (keys : List Nat) (q : Queues) : ∃ incoming waiters accepts,
    keys.foldl enqueue q = { q with
      incoming := incoming, acceptWaiters := waiters, accepts := accepts } ∧
    (q.acceptWaiters = [] → waiters = []) := by
  induction keys generalizing q with
  | nil => exact ⟨_, _, _, rfl, id⟩
  | cons key keys ih =>
    obtain ⟨incoming, waiters, accepts, here, none⟩ := enqueue_same key q
    obtain ⟨incoming', waiters', accepts', later, none'⟩ := ih (q.enqueue key)
    refine ⟨incoming', waiters', accepts', ?_, fun empty => none' ?_⟩
    · rw [List.foldl_cons, later, here]
    · rw [here]
      exact none empty

end Queues

namespace ConnCore

variable {c c' c'' : ConnCore} {k op : Nat}

theorem queues_report {outcome : Outcome} (aside : outcome.aside = true) :
    (c.report outcome).queues = c.queues := by
  have silent : outcome.accept = none ∧ outcome.acceptRefusal = none ∧ outcome.receipt = none ∧
      outcome.receiptRefusal = none := by
    cases outcome with
    | accepted => cases aside
    | acceptRejected => cases aside
    | datagramReceived => cases aside
    | datagramRejected => cases aside
    | _ => exact ⟨rfl, rfl, rfl, rfl⟩
  obtain ⟨accept, refusal, receipt, refusal'⟩ := silent
  simp only [ConnCore.queues, ConnCore.report, List.filterMap_append, List.filterMap_cons,
    List.filterMap_nil, accept, refusal, receipt, refusal', List.append_nil]
  rfl

/-- The queues are left, but for a teardown. -/
structure Calm (c c' : ConnCore) : Prop where
  queues : c'.queues = c.queues ∨ c'.queues = c.queues.stop
  ids : ∀ k ∈ c.ids, k ∈ c'.ids

namespace Calm

theorem of_eq (queues : c'.queues = c.queues) (ids : c'.ids = c.ids) : Calm c c' :=
  ⟨Or.inl queues, fun _ member => ids ▸ member⟩

theorem refl (c : ConnCore) : Calm c c := of_eq rfl rfl

theorem trans (first : Calm c c') (second : Calm c' c'') : Calm c c'' := by
  refine ⟨?_, fun k member => second.ids k (first.ids k member)⟩
  rcases second.queues with same | stopped
  · rw [same]
    exact first.queues
  · right
    rcases first.queues with same' | stopped'
    · rw [stopped, same']
    · rw [stopped, stopped', Queues.stop_stop]

theorem after (later : Calm c' c'') (queues : c'.queues = c.queues) (ids : c'.ids = c.ids) :
    Calm c c'' :=
  (of_eq queues ids).trans later

theorem onStreams (on : OnStreams c c') : Calm c c' := by
  obtain ⟨_, _, _, _, rfl⟩ := on
  exact of_eq rfl rfl

theorem report {outcome : Outcome} (aside : outcome.aside = true) : Calm c (c.report outcome) :=
  of_eq (queues_report aside) rfl

/-- What the calls that wait are told at the end of `#teardown`. -/
theorem queues_settled (info : CloseInfo) (keys : List Nat) (c : ConnCore) :
    ((c.destroyAll info.reason keys).settleClosed info).queues = { c.queues with
      staged := []
      acceptWaiters := []
      acceptRefusals := c.queues.acceptRefusals ++ c.acceptWaiters
      dgWaiters := []
      receiptRefusals := c.queues.receiptRefusals ++ c.dgWaiters } ∧
    ((c.destroyAll info.reason keys).settleClosed info).ids = c.ids := by
  obtain ⟨_, _, _, _, same⟩ := OnStreams.destroyAll info.reason keys c
  rw [same]
  simp [ConnCore.queues, settleClosed, List.filterMap_append, List.filterMap_map, Function.comp_def,
    Outcome.accept, Outcome.acceptRefusal, Outcome.receipt, Outcome.receiptRefusal]

theorem queues_teardown (info : CloseInfo) (alive : c.closeFired = false) :
    (c.teardown info).queues = c.queues.stop ∧ (c.teardown info).ids = c.ids := by
  have fresh : ¬ (c.report (.teardown info)).closeFired = true := by
    rw [show (c.report (.teardown info)).closeFired = c.closeFired from rfl, alive]
    decide
  unfold ConnCore.teardown
  dsimp only
  rw [if_neg fresh, (queues_settled info _ _).1, (queues_settled info _ _).2]
  unfold ConnCore.rejectEstablished
  split <;>
    simp [ConnCore.queues, ConnCore.report, Queues.stop, alive, Outcome.accept,
      Outcome.acceptRefusal,
    Outcome.receipt, Outcome.receiptRefusal]

theorem teardown (info : CloseInfo) : Calm c (c.teardown info) := by
  cases fired : c.closeFired with
  | false =>
    exact ⟨Or.inr (queues_teardown info fired).1,
      fun k member => (queues_teardown info fired).2 ▸ member⟩
  | true =>
    have again : c.teardown info = c.report (.teardown info) := if_pos fired
    rw [again]
    exact report rfl

theorem fatal (reason : KpsReason) : Calm c (c.fatal reason) := by
  have told : Calm c (c.report (.fatal reason)) := report rfl
  refine told.trans ?_
  unfold ConnCore.fatal
  dsimp only
  split
  · exact refl _
  · exact (teardown _).after rfl rfl

theorem protocolError (text : String) : Calm c (c.protocolError text) := fatal _

theorem close (reason : Option KpsReason) : Calm c (c.close reason) := by
  unfold ConnCore.close
  split
  · exact refl c
  · exact (teardown _).after rfl rfl

theorem reservedChannelLost (which : String) : Calm c (c.reservedChannelLost which) := by
  unfold ConnCore.reservedChannelLost
  split
  · exact refl c
  · exact protocolError _

theorem onHelloTimer : Calm c c.onHelloTimer := by
  unfold ConnCore.onHelloTimer
  split
  · exact (fatal _).after rfl rfl
  · exact refl c

theorem streamEvent (k : Nat) (event : Event) : Calm c (c.streamEvent k event) := by
  rcases streamEvent_cases k event c with on | ⟨c', text, before, after⟩
  · exact onStreams on
  · exact ((onStreams before).trans (protocolError text)).trans (onStreams after)

theorem setOpen (pc : OpenPc) : Calm c (c.setOpen op pc) := of_eq rfl rfl

theorem rejectOpen (error : KpsError) :
    Calm c (c.rejectOpen op error) := (setOpen .done).trans (report rfl)

theorem reserveSlot (aborted : Bool) : Calm c (c.reserveSlot op aborted) := by
  unfold ConnCore.reserveSlot
  split
  · exact rejectOpen _
  · exact (setOpen _).after rfl rfl
  · exact setOpen _

theorem openStream (aborted : Bool) : Calm c (c.openStream aborted) := by
  unfold ConnCore.openStream
  dsimp only
  split
  · exact (rejectOpen _).after rfl rfl
  · split
    · exact (rejectOpen _).after rfl rfl
    · exact (reserveSlot aborted).after rfl rfl

theorem makeStream (k : Nat) (peerInitiated isOpen : Bool) :
    Calm c (c.makeStream k peerInitiated isOpen) :=
  ⟨Or.inl rfl, fun _ member => List.mem_append_left _ member⟩

theorem abandon : Calm c (c.abandon k) := onStreams (.onStream _)

theorem openChannel (aborted isOpen : Bool) : Calm c (c.openChannel op aborted k isOpen) := by
  have told : Calm c ({ c with seq := c.seq + 1, flow := c.flow.commitStreamSlot }.report
      (.channelCreated k ("kps-" ++ toString (c.seq + 1)))) := (report rfl).after rfl rfl
  have created := told.trans (makeStream k false isOpen)
  unfold ConnCore.openChannel
  dsimp only
  split
  · exact created.trans (abandon.trans (rejectOpen _))
  · exact created.trans (setOpen _)

theorem openStreamResume (channel : Except KpsError Nat) (isOpen : Bool) :
    Calm c (c.openStreamResume op channel isOpen) := by
  unfold ConnCore.openStreamResume
  split
  · exact refl c
  · exact refl c
  · split
    · exact reserveSlot _
    · exact refl c
  · split
    · exact (rejectOpen _).after rfl rfl
    · split
      · exact refl c
      · exact openChannel _ _
  · split
    · exact refl c
    · exact (setOpen _).trans (report rfl)
    · exact rejectOpen _

theorem openStreamAbort : Calm c (c.openStreamAbort op) := by
  unfold ConnCore.openStreamAbort
  split
  · exact refl c
  · have marked : Calm c { c with
        opens := c.opens.modify op fun call => { call with aborted := true } } :=
      of_eq rfl rfl
    dsimp only
    split
    · split
      · exact marked
      · exact marked.trans (rejectOpen _)
    · exact marked.trans (abandon.trans (rejectOpen _))
    · exact marked

theorem sendDatagram (data : Bytes) (aborted : Bool) : Calm c (c.sendDatagram data aborted) := by
  unfold ConnCore.sendDatagram
  split
  · exact report rfl
  · split
    · exact report rfl
    · split
      · exact report rfl
      · exact of_eq rfl rfl

end Calm

/-! ### The calls of the queues -/

theorem queues_report_accepted (waiter k : Nat) : (c.report (.accepted waiter k)).queues =
    { c.queues with accepts := c.queues.accepts ++ [(waiter, k)] } := by
  simp [ConnCore.queues, report, Outcome.accept, Outcome.acceptRefusal, Outcome.receipt,
    Outcome.receiptRefusal]
  rfl

theorem queues_report_acceptRejected (waiter : Nat) (error : KpsError) :
    (c.report (.acceptRejected waiter error)).queues =
      { c.queues with acceptRefusals := c.queues.acceptRefusals ++ [waiter] } := by
  simp [ConnCore.queues, report, Outcome.accept, Outcome.acceptRefusal, Outcome.receipt,
    Outcome.receiptRefusal]
  rfl

theorem queues_report_datagramReceived (waiter : Nat) (data : Bytes) :
    (c.report (.datagramReceived waiter data)).queues =
      { c.queues with receipts := c.queues.receipts ++ [(waiter, data)] } := by
  simp [ConnCore.queues, report, Outcome.accept, Outcome.acceptRefusal, Outcome.receipt,
    Outcome.receiptRefusal]
  rfl

theorem queues_report_datagramRejected (waiter : Nat) (error : KpsError) :
    (c.report (.datagramRejected waiter error)).queues =
      { c.queues with receiptRefusals := c.queues.receiptRefusals ++ [waiter] } := by
  simp [ConnCore.queues, report, Outcome.accept, Outcome.acceptRefusal, Outcome.receipt,
    Outcome.receiptRefusal]
  rfl

theorem queues_acceptStream (waiter : Nat) (aborted : Bool) :
    (c.acceptStream waiter aborted).queues =
      c.queues.acceptStream waiter (aborted || decide (c.state = .closed)) ∧
    (c.acceptStream waiter aborted).ids = c.ids := by
  unfold acceptStream
  split
  · next k rest incoming =>
    unfold Queues.acceptStream
    rw [show c.queues.incoming = k :: rest from incoming]
    exact ⟨queues_report_accepted waiter k, rfl⟩
  · next none =>
    rw [Queues.acceptStream_nil none]
    cases aborted with
    | true => exact ⟨queues_report_acceptRejected waiter _, rfl⟩
    | false =>
      by_cases closed : c.state = .closed
      · rw [decide_eq_true closed, if_pos closed]
        exact ⟨queues_report_acceptRejected waiter _, rfl⟩
      · rw [decide_eq_false closed, if_neg closed]
        exact ⟨rfl, rfl⟩

theorem queues_acceptAbort (waiter : Nat) :
    (c.acceptAbort waiter).queues = c.queues.acceptAbort waiter ∧
    (c.acceptAbort waiter).ids = c.ids := by
  unfold acceptAbort Queues.acceptAbort
  by_cases waiting : waiter ∈ c.acceptWaiters
  · rw [if_pos waiting, if_pos (show waiter ∈ c.queues.acceptWaiters from waiting)]
    exact ⟨queues_report_acceptRejected waiter _, rfl⟩
  · rw [if_neg waiting, if_neg (show waiter ∉ c.queues.acceptWaiters from waiting)]
    exact ⟨rfl, rfl⟩

theorem queues_onDatagram (data : Bytes) :
    (c.onDatagram data).queues = c.queues.onDatagram data ∧ (c.onDatagram data).ids = c.ids := by
  unfold onDatagram Queues.onDatagram
  cases waiting : c.dgWaiters with
  | cons waiter rest =>
    rw [show c.queues.dgWaiters = waiter :: rest from waiting]
    exact ⟨queues_report_datagramReceived waiter data, rfl⟩
  | nil =>
    rw [show c.queues.dgWaiters = [] from waiting]
    exact ⟨rfl, rfl⟩

theorem queues_receiveDatagram (waiter : Nat) (aborted : Bool) :
    (c.receiveDatagram waiter aborted).queues =
      c.queues.receiveDatagram waiter (aborted || decide (c.state = .closed)) ∧
    (c.receiveDatagram waiter aborted).ids = c.ids := by
  unfold receiveDatagram
  split
  · next data rest queue =>
    unfold Queues.receiveDatagram
    rw [show c.queues.dgQueue = data :: rest from queue]
    exact ⟨queues_report_datagramReceived waiter data, rfl⟩
  · next none =>
    rw [Queues.receiveDatagram_nil none]
    by_cases closed : c.state = .closed
    · rw [decide_eq_true closed, if_pos closed, Bool.or_true]
      exact ⟨queues_report_datagramRejected waiter _, rfl⟩
    · rw [decide_eq_false closed, if_neg closed, Bool.or_false]
      cases aborted with
      | true => exact ⟨queues_report_datagramRejected waiter _, rfl⟩
      | false => exact ⟨rfl, rfl⟩

theorem queues_receiveAbort (waiter : Nat) :
    (c.receiveAbort waiter).queues = c.queues.receiveAbort waiter ∧
    (c.receiveAbort waiter).ids = c.ids := by
  unfold receiveAbort Queues.receiveAbort
  by_cases waiting : waiter ∈ c.dgWaiters
  · rw [if_pos waiting, if_pos (show waiter ∈ c.queues.dgWaiters from waiting)]
    exact ⟨queues_report_datagramRejected waiter _, rfl⟩
  · rw [if_neg waiting, if_neg (show waiter ∉ c.queues.dgWaiters from waiting)]
    exact ⟨rfl, rfl⟩

/-! ### The handshake, and the streams of the peer -/

theorem queues_enqueue (k : Nat) : (c.enqueueIncoming k).queues = c.queues.enqueue k ∧
    (c.enqueueIncoming k).ids = c.ids := by
  unfold enqueueIncoming Queues.enqueue
  cases waiting : c.acceptWaiters with
  | nil =>
    rw [show c.queues.acceptWaiters = [] from waiting]
    exact ⟨rfl, rfl⟩
  | cons waiter rest =>
    rw [show c.queues.acceptWaiters = waiter :: rest from waiting]
    exact ⟨queues_report_accepted waiter k, rfl⟩

theorem queues_enqueueAll (keys : List Nat) (c : ConnCore) :
    (keys.foldl (fun c k => c.enqueueIncoming k) c).queues = keys.foldl Queues.enqueue c.queues ∧
    (keys.foldl (fun c k => c.enqueueIncoming k) c).ids = c.ids := by
  induction keys generalizing c with
  | nil => exact ⟨rfl, rfl⟩
  | cons key keys ih =>
    obtain ⟨queues, ids⟩ := ih (c.enqueueIncoming key)
    rw [(queues_enqueue key).1] at queues
    exact ⟨queues, ids.trans (queues_enqueue key).2⟩

/-- The handshake completes, and the streams that were staged are surfaced. -/
structure Establishes (c c' : ConnCore) : Prop where
  pending : c.establishedDone = false
  alive : c.closeFired = false
  ids : c'.ids = c.ids
  queues : c'.queues = c.staged.foldl Queues.enqueue { c.queues with
    established := true
    isClosed := false
    staged := [] }

theorem checkEstablished_cases : Calm c c.checkEstablished ∨ Establishes c c.checkEstablished := by
  unfold checkEstablished
  split
  · exact Or.inl (.refl c)
  · next fresh =>
    obtain ⟨pending, alive⟩ : c.establishedDone = false ∧ c.closeFired = false := by
      simpa using fresh
    split
    · exact Or.inl (.refl c)
    · have told :
          ({ c with
            establishedDone := true, state := .open,
            helloTimer := false }.report .established).queues =
          { c with
            establishedDone := true, state := .open,
            helloTimer := false : ConnCore }.queues := queues_report rfl
      refine Or.inr ⟨pending, alive, (queues_enqueueAll _ _).2, (queues_enqueueAll _ _).1.trans ?_⟩
      exact congrArg (fun q : Queues => c.staged.foldl Queues.enqueue { q with staged := [] }) told

theorem Establishes.after (establishes : Establishes c' c'') (queues : c'.queues = c.queues)
    (ids : c'.ids = c.ids) :
    Establishes c c'' := by
  have staged : c'.staged = c.staged := congrArg Queues.staged queues
  refine ⟨?_, ?_, establishes.ids.trans ids, ?_⟩
  · exact (congrArg Queues.established queues).symm.trans establishes.pending
  · exact (congrArg Queues.closeFired queues).symm.trans establishes.alive
  · rw [← staged, ← queues]
    exact establishes.queues

theorem sendHello_cases : Calm c c.sendHello ∨ Establishes c c.sendHello := by
  unfold sendHello
  split
  · exact Or.inl (.refl c)
  · exact checkEstablished_cases.imp (fun calm => calm.after rfl rfl) fun establishes =>
      establishes.after rfl rfl

theorem handleControl_cases (message : ControlMsg) : Calm c (c.handleControl message) ∨
    Establishes c (c.handleControl message) := by
  unfold handleControl
  cases message with
  | hello version limits =>
    dsimp only
    split
    · exact Or.inl (.protocolError _)
    · split
      · exact Or.inl ((Calm.teardown _).after rfl rfl)
      · exact checkEstablished_cases.imp (fun calm => calm.after rfl rfl) fun establishes =>
          establishes.after rfl rfl
  | close code => exact Or.inl (.teardown _)
  | maxData value =>
    dsimp only
    split
    · exact Or.inl (.protocolError _)
    · exact Or.inl (.of_eq rfl rfl)
  | maxStreams value =>
    dsimp only
    split
    · exact Or.inl (.protocolError _)
    · exact Or.inl (.of_eq rfl rfl)

theorem onControl_cases (data : Bytes) :
    Calm c (c.onControl data) ∨ Establishes c (c.onControl data) := by
  unfold onControl
  split
  · exact Or.inl (.protocolError _)
  · exact (handleControl_cases _).imp (fun calm => calm.after rfl rfl) fun establishes =>
      establishes.after rfl rfl

/-- A stream of the peer is taken, and surfaced or staged. -/
structure Takes (k : Nat) (c c' : ConnCore) : Prop where
  absent : k ∉ c.ids
  ids : c'.ids = c.ids ++ [k]
  queues : c'.queues =
    if c.establishedDone then c.queues.enqueue k else { c.queues with staged := c.staged ++ [k] }

theorem ids_fatal (reason : KpsReason) : (c.fatal reason).ids = c.ids := by
  unfold fatal
  dsimp only
  split
  · rfl
  · next alive =>
    have alive : c.closeFired = false := Bool.not_eq_true _ ▸ alive
    refine (Calm.queues_teardown _ ?_).2
    exact alive

theorem incomingChannel_cases (k : Nat) (isOpen : Bool) (c : ConnCore) :
    (Calm c (if k ∈ c.ids then c else c.handleIncomingChannel k isOpen) ∧
      (if k ∈ c.ids then c else c.handleIncomingChannel k isOpen).ids = c.ids) ∨
    Takes k c (if k ∈ c.ids then c else c.handleIncomingChannel k isOpen) := by
  split
  · exact Or.inl ⟨.refl c, rfl⟩
  · next absent =>
    unfold handleIncomingChannel
    split
    · exact Or.inl ⟨.protocolError _, ids_fatal _⟩
    · dsimp only
      split
      · next done =>
          exact Or.inr ⟨absent, (queues_enqueue k).2, (queues_enqueue k).1.trans (if_pos done).symm⟩
      · next early => exact Or.inr ⟨absent, rfl, (if_neg early).symm⟩

theorem connEvent_queues (event : Event) (other : event.isQueues = false) :
    Calm c (c.connEvent event) ∨ Establishes c (c.connEvent event) := by
  cases event with
  | controlOpen =>
    exact sendHello_cases.imp (fun calm => calm.after rfl rfl) fun establishes =>
      establishes.after rfl rfl
  | controlMessage data => exact onControl_cases data
  | controlClose => exact Or.inl ((Calm.reservedChannelLost _).after rfl rfl)
  | controlError => exact Or.inl (.reservedChannelLost _)
  | datagramOpen => exact Or.inl (.of_eq rfl rfl)
  | datagramClose => exact Or.inl ((Calm.reservedChannelLost _).after rfl rfl)
  | helloTimer => exact Or.inl .onHelloTimer
  | transportFailed message => exact Or.inl (.teardown _)
  | transportClosed => exact Or.inl (.teardown _)
  | openStream aborted => exact Or.inl (.openStream aborted)
  | openStreamResume op channel isOpen => exact Or.inl (.openStreamResume channel isOpen)
  | openStreamAbort op => exact Or.inl .openStreamAbort
  | sendDatagram data aborted => exact Or.inl (.sendDatagram data aborted)
  | close reason => exact Or.inl (.close reason)
  | datagramMessage => cases other
  | incomingChannel => cases other
  | acceptStream => cases other
  | acceptAbort => cases other
  | receiveDatagram => cases other
  | receiveAbort => cases other
  | _ => exact Or.inl (.refl c)

/-- **An event that is not of the queues** leaves them but for a teardown, or completes the
handshake. -/
theorem step_queues (event : Event) (other : event.isQueues = false) :
    Calm c (c.step event) ∨ Establishes c (c.step event) := by
  unfold step
  cases event.stream with
  | none => exact connEvent_queues event other
  | some k =>
    dsimp only
    split
    · exact Or.inl (.streamEvent k event)
    · exact Or.inl (.refl c)

end ConnCore

end Kps.Ts
