/-
**The hand-off queues of a connection implement what they should.**

A `Desk` is an end whose calls of `acceptStream` and of `receiveDatagram` are numbered in order,
beside the two hand-off queues it should implement: `streams`, which never drops anything, and
`datagrams`, which drops its oldest item when there are more than `MAX_DATAGRAM_QUEUE`. `peers` are
the streams of the peer, in order of arrival.

* `Serves.step` — an end that keeps the queues it should keeps them after an event;
* `hand_off` — the law of the two queues, in every state that is reached.
-/

import Kps.Lib.HandOff
import Kps.Ts.Queues

namespace Kps.Ts

open Kps.Lib

/-- An end whose calls of `acceptStream` and `receiveDatagram` are numbered. -/
structure Desk where
  core : ConnCore
  peers : List Nat := []
  streams : HandOff Nat := {}
  datagrams : HandOff Bytes := {}

namespace Desk

/-- A call gets the next number. -/
def number (d : Desk) : Event → Event
  | .acceptStream _ aborted => .acceptStream d.streams.calls aborted
  | .receiveDatagram _ aborted => .receiveDatagram d.datagrams.calls aborted
  | event => event

/-- The stream of the peer that an event made. -/
def taken (d : Desk) (core : ConnCore) : Event → List Nat
  | .incomingChannel k _ => if k ∈ core.ids ∧ k ∉ d.core.ids then [k] else []
  | _ => []

/-- The streams that an event surfaced. -/
def surfaced (d : Desk) (core : ConnCore) (event : Event) : List Nat :=
  if d.core.establishedDone then d.taken core event
  else if core.establishedDone then d.core.staged
  else []

def streamOps (d : Desk) (core : ConnCore) (event : Event) : List (HandOff.Op Nat) :=
  match event with
  | .acceptStream _ aborted => [.call (aborted || decide (d.core.state = .closed))]
  | .acceptAbort call => [.abort call]
  | event => (d.surfaced core event).map .arrive

def datagramOps (d : Desk) : Event → List (HandOff.Op Bytes)
  | .datagramMessage data => [.arrive data]
  | .receiveDatagram _ aborted => [.call (aborted || decide (d.core.state = .closed))]
  | .receiveAbort call => [.abort call]
  | _ => []

/-- A queue of a connection that is closed is stopped. -/
def ended {α : Type} (core : ConnCore) (h : HandOff α) : HandOff α :=
  if core.closeFired then h.stop else h

def step (d : Desk) (event : Event) : Desk where
  core := d.core.step (d.number event)
  peers := d.peers ++ d.taken (d.core.step (d.number event)) event
  streams := ended (d.core.step (d.number event))
    ((d.streamOps (d.core.step (d.number event)) event).foldl (HandOff.step none) d.streams)
  datagrams := ended (d.core.step (d.number event))
    ((d.datagramOps event).foldl (HandOff.step (some maxDatagramQueue)) d.datagrams)

/-- The desk after the events. -/
def after (limits : FlowLimits) (controlOpen : Bool) (events : List Event) : Desk :=
  events.foldl step { core := ConnCore.new limits controlOpen }

/-- A queue of the connection is the one it should be. -/
structure Mirrors {α : Type} (h : HandOff α) (items : List α) (waiters : List Nat)
    (gifts : List (Nat × α)) (refusals : List Nat) : Prop where
  items : h.items = items
  waiters : h.waiters = waiters
  gifts : h.gifts = gifts
  refused : h.refused = refusals

/-- The end serves its queues. -/
structure Serves (d : Desk) : Prop where
  streams :
    Mirrors d.streams d.core.queues.incoming d.core.queues.acceptWaiters d.core.queues.accepts
    d.core.queues.acceptRefusals
  datagrams :
    Mirrors d.datagrams d.core.queues.dgQueue d.core.queues.dgWaiters d.core.queues.receipts
    d.core.queues.receiptRefusals
  halted : d.core.queues.isClosed = d.core.queues.closeFired
  stopped : d.core.queues.closeFired = true → d.core.queues.acceptWaiters = [] ∧
    d.core.queues.dgWaiters = []
  nodup : d.peers.Nodup
  peers : ∀ k ∈ d.peers, k ∈ d.core.ids
  early : d.core.queues.established = false → d.streams.arrived = [] ∧
    (d.core.queues.closeFired = false → d.core.queues.staged = d.peers)
  established : d.core.queues.established = true → d.streams.arrived = d.peers ∧
    d.core.queues.staged = []

section Mirrors

variable {α : Type} {h : HandOff α} {items : List α} {waiters : List Nat} {gifts : List (Nat × α)}
  {refusals : List Nat} {core : ConnCore}

theorem Mirrors.stop (mirrors : Mirrors h items waiters gifts refusals) :
    Mirrors h.stop items [] gifts (refusals ++ waiters) := by
  refine ⟨mirrors.items, rfl, mirrors.gifts, ?_⟩
  show h.refused ++ h.waiters = _
  rw [mirrors.refused, mirrors.waiters]

/-- A queue that is stopped without a call waiting. -/
theorem Mirrors.ended (mirrors : Mirrors h items waiters gifts refusals)
    (stopped : core.closeFired = true → waiters = []) :
      Mirrors (ended core h) items waiters gifts refusals := by
  unfold Desk.ended
  split
  · next fired =>
    have stop := mirrors.stop
    rw [stopped fired, List.append_nil] at stop
    rw [stopped fired]
    exact stop
  · exact mirrors

theorem Mirrors.call_cons {item : α} {rest : List α}
    (mirrors : Mirrors h (item :: rest) waiters gifts refusals)
    (refuse : Bool) : Mirrors (h.call refuse) rest waiters
    (gifts ++ [(h.calls, item)]) refusals := by
  unfold HandOff.call
  rw [mirrors.items]
  refine ⟨rfl, mirrors.waiters, ?_, mirrors.refused⟩
  exact (HandOff.handed_given h.left item h.calls).trans
    (congrArg (· ++ [(h.calls, item)]) mirrors.gifts)

theorem Mirrors.call_refuse (mirrors : Mirrors h [] waiters gifts refusals) :
    Mirrors (h.call true) [] waiters gifts (refusals ++ [h.calls]) := by
  unfold HandOff.call
  split
  · next item rest items => cases mirrors.items.symm.trans items
  · exact ⟨mirrors.items, mirrors.waiters, mirrors.gifts, congrArg (· ++ [h.calls]) mirrors.refused⟩

theorem Mirrors.call_wait (mirrors : Mirrors h [] waiters gifts refusals) :
    Mirrors (h.call false) [] (waiters ++ [h.calls]) gifts refusals := by
  unfold HandOff.call
  split
  · next item rest items => cases mirrors.items.symm.trans items
  · exact ⟨mirrors.items, congrArg (· ++ [h.calls]) mirrors.waiters, mirrors.gifts, mirrors.refused⟩

theorem Mirrors.abort (mirrors : Mirrors h items waiters gifts refusals) {call : Nat}
    (waiting : call ∈ waiters) :
    Mirrors (h.abort call) items (waiters.erase call) gifts (refusals ++ [call]) := by
  unfold HandOff.abort
  rw [if_pos (mirrors.waiters ▸ waiting)]
  refine ⟨mirrors.items, ?_, mirrors.gifts, congrArg (· ++ [call]) mirrors.refused⟩
  exact congrArg (List.erase · call) mirrors.waiters

theorem Mirrors.abort_none (mirrors : Mirrors h items waiters gifts refusals) {call : Nat}
    (absent : call ∉ waiters) :
    h.abort call = h := by
  unfold HandOff.abort
  rw [if_neg (mirrors.waiters ▸ absent)]

theorem Mirrors.arrive_cons {limit : Option Nat} {waiter : Nat} {rest : List Nat}
    (mirrors : Mirrors h items (waiter :: rest) gifts refusals) (item : α) :
    Mirrors (h.arrive limit item) items rest (gifts ++ [(waiter, item)]) refusals := by
  unfold HandOff.arrive
  rw [mirrors.waiters]
  refine ⟨mirrors.items, rfl, ?_, mirrors.refused⟩
  exact (HandOff.handed_given h.left item waiter).trans
    (congrArg (· ++ [(waiter, item)]) mirrors.gifts)

theorem Mirrors.arrive_nil {limit : Nat} (mirrors : Mirrors h items [] gifts refusals) (item : α) :
    Mirrors (h.arrive (some limit) item)
      (if (items ++ [item]).length > limit then (items ++ [item]).tail else items ++ [item])
      [] gifts refusals := by
  unfold HandOff.arrive
  rw [mirrors.waiters]
  unfold HandOff.trim
  dsimp only
  rw [mirrors.items]
  cases queue : items ++ [item] with
  | nil => simp at queue
  | cons oldest rest =>
    dsimp only [Option.any]
    by_cases full : (oldest :: rest).length > limit
    · rw [if_pos (decide_eq_true full), if_pos full]
      refine ⟨rfl, rfl, ?_, mirrors.refused⟩
      exact (HandOff.handed_dropped h.left oldest _).trans mirrors.gifts
    · rw [if_neg (by simpa using full), if_neg full]
      exact ⟨queue ▸ rfl, rfl, mirrors.gifts, mirrors.refused⟩

theorem ended_same (core : ConnCore) (h : HandOff α) : (Desk.ended core h).arrived = h.arrived ∧
    (Desk.ended core h).calls = h.calls ∧ (Desk.ended core h).aborted = h.aborted := by
  unfold Desk.ended
  split <;> exact ⟨rfl, rfl, rfl⟩

end Mirrors

variable {d : Desk} {core : ConnCore}

/-- A stream is surfaced. -/
theorem Mirrors.enqueue {h : HandOff Nat} {q : Queues}
    (mirrors : Mirrors h q.incoming q.acceptWaiters q.accepts q.acceptRefusals) (k : Nat) :
    Mirrors (h.arrive none k) (q.enqueue k).incoming (q.enqueue k).acceptWaiters
      (q.enqueue k).accepts
      (q.enqueue k).acceptRefusals ∧ (h.arrive none k).arrived = h.arrived ++ [k] := by
  unfold HandOff.arrive Queues.enqueue
  rw [mirrors.waiters]
  cases q.acceptWaiters with
  | nil =>
    dsimp only
    rw [HandOff.trim_none]
    refine ⟨⟨?_, rfl, mirrors.gifts, mirrors.refused⟩, rfl⟩
    exact congrArg (· ++ [k]) mirrors.items
  | cons waiter rest =>
    refine ⟨⟨mirrors.items, rfl, ?_, mirrors.refused⟩, rfl⟩
    exact (HandOff.handed_given h.left k waiter).trans (congrArg (· ++ [(waiter, k)]) mirrors.gifts)

theorem Mirrors.enqueueAll {q : Queues} (keys : List Nat) {h : HandOff Nat}
    (mirrors : Mirrors h q.incoming q.acceptWaiters q.accepts q.acceptRefusals) :
    Mirrors ((keys.map HandOff.Op.arrive).foldl (HandOff.step none) h)
      (keys.foldl Queues.enqueue q).incoming
      (keys.foldl Queues.enqueue q).acceptWaiters (keys.foldl Queues.enqueue q).accepts
      (keys.foldl Queues.enqueue q).acceptRefusals ∧
    ((keys.map HandOff.Op.arrive).foldl (HandOff.step none) h).arrived = h.arrived ++ keys := by
  induction keys generalizing h q with
  | nil => exact ⟨mirrors, (List.append_nil _).symm⟩
  | cons key keys ih =>
    obtain ⟨here, arrived⟩ := mirrors.enqueue key
    obtain ⟨later, arrived'⟩ := ih here
    refine ⟨later, arrived'.trans ?_⟩
    show (h.arrive none key).arrived ++ keys = h.arrived ++ key :: keys
    rw [arrived, List.append_assoc]
    rfl

/-! ### One event -/

/-- What an event leaves of an end, if it concerns the queues alone. -/
theorem Serves.serve (serves : Serves d) {streams : HandOff Nat} {datagrams : HandOff Bytes}
    (established : core.queues.established = d.core.queues.established)
    (closeFired : core.queues.closeFired = d.core.queues.closeFired)
    (isClosed : core.queues.isClosed = d.core.queues.isClosed)
    (staged : core.queues.staged = d.core.queues.staged)
    (ids : ∀ k ∈ d.core.ids, k ∈ core.ids) (arrived : streams.arrived = d.streams.arrived)
    (accepts : Mirrors streams core.queues.incoming core.queues.acceptWaiters core.queues.accepts
      core.queues.acceptRefusals)
    (receives : Mirrors datagrams core.queues.dgQueue core.queues.dgWaiters core.queues.receipts
      core.queues.receiptRefusals)
    (stopped : d.core.queues.closeFired = true → core.queues.acceptWaiters = [] ∧
      core.queues.dgWaiters = []) :
    Serves ⟨core, d.peers, ended core streams, ended core datagrams⟩ := by
  have stopped (fired : core.closeFired = true) := stopped (closeFired.symm.trans fired)
  refine ⟨accepts.ended fun fired => (stopped fired).1,
    receives.ended fun fired => (stopped fired).2, ?_, stopped,
    serves.nodup, fun k member => ids k (serves.peers k member), fun early => ?_, fun done => ?_⟩
  · exact isClosed.trans (serves.halted.trans closeFired.symm)
  · obtain ⟨none, open'⟩ := serves.early (established.symm.trans early)
    exact ⟨(ended_same _ _).1.trans (arrived.trans none),
      fun alive => staged.trans (open' (closeFired.symm.trans alive))⟩
  · obtain ⟨all, none⟩ := serves.established (established.symm.trans done)
    exact ⟨(ended_same _ _).1.trans (arrived.trans all), staged.trans none⟩

/-- An event that leaves the queues but for a teardown. -/
theorem Serves.calm (serves : Serves d) (calm : d.core.Calm core) :
    Serves ⟨core, d.peers, ended core d.streams, ended core d.datagrams⟩ := by
  have same (same : core.queues = d.core.queues) :
      Serves ⟨core, d.peers, ended core d.streams, ended core d.datagrams⟩ := by
    refine serves.serve (by rw [same]) (by rw [same]) (by rw [same])
      (by rw [same]) calm.ids rfl ?_ ?_ ?_
    · rw [same]
      exact serves.streams
    · rw [same]
      exact serves.datagrams
    · rw [same]
      exact serves.stopped
  rcases calm.queues with kept | stop
  · exact same kept
  by_cases fired : d.core.queues.closeFired = true
  · exact same (stop.trans (if_pos fired))
  have stop := stop.trans (if_neg fired)
  have halted : core.closeFired = true := (congrArg Queues.closeFired stop :)
  refine ⟨?_, ?_, ?_, fun _ => ?_, serves.nodup, fun k member => calm.ids k (serves.peers k member),
    fun early => ?_, fun done => ?_⟩
  · show Mirrors
      (ended core d.streams) core.queues.incoming core.queues.acceptWaiters core.queues.accepts
      core.queues.acceptRefusals
    rw [stop, ended, if_pos halted]
    exact serves.streams.stop
  · show Mirrors
      (ended core d.datagrams) core.queues.dgQueue core.queues.dgWaiters core.queues.receipts
      core.queues.receiptRefusals
    rw [stop, ended, if_pos halted]
    exact serves.datagrams.stop
  · show core.queues.isClosed = core.queues.closeFired
    rw [stop]
  · show core.queues.acceptWaiters = [] ∧ core.queues.dgWaiters = []
    rw [stop]
    exact ⟨rfl, rfl⟩
  · have early : core.queues.established = false := early
    rw [stop] at early
    refine ⟨(ended_same _ _).1.trans (serves.early early).1, fun alive => ?_⟩
    have alive : core.queues.closeFired = false := alive
    rw [stop] at alive
    cases alive
  · have done : core.queues.established = true := done
    rw [stop] at done
    refine ⟨(ended_same _ _).1.trans (serves.established done).1, ?_⟩
    show core.queues.staged = []
    rw [stop]

/-- Streams are surfaced. -/
theorem Serves.surface (serves : Serves d) {keys peers : List Nat}
    (queues : core.queues = keys.foldl Queues.enqueue { d.core.queues with
      established := true
      isClosed := d.core.queues.closeFired
      staged := [] })
    (ids : ∀ k ∈ peers, k ∈ core.ids) (nodup : peers.Nodup)
    (arrived : d.streams.arrived ++ keys = peers) :
    Serves ⟨core, peers,
      ended core ((keys.map HandOff.Op.arrive).foldl (HandOff.step none) d.streams),
      ended core d.datagrams⟩ := by
  obtain ⟨streams, arrived'⟩ := Mirrors.enqueueAll (q := { d.core.queues with
    established := true
    isClosed := d.core.queues.closeFired
    staged := [] }) keys serves.streams
  rw [← queues] at streams
  obtain ⟨incoming, waiters, accepts, same, none⟩ :=
    Queues.enqueueAll_same keys { d.core.queues with
    established := true
    isClosed := d.core.queues.closeFired
    staged := [] }
  have same := queues.trans same
  have closeFired : core.queues.closeFired = d.core.queues.closeFired := by rw [same]
  have stopped (fired : core.queues.closeFired = true) :
      core.queues.acceptWaiters = [] ∧ core.queues.dgWaiters = [] := by
    obtain ⟨accept, receive⟩ := serves.stopped (closeFired.symm.trans fired)
    rw [same]
    exact ⟨none accept, receive⟩
  refine ⟨streams.ended fun fired => (stopped fired).1, ?_, ?_, stopped, nodup, ids,
    fun early => ?_, fun _ => ?_⟩
  · have datagrams :
      Mirrors d.datagrams core.queues.dgQueue core.queues.dgWaiters core.queues.receipts
        core.queues.receiptRefusals := by
      rw [same]
      exact serves.datagrams
    exact datagrams.ended fun fired => (stopped fired).2
  · show core.queues.isClosed = core.queues.closeFired
    rw [same]
  · have early : core.queues.established = false := early
    rw [same] at early
    cases early
  · refine ⟨(ended_same _ _).1.trans (arrived'.trans arrived), ?_⟩
    show core.queues.staged = []
    rw [same]

/-- The handshake completes. -/
theorem Serves.establish (serves : Serves d) (establishes : d.core.Establishes core) :
    Serves ⟨core, d.peers,
      ended core ((d.core.staged.map HandOff.Op.arrive).foldl (HandOff.step none) d.streams),
      ended core d.datagrams⟩ := by
  obtain ⟨none, staged⟩ := serves.early establishes.pending
  have staged : d.core.staged = d.peers := staged establishes.alive
  refine serves.surface ?_ (fun k member => ?_) serves.nodup ?_
  · rw [show d.core.queues.closeFired = false from establishes.alive]
    exact establishes.queues
  · rw [establishes.ids]
    exact serves.peers k member
  · rw [none, staged]
    rfl

/-- A stream of the peer is taken. -/
theorem Serves.take (serves : Serves d) {k : Nat} (takes : d.core.Takes k core) :
    Serves ⟨core, d.peers ++ [k],
      ended core (((if d.core.establishedDone then [k] else []).map HandOff.Op.arrive).foldl
      (HandOff.step none) d.streams), ended core d.datagrams⟩ := by
  have nodup : (d.peers ++ [k]).Nodup := by
    refine List.nodup_append.mpr ⟨serves.nodup, List.nodup_singleton k,
      fun old member new fresh same => ?_⟩
    rw [same, List.mem_singleton.mp fresh] at member
    exact takes.absent (serves.peers k member)
  have ids (other : Nat) (member : other ∈ d.peers ++ [k]) : other ∈ core.ids := by
    rw [takes.ids]
    rcases List.mem_append.mp member with old | new
    · exact List.mem_append_left _ (serves.peers other old)
    · exact List.mem_append_right _ new
  have queues := takes.queues
  cases done : d.core.establishedDone with
  | true =>
    obtain ⟨all, none⟩ := serves.established done
    rw [done, if_pos rfl] at queues
    refine serves.surface ?_ ids nodup (congrArg (· ++ [k]) all)
    exact queues.trans
      (congrArg (Queues.enqueue · k) (Queues.of_established done serves.halted none))
  | false =>
    obtain ⟨none, staged⟩ := serves.early done
    rw [done, if_neg Bool.false_ne_true] at queues
    have same (same : core.queues = { d.core.queues with staged := d.core.staged ++ [k] }) :
        Mirrors d.streams core.queues.incoming core.queues.acceptWaiters core.queues.accepts
            core.queues.acceptRefusals ∧
          Mirrors d.datagrams core.queues.dgQueue core.queues.dgWaiters core.queues.receipts
            core.queues.receiptRefusals ∧ core.queues.isClosed = core.queues.closeFired ∧
          (core.queues.closeFired = true → core.queues.acceptWaiters = [] ∧
            core.queues.dgWaiters = []) := by
      rw [same]
      exact ⟨serves.streams, serves.datagrams, serves.halted, serves.stopped⟩
    obtain ⟨streams, datagrams, halted, stopped⟩ := same queues
    refine ⟨streams.ended fun fired => (stopped fired).1,
      datagrams.ended fun fired => (stopped fired).2, halted,
      stopped, nodup, ids, fun _ => ⟨(ended_same _ _).1.trans none, fun alive => ?_⟩,
      fun later => ?_⟩
    · have alive : core.queues.closeFired = false := alive
      rw [queues] at alive
      show core.queues.staged = d.peers ++ [k]
      rw [queues, ← staged alive]
      rfl
    · have later : core.queues.established = true := later
      rw [queues, show d.core.queues.established = false from done] at later
      cases later

/-- A call or an abort at the queue of streams. -/
theorem Serves.atStreams (serves : Serves d) {streams : HandOff Nat}
    {items waiters refusals : List Nat}
    {gifts : List (Nat × Nat)} (ids : core.ids = d.core.ids)
    (arrived : streams.arrived = d.streams.arrived)
    (queues : core.queues = { d.core.queues with
      incoming := items
      acceptWaiters := waiters
      accepts := gifts
      acceptRefusals := refusals })
    (mirrors : Mirrors streams items waiters gifts refusals)
    (stopped : d.core.queues.closeFired = true → waiters = []) :
    Serves ⟨core, d.peers, ended core streams, ended core d.datagrams⟩ := by
  refine serves.serve ?_ ?_ ?_ ?_ (fun k member => ids ▸ member) arrived ?_ ?_ fun fired => ?_
  all_goals rw [queues]
  · exact mirrors
  · exact serves.datagrams
  · exact ⟨stopped fired, (serves.stopped fired).2⟩

/-- An arrival, a call or an abort at the queue of datagrams. -/
theorem Serves.atDatagrams (serves : Serves d) {datagrams : HandOff Bytes} {items : List Bytes}
    {waiters refusals : List Nat} {gifts : List (Nat × Bytes)} (ids : core.ids = d.core.ids)
    (queues : core.queues = { d.core.queues with
      dgQueue := items
      dgWaiters := waiters
      receipts := gifts
      receiptRefusals := refusals })
    (mirrors : Mirrors datagrams items waiters gifts refusals)
    (stopped : d.core.queues.closeFired = true → waiters = []) :
    Serves ⟨core, d.peers, ended core d.streams, ended core datagrams⟩ := by
  refine serves.serve ?_ ?_ ?_ ?_ (fun k member => ids ▸ member) rfl ?_ ?_ fun fired => ?_
  all_goals rw [queues]
  · exact serves.streams
  · exact mirrors
  · exact ⟨(serves.stopped fired).1, stopped fired⟩

/-- A call is refused when the connection is closed. -/
theorem Serves.refuses (serves : Serves d) (aborted : Bool)
    (fired : d.core.queues.closeFired = true) :
    (aborted || decide (d.core.state = .closed)) = true := by
  rw [show decide (d.core.state = .closed) = true from serves.halted.trans fired, Bool.or_true]

theorem Serves.acceptStream (serves : Serves d) (aborted : Bool) :
    Serves ⟨d.core.acceptStream d.streams.calls aborted, d.peers,
      ended (d.core.acceptStream d.streams.calls aborted)
        (d.streams.call (aborted || decide (d.core.state = .closed))),
      ended (d.core.acceptStream d.streams.calls aborted) d.datagrams⟩ := by
  obtain ⟨queues, ids⟩ := @ConnCore.queues_acceptStream d.core d.streams.calls aborted
  have refuses := serves.refuses aborted
  have streams := serves.streams
  generalize (aborted || decide (d.core.state = .closed)) = refuse at queues refuses ⊢
  cases incoming : d.core.queues.incoming with
  | cons k rest =>
    rw [incoming] at streams
    unfold Queues.acceptStream at queues
    rw [incoming] at queues
    exact serves.atStreams ids (HandOff.call_same _ _).1 queues
      (streams.call_cons refuse) fun fired => (serves.stopped fired).1
  | nil =>
    rw [Queues.acceptStream_nil incoming] at queues
    rw [incoming] at streams
    cases refuse with
    | true =>
      refine serves.atStreams ids (HandOff.call_same _ _).1 queues ?_ fun fired =>
        (serves.stopped fired).1
      rw [incoming]
      exact streams.call_refuse
    | false =>
      refine serves.atStreams ids (HandOff.call_same _ _).1 queues ?_ fun fired => ?_
      · rw [incoming]
        exact streams.call_wait
      · cases refuses fired

theorem Serves.receiveDatagram (serves : Serves d) (aborted : Bool) :
    Serves ⟨d.core.receiveDatagram d.datagrams.calls aborted, d.peers,
      ended (d.core.receiveDatagram d.datagrams.calls aborted) d.streams,
      ended (d.core.receiveDatagram d.datagrams.calls aborted)
        (d.datagrams.call (aborted || decide (d.core.state = .closed)))⟩ := by
  obtain ⟨queues, ids⟩ := @ConnCore.queues_receiveDatagram d.core d.datagrams.calls aborted
  have refuses := serves.refuses aborted
  have datagrams := serves.datagrams
  generalize (aborted || decide (d.core.state = .closed)) = refuse at queues refuses ⊢
  cases queue : d.core.queues.dgQueue with
  | cons data rest =>
    rw [queue] at datagrams
    unfold Queues.receiveDatagram at queues
    rw [queue] at queues
    exact serves.atDatagrams ids queues
      (datagrams.call_cons refuse) fun fired => (serves.stopped fired).2
  | nil =>
    rw [Queues.receiveDatagram_nil queue] at queues
    rw [queue] at datagrams
    cases refuse with
    | true =>
      refine serves.atDatagrams ids queues ?_ fun fired => (serves.stopped fired).2
      rw [queue]
      exact datagrams.call_refuse
    | false =>
      refine serves.atDatagrams ids queues ?_ fun fired => ?_
      · rw [queue]
        exact datagrams.call_wait
      · cases refuses fired

theorem Serves.acceptAbort (serves : Serves d) (call : Nat) :
    Serves ⟨d.core.acceptAbort call, d.peers,
      ended (d.core.acceptAbort call) (d.streams.abort call),
      ended (d.core.acceptAbort call) d.datagrams⟩ := by
  obtain ⟨queues, ids⟩ := @ConnCore.queues_acceptAbort d.core call
  unfold Queues.acceptAbort at queues
  by_cases waiting : call ∈ d.core.queues.acceptWaiters
  · rw [if_pos waiting] at queues
    refine serves.atStreams ids (HandOff.abort_same _ _).1 queues
      (serves.streams.abort waiting) fun fired => ?_
    rw [(serves.stopped fired).1] at waiting
    cases waiting
  · rw [if_neg waiting] at queues
    rw [serves.streams.abort_none waiting]
    exact serves.atStreams ids rfl queues serves.streams fun fired => (serves.stopped fired).1

theorem Serves.receiveAbort (serves : Serves d) (call : Nat) :
    Serves ⟨d.core.receiveAbort call, d.peers, ended (d.core.receiveAbort call) d.streams,
      ended (d.core.receiveAbort call) (d.datagrams.abort call)⟩ := by
  obtain ⟨queues, ids⟩ := @ConnCore.queues_receiveAbort d.core call
  unfold Queues.receiveAbort at queues
  by_cases waiting : call ∈ d.core.queues.dgWaiters
  · rw [if_pos waiting] at queues
    refine serves.atDatagrams ids queues (serves.datagrams.abort waiting) fun fired => ?_
    rw [(serves.stopped fired).2] at waiting
    cases waiting
  · rw [if_neg waiting] at queues
    rw [serves.datagrams.abort_none waiting]
    exact serves.atDatagrams ids queues serves.datagrams fun fired => (serves.stopped fired).2

theorem Serves.onDatagram (serves : Serves d) (data : Bytes) :
    Serves ⟨d.core.onDatagram data, d.peers, ended (d.core.onDatagram data) d.streams,
      ended (d.core.onDatagram data) (d.datagrams.arrive (some maxDatagramQueue) data)⟩ := by
  obtain ⟨queues, ids⟩ := @ConnCore.queues_onDatagram d.core data
  have datagrams := serves.datagrams
  unfold Queues.onDatagram at queues
  cases waiting : d.core.queues.dgWaiters with
  | cons waiter rest =>
    rw [waiting] at queues datagrams
    refine serves.atDatagrams ids queues (datagrams.arrive_cons data) fun fired => ?_
    cases waiting.symm.trans (serves.stopped fired).2
  | nil =>
    rw [waiting] at queues datagrams
    exact serves.atDatagrams ids queues (datagrams.arrive_nil data) fun fired => rfl

theorem surfaced_same {event : Event} (same : core.queues.established = d.core.queues.established)
    (none : d.taken core event = []) : d.surfaced core event = [] := by
  unfold surfaced
  split
  · exact none
  · next pending => exact if_neg fun done => pending (same.symm.trans done)

theorem surfaced_calm {event : Event} (calm : d.core.Calm core) (none : d.taken core event = []) :
    d.surfaced core event = [] := by
  refine surfaced_same ?_ none
  rcases calm.queues with kept | stop
  · rw [kept]
  · rw [stop]
    unfold Queues.stop
    split <;> rfl

theorem surfaced_establishes {event : Event} (establishes : d.core.Establishes core) :
    d.surfaced core event = d.core.staged := by
  obtain ⟨_, _, _, same, _⟩ := Queues.enqueueAll_same d.core.staged { d.core.queues with
    established := true
    isClosed := false
    staged := [] }
  have done : core.queues.established = true := by rw [establishes.queues, same]
  unfold surfaced
  rw [establishes.pending, if_neg Bool.false_ne_true]
  exact if_pos done

theorem surfaced_takes {event : Event} {k : Nat} (takes : d.core.Takes k core)
    (taken : d.taken core event = [k]) :
    d.surfaced core event = if d.core.establishedDone then [k] else [] := by
  unfold surfaced
  rw [taken]
  split
  · rfl
  · next pending =>
    have same : core.queues.established = d.core.queues.established := by
      rw [takes.queues, if_neg pending]
    exact if_neg fun done => pending (same.symm.trans done)

/-- No stream is surfaced. -/
theorem Serves.silent {datagrams : HandOff Bytes}
    (kept : Serves ⟨core, d.peers, ended core d.streams, datagrams⟩)
    (event : Event) (same : core.queues.established = d.core.queues.established)
    (none : d.taken core event = []) :
    Serves ⟨core, d.peers ++ d.taken core event,
      ended core (((d.surfaced core event).map HandOff.Op.arrive).foldl
      (HandOff.step Option.none) d.streams), datagrams⟩ := by
  rw [surfaced_same same none, none, List.append_nil]
  exact kept

/-- A channel of the peer appears. -/
theorem Serves.incomingChannel (serves : Serves d) (k : Nat) (isOpen : Bool) :
    Serves (d.step (.incomingChannel k isOpen)) := by
  have cases : (d.core.Calm (d.core.step (.incomingChannel k isOpen)) ∧
      (d.core.step (.incomingChannel k isOpen)).ids = d.core.ids) ∨
      d.core.Takes k (d.core.step (.incomingChannel k isOpen)) :=
        ConnCore.incomingChannel_cases k isOpen d.core
  show Serves ⟨d.core.step (.incomingChannel k isOpen),
    d.peers ++ d.taken (d.core.step (.incomingChannel k isOpen)) (.incomingChannel k isOpen),
    ended (d.core.step (.incomingChannel k isOpen))
      (((d.surfaced (d.core.step (.incomingChannel k isOpen))
      (.incomingChannel k isOpen)).map HandOff.Op.arrive).foldl (HandOff.step none) d.streams),
    ended (d.core.step (.incomingChannel k isOpen)) d.datagrams⟩
  generalize d.core.step (.incomingChannel k isOpen) = core at cases ⊢
  rcases cases with ⟨calm, ids⟩ | takes
  · have taken : d.taken core (.incomingChannel k isOpen) = [] :=
      if_neg fun new => new.2 (ids ▸ new.1)
    rw [surfaced_calm calm taken, taken, List.append_nil]
    exact serves.calm calm
  · have taken : d.taken core (.incomingChannel k isOpen) = [k] :=
      if_pos ⟨takes.ids ▸ List.mem_append_right _ List.mem_cons_self, takes.absent⟩
    rw [surfaced_takes takes taken, taken]
    exact serves.take takes

/-- **One event keeps the queues the ones they should be.** -/
theorem Serves.step (serves : Serves d) (event : Event) : Serves (d.step event) := by
  cases isQueues : event.isQueues with
  | true =>
    cases event with
    | acceptStream waiter aborted =>
      have kept := serves.acceptStream aborted
      rw [← List.append_nil d.peers] at kept
      exact kept
    | acceptAbort call =>
      have kept := serves.acceptAbort call
      rw [← List.append_nil d.peers] at kept
      exact kept
    | datagramMessage data =>
      refine (serves.onDatagram data).silent (.datagramMessage data) ?_ rfl
      rw [(ConnCore.queues_onDatagram data).1]
      unfold Queues.onDatagram
      split <;> rfl
    | receiveDatagram waiter aborted =>
      refine (serves.receiveDatagram aborted).silent (.receiveDatagram waiter aborted) ?_ rfl
      rw [(ConnCore.queues_receiveDatagram _ _).1]
      unfold Queues.receiveDatagram
      split
      · rfl
      · split <;> rfl
    | receiveAbort call =>
      refine (serves.receiveAbort call).silent (.receiveAbort call) ?_ rfl
      rw [(ConnCore.queues_receiveAbort _).1]
      unfold Queues.receiveAbort
      split <;> rfl
    | incomingChannel k isOpen => exact serves.incomingChannel k isOpen
    | _ => cases isQueues
  | false =>
    have other : d.number event = event ∧ (∀ core, d.taken core event = []) ∧
        (∀ core, d.streamOps core event = (d.surfaced core event).map .arrive) ∧
        d.datagramOps event = [] := by
      cases event with
      | acceptStream => cases isQueues
      | acceptAbort => cases isQueues
      | datagramMessage => cases isQueues
      | receiveDatagram => cases isQueues
      | receiveAbort => cases isQueues
      | incomingChannel => cases isQueues
      | _ => exact ⟨rfl, fun _ => rfl, fun _ => rfl, rfl⟩
    obtain ⟨number, taken, streamOps, datagramOps⟩ := other
    unfold Desk.step
    rw [number, taken, streamOps, datagramOps, List.append_nil]
    rcases d.core.step_queues event isQueues with calm | establishes
    · rw [surfaced_calm calm (taken _)]
      exact serves.calm calm
    · rw [surfaced_establishes establishes]
      exact serves.establish establishes

/-! ### Every run -/

theorem Serves.initial (limits : FlowLimits) (controlOpen : Bool) :
    Serves { core := ConnCore.new limits controlOpen } := by
  have queues : (ConnCore.new limits controlOpen).queues =
      (ConnCore.fresh limits controlOpen).queues := by
    cases controlOpen <;> rfl
  refine ⟨?_, ?_, ?_, ?_, List.nodup_nil, fun k member => absurd member List.not_mem_nil,
    fun _ => ⟨rfl, fun _ => ?_⟩, fun done => ?_⟩
  · rw [queues]
    exact ⟨rfl, rfl, rfl, rfl⟩
  · rw [queues]
    exact ⟨rfl, rfl, rfl, rfl⟩
  · rw [queues]
    rfl
  · rw [queues]
    exact fun _ => ⟨rfl, rfl⟩
  · rw [queues]
    rfl
  · rw [queues] at done
    cases done

/-- The queues, as what they recorded. -/
structure Records (events : List Event) (d : Desk) : Prop where
  serves : Serves d
  streams : d.streams.Inv none
  datagrams : d.datagrams.Inv (some maxDatagramQueue)
  accepts : d.streams.calls = events.countP Event.isAccept
  receives : d.datagrams.calls = events.countP Event.isReceive
  arrived : d.datagrams.arrived = events.filterMap Event.datagram

theorem mem_ended {α : Type} {h : HandOff α} {call : Nat} (member : call ∈ h.aborted) :
    call ∈ (ended core h).aborted := by
  rw [(ended_same core h).2.2]
  exact member

theorem inv_ended {α : Type} {limit : Option Nat} {h : HandOff α} (inv : h.Inv limit)
    (core : ConnCore) :
    (ended core h).Inv limit := by
  unfold ended
  split
  · exact inv.stop
  · exact inv

theorem calls_arrivals {α : Type} (items : List α) :
    (items.map HandOff.Op.arrive).countP HandOff.Op.isCall = 0 := by
  rw [List.countP_map]
  exact List.countP_eq_zero.mpr fun _ _ => Bool.false_ne_true

theorem calls_streamOps (d : Desk) (core : ConnCore) (event : Event) :
    (d.streamOps core event).countP HandOff.Op.isCall = if event.isAccept then 1 else 0 := by
  cases event with
  | acceptStream => rfl
  | acceptAbort => rfl
  | _ => exact calls_arrivals _

theorem calls_datagramOps (d : Desk) (event : Event) :
    (d.datagramOps event).countP HandOff.Op.isCall = (if event.isReceive then 1 else 0) ∧
      (d.datagramOps event).filterMap HandOff.Op.item = event.datagram.toList := by
  cases event <;> exact ⟨rfl, rfl⟩

theorem Records.step {events : List Event} (records : Records events d) (event : Event) :
    Records (events ++ [event]) (d.step event) := by
  obtain ⟨-, accepts, -⟩ :=
    HandOff.run_same none (d.streamOps (d.core.step (d.number event)) event) d.streams
  obtain ⟨arrived, receives, -⟩ :=
    HandOff.run_same (some maxDatagramQueue) (d.datagramOps event) d.datagrams
  obtain ⟨calls, items⟩ := calls_datagramOps d event
  refine ⟨records.serves.step event, inv_ended (records.streams.run _) _,
    inv_ended (records.datagrams.run _) _, ?_, ?_, ?_⟩
  · refine (ended_same _ _).2.1.trans (accepts.trans ?_)
    rw [calls_streamOps, records.accepts, List.countP_append, List.countP_singleton]
  · refine (ended_same _ _).2.1.trans (receives.trans ?_)
    rw [calls, records.receives, List.countP_append, List.countP_singleton]
  · refine (ended_same _ _).1.trans (arrived.trans ?_)
    rw [items, records.arrived, List.filterMap_append]
    cases event <;> rfl

theorem records_after (limits : FlowLimits) (controlOpen : Bool) (events : List Event) :
    Records events (after limits controlOpen events) := by
  induction events using List.reverseRecOn with
  | nil => exact ⟨.initial limits controlOpen, HandOff.inv_new, HandOff.inv_new, rfl, rfl, rfl⟩
  | append_singleton events event ih =>
    have step := ih.step event
    unfold after at step ⊢
    rw [List.foldl_append]
    exact step

theorem aborted_after {d : Desk} (rest : List Event) :
    (∀ call ∈ d.streams.aborted, call ∈ (rest.foldl Desk.step d).streams.aborted) ∧
      ∀ call ∈ d.datagrams.aborted, call ∈ (rest.foldl Desk.step d).datagrams.aborted := by
  induction rest generalizing d with
  | nil => exact ⟨fun _ => id, fun _ => id⟩
  | cons event rest ih =>
    obtain ⟨accepts, receives⟩ := @ih (d.step event)
    obtain ⟨-, -, streams⟩ :=
      HandOff.run_same none (d.streamOps (d.core.step (d.number event)) event) d.streams
    obtain ⟨-, -, datagrams⟩ :=
      HandOff.run_same (some maxDatagramQueue) (d.datagramOps event) d.datagrams
    refine ⟨fun call member => accepts call ?_, fun call member => receives call ?_⟩
    · exact mem_ended (streams call member)
    · exact mem_ended (datagrams call member)

/-- The calls that were given a stream, in order, with it. -/
def accepts (d : Desk) : List (Nat × Nat) := d.core.log.filterMap Outcome.accept

/-- The calls that were given a datagram, in order, with it. -/
def receipts (d : Desk) : List (Nat × Bytes) := d.core.log.filterMap Outcome.receipt

/-- The law of the two queues of a connection, where `run` are its states. -/
structure HandOffLaw (run : List Event → Desk) (events : List Event) : Prop where
  acceptApart : (run events).core.incoming = [] ∨ (run events).core.acceptWaiters = []
  receiveApart : (run events).core.dgQueue = [] ∨ (run events).core.dgWaiters = []
  once : (run events).peers.Nodup
  staged : (run events).core.establishedDone = false → (run events).core.closeFired = false →
    (run events).core.staged = (run events).peers
  surfaced : (run events).core.establishedDone = true →
    (run events).peers = (run events).accepts.map Prod.snd ++ (run events).core.incoming
  acceptCalls :
    ((run events).accepts.map Prod.fst ++ (run events).core.log.filterMap Outcome.acceptRefusal ++
    (run events).core.acceptWaiters).Perm (List.range (events.countP Event.isAccept))
  /-- What became of the datagrams that are no longer queued. -/
  datagrams : ∃ left : List (Bytes × Fate),
    events.filterMap Event.datagram = left.map Prod.fst ++ (run events).core.dgQueue ∧
    (run events).receipts = HandOff.handed left ∧
    ∀ data n, (data, .dropped n) ∈ left → n > maxDatagramQueue
  receiveCalls :
    ((run events).receipts.map Prod.fst ++ (run events).core.log.filterMap Outcome.receiptRefusal ++
    (run events).core.dgWaiters).Perm (List.range (events.countP Event.isReceive))
  acceptAborted : ∀ before call rest, events = before ++ .acceptAbort call :: rest →
    call ∈ (run before).core.acceptWaiters → ∀ k, (call, k) ∉ (run events).accepts
  receiveAborted : ∀ before call rest, events = before ++ .receiveAbort call :: rest →
    call ∈ (run before).core.dgWaiters → ∀ data, (call, data) ∉ (run events).receipts
  tornDown : (run events).core.closeFired = true →
    (run events).core.acceptWaiters = [] ∧ (run events).core.dgWaiters = []

theorem after_append (limits : FlowLimits) (controlOpen : Bool) (before : List Event)
    (event : Event) (rest : List Event) : after limits controlOpen (before ++ event :: rest) =
      rest.foldl step ((after limits controlOpen before).step event) := by
  unfold after
  rw [List.foldl_append, List.foldl_cons]

/-- **Every surfaced stream and every datagram is handed to one call or is queued, in order.** -/
theorem hand_off (limits : FlowLimits) (controlOpen : Bool) (events : List Event) :
    HandOffLaw (after limits controlOpen) events := by
  have records := records_after limits controlOpen events
  have serves := records.serves
  have streams : Mirrors (after limits controlOpen events).streams
    (after limits controlOpen events).core.incoming
      (after limits controlOpen events).core.acceptWaiters (after limits controlOpen events).accepts
      ((after limits controlOpen events).core.log.filterMap Outcome.acceptRefusal) := serves.streams
  have datagrams : Mirrors (after limits controlOpen events).datagrams
    (after limits controlOpen events).core.dgQueue
      (after limits controlOpen events).core.dgWaiters (after limits controlOpen events).receipts
      ((after limits controlOpen events).core.log.filterMap Outcome.receiptRefusal) :=
        serves.datagrams
  refine ⟨?_, ?_, serves.nodup, fun early alive => (serves.early early).2 alive, fun done => ?_, ?_,
    ?_, ?_, ?_, ?_, serves.stopped⟩
  · rw [← streams.items, ← streams.waiters]
    exact records.streams.apart
  · rw [← datagrams.items, ← datagrams.waiters]
    exact records.datagrams.apart
  · rw [← (serves.established done).1, records.streams.order, records.streams.left_none,
      streams.gifts, streams.items]
  · rw [← streams.gifts, ← streams.refused, ← streams.waiters, ← records.accepts]
    exact records.streams.settled
  · refine ⟨(after limits controlOpen events).datagrams.left, ?_, datagrams.gifts.symm,
      fun data n member => ?_⟩
    · rw [← records.arrived, records.datagrams.order, datagrams.items]
    · exact of_decide_eq_true (records.datagrams.full data n member)
  · rw [← datagrams.gifts, ← datagrams.refused, ← datagrams.waiters, ← records.receives]
    exact records.datagrams.settled
  · intro before call rest split waiting k
    have waiting : call ∈ (after limits controlOpen before).streams.waiters :=
      (records_after limits controlOpen before).serves.streams.waiters ▸ waiting
    have aborted :
        call ∈ ((after limits controlOpen before).step (.acceptAbort call)).streams.aborted :=
      mem_ended ((HandOff.abort_same call _).2.2.1 waiting)
    have kept := (aborted_after rest).1 call aborted
    rw [← after_append, ← split] at kept
    rw [← streams.gifts]
    exact records.streams.not_given (records.streams.aborted call kept) k
  · intro before call rest split waiting data
    have waiting : call ∈ (after limits controlOpen before).datagrams.waiters :=
      (records_after limits controlOpen before).serves.datagrams.waiters ▸ waiting
    have aborted :
        call ∈ ((after limits controlOpen before).step (.receiveAbort call)).datagrams.aborted :=
      mem_ended ((HandOff.abort_same call _).2.2.1 waiting)
    have kept := (aborted_after rest).2 call aborted
    rw [← after_append, ← split] at kept
    rw [← datagrams.gifts]
    exact records.datagrams.not_given (records.datagrams.aborted call kept) data

end Desk

end Kps.Ts
