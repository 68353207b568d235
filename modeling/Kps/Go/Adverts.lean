/-
**Credit advertisements that race** (`flow.go`).

`onConsumed` and `peerStreamRetired` compute the new limit under the mutex and send it after
unlocking, so the values of concurrent calls reach the peer in any order. The peer keeps the
largest: `onPeerMaxData`, `onPeerMaxStreams` and `onPeerMaxStreamData` ignore a decrease.

* `GoEngine.receiving` is the receive side of an engine, which no operation of the send side
  changes;
* `Receives.raises` — an operation leaves an enforcement limit and sends nothing, or raises it and
  sends it;
* `AdvertRace` is the receiver with its calls in progress, what they sent, and the peer;
* `AdvertRace.converges` — in every run the peer's limits stay below the receiver's, never decrease,
  and are equal to them once everything was sent and delivered.
-/

import Kps.Go.FlowRefinement
import Kps.Lib.Advertised
import Kps.Lib.Run
import Mathlib.Logic.Embedding.Basic

namespace Kps.Go

open Kps.Lib

open Kps.Ts (KpsError)

/-! ### The receive side -/

/-- The receive side of a connection's credit. -/
def ConnFlow.receiving (f : ConnFlow KpsError) : ConnFlow KpsError where
  limits := f.limits
  localMaxData := f.localMaxData
  connReceived := f.connReceived
  connConsumed := f.connConsumed
  connAdvertisedAt := f.connAdvertisedAt
  peerOpenedStreams := f.peerOpenedStreams
  peerRetiredStreams := f.peerRetiredStreams
  advertisedMaxStreams := f.advertisedMaxStreams

/-- The receive side of a stream's credit. -/
def StreamFlow.receiving (sf : StreamFlow KpsError) : StreamFlow KpsError where
  localMax := sf.localMax
  received := sf.received
  consumed := sf.consumed
  advertisedAt := sf.advertisedAt
  cancelled := sf.cancelled

/-- The receive side of an engine: the engine of an endpoint that never sent. -/
def GoEngine.receiving (e : GoEngine) : GoEngine where
  flow := e.flow.receiving
  count := e.count
  streams k := (e.streams k).receiving

section Fields

variable {f f' : ConnFlow KpsError} {sf sf' : StreamFlow KpsError}

theorem reserveData_fields {n amount : UInt64}
    (granted : (f.reserveData sf n).value = .granted amount f' sf') :
    ∃ connReserved sendReserved, f' = { f with connReserved } ∧ sf' = { sf with sendReserved } := by
  unfold ConnFlow.reserveData at granted
  split at granted
  · cases granted
  · cases granted
  · change (ite _ _ _ : Traced (ReserveResult KpsError)).value = _ at granted
    split at granted
    · cases granted
      exact ⟨_, _, rfl, rfl⟩
    · cases granted

theorem reserveStreamSlot_fields (reserved : f.reserveStreamSlot.value = .reserved f') :
    ∃ streamsReserved, f' = { f with streamsReserved } := by
  unfold ConnFlow.reserveStreamSlot at reserved
  split at reserved
  · cases reserved
  · change (ite _ _ _ : Traced (SlotResult KpsError)).value = _ at reserved
    split at reserved
    · cases reserved
      exact ⟨_, rfl⟩
    · cases reserved

theorem onPeerMaxStreamData_fields (value : UInt64) (f : ConnFlow KpsError)
    (sf : StreamFlow KpsError) :
    ∃ wakes peerMaxExplicit,
      sf.onPeerMaxStreamData value f = ({ f with wakes }, { sf with peerMaxExplicit }) := by
  unfold StreamFlow.onPeerMaxStreamData
  split
  · exact ⟨_, _, rfl⟩
  · exact ⟨_, _, rfl⟩

theorem failSend_fields (error : KpsError) (f : ConnFlow KpsError) (sf : StreamFlow KpsError) :
    ∃ wakes sendFailure, sf.failSend error f = ({ f with wakes }, { sf with sendFailure }) := by
  unfold StreamFlow.failSend
  split
  · exact ⟨_, _, rfl⟩
  · exact ⟨_, _, rfl⟩

theorem onDataReceived_fields {n : UInt64}
    (received : (sf.onDataReceived n f).value = .ok (f', sf')) :
    ∃ connReceived received, f' = { f with connReceived } ∧ sf' = { sf with received } := by
  unfold StreamFlow.onDataReceived at received
  rw [Traced.value_bind] at received
  split at received
  · cases received
  · rw [Traced.value_bind] at received
    split at received
    · cases received
    · cases received
      exact ⟨_, _, rfl, rfl⟩

theorem peerStreamOpened_fields (opened : f.peerStreamOpened.value = .ok f') :
    ∃ peerOpenedStreams, f' = { f with peerOpenedStreams } := by
  unfold ConnFlow.peerStreamOpened at opened
  split at opened
  · cases opened
  · cases opened
    exact ⟨_, rfl⟩

/-- The stream's limit stays and nothing is advertised, or the new limit is. -/
theorem streamConsumed_fields (n : UInt64) (f : ConnFlow KpsError) (sf : StreamFlow KpsError) :
    ∃ consumed advertisedAt localMax,
      (sf.streamConsumed n f).value.1 = { sf with consumed, advertisedAt, localMax } ∧
        ((localMax = sf.localMax ∧ (sf.streamConsumed n f).value.2 = 0) ∨
          (sf.streamConsumed n f).value.2 = localMax) := by
  unfold StreamFlow.streamConsumed
  rw [Traced.value_bind]
  split
  · exact ⟨_, _, _, rfl, Or.inl ⟨rfl, rfl⟩⟩
  · rw [Traced.value_bind]
    split
    · exact ⟨_, _, _, rfl, Or.inr rfl⟩
    · exact ⟨_, _, _, rfl, Or.inl ⟨rfl, rfl⟩⟩

/-- The connection's limit stays and nothing is advertised, or the new limit is. -/
theorem connConsumed_fields (n : UInt64) (f : ConnFlow KpsError) :
    ∃ connConsumed connAdvertisedAt localMaxData,
      (StreamFlow.connConsumed n f).value.1 = { f with
        connConsumed, connAdvertisedAt, localMaxData } ∧
        ((localMaxData = f.localMaxData ∧ (StreamFlow.connConsumed n f).value.2 = 0) ∨
          (StreamFlow.connConsumed n f).value.2 = localMaxData) := by
  unfold StreamFlow.connConsumed
  rw [Traced.value_bind, Traced.value_bind]
  split
  · exact ⟨_, _, _, rfl, Or.inr rfl⟩
  · exact ⟨_, _, _, rfl, Or.inl ⟨rfl, rfl⟩⟩

end Fields

/-- The operations of the receive side. -/
def FlowOp.isReceive : FlowOp → Bool
  | .newStream | .onDataReceived _ _ | .onConsumed _ _ | .markCancelled _ | .peerStreamOpened
  | .peerStreamRetired => true
  | _ => false

/-- What the callers promise of an operation, where it finds the engine: the stream exists, a
payload has a length, and what is consumed or retired was received or opened before. -/
def Promised (e : GoEngine) : FlowOp → Prop
  | .onDataReceived k n => k < e.count ∧ n.toNat < 2 ^ 63
  | .onConsumed k n =>
    k < e.count ∧ Word.int (e.streams k).consumed + Word.int n ≤ Word.int (e.streams k).received
  | .markCancelled k => k < e.count
  | .peerStreamRetired => e.flow.peerRetiredStreams < e.flow.peerOpenedStreams
  | _ => True

instance (e : GoEngine) : (op : FlowOp) → Decidable (Promised e op)
  | .onDataReceived k n => inferInstanceAs (Decidable (k < e.count ∧ n.toNat < 2 ^ 63))
  | .onConsumed k n =>
    inferInstanceAs (Decidable
      (k < e.count ∧ Word.int (e.streams k).consumed + Word.int n ≤
        Word.int (e.streams k).received))
  | .markCancelled k => inferInstanceAs (Decidable (k < e.count))
  | .peerStreamRetired =>
    inferInstanceAs (Decidable (e.flow.peerRetiredStreams < e.flow.peerOpenedStreams))
  | .onPeerHello _ | .onPeerMaxData _ | .onPeerMaxStreams _ | .onPeerMaxStreamData _ _ | .newStream
  | .reserveData _ _
  | .commitData _ _ | .releaseData _ _ | .reserveStreamSlot | .commitStreamSlot | .releaseStreamSlot
  | .failSend _ _
  | .fail _ | .peerStreamOpened => inferInstanceAs (Decidable True)

namespace GoEngine

variable {e : GoEngine}

theorem receiving_put (e : GoEngine) (k : Nat) (f : ConnFlow KpsError) (sf : StreamFlow KpsError) :
    GoEngine.receiving (e.put k f sf) = e.receiving.put k f.receiving sf.receiving := by
  unfold GoEngine.receiving Engine.put
  dsimp only
  congr 1
  funext j
  by_cases same : j = k
  · subst same
    rw [Function.update_self, Function.update_self]
  · rw [Function.update_of_ne same, Function.update_of_ne same]

theorem receiving_put_same {k : Nat} {f : ConnFlow KpsError} {sf : StreamFlow KpsError}
    (flow : f.receiving = e.flow.receiving) (stream : sf.receiving = (e.streams k).receiving) :
    GoEngine.receiving (e.put k f sf) = e.receiving := by
  rw [receiving_put, flow, stream]
  unfold Engine.put
  congr 1
  exact Function.update_eq_self k _

theorem receiving_onFlow_same {f : ConnFlow KpsError} (flow : f.receiving = e.flow.receiving) :
    GoEngine.receiving (e.onFlow f) = e.receiving := by
  unfold GoEngine.receiving Engine.onFlow
  rw [flow]

/-- **The send side leaves the receive side.** -/
theorem receiving_send {op : FlowOp} (send : op.isReceive = false) :
    GoEngine.receiving (e.step op).value.1 = e.receiving := by
  cases op with
  | onPeerHello limits => exact receiving_onFlow_same rfl
  | onPeerMaxData value =>
    refine receiving_onFlow_same ?_
    unfold ConnFlow.onPeerMaxData
    split <;> rfl
  | onPeerMaxStreams value =>
    refine receiving_onFlow_same ?_
    unfold ConnFlow.onPeerMaxStreams
    split <;> rfl
  | onPeerMaxStreamData k value =>
    obtain ⟨_, _, same⟩ := onPeerMaxStreamData_fields value e.flow (e.streams k)
    dsimp only [GoEngine.step]
    rw [same]
    exact receiving_put_same rfl rfl
  | reserveData k n =>
    dsimp only [GoEngine.step]
    rw [Traced.value_bind]
    split
    · rfl
    · next granted =>
      obtain ⟨_, _, rfl, rfl⟩ := reserveData_fields granted
      exact receiving_put_same rfl rfl
    · rfl
  | commitData k n => exact receiving_put_same rfl rfl
  | releaseData k n => exact receiving_put_same rfl rfl
  | reserveStreamSlot =>
    dsimp only [GoEngine.step]
    rw [Traced.value_bind]
    split
    · rfl
    · next reserved =>
      obtain ⟨_, rfl⟩ := reserveStreamSlot_fields reserved
      exact receiving_onFlow_same rfl
    · rfl
  | commitStreamSlot => exact receiving_onFlow_same rfl
  | releaseStreamSlot => exact receiving_onFlow_same rfl
  | failSend k error =>
    obtain ⟨_, _, same⟩ := failSend_fields error e.flow (e.streams k)
    dsimp only [GoEngine.step]
    rw [same]
    exact receiving_put_same rfl rfl
  | fail error =>
    refine receiving_onFlow_same ?_
    unfold ConnFlow.fail
    split <;> rfl
  | _ => cases send

theorem receiving_create (e : GoEngine) :
    GoEngine.receiving (e.create e.flow.newStream) =
      e.receiving.create e.receiving.flow.newStream := by
  unfold GoEngine.receiving Engine.create
  dsimp only
  congr 1
  funext j
  by_cases same : j = e.count
  · subst same
    rw [Function.update_self, Function.update_self]
    rfl
  · rw [Function.update_of_ne same, Function.update_of_ne same]

section Receive

variable (n : UInt64) (f : ConnFlow KpsError) (sf : StreamFlow KpsError)

theorem onDataReceived_receiving : (sf.receiving.onDataReceived n f.receiving).value =
    (sf.onDataReceived n f).value.map (Prod.map ConnFlow.receiving StreamFlow.receiving) := by
  unfold StreamFlow.onDataReceived
  rw [Traced.value_bind, Traced.value_bind]
  by_cases exceeds : (Word.add sf.received n).value > sf.localMax
  · rw [if_pos exceeds,
      if_pos (show (Word.add sf.receiving.received n).value > sf.receiving.localMax from exceeds)]
    rfl
  · rw [if_neg exceeds,
      if_neg (show ¬ (Word.add sf.receiving.received n).value > sf.receiving.localMax from exceeds),
      Traced.value_bind, Traced.value_bind]
    by_cases connOver : (Word.add f.connReceived n).value > f.localMaxData
    · rw [if_pos connOver,
        if_pos
          (show (Word.add f.receiving.connReceived n).value > f.receiving.localMaxData
            from connOver)]
      rfl
    · rw [if_neg connOver,
        if_neg
          (show ¬ (Word.add f.receiving.connReceived n).value > f.receiving.localMaxData
            from connOver)]
      rfl

theorem streamConsumed_receiving : (sf.receiving.streamConsumed n f.receiving).value =
    Prod.map StreamFlow.receiving id (sf.streamConsumed n f).value := by
  unfold StreamFlow.streamConsumed
  rw [Traced.value_bind, Traced.value_bind]
  by_cases cancelled : sf.cancelled = true
  · rw [if_pos cancelled, if_pos (show sf.receiving.cancelled = true from cancelled)]
    rfl
  · rw [if_neg cancelled, if_neg (show ¬ sf.receiving.cancelled = true from cancelled),
      Traced.value_bind, Traced.value_bind]
    by_cases due : (Word.sub (Word.add sf.consumed n).value sf.advertisedAt).value ≥
      f.limits.maxStreamData / 2
    · rw [if_pos due,
        if_pos (show
          (Word.sub (Word.add sf.receiving.consumed n).value sf.receiving.advertisedAt).value ≥
        f.receiving.limits.maxStreamData / 2 from due)]
      rfl
    · rw [if_neg due,
        if_neg (show
          ¬ (Word.sub (Word.add sf.receiving.consumed n).value sf.receiving.advertisedAt).value ≥
        f.receiving.limits.maxStreamData / 2 from due)]
      rfl

theorem connConsumed_receiving : (StreamFlow.connConsumed n f.receiving).value =
    Prod.map ConnFlow.receiving id (StreamFlow.connConsumed n f).value := by
  unfold StreamFlow.connConsumed
  rw [Traced.value_bind, Traced.value_bind, Traced.value_bind, Traced.value_bind]
  by_cases due : (Word.sub (Word.add f.connConsumed n).value f.connAdvertisedAt).value ≥
    f.limits.maxData / 2
  · rw [if_pos due,
      if_pos (show
        (Word.sub (Word.add f.receiving.connConsumed n).value f.receiving.connAdvertisedAt).value ≥
      f.receiving.limits.maxData / 2 from due)]
    rfl
  · rw [if_neg due,
      if_neg (show
        ¬ (Word.sub (Word.add f.receiving.connConsumed n).value
          f.receiving.connAdvertisedAt).value ≥
      f.receiving.limits.maxData / 2 from due)]
    rfl

end Receive

/-- **The receive side of an engine runs on its own.** -/
theorem receiving_receive {op : FlowOp} (receive : op.isReceive = true) :
    GoEngine.receiving (e.step op).value.1 = (e.receiving.step op).value.1 := by
  cases op with
  | newStream => exact receiving_create e
  | onDataReceived k n =>
    dsimp only [GoEngine.step]
    rw [Traced.value_bind, Traced.value_bind,
      show (e.receiving.streams k).onDataReceived n e.receiving.flow =
        (e.streams k).receiving.onDataReceived n e.flow.receiving from rfl,
          onDataReceived_receiving]
    cases (StreamFlow.onDataReceived n e.flow (e.streams k)).value with
    | error text => rfl
    | ok next => exact receiving_put e k next.1 next.2
  | onConsumed k n =>
    have stream := streamConsumed_receiving n e.flow (e.streams k)
    have conn := connConsumed_receiving n e.flow
    show GoEngine.receiving (e.put k (StreamFlow.connConsumed n e.flow).value.1
        (StreamFlow.streamConsumed n e.flow (e.streams k)).value.1) =
      e.receiving.put k (StreamFlow.connConsumed n e.flow.receiving).value.1
        (StreamFlow.streamConsumed n e.flow.receiving (e.streams k).receiving).value.1
    rw [receiving_put, stream, conn]
    rfl
  | markCancelled k => exact receiving_put e k e.flow (e.streams k).markCancelled
  | peerStreamOpened =>
    dsimp only [GoEngine.step]
    rw [Traced.value_bind, Traced.value_bind]
    unfold ConnFlow.peerStreamOpened
    by_cases full : e.flow.peerOpenedStreams ≥ e.flow.advertisedMaxStreams
    · rw [if_pos full,
        if_pos
          (show e.receiving.flow.peerOpenedStreams ≥ e.receiving.flow.advertisedMaxStreams
            from full)]
      rfl
    · rw [if_neg full,
        if_neg
          (show ¬ e.receiving.flow.peerOpenedStreams ≥ e.receiving.flow.advertisedMaxStreams
            from full)]
      rfl
  | peerStreamRetired => rfl
  | _ => cases receive

end GoEngine

/-! ### The accounting of the receive side -/

/-- The accounting of the receive side of an engine. -/
def Receives (e : GoEngine) : Prop := EngineInv (GoEngine.view e.receiving)

variable {e : GoEngine} {op : FlowOp}

theorem allowed_receiving (receive : op.isReceive = true) (promised : Promised e op) :
    Allowed (GoEngine.view e.receiving) op := by
  cases op with
  | newStream => exact trivial
  | onDataReceived k n =>
    obtain ⟨present, length⟩ := promised
    exact ⟨present, by omega⟩
  | onConsumed k n => exact promised
  | markCancelled k => exact promised
  | peerStreamOpened => exact trivial
  | peerStreamRetired => exact Word.int_lt_iff.mpr promised
  | _ => cases receive

/-- The receive side, after an operation of the receive side. -/
theorem Receives.view (receives : Receives e) (receive : op.isReceive = true)
    (promised : Promised e op) :
    GoEngine.view (GoEngine.receiving (e.step op).value.1) =
      (TsEngine.step (GoEngine.view e.receiving) op).1 := by
  obtain ⟨e', verdict, ran, view, -⟩ :=
    GoEngine.step_view receives (allowed_receiving receive promised)
  rw [GoEngine.receiving_receive receive, ran]
  exact view

theorem Receives.step (receives : Receives e) (promised : Promised e op) :
    Receives (e.step op).value.1 := by
  unfold Receives
  cases receive : op.isReceive with
  | true =>
    rw [receives.view receive promised]
    exact EngineInv.step receives (allowed_receiving receive promised)
  | false =>
    rw [GoEngine.receiving_send receive]
    exact receives

theorem Receives.new {limits : FlowWindows} (valid : limits.view.Valid) :
    Receives (GoEngine.new limits) := by
  have conn : ConnInv (Ts.ConnFlow.new limits.view) := by
    have hello := @ConnInv.hello limits ⟨0, 0, 0⟩ valid ⟨by decide, by decide, by decide⟩
    exact { hello with }
  exact ⟨conn, fun k created => absurd created (Nat.not_lt_zero k), rfl, rfl, rfl, rfl⟩

/-! An enforcement limit never decreases. -/

theorem Receives.data_le (receives : Receives e) {k : Nat} {n : UInt64}
    (promised : Promised e (.onConsumed k n)) :
    Word.int e.flow.localMaxData ≤
      Word.int (e.step (.onConsumed k n)).value.1.flow.localMaxData := by
  have view := congrArg (fun e : TsEngine => e.flow.window.limit) (receives.view rfl promised)
  have window := ((GoEngine.view e.receiving).flow.window_connDataConsumed (Word.int n)).1
  have limit : Word.int (e.step (.onConsumed k n)).value.1.flow.localMaxData =
      ((GoEngine.view e.receiving).flow.window.consume Ts.maxOffset true (Word.int n)).1.limit := by
    rw [← window]
    exact view
  have sound := receives.conn.window
  have capped : Word.int e.flow.localMaxData ≤ Ts.maxOffset :=
    sound.capped (Int.ofNat_le.mpr receives.conn.limits.data)
  have raised := sound.valid.limit_le_consume Ts.maxOffset true (Word.int_nonneg n)
  rw [limit]
  refine le_trans ?_ raised
  exact le_min (le_refl _) capped

theorem Receives.streamData_le (receives : Receives e) {k : Nat} {n : UInt64}
    (promised : Promised e (.onConsumed k n)) :
    Word.int (e.streams k).localMax ≤
      Word.int ((e.step (.onConsumed k n)).value.1.streams k).localMax := by
  have limits : Ts.FlowLimits.Valid (GoEngine.view e.receiving).flow.localLimits :=
    receives.conn.limits
  have own := receives.stream k promised.1
  have window :=
    (Ts.StreamFlow.window_streamConsumed (GoEngine.view e.receiving).flow.localLimits (Word.int n)
    ((GoEngine.view e.receiving).streams k)).1
  have view :=
    congrArg (fun e : TsEngine => (e.streams k).localMaxStreamData) (receives.view rfl promised)
  have limit : Word.int ((e.step (.onConsumed k n)).value.1.streams k).localMax =
      ((((GoEngine.view e.receiving).streams k).window
        (GoEngine.view e.receiving).flow.localLimits).consume Ts.maxOffset
        (!((GoEngine.view e.receiving).streams k).cancelled) (Word.int n)).1.limit := by
    rw [← window]
    exact view.trans (congrArg Ts.StreamFlow.localMaxStreamData (Function.update_self k _ _))
  have capped : Word.int (e.streams k).localMax ≤ Ts.maxOffset :=
    own.window.capped (Int.ofNat_le.mpr limits.streamData)
  have raised := own.window.valid.limit_le_consume Ts.maxOffset
    (!((GoEngine.view e.receiving).streams k).cancelled) (Word.int_nonneg n)
  rw [limit]
  refine le_trans ?_ raised
  exact le_min (le_refl _) capped

theorem Receives.streams_le (receives : Receives e) (promised : Promised e .peerStreamRetired) :
    Word.int e.flow.advertisedMaxStreams ≤
      Word.int (e.step .peerStreamRetired).value.1.flow.advertisedMaxStreams := by
  have view :=
    congrArg (fun e : TsEngine => e.flow.advertisedMaxStreams) (receives.view rfl promised)
  have after : Word.int (e.step .peerStreamRetired).value.1.flow.advertisedMaxStreams =
      Ts.saturate ((GoEngine.view e.receiving).flow.localLimits.initialMaxStreams +
        ((GoEngine.view e.receiving).flow.peerRetiredStreams + 1)) := view
  have before : Word.int e.flow.advertisedMaxStreams = Ts.saturate
      ((GoEngine.view e.receiving).flow.localLimits.initialMaxStreams +
        (GoEngine.view e.receiving).flow.peerRetiredStreams) :=
    receives.conn.formula
  rw [Ts.saturate_eq_min] at before after
  omega

/-! ### What an operation advertises -/

/-- A value that is sent to the peer. -/
inductive Advert
  | maxStreamData (k : Nat) (value : UInt64)
  | maxData (value : UInt64)
  | maxStreams (value : UInt64)
  deriving DecidableEq, Repr

namespace Advert

def data : Advert → Option Int
  | maxData value => some (Word.int value)
  | _ => none

def streams : Advert → Option Int
  | maxStreams value => some (Word.int value)
  | _ => none

def streamData (k : Nat) : Advert → Option Int
  | maxStreamData j value => if j = k then some (Word.int value) else none
  | _ => none

end Advert

/-- What the call of an operation sends after it unlocked, in order. -/
def GoEngine.adverts (e : GoEngine) : FlowOp → List Advert
  | .onConsumed k n =>
    (StreamFlow.positive (StreamFlow.streamConsumed n e.flow (e.streams k)).value.2).toList.map
    (.maxStreamData k) ++
      (StreamFlow.positive (StreamFlow.connConsumed n e.flow).value.2).toList.map .maxData
  | .peerStreamRetired => [.maxStreams e.flow.peerStreamRetired.value.advertisedMaxStreams]
  | _ => []

/-- A limit that is raised to a value, of which a zero is not sent. -/
theorem advances_positive {limit limit' advert : UInt64} (raised : Word.int limit ≤ Word.int limit')
    (kinds : (limit' = limit ∧ advert = 0) ∨ advert = limit') :
    Advances (Word.int limit) (Word.int limit')
      ((StreamFlow.positive advert).toList.map Word.int) := by
  rcases kinds with ⟨rfl, rfl⟩ | rfl
  · exact Or.inl ⟨rfl, rfl⟩
  · unfold StreamFlow.positive
    by_cases positive : advert > 0
    · rw [if_pos positive]
      exact Or.inr ⟨raised, rfl⟩
    · rw [if_neg positive]
      have zero : ¬ Word.int 0 < Word.int advert := mt Word.int_lt_iff.mp positive
      have nonneg := Word.int_nonneg limit
      have none : Word.int 0 = 0 := rfl
      exact Or.inl ⟨by omega, rfl⟩

theorem adverts_data (k : Nat) (n : UInt64) (e : GoEngine) :
    (e.adverts (.onConsumed k n)).filterMap Advert.data =
    (StreamFlow.positive (StreamFlow.connConsumed n e.flow).value.2).toList.map Word.int := by
  unfold GoEngine.adverts
  rw [List.filterMap_append, List.filterMap_map, List.filterMap_map]
  cases StreamFlow.positive (StreamFlow.streamConsumed n e.flow (e.streams k)).value.2 <;>
    cases StreamFlow.positive (StreamFlow.connConsumed n e.flow).value.2 <;> rfl

theorem adverts_streamData (j k : Nat) (n : UInt64) (e : GoEngine) :
    (e.adverts (.onConsumed k n)).filterMap (Advert.streamData j) =
      if k =
        j then (StreamFlow.positive
          (StreamFlow.streamConsumed n e.flow (e.streams k)).value.2).toList.map Word.int
      else [] := by
  unfold GoEngine.adverts
  rw [List.filterMap_append, List.filterMap_map, List.filterMap_map]
  by_cases same : k = j
  · rw [if_pos same]
    cases StreamFlow.positive (StreamFlow.streamConsumed n e.flow (e.streams k)).value.2 <;>
      cases StreamFlow.positive (StreamFlow.connConsumed n e.flow).value.2 <;>
        simp [Advert.streamData, same]
  · rw [if_neg same]
    cases StreamFlow.positive (StreamFlow.streamConsumed n e.flow (e.streams k)).value.2 <;>
      cases StreamFlow.positive (StreamFlow.connConsumed n e.flow).value.2 <;>
        simp [Advert.streamData, same]

theorem adverts_streams (k : Nat) (n : UInt64) (e : GoEngine) :
    (e.adverts (.onConsumed k n)).filterMap Advert.streams = [] := by
  unfold GoEngine.adverts
  rw [List.filterMap_append, List.filterMap_map, List.filterMap_map]
  cases StreamFlow.positive (StreamFlow.streamConsumed n e.flow (e.streams k)).value.2 <;>
    cases StreamFlow.positive (StreamFlow.connConsumed n e.flow).value.2 <;> rfl

/-- What an operation does to the limits, and what its call sends. -/
structure Raises (e : GoEngine) (op : FlowOp) (e' : GoEngine) : Prop where
  limits : e'.flow.limits = e.flow.limits
  count : e.count ≤ e'.count
  data : Advances (Word.int e.flow.localMaxData) (Word.int e'.flow.localMaxData)
    ((e.adverts op).filterMap Advert.data)
  streams : Advances (Word.int e.flow.advertisedMaxStreams) (Word.int e'.flow.advertisedMaxStreams)
    ((e.adverts op).filterMap Advert.streams)
  streamData : ∀ j < e.count,
    Advances (Word.int (e.streams j).localMax) (Word.int (e'.streams j).localMax)
    ((e.adverts op).filterMap (Advert.streamData j))
  fresh : ∀ j, e.count ≤ j → (e.adverts op).filterMap (Advert.streamData j) = [] ∧
    ((e'.streams j).localMax = (e.streams j).localMax ∨
      (e'.streams j).localMax = e.flow.limits.maxStreamData)

/-- An operation that leaves the limits. -/
theorem Raises.same {e' : GoEngine} (silent : e.adverts op = [])
    (limits : e'.flow.limits = e.flow.limits)
    (count : e.count ≤ e'.count) (data : e'.flow.localMaxData = e.flow.localMaxData)
    (streams : e'.flow.advertisedMaxStreams = e.flow.advertisedMaxStreams)
    (streamData : ∀ j, (e'.streams j).localMax = (e.streams j).localMax ∨
      e.count ≤ j ∧ (e'.streams j).localMax = e.flow.limits.maxStreamData) : Raises e op e' where
  limits := limits
  count := count
  data := Or.inl ⟨congrArg Word.int data, by rw [silent]; rfl⟩
  streams := Or.inl ⟨congrArg Word.int streams, by rw [silent]; rfl⟩
  streamData j created := by
    refine Or.inl ⟨congrArg Word.int ?_, by rw [silent]; rfl⟩
    rcases streamData j with same | ⟨absent, -⟩
    · exact same
    · omega
  fresh j absent := ⟨by rw [silent]; rfl, (streamData j).imp id And.right⟩

/-- **An operation leaves a limit and sends nothing, or raises it and sends it.** -/
theorem Receives.raises (receives : Receives e) (promised : Promised e op) :
    Raises e op (e.step op).value.1 := by
  have sends (send : op.isReceive = false) (silent : e.adverts op = []) :
      Raises e op (e.step op).value.1 := by
    have same := GoEngine.receiving_send (e := e) send
    refine .same silent (congrArg (·.flow.limits) same) (le_of_eq (congrArg Engine.count same).symm)
      (congrArg (·.flow.localMaxData) same) (congrArg (·.flow.advertisedMaxStreams) same) fun j =>
        Or.inl ?_
    have left := congrArg (fun r : GoEngine => (r.streams j).localMax) same
    exact left
  cases op with
  | newStream =>
    refine .same rfl rfl (Nat.le_succ _) rfl rfl fun j => ?_
    show (Function.update e.streams e.count e.flow.newStream j).localMax = _ ∨ _
    by_cases same : j = e.count
    · subst same
      refine Or.inr ⟨le_refl _, ?_⟩
      show (Function.update e.streams e.count e.flow.newStream e.count).localMax = _
      rw [Function.update_self]
      rfl
    · rw [Function.update_of_ne same]
      exact Or.inl rfl
  | onDataReceived k n =>
    dsimp only [GoEngine.step]
    rw [Traced.value_bind]
    split
    · exact .same rfl rfl (le_refl _) rfl rfl fun _ => Or.inl rfl
    · next received =>
      obtain ⟨_, _, rfl, rfl⟩ := onDataReceived_fields received
      refine .same rfl rfl (le_refl _) rfl rfl fun j => Or.inl ?_
      show (Function.update e.streams k _ j).localMax = _
      by_cases same : j = k
      · subst same
        rw [Function.update_self]
      · rw [Function.update_of_ne same]
  | onConsumed k n =>
    have data := receives.data_le promised
    have streamData := receives.streamData_le promised
    obtain ⟨_, _, localMax, stream, streamAdvert⟩ := streamConsumed_fields n e.flow (e.streams k)
    obtain ⟨_, _, localMaxData, conn, connAdvert⟩ := connConsumed_fields n e.flow
    have stepped : (e.step (.onConsumed k n)).value.1 =
      e.put k (StreamFlow.connConsumed n e.flow).value.1
      (StreamFlow.streamConsumed n e.flow (e.streams k)).value.1 := rfl
    rw [stepped, stream, conn] at data streamData ⊢
    have changed : Word.int (e.streams k).localMax ≤ Word.int localMax := by
      refine le_trans streamData (le_of_eq ?_)
      show Word.int (StreamFlow.localMax (Function.update e.streams k _ k)) = _
      rw [Function.update_self]
    refine ⟨rfl, le_refl _, ?_, Or.inl ⟨rfl, adverts_streams k n e⟩, fun j _ => ?_,
      fun j absent => ?_⟩
    · rw [adverts_data]
      exact advances_positive data connAdvert
    · rw [adverts_streamData]
      show Advances _ (Word.int (StreamFlow.localMax (Function.update e.streams k _ j))) _
      by_cases same : j = k
      · subst same
        rw [Function.update_self, if_pos rfl]
        exact advances_positive changed streamAdvert
      · rw [Function.update_of_ne same, if_neg (Ne.symm same)]
        exact Or.inl ⟨rfl, rfl⟩
    · have other : k ≠ j := fun same => absurd promised.1 (by omega)
      refine ⟨(adverts_streamData j k n e).trans (if_neg other), Or.inl ?_⟩
      show StreamFlow.localMax (Function.update e.streams k _ j) = _
      rw [Function.update_of_ne (Ne.symm other)]
  | markCancelled k =>
    refine .same rfl rfl (le_refl _) rfl rfl fun j => Or.inl ?_
    show (Function.update e.streams k _ j).localMax = _
    by_cases same : j = k
    · subst same
      rw [Function.update_self]
      rfl
    · rw [Function.update_of_ne same]
  | peerStreamOpened =>
    dsimp only [GoEngine.step]
    rw [Traced.value_bind]
    split
    · exact .same rfl rfl (le_refl _) rfl rfl fun _ => Or.inl rfl
    · next opened =>
      obtain ⟨_, rfl⟩ := peerStreamOpened_fields opened
      exact .same rfl rfl (le_refl _) rfl rfl fun _ => Or.inl rfl
  | peerStreamRetired =>
    exact ⟨rfl, le_refl _, Or.inl ⟨rfl, rfl⟩, Or.inr ⟨receives.streams_le promised, rfl⟩,
      fun j _ => Or.inl ⟨rfl, rfl⟩, fun j _ => ⟨rfl, Or.inl rfl⟩⟩
  | _ => exact sends rfl rfl

/-! ### What the peer learns -/

/-- A limit that one endpoint enforces and the other keeps to. -/
inductive Limit
  | streamData (k : Nat)
  | data
  | streams
  deriving DecidableEq, Repr

/-- The value of an advertisement of the limit. -/
def Advert.of : Limit → Advert → Option Int
  | .streamData k => Advert.streamData k
  | .data => Advert.data
  | .streams => Advert.streams

/-- The limit that the receiver enforces. -/
def GoEngine.enforced (e : GoEngine) : Limit → UInt64
  | .streamData k => (e.streams k).localMax
  | .data => e.flow.localMaxData
  | .streams => e.flow.advertisedMaxStreams

/-- The limit that the peer keeps to; its stream `far k` is stream `k` of the receiver. -/
def GoEngine.learned (far : Nat ↪ Nat) (e : GoEngine) : Limit → UInt64
  | .streamData k => e.flow.peerMaxLocked (e.streams (far k))
  | .data => e.flow.peerMaxData
  | .streams => e.flow.peerMaxStreams

/-- The limit that the HELLO carries. -/
def FlowWindows.initial (limits : FlowWindows) : Limit → UInt64
  | .streamData _ => limits.maxStreamData
  | .data => limits.maxData
  | .streams => limits.maxStreams

/-- An operation raises every limit it advertises, of the streams that exist. -/
theorem Raises.advances {e' : GoEngine} (raises : Raises e op e') {limit : Limit}
    (created : ∀ k, limit = .streamData k → k < e.count) :
    Advances (Word.int (e.enforced limit)) (Word.int (e'.enforced limit))
      ((e.adverts op).filterMap (Advert.of limit)) := by
  cases limit with
  | streamData k => exact raises.streamData k (created k rfl)
  | data => exact raises.data
  | streams => exact raises.streams

/-- The operations by which an endpoint learns the limits of its peer. -/
def FlowOp.learns : FlowOp → Bool
  | .onPeerHello _ | .onPeerMaxData _ | .onPeerMaxStreams _ | .onPeerMaxStreamData _ _ => true
  | _ => false

/-- What an endpoint knows of the limits of its peer. -/
structure Unlearned (e e' : GoEngine) : Prop where
  initial : e'.flow.peerInitStreamData = e.flow.peerInitStreamData
  data : e'.flow.peerMaxData = e.flow.peerMaxData
  streams : e'.flow.peerMaxStreams = e.flow.peerMaxStreams
  count : e.count ≤ e'.count
  explicit : ∀ j, (e'.streams j).peerMaxExplicit = (e.streams j).peerMaxExplicit ∨
    e.count ≤ j ∧ (e'.streams j).peerMaxExplicit = 0

namespace Unlearned

theorem refl (e : GoEngine) : Unlearned e e := ⟨rfl, rfl, rfl, le_refl _, fun _ => Or.inl rfl⟩

/-- An operation on the connection. -/
theorem onFlow {f : ConnFlow KpsError} (initial : f.peerInitStreamData = e.flow.peerInitStreamData)
    (data : f.peerMaxData = e.flow.peerMaxData)
    (streams : f.peerMaxStreams = e.flow.peerMaxStreams) :
    Unlearned e (e.onFlow f) := ⟨initial, data, streams, le_refl _, fun _ => Or.inl rfl⟩

/-- An operation on stream `k`. -/
theorem put {k : Nat} {f : ConnFlow KpsError} {sf : StreamFlow KpsError}
    (initial : f.peerInitStreamData = e.flow.peerInitStreamData)
    (data : f.peerMaxData = e.flow.peerMaxData)
    (streams : f.peerMaxStreams = e.flow.peerMaxStreams)
    (explicit : sf.peerMaxExplicit = (e.streams k).peerMaxExplicit) :
      Unlearned e (e.put k f sf) := by
  refine ⟨initial, data, streams, le_refl _, fun j => Or.inl ?_⟩
  show (Function.update e.streams k sf j).peerMaxExplicit = _
  by_cases same : j = k
  · subst same
    rw [Function.update_self, explicit]
  · rw [Function.update_of_ne same]

end Unlearned

/-- **Only an advertisement teaches an endpoint a limit of its peer.** -/
theorem unlearned_step (ignores : op.learns = false) : Unlearned e (e.step op).value.1 := by
  cases op with
  | newStream =>
    refine ⟨rfl, rfl, rfl, Nat.le_succ _, fun j => ?_⟩
    show (Function.update e.streams e.count e.flow.newStream j).peerMaxExplicit = _ ∨
      _ ∧ (Function.update e.streams e.count e.flow.newStream j).peerMaxExplicit = 0
    by_cases same : j = e.count
    · subst same
      rw [Function.update_self]
      exact Or.inr ⟨le_refl _, rfl⟩
    · rw [Function.update_of_ne same]
      exact Or.inl rfl
  | reserveData k n =>
    dsimp only [GoEngine.step]
    rw [Traced.value_bind]
    split
    · exact .refl e
    · next granted =>
      obtain ⟨_, _, rfl, rfl⟩ := reserveData_fields granted
      exact .put rfl rfl rfl rfl
    · exact .refl e
  | commitData k n => exact .put rfl rfl rfl rfl
  | releaseData k n => exact .put rfl rfl rfl rfl
  | reserveStreamSlot =>
    dsimp only [GoEngine.step]
    rw [Traced.value_bind]
    split
    · exact .refl e
    · next reserved =>
      obtain ⟨_, rfl⟩ := reserveStreamSlot_fields reserved
      exact .onFlow rfl rfl rfl
    · exact .refl e
  | commitStreamSlot => exact .onFlow rfl rfl rfl
  | releaseStreamSlot => exact .onFlow rfl rfl rfl
  | failSend k error =>
    obtain ⟨_, _, same⟩ := failSend_fields error e.flow (e.streams k)
    dsimp only [GoEngine.step]
    rw [same]
    exact .put rfl rfl rfl rfl
  | fail error =>
    dsimp only [GoEngine.step]
    unfold ConnFlow.fail
    split
    · exact .onFlow rfl rfl rfl
    · exact .onFlow rfl rfl rfl
  | onDataReceived k n =>
    dsimp only [GoEngine.step]
    rw [Traced.value_bind]
    split
    · exact .refl e
    · next received =>
      obtain ⟨_, _, rfl, rfl⟩ := onDataReceived_fields received
      exact .put rfl rfl rfl rfl
  | onConsumed k n =>
    obtain ⟨_, _, _, stream, -⟩ := streamConsumed_fields n e.flow (e.streams k)
    obtain ⟨_, _, _, conn, -⟩ := connConsumed_fields n e.flow
    have stepped : (e.step (.onConsumed k n)).value.1 =
      e.put k (StreamFlow.connConsumed n e.flow).value.1
      (StreamFlow.streamConsumed n e.flow (e.streams k)).value.1 := rfl
    rw [stepped, stream, conn]
    exact .put rfl rfl rfl rfl
  | markCancelled k => exact .put rfl rfl rfl rfl
  | peerStreamOpened =>
    dsimp only [GoEngine.step]
    rw [Traced.value_bind]
    split
    · exact .refl e
    · next opened =>
      obtain ⟨_, rfl⟩ := peerStreamOpened_fields opened
      exact .onFlow rfl rfl rfl
  | peerStreamRetired => exact .onFlow rfl rfl rfl
  | _ => cases ignores

/-! ### The race -/

/-- The receiver with its calls in progress, what they sent so far, and the peer. -/
structure AdvertRace where
  receiver : GoEngine
  peer : GoEngine
  /-- What each call still has to send, after it unlocked. -/
  calls : List (List Advert) := []
  sent : List Advert := []
  delivered : List Advert := []
  /-- The peer has the receiver's HELLO. -/
  hello : Bool := false

inductive RaceLabel
  /-- The critical section of an operation of the receiver. -/
  | receiver (op : FlowOp)
  /-- Call `i` sends its next value. -/
  | send (i : Nat)
  | hello
  /-- Any value that was sent reaches the peer, in any order and any number of times. -/
  | deliver (advert : Advert)
  | peer (op : FlowOp)

/-- The operation of the peer that handles an advertisement. -/
def Advert.received (far : Nat ↪ Nat) : Advert → FlowOp
  | .maxStreamData k value => .onPeerMaxStreamData (far k) value
  | .maxData value => .onPeerMaxData value
  | .maxStreams value => .onPeerMaxStreams value

/-- The peer handles an advertisement on its stream, or on the control channel, where the HELLO is
first. -/
def AdvertRace.Handles (far : Nat ↪ Nat) (s : AdvertRace) : Advert → Prop
  | .maxStreamData k _ => far k < s.peer.count
  | .maxData _ | .maxStreams _ => s.hello = true

instance (far : Nat ↪ Nat) (s : AdvertRace) : (advert : Advert) → Decidable (s.Handles far advert)
  | .maxStreamData k _ => inferInstanceAs (Decidable (far k < s.peer.count))
  | .maxData _ | .maxStreams _ => inferInstanceAs (Decidable (s.hello = true))

namespace AdvertRace

/-- Two endpoints before the HELLO of the receiver. -/
def start (limits peerLimits : FlowWindows) : AdvertRace where
  receiver := .new limits
  peer := .new peerLimits

def step (far : Nat ↪ Nat) (s : AdvertRace) : RaceLabel → Option AdvertRace
  | .receiver op =>
    if Promised s.receiver op then
      some { s with
        receiver := (s.receiver.step op).value.1, calls := s.calls ++ [s.receiver.adverts op] }
    else none
  | .send i =>
    match s.calls[i]? with
    | some (advert :: rest) =>
      some { s with calls := s.calls.set i rest, sent := s.sent ++ [advert] }
    | _ => none
  | .hello =>
    if s.hello then none
    else some { s with
      peer := (s.peer.step (.onPeerHello s.receiver.flow.limits)).value.1, hello := true }
  | .deliver advert =>
    if advert ∈ s.sent ∧ s.Handles far advert then
      some { s with
        peer := (s.peer.step (advert.received far)).value.1, delivered := s.delivered ++ [advert] }
    else none
  | .peer op =>
    if op.learns then none else some { s with peer := (s.peer.step op).value.1 }

/-- What was advertised so far, sent or not. -/
def advertised (s : AdvertRace) : List Advert := s.sent ++ s.calls.flatten

/-- Every value was sent, and all of them and the HELLO reached the peer. -/
structure Settled (s : AdvertRace) : Prop where
  hello : s.hello = true
  sent : s.calls.flatten = []
  delivered : s.sent ⊆ s.delivered

/-- The peer's limits stay below the ones that the receiver enforces, and are equal to them once all
is delivered. -/
structure Kept (far : Nat ↪ Nat) (s : AdvertRace) : Prop where
  below : ∀ limit, s.peer.learned far limit ≤ s.receiver.enforced limit
  converged : s.Settled → ∀ limit, s.peer.learned far limit = s.receiver.enforced limit

/-- The limit that the peer knows of at least. -/
def floor (s : AdvertRace) (limit : Limit) : Int :=
  if s.hello then Word.int (s.receiver.flow.limits.initial limit) else 0

structure Inv (far : Nat ↪ Nat) (s : AdvertRace) : Prop where
  receives : Receives s.receiver
  enforced : ∀ limit,
    Advertised (Word.int (s.receiver.flow.limits.initial limit))
    (Word.int (s.receiver.enforced limit))
    (s.advertised.filterMap (Advert.of limit))
  absent : ∀ k, s.receiver.count ≤ k → s.advertised.filterMap (Advert.streamData k) = []
  learned : ∀ limit, Advertised (s.floor limit) (Word.int (s.peer.learned far limit))
    (s.delivered.filterMap (Advert.of limit))
  delivered : s.delivered ⊆ s.sent
  /-- Before the HELLO the peer knows of no limit but the streams' own. -/
  silent : s.hello = false → s.peer.flow.peerInitStreamData = 0 ∧ s.peer.flow.peerMaxData = 0 ∧
    s.peer.flow.peerMaxStreams = 0
  fresh : ∀ j, s.peer.count ≤ j → (s.peer.streams j).peerMaxExplicit = 0

variable {far : Nat ↪ Nat} {s s' : AdvertRace}

theorem Inv.start {limits : FlowWindows} (valid : limits.view.Valid) (peerLimits : FlowWindows) :
    Inv far (start limits peerLimits) where
  receives := .new valid
  enforced limit := by
    cases limit with
    | streamData k => exact .start _
    | data => exact .start _
    | streams => exact .start _
  absent _ _ := rfl
  learned limit := by
    cases limit with
    | streamData k => exact .start 0
    | data => exact .start 0
    | streams => exact .start 0
  delivered := List.Subset.refl _
  silent _ := ⟨rfl, rfl, rfl⟩
  fresh _ _ := rfl

theorem floor_le (s : AdvertRace) (limit : Limit) :
    s.floor limit ≤ Word.int (s.receiver.flow.limits.initial limit) := by
  unfold floor
  split
  · exact le_refl _
  · exact Word.int_nonneg _

/-- **The peer's limits stay below the ones that the receiver enforces.** -/
theorem Inv.kept (inv : Inv far s) : Kept far s where
  below limit := by
    rw [← Word.int_le_iff]
    have some_ : s.delivered.filterMap (Advert.of limit) ⊆ s.advertised.filterMap
        (Advert.of limit) := by
      refine List.filterMap_subset _ fun advert received => ?_
      exact List.mem_append_left _ (inv.delivered received)
    rcases (inv.learned limit).latest with first | later
    · rw [first]
      exact le_trans (floor_le s limit) (inv.enforced limit).initial_le
    · exact (inv.enforced limit).within _ (some_ later)
  converged settled limit := by
    rw [← Word.int_inj]
    have floor : s.floor limit = Word.int (s.receiver.flow.limits.initial limit) :=
      if_pos settled.hello
    have learned := inv.learned limit
    rw [floor] at learned
    have sent : s.advertised = s.sent := by
      unfold advertised
      rw [settled.sent, List.append_nil]
    have enforced := inv.enforced limit
    rw [sent] at enforced
    exact enforced.eq_of_subset learned (List.filterMap_subset _ inv.delivered)
      (List.filterMap_subset _ settled.delivered)

/-- The receiver does an operation: what it raises, its call is going to send. -/
theorem Inv.receiver (inv : Inv far s) {op : FlowOp} (promised : Promised s.receiver op) :
    Inv far { s with
      receiver := (s.receiver.step op).value.1, calls := s.calls ++ [s.receiver.adverts op] } := by
  have raises := inv.receives.raises promised
  have more : (s.sent ++ (s.calls ++ [s.receiver.adverts op]).flatten) =
      s.advertised ++ s.receiver.adverts op := by
    rw [List.flatten_append, ← List.append_assoc, List.flatten_singleton]
    rfl
  refine ⟨inv.receives.step promised, fun limit => ?_, fun k absent => ?_, fun limit => ?_,
    inv.delivered, inv.silent, inv.fresh⟩
  · unfold advertised
    dsimp only
    rw [more, List.filterMap_append, raises.limits]
    by_cases created : ∀ k, limit = .streamData k → k < s.receiver.count
    · exact (inv.enforced limit).advance (raises.advances created)
    · -- a stream that does not exist yet
      push Not at created
      obtain ⟨k, rfl, absent⟩ := created
      obtain ⟨unsent, limits⟩ := raises.fresh k absent
      have none : s.advertised.filterMap (Advert.of (.streamData k)) = [] := inv.absent k absent
      have before := inv.enforced (.streamData k)
      rw [none] at before
      have initial : (s.receiver.streams k).localMax = s.receiver.flow.limits.maxStreamData :=
        Word.int_inj.mp (before.latest.resolve_right (List.not_mem_nil))
      have after : ((s.receiver.step op).value.1.streams k).localMax =
          s.receiver.flow.limits.maxStreamData :=
        limits.elim (fun same => same.trans initial) id
      show Advertised _ (Word.int ((s.receiver.step op).value.1.streams k).localMax) _
      rw [none, after, show (s.receiver.adverts op).filterMap (Advert.of (.streamData k)) =
        [] from unsent]
      exact .start _
  · unfold advertised
    dsimp only at absent ⊢
    have before : s.receiver.count ≤ k := le_trans raises.count absent
    rw [more, List.filterMap_append, inv.absent k before, (raises.fresh k before).1]
    rfl
  · have learned := inv.learned limit
    unfold floor at learned ⊢
    dsimp only
    rw [raises.limits]
    exact learned

/-- A call sends its next value. -/
theorem Inv.send (inv : Inv far s) {i : Nat} {advert : Advert} {rest : List Advert}
    (next : s.calls[i]? = some (advert :: rest)) :
    Inv far { s with calls := s.calls.set i rest, sent := s.sent ++ [advert] } := by
  obtain ⟨present, found⟩ := List.getElem?_eq_some_iff.mp next
  have split : s.calls = s.calls.take i ++ (advert :: rest) :: s.calls.drop (i + 1) := by
    rw [← found, ← List.drop_eq_getElem_cons present, List.take_append_drop]
  have same (value : Advert) : value ∈ (s.sent ++ [advert]) ++ (s.calls.set i rest).flatten ↔
      value ∈ s.advertised := by
    have set : s.calls.set i rest = s.calls.take i ++ rest :: s.calls.drop (i + 1) :=
      List.set_eq_take_cons_drop rest present
    unfold advertised
    rw [set, split]
    simp only [List.mem_append, List.flatten_append, List.flatten_cons, List.mem_cons,
      List.not_mem_nil, or_false]
    rw [← split]
    tauto
  have values (limit : Limit) (value : Int) :
      value ∈ ((s.sent ++ [advert]) ++ (s.calls.set i rest).flatten).filterMap (Advert.of limit) ↔
        value ∈ s.advertised.filterMap (Advert.of limit) := by
    rw [List.mem_filterMap, List.mem_filterMap]
    exact exists_congr fun other => and_congr_left fun _ => same other
  refine ⟨inv.receives, fun limit => (inv.enforced limit).congr (values limit), fun k absent => ?_,
    inv.learned,
    fun value received => List.mem_append_left _ (inv.delivered received), inv.silent, inv.fresh⟩
  refine List.eq_nil_iff_forall_not_mem.mpr fun value member => ?_
  have before := (values (.streamData k) value).mp member
  rw [show s.advertised.filterMap (Advert.of (.streamData k)) =
    [] from inv.absent k absent] at before
  exact List.not_mem_nil before

/-- The HELLO of the receiver reaches the peer. -/
theorem learned_hello (inv : Inv far s) (before : s.hello = false) (limit : Limit) :
    Word.int ((s.peer.step (.onPeerHello s.receiver.flow.limits)).value.1.learned far limit) =
      max (Word.int (s.peer.learned far limit))
        (Word.int (s.receiver.flow.limits.initial limit)) := by
  obtain ⟨initial, data, streams⟩ := inv.silent before
  have zero : Word.int 0 = 0 := rfl
  cases limit with
  | streamData k =>
    show Word.int
      (max (s.peer.streams (far k)).peerMaxExplicit s.receiver.flow.limits.maxStreamData) =
      max (Word.int (max (s.peer.streams (far k)).peerMaxExplicit s.peer.flow.peerInitStreamData)) _
    rw [Word.int_max, Word.int_max, initial, zero, max_eq_left (Word.int_nonneg _)]
    rfl
  | data =>
    show Word.int s.receiver.flow.limits.maxData = max (Word.int s.peer.flow.peerMaxData) _
    rw [data, zero]
    exact (max_eq_right (Word.int_nonneg _)).symm
  | streams =>
    show Word.int s.receiver.flow.limits.maxStreams = max (Word.int s.peer.flow.peerMaxStreams) _
    rw [streams, zero]
    exact (max_eq_right (Word.int_nonneg _)).symm

theorem Inv.greet (inv : Inv far s) (before : s.hello = false) : Inv far
    { s with
      peer := (s.peer.step (.onPeerHello s.receiver.flow.limits)).value.1, hello := true } := by
  refine ⟨inv.receives, inv.enforced, inv.absent, fun limit => ?_, inv.delivered,
    fun not => (by cases not), inv.fresh⟩
  have learned := inv.learned limit
  have floor : s.floor limit = 0 := if_neg (by rw [before]; exact Bool.false_ne_true)
  rw [floor] at learned
  show Advertised (Word.int (s.receiver.flow.limits.initial limit)) _ _
  rw [learned_hello inv before]
  exact learned.floor (Word.int_nonneg _)

/-- A limit that is raised to a larger value and ignores a smaller one. -/
theorem int_raise (limit value : UInt64) :
    Word.int (if value > limit then value else limit) = max (Word.int limit) (Word.int value) := by
  by_cases more : value > limit
  · rw [if_pos more, max_eq_right (le_of_lt (Word.int_lt_iff.mpr more))]
  · rw [if_neg more, max_eq_left (not_lt.mp (mt Word.int_lt_iff.mp more))]

/-- The peer keeps the largest value it learned of. -/
theorem learned_deliver (e : GoEngine) (advert : Advert) (limit : Limit) :
    Word.int ((e.step (advert.received far)).value.1.learned far limit) =
      (Advert.of limit advert).elim (Word.int (e.learned far limit))
      (max (Word.int (e.learned far limit))) := by
  cases advert with
  | maxData value =>
    have raised : (e.flow.onPeerMaxData value).peerMaxData =
        if value > e.flow.peerMaxData then value else e.flow.peerMaxData := by
      unfold ConnFlow.onPeerMaxData
      split <;> rfl
    have initial : (e.flow.onPeerMaxData value).peerInitStreamData = e.flow.peerInitStreamData := by
      unfold ConnFlow.onPeerMaxData
      split <;> rfl
    have streams : (e.flow.onPeerMaxData value).peerMaxStreams = e.flow.peerMaxStreams := by
      unfold ConnFlow.onPeerMaxData
      split <;> rfl
    cases limit with
    | streamData k =>
      exact congrArg (fun word => Word.int (max (e.streams (far k)).peerMaxExplicit word)) initial
    | data => exact (congrArg Word.int raised).trans (int_raise _ _)
    | streams => exact congrArg Word.int streams
  | maxStreams value =>
    have raised : (e.flow.onPeerMaxStreams value).peerMaxStreams =
        if value > e.flow.peerMaxStreams then value else e.flow.peerMaxStreams := by
      unfold ConnFlow.onPeerMaxStreams
      split <;> rfl
    have initial : (e.flow.onPeerMaxStreams value).peerInitStreamData =
        e.flow.peerInitStreamData := by
      unfold ConnFlow.onPeerMaxStreams
      split <;> rfl
    have data : (e.flow.onPeerMaxStreams value).peerMaxData = e.flow.peerMaxData := by
      unfold ConnFlow.onPeerMaxStreams
      split <;> rfl
    cases limit with
    | streamData k =>
      exact congrArg (fun word => Word.int (max (e.streams (far k)).peerMaxExplicit word)) initial
    | data => exact congrArg Word.int data
    | streams => exact (congrArg Word.int raised).trans (int_raise _ _)
  | maxStreamData k value =>
    have stepped : (e.step (Advert.received far (.maxStreamData k value))).value.1 =
        e.put (far k) ((e.streams (far k)).onPeerMaxStreamData value e.flow).1
          ((e.streams (far k)).onPeerMaxStreamData value e.flow).2 := rfl
    have raised : ((e.streams (far k)).onPeerMaxStreamData value e.flow).2.peerMaxExplicit =
        if value > (e.streams (far k)).peerMaxExplicit then value
          else (e.streams (far k)).peerMaxExplicit := by
      unfold StreamFlow.onPeerMaxStreamData
      split <;> rfl
    obtain ⟨wakes, explicit, same⟩ := onPeerMaxStreamData_fields value e.flow (e.streams (far k))
    rw [same] at stepped raised
    rw [stepped]
    cases limit with
    | data => rfl
    | streams => rfl
    | streamData j =>
      show Word.int
        (max (StreamFlow.peerMaxExplicit (Function.update e.streams (far k) _ (far j)))
          e.flow.peerInitStreamData) =
        Option.elim (if k = j then some (Word.int value) else none)
          (Word.int (e.flow.peerMaxLocked (e.streams (far j))))
          (max (Word.int (e.flow.peerMaxLocked (e.streams (far j)))))
      unfold ConnFlow.peerMaxLocked
      by_cases mine : k = j
      · subst mine
        have raised : explicit = _ := raised
        rw [Function.update_self, if_pos rfl, Option.elim_some, Word.int_max, Word.int_max, raised,
          int_raise, max_right_comm]
      · have other : far j ≠ far k := fun same => mine (far.injective same).symm
        rw [Function.update_of_ne other, if_neg mine, Option.elim_none]

theorem Inv.deliver (inv : Inv far s) {advert : Advert} (sent : advert ∈ s.sent)
    (handles : s.Handles far advert) :
    Inv far { s with
      peer := (s.peer.step (advert.received far)).value.1,
      delivered := s.delivered ++ [advert] } := by
  refine ⟨inv.receives, inv.enforced, inv.absent, fun limit => ?_, ?_, fun before => ?_,
    fun j absent => ?_⟩
  · dsimp only
    rw [learned_deliver, List.filterMap_append, List.filterMap_cons, List.filterMap_nil]
    cases Advert.of limit advert with
    | none =>
      rw [List.append_nil]
      exact inv.learned limit
    | some value => exact (inv.learned limit).merge value
  · refine List.append_subset.mpr ⟨inv.delivered, fun value member => ?_⟩
    rw [List.mem_singleton.mp member]
    exact sent
  · have before : s.hello = false := before
    have control : s.hello ≠ true := by
      rw [before]
      exact Bool.false_ne_true
    cases advert with
    | maxData value => exact absurd handles control
    | maxStreams value => exact absurd handles control
    | maxStreamData k value =>
      obtain ⟨_, _, same⟩ := onPeerMaxStreamData_fields value s.peer.flow (s.peer.streams (far k))
      have stepped : (s.peer.step (Advert.received far (.maxStreamData k value))).value.1 =
        s.peer.put (far k) ((s.peer.streams (far k)).onPeerMaxStreamData value s.peer.flow).1
          ((s.peer.streams (far k)).onPeerMaxStreamData value s.peer.flow).2 := rfl
      rw [same] at stepped
      dsimp only
      rw [stepped]
      exact inv.silent before
  · cases advert with
    | maxData value => exact inv.fresh j absent
    | maxStreams value => exact inv.fresh j absent
    | maxStreamData k value =>
      have created : far k < s.peer.count := handles
      have absent : s.peer.count ≤ j := absent
      have other : j ≠ far k := by omega
      show (Function.update s.peer.streams (far k) _ j).peerMaxExplicit = 0
      rw [Function.update_of_ne other]
      exact inv.fresh j absent

/-- What the peer does besides leaves its limits. -/
theorem learned_peer (inv : Inv far s) {op : FlowOp} (ignores : op.learns = false) (limit : Limit) :
    (s.peer.step op).value.1.learned far limit = s.peer.learned far limit := by
  have unlearned := unlearned_step (e := s.peer) ignores
  cases limit with
  | data => exact unlearned.data
  | streams => exact unlearned.streams
  | streamData k =>
    show max ((s.peer.step op).value.1.streams (far k)).peerMaxExplicit
      (s.peer.step op).value.1.flow.peerInitStreamData =
      max (s.peer.streams (far k)).peerMaxExplicit s.peer.flow.peerInitStreamData
    rw [unlearned.initial]
    rcases unlearned.explicit (far k) with same | ⟨absent, zero⟩
    · rw [same]
    · rw [zero, inv.fresh (far k) absent]

theorem Inv.peer (inv : Inv far s) {op : FlowOp} (ignores : op.learns = false) :
    Inv far { s with peer := (s.peer.step op).value.1 } := by
  have unlearned := unlearned_step (e := s.peer) ignores
  refine ⟨inv.receives, inv.enforced, inv.absent, fun limit => ?_, inv.delivered, fun before => ?_,
    fun j absent => ?_⟩
  · dsimp only
    rw [learned_peer inv ignores]
    exact inv.learned limit
  · dsimp only
    rw [unlearned.initial, unlearned.data, unlearned.streams]
    exact inv.silent before
  · rcases unlearned.explicit j with same | ⟨-, zero⟩
    · exact same.trans (inv.fresh j (le_trans unlearned.count absent))
    · exact zero

/-- **A step keeps the invariant, and no limit of the peer decreases.** -/
theorem Inv.step (inv : Inv far s) {label : RaceLabel}
    (stepped : AdvertRace.step far s label = some s') :
    Inv far s' ∧ ∀ limit, s.peer.learned far limit ≤ s'.peer.learned far limit := by
  cases label with
  | receiver op =>
    obtain ⟨promised, next⟩ := Option.ite_none_right_eq_some.mp stepped
    cases next
    exact ⟨inv.receiver promised, fun _ => UInt64.le_refl _⟩
  | send i =>
    unfold AdvertRace.step at stepped
    dsimp only at stepped
    split at stepped
    · next found =>
      cases stepped
      exact ⟨inv.send found, fun _ => UInt64.le_refl _⟩
    · cases stepped
  | hello =>
    unfold AdvertRace.step at stepped
    dsimp only at stepped
    split at stepped
    · cases stepped
    · next before =>
      cases stepped
      have before : s.hello = false := Bool.eq_false_iff.mpr before
      refine ⟨inv.greet before, fun limit => Word.int_le_iff.mp ?_⟩
      dsimp only
      rw [learned_hello inv before]
      exact le_max_left _ _
  | deliver advert =>
    obtain ⟨⟨sent, handles⟩, next⟩ := Option.ite_none_right_eq_some.mp stepped
    cases next
    refine ⟨inv.deliver sent handles, fun limit => Word.int_le_iff.mp ?_⟩
    dsimp only
    rw [learned_deliver]
    cases Advert.of limit advert with
    | none => exact le_refl _
    | some value => exact le_max_left _ _
  | peer op =>
    unfold AdvertRace.step at stepped
    dsimp only at stepped
    split at stepped
    · cases stepped
    · next ignores =>
      cases stepped
      have ignores : op.learns = false := Bool.eq_false_iff.mpr ignores
      refine ⟨inv.peer ignores, fun limit => ?_⟩
      dsimp only
      rw [learned_peer inv ignores]
      exact UInt64.le_refl _

theorem Inv.run (inv : Inv far s) {labels : List RaceLabel}
    (ran : Lib.run (AdvertRace.step far) s labels = some s') :
    Inv far s' ∧ ∀ limit, s.peer.learned far limit ≤ s'.peer.learned far limit := by
  induction labels generalizing s with
  | nil =>
    cases ran
    exact ⟨inv, fun _ => UInt64.le_refl _⟩
  | cons label labels ih =>
    obtain ⟨next, stepped, rest⟩ := run_cons.mp ran
    obtain ⟨kept, here⟩ := inv.step stepped
    obtain ⟨final, later⟩ := ih kept rest
    exact ⟨final, fun limit => UInt64.le_trans (here limit) (later limit)⟩

/-- **Advertisements converge.** Whatever calls race, and in whatever order their values arrive, the
peer's limits stay below the ones that the receiver enforces, never decrease, and are equal to them
once all was delivered. -/
theorem converges (far : Nat ↪ Nat) {limits peerLimits : FlowWindows} (valid : limits.view.Valid)
    {labels more : List RaceLabel} {s s' : AdvertRace}
    (ran : Lib.run (AdvertRace.step far) (start limits peerLimits) labels = some s)
    (later : Lib.run (AdvertRace.step far) s more = some s') :
    Kept far s ∧ ∀ limit, s.peer.learned far limit ≤ s'.peer.learned far limit := by
  have inv : Inv far s := ((Inv.start valid peerLimits).run ran).1
  exact ⟨inv.kept, (inv.run later).2⟩

/-- Two calls raise the limits of a stream; the second is faster. -/
def overtaken : List RaceLabel :=
  [.hello, .peer .newStream, .receiver .newStream, .receiver (.onDataReceived 0 8),
    .receiver (.onConsumed 0 4),
    .receiver (.onConsumed 0 4), .send 3, .send 2, .send 3, .send 2, .deliver (.maxStreamData 0 16)]

/-- The slower call arrives, after the faster one, which is repeated. -/
def caughtUp : List RaceLabel :=
  [.deliver (.maxData 16), .deliver (.maxStreamData 0 12), .deliver (.maxStreamData 0 16),
    .deliver (.maxData 12)]

/-- What is asked of a state that has settled. -/
def facts (s : AdvertRace) : Bool × List Advert × Bool × UInt64 :=
  (s.hello, s.calls.flatten, decide (s.sent ⊆ s.delivered), s.peer.flow.peerMaxData)

theorem converges_overtaken : ∃ s s' : AdvertRace,
    Lib.run (AdvertRace.step (Function.Embedding.refl Nat)) (start ⟨8, 8, 1⟩ ⟨8, 8, 1⟩) overtaken =
      some s ∧ Lib.run (AdvertRace.step (Function.Embedding.refl Nat)) s caughtUp = some s' ∧
      Kept (Function.Embedding.refl Nat) s ∧ s'.Settled ∧ s'.peer.flow.peerMaxData = 16 ∧
      ∀ limit, s.peer.learned (Function.Embedding.refl Nat) limit ≤ s'.peer.learned
        (Function.Embedding.refl Nat) limit := by
  have valid : (FlowWindows.view ⟨8, 8, 1⟩).Valid := ⟨by decide, by decide, by decide⟩
  have both : (Lib.run (AdvertRace.step (Function.Embedding.refl Nat)) (start ⟨8, 8, 1⟩ ⟨8, 8, 1⟩)
      (overtaken ++ caughtUp)).map facts = some (true, [], true, 16) := by decide +kernel
  obtain ⟨s', ended, facts⟩ := Option.map_eq_some_iff.mp both
  obtain ⟨s, ran, later⟩ := run_append.mp ended
  obtain ⟨kept, rises⟩ := converges (Function.Embedding.refl Nat) valid ran later
  simp only [AdvertRace.facts, Prod.mk.injEq, decide_eq_true_eq] at facts
  obtain ⟨hello, sent, delivered, data⟩ := facts
  exact ⟨s, s', ran, later, kept, ⟨hello, sent, delivered⟩, data, rises⟩

end AdvertRace

end Kps.Go
