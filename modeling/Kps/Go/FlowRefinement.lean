/-
**The Go credit engine refines the TypeScript one.**

* `EngineInv` — the accounting of the exact engine: every level is within its limit, the connection
  counts what its streams count, and every counter is at most `MAX_OFFSET`; `EngineInv.step` keeps
  it;
* `GoEngine.step_view` — one operation: where the accounting holds and the amounts are allowed, no
  word wraps, and the two engines answer the same and stay equal;
* `flow_refines` — the same for a whole history, step by step.
-/

import Kps.Go.FlowEngine

namespace Kps.Go

open Kps.Lib

open Kps.Ts (KpsError)

/-! ### The accounting of the exact engine -/

/-- The amounts an operation may carry, where it finds the engine in state `e`: limits are at most
`MAX_OFFSET`, a frame's payload leaves the counters in range, and what is committed, released,
consumed or retired was granted, received or opened before. The HELLO came first. -/
def Allowed (e : TsEngine) : FlowOp → Prop
  | .onPeerHello _ => False
  | .onPeerMaxData value => value.toNat ≤ Ts.maxOffset
  | .onPeerMaxStreams value => value.toNat ≤ Ts.maxOffset
  | .onPeerMaxStreamData k value => k < e.count ∧ value.toNat ≤ Ts.maxOffset
  | .newStream => True
  | .reserveData k _ => k < e.count
  | .commitData k n => k < e.count ∧ Word.int n ≤ (e.streams k).sendReserved
  | .releaseData k n => k < e.count ∧ Word.int n ≤ (e.streams k).sendReserved
  | .reserveStreamSlot => True
  | .commitStreamSlot => 1 ≤ e.flow.streamsReserved
  | .releaseStreamSlot => 1 ≤ e.flow.streamsReserved
  | .failSend k _ => k < e.count
  | .fail _ => True
  | .onDataReceived k n => k < e.count ∧ n.toNat ≤ 2 ^ 64 - 2 ^ 62
  | .onConsumed k n => k < e.count ∧ (e.streams k).consumed + Word.int n ≤ (e.streams k).received
  | .markCancelled k => k < e.count
  | .peerStreamOpened => True
  | .peerStreamRetired => e.flow.peerRetiredStreams < e.flow.peerOpenedStreams

instance (e : TsEngine) : (op : FlowOp) → Decidable (Allowed e op)
  | .onPeerHello _ => inferInstanceAs (Decidable False)
  | .onPeerMaxData value => inferInstanceAs (Decidable (value.toNat ≤ Ts.maxOffset))
  | .onPeerMaxStreams value => inferInstanceAs (Decidable (value.toNat ≤ Ts.maxOffset))
  | .onPeerMaxStreamData k value =>
    inferInstanceAs (Decidable (k < e.count ∧ value.toNat ≤ Ts.maxOffset))
  | .newStream => inferInstanceAs (Decidable True)
  | .reserveData k _ => inferInstanceAs (Decidable (k < e.count))
  | .commitData k n =>
    inferInstanceAs (Decidable (k < e.count ∧ Word.int n ≤ (e.streams k).sendReserved))
  | .releaseData k n =>
    inferInstanceAs (Decidable (k < e.count ∧ Word.int n ≤ (e.streams k).sendReserved))
  | .reserveStreamSlot => inferInstanceAs (Decidable True)
  | .commitStreamSlot => inferInstanceAs (Decidable (1 ≤ e.flow.streamsReserved))
  | .releaseStreamSlot => inferInstanceAs (Decidable (1 ≤ e.flow.streamsReserved))
  | .failSend k _ => inferInstanceAs (Decidable (k < e.count))
  | .fail _ => inferInstanceAs (Decidable True)
  | .onDataReceived k n => inferInstanceAs (Decidable (k < e.count ∧ n.toNat ≤ 2 ^ 64 - 2 ^ 62))
  | .onConsumed k n =>
    inferInstanceAs (Decidable
      (k < e.count ∧ (e.streams k).consumed + Word.int n ≤ (e.streams k).received))
  | .markCancelled k => inferInstanceAs (Decidable (k < e.count))
  | .peerStreamOpened => inferInstanceAs (Decidable True)
  | .peerStreamRetired =>
    inferInstanceAs (Decidable (e.flow.peerRetiredStreams < e.flow.peerOpenedStreams))

/-- The accounting of a stream: `initial` is the window the peer's HELLO gives every stream. -/
structure StreamInv (limits : Ts.FlowLimits) (initial : Int) (sf : Ts.StreamFlow) : Prop where
  sent : 0 ≤ sf.sendSent
  reserved : 0 ≤ sf.sendReserved
  within : sf.sendSent + sf.sendReserved ≤ max sf.peerMaxExplicit initial
  explicit : sf.peerMaxExplicit ≤ Ts.maxOffset
  window : (sf.window limits).Sound Ts.maxOffset
  small : sf.received ≤ Ts.maxOffset

/-- The accounting of a connection after the peer's HELLO. -/
structure ConnInv (f : Ts.ConnFlow) : Prop where
  limits : f.localLimits.Valid
  initial : f.peerMaxStreamDataInitial ≤ Ts.maxOffset
  data : f.peerMaxData ≤ Ts.maxOffset
  streams : f.peerMaxStreams ≤ Ts.maxOffset
  sent : 0 ≤ f.connSent
  reserved : 0 ≤ f.connReserved
  within : f.connSent + f.connReserved ≤ f.peerMaxData
  window : f.window.Sound Ts.maxOffset
  small : f.connReceived ≤ Ts.maxOffset
  opened : 0 ≤ f.streamsOpened
  slots : 0 ≤ f.streamsReserved
  slotsWithin : f.streamsOpened + f.streamsReserved ≤ f.peerMaxStreams
  retired : 0 ≤ f.peerRetiredStreams
  inUse : f.peerRetiredStreams ≤ f.peerOpenedStreams
  admitted : f.peerOpenedStreams ≤ f.advertisedMaxStreams
  formula : f.advertisedMaxStreams =
    Ts.saturate (f.localLimits.initialMaxStreams + f.peerRetiredStreams)

/-- **The accounting of an engine.** -/
structure EngineInv (e : TsEngine) : Prop where
  conn : ConnInv e.flow
  stream : ∀ k < e.count,
    StreamInv e.flow.localLimits e.flow.peerMaxStreamDataInitial (e.streams k)
  reserved : e.flow.connReserved = total (List.range e.count) (·.sendReserved) e.streams
  sent : e.flow.connSent = total (List.range e.count) (·.sendSent) e.streams
  received : e.flow.connReceived = total (List.range e.count) (·.received) e.streams
  consumed : e.flow.connConsumed = total (List.range e.count) (·.consumed) e.streams

theorem window_new (size : Nat) : (⟨size, size, 0, 0, 0⟩ : Window).Sound Ts.maxOffset where
  valid := by
    refine ⟨le_refl _, le_refl _, le_refl _, ?_, le_of_eq (zero_add _).symm⟩
    show (0 : Int) ≤ 0 + (size : Int)
    omega
  floor := min_le_left _ _
  capped := id

theorem StreamInv.new (limits : Ts.FlowLimits) (initial : Int) :
    StreamInv limits initial (.new limits) where
  sent := le_refl _
  reserved := le_refl _
  within := le_max_left _ _
  explicit := Int.natCast_nonneg _
  window := window_new _
  small := Int.natCast_nonneg _

namespace EngineInv

variable {e : TsEngine}

/-- An operation on the connection that leaves the byte counters. -/
theorem onFlow (inv : EngineInv e) {f : Ts.ConnFlow} (conn : ConnInv f)
    (limits : f.localLimits = e.flow.localLimits)
    (initial : f.peerMaxStreamDataInitial = e.flow.peerMaxStreamDataInitial)
    (reserved : f.connReserved = e.flow.connReserved) (sent : f.connSent = e.flow.connSent)
    (received : f.connReceived = e.flow.connReceived)
    (consumed : f.connConsumed = e.flow.connConsumed) : EngineInv (e.onFlow f) where
  conn := conn
  stream k present := by
    show StreamInv f.localLimits f.peerMaxStreamDataInitial _
    rw [limits, initial]
    exact inv.stream k present
  reserved := reserved.trans inv.reserved
  sent := sent.trans inv.sent
  received := received.trans inv.received
  consumed := consumed.trans inv.consumed

/-- An operation on a stream changes both levels by the same amounts. -/
theorem put (inv : EngineInv e) {k : Nat} (present : k < e.count) {f : Ts.ConnFlow}
    {sf : Ts.StreamFlow} (conn : ConnInv f) (limits : f.localLimits = e.flow.localLimits)
    (initial : f.peerMaxStreamDataInitial = e.flow.peerMaxStreamDataInitial)
    (own : StreamInv e.flow.localLimits e.flow.peerMaxStreamDataInitial sf)
    (reserved : f.connReserved - e.flow.connReserved =
      sf.sendReserved - (e.streams k).sendReserved)
    (sent : f.connSent - e.flow.connSent = sf.sendSent - (e.streams k).sendSent)
    (received : f.connReceived - e.flow.connReceived = sf.received - (e.streams k).received)
    (consumed : f.connConsumed - e.flow.connConsumed = sf.consumed - (e.streams k).consumed) :
    EngineInv (e.put k f sf) := by
  have changed (weight : Ts.StreamFlow → Int) :
      total (List.range e.count) weight (Function.update e.streams k sf) =
        total (List.range e.count) weight e.streams + (weight sf - weight (e.streams k)) :=
    total_update_of_mem List.nodup_range (List.mem_range.mpr present) sf
  have reservedBefore := inv.reserved
  have sentBefore := inv.sent
  have receivedBefore := inv.received
  have consumedBefore := inv.consumed
  refine ⟨conn, fun other created => ?_, ?_, ?_, ?_, ?_⟩
  · show StreamInv f.localLimits f.peerMaxStreamDataInitial (Function.update e.streams k sf other)
    rw [limits, initial]
    by_cases same : other = k
    · subst same
      rw [Function.update_self]
      exact own
    · rw [Function.update_of_ne same]
      exact inv.stream other created
  · refine Eq.trans ?_ (changed (·.sendReserved)).symm
    show f.connReserved = _
    omega
  · refine Eq.trans ?_ (changed (·.sendSent)).symm
    show f.connSent = _
    omega
  · refine Eq.trans ?_ (changed (·.received)).symm
    show f.connReceived = _
    omega
  · refine Eq.trans ?_ (changed (·.consumed)).symm
    show f.connConsumed = _
    omega

/-- A new stream has nothing sent, reserved, received or consumed. -/
theorem create (inv : EngineInv e) : EngineInv (e.create (.new e.flow.localLimits)) := by
  have fresh : e.count ∉ List.range e.count := by simp
  have added (weight : Ts.StreamFlow → Int) (zero : weight (.new e.flow.localLimits) = 0) :
      total (List.range (e.count + 1)) weight
          (Function.update e.streams e.count (.new e.flow.localLimits)) =
        total (List.range e.count) weight e.streams := by
    rw [List.range_succ, total_concat_update fresh, zero, add_zero]
  refine ⟨inv.conn, fun k created => ?_, inv.reserved.trans (added _ rfl).symm,
    inv.sent.trans (added _ rfl).symm, inv.received.trans (added _ rfl).symm,
    inv.consumed.trans (added _ rfl).symm⟩
  show StreamInv _ _ (Function.update e.streams e.count _ k)
  by_cases same : k = e.count
  · subst same
    rw [Function.update_self]
    exact .new _ _
  · rw [Function.update_of_ne same]
    have created : k < e.count + 1 := created
    exact inv.stream k (by omega)

end EngineInv

/-! ### One operation of the exact engine -/

section Conn

variable {f : Ts.ConnFlow}

/-- A HELLO on a connection that has sent nothing and opened nothing. -/
theorem ConnInv.hello {limits peer : FlowWindows} (valid : limits.view.Valid)
    (peerValid : peer.view.Valid) :
      ConnInv ((Ts.ConnFlow.new limits.view).onPeerHello peer.view) where
  limits := valid
  initial := Int.ofNat_le.mpr peerValid.streamData
  data := Int.ofNat_le.mpr peerValid.data
  streams := Int.ofNat_le.mpr peerValid.streams
  sent := le_refl _
  reserved := le_refl _
  within := Int.natCast_nonneg _
  window := window_new _
  small := Int.natCast_nonneg _
  opened := le_refl _
  slots := le_refl _
  slotsWithin := Int.natCast_nonneg _
  retired := le_refl _
  inUse := le_refl _
  admitted := Int.natCast_nonneg _
  formula := by
    have small := valid.streams
    show (limits.view.initialMaxStreams : Int) = Ts.saturate (limits.view.initialMaxStreams + 0)
    rw [Ts.saturate_eq_min]
    omega

theorem ConnInv.wake (inv : ConnInv f) : ConnInv f.wake := { inv with }

theorem ConnInv.fail (inv : ConnInv f) (error : KpsError) : ConnInv (f.fail error) := by
  unfold Ts.ConnFlow.fail
  split
  · exact inv
  · exact { inv with }

theorem ConnInv.onPeerMaxData (inv : ConnInv f) {value : Nat} (small : value ≤ Ts.maxOffset) :
    ConnInv (f.onPeerMaxData value) := by
  have within := inv.within
  unfold Ts.ConnFlow.onPeerMaxData
  split
  · next more =>
    refine { inv with data := Int.ofNat_le.mpr small, within := ?_ }
    show f.connSent + f.connReserved ≤ (value : Int)
    omega
  · exact inv

theorem ConnInv.onPeerMaxStreams (inv : ConnInv f) {value : Nat} (small : value ≤ Ts.maxOffset) :
    ConnInv (f.onPeerMaxStreams value) := by
  have within := inv.slotsWithin
  unfold Ts.ConnFlow.onPeerMaxStreams
  split
  · next more =>
    refine { inv with streams := Int.ofNat_le.mpr small, slotsWithin := ?_ }
    show f.streamsOpened + f.streamsReserved ≤ (value : Int)
    omega
  · exact inv

/-- Bytes are reserved within the credit, committed, or given back. -/
theorem ConnInv.account (inv : ConnInv f) (sent reserved : Int) (nonneg : 0 ≤ sent)
    (reservedNonneg : 0 ≤ reserved) (within : sent + reserved ≤ f.peerMaxData) :
    ConnInv { f with connSent := sent, connReserved := reserved } :=
  { inv with sent := nonneg, reserved := reservedNonneg, within := within }

theorem ConnInv.slot (inv : ConnInv f) (opened reserved : Int) (nonneg : 0 ≤ opened)
    (reservedNonneg : 0 ≤ reserved) (within : opened + reserved ≤ f.peerMaxStreams) :
    ConnInv { f with streamsOpened := opened, streamsReserved := reserved } :=
  { inv with opened := nonneg, slots := reservedNonneg, slotsWithin := within }

theorem ConnInv.receive (inv : ConnInv f) {n : Int} (nonneg : 0 ≤ n)
    (fits : f.connReceived + n ≤ f.localMaxData) :
    ConnInv { f with connReceived := f.connReceived + n } := by
  have capped : f.localMaxData ≤ Ts.maxOffset :=
    inv.window.capped (Int.ofNat_le.mpr inv.limits.data)
  have received : f.window.receive n = some { f.window with received := f.connReceived + n } :=
    if_neg (not_lt.mpr fits)
  exact { inv with window := inv.window.receive nonneg received, small := le_trans fits capped }

theorem ConnInv.consume (inv : ConnInv f) {n : Int} (nonneg : 0 ≤ n)
    (available : f.connConsumed + n ≤ f.connReceived) : ConnInv (f.connDataConsumed n).1 := by
  have window : (f.connDataConsumed n).1.window.Sound Ts.maxOffset := by
    rw [(f.window_connDataConsumed n).1]
    exact inv.window.consume nonneg available
  obtain ⟨at', limit, changed⟩ := f.connDataConsumed_fields n
  rw [changed] at window ⊢
  exact { inv with window := window }

theorem ConnInv.peerStreamOpened (inv : ConnInv f) {f' : Ts.ConnFlow}
    (admitted : f.peerStreamOpened = .ok f') :
    ConnInv f' ∧ f' = { f with peerOpenedStreams := f.peerOpenedStreams + 1 } := by
  have inUse := inv.inUse
  unfold Ts.ConnFlow.peerStreamOpened at admitted
  split at admitted
  · cases admitted
  · next room =>
    cases admitted
    refine ⟨{ inv with inUse := ?_, admitted := ?_ }, rfl⟩
    · show f.peerRetiredStreams ≤ f.peerOpenedStreams + 1
      omega
    · show f.peerOpenedStreams + 1 ≤ f.advertisedMaxStreams
      omega

theorem ConnInv.peerStreamRetired (inv : ConnInv f)
    (opened : f.peerRetiredStreams < f.peerOpenedStreams) : ConnInv f.peerStreamRetired := by
  have retired := inv.retired
  have admitted := inv.admitted
  have formula := inv.formula
  rw [Ts.saturate_eq_min] at formula
  refine { inv with retired := ?_, inUse := ?_, admitted := ?_, formula := rfl }
  · show 0 ≤ f.peerRetiredStreams + 1
    omega
  · show f.peerRetiredStreams + 1 ≤ f.peerOpenedStreams
    omega
  · show f.peerOpenedStreams ≤
      Ts.saturate (f.localLimits.initialMaxStreams + (f.peerRetiredStreams + 1))
    rw [Ts.saturate_eq_min]
    omega

end Conn

section Stream

variable {limits : Ts.FlowLimits} {initial : Int} {sf : Ts.StreamFlow}

theorem StreamInv.account (inv : StreamInv limits initial sf) (sent reserved : Int)
    (nonneg : 0 ≤ sent) (reservedNonneg : 0 ≤ reserved)
    (within : sent + reserved ≤ max sf.peerMaxExplicit initial) :
    StreamInv limits initial { sf with sendSent := sent, sendReserved := reserved } :=
  { inv with sent := nonneg, reserved := reservedNonneg, within := within }

theorem StreamInv.raise (inv : StreamInv limits initial sf) {value : Nat}
    (small : value ≤ Ts.maxOffset) (more : (value : Int) > sf.peerMaxExplicit) :
    StreamInv limits initial { sf with peerMaxExplicit := value } := by
  have within := inv.within
  refine { inv with explicit := Int.ofNat_le.mpr small, within := ?_ }
  show sf.sendSent + sf.sendReserved ≤ max (value : Int) initial
  omega

theorem StreamInv.receive (inv : StreamInv limits initial sf) (valid : limits.Valid) {n : Int}
    (nonneg : 0 ≤ n) (fits : sf.received + n ≤ sf.localMaxStreamData) :
    StreamInv limits initial { sf with received := sf.received + n } := by
  have capped : sf.localMaxStreamData ≤ Ts.maxOffset :=
    inv.window.capped (Int.ofNat_le.mpr valid.streamData)
  have received :
      (sf.window limits).receive n = some { sf.window limits with received := sf.received + n } :=
    if_neg (not_lt.mpr fits)
  exact { inv with window := inv.window.receive nonneg received, small := le_trans fits capped }

theorem StreamInv.consume (inv : StreamInv limits initial sf) {n : Int} (nonneg : 0 ≤ n)
    (available : sf.consumed + n ≤ sf.received) :
    StreamInv limits initial (sf.streamConsumed limits n).1 := by
  have window : ((sf.streamConsumed limits n).1.window limits).Sound Ts.maxOffset := by
    rw [(Ts.StreamFlow.window_streamConsumed limits n sf).1]
    exact inv.window.consume nonneg available
  obtain ⟨at', limit, changed⟩ := Ts.StreamFlow.streamConsumed_fields limits n sf
  rw [changed] at window ⊢
  exact { inv with window := window }

end Stream

namespace EngineInv

variable {e : TsEngine}

/-- What a stream has reserved, the connection has reserved. -/
theorem reserved_le (inv : EngineInv e) {k : Nat} (present : k < e.count) :
    (e.streams k).sendReserved ≤ e.flow.connReserved := by
  rw [inv.reserved]
  exact weight_le_total (fun sf : Ts.StreamFlow => sf.sendReserved)
    (fun other member => (inv.stream other (List.mem_range.mp member)).reserved)
    (List.mem_range.mpr present)

/-- What a stream may still consume, the connection may still consume. -/
theorem unread_le (inv : EngineInv e) {k : Nat} (present : k < e.count) :
    (e.streams k).received - (e.streams k).consumed ≤
      e.flow.connReceived - e.flow.connConsumed := by
  rw [inv.received, inv.consumed, ← total_sub]
  refine weight_le_total (fun sf : Ts.StreamFlow => sf.received - sf.consumed)
    (fun other member => ?_)
    (List.mem_range.mpr present)
  have taken : (e.streams other).consumed ≤ (e.streams other).received :=
    (inv.stream other (List.mem_range.mp member)).window.valid.taken
  show 0 ≤ (e.streams other).received - (e.streams other).consumed
  omega

theorem available_le (e : TsEngine) (k : Nat) :
    e.flow.available (e.streams k) ≤
        max (e.streams k).peerMaxExplicit e.flow.peerMaxStreamDataInitial -
          (e.streams k).sendSent - (e.streams k).sendReserved ∧
      e.flow.available (e.streams k) ≤
        e.flow.peerMaxData - e.flow.connSent - e.flow.connReserved := by
  unfold Ts.ConnFlow.available Ts.ConnFlow.peerMaxStreamData
  dsimp only
  split <;> split <;> omega

/-- **The accounting is kept by every allowed operation.** -/
theorem step (inv : EngineInv e) {op : FlowOp} (allowed : Allowed e op) :
    EngineInv (e.step op).1 := by
  have conn := inv.conn
  cases op with
  | onPeerHello limits => exact allowed.elim
  | onPeerMaxData value =>
    refine inv.onFlow (conn.onPeerMaxData allowed) ?_ ?_ ?_ ?_ ?_ ?_ <;>
      (unfold Ts.ConnFlow.onPeerMaxData; split <;> rfl)
  | onPeerMaxStreams value =>
    refine inv.onFlow (conn.onPeerMaxStreams allowed) ?_ ?_ ?_ ?_ ?_ ?_ <;>
      (unfold Ts.ConnFlow.onPeerMaxStreams; split <;> rfl)
  | onPeerMaxStreamData k value =>
    obtain ⟨present, small⟩ := allowed
    have own := inv.stream k present
    show EngineInv (e.put k ((e.streams k).onPeerMaxStreamData value.toNat e.flow).1
      ((e.streams k).onPeerMaxStreamData value.toNat e.flow).2)
    unfold Ts.StreamFlow.onPeerMaxStreamData
    split
    · next more =>
      refine inv.put present conn.wake rfl rfl (own.raise small more) ?_ ?_ ?_ ?_ <;>
        simp [Ts.ConnFlow.wake]
    · refine inv.put present conn rfl rfl own ?_ ?_ ?_ ?_ <;> simp
  | newStream => exact inv.create
  | reserveData k n =>
    have present : k < e.count := allowed
    have own := inv.stream k present
    simp only [TsEngine.step]
    rcases e.flow.reserveData_cases (e.streams k) (Word.int n) with
      ⟨error, failed⟩ | ⟨grant, positive, fits, -, granted⟩ | ⟨-, -, -, blocked⟩
    · rw [failed]
      exact inv
    · obtain ⟨streamFits, connFits⟩ := available_le e k
      have := own.reserved
      have := conn.reserved
      rw [granted]
      refine inv.put present
        (conn.account e.flow.connSent _ conn.sent (by omega) (by omega)) rfl rfl
        (own.account (e.streams k).sendSent _ own.sent (by omega) (by omega)) ?_ ?_ ?_ ?_ <;>
        simp
    · rw [blocked]
      exact inv
  | commitData k n =>
    obtain ⟨present, granted⟩ := allowed
    have own := inv.stream k present
    have := inv.reserved_le present
    have := Word.int_nonneg n
    have := own.sent
    have := own.within
    have := conn.sent
    have := conn.within
    refine inv.put present (conn.account _ _ (by omega) (by omega) (by omega)) rfl rfl
      (own.account _ _ (by omega) (by omega) (by omega)) ?_ ?_ ?_ ?_ <;>
      simp [Ts.ConnFlow.commitData, Ts.StreamFlow.commit]
  | releaseData k n =>
    obtain ⟨present, granted⟩ := allowed
    have own := inv.stream k present
    have := inv.reserved_le present
    have := Word.int_nonneg n
    have := own.within
    have := conn.within
    refine inv.put present
      (conn.account e.flow.connSent _ conn.sent (by omega) (by omega)).wake rfl rfl
      (own.account (e.streams k).sendSent _ own.sent (by omega) (by omega)) ?_ ?_ ?_ ?_ <;>
      simp [Ts.ConnFlow.releaseData, Ts.StreamFlow.release, Ts.ConnFlow.wake]
  | reserveStreamSlot =>
    simp only [TsEngine.step]
    rcases e.flow.reserveStreamSlot_cases false with
      ⟨error, failed⟩ | ⟨room, reserved⟩ | ⟨-, -, blocked⟩
    · rw [failed]
      exact inv
    · have := conn.slots
      rw [reserved]
      exact inv.onFlow (conn.slot e.flow.streamsOpened _ conn.opened (by omega) (by omega))
        rfl rfl rfl rfl rfl rfl
    · rw [blocked]
      exact inv
  | commitStreamSlot =>
    have some : 1 ≤ e.flow.streamsReserved := allowed
    have := conn.opened
    have := conn.slotsWithin
    exact inv.onFlow (conn.slot _ _ (by omega) (by omega) (by omega)) rfl rfl rfl rfl rfl rfl
  | releaseStreamSlot =>
    have some : 1 ≤ e.flow.streamsReserved := allowed
    have := conn.slotsWithin
    exact inv.onFlow
      (conn.slot e.flow.streamsOpened _ conn.opened (by omega) (by omega)).wake
      rfl rfl rfl rfl rfl rfl
  | failSend k error =>
    have present : k < e.count := allowed
    have own := inv.stream k present
    show EngineInv (e.put k ((e.streams k).failSend error e.flow).1
      ((e.streams k).failSend error e.flow).2)
    unfold Ts.StreamFlow.failSend
    split
    · refine inv.put present conn rfl rfl own ?_ ?_ ?_ ?_ <;> simp
    · refine inv.put present conn.wake rfl rfl { own with } ?_ ?_ ?_ ?_ <;>
        simp [Ts.ConnFlow.wake]
  | fail error =>
    refine inv.onFlow (conn.fail error) ?_ ?_ ?_ ?_ ?_ ?_ <;>
      (unfold Ts.ConnFlow.fail; split <;> rfl)
  | onDataReceived k n =>
    obtain ⟨present, -⟩ := allowed
    have own := inv.stream k present
    simp only [TsEngine.step]
    cases result : (e.streams k).onDataReceived (Word.int n) e.flow with
    | error text => exact inv
    | ok next =>
      obtain ⟨f, sf⟩ := next
      obtain ⟨rfl, rfl, streamFits, connFits⟩ := Ts.StreamFlow.onDataReceived_ok result
      refine inv.put present (conn.receive (Word.int_nonneg n) connFits) rfl rfl
        (own.receive conn.limits (Word.int_nonneg n) streamFits) ?_ ?_ ?_ ?_ <;> simp
  | onConsumed k n =>
    obtain ⟨present, available⟩ := allowed
    have own := inv.stream k present
    have unread := inv.unread_le present
    have nonneg := Word.int_nonneg n
    have conn' := conn.consume nonneg (by omega)
    have own' := own.consume nonneg available
    show EngineInv (e.put k (e.flow.connDataConsumed (Word.int n)).1
      ((e.streams k).streamConsumed e.flow.localLimits (Word.int n)).1)
    obtain ⟨connAt, connLimit, connChanged⟩ := e.flow.connDataConsumed_fields (Word.int n)
    obtain ⟨at', limit, changed⟩ :=
      (e.streams k).streamConsumed_fields e.flow.localLimits (Word.int n)
    rw [connChanged] at conn' ⊢
    rw [changed] at own' ⊢
    refine inv.put present conn' rfl rfl own' ?_ ?_ ?_ ?_ <;> simp
  | markCancelled k =>
    have present : k < e.count := allowed
    have own := inv.stream k present
    refine inv.put present conn rfl rfl { own with } ?_ ?_ ?_ ?_ <;>
      simp [Ts.StreamFlow.markCancelled]
  | peerStreamOpened =>
    simp only [TsEngine.step]
    cases result : e.flow.peerStreamOpened with
    | error text => exact inv
    | ok f =>
      obtain ⟨conn', rfl⟩ := conn.peerStreamOpened result
      exact inv.onFlow conn' rfl rfl rfl rfl rfl rfl
  | peerStreamRetired =>
    exact inv.onFlow (conn.peerStreamRetired allowed) rfl rfl rfl rfl rfl rfl

end EngineInv

/-! ### The word operations are exact within the accounting -/

section Exact

variable {f : ConnFlow KpsError} {sf : StreamFlow KpsError} {n : UInt64}

theorem cap_eq : (Ts.maxOffset : Int) = 4611686018427387903 := rfl

theorem reserveData_view (conn : ConnInv f.view)
    (own : StreamInv f.view.localLimits f.view.peerMaxStreamDataInitial sf.view) (n : UInt64) :
    ∃ result, f.reserveData sf n = pure result ∧
      result.view = f.view.reserveData sf.view (Word.int n) := by
  have peerMax : f.view.peerMaxStreamData sf.view =
      max (Word.int sf.peerMaxExplicit) (Word.int f.peerInitStreamData) := by
    rw [← peerMaxLocked_view]
    exact Word.int_max _ _
  unfold ConnFlow.reserveData Ts.ConnFlow.reserveData
  cases failed : f.failed with
  | some error =>
    refine ⟨_, rfl, ?_⟩
    rw [show f.view.failure = some error from failed]
    rfl
  | none =>
    rw [show f.view.failure = none from failed]
    cases sendFailure : sf.sendFailure with
    | some error =>
      refine ⟨_, rfl, ?_⟩
      rw [show sf.view.sendFailure = some error from sendFailure]
      rfl
    | none =>
      rw [show sf.view.sendFailure = none from sendFailure]
      have sent : 0 ≤ Word.int sf.sendSent := own.sent
      have reserved : 0 ≤ Word.int sf.sendReserved := own.reserved
      have within : Word.int sf.sendSent + Word.int sf.sendReserved ≤
        max (Word.int sf.peerMaxExplicit) (Word.int f.peerInitStreamData) := own.within
      have connSent : 0 ≤ Word.int f.connSent := conn.sent
      have connReserved : 0 ≤ Word.int f.connReserved := conn.reserved
      have connWithin : Word.int f.connSent + Word.int f.connReserved ≤ Word.int f.peerMaxData :=
        conn.within
      have data : Word.int f.peerMaxData ≤ Ts.maxOffset := conn.data
      have explicit : Word.int sf.peerMaxExplicit ≤ Ts.maxOffset := own.explicit
      have initial : Word.int f.peerInitStreamData ≤ Ts.maxOffset := conn.initial
      have window := peerMaxLocked_view f sf
      rw [cap_eq] at data explicit initial
      obtain ⟨a, aPure, aExact⟩ := Word.sub_exact (show Word.int sf.sendSent ≤
        Word.int (f.peerMaxLocked sf) by omega)
      obtain ⟨b, bPure, bExact⟩ :=
        Word.sub_exact (show Word.int sf.sendReserved ≤ Word.int a by omega)
      obtain ⟨c, cPure, cExact⟩ := Word.sub_exact (show Word.int f.connSent ≤
        Word.int f.peerMaxData by omega)
      obtain ⟨d, dPure, dExact⟩ :=
        Word.sub_exact (show Word.int f.connReserved ≤ Word.int c by omega)
      have grantExact : (if f.view.available sf.view > Word.int n then Word.int n
          else f.view.available sf.view) = Word.int (min (min b d) n) := by
        have available : f.view.available sf.view = min (Word.int b) (Word.int d) := by
          show (if f.view.peerMaxStreamData sf.view - Word.int sf.sendSent -
              Word.int sf.sendReserved < Word.int f.peerMaxData - Word.int f.connSent -
              Word.int f.connReserved
            then f.view.peerMaxStreamData sf.view - Word.int sf.sendSent - Word.int sf.sendReserved
            else Word.int f.peerMaxData - Word.int f.connSent - Word.int f.connReserved) = _
          rw [← window, ← aExact, ← bExact, ← cExact, ← dExact]
          split <;> omega
        rw [available, Word.int_min, Word.int_min]
        split <;> omega
      simp only [aPure, bPure, cPure, dPure, Traced.pure_bind, grantExact]
      have grantLe : Word.int (min (min b d) n) ≤ Word.int b ∧
          Word.int (min (min b d) n) ≤ Word.int d := by
        rw [Word.int_min, Word.int_min]
        omega
      by_cases positive : min (min b d) n ≥ 1
      · obtain ⟨x, xPure, xExact⟩ := Word.add_exact
          (show Word.int sf.sendReserved + Word.int (min (min b d) n) < _ by omega)
        obtain ⟨y, yPure, yExact⟩ := Word.add_exact
          (show Word.int f.connReserved + Word.int (min (min b d) n) < _ by omega)
        have positive' : Word.int (min (min b d) n) ≥ 1 := Word.int_le_iff.mpr positive
        refine ⟨.granted (min (min b d) n) { f with connReserved := y } { sf with
          sendReserved := x }, ?_, ?_⟩
        · rw [if_pos positive, xPure, Traced.pure_bind, yPure, Traced.pure_bind, failed,
            sendFailure]
        · rw [if_pos positive']
          simp only [ReserveResult.view, ConnFlow.view, StreamFlow.view, xExact, yExact, failed,
            sendFailure]
      · have positive' : ¬ Word.int (min (min b d) n) ≥ 1 := fun ge =>
          positive (Word.int_le_iff.mp ge)
        refine ⟨.blocked, if_neg positive, ?_⟩
        rw [if_neg positive']
        rfl

/-- Moving reserved bytes to sent. -/
theorem commitData_view (conn : ConnInv f.view)
    (own : StreamInv f.view.localLimits f.view.peerMaxStreamDataInitial sf.view)
    (granted : Word.int n ≤ Word.int sf.sendReserved)
    (connGranted : Word.int n ≤ Word.int f.connReserved) :
    ∃ f' sf', f.commitData n sf = pure (f', sf') ∧ f'.view = f.view.commitData (Word.int n) ∧
      sf'.view = sf.view.commit (Word.int n) := by
  have within : Word.int sf.sendSent + Word.int sf.sendReserved ≤
    max (Word.int sf.peerMaxExplicit) (Word.int f.peerInitStreamData) := own.within
  have connWithin : Word.int f.connSent + Word.int f.connReserved ≤ Word.int f.peerMaxData :=
    conn.within
  have data : Word.int f.peerMaxData ≤ Ts.maxOffset := conn.data
  have explicit : Word.int sf.peerMaxExplicit ≤ Ts.maxOffset := own.explicit
  have initial : Word.int f.peerInitStreamData ≤ Ts.maxOffset := conn.initial
  rw [cap_eq] at data explicit initial
  obtain ⟨a, aPure, aExact⟩ := Word.sub_exact granted
  obtain ⟨b, bPure, bExact⟩ := Word.add_exact (show Word.int sf.sendSent + Word.int n < _ by omega)
  obtain ⟨c, cPure, cExact⟩ := Word.sub_exact connGranted
  obtain ⟨d, dPure, dExact⟩ := Word.add_exact (show Word.int f.connSent + Word.int n < _ by omega)
  refine ⟨{ f with connReserved := c, connSent := d }, { sf with sendReserved := a, sendSent := b },
    ?_, ?_, ?_⟩
  · unfold ConnFlow.commitData
    simp only [aPure, bPure, cPure, dPure, Traced.pure_bind]
  · simp only [ConnFlow.view, Ts.ConnFlow.commitData, cExact, dExact]
  · simp only [StreamFlow.view, Ts.StreamFlow.commit, aExact, bExact]

theorem releaseData_view (granted : Word.int n ≤ Word.int sf.sendReserved)
    (connGranted : Word.int n ≤ Word.int f.connReserved) :
    ∃ f' sf', f.releaseData n sf = pure (f', sf') ∧ f'.view = f.view.releaseData (Word.int n) ∧
      sf'.view = sf.view.release (Word.int n) := by
  obtain ⟨a, aPure, aExact⟩ := Word.sub_exact granted
  obtain ⟨c, cPure, cExact⟩ := Word.sub_exact connGranted
  refine ⟨({ f with connReserved := c } : ConnFlow KpsError).wakeLocked,
    { sf with sendReserved := a }, ?_, ?_, ?_⟩
  · unfold ConnFlow.releaseData
    simp only [aPure, cPure, Traced.pure_bind]
  · simp only [ConnFlow.view, ConnFlow.wakeLocked, Ts.ConnFlow.releaseData, Ts.ConnFlow.wake,
      Ts.Wakeable.wake, cExact]
  · simp only [StreamFlow.view, Ts.StreamFlow.release, aExact]

theorem reserveStreamSlot_view (conn : ConnInv f.view) :
    ∃ result, f.reserveStreamSlot = pure result ∧
      result.view = f.view.reserveStreamSlot false := by
  have within : Word.int f.streamsOpened + Word.int f.streamsReserved ≤ Word.int f.peerMaxStreams :=
    conn.slotsWithin
  have opened : 0 ≤ Word.int f.streamsOpened := conn.opened
  have streams : Word.int f.peerMaxStreams ≤ Ts.maxOffset := conn.streams
  rw [cap_eq] at streams
  unfold ConnFlow.reserveStreamSlot Ts.ConnFlow.reserveStreamSlot
  cases failed : f.failed with
  | some error =>
    refine ⟨_, rfl, ?_⟩
    rw [show f.view.failure = some error from failed]
    rfl
  | none =>
    rw [show f.view.failure = none from failed]
    obtain ⟨a, aPure, aExact⟩ := Word.add_exact
      (show Word.int f.streamsOpened + Word.int f.streamsReserved < _ by omega)
    obtain ⟨b, bPure, bExact⟩ := Word.add_exact
      (show Word.int f.streamsReserved + Word.int 1 < _ by rw [int_one]; omega)
    simp only [aPure, Traced.pure_bind, if_neg Bool.false_ne_true]
    by_cases room : a < f.peerMaxStreams
    · have room' : f.view.streamsOpened + f.view.streamsReserved < f.view.peerMaxStreams := by
        show Word.int f.streamsOpened + Word.int f.streamsReserved < Word.int f.peerMaxStreams
        rw [← aExact]
        exact Word.int_lt_iff.mpr room
      refine ⟨.reserved { f with streamsReserved := b }, ?_, ?_⟩
      · rw [if_pos room, bPure, Traced.pure_bind, failed]
      · rw [if_pos room']
        simp only [SlotResult.view, ConnFlow.view, bExact, int_one, failed]
    · have room' : ¬ f.view.streamsOpened + f.view.streamsReserved < f.view.peerMaxStreams := by
        show ¬ Word.int f.streamsOpened + Word.int f.streamsReserved < Word.int f.peerMaxStreams
        rw [← aExact]
        exact mt Word.int_lt_iff.mp room
      refine ⟨.blocked, if_neg room, ?_⟩
      rw [if_neg room']
      rfl

theorem commitStreamSlot_view (conn : ConnInv f.view) (granted : 1 ≤ Word.int f.streamsReserved) :
    ∃ f', f.commitStreamSlot = pure f' ∧ f'.view = f.view.commitStreamSlot := by
  have within : Word.int f.streamsOpened + Word.int f.streamsReserved ≤ Word.int f.peerMaxStreams :=
    conn.slotsWithin
  have streams : Word.int f.peerMaxStreams ≤ Ts.maxOffset := conn.streams
  rw [cap_eq] at streams
  obtain ⟨a, aPure, aExact⟩ :=
    Word.sub_exact (show Word.int 1 ≤ Word.int f.streamsReserved from granted)
  obtain ⟨b, bPure, bExact⟩ := Word.add_exact
    (show Word.int f.streamsOpened + Word.int 1 < _ by rw [int_one]; omega)
  refine ⟨{ f with streamsReserved := a, streamsOpened := b }, ?_, ?_⟩
  · unfold ConnFlow.commitStreamSlot
    simp only [aPure, bPure, Traced.pure_bind]
  · simp only [ConnFlow.view, Ts.ConnFlow.commitStreamSlot, aExact, bExact, int_one]

theorem releaseStreamSlot_view (granted : 1 ≤ Word.int f.streamsReserved) :
    ∃ f', f.releaseStreamSlot = pure f' ∧ f'.view = f.view.releaseStreamSlot := by
  obtain ⟨a, aPure, aExact⟩ :=
    Word.sub_exact (show Word.int 1 ≤ Word.int f.streamsReserved from granted)
  refine ⟨({ f with streamsReserved := a } : ConnFlow KpsError).wakeLocked, ?_, ?_⟩
  · unfold ConnFlow.releaseStreamSlot
    simp only [aPure, Traced.pure_bind]
  · simp only [ConnFlow.view, ConnFlow.wakeLocked, Ts.ConnFlow.releaseStreamSlot, Ts.ConnFlow.wake,
      Ts.Wakeable.wake, aExact, int_one]

/-- An answer of a Go method that can find a violation, against the exact one. -/
def SameAnswer {α β : Type} (view : α → β) : Except String α → Except String β → Prop
  | .error text, .error text' => text = errProtocol text'
  | .ok value, .ok value' => view value = value'
  | _, _ => False

theorem peerStreamOpened_view (conn : ConnInv f.view) :
    ∃ result, f.peerStreamOpened = pure result ∧
      SameAnswer ConnFlow.view result f.view.peerStreamOpened := by
  have admitted : Word.int f.peerOpenedStreams ≤ Word.int f.advertisedMaxStreams := conn.admitted
  have formula : Word.int f.advertisedMaxStreams =
    Ts.saturate (f.view.localLimits.initialMaxStreams + Word.int f.peerRetiredStreams) :=
      conn.formula
  rw [Ts.saturate_eq_min, cap_eq] at formula
  unfold ConnFlow.peerStreamOpened Ts.ConnFlow.peerStreamOpened
  by_cases full : f.peerOpenedStreams ≥ f.advertisedMaxStreams
  · have full' : f.view.peerOpenedStreams ≥ f.view.advertisedMaxStreams := Word.int_le_iff.mpr full
    refine ⟨_, if_pos full, ?_⟩
    rw [if_pos full']
    rfl
  · have full' : ¬ f.view.peerOpenedStreams ≥ f.view.advertisedMaxStreams := fun ge =>
      full (Word.int_le_iff.mp ge)
    obtain ⟨a, aPure, aExact⟩ := Word.add_exact
      (show Word.int f.peerOpenedStreams + Word.int 1 < _ by rw [int_one]; omega)
    refine ⟨.ok { f with peerOpenedStreams := a }, ?_, ?_⟩
    · rw [if_neg full, aPure, Traced.pure_bind]
    · rw [if_neg full']
      simp only [SameAnswer, ConnFlow.view, aExact, int_one]

theorem peerStreamRetired_view (conn : ConnInv f.view)
    (opened : Word.int f.peerRetiredStreams < Word.int f.peerOpenedStreams) :
    ∃ f', f.peerStreamRetired = pure f' ∧ f'.view = f.view.peerStreamRetired := by
  have admitted : Word.int f.peerOpenedStreams ≤ Word.int f.advertisedMaxStreams := conn.admitted
  have formula : Word.int f.advertisedMaxStreams =
    Ts.saturate (f.view.localLimits.initialMaxStreams + Word.int f.peerRetiredStreams) :=
      conn.formula
  have streams : Word.int f.limits.maxStreams ≤ Ts.maxOffset :=
    Int.ofNat_le.mpr conn.limits.streams
  rw [Ts.saturate_eq_min, cap_eq] at formula
  rw [cap_eq] at streams
  obtain ⟨a, aPure, aExact⟩ := Word.add_exact
    (show Word.int f.peerRetiredStreams + Word.int 1 < _ by rw [int_one]; omega)
  rw [int_one] at aExact
  obtain ⟨b, bPure, bExact⟩ := Word.add_exact
    (show Word.int f.limits.maxStreams + Word.int a < _ by omega)
  refine ⟨{ f with peerRetiredStreams := a, advertisedMaxStreams := satOffset b }, ?_, ?_⟩
  · unfold ConnFlow.peerStreamRetired
    simp only [aPure, bPure, Traced.pure_bind]
  · simp only [ConnFlow.view, Ts.ConnFlow.peerStreamRetired, int_satOffset, aExact, bExact]
    rfl

theorem onDataReceived_view (conn : ConnInv f.view)
    (own : StreamInv f.view.localLimits f.view.peerMaxStreamDataInitial sf.view)
    (small : n.toNat ≤ 2 ^ 64 - 2 ^ 62) :
    ∃ result, sf.onDataReceived n f = pure result ∧
      SameAnswer (Prod.map ConnFlow.view StreamFlow.view) result
        (sf.view.onDataReceived (Word.int n) f.view) := by
  have small : Word.int n ≤ 13835058055282163712 := Int.ofNat_le.mpr small
  have received : Word.int sf.received ≤ Ts.maxOffset := own.small
  have connReceived : Word.int f.connReceived ≤ Ts.maxOffset := conn.small
  rw [cap_eq] at received connReceived
  obtain ⟨a, aPure, aExact⟩ := Word.add_exact (show Word.int sf.received + Word.int n < _ by omega)
  obtain ⟨b, bPure, bExact⟩ :=
    Word.add_exact (show Word.int f.connReceived + Word.int n < _ by omega)
  unfold StreamFlow.onDataReceived Ts.StreamFlow.onDataReceived Ts.ConnFlow.connDataReceived
  rw [aPure, Traced.pure_bind, show sf.view.received + Word.int n = Word.int a from aExact.symm,
    show f.view.connReceived + Word.int n = Word.int b from bExact.symm]
  by_cases exceeds : a > sf.localMax
  · have exceeds' : Word.int a > sf.view.localMaxStreamData := Word.int_lt_iff.mpr exceeds
    refine ⟨_, if_pos exceeds, ?_⟩
    rw [if_pos exceeds']
    rfl
  · have exceeds' : ¬ Word.int a > sf.view.localMaxStreamData := fun gt =>
      exceeds (Word.int_lt_iff.mp gt)
    rw [if_neg exceeds, if_neg exceeds', bPure, Traced.pure_bind]
    by_cases connOver : b > f.localMaxData
    · have connOver' : Word.int b > f.view.localMaxData := Word.int_lt_iff.mpr connOver
      refine ⟨_, if_pos connOver, ?_⟩
      rw [if_pos connOver']
      rfl
    · have connOver' : ¬ Word.int b > f.view.localMaxData := fun gt =>
        connOver (Word.int_lt_iff.mp gt)
      refine ⟨_, if_neg connOver, ?_⟩
      rw [if_neg connOver']
      rfl

theorem positive_int (v : UInt64) :
    (StreamFlow.positive v).map Word.int = nonzero (some (Word.int v)) := by
  unfold StreamFlow.positive nonzero
  have nonneg := Word.int_nonneg v
  by_cases positive : v > 0
  · have : Word.int 0 < Word.int v := Word.int_lt_iff.mpr positive
    have positive' : ¬ some (Word.int v) = some 0 := fun zero => by
      have zero : Word.int v = 0 := Option.some.inj zero
      exact absurd zero (ne_of_gt this)
    rw [if_pos positive, if_neg positive']
    rfl
  · have least : ¬ Word.int 0 < Word.int v := mt Word.int_lt_iff.mp positive
    have zero : Word.int v = 0 := le_antisymm (not_lt.mp least) nonneg
    rw [if_neg positive, if_pos (congrArg some zero)]
    rfl

theorem streamConsumed_view (valid : f.view.localLimits.Valid)
    (own : StreamInv f.view.localLimits f.view.peerMaxStreamDataInitial sf.view)
    (available : Word.int sf.consumed + Word.int n ≤ Word.int sf.received) :
    ∃ sf' advert, sf.streamConsumed n f = pure (sf', advert) ∧
      sf'.view = (sf.view.streamConsumed f.view.localLimits (Word.int n)).1 ∧
      (StreamFlow.positive advert).map Word.int =
        nonzero (sf.view.streamConsumed f.view.localLimits (Word.int n)).2 := by
  have received : Word.int sf.received ≤ Ts.maxOffset := own.small
  have behind : Word.int sf.advertisedAt ≤ Word.int sf.consumed := own.window.valid.behind
  have size : Word.int f.limits.maxStreamData ≤ Ts.maxOffset := Int.ofNat_le.mpr valid.streamData
  have nonneg := Word.int_nonneg n
  rw [cap_eq] at received size
  obtain ⟨a, aPure, aExact⟩ := Word.add_exact (show Word.int sf.consumed + Word.int n < _ by omega)
  obtain ⟨b, bPure, bExact⟩ := Word.sub_exact (show Word.int sf.advertisedAt ≤ Word.int a by omega)
  obtain ⟨c, cPure, cExact⟩ := Word.add_exact
    (show Word.int a + Word.int f.limits.maxStreamData < _ by omega)
  have withheld : (⟨{ sf with consumed := a }, 0⟩ : StreamFlow KpsError × UInt64).1.view =
      { sf.view with consumed := sf.view.consumed + Word.int n } := by
    show StreamFlow.view { sf with consumed := a } = _
    simp only [StreamFlow.view, aExact]
  unfold StreamFlow.streamConsumed Ts.StreamFlow.streamConsumed
  rw [aPure, Traced.pure_bind]
  by_cases cancelled : sf.cancelled = true
  · rw [if_pos cancelled, if_neg (by simp [StreamFlow.view, cancelled])]
    exact ⟨_, _, rfl, withheld, rfl⟩
  · rw [if_neg cancelled, bPure, Traced.pure_bind]
    have granting : sf.view.cancelled = false := Bool.not_eq_true _ ▸ cancelled
    have unadvertised : sf.view.consumed + Word.int n - sf.view.advertisedAt = Word.int b := by
      rw [bExact, aExact]
      rfl
    have half : (f.view.localLimits.initialMaxStreamData : Int) / 2 =
      Word.int (f.limits.maxStreamData / 2) := (Word.int_half _).symm
    by_cases due : b ≥ f.limits.maxStreamData / 2
    · have due' : (!sf.view.cancelled && decide (sf.view.consumed + Word.int n -
          sf.view.advertisedAt ≥ (f.view.localLimits.initialMaxStreamData : Int) / 2)) = true := by
        rw [unadvertised, half, granting]
        exact decide_eq_true (Word.int_le_iff.mpr due)
      rw [if_pos due, cPure, Traced.pure_bind, if_pos due']
      refine ⟨_, _, rfl, ?_, ?_⟩
      · simp only [StreamFlow.view, int_satOffset, cExact, aExact]
        rfl
      · rw [positive_int, int_satOffset, cExact, aExact]
        rfl
    · have due' : ¬ (!sf.view.cancelled && decide (sf.view.consumed + Word.int n -
          sf.view.advertisedAt ≥ (f.view.localLimits.initialMaxStreamData : Int) / 2)) = true := by
        rw [unadvertised, half, granting]
        exact fun ge => due (Word.int_le_iff.mp (of_decide_eq_true ge))
      rw [if_neg due, if_neg due']
      exact ⟨_, _, rfl, withheld, rfl⟩

theorem connConsumed_view (conn : ConnInv f.view)
    (available : Word.int f.connConsumed + Word.int n ≤ Word.int f.connReceived) :
    ∃ f' advert, StreamFlow.connConsumed n f = pure (f', advert) ∧
      f'.view = (f.view.connDataConsumed (Word.int n)).1 ∧
      (StreamFlow.positive advert).map Word.int =
        nonzero (f.view.connDataConsumed (Word.int n)).2 := by
  have received : Word.int f.connReceived ≤ Ts.maxOffset := conn.small
  have behind : Word.int f.connAdvertisedAt ≤ Word.int f.connConsumed := conn.window.valid.behind
  have size : Word.int f.limits.maxData ≤ Ts.maxOffset := Int.ofNat_le.mpr conn.limits.data
  have nonneg := Word.int_nonneg n
  rw [cap_eq] at received size
  obtain ⟨a, aPure, aExact⟩ :=
    Word.add_exact (show Word.int f.connConsumed + Word.int n < _ by omega)
  obtain ⟨b, bPure, bExact⟩ := Word.sub_exact
    (show Word.int f.connAdvertisedAt ≤ Word.int a by omega)
  obtain ⟨c, cPure, cExact⟩ := Word.add_exact
    (show Word.int a + Word.int f.limits.maxData < _ by omega)
  unfold StreamFlow.connConsumed Ts.ConnFlow.connDataConsumed
  rw [aPure, Traced.pure_bind, bPure, Traced.pure_bind]
  have unadvertised : f.view.connConsumed + Word.int n - f.view.connAdvertisedAt = Word.int b := by
    rw [bExact, aExact]
    rfl
  have half : (f.view.localLimits.initialMaxData : Int) / 2 = Word.int (f.limits.maxData / 2) :=
    (Word.int_half _).symm
  by_cases due : b ≥ f.limits.maxData / 2
  · have due' : f.view.connConsumed + Word.int n - f.view.connAdvertisedAt ≥
        (f.view.localLimits.initialMaxData : Int) / 2 := by
      rw [unadvertised, half]
      exact Word.int_le_iff.mpr due
    rw [if_pos due, cPure, Traced.pure_bind, if_pos due']
    refine ⟨_, _, rfl, ?_, ?_⟩
    · simp only [ConnFlow.view, int_satOffset, cExact, aExact]
      rfl
    · rw [positive_int, int_satOffset, cExact, aExact]
      rfl
  · have due' : ¬ f.view.connConsumed + Word.int n - f.view.connAdvertisedAt ≥
        (f.view.localLimits.initialMaxData : Int) / 2 := by
      rw [unadvertised, half]
      exact fun ge => due (Word.int_le_iff.mp ge)
    rw [if_neg due, if_neg due']
    refine ⟨_, _, rfl, ?_, rfl⟩
    simp only [ConnFlow.view, aExact]

theorem onConsumed_view (conn : ConnInv f.view)
    (own : StreamInv f.view.localLimits f.view.peerMaxStreamDataInitial sf.view)
    (available : Word.int sf.consumed + Word.int n ≤ Word.int sf.received)
    (connAvailable : Word.int f.connConsumed + Word.int n ≤ Word.int f.connReceived) :
    ∃ f' sf' streamData data, sf.onConsumed n f = pure (f', sf', streamData, data) ∧
      f'.view = (f.view.connDataConsumed (Word.int n)).1 ∧
      sf'.view = (sf.view.streamConsumed f.view.localLimits (Word.int n)).1 ∧
      streamData.map Word.int =
        nonzero (sf.view.streamConsumed f.view.localLimits (Word.int n)).2 ∧
      data.map Word.int = nonzero (f.view.connDataConsumed (Word.int n)).2 := by
  obtain ⟨sf', streamAdv, streamPure, streamSame, streamAdvert⟩ :=
    streamConsumed_view conn.limits own available
  obtain ⟨f', connAdv, connPure, connSame, connAdvert⟩ := connConsumed_view conn connAvailable
  refine ⟨f', sf', _, _, ?_, connSame, streamSame, streamAdvert, connAdvert⟩
  unfold StreamFlow.onConsumed
  simp only [streamPure, connPure, Traced.pure_bind]

end Exact

namespace GoEngine

variable (e : GoEngine)

theorem view_put (k : Nat) (f : ConnFlow KpsError) (sf : StreamFlow KpsError) :
    GoEngine.view (e.put k f sf) = e.view.put k f.view sf.view := by
  unfold GoEngine.view Engine.put
  dsimp only
  congr 1
  funext other
  by_cases same : other = k
  · subst same
    rw [Function.update_self, Function.update_self]
  · rw [Function.update_of_ne same, Function.update_of_ne same]

theorem view_create : GoEngine.view (e.create e.flow.newStream) =
    e.view.create (.new e.view.flow.localLimits) := by
  unfold GoEngine.view Engine.create
  dsimp only
  congr 1
  funext other
  by_cases same : other = e.count
  · subst same
    rw [Function.update_self, Function.update_self]
    rfl
  · rw [Function.update_of_ne same, Function.update_of_ne same]

variable {e}

/-- **One operation.** Within the accounting no word wraps, and the engines answer the same. -/
theorem step_view (inv : EngineInv e.view) {op : FlowOp} (allowed : Allowed e.view op) :
    ∃ e' verdict, e.step op = pure (e', verdict) ∧ GoEngine.view e' = (e.view.step op).1 ∧
      verdict = (e.view.step op).2.inGo := by
  have conn := inv.conn
  cases op with
  | onPeerHello limits => exact allowed.elim
  | onPeerMaxData value =>
    refine ⟨_, _, rfl, ?_, rfl⟩
    exact congrArg e.view.onFlow (onPeerMaxData_view e.flow value)
  | onPeerMaxStreams value =>
    refine ⟨_, _, rfl, ?_, rfl⟩
    exact congrArg e.view.onFlow (onPeerMaxStreams_view e.flow value)
  | onPeerMaxStreamData k value =>
    have same := onPeerMaxStreamData_view e.flow (e.streams k) value
    refine ⟨_, _, rfl, ?_, rfl⟩
    rw [view_put]
    exact congrArg (fun next => e.view.put k next.1 next.2) same
  | newStream => exact ⟨_, _, rfl, view_create e, rfl⟩
  | reserveData k n =>
    have present : k < e.count := allowed
    obtain ⟨result, ran, same⟩ := reserveData_view conn (inv.stream k present) n
    have same : result.view = e.view.flow.reserveData (e.view.streams k) (Word.int n) := same
    simp only [GoEngine.step, TsEngine.step, ran, ← same, Traced.pure_bind]
    cases result with
    | failed error => exact ⟨_, _, rfl, rfl, rfl⟩
    | granted amount f sf => exact ⟨_, _, rfl, view_put e k f sf, rfl⟩
    | blocked => exact ⟨_, _, rfl, rfl, rfl⟩
  | commitData k n =>
    obtain ⟨present, granted⟩ := allowed
    obtain ⟨f, sf, ran, sameConn, sameStream⟩ := commitData_view conn (inv.stream k present) granted
      (le_trans granted (inv.reserved_le present))
    simp only [GoEngine.step, TsEngine.step, ran, Traced.pure_bind]
    refine ⟨_, _, rfl, ?_, rfl⟩
    rw [view_put, sameConn, sameStream]
    rfl
  | releaseData k n =>
    obtain ⟨present, granted⟩ := allowed
    obtain ⟨f, sf, ran, sameConn, sameStream⟩ := releaseData_view (f := e.flow) granted
      (le_trans granted (inv.reserved_le present))
    simp only [GoEngine.step, TsEngine.step, ran, Traced.pure_bind]
    refine ⟨_, _, rfl, ?_, rfl⟩
    rw [view_put, sameConn, sameStream]
    rfl
  | reserveStreamSlot =>
    obtain ⟨result, ran, same⟩ := reserveStreamSlot_view conn
    have same : result.view = e.view.flow.reserveStreamSlot false := same
    simp only [GoEngine.step, TsEngine.step, ran, ← same, Traced.pure_bind]
    cases result with
    | failed error => exact ⟨_, _, rfl, rfl, rfl⟩
    | reserved f => exact ⟨_, _, rfl, rfl, rfl⟩
    | blocked => exact ⟨_, _, rfl, rfl, rfl⟩
  | commitStreamSlot =>
    obtain ⟨f, ran, same⟩ := commitStreamSlot_view conn allowed
    simp only [GoEngine.step, TsEngine.step, ran, Traced.pure_bind]
    exact ⟨_, _, rfl, congrArg e.view.onFlow same, rfl⟩
  | releaseStreamSlot =>
    obtain ⟨f, ran, same⟩ := releaseStreamSlot_view (f := e.flow) allowed
    simp only [GoEngine.step, TsEngine.step, ran, Traced.pure_bind]
    exact ⟨_, _, rfl, congrArg e.view.onFlow same, rfl⟩
  | failSend k error =>
    have same := failSend_view e.flow (e.streams k) error
    refine ⟨_, _, rfl, ?_, rfl⟩
    rw [view_put]
    exact congrArg (fun next => e.view.put k next.1 next.2) same
  | fail error =>
    refine ⟨_, _, rfl, ?_, rfl⟩
    exact congrArg e.view.onFlow (fail_view e.flow error)
  | onDataReceived k n =>
    obtain ⟨present, small⟩ := allowed
    obtain ⟨result, ran, same⟩ := onDataReceived_view conn (inv.stream k present) small
    have same : SameAnswer (Prod.map ConnFlow.view StreamFlow.view) result
      ((e.view.streams k).onDataReceived (Word.int n) e.view.flow) := same
    simp only [GoEngine.step, TsEngine.step, ran, Traced.pure_bind]
    cases answer : (e.view.streams k).onDataReceived (Word.int n) e.view.flow with
    | error text =>
      rw [answer] at same
      cases result with
      | error text' => exact ⟨_, _, rfl, rfl, congrArg FlowVerdict.violation same⟩
      | ok next => exact same.elim
    | ok next =>
      rw [answer] at same
      cases result with
      | error text' => exact same.elim
      | ok next' =>
        refine ⟨_, _, rfl, ?_, rfl⟩
        rw [view_put]
        exact congrArg (fun next => e.view.put k next.1 next.2) same
  | onConsumed k n =>
    obtain ⟨present, available⟩ := allowed
    have unread := inv.unread_le present
    have connAvailable : Word.int e.flow.connConsumed + Word.int n ≤
        Word.int e.flow.connReceived := by
      have available : (e.view.streams k).consumed + Word.int n ≤ (e.view.streams k).received :=
        available
      have unread : (e.view.streams k).received - (e.view.streams k).consumed ≤
        Word.int e.flow.connReceived - Word.int e.flow.connConsumed := unread
      omega
    obtain ⟨f, sf, streamData, data, ran, sameConn, sameStream, streamAdvert, advert⟩ :=
      onConsumed_view conn (inv.stream k present) available connAvailable
    simp only [GoEngine.step, TsEngine.step, ran, Traced.pure_bind]
    refine ⟨_, _, rfl, ?_, ?_⟩
    · rw [view_put, sameConn, sameStream]
      rfl
    · rw [streamAdvert, advert]
      rfl
  | markCancelled k => exact ⟨_, _, rfl, view_put e k _ _, rfl⟩
  | peerStreamOpened =>
    obtain ⟨result, ran, same⟩ := peerStreamOpened_view conn
    have same : SameAnswer ConnFlow.view result e.view.flow.peerStreamOpened := same
    simp only [GoEngine.step, TsEngine.step, ran, Traced.pure_bind]
    cases answer : e.view.flow.peerStreamOpened with
    | error text =>
      rw [answer] at same
      cases result with
      | error text' => exact ⟨_, _, rfl, rfl, congrArg FlowVerdict.violation same⟩
      | ok next => exact same.elim
    | ok next =>
      rw [answer] at same
      cases result with
      | error text' => exact same.elim
      | ok next' => exact ⟨_, _, rfl, congrArg e.view.onFlow same, rfl⟩
  | peerStreamRetired =>
    obtain ⟨f, ran, same⟩ := peerStreamRetired_view conn allowed
    simp only [GoEngine.step, TsEngine.step, ran, Traced.pure_bind]
    refine ⟨_, _, rfl, congrArg e.view.onFlow same, ?_⟩
    have advertised : Word.int f.advertisedMaxStreams = f.view.advertisedMaxStreams := rfl
    rw [advertised, same]
    rfl

end GoEngine

/-! ### Histories -/

/-- The engines answer the same and stay equal, and no word wrapped. -/
structure Same (go : Traced (GoEngine × FlowVerdict)) (ts : TsEngine × FlowVerdict) : Prop where
  exact : go.wrapped = false
  counters : go.value.1.view = ts.1
  verdict : go.value.2 = ts.2.inGo

/-- The answers of the Go engine of a new connection. -/
def GoEngine.answers (limits : FlowWindows) (ops : List FlowOp) :
    List (Traced (GoEngine × FlowVerdict)) :=
  Lib.answers GoEngine.step (fun answer => answer.value.1) (GoEngine.new limits) ops

/-- The answers of the TypeScript engine of a new connection. -/
def TsEngine.answers (limits : FlowWindows) (ops : List FlowOp) : List (TsEngine × FlowVerdict) :=
  Lib.answers TsEngine.step Prod.fst (TsEngine.new limits) ops

/-- The operations after the HELLO are allowed, each where it finds the engine. -/
def AllowedAfter (limits peer : FlowWindows) (ops : List FlowOp) : Prop :=
  Admitted TsEngine.step Prod.fst Allowed ((TsEngine.new limits).step (.onPeerHello peer)).1 ops

instance (limits peer : FlowWindows) (ops : List FlowOp) :
    Decidable (AllowedAfter limits peer ops) :=
  inferInstanceAs (Decidable (Admitted _ _ _ _ ops))

/-- The Go engine stands for the TypeScript engine, whose accounting is kept. -/
def Related (go : GoEngine) (ts : TsEngine) : Prop := go.view = ts ∧ EngineInv ts

/-- **The Go engine refines the TypeScript engine**: over every history of allowed operations after
the peer's HELLO, step by step, the Go engine gives the same verdicts, grants, advertisements and
counters, and no addition or subtraction wraps. -/
theorem flow_refines {limits peer : FlowWindows} {ops : List FlowOp} (valid : limits.view.Valid)
    (peerValid : peer.view.Valid) (allowed : AllowedAfter limits peer ops) :
    List.Forall₂ Same (GoEngine.answers limits (.onPeerHello peer :: ops))
      (TsEngine.answers limits (.onPeerHello peer :: ops)) := by
  have start : EngineInv ((TsEngine.new limits).step (.onPeerHello peer)).1 :=
    ⟨.hello valid peerValid, fun k created => absurd created (Nat.not_lt_zero k), rfl, rfl, rfl,
      rfl⟩
  have related : Related ((GoEngine.new limits).onFlow (.onPeerHello peer (.new limits)))
    ((TsEngine.new limits).step (.onPeerHello peer)).1 := ⟨rfl, start⟩
  refine .cons ⟨rfl, rfl, rfl⟩ (lockstep (fun go ts op related allowed => ?_) related allowed)
  obtain ⟨rfl, inv⟩ := related
  obtain ⟨e', verdict, ran, same, verdictSame⟩ := GoEngine.step_view inv allowed
  rw [ran]
  refine ⟨⟨rfl, same, verdictSame⟩, same, ?_⟩
  exact inv.step allowed

/-- A history in which grants, violations, advertisements and failures all occur, with limits and
windows at the ceiling. -/
def ceiling : List FlowOp :=
  [.newStream, .reserveData 0 9, .commitData 0 3, .releaseData 0 1,
    .onPeerMaxStreamData 0 (UInt64.ofNat maxOffset), .reserveData 0 18446744073709551615,
    .reserveStreamSlot, .commitStreamSlot, .reserveStreamSlot, .onDataReceived 0 8,
    .onDataReceived 0 13835058055282163712, .onConsumed 0 8, .markCancelled 0, .peerStreamOpened,
    .peerStreamRetired, .failSend 0 { message := "reset" }, .reserveData 0 1,
    .fail { message := "closed" }, .reserveStreamSlot]

theorem flow_refines_ceiling :
    List.Forall₂ Same
      (GoEngine.answers ⟨8, UInt64.ofNat maxOffset, UInt64.ofNat maxOffset⟩
        (.onPeerHello ⟨4, UInt64.ofNat maxOffset, 1⟩ :: ceiling))
      (TsEngine.answers ⟨8, UInt64.ofNat maxOffset, UInt64.ofNat maxOffset⟩
        (.onPeerHello ⟨4, UInt64.ofNat maxOffset, 1⟩ :: ceiling)) :=
  flow_refines ⟨by decide, by decide, by decide⟩ ⟨by decide, by decide, by decide⟩
    (by decide +kernel)

/-- Where the engines differ. A payload length that no frame has wraps the Go counter and is
admitted, where the TypeScript engine finds a violation; and an empty window, consumed from by
nothing, is advertised by the TypeScript engine alone. -/
theorem flow_differs :
    (GoEngine.answers ⟨2048, 2048, 1⟩ [.onPeerHello ⟨0, 0, 0⟩, .newStream, .onDataReceived 0 2048,
        .onDataReceived 0 18446744073709549568]).map (fun go => (go.wrapped, go.value.2)) =
      [(false, .done), (false, .created 0), (false, .done), (true, .done)] ∧
    (TsEngine.answers ⟨2048, 2048, 1⟩ [.onPeerHello ⟨0, 0, 0⟩, .newStream, .onDataReceived 0 2048,
        .onDataReceived 0 18446744073709549568]).map Prod.snd =
      [.done, .created 0, .done, .violation "peer exceeded MAX_STREAM_DATA"] ∧
    (GoEngine.answers ⟨0, 0, 0⟩ [.onPeerHello ⟨0, 0, 0⟩, .newStream, .onConsumed 0 0]).map
        (fun go => go.value.2) = [.done, .created 0, .advertised none none] ∧
    (TsEngine.answers ⟨0, 0, 0⟩ [.onPeerHello ⟨0, 0, 0⟩, .newStream, .onConsumed 0 0]).map
        Prod.snd = [.done, .created 0, .advertised (some 0) (some 0)] := by
  decide +kernel

end Kps.Go
