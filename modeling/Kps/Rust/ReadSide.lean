/-
**The read side of a Rust stream.**

The payload of a DATA frame passes from `on_frame` over the credit check to the receive buffer, and
from there to `poll_read`; a RESET and `cancel_read` discard what is buffered. Each of these updates
the buffer and the credit in sections of their own.

* `exec_ordered` — a section keeps the bytes in order: returned, buffered, about to be buffered;
* `exec_settles` — and what it takes from the buffer, or does not put there, it is about to count as
  consumed;
* `read_exact` — so the bytes returned are a prefix of the bytes admitted, EOF follows the last of
  them, and every byte admitted is buffered or consumed, once.
-/

import Kps.Rust.PollWrite
import Kps.Rust.Retirement
import Kps.Rust.SharedCredit

namespace Kps.Rust

open Kps.Lib

/-- The payload of a DATA frame. -/
def payloadOf (data : Bytes) : Bytes :=
  match parseFrame data with
  | .ok (.data payload) => payload
  | _ => []

theorem payloadOf_data {data payload : Bytes} (parsed : parseFrame data = .ok (.data payload)) :
    payloadOf data = payload := by
  unfold payloadOf
  rw [parsed]

/-- An empty DATA frame is rejected. -/
theorem payload_ne_nil {data payload : Bytes} (parsed : parseFrame data = .ok (.data payload)) :
    payload ≠ [] := by
  unfold parseFrame at parsed
  split at parsed
  · cases parsed
  split at parsed
  · cases parsed
  split at parsed
  · split at parsed
    · cases parsed
    · next filled =>
      cases parsed
      exact fun empty => filled (by rw [empty]; rfl)
  split at parsed
  · split at parsed <;> cases parsed
  split at parsed
  · split at parsed
    · cases parsed
    · dsimp only at parsed
      split at parsed <;> cases parsed
  split at parsed
  · split at parsed
    · cases parsed
    · dsimp only at parsed
      split at parsed <;> cases parsed
  · cases parsed

namespace StreamSection

/-- The bytes a section has still to buffer, or to count as consumed. -/
def owes : StreamSection → UInt64
  | .pushData payload => UInt64.ofNat payload.length
  | .consumed n => n
  | _ => 0

/-- The payload of a DATA frame that passed the first check of `on_frame`. -/
def payload : StreamSection → Option Bytes
  | .onDataReceived payload => some payload
  | .pushData payload => some payload
  | _ => none

/-- The payload about to be buffered. -/
def pushing : Option StreamSection → Bytes
  | some (.pushData payload) => payload
  | _ => []

/-- The payload that arrived and is not admitted yet. -/
def arriving : Option StreamSection → Bytes
  | some (.onFrame data) => payloadOf data
  | some (.onDataReceived payload) => payload
  | _ => []

/-- The sections that take bytes from the buffer, or from the peer. -/
def moves : StreamSection → Bool
  | .onFrame _ => true
  | .onDataReceived _ => true
  | .pushData _ => true
  | .pollRead _ => true
  | .cancelRead _ => true
  | _ => false

/-- The sections in which a call of the read side, or a rejected frame, is under way. -/
def receiving : StreamSection → Bool
  | .onFrame _ => true
  | .onDataReceived _ => true
  | .pushData _ => true
  | .consumed _ => true
  | .fatal .. => true
  | _ => false

theorem leadsTo_owes {op other : StreamSection} (leads : op.leadsTo other = true)
    (keeps : op.moves = false) : other.owes = 0 := by
  cases other with
  | pushData payload => cases op <;> first
    | exact (Bool.false_ne_true leads).elim | exact (Bool.false_ne_true keeps.symm).elim
  | consumed n => cases op <;> first
    | exact (Bool.false_ne_true leads).elim | exact (Bool.false_ne_true keeps.symm).elim
  | _ => rfl

end StreamSection

namespace WebrtcStream

variable {s : WebrtcStream} {op : StreamSection} {e : Effect WebrtcStream StreamSection}
  {callbacks : Option StreamSection} {heard : Bytes}

/-- The bytes `poll_read` returned, in order. -/
def returned (s : WebrtcStream) : Bytes :=
  s.reads.flatMap fun
    | .bytes data => data
    | _ => []

/-- Bytes of the peer were discarded. -/
def discards (s : WebrtcStream) : Bool := s.readCancel || s.peerReset.isSome

/-- The bytes that were admitted are returned, buffered, or about to be buffered, in order, until
they are discarded. -/
structure Ordered (s : WebrtcStream) (pushing heard : Bytes) : Prop where
  kept : s.discards = false → s.returned ++ s.inbuf.flatten ++ pushing = heard
  lost : s.discards = true → s.inbuf = [] ∧ s.returned <+: heard

theorem Ordered.same {s' : WebrtcStream} {pushing : Bytes} (ordered : Ordered s pushing heard)
    (inbuf : s'.inbuf = s.inbuf) (reset : s'.peerReset = s.peerReset)
    (cancel : s'.readCancel = s.readCancel) (reads : s'.reads = s.reads) :
      Ordered s' pushing heard := by
  have returned : s'.returned = s.returned := by
    unfold WebrtcStream.returned
    rw [reads]
  have discards : s'.discards = s.discards := by
    unfold WebrtcStream.discards
    rw [reset, cancel]
  refine ⟨?_, ?_⟩
  · rw [discards, returned, inbuf]
    exact ordered.kept
  · rw [discards, returned, inbuf]
    exact ordered.lost

theorem Ordered.congr {s' : WebrtcStream} {pushing : Bytes} (ordered : Ordered s pushing heard)
    (same : s'.reading = s.reading) : Ordered s' pushing heard := by
  simp only [reading, Prod.mk.injEq] at same
  exact ordered.same same.1 same.2.2.1 same.2.2.2.1 same.2.2.2.2

/-- What was returned is a prefix of what was admitted. -/
theorem Ordered.begins {pushing : Bytes} (ordered : Ordered s pushing heard) :
    s.returned <+: heard := by
  cases discards : s.discards with
  | true => exact (ordered.lost discards).2
  | false =>
    rw [← ordered.kept discards, List.append_assoc]
    exact List.prefix_append _ _

/-- The program counter of the read loop after a section. -/
def callbacksAfter (op : StreamSection) (e : Effect WebrtcStream StreamSection)
    (callbacks : Option StreamSection) : Option StreamSection :=
  if ownedBy .callbacks op then e.next.find? (ownedBy .callbacks) else callbacks

theorem callbacksAfter_quiet {s' : WebrtcStream} {next : List StreamSection}
    (ran : andThen next s' = some e) (owned : op.task = some .callbacks) (unowned : Unowned next) :
    callbacksAfter op e callbacks = none := by
  cases ran
  unfold callbacksAfter
  rw [if_pos (by simp [ownedBy, owned])]
  exact unowned_find? unowned .callbacks

/-! ### The order of the bytes -/

/-- The bytes that are buffered are discarded. -/
theorem Ordered.clear {s' : WebrtcStream} {pushing pushing' : Bytes}
    (ordered : Ordered s pushing heard)
    (empty : s'.inbuf = []) (reads : s'.reads = s.reads) (discards : s'.discards = true) :
    Ordered s' pushing' heard := by
  have returned : s'.returned = s.returned := by
    unfold WebrtcStream.returned
    rw [reads]
  refine ⟨fun keeps => ?_, fun _ => ⟨empty, ?_⟩⟩
  · rw [discards] at keeps
    cases keeps
  · rw [returned]
    exact ordered.begins

theorem onFrame_ordered {data : Bytes} (ran : s.onFrame data = some e)
    (ordered : Ordered s [] heard) :
    Ordered e.shared (StreamSection.pushing (e.next.find? (ownedBy .callbacks))) heard := by
  unfold onFrame at ran
  split at ran
  · cases ran
    exact ordered
  · split at ran <;> cases ran <;> exact ordered
  · split at ran <;> cases ran
    · exact ordered
    · exact ordered.same rfl rfl rfl rfl
  · split at ran
    · cases ran
      exact ordered
    · cases ran
      refine ordered.clear rfl rfl ?_
      unfold discards
      simp [wakeReader]
  · split at ran
    · cases ran
      exact ordered
    · dsimp only at ran
      split at ran <;> cases ran <;> exact ordered.congr rfl
  · cases ran
    exact ordered.congr rfl

theorem pollRead_ordered {size : Nat} {pushing : Bytes} (ran : s.pollRead size = some e)
    (ordered : Ordered s pushing heard) : Ordered e.shared pushing heard := by
  have logs (result : ReadResult) (nothing : ∀ data, result ≠ .bytes data) :
      Ordered (s.returnRead result) pushing heard := by
    have returned : (s.returnRead result).returned = s.returned := by
      unfold WebrtcStream.returned returnRead
      cases result with
      | bytes data => exact absurd rfl (nothing data)
      | _ => simp
    refine ⟨fun keeps => ?_, fun discards => ?_⟩
    · rw [returned]
      exact ordered.kept keeps
    · rw [returned]
      exact ordered.lost discards
  unfold pollRead at ran
  split at ran
  · next chunk rest front =>
    cases ran
    refine ⟨fun keeps => ?_, fun discards => ?_⟩
    · have kept := ordered.kept keeps
      rw [front] at kept
      rw [← kept]
      simp only [WebrtcStream.returned, returnRead, List.flatMap_append, List.flatMap_singleton,
        List.append_assoc]
      rw [List.flatten_cons, List.append_assoc, List.append_cancel_left_eq]
      split
      · next all => rw [all, List.take_length]
      · rw [List.flatten_cons, ← List.append_assoc, ← List.append_assoc, List.take_append_drop,
          List.append_assoc]
    · have empty := (ordered.lost discards).1
      rw [front] at empty
      cases empty
  split at ran
  · cases ran
    exact logs _ (by simp)
  split at ran
  · cases ran
    exact logs _ (by simp)
  split at ran
  · cases ran
    exact logs _ (by simp)
  split at ran
  · cases ran
    exact logs _ (by simp)
  · cases ran
    exact (logs .pending (by simp)).congr rfl

/-- **A section keeps the bytes in order.** -/
theorem exec_ordered (ran : s.exec op = some e)
    (ordered : Ordered s (StreamSection.pushing callbacks) heard)
    (at' : ownedBy .callbacks op = true → callbacks = some op)
    (quiet : s.peerEnded = true → op.carriesData = false) :
    Ordered e.shared (StreamSection.pushing (callbacksAfter op e callbacks))
      (heard ++ s.admits op) := by
  have still (admits : s.admits op = []) (receives : op.receives = false)
      (free : ownedBy .callbacks op = false) :
      Ordered e.shared (StreamSection.pushing (callbacksAfter op e callbacks))
        (heard ++ s.admits op) := by
    unfold callbacksAfter
    rw [admits, List.append_nil, if_neg (by simp [free])]
    exact ordered.congr ((exec_leaves ran).reading receives)
  cases op with
  | onFrame data =>
    cases at' rfl
    have none : s.admits (.onFrame data) = [] := rfl
    rw [none, List.append_nil]
    exact onFrame_ordered ran ordered
  | onDataReceived payload =>
    cases at' rfl
    have same := ordered.congr ((exec_leaves ran).reading rfl)
    simp only [exec] at ran
    split at ran
    · next rejected =>
      have none : s.admits (.onDataReceived payload) = [] := by simp only [admits, rejected]
      rw [none, List.append_nil, callbacksAfter_quiet ran rfl (unowned_single rfl)]
      exact same
    · next admitted =>
      have all : s.admits (.onDataReceived payload) = payload := by simp only [admits, admitted]
      cases ran
      rw [all]
      refine ⟨fun keeps => ?_, fun discards => ?_⟩
      · rw [← same.kept keeps, List.append_assoc _ _ payload]
        rfl
      · obtain ⟨empty, begins⟩ := same.lost discards
        exact ⟨empty, begins.trans (List.prefix_append _ _)⟩
  | pushData payload =>
    cases at' rfl
    have open' : s.peerEnded = false := by
      by_contra ended
      have silent := quiet (by simpa using ended)
      cases silent
    have none : s.admits (.pushData payload) = [] := rfl
    rw [none, List.append_nil]
    simp only [exec] at ran
    split at ran
    · next cancelled =>
      rw [callbacksAfter_quiet ran rfl (unowned_single rfl)]
      cases ran
      refine ⟨fun keeps => ?_, ordered.lost⟩
      unfold discards at keeps
      rw [cancelled] at keeps
      cases keeps
    · next reading =>
      rw [callbacksAfter_quiet ran rfl unowned_nil]
      cases ran
      have keeps : s.discards = false := by
        unfold discards
        unfold peerEnded at open'
        simp only [Bool.or_eq_false_iff] at open' ⊢
        exact ⟨by simpa using reading, open'.2⟩
      refine ⟨fun _ => ?_, fun discards => ?_⟩
      · rw [← ordered.kept keeps]
        show s.returned ++ (s.inbuf ++ [payload]).flatten ++ [] = _
        rw [List.flatten_append, List.append_nil, ← List.append_assoc]
        simp [StreamSection.pushing]
      · change s.discards = true at discards
        rw [keeps] at discards
        cases discards
  | onChannelClose =>
    cases at' rfl
    have none : s.admits .onChannelClose = [] := rfl
    rw [none, List.append_nil,
      callbacksAfter_quiet ran rfl (.cons rfl (.cons rfl (.cons rfl (unowned_single rfl))))]
    exact ordered.congr ((exec_leaves ran).reading rfl)
  | pollRead size =>
    have none : s.admits (.pollRead size) = [] := rfl
    rw [none, List.append_nil]
    exact pollRead_ordered ran ordered
  | cancelRead code =>
    have none : s.admits (.cancelRead code) = [] := rfl
    rw [none, List.append_nil]
    simp only [exec] at ran
    split at ran
    · cases ran
      exact ordered
    · cases ran
      exact ordered.clear rfl rfl rfl
  | _ => exact still rfl rfl rfl

/-! ### What arrives -/

/-- **A payload that arrived is admitted, or waits**, unless a frame is rejected. -/
theorem exec_arriving (ran : s.exec op = some e)
    (at' : ownedBy .callbacks op = true → callbacks = some op) :
    s.admits op ++ StreamSection.arriving (callbacksAfter op e callbacks) =
      StreamSection.arriving callbacks ∨
    s.admits op ++ StreamSection.arriving (callbacksAfter op e callbacks) = [] ∧
      ∃ code text, .fatal code text ∈ e.next := by
  have still (admits : s.admits op = []) (free : ownedBy .callbacks op = false) :
      s.admits op ++ StreamSection.arriving (callbacksAfter op e callbacks) =
        StreamSection.arriving callbacks := by
    unfold callbacksAfter
    rw [admits, List.nil_append, if_neg (by simp [free])]
  -- the frame is done with
  have ends {s' : WebrtcStream} {next : List StreamSection} (ran : andThen next s' = some e)
      (owned : op.task = some .callbacks) (unowned : Unowned next) (admits : s.admits op = []) :
      s.admits op ++ StreamSection.arriving (callbacksAfter op e callbacks) = [] := by
    rw [callbacksAfter_quiet ran owned unowned, admits]
    rfl
  have rejects {s' : WebrtcStream} {code : ErrorCode} {text : String}
      (ran : andThen [.fatal code text] s' = some e) (owned : op.task = some .callbacks)
      (admits : s.admits op = []) :
      s.admits op ++ StreamSection.arriving (callbacksAfter op e callbacks) = [] ∧
        ∃ code text, .fatal code text ∈ e.next := by
    refine ⟨ends ran owned (unowned_single rfl) admits, code, text, ?_⟩
    cases ran
    exact List.mem_singleton.mpr rfl
  cases op with
  | onFrame data =>
    cases at' rfl
    have other (none : payloadOf data = []) : StreamSection.arriving (some (.onFrame data)) = [] :=
      none
    simp only [exec, onFrame] at ran
    split at ran
    · exact Or.inr (rejects ran rfl rfl)
    · next payload parsed =>
      split at ran
      · exact Or.inr (rejects ran rfl rfl)
      · cases ran
        exact Or.inl (payloadOf_data parsed).symm
    · next parsed =>
      split at ran
      · exact Or.inr (rejects ran rfl rfl)
      · rw [other (by simp [payloadOf, parsed])]
        exact Or.inl (ends ran rfl (unowned_single rfl) rfl)
    · next parsed =>
      split at ran
      · exact Or.inr (rejects ran rfl rfl)
      · rw [other (by simp [payloadOf, parsed])]
        exact Or.inl (ends ran rfl ((unowned_discarded _).append (unowned_single rfl)) rfl)
    · next parsed =>
      rw [other (by simp [payloadOf, parsed])]
      split at ran
      · exact Or.inl (ends ran rfl unowned_nil rfl)
      · split at ran
        · exact Or.inl (ends ran rfl (.cons rfl (.cons rfl (unowned_single rfl))) rfl)
        · exact Or.inl (ends ran rfl (unowned_single rfl) rfl)
    · next parsed =>
      rw [other (by simp [payloadOf, parsed])]
      exact Or.inl (ends ran rfl unowned_nil rfl)
  | onDataReceived payload =>
    cases at' rfl
    simp only [exec] at ran
    split at ran
    · next rejected =>
      exact Or.inr (rejects ran rfl (by simp only [admits, rejected]))
    · next admitted =>
      have all : s.admits (.onDataReceived payload) = payload := by simp only [admits, admitted]
      cases ran
      rw [all]
      exact Or.inl (List.append_nil _)
  | pushData payload =>
    cases at' rfl
    simp only [exec] at ran
    split at ran
    · exact Or.inl (ends ran rfl (unowned_single rfl) rfl)
    · exact Or.inl (ends ran rfl unowned_nil rfl)
  | onChannelClose =>
    cases at' rfl
    exact Or.inl (ends ran rfl (.cons rfl (.cons rfl (.cons rfl (unowned_single rfl)))) rfl)
  | _ => exact Or.inl (still rfl rfl)

/-- No payload on its way is empty. -/
theorem exec_payload (ran : s.exec op = some e) (filled : ∀ payload ∈ op.payload, payload ≠ []) :
    ∀ other ∈ e.next, ∀ payload ∈ other.payload, payload ≠ [] := by
  intro other member payload has
  have leads := exec_leads ran other member
  cases other with
  | onDataReceived payload' =>
    cases has
    cases op with
    | onFrame data =>
      simp only [exec, onFrame] at ran
      split at ran
      · cases ran
        simp at member
      · next parsed =>
        split at ran
        · cases ran
          simp at member
        · cases ran
          cases List.mem_singleton.mp member
          exact payload_ne_nil parsed
      · split at ran <;> cases ran <;> simp at member
      · split at ran <;> cases ran
        · simp at member
        · rcases List.mem_append.mp member with spent | last
          · cases mem_discarded spent
          · simp at last
      · split at ran
        · cases ran
          simp at member
        · split at ran <;> cases ran <;> simp at member
      · cases ran
        simp at member
    | _ => exact (Bool.false_ne_true leads).elim
  | pushData payload' =>
    cases has
    cases op with
    | onDataReceived sent =>
      have same : payload = sent := of_decide_eq_true leads
      rw [same]
      exact filled sent rfl
    | _ => exact (Bool.false_ne_true leads).elim
  | _ => cases has

/-- No buffered chunk is empty. -/
theorem exec_chunks (ran : s.exec op = some e) (filled : ∀ payload ∈ op.payload, payload ≠ [])
    (chunks : ∀ chunk ∈ s.inbuf, chunk ≠ []) : ∀ chunk ∈ e.shared.inbuf, chunk ≠ [] := by
  have none : ∀ chunk ∈ ([] : List Bytes), chunk ≠ [] :=
    fun _ member => absurd member List.not_mem_nil
  by_cases receives : op.receives = false
  · have same := (exec_leaves ran).reading receives
    simp only [reading, Prod.mk.injEq] at same
    rw [same.1]
    exact chunks
  · cases op with
    | onFrame data =>
      simp only [exec, onFrame] at ran
      split at ran
      · cases ran
        exact chunks
      · split at ran <;> cases ran <;> exact chunks
      · split at ran <;> cases ran <;> exact chunks
      · split at ran <;> cases ran
        · exact chunks
        · exact none
      · split at ran
        · cases ran
          exact chunks
        · split at ran <;> cases ran <;> exact chunks
      · cases ran
        exact chunks
    | pushData payload =>
      simp only [exec] at ran
      split at ran <;> cases ran
      · exact chunks
      · intro chunk member
        rcases List.mem_append.mp member with old | new
        · exact chunks chunk old
        · rw [List.mem_singleton.mp new]
          exact filled payload rfl
    | pollRead size =>
      simp only [exec, pollRead] at ran
      split at ran
      · next chunk rest front =>
        cases ran
        rw [front] at chunks
        intro other member
        change other ∈ (if min chunk.length size = chunk.length then rest
          else chunk.drop (min chunk.length size) :: rest) at member
        split at member
        · exact chunks other (List.mem_cons_of_mem _ member)
        · next part =>
          rcases List.mem_cons.mp member with rfl | old
          · intro empty
            have length := congrArg List.length empty
            rw [List.length_drop, List.length_nil] at length
            omega
          · exact chunks other (List.mem_cons_of_mem _ old)
      split at ran
      · cases ran
        exact chunks
      split at ran
      · cases ran
        exact chunks
      split at ran
      · cases ran
        exact chunks
      split at ran <;> cases ran <;> exact chunks
    | cancelRead code =>
      simp only [exec] at ran
      split at ran <;> cases ran
      · exact chunks
      · exact none
    | _ => exact absurd rfl receives

/-- A `poll_read` with room in its buffer that returns no byte and no error finds the end. -/
theorem pollRead_ends {size : Nat} (ran : s.pollRead size = some e) (room : 0 < size)
    (chunks : ∀ chunk ∈ s.inbuf, chunk ≠ [])
    (nothing : e.shared.reads = s.reads ++ [.eof] ∨ e.shared.reads = s.reads ++ [.bytes []]) :
    s.inbuf = [] ∧ s.readCancel = false ∧ s.peerReset = none ∧ s.peerFin = true := by
  have other {result : ReadResult} (reads : e.shared.reads = s.reads ++ [result])
      (not : result ≠ .eof ∧ result ≠ .bytes []) : False := by
    rcases nothing with same | same
    · exact not.1 (by simpa [reads] using same)
    · exact not.2 (by simpa [reads] using same)
  unfold pollRead at ran
  split at ran
  · next chunk rest front =>
    cases ran
    refine (other rfl ⟨by simp, fun same => ?_⟩).elim
    have filled := chunks chunk (front ▸ List.mem_cons_self)
    have empty : chunk.take (min chunk.length size) = [] := by simpa using same
    have length := congrArg List.length empty
    rw [List.length_take, List.length_nil] at length
    have positive : 0 < chunk.length := List.length_pos_iff.mpr filled
    omega
  · next empty =>
    split at ran
    · cases ran
      exact (other rfl ⟨by simp, by simp⟩).elim
    next reading =>
    split at ran
    · cases ran
      exact (other rfl ⟨by simp, by simp⟩).elim
    next reset =>
    split at ran
    · next fin => exact ⟨empty, by simpa using reading, reset, fin⟩
    split at ran
    · cases ran
      exact (other rfl ⟨by simp, by simp⟩).elim
    · cases ran
      exact (other rfl ⟨by simp, by simp⟩).elim

/-! ### The count of the bytes -/

theorem sum_discarded (n : Nat) : ((discarded n).map StreamSection.owes).sum = UInt64.ofNat n := by
  unfold discarded
  split
  · simp [StreamSection.owes]
  · next small =>
    have zero : n = 0 := by omega
    rw [zero]
    rfl

/-- What a section takes from the buffer, or does not put there, it leaves to be consumed. -/
def Settles (s : WebrtcStream) (op : StreamSection) (e : Effect WebrtcStream StreamSection) :
    Prop :=
  UInt64.ofNat s.buffered + op.owes + UInt64.ofNat (s.admits op).length =
    UInt64.ofNat e.shared.buffered + (e.next.map StreamSection.owes).sum + consumes op

/-- The buffer is left, and what comes next has nothing to count. -/
theorem Settles.light {s' : WebrtcStream} {next : List StreamSection}
    (ran : andThen next s' = some e)
    (inbuf : s'.inbuf = s.inbuf) (owes : op.owes = consumes op) (admits : s.admits op = [])
    (light : (next.map StreamSection.owes).sum = 0) : Settles s op e := by
  cases ran
  have same : s'.buffered = s.buffered := by
    unfold buffered
    rw [inbuf]
  show _ = UInt64.ofNat s'.buffered + (next.map StreamSection.owes).sum + consumes op
  rw [same, light, owes, admits]
  show UInt64.ofNat s.buffered + consumes op + 0 = UInt64.ofNat s.buffered + 0 + consumes op
  abel

/-- The buffer is discarded. -/
theorem Settles.clears {s' : WebrtcStream} (before : List StreamSection)
    {after : List StreamSection}
    (ran : andThen (before ++ discarded s.buffered ++ after) s' = some e) (empty : s'.inbuf = [])
    (owes : op.owes = 0) (spends : consumes op = 0) (admits : s.admits op = [])
    (light : (before.map StreamSection.owes).sum = 0 ∧ (after.map StreamSection.owes).sum = 0) :
    Settles s op e := by
  cases ran
  have none : s'.buffered = 0 := by
    unfold buffered
    rw [empty]
    rfl
  unfold Settles
  show _ = UInt64.ofNat s'.buffered +
    ((before ++ discarded s.buffered ++ after).map StreamSection.owes).sum + consumes op
  rw [none, List.map_append, List.map_append, List.sum_append, List.sum_append, sum_discarded,
    light.1, light.2, owes, spends, admits]
  show UInt64.ofNat s.buffered + 0 + 0 = 0 + (0 + UInt64.ofNat s.buffered + 0) + 0
  abel

theorem onFrame_settles {data : Bytes} (ran : s.onFrame data = some e) :
    Settles s (.onFrame data) e := by
  unfold onFrame at ran
  split at ran
  · exact .light ran rfl rfl rfl rfl
  · split at ran <;> exact .light ran rfl rfl rfl rfl
  · split at ran <;> exact .light ran rfl rfl rfl rfl
  · split at ran
    · exact .light ran rfl rfl rfl rfl
    · exact .clears [] ran rfl rfl rfl rfl ⟨rfl, rfl⟩
  · split at ran
    · exact .light ran rfl rfl rfl rfl
    · dsimp only at ran
      split at ran <;> exact .light ran rfl rfl rfl rfl
  · exact .light ran rfl rfl rfl rfl

theorem pushData_settles {payload : Bytes} (ran : s.exec (.pushData payload) = some e) :
    Settles s (.pushData payload) e := by
  simp only [exec] at ran
  split at ran <;> cases ran
  · show UInt64.ofNat s.buffered + UInt64.ofNat payload.length + 0 =
      UInt64.ofNat s.buffered + (UInt64.ofNat payload.length + 0) + 0
    abel
  · have more : buffered (wakeReader { s with inbuf := s.inbuf ++ [payload] }) =
        s.buffered + payload.length := by
      simp [buffered, wakeReader]
    show UInt64.ofNat s.buffered + UInt64.ofNat payload.length + 0 =
      UInt64.ofNat (buffered (wakeReader { s with inbuf := s.inbuf ++ [payload] })) + 0 + 0
    rw [more, UInt64.ofNat_add]
    abel

theorem pollRead_settles {size : Nat} (ran : s.pollRead size = some e) :
    Settles s (.pollRead size) e := by
  unfold pollRead at ran
  split at ran
  · next chunk rest front =>
    have taken : s.buffered = min chunk.length size +
        ((if min chunk.length size = chunk.length then rest
          else chunk.drop (min chunk.length size) :: rest).map List.length).sum := by
      have first : s.buffered = chunk.length + (rest.map List.length).sum := by
        unfold buffered
        rw [front]
        simp
      rw [first]
      split
      · next all => rw [all]
      · rw [List.map_cons, List.sum_cons, List.length_drop]
        omega
    cases ran
    unfold Settles
    rw [taken, UInt64.ofNat_add]
    show UInt64.ofNat (min chunk.length size) + UInt64.ofNat
      (((if min chunk.length size = chunk.length
        then rest else chunk.drop (min chunk.length size) :: rest).map List.length).sum) + 0 + 0 =
      UInt64.ofNat (((if min chunk.length size = chunk.length
        then rest else chunk.drop (min chunk.length size) :: rest).map List.length).sum) +
        (UInt64.ofNat (min chunk.length size) + (0 + 0)) + 0
    abel
  split at ran
  · exact .light ran rfl rfl rfl rfl
  split at ran
  · exact .light ran rfl rfl rfl rfl
  split at ran
  · exact .light ran rfl rfl rfl rfl
  split at ran <;> exact .light ran rfl rfl rfl rfl

/-- **A section settles what it takes from the buffer.** -/
theorem exec_settles (ran : s.exec op = some e) : Settles s op e := by
  have still (moves : op.moves = false) (inbuf : e.shared.inbuf = s.inbuf)
    (owes : op.owes = consumes op)
      (admits : s.admits op = []) : Settles s op e := by
    have light : (e.next.map StreamSection.owes).sum = 0 :=
      Threads.sum_eq_zero fun other member => StreamSection.leadsTo_owes
        (exec_leads ran other member) moves
    have same : e.shared.buffered = s.buffered := by
      unfold buffered
      rw [inbuf]
    unfold Settles
    rw [same, light, owes, admits]
    show UInt64.ofNat s.buffered + consumes op + 0 = UInt64.ofNat s.buffered + 0 + consumes op
    abel
  have inbuf (receives : op.receives = false) : e.shared.inbuf = s.inbuf := by
    have same := (exec_leaves ran).reading receives
    simp only [reading, Prod.mk.injEq] at same
    exact same.1
  cases op with
  | onFrame data => exact onFrame_settles ran
  | onDataReceived payload =>
    simp only [exec] at ran
    split at ran
    · next rejected => exact .light ran rfl rfl (by simp only [admits, rejected]) rfl
    · next admitted =>
      have all : s.admits (.onDataReceived payload) = payload := by simp only [admits, admitted]
      cases ran
      unfold Settles
      rw [all]
      show UInt64.ofNat s.buffered + 0 + UInt64.ofNat payload.length =
        UInt64.ofNat s.buffered + (UInt64.ofNat payload.length + 0) + 0
      abel
  | pushData payload => exact pushData_settles ran
  | pollRead size => exact pollRead_settles ran
  | cancelRead code =>
    simp only [exec] at ran
    split at ran
    · exact .light ran rfl rfl rfl rfl
    · rw [List.append_assoc] at ran
      refine .clears _ ran rfl rfl rfl rfl ⟨rfl, ?_⟩
      split <;> rfl
  | _ => exact still rfl (inbuf rfl) rfl rfl

/-! ### Runs -/

/-- What happens at the inbound end of a stream. -/
inductive Inbound
  | arrives (payload : Bytes)
  | admitted (payload : Bytes)

/-- A DATA frame arrives, or its payload is counted as received. -/
def inbound (t : Tasks) : Label → List Inbound
  | .message data => [.arrives (payloadOf data)]
  | .run thread =>
    match t.pool[thread]? with
    | some (op :: _) => [.admitted (t.shared.admits op)]
    | _ => []
  | _ => []

/-- The payloads of the DATA frames that arrived, in order. -/
def arrived (log : List Inbound) : Bytes :=
  log.flatMap fun
    | .arrives payload => payload
    | .admitted _ => []

/-- The payloads that were counted as received, in order. -/
def received (log : List Inbound) : Bytes :=
  log.flatMap fun
    | .arrives _ => []
    | .admitted payload => payload

/-- What happened at the inbound end in a run. -/
def inboundLog (t : Tasks) (labels : List Label) : List Inbound :=
  outputs WebrtcStream.step inbound t labels

/-- No frame was rejected, and none is about to be. -/
def Faultless (t : Tasks) : Prop := t.shared.fatals = [] ∧ ∀ code text, .fatal code text ∉ t.pending

/-- The invariant of the read side, with what happened at the inbound end. -/
structure ReadInv (log : List Inbound) (t : Tasks) : Prop where
  ladder : LadderInv t
  ordered : Ordered t.shared (StreamSection.pushing (t.control (ownedBy .callbacks))) (received log)
  chunks : ∀ chunk ∈ t.shared.inbuf, chunk ≠ []
  payloads : ∀ op ∈ t.pending, ∀ payload ∈ op.payload, payload ≠ []
  part : (received log ++ StreamSection.arriving (t.control (ownedBy .callbacks))).Sublist
    (arrived log)
  whole : Faultless t →
    received log ++ StreamSection.arriving (t.control (ownedBy .callbacks)) = arrived log

@[simp] theorem received_append (log new : List Inbound) :
    received (log ++ new) = received log ++ received new := List.flatMap_append

@[simp] theorem arrived_append (log new : List Inbound) :
    arrived (log ++ new) = arrived log ++ arrived new := List.flatMap_append

theorem inbound_run {t : Tasks} {thread : Nat} {rest : List StreamSection}
    (top : t.pool[thread]? = some (op :: rest)) :
    inbound t (.run thread) = [.admitted (t.shared.admits op)] := by
  simp only [inbound, top]

/-- A fault is not forgotten. -/
theorem faultless_of_run {t : Tasks} {thread : Nat} {rest : List StreamSection}
    (top : t.pool[thread]? = some (op :: rest)) (ran : t.shared.exec op = some e)
    (faultless : Faultless ⟨e.shared, t.pool.set thread (e.next ++ rest) ++ e.started⟩) :
    Faultless t ∧ ∀ code text, .fatal code text ∉ e.next := by
  obtain ⟨none, quiet⟩ := faultless
  obtain ⟨pushed, stays, -⟩ := Threads.pending_members (e := e) top
  by_cases fails : ∃ code text, op = .fatal code text
  · obtain ⟨code, text, rfl⟩ := fails
    cases ran
    change t.shared.fatals ++ [(code, text)] = [] at none
    simp at none
  · have other : ∀ code text, op ≠ .fatal code text :=
      fun code text same => fails ⟨code, text, same⟩
    refine ⟨⟨((exec_leaves ran).fatals other).symm.trans none, fun code text member => ?_⟩,
      fun code text member => quiet code text (pushed _ member)⟩
    rcases stays _ member with same | old
    · exact other code text same.symm
    · exact quiet code text old

theorem ReadInv.run {log : List Inbound} {t t' : Tasks} {thread : Nat} (inv : ReadInv log t)
    (stepped : t.advance exec thread = some t') : ReadInv (log ++ inbound t (.run thread)) t' := by
  have ladder := inv.ladder.run stepped
  obtain ⟨op, rest, e, top, ran, rfl⟩ := Threads.advance_eq_some.mp stepped
  have pending := Threads.mem_pending top
  have rules := inv.ladder.rules
  have at' : ownedBy .callbacks op = true → t.control (ownedBy .callbacks) = some op :=
    (rules.owned .callbacks).control_eq pending
  have after : Threads.control (ownedBy .callbacks)
      ⟨e.shared, t.pool.set thread (e.next ++ rest) ++ e.started⟩ =
      callbacksAfter op e (t.control (ownedBy .callbacks)) :=
    (rules.owned .callbacks).control_advance top ((exec_follows ran).1.countP .callbacks)
      fun other member => by rw [mem_started ran member]; rfl
  have filled := inv.payloads op pending
  have arrives := exec_arriving ran at'
  rw [inbound_run top]
  refine ⟨ladder, ?_, exec_chunks ran filled inv.chunks, fun other member payload has => ?_, ?_,
    fun faultless => ?_⟩
  · rw [after, received_append]
    show Ordered e.shared _ (received log ++ (t.shared.admits op ++ []))
    rw [List.append_nil]
    exact exec_ordered ran inv.ordered at' fun ended => inv.ladder.quiet ended op pending
  · rcases (Threads.pending_members (e := e) top).2.2 other member with pushed | new | old
    · exact exec_payload ran filled other pushed payload has
    · rw [mem_started ran new] at has
      cases has
    · exact inv.payloads other old payload has
  · rw [after, received_append, arrived_append]
    show (received log ++ (t.shared.admits op ++ []) ++ _).Sublist (arrived log ++ [])
    rw [List.append_nil, List.append_nil, List.append_assoc]
    rcases arrives with same | ⟨lost, -⟩
    · rw [same]
      exact inv.part
    · rw [lost, List.append_nil]
      exact (List.sublist_append_left _ _).trans inv.part
  · obtain ⟨before, none⟩ := faultless_of_run top ran faultless
    rw [after, received_append, arrived_append]
    show received log ++ (t.shared.admits op ++ []) ++ _ = arrived log ++ []
    rw [List.append_nil, List.append_nil, List.append_assoc]
    rcases arrives with same | ⟨-, code, text, rejected⟩
    · rw [same]
      exact inv.whole before
    · exact absurd rejected (none code text)

/-- **What the read loop is given.** -/
theorem step_callbacks {t t' : Tasks} {label : Label} (rules : Ruled t)
    (stepped : WebrtcStream.step t label = some t') (notRun : ∀ thread, label ≠ .run thread) :
    ((∀ data, label ≠ .message data) ∧
      t'.control (ownedBy .callbacks) = t.control (ownedBy .callbacks)) ∨
    t.control (ownedBy .callbacks) = none ∧
      ((∃ data, label = .message data ∧ t'.control (ownedBy .callbacks) = some (.onFrame data)) ∨
        label = .channelClosed ∧ t'.control (ownedBy .callbacks) = some .onChannelClose) := by
  have idle {t : Tasks} (rules : Ruled t) {stack : List StreamSection}
      (resumed : t.resume 0 stack = some t') : t.control (ownedBy .callbacks) = none :=
    Threads.control_eq_none.mpr ((rules.owned .callbacks).idle (Threads.idle_of_resume resumed))
  cases label with
  | run thread => exact absurd rfl (notRun thread)
  | call method =>
    simp only [WebrtcStream.step] at stepped
    split at stepped
    · cases stepped
    · refine Or.inl ⟨by simp, ?_⟩
      exact (rules.owned .callbacks).control_resume stepped
        (fun _ => (method.sections_once .callbacks).2 (by simp)) (method.sections_once .callbacks).1
  | dropFuture =>
    simp only [WebrtcStream.step] at stepped
    split at stepped
    · next rest top =>
      cases stepped
      refine Or.inl ⟨by simp, ?_⟩
      have perm := (Threads.pending_clear top).filter (ownedBy .callbacks)
      have none : (StreamSection.sendFin :: rest).filter (ownedBy .callbacks) = [] :=
        List.filter_eq_nil_iff.mpr fun op member => by
          have quiet := (rules.owned .callbacks).elsewhere 2 _ top (by decide) op member
          simp [quiet]
      rw [List.filter_append, none, List.nil_append] at perm
      exact Threads.find?_eq_of_perm perm (rules.owned .callbacks).once
    · cases stepped
  | channelOpen =>
    simp only [WebrtcStream.step] at stepped
    split at stepped <;> cases stepped
    refine Or.inl ⟨by simp, ?_⟩
    exact Threads.control_start fun op member => by
      rw [List.mem_singleton.mp member]
      rfl
  | message data =>
    simp only [WebrtcStream.step] at stepped
    split at stepped
    · refine Or.inr ⟨idle rules stepped, Or.inl ⟨data, rfl, ?_⟩⟩
      exact (rules.owned .callbacks).control_resume stepped (fun other => absurd rfl other)
        (le_refl _)
    · cases stepped
  | channelClosed =>
    simp only [WebrtcStream.step] at stepped
    split at stepped
    · cases stepped
    · have touched := rules.touch { t.shared with dc := { t.shared.dc with readyState := .closed } }
      have none := idle touched stepped
      refine Or.inr ⟨none, Or.inr ⟨rfl, ?_⟩⟩
      exact (touched.owned .callbacks).control_resume stepped (fun other => absurd rfl other)
        (le_refl _)
  | _ =>
    cases stepped
    exact Or.inl ⟨by simp, rfl⟩

/-- The application, the transport and the connection leave the bytes, but for a message. -/
theorem ReadInv.others {log : List Inbound} {t t' : Tasks} {label : Label} (inv : ReadInv log t)
    (stepped : WebrtcStream.step t label = some t') (notRun : ∀ thread, label ≠ .run thread) :
    ReadInv (log ++ inbound t label) t' := by
  have shared := step_shared stepped notRun
  have reading : t'.shared.reading = t.shared.reading :=
    (congrArg WebrtcStream.reading shared).trans rfl
  have fatals : t'.shared.fatals = t.shared.fatals :=
    (congrArg WebrtcStream.fatals shared).trans rfl
  have silent : received (inbound t label) = [] := by
    cases label with
    | run thread => exact absurd rfl (notRun thread)
    | _ => rfl
  have sections : ∀ op ∈ label.sections, op.payload = none ∧ ∀ code text,
      op ≠ .fatal code text := by
    cases label with
    | call method =>
      cases method <;> simp [Label.sections, Method.sections, StreamSection.payload]
    | _ => simp [Label.sections, StreamSection.payload]
  have before (faultless : Faultless t') : Faultless t := by
    obtain ⟨none, quiet⟩ := faultless
    refine ⟨fatals.symm.trans none, fun code text member => ?_⟩
    by_cases drops : label = .dropFuture
    · subst drops
      simp only [WebrtcStream.step] at stepped
      split at stepped
      · next rest top =>
        cases stepped
        have below : ∀ op ∈ rest, op.isCancelRead = true :=
          inv.ladder.rules.shaped _ (List.mem_of_getElem? top)
        rcases List.mem_append.mp ((Threads.pending_clear top).symm.subset member) with gone | kept
        · rcases List.mem_cons.mp gone with same | inside
          · cases same
          · cases below _ inside
        · exact quiet code text kept
      · cases stepped
    · exact quiet code text ((step_pending stepped notRun drops).symm.subset
        (List.mem_append_right _ member))
  have arrives : StreamSection.pushing (t'.control (ownedBy .callbacks)) =
        StreamSection.pushing (t.control (ownedBy .callbacks)) ∧
      StreamSection.arriving (t'.control (ownedBy .callbacks)) =
        StreamSection.arriving (t.control (ownedBy .callbacks)) ++ arrived (inbound t label) := by
    rcases step_callbacks inv.ladder.rules stepped notRun with ⟨other, same⟩
      | ⟨idle, ⟨data, rfl, now⟩ | ⟨rfl, now⟩⟩
    · have none : arrived (inbound t label) = [] := by
        cases label with
        | run thread => exact absurd rfl (notRun thread)
        | message data => exact absurd rfl (other data)
        | _ => rfl
      rw [same, none, List.append_nil]
      exact ⟨rfl, rfl⟩
    · rw [idle, now]
      exact ⟨rfl, (List.append_nil _).symm⟩
    · rw [idle, now]
      exact ⟨rfl, rfl⟩
  refine ⟨inv.ladder.step stepped, ?_, ?_, fun op member payload has => ?_, ?_, fun faultless => ?_⟩
  · rw [received_append, silent, List.append_nil, arrives.1]
    exact inv.ordered.congr reading
  · simp only [WebrtcStream.reading, Prod.mk.injEq] at reading
    rw [reading.1]
    exact inv.chunks
  · rcases step_comes stepped notRun op member with new | old
    · rw [(sections op new).1] at has
      cases has
    · exact inv.payloads op old payload has
  · rw [received_append, silent, List.append_nil, arrives.2, arrived_append, ← List.append_assoc]
    exact inv.part.append (List.Sublist.refl _)
  · rw [received_append, silent, List.append_nil, arrives.2, arrived_append, ← List.append_assoc,
      inv.whole (before faultless)]

/-- **One step keeps the bytes in order.** -/
theorem ReadInv.step {log : List Inbound} {t t' : Tasks} {label : Label} (inv : ReadInv log t)
    (stepped : WebrtcStream.step t label = some t') : ReadInv (log ++ inbound t label) t' := by
  cases label with
  | run thread => exact inv.run stepped
  | _ => exact inv.others stepped (by simp)

theorem readInv_start (flow : ConnFlow) (peerInitiated isOpen : Bool) :
    ReadInv [] (start flow peerInitiated isOpen) := by
  have pending : (start flow peerInitiated isOpen).pending = [.writerOpen] := rfl
  refine ⟨ladderInv_start flow peerInitiated isOpen, ⟨fun _ => rfl, fun lost => (by cases lost)⟩,
    fun chunk member => (by cases member), fun op member payload has => ?_, List.Sublist.refl _,
    fun _ => rfl⟩
  rw [pending] at member
  rw [List.mem_singleton.mp member] at has
  cases has

/-- The engine counts what was admitted, and what is buffered, or about to be counted as consumed,
is what it has not counted as consumed. -/
structure CountInv (log : List Inbound) (t : Tasks) : Prop where
  received : ∀ s, entry t = some s → s.received = UInt64.ofNat (received log).length
  settled : ∀ s, entry t = some s →
    s.received = s.consumed + UInt64.ofNat t.shared.buffered + t.weight StreamSection.owes

theorem CountInv.run {log : List Inbound} {t t' : Tasks} {thread : Nat} (inv : CountInv log t)
    (stepped : t.advance exec thread = some t') : CountInv (log ++ inbound t (.run thread)) t' := by
  obtain ⟨op, rest, e, top, ran, rfl⟩ := Threads.advance_eq_some.mp stepped
  obtain ⟨change, revises, moved⟩ := exec_revises ran
  have settles := exec_settles ran
  have weight := Threads.weight_advance (w := StreamSection.owes) (e := e) top
  have none : (e.started.flatten.map StreamSection.owes).sum = 0 :=
    Threads.sum_eq_zero fun other member => by rw [mem_started ran member]; rfl
  rw [none, add_zero] at weight
  have id : e.shared.id = t.shared.id := (exec_leaves ran).id
  -- the entry before and after the section
  have entries : ∀ after, entry ⟨e.shared, t.pool.set thread (e.next ++ rest) ++ e.started⟩ =
      some after → ∃ before, entry t = some before ∧
        after.received = before.received + UInt64.ofNat (t.shared.admits op).length ∧
        after.consumed = before.consumed + consumes op := by
    intro after found
    change e.shared.flow.streams e.shared.id = some after at found
    rw [id] at found
    obtain ⟨before, there, changed⟩ := revises.here after found
    refine ⟨before, there, ?_, ?_⟩
    · exact (congrArg Totals.received changed).trans (moved before.totals).1
    · exact (congrArg Totals.consumed changed).trans (moved before.totals).2
  rw [inbound_run top]
  refine ⟨fun after found => ?_, fun after found => ?_⟩
  · obtain ⟨before, there, received, -⟩ := entries after found
    rw [received, inv.received before there, received_append, List.length_append, UInt64.ofNat_add]
    simp [WebrtcStream.received]
  · obtain ⟨before, there, received, consumed⟩ := entries after found
    have balanced := inv.settled before there
    unfold Settles at settles
    rw [received, consumed]
    show _ = before.consumed + consumes op + UInt64.ofNat e.shared.buffered + _
    grind

/-- **One step keeps the count**, if the other streams leave the entry. -/
theorem CountInv.step {log : List Inbound} {t t' : Tasks} {label : Label} (inv : CountInv log t)
    (rules : Ruled t) (steady : Steady t label) (stepped : WebrtcStream.step t label = some t') :
    CountInv (log ++ inbound t label) t' := by
  by_cases runs : ∃ thread, label = .run thread
  · obtain ⟨thread, rfl⟩ := runs
    exact inv.run stepped
  have notRun : ∀ thread, label ≠ .run thread := fun thread same => runs ⟨thread, same⟩
  have shared := step_shared stepped notRun
  have id : t'.shared.id = t.shared.id := (congrArg WebrtcStream.id shared).trans rfl
  have buffered : t'.shared.buffered = t.shared.buffered :=
    (congrArg WebrtcStream.buffered shared).trans rfl
  have silent : WebrtcStream.received (inbound t label) = [] := by
    cases label with
    | run thread => exact absurd rfl (notRun thread)
    | _ => rfl
  have same : entry t' = entry t := by
    by_cases moves : ∃ flow, label = .credit flow
    · obtain ⟨flow, rfl⟩ := moves
      cases stepped
      exact steady
    · unfold entry
      rw [id, step_flow stepped notRun fun flow same => moves ⟨flow, same⟩]
  have weight : t'.weight StreamSection.owes = t.weight StreamSection.owes := by
    by_cases drops : label = .dropFuture
    · subst drops
      simp only [WebrtcStream.step] at stepped
      split at stepped
      · next rest top =>
        cases stepped
        have below : ∀ op ∈ rest, op.isCancelRead = true :=
          rules.shaped _ (List.mem_of_getElem? top)
        have light : ∀ op ∈ StreamSection.sendFin :: rest, op.owes = 0 := by
          intro op member
          rcases List.mem_cons.mp member with rfl | inside
          · rfl
          · obtain ⟨code, rfl⟩ := StreamSection.eq_cancelRead (below op inside)
            rfl
        have moved := Threads.weight_clear (w := StreamSection.owes) top
        rw [Threads.sum_eq_zero light, zero_add] at moved
        exact moved
      · cases stepped
    · have light : ∀ op ∈ label.sections, op.owes = 0 := by
        cases label with
        | call method => cases method <;> simp [Label.sections, Method.sections, StreamSection.owes]
        | _ => simp [Label.sections, StreamSection.owes]
      have moved :=
        Threads.sum_eq_of_perm (w := StreamSection.owes) (step_pending stepped notRun drops)
      rw [List.map_append, List.sum_append, Threads.sum_eq_zero light, zero_add] at moved
      exact moved
  refine ⟨fun s found => ?_, fun s found => ?_⟩
  · rw [received_append, silent, List.append_nil]
    exact inv.received s (same ▸ found)
  · rw [buffered, weight]
    exact inv.settled s (same ▸ found)

theorem countInv_start (flow : ConnFlow) (peerInitiated isOpen : Bool) :
    CountInv [] (start flow peerInitiated isOpen) := by
  have new : entry (start flow peerInitiated isOpen) =
      some { localMax := flow.limits.maxStreamData } :=
    Table.insert_self
  refine ⟨fun s found => ?_, fun s found => ?_⟩
  · rw [new] at found
    cases found
    rfl
  · rw [new] at found
    cases found
    rfl

theorem count_of_steady {flow : ConnFlow} {peerInitiated isOpen : Bool} {labels : List Label}
    {t : Tasks} (steady : Meets WebrtcStream.step Steady (start flow peerInitiated isOpen) labels)
    (ran : Lib.run WebrtcStream.step (start flow peerInitiated isOpen) labels = some t) :
    CountInv (inboundLog (start flow peerInitiated isOpen) labels) t := by
  have both : Ruled t ∧ CountInv (inboundLog (start flow peerInitiated isOpen) labels) t :=
    run_invariant_of_outputs
      (fun log t label t' steady (inv : Ruled t ∧ CountInv log t) stepped =>
        ⟨inv.1.step stepped, inv.2.step inv.1 steady stepped⟩) steady
      ⟨ruled_start flow peerInitiated isOpen, countInv_start flow peerInitiated isOpen⟩ ran
  exact both.2

/-- No call of the read side is between its sections. -/
def ReadIdle (t : Tasks) : Prop := ∀ op ∈ t.pending, op.receiving = false

instance (t : Tasks) : Decidable (ReadIdle t) := inferInstanceAs (Decidable (∀ op ∈ t.pending, _))

theorem ReadIdle.weight {t : Tasks} (idle : ReadIdle t) : t.weight StreamSection.owes = 0 :=
  Threads.sum_eq_zero fun op member => by
    have quiet := idle op member
    cases op <;> first | rfl | cases quiet

theorem ReadIdle.arriving {t : Tasks} (idle : ReadIdle t) :
    StreamSection.arriving (t.control (ownedBy .callbacks)) = [] := by
  cases at' : t.control (ownedBy .callbacks) with
  | none => rfl
  | some op =>
    have quiet := idle op (Threads.mem_of_control at').1
    cases op <;> first | rfl | cases quiet

theorem ReadIdle.faultless {t : Tasks} (idle : ReadIdle t) (none : t.shared.fatals = []) :
    Faultless t := by
  refine ⟨none, fun code text member => ?_⟩
  have quiet := idle _ member
  cases quiet

/-- A `poll_read` that finds the end has returned every byte. -/
theorem ReadInv.ends {log : List Inbound} {t t' : Tasks} {thread size : Nat}
    {rest : List StreamSection}
    (inv : ReadInv log t) (top : t.pool[thread]? = some (.pollRead size :: rest)) (room : 0 < size)
    (stepped : t.advance exec thread = some t')
    (nothing : t'.shared.reads = t.shared.reads ++ [.eof] ∨
      t'.shared.reads = t.shared.reads ++ [.bytes []]) :
    t.shared.peerFin = true ∧ t.shared.peerReset = none ∧ t.shared.readCancel = false ∧
      t.shared.returned = received log := by
  obtain ⟨op, rest', e, top', ran, rfl⟩ := Threads.advance_eq_some.mp stepped
  rw [top] at top'
  cases top'
  obtain ⟨empty, reading, reset, fin⟩ := pollRead_ends ran room inv.chunks nothing
  refine ⟨fin, reset, reading, ?_⟩
  have keeps : t.shared.discards = false := by simp [discards, reading, reset]
  have ended : t.shared.peerEnded = true := by simp [peerEnded, fin]
  have none : StreamSection.pushing (t.control (ownedBy .callbacks)) = [] := by
    cases at' : t.control (ownedBy .callbacks) with
    | none => rfl
    | some op =>
      have quiet := inv.ladder.quiet ended op (Threads.mem_of_control at').1
      cases op <;> first | rfl | cases quiet
  have kept := inv.ordered.kept keeps
  rwa [empty, none, List.flatten_nil, List.append_nil, List.append_nil] at kept

theorem readInv_of_run {flow : ConnFlow} {peerInitiated isOpen : Bool} {labels : List Label}
    {t : Tasks}
    (ran : Lib.run WebrtcStream.step (start flow peerInitiated isOpen) labels = some t) :
    ReadInv (inboundLog (start flow peerInitiated isOpen) labels) t :=
  have always : Meets WebrtcStream.step (fun _ _ => True)
      (start flow peerInitiated isOpen) labels :=
    meets_of_labels (fun _ _ _ => trivial) _
  run_invariant_of_outputs (fun _ _ _ _ _ inv stepped => ReadInv.step inv stepped) always
    (readInv_start flow peerInitiated isOpen) ran

/-- Nothing is buffered once the read is cancelled. -/
theorem ReadInv.empty {log : List Inbound} {t : Tasks} (inv : ReadInv log t)
    (cancelled : t.shared.readCancel = true) : t.shared.inbuf = [] :=
  (inv.ordered.lost (by simp [discards, cancelled])).1

/-- **The read side is exact.** In every run the bytes that `poll_read` returned are a prefix of the
payload bytes that were admitted, which are those that arrived, but for rejected frames; a
`poll_read` with room in its buffer finds EOF only after the FIN, with every byte returned and none
discarded; and while no call of the read side is under way, the engine counts every byte that was
admitted as received, and as consumed those that are not buffered. -/
theorem read_exact {flow : ConnFlow} {peerInitiated isOpen : Bool} {labels : List Label} {t : Tasks}
    (ran : Lib.run WebrtcStream.step (start flow peerInitiated isOpen) labels = some t) :
    t.shared.returned <+: received (inboundLog (start flow peerInitiated isOpen) labels) ∧
    (∀ thread size rest t', t.pool[thread]? = some (.pollRead size :: rest) → 0 < size →
      WebrtcStream.step t (.run thread) = some t' →
      t'.shared.reads = t.shared.reads ++ [.eof] ∨ t'.shared.reads = t.shared.reads ++ [.bytes []] →
      t.shared.peerFin = true ∧ t.shared.peerReset = none ∧ t.shared.readCancel = false ∧
        t.shared.returned = received (inboundLog (start flow peerInitiated isOpen) labels)) ∧
    (Meets WebrtcStream.step Steady (start flow peerInitiated isOpen) labels → ReadIdle t →
      ∀ s, entry t = some s →
        s.received = UInt64.ofNat
          (received (inboundLog (start flow peerInitiated isOpen) labels)).length ∧
        s.received = s.consumed + UInt64.ofNat t.shared.buffered) ∧
    (received (inboundLog (start flow peerInitiated isOpen) labels)).Sublist
      (arrived (inboundLog (start flow peerInitiated isOpen) labels)) ∧
    (t.shared.fatals = [] → ReadIdle t →
      received (inboundLog (start flow peerInitiated isOpen) labels) =
      arrived (inboundLog (start flow peerInitiated isOpen) labels)) := by
  have inv := readInv_of_run ran
  refine ⟨inv.ordered.begins, fun thread size rest t' top room stepped nothing =>
    inv.ends top room stepped nothing, fun steady idle s found => ?_,
    (List.sublist_append_left _ _).trans inv.part, fun none idle => ?_⟩
  · have count := count_of_steady steady ran
    have settled := count.settled s found
    rw [idle.weight, add_zero] at settled
    exact ⟨count.received s found, settled⟩
  · have whole := inv.whole (idle.faultless none)
    rwa [idle.arriving, List.append_nil] at whole

/-- Three bytes arrive and are read in two parts, and after the FIN EOF is about to be found. -/
def readsAll : List Label :=
  [.message [0, 1, 2, 3], .run 0, .run 0, .run 0, .call (.pollRead 2), .run 2, .run 2, .run 2,
    .message [1], .run 0, .run 0, .call (.pollRead 8), .run 2, .run 2, .run 2, .call (.pollRead 8)]

theorem read_exact_readsAll : ∃ t t',
    Lib.run WebrtcStream.step (start granted true true) readsAll = some t ∧
      t.shared.reads = [.bytes [1, 2], .bytes [3]] ∧
      WebrtcStream.step t (.run 2) = some t' ∧ t'.shared.reads = t.shared.reads ++ [.eof] ∧
      t.shared.returned = received (inboundLog (start granted true true) readsAll) := by
  have reads : (Lib.run WebrtcStream.step (start granted true true) readsAll).any (fun t =>
      decide (t.shared.reads = [.bytes [1, 2], .bytes [3]] ∧ t.pool[2]? = some [.pollRead 8]) &&
      (WebrtcStream.step t (.run 2)).any fun t' =>
        decide (t'.shared.reads = t.shared.reads ++ [.eof])) = true := by
    decide +kernel
  obtain ⟨t, ran, steps⟩ := (Option.any_eq_true _ _).mp reads
  obtain ⟨facts, steps⟩ := (Bool.and_eq_true _ _).mp steps
  obtain ⟨first, top⟩ := of_decide_eq_true facts
  obtain ⟨t', stepped, ends⟩ := (Option.any_eq_true _ _).mp steps
  have ends := of_decide_eq_true ends
  exact ⟨t, t', ran, first, stepped, ends,
    ((read_exact ran).2.1 2 8 [] t' top (by decide) stepped (Or.inl ends)).2.2.2⟩

end WebrtcStream

end Kps.Rust
