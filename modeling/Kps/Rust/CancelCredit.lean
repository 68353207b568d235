/-
**The credit of a Rust stream whose read half is cancelled** (`cancel_read` and `Shared::consumed`
in `stream.rs`, `on_consumed` and `mark_cancelled` in `flow.rs`).

`on_consumed` computes an advertisement under the engine's mutex and `Shared::consumed` queues it
after that; `cancel_read` marks the stream, then its credit, and then queues STOP_SENDING. The
writer task hands the lifecycle queue to the channel in order.

* `spoken_step` — what the writer hands over, holds and finds queued stays in order;
* `Cancelled.exec` — the mark of the credit is not taken back, and a marked stream computes no
  advertisement;
* `LastWordInv.step` — STOP_SENDING stays the last word on credit, if no advertisement is about to
  be queued when it is;
* `onConsumed_releases` — a consumption is counted for the connection and advertised at half a
  window, cancelled or not.
-/

import Kps.Lib.LastWord
import Kps.Rust.ReadSide

namespace Kps.Rust

open Kps.Lib

/-! ### What the writer says about credit -/

def stopsPeer : ParsedFrame → Bool
  | .stopSending _ => true
  | _ => false

def grantsPeer : ParsedFrame → Bool
  | .maxStreamData _ => true
  | _ => false

/-- The frames about the credit of the stream. -/
def aboutCredit (frame : ParsedFrame) : Bool := stopsPeer frame || grantsPeer frame

namespace Outbound

/-- The frames about credit that are handed over, and the lifecycle frames behind them. -/
def spoken (o : Outbound) : List ParsedFrame :=
  o.sent.filter aboutCredit ++ (o.pc.lifecycle ++ o.life).map LifeFrame.frame

/-- The DATA queue holds no frame about credit, and the writer has taken none from it. -/
def Plain (o : Outbound) : Prop := ∀ frame ∈ o.pc.held ++ o.data, aboutCredit frame = false

variable {o o' : Outbound}

/-- **A step keeps the frames in order**: some may be lost, and one may be queued behind them. -/
theorem spoken_step (plain : Plain o) (step : Step o o') : Plain o' ∧ (o'.spoken.Sublist o.spoken ∨
    ∃ frame, o'.life = o.life ++ [frame] ∧ o'.spoken = o.spoken ++ [frame.frame]) := by
  have queued {frame : LifeFrame} :
      o.sent.filter aboutCredit ++ (o.pc.lifecycle ++ (o.life ++ [frame])).map LifeFrame.frame =
      o.spoken ++ [frame.frame] := by
    simp [spoken]
  cases step with
  | queueReset code n owed => exact ⟨plain, Or.inr ⟨.reset code, rfl, queued⟩⟩
  | queueLife frame other => exact ⟨plain, Or.inr ⟨frame, rfl, queued⟩⟩
  | queueFin owed =>
    refine ⟨fun frame member => ?_, Or.inl (List.Sublist.refl _)⟩
    rcases List.mem_append.mp member with held | member
    · exact plain frame (List.mem_append_left _ held)
    rcases List.mem_append.mp member with old | new
    · exact plain frame (List.mem_append_right _ old)
    · rw [List.mem_singleton.mp new]
      rfl
  | accept bytes admitted =>
    refine ⟨fun frame member => ?_, Or.inl (List.Sublist.refl _)⟩
    rcases List.mem_append.mp member with held | member
    · exact plain frame (List.mem_append_left _ held)
    rcases List.mem_append.mp member with old | new
    · exact plain frame (List.mem_append_right _ old)
    · rw [List.mem_singleton.mp new]
      rfl
  | takeLife frame rest idle next =>
    refine ⟨fun frame member => plain frame (List.mem_append_right _ member), Or.inl ?_⟩
    unfold spoken
    rw [idle, next]
    exact List.Sublist.refl _
  | sendLife frame holds =>
    refine ⟨fun frame member => plain frame (List.mem_append_right _ member), Or.inl ?_⟩
    unfold spoken
    rw [holds]
    show ((o.sent ++ [frame.frame]).filter aboutCredit ++ o.life.map LifeFrame.frame).Sublist
      (o.sent.filter aboutCredit ++ frame.frame :: o.life.map LifeFrame.frame)
    rw [List.filter_append, List.append_assoc]
    refine List.Sublist.append (List.Sublist.refl _) ?_
    by_cases credit : aboutCredit frame.frame = true
    · rw [List.filter_singleton, credit]
      exact List.Sublist.refl _
    · rw [List.filter_singleton, (Bool.not_eq_true _).mp credit]
      exact List.sublist_cons_self _ _
  | takeData frame rest idle next =>
    refine ⟨fun other member => plain other ?_, Or.inl ?_⟩
    · rw [next]
      exact List.mem_append_right _ member
    · unfold spoken
      rw [idle]
      exact List.Sublist.refl _
  | discard frame holds dropping data =>
    refine ⟨fun other member => plain other (List.mem_append_right _ member), Or.inl ?_⟩
    unfold spoken
    rw [holds]
    exact List.Sublist.refl _
  | pass frame holds kept =>
    unfold Plain at plain
    rw [holds] at plain
    refine ⟨plain, Or.inl ?_⟩
    unfold spoken
    rw [holds]
    exact List.Sublist.refl _
  | sendData frame holds =>
    unfold Plain at plain
    rw [holds] at plain
    refine ⟨fun other member => plain other (List.mem_append_right _ member), Or.inl ?_⟩
    have other : aboutCredit frame = false := plain frame List.mem_cons_self
    unfold spoken
    rw [holds]
    show ((o.sent ++ [frame]).filter aboutCredit ++ o.life.map LifeFrame.frame).Sublist
      (o.sent.filter aboutCredit ++ o.life.map LifeFrame.frame)
    rw [List.filter_append, List.filter_singleton, other]
    simp
  | stop =>
    refine ⟨fun other member => plain other (List.mem_append_right _ member), Or.inl ?_⟩
    unfold spoken
    exact List.Sublist.append (List.Sublist.refl _) ((List.sublist_append_right _ _).map _)
  | clear gone =>
    refine ⟨fun other member => plain other ?_, Or.inl ?_⟩
    · rw [gone] at member
      cases member
    · unfold spoken
      rw [gone]
      exact List.Sublist.append (List.Sublist.refl _) ((List.nil_sublist _).map _)
  | _ => exact ⟨plain, Or.inl (List.Sublist.refl _)⟩

end Outbound

/-! ### The mark of the credit -/

namespace ConnFlow

/-- The credit of the stream is marked, if it is there. -/
def Cancelled (id : UInt64) (f : ConnFlow) : Prop := ∀ s, f.streams id = some s → s.cancelled = true

/-- The mark is not taken back, and no entry is made. -/
def KeepsMark (id : UInt64) (f f' : ConnFlow) : Prop :=
  ∀ s', f'.streams id = some s' → ∃ s, f.streams id = some s ∧
    (s.cancelled = true → s'.cancelled = true)

variable {f f' : ConnFlow} {id n : UInt64}

theorem KeepsMark.cancelled (keeps : KeepsMark id f f') (cancelled : Cancelled id f) :
    Cancelled id f' := by
  intro s' found
  obtain ⟨s, there, kept⟩ := keeps s' found
  exact kept (cancelled s there)

theorem KeepsMark.same (same : f'.streams = f.streams) : KeepsMark id f f' := by
  intro s' found
  exact ⟨s', by rw [← same]; exact found, fun cancelled => cancelled⟩

theorem KeepsMark.put {s s' : StreamState} (found : f.streams id = some s)
    (streams : f'.streams = f.streams.insert id s')
    (kept : s.cancelled = true → s'.cancelled = true) : KeepsMark id f f' := by
  intro after found'
  rw [streams, Table.insert_self] at found'
  cases found'
  exact ⟨s, found, kept⟩

theorem keeps_release : KeepsMark id f (f.release id n).value := by
  unfold release
  cases found : f.streams id with
  | none => exact .same rfl
  | some s => exact .put found rfl fun cancelled => cancelled

theorem keeps_commit : KeepsMark id f (f.commit id n).value := by
  unfold commit
  cases found : f.streams id with
  | none => exact .same rfl
  | some s => exact .put found rfl fun cancelled => cancelled

theorem keeps_failSend : KeepsMark id f (f.failSend id) := by
  unfold failSend
  cases found : f.streams id with
  | none => exact .same rfl
  | some s =>
    dsimp only
    by_cases failed : s.sendFailed = true
    · rw [if_pos failed]
      exact .same rfl
    · rw [if_neg failed]
      exact .put found rfl fun cancelled => cancelled

theorem keeps_onPeerMaxStreamData (v : UInt64) : KeepsMark id f (f.onPeerMaxStreamData id v) := by
  unfold onPeerMaxStreamData
  cases found : f.streams id with
  | none => exact .same rfl
  | some s =>
    dsimp only
    by_cases raised : v > s.peerMaxExplicit
    · rw [if_pos raised]
      exact .put found rfl fun cancelled => cancelled
    · rw [if_neg raised]
      exact .same rfl

theorem cancelled_markCancelled : Cancelled id (f.markCancelled id) := by
  unfold markCancelled
  cases found : f.streams id with
  | none =>
    intro s there
    dsimp only at there
    rw [found] at there
    cases there
  | some s =>
    intro after there
    change f.streams.insert id _ id = some after at there
    rw [Table.insert_self] at there
    cases there
    rfl

theorem keeps_dropStream : KeepsMark id f (f.dropStream id).value := by
  unfold dropStream
  cases f.streams id with
  | none => exact .same rfl
  | some s =>
    intro after there
    change f.streams.erase id id = some after at there
    rw [Table.erase_self] at there
    cases there

theorem keeps_onDataReceived (admitted : (f.onDataReceived id n).value = .ok f') :
    KeepsMark id f f' := by
  unfold onDataReceived at admitted
  cases found : f.streams id with
  | none =>
    rw [found] at admitted
    cases admitted
    exact .same rfl
  | some s =>
    rw [found] at admitted
    dsimp only [bind, pure] at admitted
    split at admitted
    · cases admitted
    split at admitted
    · cases admitted
    cases admitted
    exact .put found rfl fun cancelled => cancelled

theorem keeps_pollReserve {amount : UInt64}
    (granted : (f.pollReserve id n).value = .granted amount f') :
    KeepsMark id f f' := by
  unfold pollReserve at granted
  split at granted
  · cases granted
  · dsimp only [bind, pure] at granted
    split at granted
    · cases granted
    · next s found =>
      split at granted
      · cases granted
      split at granted
      · cases granted
        exact .put found rfl fun cancelled => cancelled
      · cases granted

/-- The connection's part of the credit that a consumption may change. -/
def window (f : ConnFlow) : UInt64 × UInt64 × UInt64 × FlowWindows × List Bytes :=
  (f.connConsumed, f.connAdvertisedAt, f.localMaxData, f.limits, f.adverts)

/-- A marked stream computes no advertisement; the connection's part is left. -/
theorem streamConsumed_cancelled (id n : UInt64) (f : ConnFlow) :
    KeepsMark id f (f.streamConsumed id n).value.1 ∧
    (f.streamConsumed id n).value.1.window = f.window ∧
    (Cancelled id f → (f.streamConsumed id n).value.2 = none) := by
  unfold streamConsumed
  cases found : f.streams id with
  | none => exact ⟨.same rfl, rfl, fun _ => rfl⟩
  | some s =>
    dsimp only [bind, pure]
    by_cases cancelled : s.cancelled = true
    · rw [if_pos cancelled]
      exact ⟨.put found rfl fun cancelled => cancelled, rfl, fun _ => rfl⟩
    rw [if_neg cancelled]
    by_cases due : (Word.sub (Word.add s.consumed n).value s.advertisedAt).value ≥
      f.limits.maxStreamData / 2
    · rw [if_pos due]
      exact ⟨.put found rfl fun cancelled => cancelled, rfl,
        fun marked => absurd (marked s found) cancelled⟩
    · rw [if_neg due]
      exact ⟨.put found rfl fun cancelled => cancelled, rfl, fun _ => rfl⟩

/-- A consumption of `n` bytes is counted for the connection, and its credit is advertised at half a
window. -/
structure Releases (n : UInt64) (f f' : ConnFlow) : Prop where
  counted : f'.connConsumed = f.connConsumed + n
  due : f.limits.maxData / 2 ≤ f'.connConsumed - f.connAdvertisedAt →
    f'.connAdvertisedAt = f'.connConsumed ∧
      f'.localMaxData = sat (f'.connConsumed + f.limits.maxData) ∧
      f'.adverts = f.adverts ++ [encodeMaxData f'.localMaxData.toNat]
  early : f'.connConsumed - f.connAdvertisedAt < f.limits.maxData / 2 →
    f'.connAdvertisedAt = f.connAdvertisedAt ∧ f'.localMaxData = f.localMaxData ∧
    f'.adverts = f.adverts

theorem connConsume_releases (n : UInt64) (f : ConnFlow) :
    Releases n f (f.connConsume n).value ∧ (f.connConsume n).value.streams = f.streams := by
  unfold connConsume
  dsimp only [bind, pure]
  by_cases due : (Word.sub (Word.add f.connConsumed n).value f.connAdvertisedAt).value ≥
    f.limits.maxData / 2
  · rw [if_pos due]
    exact ⟨⟨rfl, fun _ => ⟨rfl, rfl, rfl⟩, fun early => absurd due (UInt64.not_le.mpr early)⟩, rfl⟩
  · rw [if_neg due]
    exact ⟨⟨rfl, fun now => absurd now due, fun _ => ⟨rfl, rfl, rfl⟩⟩, rfl⟩

/-- **A consumption releases the connection's credit**, whether or not the stream is marked. -/
theorem onConsumed_releases :
    Releases n f (f.onConsumed id n).value.1 ∧ KeepsMark id f (f.onConsumed id n).value.1 ∧
    (Cancelled id f → (f.onConsumed id n).value.2 = none) := by
  obtain ⟨keeps, window, quiet⟩ := streamConsumed_cancelled id n f
  obtain ⟨releases, streams⟩ := connConsume_releases n (f.streamConsumed id n).value.1
  simp only [ConnFlow.window, Prod.mk.injEq] at window
  obtain ⟨consumed, advertisedAt, localMax, limits, adverts⟩ := window
  refine ⟨?_, fun s' found => ?_, quiet⟩
  · obtain ⟨counted, due, early⟩ := releases
    rw [consumed] at counted
    rw [limits, advertisedAt, adverts] at due
    rw [limits, advertisedAt, localMax, adverts] at early
    exact ⟨counted, due, early⟩
  · change (ConnFlow.connConsume n (f.streamConsumed id n).value.1).value.streams id =
      some s' at found
    rw [streams] at found
    exact keeps s' found

end ConnFlow

namespace StreamSection

/-- The section marks the credit of the stream. -/
def marksCredit : StreamSection → Bool
  | .markCancelled => true
  | _ => false

/-- A STOP_SENDING is about to be queued. -/
def queuesStop : StreamSection → Bool
  | .lifeSend (.stopSending _) => true
  | _ => false

/-- An advertisement of stream credit is about to be queued. -/
def queuesGrant : StreamSection → Bool
  | .lifeSend (.maxStreamData _) => true
  | _ => false

theorem queuesStop_lifeSend (frame : LifeFrame) :
    (lifeSend frame).queuesStop = stopsPeer frame.frame := by
  cases frame <;> rfl

theorem queuesGrant_lifeSend (frame : LifeFrame) :
    (lifeSend frame).queuesGrant = grantsPeer frame.frame := by
  cases frame <;> rfl

/-- Only `cancel_read` leads to STOP_SENDING. -/
theorem leadsTo_stop {op other : StreamSection} (leads : op.leadsTo other = true)
    (stop : other.queuesStop = true) :
    op.isCancelRead = true := by
  cases other with
  | lifeSend frame =>
    cases frame with
    | stopSending code => cases op <;> first | rfl | cases leads
    | _ => cases stop
  | _ => cases stop

/-- Only a consumption leads to an advertisement. -/
theorem leadsTo_grant {op other : StreamSection} (leads : op.leadsTo other = true)
    (grant : other.queuesGrant = true) :
    ∃ n, op = .consumed n := by
  cases other with
  | lifeSend frame =>
    cases frame with
    | maxStreamData v => cases op <;> first | exact ⟨_, rfl⟩ | cases leads
    | _ => cases grant
  | _ => cases grant

end StreamSection

namespace WebrtcStream

variable {s : WebrtcStream} {op : StreamSection} {e : Effect WebrtcStream StreamSection}

/-- The credit of the stream is marked. -/
def Cancelled (s : WebrtcStream) : Prop := s.flow.Cancelled s.id

/-- **The mark of the credit is not taken back.** -/
theorem Cancelled.exec (marked : s.Cancelled) (ran : s.exec op = some e) : e.shared.Cancelled := by
  unfold Cancelled
  rw [(exec_leaves ran).id]
  have same (bills : op.bills = false) : e.shared.flow.Cancelled s.id :=
    (ConnFlow.KeepsMark.same ((exec_leaves ran).streams bills)).cancelled marked
  cases op with
  | onFrame data =>
    simp only [WebrtcStream.exec, onFrame] at ran
    split at ran
    · cases ran
      exact marked
    · split at ran <;> cases ran <;> exact marked
    · split at ran <;> cases ran <;> exact marked
    · split at ran <;> cases ran <;> exact marked
    · split at ran
      · cases ran
        exact marked
      · split at ran <;> cases ran <;> exact marked
    · cases ran
      exact (ConnFlow.keeps_onPeerMaxStreamData _).cancelled marked
  | onDataReceived payload =>
    simp only [WebrtcStream.exec] at ran
    split at ran
    · cases ran
      exact marked
    · next admitted =>
      cases ran
      exact (ConnFlow.keeps_onDataReceived admitted).cancelled marked
  | consumed n =>
    cases ran
    exact ConnFlow.onConsumed_releases.2.1.cancelled marked
  | failSend =>
    cases ran
    exact ConnFlow.keeps_failSend.cancelled marked
  | dropStream =>
    cases ran
    exact ConnFlow.keeps_dropStream.cancelled marked
  | release n =>
    cases ran
    exact ConnFlow.keeps_release.cancelled marked
  | commit n =>
    cases ran
    exact ConnFlow.keeps_commit.cancelled marked
  | markCancelled =>
    cases ran
    exact ConnFlow.cancelled_markCancelled
  | reserveCredit buf =>
    simp only [WebrtcStream.exec, reserveCredit] at ran
    split at ran
    · next pending =>
      cases ran
      exact (ConnFlow.KeepsMark.same (ConnFlow.pollReserve_pending pending).1).cancelled marked
    · cases ran
      exact marked
    · next granted =>
      cases ran
      exact (ConnFlow.keeps_pollReserve granted).cancelled marked
  | refuseData =>
    cases ran
    exact ConnFlow.keeps_release.cancelled marked
  | dropGrant =>
    simp only [WebrtcStream.exec] at ran
    split at ran
    · cases ran
      exact ConnFlow.keeps_release.cancelled marked
    · cases ran
      exact marked
  | _ => exact same rfl

/-- A marked stream computes no advertisement. -/
theorem Cancelled.quiet (marked : s.Cancelled) (ran : s.exec op = some e) :
    ∀ other ∈ e.next, other.queuesGrant = false := by
  intro other member
  by_contra grant
  obtain ⟨n, rfl⟩ :=
    StreamSection.leadsTo_grant (exec_leads ran other member) (Bool.not_eq_false _ ▸ grant)
  have none : (s.flow.onConsumed s.id n).value.2 = Option.none :=
    ConnFlow.onConsumed_releases.2.2 marked
  cases ran
  obtain ⟨v, due, -⟩ := Option.map_eq_some_iff.mp (Option.mem_toList.mp member)
  change (s.flow.onConsumed s.id n).value.2 = some v at due
  rw [none] at due
  cases due

/-- Before the mark, a stack keeps STOP_SENDING behind it. -/
theorem exec_behind {rest : List StreamSection} (ran : s.exec op = some e)
    (unmarked : ¬ e.shared.Cancelled)
    (behind : Behind StreamSection.marksCredit StreamSection.queuesStop (op :: rest)) :
    Behind StreamSection.marksCredit StreamSection.queuesStop (e.next ++ rest) := by
  by_cases marks : op = .markCancelled
  · subst marks
    cases ran
    exact absurd ConnFlow.cancelled_markCancelled unmarked
  have plain : op.marksCredit = false := by
    cases op <;> first | rfl | exact absurd rfl marks
  have below := (behind.tail plain).2
  by_cases cancels : op.isCancelRead = true
  · obtain ⟨code, rfl⟩ := StreamSection.eq_cancelRead cancels
    simp only [exec] at ran
    split at ran
    · cases ran
      exact below
    · cases ran
      exact Or.inl rfl
  · refine .append (fun other member => ?_) below
    by_contra stop
    exact cancels
      (StreamSection.leadsTo_stop (exec_leads ran other member) (Bool.not_eq_false _ ▸ stop))

/-- Only `lifeSend` adds to the lifecycle queue. -/
theorem exec_queues {frame : LifeFrame} (ran : s.exec op = some e)
    (queued : e.shared.life = s.life ++ [frame]) :
    op = .lifeSend frame := by
  have longer : e.shared.life ≠ s.life := fun same => by
    have lengths := congrArg List.length (same.symm.trans queued)
    simp at lengths
  by_cases lives : op.lives = true
  · cases op with
    | lifeSend other =>
      simp only [exec] at ran
      split at ran
      · cases ran
        exact absurd rfl longer
      · cases ran
        have same := List.append_cancel_left queued
        rw [(List.cons.inj same).1]
    | selectLife =>
      simp only [exec] at ran
      split at ran
      · next first rest taken =>
        cases ran
        have lengths := congrArg List.length queued
        rw [taken] at lengths
        simp at lengths
        omega
      · cases ran
        exact absurd rfl longer
    | writerEnd =>
      cases ran
      have lengths := congrArg List.length queued
      simp [endWriter] at lengths
    | _ => cases lives
  · exact absurd ((exec_leaves ran).life (Bool.not_eq_true _ ▸ lives)) longer

/-! ### The last word -/

variable {t t' : Tasks} {label : Label}

/-- The section that a step runs. -/
def running (t : Tasks) : Label → Option StreamSection
  | .run thread => t.pool[thread]?.bind List.head?
  | _ => none

/-- STOP_SENDING is not queued while an advertisement of the stream's credit is about to be. -/
def InOrder (t : Tasks) (label : Label) : Prop :=
  ∀ op ∈ running t label, op.queuesStop = true → ∀ other ∈ t.pending, other.queuesGrant = false

instance (t : Tasks) (label : Label) : Decidable (InOrder t label) := by
  unfold InOrder
  infer_instance

/-- What the writer has handed over and will. -/
def spoken (t : Tasks) : List ParsedFrame := (outbound t).spoken

/-- No credit is queued behind STOP_SENDING, which waits for the mark. -/
structure LastWordInv (t : Tasks) : Prop where
  rules : Ruled t
  plain : (outbound t).Plain
  silent : Silent stopsPeer grantsPeer (spoken t)
  behind : ¬ t.shared.Cancelled → ∀ stack ∈ t.pool,
    Behind StreamSection.marksCredit StreamSection.queuesStop stack
  ended : (∃ frame ∈ spoken t, stopsPeer frame = true) →
    t.shared.Cancelled ∧ ∀ op ∈ t.pending, op.queuesGrant = false

theorem lastWordInv_start (flow : ConnFlow) (peerInitiated isOpen : Bool) :
    LastWordInv (start flow peerInitiated isOpen) where
  rules := ruled_start flow peerInitiated isOpen
  plain := fun _ member => absurd member List.not_mem_nil
  silent := .nil
  behind := fun _ stack member => .of_quiet fun op inside => by
    have only : op ∈ [StreamSection.writerOpen] := List.mem_flatten.mpr ⟨stack, member, inside⟩
    rw [List.mem_singleton.mp only]
    rfl
  ended := fun ⟨_, member, _⟩ => absurd member List.not_mem_nil

/-- The frames after a step of the tasks. -/
theorem spoken_moves (plain : (outbound t).Plain) (moves : Moves (outbound t) (outbound t')) :
    (outbound t').Plain ∧ ((spoken t').Sublist (spoken t) ∨
      ∃ frame, t'.shared.life = t.shared.life ++ [frame] ∧
      spoken t' = spoken t ++ [frame.frame]) := by
  rcases moves with same | step
  · unfold spoken
    rw [same]
    exact ⟨plain, Or.inl (List.Sublist.refl _)⟩
  · exact Outbound.spoken_step plain step

theorem LastWordInv.run (inv : LastWordInv t) {thread : Nat} (order : InOrder t (.run thread))
    (stepped : t.advance exec thread = some t') : LastWordInv t' := by
  have taken : WebrtcStream.step t (.run thread) = some t' := stepped
  obtain ⟨plain, words⟩ := spoken_moves inv.plain (step_moves inv.rules taken)
  have rules := inv.rules.step taken
  obtain ⟨op, rest, e, top, ran, rfl⟩ := Threads.advance_eq_some.mp stepped
  have pending := Threads.mem_pending top
  have inside := List.mem_of_getElem? top
  have first : op ∈ running t (.run thread) := by simp [running, top]
  -- a frame that is queued is that of the section
  have queued {frame : LifeFrame} (longer : e.shared.life = t.shared.life ++ [frame]) :
      op = .lifeSend frame :=
    exec_queues ran longer
  refine ⟨rules, plain, ?_, fun unmarked stack member => ?_, fun ended => ?_⟩
  · rcases words with shorter | ⟨frame, longer, appended⟩
    · exact inv.silent.sublist shorter
    · rw [appended]
      have own := queued longer
      by_cases grant : grantsPeer frame.frame = true
      · refine inv.silent.before (fun earlier old => ?_) _
        by_contra stop
        have none := (inv.ended ⟨earlier, old, Bool.not_eq_false _ ▸ stop⟩).2 op pending
        rw [own, StreamSection.queuesGrant_lifeSend, grant] at none
        cases none
      · refine inv.silent.mute fun entry new => ?_
        rw [List.mem_singleton.mp new]
        exact Bool.not_eq_true _ ▸ grant
  · have early : ¬ t.shared.Cancelled := fun marked => unmarked (marked.exec ran)
    rcases List.mem_append.mp member with old | begun
    · rcases List.mem_or_eq_of_mem_set old with old | rfl
      · exact inv.behind early stack old
      · exact exec_behind ran unmarked (inv.behind early _ inside)
    · refine .of_quiet fun other here => ?_
      rw [mem_started ran (List.mem_flatten.mpr ⟨stack, begun, here⟩)]
      rfl
  · have marked : t.shared.Cancelled ∧ ∀ other ∈ t.pending, other.queuesGrant = false := by
      obtain ⟨frame, member, stop⟩ := ended
      rcases words with shorter | ⟨life, longer, appended⟩
      · exact inv.ended ⟨frame, shorter.subset member, stop⟩
      · rw [appended] at member
        rcases List.mem_append.mp member with old | new
        · exact inv.ended ⟨frame, old, stop⟩
        · have own := queued longer
          rw [List.mem_singleton.mp new] at stop
          have stops : op.queuesStop = true := by rw [own, StreamSection.queuesStop_lifeSend, stop]
          refine ⟨?_, order op first stops⟩
          by_contra unmarked
          have below := (inv.behind unmarked _ inside).tail (by rw [own]; rfl)
          rw [stops] at below
          cases below.1
    refine ⟨marked.1.exec ran, fun other member => ?_⟩
    rcases (Threads.pending_members (e := e) top).2.2 other member with pushed | begun | old
    · exact marked.1.quiet ran other pushed
    · rw [mem_started ran begun]
      rfl
    · exact marked.2 other old

/-- What a step that runs no section leaves of the credit, and the stacks it makes. -/
theorem step_others (stepped : WebrtcStream.step t label = some t')
    (notRun : ∀ thread, label ≠ .run thread)
    (steady : Steady t label) : (t'.shared.Cancelled ↔ t.shared.Cancelled) ∧
      ∀ stack ∈ t'.pool, stack ∈ t.pool ∨ stack = label.sections ∨ stack = [] := by
  have shared := step_shared stepped notRun
  have own : t'.shared.id = t.shared.id := by rw [shared]
  have credit : t'.shared.flow.streams t.shared.id = t.shared.flow.streams t.shared.id := by
    cases label with
    | credit flow =>
      cases stepped
      exact steady
    | run thread => exact absurd rfl (notRun thread)
    | _ => rw [step_flow stepped notRun (by simp)]
  constructor
  · unfold Cancelled ConnFlow.Cancelled
    rw [own, credit]
  · have resumed (t : Tasks) {i : Nat} {added : List StreamSection}
      (resumed : t.resume i added = some t') :
        ∀ stack ∈ t'.pool, stack ∈ t.pool ∨ stack = added ∨ stack = [] := by
      unfold Threads.resume at resumed
      split at resumed <;> cases resumed
      intro stack member
      exact (List.mem_or_eq_of_mem_set member).imp_right Or.inl
    cases label with
    | run thread => exact absurd rfl (notRun thread)
    | call method =>
      simp only [WebrtcStream.step] at stepped
      split at stepped
      · cases stepped
      · exact resumed _ stepped
    | dropFuture =>
      simp only [WebrtcStream.step] at stepped
      split at stepped <;> cases stepped
      intro stack member
      exact (List.mem_or_eq_of_mem_set member).imp_right Or.inr
    | channelOpen =>
      simp only [WebrtcStream.step] at stepped
      split at stepped <;> cases stepped
      intro stack member
      exact (List.mem_append.mp member).imp_right fun new => Or.inl (List.mem_singleton.mp new)
    | message data =>
      simp only [WebrtcStream.step] at stepped
      split at stepped
      · exact resumed _ stepped
      · cases stepped
    | channelClosed =>
      simp only [WebrtcStream.step] at stepped
      split at stepped
      · cases stepped
      · have made := resumed _ stepped
        exact made
    | _ =>
      cases stepped
      exact fun stack member => Or.inl member

theorem Label.sections_quiet (label : Label) :
    ∀ op ∈ label.sections, op.queuesStop = false ∧ op.queuesGrant = false := by
  cases label with
  | call method =>
    cases method <;>
      simp [Label.sections, Method.sections, StreamSection.queuesStop, StreamSection.queuesGrant]
  | _ => simp [Label.sections, StreamSection.queuesStop, StreamSection.queuesGrant]

theorem LastWordInv.others (inv : LastWordInv t) (stepped : WebrtcStream.step t label = some t')
    (notRun : ∀ thread, label ≠ .run thread) (steady : Steady t label) : LastWordInv t' := by
  obtain ⟨marked, pool⟩ := step_others stepped notRun steady
  obtain ⟨plain, words⟩ := spoken_moves inv.plain (step_moves inv.rules stepped)
  have life : t'.shared.life = t.shared.life := by rw [step_shared stepped notRun]
  have shorter : (spoken t').Sublist (spoken t) := by
    rcases words with shorter | ⟨frame, longer, -⟩
    · exact shorter
    · have lengths := congrArg List.length (life.symm.trans longer)
      simp at lengths
  refine ⟨inv.rules.step stepped, plain, inv.silent.sublist shorter,
    fun unmarked stack member => ?_, fun ended => ?_⟩
  · rcases pool stack member with old | rfl | rfl
    · exact inv.behind (fun early => unmarked (marked.mpr early)) stack old
    · exact .of_quiet fun op inside => (Label.sections_quiet label op inside).1
    · exact True.intro
  · obtain ⟨frame, member, stop⟩ := ended
    obtain ⟨cancelled, quiet⟩ := inv.ended ⟨frame, shorter.subset member, stop⟩
    refine ⟨marked.mpr cancelled, fun op inside => ?_⟩
    rcases step_comes stepped notRun op inside with new | old
    · exact (Label.sections_quiet label op new).2
    · exact quiet op old

/-- **One step keeps the last word**, if STOP_SENDING overtakes no advertisement. -/
theorem LastWordInv.step (inv : LastWordInv t) (order : InOrder t label) (steady : Steady t label)
    (stepped : WebrtcStream.step t label = some t') : LastWordInv t' := by
  by_cases runs : ∃ thread, label = .run thread
  · obtain ⟨thread, rfl⟩ := runs
    exact inv.run order stepped
  · exact inv.others stepped (fun thread same => runs ⟨thread, same⟩) steady

/-! ### The credit of a cancelled stream -/

/-- What the stream does with its credit: none of its own is granted behind STOP_SENDING; once the
read half is marked every byte that was admitted is counted as consumed, or about to be; and what is
counted is released to the connection. -/
structure CancelCredit (t : Tasks) : Prop where
  silent : Silent stopsPeer grantsPeer t.shared.frames
  counted : t.shared.readCancel = true → t.shared.inbuf = [] ∧
    ∀ s, entry t = some s → s.received = s.consumed + t.weight StreamSection.owes
  discarded : t.shared.readCancel = true → ∀ thread payload rest,
    t.pool[thread]? = some (.pushData payload :: rest) →
    ∃ t', WebrtcStream.step t (.run thread) = some t' ∧ .consumed (UInt64.ofNat payload.length) ∈
      t'.pending
  released : ∀ thread n rest, t.pool[thread]? = some (.consumed n :: rest) →
    ∃ t', WebrtcStream.step t (.run thread) = some t' ∧
    ConnFlow.Releases n t.shared.flow t'.shared.flow

theorem frames_silent (inv : LastWordInv t) : Silent stopsPeer grantsPeer t.shared.frames := by
  have part : Silent stopsPeer grantsPeer (t.shared.frames.filter aboutCredit) :=
    inv.silent.sublist (List.sublist_append_left _ _)
  refine part.of_filter (fun frame stops => ?_) fun frame grants => ?_
  · unfold aboutCredit
    rw [stops]
    rfl
  · unfold aboutCredit
    rw [grants, Bool.or_true]

theorem discarded_of_cancelled (cancelled : t.shared.readCancel = true) {thread : Nat}
    {payload : Bytes}
    {rest : List StreamSection} (top : t.pool[thread]? = some (.pushData payload :: rest)) :
    ∃ t', WebrtcStream.step t (.run thread) = some t' ∧ .consumed (UInt64.ofNat payload.length) ∈
      t'.pending := by
  have ran : t.shared.exec (.pushData payload) =
      some { shared := t.shared, next := [.consumed (UInt64.ofNat payload.length)] } :=
        if_pos cancelled
  refine ⟨_, Threads.advance_eq_some.mpr ⟨_, rest, _, top, ran, rfl⟩, ?_⟩
  exact (Threads.pending_members top).1 _ List.mem_cons_self

theorem released {thread : Nat} {n : UInt64} {rest : List StreamSection}
    (top : t.pool[thread]? = some (.consumed n :: rest)) :
    ∃ t', WebrtcStream.step t (.run thread) = some t' ∧
      ConnFlow.Releases n t.shared.flow t'.shared.flow :=
  ⟨_, Threads.advance_eq_some.mpr ⟨_, rest, _, top, rfl, rfl⟩, ConnFlow.onConsumed_releases.1⟩

/-- The credit in the runs that let STOP_SENDING overtake no advertisement. -/
theorem cancelCredit_run {flow : ConnFlow} {peerInitiated isOpen : Bool} {labels : List Label}
    (order : Meets WebrtcStream.step InOrder (start flow peerInitiated isOpen) labels)
    (steady : Meets WebrtcStream.step Steady (start flow peerInitiated isOpen) labels)
    (ran : Lib.run WebrtcStream.step (start flow peerInitiated isOpen) labels = some t) :
      CancelCredit t := by
  have preserves : ∀ t label t', InOrder t label ∧ Steady t label → LastWordInv t →
      WebrtcStream.step t label = some t' → LastWordInv t' :=
    fun _ _ _ allowed inv stepped => inv.step allowed.1 allowed.2 stepped
  have last : LastWordInv t :=
    run_invariant_of_meets preserves (order.and steady)
      (lastWordInv_start flow peerInitiated isOpen) ran
  have count := count_of_steady steady ran
  refine ⟨frames_silent last, fun cancelled => ?_,
    fun cancelled _ _ _ top => discarded_of_cancelled cancelled top, fun _ _ _ top => released top⟩
  have empty := (readInv_of_run ran).empty cancelled
  refine ⟨empty, fun s found => ?_⟩
  have settled := count.settled s found
  have none : t.shared.buffered = 0 := by
    unfold buffered
    rw [empty]
    rfl
  rwa [none, show UInt64.ofNat 0 = 0 from rfl, add_zero] at settled

end WebrtcStream

end Kps.Rust
