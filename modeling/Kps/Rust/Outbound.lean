/-
**What a stream's writer is for.**

The outbound half of a stream, without tasks: the frames handed to the transport, the lifecycle
queue and the ordered DATA queue, where the writer stands between them, and the decision to end the
write half. `Outbound.Step` says what may happen to it.

* `Outbound.Inv.step` — one step keeps the invariant: every decision leads to at most one terminal
  frame, a FIN follows every accepted byte, and after a RESET no DATA passes the writer;
* `Outbound.Inv.conforms`, `Outbound.Inv.handed`, `Outbound.Inv.final` — what the peer is promised.
-/

import Kps.Rust.Stream

namespace Kps.Rust

open Kps.Lib

/-- Where the writer stands. `fresh` is a frame taken from the DATA queue before `drop_data` was
sampled, `past` one that passed; `gone` is a writer that stops or has stopped. -/
inductive WriterPc
  | idle
  | life (frame : LifeFrame)
  | fresh (frame : ParsedFrame)
  | past (frame : ParsedFrame)
  | gone
  deriving DecidableEq, Repr

namespace WriterPc

/-- The lifecycle frame the writer holds. -/
def lifecycle : WriterPc → List LifeFrame
  | life frame => [frame]
  | _ => []

/-- The frame of the DATA queue the writer holds. -/
def held : WriterPc → List ParsedFrame
  | fresh frame => [frame]
  | past frame => [frame]
  | _ => []

/-- The frame that will be sent whatever happens to `drop_data`. -/
def passed : WriterPc → List ParsedFrame
  | past frame => [frame]
  | _ => []

end WriterPc

/-- The frames of a kind that end the write half. -/
def ends : Terminal → ParsedFrame → Bool
  | .fin, .fin => true
  | .reset, .reset _ => true
  | _, _ => false

theorem fin_ends : ends .fin .fin = true := rfl

theorem isTerminal_iff {frame : ParsedFrame} :
    isTerminal frame = true ↔ ∃ kind, ends kind frame = true := by
  constructor
  · intro terminal
    cases frame with
    | fin => exact ⟨.fin, rfl⟩
    | reset code => exact ⟨.reset, rfl⟩
    | _ => cases terminal
  · rintro ⟨kind, ending⟩
    cases kind <;> cases frame <;> first | rfl | cases ending

/-- The stream bytes a frame carries. -/
def payload : ParsedFrame → Bytes
  | .data bytes => bytes
  | _ => []

def payloads (frames : List ParsedFrame) : Bytes := frames.flatMap payload

@[simp] theorem payloads_nil : payloads [] = [] := rfl

@[simp] theorem payloads_append (first second : List ParsedFrame) :
    payloads (first ++ second) = payloads first ++ payloads second := List.flatMap_append

@[simp] theorem payloads_cons (frame : ParsedFrame) (rest : List ParsedFrame) :
    payloads (frame :: rest) = payload frame ++ payloads rest := rfl

theorem payload_of_not_data {frame : ParsedFrame} (other : isData frame = false) :
    payload frame = [] := by
  cases frame with
  | data bytes => cases other
  | _ => rfl

theorem payloads_eq_nil {frames : List ParsedFrame}
    (other : ∀ frame ∈ frames, isData frame = false) :
    payloads frames = [] := List.flatMap_eq_nil_iff.mpr fun frame member =>
  payload_of_not_data (other frame member)

/-- After a FIN or RESET there is neither DATA nor another FIN or RESET. -/
def Conforms (frames : List ParsedFrame) : Prop :=
  frames.Pairwise fun earlier later =>
    isTerminal earlier = true → isData later = false ∧ isTerminal later = false

/-- The outbound half. `ending` is a FIN decided but not queued yet, `resetting` counts the RESETs
decided but not queued yet, `accepting` is a write that passed its checks, and `stopped` says that
the queues are dropped. -/
structure Outbound where
  sent : List ParsedFrame
  life : List LifeFrame
  data : List ParsedFrame
  pc : WriterPc
  terminal : Option Terminal
  dropping : Bool
  accepted : Bytes
  ending : Bool
  resetting : Nat
  accepting : Bool
  stopped : Bool

namespace Outbound

/-- What may happen to the outbound half. -/
inductive Step (o : Outbound) : Outbound → Prop
  /-- A FIN is decided. -/
  | endWrite (undecided : o.terminal = none) (free : o.accepting = false) :
    Step o { o with terminal := some .fin, ending := true }
  /-- The decision is taken back. -/
  | undo (owed : o.ending = true) : Step o { o with terminal := none, ending := false }
  /-- The FIN will not be queued. -/
  | abandon : Step o { o with ending := false }
  | queueFin (owed : o.ending = true) :
    Step o { o with ending := false, data := o.data ++ [.fin] }
  /-- A RESET is decided. -/
  | reset (undecided : o.terminal = none) :
    Step o { o with terminal := some .reset, dropping := true, resetting := o.resetting + 1 }
  | queueReset (code : ErrorCode) (n : Nat) (owed : o.resetting = n + 1) :
    Step o { o with resetting := n, life := o.life ++ [.reset code] }
  | loseReset (n : Nat) (owed : o.resetting = n + 1) : Step o { o with resetting := n }
  /-- Another lifecycle frame is queued. -/
  | queueLife (frame : LifeFrame) (other : isTerminal frame.frame = false) :
    Step o { o with life := o.life ++ [frame] }
  /-- A write passes its checks. -/
  | admits (undecided : o.terminal = none) : Step o { o with accepting := true }
  | refuse : Step o { o with accepting := false }
  | accept (bytes : Bytes) (admitted : o.accepting = true) :
    Step o { o with
      accepting := false
      accepted := o.accepted ++ bytes
      data := o.data ++ [.data bytes] }
  /-- The bytes are accepted after the queue is dropped. -/
  | acceptLost (bytes : Bytes) (admitted : o.accepting = true) (stopped : o.stopped = true) :
    Step o { o with accepting := false, accepted := o.accepted ++ bytes }
  | takeLife (frame : LifeFrame) (rest : List LifeFrame) (idle : o.pc = .idle)
    (next : o.life = frame :: rest) : Step o { o with pc := .life frame, life := rest }
  | sendLife (frame : LifeFrame) (holds : o.pc = .life frame) :
    Step o { o with pc := .idle, sent := o.sent ++ [frame.frame] }
  | takeData (frame : ParsedFrame) (rest : List ParsedFrame) (idle : o.pc = .idle)
    (next : o.data = frame :: rest) : Step o { o with pc := .fresh frame, data := rest }
  /-- Queued DATA is discarded. -/
  | discard (frame : ParsedFrame) (holds : o.pc = .fresh frame) (dropping : o.dropping = true)
    (isData : isData frame = true) : Step o { o with pc := .idle }
  | pass (frame : ParsedFrame) (holds : o.pc = .fresh frame)
    (kept : (o.dropping && isData frame) = false) : Step o { o with pc := .past frame }
  | sendData (frame : ParsedFrame) (holds : o.pc = .past frame) :
    Step o { o with pc := .idle, sent := o.sent ++ [frame] }
  /-- The writer stops; a frame it holds is lost. -/
  | stop : Step o { o with pc := .gone }
  /-- The queues of a writer that stopped are dropped. -/
  | clear (gone : o.pc = .gone) : Step o { o with life := [], data := [], stopped := true }

/-- The terminal frames of a kind that were decided and not lost. -/
def tokens (kind : Terminal) (o : Outbound) : Nat :=
  (o.sent ++ o.pc.held ++ o.data).countP (ends kind) +
    (o.pc.lifecycle ++ o.life).countP (fun frame => ends kind frame.frame) +
    match kind with
    | .fin => o.ending.toNat
    | .reset => o.resetting

/-- The decisions: each leads to at most one terminal frame, of its kind, and a write that passed
its checks excludes a FIN. -/
structure Decided (o : Outbound) : Prop where
  fins : o.tokens .fin ≤ if o.terminal = some .fin then 1 else 0
  resets : o.tokens .reset ≤ if o.terminal = some .reset then 1 else 0
  dropping : o.dropping = true ↔ o.terminal = some .reset
  accepting : o.accepting = true → o.tokens .fin = 0

variable {o o' : Outbound}

theorem life_not_fin (frame : LifeFrame) : ends .fin frame.frame = false := by cases frame <;> rfl

theorem life_not_data (frame : LifeFrame) : isData frame.frame = false := by cases frame <;> rfl

theorem tokens_fin : o.tokens .fin = o.sent.countP (ends .fin) + o.pc.held.countP (ends .fin) +
    o.data.countP (ends .fin) + o.ending.toNat := by
  simp [tokens, life_not_fin, Nat.add_assoc]

theorem tokens_reset : o.tokens .reset = o.sent.countP (ends .reset) +
    o.pc.held.countP (ends .reset) + o.data.countP (ends .reset) +
    o.pc.lifecycle.countP (fun frame => ends .reset frame.frame) +
    o.life.countP (fun frame => ends .reset frame.frame) + o.resetting := by
  simp only [tokens, List.countP_append]
  omega

/-- A step that takes no decision, and adds no terminal frame. -/
theorem Decided.keep (inv : Decided o) (terminal : o'.terminal = o.terminal)
    (dropping : o'.dropping = o.dropping) (fins : o'.tokens .fin ≤ o.tokens .fin)
    (resets : o'.tokens .reset ≤ o.tokens .reset)
    (accepting : o'.accepting = true → o.accepting = true) : Decided o' where
  fins := terminal ▸ le_trans fins inv.fins
  resets := terminal ▸ le_trans resets inv.resets
  dropping := terminal ▸ dropping ▸ inv.dropping
  accepting := fun admitted => Nat.le_zero.mp (inv.accepting (accepting admitted) ▸ fins)

theorem Decided.undecided (inv : Decided o) (undecided : o.terminal = none) :
    o.tokens .fin = 0 ∧ o.tokens .reset = 0 ∧ o.dropping = false := by
  have fins := inv.fins
  have resets := inv.resets
  have dropping := inv.dropping
  rw [undecided] at fins resets dropping
  refine ⟨Nat.le_zero.mp fins, Nat.le_zero.mp resets, ?_⟩
  by_contra set
  have decided := dropping.mp (Bool.not_eq_false _ ▸ set)
  cases decided

theorem Decided.ended (inv : Decided o) (owes : 0 < o.tokens .fin) :
    o.terminal = some .fin ∧ o.tokens .fin = 1 ∧ o.tokens .reset = 0 ∧ o.dropping = false := by
  have fins := inv.fins
  have resets := inv.resets
  have dropping := inv.dropping
  by_cases decided : o.terminal = some .fin
  · rw [decided] at fins resets dropping
    have one : o.tokens .fin ≤ 1 := fins
    refine ⟨decided, by omega, Nat.le_zero.mp resets, ?_⟩
    by_contra set
    have decided := dropping.mp (Bool.not_eq_false _ ▸ set)
    cases decided
  · rw [if_neg decided] at fins
    omega

/-- **One step keeps the decisions.** -/
theorem Decided.step (inv : Decided o) (step : Step o o') : Decided o' := by
  cases step with
  | endWrite undecided free =>
    obtain ⟨fins, resets, dropping⟩ := inv.undecided undecided
    simp only [tokens_fin] at fins
    simp only [tokens_reset] at resets
    refine ⟨?_, ?_, ?_, fun admitted => ?_⟩
    · simp only [tokens_fin, if_true, Bool.toNat_true]
      omega
    · simp only [tokens_reset]
      omega
    · simp [dropping]
    · rw [free] at admitted
      cases admitted
  | undo owed =>
    have owes : 0 < o.tokens .fin := by
      simp only [tokens_fin, owed, Bool.toNat_true]
      omega
    obtain ⟨-, fins, resets, dropping⟩ := inv.ended owes
    have accepting := inv.accepting
    simp only [tokens_fin, owed, Bool.toNat_true] at fins accepting
    simp only [tokens_reset] at resets
    refine ⟨?_, ?_, ?_, fun admitted => ?_⟩
    · simp only [tokens_fin, Bool.toNat_false]
      omega
    · simp only [tokens_reset]
      omega
    · simp [dropping]
    · have none := accepting admitted
      omega
  | abandon =>
    refine inv.keep rfl rfl ?_ (le_refl _) id
    simp only [tokens_fin, Bool.toNat_false]
    omega
  | queueFin owed =>
    refine inv.keep rfl rfl ?_ ?_ id
    · simp only [tokens_fin, owed, List.countP_append, List.countP_singleton, if_pos fin_ends,
        Bool.toNat_true, Bool.toNat_false]
      omega
    · simp [tokens, ends]
  | reset undecided =>
    obtain ⟨fins, resets, dropping⟩ := inv.undecided undecided
    simp only [tokens_fin] at fins
    simp only [tokens_reset] at resets
    refine ⟨?_, ?_, ?_, fun admitted => ?_⟩
    · simp only [tokens_fin]
      omega
    · simp only [tokens_reset, if_true]
      omega
    · simp
    · simp only [tokens_fin]
      omega
  | queueReset code n owed =>
    refine inv.keep rfl rfl ?_ ?_ id
    · simp [tokens, life_not_fin]
    · have one : ends .reset (LifeFrame.reset code).frame = true := rfl
      simp only [tokens_reset, owed, List.countP_append, List.countP_singleton, if_pos one]
      omega
  | loseReset n owed =>
    refine inv.keep rfl rfl (le_refl _) ?_ id
    simp only [tokens_reset, owed]
    omega
  | queueLife frame other =>
    have noEnd : ∀ kind, ends kind frame.frame = false := fun kind => by
      by_contra ending
      rw [isTerminal_iff.mpr ⟨kind, Bool.not_eq_false _ ▸ ending⟩] at other
      cases other
    refine inv.keep rfl rfl ?_ ?_ id
    · simp [tokens, noEnd]
    · simp [tokens, noEnd]
  | admits undecided =>
    obtain ⟨fins, -, -⟩ := inv.undecided undecided
    exact ⟨inv.fins, inv.resets, inv.dropping, fun _ => fins⟩
  | refuse => exact inv.keep rfl rfl (le_refl _) (le_refl _) (fun admitted => by cases admitted)
  | accept bytes admitted =>
    refine inv.keep rfl rfl ?_ ?_ (fun admitted => by cases admitted)
    · simp [tokens, ends]
    · simp [tokens, ends]
  | acceptLost bytes admitted stopped =>
    exact inv.keep rfl rfl (le_refl _) (le_refl _) (fun admitted => by cases admitted)
  | takeLife frame rest idle next =>
    refine inv.keep rfl rfl ?_ ?_ id
    · simp only [tokens_fin, idle]
      exact le_refl _
    · simp only [tokens_reset, idle, next]
      simp only [WriterPc.lifecycle, WriterPc.held, List.countP_cons, List.countP_nil]
      omega
  | sendLife frame holds =>
    refine inv.keep rfl rfl ?_ ?_ id
    · simp only [tokens_fin, holds]
      simp [WriterPc.held, life_not_fin]
    · simp only [tokens_reset, holds]
      simp only [WriterPc.lifecycle, WriterPc.held, List.countP_append, List.countP_cons,
        List.countP_nil]
      omega
  | takeData frame rest idle next =>
    refine inv.keep rfl rfl ?_ ?_ id
    · simp only [tokens_fin, idle, next]
      simp only [WriterPc.held, List.countP_cons, List.countP_nil]
      omega
    · simp only [tokens_reset, idle, next]
      simp only [WriterPc.lifecycle, WriterPc.held, List.countP_cons, List.countP_nil]
      omega
  | discard frame holds dropping isData =>
    refine inv.keep rfl rfl ?_ ?_ id
    · simp only [tokens_fin, holds]
      simp only [WriterPc.held, List.countP_nil]
      omega
    · simp only [tokens_reset, holds]
      simp only [WriterPc.lifecycle, WriterPc.held, List.countP_nil]
      omega
  | pass frame holds kept =>
    refine inv.keep rfl rfl ?_ ?_ id
    · simp only [tokens_fin, holds]
      exact le_refl _
    · simp only [tokens_reset, holds]
      exact le_refl _
  | sendData frame holds =>
    refine inv.keep rfl rfl ?_ ?_ id
    · simp only [tokens_fin, holds]
      simp only [WriterPc.held, List.countP_append, List.countP_nil]
      omega
    · simp only [tokens_reset, holds]
      simp only [WriterPc.lifecycle, WriterPc.held, List.countP_append, List.countP_nil]
      omega
  | stop =>
    refine inv.keep rfl rfl ?_ ?_ id
    · simp only [tokens_fin]
      simp only [WriterPc.held, List.countP_nil]
      omega
    · simp only [tokens_reset]
      simp only [WriterPc.lifecycle, WriterPc.held, List.countP_nil]
      omega
  | clear gone =>
    refine inv.keep rfl rfl ?_ ?_ id
    · simp only [tokens_fin, List.countP_nil]
      omega
    · simp only [tokens_reset, List.countP_nil, List.countP_nil]
      omega

/-- What the writer hands over: no DATA after a FIN on the way, none past the writer after a RESET,
and the accepted bytes in order, all of them unless DATA is discarded or the writer stops. -/
structure Handed (o : Outbound) : Prop where
  finLast : (o.sent ++ o.pc.held ++ o.data).Pairwise fun earlier later =>
    earlier = .fin → isData later = false
  resetLast : (∃ frame ∈ o.sent, ends .reset frame = true) →
    ∀ frame ∈ o.pc.passed, isData frame = false
  conforms : Conforms o.sent
  inOrder : payloads o.sent ++ payloads o.pc.passed <+: o.accepted
  whole : o.dropping = false → o.pc ≠ .gone →
    payloads (o.sent ++ o.pc.held ++ o.data) = o.accepted
  final : .fin ∈ o.sent → payloads o.sent = o.accepted
  stopped : o.stopped = true → o.pc = .gone

/-- A step that leaves the DATA queue, the writer and what was sent. -/
theorem Handed.keep (inv : Handed o) (sent : o'.sent = o.sent) (pc : o'.pc = o.pc)
    (data : o'.data = o.data) (accepted : o'.accepted = o.accepted)
    (stopped : o'.stopped = o.stopped)
    (dropping : o'.dropping = false → o.dropping = false) : Handed o' where
  finLast := sent ▸ pc ▸ data ▸ inv.finLast
  resetLast := sent ▸ pc ▸ inv.resetLast
  conforms := sent ▸ inv.conforms
  inOrder := sent ▸ pc ▸ accepted ▸ inv.inOrder
  whole := fun kept alive => by
    rw [pc] at alive
    rw [sent, pc, data, accepted]
    exact inv.whole (dropping kept) alive
  final := sent ▸ accepted ▸ inv.final
  stopped := stopped ▸ pc ▸ inv.stopped

theorem countP_pos_of_mem (frames : List ParsedFrame) {frame : ParsedFrame} {kind : Terminal}
    (member : frame ∈ frames) (ending : ends kind frame = true) : 0 < frames.countP (ends kind) :=
  List.countP_pos_iff.mpr ⟨frame, member, ending⟩

/-- A frame the writer holds may be sent: it is not terminal after a terminal one. -/
theorem conforms_concat (decided : Decided o) (conforms : Conforms o.sent) {frame : ParsedFrame}
    (holds : frame ∈ o.pc.lifecycle.map LifeFrame.frame ++ o.pc.held)
    (quiet : ∀ earlier ∈ o.sent, isTerminal earlier = true → isData frame = false) :
    Conforms (o.sent ++ [frame]) := by
  unfold Conforms
  rw [List.pairwise_append]
  refine ⟨conforms, List.pairwise_singleton _ _, fun earlier member later last terminal => ?_⟩
  rw [List.mem_singleton.mp last]
  refine ⟨quiet earlier member terminal, ?_⟩
  by_contra again
  obtain ⟨kind, first⟩ := isTerminal_iff.mp terminal
  obtain ⟨other, second⟩ := isTerminal_iff.mp (Bool.not_eq_false _ ▸ again)
  have sent := countP_pos_of_mem _ member first
  have held := countP_pos_of_mem _ holds second
  rw [List.countP_append, List.countP_map] at held
  change 0 < o.pc.lifecycle.countP (fun frame => ends other frame.frame) + _ at held
  have fins := decided.fins
  have resets := decided.resets
  simp only [tokens, List.countP_append] at fins resets
  have exclusive : ¬ (o.terminal = some .fin ∧ o.terminal = some .reset) := by
    rintro ⟨fin, reset⟩
    rw [fin] at reset
    cases reset
  cases kind <;> cases other <;> split at fins <;> split at resets <;>
    first | omega | (exact exclusive ⟨‹_›, ‹_›⟩)

/-- **One step keeps what is handed over.** -/
theorem Handed.step (decided : Decided o) (inv : Handed o) (step : Step o o') : Handed o' := by
  cases step with
  | endWrite undecided free => exact inv.keep rfl rfl rfl rfl rfl id
  | undo owed => exact inv.keep rfl rfl rfl rfl rfl id
  | abandon => exact inv.keep rfl rfl rfl rfl rfl id
  | reset undecided => exact inv.keep rfl rfl rfl rfl rfl (fun kept => by cases kept)
  | queueReset code n owed => exact inv.keep rfl rfl rfl rfl rfl id
  | loseReset n owed => exact inv.keep rfl rfl rfl rfl rfl id
  | queueLife frame other => exact inv.keep rfl rfl rfl rfl rfl id
  | admits undecided => exact inv.keep rfl rfl rfl rfl rfl id
  | refuse => exact inv.keep rfl rfl rfl rfl rfl id
  | queueFin owed =>
    refine ⟨?_, inv.resetLast, inv.conforms, inv.inOrder, fun kept alive => ?_, inv.final,
      inv.stopped⟩
    · show (o.sent ++ o.pc.held ++ (o.data ++ [ParsedFrame.fin])).Pairwise _
      rw [← List.append_assoc, List.pairwise_append]
      refine ⟨inv.finLast, List.pairwise_singleton _ _, fun earlier _ later last _ => ?_⟩
      rw [List.mem_singleton.mp last]
      rfl
    · have whole := inv.whole kept alive
      simpa [payload] using whole
  | accept bytes admitted =>
    have none := decided.accepting admitted
    rw [tokens_fin] at none
    refine ⟨?_, inv.resetLast, inv.conforms, inv.inOrder.trans (List.prefix_append _ _),
      fun kept alive => ?_, fun sent => ?_, inv.stopped⟩
    · show (o.sent ++ o.pc.held ++ (o.data ++ [ParsedFrame.data bytes])).Pairwise _
      rw [← List.append_assoc, List.pairwise_append]
      refine ⟨inv.finLast, List.pairwise_singleton _ _, fun earlier member later last fin => ?_⟩
      subst fin
      have some := countP_pos_of_mem _ member fin_ends
      simp only [List.countP_append] at some
      omega
    · have whole := inv.whole kept alive
      show payloads (o.sent ++ o.pc.held ++ (o.data ++ [.data bytes])) = o.accepted ++ bytes
      rw [← whole]
      simp [payload]
    · have some := countP_pos_of_mem o.sent sent fin_ends
      omega
  | acceptLost bytes admitted stopped =>
    have none := decided.accepting admitted
    rw [tokens_fin] at none
    refine ⟨inv.finLast, inv.resetLast, inv.conforms, inv.inOrder.trans (List.prefix_append _ _),
      fun _ alive => absurd (inv.stopped stopped) alive, fun sent => ?_, inv.stopped⟩
    have some := countP_pos_of_mem o.sent sent fin_ends
    omega
  | takeLife frame rest idle next =>
    obtain ⟨finLast, resetLast, conforms, inOrder, whole, final, stopped⟩ := inv
    rw [idle] at finLast resetLast inOrder whole stopped
    exact ⟨finLast, resetLast, conforms, inOrder, fun kept _ => whole kept (by simp), final,
      fun now => absurd (stopped now) (by simp)⟩
  | sendLife frame holds =>
    obtain ⟨finLast, resetLast, conforms, inOrder, whole, final, stopped⟩ := inv
    have other := life_not_data frame
    have notFin : frame.frame ≠ .fin := fun same => by
      have none := life_not_fin frame
      rw [same] at none
      cases none
    have empty : payload frame.frame = [] := payload_of_not_data other
    have conforms' : Conforms (o.sent ++ [frame.frame]) :=
      conforms_concat decided conforms (by simp [holds, WriterPc.lifecycle]) fun _ _ _ => other
    rw [holds] at finLast resetLast inOrder whole stopped
    refine ⟨?_, fun _ _ member => absurd member List.not_mem_nil, conforms', ?_, fun kept _ => ?_,
      fun sent => ?_, fun now => absurd (stopped now) (by simp)⟩
    · show (o.sent ++ [frame.frame] ++ [] ++ o.data).Pairwise _
      simp only [WriterPc.held, List.append_nil] at finLast ⊢
      rw [List.pairwise_append] at finLast ⊢
      obtain ⟨before, after, across⟩ := finLast
      refine ⟨List.pairwise_append.mpr ⟨before, List.pairwise_singleton _ _, ?_⟩, after, ?_⟩
      · intro _ _ later last _
        rw [List.mem_singleton.mp last]
        exact other
      · intro earlier member later inside fin
        rcases List.mem_append.mp member with old | new
        · exact across earlier old later inside fin
        · rw [List.mem_singleton.mp new] at fin
          exact absurd fin notFin
    · show payloads (o.sent ++ [frame.frame]) ++ payloads [] <+: o.accepted
      simpa [empty, WriterPc.passed] using inOrder
    · have whole := whole kept (by simp)
      show payloads (o.sent ++ [frame.frame] ++ [] ++ o.data) = o.accepted
      simpa [empty, WriterPc.held] using whole
    · have earlier : .fin ∈ o.sent := by
        rcases List.mem_append.mp sent with old | new
        · exact old
        · exact absurd (List.mem_singleton.mp new).symm notFin
      show payloads (o.sent ++ [frame.frame]) = o.accepted
      rw [payloads_append, payloads_cons, empty]
      simpa using final earlier
  | takeData frame rest idle next =>
    obtain ⟨finLast, resetLast, conforms, inOrder, whole, final, stopped⟩ := inv
    rw [idle] at finLast resetLast inOrder whole stopped
    rw [next] at finLast whole
    refine ⟨?_, resetLast, conforms, inOrder, fun kept _ => ?_, final,
      fun now => absurd (stopped now) (by simp)⟩
    · simpa [WriterPc.held] using finLast
    · have whole := whole kept (by simp)
      simpa [WriterPc.held] using whole
  | discard frame holds dropping isData =>
    obtain ⟨finLast, resetLast, conforms, inOrder, whole, final, stopped⟩ := inv
    rw [holds] at finLast resetLast inOrder stopped
    refine ⟨?_, resetLast, conforms, inOrder, fun kept _ => ?_, final,
      fun now => absurd (stopped now) (by simp)⟩
    · exact finLast.sublist (by simp [WriterPc.held])
    · rw [dropping] at kept
      cases kept
  | pass frame holds kept =>
    obtain ⟨finLast, resetLast, conforms, inOrder, whole, final, stopped⟩ := inv
    rw [holds] at finLast resetLast inOrder whole stopped
    have passes : o.dropping = true → isData frame = false := fun dropping => by
      rw [dropping] at kept
      exact kept
    refine ⟨finLast, ?_, conforms, ?_, fun kept _ => whole kept (by simp), final,
      fun now => absurd (stopped now) (by simp)⟩
    · rintro ⟨sent, member, ending⟩ later inside
      rw [List.mem_singleton.mp inside]
      have some := countP_pos_of_mem o.sent member ending
      have resets := decided.resets
      rw [tokens_reset] at resets
      apply passes
      rw [decided.dropping]
      by_contra other
      rw [if_neg other] at resets
      omega
    · show payloads o.sent ++ payloads [frame] <+: o.accepted
      cases dropping : o.dropping with
      | true => simpa [payload_of_not_data (passes dropping), WriterPc.passed] using inOrder
      | false =>
        rw [← whole dropping (by simp)]
        exact ⟨payloads o.data, by simp [WriterPc.held]⟩
  | sendData frame holds =>
    obtain ⟨finLast, resetLast, conforms, inOrder, whole, final, stopped⟩ := inv
    have quiet : ∀ earlier ∈ o.sent, isTerminal earlier = true → isData frame = false := by
      intro earlier member terminal
      obtain ⟨kind, ending⟩ := isTerminal_iff.mp terminal
      cases kind with
      | fin =>
        have same : earlier = .fin := by cases earlier <;> first | rfl | cases ending
        rw [holds, List.append_assoc] at finLast
        exact (List.pairwise_append.mp finLast).2.2 earlier member frame List.mem_cons_self same
      | reset => exact resetLast ⟨earlier, member, ending⟩ frame (by simp [holds, WriterPc.passed])
    have conforms' : Conforms (o.sent ++ [frame]) :=
      conforms_concat decided conforms (by simp [holds, WriterPc.held]) quiet
    have alone : .fin ∈ o.sent → payload frame = [] := fun sent =>
      payload_of_not_data (quiet _ sent rfl)
    have last : frame = .fin → payloads o.data = [] := by
      rintro rfl
      rw [holds, List.append_assoc] at finLast
      refine payloads_eq_nil fun later inside => ?_
      exact (List.pairwise_cons.mp (List.pairwise_append.mp finLast).2.1).1 later inside rfl
    have kept : frame = .fin → o.dropping = false := by
      rintro rfl
      have owes : 0 < o.tokens .fin := by
        rw [tokens_fin, holds]
        simp only [WriterPc.held, List.countP_singleton, fin_ends, if_true]
        omega
      exact (decided.ended owes).2.2.2
    rw [holds] at finLast inOrder whole stopped
    refine ⟨?_, fun _ _ member => absurd member List.not_mem_nil, conforms', ?_, fun kept _ => ?_,
      fun sent => ?_, fun now => absurd (stopped now) (by simp)⟩
    · simpa [WriterPc.held] using finLast
    · simpa [WriterPc.passed] using inOrder
    · have whole := whole kept (by simp)
      simpa [WriterPc.held] using whole
    · show payloads (o.sent ++ [frame]) = o.accepted
      rcases List.mem_append.mp sent with old | new
      · rw [payloads_append, payloads_cons, alone old]
        simpa using final old
      · have same : frame = .fin := (List.mem_singleton.mp new).symm
        have whole := whole (kept same) (by simp)
        simpa [WriterPc.held, last same] using whole
  | stop =>
    obtain ⟨finLast, resetLast, conforms, inOrder, whole, final, stopped⟩ := inv
    refine ⟨?_, fun _ _ member => absurd member List.not_mem_nil, conforms, ?_,
      fun _ alive => absurd rfl alive, final, fun _ => rfl⟩
    · exact finLast.sublist (by simp [WriterPc.held])
    · show payloads o.sent ++ [] <+: o.accepted
      rw [List.append_nil]
      exact (List.prefix_append _ _).trans inOrder
  | clear gone =>
    obtain ⟨finLast, resetLast, conforms, inOrder, whole, final, stopped⟩ := inv
    refine ⟨?_, resetLast, conforms, inOrder, fun _ alive => absurd gone alive, final,
      fun _ => gone⟩
    exact finLast.sublist (by simp)

end Outbound

end Kps.Rust
