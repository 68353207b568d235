/-
**The frames of a Rust stream are well formed.**

A DATA frame is as long as the grant it was reserved with, which is at least one byte and at most a
frame's payload, and an advertised limit is capped. Frames are only made in five places; elsewhere
they are passed on.

* `exec_stocks` — where a frame that a section leaves in a queue, on the channel or to its task
  comes from;
* `Formed.step` — so every frame is within the ranges of the wire;
* `writer` — and with the order of the frames, a stream is a writer.
-/

import Kps.Rust.Entries
import Kps.Rust.StreamWriter
import Kps.Wire.Stream

namespace Kps.Rust

open Kps.Lib

/-! ### Frames on the wire -/

/-- The frame as the wire has it. -/
def ParsedFrame.toWire : ParsedFrame → Wire.Frame
  | .data payload => .data payload
  | .fin => .fin
  | .reset code => .reset code.toWire
  | .stopSending code => .stopSending code.toWire
  | .maxStreamData v => .maxStreamData v

theorem ParsedFrame.WF.message {frame : ParsedFrame} (wf : frame.WF) :
    Wire.FrameMessage (encodeFrame frame) frame.toWire := by
  have encoded : encodeFrame frame = frame.toWire.message := by cases frame <;> rfl
  rw [encoded]
  refine .of_wf ?_
  cases frame with
  | reset code =>
    have small := code.toWire_le
    show code.toWire < 2 ^ 32
    omega
  | stopSending code =>
    have small := code.toWire_le
    show code.toWire < 2 ^ 32
    omega
  | _ => exact wf

theorem payload_toWire (frames : List ParsedFrame) :
    Wire.payload (frames.map ParsedFrame.toWire) = payloads frames := by
  unfold Wire.payload payloads
  rw [List.flatMap_map]
  congr 1
  funext frame
  cases frame <;> rfl

theorem conforms_toWire {frames : List ParsedFrame} (conforms : Conforms frames) :
    Wire.Conforms (frames.map ParsedFrame.toWire) := by
  refine List.pairwise_map.mpr (conforms.imp fun {earlier later} apart terminal => ?_)
  have terminal : isTerminal earlier = true := by cases earlier <;> first | rfl | cases terminal
  obtain ⟨noData, noTerminal⟩ := apart terminal
  cases later <;> first
    | exact ⟨rfl, rfl⟩
    | exact (Bool.false_ne_true noData.symm).elim
    | exact (Bool.false_ne_true noTerminal.symm).elim

theorem mem_fin_toWire {frames : List ParsedFrame} (member : .fin ∈ frames.map ParsedFrame.toWire) :
    .fin ∈ frames := by
  obtain ⟨frame, inside, same⟩ := List.mem_map.mp member
  cases frame <;> first | exact inside | cases same

/-! ### Where frames come from -/

theorem sat_le (v : UInt64) : (sat v).toNat ≤ maxOffset := by
  have capped : sat v ≤ UInt64.ofNat maxOffset := Word.min_le_right _ _
  exact UInt64.le_iff_toNat_le.mp capped

/-- An advertised limit is capped. -/
theorem ConnFlow.onConsumed_capped {f : ConnFlow} {id n v : UInt64}
    (due : (f.onConsumed id n).value.2 = some v) :
    v.toNat ≤ maxOffset := by
  simp only [onConsumed, streamConsumed, bind, pure] at due
  split at due
  · cases due
  dsimp only at due
  split at due
  · cases due
  split at due <;> cases due
  exact sat_le _

/-- The frames a section carries. -/
def StreamSection.carried : StreamSection → List ParsedFrame
  | .lifeSend frame => [frame.frame]
  | .writerLife frame => [frame.frame]
  | .writerData frame _ => [frame]
  | .writerRoom frame _ => [frame]
  | .writerBuffered frame _ => [frame]
  | .writerSend frame _ => [frame]
  | _ => []

namespace WebrtcStream

variable {s s' : WebrtcStream} {op : StreamSection} {e : Effect WebrtcStream StreamSection}
  {next : List StreamSection}

/-- The frames handed to the channel, and those that are queued. -/
def stock (s : WebrtcStream) : List ParsedFrame :=
  s.frames ++ (s.life.map LifeFrame.frame ++ s.data.map Prod.fst)

/-- The frames the sections carry. -/
def carriedBy (sections : List StreamSection) : List ParsedFrame :=
  sections.flatMap StreamSection.carried

theorem carriedBy_append (first second : List StreamSection) :
    carriedBy (first ++ second) = carriedBy first ++ carriedBy second := List.flatMap_append

theorem carriedBy_discarded (n : Nat) : carriedBy (discarded n) = [] := by
  unfold discarded
  split <;> rfl

theorem carriedBy_settleReserved {settle : UInt64 → StreamSection}
    (none : ∀ n, (settle n).carried = []) (n : UInt64) :
    carriedBy (settleReserved settle n) = [] := by
  unfold settleReserved
  split
  · exact (List.append_nil _).trans (none n)
  · rfl

theorem carriedBy_marks (frame : ParsedFrame) :
    carriedBy (if isTerminal frame then [.markTerminalSent] else []) = [] := by
  split <;> rfl

/-- Where a frame comes from that is there after a section: it was there, or the section makes
it. -/
inductive Origin (s : WebrtcStream) (op : StreamSection) (frame : ParsedFrame) : Prop
  | stock (member : frame ∈ s.stock)
  | carried (member : frame ∈ op.carried)
  | granted (buf : Bytes) (queues : op = .queueData buf) (fits : s.pendingGrant.toNat ≤ buf.length)
    (new : frame = .data (buf.take s.pendingGrant.toNat))
  | made (other : isData frame = false) (formed : frame.WF)

/-- What a section leaves behind. -/
structure Stocks (s : WebrtcStream) (op : StreamSection) (e : Effect WebrtcStream StreamSection) :
    Prop where
  stock : ∀ frame ∈ e.shared.stock, Origin s op frame
  next : ∀ frame ∈ carriedBy e.next, Origin s op frame

theorem stock_congr (calls : s'.dc.calls = s.dc.calls) (life : s'.life = s.life)
    (data : s'.data = s.data) :
    s'.stock = s.stock := by
  unfold stock
  rw [frames_congr calls, life, data]

/-- A section that has no part in the frames. -/
theorem Stocks.light (ran : andThen next s' = some e) (stock : s'.stock = s.stock)
    (light : carriedBy next = []) :
    Stocks s op e := by
  cases ran
  refine ⟨fun frame member => ?_, fun frame member => ?_⟩
  · exact .stock (stock ▸ member)
  · rw [light] at member
    cases member

/-- A section that passes the frame it carries on. -/
theorem Stocks.passes (ran : andThen next s = some e) (same : carriedBy next = op.carried) :
    Stocks s op e := by
  cases ran
  refine ⟨fun frame member => .stock member, fun frame member => ?_⟩
  rw [same] at member
  exact .carried member

/-- A section that makes lifecycle frames. -/
theorem Stocks.makes (ran : andThen next s' = some e) (stock : s'.stock = s.stock)
    (made : ∀ frame ∈ carriedBy next, isData frame = false ∧ frame.WF) : Stocks s op e := by
  cases ran
  refine ⟨fun frame member => .stock (stock ▸ member), fun frame member => ?_⟩
  exact .made (made frame member).1 (made frame member).2

theorem made_reset {before after : List StreamSection} (code : ErrorCode)
    (first : carriedBy before = []) (last : carriedBy after = []) :
    ∀ frame ∈ carriedBy (before ++ .lifeSend (.reset code) :: after), isData frame = false ∧
      frame.WF := by
  intro frame member
  rw [carriedBy_append, first, List.nil_append] at member
  rcases List.mem_cons.mp member with rfl | inside
  · exact ⟨rfl, trivial⟩
  · change frame ∈ carriedBy after at inside
    rw [last] at inside
    cases inside

theorem onFrame_stocks {data : Bytes} (ran : s.onFrame data = some e) :
    Stocks s (.onFrame data) e := by
  unfold onFrame at ran
  split at ran
  · exact .light ran rfl rfl
  · split at ran <;> exact .light ran rfl rfl
  · split at ran <;> exact .light ran rfl rfl
  · split at ran
    · exact .light ran rfl rfl
    · refine .light ran rfl ?_
      rw [carriedBy_append, carriedBy_discarded]
      rfl
  · next code _ =>
    split at ran
    · exact .light ran rfl rfl
    · dsimp only at ran
      split at ran
      · have before : carriedBy [.failSend] = [] := rfl
        exact .makes ran rfl (made_reset code before rfl)
      · exact .light ran rfl rfl
  · exact .light ran rfl rfl

theorem maybeRetire_stocks (ran : s.maybeRetire = some e) : Stocks s .maybeRetire e := by
  unfold maybeRetire at ran
  split at ran
  · split at ran
    · split at ran <;> exact .light ran rfl rfl
    · cases ran
      exact ⟨fun frame member => .stock member, fun frame member => by cases member⟩
  · exact .light ran rfl rfl

theorem pollRead_stocks {size : Nat} (ran : s.pollRead size = some e) :
    Stocks s (.pollRead size) e := by
  unfold pollRead at ran
  split at ran
  · exact .light ran rfl rfl
  split at ran
  · exact .light ran rfl rfl
  split at ran
  · exact .light ran rfl rfl
  split at ran
  · exact .light ran rfl rfl
  split at ran <;> exact .light ran rfl rfl

theorem pollWrite_stocks {buf : Bytes} (ran : s.pollWrite buf = some e) :
    Stocks s (.pollWrite buf) e := by
  unfold pollWrite at ran
  split at ran
  · exact .light ran rfl rfl
  split at ran
  · exact .light ran rfl rfl
  split at ran
  · exact .light ran rfl rfl
  split at ran <;> exact .light ran rfl rfl

theorem stock_pollPermit (s : WebrtcStream) : s.pollPermit.stock = s.stock := by
  unfold pollPermit
  split
  · split
    · rfl
    split <;> rfl
  · split
    · rfl
    split <;> rfl
  · rfl
  · rfl

/-- At most one item goes into the DATA queue. -/
theorem mem_stock_queued {item : ParsedFrame × UInt64} (calls : s'.dc.calls = s.dc.calls)
    (life : s'.life = s.life)
    (data : s'.data = s.data ∨ s'.data = s.data ++ [item]) {frame : ParsedFrame}
    (member : frame ∈ s'.stock) :
    frame ∈ s.stock ∨ frame = item.1 := by
  rcases data with same | more
  · rw [stock_congr calls life same] at member
    exact Or.inl member
  · unfold stock at member
    rw [frames_congr calls, life, more, List.map_append, ← List.append_assoc,
      ← List.append_assoc] at member
    rcases List.mem_append.mp member with old | new
    · rw [List.append_assoc] at old
      exact Or.inl old
    · exact Or.inr (List.mem_singleton.mp new)

/-- A section that puts at most one frame into the DATA queue. -/
theorem Stocks.queues {item : ParsedFrame × UInt64} (ran : andThen next s' = some e)
    (calls : s'.dc.calls = s.dc.calls) (life : s'.life = s.life)
    (data : s'.data = s.data ∨ s'.data = s.data ++ [item]) (light : carriedBy next = [])
    (origin : Origin s op item.1) : Stocks s op e := by
  cases ran
  refine ⟨fun frame member => ?_, fun frame member => ?_⟩
  · rcases mem_stock_queued calls life data member with old | rfl
    · exact .stock old
    · exact origin
  · rw [light] at member
    cases member

theorem data_sendItem (item : ParsedFrame × UInt64) (s : WebrtcStream) :
    (s.sendItem item).data = s.data ∨ (s.sendItem item).data = s.data ++ [item] := by
  unfold sendItem
  dsimp only
  split
  · exact Or.inl rfl
  · exact Or.inr rfl

theorem calls_pollPermit (s : WebrtcStream) :
    s.pollPermit.dc.calls = s.dc.calls ∧ s.pollPermit.life = s.life ∧
    s.pollPermit.data = s.data := by
  rw [pollPermit_eq]
  exact ⟨rfl, rfl, rfl⟩

theorem queueData_stocks {buf : Bytes} (ran : s.queueData buf = some e) :
    Stocks s (.queueData buf) e := by
  unfold queueData at ran
  have grant : s.pollPermit.pendingGrant = s.pendingGrant := by rw [pollPermit_eq]
  dsimp only at ran
  split at ran
  · exact .light ran (stock_pollPermit s) rfl
  · split at ran
    · next fits =>
      rw [grant] at ran fits
      obtain ⟨calls, life, data⟩ := calls_pollPermit s
      have queued :=
        data_sendItem (.data (buf.take s.pendingGrant.toNat), s.pendingGrant) s.pollPermit
      rw [data] at queued
      exact .queues ran calls life queued rfl (.granted buf rfl fits rfl)
    · exact .light ran (stock_pollPermit s) rfl
  · exact .light ran (stock_pollPermit s) rfl

theorem reserveCredit_stocks {buf : Bytes} (ran : s.reserveCredit buf = some e) :
    Stocks s (.reserveCredit buf) e := by
  unfold reserveCredit at ran
  split at ran <;> exact .light ran rfl rfl

theorem reserveFin_stocks (ran : s.reserveFin = some e) : Stocks s .reserveFin e := by
  unfold reserveFin at ran
  dsimp only at ran
  split at ran
  · exact .light ran (stock_pollPermit s) rfl
  · obtain ⟨calls, life, data⟩ := calls_pollPermit s
    have queued := data_sendItem (.fin, 0) s.pollPermit
    rw [data] at queued
    exact .queues ran calls life queued rfl (.made rfl trivial)
  · exact .light ran (stock_pollPermit s) rfl

/-- A section that takes frames from the DATA queue. -/
theorem Stocks.takes (ran : andThen next s' = some e) (calls : s'.dc.calls = s.dc.calls)
    (life : s'.life = s.life)
    (fewer : ∀ item ∈ s'.data, item ∈ s.data)
    (origin : ∀ frame ∈ carriedBy next, Origin s op frame) : Stocks s op e := by
  cases ran
  refine ⟨fun frame member => .stock ?_, origin⟩
  unfold WebrtcStream.stock at member ⊢
  rw [frames_congr calls, life] at member
  rcases List.mem_append.mp member with sent | queued
  · exact List.mem_append_left _ sent
  refine List.mem_append_right _ ?_
  rcases List.mem_append.mp queued with lifecycle | data
  · exact List.mem_append_left _ lifecycle
  · obtain ⟨item, inside, rfl⟩ := List.mem_map.mp data
    exact List.mem_append_right _ (List.mem_map_of_mem (fewer item inside))

theorem selectData_stocks (ran : s.selectData = some e) : Stocks s .selectData e := by
  unfold selectData at ran
  split at ran
  · next frame reserved rest queue =>
    have fewer : ∀ item ∈ rest, item ∈ s.data :=
      fun item member => queue ▸ List.mem_cons_of_mem _ member
    have first : ∀ other ∈ carriedBy [.writerData frame reserved], Origin s .selectData other := by
      intro other member
      rw [List.mem_singleton.mp member]
      refine .stock ?_
      unfold stock
      rw [queue]
      simp
    unfold freePermit at ran
    split at ran
    · exact .takes ran rfl rfl fewer first
    · exact .takes ran rfl rfl fewer first
  split at ran
  · exact .light ran rfl rfl
  split at ran
  · exact .light ran rfl rfl
  · cases ran

/-- The frame a section carries is handed to the channel. -/
theorem Stocks.sends {frame : ParsedFrame} (ran : andThen next s' = some e)
    (calls : s'.dc.calls = s.dc.calls ++ [.send frame]) (life : s'.life = s.life)
    (data : s'.data = s.data)
    (carried : frame ∈ op.carried) (light : carriedBy next = []) : Stocks s op e := by
  cases ran
  refine ⟨fun other member => ?_, fun other member => ?_⟩
  · unfold WebrtcStream.stock at member
    rw [frames_send calls, life, data, List.append_assoc] at member
    rcases List.mem_append.mp member with old | new
    · exact .stock (List.mem_append_left _ old)
    rcases List.mem_append.mp new with same | queued
    · rw [List.mem_singleton.mp same]
      exact .carried carried
    · exact .stock (List.mem_append_right _ queued)
  · rw [light] at member
    cases member

theorem writerSend_stocks {frame : ParsedFrame} {reserved : UInt64}
    (ran : s.writerSend frame reserved = some e) :
    Stocks s (.writerSend frame reserved) e := by
  unfold writerSend at ran
  split at ran
  · next dc sent =>
    obtain ⟨-, rfl⟩ := send_eq_some sent
    refine .sends ran rfl rfl rfl List.mem_cons_self ?_
    rw [carriedBy_append, carriedBy_append, carriedBy_settleReserved fun _ => rfl, carriedBy_marks]
    rfl
  · refine .light ran rfl ?_
    rw [carriedBy_append, carriedBy_settleReserved fun _ => rfl]
    rfl

/-- **Where a frame that is there after a section comes from.** -/
theorem exec_stocks (ran : s.exec op = some e) : Stocks s op e := by
  have gives {settle : UInt64 → StreamSection} {n : UInt64} {last : StreamSection}
    (none : ∀ n, (settle n).carried = [])
      (light : last.carried = []) : carriedBy (settleReserved settle n ++ [last]) = [] := by
    rw [carriedBy_append, carriedBy_settleReserved none]
    exact (List.append_nil _).trans light
  cases op with
  | onFrame data => exact onFrame_stocks ran
  | onDataReceived payload =>
    simp only [exec] at ran
    split at ran <;> exact .light ran rfl rfl
  | pushData payload =>
    simp only [exec] at ran
    split at ran <;> exact .light ran rfl rfl
  | policeClose wireComplete =>
    simp only [exec] at ran
    split at ran <;> exact .light ran rfl rfl
  | consumed n =>
    simp only [exec] at ran
    refine .makes ran rfl fun frame member => ?_
    cases due : (s.flow.onConsumed s.id n).value.2 with
    | none =>
      rw [due] at member
      cases member
    | some v =>
      rw [due] at member
      rw [List.mem_singleton.mp member]
      exact ⟨rfl, ConnFlow.onConsumed_capped due⟩
  | lifeSend frame =>
    simp only [exec] at ran
    split at ran
    · exact .light ran rfl rfl
    · cases ran
      refine ⟨fun other member => ?_, fun other member => by cases member⟩
      unfold stock at member
      rw [List.map_append, List.append_assoc] at member
      rcases List.mem_append.mp member with sent | queued
      · exact .stock (List.mem_append_left _ sent)
      rcases List.mem_append.mp queued with old | new
      · exact .stock (List.mem_append_right _ (List.mem_append_left _ old))
      rcases List.mem_append.mp new with same | item
      · exact .carried same
      · exact .stock (List.mem_append_right _ (List.mem_append_right _ item))
  | maybeRetire => exact maybeRetire_stocks ran
  | retired =>
    cases ran
    exact ⟨fun frame member => .stock member, fun frame member => by cases member⟩
  | dcClose =>
    refine .light ran ?_ rfl
    unfold stock frames RTCDataChannel.close
    simp
  | writerOpen =>
    simp only [exec] at ran
    split at ran
    · exact .light ran rfl rfl
    split at ran
    · exact .light ran rfl rfl
    · cases ran
  | selectLife =>
    simp only [exec] at ran
    split at ran
    · next frame rest queue =>
      cases ran
      have first : frame.frame ∈ s.stock := by
        unfold stock
        rw [queue]
        simp
      refine ⟨fun other member => ?_, fun other member => ?_⟩
      · refine .stock ?_
        unfold stock at member ⊢
        rw [queue]
        rcases List.mem_append.mp member with sent | queued
        · exact List.mem_append_left _ sent
        · exact List.mem_append_right _ (List.mem_cons_of_mem _ queued)
      · rw [List.mem_singleton.mp member]
        exact .stock first
    · exact .light ran rfl rfl
  | selectData => exact selectData_stocks ran
  | writerLife frame =>
    simp only [exec] at ran
    split at ran
    · next dc sent =>
      obtain ⟨-, rfl⟩ := send_eq_some sent
      refine .sends ran rfl rfl rfl List.mem_cons_self ?_
      rw [carriedBy_append, carriedBy_marks]
      rfl
    · exact .light ran rfl rfl
  | writerData frame reserved =>
    simp only [exec] at ran
    split at ran
    · exact .light ran rfl (gives (fun _ => rfl) rfl)
    · exact .passes ran rfl
  | writerRoom frame reserved =>
    simp only [exec] at ran
    split at ran
    · exact .light ran rfl (gives (fun _ => rfl) rfl)
    · exact .passes ran rfl
  | writerBuffered frame reserved =>
    simp only [exec] at ran
    split at ran <;> exact .passes ran rfl
  | writerSend frame reserved => exact writerSend_stocks ran
  | writerEnd =>
    cases ran
    refine ⟨fun frame member => .stock ?_, fun frame member => by cases member⟩
    have sent : frame ∈ s.frames ++ [] := member
    rw [List.append_nil] at sent
    exact List.mem_append_left _ sent
  | pollRead size => exact pollRead_stocks ran
  | pollWrite buf => exact pollWrite_stocks ran
  | reserveCredit buf => exact reserveCredit_stocks ran
  | queueData buf => exact queueData_stocks ran
  | pollShutdown =>
    simp only [exec] at ran
    split at ran <;> exact .light ran rfl rfl
  | reserveFin => exact reserveFin_stocks ran
  | closeWrite =>
    simp only [exec] at ran
    split at ran <;> exact .light ran rfl rfl
  | sendFin =>
    simp only [exec] at ran
    split at ran
    · exact .light ran rfl rfl
    split at ran
    · exact .queues ran rfl rfl (Or.inr rfl) rfl (.made rfl trivial)
    · cases ran
  | resetWrite code =>
    simp only [exec] at ran
    split at ran
    · exact .light ran rfl rfl
    · have before : carriedBy [.failSend] = [] := rfl
      exact .makes ran rfl (made_reset code before rfl)
  | cancelRead code =>
    simp only [exec] at ran
    split at ran
    · exact .light ran rfl rfl
    · refine .makes ran rfl fun frame member => ?_
      rw [carriedBy_append, carriedBy_append, carriedBy_append, carriedBy_discarded] at member
      split at member
      · cases member
      · rw [List.mem_singleton.mp member]
        exact ⟨rfl, trivial⟩
  | dropGrant =>
    simp only [exec] at ran
    split at ran <;> exact .light ran rfl rfl
  | _ => exact .light ran rfl rfl

/-- **A grant fits a frame**, and is not empty when it is about to be queued. -/
theorem exec_grant (ran : s.exec op = some e) (fits : s.pendingGrant.toNat ≤ maxFramePayload) :
    e.shared.pendingGrant.toNat ≤ maxFramePayload ∧ ∀ buf, .queueData buf ∈ e.next →
      e.shared.pendingGrant ≠ 0 := by
  have leads (buf : Bytes) (member : .queueData buf ∈ e.next) : op.leadsTo (.queueData buf) =
      true :=
    exec_leads ran _ member
  have keeps (other : op.grants = false) (idle : ∀ buf, op.leadsTo (.queueData buf) = false) :
      e.shared.pendingGrant.toNat ≤ maxFramePayload ∧
        ∀ buf, .queueData buf ∈ e.next → e.shared.pendingGrant ≠ 0 := by
    refine ⟨(exec_leaves ran).grant other ▸ fits, fun buf member => ?_⟩
    exact (Bool.false_ne_true ((idle buf).symm.trans (leads buf member))).elim
  cases op with
  | pollWrite buf =>
    simp only [exec, pollWrite] at ran
    split at ran
    · cases ran
      exact ⟨fits, fun buf member => by cases member⟩
    split at ran
    · cases ran
      exact ⟨fits, fun buf member => by cases member⟩
    split at ran
    · cases ran
      exact ⟨fits, fun buf member => by cases member⟩
    split at ran
    · cases ran
      exact ⟨fits, fun buf member => by simp at member⟩
    · next held =>
      cases ran
      exact ⟨fits, fun _ _ => held⟩
  | reserveCredit buf =>
    simp only [exec, reserveCredit] at ran
    split at ran
    · cases ran
      exact ⟨fits, fun buf member => by cases member⟩
    · cases ran
      exact ⟨fits, fun buf member => by cases member⟩
    · next amount flow granted =>
      cases ran
      obtain ⟨positive, -⟩ := ConnFlow.pollReserve_granted granted
      refine ⟨ConnFlow.pollReserve_fits granted, fun _ _ zero => ?_⟩
      change amount = 0 at zero
      rw [zero] at positive
      exact absurd positive (by decide)
  | queueData buf =>
    simp only [exec, queueData] at ran
    have grant : s.pollPermit.pendingGrant = s.pendingGrant := by rw [pollPermit_eq]
    split at ran
    · cases ran
      exact ⟨grant ▸ fits, fun buf member => by simp at member⟩
    · split at ran
      · cases ran
        exact ⟨Nat.zero_le _, fun buf member => by cases member⟩
      · cases ran
        exact ⟨grant ▸ fits, fun buf member => by cases member⟩
    · cases ran
      exact ⟨grant ▸ fits, fun buf member => by cases member⟩
  | refuseData =>
    cases ran
    exact ⟨Nat.zero_le _, fun buf member => by cases member⟩
  | _ => exact keeps rfl fun _ => rfl

/-! ### Runs -/

/-- Every frame is within the ranges of the wire, and a grant that is about to be queued is not
empty. -/
structure Formed (t : Tasks) : Prop where
  rules : Ruled t
  stock : ∀ frame ∈ t.shared.stock, frame.WF
  carried : ∀ op ∈ t.pending, ∀ frame ∈ op.carried, frame.WF
  grant : t.shared.pendingGrant.toNat ≤ maxFramePayload
  ready : ∀ buf, .queueData buf ∈ t.pending → t.shared.pendingGrant ≠ 0

variable {t t' : Tasks} {label : Label}

theorem Formed.origin (inv : Formed t) (pending : op ∈ t.pending) {frame : ParsedFrame}
    (origin : Origin t.shared op frame) : frame.WF := by
  cases origin with
  | stock member => exact inv.stock frame member
  | carried member => exact inv.carried op pending frame member
  | granted buf queues fits new =>
    subst queues new
    have some : t.shared.pendingGrant.toNat ≠ 0 :=
      fun zero => inv.ready buf pending (UInt64.toNat_inj.mp zero)
    have size : (buf.take t.shared.pendingGrant.toNat).length = t.shared.pendingGrant.toNat :=
      List.length_take_of_le fits
    show 1 ≤ (buf.take t.shared.pendingGrant.toNat).length ∧
      (buf.take t.shared.pendingGrant.toNat).length ≤ _
    rw [size]
    exact ⟨Nat.pos_of_ne_zero some, inv.grant⟩
  | made other formed => exact formed

theorem Formed.run {thread : Nat} (inv : Formed t) (stepped : t.advance exec thread = some t') :
    Formed t' := by
  have rules := inv.rules.run stepped
  obtain ⟨op, rest, e, top, ran, rfl⟩ := Threads.advance_eq_some.mp stepped
  have pending := Threads.mem_pending top
  have comes := (Threads.pending_members (e := e) top).2.2
  obtain ⟨stock, next⟩ := exec_stocks ran
  obtain ⟨grant, ready⟩ := exec_grant ran inv.grant
  refine ⟨rules, fun frame member => inv.origin pending (stock frame member),
    fun other member frame carries => ?_, grant, fun buf member => ?_⟩
  · rcases comes other member with pushed | new | old
    · exact inv.origin pending (next frame (List.mem_flatMap.mpr ⟨other, pushed, carries⟩))
    · rw [mem_started ran new] at carries
      cases carries
    · exact inv.carried other old frame carries
  · rcases comes _ member with pushed | new | old
    · exact ready buf pushed
    · cases mem_started ran new
    · -- the application has one section, and this one is not its own
      by_cases grants : op.grants = true
      · have own : ownedBy .application op = true := by cases op <;> first | rfl | cases grants
        have control := (rules.owned .application).control_eq member rfl
        rw [(inv.rules.owned .application).control_advance top
          ((exec_follows ran).1.countP .application)
          fun other inside => by rw [mem_started ran inside]; rfl, if_pos own] at control
        exact ready buf (List.mem_of_find?_eq_some control)
      · rw [show e.shared.pendingGrant =
          _ from (exec_leaves ran).grant (Bool.not_eq_true _ ▸ grants)]
        exact inv.ready buf old

theorem Formed.others (inv : Formed t) (stepped : WebrtcStream.step t label = some t')
    (notRun : ∀ thread, label ≠ .run thread) : Formed t' := by
  have shared := step_shared stepped notRun
  have grant : t'.shared.pendingGrant = t.shared.pendingGrant :=
    (congrArg WebrtcStream.pendingGrant shared).trans rfl
  have stock : t'.shared.stock = t.shared.stock := by
    rw [shared]
    rfl
  have plain : ∀ op ∈ label.sections, op.carried = [] ∧ ∀ buf, op ≠ .queueData buf := by
    intro op member
    cases label with
    | call method =>
      cases method <;> simp [Label.sections, Method.sections] at member <;>
        rcases member with rfl | rfl <;> exact ⟨rfl, fun buf same => by cases same⟩
    | channelOpen =>
      rw [List.mem_singleton.mp member]
      exact ⟨rfl, fun buf same => by cases same⟩
    | message data =>
      rw [List.mem_singleton.mp member]
      exact ⟨rfl, fun buf same => by cases same⟩
    | channelClosed =>
      rw [List.mem_singleton.mp member]
      exact ⟨rfl, fun buf same => by cases same⟩
    | _ => cases member
  refine ⟨inv.rules.step stepped, stock ▸ inv.stock, fun op member frame carries => ?_,
    grant ▸ inv.grant, fun buf member => ?_⟩
  · rcases step_comes stepped notRun op member with new | old
    · rw [(plain op new).1] at carries
      cases carries
    · exact inv.carried op old frame carries
  · rw [grant]
    rcases step_comes stepped notRun _ member with new | old
    · exact absurd rfl ((plain _ new).2 buf)
    · exact inv.ready buf old

theorem Formed.step (inv : Formed t) (stepped : WebrtcStream.step t label = some t') :
    Formed t' := by
  cases label with
  | run thread => exact inv.run stepped
  | _ => exact inv.others stepped (by simp)

theorem formed_start (flow : ConnFlow) (peerInitiated isOpen : Bool) :
    Formed (start flow peerInitiated isOpen) := by
  have pending : (start flow peerInitiated isOpen).pending = [.writerOpen] := rfl
  refine ⟨ruled_start flow peerInitiated isOpen, fun frame member => (by cases member),
    fun op member frame carries => ?_, Nat.zero_le _, fun buf member => ?_⟩
  · rw [pending] at member
    rw [List.mem_singleton.mp member] at carries
    cases carries
  · rw [pending] at member
    simp at member

/-! ### A writer -/

theorem frames_grow (stepped : WebrtcStream.step t label = some t') :
    t.shared.frames <+: t'.shared.frames := by
  have grown (calls : t.shared.dc.calls <+: t'.shared.dc.calls) :
      t.shared.frames <+: t'.shared.frames := by
    obtain ⟨more, same⟩ := calls
    unfold frames
    rw [← same, List.filterMap_append]
    exact List.prefix_append _ _
  cases label with
  | run thread =>
    obtain ⟨op, rest, e, top, ran, rfl⟩ := Threads.advance_eq_some.mp stepped
    exact grown (exec_leaves ran).calls
  | _ =>
    refine grown ?_
    rw [step_shared stepped (by simp)]

/-- The messages of a stream in a run. -/
theorem writes_of_run {flow : ConnFlow} {peerInitiated isOpen : Bool} {labels : List Label}
    {t : Tasks}
    (ran : Lib.run WebrtcStream.step (start flow peerInitiated isOpen) labels = some t) :
    Wire.Writes
      (t.shared.frames.map encodeFrame) t.shared.acceptedBytes t.shared.acceptedBytes := by
  have formed : Formed t := run_invariant (fun _ _ _ inv stepped => Formed.step inv stepped)
    (formed_start flow peerInitiated isOpen) ran
  have inv : WriterInv t := run_invariant (fun _ _ _ inv stepped => WriterInv.step inv stepped)
    (writerInv_start flow peerInitiated isOpen) ran
  have message : ∀ frame ∈ t.shared.frames, Wire.FrameMessage (encodeFrame frame) frame.toWire :=
    fun frame member =>
    (formed.stock frame (List.mem_append_left _ member)).message
  refine ⟨t.shared.frames.map ParsedFrame.toWire,
    .of_map message (conforms_toWire inv.handed.conforms), ?_, ?_⟩
  · rw [payload_toWire]
    exact (List.prefix_append _ _).trans inv.handed.inOrder
  · intro fin
    rw [payload_toWire]
    have all : payloads t.shared.frames = t.shared.acceptedBytes :=
      inv.handed.final (mem_fin_toWire fin)
    rw [all]

/-- A stream as a writer: its application, its writer task, its channel and its peer may do
anything. -/
def writer (flow : ConnFlow) (peerInitiated isOpen : Bool) : Wire.Writer where
  State := Tasks
  Label := Label
  start := start flow peerInitiated isOpen
  step := WebrtcStream.step
  messages t := t.shared.frames.map encodeFrame
  written t := t.shared.acceptedBytes
  accepted t := t.shared.acceptedBytes
  grows _ _ _ stepped := (frames_grow stepped).map encodeFrame
  writes _ _ ran := writes_of_run ran

end WebrtcStream

end Kps.Rust
