/-
**Streams that arrive with the HELLO**, in the Rust crate and in the Go module.

Both stage a stream of the peer until the connection is established, and surface the staged ones
then.

* `early_streams_placed` — none is lost in the runs that stage none too late;
* `early_stream_stranded` — one that is staged too late stays there, on an established connection.
-/

import Kps.Go.Establishment
import Kps.Rust.Establishment

namespace Kps

open Kps.Lib

/-- **No stream of the peer is lost at establishment**, in any state of a run that stages none after
the flush. -/
theorem early_streams_placed {limits : Rust.FlowWindows} {limits' : Go.FlowWindows}
    {labels : List Rust.Establishment.Label} {labels' : List Go.Establishment.Label}
    (inRust :
      Meets Rust.Establishment.step Rust.Establishment.inTime
      (Rust.Establishment.new limits) labels)
    (inGo :
      Meets Go.Establishment.step Go.Establishment.inTime (Go.Establishment.new limits') labels') :
    (∀ before t, before <+: labels →
      run Rust.Establishment.step (Rust.Establishment.new limits) before = some t →
      Rust.Establishment.Placed t) ∧
    (∀ before t, before <+: labels' →
      run Go.Establishment.step (Go.Establishment.new limits') before = some t →
      Go.Establishment.Placed t) := by
  refine ⟨fun before t head ran => ?_, fun before t head ran => ?_⟩
  · exact of_meets_of_before
      (fun _ _ time ran => Rust.Establishment.placed_of_inTime time ran) inRust head ran
  · exact of_meets_of_before
      (fun _ _ time ran => Go.Establishment.placed_of_inTime time ran) inGo head ran

/-- The peer's HELLO. -/
def hello : Bytes := Rust.encodeHello ⟨1, 8, 8⟩

/-- A stream arrives before the HELLO, and is flushed. -/
def flushesRust : List Rust.Establishment.Label :=
  [.controlOpen, .run 0, .run 0, .run 0, .run 0, .incoming, .run 1, .run 1, .run 1, .control hello,
    .run 2, .run 2, .run 2, .run 2, .run 2, .run 2, .run 2, .run 2]

def flushesGo : List Go.Establishment.Label :=
  [.controlOpen, .run 0, .run 0, .run 0, .incoming, .run 1, .run 1, .control hello, .run 2, .run 2,
    .run 2, .run 2, .run 2, .run 2, .run 2, .run 2]

theorem early_streams_placed_flushes : ∃ t t',
    run Rust.Establishment.step (Rust.Establishment.new Rust.defaultFlowLimits) flushesRust =
      some t ∧
    run Go.Establishment.step (Go.Establishment.new Go.defaultFlowLimits) flushesGo = some t' ∧
    t.shared.queue = [0] ∧ t'.shared.incoming = [0] ∧ Rust.Establishment.Placed t ∧
    Go.Establishment.Placed t' := by
  have inRust :
    (run Rust.Establishment.step (Rust.Establishment.new Rust.defaultFlowLimits) flushesRust).any
      (fun t => decide (t.shared.queue = [0])) = true := by decide +kernel
  have inGo : (run Go.Establishment.step (Go.Establishment.new Go.defaultFlowLimits) flushesGo).any
      (fun t => decide (t.shared.incoming = [0])) = true := by decide +kernel
  obtain ⟨t, ran, queue⟩ := (Option.any_eq_true _ _).mp inRust
  obtain ⟨t', ran', incoming⟩ := (Option.any_eq_true _ _).mp inGo
  have time : Meets Rust.Establishment.step Rust.Establishment.inTime
      (Rust.Establishment.new Rust.defaultFlowLimits) flushesRust := by decide +kernel
  have time' : Meets Go.Establishment.step Go.Establishment.inTime
      (Go.Establishment.new Go.defaultFlowLimits) flushesGo := by decide +kernel
  obtain ⟨placed, placed'⟩ := early_streams_placed time time'
  exact ⟨t, t', ran, ran', of_decide_eq_true queue, of_decide_eq_true incoming,
    placed _ t (List.prefix_refl _) ran, placed' _ t' (List.prefix_refl _) ran'⟩

/-- The stream looks at `established` before the flush, and is staged after it. -/
def strandsRust : List Rust.Establishment.Label :=
  [.controlOpen, .run 0, .run 0, .run 0, .run 0, .incoming, .run 1, .run 1, .control hello, .run 2,
    .run 2, .run 2, .run 2, .run 2, .run 2, .run 2, .run 1]

/-- The stream is staged after the staged ones were taken, and before `establishedCh` is closed. -/
def strandsGo : List Go.Establishment.Label :=
  [.controlOpen, .run 0, .run 0, .run 0, .control hello, .run 1, .run 1, .run 1, .run 1, .run 1,
    .incoming, .run 2, .run 2, .run 1]

/-- **A stream that is staged too late is stranded**: the connection is established and healthy,
nobody is at work, and the stream is staged still. -/
theorem early_stream_stranded :
    (∃ t, run Rust.Establishment.step (Rust.Establishment.new Rust.defaultFlowLimits) strandsRust =
      some t ∧
      t.shared.established = true ∧ t.shared.tearingDown = false ∧ t.pending = [] ∧
      t.shared.staged = [0] ∧ t.shared.queue = [] ∧ ¬ Rust.Establishment.Placed t) ∧
    (∃ t, run Go.Establishment.step (Go.Establishment.new Go.defaultFlowLimits) strandsGo = some t ∧
      t.shared.established = true ∧ t.shared.tearingDown = false ∧ t.pending = [] ∧
      t.shared.staged = [0] ∧ t.shared.incoming = [] ∧ ¬ Go.Establishment.Placed t) := by
  have inRust :
    (run Rust.Establishment.step (Rust.Establishment.new Rust.defaultFlowLimits) strandsRust).any
      (fun t => decide (t.shared.established = true ∧ t.shared.tearingDown = false ∧
        t.pending = [] ∧ t.shared.staged = [0] ∧ t.shared.queue = [])) = true := by decide +kernel
  have inGo : (run Go.Establishment.step (Go.Establishment.new Go.defaultFlowLimits) strandsGo).any
      (fun t => decide (t.shared.established = true ∧ t.shared.tearingDown = false ∧
        t.pending = [] ∧
        t.shared.staged = [0] ∧ t.shared.incoming = [])) = true := by decide +kernel
  obtain ⟨t, ran, facts⟩ := (Option.any_eq_true _ _).mp inRust
  obtain ⟨t', ran', facts'⟩ := (Option.any_eq_true _ _).mp inGo
  obtain ⟨established, healthy, idle, staged, queue⟩ := of_decide_eq_true facts
  obtain ⟨established', healthy', idle', staged', incoming'⟩ := of_decide_eq_true facts'
  refine ⟨⟨t, ran, established, healthy, idle, staged, queue, fun placed => ?_⟩,
    ⟨t', ran', established', healthy', idle', staged', incoming', fun placed => ?_⟩⟩
  · obtain ⟨none, -⟩ := placed established fun op member => by rw [idle] at member; cases member
    rw [staged] at none
    cases none
  · obtain ⟨none, -⟩ :=
      placed established' healthy' fun op member => by rw [idle'] at member; cases member
    rw [staged'] at none
    cases none

end Kps
