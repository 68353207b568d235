/-
**The reasons of the connections that end.**

* `close_reasons_sound` — when the reasons are sound, in every run of a Rust and of a Go connection;
* `close_reasons_unsound` — runs in which they are not: the peer connection fails, and its callback
  closes the connection cleanly.
-/

import Kps.Go.Teardown
import Kps.Rust.Teardown

namespace Kps

open Kps.Lib

/-- **Soundness of close reasons.** In Rust the reasons are sound, where no mark stands between its
sections, in every run in which a lost transport marks first only with `network-error` and the
watcher does not read between such a mark's sections; in Go they are in every state exactly if
neither a lost transport nor the removal for another connection is the first to end the
connection. -/
theorem close_reasons_sound {rustLimits : Rust.FlowWindows}
    {rustLabels : List Rust.WebrtcConn.Label}
    {t : Rust.WebrtcConn.Tasks} {goLimits : Go.FlowWindows} {goLabels : List Go.WebrtcConn.Label}
    (rustRan : run Rust.WebrtcConn.step (Rust.WebrtcConn.new rustLimits) rustLabels = some t) :
    (Meets Rust.WebrtcConn.step Rust.WebrtcConn.Orderly
      (Rust.WebrtcConn.new rustLimits) rustLabels →
      ¬ Rust.WebrtcConn.Marking t → Rust.WebrtcConn.Sound t.shared) ∧
    ((∀ before g, before <+: goLabels → run Go.WebrtcConn.step (Go.WebrtcConn.new goLimits) before =
        some g → Go.WebrtcConn.Sound g.shared) ↔
      Meets Go.WebrtcConn.step Go.WebrtcConn.Orderly (Go.WebrtcConn.new goLimits) goLabels) :=
  ⟨fun orderly still => Rust.WebrtcConn.close_reason_sound rustRan orderly still,
    Go.WebrtcConn.close_reason_sound⟩

/-- The peer connection fails under an established connection, and its datagram channel closes
before the callback runs: `network-error` is marked first. -/
def rustLosesChannel : List Rust.WebrtcConn.Label :=
  Rust.WebrtcConn.establishes ++ [.select .established, .stateChange .failed, .reservedClosed,
    .run 3, .run 3, .run 3, .run 3, .run 3, .run 3, .run 2, .watcher, .watcher, .watcher]

/-- The peer closes with `protocol-error`, and the peer connection is closed after it. -/
def goPeerCloses : List Go.WebrtcConn.Label :=
  [.control [0, 0, 0, 0, 6], .run 0, .run 0, .run 0, .run 0, .run 0, .stateChange .closed, .run 1,
    .run 1, .run 1]

theorem close_reasons_sound_losesChannel : ∃ t g,
    run Rust.WebrtcConn.step (Rust.WebrtcConn.new Rust.defaultFlowLimits) rustLosesChannel =
      some t ∧
      run Go.WebrtcConn.step (Go.WebrtcConn.new Go.defaultFlowLimits) goPeerCloses = some g ∧
      t.shared.closedBy = some .transport ∧ t.shared.credit.flow.isFailed = true ∧
      g.shared.err = some (.stream 6 true) ∧
      Rust.WebrtcConn.Sound t.shared ∧ Go.WebrtcConn.Sound g.shared := by
  have loses :
    (run Rust.WebrtcConn.step (Rust.WebrtcConn.new Rust.defaultFlowLimits) rustLosesChannel).any
    (fun t =>
      decide (t.shared.closedBy = some .transport ∧ t.shared.credit.flow.isFailed = true ∧
        ∀ op ∈ t.pending, Rust.WebrtcConn.unwritten op = false)) = true := by decide +kernel
  have closes : (run Go.WebrtcConn.step (Go.WebrtcConn.new Go.defaultFlowLimits) goPeerCloses).any
    (fun g =>
      decide (g.shared.err = some (.stream 6 true))) = true := by decide +kernel
  obtain ⟨t, rustRan, lost⟩ := (Option.any_eq_true _ _).mp loses
  obtain ⟨g, goRan, reason⟩ := (Option.any_eq_true _ _).mp closes
  obtain ⟨lost, failed, written⟩ := of_decide_eq_true lost
  refine ⟨t, g, rustRan, goRan, lost, failed, of_decide_eq_true reason, ?_, ?_⟩
  · refine (@close_reasons_sound _ _ _ Go.defaultFlowLimits goPeerCloses rustRan).1
      (by decide +kernel) ?_
    rintro ⟨error, pending⟩
    cases written _ pending
  · exact (close_reasons_sound rustRan).2.mpr (by decide +kernel) _ _ (List.prefix_refl _) goRan

/-- The peer connection fails while a writer waits for credit, and the callback runs. -/
def rustFails : List Rust.WebrtcConn.Label :=
  Rust.WebrtcConn.establishes ++
    [.select .established, .stateChange .failed, .run 2, .run 2, .watcher, .watcher, .watcher]

def goFails : List Go.WebrtcConn.Label :=
  [.stateChange .failed, .run 0, .run 0, .run 0, .run 0, .run 0]

/-- **A connection that failed is reported as closed cleanly**, in both. -/
theorem close_reasons_unsound :
    (∃ t, run Rust.WebrtcConn.step (Rust.WebrtcConn.new Rust.defaultFlowLimits) rustFails = some t ∧
      t.shared.closed = true ∧ t.shared.err = none ∧ t.shared.closedCleanly = false ∧
      t.shared.closeError = .connClosed ∧ t.shared.credit.flow.failure = .connClosed ∧
      ¬ Rust.WebrtcConn.Sound t.shared) ∧
    ∃ g, run Go.WebrtcConn.step (Go.WebrtcConn.new Go.defaultFlowLimits) goFails = some g ∧
      g.shared.closedCh = true ∧ g.shared.err = none ∧ g.shared.closedCleanly = false ∧
      g.shared.closeError = .connClosed ∧ g.shared.flow.failed = some .connClosed ∧
      ¬ Go.WebrtcConn.Sound g.shared := by
  have rust : (run Rust.WebrtcConn.step (Rust.WebrtcConn.new Rust.defaultFlowLimits) rustFails).any
    (fun t =>
      decide (t.shared.closed = true ∧ t.shared.err = none ∧ t.shared.closedCleanly = false ∧
        t.shared.closeError = .connClosed ∧ t.shared.credit.flow.failure = .connClosed)) =
          true := by decide +kernel
  have go : (run Go.WebrtcConn.step (Go.WebrtcConn.new Go.defaultFlowLimits) goFails).any (fun g =>
      decide (g.shared.closedCh = true ∧ g.shared.err = none ∧ g.shared.closedCleanly = false ∧
        g.shared.closeError = .connClosed ∧ g.shared.flow.failed = some .connClosed)) =
          true := by decide +kernel
  obtain ⟨t, rustRan, facts⟩ := (Option.any_eq_true _ _).mp rust
  obtain ⟨g, goRan, facts'⟩ := (Option.any_eq_true _ _).mp go
  obtain ⟨closed, err, dirty, accept, reserve⟩ := of_decide_eq_true facts
  obtain ⟨closed', err', dirty', accept', reserve'⟩ := of_decide_eq_true facts'
  refine ⟨⟨t, rustRan, closed, err, dirty, accept, reserve, fun sound => ?_⟩,
    ⟨g, goRan, closed', err', dirty', accept', reserve', fun sound => ?_⟩⟩
  · have clean := sound.clean closed err
    rw [dirty] at clean
    cases clean
  · have clean := sound.clean closed' err'
    rw [dirty'] at clean
    cases clean

end Kps
