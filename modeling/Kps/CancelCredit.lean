/-
**No stream credit after a cancellation** (§6.5), in Go and in Rust.

* `credit_cancelled` — in the runs in which STOP_SENDING overtakes no advertisement, and in Go no
  handler is divided by the mark, no stream credit follows STOP_SENDING, and what is consumed is
  still released to the connection;
* `credit_overtaken` — runs in which STOP_SENDING does overtake one.
-/

import Kps.Go.CancelCredit
import Kps.Rust.CancelCredit

namespace Kps

open Kps.Lib

/-- **The credit of a cancelled stream**, in every run whose steps are in order. -/
theorem credit_cancelled {limits : Go.FlowWindows} {goOpen : Bool}
    {goLabels : List Go.WebrtcStream.Label}
    {g : Go.WebrtcStream.Goroutines} {flow : Rust.ConnFlow} {peerInitiated rustOpen : Bool}
    {rustLabels : List Rust.WebrtcStream.Label} {r : Rust.WebrtcStream.Tasks}
    (goOrder :
      Meets Go.WebrtcStream.step Go.WebrtcStream.InOrder
      (Go.WebrtcStream.start limits goOpen) goLabels)
    (goUndivided :
      Meets Go.WebrtcStream.step Go.WebrtcStream.Undivided
      (Go.WebrtcStream.start limits goOpen) goLabels)
    (goRan : run Go.WebrtcStream.step (Go.WebrtcStream.start limits goOpen) goLabels = some g)
    (rustOrder : Meets Rust.WebrtcStream.step Rust.WebrtcStream.InOrder
      (Rust.WebrtcStream.start flow peerInitiated rustOpen) rustLabels)
    (rustSteady : Meets Rust.WebrtcStream.step Rust.WebrtcStream.Steady
      (Rust.WebrtcStream.start flow peerInitiated rustOpen) rustLabels)
    (rustRan :
      run Rust.WebrtcStream.step (Rust.WebrtcStream.start flow peerInitiated rustOpen) rustLabels =
      some r) :
    Go.WebrtcStream.CancelCredit g ∧ Rust.WebrtcStream.CancelCredit r :=
  ⟨Go.WebrtcStream.cancelCredit_run goOrder goUndivided goRan,
    Rust.WebrtcStream.cancelCredit_run rustOrder rustSteady rustRan⟩

/-- A payload is read and the credit for it is advertised, the read half is cancelled, and a byte
arrives. -/
def goCancels : List Go.WebrtcStream.Label :=
  [.message [0, 1, 2], .run 0, .run 0, .run 0, .call (.read 2), .run 1, .run 1, .run 1, .run 1,
    .call (.cancelRead 7),
    .run 2, .run 2, .run 2, .run 2, .run 2, .message [0, 4], .run 0, .run 0, .run 0]

/-- A payload arrives while the read half is cancelled. -/
def rustCancels : List Rust.WebrtcStream.Label :=
  [.message [0, 1, 2], .run 0, .run 0, .call (.cancelRead .closed), .run 2, .run 2, .run 0, .run 0,
    .run 2, .run 2, .run 1, .run 1, .run 1]

theorem credit_cancelled_goCancels_rustCancels : ∃ g r,
    run Go.WebrtcStream.step (Go.WebrtcStream.start ⟨4, 8, 1⟩ true) goCancels = some g ∧
      g.shared.dc.calls = [.send (.maxStreamData 6), .send (.stopSending 7)] ∧
      g.shared.flow.connConsumed = 3 ∧
      run Rust.WebrtcStream.step (Rust.WebrtcStream.start (.new ⟨4, 8, 1⟩) true true) rustCancels =
        some r ∧
      r.shared.frames = [.stopSending .closed] ∧ r.shared.flow.connConsumed = 2 ∧
      Go.WebrtcStream.CancelCredit g ∧ Rust.WebrtcStream.CancelCredit r := by
  have go : (run Go.WebrtcStream.step (Go.WebrtcStream.start ⟨4, 8, 1⟩ true) goCancels).any
    (fun g =>
      decide (g.shared.dc.calls = [.send (.maxStreamData 6), .send (.stopSending 7)] ∧
        g.shared.flow.connConsumed = 3)) = true := by decide +kernel
  have rust :
    (run Rust.WebrtcStream.step (Rust.WebrtcStream.start (.new ⟨4, 8, 1⟩) true true)
      rustCancels).any
      (fun r => decide
        (r.shared.frames = [.stopSending .closed] ∧ r.shared.flow.connConsumed = 2)) = true := by
    decide +kernel
  obtain ⟨g, goRan, goFacts⟩ := (Option.any_eq_true _ _).mp go
  obtain ⟨r, rustRan, rustFacts⟩ := (Option.any_eq_true _ _).mp rust
  obtain ⟨calls, goConsumed⟩ := of_decide_eq_true goFacts
  obtain ⟨frames, rustConsumed⟩ := of_decide_eq_true rustFacts
  have alone : ∀ label ∈ rustCancels, label.movesCredit = false := by decide
  have credit := credit_cancelled (by decide +kernel) (by decide +kernel) goRan (by decide +kernel)
    (Rust.WebrtcStream.steady_alone alone _) rustRan
  exact ⟨g, r, goRan, calls, goConsumed, rustRan, frames, rustConsumed, credit⟩

/-- A `Read` computes an advertisement, `CancelRead` runs up to STOP_SENDING, and then the
advertisement is handed over. -/
def goOvertakes : List Go.WebrtcStream.Label :=
  [.message [0, 1, 2], .run 0, .run 0, .run 0, .call (.read 2), .run 1, .run 1,
    .call (.cancelRead 7), .run 2, .run 2, .run 2, .run 2, .run 1]

/-- A payload arrives after `cancel_read` has marked the stream and before it marks its credit. -/
def rustOvertakes : List Rust.WebrtcStream.Label :=
  [.message [0, 1, 2], .run 0, .run 0, .call (.cancelRead .closed), .run 2, .run 0, .run 0, .run 2,
    .run 2, .run 0, .run 1, .run 1, .run 1, .run 1, .run 1]

/-- **Stream credit follows STOP_SENDING.** -/
theorem credit_overtaken : ∃ g r,
    run Go.WebrtcStream.step (Go.WebrtcStream.start ⟨4, 8, 1⟩ true) goOvertakes = some g ∧
      g.shared.dc.calls = [.send (.stopSending 7), .send (.maxStreamData 6)] ∧
      ¬ Go.WebrtcStream.CancelCredit g ∧
      run Rust.WebrtcStream.step
        (Rust.WebrtcStream.start (.new ⟨4, 8, 1⟩) true true) rustOvertakes = some r ∧
      r.shared.frames = [.stopSending .closed, .maxStreamData 6] ∧
      ¬ Rust.WebrtcStream.CancelCredit r := by
  have go : (run Go.WebrtcStream.step (Go.WebrtcStream.start ⟨4, 8, 1⟩ true) goOvertakes).any
    (fun g =>
      decide (g.shared.dc.calls = [.send (.stopSending 7), .send (.maxStreamData 6)])) =
        true := by decide +kernel
  have rust :
    (run Rust.WebrtcStream.step (Rust.WebrtcStream.start (.new ⟨4, 8, 1⟩) true true)
      rustOvertakes).any
      (fun r => decide (r.shared.frames = [.stopSending .closed, .maxStreamData 6])) =
        true := by decide +kernel
  obtain ⟨g, goRan, goFacts⟩ := (Option.any_eq_true _ _).mp go
  obtain ⟨r, rustRan, rustFacts⟩ := (Option.any_eq_true _ _).mp rust
  have calls := of_decide_eq_true goFacts
  have frames := of_decide_eq_true rustFacts
  refine ⟨g, r, goRan, calls, fun credit => ?_, rustRan, frames, fun credit => ?_⟩
  · have silent := credit.silent
    rw [calls] at silent
    cases (List.pairwise_cons.mp silent).1 _ List.mem_cons_self rfl
  · have silent := credit.silent
    rw [frames] at silent
    cases (List.pairwise_cons.mp silent).1 _ List.mem_cons_self rfl

end Kps
