/-
**The datagram buffers of the Rust and of the Go connection.**

* `datagrams_drop_oldest` — when they drop their oldest datagram, in every run;
* `datagrams_drop_newest` — a burst of 257, of which they deliver the first and not the last.
-/

import Kps.Go.Datagrams
import Kps.Rust.Datagrams

namespace Kps

open Kps.Lib

/-- **The buffers drop their oldest datagram.** In Rust and in Go, what is buffered and what was
delivered is what a buffer of 256 that drops its oldest datagram holds and delivers, in every state
of a run, if and only if a datagram that finds the channel full finds it full of its like. -/
theorem datagrams_drop_oldest {rustLabels : List Rust.DatagramInbox.Label}
    {goLabels : List Go.DatagramInbox.Label} :
    ((∀ before b, before <+: rustLabels → run Rust.Buffered.step {} before = some b →
      Rust.Buffered.Same b) ↔ Meets Rust.Buffered.step Rust.Buffered.Repeats {} rustLabels) ∧
    ((∀ before b, before <+: goLabels → run Go.Buffered.step {} before = some b →
      Go.Buffered.Same b) ↔ Meets Go.Buffered.step Go.Buffered.Repeats {} goLabels) :=
  ⟨Rust.Buffered.receiveDatagram_drops_oldest, Go.Buffered.receiveDatagram_drops_oldest⟩

/-- Datagrams that arrive with no call in between, one more than fit. -/
def burst : List Bytes := (List.range 257).map fun i => [UInt8.ofNat (i / 256), UInt8.ofNat i]

/-- **The first datagram of the burst is delivered and the last is lost**, where a buffer that drops
its oldest would deliver the second. -/
theorem datagrams_drop_newest :
    (∃ b, run Rust.Buffered.step {} (burst.map .onMessage ++ [.receiveDatagram, .poll true]) =
      some b ∧
      b.inbox.received = [(0, [0, 0])] ∧ [1, 0] ∉ b.inbox.queue ∧ b.buffer.gifts = [(0, [0, 1])] ∧
      [1, 0] ∈ b.buffer.items ∧ ¬ Rust.Buffered.Same b) ∧
    ∃ b, run Go.Buffered.step {}
      (burst.map .onMessage ++ [.receiveDatagram false (some .dgInbox)]) = some b ∧
      b.inbox.received = [(0, [0, 0])] ∧ [1, 0] ∉ b.inbox.dgInbox ∧ b.buffer.gifts = [(0, [0, 1])] ∧
      [1, 0] ∈ b.buffer.items ∧ ¬ Go.Buffered.Same b := by
  have rust :
    (run Rust.Buffered.step {} (burst.map .onMessage ++ [.receiveDatagram, .poll true])).any
    (fun b =>
      decide
        (b.inbox.received = [(0, [0, 0])] ∧ [1, 0] ∉ b.inbox.queue ∧
          b.buffer.gifts = [(0, [0, 1])] ∧
        [1, 0] ∈ b.buffer.items)) = true := by decide +kernel
  have go :
    (run Go.Buffered.step {} (burst.map .onMessage ++ [.receiveDatagram false (some .dgInbox)])).any
    (fun b =>
      decide
        (b.inbox.received = [(0, [0, 0])] ∧ [1, 0] ∉ b.inbox.dgInbox ∧
          b.buffer.gifts = [(0, [0, 1])] ∧
        [1, 0] ∈ b.buffer.items)) = true := by decide +kernel
  obtain ⟨b, rustRan, facts⟩ := (Option.any_eq_true _ _).mp rust
  obtain ⟨b', goRan, facts'⟩ := (Option.any_eq_true _ _).mp go
  obtain ⟨received, lost, gifts, kept⟩ := of_decide_eq_true facts
  obtain ⟨received', lost', gifts', kept'⟩ := of_decide_eq_true facts'
  refine ⟨⟨b, rustRan, received, lost, gifts, kept, fun same => ?_⟩,
    ⟨b', goRan, received', lost', gifts', kept', fun same => ?_⟩⟩
  · exact lost (same.items ▸ kept)
  · exact lost' (same.items ▸ kept')

end Kps
