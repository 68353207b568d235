/-
**A stream between two implementations.**

The messages one implementation hands to a channel are given to another, in order and whenever they
arrive; in between, the two applications, their tasks and everything else at both ends may do
anything.

* `streams_interoperate` — whichever implementation reads, it returns the bytes that were written,
  in order, as long as it finds no violation, and once it finds the end it has returned all that a
  write was told of as accepted.

The writers are the Rust and the TypeScript stream. A Go stream is no writer in every run: a FIN may
overtake DATA.
-/

import Kps.Go.EndOfStream
import Kps.Rust.EndOfStream
import Kps.Ts.WireStream

namespace Kps

open Kps.Lib

/-- The end that writes. -/
inductive WritingEnd
  | rust (flow : Rust.ConnFlow) (peerInitiated isOpen : Bool)
  /-- Stream `k` of an engine. -/
  | ts (limits : Ts.FlowLimits) (controlOpen : Bool) (k : Nat)

/-- The end that reads. -/
inductive ReadingEnd
  | rust (flow : Rust.ConnFlow) (peerInitiated isOpen : Bool)
  | go (limits : Go.FlowWindows) (isOpen : Bool)
  | ts (limits : Ts.FlowLimits) (controlOpen : Bool) (k : Nat)

def WritingEnd.writer : WritingEnd → Wire.Writer
  | .rust flow peerInitiated isOpen => Rust.WebrtcStream.writer flow peerInitiated isOpen
  | .ts limits controlOpen k => Ts.Engine.writer limits controlOpen k

def ReadingEnd.reader : ReadingEnd → Wire.Reader
  | .rust flow peerInitiated isOpen => Rust.WebrtcStream.reader flow peerInitiated isOpen
  | .go limits isOpen => Go.WebrtcStream.reader limits isOpen
  | .ts limits controlOpen k => Ts.Engine.reader limits controlOpen k

/-- **A stream between any two implementations is one stream of bytes.** -/
theorem streams_interoperate (writing : WritingEnd) (reading : ReadingEnd)
    {labels : List (LinkLabel writing.writer.Label reading.reader.Label)}
    {link : Link writing.writer.State reading.reader.State}
    (ran :
      Lib.run (writing.writer.ends reading.reader).step ⟨writing.writer.start, reading.reader.start,
        0⟩ labels =
      some link) (clean : reading.reader.clean link.receiver) :
    Wire.Transports (writing.writer.written link.sender) (writing.writer.accepted link.sender)
      (reading.reader.returned link.receiver) (reading.reader.ended link.receiver) :=
  writing.writer.linked reading.reader ran clean

/-- A Rust stream writes two bytes and shuts down; a Go stream reads to the end. -/
def rustToGo : List (LinkLabel Rust.WebrtcStream.Label Go.WebrtcStream.Label) :=
  Rust.WebrtcStream.writeThenShutdown.map .send ++
    [.deliver, .receive (.run 0), .receive (.run 0), .receive (.run 0), .receive (.call (.read 8)),
      .receive (.run 1),
      .receive (.run 1), .receive (.run 1), .deliver, .receive (.run 0), .receive (.run 0),
      .receive (.call (.read 8)), .receive (.run 2)]

/-- The bytes were returned, EOF was found, and nothing is left to run. -/
def ReadToEnd (t : Go.WebrtcStream.Goroutines) : Prop :=
  t.shared.returned = [1, 2] ∧ .eof ∈ t.shared.reads ∧ t.shared.fatals = [] ∧ t.pending = [] ∧
    t.shared.readCancel = false

instance (t : Go.WebrtcStream.Goroutines) : Decidable (ReadToEnd t) :=
  inferInstanceAs (Decidable (_ ∧ _))

theorem streams_interoperate_rustToGo :
    ∃ link : Link Rust.WebrtcStream.Tasks Go.WebrtcStream.Goroutines,
      Lib.run (((WritingEnd.rust Rust.WebrtcStream.granted true true).writer).ends
          (ReadingEnd.go Go.defaultFlowLimits true).reader).step
        ⟨Rust.WebrtcStream.start Rust.WebrtcStream.granted true true,
          Go.WebrtcStream.start Go.defaultFlowLimits true, 0⟩ rustToGo = some link ∧
      ReadToEnd link.receiver ∧
      Wire.Transports link.sender.shared.acceptedBytes link.sender.shared.acceptedBytes
        link.receiver.shared.returned
        (.eof ∈ link.receiver.shared.reads) := by
  have whole : (Lib.run (((WritingEnd.rust Rust.WebrtcStream.granted true true).writer).ends
        (ReadingEnd.go Go.defaultFlowLimits true).reader).step
      ⟨Rust.WebrtcStream.start Rust.WebrtcStream.granted true true,
        Go.WebrtcStream.start Go.defaultFlowLimits true, 0⟩
      rustToGo).any
        (fun link : Link Rust.WebrtcStream.Tasks Go.WebrtcStream.Goroutines =>
          ReadToEnd link.receiver) =
      true := by decide +kernel
  obtain ⟨link, ran, told⟩ := (Option.any_eq_true _ _).mp whole
  have told : ReadToEnd link.receiver := of_decide_eq_true told
  obtain ⟨-, -, fatals, rest, reading⟩ := id told
  have clean : Go.WebrtcStream.Clean link.receiver :=
    ⟨fatals, fun code text member => List.not_mem_nil (rest ▸ member), reading⟩
  exact ⟨link, ran, told, streams_interoperate (.rust Rust.WebrtcStream.granted true true)
    (.go Go.defaultFlowLimits true) ran clean⟩

end Kps
