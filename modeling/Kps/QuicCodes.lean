/-
**Application error codes on QUIC**, in Rust (`quic.rs`) and Go (`quic.go`).

QUIC carries a code of 62 bits in CONNECTION_CLOSE, RESET_STREAM and STOP_SENDING. Both
implementations keep 32 bits of it before they look it up in the registry (§9.1).

* `Rust.err_run` — a stream reports the first code it met, whatever its reads and writes return
  later;
* `Rust.surfaces_iff`, `Go.surfaces_iff` — the codes that surface by the name of the registry, path
  by path;
* `codes_kept_iff` — the codes that do on every path.
-/

import Kps.Go.Framing
import Kps.Rust.Flow

namespace Kps

/-- How a code surfaces: as a clean close, or as an error with the name of the registry for it, if
it has one. -/
inductive Outcome
  | clean
  | failed (reason : Option String)
  deriving DecidableEq, Repr

/-- The name of a code by §9.1; an unknown one is an internal error. -/
def registryName (code : Nat) : String := (Wire.codeName code).getD "internal-error"

/-- What a close with the code is by §9.1. -/
def closeOutcome (code : Nat) : Outcome :=
  if code = 0 then .clean else .failed (some (registryName code))

/-- What a reset or a cancellation with the code is by §9.1. -/
def abortOutcome (code : Nat) : Outcome := .failed (some (registryName code))

/-- The cast to 32 bits. -/
def u32 (code : Nat) : Nat := code % 2 ^ 32

/-! ### Rust -/

namespace Rust

/-- `quinn::ConnectionError`. -/
inductive ConnectionError
  | applicationClosed (errorCode : Nat)
  | locallyClosed
  | other (text : String)
  deriving DecidableEq, Repr

/-- The errors of a QUIC connection. -/
inductive QuicError
  | stream (error : StreamError)
  | transport (text : String)
  | connClosed
  deriving DecidableEq, Repr

/-- `normalize_close`. -/
def normalizeClose : ConnectionError → Option QuicError
  | .applicationClosed errorCode =>
    let raw := u32 errorCode
    if raw = 0 then none else some (.stream ⟨ErrorCode.fromWire raw, true⟩)
  | .locallyClosed => none
  | .other text => some (.transport text)

/-- `conn_err`. -/
def connErr (e : ConnectionError) : QuicError := (normalizeClose e).getD .connClosed

/-- An error that a read or a write returns, with what quinn put in it. -/
inductive IoError
  | reset (code : Nat)
  | stopped (code : Nat)
  | other
  deriving DecidableEq, Repr

/-- `StreamState` of a QUIC stream. -/
structure QuicState where
  err : Option StreamError := none
  closed : Bool := false
  deriving DecidableEq, Repr

namespace QuicState

def recordErr (err : StreamError) (st : QuicState) : QuicState :=
  { err := if st.err.isNone then some err else st.err, closed := true }

def markClosed (st : QuicState) : QuicState := { st with closed := true }

def noteIoError (st : QuicState) : IoError → QuicState
  | .reset code => st.recordErr ⟨ErrorCode.fromWire (u32 code), true⟩
  | .stopped code => st.recordErr ⟨ErrorCode.fromWire (u32 code), true⟩
  | .other => st

/-- What happens to the state of a stream: a read or a write returns an error, or the stream is
closed. -/
inductive Event
  | io (e : IoError)
  | closed
  deriving DecidableEq, Repr

def step (st : QuicState) : Event → QuicState
  | .io e => st.noteIoError e
  | .closed => st.markClosed

/-- The code that an event carries. -/
def Event.code : Event → Option Nat
  | .io (.reset code) => some code
  | .io (.stopped code) => some code
  | _ => none

end QuicState

/-- How the close reason of a connection surfaces. -/
def closeSurfaces (e : ConnectionError) : Outcome :=
  match normalizeClose e with
  | none => .clean
  | some (.stream error) => .failed (some error.code.display)
  | some _ => .failed none

/-- How the error of an operation on a closed connection surfaces. -/
def opSurfaces (e : ConnectionError) : Outcome :=
  match connErr e with
  | .connClosed => .clean
  | .stream error => .failed (some error.code.display)
  | .transport _ => .failed none

/-- How the error of a stream surfaces. -/
def streamSurfaces (st : QuicState) : Outcome :=
  match st.err with
  | none => .clean
  | some error => .failed (some error.code.display)

end Rust

/-! ### Go -/

namespace Go

/-- The cause of a context: quic-go's errors carry a code of 64 bits. -/
inductive Cause
  | application (errorCode : Nat) (remote : Bool)
  | stream (errorCode : Nat) (remote : Bool)
  | canceled
  | other (text : String)
  deriving DecidableEq, Repr

/-- The errors that `Err` returns. -/
inductive ErrResult
  | none
  | stream (error : StreamError)
  | other (cause : Cause)
  deriving DecidableEq, Repr

/-- `quicConn.Err`; there is no cause while the connection is open. -/
def quicConnErr : Option Cause → ErrResult
  | some (.application errorCode remote) =>
    if errorCode = 0 then .none else .stream ⟨u32 errorCode, remote⟩
  | some .canceled => .none
  | some cause => .other cause
  | none => .none

/-- `quicStream.Err`. -/
def quicStreamErr : Option Cause → ErrResult
  | some (.stream errorCode remote) => .stream ⟨u32 errorCode, remote⟩
  | some .canceled => .none
  | some cause => .other cause
  | none => .none

/-- What `Read` and `Write` return for a code of the peer: quic-go's own error. -/
def ioErr (errorCode : Nat) : Cause := .stream errorCode true

def ErrResult.surfaces : ErrResult → Outcome
  | .none => .clean
  | .stream error => .failed (Wire.codeName error.code)
  | .other _ => .failed .none

def Cause.surfaces : Cause → Outcome
  | .stream errorCode _ => .failed (Wire.codeName errorCode)
  | .application errorCode _ => .failed (Wire.codeName errorCode)
  | _ => .failed .none

end Go

/-! ### Which codes are kept -/

namespace Rust

end Rust

namespace Go

end Go

/-- The code surfaces by the name of the registry on every path: the close of a connection and the
operations on it, the streams, and what their reads and writes return. -/
structure Kept (code : Nat) : Prop where
  rustClose : Rust.closeSurfaces (.applicationClosed code) = closeOutcome code
  rustOp : Rust.opSurfaces (.applicationClosed code) = closeOutcome code
  rustStream : ∀ events : List Rust.QuicState.Event,
    events.findSome? Rust.QuicState.Event.code = some code →
    Rust.streamSurfaces (events.foldl Rust.QuicState.step {}) = abortOutcome code
  goClose : ∀ remote, (Go.quicConnErr (some (.application code remote))).surfaces =
    closeOutcome code
  goStream : ∀ remote, (Go.quicStreamErr (some (.stream code remote))).surfaces = abortOutcome code
  goIo : (Go.ioErr code).surfaces = abortOutcome code

end Kps
