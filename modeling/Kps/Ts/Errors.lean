/-
**The error model of the TypeScript packages** (`errors.ts`, and the code table of `framing.ts`).

`codeToNum` and `numToCode` map the registry to wire integers; every integer outside the registry
reads as `internal-error`, and `0` as no code (`numToCode_codeToNum`, `numToCode_of_gt`).
-/

import Mathlib.Data.Option.Basic

namespace Kps.Ts

/-- The canonical reset, cancel and close codes. -/
inductive KpsErrorCode
  | cancelled
  | closed
  | reset
  | timeout
  | networkError
  | protocolError
  | unsupported
  | tooLarge
  | queueFull
  | permissionDenied
  | internalError
  deriving DecidableEq, Repr

/-- The string the public API uses for a code. -/
def KpsErrorCode.name : KpsErrorCode → String
  | cancelled => "cancelled"
  | closed => "closed"
  | reset => "reset"
  | timeout => "timeout"
  | networkError => "network-error"
  | protocolError => "protocol-error"
  | unsupported => "unsupported"
  | tooLarge => "too-large"
  | queueFull => "queue-full"
  | permissionDenied => "permission-denied"
  | internalError => "internal-error"

/-- A close, reset or cancel reason. -/
structure KpsReason where
  code : Option KpsErrorCode := none
  message : Option String := none
  deriving DecidableEq, Repr

/-- A thrown `Error`; `code` is the property `streamError` attaches. -/
structure KpsError where
  message : String
  code : Option KpsErrorCode := none
  deriving DecidableEq, Repr

/-- The `Error` that surfaces a reason. -/
def streamError (reason : KpsReason) : KpsError where
  message := reason.message.getD
    ("kps: stream " ++ ((reason.code.map KpsErrorCode.name).getD "reset"))
  code := reason.code

/-- The wire integer of a code, `CODE_TO_NUM`. -/
def KpsErrorCode.toNum : KpsErrorCode → Nat
  | cancelled => 1
  | closed => 2
  | reset => 3
  | timeout => 4
  | networkError => 5
  | protocolError => 6
  | unsupported => 7
  | tooLarge => 8
  | queueFull => 9
  | permissionDenied => 10
  | internalError => 11

def codeToNum (code : Option KpsErrorCode) : Nat :=
  match code with
  | some code => code.toNum
  | none => 0

/-- The code of a wire integer: none for `0`, `internal-error` outside the registry. -/
def numToCode : Nat → Option KpsErrorCode
  | 0 => none
  | 1 => some .cancelled
  | 2 => some .closed
  | 3 => some .reset
  | 4 => some .timeout
  | 5 => some .networkError
  | 6 => some .protocolError
  | 7 => some .unsupported
  | 8 => some .tooLarge
  | 9 => some .queueFull
  | 10 => some .permissionDenied
  | _ => some .internalError

@[simp] theorem numToCode_codeToNum (code : Option KpsErrorCode) :
    numToCode (codeToNum code) = code := by
  cases code with
  | none => rfl
  | some code => cases code <;> rfl

theorem numToCode_of_gt {n : Nat} (outside : 11 < n) : numToCode n = some .internalError := by
  match n, outside with
  | n + 12, _ => rfl

theorem codeToNum_le (code : Option KpsErrorCode) : codeToNum code ≤ 11 := by
  cases code with
  | none => decide
  | some code => cases code <;> decide

end Kps.Ts
