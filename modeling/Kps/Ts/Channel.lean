/-
**The data-channel surface the engine is written against** (`channel.ts`) and the engine's
`Wakeable`.

A `Channel` is one end of a data channel: whether it has opened, whether it has left the open state,
how much is queued in the transport, and every message handed to it. `send` follows the interface:
it throws exactly when the channel is not open.
-/

import Kps.Ts.Control

namespace Kps.Ts

open Kps.Lib

/-- The encoding of a message type. -/
class Wire (μ : Type) where
  encode : μ → Bytes

instance : Wire Frame := ⟨encodeFrame⟩

instance : Wire ControlMsg := ⟨encodeControl⟩

/-- One end of a data channel. `sent` holds the messages handed to the transport, in order; the
bytes handed over are their encodings. -/
structure Channel (μ : Type) where
  opened : Bool := false
  closed : Bool := false
  bufferedAmount : Nat := 0
  sent : List μ := []

namespace Channel

variable {μ : Type}

def isOpen (ch : Channel μ) : Bool := ch.opened && !ch.closed

/-- Hand one message to the transport; `none` when it throws. -/
def send [Wire μ] (message : μ) (ch : Channel μ) : Option (Channel μ) :=
  if ch.isOpen then
    some { ch with
      sent := ch.sent ++ [message]
      bufferedAmount := ch.bufferedAmount + (Wire.encode message).length }
  else none

/-- The guarded send of the source, `if (ch.isOpen()) ch.send(message)`. -/
def sendIfOpen [Wire μ] (message : μ) (ch : Channel μ) : Channel μ := (ch.send message).getD ch

/-- The guarded send of a message that may be absent. -/
def sendOption [Wire μ] (message : Option μ) (ch : Channel μ) : Channel μ :=
  match message with
  | none => ch
  | some message => ch.sendIfOpen message

def close (ch : Channel μ) : Channel μ := { ch with closed := true }

variable [Wire μ] {ch ch' : Channel μ} {message : μ}

theorem send_of_isOpen (isOpen : ch.isOpen = true) :
    ch.send message = some { ch with
      sent := ch.sent ++ [message]
      bufferedAmount := ch.bufferedAmount + (Wire.encode message).length } := if_pos isOpen

theorem isOpen_of_send (sent : ch.send message = some ch') : ch.isOpen = true := by
  unfold send at sent
  split at sent
  · assumption
  · cases sent

theorem eq_of_send (sent : ch.send message = some ch') :
    ch' = { ch with
      sent := ch.sent ++ [message]
      bufferedAmount := ch.bufferedAmount + (Wire.encode message).length } := by
  rw [send_of_isOpen (isOpen_of_send sent)] at sent
  exact (Option.some.inj sent).symm

@[simp] theorem opened_sendIfOpen : (ch.sendIfOpen message).opened = ch.opened := by
  unfold sendIfOpen send
  split <;> rfl

@[simp] theorem closed_sendIfOpen : (ch.sendIfOpen message).closed = ch.closed := by
  unfold sendIfOpen send
  split <;> rfl

@[simp] theorem isOpen_sendIfOpen : (ch.sendIfOpen message).isOpen = ch.isOpen := by
  simp [isOpen]

theorem sent_sendIfOpen :
    (ch.sendIfOpen message).sent = if ch.isOpen then ch.sent ++ [message] else ch.sent := by
  unfold sendIfOpen send
  split <;> rfl

theorem sent_sendIfOpen_of_isOpen (isOpen : ch.isOpen = true) :
    (ch.sendIfOpen message).sent = ch.sent ++ [message] := by
  rw [sent_sendIfOpen, if_pos isOpen]

theorem sendIfOpen_of_not_isOpen (shut : ch.isOpen = false) : ch.sendIfOpen message = ch := by
  simp [sendIfOpen, send, shut]

theorem amount_sendIfOpen : ch.bufferedAmount ≤ (ch.sendIfOpen message).bufferedAmount := by
  unfold sendIfOpen send
  split
  · exact Nat.le_add_right _ _
  · exact Nat.le_refl _

theorem prefix_sendIfOpen : ch.sent <+: (ch.sendIfOpen message).sent := by
  rw [sent_sendIfOpen]
  split
  · exact List.prefix_append _ _
  · exact List.prefix_refl _

@[simp] theorem opened_sendOption {message : Option μ} :
    (ch.sendOption message).opened = ch.opened := by
  cases message with
  | none => rfl
  | some message => exact opened_sendIfOpen

@[simp] theorem closed_sendOption {message : Option μ} :
    (ch.sendOption message).closed = ch.closed := by
  cases message with
  | none => rfl
  | some message => exact closed_sendIfOpen

theorem sent_sendOption {message : Option μ} :
    (ch.sendOption message).sent = if ch.isOpen then ch.sent ++ message.toList else ch.sent := by
  cases message with
  | none => simp [sendOption]
  | some message => exact sent_sendIfOpen

end Channel

/-- The engine's `Wakeable`, as the number of `wake` calls so far. A waiter takes the number at its
`wait` as its ticket and is resumed by the next `wake`. -/
structure Wakeable where
  wakes : Nat := 0

namespace Wakeable

def wake (w : Wakeable) : Wakeable := ⟨w.wakes + 1⟩

/-- The ticket of a waiter that starts waiting now. -/
def wait (w : Wakeable) : Nat := w.wakes

/-- A `wake` came after the ticket was taken. -/
def resolved (w : Wakeable) (ticket : Nat) : Bool := decide (ticket < w.wakes)

theorem resolved_wake {w : Wakeable} {ticket : Nat} (early : ticket ≤ w.wakes) :
    w.wake.resolved ticket = true := decide_eq_true (Nat.lt_succ_of_le early)

end Wakeable

end Kps.Ts
