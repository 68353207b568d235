/-
**Decoders of a language.**

A language is a relation between messages and the values they carry. A decoder of it accepts the
messages of the language and nothing else, and reads each as a view of the value it carries.

* `Decodes.cases` — what a decoder says of a message;
* `Decodes.agree_iff` — two decoders of one language say the same of a message when their views of
  what it carries coincide.
-/

import Mathlib.Logic.Basic

namespace Kps.Lib

variable {β ω φ ψ σ ε ε' : Type*}

/-- `parse` accepts the messages of the language, and reads each as the view of what it carries. -/
def Decodes (Message : β → ω → Prop) (parse : β → Except ε φ) (view : ω → φ) : Prop :=
  ∀ data value, parse data = .ok value ↔ ∃ carried, Message data carried ∧ value = view carried

/-- What a decoder makes of a message, as its caller sees it. -/
def surfaced (parse : β → Except ε φ) (surface : φ → σ) (data : β) : Option σ :=
  (parse data).toOption.map surface

namespace Decodes

variable {Message : β → ω → Prop} {parse : β → Except ε φ} {view : ω → φ} {data : β}

theorem accepts_iff (decodes : Decodes Message parse view) :
    (∃ value, parse data = .ok value) ↔ ∃ carried, Message data carried := by
  constructor
  · rintro ⟨value, parsed⟩
    obtain ⟨carried, message, -⟩ := (decodes data value).mp parsed
    exact ⟨carried, message⟩
  · rintro ⟨carried, message⟩
    exact ⟨view carried, (decodes data _).mpr ⟨carried, message, rfl⟩⟩

/-- What a decoder says of a message of the language. -/
theorem surfaced_of_message (decodes : Decodes Message parse view) (surface : φ → σ) {carried : ω}
    (message : Message data carried) : surfaced parse surface data =
      some (surface (view carried)) := by
  unfold surfaced
  rw [(decodes data (view carried)).mpr ⟨carried, message, rfl⟩]
  rfl

/-- It rejects everything else. -/
theorem surfaced_of_not_message (decodes : Decodes Message parse view) (surface : φ → σ)
    (foreign : ∀ carried, ¬ Message data carried) : surfaced parse surface data = none := by
  unfold surfaced
  cases parsed : parse data with
  | error text => rfl
  | ok value =>
    obtain ⟨carried, message, -⟩ := (decodes data value).mp parsed
    exact absurd message (foreign carried)

/-- Two decoders of one language agree on a message when they agree on what it carries. -/
theorem agree_iff {parse' : β → Except ε' ψ} {view' : ω → ψ}
    (decodes : Decodes Message parse view) (decodes' : Decodes Message parse' view')
    (surface : φ → σ) (surface' : ψ → σ) :
    surfaced parse surface data = surfaced parse' surface' data ↔
      ∀ carried, Message data carried → surface (view carried) = surface' (view' carried) := by
  constructor
  · intro same carried message
    rw [decodes.surfaced_of_message surface message,
      decodes'.surfaced_of_message surface' message] at same
    exact Option.some.inj same
  · intro same
    by_cases known : ∃ carried, Message data carried
    · obtain ⟨carried, message⟩ := known
      rw [decodes.surfaced_of_message surface message,
        decodes'.surfaced_of_message surface' message, same carried message]
    · have foreign : ∀ carried, ¬ Message data carried := fun carried message =>
        known ⟨carried, message⟩
      rw [decodes.surfaced_of_not_message surface foreign,
        decodes'.surfaced_of_not_message surface' foreign]

end Decodes

end Kps.Lib
