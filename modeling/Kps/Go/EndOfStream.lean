/-
**A Go stream as a reader.**

The goroutine of the channel handles one message at a time, each in up to three sections, while
`Read` takes from the buffer. As long as no frame is rejected and nothing marks the read half, the
bytes that `Read` returned, those in the buffer and those the goroutine is at are the bytes that
arrived.

* `exec_hears` — what a section does to the read half;
* `HearInv.step` — so the bytes are in order, and EOF is found after a FIN with nothing left;
* `reader` — and a stream is a reader, until its read half is marked.
-/

import Kps.Go.CancelRead
import Kps.Wire.Stream

namespace Kps.Go

open Kps.Lib

/-- The payload of a DATA frame. -/
def payloadOf (data : Bytes) : Bytes :=
  match parseFrame data with
  | .ok f => if f.typ = .frameData then f.payload else []
  | .error _ => []

/-- The message is a FIN. -/
def IsFin (data : Bytes) : Prop := ∃ f, parseFrame data = .ok f ∧ f.typ = .frameFin

theorem parseFrame_of_message {data : Bytes} {frame : Wire.Frame}
    (message : Wire.FrameMessage data frame) :
    parseFrame data = .ok (.ofWire frame) :=
  (parseFrame_decodes data _).mpr ⟨frame, message, rfl⟩

theorem payloadOf_message {data : Bytes} {frame : Wire.Frame}
    (message : Wire.FrameMessage data frame) :
    payloadOf data = frame.payload := by
  unfold payloadOf
  rw [parseFrame_of_message message]
  cases frame <;> rfl

theorem fin_of_message {data : Bytes} {frame : Wire.Frame} (message : Wire.FrameMessage data frame)
    (fin : IsFin data) : frame = .fin := by
  obtain ⟨f, parsed, typ⟩ := fin
  rw [parseFrame_of_message message] at parsed
  rw [← Except.ok.inj parsed] at typ
  cases frame <;> first | rfl | cases typ

theorem message_of_fin {data : Bytes} (fin : IsFin data) : Wire.FrameMessage data .fin := by
  obtain ⟨f, parsed, typ⟩ := fin
  obtain ⟨frame, message, rfl⟩ := (parseFrame_decodes data f).mp parsed
  rwa [fin_of_message message ⟨_, parsed, typ⟩] at message

theorem flatMap_payloadOf {messages : List Bytes} {frames : List Wire.Frame}
    (each : List.Forall₂ Wire.FrameMessage messages frames) :
    messages.flatMap payloadOf = Wire.payload frames := by
  induction each with
  | nil => rfl
  | cons message _ ih =>
    rw [List.flatMap_cons, payloadOf_message message, ih]
    rfl

/-- The payload the goroutine of the channel is at. -/
def StreamSection.arriving : Option StreamSection → Bytes
  | some (.onFrame data) => payloadOf data
  | some (.onDataReceived payload _) => payload
  | some (.appendData payload) => payload
  | _ => []

namespace WebrtcStream

/-- The bytes that `Read` returned. -/
def returned (s : WebrtcStream) : Bytes :=
  s.reads.flatMap fun
    | .bytes data => data
    | _ => []

/-- What the read half is made of, but for the results of `Read`. -/
def hearing (s : WebrtcStream) :
    Bytes × Bool × Option ErrorCode × Bool × List (ErrorCode × String) :=
  (s.inbuf, s.peerFin, s.peerReset, s.readCancel, s.fatals)

/-- No section of the list handles a message. -/
def Deaf (sections : List StreamSection) : Prop := ∀ op ∈ sections, op.handles = false

/-- What a section does to the read half. -/
inductive Hears (s : WebrtcStream) : StreamSection → Effect WebrtcStream StreamSection → Prop
  | leaves {op e} (same : e.shared.hearing = s.hearing) (reads : e.shared.reads = s.reads)
    (next : Deaf e.next)
    (own : op.handles = false) : Hears s op e
  | faults {code text e} (reads : e.shared.reads = s.reads) (next : e.next = [])
    (fatals : e.shared.fatals ≠ [])
    (hearing : (e.shared.inbuf, e.shared.peerFin, e.shared.peerReset) =
      (s.inbuf, s.peerFin, s.peerReset)) : Hears s (.fatal code text) e
  | refuses {op e code text} (same : e.shared = s) (next : e.next = [.fatal code text]) :
    Hears s op e
  | checks {data payload e} (same : e.shared = s)
    (next : e.next = [.onDataReceived payload s.readCancel])
    (carried : payload = payloadOf data) (unended : s.peerEnded = false) : Hears s (.onFrame data) e
  | finds {data e} (same : e.shared = { s with peerFin := true }) (next : e.next = [.maybeRetire])
    (fin : IsFin data) (unended : s.peerEnded = false) (nothing : payloadOf data = []) :
      Hears s (.onFrame data) e
  | resets {data e code} (same : e.shared = { s with peerReset := some code, inbuf := [] })
    (next : Deaf e.next)
    (unended : s.peerEnded = false) (nothing : payloadOf data = []) : Hears s (.onFrame data) e
  | ignores {data e} (same : e.shared.hearing = s.hearing) (reads : e.shared.reads = s.reads)
    (next : Deaf e.next)
    (nothing : payloadOf data = []) : Hears s (.onFrame data) e
  | accepts {payload cancelled e} (same : e.shared.hearing = s.hearing)
    (reads : e.shared.reads = s.reads)
    (next :
      e.next = if cancelled then [.onConsumed (UInt64.ofNat payload.length)]
      else [.appendData payload]) :
    Hears s (.onDataReceived payload cancelled) e
  | appends {payload e} (same : e.shared = { s with inbuf := s.inbuf ++ payload })
    (next : e.next = []) :
    Hears s (.appendData payload) e
  | cancels {op e}
    (same : (e.shared.peerFin, e.shared.peerReset, e.shared.fatals) =
      (s.peerFin, s.peerReset, s.fatals))
    (inbuf : e.shared.inbuf = []) (cancelled : e.shared.readCancel = true)
    (reads : e.shared.reads = s.reads)
    (next : Deaf e.next) (own : op.handles = false) : Hears s op e
  | returns {size e} (same : e.shared = { s with
      inbuf := s.inbuf.drop size
      reads := s.reads ++ [.bytes (s.inbuf.take size)] }) (next : Deaf e.next) :
        Hears s (.read size) e
  | tells {size e result} (same : e.shared = { s with reads := s.reads ++ [result] })
    (next : e.next = [])
    (silent : ∀ data, result = .bytes data → data = []) (eof : result = .eof →
      s.inbuf = [] ∧ s.peerReset = none ∧ s.peerFin = true) : Hears s (.read size) e

variable {s : WebrtcStream} {op : StreamSection} {e : Effect WebrtcStream StreamSection}

theorem deaf_nil : Deaf [] := fun _ member => absurd member List.not_mem_nil

theorem deaf_consumed (n : Nat) (last : List StreamSection) (deaf : Deaf last) :
    Deaf (consumed n ++ last) := by
  intro op member
  rcases List.mem_append.mp member with counted | behind
  · rw [mem_consumed counted]
    rfl
  · exact deaf op behind

/-- The effect of `andThen` of a section that leaves the read half. -/
theorem Hears.ofAndThen {s' : WebrtcStream} {next : List StreamSection}
    (ran : andThen next s' = some e) (same : s'.hearing = s.hearing) (reads : s'.reads = s.reads)
    (deaf : Deaf next := by simp [Deaf, StreamSection.handles])
    (own : op.handles = false := by rfl) : Hears s op e := by
  cases ran
  exact .leaves same reads deaf own

theorem Hears.refusing {code : ErrorCode} {text : String}
    (ran : andThen [.fatal code text] s = some e) :
    Hears s op e := by
  cases ran
  exact .refuses rfl rfl

theorem read_hears {size : Nat} (ran : s.read size = some e) : Hears s (.read size) e := by
  unfold read at ran
  split at ran
  · cases ran
    exact .tells rfl rfl (fun data same => by cases same; rfl) fun same => by cases same
  split at ran
  · cases ran
    exact .returns rfl (by simp [Deaf, StreamSection.handles])
  next empty =>
  split at ran
  · cases ran
    exact .tells rfl rfl (fun data same => by cases same) fun same => by cases same
  split at ran
  · cases ran
    exact .tells rfl rfl (fun data same => by cases same) fun same => by cases same
  next unreset =>
  split at ran
  · next fin =>
    cases ran
    exact .tells rfl rfl (fun data same => by cases same) fun _ => ⟨not_not.mp empty, unreset, fin⟩
  split at ran
  · cases ran
    exact .tells rfl rfl (fun data same => by cases same) fun same => by cases same
  · cases ran

theorem onFrame_hears {data : Bytes} (ran : s.onFrame data = some e) :
    Hears s (.onFrame data) e := by
  unfold onFrame at ran
  split at ran
  · exact .refusing ran
  · next f parsed =>
    have carried : payloadOf data = if f.typ = .frameData then f.payload else [] := by
      unfold payloadOf
      rw [parsed]
    split at ran
    · next typ =>
      split at ran
      · exact .refusing ran
      · next unended =>
        cases ran
        exact .checks rfl rfl (by rw [carried, if_pos typ]) (Bool.not_eq_true _ ▸ unended)
    · next typ =>
      split at ran
      · exact .refusing ran
      · next unended =>
        cases ran
        exact .finds rfl rfl ⟨f, parsed, typ⟩ (Bool.not_eq_true _ ▸ unended)
          (by rw [carried, if_neg (by simp [typ])])
    · next typ =>
      split at ran
      · exact .refusing ran
      · next unended =>
        cases ran
        refine .resets rfl (deaf_consumed _ _ ?_) (Bool.not_eq_true _ ▸ unended)
          (by rw [carried, if_neg (by simp [typ])])
        simp [Deaf, StreamSection.handles]
    · next typ =>
      have nothing : payloadOf data = [] := by rw [carried, if_neg (by simp [typ])]
      split at ran
      · cases ran
        exact .ignores rfl rfl deaf_nil nothing
      · dsimp only at ran
        split at ran <;> cases ran <;>
          exact .ignores rfl rfl (by simp [Deaf, StreamSection.handles]) nothing
    · next typ =>
      cases ran
      exact .ignores rfl rfl deaf_nil (by rw [carried, if_neg (by simp [typ])])

/-- **What a section does to the read half.** -/
theorem exec_hears (ran : s.exec op = some e) : Hears s op e := by
  cases op with
  | onFrame data => exact onFrame_hears ran
  | onDataReceived payload cancelled =>
    simp only [exec] at ran
    split at ran
    · exact .refusing ran
    · cases ran
      exact .accepts rfl rfl rfl
  | appendData payload =>
    cases ran
    exact .appends rfl rfl
  | fatal code text =>
    cases ran
    exact .faults rfl rfl (by simp) rfl
  | writeLoop p written =>
    simp only [exec, writeLoop] at ran
    split at ran
    · exact .ofAndThen ran rfl rfl
    · split at ran
      · exact .ofAndThen ran rfl rfl
      · exact .ofAndThen ran rfl rfl
      · cases ran
  | sendReserved chunk rest written =>
    simp only [exec, sendReserved] at ran
    split at ran
    · exact .ofAndThen ran rfl rfl
    split at ran
    · exact .ofAndThen ran rfl rfl
    split at ran
    · exact .ofAndThen ran rfl rfl
    split at ran
    · exact .ofAndThen ran rfl rfl
    · cases ran
  | cancelRead code =>
    simp only [exec] at ran
    split at ran
    · exact .ofAndThen ran rfl rfl
    · cases ran
      refine .cancels rfl rfl rfl rfl ?_ rfl
      rw [List.append_assoc, List.append_assoc]
      refine fun op member => ?_
      rcases List.mem_append.mp member with marks | later
      · rw [List.mem_singleton.mp marks]
        rfl
      · refine deaf_consumed _ _ ?_ op later
        split <;> simp [Deaf, StreamSection.handles]
  | onConsumed n =>
    cases ran
    refine .leaves rfl rfl (fun op member => ?_) rfl
    rcases List.mem_append.mp member with advertised | advertised
    · obtain ⟨v, -, rfl⟩ := Option.map_eq_some_iff.mp (Option.mem_toList.mp advertised)
      rfl
    · obtain ⟨v, -, rfl⟩ := Option.map_eq_some_iff.mp (Option.mem_toList.mp advertised)
      rfl
  | read size => exact read_hears ran
  | maybeRetire =>
    simp only [exec, maybeRetire] at ran
    split at ran
    · split at ran
      · split at ran <;> exact .ofAndThen ran rfl rfl
      · cases ran
        exact .leaves rfl rfl deaf_nil rfl
    · exact .ofAndThen ran rfl rfl
  | destroy =>
    cases ran
    refine .cancels rfl rfl rfl rfl (deaf_consumed _ _ ?_) rfl
    simp [Deaf, StreamSection.handles]
  | write p =>
    simp only [exec] at ran
    split at ran <;> first | exact .ofAndThen ran rfl rfl | cases ran
  | waitOpen terminal =>
    simp only [exec] at ran
    split at ran <;> first | exact .ofAndThen ran rfl rfl | cases ran
  | waitOpenStop code =>
    simp only [exec] at ran
    split at ran <;> first | exact .ofAndThen ran rfl rfl | cases ran
  | sendData chunk rest written =>
    simp only [exec] at ran
    split at ran <;> exact .ofAndThen ran rfl rfl
  | closeWrite =>
    simp only [exec] at ran
    split at ran <;> exact .ofAndThen ran rfl rfl
  | resetWrite code =>
    simp only [exec] at ran
    split at ran <;> exact .ofAndThen ran rfl rfl
  | policeClose wireComplete =>
    simp only [exec] at ran
    split at ran <;> exact .ofAndThen ran rfl rfl
  | _ => exact .ofAndThen ran rfl rfl

/-! ### Sections -/

/-- The section the goroutine of the channel is at, after a section of any goroutine. -/
def handlerAfter (op : StreamSection) (e : Effect WebrtcStream StreamSection)
    (handler : Option StreamSection) :
    Option StreamSection :=
  if op.handles then e.next.find? StreamSection.handles else handler

theorem handlerAfter_own {handler : Option StreamSection} (own : op.handles = false) :
    handlerAfter op e handler = handler := if_neg (by simp [own])

theorem handlerAfter_deaf {handler : Option StreamSection} (own : op.handles = true)
    (next : Deaf e.next) :
    handlerAfter op e handler = none := by
  unfold handlerAfter
  rw [if_pos own]
  exact List.find?_eq_none.mpr fun other member => by simp [next other member]

theorem Hears.once (hears : Hears s op e) :
    e.next.countP StreamSection.handles ≤ if op.handles then 1 else 0 := by
  have deaf {sections : List StreamSection} (next : Deaf sections) {n : Nat} :
      sections.countP StreamSection.handles ≤ n := by
    rw [List.countP_eq_zero.mpr fun other member => by simp [next other member]]
    exact Nat.zero_le _
  have single {other : StreamSection} (next : e.next = [other]) (own : op.handles = true) :
      e.next.countP StreamSection.handles ≤ if op.handles then 1 else 0 := by
    rw [next, if_pos own]
    exact List.countP_le_length
  cases hears with
  | leaves _ _ next => exact deaf next
  | faults _ next =>
    rw [next]
    exact Nat.zero_le _
  | refuses _ next =>
    rw [next]
    exact Nat.zero_le _
  | checks _ next => exact single next rfl
  | finds _ next => exact single next rfl
  | resets _ next => exact deaf next
  | ignores _ _ next => exact deaf next
  | accepts _ _ next =>
    split at next
    · exact single next rfl
    · exact single next rfl
  | appends _ next =>
    rw [next]
    exact Nat.zero_le _
  | cancels _ _ _ _ next => exact deaf next
  | returns _ next => exact deaf next
  | tells _ next =>
    rw [next]
    exact Nat.zero_le _

/-- The goroutine has a payload that is past the first check. -/
def pushes : Option StreamSection → Bool
  | some (.onDataReceived ..) => true
  | some (.appendData _) => true
  | _ => false

/-- A mark, a FIN, a RESET and a fault are not taken back. -/
structure Lasting (s s' : WebrtcStream) : Prop where
  cancel : s'.readCancel = false → s.readCancel = false
  fin : s.peerFin = true → s'.peerFin = true
  reset : s.peerReset.isSome = true → s'.peerReset.isSome = true
  fatals : s'.fatals = [] → s.fatals = []

theorem Lasting.of_hearing {s' : WebrtcStream} (same : s'.hearing = s.hearing) : Lasting s s' := by
  simp only [hearing, Prod.mk.injEq] at same
  obtain ⟨-, fin, reset, cancel, fatals⟩ := same
  exact ⟨fun now => cancel.symm.trans now, fun now => fin.trans now, fun now => by rw [reset, now],
    fun now => fatals.symm.trans now⟩

theorem exec_lasting (ran : s.exec op = some e) : Lasting s e.shared := by
  have hears := exec_hears ran
  cases hears with
  | leaves same => exact .of_hearing same
  | faults _ _ fatals hearing =>
    simp only [Prod.mk.injEq] at hearing
    cases ran
    exact ⟨id, id, id, fun now => absurd now fatals⟩
  | refuses same =>
    rw [same]
    exact ⟨id, id, id, id⟩
  | checks same =>
    rw [same]
    exact ⟨id, id, id, id⟩
  | finds same =>
    rw [same]
    exact ⟨id, fun _ => rfl, id, id⟩
  | resets same =>
    rw [same]
    exact ⟨id, id, fun _ => rfl, id⟩
  | ignores same => exact .of_hearing same
  | accepts same => exact .of_hearing same
  | appends same =>
    rw [same]
    exact ⟨id, id, id, id⟩
  | cancels same _ cancelled =>
    simp only [Prod.mk.injEq] at same
    obtain ⟨fin, reset, fatals⟩ := same
    refine ⟨fun now => ?_, fun now => fin.trans now, fun now => by rw [reset, now],
      fun now => fatals.symm.trans now⟩
    rw [cancelled] at now
    cases now
  | returns same =>
    rw [same]
    exact ⟨id, id, id, id⟩
  | tells same =>
    rw [same]
    exact ⟨id, id, id, id⟩

theorem returned_congr {s' : WebrtcStream} (reads : s'.reads = s.reads) :
    s'.returned = s.returned := by
  unfold returned
  rw [reads]

theorem returned_tells {s' : WebrtcStream} {result : ReadResult}
    (same : s' = { s with reads := s.reads ++ [result] })
    (silent : ∀ data, result = .bytes data → data = []) : s'.returned = s.returned := by
  subst same
  unfold returned
  rw [List.flatMap_append, List.flatMap_singleton]
  cases result with
  | bytes data =>
    rw [silent data rfl]
    exact List.append_nil _
  | _ => exact List.append_nil _

/-- **A section keeps the bytes in order**, if it neither rejects a frame nor marks nor resets the
read half. -/
theorem Hears.kept (hears : Hears s op e) {handler : Option StreamSection}
    (at' : op.handles = true → handler = some op)
    (checked : ∀ payload, handler = some (.onDataReceived payload true) → s.readCancel = true)
    (fatals : e.shared.fatals = []) (quiet : ∀ code text, .fatal code text ∉ e.next)
    (reading : e.shared.readCancel = false) (unreset : e.shared.peerReset = none) :
    e.shared.returned ++ e.shared.inbuf ++ StreamSection.arriving (handlerAfter op e handler) =
      s.returned ++ s.inbuf ++ StreamSection.arriving handler := by
  cases hears with
  | leaves same reads _ own =>
    simp only [hearing, Prod.mk.injEq] at same
    rw [handlerAfter_own own, returned_congr reads, same.1]
  | faults _ _ faulty => exact absurd fatals faulty
  | @refuses _ _ code text _ next => exact absurd (next ▸ List.mem_cons_self) (quiet code text)
  | @checks data payload _ same next carried =>
    cases at' rfl
    have handler : handlerAfter (.onFrame data) e (some (.onFrame data)) =
        some (.onDataReceived payload s.readCancel) := by
      unfold handlerAfter
      rw [next]
      rfl
    rw [handler, same, carried]
    rfl
  | finds same next _ _ nothing =>
    cases at' rfl
    rw [handlerAfter_deaf rfl (by simp [next, Deaf, StreamSection.handles]), same]
    show s.returned ++ s.inbuf ++ [] = s.returned ++ s.inbuf ++ payloadOf _
    rw [nothing]
  | resets same =>
    rw [same] at unreset
    cases unreset
  | ignores same reads next nothing =>
    cases at' rfl
    simp only [hearing, Prod.mk.injEq] at same
    rw [handlerAfter_deaf rfl next, returned_congr reads, same.1]
    show s.returned ++ s.inbuf ++ [] = s.returned ++ s.inbuf ++ payloadOf _
    rw [nothing]
  | @accepts payload cancelled _ same reads next =>
    cases at' rfl
    simp only [hearing, Prod.mk.injEq] at same
    obtain ⟨inbuf, -, -, cancel, -⟩ := same
    cases cancelled with
    | true =>
      rw [cancel, checked payload rfl] at reading
      cases reading
    | false =>
      have handler : handlerAfter (.onDataReceived payload false) e
          (some (.onDataReceived payload false)) = some (.appendData payload) := by
        unfold handlerAfter
        rw [next]
        rfl
      rw [handler, returned_congr reads, inbuf]
      rfl
  | appends same next =>
    cases at' rfl
    rw [handlerAfter_deaf rfl (next ▸ deaf_nil), same]
    show s.returned ++ (s.inbuf ++ _) ++ [] = s.returned ++ s.inbuf ++ _
    rw [List.append_nil, List.append_assoc]
    rfl
  | cancels _ _ cancelled =>
    rw [cancelled] at reading
    cases reading
  | returns same =>
    rw [handlerAfter_own rfl, same]
    unfold returned
    rw [List.flatMap_append, List.flatMap_singleton]
    show s.returned ++ s.inbuf.take _ ++ s.inbuf.drop _ ++ _ = s.returned ++ s.inbuf ++ _
    rw [List.append_assoc s.returned, List.take_append_drop]
  | tells same _ silent =>
    rw [handlerAfter_own rfl, returned_tells same silent, same]

/-- Once the peer has reset the stream, nothing is buffered and nothing returned. -/
theorem Hears.lost (hears : Hears s op e) {handler : Option StreamSection}
    (at' : op.handles = true → handler = some op)
    (quiet : s.peerEnded = true → pushes handler = false)
    (before : s.peerReset.isSome = true → s.inbuf = []) (now : e.shared.peerReset.isSome = true) :
    e.shared.inbuf = [] ∧ e.shared.returned = s.returned := by
  have still (same : e.shared.hearing = s.hearing) (reads : e.shared.reads = s.reads) :
      e.shared.inbuf = [] ∧ e.shared.returned = s.returned := by
    simp only [hearing, Prod.mk.injEq] at same
    exact ⟨same.1.trans (before (same.2.2.1 ▸ now)), returned_congr reads⟩
  cases hears with
  | leaves same reads => exact still same reads
  | faults reads _ _ hearing =>
    simp only [Prod.mk.injEq] at hearing
    exact ⟨hearing.1.trans (before (hearing.2.2 ▸ now)), returned_congr reads⟩
  | refuses same =>
    rw [same] at now ⊢
    exact ⟨before now, rfl⟩
  | checks same =>
    rw [same] at now ⊢
    exact ⟨before now, rfl⟩
  | finds same =>
    rw [same] at now ⊢
    exact ⟨before now, rfl⟩
  | resets same =>
    rw [same]
    exact ⟨rfl, rfl⟩
  | ignores same reads => exact still same reads
  | accepts same reads => exact still same reads
  | appends same =>
    rw [same] at now
    have pushing := quiet (by simp only [peerEnded, Bool.or_eq_true]; exact Or.inr now)
    rw [at' rfl] at pushing
    cases pushing
  | cancels _ inbuf _ reads => exact ⟨inbuf, returned_congr reads⟩
  | returns same =>
    rw [same] at now ⊢
    rw [before now]
    unfold returned
    rw [List.flatMap_append, List.flatMap_singleton, List.take_nil, List.append_nil, List.drop_nil]
    exact ⟨rfl, rfl⟩
  | tells same _ silent =>
    refine ⟨?_, returned_tells same silent⟩
    rw [same] at now ⊢
    exact before now

/-- After EOF there is a FIN, no RESET, and nothing is buffered. -/
def AtEnd (s : WebrtcStream) : Prop :=
  .eof ∈ s.reads → s.peerFin = true ∧ s.peerReset = none ∧ s.inbuf = []

theorem Hears.atEnd (hears : Hears s op e) {handler : Option StreamSection}
    (at' : op.handles = true → handler = some op)
    (quiet : s.peerEnded = true → pushes handler = false)
    (before : AtEnd s) : AtEnd e.shared := by
  have still (same : e.shared.hearing = s.hearing) (reads : e.shared.reads = s.reads) :
      AtEnd e.shared := by
    simp only [hearing, Prod.mk.injEq] at same
    unfold AtEnd
    rw [reads, same.1, same.2.1, same.2.2.1]
    exact before
  cases hears with
  | leaves same reads => exact still same reads
  | faults reads _ _ hearing =>
    simp only [Prod.mk.injEq] at hearing
    unfold AtEnd
    rw [reads, hearing.1, hearing.2.1, hearing.2.2]
    exact before
  | refuses same =>
    rw [same]
    exact before
  | checks same =>
    rw [same]
    exact before
  | finds same =>
    rw [same]
    exact fun found => ⟨rfl, (before found).2⟩
  | resets same _ unended =>
    rw [same]
    intro found
    simp [peerEnded, (before found).1] at unended
  | ignores same reads => exact still same reads
  | accepts same reads => exact still same reads
  | appends same =>
    rw [same]
    intro found
    have pushing := quiet (by simp [peerEnded, (before found).1])
    rw [at' rfl] at pushing
    cases pushing
  | cancels same inbuf _ reads =>
    simp only [Prod.mk.injEq] at same
    unfold AtEnd
    rw [reads, same.1, same.2.1, inbuf]
    exact fun found => ⟨(before found).1, (before found).2.1, rfl⟩
  | returns same =>
    rw [same]
    intro found
    rcases List.mem_append.mp found with old | new
    · obtain ⟨fin, unreset, empty⟩ := before old
      exact ⟨fin, unreset, by rw [empty, List.drop_nil]⟩
    · cases List.mem_singleton.mp new
  | tells same _ _ eof =>
    rw [same]
    intro found
    rcases List.mem_append.mp found with old | new
    · exact before old
    · obtain ⟨empty, unreset, fin⟩ := eof (List.mem_singleton.mp new).symm
      exact ⟨fin, unreset, empty⟩

/-- After a FIN or RESET, no payload gets past the first check. -/
theorem Hears.quiet (hears : Hears s op e) {handler : Option StreamSection}
    (at' : op.handles = true → handler = some op)
    (quiet : s.peerEnded = true → pushes handler = false)
    (now : e.shared.peerEnded = true) : pushes (handlerAfter op e handler) = false := by
  have deaf (own : op.handles = true) (next : Deaf e.next) : pushes (handlerAfter op e handler) =
      false := by
    rw [handlerAfter_deaf own next]
    rfl
  have ended (same : e.shared.hearing = s.hearing) : e.shared.peerEnded = s.peerEnded := by
    simp only [hearing, Prod.mk.injEq] at same
    unfold peerEnded
    rw [same.2.1, same.2.2.1]
  cases hears with
  | leaves same _ _ own =>
    rw [handlerAfter_own own]
    exact quiet (ended same ▸ now)
  | faults _ _ _ hearing =>
    simp only [Prod.mk.injEq] at hearing
    rw [handlerAfter_own rfl]
    refine quiet ?_
    unfold peerEnded at now ⊢
    rwa [hearing.2.1, hearing.2.2] at now
  | refuses same next =>
    cases own : op.handles with
    | true => exact deaf own (by simp [next, Deaf, StreamSection.handles])
    | false =>
      rw [handlerAfter_own own]
      exact quiet (same ▸ now)
  | checks same _ _ unended =>
    rw [same, unended] at now
    cases now
  | finds _ next => exact deaf rfl (by simp [next, Deaf, StreamSection.handles])
  | resets _ next => exact deaf rfl next
  | ignores _ _ next => exact deaf rfl next
  | accepts same =>
    have pushing := quiet (ended same ▸ now)
    rw [at' rfl] at pushing
    cases pushing
  | appends _ next => exact deaf rfl (next ▸ deaf_nil)
  | cancels same _ _ _ _ own =>
    simp only [Prod.mk.injEq] at same
    rw [handlerAfter_own own]
    refine quiet ?_
    unfold peerEnded at now ⊢
    rwa [same.1, same.2.1] at now
  | returns same =>
    rw [handlerAfter_own rfl]
    rw [same] at now
    exact quiet now
  | tells same =>
    rw [handlerAfter_own rfl]
    rw [same] at now
    exact quiet now

/-- How the handler of a DATA frame goes on. -/
theorem Hears.follows (hears : Hears s op e) {other : StreamSection} (member : other ∈ e.next)
    (has : other.handles = true) :
    (∃ payload, other = .onDataReceived payload s.readCancel) ∨ ∃ payload,
      other = .appendData payload := by
  have deaf (next : Deaf e.next) : False := by
    have silent := next other member
    rw [has] at silent
    cases silent
  cases hears with
  | leaves _ _ next => exact (deaf next).elim
  | faults _ next =>
    rw [next] at member
    cases member
  | refuses _ next =>
    rw [next] at member
    rw [List.mem_singleton.mp member] at has
    cases has
  | checks _ next =>
    rw [next] at member
    exact Or.inl ⟨_, List.mem_singleton.mp member⟩
  | finds _ next =>
    rw [next] at member
    rw [List.mem_singleton.mp member] at has
    cases has
  | resets _ next => exact (deaf next).elim
  | ignores _ _ next => exact (deaf next).elim
  | accepts _ _ next =>
    rw [next] at member
    split at member
    · rw [List.mem_singleton.mp member] at has
      cases has
    · exact Or.inr ⟨_, List.mem_singleton.mp member⟩
  | appends _ next =>
    rw [next] at member
    cases member
  | cancels _ _ _ _ next => exact (deaf next).elim
  | returns _ next => exact (deaf next).elim
  | tells _ next =>
    rw [next] at member
    cases member

/-- `onFrame` is only called for a message. -/
theorem Hears.notOnFrame (hears : Hears s op e) {handler : Option StreamSection} {data : Bytes}
    (waits : handlerAfter op e handler = some (.onFrame data)) :
      handler = some (.onFrame data) := by
  unfold handlerAfter at waits
  split at waits
  · rcases hears.follows (List.mem_of_find?_eq_some waits) rfl with ⟨_, same⟩ | ⟨_, same⟩ <;>
      cases same
  · exact waits

/-- A payload that is to be counted only was found with the read half marked. -/
theorem Hears.checked (hears : Hears s op e) {handler : Option StreamSection} {payload : Bytes}
    (before : ∀ payload, handler = some (.onDataReceived payload true) → s.readCancel = true)
    (lasting : Lasting s e.shared)
    (waits : handlerAfter op e handler = some (.onDataReceived payload true)) :
    e.shared.readCancel = true := by
  have marked : s.readCancel = true := by
    unfold handlerAfter at waits
    split at waits
    · rcases hears.follows (List.mem_of_find?_eq_some waits) rfl with ⟨_, same⟩ | ⟨_, same⟩
      · exact (StreamSection.onDataReceived.inj same).2.symm
      · cases same
    · exact before payload waits
  by_contra cleared
  have unmarked := lasting.cancel (Bool.not_eq_true _ ▸ cleared)
  rw [marked] at unmarked
  cases unmarked

/-! ### Runs -/

variable {t t' : Goroutines} {label : Label} {messages : List Bytes}

/-- The message that arrives. -/
def arrival : Label → Option Bytes
  | .message data => some data
  | _ => none

/-- No frame was rejected, and none is about to be, and the read half is not marked. -/
structure Clean (t : Goroutines) : Prop where
  fatals : t.shared.fatals = []
  quiet : ∀ code text, .fatal code text ∉ t.pending
  reading : t.shared.readCancel = false

/-- The invariant of the read half, after these messages. -/
structure HearInv (messages : List Bytes) (t : Goroutines) : Prop where
  owned : t.Owned StreamSection.handles 0
  fin : t.shared.peerFin = true → ∃ data ∈ messages, IsFin data
  last : ∀ data, t.control StreamSection.handles = some (.onFrame data) → ∃ before,
    messages = before ++ [data]
  quiet : t.shared.peerEnded = true → pushes (t.control StreamSection.handles) = false
  checked : ∀ payload, t.control StreamSection.handles = some (.onDataReceived payload true) →
    t.shared.readCancel = true
  kept : Clean t → t.shared.peerReset = none → t.shared.returned ++ t.shared.inbuf ++
    StreamSection.arriving (t.control StreamSection.handles) = messages.flatMap payloadOf
  reset : t.shared.peerReset.isSome = true → t.shared.inbuf = []
  lost : Clean t → t.shared.peerReset.isSome = true →
    t.shared.returned <+: messages.flatMap payloadOf
  ended : AtEnd t.shared

theorem Clean.before {thread : Nat} {rest : List StreamSection}
    (top : t.pool[thread]? = some (op :: rest)) (ran : t.shared.exec op = some e)
    (clean : Clean ⟨e.shared, t.pool.set thread (e.next ++ rest) ++ e.started⟩) :
    Clean t ∧ ∀ code text, .fatal code text ∉ e.next := by
  obtain ⟨fatals, quiet, reading⟩ := clean
  obtain ⟨pushed, stays, -⟩ := Threads.pending_members (e := e) top
  have lasting := exec_lasting ran
  refine ⟨⟨lasting.fatals fatals, fun code text member => ?_, lasting.cancel reading⟩,
    fun code text member => quiet code text (pushed _ member)⟩
  rcases stays _ member with same | old
  · rw [← same] at ran
    cases ran
    change t.shared.fatals ++ [(code, text)] = [] at fatals
    simp at fatals
  · exact quiet code text old

theorem HearInv.run {thread : Nat} (inv : HearInv messages t)
    (stepped : t.advance exec thread = some t') :
    HearInv messages t' := by
  obtain ⟨op, rest, e, top, ran, rfl⟩ := Threads.advance_eq_some.mp stepped
  have hears := exec_hears ran
  have lasting := exec_lasting ran
  have started : ∀ other ∈ e.started.flatten, other.handles = false := fun other member => by
    rw [mem_started ran member]
    rfl
  have after : Threads.control StreamSection.handles
      ⟨e.shared, t.pool.set thread (e.next ++ rest) ++ e.started⟩ =
      handlerAfter op e (t.control StreamSection.handles) :=
        inv.owned.control_advance top hears.once started
  have at' : op.handles = true → t.control StreamSection.handles = some op :=
    inv.owned.control_eq (Threads.mem_pending top)
  have unreset (now : e.shared.peerReset = none) : t.shared.peerReset = none := by
    by_contra reset
    have still := lasting.reset (Option.isSome_iff_ne_none.mpr reset)
    rw [now] at still
    cases still
  refine ⟨inv.owned.advance top hears.once started, fun now => ?_, fun data waits => ?_,
    fun now => ?_,
    fun payload waits => ?_, fun clean now => ?_, fun now => ?_, fun clean now => ?_, ?_⟩
  · -- a FIN that is new is the message at hand
    by_cases before : t.shared.peerFin = true
    · exact inv.fin before
    · have unchanged (same : e.shared.peerFin = t.shared.peerFin) : ∃ data ∈ messages, IsFin data :=
        absurd (same.symm.trans now) before
      cases hears with
      | @finds data _ _ _ fin =>
        obtain ⟨earlier, rfl⟩ := inv.last data (at' rfl)
        exact ⟨data, List.mem_append_right _ List.mem_cons_self, fin⟩
      | leaves same =>
        simp only [hearing, Prod.mk.injEq] at same
        exact unchanged same.2.1
      | faults _ _ _ same =>
        simp only [Prod.mk.injEq] at same
        exact unchanged same.2.1
      | ignores same =>
        simp only [hearing, Prod.mk.injEq] at same
        exact unchanged same.2.1
      | accepts same =>
        simp only [hearing, Prod.mk.injEq] at same
        exact unchanged same.2.1
      | cancels same =>
        simp only [Prod.mk.injEq] at same
        exact unchanged same.1
      | refuses same => exact unchanged (by rw [same])
      | checks same => exact unchanged (by rw [same])
      | resets same => exact unchanged (by rw [same])
      | appends same => exact unchanged (by rw [same])
      | returns same => exact unchanged (by rw [same])
      | tells same => exact unchanged (by rw [same])
  · rw [after] at waits
    exact inv.last data (hears.notOnFrame waits)
  · rw [after]
    exact hears.quiet at' inv.quiet now
  · rw [after] at waits
    exact hears.checked inv.checked lasting waits
  · obtain ⟨before, quiet⟩ := Clean.before top ran clean
    rw [after, hears.kept at' inv.checked clean.fatals quiet clean.reading now]
    exact inv.kept before (unreset now)
  · exact (hears.lost at' inv.quiet inv.reset now).1
  · obtain ⟨before, quiet⟩ := Clean.before top ran clean
    rw [(hears.lost at' inv.quiet inv.reset now).2]
    cases was : t.shared.peerReset with
    | some code => exact inv.lost before (by rw [was]; rfl)
    | none =>
      rw [← inv.kept before was, List.append_assoc]
      exact List.prefix_append _ _
  · exact hears.atEnd at' inv.quiet inv.ended

/-- What a step that runs no section does to the read half: a message is given to the goroutine that
is at rest. -/
theorem step_hearing (owned : t.Owned StreamSection.handles 0)
    (stepped : WebrtcStream.step t label = some t') (notRun : ∀ thread, label ≠ .run thread) :
    t'.shared.hearing = t.shared.hearing ∧ t'.shared.reads = t.shared.reads ∧
      t'.Owned StreamSection.handles 0 ∧ (∀ op ∈ t.pending, op ∈ t'.pending) ∧
      (arrival label = none ∧ t'.control StreamSection.handles = t.control StreamSection.handles ∨
        ∃ data, label = .message data ∧ t.control StreamSection.handles = none ∧
          t'.control StreamSection.handles = some (.onFrame data)) := by
  have start (t : Goroutines) {stack : List StreamSection} (owned : t.Owned StreamSection.handles 0)
      (quiet : ∀ op ∈ stack, op.handles = false) :
      (t.start stack).Owned StreamSection.handles 0 ∧
      (∀ op ∈ t.pending, op ∈ (t.start stack).pending) ∧
        (t.start stack).control StreamSection.handles = t.control StreamSection.handles := by
    refine ⟨owned.start quiet, fun op member => ?_, Threads.control_start quiet⟩
    rw [Threads.pending_start]
    exact List.mem_append_left _ member
  cases label with
  | run thread => exact absurd rfl (notRun thread)
  | call method =>
    cases stepped
    have quiet : ∀ op ∈ method.sections, op.handles = false := by
      cases method <;> simp [Method.sections, StreamSection.handles]
    obtain ⟨owned', more, control⟩ := start t owned quiet
    exact ⟨rfl, rfl, owned', more, Or.inl ⟨rfl, control⟩⟩
  | channelOpen =>
    simp only [WebrtcStream.step] at stepped
    split at stepped <;> cases stepped
    have touched :
      (touch t { t.shared with dc := { t.shared.dc with readyState := .opened } }).Owned
        StreamSection.handles 0 := ⟨owned.here, owned.elsewhere, owned.once⟩
    have quiet : ∀ op ∈ [StreamSection.closeOpenCh],
      op.handles = false := by simp [StreamSection.handles]
    obtain ⟨owned', more, control⟩ := start _ touched quiet
    exact ⟨rfl, rfl, owned', more, Or.inl ⟨rfl, control⟩⟩
  | message data =>
    simp only [WebrtcStream.step] at stepped
    split at stepped
    · obtain ⟨pending, shared⟩ := Threads.pending_resume stepped
      have idle := Threads.control_eq_none.mpr (owned.idle (Threads.idle_of_resume stepped))
      have control := owned.control_resume stepped (fun other => absurd rfl other) (le_refl 1)
      rw [if_pos rfl] at control
      rw [shared]
      exact ⟨rfl, rfl, owned.resume stepped (fun other => absurd rfl other) (le_refl 1),
        fun op member => pending.symm.subset (List.mem_append_right _ member),
        Or.inr ⟨data, rfl, idle, control⟩⟩
    · cases stepped
  | channelClosed =>
    simp only [WebrtcStream.step] at stepped
    split at stepped <;> cases stepped
    have touched :
      (touch t { t.shared with dc := { t.shared.dc with readyState := .closed } }).Owned
        StreamSection.handles 0 := ⟨owned.here, owned.elsewhere, owned.once⟩
    have quiet : ∀ op ∈ [StreamSection.onChannelClose],
      op.handles = false := by simp [StreamSection.handles]
    obtain ⟨owned', more, control⟩ := start _ touched quiet
    exact ⟨rfl, rfl, owned', more, Or.inl ⟨rfl, control⟩⟩
  | destroy =>
    simp only [WebrtcStream.step] at stepped
    split at stepped <;> cases stepped
    have quiet : ∀ op ∈ [StreamSection.destroy],
      op.handles = false := by simp [StreamSection.handles]
    obtain ⟨owned', more, control⟩ := start t owned quiet
    exact ⟨rfl, rfl, owned', more, Or.inl ⟨rfl, control⟩⟩
  | _ =>
    cases stepped
    exact ⟨rfl, rfl, ⟨owned.here, owned.elsewhere, owned.once⟩, fun op member => member,
      Or.inl ⟨rfl, rfl⟩⟩

theorem HearInv.others (inv : HearInv messages t) (stepped : WebrtcStream.step t label = some t')
    (notRun : ∀ thread, label ≠ .run thread) : HearInv (messages ++ (arrival label).toList) t' := by
  obtain ⟨same, reads, owned, more, control⟩ := step_hearing inv.owned stepped notRun
  have returned : t'.shared.returned = t.shared.returned := returned_congr reads
  simp only [hearing, Prod.mk.injEq] at same
  obtain ⟨inbuf, fin, reset, cancel, fatals⟩ := same
  have before (clean : Clean t') : Clean t :=
    ⟨fatals.symm.trans clean.fatals, fun code text member => clean.quiet code text (more _ member),
      cancel.symm.trans clean.reading⟩
  have found (now : t'.shared.peerFin = true) : ∃ data ∈ messages ++ (arrival label).toList,
      IsFin data := by
    obtain ⟨data, member, isFin⟩ := inv.fin (fin.symm.trans now)
    exact ⟨data, List.mem_append_left _ member, isFin⟩
  have ended : AtEnd t'.shared := by
    unfold AtEnd
    rw [reads, fin, reset, inbuf]
    exact inv.ended
  have lost (clean : Clean t') (now : t'.shared.peerReset.isSome = true) :
      t'.shared.returned <+: (messages ++ (arrival label).toList).flatMap payloadOf := by
    rw [returned, List.flatMap_append]
    exact (inv.lost (before clean) (reset ▸ now)).trans (List.prefix_append _ _)
  have peerEnded : t'.shared.peerEnded = t.shared.peerEnded := by
    unfold WebrtcStream.peerEnded
    rw [fin, reset]
  rcases control with ⟨silent, control⟩ | ⟨data, rfl, idle, control⟩
  · rw [silent] at found lost ⊢
    simp only [Option.toList_none, List.append_nil] at found lost ⊢
    refine ⟨owned, found, ?_, ?_, ?_, fun clean now => ?_, fun now => ?_, lost, ended⟩
    · rw [control]
      exact inv.last
    · rw [control, peerEnded]
      exact inv.quiet
    · rw [control, cancel]
      exact inv.checked
    · rw [control, returned, inbuf]
      exact inv.kept (before clean) (reset.symm.trans now)
    · rw [inbuf]
      exact inv.reset (reset ▸ now)
  · refine ⟨owned, found, fun other now => ?_, fun _ => ?_, fun payload now => ?_,
      fun clean now => ?_, fun now => ?_, lost, ended⟩
    · rw [control] at now
      cases now
      exact ⟨messages, rfl⟩
    · rw [control]
      rfl
    · rw [control] at now
      cases now
    · have kept := inv.kept (before clean) (reset.symm.trans now)
      rw [idle] at kept
      rw [control, returned, inbuf, List.flatMap_append, ← kept]
      show _ = _ ++ [] ++ (payloadOf data ++ [])
      rw [List.append_nil, List.append_nil]
      rfl
    · rw [inbuf]
      exact inv.reset (reset ▸ now)

/-- **One step keeps the bytes in order.** -/
theorem HearInv.step (inv : HearInv messages t) (stepped : WebrtcStream.step t label = some t') :
    HearInv (messages ++ (arrival label).toList) t' := by
  cases label with
  | run thread =>
    show HearInv (messages ++ []) t'
    rw [List.append_nil]
    exact inv.run stepped
  | _ => exact inv.others stepped (by simp)

theorem hearInv_start (limits : FlowWindows) (isOpen : Bool) :
    HearInv [] (start limits isOpen) where
  owned := by
    refine ⟨Nat.one_pos, fun j stack found other => ?_, Nat.zero_le _⟩
    cases j with
    | zero => exact absurd rfl other
    | succ j => cases found
  fin now := by cases now
  last data now := by cases now
  quiet _ := rfl
  checked payload now := by cases now
  kept _ _ := rfl
  reset now := by cases now
  lost _ now := by cases now
  ended found := by cases found

/-- What a stream makes of the frames, while it finds no violation and is not cancelled. -/
theorem reads_of_run {limits : FlowWindows} {isOpen : Bool} {labels : List Label}
    (ran : Lib.run WebrtcStream.step (start limits isOpen) labels = some t) (clean : Clean t)
    {frames : List Wire.Frame} (carries : Wire.Carries (labels.filterMap arrival) frames) :
    Wire.Reads frames t.shared.returned (.eof ∈ t.shared.reads) := by
  have always : Meets WebrtcStream.step (fun _ _ => True) (start limits isOpen) labels :=
    meets_of_labels (fun _ _ _ => trivial) _
  have preserves (messages : List Bytes) (t : Goroutines) (label : Label) (t' : Goroutines)
    (_ : True)
      (inv : HearInv messages t) (stepped : WebrtcStream.step t label = some t') :
      HearInv (messages ++ (arrival label).toList) t' := inv.step stepped
  have inv := run_invariant_of_outputs preserves always (hearInv_start limits isOpen) ran
  rw [outputs_of_labels ran] at inv
  have whole := inv.kept clean
  have lost := inv.lost clean
  rw [flatMap_payloadOf carries.each] at whole lost
  constructor
  · cases reset : t.shared.peerReset with
    | none =>
      rw [← whole reset, List.append_assoc]
      exact List.prefix_append _ _
    | some code => exact lost (by rw [reset]; rfl)
  · intro found
    obtain ⟨fin, unreset, empty⟩ := inv.ended found
    obtain ⟨data, member, isFin⟩ := inv.fin fin
    obtain ⟨frame, inside, message⟩ := Wire.exists_frame carries.each member
    refine ⟨fin_of_message message isFin ▸ inside, ?_⟩
    -- what the goroutine is at came after the FIN, or is the FIN
    have silent : StreamSection.arriving (t.control StreamSection.handles) = [] := by
      have quiet := inv.quiet (by simp [peerEnded, fin])
      cases at' : t.control StreamSection.handles with
      | none => rfl
      | some op =>
        rw [at'] at quiet
        cases op with
        | onFrame last =>
          obtain ⟨before, all⟩ := inv.last last at'
          rw [all] at carries member
          obtain ⟨frame, -, message⟩ :=
            Wire.exists_frame carries.each (List.mem_append_right before List.mem_cons_self)
          show payloadOf last = []
          rw [payloadOf_message message]
          exact carries.payload_last ⟨data, member, message_of_fin isFin⟩ message
        | onDataReceived => cases quiet
        | appendData => cases quiet
        | _ => rfl
    have kept := whole unreset
    rwa [empty, silent, List.append_nil, List.append_nil] at kept

/-- A stream as a reader: it is clean until it records, or is about to record, a violation, and
until its read half is marked. -/
def reader (limits : FlowWindows) (isOpen : Bool) : Wire.Reader where
  State := Goroutines
  Label := Label
  start := start limits isOpen
  step := WebrtcStream.step
  deliver := .message
  arrival := arrival
  arrival_deliver _ := rfl
  returned t := t.shared.returned
  ended t := .eof ∈ t.shared.reads
  clean := Clean
  reads _ _ ran clean _ carries := reads_of_run ran clean carries

end WebrtcStream

end Kps.Go
