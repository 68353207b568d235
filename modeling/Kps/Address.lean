/-
**Addresses in the three implementations** (`address.rs`, `address.go`, `address.ts`).

An address is `<ip>:<port>:<certhash>`, with the ip in brackets if it contains a colon. The parsers
read the units of their strings: bytes in Rust and Go, UTF-16 units in TypeScript.

* `Rust.fields_eq_some`, `Go.fields_eq_some`, `Ts.fields_eq_some` — the three scanners find the same
  parts;
* `Rust.parseAddress_eq_ok`, `Go.parseAddress_eq_ok`, `Ts.parseAddress_eq_ok` — what each of them
  accepts;
* `parsers_faithful_iff` — they agree and their addresses can be written and read again, except
  where a sign stands before the port, or where the ip begins with a bracket of its own.
-/

import Kps.Lib.Scan
import Mathlib.Algebra.Group.Nat.Defs

namespace Kps

open Kps.Lib

variable {α : Type*} [DecidableEq α] (a : Alphabet α)

structure Address (α : Type*) where
  ip : List α
  port : Nat
  certhash : List α
  deriving DecidableEq, Repr

inductive AddressError
  | malformed
  | badPort
  deriving DecidableEq, Repr

/-- The ip and what follows it. -/
abbrev Fields (α : Type*) := Option (List α × List α)

/-! ### The parsers -/

namespace Rust

/-- `u16::from_str`: a sign may stand before the digits. -/
def parseU16 (s : List α) : Option Nat :=
  (Decimal.read a (if s.head? = some (a.unit '+') then s.tail else s)).filter fun n => n ≤ 65535

/-- The scanner of `parse_address`. -/
def fields (s : List α) : Fields α :=
  if s.head? = some (a.unit '[') then
    (splitOnce (a.unit ']') s.tail).bind fun (host, after) =>
      if after.head? = some (a.unit ':') then some (host, after.tail) else none
  else splitOnce (a.unit ':') s

/-- `parse_address`. -/
def parseAddress (s : List α) : Except AddressError (Address α) :=
  match fields a s with
  | none => .error .malformed
  | some (host, rest) =>
    match splitOnce (a.unit ':') rest with
    | none => .error .malformed
    | some (portStr, certhash) =>
      match (parseU16 a portStr).filter fun p => p ≥ 1 with
      | none => .error .badPort
      | some port =>
        if host = [] ∨ certhash = [] then .error .malformed else .ok ⟨host, port, certhash⟩

/-- `format_address`. -/
def formatAddress (addr : Address α) : List α :=
  if a.unit ':' ∈ addr.ip then
    a.unit '[' :: addr.ip ++ a.unit ']' :: a.unit ':' :: Decimal.write a addr.port ++ a.unit ':' ::
      addr.certhash
  else addr.ip ++ a.unit ':' :: Decimal.write a addr.port ++ a.unit ':' :: addr.certhash

end Rust

namespace Go

/-- `strconv.Atoi`, in 64 bits: a sign may stand before the digits. -/
def atoi (s : List α) : Option Int :=
  if s.head? = some (a.unit '-') then
    (Decimal.read a s.tail).bind fun n => if n ≤ 2 ^ 63 then some (-(n : Int)) else none
  else
    (Decimal.read a (if s.head? = some (a.unit '+') then s.tail else s)).bind fun n =>
      if n < 2 ^ 63 then some (n : Int) else none

/-- The scanner of `ParseAddress`, with positions. -/
def fields (s : List α) : Fields α :=
  if s.head? = some (a.unit '[') then
    match indexOf (a.unit ']') s with
    | none => none
    | some end_ =>
      if end_ + 1 ≥ s.length ∨ s[end_ + 1]? ≠ some (a.unit ':') then none
      else some ((s.take end_).drop 1, s.drop (end_ + 2))
  else
    match indexOf (a.unit ':') s with
    | none => none
    | some i => some (s.take i, s.drop (i + 1))

/-- `ParseAddress`. -/
def parseAddress (s : List α) : Except AddressError (Address α) :=
  match fields a s with
  | none => .error .malformed
  | some (host, rest) =>
    match indexOf (a.unit ':') rest with
    | none => .error .malformed
    | some j =>
      match atoi a (rest.take j) with
      | none => .error .badPort
      | some port =>
        if port < 1 ∨ port > 65535 then .error .badPort
        else
          let certhash := rest.drop (j + 1)
          if host = [] ∨ certhash = [] then .error .malformed else .ok ⟨host, port.toNat, certhash⟩

/-- `joinHostPortCerthash`. -/
def joinHostPortCerthash (addr : Address α) : List α :=
  if a.unit ':' ∈ addr.ip then
    a.unit '[' :: addr.ip ++ a.unit ']' :: a.unit ':' :: Decimal.write a addr.port ++ a.unit ':' ::
      addr.certhash
  else addr.ip ++ a.unit ':' :: Decimal.write a addr.port ++ a.unit ':' :: addr.certhash

end Go

namespace Ts

/-- The scanner of `parseAddress`, with positions; there is no unit beyond the end. -/
def fields (s : List α) : Fields α :=
  if s.head? = some (a.unit '[') then
    match indexOf (a.unit ']') s with
    | none => none
    | some end_ =>
      if s[end_ + 1]? ≠ some (a.unit ':') then none else some
        ((s.take end_).drop 1, s.drop (end_ + 2))
  else
    match indexOf (a.unit ':') s with
    | none => none
    | some i => some (s.take i, s.drop (i + 1))

/-- `parseAddress`. `Number` rounds above `2 ^ 53`, where every value is out of range. -/
def parseAddress (s : List α) : Except AddressError (Address α) :=
  match fields a s with
  | none => .error .malformed
  | some (ip, rest) =>
    match indexOf (a.unit ':') rest with
    | none => .error .malformed
    | some j =>
      match Decimal.read a (rest.take j) with
      | none => .error .malformed
      | some port =>
        if port < 1 ∨ port > 65535 then .error .badPort
        else
          let certhash := rest.drop (j + 1)
          if ip = [] ∨ certhash = [] then .error .malformed else .ok ⟨ip, port, certhash⟩

/-- `formatAddress`. -/
def formatAddress (addr : Address α) : List α :=
  let host := if a.unit ':' ∈ addr.ip then a.unit '[' :: addr.ip ++ [a.unit ']'] else addr.ip
  host ++ a.unit ':' :: Decimal.write a addr.port ++ a.unit ':' :: addr.certhash

end Ts

/-! ### The scanners -/

/-- The parts of a text: an ip in brackets, up to the first closing one, or up to the first
colon. -/
def IsFields (a : Alphabet α) (s host rest : List α) : Prop :=
  (s = a.unit '[' :: host ++ a.unit ']' :: a.unit ':' :: rest ∧ a.unit ']' ∉ host) ∨
    (s.head? ≠ some (a.unit '[') ∧ s = host ++ a.unit ':' :: rest ∧ a.unit ':' ∉ host)

variable {a} {s host rest : List α}

theorem Rust.fields_eq_some : Rust.fields a s = some (host, rest) ↔ IsFields a s host rest := by
  unfold Rust.fields IsFields
  by_cases bracket : s.head? = some (a.unit '[')
  · cases s with
    | nil => cases bracket
    | cons u tail =>
      cases bracket
      rw [if_pos List.head?_cons, List.tail_cons, Option.bind_eq_some_iff]
      constructor
      · rintro ⟨⟨host', after⟩, found, next⟩
        obtain ⟨colon, same⟩ := Option.ite_none_right_eq_some.mp next
        obtain ⟨split, absent⟩ := splitOnce_eq_some.mp found
        cases same
        cases after with
        | nil => cases colon
        | cons v rest =>
          cases colon
          exact Or.inl ⟨congrArg (List.cons _) split, absent⟩
      · rintro (⟨same, absent⟩ | ⟨other, -⟩)
        · exact ⟨(host, a.unit ':' :: rest),
            splitOnce_eq_some.mpr ⟨List.tail_eq_of_cons_eq same, absent⟩, if_pos rfl⟩
        · exact absurd rfl other
  · rw [if_neg bracket, splitOnce_eq_some]
    constructor
    · exact fun found => Or.inr ⟨bracket, found⟩
    · rintro (⟨rfl, -⟩ | ⟨-, found⟩)
      · exact absurd rfl bracket
      · exact found

omit [DecidableEq α] in
theorem brackets_ne (a : Alphabet α) : a.unit '[' ≠ a.unit ']' := fun same =>
  absurd (a.injective '[' ']' (by decide) (by decide) same) (by decide)

/-- **The scanners by positions find the same parts.** -/
theorem Ts.fields_eq (s : List α) : Ts.fields a s = Rust.fields a s := by
  unfold Ts.fields Rust.fields
  by_cases bracket : s.head? = some (a.unit '[')
  · rw [if_pos bracket, if_pos bracket]
    cases s with
    | nil => cases bracket
    | cons u tail =>
      cases bracket
      have later : indexOf (a.unit ']') (a.unit '[' :: tail) = (indexOf (a.unit ']') tail).map
          (· + 1) :=
        if_neg (brackets_ne a)
      rw [later, List.tail_cons, splitOnce_eq_indexOf]
      cases indexOf (a.unit ']') tail with
      | none => rfl
      | some i =>
        have next : (a.unit '[' :: tail)[i + 1 + 1]? = (tail.drop (i + 1)).head? := by
          rw [List.getElem?_cons_succ, List.head?_drop]
        have rest : (a.unit '[' :: tail).drop (i + 1 + 2) = (tail.drop (i + 1)).tail := by
          rw [List.tail_drop]
          rfl
        simp only [Option.map_some, Option.bind_some, next, rest]
        by_cases colon : (tail.drop (i + 1)).head? = some (a.unit ':')
        · rw [if_neg (not_not.mpr colon), if_pos colon]
          rfl
        · rw [if_pos colon, if_neg colon]
  · rw [if_neg bracket, if_neg bracket, splitOnce_eq_indexOf]
    cases indexOf (a.unit ':') s <;> rfl

theorem Go.fields_eq (s : List α) : Go.fields a s = Ts.fields a s := by
  unfold Go.fields Ts.fields
  by_cases bracket : s.head? = some (a.unit '[')
  · rw [if_pos bracket, if_pos bracket]
    cases indexOf (a.unit ']') s with
    | none => rfl
    | some i =>
      have beyond : (i + 1 ≥ s.length ∨ s[i + 1]? ≠ some (a.unit ':')) ↔
          s[i + 1]? ≠ some (a.unit ':') := by
        refine ⟨fun either => either.elim (fun beyond => ?_) id, Or.inr⟩
        rw [List.getElem?_eq_none beyond]
        exact fun wrong => by cases wrong
      simp only [beyond]
  · rw [if_neg bracket, if_neg bracket]

/-! ### What each of them accepts -/

/-- The text has these parts, of which none is empty, and a port of the range, for which this run of
digits stands. -/
structure Accepted (a : Alphabet α) (s port digits : List α) (addr : Address α) : Prop where
  fields : IsFields a s addr.ip (port ++ a.unit ':' :: addr.certhash)
  free : a.unit ':' ∉ port
  digits : Decimal.Reads a digits addr.port
  least : 1 ≤ addr.port
  most : addr.port ≤ 65535
  ip : addr.ip ≠ []
  certhash : addr.certhash ≠ []

variable {addr : Address α}

/-- A sign before the digits is skipped. -/
def unsigned (a : Alphabet α) (port : List α) : List α :=
  if port.head? = some (a.unit '+') then port.tail else port

theorem Rust.parseAddress_eq_ok :
    Rust.parseAddress a s = .ok addr ↔ ∃ port, Accepted a s port (unsigned a port) addr := by
  unfold Rust.parseAddress
  constructor
  · intro accepted
    cases scanned : Rust.fields a s with
    | none =>
      rw [scanned] at accepted
      cases accepted
    | some parts =>
      obtain ⟨host, rest⟩ := parts
      rw [scanned] at accepted
      dsimp only at accepted
      cases split : splitOnce (a.unit ':') rest with
      | none =>
        rw [split] at accepted
        cases accepted
      | some parts =>
        obtain ⟨portStr, certhash⟩ := parts
        rw [split] at accepted
        dsimp only at accepted
        cases value : (Rust.parseU16 a portStr).filter fun p => p ≥ 1 with
        | none =>
          rw [value] at accepted
          cases accepted
        | some port =>
          rw [value] at accepted
          dsimp only at accepted
          by_cases empty : host = [] ∨ certhash = []
          · rw [if_pos empty] at accepted
            cases accepted
          rw [if_neg empty] at accepted
          cases accepted
          push Not at empty
          obtain ⟨rfl, absent⟩ := splitOnce_eq_some.mp split
          obtain ⟨parsed, least⟩ := Option.filter_eq_some_iff.mp value
          obtain ⟨read, most⟩ := Option.filter_eq_some_iff.mp parsed
          exact ⟨portStr, Rust.fields_eq_some.mp scanned, absent, Decimal.read_eq_some.mp read,
            of_decide_eq_true least, of_decide_eq_true most, empty.1, empty.2⟩
  · rintro ⟨port, accepted⟩
    have parsed : (Rust.parseU16 a port).filter (fun p => p ≥ 1) = some addr.port := by
      refine Option.filter_eq_some_iff.mpr ⟨Option.filter_eq_some_iff.mpr ⟨?_, ?_⟩, ?_⟩
      · exact Decimal.read_eq_some.mpr accepted.digits
      · exact decide_eq_true accepted.most
      · exact decide_eq_true accepted.least
    rw [Rust.fields_eq_some.mpr accepted.fields]
    dsimp only
    rw [splitOnce_eq_some.mpr ⟨rfl, accepted.free⟩]
    dsimp only
    rw [parsed]
    dsimp only
    rw [if_neg (not_or.mpr ⟨accepted.ip, accepted.certhash⟩)]

omit [DecidableEq α] in
/-- A sign is no digit. -/
theorem Reads.head_ne {digits : List α} {n : Nat} (reads : Decimal.Reads a digits n) {c : Char}
    (ascii : c.toNat < 128) (other : c ∉ Decimal.digits) : digits.head? ≠ some (a.unit c) := by
  intro first
  exact reads.notMem ascii other (List.mem_of_head? first)

/-- A value of the range that `Atoi` returns is that of the digits after the sign. -/
theorem Go.atoi_eq_some {port : List α} {v : Int} :
    (Go.atoi a port = some v ∧ ¬ (v < 1 ∨ v > 65535)) ↔
      ∃ n : Nat, v = n ∧ Decimal.Reads a (unsigned a port) n ∧ 1 ≤ n ∧ n ≤ 65535 := by
  unfold Go.atoi
  by_cases minus : port.head? = some (a.unit '-')
  · rw [if_pos minus]
    constructor
    · rintro ⟨value, range⟩
      obtain ⟨n, -, small⟩ := Option.bind_eq_some_iff.mp value
      obtain ⟨-, same⟩ := Option.ite_none_right_eq_some.mp small
      cases same
      omega
    · rintro ⟨n, -, reads, -⟩
      have plus : port.head? ≠ some (a.unit '+') := by
        rw [minus]
        intro same
        exact absurd (a.injective '-' '+' (by decide) (by decide) (Option.some.inj same))
          (by decide)
      unfold unsigned at reads
      rw [if_neg plus] at reads
      exact absurd minus (Reads.head_ne reads (by decide) (by decide))
  · rw [if_neg minus]
    constructor
    · rintro ⟨value, range⟩
      obtain ⟨n, read, small⟩ := Option.bind_eq_some_iff.mp value
      obtain ⟨-, same⟩ := Option.ite_none_right_eq_some.mp small
      cases same
      exact ⟨n, rfl, Decimal.read_eq_some.mp read, by omega, by omega⟩
    · rintro ⟨n, rfl, reads, least, most⟩
      refine ⟨Option.bind_eq_some_iff.mpr ⟨n, Decimal.read_eq_some.mpr reads,
        if_pos (by omega)⟩, by omega⟩

theorem Go.parseAddress_eq_ok :
    Go.parseAddress a s = .ok addr ↔ ∃ port, Accepted a s port (unsigned a port) addr := by
  unfold Go.parseAddress
  rw [Go.fields_eq, Ts.fields_eq]
  constructor
  · intro accepted
    cases scanned : Rust.fields a s with
    | none =>
      rw [scanned] at accepted
      cases accepted
    | some parts =>
      obtain ⟨host, rest⟩ := parts
      rw [scanned] at accepted
      dsimp only at accepted
      cases found : indexOf (a.unit ':') rest with
      | none =>
        rw [found] at accepted
        cases accepted
      | some j =>
        rw [found] at accepted
        dsimp only at accepted
        cases value : Go.atoi a (rest.take j) with
        | none =>
          rw [value] at accepted
          cases accepted
        | some port =>
          rw [value] at accepted
          dsimp only at accepted
          by_cases range : port < 1 ∨ port > 65535
          · rw [if_pos range] at accepted
            cases accepted
          rw [if_neg range] at accepted
          by_cases empty : host = [] ∨ rest.drop (j + 1) = []
          · rw [if_pos empty] at accepted
            cases accepted
          rw [if_neg empty] at accepted
          cases accepted
          push Not at empty
          obtain ⟨parts, absent⟩ := splitOnce_eq_some.mp (splitOnce_of_indexOf found)
          obtain ⟨n, rfl, reads, least, most⟩ := Go.atoi_eq_some.mp ⟨value, range⟩
          refine ⟨rest.take j, ?_, absent, reads, least, most, empty.1, empty.2⟩
          rw [← parts]
          exact Rust.fields_eq_some.mp scanned
  · rintro ⟨port, accepted⟩
    obtain ⟨value, range⟩ :=
      Go.atoi_eq_some.mpr ⟨addr.port, rfl, accepted.digits, accepted.least, accepted.most⟩
    obtain ⟨j, found, before, after⟩ := indexOf_of_splitOnce
      (splitOnce_eq_some.mpr ⟨rfl, accepted.free⟩ : splitOnce _ _ = some (port, addr.certhash))
    rw [Rust.fields_eq_some.mpr accepted.fields]
    dsimp only
    rw [found]
    dsimp only
    rw [before, after, value]
    dsimp only
    rw [if_neg range, if_neg (not_or.mpr ⟨accepted.ip, accepted.certhash⟩)]
    rfl

/-- TypeScript takes no sign. -/
theorem Ts.parseAddress_eq_ok :
    Ts.parseAddress a s = .ok addr ↔ ∃ port, Accepted a s port port addr := by
  unfold Ts.parseAddress
  rw [Ts.fields_eq]
  constructor
  · intro accepted
    cases scanned : Rust.fields a s with
    | none =>
      rw [scanned] at accepted
      cases accepted
    | some parts =>
      obtain ⟨host, rest⟩ := parts
      rw [scanned] at accepted
      dsimp only at accepted
      cases found : indexOf (a.unit ':') rest with
      | none =>
        rw [found] at accepted
        cases accepted
      | some j =>
        rw [found] at accepted
        dsimp only at accepted
        cases value : Decimal.read a (rest.take j) with
        | none =>
          rw [value] at accepted
          cases accepted
        | some port =>
          rw [value] at accepted
          dsimp only at accepted
          by_cases range : port < 1 ∨ port > 65535
          · rw [if_pos range] at accepted
            cases accepted
          rw [if_neg range] at accepted
          by_cases empty : host = [] ∨ rest.drop (j + 1) = []
          · rw [if_pos empty] at accepted
            cases accepted
          rw [if_neg empty] at accepted
          cases accepted
          push Not at empty range
          obtain ⟨parts, absent⟩ := splitOnce_eq_some.mp (splitOnce_of_indexOf found)
          refine ⟨rest.take j, ?_, absent, Decimal.read_eq_some.mp value, range.1, range.2, empty.1,
            empty.2⟩
          rw [← parts]
          exact Rust.fields_eq_some.mp scanned
  · rintro ⟨port, accepted⟩
    have range : ¬ (addr.port < 1 ∨ addr.port > 65535) := by
      have least := accepted.least
      have most := accepted.most
      omega
    obtain ⟨j, found, before, after⟩ := indexOf_of_splitOnce
      (splitOnce_eq_some.mpr ⟨rfl, accepted.free⟩ : splitOnce _ _ = some (port, addr.certhash))
    rw [Rust.fields_eq_some.mpr accepted.fields]
    dsimp only
    rw [found]
    dsimp only
    rw [before, after, Decimal.read_eq_some.mpr accepted.digits]
    dsimp only
    rw [if_neg range, if_neg (not_or.mpr ⟨accepted.ip, accepted.certhash⟩)]

/-! ### Writing an address -/

/-- The three write it in one way. -/
theorem formatAddress_eq (addr : Address α) :
    Go.joinHostPortCerthash a addr = Rust.formatAddress a addr ∧
    Ts.formatAddress a addr = Rust.formatAddress a addr := by
  refine ⟨rfl, ?_⟩
  unfold Ts.formatAddress Rust.formatAddress
  by_cases colon : a.unit ':' ∈ addr.ip
  · simp [colon]
  · simp [colon]

/-- The ip begins with a bracket, and is written without brackets. -/
def Misread (a : Alphabet α) (ip : List α) : Prop := ip.head? = some (a.unit '[') ∧ a.unit ':' ∉ ip

omit [DecidableEq α] in
theorem colon_notMem_write (n : Nat) : a.unit ':' ∉ Decimal.write a n :=
  (Decimal.reads_write n).notMem (by decide) (by decide)

/-- **A written address has its parts**, unless its ip is misread. -/
theorem isFields_format {port digits : List α} (accepted : Accepted a s port digits addr)
    (clear : ¬ Misread a addr.ip) :
    IsFields a (Rust.formatAddress a addr) addr.ip
      (Decimal.write a addr.port ++ a.unit ':' :: addr.certhash) := by
  unfold Rust.formatAddress
  by_cases colon : a.unit ':' ∈ addr.ip
  · rw [if_pos colon]
    refine Or.inl ⟨by simp, ?_⟩
    rcases accepted.fields with ⟨-, absent⟩ | ⟨-, -, absent⟩
    · exact absent
    · exact absurd colon absent
  · rw [if_neg colon]
    refine Or.inr ⟨?_, by simp, colon⟩
    intro first
    refine clear ⟨?_, colon⟩
    rw [List.append_assoc, List.head?_append_of_ne_nil _ accepted.ip] at first
    exact first

/-- **A misread ip is not read again.** -/
theorem not_isFields_format (misread : Misread a addr.ip) (rest : List α) :
    ¬ IsFields a (Rust.formatAddress a addr) addr.ip rest := by
  obtain ⟨first, colon⟩ := misread
  unfold Rust.formatAddress
  rw [if_neg colon]
  cases ip : addr.ip with
  | nil =>
    rw [ip] at first
    cases first
  | cons u tail =>
    rw [ip] at first colon
    cases first
    rintro (⟨same, -⟩ | ⟨other, -⟩)
    · -- the ip would go on beyond the colon
      simp only [List.cons_append, List.append_assoc, List.cons.injEq, true_and] at same
      have here := congrArg (fun units => units[tail.length]?) same
      rw [List.getElem?_append_right (le_refl _), Nat.sub_self, List.getElem?_cons_zero,
        ← List.cons_append, List.getElem?_append_left (by simp)] at here
      exact colon (List.mem_of_getElem? here.symm)
    · exact other rfl

/-! ### Where the parsers agree -/

/-- The parsers agree on the text, accept digits for the port only, and what they return can be
written and read again. -/
structure Faithful (a : Alphabet α) (s : List α) : Prop where
  go : ∀ addr, Go.parseAddress a s = .ok addr ↔ Rust.parseAddress a s = .ok addr
  ts : ∀ addr, Ts.parseAddress a s = .ok addr ↔ Rust.parseAddress a s = .ok addr
  digits : ∀ addr, Rust.parseAddress a s = .ok addr ∨ Go.parseAddress a s = .ok addr ∨
    Ts.parseAddress a s = .ok addr → ∃ port, Accepted a s port port addr
  rust_again : ∀ addr, Rust.parseAddress a s = .ok addr →
    Rust.parseAddress a (Rust.formatAddress a addr) = .ok addr
  go_again : ∀ addr, Go.parseAddress a s = .ok addr →
    Go.parseAddress a (Go.joinHostPortCerthash a addr) = .ok addr
  ts_again : ∀ addr, Ts.parseAddress a s = .ok addr →
    Ts.parseAddress a (Ts.formatAddress a addr) = .ok addr

/-- If the text has the parts of an address, with or without a sign before the port, there is none,
and the ip does not begin with a bracket that would be taken for one of the address. -/
def Plain (a : Alphabet α) (s : List α) : Prop :=
  ∀ port addr, Accepted a s port (unsigned a port) addr →
    port.head? ≠ some (a.unit '+') ∧ ¬ (addr.ip.head? = some (a.unit '[') ∧ a.unit ':' ∉ addr.ip)

theorem Accepted.fields_unique {port port' digits digits' : List α} {addr' : Address α}
    (accepted : Accepted a s port digits addr) (other : Accepted a s port' digits' addr') :
    addr.ip = addr'.ip ∧ port = port' ∧ addr.certhash = addr'.certhash := by
  have same :=
    (Rust.fields_eq_some.mpr accepted.fields).symm.trans (Rust.fields_eq_some.mpr other.fields)
  obtain ⟨ip, rest⟩ := Prod.mk.inj (Option.some.inj same)
  have split : splitOnce (a.unit ':') (port ++ a.unit ':' :: addr.certhash) =
      some (port, addr.certhash) :=
    splitOnce_eq_some.mpr ⟨rfl, accepted.free⟩
  rw [rest, splitOnce_eq_some.mpr ⟨rfl, other.free⟩] at split
  obtain ⟨ports, certhashes⟩ := Prod.mk.inj (Option.some.inj split)
  exact ⟨ip, ports.symm, certhashes.symm⟩

/-- **Written and read again.** -/
theorem accepted_format {port digits : List α} (accepted : Accepted a s port digits addr)
    (clear : ¬ Misread a addr.ip) :
    Accepted a (Rust.formatAddress a addr) (Decimal.write a addr.port)
      (Decimal.write a addr.port) addr :=
  ⟨isFields_format accepted clear, colon_notMem_write _, Decimal.reads_write _, accepted.least,
    accepted.most, accepted.ip, accepted.certhash⟩

theorem unsigned_of_ne {port : List α} (unsigned_ : port.head? ≠ some (a.unit '+')) :
    unsigned a port = port :=
  if_neg unsigned_

omit [DecidableEq α] in
theorem Accepted.head_ne {port : List α} (accepted : Accepted a s port port addr) :
    port.head? ≠ some (a.unit '+') :=
  Reads.head_ne accepted.digits (by decide) (by decide)

/-- **The parsers are faithful** on exactly those texts that have no sign before the port and no
such ip. -/
theorem parsers_faithful_iff (a : Alphabet α) (s : List α) : Faithful a s ↔ Plain a s := by
  constructor
  · intro faithful port addr accepted
    have parsed : Rust.parseAddress a s = .ok addr := Rust.parseAddress_eq_ok.mpr ⟨port, accepted⟩
    obtain ⟨port', digits⟩ := faithful.digits addr (Or.inl parsed)
    obtain ⟨-, rfl, -⟩ := accepted.fields_unique digits
    refine ⟨digits.head_ne, fun misread => ?_⟩
    obtain ⟨port', again⟩ := Rust.parseAddress_eq_ok.mp (faithful.rust_again addr parsed)
    exact not_isFields_format misread _ again.fields
  · intro plain
    have exact_ (addr : Address α) : (∃ port, Accepted a s port (unsigned a port) addr) ↔
        ∃ port, Accepted a s port port addr := by
      constructor
      · rintro ⟨port, accepted⟩
        refine ⟨port, ?_⟩
        rw [unsigned_of_ne (plain port addr accepted).1] at accepted
        exact accepted
      · rintro ⟨port, accepted⟩
        refine ⟨port, ?_⟩
        rw [unsigned_of_ne accepted.head_ne]
        exact accepted
    have again (addr : Address α) (found : ∃ port, Accepted a s port port addr) :
        Accepted a (Rust.formatAddress a addr) (Decimal.write a addr.port)
          (Decimal.write a addr.port) addr := by
      obtain ⟨port, accepted⟩ := found
      have signed : Accepted a s port (unsigned a port) addr := by
        rw [unsigned_of_ne accepted.head_ne]
        exact accepted
      exact accepted_format accepted (plain port addr signed).2
    have written (addr : Address α) (found : ∃ port, Accepted a s port port addr) :
        ∃ port, Accepted a (Rust.formatAddress a addr) port (unsigned a port) addr := by
      have accepted := again addr found
      refine ⟨Decimal.write a addr.port, ?_⟩
      rw [unsigned_of_ne accepted.head_ne]
      exact accepted
    refine ⟨fun addr => ?_, fun addr => ?_, fun addr parsed => ?_, fun addr parsed => ?_,
      fun addr parsed => ?_, fun addr parsed => ?_⟩
    · rw [Go.parseAddress_eq_ok, Rust.parseAddress_eq_ok]
    · rw [Ts.parseAddress_eq_ok, Rust.parseAddress_eq_ok, exact_]
    · rw [Rust.parseAddress_eq_ok, Go.parseAddress_eq_ok, Ts.parseAddress_eq_ok, exact_] at parsed
      rcases parsed with found | found | found
      · exact found
      · exact found
      · exact found
    · exact Rust.parseAddress_eq_ok.mpr
        (written addr ((exact_ addr).mp (Rust.parseAddress_eq_ok.mp parsed)))
    · rw [(formatAddress_eq addr).1]
      exact Go.parseAddress_eq_ok.mpr
        (written addr ((exact_ addr).mp (Go.parseAddress_eq_ok.mp parsed)))
    · rw [(formatAddress_eq addr).2]
      exact Ts.parseAddress_eq_ok.mpr ⟨_, again addr (Ts.parseAddress_eq_ok.mp parsed)⟩

/-- An address with a sign before its port. -/
def signed : List UInt8 := Alphabet.bytes.text "1.2.3.4:+443:h"

/-- An address whose ip begins with a bracket. -/
def bracketed : List UInt8 := Alphabet.bytes.text "[[1.2.3.4]:443:h"

/-- **A signed port, and a bracket of the ip.** -/
theorem parsers_differ :
    (Rust.parseAddress .bytes signed =
      .ok ⟨Alphabet.bytes.text "1.2.3.4", 443, Alphabet.bytes.text "h"⟩ ∧
      Go.parseAddress .bytes signed =
        .ok ⟨Alphabet.bytes.text "1.2.3.4", 443, Alphabet.bytes.text "h"⟩ ∧
      Ts.parseAddress .bytes signed = .error .malformed ∧ ¬ Faithful .bytes signed) ∧
    Rust.parseAddress .bytes bracketed =
      .ok ⟨Alphabet.bytes.text "[1.2.3.4", 443, Alphabet.bytes.text "h"⟩ ∧
      Rust.formatAddress .bytes ⟨Alphabet.bytes.text "[1.2.3.4", 443, Alphabet.bytes.text "h"⟩ =
        Alphabet.bytes.text "[1.2.3.4:443:h" ∧
      Rust.parseAddress .bytes (Alphabet.bytes.text "[1.2.3.4:443:h") = .error .malformed ∧
      ¬ Faithful .bytes bracketed := by
  have rust : Rust.parseAddress .bytes signed =
    .ok ⟨Alphabet.bytes.text "1.2.3.4", 443, Alphabet.bytes.text "h"⟩ := rfl
  have ts : Ts.parseAddress .bytes signed = .error .malformed := rfl
  have read : Rust.parseAddress .bytes bracketed =
    .ok ⟨Alphabet.bytes.text "[1.2.3.4", 443, Alphabet.bytes.text "h"⟩ := rfl
  have again : Rust.parseAddress .bytes (Alphabet.bytes.text "[1.2.3.4:443:h") =
    .error .malformed := rfl
  have text :
    Rust.formatAddress .bytes ⟨Alphabet.bytes.text "[1.2.3.4", 443, Alphabet.bytes.text "h"⟩ =
    Alphabet.bytes.text "[1.2.3.4:443:h" := rfl
  refine ⟨⟨rust, rfl, ts, fun faithful => ?_⟩, read, text, again, fun faithful => ?_⟩
  · have agreed := (faithful.ts _).mpr rust
    rw [ts] at agreed
    cases agreed
  · have returned := faithful.rust_again _ read
    rw [text, again] at returned
    cases returned

end Kps
