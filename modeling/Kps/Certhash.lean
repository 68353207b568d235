/-
**The certhash in the three implementations** (`address.rs`, `address.go`, `certhash.ts`).

A certhash is the letter `u` and the SHA-256 multihash of a certificate in base64 for URLs, without
padding (§3). The decoders read the units of their strings: bytes in Rust and Go, UTF-16 units in
TypeScript. Rust's base64 engine is a crate, and a parameter here: `Rust.Strict` says that it is
strict. Go's library skips line ends and leaves the unused bits of the last character alone, and
`atob` follows the forgiving decoder of the web.

* `Rust.decodeCerthash_eq_ok`, `Go.decodeCerthash_eq_ok`, `Ts.decodeCerthash_eq_ok` — what each of
  them accepts;
* `Ts.encodeCerthash_eq` — the encoders write one spelling;
* `certhash_canonical_iff` — the decoders accept only that spelling, except of the texts that Go or
  TypeScript reads too loosely.
-/

import Kps.Lib.Base64
import Mathlib.Data.List.DropRight

namespace Kps

open Kps.Lib

open Kps.Lib.Base64

variable {α : Type*} [DecidableEq α] (a : Alphabet α)

inductive CerthashError
  | multibase
  | base64url
  | length (bytes : Nat)
  | multihash
  deriving DecidableEq, Repr

/-- SHA-256, 32 bytes. -/
def multihash (digest : Bytes) : Bytes := 0x12 :: 0x20 :: digest

/-- The spelling of §3. -/
def certhash (digest : Bytes) : List α := a.unit 'u' :: write urlSafe a (multihash digest)

/-! ### The decoders -/

/-- The digest of a multihash, for the check that Rust and Go make. -/
def digestOf (raw : Bytes) : Except CerthashError Bytes :=
  if raw.length ≠ 34 ∨ raw[0]? ≠ some 0x12 ∨ raw[1]? ≠ some 0x20 then .error .multihash else .ok
    (raw.drop 2)

namespace Rust

/-- `URL_SAFE_NO_PAD` is strict: it reads what is written without padding and with the unused bits
clear, and refuses every other text. -/
def Strict (engine : List α → Option Bytes) : Prop :=
  ∀ text raw, engine text = some raw ↔ text = write urlSafe a raw

/-- `decode_certhash`, with the base64 engine that decodes. -/
def decodeCerthash (engine : List α → Option Bytes) (s : List α) : Except CerthashError Bytes :=
  if s.head? = some (a.unit 'u') then
    match engine s.tail with
    | none => .error .base64url
    | some raw => digestOf raw
  else .error .multibase

/-- `encode_certhash`. -/
def encodeCerthash (digest : Bytes) : List α :=
  a.unit 'u' :: write urlSafe a (0x12 :: 0x20 :: digest)

end Rust

namespace Go

/-- A carriage return or a line feed, which `RawURLEncoding` skips. -/
def isLineEnd (u : α) : Bool := decide (u = a.unit '\r') || decide (u = a.unit '\n')

/-- `decodeCerthash`. -/
def decodeCerthash (s : List α) : Except CerthashError Bytes :=
  if s.length = 0 ∨ s[0]? ≠ some (a.unit 'u') then .error .multibase
  else
    match decode urlSafe a false (s.tail.filter fun u => !isLineEnd a u) with
    | none => .error .base64url
    | some raw => digestOf raw

end Go

namespace Ts

/-- What `atob` removes first. -/
def isAsciiWhitespace (u : α) : Bool := decide (u ∈ ['\t', '\n', '\x0c', '\r', ' '].map a.unit)

/-- One or two padding characters at the end are removed. -/
def stripPadding (data : List α) : List α :=
  if [a.unit '=', a.unit '='] <:+ data then data.dropLast.dropLast
  else if [a.unit '='] <:+ data then data.dropLast
  else data

/-- The forgiving decoder. -/
def atob (data : List α) : Option Bytes :=
  let data := data.filter fun u => !isAsciiWhitespace a u
  let data := if data.length % 4 = 0 then stripPadding a data else data
  if data.length % 4 = 1 then none else decode standard a false data

/-- The padded encoder. -/
def btoa (data : Bytes) : List α :=
  write standard a data ++ List.replicate ((3 - data.length % 3) % 3) (a.unit '=')

/-- The two letters of the URL alphabet to the ones of the standard one. -/
def toStandard (u : α) : α :=
  if u = a.unit '-' then a.unit '+' else if u = a.unit '_' then a.unit '/' else u

def toUrlSafe (u : α) : α :=
  if u = a.unit '+' then a.unit '-' else if u = a.unit '/' then a.unit '_' else u

def base64urlDecode (s : List α) : Option Bytes :=
  let pad := (4 - s.length % 4) % 4
  atob a (s.map (toStandard a) ++ List.replicate pad (a.unit '='))

def base64urlEncode (bytes : Bytes) : List α :=
  ((btoa a bytes).map (toUrlSafe a)).rdropWhile fun u => decide (u = a.unit '=')

def decodeCerthash (s : List α) : Except CerthashError Bytes :=
  if s.head? = some (a.unit 'u') then
    match base64urlDecode a s.tail with
    | none => .error .base64url
    | some bytes =>
      if bytes.length ≠ 34 then .error (.length bytes.length)
      else if bytes[0]? ≠ some 0x12 ∨ bytes[1]? ≠ some 0x20 then .error .multihash
      else .ok (bytes.drop 2)
  else .error .multibase

def encodeCerthash (digest : Bytes) : Except CerthashError (List α) :=
  if digest.length ≠ 32 then .error (.length digest.length)
  else .ok (a.unit 'u' :: base64urlEncode a (0x12 :: 0x20 :: digest))

end Ts

/-! ### The check of the multihash -/

theorem eq_multihash_iff {raw digest : Bytes} : raw = multihash digest ∧ digest.length = 32 ↔
    (raw.length = 34 ∧ raw[0]? = some 0x12 ∧ raw[1]? = some 0x20) ∧ raw.drop 2 = digest := by
  constructor
  · rintro ⟨rfl, length⟩
    exact ⟨⟨by simp [multihash, length], rfl, rfl⟩, rfl⟩
  · rintro ⟨⟨length, first, second⟩, rfl⟩
    cases raw with
    | nil => cases length
    | cons b raw =>
      cases raw with
      | nil => cases length
      | cons c rest =>
        cases first
        cases second
        refine ⟨rfl, ?_⟩
        simp only [List.length_cons, List.drop_succ_cons, List.drop_zero] at length ⊢
        omega

theorem digestOf_eq_ok {raw digest : Bytes} :
    digestOf raw = .ok digest ↔ raw = multihash digest ∧ digest.length = 32 := by
  rw [eq_multihash_iff]
  unfold digestOf
  by_cases is : raw.length ≠ 34 ∨ raw[0]? ≠ some 0x12 ∨ raw[1]? ≠ some 0x20
  · rw [if_pos is]
    constructor
    · intro wrong
      cases wrong
    · rintro ⟨⟨length, first, second⟩, -⟩
      rcases is with other | other | other
      · exact absurd length other
      · exact absurd first other
      · exact absurd second other
  · rw [if_neg is, Except.ok.injEq]
    push Not at is
    exact ⟨fun same => ⟨is, same⟩, And.right⟩

/-! ### What each of them accepts -/

/-- The numbers stand for the multihash of the digest, whatever the unused bits are. -/
structure Spells (ns : List Nat) (digest : Bytes) : Prop where
  small : ∀ n ∈ ns, n < 64
  same : cleared ns = sextets (multihash digest)
  digest : digest.length = 32

/-- The numbers of 34 bytes of which the first two are those of a multihash: the letters `E`, `i`,
one of `A` to `D`, and 43 others. -/
structure IsMultihash (ns : List Nat) : Prop where
  small : ∀ n ∈ ns, n < 64
  length : ns.length = 46
  first : ∃ r rest, ns = 4 :: 34 :: r :: rest ∧ r < 4

theorem Spells.length {ns : List Nat} {digest : Bytes} (spells : Spells ns digest) :
    ns.length = 46 := by
  have length := congrArg List.length spells.same
  rw [length_cleared, length_sextets] at length
  simp only [multihash, List.length_cons, spells.digest] at length
  exact length

theorem Spells.isMultihash {ns : List Nat} {digest : Bytes} (spells : Spells ns digest) :
    IsMultihash ns := by
  refine ⟨spells.small, spells.length, ?_⟩
  have length := spells.length
  have same := spells.same
  rcases ns with _ | ⟨p, _ | ⟨q, _ | ⟨r, _ | ⟨t, rest⟩⟩⟩⟩
  · cases length
  · cases length
  · cases length
  · cases length
  · cases digest with
    | nil => cases spells.digest
    | cons c digest =>
      have high := c.toNat_lt
      simp only [cleared, multihash, sextets, List.cons.injEq] at same
      obtain ⟨rfl, rfl, rfl, -⟩ := same
      refine ⟨_, _, rfl, ?_⟩
      show 32 % 16 * 4 + c.toNat / 64 < 4
      omega

theorem IsMultihash.spells {ns : List Nat} (is : IsMultihash ns) : ∃ digest, Spells ns digest := by
  have length := is.length
  obtain ⟨data, read⟩ := exists_ofSextets (show ns.length % 4 ≠ 1 by omega)
  have same := (ofSextets_false is.small).mp read
  have size := congrArg List.length same
  rw [length_cleared, length_sextets, length] at size
  obtain ⟨r, rest, rfl, low⟩ := is.first
  cases rest with
  | nil => cases length
  | cons t rest =>
    obtain ⟨later, -, rfl⟩ := Option.map_eq_some_iff.mp read
    have second : 34 % 16 * 16 + r / 4 = 32 := by omega
    rw [second] at same size
    refine ⟨UInt8.ofNat (r % 4 * 64 + t) :: later, is.small, same, ?_⟩
    simp only [List.length_cons] at size ⊢
    omega

variable {a} {engine : List α → Option Bytes} {s : List α} {digest : Bytes}

/-- A strict engine. -/
theorem Rust.strict_decode : Rust.Strict a (decode urlSafe a true) := fun _ _ => decode_true

omit [DecidableEq α] in
theorem head?_eq_some {u : α} : s.head? = some u ↔ ∃ body, s = u :: body := by
  cases s with
  | nil => simp
  | cons v body => simp [eq_comm]

/-- **Rust accepts the spelling of §3 only.** -/
theorem Rust.decodeCerthash_eq_ok (strict : Rust.Strict a engine) :
    Rust.decodeCerthash a engine s = .ok digest ↔ s = certhash a digest ∧ digest.length = 32 := by
  unfold Rust.decodeCerthash certhash
  by_cases start : s.head? = some (a.unit 'u')
  · obtain ⟨body, rfl⟩ := head?_eq_some.mp start
    rw [if_pos start, List.tail_cons, List.cons.injEq, ← strict]
    cases read : engine body with
    | none => simp
    | some raw => simp [digestOf_eq_ok]
  · rw [if_neg start]
    constructor
    · intro wrong
      cases wrong
    · rintro ⟨rfl, -⟩
      exact absurd rfl start

/-- **Go accepts it with line ends anywhere, and with any unused bits.** -/
theorem Go.decodeCerthash_eq_ok : Go.decodeCerthash a s = .ok digest ↔
    ∃ body ns, s = a.unit 'u' :: body ∧ Spells ns digest ∧
      (body.filter fun u => !Go.isLineEnd a u) = ns.map (urlSafe.unit a) := by
  unfold Go.decodeCerthash
  by_cases start : s.head? = some (a.unit 'u')
  · obtain ⟨body, rfl⟩ := head?_eq_some.mp start
    rw [if_neg (by simp), List.tail_cons]
    constructor
    · intro accepted
      cases read : decode urlSafe a false (body.filter fun u => !Go.isLineEnd a u) with
      | none =>
        rw [read] at accepted
        cases accepted
      | some raw =>
        rw [read] at accepted
        obtain ⟨rfl, length⟩ := digestOf_eq_ok.mp accepted
        obtain ⟨ns, small, kept, same⟩ := decode_false.mp read
        exact ⟨body, ns, rfl, ⟨small, same, length⟩, kept⟩
    · rintro ⟨body', ns, same, spells, kept⟩
      cases same
      rw [decode_false.mpr ⟨ns, spells.small, kept, spells.same⟩]
      exact digestOf_eq_ok.mpr ⟨rfl, spells.digest⟩
  · have refused : s.length = 0 ∨ s[0]? ≠ some (a.unit 'u') := by
      rw [← List.head?_eq_getElem?]
      exact Or.inr start
    rw [if_pos refused]
    constructor
    · intro wrong
      cases wrong
    · rintro ⟨body, -, rfl, -, -⟩
      exact absurd rfl start

namespace Ts

omit [DecidableEq α] in
/-- Different characters have different units. -/
theorem unit_ne {c d : Char} (ascii : c.toNat < 128) (ascii' : d.toNat < 128) (other : c ≠ d) :
    a.unit c ≠ a.unit d :=
  fun same => other (a.injective c d ascii ascii' same)

omit [DecidableEq α] in
theorem standard_ne {n : Nat} (small : n < 64) {d : Char} (ascii : d.toNat < 128)
    (other : ∀ n < 64, standard.char n ≠ d) : standard.unit a n ≠ a.unit d :=
  unit_ne (standard.ascii n small) ascii (other n small)

/-- The letters of the standard alphabet stay. -/
theorem toStandard_standard {n : Nat} (small : n < 64) :
    toStandard a (standard.unit a n) = standard.unit a n := by
  unfold toStandard
  rw [if_neg (standard_ne small (by decide) (by decide)),
    if_neg (standard_ne small (by decide) (by decide))]

/-- A letter of the URL alphabet becomes the one of its number. -/
theorem toStandard_urlSafe {n : Nat} (small : n < 64) :
    toStandard a (urlSafe.unit a n) = standard.unit a n := by
  by_cases minus : n = 62
  · subst minus
    exact if_pos rfl
  by_cases under : n = 63
  · subst under
    have other : urlSafe.unit a 63 ≠ a.unit '-' :=
      unit_ne (c := '_') (by decide) (by decide) (by decide)
    exact (if_neg other).trans (if_pos rfl)
  have same : urlSafe.unit a n = standard.unit a n := by
    show a.unit (if n = 62 then '-' else if n = 63 then '_' else character n) = _
    rw [if_neg minus, if_neg under]
    rfl
  rw [same, toStandard_standard small]

theorem toUrlSafe_standard {n : Nat} (small : n < 64) :
    toUrlSafe a (standard.unit a n) = urlSafe.unit a n := by
  by_cases plus : n = 62
  · subst plus
    exact if_pos rfl
  by_cases slash : n = 63
  · subst slash
    have other : standard.unit a 63 ≠ a.unit '+' :=
      unit_ne (c := '/') (by decide) (by decide) (by decide)
    exact (if_neg other).trans (if_pos rfl)
  have apart (d : Char) (ascii : d.toNat < 128) (other : ∀ n < 62, standard.char n ≠ d) :
      standard.unit a n ≠ a.unit d := unit_ne (standard.ascii n small) ascii (other n (by omega))
  unfold toUrlSafe
  rw [if_neg (apart '+' (by decide) (by decide)), if_neg (apart '/' (by decide) (by decide))]
  show _ = a.unit (if n = 62 then '-' else if n = 63 then '_' else character n)
  rw [if_neg plus, if_neg slash]
  rfl

theorem isAsciiWhitespace_unit {c : Char} (ascii : c.toNat < 128) :
    isAsciiWhitespace a (a.unit c) = decide (c ∈ ['\t', '\n', '\x0c', '\r', ' ']) := by
  unfold isAsciiWhitespace
  refine decide_eq_decide.mpr ⟨fun member => ?_, List.mem_map_of_mem⟩
  obtain ⟨d, found, same⟩ := List.mem_map.mp member
  have space : ∀ d ∈ ['\t', '\n', '\x0c', '\r', ' '], d.toNat < 128 := by simp
  rw [← a.injective d c (space d found) ascii same]
  exact found

theorem isAsciiWhitespace_toStandard (u : α) :
    isAsciiWhitespace a (toStandard a u) = isAsciiWhitespace a u := by
  unfold toStandard
  by_cases minus : u = a.unit '-'
  · rw [if_pos minus, minus, isAsciiWhitespace_unit (by decide), isAsciiWhitespace_unit (by decide)]
    rfl
  by_cases under : u = a.unit '_'
  · rw [if_neg minus, if_pos under, under, isAsciiWhitespace_unit (by decide),
      isAsciiWhitespace_unit (by decide)]
    rfl
  rw [if_neg minus, if_neg under]

omit [DecidableEq α] in
/-- No letter is padding. -/
theorem pad_notMem {ns : List Nat} (small : ∀ n ∈ ns, n < 64) :
    a.unit '=' ∉ ns.map (standard.unit a) := by
  intro member
  obtain ⟨n, found, same⟩ := List.mem_map.mp member
  exact standard_ne (small n found) (by decide) (by decide) same

/-- The number of characters that `atob` removes. -/
def spaces (a : Alphabet α) (body : List α) : Nat := body.countP (isAsciiWhitespace a)

/-- How `atob` comes to read the numbers from a text: without whitespace it is their letters and `e`
padding characters, and with the padding that the decoder restores there are none too many. -/
structure Written (a : Alphabet α) (body : List α) (ns : List Nat) (e : Nat) : Prop where
  kept : (body.filter fun u => !isAsciiWhitespace a u).map (toStandard a) =
    ns.map (standard.unit a) ++ List.replicate e (a.unit '=')
  padding : (spaces a body % 4 = 0 ∧ e ≤ 2) ∨ (spaces a body % 4 = 2 ∧ e = 0)

/-- What is left of the body, before the padding is restored. -/
def keptOf (a : Alphabet α) (body : List α) : List α :=
  (body.filter fun u => !isAsciiWhitespace a u).map (toStandard a)

theorem length_keptOf (body : List α) : (keptOf a body).length + spaces a body = body.length := by
  unfold keptOf spaces
  rw [List.length_map, ← List.countP_eq_length_filter, Nat.add_comm]
  have parts := List.length_eq_countP_add_countP (isAsciiWhitespace a) (l := body)
  rw [parts]
  congr 2
  funext u
  simp

/-- The whitespace that `atob` removes. -/
theorem filter_padded (body : List α) (pad : Nat) :
    (body.map (toStandard a) ++ List.replicate pad (a.unit '=')).filter
    (fun u => !isAsciiWhitespace a u) =
      keptOf a body ++ List.replicate pad (a.unit '=') := by
  have visible : isAsciiWhitespace a (a.unit '=') = false := isAsciiWhitespace_unit (by decide)
  rw [List.filter_append, List.filter_replicate_of_pos (by rw [visible]; rfl), List.filter_map]
  unfold keptOf
  congr 3
  funext u
  rw [Function.comp_apply, isAsciiWhitespace_toStandard]

/-- Padding is removed from letters, two characters at most. -/
theorem of_stripPadding (data : List α) :
    ∃ x ≤ 2, data = stripPadding a data ++ List.replicate x (a.unit '=') := by
  unfold stripPadding
  by_cases two : [a.unit '=', a.unit '='] <:+ data
  · obtain ⟨front, rfl⟩ := two
    rw [if_pos ⟨front, rfl⟩]
    refine ⟨2, le_refl _, ?_⟩
    have dropped : (front ++ [a.unit '=', a.unit '=']).dropLast.dropLast = front := by
      rw [show front ++ [a.unit '=', a.unit '='] = (front ++ [a.unit '=']) ++ [a.unit '='] by simp,
        List.dropLast_concat, List.dropLast_concat]
    rw [dropped]
    rfl
  rw [if_neg two]
  by_cases one : [a.unit '='] <:+ data
  · obtain ⟨front, rfl⟩ := one
    rw [if_pos ⟨front, rfl⟩]
    refine ⟨1, by omega, ?_⟩
    rw [List.dropLast_concat]
    rfl
  · rw [if_neg one]
    exact ⟨0, by omega, (List.append_nil _).symm⟩

/-- Two padding characters are removed. -/
theorem stripPadding_two (front : List α) :
    stripPadding a (front ++ List.replicate 2 (a.unit '=')) = front := by
  unfold stripPadding
  rw [if_pos ⟨front, rfl⟩]
  show (front ++ [a.unit '=', a.unit '=']).dropLast.dropLast = front
  rw [show front ++ [a.unit '=', a.unit '='] = (front ++ [a.unit '=']) ++ [a.unit '='] by simp,
    List.dropLast_concat, List.dropLast_concat]

/-- **The decoder reads a multihash** from the texts that are written so. -/
theorem base64urlDecode_eq_some {body : List α} (short : digest.length = 32) :
    base64urlDecode a body = some (multihash digest) ↔
      ∃ ns e, Spells ns digest ∧ Written a body ns e := by
  unfold base64urlDecode atob
  dsimp only
  rw [filter_padded]
  have length := length_keptOf (a := a) body
  generalize padding : (4 - body.length % 4) % 4 = pad
  constructor
  · intro read
    obtain ⟨one, read⟩ := Option.ite_none_left_eq_some.mp read
    obtain ⟨ns, small, data, same⟩ := decode_false.mp read
    have spells : Spells ns digest := ⟨small, same, short⟩
    have size := spells.length
    have letters := pad_notMem (a := a) small
    by_cases whole : (keptOf a body ++ List.replicate pad (a.unit '=')).length % 4 = 0
    · -- two padding characters were removed
      rw [if_pos whole] at data
      obtain ⟨x, few, stripped⟩ :=
        of_stripPadding (keptOf a body ++ List.replicate pad (a.unit '='))
      rw [data] at stripped
      have count := congrArg List.length stripped
      simp only [List.length_append, List.length_replicate, List.length_map, size] at count whole
      have two : x = 2 := by omega
      subst two
      have low : pad ≤ 2 := by
        by_contra three
        have three : pad = 2 + 1 := by omega
        subst three
        rw [Nat.add_comm, List.replicate_add, ← List.append_assoc, List.append_left_inj] at stripped
        exact letters (stripped ▸ List.mem_append_right _ List.mem_cons_self)
      have parts : 2 = (2 - pad) + pad := by omega
      rw [parts, List.replicate_add, ← List.append_assoc, List.append_left_inj] at stripped
      exact ⟨ns, 2 - pad, spells, stripped, Or.inl ⟨by omega, by omega⟩⟩
    · rw [if_neg whole] at data
      have none : pad = 0 := by
        by_contra some_
        refine letters (data ▸ List.mem_append_right _ ?_)
        exact List.mem_replicate.mpr ⟨some_, rfl⟩
      subst none
      rw [List.replicate_zero, List.append_nil] at data
      have count := congrArg List.length data
      rw [List.length_map, size] at count
      refine ⟨ns, 0, spells, ?_, Or.inr ⟨by omega, rfl⟩⟩
      rw [List.replicate_zero, List.append_nil]
      exact data
  · rintro ⟨ns, e, spells, kept, spaced⟩
    have size := spells.length
    have kept : keptOf a body = ns.map (standard.unit a) ++ List.replicate e (a.unit '=') := kept
    have count := congrArg List.length kept
    rw [List.length_append, List.length_map, List.length_replicate, size] at count
    rw [kept, List.append_assoc, ← List.replicate_add]
    have reads : decode standard a false (ns.map (standard.unit a)) = some (multihash digest) :=
      decode_false.mpr ⟨ns, spells.small, rfl, spells.same⟩
    rcases spaced with ⟨spaced, few⟩ | ⟨spaced, rfl⟩
    · have two : e + pad = 2 := by omega
      have whole : (ns.map (standard.unit a) ++ List.replicate 2 (a.unit '=')).length % 4 =
        0 := by simp [size]
      rw [two, if_pos whole, stripPadding_two, if_neg (by simp [size])]
      exact reads
    · have none : 0 + pad = 0 := by omega
      have odd : ¬ (ns.map (standard.unit a)).length % 4 = 0 := by simp [size]
      rw [none, List.replicate_zero, List.append_nil, if_neg odd, if_neg (by simp [size])]
      exact reads

/-- **TypeScript accepts it in either alphabet, with whitespace and padding as `atob` takes them,
and with any unused bits.** -/
theorem decodeCerthash_eq_ok : decodeCerthash a s = .ok digest ↔
    ∃ body ns e, s = a.unit 'u' :: body ∧ Spells ns digest ∧ Written a body ns e := by
  unfold decodeCerthash
  by_cases start : s.head? = some (a.unit 'u')
  · obtain ⟨body, rfl⟩ := head?_eq_some.mp start
    rw [if_pos start, List.tail_cons]
    constructor
    · intro accepted
      cases read : base64urlDecode a body with
      | none =>
        rw [read] at accepted
        cases accepted
      | some raw =>
        rw [read] at accepted
        dsimp only at accepted
        by_cases length : raw.length ≠ 34
        · rw [if_pos length] at accepted
          cases accepted
        rw [if_neg length] at accepted
        by_cases other : raw[0]? ≠ some 0x12 ∨ raw[1]? ≠ some 0x20
        · rw [if_pos other] at accepted
          cases accepted
        rw [if_neg other, Except.ok.injEq] at accepted
        push Not at length other
        obtain ⟨rfl, short⟩ := eq_multihash_iff.mpr ⟨⟨length, other⟩, accepted⟩
        obtain ⟨ns, e, spells, written⟩ := (base64urlDecode_eq_some short).mp read
        exact ⟨body, ns, e, rfl, spells, written⟩
    · rintro ⟨body', ns, e, same, spells, written⟩
      cases same
      rw [(base64urlDecode_eq_some spells.digest).mpr ⟨ns, e, spells, written⟩]
      obtain ⟨⟨length, first, second⟩, rest⟩ := eq_multihash_iff.mp ⟨rfl, spells.digest⟩
      dsimp only
      rw [if_neg (not_not.mpr length), if_neg (by rw [first, second]; simp), rest]
  · rw [if_neg start]
    constructor
    · intro wrong
      cases wrong
    · rintro ⟨body, _, _, rfl, -, -⟩
      exact absurd rfl start

/-- The encoder for URLs is the standard one with the two letters replaced and the padding
removed. -/
theorem base64urlEncode_eq (bytes : Bytes) : base64urlEncode a bytes = write urlSafe a bytes := by
  have letters : (write standard a bytes).map (toUrlSafe a) = write urlSafe a bytes := by
    unfold write
    rw [List.map_map]
    exact List.map_congr_left fun n member => toUrlSafe_standard (sextets_lt bytes n member)
  have pad : toUrlSafe a (a.unit '=') = a.unit '=' := by
    unfold toUrlSafe
    rw [if_neg (unit_ne (by decide) (by decide) (by decide)),
      if_neg (unit_ne (by decide) (by decide) (by decide))]
  have removed (k : Nat) : (write urlSafe a bytes ++ List.replicate k (a.unit '=')).rdropWhile
      (fun u => decide (u = a.unit '=')) = write urlSafe a bytes := by
    induction k with
    | zero =>
      rw [List.replicate_zero, List.append_nil, List.rdropWhile_eq_self_iff]
      intro some_ last
      have member := List.getLast_mem some_
      rw [of_decide_eq_true last] at member
      obtain ⟨n, found, same⟩ := List.mem_map.mp member
      have apart : ∀ n < 64, urlSafe.char n ≠ '=' := by decide
      exact unit_ne (urlSafe.ascii n (sextets_lt bytes n found)) (by decide)
        (apart n (sextets_lt bytes n found)) same
    | succ k ih =>
      rw [List.replicate_succ', ← List.append_assoc, List.rdropWhile_concat_pos _ _ _ (by simp), ih]
  unfold base64urlEncode btoa
  rw [List.map_append, List.map_replicate, letters, pad, removed]

/-- **The encoders write one spelling.** -/
theorem encodeCerthash_eq (short : digest.length = 32) :
    encodeCerthash a digest = .ok (certhash a digest) ∧
    Rust.encodeCerthash a digest = certhash a digest := by
  unfold encodeCerthash
  rw [if_neg (not_not.mpr short), base64urlEncode_eq]
  exact ⟨rfl, rfl⟩

end Ts

/-! ### Where the decoders agree -/

/-- The decoders return the digest for its spelling in §3, and for no other text. -/
structure Canonical (a : Alphabet α) (engine : List α → Option Bytes) (s : List α)
    (digest : Bytes) : Prop where
  rust : Rust.decodeCerthash a engine s = .ok digest ↔ s = certhash a digest
  go : Go.decodeCerthash a s = .ok digest ↔ s = certhash a digest
  ts : Ts.decodeCerthash a s = .ok digest ↔ s = certhash a digest

/-- How `RawURLEncoding` comes to read the numbers from a text: without line ends it is their
letters. -/
def Go.Written (a : Alphabet α) (body : List α) (ns : List Nat) : Prop :=
  (body.filter fun u => !Go.isLineEnd a u) = ns.map (urlSafe.unit a)

/-- A certhash in a spelling of its own, which a decoder reads besides the one of §3. -/
def Loose (a : Alphabet α) (written : List α → List Nat → Prop) (s : List α) : Prop :=
  ∃ body ns, s = a.unit 'u' :: body ∧ IsMultihash ns ∧ written body ns ∧
    (body ≠ ns.map (urlSafe.unit a) ∨ cleared ns ≠ ns)

/-- A certhash with line ends in it, or with unused bits that are set. -/
def Go.Loose (a : Alphabet α) (s : List α) : Prop := Kps.Loose a (Go.Written a) s

/-- A certhash with letters of the standard alphabet, with whitespace or with padding in it, or with
unused bits that are set. -/
def Ts.Loose (a : Alphabet α) (s : List α) : Prop :=
  Kps.Loose a (fun body ns => ∃ e, Ts.Written a body ns e) s

omit [DecidableEq α] in
/-- **A decoder is canonical** exactly if the text is none that it reads too loosely. -/
theorem canonical_iff {accepted : Bytes → Prop} {written : List α → List Nat → Prop}
    (accepts : ∀ digest, accepted digest ↔ ∃ body ns, s = a.unit 'u' :: body ∧ Spells ns digest ∧
      written body ns)
    (own : ∀ ns, (∀ n ∈ ns, n < 64) → written (ns.map (urlSafe.unit a)) ns)
    (unique : ∀ body ns ns', IsMultihash ns → IsMultihash ns' → written body ns → written body ns' →
      ns = ns') :
    (∀ digest, digest.length = 32 → (accepted digest ↔ s = certhash a digest)) ↔
      ¬ Loose a written s := by
  constructor
  · rintro canonical ⟨body, ns, rfl, is, writes, loose⟩
    obtain ⟨digest, spells⟩ := is.spells
    have same :=
      (canonical digest spells.digest).mp ((accepts digest).mpr ⟨body, ns, rfl, spells, writes⟩)
    have own := own (sextets (multihash digest)) (sextets_lt _)
    have canon : Spells (sextets (multihash digest)) digest :=
      ⟨sextets_lt _, cleared_sextets _, spells.digest⟩
    obtain ⟨-, rfl⟩ := List.cons.inj same
    have numbers : ns = sextets (multihash digest) := unique _ ns _ is canon.isMultihash writes own
    subst numbers
    rcases loose with other | other
    · exact other rfl
    · exact other (cleared_sextets _)
  · intro tight digest short
    rw [accepts]
    constructor
    · rintro ⟨body, ns, rfl, spells, writes⟩
      have exact_ : ¬ (body ≠ ns.map (urlSafe.unit a) ∨ cleared ns ≠ ns) := fun loose =>
        tight ⟨body, ns, rfl, spells.isMultihash, writes, loose⟩
      push Not at exact_
      obtain ⟨rfl, clear⟩ := exact_
      unfold certhash write
      rw [← spells.same, clear]
    · rintro rfl
      exact ⟨_, sextets (multihash digest), rfl, ⟨sextets_lt _, cleared_sextets _, short⟩,
        own _ (sextets_lt _)⟩

omit [DecidableEq α] in
/-- No letter is one of these characters. -/
theorem urlSafe_ne {n : Nat} (small : n < 64) {d : Char} (ascii : d.toNat < 128)
    (other : ∀ n < 64, urlSafe.char n ≠ d) : urlSafe.unit a n ≠ a.unit d :=
  Ts.unit_ne (urlSafe.ascii n small) ascii (other n small)

theorem Go.written_own {ns : List Nat} (small : ∀ n ∈ ns, n < 64) :
    Go.Written a (ns.map (urlSafe.unit a)) ns := by
  unfold Go.Written
  refine List.filter_eq_self.mpr fun u member => ?_
  obtain ⟨n, found, rfl⟩ := List.mem_map.mp member
  have small := small n found
  unfold Go.isLineEnd
  rw [decide_eq_false (urlSafe_ne small (by decide) (by decide)),
    decide_eq_false (urlSafe_ne small (by decide) (by decide))]
  rfl

theorem Ts.visible {n : Nat} (small : n < 64) : isAsciiWhitespace a (urlSafe.unit a n) = false := by
  have apart : ∀ n < 64, urlSafe.char n ∉ ['\t', '\n', '\x0c', '\r', ' '] := by decide
  show isAsciiWhitespace a (a.unit (urlSafe.char n)) = false
  rw [isAsciiWhitespace_unit (urlSafe.ascii n small)]
  exact decide_eq_false (apart n small)

theorem Ts.written_own {ns : List Nat} (small : ∀ n ∈ ns, n < 64) :
    Ts.Written a (ns.map (urlSafe.unit a)) ns 0 := by
  have none : spaces a (ns.map (urlSafe.unit a)) = 0 := by
    refine List.countP_eq_zero.mpr fun u member => ?_
    obtain ⟨n, found, rfl⟩ := List.mem_map.mp member
    rw [visible (small n found)]
    exact Bool.false_ne_true
  refine ⟨?_, Or.inl ⟨by omega, by omega⟩⟩
  have kept : (ns.map (urlSafe.unit a)).filter (fun u => !isAsciiWhitespace a u) =
      ns.map (urlSafe.unit a) := by
    refine List.filter_eq_self.mpr fun u member => ?_
    obtain ⟨n, found, rfl⟩ := List.mem_map.mp member
    rw [visible (small n found)]
    rfl
  rw [kept, List.map_map, List.replicate_zero, List.append_nil]
  exact List.map_congr_left fun n member => toStandard_urlSafe (small n member)

theorem Go.written_unique (body : List α) (ns ns' : List Nat) (is : IsMultihash ns)
    (is' : IsMultihash ns')
    (writes : Go.Written a body ns) (writes' : Go.Written a body ns') : ns = ns' :=
  map_unit_inj is.small is'.small (writes.symm.trans writes')

theorem Ts.written_unique (body : List α) (ns ns' : List Nat) (is : IsMultihash ns)
    (is' : IsMultihash ns')
    (writes : ∃ e, Ts.Written a body ns e) (writes' : ∃ e, Ts.Written a body ns' e) : ns = ns' := by
  obtain ⟨e, writes⟩ := writes
  obtain ⟨e', writes'⟩ := writes'
  have same := writes.kept.symm.trans writes'.kept
  have letters :=
    List.append_inj_left same (by rw [List.length_map, List.length_map, is.length, is'.length])
  exact map_unit_inj is.small is'.small letters

omit [DecidableEq α] in
/-- The spelling of §3 is none of the loose ones. -/
theorem not_loose_certhash {written : List α → List Nat → Prop}
    (own : ∀ ns, (∀ n ∈ ns, n < 64) → written (ns.map (urlSafe.unit a)) ns)
    (unique : ∀ body ns ns', IsMultihash ns → IsMultihash ns' → written body ns → written body ns' →
      ns = ns')
    (short : digest.length = 32) : ¬ Loose a written (certhash a digest) := by
  rintro ⟨body, ns, same, is, writes, loose⟩
  obtain ⟨-, rfl⟩ := List.cons.inj same
  have canon : Spells (sextets (multihash digest)) digest :=
    ⟨sextets_lt _, cleared_sextets _, short⟩
  have numbers : ns = sextets (multihash digest) :=
    unique _ ns _ is canon.isMultihash writes (own _ (sextets_lt _))
  subst numbers
  exact loose.elim (fun other => other rfl) fun other => other (cleared_sextets _)

/-- **The decoders are canonical** on exactly those texts that neither Go nor TypeScript reads too
loosely. -/
theorem certhash_canonical_iff (a : Alphabet α) {engine : List α → Option Bytes}
    (strict : Rust.Strict a engine) (s : List α) :
    (∀ digest, digest.length = 32 → Canonical a engine s digest) ↔
      ¬ Go.Loose a s ∧ ¬ Ts.Loose a s := by
  have go := @canonical_iff α a s (fun digest => Go.decodeCerthash a s = .ok digest) (Go.Written a)
    (fun digest => Go.decodeCerthash_eq_ok) (fun ns small => Go.written_own small) Go.written_unique
  have ts := @canonical_iff α a s (fun digest => Ts.decodeCerthash a s = .ok digest)
    (fun body ns => ∃ e, Ts.Written a body ns e)
    (fun digest => by
      rw [Ts.decodeCerthash_eq_ok]
      constructor
      · rintro ⟨body, ns, e, same, spells, written⟩
        exact ⟨body, ns, same, spells, e, written⟩
      · rintro ⟨body, ns, same, spells, e, written⟩
        exact ⟨body, ns, e, same, spells, written⟩)
    (fun ns small => ⟨0, Ts.written_own small⟩) Ts.written_unique
  constructor
  · intro canonical
    exact ⟨go.mp fun digest short => (canonical digest short).go,
      ts.mp fun digest short => (canonical digest short).ts⟩
  · rintro ⟨tightGo, tightTs⟩ digest short
    refine ⟨?_, go.mpr tightGo digest short, ts.mpr tightTs digest short⟩
    rw [Rust.decodeCerthash_eq_ok strict, and_iff_left short]

/-- The certhash of 32 zero bytes. -/
theorem certhash_canonical_iff_zeros : Canonical .bytes (decode urlSafe .bytes true)
    (certhash .bytes (List.replicate 32 0)) (List.replicate 32 0) :=
  (certhash_canonical_iff .bytes Rust.strict_decode _).mpr
    ⟨not_loose_certhash (fun _ small => Go.written_own small) Go.written_unique rfl,
      not_loose_certhash (fun _ small => ⟨0, Ts.written_own small⟩) Ts.written_unique rfl⟩ _ rfl

/-- The certhash of 32 zero bytes, with an unused bit that is set. -/
def unusedBitSet : List UInt8 :=
  Alphabet.bytes.text "uEiAAAAAAAAAAAAAAAAAAAAAAAAAAAAAAAAAAAAAAAAAAAB"

/-- **One digest, several spellings**: Go and TypeScript read one that Rust refuses. -/
theorem certhash_misspelled : Go.decodeCerthash .bytes unusedBitSet = .ok (List.replicate 32 0) ∧
    Ts.decodeCerthash .bytes unusedBitSet = .ok (List.replicate 32 0) ∧
    Rust.decodeCerthash .bytes (decode urlSafe .bytes true) unusedBitSet = .error .base64url ∧
    ¬ Canonical .bytes (decode urlSafe .bytes true) unusedBitSet (List.replicate 32 0) := by
  have go : Go.decodeCerthash .bytes unusedBitSet = .ok (List.replicate 32 0) := by rfl
  have other : unusedBitSet ≠ certhash .bytes (List.replicate 32 0) := by decide
  exact ⟨go, by rfl, by rfl, fun canonical => other (canonical.go.mp go)⟩

end Kps
