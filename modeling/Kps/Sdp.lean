/-
**The offer a listener fabricates for a client**, over the characters or the bytes of its text.

The Rust and the Go listener write the same thirteen lines, of which two depend on the ufrag.

* `intended_iff` — the text consists of these lines if and only if the ufrag has no line end.
-/

import Kps.Lib.Lines

namespace Kps

open Kps.Lib

/-- The placeholder fingerprint. -/
def placeholderFp : String :=
  "AA:BB:CC:DD:EE:FF:00:11:22:33:44:55:66:77:88:99:AA:BB:CC:DD:EE:FF:00:11:22:33:44:55:66:77:88:99"

variable {α : Type} (a : Alphabet α)

/-- `fam` and `any_addr`. -/
def family (ipv6 : Bool) : String := if ipv6 then "IP6 ::" else "IP4 0.0.0.0"

/-- The lines of `build_client_offer`. -/
def offerLines (ipv6 : Bool) (port : Nat) (ufrag pwd : List α) : List (List α) :=
  [a.text "v=0",
    a.text ("o=- 0 0 IN " ++ family ipv6),
    a.text "s=-",
    a.text "t=0 0",
    a.text ("m=application " ++ toString port ++ " UDP/DTLS/SCTP webrtc-datachannel"),
    a.text ("c=IN " ++ family ipv6),
    a.text "a=mid:0",
    a.text "a=ice-ufrag:" ++ ufrag,
    a.text "a=ice-pwd:" ++ pwd,
    a.text ("a=fingerprint:sha-256 " ++ placeholderFp),
    a.text "a=setup:active",
    a.text "a=sctp-port:5000",
    a.text "a=max-message-size:1048576"]

/-- `build_client_offer`: the lines are joined, and a last end of line is added. -/
def clientOffer (ipv6 : Bool) (port : Nat) (ufrag pwd : List α) : List α :=
  [a.cr, a.lf].intercalate (offerLines a ipv6 port ufrag pwd) ++ [a.cr, a.lf]

theorem clientOffer_eq {ipv6 : Bool} {port : Nat} {ufrag pwd : List α} :
    clientOffer a ipv6 port ufrag pwd = a.unlines (offerLines a ipv6 port ufrag pwd) := by
  simp [clientOffer, offerLines, Alphabet.unlines, List.intercalate]

/-- All lines but those of the ufrag and of the password. -/
def others (lines : List (List α)) : List (List α) := lines.take 7 ++ lines.drop 9

/-- It is a ufrag line. -/
def isUfragLine [DecidableEq α] (line : List α) : Bool := decide (a.text "a=ice-ufrag:" <+: line)

/-- The text consists of thirteen lines; the only ufrag line has the ufrag, and all but it and the
password line are the ones an offer for any other ufrag has. -/
def Intended [DecidableEq α] (ends : LineEnd) (ipv6 : Bool) (port : Nat) (ufrag offer : List α) :
    Prop :=
  ∃ lines, offer = a.unlines lines ∧ (∀ line ∈ lines, a.IsLine ends line) ∧ lines.length = 13 ∧
    lines.filter (isUfragLine a) = [a.text "a=ice-ufrag:" ++ ufrag] ∧
    ∀ other pwd, others lines = others (offerLines a ipv6 port other pwd)

variable {a} {ends : LineEnd} {ipv6 : Bool} {port : Nat} {ufrag pwd : List α}

theorem plain_port (port : Nat) : ∀ c ∈ (toString port).toList, plain c = true := by
  intro c member
  have digits : (toString port).toList = Nat.toDigits 10 port := String.toList_ofList
  rw [digits] at member
  obtain ⟨least, most⟩ :=
    Char.isDigit_iff_toNat.mp (Nat.isDigit_of_mem_toDigits (by decide) (by decide) member)
  have least : 48 ≤ c.toNat := least
  have most : c.toNat ≤ 57 := most
  unfold plain
  simp only [Bool.and_eq_true, decide_eq_true_eq]
  refine ⟨⟨by omega, ?_⟩, ?_⟩
  · rintro rfl
    exact absurd least (by decide)
  · rintro rfl
    exact absurd least (by decide)

theorem plain_append {s t : String} (first : ∀ c ∈ s.toList, plain c = true)
    (second : ∀ c ∈ t.toList, plain c = true) :
    ∀ c ∈ (s ++ t).toList, plain c = true := by
  intro c member
  rw [String.toList_append] at member
  rcases List.mem_append.mp member with early | late
  · exact first c early
  · exact second c late

/-- The lines of an offer are lines, if the ufrag is one. -/
theorem isLine_offer (clean : a.IsLine ends ufrag) (free : a.IsLine .either pwd) :
    ∀ line ∈ offerLines a ipv6 port ufrag pwd, a.IsLine ends line := by
  have family : ∀ c ∈ (family ipv6).toList, plain c = true := by
    cases ipv6
    · exact plain_of_all (by decide)
    · exact plain_of_all (by decide)
  unfold offerLines
  simp only [List.forall_mem_cons]
  refine ⟨?_, ?_, ?_, ?_, ?_, ?_, ?_, ?_, ?_, ?_, ?_, ?_, ?_, fun line member => by cases member⟩
  · exact Alphabet.isLine_text (plain_of_all (by decide))
  · exact Alphabet.isLine_text (plain_append (plain_of_all (by decide)) family)
  · exact Alphabet.isLine_text (plain_of_all (by decide))
  · exact Alphabet.isLine_text (plain_of_all (by decide))
  · exact Alphabet.isLine_text
      (plain_append (plain_append (plain_of_all (by decide)) (plain_port port))
        (plain_of_all (by decide)))
  · exact Alphabet.isLine_text (plain_append (plain_of_all (by decide)) family)
  · exact Alphabet.isLine_text (plain_of_all (by decide))
  · exact (Alphabet.IsLine.append_iff (Alphabet.isLine_text (plain_of_all (by decide)))).mpr clean
  · exact (Alphabet.IsLine.append_iff (Alphabet.isLine_text (plain_of_all (by decide)))).mpr
      (.of_either free)
  · exact Alphabet.isLine_text (plain_of_all (by decide +kernel))
  · exact Alphabet.isLine_text (plain_of_all (by decide))
  · exact Alphabet.isLine_text (plain_of_all (by decide))
  · exact Alphabet.isLine_text (plain_of_all (by decide))

/-- A line that starts in another way is not the ufrag line. -/
theorem not_ufrag [DecidableEq α] {s : String} (ascii : s.toList.all (·.toNat < 128) = true)
    (differ : Alphabet.mismatch "a=ice-ufrag:".toList s.toList = true) (rest : List α) :
    ¬ isUfragLine a (a.text s ++ rest) = true :=
  fun found => Alphabet.mismatch_prefix (by decide) ascii differ rest (of_decide_eq_true found)

/-- The ufrag line is the only one. -/
theorem ufrag_line [DecidableEq α] : (offerLines a ipv6 port ufrag pwd).filter (isUfragLine a) =
    [a.text "a=ice-ufrag:" ++ ufrag] := by
  have whole {s : String} (ascii : s.toList.all (·.toNat < 128) = true)
      (differ : Alphabet.mismatch "a=ice-ufrag:".toList s.toList = true) :
      ¬ isUfragLine a (a.text s) = true := by
    rw [← List.append_nil (a.text s)]
    exact not_ufrag ascii differ []
  have found : isUfragLine a (a.text "a=ice-ufrag:" ++ ufrag) = true :=
    decide_eq_true (List.prefix_append _ _)
  unfold offerLines
  simp only [Alphabet.text_append, List.append_assoc]
  rw [List.filter_cons_of_neg (whole (by decide) (by decide)),
    List.filter_cons_of_neg (not_ufrag (by decide) (by decide) _),
    List.filter_cons_of_neg (whole (by decide) (by decide)),
    List.filter_cons_of_neg (whole (by decide) (by decide)),
    List.filter_cons_of_neg (not_ufrag (by decide) (by decide) _),
    List.filter_cons_of_neg (not_ufrag (by decide) (by decide) _),
    List.filter_cons_of_neg (whole (by decide) (by decide)),
    List.filter_cons_of_pos found,
    List.filter_cons_of_neg (not_ufrag (by decide) (by decide) _),
    List.filter_cons_of_neg (not_ufrag (by decide) (by decide) _),
    List.filter_cons_of_neg (whole (by decide) (by decide)),
    List.filter_cons_of_neg (whole (by decide) (by decide)),
    List.filter_cons_of_neg (whole (by decide) (by decide)), List.filter_nil]

/-- **An offer is as intended** if and only if its ufrag has no line end. -/
theorem intended_iff [DecidableEq α] (free : a.IsLine .either pwd) :
    Intended a ends ipv6 port ufrag (clientOffer a ipv6 port ufrag pwd) ↔ a.IsLine ends ufrag := by
  have header : a.IsLine .either (a.text "a=ice-ufrag:") :=
    Alphabet.isLine_text (plain_of_all (by decide))
  constructor
  · rintro ⟨lines, -, all, -, only, -⟩
    have member : a.text "a=ice-ufrag:" ++ ufrag ∈ lines := by
      have := only ▸ List.mem_singleton_self (a.text "a=ice-ufrag:" ++ ufrag)
      exact (List.mem_filter.mp this).1
    exact (Alphabet.IsLine.append_iff header).mp (all _ member)
  · intro clean
    exact ⟨offerLines a ipv6 port ufrag pwd, clientOffer_eq a, isLine_offer clean free, rfl,
      ufrag_line, fun _ _ => rfl⟩

end Kps
