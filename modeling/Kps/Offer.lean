/-
**What a STUN message can put into an offer** (`extract_ufrag`, `spawn_pc` and `build_client_offer`
of the Rust listener, `extractUfrag`, `spawnPC` and `buildClientOffer` of the Go listener).

The username of a STUN message is not authenticated, and what stands before its first colon goes
into the offer. What the STUN library finds in a packet, and whether the peer connection can be
created before the offer is written, are arbitrary; so is the hash of the password. A Rust string
consists of characters, a Go string of bytes.

* `offers_intended` — an offer consists of the intended lines if and only if the ufrag has no line
  end;
* `offers_injected` — a username that adds a line to the offer.
-/

import Kps.Go.Listener
import Kps.Lib.Base64
import Kps.Rust.Listener
import Kps.Sdp

namespace Kps

open Kps.Lib

/-- `hmac` over SHA-256: the key and the message. -/
abbrev Hmac := Bytes → Bytes → Bytes

namespace Rust

/-- `derive_ice_pwd`. -/
def deriveIcePwd (hmac : Hmac) (certhashDigest : Bytes) (ufrag : String) : String :=
  String.ofList
    (Base64.encode (hmac certhashDigest (("kps-ice-pwd-v1:" ++ ufrag).toUTF8.data.toList)))

/-- `is_ipv6`. -/
def SocketAddr.isIpv6 (addr : SocketAddr) : Bool :=
  match addr.ip with
  | .v4 _ => false
  | .v6 _ => true

def buildClientOffer (ufrag pwd : String) (port : UInt16) (clientAddr : SocketAddr) : String :=
  String.ofList (clientOffer .chars clientAddr.isIpv6 port.toNat ufrag.toList pwd.toList)

theorem toList_buildClientOffer (ufrag pwd : String) (port : UInt16) (clientAddr : SocketAddr) :
    (buildClientOffer ufrag pwd port clientAddr).toList =
      clientOffer .chars clientAddr.isIpv6 port.toNat ufrag.toList pwd.toList :=
        String.toList_ofList

/-- A password has no line end. -/
theorem isLine_deriveIcePwd (hmac : Hmac) (certhashDigest : Bytes) (ufrag : String) :
    Alphabet.chars.IsLine .either (deriveIcePwd hmac certhashDigest ufrag).toList := by
  unfold deriveIcePwd
  rw [String.toList_ofList, ← List.map_id (Base64.encode _)]
  exact Base64.isLine_encode .chars _

/-- The offer of `spawn_pc`, which is called for the ufrag of a message; `created` tells whether all
that may fail before it succeeds. -/
def spawnPcOffer (hmac : Hmac) (certhashDigest : Bytes) (created : Bool) (port : UInt16)
    (d : Datagram) :
    Option String :=
  if d.isMessage && created then
    (extractUfrag d).map fun ufrag =>
      buildClientOffer ufrag (deriveIcePwd hmac certhashDigest ufrag) port d.fromAddr
  else none

end Rust

namespace Go

/-- What the STUN library finds in a packet: `username` is the value of the USERNAME attribute, when
the message decodes. -/
structure StunPacket where
  isMessage : Bool
  username : Option Bytes
  deriving DecidableEq, Repr

/-- `extractUfrag`: what stands before the first colon; empty when there is none. -/
def StunPacket.extractUfrag (p : StunPacket) : Bytes := (p.username.getD []).takeWhile (· ≠ 58)

def deriveICEPwd (hmac : Hmac) (certhashDigest ufrag : Bytes) : Bytes :=
  (Base64.encode (hmac certhashDigest (Alphabet.bytes.text "kps-ice-pwd-v1:" ++ ufrag))).map
    Alphabet.bytes.unit

/-- `clientIP.IsValid() && !clientIP.Unmap().Is4()`; `none` is the zero address. -/
def isIPv6 (clientIP : Option Addr) : Bool :=
  match clientIP.map Addr.unmap with
  | some (.v6 _ _) => true
  | _ => false

def buildClientOffer (ufrag pwd : Bytes) (port : Nat) (clientIP : Option Addr) : Bytes :=
  clientOffer .bytes (isIPv6 clientIP) port ufrag pwd

/-- The offer of `spawnPC`, which is called for a ufrag that is not empty; `created` tells whether
all that may fail before it succeeds. -/
def spawnPCOffer (hmac : Hmac) (certhashDigest : Bytes) (created : Bool) (port : Nat)
    (clientIP : Option Addr) (p : StunPacket) : Option Bytes :=
  if p.isMessage && !p.extractUfrag.isEmpty && created then
    some (buildClientOffer p.extractUfrag (deriveICEPwd hmac certhashDigest p.extractUfrag) port
      clientIP)
  else none

end Go

/-- **No injection from the network.** Whatever is taken for the end of a line: for a message with a
ufrag, the Rust listener and the Go listener write no offer, or one that consists of the thirteen
intended lines, if and only if they write none or the ufrag has no line end. -/
theorem offers_intended (hmac : Hmac) (certhashDigest : Bytes) (created : Bool) (ends : LineEnd) :
    (∀ port d ufrag, d.isMessage = true → Rust.extractUfrag d = some ufrag →
      ((∀ offer, Rust.spawnPcOffer hmac certhashDigest created port d = some offer →
          Intended .chars ends d.fromAddr.isIpv6 port.toNat ufrag.toList offer.toList) ↔
        (created = true → Alphabet.chars.IsLine ends ufrag.toList))) ∧
    ∀ port clientIP p, p.isMessage = true → p.extractUfrag ≠ [] →
      ((∀ offer, Go.spawnPCOffer hmac certhashDigest created port clientIP p = some offer →
          Intended .bytes ends (Go.isIPv6 clientIP) port p.extractUfrag offer) ↔
        (created = true → Alphabet.bytes.IsLine ends p.extractUfrag)) := by
  constructor
  · intro port d ufrag message found
    unfold Rust.spawnPcOffer
    rw [message, found]
    cases created with
    | false =>
      refine iff_of_true (fun offer written => ?_) fun created => ?_
      · cases written
      · cases created
    | true =>
      have free := Rust.isLine_deriveIcePwd hmac certhashDigest ufrag
      have intended :=
        @intended_iff _ .chars ends d.fromAddr.isIpv6 port.toNat ufrag.toList _ _ free
      rw [← Rust.toList_buildClientOffer] at intended
      constructor
      · exact fun all _ => intended.mp (all _ rfl)
      · intro clean offer written
        cases written
        exact intended.mpr (clean rfl)
  · intro port clientIP p message named
    have nonempty : p.extractUfrag.isEmpty = false := by
      rw [← Bool.not_eq_true, List.isEmpty_iff]
      exact named
    unfold Go.spawnPCOffer
    rw [message, nonempty]
    cases created with
    | false =>
      refine iff_of_true (fun offer written => ?_) fun created => ?_
      · cases written
      · cases created
    | true =>
      have intended := @intended_iff _ .bytes ends (Go.isIPv6 clientIP) port p.extractUfrag _ _
        (Base64.isLine_encode .bytes
          (hmac certhashDigest (Alphabet.bytes.text "kps-ice-pwd-v1:" ++ p.extractUfrag)))
      constructor
      · exact fun all _ => intended.mp (all _ rfl)
      · intro clean offer written
        cases written
        exact intended.mpr (clean rfl)

/-- The certificate digest of the reference vector of `ice.rs`. -/
def referenceDigest : Bytes := List.replicate 32 0x11

/-- The hash of the reference vector. -/
def referenceHmac : Hmac := fun _ _ =>
  [69, 27, 59, 171, 29, 193, 69, 244, 195, 182, 235, 217, 83, 72, 34, 250, 149, 142, 219, 117, 253,
    153, 17,
  240, 178, 53, 75, 249, 13, 214, 158, 83]

/-- The username of a client with the ufrag of the reference vector. -/
def rustClient : Rust.Datagram where
  source := ⟨.v4 0xC0000201#32, 4000, 0, 0⟩
  isMessage := true
  username := some "abcd1234:abcd1234"

def goClient : Go.StunPacket where
  isMessage := true
  username := some (Alphabet.bytes.text "abcd1234:abcd1234")

theorem offers_intended_client :
    Rust.deriveIcePwd referenceHmac referenceDigest "abcd1234" =
      "RRs7qx3BRfTDtuvZU0gi+pWO23X9mRHwsjVL+Q3WnlM" ∧
    (∀ offer, Rust.spawnPcOffer referenceHmac referenceDigest true 4433 rustClient = some offer →
      Intended .chars .either false 4433 "abcd1234".toList offer.toList) ∧
    ∀ offer, Go.spawnPCOffer referenceHmac referenceDigest true 4433 none goClient = some offer →
      Intended .bytes .either false 4433 (Alphabet.bytes.text "abcd1234") offer := by
  obtain ⟨rust, go⟩ := offers_intended referenceHmac referenceDigest true .either
  refine ⟨by decide, ?_, ?_⟩
  · exact (rust 4433 rustClient "abcd1234" rfl (by decide)).mpr fun _ => by decide
  · exact (go 4433 none goClient rfl (by decide)).mpr fun _ => by decide

/-- A username with a line end before its first colon. -/
def rustInjection : Rust.Datagram := { rustClient with username := some "abcd\r\na=ice-lite:abcd" }

def goInjection : Go.StunPacket :=
  { goClient with username := some (Alphabet.bytes.text "abcd\r\na=ice-lite:abcd") }

/-- The lines that an offer for `abcd` has, and one more. -/
def injectedLines {α : Type} (a : Alphabet α) (pwd : List α) : List (List α) :=
  (offerLines a false 4433 (a.text "abcd") pwd).insertIdx 8 (a.text "a=ice-lite")

theorem injected_offer {α : Type} (a : Alphabet α) (pwd : List α) :
    clientOffer a false 4433 (a.text "abcd\r\na=ice-lite") pwd =
      a.unlines (injectedLines a pwd) := by
  have split : a.text "abcd\r\na=ice-lite" = a.text "abcd" ++ [a.cr, a.lf] ++ a.text "a=ice-lite" :=
    rfl
  rw [clientOffer_eq, split]
  simp [injectedLines, offerLines, Alphabet.unlines]

/-- **A sender adds a line of its own to the offer**, of a Rust listener and of a Go listener. -/
theorem offers_injected :
    (∃ offer pwd, Rust.spawnPcOffer referenceHmac referenceDigest true 4433 rustInjection =
      some offer ∧ offer.toList = Alphabet.chars.unlines (injectedLines .chars pwd) ∧
      ∀ ends, ¬ Intended .chars ends false 4433 "abcd\r\na=ice-lite".toList offer.toList) ∧
    ∃ offer pwd, Go.spawnPCOffer referenceHmac referenceDigest true 4433 none goInjection =
      some offer ∧ offer = Alphabet.bytes.unlines (injectedLines .bytes pwd) ∧
      ∀ ends,
      ¬ Intended .bytes ends false 4433 (Alphabet.bytes.text "abcd\r\na=ice-lite") offer := by
  constructor
  · have found : Rust.extractUfrag rustInjection = some "abcd\r\na=ice-lite" := by decide
    have unclean (ends : LineEnd) : ¬ Alphabet.chars.IsLine ends "abcd\r\na=ice-lite".toList := by
      cases ends <;> decide
    have text : "abcd\r\na=ice-lite".toList = Alphabet.chars.text "abcd\r\na=ice-lite" := by decide
    have offer : Rust.spawnPcOffer referenceHmac referenceDigest true 4433 rustInjection =
        some (Rust.buildClientOffer "abcd\r\na=ice-lite"
          (Rust.deriveIcePwd referenceHmac referenceDigest "abcd\r\na=ice-lite") 4433
            rustInjection.fromAddr) := by
      unfold Rust.spawnPcOffer
      rw [found]
      rfl
    refine ⟨_, (Rust.deriveIcePwd referenceHmac referenceDigest "abcd\r\na=ice-lite").toList, offer,
      ?_, fun ends intended => ?_⟩
    · rw [Rust.toList_buildClientOffer, text]
      exact injected_offer .chars _
    · rw [Rust.toList_buildClientOffer] at intended
      exact unclean ends
        ((@intended_iff _ .chars ends false 4433 _ _ _ (Rust.isLine_deriveIcePwd _ _ _)).mp
          intended)
  · have unclean (ends : LineEnd) :
        ¬ Alphabet.bytes.IsLine ends (Alphabet.bytes.text "abcd\r\na=ice-lite") := by
      cases ends <;> decide
    refine ⟨_,
      Go.deriveICEPwd referenceHmac referenceDigest (Alphabet.bytes.text "abcd\r\na=ice-lite"), rfl,
      injected_offer .bytes _, fun ends intended => ?_⟩
    exact unclean ends
      ((@intended_iff _ .bytes ends false 4433 _ _ _ (Base64.isLine_encode .bytes _)).mp intended)

end Kps
