/-
**Where the listeners' replies go** (the normalisation in `pump`, `map_for_socket` and the two
callers of it in `listener.rs`; the normalisation in `pump` of `listener.go`).

The pump keys a datagram by its source under the canonical address, both transports reply to that
key, and `map_for_socket` turns it back into an address of the socket's family. An endpoint is what
a datagram is sent to: the address, the port and the scope. A socket reports sources of its own
family; an IPv4 address has no scope.

* `Rust.fromAddr_eq_iff` — which sources have one key;
* `Rust.replies_return_iff` — replies return, and keys are those of one endpoint, exactly for the
  sources without a scope;
* `Go.keys_separate` — the Go listener keeps the scope, and its keys are those of one endpoint.
-/

import Kps.Offer

namespace Kps

/-- An IPv4-mapped IPv6 address, from its last 32 bits. -/
theorem mapped_eq {octets : BitVec 128} (mapped : octets.extractLsb' 32 96 = 0xFFFF#96) :
    0xFFFF#96 ++ octets.extractLsb' 0 32 = octets := by
  rw [← mapped]
  exact @BitVec.extractLsb'_append_extractLsb' 96 32 octets

namespace Rust

/-- `to_ipv6_mapped`. -/
def toIpv6Mapped (octets : BitVec 32) : BitVec 128 := 0xFFFF#96 ++ octets

def mapForSocket (local_ target : SocketAddr) : SocketAddr :=
  match local_.ip, target.ip with
  | .v6 _, .v4 octets => { ip := .v6 (toIpv6Mapped octets), port := target.port }
  | _, _ => target

/-- Where a reply to the datagram goes: `PcConn::send_to` and `DemuxUdpSocket::try_send`. -/
def replyTo (local_ : SocketAddr) (d : Datagram) : SocketAddr := mapForSocket local_ d.fromAddr

/-- What a datagram is sent to. -/
def SocketAddr.endpoint (addr : SocketAddr) : IpAddr × UInt16 × UInt32 :=
  (addr.ip, addr.port, addr.scopeId)

/-- The socket may report this source. -/
structure Reported (local_ source : SocketAddr) : Prop where
  family : source.isIpv6 = local_.isIpv6
  plain : source.isIpv6 = false → source.flowinfo = 0 ∧ source.scopeId = 0

namespace IpAddr

/-- Back from the canonical address, for a socket of this family. -/
theorem mapForSocket_toCanonical {local_ : SocketAddr} {ip : IpAddr} {port : UInt16}
    (family : SocketAddr.isIpv6 { ip := ip, port := port } = local_.isIpv6) :
    mapForSocket local_ { ip := ip.toCanonical, port := port } = { ip := ip, port := port } := by
  unfold mapForSocket
  cases ip with
  | v4 octets =>
    cases socket : local_.ip with
    | v4 own => rfl
    | v6 own => simp [SocketAddr.isIpv6, socket] at family
  | v6 octets =>
    cases socket : local_.ip with
    | v4 own => simp [SocketAddr.isIpv6, socket] at family
    | v6 own =>
      by_cases mapped : octets.extractLsb' 32 96 = 0xFFFF#96
      · have canonical : toCanonical (.v6 octets) = .v4 (octets.extractLsb' 0 32) := if_pos mapped
        rw [canonical]
        exact congrArg (fun bits => ({ ip := .v6 bits, port := port } : SocketAddr))
          (mapped_eq mapped)
      · have canonical : toCanonical (.v6 octets) = .v6 octets := if_neg mapped
        rw [canonical]

end IpAddr

variable {local_ : SocketAddr} {d d' : Datagram}

/-- A reply goes to the address and the port of the source, whatever its scope. -/
theorem replyTo_eq (reported : Reported local_ d.source) :
    replyTo local_ d = { ip := d.source.ip, port := d.source.port } := by
  apply IpAddr.mapForSocket_toCanonical
  rw [← reported.family]
  rfl

/-- One key is one address and one port: the scope is not in it. -/
theorem fromAddr_eq_iff (reported : Reported local_ d.source)
    (reported' : Reported local_ d'.source) :
    d.fromAddr = d'.fromAddr ↔ d.source.ip = d'.source.ip ∧ d.source.port = d'.source.port := by
  constructor
  · intro same
    have back : replyTo local_ d = replyTo local_ d' := congrArg (mapForSocket local_) same
    rw [replyTo_eq reported, replyTo_eq reported'] at back
    exact ⟨(SocketAddr.mk.inj back).1, (SocketAddr.mk.inj back).2.1⟩
  · intro ⟨ip, port⟩
    unfold Datagram.fromAddr
    rw [ip, port]

/-- **Replies return** exactly to the sources without a scope, and two sources with one key are one
endpoint exactly if they do not differ in the scope alone. -/
theorem replies_return_iff (reported : Reported local_ d.source)
    (reported' : Reported local_ d'.source) :
    ((replyTo local_ d).endpoint = d.source.endpoint ↔ d.source.scopeId = 0) ∧
    ((d.fromAddr = d'.fromAddr → d.source.endpoint = d'.source.endpoint) ↔
      (d.source.ip = d'.source.ip → d.source.port = d'.source.port →
        d.source.scopeId = d'.source.scopeId)) := by
  constructor
  · rw [replyTo_eq reported]
    unfold SocketAddr.endpoint
    constructor
    · intro returns
      exact (congrArg (fun endpoint => endpoint.2.2) returns).symm
    · intro unscoped
      rw [unscoped]
  · rw [fromAddr_eq_iff reported reported']
    unfold SocketAddr.endpoint
    constructor
    · intro separates ip port
      exact congrArg (fun endpoint => endpoint.2.2) (separates ⟨ip, port⟩)
    · intro scopes same
      rw [same.1, same.2, scopes same.1 same.2]

/-- A datagram from the link-local address `fe80::1`, port 4000, on the link with this number. -/
def linkLocal (scopeId : UInt32) : Datagram where
  source := { ip := .v6 0xfe800000000000000000000000000001#128, port := 4000, scopeId := scopeId }
  isMessage := false

/-- What a bare `:443` binds. -/
def dualStack : SocketAddr := { ip := .v6 0#128, port := 443 }

/-- A datagram from `192.0.2.1`, port 4000, as a socket of both families reports it. -/
def mappedClient (isMessage : Bool) : Datagram where
  source := { ip := .v6 (toIpv6Mapped 0xc0000201#32), port := 4000 }
  isMessage := isMessage

/-- A reply to an IPv4 client returns, and its datagrams have one key; one to a link-local client
does not, and two such clients have one key. -/
theorem replies_return_iff_linkLocal :
    (replyTo dualStack (mappedClient false)).endpoint = (mappedClient false).source.endpoint ∧
    (mappedClient false).fromAddr = (mappedClient true).fromAddr ∧
    ((mappedClient false).fromAddr = (mappedClient true).fromAddr →
      (mappedClient false).source.endpoint = (mappedClient true).source.endpoint) ∧
    (replyTo dualStack (linkLocal 1)).endpoint ≠ (linkLocal 1).source.endpoint ∧
    ¬((linkLocal 1).fromAddr = (linkLocal 2).fromAddr →
      (linkLocal 1).source.endpoint = (linkLocal 2).source.endpoint) := by
  have mapped (isMessage : Bool) : Reported dualStack (mappedClient isMessage).source :=
    ⟨rfl, by simp [mappedClient, SocketAddr.isIpv6]⟩
  have first : Reported dualStack (linkLocal 1).source := ⟨rfl, by decide⟩
  have second : Reported dualStack (linkLocal 2).source := ⟨rfl, by decide⟩
  obtain ⟨returns, separates⟩ := replies_return_iff (mapped false) (mapped true)
  obtain ⟨lost, shared⟩ := replies_return_iff first second
  refine ⟨returns.mpr rfl, rfl, separates.mpr fun _ _ => rfl, mt lost.mp (by decide),
    mt shared.mp fun scopes => ?_⟩
  exact absurd (scopes rfl rfl) (by decide)

/-- **The scope is lost**: a reply to a link-local client names no link, and two clients on two
links have one key. -/
theorem scope_lost :
    Reported dualStack (linkLocal 1).source ∧ Reported dualStack (linkLocal 2).source ∧
    (replyTo dualStack (linkLocal 1)).endpoint ≠ (linkLocal 1).source.endpoint ∧
    (linkLocal 1).fromAddr = (linkLocal 2).fromAddr ∧
    (linkLocal 1).source.endpoint ≠ (linkLocal 2).source.endpoint :=
  ⟨⟨rfl, by decide⟩, ⟨rfl, by decide⟩, by decide, by decide, by decide⟩

end Rust

namespace Go

/-- A socket of the family may report this source; a mapped address has no zone. -/
structure Reported (isIPv6 : Bool) (source : AddrPort) : Prop where
  family : (∃ octets zone, source.addr = .v6 octets zone) ↔ isIPv6 = true
  plain : ∀ octets zone, source.addr = .v6 octets zone → octets.extractLsb' 32 96 = 0xFFFF#96 →
    zone = ""

theorem Reported.unmap_inj {isIPv6 : Bool} {source source' : AddrPort}
    (reported : Reported isIPv6 source)
    (reported' : Reported isIPv6 source') (same : source.addr.unmap = source'.addr.unmap) :
      source.addr = source'.addr := by
  have sides := reported.family.trans reported'.family.symm
  cases addr : source.addr with
  | v4 octets =>
    cases addr' : source'.addr with
    | v4 octets' => rw [addr, addr'] at same; exact same
    | v6 octets' zone' =>
      obtain ⟨_, _, wrong⟩ := sides.mpr ⟨octets', zone', addr'⟩
      rw [addr] at wrong
      cases wrong
  | v6 octets zone =>
    obtain ⟨octets', zone', addr'⟩ := sides.mp ⟨octets, zone, addr⟩
    rw [addr, addr'] at same
    rw [addr']
    by_cases mapped : octets.extractLsb' 32 96 = 0xFFFF#96
    · have bare := reported.plain octets zone addr mapped
      by_cases mapped' : octets'.extractLsb' 32 96 = 0xFFFF#96
      · have bare' := reported'.plain octets' zone' addr' mapped'
        have tail : octets.extractLsb' 0 32 = octets'.extractLsb' 0 32 := by
          simpa [Addr.unmap, mapped, mapped'] using same
        rw [bare, bare', ← mapped_eq mapped, ← mapped_eq mapped', tail]
      · simp [Addr.unmap, mapped, mapped'] at same
    · by_cases mapped' : octets'.extractLsb' 32 96 = 0xFFFF#96
      · simp [Addr.unmap, mapped, mapped'] at same
      · simpa [Addr.unmap, mapped, mapped'] using same

/-- **One key is one endpoint**, the zone included. -/
theorem keys_separate {isIPv6 : Bool} {d d' : Datagram} (reported : Reported isIPv6 d.source)
    (reported' : Reported isIPv6 d'.source) : d.srcAddr = d'.srcAddr ↔ d.source = d'.source := by
  constructor
  · intro same
    have addr : d.source.addr.unmap = d'.source.addr.unmap := congrArg AddrPort.addr same
    have port : d.source.port = d'.source.port := (AddrPort.mk.inj same).2
    have equal : d.source.addr = d'.source.addr := reported.unmap_inj reported' addr
    show AddrPort.mk d.source.addr d.source.port = AddrPort.mk d'.source.addr d'.source.port
    rw [equal, port]
  · intro same
    unfold Datagram.srcAddr
    rw [same]

end Go

end Kps
