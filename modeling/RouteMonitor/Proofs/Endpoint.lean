import RouteMonitor.Endpoint
import RouteMonitor.Proofs.Address.RoundTrip
import RouteMonitor.Proofs.Address.SocketAddress

/-!
# The texts of endpoints

An endpoint takes a socket address as it is and gives a bare IP address the port of its protocol.
Only a NUL byte could hide a port behind an IP address, so no other text is both, and it does not
matter which of the two is tried first: an IPv6 address whose last group looks like a port stays
whole. The two peers therefore differ in the port of a bare address and in nothing else, and the
listener differs from the BGP peer only where that refuses the text.
-/

namespace RouteMonitor

namespace IpAddress

theorem nul_not_mem_render (ip : IpAddress) : 0 ∉ ip.render := by
  cases ip with
  | v4 address => exact Ipv4.not_mem_render (by decide) address
  | v6 address => exact Ipv6.not_mem_render (by decide) address

end IpAddress

namespace Endpoint

variable {endpoint : Endpoint} {text : Bytes} {ip : IpAddress} {address : SocketAddress}

theorem readAddress?_of_address (haddress : SocketAddress.read? text = some address) :
    endpoint.readAddress? text = some address := by
  unfold readAddress?
  rw [haddress]

theorem readAddress?_of_no_address (haddress : SocketAddress.read? text = none) :
    endpoint.readAddress? text =
      (IpAddress.read? text).map fun ip => ⟨ip, endpoint.defaultPort⟩ := by
  unfold readAddress?
  rw [haddress]

theorem read_of_address (haddress : SocketAddress.read? text = some address) :
    endpoint.read text = .ok address := by
  unfold read
  rw [readAddress?_of_address haddress]

theorem read_of_ip (haddress : SocketAddress.read? text = none)
    (hip : IpAddress.read? text = some ip) :
    endpoint.read text = .ok ⟨ip, endpoint.defaultPort⟩ := by
  unfold read
  rw [readAddress?_of_no_address haddress, hip]
  rfl

theorem readAddress?_of_neither (haddress : SocketAddress.read? text = none)
    (hip : IpAddress.read? text = none) : endpoint.readAddress? text = none := by
  rw [readAddress?_of_no_address haddress, hip]
  rfl

/-- Trying the bare address first gives the same. -/
theorem readAddress?_eq_or_of_no_nul (hnul : 0 ∉ text) :
    endpoint.readAddress? text =
      ((IpAddress.read? text).map fun ip => ⟨ip, endpoint.defaultPort⟩).or
        (SocketAddress.read? text) := by
  cases hip : IpAddress.read? text with
  | some ip =>
    rw [readAddress?_of_no_address (SocketAddress.read?_eq_none_of_ip hip hnul), hip]
    rfl
  | none =>
    cases haddress : SocketAddress.read? text with
    | some address => exact readAddress?_of_address haddress
    | none => exact readAddress?_of_neither haddress hip

theorem read_render (endpoint : Endpoint) (address : SocketAddress) :
    endpoint.read address.render = .ok address :=
  read_of_address (SocketAddress.read?_render address)

theorem read_render_ip (endpoint : Endpoint) (ip : IpAddress) :
    endpoint.read ip.render = .ok ⟨ip, endpoint.defaultPort⟩ := by
  have hip := IpAddress.read?_render ip
  exact read_of_ip (SocketAddress.read?_eq_none_of_ip hip ip.nul_not_mem_render) hip

/-- What a text gives the two peers. -/
theorem read_peers_cases (text : Bytes) :
    (∃ address, SocketAddress.read? text = some address ∧
        Endpoint.bgpPeer.read text = .ok address ∧ Endpoint.bmpPeer.read text = .ok address) ∨
      (∃ ip, IpAddress.read? text = some ip ∧ Endpoint.bgpPeer.read text = .ok ⟨ip, 179⟩ ∧
        Endpoint.bmpPeer.read text = .ok ⟨ip, 632⟩) ∨
      ∃ cause, Endpoint.bgpPeer.read text = .error cause ∧
        Endpoint.bmpPeer.read text = .error cause := by
  cases haddress : SocketAddress.read? text with
  | some address => exact .inl ⟨address, rfl, read_of_address haddress, read_of_address haddress⟩
  | none =>
    cases hip : IpAddress.read? text with
    | some ip => exact .inr (.inl ⟨ip, rfl, read_of_ip haddress hip, read_of_ip haddress hip⟩)
    | none =>
      refine .inr (.inr ⟨SocketAddress.faultMessage, ?_, ?_⟩)
      all_goals
        unfold read
        rw [readAddress?_of_neither haddress hip]

/-- Where the BGP peer is refused, the listener takes the wildcard address. -/
theorem read_protoListen (text : Bytes) :
    Endpoint.protoListen.read text =
      .ok (match Endpoint.bgpPeer.read text with
        | .ok address => address
        | .error _ => ⟨.v4 ⟨0, 0, 0, 0⟩, 179⟩) := by
  have hsame : Endpoint.protoListen.readAddress? text = Endpoint.bgpPeer.readAddress? text := rfl
  unfold read
  rw [hsame]
  cases Endpoint.bgpPeer.readAddress? text with
  | some address => rfl
  | none => rfl

/-- Every address and every IP address is read from its written form, which is never taken for one
of the other kind; a text without a NUL byte is one of the two at most, whichever is tried first.
The two peers accept the same texts and give the same IP address; the listener accepts all. -/
theorem endpoints_complete_bare_addresses :
    (∀ (endpoint : Endpoint) (ip : IpAddress), endpoint.read ip.render =
        .ok ⟨ip, match endpoint with
          | .bgpPeer | .protoListen => 179
          | .bmpPeer => 632⟩) ∧
      (∀ (endpoint : Endpoint) (address : SocketAddress),
        endpoint.read address.render = .ok address) ∧
      (∀ text, 0 ∉ text → SocketAddress.read? text = none ∨ IpAddress.read? text = none) ∧
      (∀ (endpoint : Endpoint) text, 0 ∉ text → endpoint.readAddress? text =
        ((IpAddress.read? text).map fun ip => ⟨ip, endpoint.defaultPort⟩).or
          (SocketAddress.read? text)) ∧
      (∀ text,
        (∃ address, SocketAddress.read? text = some address ∧
            Endpoint.bgpPeer.read text = .ok address ∧ Endpoint.bmpPeer.read text = .ok address) ∨
          (∃ ip, IpAddress.read? text = some ip ∧ Endpoint.bgpPeer.read text = .ok ⟨ip, 179⟩ ∧
            Endpoint.bmpPeer.read text = .ok ⟨ip, 632⟩) ∨
          ∃ cause, Endpoint.bgpPeer.read text = .error cause ∧
            Endpoint.bmpPeer.read text = .error cause) ∧
      ∀ text, Endpoint.protoListen.read text =
        .ok (match Endpoint.bgpPeer.read text with
          | .ok address => address
          | .error _ => ⟨.v4 ⟨0, 0, 0, 0⟩, 179⟩) := by
  refine ⟨fun endpoint ip => ?bare, read_render, fun text hnul => ?disjoint,
    fun endpoint text hnul => readAddress?_eq_or_of_no_nul hnul, read_peers_cases,
    read_protoListen⟩
  case bare =>
    rw [read_render_ip]
    cases endpoint with
    | bgpPeer => rfl
    | bmpPeer => rfl
    | protoListen => rfl
  case disjoint =>
    cases hip : IpAddress.read? text with
    | none => exact .inr rfl
    | some ip => exact .inl (SocketAddress.read?_eq_none_of_ip hip hnul)

/-- The last group of an IPv6 address is no port, also where a dotted quad ends the address. -/
theorem last_group_is_no_port :
    SocketAddress.read? (utf8 "::80") = none ∧
      SocketAddress.read? (utf8 "::ffff:1.2.3.4") = none ∧
      Endpoint.bmpPeer.readAddress? (utf8 "::80") =
        some ⟨.v6 ⟨[0, 0, 0, 0, 0, 0, 0, 128], rfl⟩, 632⟩ := by
  obtain ⟨-, -, hdisjoint, hor, -, -⟩ := endpoints_complete_bare_addresses
  have hgroup : IpAddress.read? (utf8 "::80") = some (.v6 ⟨[0, 0, 0, 0, 0, 0, 0, 128], rfl⟩) := by
    decide
  have hquad : IpAddress.read? (utf8 "::ffff:1.2.3.4") ≠ none := by decide
  refine ⟨(hdisjoint _ (by decide)).resolve_right fun hnone => ?_,
    (hdisjoint _ (by decide)).resolve_right hquad, ?_⟩
  · rw [hgroup] at hnone
    cases hnone
  · rw [hor _ _ (by decide), hgroup]
    rfl

end Endpoint

end RouteMonitor
