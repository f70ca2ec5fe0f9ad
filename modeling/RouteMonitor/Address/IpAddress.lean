import RouteMonitor.Address.Ipv6

/-!
# IP addresses

An address of either family. Each text is an IPv4 literal, an IPv6 literal or neither; an address
that embeds an IPv4 address in the IPv6 space stays an IPv6 address.

Sixteen bytes have room for either family, and those that an address leaves unused are zero. Two
addresses are compared by their family and these bytes, which determine them.
-/

namespace RouteMonitor

inductive IpAddress
  | v4 (address : Ipv4)
  | v6 (address : Ipv6)

namespace IpAddress

inductive Family
  | v4
  | v6
deriving DecidableEq, Repr

def family : IpAddress → Family
  | .v4 _ => .v4
  | .v6 _ => .v6

def octets : IpAddress → Bytes
  | .v4 address => address.octets
  | .v6 address => address.octets

def storageSize : Nat := 16

/-- Zero bytes whose first ones are overwritten by the address. -/
def storage (ip : IpAddress) : Bytes :=
  ip.octets ++ (List.replicate storageSize 0).drop ip.octets.length

theorem eq_of_octets_eq {left right : IpAddress} (hfamily : left.family = right.family)
    (hoctets : left.octets = right.octets) : left = right := by
  cases left with
  | v4 left =>
    cases right with
    | v4 right => rw [Ipv4.eq_of_octets_eq hoctets]
    | v6 right => cases hfamily
  | v6 left =>
    cases right with
    | v4 right => cases hfamily
    | v6 right => rw [Ipv6.eq_of_octets_eq hoctets]

theorem length_octets_eq {left right : IpAddress} (hfamily : left.family = right.family) :
    left.octets.length = right.octets.length := by
  cases left with
  | v4 left =>
    cases right with
    | v4 right => rfl
    | v6 right => cases hfamily
  | v6 left =>
    cases right with
    | v4 right => cases hfamily
    | v6 right => exact (Ipv6.length_octets left).trans (Ipv6.length_octets right).symm

theorem eq_iff_storage {left right : IpAddress} :
    left.family = right.family ∧ left.storage = right.storage ↔ left = right := by
  constructor
  · intro hsame
    obtain ⟨hfamily, hstorage⟩ := hsame
    exact eq_of_octets_eq hfamily (List.append_inj_left hstorage (length_octets_eq hfamily))
  · intro heq
    rw [heq]
    exact ⟨rfl, rfl⟩

instance : DecidableEq IpAddress := fun _ _ => decidable_of_iff _ eq_iff_storage

def read? (text : Bytes) : Option IpAddress :=
  match Ipv4.read? text with
  | some address => some (.v4 address)
  | none => (Ipv6.read? text).map .v6

def render : IpAddress → Bytes
  | .v4 address => address.render
  | .v6 address => address.render

end IpAddress

end RouteMonitor
