import RouteMonitor.Address.IpAddress

/-!
# Socket addresses

An IP address with a port, written `a.b.c.d:port` or `[v6]:port`. Brackets hold an IPv6 address and
nothing else, and an IPv6 address never stands without them, so the colon before the port is never
in doubt.
-/

namespace RouteMonitor

abbrev Port := UInt16

/-- One to five digits, leading zeros included. -/
def Port.read? (text : Bytes) : Option Port :=
  match Decimal.nat? text with
  | some number => if text.length ≤ 5 ∧ number < 65536 then some (UInt16.ofNat number) else none
  | none => none

def Port.render (port : Port) : Bytes := Decimal.ofNat port.toNat

structure SocketAddress where
  ip : IpAddress
  port : Port
deriving DecidableEq

namespace SocketAddress

def readV4? (text : Bytes) : Option SocketAddress :=
  match text.cutLast? (byte ':') with
  | none => none
  | some (host, port) =>
    match Ipv4.read? host, Port.read? port with
    | some address, some port => some ⟨.v4 address, port⟩
    | _, _ => none

/-- Reads what follows the opening bracket. -/
def readV6? (text : Bytes) : Option SocketAddress :=
  match text.cut? (utf8 "]") with
  | some (host, colon :: port) =>
    match IpAddress.read? host, Port.read? port with
    | some (.v6 address), some port =>
      if colon = byte ':' then some ⟨.v6 address, port⟩ else none
    | _, _ => none
  | _ => none

def read? : Bytes → Option SocketAddress
  | [] => none
  | b :: rest => if b = byte '[' then readV6? rest else readV4? (b :: rest)

def faultMessage : Bytes := utf8 "invalid socket address syntax"

def read (text : Bytes) : Except Bytes SocketAddress :=
  match read? text with
  | some address => .ok address
  | none => .error faultMessage

def render (address : SocketAddress) : Bytes :=
  match address.ip with
  | .v4 ip => ip.render ++ utf8 ":" ++ address.port.render
  | .v6 ip => utf8 "[" ++ ip.render ++ utf8 "]:" ++ address.port.render

end SocketAddress

end RouteMonitor
