import RouteMonitor.Address.SocketAddress
import RouteMonitor.Mode
import RouteMonitor.Setting

/-!
# Peer endpoints

A session has up to three endpoints: the BGP peer, the BMP peer, and the address on which either
protocol listens. Each mode requires the one endpoint that it uses. An endpoint is a socket address,
or an IP address with the port of its protocol; the listener takes any other text for the wildcard
address.
-/

namespace RouteMonitor

inductive Endpoint
  | bgpPeer
  | bmpPeer
  | protoListen
deriving DecidableEq, Repr

namespace Endpoint

def key : Endpoint → Bytes
  | .bgpPeer => utf8 "bgppeer"
  | .bmpPeer => utf8 "bmppeer"
  | .protoListen => utf8 "protolisten"

def bgpPort : Port := 179

def bmpPort : Port := 632

def defaultPort : Endpoint → Port
  | .bmpPeer => bmpPort
  | .bgpPeer | .protoListen => bgpPort

def requiredBy : Endpoint → PeerMode → Bool
  | .bgpPeer, mode => mode = .bgpActive
  | .bmpPeer, mode => mode = .bmpActive
  | .protoListen, mode => mode = .bgpPassive ∨ mode = .bmpPassive

def wildcard : SocketAddress := ⟨.v4 ⟨0, 0, 0, 0⟩, bgpPort⟩

def readAddress? (endpoint : Endpoint) (text : Bytes) : Option SocketAddress :=
  match SocketAddress.read? text with
  | some address => some address
  | none => (IpAddress.read? text).map fun ip => ⟨ip, endpoint.defaultPort⟩

def read (endpoint : Endpoint) (text : Bytes) : Except Bytes SocketAddress :=
  match endpoint.readAddress? text, endpoint with
  | some address, _ => .ok address
  | none, .protoListen => .ok wildcard
  | none, _ => .error SocketAddress.faultMessage

/-- The setting of an endpoint for a session in a given mode. -/
def setting (endpoint : Endpoint) (sectionName : Bytes) (mode : PeerMode) :
    Setting SocketAddress where
  sectionName
  key := endpoint.key
  read := endpoint.read
  fallback := .byMode (endpoint.requiredBy mode)

end Endpoint

end RouteMonitor
