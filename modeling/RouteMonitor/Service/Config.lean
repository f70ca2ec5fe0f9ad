import RouteMonitor.Address.SocketAddress
import RouteMonitor.Integer
import RouteMonitor.Mode
import RouteMonitor.Whois.Registry

/-!
# The configuration of the service

Every setting in its final type, grouped by the component that uses it.
-/

namespace RouteMonitor

structure PeerConfig where
  mode : PeerMode
  routerId : Ipv4
  /-- Zero admits a peer of any autonomous system. -/
  peerAs : Integer .u32
  bgpPeer : Option SocketAddress
  bmpPeer : Option SocketAddress
  protoListen : Option SocketAddress
deriving DecidableEq

structure HttpConfig where
  listen : SocketAddress
  timeout : Integer .u64
  root : Bytes
deriving DecidableEq

structure HistoryConfig where
  depth : Integer .u64
  mode : HistoryMode
  /-- Zero keeps withdrawn routes for good. -/
  purgeAfterWithdraws : Integer .u64
  purgeEvery : Integer .i64
deriving DecidableEq

structure WhoisConfig where
  requestTimeout : Integer .u64
  cacheSeconds : Integer .i64
  registry : Whois.Registry
  database : Bytes
  nameservers : List SocketAddress
deriving DecidableEq

structure ServiceConfig where
  peer : PeerConfig
  http : HttpConfig
  history : HistoryConfig
  whois : WhoisConfig
deriving DecidableEq

end RouteMonitor
