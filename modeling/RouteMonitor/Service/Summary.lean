import RouteMonitor.Nameserver
import RouteMonitor.Service.Config

/-!
# The summary of a configuration

A loaded configuration shows in the log as four records, one for each component.
-/

namespace RouteMonitor

def renderUnset : Option SocketAddress → Bytes
  | some address => address.render
  | none => utf8 "-"

def PeerConfig.summary (config : PeerConfig) : Bytes :=
  utf8 "peer: mode=" ++ config.mode.name ++ utf8 " routerid=" ++ config.routerId.render ++
    utf8 " peeras=" ++ config.peerAs.render ++ utf8 " bgppeer=" ++ renderUnset config.bgpPeer ++
    utf8 " bmppeer=" ++ renderUnset config.bmpPeer ++
    utf8 " protolisten=" ++ renderUnset config.protoListen

def HttpConfig.summary (config : HttpConfig) : Bytes :=
  utf8 "http: listen=" ++ config.listen.render ++ utf8 " root=" ++ config.root ++
    utf8 " timeout=" ++ config.timeout.render ++ utf8 "s"

def HistoryConfig.summary (config : HistoryConfig) : Bytes :=
  utf8 "history: depth=" ++ config.depth.render ++ utf8 " mode=" ++ config.mode.name ++
    utf8 " purge_after_withdraws=" ++ config.purgeAfterWithdraws.render ++
    utf8 " purge_every=" ++ config.purgeEvery.render ++ utf8 "s"

def WhoisConfig.summary (config : WhoisConfig) : Bytes :=
  utf8 "whois: servers=" ++ Decimal.ofNat config.registry.servers.size ++
    utf8 " db=" ++ config.database ++ utf8 " timeout=" ++ config.requestTimeout.render ++
    utf8 "s cache=" ++ config.cacheSeconds.render ++
    utf8 "s dns=" ++ Nameserver.renderList config.nameservers

namespace ServiceConfig

def summary (config : ServiceConfig) : List Bytes :=
  [config.peer.summary, config.http.summary, config.history.summary, config.whois.summary]

def log (config : ServiceConfig) : Logged Unit := config.summary.forM (Logged.write .info)

end ServiceConfig

end RouteMonitor
