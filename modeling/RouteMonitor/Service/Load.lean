import RouteMonitor.Endpoint
import RouteMonitor.Nameserver
import RouteMonitor.Service.Config
import RouteMonitor.Settings.File

/-!
# Loading the configuration

The section `main` holds the settings of the service and names the section that holds those of its
peer session. Settings are resolved one after the other, in a fixed order, and the first error ends
the loading, so a setting matters only as far as all before it are good.
-/

namespace RouteMonitor.Service

def mainSection : Bytes := utf8 "main"

def requireSection (settings : Settings) (sectionName : Bytes) : LoadM Unit :=
  if settings.hasSection sectionName then pure () else throw (.missingSection sectionName)

/-! ## The peer session -/

def sessionName : Setting Bytes where
  sectionName := mainSection
  key := utf8 "session"
  read := Setting.readText

/-- The name of the session's section, which exists. -/
def loadSession (settings : Settings) : LoadM Bytes := do
  requireSection settings mainSection
  let session ← sessionName.require settings
  requireSection settings session
  return session

def peerMode (session : Bytes) : Setting PeerMode where
  sectionName := session
  key := utf8 "mode"
  read := PeerMode.read

def routerId (session : Bytes) : Setting Ipv4 where
  sectionName := session
  key := utf8 "routerid"
  read := Ipv4.read
  fallback := .default ⟨1, 1, 1, 1⟩

def peerAs (session : Bytes) : Setting (Integer .u32) where
  sectionName := session
  key := utf8 "peeras"
  read := Setting.readInteger .u32
  fallback := .default ⟨0, by decide⟩

def loadPeer (settings : Settings) (session : Bytes) : LoadM PeerConfig := do
  let mode ← (peerMode session).require settings
  let bgpPeer ← (Endpoint.bgpPeer.setting session mode).resolve settings
  let bmpPeer ← (Endpoint.bmpPeer.setting session mode).resolve settings
  let protoListen ← (Endpoint.protoListen.setting session mode).resolve settings
  let routerId ← (routerId session).require settings
  let peerAs ← (peerAs session).require settings
  return { mode, routerId, peerAs, bgpPeer, bmpPeer, protoListen }

/-! ## The web interface -/

def httpListen : Setting SocketAddress where
  sectionName := mainSection
  key := utf8 "httplisten"
  read := SocketAddress.read
  fallback := .default ⟨.v4 ⟨0, 0, 0, 0⟩, 8080⟩
  onBare := .useDefault

def httpTimeout : Setting (Integer .u64) where
  sectionName := mainSection
  key := utf8 "httptimeout"
  read := Setting.readInteger .u64
  fallback := .default ⟨120, by decide⟩
  onBare := .useDefault
  onReject := .useDefault

def httpRoot : Setting Bytes where
  sectionName := mainSection
  key := utf8 "httproot"
  read := Setting.readText
  fallback := .default (utf8 "./contrib")
  onBare := .useDefault

def loadHttp (settings : Settings) : LoadM HttpConfig := do
  let listen ← httpListen.require settings
  let timeout ← httpTimeout.require settings
  let root ← httpRoot.require settings
  return { listen, timeout, root }

/-! ## The history -/

def historyDepth : Setting (Integer .u64) where
  sectionName := mainSection
  key := utf8 "historydepth"
  read := Setting.readInteger .u64
  fallback := .default ⟨10, by decide⟩

def historyMode : Setting HistoryMode where
  sectionName := mainSection
  key := utf8 "historymode"
  read := HistoryMode.read
  fallback := .default .differ

def purgeAfterWithdraws : Setting (Integer .u64) where
  sectionName := mainSection
  key := utf8 "purge_after_withdraws"
  read := Setting.readInteger .u64
  fallback := .default ⟨0, by decide⟩

def purgeEvery : Setting (Integer .i64) where
  sectionName := mainSection
  key := utf8 "purge_every"
  read := Setting.readInteger .i64
  fallback := .default ⟨300, by decide⟩

def loadHistory (settings : Settings) : LoadM HistoryConfig := do
  let depth ← historyDepth.require settings
  let mode ← historyMode.require settings
  let purgeAfterWithdraws ← purgeAfterWithdraws.require settings
  let purgeEvery ← purgeEvery.require settings
  return { depth, mode, purgeAfterWithdraws, purgeEvery }

/-! ## Whois resolution -/

def whoisRequestTimeout : Setting (Integer .u64) where
  sectionName := mainSection
  key := utf8 "whois_request_timeout"
  read := Setting.readInteger .u64
  fallback := .default ⟨30, by decide⟩
  onBare := .useDefault
  onReject := .useDefault

def whoisCacheSeconds : Setting (Integer .i64) where
  sectionName := mainSection
  key := utf8 "whois_cache_seconds"
  read := Setting.readInteger .i64
  fallback := .default ⟨1800, by decide⟩
  onBare := .useDefault
  onReject := .useDefault

def whoisRegistryPath : Setting Bytes where
  sectionName := mainSection
  key := utf8 "whoisjsonconfig"
  read := Setting.readText

def whoisDatabase : Setting Bytes where
  sectionName := mainSection
  key := utf8 "whoisdb"
  read := Setting.readText
  fallback := .default (utf8 "whoiscache.db")

/-- The list is read after the setting is resolved, for no list is ever rejected. -/
def whoisNameservers : Setting Bytes where
  sectionName := mainSection
  key := utf8 "whoisdns"
  read := Setting.readText
  fallback := .default (Nameserver.renderList [Nameserver.fallback])

def loadRegistry (reader : Json.Reader) (files : Files) (path : Bytes) : LoadM Whois.Registry :=
  match Whois.Registry.ofFile reader files path with
  | .ok registry => pure registry
  | .error fault =>
    throw (.whoisConfig whoisRegistryPath.sectionName whoisRegistryPath.key fault.message)

def loadWhois (reader : Json.Reader) (files : Files) (settings : Settings) :
    LoadM WhoisConfig := do
  let requestTimeout ← whoisRequestTimeout.require settings
  let cacheSeconds ← whoisCacheSeconds.require settings
  let registry ← loadRegistry reader files (← whoisRegistryPath.require settings)
  let database ← whoisDatabase.require settings
  let nameservers ← Nameserver.readList (← whoisNameservers.require settings)
  return { requestTimeout, cacheSeconds, registry, database, nameservers }

/-! ## The whole -/

def load (reader : Json.Reader) (files : Files) (settings : Settings) :
    LoadM ServiceConfig := do
  let session ← loadSession settings
  let peer ← loadPeer settings session
  let http ← loadHttp settings
  let history ← loadHistory settings
  let whois ← loadWhois reader files settings
  return { peer, http, history, whois }

def loadFile (reader : Json.Reader) (files : Files) (path : Bytes) : LoadM ServiceConfig := do
  load reader files (← Settings.ofFile files path)

end RouteMonitor.Service
