import RouteMonitor.Proofs.Address.RoundTrip
import RouteMonitor.Proofs.Service.FirstFault
import RouteMonitor.Proofs.Setting
import RouteMonitor.Proofs.Whois.Entries

/-!
# What a loaded configuration holds

Every field of a configuration that was loaded, said in terms of the settings and of the files
alone. An endpoint is set exactly if its key is there, and it is there if the mode demands it; it is
the address of its text, or the bare IP address with the port of its protocol. Any other field holds
what its text is read as, or its documented default, and the default only where a table of lenient
keys allows it. There is always a name server, and every whois server can be asked.

Each group of fields is followed through the part of the loading that makes it, by what its settings
yield.
-/

namespace RouteMonitor

def PeerConfig.endpoint? (config : PeerConfig) : Endpoint → Option SocketAddress
  | .bgpPeer => config.bgpPeer
  | .bmpPeer => config.bmpPeer
  | .protoListen => config.protoListen

/-- Every socket address of a configuration. -/
def ServiceConfig.addresses (config : ServiceConfig) : List SocketAddress :=
  config.peer.bgpPeer.toList ++ config.peer.bmpPeer.toList ++ config.peer.protoListen.toList ++
    config.http.listen :: config.whois.nameservers

namespace Service

variable {α β : Type} {reader : Json.Reader} {files : Files} {settings : Settings} {session : Bytes}

/-! ### Fields -/

/-- The key is absent, is bare and may be, or holds a text that is rejected and may be. -/
def TakesDefault (settings : Settings) (sectionName key : Bytes) (read : Bytes → Except Bytes α) :
    Prop :=
  settings.find? sectionName key = none ∨
    settings.find? sectionName key = some .bare ∧ key ∈ bareTolerantKeys ∨
    ∃ text cause, settings.find? sectionName key = some (.value text) ∧
      read text = .error cause ∧ key ∈ rejectTolerantKeys

/-- A field holds what its text is read as, or else, where it takes it, its documented default. -/
def FieldHolds (settings : Settings) (sectionName key : Bytes) (read : Bytes → Except Bytes α)
    (documented? : Option α) (value : α) : Prop :=
  (∃ text, settings.find? sectionName key = some (.value text) ∧ read text = .ok value) ∨
    TakesDefault settings sectionName key read ∧ documented? = some value

/-- The text of an endpoint is its address, or its IP address alone, which stands for a port. -/
def IsAddressOrBareIp (settings : Settings) (session key : Bytes) (port : Port)
    (address : SocketAddress) : Prop :=
  ∃ text, settings.get? session key = some text ∧
    (SocketAddress.read? text = some address ∨
      SocketAddress.read? text = none ∧ IpAddress.read? text = some address.ip ∧
        address.port = port)

structure EndpointsHold (settings : Settings) (session : Bytes) (config : PeerConfig) : Prop where
  isSome_iff : ∀ endpoint : Endpoint,
    (config.endpoint? endpoint).isSome = true ↔ settings.has session endpoint.key = true
  required : ∀ endpoint : Endpoint, endpoint.requiredBy config.mode = true →
    (config.endpoint? endpoint).isSome = true
  bgpPeer : ∀ address ∈ config.bgpPeer,
    IsAddressOrBareIp settings session (utf8 "bgppeer") 179 address
  bmpPeer : ∀ address ∈ config.bmpPeer,
    IsAddressOrBareIp settings session (utf8 "bmppeer") 632 address
  protoListen : ∀ address ∈ config.protoListen, ∃ text,
    settings.get? session (utf8 "protolisten") = some text ∧
      Endpoint.protoListen.read text = .ok address

structure PeerHolds (settings : Settings) (session : Bytes) (config : PeerConfig) : Prop where
  mode : FieldHolds settings session (utf8 "mode") PeerMode.read none config.mode
  routerId : FieldHolds settings session (utf8 "routerid") Ipv4.read (some ⟨1, 1, 1, 1⟩)
    config.routerId
  peerAs : FieldHolds settings session (utf8 "peeras") (Setting.readInteger .u32)
    (some ⟨0, by decide⟩) config.peerAs

structure HttpHolds (settings : Settings) (config : HttpConfig) : Prop where
  listen : FieldHolds settings mainSection (utf8 "httplisten") SocketAddress.read
    (some ⟨.v4 ⟨0, 0, 0, 0⟩, 8080⟩) config.listen
  timeout : FieldHolds settings mainSection (utf8 "httptimeout") (Setting.readInteger .u64)
    (some ⟨120, by decide⟩) config.timeout
  root : FieldHolds settings mainSection (utf8 "httproot") .ok (some (utf8 "./contrib"))
    config.root

structure HistoryHolds (settings : Settings) (config : HistoryConfig) : Prop where
  depth : FieldHolds settings mainSection (utf8 "historydepth") (Setting.readInteger .u64)
    (some ⟨10, by decide⟩) config.depth
  mode : FieldHolds settings mainSection (utf8 "historymode") HistoryMode.read (some .differ)
    config.mode
  purgeAfterWithdraws : FieldHolds settings mainSection (utf8 "purge_after_withdraws")
    (Setting.readInteger .u64) (some ⟨0, by decide⟩) config.purgeAfterWithdraws
  purgeEvery : FieldHolds settings mainSection (utf8 "purge_every") (Setting.readInteger .i64)
    (some ⟨300, by decide⟩) config.purgeEvery

structure WhoisHolds (reader : Json.Reader) (files : Files) (settings : Settings)
    (config : WhoisConfig) : Prop where
  requestTimeout : FieldHolds settings mainSection (utf8 "whois_request_timeout")
    (Setting.readInteger .u64) (some ⟨30, by decide⟩) config.requestTimeout
  cacheSeconds : FieldHolds settings mainSection (utf8 "whois_cache_seconds")
    (Setting.readInteger .i64) (some ⟨1800, by decide⟩) config.cacheSeconds
  registry : ∃ path, settings.get? mainSection (utf8 "whoisjsonconfig") = some path ∧
    Whois.Registry.ofFile reader files path = .ok config.registry
  reachable : ∀ suffix server, (suffix, server) ∈ config.registry.servers.toList →
    server.IsReachable ∧ suffix.toLower = suffix
  database : FieldHolds settings mainSection (utf8 "whoisdb") .ok (some (utf8 "whoiscache.db"))
    config.database
  nameservers : FieldHolds settings mainSection (utf8 "whoisdns")
    (fun text => .ok (Nameserver.readList text).value) (some [⟨.v4 ⟨1, 1, 1, 1⟩, 53⟩])
    config.nameservers
  nameservers_ne_nil : config.nameservers ≠ []

/-! ### From what a setting yields -/

theorem fieldHolds_of_yields {setting : Setting α} {documented? : Option α} {value : α}
    (hyields : setting.Yields settings value)
    (hdefault : ∀ value, setting.fallback = .default value → documented? = some value)
    (hbare : setting.onBare = .useDefault → setting.key ∈ bareTolerantKeys)
    (hreject : setting.onReject = .useDefault → setting.key ∈ rejectTolerantKeys) :
    FieldHolds settings setting.sectionName setting.key setting.read documented? value := by
  refine hyields.imp_right fun hsubstitute => ⟨?_, hdefault value hsubstitute.2⟩
  rcases hsubstitute.1 with habsent | ⟨hfind, hlenient⟩ | ⟨text, cause, hfind, hread, hlenient⟩
  · exact .inl habsent
  · exact .inr (.inl ⟨hfind, hbare hlenient⟩)
  · exact .inr (.inr ⟨text, cause, hfind, hread, hreject hlenient⟩)

theorem fieldHolds_of_require {setting : Setting α} {documented value : α}
    (hrequire : (setting.require settings).result = .ok value)
    (hdefault : setting.fallback = .default documented)
    (hbare : setting.onBare = .useDefault → setting.key ∈ bareTolerantKeys)
    (hreject : setting.onReject = .useDefault → setting.key ∈ rejectTolerantKeys) :
    FieldHolds settings setting.sectionName setting.key setting.read (some documented) value := by
  refine fieldHolds_of_yields (Setting.require_result_eq_ok_iff.1 hrequire)
    (fun other hother => ?_) hbare hreject
  rw [hdefault] at hother
  rw [Fallback.default.inj hother]

/-- A field that is computed from what was read. -/
theorem FieldHolds.map {sectionName key : Bytes} {read : Bytes → Except Bytes α}
    {documented? : Option α} {value : α}
    (hholds : FieldHolds settings sectionName key read documented? value) (compute : α → β) :
    FieldHolds settings sectionName key (fun text => (read text).map compute)
      (documented?.map compute) (compute value) := by
  refine hholds.imp (fun hstored => ?_) fun htakes => ⟨?_, by rw [htakes.2, Option.map_some]⟩
  · obtain ⟨text, hfind, hread⟩ := hstored
    exact ⟨text, hfind, congrArg (Except.map compute) hread⟩
  · rcases htakes.1 with habsent | hbare | ⟨text, cause, hfind, hread, hlenient⟩
    · exact .inl habsent
    · exact .inr (.inl hbare)
    · exact .inr (.inr ⟨text, cause, hfind, congrArg (Except.map compute) hread, hlenient⟩)

/-- Without a default, what a setting yields is what its text is read as. -/
theorem exists_text_of_yields {setting : Setting α} {value : α}
    (hyields : setting.Yields settings value)
    (hdefault : ∀ value, setting.fallback ≠ .default value) :
    ∃ text, settings.get? setting.sectionName setting.key = some text ∧
      setting.read text = .ok value := by
  obtain ⟨text, hfind, hread⟩ := hyields.resolve_right fun hsubstitute =>
    hdefault value hsubstitute.2
  exact ⟨text, Settings.get?_eq_some_iff.2 hfind, hread⟩

/-! ### The session -/

theorem loadSession_result_eq_ok (hload : (loadSession settings).result = .ok session) :
    IsSession settings session ∧ settings.hasSection mainSection = true ∧
      settings.hasSection session = true := by
  have hrequire : ∀ {sectionName}, (requireSection settings sectionName).result = .ok () →
      settings.hasSection sectionName = true := by
    intro sectionName hresult
    rw [requireSection] at hresult
    split at hresult
    · assumption
    · cases hresult
  obtain ⟨⟨⟩, hmain, hload⟩ := LoadM.result_bind_eq_ok_iff.1 hload
  obtain ⟨name, hname, hload⟩ := LoadM.result_bind_eq_ok_iff.1 hload
  obtain ⟨⟨⟩, hsection, hload⟩ := LoadM.result_bind_eq_ok_iff.1 hload
  obtain rfl := Except.ok.inj hload
  obtain ⟨text, htext, hread⟩ := exists_text_of_yields
    (Setting.require_result_eq_ok_iff.1 hname) (by simp [sessionName])
  obtain rfl := Except.ok.inj hread
  exact ⟨htext, hrequire hmain, hrequire hsection⟩

/-! ### The peer -/

theorem resolve_endpoint_eq_ok {endpoint : Endpoint} {mode : PeerMode}
    {resolved : Option SocketAddress}
    (hresolve : ((endpoint.setting session mode).resolve settings).result = .ok resolved) :
    (∃ text address, settings.get? session endpoint.key = some text ∧
        endpoint.read text = .ok address ∧ resolved = some address) ∨
      resolved = none ∧ endpoint.requiredBy mode = false ∧
        settings.has session endpoint.key = false := by
  rcases Setting.resolve_result_eq_ok_iff.1 hresolve with ⟨address, rfl, hyields⟩ |
    ⟨rfl, hfallback, hfind⟩
  · obtain ⟨text, htext, hread⟩ := exists_text_of_yields hyields (by simp [Endpoint.setting])
    exact .inl ⟨text, address, htext, hread, rfl⟩
  · refine .inr ⟨rfl, Fallback.byMode.inj hfallback, ?_⟩
    rw [Settings.has, show settings.find? session endpoint.key = none from hfind]
    rfl

theorem isAddressOrBareIp_of_read {endpoint : Endpoint} {text : Bytes} {address : SocketAddress}
    (hpeer : endpoint ≠ .protoListen) (htext : settings.get? session endpoint.key = some text)
    (hread : endpoint.read text = .ok address) :
    IsAddressOrBareIp settings session endpoint.key endpoint.defaultPort address := by
  have haddress : endpoint.readAddress? text = some address := by
    unfold Endpoint.read at hread
    split at hread
    · rename_i haddress
      rw [haddress, Except.ok.inj hread]
    · exact absurd rfl hpeer
    · cases hread
  refine ⟨text, htext, ?_⟩
  rw [Endpoint.readAddress?] at haddress
  split at haddress
  · rename_i hsocket
    exact .inl (hsocket.trans haddress)
  · rename_i hsocket
    obtain ⟨ip, hip, rfl⟩ := Option.map_eq_some_iff.1 haddress
    exact .inr ⟨hsocket, hip, rfl⟩

theorem endpointsHold_of_resolve {peer : PeerConfig}
    (hresolve : ∀ endpoint : Endpoint,
      ((endpoint.setting session peer.mode).resolve settings).result =
        .ok (peer.endpoint? endpoint)) : EndpointsHold settings session peer := by
  have hends := fun endpoint => resolve_endpoint_eq_ok (hresolve endpoint)
  refine ⟨fun endpoint => ?isSome_iff, fun endpoint hrequired => ?required,
    fun address haddress => ?bgpPeer, fun address haddress => ?bmpPeer,
    fun address haddress => ?protoListen⟩
  case isSome_iff =>
    rcases hends endpoint with ⟨text, address, htext, -, hset⟩ | ⟨hunset, -, habsent⟩
    · simp [hset, Settings.has, Settings.get?_eq_some_iff.1 htext]
    · simp [hunset, habsent]
  case required =>
    rcases hends endpoint with ⟨text, address, -, -, hset⟩ | ⟨-, hnot, -⟩
    · simp [hset]
    · rw [hrequired] at hnot
      cases hnot
  case bgpPeer =>
    rcases hends .bgpPeer with ⟨text, other, htext, hread, hset⟩ | ⟨hunset, -, -⟩
    · obtain rfl := Option.some.inj (haddress.symm.trans hset)
      exact isAddressOrBareIp_of_read (by decide) htext hread
    · cases haddress.symm.trans hunset
  case bmpPeer =>
    rcases hends .bmpPeer with ⟨text, other, htext, hread, hset⟩ | ⟨hunset, -, -⟩
    · obtain rfl := Option.some.inj (haddress.symm.trans hset)
      exact isAddressOrBareIp_of_read (by decide) htext hread
    · cases haddress.symm.trans hunset
  case protoListen =>
    rcases hends .protoListen with ⟨text, other, htext, hread, hset⟩ | ⟨hunset, -, -⟩
    · obtain rfl := Option.some.inj (haddress.symm.trans hset)
      exact ⟨text, htext, hread⟩
    · cases haddress.symm.trans hunset

theorem loadPeer_result_eq_ok {peer : PeerConfig}
    (hload : (loadPeer settings session).result = .ok peer) :
    EndpointsHold settings session peer ∧ PeerHolds settings session peer := by
  obtain ⟨mode, hmode, hload⟩ := LoadM.result_bind_eq_ok_iff.1 hload
  obtain ⟨bgpPeer, hbgpPeer, hload⟩ := LoadM.result_bind_eq_ok_iff.1 hload
  obtain ⟨bmpPeer, hbmpPeer, hload⟩ := LoadM.result_bind_eq_ok_iff.1 hload
  obtain ⟨protoListen, hprotoListen, hload⟩ := LoadM.result_bind_eq_ok_iff.1 hload
  obtain ⟨routerId, hrouterId, hload⟩ := LoadM.result_bind_eq_ok_iff.1 hload
  obtain ⟨peerAs, hpeerAs, hload⟩ := LoadM.result_bind_eq_ok_iff.1 hload
  obtain rfl := Except.ok.inj hload
  refine ⟨endpointsHold_of_resolve fun endpoint => ?endpoints, ?mode, ?routerId, ?peerAs⟩
  case endpoints =>
    cases endpoint with
    | bgpPeer => exact hbgpPeer
    | bmpPeer => exact hbmpPeer
    | protoListen => exact hprotoListen
  case mode =>
    have hyields := Setting.require_result_eq_ok_iff.1 hmode
    exact fieldHolds_of_yields hyields (by simp [peerMode]) (by simp [peerMode])
      (by simp [peerMode])
  case routerId =>
    exact fieldHolds_of_require hrouterId rfl (by simp [Service.routerId])
      (by simp [Service.routerId])
  case peerAs =>
    exact fieldHolds_of_require hpeerAs rfl (by simp [Service.peerAs]) (by simp [Service.peerAs])

/-! ### The other groups -/

theorem loadHttp_result_eq_ok {http : HttpConfig} (hload : (loadHttp settings).result = .ok http) :
    HttpHolds settings http := by
  obtain ⟨listen, hlisten, hload⟩ := LoadM.result_bind_eq_ok_iff.1 hload
  obtain ⟨timeout, htimeout, hload⟩ := LoadM.result_bind_eq_ok_iff.1 hload
  obtain ⟨root, hroot, hload⟩ := LoadM.result_bind_eq_ok_iff.1 hload
  obtain rfl := Except.ok.inj hload
  exact {
    listen := fieldHolds_of_require hlisten rfl (by decide) (by decide)
    timeout := fieldHolds_of_require htimeout rfl (by decide) (by decide)
    root := fieldHolds_of_require hroot rfl (by decide) (by decide) }

theorem loadHistory_result_eq_ok {history : HistoryConfig}
    (hload : (loadHistory settings).result = .ok history) : HistoryHolds settings history := by
  obtain ⟨depth, hdepth, hload⟩ := LoadM.result_bind_eq_ok_iff.1 hload
  obtain ⟨mode, hmode, hload⟩ := LoadM.result_bind_eq_ok_iff.1 hload
  obtain ⟨purgeAfterWithdraws, hafter, hload⟩ := LoadM.result_bind_eq_ok_iff.1 hload
  obtain ⟨purgeEvery, hevery, hload⟩ := LoadM.result_bind_eq_ok_iff.1 hload
  obtain rfl := Except.ok.inj hload
  exact {
    depth := fieldHolds_of_require hdepth rfl (by decide) (by decide)
    mode := fieldHolds_of_require hmode rfl (by decide) (by decide)
    purgeAfterWithdraws := fieldHolds_of_require hafter rfl (by decide) (by decide)
    purgeEvery := fieldHolds_of_require hevery rfl (by decide) (by decide) }

theorem ofFile_of_loadRegistry {path : Bytes} {registry : Whois.Registry}
    (hload : (loadRegistry reader files path).result = .ok registry) :
    Whois.Registry.ofFile reader files path = .ok registry := by
  rw [loadRegistry] at hload
  cases hread : Whois.Registry.ofFile reader files path with
  | ok other =>
    rw [hread] at hload
    rw [Except.ok.inj hload]
  | error fault =>
    rw [hread] at hload
    cases hload

theorem readList_value_ne_nil (text : Bytes) : (Nameserver.readList text).value ≠ [] := by
  rw [Nameserver.readList, Logged.value_bind, Logged.value_pure]
  split
  · exact List.cons_ne_nil _ _
  · assumption

theorem loadWhois_result_eq_ok {whois : WhoisConfig}
    (hload : (loadWhois reader files settings).result = .ok whois) :
    WhoisHolds reader files settings whois := by
  obtain ⟨requestTimeout, htimeout, hload⟩ := LoadM.result_bind_eq_ok_iff.1 hload
  obtain ⟨cacheSeconds, hcache, hload⟩ := LoadM.result_bind_eq_ok_iff.1 hload
  obtain ⟨path, hpath, hload⟩ := LoadM.result_bind_eq_ok_iff.1 hload
  obtain ⟨registry, hregistry, hload⟩ := LoadM.result_bind_eq_ok_iff.1 hload
  obtain ⟨database, hdatabase, hload⟩ := LoadM.result_bind_eq_ok_iff.1 hload
  obtain ⟨names, hnames, hload⟩ := LoadM.result_bind_eq_ok_iff.1 hload
  obtain rfl := Except.ok.inj hload
  have hregistry := ofFile_of_loadRegistry hregistry
  obtain ⟨stored, hstored, hread⟩ := exists_text_of_yields
    (Setting.require_result_eq_ok_iff.1 hpath) (by simp [whoisRegistryPath])
  obtain rfl := Except.ok.inj hread
  obtain ⟨document, -, hdocument⟩ := Whois.Registry.exists_text_of_ofFile hregistry
  have hfield := fieldHolds_of_require hnames rfl (by decide) (by decide)
  exact {
    requestTimeout := fieldHolds_of_require htimeout rfl (by decide) (by decide)
    cacheSeconds := fieldHolds_of_require hcache rfl (by decide) (by decide)
    registry := ⟨stored, hstored, hregistry⟩
    reachable := fun suffix server hentry => Whois.Registry.isReachable_of_read hdocument hentry
    database := fieldHolds_of_require hdatabase rfl (by decide) (by decide)
    nameservers := hfield.map fun text => (Nameserver.readList text).value
    nameservers_ne_nil := readList_value_ne_nil names }

/-! ### The whole -/

theorem load_result_eq_ok {config : ServiceConfig}
    (hload : (load reader files settings).result = .ok config) :
    ∃ session, (loadSession settings).result = .ok session ∧
      (loadPeer settings session).result = .ok config.peer ∧
      (loadHttp settings).result = .ok config.http ∧
      (loadHistory settings).result = .ok config.history ∧
      (loadWhois reader files settings).result = .ok config.whois := by
  obtain ⟨session, hsession, hload⟩ := LoadM.result_bind_eq_ok_iff.1 hload
  obtain ⟨peer, hpeer, hload⟩ := LoadM.result_bind_eq_ok_iff.1 hload
  obtain ⟨http, hhttp, hload⟩ := LoadM.result_bind_eq_ok_iff.1 hload
  obtain ⟨history, hhistory, hload⟩ := LoadM.result_bind_eq_ok_iff.1 hload
  obtain ⟨whois, hwhois, hload⟩ := LoadM.result_bind_eq_ok_iff.1 hload
  obtain rfl := Except.ok.inj hload
  exact ⟨session, hsession, hpeer, hhttp, hhistory, hwhois⟩

theorem loaded_config_holds_what_is_stored {config : ServiceConfig}
    (hload : (load reader files settings).result = .ok config) :
    ∃ session, IsSession settings session ∧ settings.hasSection session = true ∧
      EndpointsHold settings session config.peer ∧ PeerHolds settings session config.peer ∧
      HttpHolds settings config.http ∧ HistoryHolds settings config.history ∧
      WhoisHolds reader files settings config.whois ∧
      ∀ address ∈ config.addresses, address.ip.family = .v4 →
        address.ip.storage.drop 4 = List.replicate 12 0 := by
  obtain ⟨session, hsession, hpeer, hhttp, hhistory, hwhois⟩ := load_result_eq_ok hload
  obtain ⟨hnamed, -, hsection⟩ := loadSession_result_eq_ok hsession
  obtain ⟨hendpoints, hpeer⟩ := loadPeer_result_eq_ok hpeer
  exact ⟨session, hnamed, hsection, hendpoints, hpeer, loadHttp_result_eq_ok hhttp,
    loadHistory_result_eq_ok hhistory, loadWhois_result_eq_ok hwhois,
    fun address _ => IpAddress.drop_storage_of_v4⟩

/-- A peer without a port gets the port of BGP, a timeout that is no number stands for its default,
and a suffix in upper case is found in lower case. -/
theorem bare_peer_and_rejected_timeout_load :
    let reader : Json.Reader := fun _ =>
      .ok (.object [(utf8 "COM", .string (utf8 "whois.example.net"))])
    let session := utf8 "session"
    let peer := utf8 "192.0.2.1"
    let settings := ((((Settings.empty.put mainSection session (.value session)).put mainSection
      (utf8 "httptimeout") (.value (utf8 "soon"))).put mainSection (utf8 "whoisjsonconfig")
      (.value (utf8 "w.json"))).put session (utf8 "mode") (.value (utf8 "bgpactive"))).put session
      (utf8 "bgppeer") (.value peer)
    let files : Files := fun _ => some (utf8 "\x7b\"COM\": \"whois.example.net\"\x7d")
    ∃ config, (load reader files settings).result = .ok config ∧
      config.peer.bgpPeer = some ⟨.v4 ⟨192, 0, 2, 1⟩, 179⟩ ∧ config.http.timeout.value = 120 ∧
      EndpointsHold settings session config.peer ∧ HttpHolds settings config.http ∧
      WhoisHolds reader files settings config.whois := by
  intro reader session peer settings files
  have hload : (load reader files settings).result = .ok {
      peer := ⟨.bgpActive, ⟨1, 1, 1, 1⟩, ⟨0, by decide⟩, some ⟨.v4 ⟨192, 0, 2, 1⟩, 179⟩, none, none⟩
      http := ⟨⟨.v4 ⟨0, 0, 0, 0⟩, 8080⟩, ⟨120, by decide⟩, utf8 "./contrib"⟩
      history := ⟨⟨10, by decide⟩, .differ, ⟨0, by decide⟩, ⟨300, by decide⟩⟩
      whois := ⟨⟨30, by decide⟩, ⟨1800, by decide⟩,
        ⟨.ofList [(utf8 "com", ⟨utf8 "whois.example.net", 43, Whois.Server.defaultQuery⟩)]⟩,
        utf8 "whoiscache.db", [⟨.v4 ⟨1, 1, 1, 1⟩, 53⟩]⟩ } := by
    rfl
  obtain ⟨name, hname, -, hendpoints, -, hhttp, -, hwhois, -⟩ :=
    loaded_config_holds_what_is_stored hload
  obtain rfl : session = name := Option.some.inj (show some session = some name from hname)
  exact ⟨_, hload, rfl, rfl, hendpoints, hhttp, hwhois⟩

end Service

end RouteMonitor
