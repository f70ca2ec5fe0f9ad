import RouteMonitor.Proofs.Endpoint
import RouteMonitor.Proofs.Service.Loaded
import RouteMonitor.Proofs.Service.Texts
import RouteMonitor.Proofs.Settings.Traces

/-!
# Writing a configuration back

The texts in which a configuration shows in the log are settings of their own. Written under their
keys, with the name of the session and the path of the registry, they load as the same configuration
and leave nothing in the log: the reader of each key reads its text back, and every key that a mode
demands is there. If the first settings came from a text, so can the written ones, and then reading
and loading leave no more than traces.
-/

namespace RouteMonitor

/-! ### Readers of the written texts -/

theorem SocketAddress.read_render (address : SocketAddress) :
    read address.render = .ok address := by
  rw [read, read?_render]

theorem Ipv4.read_render (address : Ipv4) : read address.render = .ok address := by
  rw [read, read?_render]

theorem Setting.readInteger_render {width : Integer.Width} (integer : Integer width) :
    readInteger width integer.render = .ok integer := by
  rw [readInteger, Integer.read_render]
  rfl

/-! ### Loading what was written -/

namespace Service

variable {reader : Json.Reader} {files : Files} {settings : Settings} {session path : Bytes}
  {texts : Texts}

theorem require_of_stores {α : Type} {setting : Setting α} {text : Bytes} {value : α}
    (hstores : settings.Stores setting.sectionName texts)
    (hmem : (setting.key, some text) ∈ texts) (hread : setting.read text = .ok value) :
    setting.require settings = pure value :=
  Setting.require_of_stored (hstores _ _ hmem) hread

theorem resolve_endpoint_of_stores {endpoint : Endpoint} {mode : PeerMode}
    {address? : Option SocketAddress} (hstores : settings.Stores session texts)
    (hmem : (endpoint.key, address?.map SocketAddress.render) ∈ texts)
    (hrequired : endpoint.requiredBy mode = true → address?.isSome = true) :
    (endpoint.setting session mode).resolve settings = pure address? := by
  have hfind := hstores _ _ hmem
  cases address? with
  | some address => exact Setting.resolve_of_stored hfind (endpoint.read_render address)
  | none =>
    have hoptional : endpoint.requiredBy mode = false := by
      cases hmode : endpoint.requiredBy mode with
      | false => rfl
      | true => cases hrequired hmode
    exact Setting.resolve_of_absent hfind (congrArg Fallback.byMode hoptional)

theorem loadPeer_of_stores {config : PeerConfig} (hstores : settings.Stores session config.texts)
    (hrequired : ∀ endpoint : Endpoint, endpoint.requiredBy config.mode = true →
      (config.endpoint? endpoint).isSome = true) :
    loadPeer settings session = pure config := by
  have hmode : (peerMode session).require settings = pure config.mode :=
    require_of_stores hstores (by simp [PeerConfig.texts, peerMode]) config.mode.read_name
  have hendpoint : ∀ endpoint : Endpoint,
      (endpoint.setting session config.mode).resolve settings =
        pure (config.endpoint? endpoint) := by
    intro endpoint
    refine resolve_endpoint_of_stores hstores ?_ (hrequired endpoint)
    cases endpoint <;> simp [PeerConfig.texts, PeerConfig.endpoint?, Endpoint.key]
  have hrouterId : (routerId session).require settings = pure config.routerId :=
    require_of_stores hstores (by simp [PeerConfig.texts, routerId]) config.routerId.read_render
  have hpeerAs : (peerAs session).require settings = pure config.peerAs :=
    require_of_stores hstores (by simp [PeerConfig.texts, peerAs])
      (Setting.readInteger_render config.peerAs)
  rw [loadPeer, hmode, pure_bind, hendpoint, pure_bind, hendpoint, pure_bind, hendpoint, pure_bind,
    hrouterId, pure_bind, hpeerAs, pure_bind]
  rfl

theorem loadHttp_of_stores {config : HttpConfig}
    (hstores : settings.Stores mainSection config.texts) : loadHttp settings = pure config := by
  have hlisten : httpListen.require settings = pure config.listen :=
    require_of_stores hstores (by simp [HttpConfig.texts, httpListen]) config.listen.read_render
  have htimeout : httpTimeout.require settings = pure config.timeout :=
    require_of_stores hstores (by simp [HttpConfig.texts, httpTimeout])
      (Setting.readInteger_render config.timeout)
  have hroot : httpRoot.require settings = pure config.root :=
    require_of_stores hstores (by simp [HttpConfig.texts, httpRoot]) rfl
  rw [loadHttp, hlisten, pure_bind, htimeout, pure_bind, hroot, pure_bind]

theorem loadHistory_of_stores {config : HistoryConfig}
    (hstores : settings.Stores mainSection config.texts) : loadHistory settings = pure config := by
  have hdepth : historyDepth.require settings = pure config.depth :=
    require_of_stores hstores (by simp [HistoryConfig.texts, historyDepth])
      (Setting.readInteger_render config.depth)
  have hmode : historyMode.require settings = pure config.mode :=
    require_of_stores hstores (by simp [HistoryConfig.texts, historyMode]) config.mode.read_name
  have hafter : purgeAfterWithdraws.require settings = pure config.purgeAfterWithdraws :=
    require_of_stores hstores (by simp [HistoryConfig.texts, purgeAfterWithdraws])
      (Setting.readInteger_render config.purgeAfterWithdraws)
  have hevery : purgeEvery.require settings = pure config.purgeEvery :=
    require_of_stores hstores (by simp [HistoryConfig.texts, purgeEvery])
      (Setting.readInteger_render config.purgeEvery)
  rw [loadHistory, hdepth, pure_bind, hmode, pure_bind, hafter, pure_bind, hevery, pure_bind]

theorem loadWhois_of_stores {config : WhoisConfig}
    (hstores : settings.Stores mainSection config.texts)
    (hpath : settings.find? mainSection (utf8 "whoisjsonconfig") = some (.value path))
    (hregistry : Whois.Registry.ofFile reader files path = .ok config.registry)
    (hne : config.nameservers ≠ []) : loadWhois reader files settings = pure config := by
  have htimeout : whoisRequestTimeout.require settings = pure config.requestTimeout :=
    require_of_stores hstores (by simp [WhoisConfig.texts, whoisRequestTimeout])
      (Setting.readInteger_render config.requestTimeout)
  have hcache : whoisCacheSeconds.require settings = pure config.cacheSeconds :=
    require_of_stores hstores (by simp [WhoisConfig.texts, whoisCacheSeconds])
      (Setting.readInteger_render config.cacheSeconds)
  have hpath : whoisRegistryPath.require settings = pure path :=
    Setting.require_of_stored hpath rfl
  have hload : loadRegistry reader files path = pure config.registry := by
    rw [loadRegistry, hregistry]
  have hdatabase : whoisDatabase.require settings = pure config.database :=
    require_of_stores hstores (by simp [WhoisConfig.texts, whoisDatabase]) rfl
  have hnames : whoisNameservers.require settings =
      pure (Nameserver.renderList config.nameservers) :=
    require_of_stores hstores (by simp [WhoisConfig.texts, whoisNameservers]) rfl
  rw [loadWhois, htimeout, pure_bind, hcache, pure_bind, hpath, pure_bind, hload, pure_bind,
    hdatabase, pure_bind, hnames, pure_bind, Nameserver.readList_renderList hne]
  rfl

/-! ### The written settings -/

def written (session path : Bytes) (config : ServiceConfig) : Settings :=
  Settings.putTexts session config.peer.texts
    (Settings.putTexts mainSection (config.mainTexts session path) .empty)

variable {config : ServiceConfig}

theorem written_stores_peer (session path : Bytes) (config : ServiceConfig) :
    (written session path config).Stores session config.peer.texts := by
  refine Settings.stores_putTexts config.peer.nodup_keys_of_texts fun key hkey => ?_
  rw [Settings.find?_putTexts_of_not_mem (ServiceConfig.not_mem_keys_of_mainTexts hkey)]
  rfl

theorem written_stores_main (session path : Bytes) (config : ServiceConfig) :
    (written session path config).Stores mainSection (config.mainTexts session path) := by
  have hmain := Settings.stores_putTexts (config.nodup_keys_of_mainTexts session path) fun _ _ =>
    (Settings.find?_empty mainSection _)
  intro key text? hmem
  have hkey : key ∉ config.peer.texts.map Prod.fst := fun hkey =>
    ServiceConfig.not_mem_keys_of_mainTexts hkey (List.mem_map_of_mem hmem)
  rw [written, Settings.find?_putTexts_of_not_mem hkey]
  exact hmain key text? hmem

theorem loadSession_written (session path : Bytes) (config : ServiceConfig) :
    loadSession (written session path config) = pure session := by
  have hmain := written_stores_main session path config
  have hname : sessionName.require (written session path config) = pure session :=
    require_of_stores hmain List.mem_cons_self rfl
  have hmainSection : (written session path config).hasSection mainSection = true :=
    Settings.hasSection_of_find? (hmain _ _ List.mem_cons_self)
  have hsession : (written session path config).hasSection session = true :=
    Settings.hasSection_of_find?
      (written_stores_peer session path config _ _ List.mem_cons_self)
  rw [loadSession, requireSection, if_pos hmainSection, pure_bind, hname, pure_bind,
    requireSection, if_pos hsession, pure_bind]

/-- What loading needs of a configuration to give it back. -/
structure IsLoadable (reader : Json.Reader) (files : Files) (path : Bytes)
    (config : ServiceConfig) : Prop where
  required : ∀ endpoint : Endpoint, endpoint.requiredBy config.peer.mode = true →
    (config.peer.endpoint? endpoint).isSome = true
  registry : Whois.Registry.ofFile reader files path = .ok config.whois.registry
  nameservers_ne_nil : config.whois.nameservers ≠ []

theorem load_written (hloadable : IsLoadable reader files path config) (session : Bytes) :
    load reader files (written session path config) = pure config := by
  have hpeer := written_stores_peer session path config
  have hmain := written_stores_main session path config
  have hpath : (written session path config).find? mainSection (utf8 "whoisjsonconfig") =
      some (.value path) := hmain _ (some path) (List.mem_cons_of_mem _ List.mem_cons_self)
  have hgroup : ∀ group, group ⊆ config.texts →
      (written session path config).Stores mainSection group := fun group hgroup key text? hmem =>
    hmain key text? (List.mem_cons_of_mem _ (List.mem_cons_of_mem _ (hgroup hmem)))
  have hhttp := hgroup config.http.texts (by simp [ServiceConfig.texts])
  have hhistory := hgroup config.history.texts (by simp [ServiceConfig.texts])
  have hwhois := hgroup config.whois.texts (by simp [ServiceConfig.texts])
  rw [load, loadSession_written, pure_bind, loadPeer_of_stores hpeer hloadable.required, pure_bind,
    loadHttp_of_stores hhttp, pure_bind, loadHistory_of_stores hhistory, pure_bind,
    loadWhois_of_stores hwhois hpath hloadable.registry hloadable.nameservers_ne_nil, pure_bind]

/-! ### The written settings as a text -/

open Settings.Ini (IsValue WellFormed)

theorem wellFormed_written (hsession : IsValue session) (hpath : IsValue path)
    (hroot : IsValue config.http.root) (hdatabase : IsValue config.whois.database) :
    WellFormed (written session path config) := by
  have hname : Settings.Ini.IsSectionName mainSection := ⟨by decide, by decide⟩
  have hmain := Settings.Ini.wellFormed_empty.putTexts hname ServiceConfig.isKey_of_mem_keys
    fun _ _ => ServiceConfig.isValue_of_mem_mainTexts hsession hpath hroot hdatabase
  exact hmain.putTexts ⟨hsession.trimmed, hsession.onOneLine⟩ PeerConfig.isKey_of_mem_keys
    fun _ _ => PeerConfig.isValue_of_mem_texts

theorem isValue_of_fieldHolds (hwell : WellFormed settings) {sectionName key : Bytes}
    {documented text : Bytes}
    (hholds : FieldHolds settings sectionName key .ok (some documented) text)
    (hdocumented : IsValue documented) : IsValue text := by
  rcases hholds with ⟨stored, hfind, hread⟩ | ⟨-, hdefault⟩
  · rw [← Except.ok.inj hread]
    exact hwell.isValue_of_find? hfind
  · rw [← Option.some.inj hdefault]
    exact hdocumented

/-! ### The configuration again -/

/-- The computation gives this value, and it emits nothing under the level `debug`. -/
def GivesQuietly {α : Type} (computation : LoadM α) (value : α) : Prop :=
  computation.result = .ok value ∧ (computation.run.under (.showing .debug)).records = []

theorem givesQuietly_pure {α : Type} (value : α) : GivesQuietly (pure value) value := ⟨rfl, rfl⟩

/-- Reading well-formed settings back from their text leaves no more than traces. -/
theorem givesQuietly_read_render (hwell : WellFormed settings)
    (hload : load reader files settings = pure config) (origin : Bytes) :
    GivesQuietly (Settings.Ini.read origin (Settings.Ini.render settings) >>= load reader files)
      config := by
  have hread := Settings.Ini.read_render_of_wellFormed origin hwell
  have hwrites : (Settings.Ini.read origin (Settings.Ini.render settings) >>=
      load reader files).WritesOnly .trace := by
    refine (Settings.Ini.read_writesOnly_trace origin _).bind fun value hvalue => ?_
    obtain rfl := Except.ok.inj (hread.symm.trans hvalue)
    rw [hload]
    exact .pure config
  refine ⟨?_, (Logged.records_under _ _).trans (hwrites.filter_eq_nil rfl)⟩
  rw [LoadM.result_bind_of_ok hread, hload]
  rfl

theorem written_config_loads_again (hload : (load reader files settings).result = .ok config) :
    ∃ session path, IsSession settings session ∧
      settings.get? mainSection (utf8 "whoisjsonconfig") = some path ∧
      (∀ key text, (key, some text) ∈ config.peer.texts ++ config.texts →
        ∃ record ∈ config.summary, text <:+: record) ∧
      GivesQuietly (load reader files (written session path config)) config ∧
      ∀ origin text, (Settings.Ini.read origin text).result = .ok settings → ∀ target,
        GivesQuietly (Settings.Ini.read target
          (Settings.Ini.render (written session path config)) >>= load reader files) config := by
  obtain ⟨session, hsession, hpeer, hhttp, -, hwhois⟩ := load_result_eq_ok hload
  obtain ⟨hnamed, -, -⟩ := loadSession_result_eq_ok hsession
  obtain ⟨hendpoints, -⟩ := loadPeer_result_eq_ok hpeer
  have hhttp := loadHttp_result_eq_ok hhttp
  have hwhois := loadWhois_result_eq_ok hwhois
  obtain ⟨path, hpath, hregistry⟩ := hwhois.registry
  have hagain := load_written
    ⟨hendpoints.required, hregistry, hwhois.nameservers_ne_nil⟩ session
  refine ⟨session, path, hnamed, hpath, fun _ _ => ServiceConfig.exists_record_of_mem_texts, ?_,
    fun origin text hread target => ?_⟩
  · rw [hagain]
    exact givesQuietly_pure config
  · have hwell := Settings.Ini.wellFormed_of_read hread
    have hroot : IsValue config.http.root :=
      isValue_of_fieldHolds hwell hhttp.root ⟨by decide, by decide⟩
    have hdatabase : IsValue config.whois.database :=
      isValue_of_fieldHolds hwell hwhois.database ⟨by decide, by decide⟩
    have hwritten := wellFormed_written
      (hwell.isValue_of_find? (Settings.get?_eq_some_iff.1 hnamed))
      (hwell.isValue_of_find? (Settings.get?_eq_some_iff.1 hpath)) hroot hdatabase
    exact givesQuietly_read_render hwritten hagain target

/-- The main section is its own session here. Its listener is no address, its timeout is no number,
and one of its name servers is dropped, so the first run logs; the others do not. -/
theorem careless_settings_load_again :
    let text := utf8 "[main]\nsession=main\nmode=bgppassive\nprotolisten=any\nhttptimeout=soon\n" ++
      utf8 "whoisjsonconfig=w.json\nwhoisdns=[::1]:53, dns, 192.0.2.1"
    let settings := ((((((Settings.empty.put mainSection (utf8 "session") (.value mainSection)).put
      mainSection (utf8 "mode") (.value (utf8 "bgppassive"))).put mainSection (utf8 "protolisten")
      (.value (utf8 "any"))).put mainSection (utf8 "httptimeout") (.value (utf8 "soon"))).put
      mainSection (utf8 "whoisjsonconfig") (.value (utf8 "w.json"))).put mainSection
      (utf8 "whoisdns") (.value (utf8 "[::1]:53, dns, 192.0.2.1")))
    let files : Files := fun _ => some (utf8 "\x7b\x7d")
    let reader : Json.Reader := fun _ => .ok (.object [])
    ∃ config, (Settings.Ini.read (utf8 "a.ini") text).result = .ok settings ∧
      (load reader files settings).result = .ok config ∧
      (load reader files settings).run.records.map Record.severity = [.debug, .warn] ∧
      GivesQuietly (load reader files (written mainSection (utf8 "w.json") config)) config ∧
      GivesQuietly (Settings.Ini.read (utf8 "b.ini") (Settings.Ini.render
        (written mainSection (utf8 "w.json") config)) >>= load reader files) config := by
  intro text settings files reader
  have hread : (Settings.Ini.read (utf8 "a.ini") text).result = .ok settings := by
    decide +kernel
  have hload : (load reader files settings).result = .ok {
      peer := ⟨.bgpPassive, ⟨1, 1, 1, 1⟩, ⟨0, by decide⟩, none, none,
        some ⟨.v4 ⟨0, 0, 0, 0⟩, 179⟩⟩
      http := ⟨⟨.v4 ⟨0, 0, 0, 0⟩, 8080⟩, ⟨120, by decide⟩, utf8 "./contrib"⟩
      history := ⟨⟨10, by decide⟩, .differ, ⟨0, by decide⟩, ⟨300, by decide⟩⟩
      whois := ⟨⟨30, by decide⟩, ⟨1800, by decide⟩, ⟨.empty⟩, utf8 "whoiscache.db",
        [⟨.v6 ⟨[0, 0, 0, 0, 0, 0, 0, 1], rfl⟩, 53⟩, ⟨.v4 ⟨192, 0, 2, 1⟩, 53⟩]⟩ } := by
    rfl
  have hrecords : (load reader files settings).run.records.map Record.severity =
      [.debug, .warn] := by
    rfl
  obtain ⟨session, path, hsession, hpath, -, hquiet, htext⟩ := written_config_loads_again hload
  obtain rfl : mainSection = session :=
    Option.some.inj (show some mainSection = some session from hsession)
  obtain rfl : utf8 "w.json" = path :=
    Option.some.inj (show some (utf8 "w.json") = some path from hpath)
  exact ⟨_, hread, hload, hrecords, hquiet, htext _ text hread _⟩

end Service

end RouteMonitor
