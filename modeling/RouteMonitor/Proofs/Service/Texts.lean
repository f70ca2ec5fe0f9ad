import RouteMonitor.Proofs.Integer
import RouteMonitor.Proofs.Mode
import RouteMonitor.Proofs.Nameserver
import RouteMonitor.Proofs.Settings.Texts
import RouteMonitor.Service.Summary

/-!
# The texts of a configuration

A configuration shows in the log as texts, and each of them belongs under a key of the settings. The
keys of the peer's section and of the main section are distinct, even when both are one section. All
texts that are rendered stand on one line without blanks around them; the others were taken over
from the settings as they were.
-/

namespace RouteMonitor

/-! ### Keys and texts -/

def PeerConfig.texts (config : PeerConfig) : Texts :=
  [(utf8 "mode", some config.mode.name), (utf8 "routerid", some config.routerId.render),
    (utf8 "peeras", some config.peerAs.render),
    (utf8 "bgppeer", config.bgpPeer.map SocketAddress.render),
    (utf8 "bmppeer", config.bmpPeer.map SocketAddress.render),
    (utf8 "protolisten", config.protoListen.map SocketAddress.render)]

def HttpConfig.texts (config : HttpConfig) : Texts :=
  [(utf8 "httplisten", some config.listen.render), (utf8 "httproot", some config.root),
    (utf8 "httptimeout", some config.timeout.render)]

def HistoryConfig.texts (config : HistoryConfig) : Texts :=
  [(utf8 "historydepth", some config.depth.render), (utf8 "historymode", some config.mode.name),
    (utf8 "purge_after_withdraws", some config.purgeAfterWithdraws.render),
    (utf8 "purge_every", some config.purgeEvery.render)]

def WhoisConfig.texts (config : WhoisConfig) : Texts :=
  [(utf8 "whoisdb", some config.database),
    (utf8 "whois_request_timeout", some config.requestTimeout.render),
    (utf8 "whois_cache_seconds", some config.cacheSeconds.render),
    (utf8 "whoisdns", some (Nameserver.renderList config.nameservers))]

/-- The texts that belong into the main section. -/
def ServiceConfig.texts (config : ServiceConfig) : Texts :=
  config.http.texts ++ config.history.texts ++ config.whois.texts

/-- The main section, with the two settings that a configuration does not show. -/
def ServiceConfig.mainTexts (config : ServiceConfig) (session path : Bytes) : Texts :=
  (utf8 "session", some session) :: (utf8 "whoisjsonconfig", some path) :: config.texts

namespace PeerConfig

theorem keys_of_texts (config : PeerConfig) : config.texts.map Prod.fst =
    [utf8 "mode", utf8 "routerid", utf8 "peeras", utf8 "bgppeer", utf8 "bmppeer",
      utf8 "protolisten"] := rfl

theorem nodup_keys_of_texts (config : PeerConfig) : (config.texts.map Prod.fst).Nodup := by
  rw [keys_of_texts]
  decide +kernel

theorem isKey_of_mem_keys {config : PeerConfig} :
    ∀ key ∈ config.texts.map Prod.fst, Settings.Ini.IsKey key := by
  rw [keys_of_texts]
  exact Settings.Ini.forall_isKey (by decide +kernel)

end PeerConfig

namespace ServiceConfig

theorem keys_of_mainTexts (config : ServiceConfig) (session path : Bytes) :
    (config.mainTexts session path).map Prod.fst =
      [utf8 "session", utf8 "whoisjsonconfig", utf8 "httplisten", utf8 "httproot",
        utf8 "httptimeout", utf8 "historydepth", utf8 "historymode",
        utf8 "purge_after_withdraws", utf8 "purge_every", utf8 "whoisdb",
        utf8 "whois_request_timeout", utf8 "whois_cache_seconds", utf8 "whoisdns"] := rfl

theorem nodup_keys_of_mainTexts (config : ServiceConfig) (session path : Bytes) :
    ((config.mainTexts session path).map Prod.fst).Nodup := by
  rw [keys_of_mainTexts]
  decide +kernel

theorem isKey_of_mem_keys {config : ServiceConfig} {session path : Bytes} :
    ∀ key ∈ (config.mainTexts session path).map Prod.fst, Settings.Ini.IsKey key := by
  rw [keys_of_mainTexts]
  exact Settings.Ini.forall_isKey (by decide +kernel)

theorem not_mem_keys_of_mainTexts {config : ServiceConfig} {session path key : Bytes}
    (hkey : key ∈ config.peer.texts.map Prod.fst) :
    key ∉ (config.mainTexts session path).map Prod.fst := by
  rw [keys_of_mainTexts]
  rw [PeerConfig.keys_of_texts] at hkey
  revert key
  decide +kernel

end ServiceConfig

/-! ### The texts in the summary

A record of the summary is made of pieces, and each text of its group is one of them. -/

section Summary

variable {key text : Bytes}

theorem PeerConfig.infix_summary_of_mem_texts {config : PeerConfig}
    (hmem : (key, some text) ∈ config.texts) : text <:+: config.summary := by
  have hpieces : config.summary = [utf8 "peer: mode=", config.mode.name, utf8 " routerid=",
      config.routerId.render, utf8 " peeras=", config.peerAs.render, utf8 " bgppeer=",
      renderUnset config.bgpPeer, utf8 " bmppeer=", renderUnset config.bmpPeer,
      utf8 " protolisten=", renderUnset config.protoListen].flatten := by
    simp [summary]
  have hendpoint : ∀ {address? : Option SocketAddress},
      some text = address?.map SocketAddress.render → text = renderUnset address? := by
    intro address? htext
    obtain ⟨address, rfl, rfl⟩ := Option.map_eq_some_iff.1 htext.symm
    rfl
  rw [hpieces]
  apply List.infix_of_mem_flatten
  simp only [texts, List.mem_cons, Prod.mk.injEq, Option.some.injEq, List.not_mem_nil,
    or_false] at hmem
  rcases hmem with ⟨-, htext⟩ | ⟨-, htext⟩ | ⟨-, htext⟩ | ⟨-, htext⟩ | ⟨-, htext⟩ | ⟨-, htext⟩
  · simp [htext]
  · simp [htext]
  · simp [htext]
  · simp [hendpoint htext]
  · simp [hendpoint htext]
  · simp [hendpoint htext]

theorem HttpConfig.infix_summary_of_mem_texts {config : HttpConfig}
    (hmem : (key, some text) ∈ config.texts) : text <:+: config.summary := by
  have hpieces : config.summary = [utf8 "http: listen=", config.listen.render, utf8 " root=",
      config.root, utf8 " timeout=", config.timeout.render, utf8 "s"].flatten := by
    simp [summary]
  rw [hpieces]
  apply List.infix_of_mem_flatten
  simp only [texts, List.mem_cons, Prod.mk.injEq, Option.some.injEq, List.not_mem_nil,
    or_false] at hmem
  rcases hmem with ⟨-, htext⟩ | ⟨-, htext⟩ | ⟨-, htext⟩
  all_goals simp [htext]

theorem HistoryConfig.infix_summary_of_mem_texts {config : HistoryConfig}
    (hmem : (key, some text) ∈ config.texts) : text <:+: config.summary := by
  have hpieces : config.summary = [utf8 "history: depth=", config.depth.render, utf8 " mode=",
      config.mode.name, utf8 " purge_after_withdraws=", config.purgeAfterWithdraws.render,
      utf8 " purge_every=", config.purgeEvery.render, utf8 "s"].flatten := by
    simp [summary]
  rw [hpieces]
  apply List.infix_of_mem_flatten
  simp only [texts, List.mem_cons, Prod.mk.injEq, Option.some.injEq, List.not_mem_nil,
    or_false] at hmem
  rcases hmem with ⟨-, htext⟩ | ⟨-, htext⟩ | ⟨-, htext⟩ | ⟨-, htext⟩
  all_goals simp [htext]

theorem WhoisConfig.infix_summary_of_mem_texts {config : WhoisConfig}
    (hmem : (key, some text) ∈ config.texts) : text <:+: config.summary := by
  have hpieces : config.summary = [utf8 "whois: servers=",
      Decimal.ofNat config.registry.servers.size, utf8 " db=", config.database,
      utf8 " timeout=", config.requestTimeout.render, utf8 "s cache=",
      config.cacheSeconds.render, utf8 "s dns=",
      Nameserver.renderList config.nameservers].flatten := by
    simp [summary]
  rw [hpieces]
  apply List.infix_of_mem_flatten
  simp only [texts, List.mem_cons, Prod.mk.injEq, Option.some.injEq, List.not_mem_nil,
    or_false] at hmem
  rcases hmem with ⟨-, htext⟩ | ⟨-, htext⟩ | ⟨-, htext⟩ | ⟨-, htext⟩
  all_goals simp [htext]

theorem ServiceConfig.exists_record_of_mem_texts {config : ServiceConfig}
    (hmem : (key, some text) ∈ config.peer.texts ++ config.texts) :
    ∃ record ∈ config.summary, text <:+: record := by
  rcases List.mem_append.1 hmem with hpeer | hmem
  · exact ⟨_, by simp [summary], PeerConfig.infix_summary_of_mem_texts hpeer⟩
  rcases List.mem_append.1 hmem with hmem | hwhois
  · rcases List.mem_append.1 hmem with hhttp | hhistory
    · exact ⟨_, by simp [summary], HttpConfig.infix_summary_of_mem_texts hhttp⟩
    · exact ⟨_, by simp [summary], HistoryConfig.infix_summary_of_mem_texts hhistory⟩
  · exact ⟨_, by simp [summary], WhoisConfig.infix_summary_of_mem_texts hwhois⟩

end Summary

/-! ### The texts as values -/

section Values

open Settings.Ini (IsValue isValue_of_isUnspaced)

variable {key text : Bytes}

theorem PeerConfig.isValue_of_mem_texts {config : PeerConfig}
    (hmem : (key, some text) ∈ config.texts) : IsValue text := by
  have haddress : ∀ {address? : Option SocketAddress},
      some text = address?.map SocketAddress.render → text.IsUnspaced := by
    intro address? htext
    obtain ⟨address, rfl, rfl⟩ := Option.map_eq_some_iff.1 htext.symm
    exact address.isUnspaced_render
  apply isValue_of_isUnspaced
  simp only [texts, List.mem_cons, Prod.mk.injEq, Option.some.injEq, List.not_mem_nil,
    or_false] at hmem
  rcases hmem with ⟨-, rfl⟩ | ⟨-, rfl⟩ | ⟨-, rfl⟩ | ⟨-, htext⟩ | ⟨-, htext⟩ | ⟨-, htext⟩
  · exact config.mode.isUnspaced_name
  · exact config.routerId.isUnspaced_render
  · exact config.peerAs.isUnspaced_render
  · exact haddress htext
  · exact haddress htext
  · exact haddress htext

/-- Of the texts in the main section, all but four are rendered. -/
theorem ServiceConfig.isValue_of_mem_mainTexts {config : ServiceConfig} {session path : Bytes}
    (hsession : IsValue session) (hpath : IsValue path) (hroot : IsValue config.http.root)
    (hdatabase : IsValue config.whois.database)
    (hmem : (key, some text) ∈ config.mainTexts session path) : IsValue text := by
  simp only [mainTexts, texts, HttpConfig.texts, HistoryConfig.texts,
    WhoisConfig.texts, List.mem_append, List.mem_cons, Prod.mk.injEq, Option.some.injEq,
    List.not_mem_nil, or_false] at hmem
  rcases hmem with ⟨-, rfl⟩ | ⟨-, rfl⟩ | ((hhttp | hhistory) | hwhois)
  · exact hsession
  · exact hpath
  · rcases hhttp with ⟨-, rfl⟩ | ⟨-, rfl⟩ | ⟨-, rfl⟩
    · exact isValue_of_isUnspaced config.http.listen.isUnspaced_render
    · exact hroot
    · exact isValue_of_isUnspaced config.http.timeout.isUnspaced_render
  · apply isValue_of_isUnspaced
    rcases hhistory with ⟨-, rfl⟩ | ⟨-, rfl⟩ | ⟨-, rfl⟩ | ⟨-, rfl⟩
    · exact config.history.depth.isUnspaced_render
    · exact config.history.mode.isUnspaced_name
    · exact config.history.purgeAfterWithdraws.isUnspaced_render
    · exact config.history.purgeEvery.isUnspaced_render
  · rcases hwhois with ⟨-, rfl⟩ | ⟨-, rfl⟩ | ⟨-, rfl⟩ | ⟨-, rfl⟩
    · exact hdatabase
    · exact isValue_of_isUnspaced config.whois.requestTimeout.isUnspaced_render
    · exact isValue_of_isUnspaced config.whois.cacheSeconds.isUnspaced_render
    · exact isValue_of_isUnspaced (Nameserver.isUnspaced_renderList _)

end Values

end RouteMonitor
