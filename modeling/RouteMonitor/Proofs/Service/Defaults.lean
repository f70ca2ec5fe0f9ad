import Mathlib.Data.List.Nodup
import RouteMonitor.Proofs.Service.Loaded

/-!
# The spellings of a default

Thirteen settings have a documented default. Where the key of one is absent, writing the default out
changes nothing, neither the configuration nor the error nor the log. For some keys a bare key does
the same, and for three of them so does any text that is no number, up to one record in the log.

The argument compares two loads, of which the second finds an entry under one key more. `Follows`
says of a part of the loading, with the keys that it resolves, that the second load is the same
computation unless the key is among them, and in any case adds no more than some given records. A
key is resolved only once, so both pass through a sequence of steps.
-/

namespace RouteMonitor

namespace Setting

variable {α : Type} {setting : Setting α} {settings : Settings} {entry : Entry}
  {written : List Record}

/-- The entry stands for the default of the setting, and resolving it writes the given records. -/
inductive DefaultsOn (setting : Setting α) : Entry → List Record → Prop
  | bare {value : α} : setting.fallback = .default value → setting.onBare = .useDefault →
    DefaultsOn setting .bare []
  | text {value : α} {text : Bytes} : setting.fallback = .default value →
    setting.read text = .ok value → DefaultsOn setting (.value text) []
  | rejected {value : α} {text cause : Bytes} : setting.fallback = .default value →
    setting.onReject = .useDefault → setting.read text = .error cause →
    DefaultsOn setting (.value text) [⟨.debug, setting.substitutionText text cause⟩]

theorem resolve_put_of_ne {sectionName key : Bytes} (hne : setting.key ≠ key) :
    setting.resolve (settings.put sectionName key entry) = setting.resolve settings := by
  rw [resolve, resolve, Settings.find?_put, if_neg fun hsame => hne hsame.2]

theorem require_put_of_ne {sectionName key : Bytes} (hne : setting.key ≠ key) :
    setting.require (settings.put sectionName key entry) = setting.require settings := by
  rw [require, require, resolve_put_of_ne hne]

theorem DefaultsOn.resolve_addsAtMost (hdefaults : setting.DefaultsOn entry written)
    (habsent : settings.find? setting.sectionName setting.key = none) :
    (setting.resolve settings).AddsAtMost written
      (setting.resolve (settings.put setting.sectionName setting.key entry)) := by
  have hfind : (settings.put setting.sectionName setting.key entry).find? setting.sectionName
      setting.key = some entry := by
    rw [Settings.find?_put, if_pos ⟨rfl, rfl⟩]
  cases hdefaults with
  | bare hfallback hlenient =>
    simp only [resolve, habsent, hfind, resolveAbsent, resolveBare, hfallback, hlenient]
    exact .refl [] _
  | text hfallback hread =>
    simp only [resolve, habsent, hfind, resolveAbsent, hfallback, hread]
    exact .refl [] _
  | rejected hfallback hlenient hread =>
    simp only [resolve, habsent, hfind, resolveAbsent, resolveRejected, hfallback, hlenient, hread]
    exact ⟨rfl, [], [], rfl, .inr rfl⟩

theorem DefaultsOn.require_addsAtMost (hdefaults : setting.DefaultsOn entry written)
    (habsent : settings.find? setting.sectionName setting.key = none) :
    (setting.require settings).AddsAtMost written
      (setting.require (settings.put setting.sectionName setting.key entry)) :=
  (hdefaults.resolve_addsAtMost habsent).bind_left _

end Setting

namespace Service

/-! ### The documented defaults -/

/-- The settings with a default. -/
inductive DefaultedKey
  | routerId
  | peerAs
  | httpListen
  | httpTimeout
  | httpRoot
  | historyDepth
  | historyMode
  | purgeAfterWithdraws
  | purgeEvery
  | whoisRequestTimeout
  | whoisCacheSeconds
  | whoisDatabase
  | whoisNameservers
deriving DecidableEq

namespace DefaultedKey

def name : DefaultedKey → Bytes
  | routerId => utf8 "routerid"
  | peerAs => utf8 "peeras"
  | httpListen => utf8 "httplisten"
  | httpTimeout => utf8 "httptimeout"
  | httpRoot => utf8 "httproot"
  | historyDepth => utf8 "historydepth"
  | historyMode => utf8 "historymode"
  | purgeAfterWithdraws => utf8 "purge_after_withdraws"
  | purgeEvery => utf8 "purge_every"
  | whoisRequestTimeout => utf8 "whois_request_timeout"
  | whoisCacheSeconds => utf8 "whois_cache_seconds"
  | whoisDatabase => utf8 "whoisdb"
  | whoisNameservers => utf8 "whoisdns"

/-- The text of the documented default. -/
def text : DefaultedKey → Bytes
  | routerId => utf8 "1.1.1.1"
  | peerAs => utf8 "0"
  | httpListen => utf8 "0.0.0.0:8080"
  | httpTimeout => utf8 "120"
  | httpRoot => utf8 "./contrib"
  | historyDepth => utf8 "10"
  | historyMode => utf8 "differ"
  | purgeAfterWithdraws => utf8 "0"
  | purgeEvery => utf8 "300"
  | whoisRequestTimeout => utf8 "30"
  | whoisCacheSeconds => utf8 "1800"
  | whoisDatabase => utf8 "whoiscache.db"
  | whoisNameservers => utf8 "1.1.1.1:53"

def sectionName (session : Bytes) : DefaultedKey → Bytes
  | routerId | peerAs => session
  | _ => mainSection

abbrev Value : DefaultedKey → Type
  | routerId => Ipv4
  | peerAs => Integer .u32
  | httpListen => SocketAddress
  | historyMode => HistoryMode
  | httpTimeout | historyDepth | purgeAfterWithdraws | whoisRequestTimeout => Integer .u64
  | purgeEvery | whoisCacheSeconds => Integer .i64
  | httpRoot | whoisDatabase | whoisNameservers => Bytes

def setting (session : Bytes) : (key : DefaultedKey) → Setting key.Value
  | routerId => Service.routerId session
  | peerAs => Service.peerAs session
  | httpListen => Service.httpListen
  | httpTimeout => Service.httpTimeout
  | httpRoot => Service.httpRoot
  | historyDepth => Service.historyDepth
  | historyMode => Service.historyMode
  | purgeAfterWithdraws => Service.purgeAfterWithdraws
  | purgeEvery => Service.purgeEvery
  | whoisRequestTimeout => Service.whoisRequestTimeout
  | whoisCacheSeconds => Service.whoisCacheSeconds
  | whoisDatabase => Service.whoisDatabase
  | whoisNameservers => Service.whoisNameservers

/-- Every key, in the order in which loading resolves them. -/
def all : List DefaultedKey :=
  [routerId, peerAs, httpListen, httpTimeout, httpRoot, historyDepth, historyMode,
    purgeAfterWithdraws, purgeEvery, whoisRequestTimeout, whoisCacheSeconds, whoisDatabase,
    whoisNameservers]

/-- The keys that may also be bare. -/
def bareTolerant : List DefaultedKey :=
  [httpListen, httpTimeout, httpRoot, whoisRequestTimeout, whoisCacheSeconds]

/-- The keys that may also hold a text that is rejected. -/
def rejectTolerant : List DefaultedKey := [httpTimeout, whoisRequestTimeout, whoisCacheSeconds]

variable (session : Bytes) {key : DefaultedKey}

theorem mem_all (key : DefaultedKey) : key ∈ all := by
  cases key <;> decide

theorem nodup_map_name : (all.map name).Nodup := by
  decide

theorem name_injective {left right : DefaultedKey} (hname : left.name = right.name) :
    left = right :=
  List.inj_on_of_nodup_map nodup_map_name (mem_all left) (mem_all right) hname

@[simp] theorem setting_key (key : DefaultedKey) : (key.setting session).key = key.name := by
  cases key <;> rfl

@[simp] theorem setting_sectionName (key : DefaultedKey) :
    (key.setting session).sectionName = key.sectionName session := by
  cases key <;> rfl

/-- Every documented text is read as the default that stands in for it. -/
theorem exists_default (key : DefaultedKey) :
    ∃ value, (key.setting session).fallback = .default value ∧
      (key.setting session).read key.text = .ok value := by
  cases key <;> exact ⟨_, rfl, rfl⟩

theorem onBare_of_mem (hkey : key ∈ bareTolerant) :
    (key.setting session).onBare = .useDefault := by
  simp only [bareTolerant, List.mem_cons, List.not_mem_nil, or_false] at hkey
  rcases hkey with rfl | rfl | rfl | rfl | rfl <;> rfl

theorem onReject_of_mem (hkey : key ∈ rejectTolerant) :
    (key.setting session).onReject = .useDefault := by
  simp only [rejectTolerant, List.mem_cons, List.not_mem_nil, or_false] at hkey
  rcases hkey with rfl | rfl | rfl <;> rfl

end DefaultedKey

/-! ### One key more -/

/-- The entry may be added for the key: the key is absent, and the entry stands for its default. -/
structure IsSpelling (settings : Settings) (session : Bytes) (key : DefaultedKey) (entry : Entry)
    (written : List Record) : Prop where
  absent : settings.find? (key.sectionName session) key.name = none
  defaultsOn : (key.setting session).DefaultsOn entry written

def withEntry (settings : Settings) (session : Bytes) (key : DefaultedKey) (entry : Entry) :
    Settings :=
  settings.put (key.sectionName session) key.name entry

/-- Two runs of a part of the loading that resolves some keys. They differ only if the key is one of
these, and then by no more than the records, unless it is resolved twice. -/
structure Follows {α : Type} (key : DefaultedKey) (written : List Record)
    (resolved : List DefaultedKey) (first second : LoadM α) : Prop where
  same : key ∉ resolved → second = first
  adds : resolved.Nodup → first.AddsAtMost written second

variable {α β : Type} {reader : Json.Reader} {files : Files} {settings : Settings}
  {session : Bytes} {key : DefaultedKey}
  {entry : Entry} {written : List Record}

namespace Follows

theorem of_eq {first second : LoadM α} (hsame : second = first) :
    Follows key written [] first second :=
  ⟨fun _ => hsame, fun _ => hsame ▸ .refl written first⟩

theorem bind {first second : LoadM α} {next other : α → LoadM β} {before after : List DefaultedKey}
    (hfirst : Follows key written before first second)
    (hnext : ∀ value, first.result = .ok value →
      Follows key written after (next value) (other value)) :
    Follows key written (before ++ after) (first >>= next) (second >>= other) where
  same := by
    intro hkey
    rw [List.mem_append, not_or] at hkey
    rw [hfirst.same hkey.1]
    exact LoadM.bind_congr_of_result fun value hvalue => (hnext value hvalue).same hkey.2
  adds := by
    intro hnodup
    obtain ⟨hbefore, hafter, hdisjoint⟩ := List.nodup_append'.1 hnodup
    -- The records appear on one side only: a key of the first part is none of the second.
    by_cases hkey : key ∈ before
    · have hsame : first >>= other = first >>= next :=
        LoadM.bind_congr_of_result fun value hvalue => (hnext value hvalue).same (hdisjoint hkey)
      rw [← hsame]
      exact (hfirst.adds hbefore).bind_left other
    · rw [hfirst.same hkey]
      exact .bind_right fun value hvalue => (hnext value hvalue).adds hafter

end Follows

/-! ### One step -/

/-- The keys that have no default. -/
def strictKeys : List Bytes :=
  [utf8 "session", utf8 "mode", utf8 "bgppeer", utf8 "bmppeer", utf8 "protolisten",
    utf8 "whoisjsonconfig"]

theorem DefaultedKey.name_not_mem_strictKeys (key : DefaultedKey) : key.name ∉ strictKeys := by
  cases key <;> decide

theorem endpoint_key_mem_strictKeys (endpoint : Endpoint) : endpoint.key ∈ strictKeys := by
  cases endpoint <;> decide

theorem resolve_strict_follows {setting : Setting α} (hstrict : setting.key ∈ strictKeys) :
    Follows key written [] (setting.resolve settings)
      (setting.resolve (withEntry settings session key entry)) :=
  .of_eq <| Setting.resolve_put_of_ne fun hname => key.name_not_mem_strictKeys (hname ▸ hstrict)

theorem require_strict_follows {setting : Setting α} (hstrict : setting.key ∈ strictKeys) :
    Follows key written [] (setting.require settings)
      (setting.require (withEntry settings session key entry)) :=
  .of_eq <| Setting.require_put_of_ne fun hname => key.name_not_mem_strictKeys (hname ▸ hstrict)

theorem require_follows (hspelling : IsSpelling settings session key entry written)
    (resolved : DefaultedKey) :
    Follows key written [resolved] ((resolved.setting session).require settings)
      ((resolved.setting session).require (withEntry settings session key entry)) := by
  rw [withEntry]
  by_cases hresolved : resolved = key
  · subst hresolved
    have hadds := hspelling.defaultsOn.require_addsAtMost (by simpa using hspelling.absent)
    rw [DefaultedKey.setting_sectionName, DefaultedKey.setting_key] at hadds
    exact ⟨fun hkey => absurd (List.mem_singleton_self resolved) hkey, fun _ => hadds⟩
  · have hsame : (resolved.setting session).require
        (settings.put (key.sectionName session) key.name entry) =
          (resolved.setting session).require settings := by
      apply Setting.require_put_of_ne
      rw [DefaultedKey.setting_key]
      exact fun hname => hresolved (DefaultedKey.name_injective hname)
    exact ⟨fun _ => hsame, fun _ => hsame ▸ .refl written _⟩

theorem requireSection_withEntry
    (hsection : settings.hasSection (key.sectionName session) = true) (asked : Bytes) :
    requireSection (withEntry settings session key entry) asked =
      requireSection settings asked := by
  have hasked : (withEntry settings session key entry).hasSection asked =
      settings.hasSection asked := by
    rw [withEntry, Settings.hasSection_put]
    by_cases hsame : asked = key.sectionName session
    · rw [hsame, hsection, Bool.or_true]
    · rw [decide_eq_false hsame, Bool.false_or]
  rw [requireSection, requireSection, hasked]

/-! ### The steps in order -/

theorem loadSession_follows (hsection : settings.hasSection (key.sectionName session) = true) :
    Follows key written [] (loadSession settings)
      (loadSession (withEntry settings session key entry)) := by
  refine Follows.bind (.of_eq (requireSection_withEntry hsection mainSection)) fun _ _ => ?_
  refine Follows.bind (require_strict_follows (by decide)) fun name _ => ?_
  exact Follows.bind (.of_eq (requireSection_withEntry hsection name)) fun _ _ => .of_eq rfl

theorem loadPeer_follows (hspelling : IsSpelling settings session key entry written) :
    Follows key written [.routerId, .peerAs] (loadPeer settings session)
      (loadPeer (withEntry settings session key entry) session) := by
  have hmode : utf8 "mode" ∈ strictKeys := by decide
  refine Follows.bind (require_strict_follows hmode) fun mode _ => ?_
  refine Follows.bind (resolve_strict_follows (endpoint_key_mem_strictKeys .bgpPeer)) fun _ _ => ?_
  refine Follows.bind (resolve_strict_follows (endpoint_key_mem_strictKeys .bmpPeer)) fun _ _ => ?_
  refine Follows.bind (resolve_strict_follows (endpoint_key_mem_strictKeys .protoListen))
    fun _ _ => ?_
  refine (require_follows hspelling .routerId).bind fun _ _ => ?_
  exact (require_follows hspelling .peerAs).bind fun _ _ => .of_eq rfl

theorem loadHttp_follows (hspelling : IsSpelling settings session key entry written) :
    Follows key written [.httpListen, .httpTimeout, .httpRoot] (loadHttp settings)
      (loadHttp (withEntry settings session key entry)) := by
  refine (require_follows hspelling .httpListen).bind fun _ _ => ?_
  refine (require_follows hspelling .httpTimeout).bind fun _ _ => ?_
  exact (require_follows hspelling .httpRoot).bind fun _ _ => .of_eq rfl

theorem loadHistory_follows (hspelling : IsSpelling settings session key entry written) :
    Follows key written [.historyDepth, .historyMode, .purgeAfterWithdraws, .purgeEvery]
      (loadHistory settings) (loadHistory (withEntry settings session key entry)) := by
  refine (require_follows hspelling .historyDepth).bind fun _ _ => ?_
  refine (require_follows hspelling .historyMode).bind fun _ _ => ?_
  refine (require_follows hspelling .purgeAfterWithdraws).bind fun _ _ => ?_
  exact (require_follows hspelling .purgeEvery).bind fun _ _ => .of_eq rfl

theorem loadWhois_follows (hspelling : IsSpelling settings session key entry written) :
    Follows key written
      [.whoisRequestTimeout, .whoisCacheSeconds, .whoisDatabase, .whoisNameservers]
      (loadWhois reader files settings)
      (loadWhois reader files (withEntry settings session key entry)) := by
  refine (require_follows hspelling .whoisRequestTimeout).bind fun _ _ => ?_
  refine (require_follows hspelling .whoisCacheSeconds).bind fun _ _ => ?_
  refine Follows.bind (require_strict_follows (by decide)) fun path _ => ?_
  refine Follows.bind (.of_eq rfl) fun _ _ => ?_
  refine (require_follows hspelling .whoisDatabase).bind fun _ _ => ?_
  refine (require_follows hspelling .whoisNameservers).bind fun text _ => ?_
  exact Follows.bind (.of_eq rfl) fun _ _ => .of_eq rfl

theorem load_follows (hsession : IsSession settings session)
    (hsection : settings.hasSection (key.sectionName session) = true)
    (hspelling : IsSpelling settings session key entry written) :
    Follows key written DefaultedKey.all (load reader files settings)
      (load reader files (withEntry settings session key entry)) := by
  refine (loadSession_follows hsection).bind fun name hname => ?_
  obtain rfl : session = name :=
    Option.some.inj (hsession.symm.trans (loadSession_result_eq_ok hname).1)
  refine (loadPeer_follows hspelling).bind fun _ _ => ?_
  refine (loadHttp_follows hspelling).bind fun _ _ => ?_
  refine (loadHistory_follows hspelling).bind fun _ _ => ?_
  exact (loadWhois_follows hspelling).bind fun _ _ => .of_eq rfl

theorem load_addsAtMost (hmain : settings.hasSection mainSection = true)
    (hsession : IsSession settings session) (hsection : settings.hasSection session = true)
    (hspelling : IsSpelling settings session key entry written) :
    (load reader files settings).AddsAtMost written
      (load reader files (withEntry settings session key entry)) := by
  have hexists : settings.hasSection (key.sectionName session) = true := by
    cases key <;> assumption
  exact (load_follows hsession hexists hspelling).adds DefaultedKey.nodup_map_name.of_map

/-- An absent key, its documented text and, for some keys, the bare key load alike. So does a text
that is rejected, where the key takes it, with at most the record of the substitution more. -/
theorem load_takes_defaults_in_any_spelling (reader : Json.Reader) (files : Files)
    (hmain : settings.hasSection mainSection = true) (hsession : IsSession settings session)
    (hsection : settings.hasSection session = true) (key : DefaultedKey)
    (habsent : settings.has (key.sectionName session) key.name = false) :
    load reader files (withEntry settings session key (.value key.text)) =
        load reader files settings ∧
      (key ∈ DefaultedKey.bareTolerant →
        load reader files (withEntry settings session key .bare) =
          load reader files settings) ∧
      (key ∈ DefaultedKey.rejectTolerant → ∀ text cause,
        (key.setting session).read text = .error cause →
        (load reader files settings).AddsAtMost
          [⟨.debug, (key.setting session).substitutionText text cause⟩]
          (load reader files (withEntry settings session key (.value text)))) := by
  have hfind : settings.find? (key.sectionName session) key.name = none :=
    by simpa [Settings.has] using habsent
  obtain ⟨value, hfallback, hread⟩ := key.exists_default session
  refine ⟨?text, fun hkey => ?bare, fun hkey text cause hcause => ?rejected⟩
  case text =>
    exact (load_addsAtMost hmain hsession hsection ⟨hfind, .text hfallback hread⟩).eq_of_nil
  case bare =>
    have hbare := DefaultedKey.onBare_of_mem session hkey
    exact (load_addsAtMost hmain hsession hsection ⟨hfind, .bare hfallback hbare⟩).eq_of_nil
  case rejected =>
    have hreject := DefaultedKey.onReject_of_mem session hkey
    exact load_addsAtMost hmain hsession hsection ⟨hfind, .rejected hfallback hreject hcause⟩

/-- The section of the session may be the main one, and the load may fail below the key. -/
theorem timeout_defaults_in_any_spelling :
    let reader : Json.Reader := fun _ => .ok (.object [])
    let settings := ((Settings.empty.put mainSection (utf8 "session") (.value mainSection)).put
      mainSection (utf8 "mode") (.value (utf8 "bgpactive"))).put mainSection (utf8 "bgppeer")
      (.value (utf8 "192.0.2.1"))
    let timeout := utf8 "httptimeout"
    let record : Record :=
      ⟨.debug, utf8 "[main] httptimeout = 'soon' ignored (" ++
        utf8 "invalid digit found in string), using default"⟩
    (load reader .none settings).result =
        .error (.missingKey mainSection (utf8 "whoisjsonconfig")) ∧
      load reader .none (settings.put mainSection timeout (.value (utf8 "120"))) =
        load reader .none settings ∧
      load reader .none (settings.put mainSection timeout .bare) = load reader .none settings ∧
      (load reader .none settings).AddsAtMost [record]
        (load reader .none (settings.put mainSection timeout (.value (utf8 "soon")))) := by
  intro reader settings timeout record
  have hsession : IsSession settings mainSection := rfl
  obtain ⟨htext, hbare, hrejected⟩ := load_takes_defaults_in_any_spelling reader .none
    (by decide) hsession (by decide) .httpTimeout (by decide)
  have hcause : (DefaultedKey.httpTimeout.setting mainSection).read (utf8 "soon") =
      .error Integer.Fault.invalidDigit.message := rfl
  exact ⟨by decide, htext, hbare (by decide), hrejected (by decide) (utf8 "soon") _ hcause⟩

end Service

end RouteMonitor
