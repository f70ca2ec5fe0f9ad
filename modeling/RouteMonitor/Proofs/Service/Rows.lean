import RouteMonitor.Proofs.Outcome
import RouteMonitor.Service.Load

/-!
# The table of settings

Loading as a table, one row for each condition it checks, in the order in which it checks them. A
row is looked up in the settings alone, without running the rows above it: where it depends on the
session or on the mode, it reads them again. `Row.fault?` is the error that a row gives, if any.

The columns of a row are what an absent key means, whether a bare key counts as absent, whether a
rejected text does, and for which cause the reader of the row rejects a text.
-/

namespace RouteMonitor.Service

/-- What an absent key means. -/
inductive Absence
  | error
  | default
  /-- An error exactly if the mode of the session demands the key. -/
  | demanded (required : Bool)

def Absence.fault? (sectionName key : Bytes) : Absence → Option ConfigError
  | .error => some (.missingKey sectionName key)
  | .default => none
  | .demanded true => some (.requiredByMode sectionName key)
  | .demanded false => none

inductive Row
  | presence (sectionName : Bytes)
  | setting (sectionName key : Bytes) (absence : Absence) (onBare onReject : Lenience)
    (cause? : Bytes → Option Bytes)
  | registryFile

/-- The cause for which a reader rejects a text. -/
def causeOf {α : Type} (read : Bytes → Except Bytes α) (text : Bytes) : Option Bytes :=
  match read text with
  | .ok _ => none
  | .error cause => some cause

/-- Any text is good. -/
def anyText (_ : Bytes) : Option Bytes := none

/-- The error of a key that is present. -/
def entryFault? (sectionName key : Bytes) (onBare onReject : Lenience)
    (cause? : Bytes → Option Bytes) : Entry → Option ConfigError
  | .bare => if onBare = .fail then some (.missingValue sectionName key) else none
  | .value text =>
    if onReject = .fail then (cause? text).map (.invalidValue sectionName key) else none

def registryFault? (reader : Json.Reader) (files : Files) (path : Bytes) : Option ConfigError :=
  match Whois.Registry.ofFile reader files path with
  | .ok _ => none
  | .error fault => some (.whoisConfig mainSection (utf8 "whoisjsonconfig") fault.message)

def Row.fault? (reader : Json.Reader) (files : Files) (settings : Settings) :
    Row → Option ConfigError
  | .presence sectionName =>
    if settings.hasSection sectionName then none else some (.missingSection sectionName)
  | .setting sectionName key absence onBare onReject cause? =>
    match settings.find? sectionName key with
    | none => absence.fault? sectionName key
    | some entry => entryFault? sectionName key onBare onReject cause? entry
  | .registryFile =>
    (settings.get? mainSection (utf8 "whoisjsonconfig")).bind (registryFault? reader files)

/-- The section that the settings name as that of the session. -/
def namedSession (settings : Settings) : Bytes :=
  (settings.get? mainSection (utf8 "session")).getD []

/-- The mode that the section of the session states. -/
def statedMode (settings : Settings) : Option PeerMode :=
  (settings.get? (namedSession settings) (utf8 "mode")).bind fun text =>
    (PeerMode.read text).toOption

def endpointRow (settings : Settings) (endpoint : Endpoint) : Row :=
  .setting (namedSession settings) endpoint.key
    (.demanded ((statedMode settings).any endpoint.requiredBy)) .fail .fail (causeOf endpoint.read)

theorem namedSession_of_get? {settings : Settings} {session : Bytes}
    (hget : settings.get? mainSection (utf8 "session") = some session) :
    namedSession settings = session := by
  rw [namedSession, hget]
  rfl

theorem statedMode_of_read {settings : Settings} {text : Bytes} {mode : PeerMode}
    (hget : settings.get? (namedSession settings) (utf8 "mode") = some text)
    (hread : PeerMode.read text = .ok mode) : statedMode settings = some mode := by
  rw [statedMode, hget, Option.bind_some, hread]
  rfl

def sessionRows (settings : Settings) : List Row :=
  [.presence mainSection,
    .setting mainSection (utf8 "session") .error .fail .fail anyText,
    .presence (namedSession settings)]

def peerRows (settings : Settings) : List Row :=
  [.setting (namedSession settings) (utf8 "mode") .error .fail .fail (causeOf PeerMode.read),
    endpointRow settings .bgpPeer,
    endpointRow settings .bmpPeer,
    endpointRow settings .protoListen,
    .setting (namedSession settings) (utf8 "routerid") .default .fail .fail (causeOf Ipv4.read),
    .setting (namedSession settings) (utf8 "peeras") .default .fail .fail
      (causeOf (Setting.readInteger .u32))]

def httpRows : List Row :=
  [.setting mainSection (utf8 "httplisten") .default .useDefault .fail (causeOf SocketAddress.read),
    .setting mainSection (utf8 "httptimeout") .default .useDefault .useDefault
      (causeOf (Setting.readInteger .u64)),
    .setting mainSection (utf8 "httproot") .default .useDefault .fail anyText]

def historyRows : List Row :=
  [.setting mainSection (utf8 "historydepth") .default .fail .fail
      (causeOf (Setting.readInteger .u64)),
    .setting mainSection (utf8 "historymode") .default .fail .fail (causeOf HistoryMode.read),
    .setting mainSection (utf8 "purge_after_withdraws") .default .fail .fail
      (causeOf (Setting.readInteger .u64)),
    .setting mainSection (utf8 "purge_every") .default .fail .fail
      (causeOf (Setting.readInteger .i64))]

def whoisRows : List Row :=
  [.setting mainSection (utf8 "whois_request_timeout") .default .useDefault .useDefault
      (causeOf (Setting.readInteger .u64)),
    .setting mainSection (utf8 "whois_cache_seconds") .default .useDefault .useDefault
      (causeOf (Setting.readInteger .i64)),
    .setting mainSection (utf8 "whoisjsonconfig") .error .fail .fail anyText,
    .registryFile,
    .setting mainSection (utf8 "whoisdb") .default .fail .fail anyText,
    .setting mainSection (utf8 "whoisdns") .default .fail .fail anyText]

def rows (settings : Settings) : List Row :=
  sessionRows settings ++ (peerRows settings ++ (httpRows ++ (historyRows ++ whoisRows)))

/-! ### Settings and their rows -/

variable {α : Type} (reader : Json.Reader) (files : Files) (settings : Settings)

theorem requireSection_endsAt (sectionName : Bytes) :
    (requireSection settings sectionName).EndsAt
      [(Row.presence sectionName).fault? reader files settings] fun _ => True := by
  cases hsection : settings.hasSection sectionName with
  | true =>
    have hresult : (requireSection settings sectionName).result = .ok () := by
      simp [requireSection, hsection]
    exact .of_value (by simp [Row.fault?, hsection]) hresult trivial
  | false =>
    have hresult : (requireSection settings sectionName).result =
        .error (.missingSection sectionName) := by
      simp [requireSection, hsection]
    exact .of_error (by simp [Row.fault?, hsection]) hresult

/-- A setting agrees with the first column of its row; only one with a default may be lenient. -/
def Absence.Fits (setting : Setting α) : Absence → Prop
  | .error => setting.fallback = .mandatory ∧ setting.onBare = .fail ∧ setting.onReject = .fail
  | .default => ∃ value, setting.fallback = .default value
  | .demanded required =>
    setting.fallback = .byMode required ∧ setting.onBare = .fail ∧ setting.onReject = .fail

/-- The row of a setting. -/
def rowOf (setting : Setting α) (absence : Absence) : Row :=
  .setting setting.sectionName setting.key absence setting.onBare setting.onReject
    (causeOf setting.read)

/-- What is known of a setting that is resolved: it may be unset only where some mode demands it,
and without a default it holds what was read. -/
def Settled (setting : Setting α) (absence : Absence) (resolved : Option α) : Prop :=
  match absence with
  | .error => ∃ text value, settings.get? setting.sectionName setting.key = some text ∧
      setting.read text = .ok value ∧ resolved = some value
  | .default => resolved.isSome
  | .demanded _ => True

/-- A setting that has no default is strict. -/
theorem Absence.Fits.strict {setting : Setting α} {absence : Absence} (hfits : absence.Fits setting)
    (hdefault : absence ≠ .default) : setting.onBare = .fail ∧ setting.onReject = .fail := by
  cases absence with
  | error => exact hfits.2
  | default => exact absurd rfl hdefault
  | demanded required => exact hfits.2

private theorem resolve_absent_endsAt {setting : Setting α} {absence : Absence}
    (hfits : absence.Fits setting)
    (hfind : settings.find? setting.sectionName setting.key = none) :
    (setting.resolve settings).EndsAt [(rowOf setting absence).fault? reader files settings]
      (Settled settings setting absence) := by
  have hrow : (rowOf setting absence).fault? reader files settings =
      absence.fault? setting.sectionName setting.key := by
    simp [rowOf, Row.fault?, hfind]
  have hresolve : setting.resolve settings = setting.resolveAbsent := by
    simp [Setting.resolve, hfind]
  rw [hrow, hresolve, Setting.resolveAbsent]
  cases absence with
  | error =>
    rw [hfits.1]
    exact .of_error rfl rfl
  | default =>
    obtain ⟨value, hfallback⟩ := hfits
    rw [hfallback]
    exact .of_value rfl rfl rfl
  | demanded required =>
    rw [hfits.1]
    cases required with
    | true => exact .of_error rfl rfl
    | false => exact .of_value rfl rfl trivial

private theorem resolve_bare_endsAt {setting : Setting α} {absence : Absence}
    (hfits : absence.Fits setting)
    (hfind : settings.find? setting.sectionName setting.key = some .bare) :
    (setting.resolve settings).EndsAt [(rowOf setting absence).fault? reader files settings]
      (Settled settings setting absence) := by
  have hrow : (rowOf setting absence).fault? reader files settings =
      entryFault? setting.sectionName setting.key setting.onBare setting.onReject
        (causeOf setting.read) .bare := by
    simp [rowOf, Row.fault?, hfind]
  have hresolve : setting.resolve settings = setting.resolveBare := by
    simp [Setting.resolve, hfind]
  rw [hrow, hresolve, Setting.resolveBare, entryFault?]
  by_cases hdefault : absence = .default
  · subst hdefault
    obtain ⟨value, hfallback⟩ := hfits
    rw [hfallback]
    cases setting.onBare with
    | fail => exact .of_error rfl rfl
    | useDefault => exact .of_value rfl rfl rfl
  · rw [(hfits.strict hdefault).1]
    exact .of_error rfl rfl

private theorem resolve_value_endsAt {setting : Setting α} {absence : Absence} {text : Bytes}
    (hfits : absence.Fits setting)
    (hfind : settings.find? setting.sectionName setting.key = some (.value text)) :
    (setting.resolve settings).EndsAt [(rowOf setting absence).fault? reader files settings]
      (Settled settings setting absence) := by
  have hrow : (rowOf setting absence).fault? reader files settings =
      entryFault? setting.sectionName setting.key setting.onBare setting.onReject
        (causeOf setting.read) (.value text) := by
    simp [rowOf, Row.fault?, hfind]
  rw [hrow, entryFault?, causeOf]
  cases hread : setting.read text with
  | ok value =>
    have hresolve : setting.resolve settings = pure (some value) := by
      simp [Setting.resolve, hfind, hread]
    rw [hresolve]
    refine .of_value (by cases setting.onReject <;> rfl) rfl ?_
    cases absence with
    | error => exact ⟨text, value, by simp [Settings.get?, hfind, Entry.text?], hread, rfl⟩
    | default => rfl
    | demanded required => trivial
  | error cause =>
    have hresolve : setting.resolve settings = setting.resolveRejected text cause := by
      simp [Setting.resolve, hfind, hread]
    rw [hresolve, Setting.resolveRejected]
    by_cases hdefault : absence = .default
    · subst hdefault
      obtain ⟨value, hfallback⟩ := hfits
      rw [hfallback]
      cases setting.onReject with
      | fail => exact .of_error rfl rfl
      | useDefault => exact .of_value rfl rfl rfl
    · rw [(hfits.strict hdefault).2]
      exact .of_error rfl rfl

/-- Resolving a setting fails as its row says. -/
theorem resolve_endsAt (setting : Setting α) (absence : Absence) (hfits : absence.Fits setting) :
    (setting.resolve settings).EndsAt [(rowOf setting absence).fault? reader files settings]
      (Settled settings setting absence) := by
  cases hfind : settings.find? setting.sectionName setting.key with
  | none => exact resolve_absent_endsAt reader files settings hfits hfind
  | some entry =>
    cases entry with
    | bare => exact resolve_bare_endsAt reader files settings hfits hfind
    | value text => exact resolve_value_endsAt reader files settings hfits hfind

/-- A setting that may not stay unset fails as its row says. -/
theorem require_endsAt (setting : Setting α) (absence : Absence) (hfits : absence.Fits setting)
    (hset : absence = .error ∨ absence = .default) :
    (setting.require settings).EndsAt [(rowOf setting absence).fault? reader files settings]
      fun value => Settled settings setting absence (some value) := by
  refine (resolve_endsAt reader files settings setting absence hfits).bind
    fun resolved hsettled => ?_
  cases resolved with
  | some value => exact .pure hsettled
  | none =>
    rcases hset with rfl | rfl
    · obtain ⟨_, _, _, _, hnone⟩ := hsettled
      exact absurd hnone (by simp)
    · exact absurd hsettled (by simp [Settled])

theorem require_default_endsAt (setting : Setting α) {value : α}
    (hfallback : setting.fallback = .default value) :
    (setting.require settings).EndsAt [(rowOf setting .default).fault? reader files settings]
      fun value => Settled settings setting .default (some value) :=
  require_endsAt reader files settings setting .default ⟨value, hfallback⟩ (.inr rfl)

/-- A setting without a default holds what was read. -/
theorem require_mandatory_endsAt (setting : Setting α) (hfallback : setting.fallback = .mandatory)
    (hbare : setting.onBare = .fail) (hreject : setting.onReject = .fail) :
    (setting.require settings).EndsAt [(rowOf setting .error).fault? reader files settings]
      fun value => ∃ text, settings.get? setting.sectionName setting.key = some text ∧
        setting.read text = .ok value := by
  refine (require_endsAt reader files settings setting .error ⟨hfallback, hbare, hreject⟩
    (.inl rfl)).mono fun value hsettled => ?_
  obtain ⟨text, read, htext, hread, hvalue⟩ := hsettled
  obtain rfl := Option.some.inj hvalue
  exact ⟨text, htext, hread⟩

/-- Once the mode is known, the row of an endpoint is that of its setting. -/
theorem endpointRow_eq_rowOf {settings : Settings} {mode : PeerMode}
    (hmode : statedMode settings = some mode) (endpoint : Endpoint) :
    endpointRow settings endpoint =
      rowOf (endpoint.setting (namedSession settings) mode)
        (.demanded (endpoint.requiredBy mode)) := by
  rw [endpointRow, hmode]
  rfl

theorem loadRegistry_endsAt {reader : Json.Reader} {files : Files} {settings : Settings}
    {path : Bytes} (hpath : settings.get? mainSection (utf8 "whoisjsonconfig") = some path) :
    (loadRegistry reader files path).EndsAt [Row.registryFile.fault? reader files settings]
      fun _ => True := by
  have hrow : Row.registryFile.fault? reader files settings = registryFault? reader files path := by
    rw [Row.fault?, hpath, Option.bind_some]
  rw [hrow, registryFault?, loadRegistry]
  cases Whois.Registry.ofFile reader files path with
  | ok registry => exact .of_value rfl rfl trivial
  | error fault => exact .of_error rfl rfl

/-- The faults of some rows, each found without the others. -/
def faults (rows : List Row) : List (Option ConfigError) :=
  rows.map (Row.fault? reader files settings)

end RouteMonitor.Service
