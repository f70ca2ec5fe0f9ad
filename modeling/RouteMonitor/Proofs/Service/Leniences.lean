import RouteMonitor.Proofs.Log
import RouteMonitor.Proofs.Nameserver
import RouteMonitor.Proofs.Nameserver.Entries
import RouteMonitor.Proofs.Outcome.Steps
import RouteMonitor.Proofs.Service.FirstFault
import RouteMonitor.Proofs.Setting

/-!
# What loading passes over

Loading is lenient in two ways. Three settings take their default for a text that they reject, and
the list of name servers is read without the entries that are no addresses. Each time it writes one
record, and it writes no others: a bare or absent key leaves none. Where it fails, it has written
the records of the rows above the faulty one. No warning is among them, since the name servers come
last.

The argument follows the table of settings once more: each row writes what it passes over, so the
records of a sequence of steps are those of its rows (`LoadM.Takes.bind`).
-/

namespace RouteMonitor

namespace Setting

variable {α : Type} (setting : Setting α) (settings : Settings)

theorem records_resolveAbsent : setting.resolveAbsent.run.records = [] := by
  rw [resolveAbsent]
  split <;> rfl

theorem records_resolveBare : setting.resolveBare.run.records = [] := by
  rw [resolveBare]
  split <;> rfl

/-- The last step of a required setting only decides how it ends. -/
theorem records_require :
    (setting.require settings).run.records = (setting.resolve settings).run.records := by
  rw [require]
  cases hresult : (setting.resolve settings).result with
  | error error => exact LoadM.records_bind_of_error hresult _
  | ok resolved =>
    rw [LoadM.records_bind_of_ok hresult]
    cases resolved <;> exact List.append_nil _

end Setting

namespace Service

open LoadM (Step Takes)

/-- The record of a text that is rejected, where the default stands in for it. -/
def substitution (sectionName key text cause : Bytes) : Record :=
  ⟨.debug, utf8 "[" ++ sectionName ++ utf8 "] " ++ key ++ utf8 " = " ++ quoted text ++
    utf8 " ignored (" ++ cause ++ utf8 "), using default"⟩

/-- The record of a key that holds a text which is rejected; other keys have none. -/
def substitutions (settings : Settings) (sectionName key : Bytes)
    (cause? : Bytes → Option Bytes) : List Record :=
  match settings.get? sectionName key with
  | none => []
  | some text => ((cause? text).map (substitution sectionName key text)).toList

/-- What a row passes over. -/
def Row.written (settings : Settings) : Row → List Record
  | .setting sectionName key _ _ .useDefault cause? => substitutions settings sectionName key cause?
  | _ => []

/-- The warnings about the entries that the stored list of name servers is read without. -/
def warnings (settings : Settings) : List Record :=
  match settings.get? mainSection (utf8 "whoisdns") with
  | none => []
  | some text =>
    ((Nameserver.entries text).filter fun entry => Nameserver.read? entry = none).map
      Nameserver.warning

def Row.step (reader : Json.Reader) (files : Files) (settings : Settings) (row : Row) : Step :=
  ⟨row.fault? reader files settings, row.written settings⟩

variable {α : Type} {reader : Json.Reader} {files : Files} {settings : Settings}

/-! ### One row -/

theorem Row.written_of_fault {row : Row} (hfault : row.fault? reader files settings ≠ none) :
    row.written settings = [] := by
  cases row with
  | presence sectionName => rfl
  | registryFile => rfl
  | setting sectionName key absence onBare onReject cause? =>
    cases onReject with
    | fail => rfl
    | useDefault =>
      rw [Row.fault?] at hfault
      rw [Row.written, substitutions, Settings.get?]
      cases hfind : settings.find? sectionName key with
      | none => rfl
      | some entry =>
        cases entry with
        | bare => rfl
        | value text => simp [hfind, entryFault?] at hfault

theorem Row.takes {row : Row} {computation : LoadM α} {Holds : α → Prop}
    (hends : computation.EndsAt [row.fault? reader files settings] Holds)
    (hrecords : computation.run.records = row.written settings) :
    computation.Takes [row.step reader files settings] Holds := by
  by_cases hfault : row.fault? reader files settings = none
  · exact .of_good hends hfault hrecords
  · exact .of_faulty hends hfault (hrecords.trans (row.written_of_fault hfault))

/-- A setting that rejects no text for good has a default. -/
theorem Absence.Fits.exists_default {setting : Setting α} {absence : Absence}
    (hfits : absence.Fits setting) (hreject : setting.onReject = .useDefault) :
    ∃ value, setting.fallback = .default value := by
  by_cases hdefault : absence = .default
  · subst hdefault
    exact hfits
  · rw [(hfits.strict hdefault).2] at hreject
    cases hreject

theorem resolve_records {setting : Setting α} {absence : Absence} (hfits : absence.Fits setting) :
    (setting.resolve settings).run.records = (rowOf setting absence).written settings := by
  rw [Setting.resolve, rowOf]
  cases hreject : setting.onReject with
  | fail =>
    rw [Row.written]
    split
    · exact setting.records_resolveAbsent
    · exact setting.records_resolveBare
    · split
      · rfl
      · rw [Setting.resolveRejected, hreject]
        rfl
    · simp
  | useDefault =>
    obtain ⟨value, hfallback⟩ := hfits.exists_default hreject
    rw [Row.written, substitutions, Settings.get?]
    cases settings.find? setting.sectionName setting.key with
    | none => exact setting.records_resolveAbsent
    | some entry =>
      cases entry with
      | bare => exact setting.records_resolveBare
      | value text =>
        dsimp only [Option.bind_some, Entry.text?]
        rw [causeOf]
        cases setting.read text with
        | ok read => rfl
        | error cause =>
          dsimp only
          rw [Setting.resolveRejected, hreject, hfallback]
          rfl

theorem requireSection_takes (reader : Json.Reader) (files : Files) (settings : Settings)
    (sectionName : Bytes) :
    (requireSection settings sectionName).Takes
      [(Row.presence sectionName).step reader files settings] fun _ => True := by
  refine Row.takes (requireSection_endsAt reader files settings sectionName) ?_
  rw [requireSection]
  split <;> rfl

theorem require_takes {setting : Setting α} {absence : Absence} {Holds : α → Prop}
    (hfits : absence.Fits setting)
    (hends : (setting.require settings).EndsAt
      [(rowOf setting absence).fault? reader files settings] Holds) :
    (setting.require settings).Takes [(rowOf setting absence).step reader files settings] Holds :=
  Row.takes hends ((setting.records_require settings).trans (resolve_records hfits))

theorem require_default_takes (setting : Setting α) {value : α}
    (hfallback : setting.fallback = .default value) :
    (setting.require settings).Takes [(rowOf setting .default).step reader files settings]
      fun _ => True := by
  have hfits : Absence.default.Fits setting := ⟨value, hfallback⟩
  exact (require_takes hfits (require_default_endsAt reader files settings setting hfallback)).mono
    fun _ _ => trivial

theorem require_mandatory_takes (setting : Setting α) (hfallback : setting.fallback = .mandatory)
    (hbare : setting.onBare = .fail) (hreject : setting.onReject = .fail) :
    (setting.require settings).Takes [(rowOf setting .error).step reader files settings]
      fun value => ∃ text, settings.get? setting.sectionName setting.key = some text ∧
        setting.read text = .ok value := by
  have hfits : Absence.error.Fits setting := ⟨hfallback, hbare, hreject⟩
  exact require_takes hfits
    (require_mandatory_endsAt reader files settings setting hfallback hbare hreject)

theorem endpoint_takes {mode : PeerMode} (hmode : statedMode settings = some mode)
    (endpoint : Endpoint) :
    ((endpoint.setting (namedSession settings) mode).resolve settings).Takes
      [(endpointRow settings endpoint).step reader files settings] fun _ => True := by
  have hfits : (Absence.demanded (endpoint.requiredBy mode)).Fits
      (endpoint.setting (namedSession settings) mode) := ⟨rfl, rfl, rfl⟩
  rw [endpointRow_eq_rowOf hmode]
  exact Row.takes ((resolve_endsAt reader files settings _ _ hfits).mono fun _ _ => trivial)
    (resolve_records hfits)

theorem loadRegistry_takes {path : Bytes}
    (hpath : settings.get? mainSection (utf8 "whoisjsonconfig") = some path) :
    (loadRegistry reader files path).Takes [Row.registryFile.step reader files settings]
      fun _ => True := by
  refine Row.takes (loadRegistry_endsAt hpath) ?_
  rw [loadRegistry]
  split <;> rfl

/-- The default list is read without a warning, and a stored one with its own warnings. -/
theorem readList_takes {text : Bytes}
    (htext : (whoisNameservers.require settings).result = .ok text) :
    (liftM (Nameserver.readList text) : LoadM _).Takes [⟨none, warnings settings⟩]
      fun _ => True := by
  refine .of_good (.of_value rfl rfl trivial) rfl ?_
  rw [LoadM.records_liftM, warnings]
  rcases Setting.require_result_eq_ok_iff.1 htext with ⟨stored, hfind, hread⟩ |
    ⟨habsent | ⟨-, hbare⟩ | ⟨_, _, -, hread, -⟩, hdefault⟩
  · obtain rfl := Except.ok.inj hread
    have hget : settings.get? mainSection (utf8 "whoisdns") = some stored :=
      Settings.get?_eq_some_iff.2 hfind
    rw [hget, Nameserver.readList_records]
  · have hget : settings.get? mainSection (utf8 "whoisdns") = none := by
      rw [Settings.get?, show settings.find? mainSection (utf8 "whoisdns") = none from habsent]
      rfl
    obtain rfl := Fallback.default.inj hdefault
    rw [hget, Nameserver.readList_renderList (List.cons_ne_nil _ _)]
    rfl
  · cases hbare
  · cases hread

/-! ### All rows -/

/-- The steps of some rows. -/
def steps (reader : Json.Reader) (files : Files) (settings : Settings) (rows : List Row) :
    List Step :=
  rows.map (Row.step reader files settings)

theorem loadSession_takes (reader : Json.Reader) (files : Files) (settings : Settings) :
    (loadSession settings).Takes (steps reader files settings (sessionRows settings))
      fun session => session = namedSession settings := by
  refine (requireSection_takes reader files settings mainSection).bind fun _ _ => ?_
  refine (require_mandatory_takes sessionName rfl rfl rfl).bind fun session hsession => ?_
  obtain ⟨text, htext, hread⟩ := hsession
  have hnamed : session = namedSession settings :=
    (Except.ok.inj hread).symm.trans (namedSession_of_get? htext).symm
  rw [hnamed]
  exact (requireSection_takes reader files settings (namedSession settings)).bind
    fun _ _ => .pure rfl

theorem loadPeer_takes (reader : Json.Reader) (files : Files) (settings : Settings) :
    (loadPeer settings (namedSession settings)).Takes
      (steps reader files settings (peerRows settings)) fun _ => True := by
  refine (require_mandatory_takes (peerMode (namedSession settings)) rfl rfl rfl).bind
    fun mode hread => ?_
  obtain ⟨text, htext, hread⟩ := hread
  have hmode := statedMode_of_read htext hread
  refine (endpoint_takes hmode .bgpPeer).bind fun _ _ => ?_
  refine (endpoint_takes hmode .bmpPeer).bind fun _ _ => ?_
  refine (endpoint_takes hmode .protoListen).bind fun _ _ => ?_
  refine (require_default_takes (routerId (namedSession settings)) rfl).bind fun _ _ => ?_
  exact (require_default_takes (peerAs (namedSession settings)) rfl).bind fun _ _ => .pure trivial

theorem loadHttp_takes (reader : Json.Reader) (files : Files) (settings : Settings) :
    (loadHttp settings).Takes (steps reader files settings httpRows) fun _ => True := by
  refine (require_default_takes httpListen rfl).bind fun _ _ => ?_
  refine (require_default_takes httpTimeout rfl).bind fun _ _ => ?_
  exact (require_default_takes httpRoot rfl).bind fun _ _ => .pure trivial

theorem loadHistory_takes (reader : Json.Reader) (files : Files) (settings : Settings) :
    (loadHistory settings).Takes (steps reader files settings historyRows) fun _ => True := by
  refine (require_default_takes historyDepth rfl).bind fun _ _ => ?_
  refine (require_default_takes historyMode rfl).bind fun _ _ => ?_
  refine (require_default_takes purgeAfterWithdraws rfl).bind fun _ _ => ?_
  exact (require_default_takes purgeEvery rfl).bind fun _ _ => .pure trivial

theorem loadWhois_takes (reader : Json.Reader) (files : Files) (settings : Settings) :
    (loadWhois reader files settings).Takes
      (steps reader files settings whoisRows ++ [⟨none, warnings settings⟩]) fun _ => True := by
  refine (require_default_takes whoisRequestTimeout rfl).bind fun _ _ => ?_
  refine (require_default_takes whoisCacheSeconds rfl).bind fun _ _ => ?_
  refine (require_mandatory_takes whoisRegistryPath rfl rfl rfl).bind fun path hread => ?_
  have hpath : settings.get? mainSection (utf8 "whoisjsonconfig") = some path := by
    obtain ⟨text, htext, hread⟩ := hread
    exact Except.ok.inj hread ▸ htext
  refine (loadRegistry_takes hpath).bind fun _ _ => ?_
  refine (require_default_takes whoisDatabase rfl).bind fun _ _ => ?_
  refine (require_default_takes whoisNameservers rfl).with_result.bind fun text htext => ?_
  exact (readList_takes htext).bind fun _ _ => .pure trivial

theorem load_takes (reader : Json.Reader) (files : Files) (settings : Settings) :
    (load reader files settings).Takes
      (steps reader files settings (rows settings) ++ [⟨none, warnings settings⟩])
      fun _ => True := by
  have hsteps : steps reader files settings (rows settings) ++ [⟨none, warnings settings⟩] =
      steps reader files settings (sessionRows settings) ++
        (steps reader files settings (peerRows settings) ++
          (steps reader files settings httpRows ++ (steps reader files settings historyRows ++
            (steps reader files settings whoisRows ++ [⟨none, warnings settings⟩])))) := by
    simp only [steps, rows, List.map_append, List.append_assoc]
  rw [hsteps]
  refine (loadSession_takes reader files settings).bind fun session hsession => ?_
  subst hsession
  refine (loadPeer_takes reader files settings).bind fun _ _ => ?_
  refine (loadHttp_takes reader files settings).bind fun _ _ => ?_
  refine (loadHistory_takes reader files settings).bind fun _ _ => ?_
  rw [← List.append_nil (steps reader files settings whoisRows ++ _)]
  exact (loadWhois_takes reader files settings).bind fun _ _ => .pure trivial

/-! ### The records of a loading -/

/-- The rejected texts of the three settings that take their default for one. -/
def leniences (settings : Settings) : List Record :=
  substitutions settings mainSection (utf8 "httptimeout") (causeOf (Setting.readInteger .u64)) ++
    substitutions settings mainSection (utf8 "whois_request_timeout")
      (causeOf (Setting.readInteger .u64)) ++
    substitutions settings mainSection (utf8 "whois_cache_seconds")
      (causeOf (Setting.readInteger .i64))

theorem rows_flatMap_written (settings : Settings) :
    (rows settings).flatMap (Row.written settings) = leniences settings := by
  simp [rows, sessionRows, peerRows, httpRows, historyRows, whoisRows, endpointRow, Row.written,
    leniences]

theorem Row.severity_of_mem_written {row : Row} {record : Record}
    (hrecord : record ∈ row.written settings) : record.severity = .debug := by
  unfold Row.written at hrecord
  split at hrecord
  · rw [substitutions] at hrecord
    split at hrecord
    · exact absurd hrecord List.not_mem_nil
    · obtain ⟨cause, -, rfl⟩ := Option.map_eq_some_iff.1 (Option.mem_toList.1 hrecord)
      rfl
  · exact absurd hrecord List.not_mem_nil

theorem severity_of_mem_warnings {record : Record} (hrecord : record ∈ warnings settings) :
    record.severity = .warn := by
  rw [warnings] at hrecord
  split at hrecord
  · exact absurd hrecord List.not_mem_nil
  · obtain ⟨entry, -, rfl⟩ := List.mem_map.1 hrecord
    rfl

theorem load_records_of_ok {config : ServiceConfig}
    (hload : (load reader files settings).result = .ok config) :
    (load reader files settings).run.records = leniences settings ++ warnings settings := by
  rw [(load_takes reader files settings).records_of_ok hload, List.flatMap_append,
    List.flatMap_singleton, ← rows_flatMap_written, steps, List.flatMap_map]
  rfl

theorem load_records_of_error {before after : List Row} {row : Row}
    (hrows : rows settings = before ++ row :: after)
    (hgood : ∀ earlier ∈ before, earlier.fault? reader files settings = none)
    (hfault : row.fault? reader files settings ≠ none) :
    (load reader files settings).run.records = before.flatMap (Row.written settings) := by
  have hsteps : steps reader files settings (rows settings) ++ [⟨none, warnings settings⟩] =
      steps reader files settings before ++ row.step reader files settings ::
        (steps reader files settings after ++ [⟨none, warnings settings⟩]) := by
    simp [steps, hrows]
  have hbefore : ∀ step ∈ steps reader files settings before, step.fault? = none := by
    simpa [steps, Row.step] using hgood
  rw [(load_takes reader files settings).records, hsteps,
    LoadM.passed_of_first_fault hbefore hfault, steps, List.flatMap_map]
  rfl

theorem load_records_severity :
    ∀ record ∈ (load reader files settings).run.records,
      record.severity = .debug ∨ record.severity = .warn := by
  intro record hrecord
  rw [(load_takes reader files settings).records] at hrecord
  obtain ⟨step, hstep, hrecord⟩ := List.mem_flatMap.1 hrecord
  have hstep := (List.takeWhile_prefix _).subset hstep
  rcases List.mem_append.1 hstep with hstep | hstep
  · obtain ⟨row, -, rfl⟩ := List.mem_map.1 hstep
    exact .inl (Row.severity_of_mem_written hrecord)
  · rw [List.mem_singleton.1 hstep] at hrecord
    exact .inr (severity_of_mem_warnings hrecord)

/-- Under a level that shows debug records, loading emits one record for each text of three settings
that is rejected, in the order in which they are read, and one warning for each entry that is
dropped from the list of name servers. Where it fails, it has emitted what the rows above the faulty
one write, and no warning. -/
theorem load_writes_its_leniences (reader : Json.Reader) (files : Files) (settings : Settings)
    {level : Level} (hlevel : level.shows .debug = true) :
    (rows settings).flatMap (Row.written settings) = leniences settings ∧
      (∀ config, (load reader files settings).result = .ok config →
        ((load reader files settings).run.under level).records =
          leniences settings ++ warnings settings) ∧
      ∀ error, (load reader files settings).result = .error error →
        (∃ before row after, rows settings = before ++ row :: after ∧
          (∀ earlier ∈ before, earlier.fault? reader files settings = none) ∧
          row.fault? reader files settings = some error ∧
          ((load reader files settings).run.under level).records =
            before.flatMap (Row.written settings)) ∧
        ∀ record ∈ (load reader files settings).run.records, record.severity = .debug := by
  have hall : ((load reader files settings).run.under level).records =
      (load reader files settings).run.records := by
    rw [Logged.records_under]
    refine Level.filter_eq_self fun record hrecord => ?_
    rcases load_records_severity record hrecord with hdebug | hwarn
    · rw [hdebug, hlevel]
    · rw [hwarn]
      exact Level.shows_of_rank_le hlevel (by decide)
  refine ⟨rows_flatMap_written settings, fun config hload => ?ok, fun error hload => ?error⟩
  case ok =>
    rw [← load_records_of_ok hload]
    exact hall
  case error =>
    obtain ⟨before, row, after, hrows, hgood, hfault⟩ := load_result_eq_error_iff.1 hload
    have hne : row.fault? reader files settings ≠ none :=
      Option.ne_none_iff_exists'.2 ⟨error, hfault⟩
    have hrecords := load_records_of_error hrows hgood hne
    have hdebug : ∀ record ∈ (load reader files settings).run.records,
        record.severity = .debug := by
      intro record hrecord
      rw [hrecords] at hrecord
      obtain ⟨earlier, -, hrecord⟩ := List.mem_flatMap.1 hrecord
      exact Row.severity_of_mem_written hrecord
    exact ⟨⟨before, row, after, hrows, hgood, hfault, hall.trans hrecords⟩, hdebug⟩

/-- The registry is missing, so the list below it is not read; with it, every record is written. A
bare key leaves none. -/
theorem leniences_before_a_missing_registry :
    let reader : Json.Reader := fun _ => .ok (.object [])
    let session := utf8 "session"
    let settings := ((((((Settings.empty.put mainSection session (.value session)).put mainSection
      (utf8 "httptimeout") (.value (utf8 "soon"))).put mainSection (utf8 "whois_request_timeout")
      .bare).put mainSection (utf8 "whois_cache_seconds") (.value (utf8 "+"))).put mainSection
      (utf8 "whoisdns") (.value (utf8 "::1,192.0.2.1"))).put session (utf8 "mode")
      (.value (utf8 "bgppassive"))).put session (utf8 "protolisten") (.value (utf8 "any"))
    let complete := settings.put mainSection (utf8 "whoisjsonconfig") (.value (utf8 "w.json"))
    let files : Files := fun _ => some (utf8 "\x7b\x7d")
    let timeout : Record := ⟨.debug, utf8 "[main] httptimeout = 'soon' ignored (" ++
      utf8 "invalid digit found in string), using default"⟩
    let cache : Record := ⟨.debug, utf8 "[main] whois_cache_seconds = '+' ignored (" ++
      utf8 "invalid digit found in string), using default"⟩
    (load reader files settings).run.records = [timeout, cache] ∧
      (∀ record ∈ (load reader files settings).run.records, record.severity = .debug) ∧
      ((load reader files complete).run.under (.showing .debug)).records =
        [timeout, cache, ⟨.warn, utf8 "Invalid DNS: '::1'"⟩] := by
  intro reader session settings complete files timeout cache
  have hfailed : (load reader files settings).result =
      .error (.missingKey mainSection (utf8 "whoisjsonconfig")) := by rfl
  obtain ⟨config, hcomplete⟩ : ∃ config, (load reader files complete).result = .ok config := by
    refine ⟨{
      peer := ⟨.bgpPassive, ⟨1, 1, 1, 1⟩, ⟨0, by decide⟩, none, none,
        some ⟨.v4 ⟨0, 0, 0, 0⟩, 179⟩⟩
      http := ⟨⟨.v4 ⟨0, 0, 0, 0⟩, 8080⟩, ⟨120, by decide⟩, utf8 "./contrib"⟩
      history := ⟨⟨10, by decide⟩, .differ, ⟨0, by decide⟩, ⟨300, by decide⟩⟩
      whois := ⟨⟨30, by decide⟩, ⟨1800, by decide⟩, ⟨.empty⟩, utf8 "whoiscache.db",
        [⟨.v4 ⟨192, 0, 2, 1⟩, 53⟩]⟩ }, ?_⟩
    rfl
  have hlevel : (Level.showing .debug).shows .debug = true := rfl
  obtain ⟨-, -, herror⟩ := load_writes_its_leniences reader files settings hlevel
  obtain ⟨-, hok, -⟩ := load_writes_its_leniences reader files complete hlevel
  refine ⟨by decide, (herror _ hfailed).2, ?_⟩
  rw [hok config hcomplete]
  decide

end Service

end RouteMonitor
