import RouteMonitor.Proofs.Service.Agreement
import RouteMonitor.Proofs.Whois.FileFaults

/-!
# The first faulty row decides

Loading fails exactly if some row of the table is faulty, and then with the error of the first such
row, whatever the rows below it hold. The error tells the truth: a section or key that it calls
absent is absent, a key that it calls bare is bare, a mode does demand the endpoint it names, a text
that it rejects is rejected by the reader of its row, and what it says of a file is so.
-/

namespace RouteMonitor.Service

/-- The keys that count as absent when they are bare. -/
def bareTolerantKeys : List Bytes :=
  [utf8 "httplisten", utf8 "httptimeout", utf8 "httproot", utf8 "whois_request_timeout",
    utf8 "whois_cache_seconds"]

/-- The keys that count as absent when their text is rejected. -/
def rejectTolerantKeys : List Bytes :=
  [utf8 "httptimeout", utf8 "whois_request_timeout", utf8 "whois_cache_seconds"]

def IsSession (settings : Settings) (sectionName : Bytes) : Prop :=
  settings.get? mainSection (utf8 "session") = some sectionName

/-- The section states a mode that requires an endpoint with the given key. -/
def DemandedByMode (settings : Settings) (sectionName key : Bytes) : Prop :=
  ∃ text mode endpoint, settings.get? sectionName (utf8 "mode") = some text ∧
    PeerMode.read text = .ok mode ∧ Endpoint.key endpoint = key ∧ endpoint.requiredBy mode = true

/-- What an error says of the settings and of the files is so. -/
def Truthful (reader : Json.Reader) (files : Files) (settings : Settings) : ConfigError → Prop
  | .missingSection sectionName =>
    settings.hasSection sectionName = false ∧
      (sectionName = mainSection ∨ IsSession settings sectionName)
  | .missingKey sectionName key =>
    settings.has sectionName key = false ∧
      (sectionName = mainSection ∧ (key = utf8 "session" ∨ key = utf8 "whoisjsonconfig") ∨
        IsSession settings sectionName ∧ key = utf8 "mode")
  | .requiredByMode sectionName key =>
    settings.has sectionName key = false ∧ IsSession settings sectionName ∧
      DemandedByMode settings sectionName key
  | .missingValue sectionName key =>
    settings.find? sectionName key = some .bare ∧ key ∉ bareTolerantKeys
  | .invalidValue sectionName key cause =>
    key ∉ rejectTolerantKeys ∧ ∃ text absence onBare onReject cause?,
      settings.find? sectionName key = some (.value text) ∧
        Row.setting sectionName key absence onBare onReject cause? ∈ rows settings ∧
        cause? text = some cause
  | .whoisConfig sectionName key cause =>
    sectionName = mainSection ∧ key = utf8 "whoisjsonconfig" ∧ ∃ path,
      settings.get? sectionName key = some path ∧
        Whois.Registry.FileRefused reader files path cause
  | .unopenedFile _ | .badHeader _ _ _ | .badEntry _ _ _ => False

/-! ### The errors that each row may give -/

/-- The first column of a row, given where its key stands. -/
def Absence.Legitimate (settings : Settings) (sectionName key : Bytes) : Absence → Prop
  | .error =>
    sectionName = mainSection ∧ (key = utf8 "session" ∨ key = utf8 "whoisjsonconfig") ∨
      IsSession settings sectionName ∧ key = utf8 "mode"
  | .default => True
  | .demanded required =>
    IsSession settings sectionName ∧ (required = true → DemandedByMode settings sectionName key)

/-- The columns of a row allow no more errors than its key does. -/
def Row.Legitimate (settings : Settings) : Row → Prop
  | .presence sectionName => sectionName = mainSection ∨ IsSession settings sectionName
  | .setting sectionName key absence onBare onReject _ =>
    absence.Legitimate settings sectionName key ∧ (onBare = .fail → key ∉ bareTolerantKeys) ∧
      (onReject = .fail → key ∉ rejectTolerantKeys)
  | .registryFile => True

variable {reader : Json.Reader} {files : Files} {settings : Settings}

theorem demandedByMode_of_statedMode {endpoint : Endpoint}
    (hdemanded : (statedMode settings).any endpoint.requiredBy = true) :
    DemandedByMode settings (namedSession settings) endpoint.key := by
  obtain ⟨mode, hmode, hrequired⟩ := (Option.any_eq_true _ _).1 hdemanded
  obtain ⟨text, htext, hread⟩ := Option.bind_eq_some_iff.1 hmode
  cases hresult : PeerMode.read text with
  | error cause => simp [hresult, Except.toOption] at hread
  | ok read =>
    obtain rfl : read = mode := by simpa [hresult, Except.toOption] using hread
    exact ⟨text, read, endpoint, htext, hresult, rfl, hrequired⟩

theorem endpointRow_legitimate (hsession : IsSession settings (namedSession settings))
    (endpoint : Endpoint) : (endpointRow settings endpoint).Legitimate settings := by
  refine ⟨⟨hsession, demandedByMode_of_statedMode⟩, fun _ => ?_, fun _ => ?_⟩ <;>
    cases endpoint <;> decide

/-- The rows that do not depend on the session. -/
def rowsBeforeSession : List Row :=
  [.presence mainSection, .setting mainSection (utf8 "session") .error .fail .fail anyText]

theorem legitimate_of_mem_rowsBeforeSession :
    ∀ row ∈ rowsBeforeSession, row.Legitimate settings := by
  simp only [rowsBeforeSession, List.forall_mem_cons]
  exact ⟨.inl rfl, ⟨.inl ⟨rfl, .inl rfl⟩, by decide, by decide⟩, by simp⟩

theorem legitimate_of_mem_rows (hsession : IsSession settings (namedSession settings)) :
    ∀ row ∈ rows settings, row.Legitimate settings := by
  have hdefault : ∀ {sectionName key onBare onReject cause?},
      (onBare = .fail → key ∉ bareTolerantKeys) → (onReject = .fail → key ∉ rejectTolerantKeys) →
      (Row.setting sectionName key .default onBare onReject cause?).Legitimate settings :=
    fun hbare hreject => ⟨trivial, hbare, hreject⟩
  simp only [rows, sessionRows, peerRows, httpRows, historyRows, whoisRows,
    List.forall_mem_append, List.forall_mem_cons]
  refine ⟨?session, ?peer, ?http, ?history, ?whois⟩
  case session =>
    exact ⟨.inl rfl, ⟨.inl ⟨rfl, .inl rfl⟩, by decide, by decide⟩, .inr hsession, by simp⟩
  case peer =>
    exact ⟨⟨.inr ⟨hsession, rfl⟩, by decide, by decide⟩, endpointRow_legitimate hsession .bgpPeer,
      endpointRow_legitimate hsession .bmpPeer, endpointRow_legitimate hsession .protoListen,
      hdefault (by decide) (by decide), hdefault (by decide) (by decide), by simp⟩
  case http =>
    exact ⟨hdefault (by decide) (by decide), hdefault (by decide) (by decide),
      hdefault (by decide) (by decide), by simp⟩
  case history =>
    exact ⟨hdefault (by decide) (by decide), hdefault (by decide) (by decide),
      hdefault (by decide) (by decide), hdefault (by decide) (by decide), by simp⟩
  case whois =>
    exact ⟨hdefault (by decide) (by decide), hdefault (by decide) (by decide),
      ⟨.inl ⟨rfl, .inr rfl⟩, by decide, by decide⟩, trivial, hdefault (by decide) (by decide),
      hdefault (by decide) (by decide), by simp⟩

/-! ### Errors tell the truth -/

theorem truthful_of_absent {sectionName key : Bytes} {absence : Absence} {error : ConfigError}
    (hlegitimate : absence.Legitimate settings sectionName key)
    (habsent : settings.find? sectionName key = none)
    (hfault : absence.fault? sectionName key = some error) :
    Truthful reader files settings error := by
  have hhas : settings.has sectionName key = false := by simp [Settings.has, habsent]
  cases absence with
  | error =>
    obtain rfl := Option.some.inj hfault
    exact ⟨hhas, hlegitimate⟩
  | default => exact absurd hfault (by simp [Absence.fault?])
  | demanded required =>
    cases required with
    | true =>
      obtain rfl := Option.some.inj hfault
      exact ⟨hhas, hlegitimate.1, hlegitimate.2 rfl⟩
    | false => exact absurd hfault (by simp [Absence.fault?])

theorem truthful_of_present {sectionName key : Bytes} {absence : Absence}
    {onBare onReject : Lenience} {cause? : Bytes → Option Bytes} {entry : Entry}
    {error : ConfigError}
    (hrow : Row.setting sectionName key absence onBare onReject cause? ∈ rows settings)
    (hbare : onBare = .fail → key ∉ bareTolerantKeys)
    (hreject : onReject = .fail → key ∉ rejectTolerantKeys)
    (hentry : settings.find? sectionName key = some entry)
    (hfault : entryFault? sectionName key onBare onReject cause? entry = some error) :
    Truthful reader files settings error := by
  cases entry with
  | bare =>
    obtain ⟨hfail, herror⟩ := Option.ite_none_right_eq_some.1 hfault
    obtain rfl := Option.some.inj herror
    exact ⟨hentry, hbare hfail⟩
  | value text =>
    obtain ⟨hfail, herror⟩ := Option.ite_none_right_eq_some.1 hfault
    obtain ⟨cause, hcause, rfl⟩ := Option.map_eq_some_iff.1 herror
    exact ⟨hreject hfail, text, absence, onBare, onReject, cause?, hentry, hrow, hcause⟩

theorem truthful_of_registryFile {error : ConfigError}
    (hfault : Row.registryFile.fault? reader files settings = some error) :
    Truthful reader files settings error := by
  obtain ⟨path, hpath, hfault⟩ := Option.bind_eq_some_iff.1 hfault
  rw [registryFault?] at hfault
  cases hfile : Whois.Registry.ofFile reader files path with
  | ok registry => simp [hfile] at hfault
  | error fault =>
    rw [hfile] at hfault
    obtain rfl := Option.some.inj hfault
    exact ⟨rfl, rfl, path, hpath,
      Whois.Registry.exists_ofFile_eq_error_iff.1 ⟨fault, hfile, rfl⟩⟩

theorem truthful_of_row {row : Row} {error : ConfigError} (hrow : row ∈ rows settings)
    (hlegitimate : row.Legitimate settings)
    (hfault : row.fault? reader files settings = some error) :
    Truthful reader files settings error := by
  cases row with
  | presence sectionName =>
    obtain ⟨hsection, herror⟩ := Option.ite_none_left_eq_some.1 hfault
    obtain rfl := Option.some.inj herror
    exact ⟨by simpa using hsection, hlegitimate⟩
  | setting sectionName key absence onBare onReject cause? =>
    obtain ⟨habsence, hbare, hreject⟩ := hlegitimate
    rw [Row.fault?] at hfault
    cases hfind : settings.find? sectionName key with
    | none =>
      rw [hfind] at hfault
      exact truthful_of_absent habsence hfind hfault
    | some entry =>
      rw [hfind] at hfault
      exact truthful_of_present hrow hbare hreject hfind hfault
  | registryFile => exact truthful_of_registryFile hfault

/-! ### The first fault -/

/-- The error is that of a faulty row below rows that are all good. -/
def FirstFault (reader : Json.Reader) (files : Files) (settings : Settings)
    (error : ConfigError) : Prop :=
  ∃ before row after, rows settings = before ++ row :: after ∧
    (∀ earlier ∈ before, earlier.fault? reader files settings = none) ∧
    row.fault? reader files settings = some error

theorem firstFault_iff {error : ConfigError} :
    FirstFault reader files settings error ↔
      (rows settings).findSome? (Row.fault? reader files settings) = some error := by
  rw [List.findSome?_eq_some_iff]
  constructor
  · intro hfirst
    obtain ⟨before, row, after, hrows, hbefore, hrow⟩ := hfirst
    exact ⟨before, row, after, hrows, hrow, hbefore⟩
  · intro hfound
    obtain ⟨before, row, after, hrows, hrow, hbefore⟩ := hfound
    exact ⟨before, row, after, hrows, hbefore, hrow⟩

theorem load_result_eq_error_iff {error : ConfigError} :
    (load reader files settings).result = .error error ↔
      FirstFault reader files settings error := by
  rw [(load_endsAt reader files settings).result_eq_error_iff, firstFault_iff, faults,
    List.findSome?_map]
  rfl

/-- Where the settings name no session, the first two rows already hold a fault. -/
theorem exists_fault_before_session (reader : Json.Reader) (files : Files)
    (hsession : ¬IsSession settings (namedSession settings)) :
    ∃ row ∈ rowsBeforeSession, ∃ error,
      rowsBeforeSession.findSome? (Row.fault? reader files settings) = some error ∧
        row.fault? reader files settings = some error := by
  have hget : settings.get? mainSection (utf8 "session") = none := by
    cases htext : settings.get? mainSection (utf8 "session") with
    | none => rfl
    | some text => exact absurd (by rw [IsSession, namedSession, htext]; rfl) hsession
  have hfault : (Row.setting mainSection (utf8 "session") .error .fail .fail anyText).fault?
      reader files settings ≠ none := by
    rw [Row.fault?]
    cases hfind : settings.find? mainSection (utf8 "session") with
    | none => simp [Absence.fault?]
    | some entry =>
      cases entry with
      | bare => simp [entryFault?]
      | value text => simp [Settings.get?, hfind, Entry.text?] at hget
  obtain ⟨error, herror⟩ := Option.isSome_iff_exists.1
    (List.findSome?_isSome_iff.2 ⟨_, List.mem_cons_of_mem _ List.mem_cons_self,
      Option.isSome_iff_ne_none.2 hfault⟩ :
        (rowsBeforeSession.findSome? (Row.fault? reader files settings)).isSome)
  obtain ⟨row, hrow, hrowFault⟩ := List.exists_of_findSome?_eq_some herror
  exact ⟨row, hrow, error, herror, hrowFault⟩

theorem truthful_of_firstFault {error : ConfigError}
    (hfirst : FirstFault reader files settings error) :
    Truthful reader files settings error := by
  by_cases hsession : IsSession settings (namedSession settings)
  · obtain ⟨before, row, after, hrows, -, hfault⟩ := hfirst
    have hrow : row ∈ rows settings := by
      rw [hrows]
      exact List.mem_append_right _ List.mem_cons_self
    exact truthful_of_row hrow (legitimate_of_mem_rows hsession row hrow) hfault
  · obtain ⟨row, hrow, early, hearly, hfault⟩ := exists_fault_before_session reader files hsession
    have hsplit : rows settings = rowsBeforeSession ++ (rows settings).drop 2 := rfl
    have hsame : early = error := by
      rw [firstFault_iff, hsplit, List.findSome?_append, hearly] at hfirst
      exact Option.some.inj hfirst
    have hmem : row ∈ rows settings := by
      rw [hsplit]
      exact List.mem_append_left _ hrow
    exact truthful_of_row hmem (legitimate_of_mem_rowsBeforeSession row hrow) (hsame ▸ hfault)

theorem load_fails_at_first_faulty_row (reader : Json.Reader) (files : Files)
    (settings : Settings) :
    ((∃ error, (load reader files settings).result = .error error) ↔
        ∃ row ∈ rows settings, row.fault? reader files settings ≠ none) ∧
      (∀ error, (load reader files settings).result = .error error ↔
        FirstFault reader files settings error) ∧
      ∀ error, (load reader files settings).result = .error error →
        Truthful reader files settings error := by
  refine ⟨?_, fun error => load_result_eq_error_iff, fun error herror => ?_⟩
  · simp only [load_result_eq_error_iff, firstFault_iff]
    rw [← Option.isSome_iff_exists, List.findSome?_isSome_iff]
    simp only [Option.isSome_iff_ne_none]
  · exact truthful_of_firstFault (load_result_eq_error_iff.1 herror)

/-- Of the missing peer, the bad router identifier and the bad listener, the peer is reported. -/
theorem missing_peer_comes_first :
    let reader : Json.Reader := fun _ => .ok (.object [])
    let session := utf8 "session"
    let settings := (((Settings.empty.put mainSection session (.value session)).put mainSection
      (utf8 "httplisten") (.value (utf8 "x"))).put session (utf8 "mode")
      (.value (utf8 "bgpactive"))).put session (utf8 "routerid") .bare
    (load reader .none settings).result = .error (.requiredByMode session (utf8 "bgppeer")) ∧
      FirstFault reader .none settings (.requiredByMode session (utf8 "bgppeer")) ∧
      Truthful reader .none settings (.requiredByMode session (utf8 "bgppeer")) := by
  intro reader session settings
  have hload : (load reader .none settings).result =
      .error (.requiredByMode session (utf8 "bgppeer")) := by rfl
  have hfirst := load_fails_at_first_faulty_row reader .none settings
  exact ⟨hload, (hfirst.2.1 _).1 hload, hfirst.2.2 _ hload⟩

end RouteMonitor.Service
