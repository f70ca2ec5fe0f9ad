import RouteMonitor.Proofs.Service.FirstFault

/-!
# What loading depends on

Loading looks at two sections, at the keys listed here, and at the one file that the settings name.
Two runs that find the same there load the same configuration or the same error and write the same
records, whatever other sections, keys and files there are, for both have one reader of documents. A
run that fails depends on even less: on what it looked up for the faulty row and for the rows above
it.
-/

namespace RouteMonitor.Service

/-- The keys of the main section that loading looks up. -/
def mainKeys : List Bytes :=
  [utf8 "session", utf8 "httplisten", utf8 "httptimeout", utf8 "httproot", utf8 "historydepth",
    utf8 "historymode", utf8 "purge_after_withdraws", utf8 "purge_every",
    utf8 "whois_request_timeout", utf8 "whois_cache_seconds", utf8 "whoisjsonconfig",
    utf8 "whoisdb", utf8 "whoisdns"]

/-- The keys of the session's section that loading looks up. -/
def sessionKeys : List Bytes :=
  [utf8 "mode", utf8 "bgppeer", utf8 "bmppeer", utf8 "protolisten", utf8 "routerid", utf8 "peeras"]

namespace TwoRuns

variable {runs : TwoRuns}

/-- The runs find the same wherever the first one looks. -/
structure AgreeOnLookups (runs : TwoRuns) : Prop where
  mainExists : runs.settings.hasSection mainSection = runs.otherSettings.hasSection mainSection
  sessionExists : ∀ session, IsSession runs.settings session →
    runs.settings.hasSection session = runs.otherSettings.hasSection session
  mainEntries : ∀ key ∈ mainKeys,
    runs.settings.find? mainSection key = runs.otherSettings.find? mainSection key
  sessionEntries : ∀ session, IsSession runs.settings session → ∀ key ∈ sessionKeys,
    runs.settings.find? session key = runs.otherSettings.find? session key
  registryFile : ∀ path,
    runs.settings.get? mainSection (utf8 "whoisjsonconfig") = some path →
      runs.files path = runs.otherFiles path

theorem AgreeOnLookups.agrees_of_mem_rows (hagree : runs.AgreeOnLookups)
    (hsession : IsSession runs.settings (namedSession runs.settings)) :
    ∀ row ∈ rows runs.settings, row.Agrees runs := by
  have hmain : ∀ {key absence onBare onReject cause?}, key ∈ mainKeys →
      (Row.setting mainSection key absence onBare onReject cause?).Agrees runs :=
    fun hkey => hagree.mainEntries _ hkey
  have hpeer : ∀ {key absence onBare onReject cause?}, key ∈ sessionKeys →
      (Row.setting (namedSession runs.settings) key absence onBare onReject cause?).Agrees runs :=
    fun hkey => hagree.sessionEntries _ hsession _ hkey
  simp only [rows, sessionRows, peerRows, httpRows, historyRows, whoisRows,
    List.forall_mem_append, List.forall_mem_cons]
  refine ⟨?session, ?peer, ?http, ?history, ?whois⟩
  case session =>
    exact ⟨hagree.mainExists, hmain (by decide), hagree.sessionExists _ hsession, by simp⟩
  case peer =>
    exact ⟨hpeer (by decide), hpeer (by decide), hpeer (by decide), hpeer (by decide),
      hpeer (by decide), hpeer (by decide), by simp⟩
  case http => exact ⟨hmain (by decide), hmain (by decide), hmain (by decide), by simp⟩
  case history =>
    exact ⟨hmain (by decide), hmain (by decide), hmain (by decide), hmain (by decide), by simp⟩
  case whois =>
    exact ⟨hmain (by decide), hmain (by decide), hmain (by decide), hagree.registryFile,
      hmain (by decide), hmain (by decide), by simp⟩

/-- Without a session, only the two rows that are looked up before it matter. -/
theorem AgreeOnLookups.agreeUpToFault (hagree : runs.AgreeOnLookups) :
    runs.AgreeUpToFault (rows runs.settings) := by
  by_cases hsession : IsSession runs.settings (namedSession runs.settings)
  · rw [← List.append_nil (rows runs.settings)]
    exact agreeUpToFault_of_forall (hagree.agrees_of_mem_rows hsession) (.inl rfl)
  · obtain ⟨row, hrow, error, -, hfault⟩ :=
      exists_fault_before_session runs.reader runs.files hsession
    have hsplit : rows runs.settings = rowsBeforeSession ++ (rows runs.settings).drop 2 := rfl
    rw [hsplit]
    refine agreeUpToFault_of_forall ?_ (.inr ⟨row, hrow, by simp [hfault]⟩)
    simp only [rowsBeforeSession, List.forall_mem_cons]
    exact ⟨hagree.mainExists, hagree.mainEntries _ (by decide), by simp⟩

end TwoRuns

/-- Agreement on all look-ups makes two loads one, and so does agreement down to the row at which
the first load fails. -/
theorem load_depends_on_its_lookups_alone (runs : TwoRuns) :
    (runs.AgreeOnLookups →
        load runs.reader runs.files runs.settings =
          load runs.reader runs.otherFiles runs.otherSettings) ∧
      ∀ before row after error, rows runs.settings = before ++ row :: after →
        (∀ earlier ∈ before, earlier.fault? runs.reader runs.files runs.settings = none) →
        row.fault? runs.reader runs.files runs.settings = some error →
        (∀ made ∈ before ++ [row], made.Agrees runs) →
        (load runs.reader runs.files runs.settings).result = .error error ∧
          load runs.reader runs.files runs.settings =
            load runs.reader runs.otherFiles runs.otherSettings := by
  refine ⟨fun hagree => runs.load_inStep.same hagree.agreeUpToFault,
    fun before row after error hrows hbefore hrow hmade => ⟨?_, runs.load_inStep.same ?_⟩⟩
  · exact load_result_eq_error_iff.2 ⟨before, row, after, hrows, hbefore, hrow⟩
  · rw [hrows, List.append_cons]
    exact TwoRuns.agreeUpToFault_of_forall hmade (.inr ⟨row, by simp, by simp [hrow]⟩)

/-- Where the peer is missing, neither a later key nor a file matters, and another section never
does. -/
theorem later_keys_do_not_matter :
    let reader : Json.Reader := fun _ => .ok (.object [])
    let session := utf8 "session"
    let settings := (Settings.empty.put mainSection session (.value session)).put session
      (utf8 "mode") (.value (utf8 "bgpactive"))
    let elsewhere := settings.put (utf8 "other") (utf8 "mode") .bare
    let later := (elsewhere.put session (utf8 "routerid") .bare).put mainSection
      (utf8 "whoisjsonconfig") (.value (utf8 "w.json"))
    load reader .none settings = load reader .none elsewhere ∧
      (load reader .none settings).result = .error (.requiredByMode session (utf8 "bgppeer")) ∧
      load reader .none settings = load reader (fun _ => some []) later := by
  intro reader session settings elsewhere later
  have hnamed : ∀ {name}, IsSession settings name → name = session := fun hname =>
    (Option.some.inj (show some session = some _ from hname)).symm
  refine ⟨?_, ?_⟩
  · refine (load_depends_on_its_lookups_alone ⟨reader, .none, settings, .none, elsewhere⟩).1
      ⟨by decide, fun name hname => ?_, by decide, fun name hname => ?_, fun _ _ => rfl⟩
    · rw [hnamed hname]
      decide
    · rw [hnamed hname]
      decide
  · refine (load_depends_on_its_lookups_alone ⟨reader, .none, settings, fun _ => some [], later⟩).2
      ((rows settings).take 4) (endpointRow settings .bgpPeer) ((rows settings).drop 5)
      _ rfl ?_ rfl ?_
    · have hgood : ((rows settings).take 4).all fun row =>
          (row.fault? reader .none settings).isNone := by rfl
      simpa using hgood
    · simp only [rows, sessionRows, peerRows, List.cons_append, List.nil_append,
        List.take_succ_cons, List.take_zero, List.forall_mem_cons]
      exact ⟨rfl, rfl, rfl, rfl, rfl, by simp⟩

end RouteMonitor.Service
