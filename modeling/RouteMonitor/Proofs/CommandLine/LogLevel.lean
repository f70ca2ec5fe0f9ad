import RouteMonitor.Proofs.CommandLine.Contract

/-!
# The log level only filters

Two runs whose options differ in the log level alone do the same. They end alike, and each emits,
under the level of its logger, what this level shows of the same records. A level name that is
unknown adds the warning about it, which stands first.
-/

namespace RouteMonitor.CommandLine

open Settings.Ini (Stored)

/-- The options are the same, but for the log level. -/
structure DiffersInLevel (options other : Options) : Prop where
  config : options.config = other.config
  checkOnly : options.checkOnly = other.checkOnly

/-- The record of what a run is about to read. -/
def announcement (options : Options) : Record :=
  ⟨.info, Program.nameAndVersion ++ utf8 " loading " ++ options.config⟩

def unknownLevel (levelName : Bytes) : Record :=
  ⟨.warn, utf8 "unknown log level " ++ quoted levelName ++ utf8 ", using info"⟩

/-- The outcomes of two runs that end alike and whose logs differ in what their levels show. -/
structure DiffersInShown (files : Files) (options other : Options) (first second : Outcome) :
    Prop where
  status : first.status = second.status
  output : first.output = second.output
  errorOutput : first.errorOutput = second.errorOutput
  filter : ∀ level quieter : Level, options.logLevel = level.name →
    other.logLevel = quieter.name → level.IsAtLeastAsVerboseAs quieter →
    second.records = quieter.filter first.records
  off : other.logLevel = utf8 "off" → second.records = []
  trace : options.logLevel = utf8 "trace" → other.logLevel = utf8 "debug" →
    ∃ stored rest, Service.AreStoredFrom files options.config stored ∧
      first.records =
        announcement options :: (stored.map (Stored.trace options.config) ++ rest) ∧
      second.records = announcement options :: rest
  unknown : (∀ level : Level, options.logLevel ≠ level.name) → other.logLevel = utf8 "info" →
    first.records = unknownLevel options.logLevel :: second.records ∧ first.logger = second.logger

variable {reader : Json.Reader} {files : Files} {options other : Options} {level quieter : Level}

/-! ### What a level shows -/

theorem setUp_of_name {levelName : Bytes} (hname : levelName = level.name) :
    Logger.setUp levelName = pure (Logger.named level) := by
  rw [Logger.setUp, hname, Level.ofName?_name]

theorem setUp_of_unknown {levelName : Bytes} (hunknown : ∀ level : Level, levelName ≠ level.name) :
    (Logger.setUp levelName).value = Logger.named (.showing .info) ∧
      (Logger.setUp levelName).records = [unknownLevel levelName] := by
  rw [Logger.setUp, Level.ofName?_eq_none_iff.2 hunknown]
  exact ⟨rfl, by rw [Logged.records_bind, Logged.records_write]; rfl⟩

theorem runOptions_records_of_name (reader : Json.Reader) (files : Files)
    (hname : options.logLevel = level.name) :
    (runOptions reader files options).records =
      level.filter (loadAndReport reader files options).records := by
  rw [runOptions_records, written, setUp_of_name hname]
  rfl

theorem runOptions_records_of_unknown (reader : Json.Reader) (files : Files)
    (hunknown : ∀ level : Level, options.logLevel ≠ level.name) :
    (runOptions reader files options).records = unknownLevel options.logLevel ::
      (Level.showing .info).filter (loadAndReport reader files options).records := by
  obtain ⟨hvalue, hrecords⟩ := setUp_of_unknown hunknown
  rw [runOptions_records, written, hvalue, hrecords]
  rfl

theorem report_shown_at_debug (options : Options) (result : Except ConfigError ServiceConfig) :
    ∀ record ∈ (report options result).records,
      (Level.showing .debug).shows record.severity = true := by
  cases result with
  | error error => exact fun record hrecord => by rw [List.mem_singleton.1 hrecord]; rfl
  | ok config =>
    have hrecords : (report options (.ok config)).records =
        config.summaryRecords ++ [⟨.info, successText options⟩] := rfl
    rw [hrecords]
    simp [ServiceConfig.summaryRecords, Level.shows, Severity.rank]

/-- The traces of the stored lines follow the announcement, and no traces follow them. -/
theorem loadAndReport_records (reader : Json.Reader) (files : Files) (options : Options) :
    ∃ stored rest, Service.AreStoredFrom files options.config stored ∧
      (loadAndReport reader files options).records =
        announcement options :: (stored.map (Stored.trace options.config) ++ rest) ∧
      ∀ record ∈ rest, (Level.showing .debug).shows record.severity = true := by
  obtain ⟨stored, rest, hstored, hrecords, hrest⟩ :=
    Service.loadFile_records reader files options.config
  refine ⟨stored,
    rest ++ (report options (Service.loadFile reader files options.config).result).records,
    hstored, ?_, ?_⟩
  · rw [← List.append_assoc, ← hrecords]
    rfl
  · refine List.forall_mem_append.2 ⟨fun record hrecord => ?_, report_shown_at_debug options _⟩
    rcases hrest record hrecord with hdebug | hwarn
    · rw [hdebug]
      rfl
    · rw [hwarn]
      rfl

theorem loadAndReport_value (reader : Json.Reader) (files : Files) (options : Options) :
    (loadAndReport reader files options).value =
      (report options (Service.loadFile reader files options.config).result).value := rfl

/-! ### Two runs -/

theorem DiffersInLevel.loadAndReport (hdiffers : DiffersInLevel options other)
    (reader : Json.Reader) (files : Files) :
    CommandLine.loadAndReport reader files options =
      CommandLine.loadAndReport reader files other := by
  obtain ⟨config, levelName, checkOnly, help⟩ := options
  obtain ⟨_, otherName, _, otherHelp⟩ := other
  obtain ⟨rfl, rfl⟩ := hdiffers
  rfl

theorem DiffersInLevel.runOptions (hdiffers : DiffersInLevel options other)
    (reader : Json.Reader) (files : Files) :
    DiffersInShown files options other (runOptions reader files options)
      (CommandLine.runOptions reader files other) where
  status := by
    rw [runOptions_status, runOptions_status, ← loadAndReport_value, ← loadAndReport_value,
      hdiffers.loadAndReport]
  output := rfl
  errorOutput := rfl
  filter level quieter hname hquieter hverbose := by
    rw [runOptions_records_of_name reader files hname,
      runOptions_records_of_name reader files hquieter, hdiffers.loadAndReport,
      Level.filter_filter_of_verbose hverbose]
  off hoff := by
    have hname : other.logLevel = Level.off.name := hoff
    rw [runOptions_records_of_name reader files hname, Level.filter, List.filter_eq_nil_iff]
    exact fun _ _ => Bool.false_ne_true
  trace htrace hdebug := by
    have hname : options.logLevel = (Level.showing .trace).name := htrace
    have hotherName : other.logLevel = (Level.showing .debug).name := hdebug
    obtain ⟨stored, rest, hstored, hrecords, hrest⟩ := loadAndReport_records reader files options
    refine ⟨stored, rest, hstored, ?_, ?_⟩
    · rw [runOptions_records_of_name reader files hname, hrecords]
      exact Level.filter_eq_self fun record _ => Level.shows_everything record.severity
    · have hhidden : (Level.showing .debug).filter
          (stored.map (Stored.trace options.config)) = [] := by
        simp [Level.filter, Stored.trace, Level.shows, Severity.rank]
      rw [runOptions_records_of_name reader files hotherName, ← hdiffers.loadAndReport, hrecords]
      show announcement options :: (Level.showing .debug).filter (_ ++ rest) = _
      rw [Level.filter_append, hhidden, Level.filter_eq_self hrest, List.nil_append]
  unknown hunknown hinfo := by
    have hname : other.logLevel = (Level.showing .info).name := hinfo
    refine ⟨?_, ?_⟩
    · rw [runOptions_records_of_unknown reader files hunknown,
        runOptions_records_of_name reader files hname, hdiffers.loadAndReport]
    · show (Logger.setUp options.logLevel).value = (Logger.setUp other.logLevel).value
      rw [(setUp_of_unknown hunknown).1, setUp_of_name hname]
      rfl

/-! ### Two command lines -/

variable {arguments others : List Bytes} {items otherItems : List Item}

end RouteMonitor.CommandLine
