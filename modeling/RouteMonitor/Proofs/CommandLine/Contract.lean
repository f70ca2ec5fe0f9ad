import RouteMonitor.CommandLine.Run
import RouteMonitor.Proofs.Bytes
import RouteMonitor.Proofs.CommandLine.Grammar
import RouteMonitor.Proofs.Service.Records

/-!
# The contract of the command line

Bad arguments and a request for help end a run before its logger is set up. Any other run tells what
it did through its exit status and its log alone. The log is taken before the level of the logger
filters it: it opens with what was read, and it ends either in the record of the error or in the
summary of the configuration and the record of success. A check differs from other runs in the text
of that last record alone.

The output of a run is what it writes itself. The console of the logger, which prints the records
that are shown on the standard output, is no part of it.

The opening cannot be mistaken for an ending. Loading itself writes only incidental records, and the
record that names the program starts with another letter than a summary or a success.
-/

namespace RouteMonitor

/-! ### Records of a report -/

def ServiceConfig.summaryRecords (config : ServiceConfig) : List Record :=
  [⟨.info, config.peer.summary⟩, ⟨.info, config.http.summary⟩, ⟨.info, config.history.summary⟩,
    ⟨.info, config.whois.summary⟩]

def ConfigError.record (error : ConfigError) : Record :=
  ⟨.error, utf8 "configuration " ++ error.report.code.name ++ utf8 ": " ++ error.report.text⟩

namespace CommandLine

def IsSummary (record : Record) : Prop :=
  ∃ config : ServiceConfig, record ∈ config.summaryRecords

def IsSuccess (record : Record) : Prop :=
  record = ⟨.info, utf8 "configuration OK"⟩ ∨ record = ⟨.info, utf8 "configuration loaded"⟩

/-- Every record of a run with these options, whether its logger shows it or not. -/
def written (reader : Json.Reader) (files : Files) (options : Options) : List Record :=
  (Logger.setUp options.logLevel).records ++ (loadAndReport reader files options).records

/-! ### What a run promises -/

/-- The run ended before its logger was set up. -/
structure EndsEarly (logger : Logger) (code : UInt8) (output errorOutput : Bytes)
    (outcome : Outcome) : Prop where
  code : outcome.status.code = code
  output : outcome.output = output
  errorOutput : outcome.errorOutput = errorOutput
  records : outcome.records = []
  logger : outcome.logger = logger

structure LogsFailure (error : ConfigError) (written : List Record) : Prop where
  ends : ∃ earlier, written = earlier ++ [error.record] ∧
    ∀ record ∈ earlier, record.severity ≠ .error
  noReport : ∀ record ∈ written, ¬IsSummary record ∧ ¬IsSuccess record

structure LogsSuccess (config : ServiceConfig) (text : Bytes) (written : List Record) : Prop where
  ends : ∃ earlier, written = earlier ++ config.summaryRecords ++ [⟨.info, text⟩] ∧
    (∀ record ∈ earlier, ¬IsSummary record) ∧
    ∀ record ∈ earlier ++ config.summaryRecords, ¬IsSuccess record
  noError : ∀ record ∈ written, record.severity ≠ .error

/-- The run loaded the configuration that its options name, and it reports how that ended. It writes
nothing itself; what the console of its logger prints are the records. -/
structure Reports (reader : Json.Reader) (files : Files) (options : Options)
    (outcome : Outcome) : Prop where
  output : outcome.output = []
  errorOutput : outcome.errorOutput = []
  code_eq_zero_iff : outcome.status.code = 0 ↔
    ∃ config, (Service.loadFile reader files options.config).result = .ok config
  logger : outcome.logger = (Logger.setUp options.logLevel).value
  records : outcome.records = outcome.logger.level.filter (written reader files options)
  failure : ∀ error, (Service.loadFile reader files options.config).result = .error error →
    LogsFailure error (written reader files options)
  success : ∀ config, (Service.loadFile reader files options.config).result = .ok config →
    LogsSuccess config (successText options) (written reader files options)

/-- The logs are the same, but for the text of a success record that ends them. -/
def SameUpToSuccess (first second : List Record) : Prop :=
  first = second ∨ ∃ earlier last otherLast, IsSuccess last ∧ IsSuccess otherLast ∧
    first = earlier ++ [last] ∧ second = earlier ++ [otherLast]

structure DiffersInSuccess (first second : Outcome) : Prop where
  status : first.status = second.status
  output : first.output = second.output
  errorOutput : first.errorOutput = second.errorOutput
  logger : first.logger = second.logger
  records : SameUpToSuccess first.records second.records

/-! ### The opening of a log -/

variable {reader : Json.Reader} {files : Files} {options other : Options} {record : Record}

/-- What a run writes before it knows how the loading ended. -/
def opening (reader : Json.Reader) (files : Files) (options : Options) : List Record :=
  (Logger.setUp options.logLevel).records ++
    ⟨.info, Program.nameAndVersion ++ utf8 " loading " ++ options.config⟩ ::
      (Service.loadFile reader files options.config).run.records

theorem written_eq (reader : Json.Reader) (files : Files) (options : Options) :
    written reader files options = opening reader files options ++
      (report options (Service.loadFile reader files options.config).result).records := by
  rw [written, opening, List.append_assoc, List.cons_append]
  rfl

theorem setUp_records_severity (levelName : Bytes) :
    ∀ record ∈ (Logger.setUp levelName).records, record.severity = .warn := by
  rw [Logger.setUp]
  split
  · exact fun record hrecord => absurd hrecord List.not_mem_nil
  · rw [Logged.records_bind, Logged.records_write, Logged.records_pure, List.append_nil]
    exact fun record hrecord => by rw [List.mem_singleton.1 hrecord]

/-- A record of the opening is incidental or names the program. -/
theorem mem_opening (hrecord : record ∈ opening reader files options) :
    record.severity.IsIncidental ∨
      record.severity = .info ∧ record.text.head? = some (byte 'b') := by
  rcases List.mem_append.1 hrecord with hrecord | hrecord
  · rw [setUp_records_severity _ record hrecord]
    exact .inl ⟨by decide, by decide⟩
  · rcases List.mem_cons.1 hrecord with rfl | hrecord
    · exact .inr ⟨rfl, rfl⟩
    · exact .inl (Service.loadFile_writes reader files _ record hrecord)

theorem IsSummary.severity_and_head (hsummary : IsSummary record) :
    record.severity = .info ∧
      record.text.head? ∈ [some (byte 'p'), some (byte 'h'), some (byte 'w')] := by
  obtain ⟨config, hrecord⟩ := hsummary
  simp only [ServiceConfig.summaryRecords, List.mem_cons, List.not_mem_nil, or_false] at hrecord
  rcases hrecord with rfl | rfl | rfl | rfl
  · exact ⟨rfl, show some (byte 'p') ∈ _ by decide⟩
  · exact ⟨rfl, show some (byte 'h') ∈ _ by decide⟩
  · exact ⟨rfl, show some (byte 'h') ∈ _ by decide⟩
  · exact ⟨rfl, show some (byte 'w') ∈ _ by decide⟩

theorem IsSuccess.severity_and_head (hsuccess : IsSuccess record) :
    record.severity = .info ∧ record.text.head? = some (byte 'c') := by
  rcases hsuccess with rfl | rfl
  · exact ⟨rfl, rfl⟩
  · exact ⟨rfl, rfl⟩

theorem IsSummary.not_isSuccess (hsummary : IsSummary record) : ¬IsSuccess record := by
  intro hsuccess
  have hhead := hsummary.severity_and_head.2
  rw [hsuccess.severity_and_head.2] at hhead
  exact absurd hhead (by decide)

theorem severity_ne_error_of_mem_opening (hrecord : record ∈ opening reader files options) :
    record.severity ≠ .error := by
  rcases mem_opening hrecord with hincidental | ⟨hinfo, -⟩
  · exact hincidental.2
  · rw [hinfo]
    decide

theorem head?_of_mem_opening (hrecord : record ∈ opening reader files options)
    (hinfo : record.severity = .info) : record.text.head? = some (byte 'b') := by
  rcases mem_opening hrecord with hincidental | ⟨-, hname⟩
  · exact absurd hinfo hincidental.1
  · exact hname

theorem not_isSummary_of_mem_opening (hrecord : record ∈ opening reader files options) :
    ¬IsSummary record := by
  intro hsummary
  obtain ⟨hinfo, hhead⟩ := hsummary.severity_and_head
  rw [head?_of_mem_opening hrecord hinfo] at hhead
  exact absurd hhead (by decide)

theorem not_isSuccess_of_mem_opening (hrecord : record ∈ opening reader files options) :
    ¬IsSuccess record := by
  intro hsuccess
  obtain ⟨hinfo, hhead⟩ := hsuccess.severity_and_head
  rw [head?_of_mem_opening hrecord hinfo] at hhead
  exact absurd hhead (by decide)

/-! ### The ending of a log -/

theorem isSuccess_successText (options : Options) : IsSuccess ⟨.info, successText options⟩ := by
  rw [successText]
  split
  · exact .inl rfl
  · exact .inr rfl

theorem written_of_error {error : ConfigError}
    (hload : (Service.loadFile reader files options.config).result = .error error) :
    written reader files options = opening reader files options ++ [error.record] := by
  rw [written_eq, hload]
  rfl

theorem written_of_ok {config : ServiceConfig}
    (hload : (Service.loadFile reader files options.config).result = .ok config) :
    written reader files options =
      opening reader files options ++ config.summaryRecords ++ [⟨.info, successText options⟩] := by
  rw [written_eq, hload, List.append_assoc]
  rfl

theorem logsFailure_of_error {error : ConfigError}
    (hload : (Service.loadFile reader files options.config).result = .error error) :
    LogsFailure error (written reader files options) := by
  refine ⟨⟨opening reader files options, written_of_error hload, fun record hrecord =>
    severity_ne_error_of_mem_opening hrecord⟩, fun record hrecord => ?_⟩
  rw [written_of_error hload, List.mem_append, List.mem_singleton] at hrecord
  rcases hrecord with hrecord | rfl
  · exact ⟨not_isSummary_of_mem_opening hrecord, not_isSuccess_of_mem_opening hrecord⟩
  · have hinfo : error.record.severity ≠ .info := by simp [ConfigError.record]
    exact ⟨fun hsummary => hinfo hsummary.severity_and_head.1,
      fun hsuccess => hinfo hsuccess.severity_and_head.1⟩

theorem logsSuccess_of_ok {config : ServiceConfig}
    (hload : (Service.loadFile reader files options.config).result = .ok config) :
    LogsSuccess config (successText options) (written reader files options) := by
  have hsummary : ∀ record ∈ config.summaryRecords, IsSummary record :=
    fun record hrecord => ⟨config, hrecord⟩
  refine ⟨⟨opening reader files options, written_of_ok hload, fun record hrecord =>
    not_isSummary_of_mem_opening hrecord, fun record hrecord => ?success⟩, fun record hrecord => ?_⟩
  case success =>
    rcases List.mem_append.1 hrecord with hrecord | hrecord
    · exact not_isSuccess_of_mem_opening hrecord
    · exact (hsummary record hrecord).not_isSuccess
  · rw [written_of_ok hload, List.mem_append, List.mem_append, List.mem_singleton] at hrecord
    rcases hrecord with (hrecord | hrecord) | rfl
    · exact severity_ne_error_of_mem_opening hrecord
    · rw [(hsummary record hrecord).severity_and_head.1]
      decide
    · simp

/-! ### A run that loads -/

theorem runOptions_records (reader : Json.Reader) (files : Files) (options : Options) :
    (runOptions reader files options).records =
      (Logger.setUp options.logLevel).value.level.filter (written reader files options) :=
  Logged.records_under _ _

theorem runOptions_status (reader : Json.Reader) (files : Files) (options : Options) :
    (runOptions reader files options).status =
      (report options (Service.loadFile reader files options.config).result).value :=
  Logged.value_under _ _

theorem runOptions_code_eq_zero_iff (reader : Json.Reader) (files : Files) (options : Options) :
    (runOptions reader files options).status.code = 0 ↔
      ∃ config, (Service.loadFile reader files options.config).result = .ok config := by
  rw [runOptions_status]
  cases (Service.loadFile reader files options.config).result with
  | error error =>
    show (1 : UInt8) = 0 ↔ _
    simp
  | ok config =>
    show (0 : UInt8) = 0 ↔ _
    simp

theorem reports_runOptions (reader : Json.Reader) (files : Files) (options : Options) :
    Reports reader files options (runOptions reader files options) where
  output := rfl
  errorOutput := rfl
  code_eq_zero_iff := runOptions_code_eq_zero_iff reader files options
  logger := rfl
  records := runOptions_records reader files options
  failure := fun _ => logsFailure_of_error
  success := fun _ => logsSuccess_of_ok

/-! ### Checking only -/

theorem SameUpToSuccess.filter {first second : List Record} (hsame : SameUpToSuccess first second)
    (level : Level) : SameUpToSuccess (level.filter first) (level.filter second) := by
  rcases hsame with rfl | ⟨earlier, last, otherLast, hlast, hother, rfl, rfl⟩
  · exact .inl rfl
  · simp only [Level.filter, List.filter_append, List.filter_singleton,
      hlast.severity_and_head.1, hother.severity_and_head.1]
    cases level.shows .info with
    | false => exact .inl rfl
    | true => exact .inr ⟨_, last, otherLast, hlast, hother, rfl, rfl⟩

theorem DiffersInCheck.written (hdiffers : DiffersInCheck options other) (reader : Json.Reader)
    (files : Files) :
    SameUpToSuccess (written reader files options) (CommandLine.written reader files other) := by
  have hopening : opening reader files options = opening reader files other := by
    rw [opening, opening, hdiffers.config, hdiffers.logLevel]
  cases hload : (Service.loadFile reader files options.config).result with
  | error error =>
    have hother := hdiffers.config ▸ hload
    rw [written_of_error hload, written_of_error hother, hopening]
    exact .inl rfl
  | ok config =>
    have hother := hdiffers.config ▸ hload
    rw [written_of_ok hload, written_of_ok hother, hopening]
    exact .inr ⟨_, _, _, isSuccess_successText options, isSuccess_successText other, rfl, rfl⟩

theorem DiffersInCheck.runOptions (hdiffers : DiffersInCheck options other) (reader : Json.Reader)
    (files : Files) :
    DiffersInSuccess (runOptions reader files options)
      (CommandLine.runOptions reader files other) where
  status := by
    rw [runOptions_status, runOptions_status, hdiffers.config]
    cases (Service.loadFile reader files other.config).result <;> rfl
  output := rfl
  errorOutput := rfl
  logger := by
    show (Logger.setUp options.logLevel).value = (Logger.setUp other.logLevel).value
    rw [hdiffers.logLevel]
  records := by
    rw [runOptions_records, runOptions_records, hdiffers.logLevel]
    exact (hdiffers.written reader files).filter _

theorem DiffersInSuccess.refl (outcome : Outcome) : DiffersInSuccess outcome outcome :=
  ⟨rfl, rfl, rfl, rfl, .inl rfl⟩

/-! ### The contract -/

variable {arguments : List Bytes} {items : List Item}

theorem map_untilNul_eq_self (hnul : ∀ argument ∈ arguments, 0 ∉ argument) :
    arguments.map Bytes.untilNul = arguments := by
  have hsame : ∀ argument ∈ arguments, argument.untilNul = argument := fun argument hargument =>
    Bytes.untilNul_eq_self (hnul argument hargument)
  rw [List.map_congr_left hsame, List.map_id']

theorem run_of_spells (reader : Json.Reader) (files : Files) (logger : Logger)
    (hnul : ∀ argument ∈ arguments, 0 ∉ argument) (hspells : Spells arguments items) :
    run reader files logger arguments =
      if (Options.ofItems items).help then ⟨.success, usage, [], [], logger⟩
      else runOptions reader files (Options.ofItems items) := by
  rw [run, map_untilNul_eq_self hnul, Options.read?_of_spells hspells]

/-- Arguments that spell no items, and items that ask for help, leave the logger as it is, and the
usage is all that the run writes. Other items make a run that reports how the loading ended; checks
among them change no more than the text of a success record. -/
theorem run_keeps_its_contract (reader : Json.Reader) (files : Files) (logger : Logger)
    (hnul : ∀ argument ∈ arguments, 0 ∉ argument) :
    usage = utf8 "bgpexplorer 0.3.0\nUsage: bgpexplorer [-c|--config FILE] " ++
        utf8 "[-l|--log-level LEVEL] [--check] [-h|--help]\n" ++
        utf8 "  -c, --config FILE      settings file (default: bgpexplorer.ini)\n" ++
        utf8 "  -l, --log-level LEVEL  trace|debug|info|warn|error|off (default: info)\n" ++
        utf8 "      --check            validate the settings and exit\n" ∧
      ((∀ items, ¬Spells arguments items) →
        EndsEarly logger 1 [] usage (run reader files logger arguments)) ∧
      ∀ items, Spells arguments items →
        (.help ∈ items → EndsEarly logger 0 usage [] (run reader files logger arguments)) ∧
        (.help ∉ items →
          Reports reader files (Options.ofItems items) (run reader files logger arguments)) ∧
        ∀ others otherItems, (∀ argument ∈ others, 0 ∉ argument) → Spells others otherItems →
          items.filter (· ≠ .check) = otherItems.filter (· ≠ .check) →
          DiffersInSuccess (run reader files logger arguments) (run reader files logger others) ∧
            SameUpToSuccess (written reader files (Options.ofItems items))
              (written reader files (Options.ofItems otherItems)) := by
  refine ⟨?usage, fun hnone => ?invalid, fun items hspells => ⟨fun hhelp => ?help,
    fun hhelp => ?reports, fun others otherItems hotherNul hother hitems => ?check⟩⟩
  case usage => rfl
  case invalid =>
    have hread : Options.read? (arguments.map Bytes.untilNul) = none := by
      rw [map_untilNul_eq_self hnul]
      exact Options.read?_eq_none hnone
    rw [run, hread]
    exact ⟨rfl, rfl, rfl, rfl, rfl⟩
  case help =>
    have hasked : (Options.ofItems items).help = true := decide_eq_true hhelp
    rw [run_of_spells reader files logger hnul hspells, if_pos hasked]
    exact ⟨rfl, rfl, rfl, rfl, rfl⟩
  case reports =>
    have hasked : ¬(Options.ofItems items).help = true := by
      rw [Options.ofItems, decide_eq_false hhelp]
      exact Bool.false_ne_true
    rw [run_of_spells reader files logger hnul hspells, if_neg hasked]
    exact reports_runOptions reader files _
  case check =>
    have hdiffers := differsInCheck_of_filter hitems
    refine ⟨?_, hdiffers.written reader files⟩
    rw [run_of_spells reader files logger hnul hspells,
      run_of_spells reader files logger hotherNul hother, hdiffers.help]
    split
    · exact .refl _
    · exact hdiffers.runOptions reader files

/-- With the log off, a check of a good file shows in the exit status alone, as loading it does. -/
theorem silent_check_succeeds :
    let reader : Json.Reader := fun _ => .ok (.object [])
    let files : Files := fun path =>
      if path = utf8 "a.ini" then some (utf8 "[main]\nsession=main\nmode=bgppassive\n" ++
        utf8 "protolisten=any\nwhoisjsonconfig=w.json")
      else if path = utf8 "w.json" then some (utf8 "\x7b\x7d")
      else none
    let check := run reader files .initial
      [utf8 "--check", utf8 "-l", utf8 "off", utf8 "-c", utf8 "a.ini"]
    let load := run reader files .initial [utf8 "-l", utf8 "off", utf8 "--config", utf8 "a.ini"]
    check.status.code = 0 ∧ check.records = [] ∧ DiffersInSuccess check load ∧
      Reports reader files ⟨utf8 "a.ini", utf8 "off", true, false⟩ check := by
  intro reader files check load
  have hload : ∃ config, (Service.loadFile reader files (utf8 "a.ini")).result = .ok config := by
    refine ⟨{
      peer := ⟨.bgpPassive, ⟨1, 1, 1, 1⟩, ⟨0, by decide⟩, none, none,
        some ⟨.v4 ⟨0, 0, 0, 0⟩, 179⟩⟩
      http := ⟨⟨.v4 ⟨0, 0, 0, 0⟩, 8080⟩, ⟨120, by decide⟩, utf8 "./contrib"⟩
      history := ⟨⟨10, by decide⟩, .differ, ⟨0, by decide⟩, ⟨300, by decide⟩⟩
      whois := ⟨⟨30, by decide⟩, ⟨1800, by decide⟩, ⟨.empty⟩, utf8 "whoiscache.db",
        [⟨.v4 ⟨1, 1, 1, 1⟩, 53⟩]⟩ }, ?_⟩
    rfl
  have hcheck : Spells [utf8 "--check", utf8 "-l", utf8 "off", utf8 "-c", utf8 "a.ini"]
      [.check, .logLevel (utf8 "off"), .config (utf8 "a.ini")] :=
    .check (.logLevel (.inl rfl) (.config (.inl rfl) .nil))
  have hplain : Spells [utf8 "-l", utf8 "off", utf8 "--config", utf8 "a.ini"]
      [.logLevel (utf8 "off"), .config (utf8 "a.ini")] :=
    .logLevel (.inl rfl) (.config (.inr rfl) .nil)
  obtain ⟨-, hreports, hothers⟩ :=
    (run_keeps_its_contract reader files .initial (by decide)).2.2 _ hcheck
  have hreport : Reports reader files ⟨utf8 "a.ini", utf8 "off", true, false⟩ check :=
    hreports (by decide)
  refine ⟨hreport.code_eq_zero_iff.2 hload, ?_, (hothers _ _ (by decide) hplain rfl).1, hreport⟩
  have hlevel : check.logger.level = .off := by
    rw [hreport.logger]
    decide
  rw [hreport.records, hlevel, Level.filter, List.filter_eq_nil_iff]
  exact fun _ _ => Bool.false_ne_true

end CommandLine

end RouteMonitor
