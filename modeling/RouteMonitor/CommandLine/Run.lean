import RouteMonitor.CommandLine.Options
import RouteMonitor.Log.Logger
import RouteMonitor.Service.Load
import RouteMonitor.Service.Summary

/-!
# Running the program

A run reads its options, sets up the logger, loads the configuration under the level of this logger
and reports it. Arguments that are no options, and a request for help, end the run before the logger
is set up and before any file is opened.

The logger of a run has a console of its own. It prints the records that are shown on the standard
output, line by line, which is no output of the run: its own output is the usage text or nothing.
-/

namespace RouteMonitor.CommandLine

def usage : Bytes :=
  Program.nameAndVersion ++ utf8 "\nUsage: " ++ Program.name ++
    utf8 " [-c|--config FILE] [-l|--log-level LEVEL] [--check] [-h|--help]\n" ++
    utf8 "  -c, --config FILE      settings file (default: bgpexplorer.ini)\n" ++
    utf8 "  -l, --log-level LEVEL  trace|debug|info|warn|error|off (default: info)\n" ++
    utf8 "      --check            validate the settings and exit\n"

inductive ExitStatus
  | success
  | failure
deriving DecidableEq, Repr

def ExitStatus.code : ExitStatus → UInt8
  | .success => 0
  | .failure => 1

/-- The last record of a run that found the configuration good. -/
def successText (options : Options) : Bytes :=
  if options.checkOnly then utf8 "configuration OK" else utf8 "configuration loaded"

def report (options : Options) : Except ConfigError ServiceConfig → Logged ExitStatus
  | .error error => do
    error.report.log
    return .failure
  | .ok config => do
    config.log
    Logged.write .info (successText options)
    return .success

/-- Everything that a run logs once its logger is set up. -/
def loadAndReport (reader : Json.Reader) (files : Files) (options : Options) :
    Logged ExitStatus := do
  Logged.write .info (Program.nameAndVersion ++ utf8 " loading " ++ options.config)
  report options (← (Service.loadFile reader files options.config).run)

/-- What a run leaves behind: its exit status, what it wrote itself to the standard streams, the
records that its logger showed, and the logger. -/
structure Outcome where
  status : ExitStatus
  output : Bytes
  errorOutput : Bytes
  records : List Record
  logger : Logger
deriving DecidableEq

/-- The warning that setting up a logger may give is already shown under the new level. -/
def runOptions (reader : Json.Reader) (files : Files) (options : Options) : Outcome :=
  let setUp := Logger.setUp options.logLevel
  let logger := setUp.value
  let ended := (setUp >>= fun _ => loadAndReport reader files options).under logger.level
  { status := ended.value, output := [], errorOutput := [], records := ended.records, logger }

/-- An argument ends at its first NUL byte. -/
def run (reader : Json.Reader) (files : Files) (logger : Logger) (arguments : List Bytes) :
    Outcome :=
  match Options.read? (arguments.map Bytes.untilNul) with
  | none => ⟨.failure, [], usage, [], logger⟩
  | some options =>
    if options.help then ⟨.success, usage, [], [], logger⟩ else runOptions reader files options

end RouteMonitor.CommandLine
