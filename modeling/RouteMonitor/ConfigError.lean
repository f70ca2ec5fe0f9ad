import RouteMonitor.Log
import RouteMonitor.Bytes.Decimal

/-!
# Configuration errors

A configuration error states its cause: which file could not be opened, which line is not part of
the format, which section or key is absent or unusable. Its report is what a user sees: a code, the
place in the settings when the error has one, and a message; the text of a report puts the place in
front of the message.
-/

namespace RouteMonitor

inductive ErrorCode
  | unreadable
  | malformed
  | missingSection
  | missingKey
  | missingValue
  | invalidValue
  | requiredByMode
  | whoisConfig
deriving DecidableEq, Repr

def ErrorCode.name : ErrorCode → Bytes
  | .unreadable => utf8 "io"
  | .malformed => utf8 "syntax"
  | .missingSection => utf8 "missing-section"
  | .missingKey => utf8 "missing-key"
  | .missingValue => utf8 "missing-value"
  | .invalidValue => utf8 "invalid-value"
  | .requiredByMode => utf8 "required-by-mode"
  | .whoisConfig => utf8 "whois-config"

structure ErrorReport where
  code : ErrorCode
  sectionName : Option Bytes
  key : Option Bytes
  message : Bytes
deriving DecidableEq

/-- A key without a section is no place, so it does not show. -/
def ErrorReport.text (report : ErrorReport) : Bytes :=
  match report.sectionName, report.key with
  | some sectionName, some key =>
    utf8 "[" ++ sectionName ++ utf8 "] " ++ key ++ utf8 ": " ++ report.message
  | some sectionName, none => utf8 "[" ++ sectionName ++ utf8 "]: " ++ report.message
  | none, _ => report.message

/-- An error of the settings as a whole, without a place in them. -/
def ErrorReport.general (code : ErrorCode) (message : Bytes) : ErrorReport :=
  ⟨code, none, none, message⟩

inductive ConfigError
  | unopenedFile (path : Bytes)
  | badHeader (origin : Bytes) (number : Nat) (line : Bytes)
  | badEntry (origin : Bytes) (number : Nat) (line : Bytes)
  | missingSection (sectionName : Bytes)
  | missingKey (sectionName key : Bytes)
  | missingValue (sectionName key : Bytes)
  | invalidValue (sectionName key cause : Bytes)
  | requiredByMode (sectionName key : Bytes)
  | whoisConfig (sectionName key cause : Bytes)
deriving DecidableEq

namespace ConfigError

def lineMessage (origin what : Bytes) (number : Nat) (line : Bytes) : Bytes :=
  origin ++ utf8 " " ++ what ++ utf8 " (" ++ Decimal.ofNat number ++ utf8 "): " ++ quoted line

def invalidMessage (key cause : Bytes) : Bytes :=
  utf8 "Invalid " ++ key ++ utf8 " - " ++ cause

def report : ConfigError → ErrorReport
  | .unopenedFile path => .general .unreadable (utf8 "cannot open settings file " ++ quoted path)
  | .badHeader origin number line =>
    .general .malformed (lineMessage origin (utf8 "invalid section header") number line)
  | .badEntry origin number line =>
    .general .malformed (lineMessage origin (utf8 "invalid line") number line)
  | .missingSection sectionName =>
    ⟨.missingSection, some sectionName, none,
      utf8 "Missing section " ++ quoted sectionName ++ utf8 " in ini file"⟩
  | .missingKey sectionName key =>
    ⟨.missingKey, some sectionName, some key,
      utf8 "Missing value " ++ quoted key ++ utf8 " in [" ++ sectionName ++ utf8 "] section"⟩
  | .missingValue sectionName key =>
    ⟨.missingValue, some sectionName, some key, utf8 "invalid " ++ key ++ utf8 " was specified"⟩
  | .invalidValue sectionName key cause =>
    ⟨.invalidValue, some sectionName, some key, invalidMessage key cause⟩
  | .requiredByMode sectionName key =>
    ⟨.requiredByMode, some sectionName, some key, key ++ utf8 " was not specified"⟩
  | .whoisConfig sectionName key cause =>
    ⟨.whoisConfig, some sectionName, some key, invalidMessage key cause⟩

end ConfigError

/-- The record that a failed configuration leaves in the log. -/
def ErrorReport.log (report : ErrorReport) : Logged Unit :=
  Logged.write .error (utf8 "configuration " ++ report.code.name ++ utf8 ": " ++ report.text)

/-- A computation that logs and may end in a configuration error; the records written before the
error stay. -/
abbrev LoadM := ExceptT ConfigError Logged

end RouteMonitor
