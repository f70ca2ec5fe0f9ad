import RouteMonitor.ConfigError
import RouteMonitor.Settings

/-!
# The INI format

A text is read line by line, each line without the blanks around it. A line that is empty or starts
with `;` or `#` has no meaning; a line in brackets opens a section, which may be opened more than
once; any other line stores an entry in the section that is open, split at its first `=`. Of several
entries for one key the last stands. The first line that fits none of these ends the reading, and
every entry stored before it has left a trace.
-/

namespace RouteMonitor.Settings.Ini

/-- What a line without surrounding blanks means. -/
inductive Line
  | skipped
  | header (name : Bytes)
  | store (key : Bytes) (entry : Entry)
  | badHeader
  | badEntry
deriving DecidableEq

/-- The key and the entry of a line that stores one. -/
def splitEntry (text : Bytes) : Bytes × Entry :=
  match text.cut? (utf8 "=") with
  | none => (text, .bare)
  | some (before, after) => (before.trim, .value after.trim)

def Line.read : Bytes → Line
  | [] => .skipped
  | first :: rest =>
    if first = byte ';' ∨ first = byte '#' then .skipped
    else if first = byte '[' then
      if rest.getLast? = some (byte ']') then .header (Bytes.trim rest.dropLast) else .badHeader
    else
      let (key, entry) := splitEntry (first :: rest)
      if key = [] then .badEntry else .store key entry

/-- The settings read so far and the section that is open. -/
structure Reader where
  settings : Settings
  current : Option Bytes
deriving DecidableEq

namespace Reader

def initial : Reader := ⟨.empty, none⟩

def traceText (origin sectionName key : Bytes) (entry : Entry) : Bytes :=
  origin ++ utf8 ": [" ++ sectionName ++ utf8 "] " ++ key ++ utf8 " = " ++
    entry.text?.getD (utf8 "<none>")

/-- Takes one line, given without surrounding blanks. -/
def step (origin : Bytes) (number : Nat) (text : Bytes) (reader : Reader) : LoadM Reader :=
  match Line.read text with
  | .skipped => pure reader
  | .header name => pure ⟨reader.settings.openSection name, some name⟩
  | .badHeader => throw (.badHeader origin number text)
  | .badEntry => throw (.badEntry origin number text)
  | .store key entry =>
    match reader.current with
    | none => throw (.badEntry origin number text)
    | some sectionName => do
      Logged.write .trace (traceText origin sectionName key entry)
      pure { reader with settings := reader.settings.put sectionName key entry }

/-- Takes lines in order, the first of which has the given number. -/
def run (origin : Bytes) : Nat → List Bytes → Reader → LoadM Reader
  | _, [], reader => pure reader
  | number, line :: lines, reader => do
    run origin (number + 1) lines (← reader.step origin number line.trim)

end Reader

def defaultOrigin : Bytes := utf8 "<string>"

def read (origin text : Bytes) : LoadM Settings := do
  return (← Reader.initial.run origin 1 text.lines).settings

/-! ## Writing -/

def entryLine (key : Bytes) : Entry → Bytes
  | .bare => key
  | .value text => key ++ utf8 "=" ++ text

def sectionLines (sectionName : Bytes) (keys : Table Entry) : List Bytes :=
  (utf8 "[" ++ sectionName ++ utf8 "]") :: keys.toList.map fun (key, entry) => entryLine key entry

/-- Each section with its entries, in the order of the tables. -/
def renderLines (settings : Settings) : List Bytes :=
  settings.sections.toList.flatMap fun (sectionName, keys) => sectionLines sectionName keys

def render (settings : Settings) : Bytes :=
  (renderLines settings).flatMap fun line => line ++ utf8 "\n"

end RouteMonitor.Settings.Ini
