import RouteMonitor.Files
import RouteMonitor.Whois.Server

/-!
# The registry of whois servers

A registry maps name suffixes to servers. It is configured as a JSON object whose member names are
the suffixes, folded to lower case; where two names fold to one suffix, the greater name in byte
order stands. A name is looked up by the suffixes that start at its labels, the longest first; the
empty suffix holds the default server, for names that match no other.

The reader of JSON is a parameter. Where it refuses a document, its words end the message.
-/

namespace RouteMonitor.Whois

structure Registry where
  servers : Table Server
deriving DecidableEq

namespace Registry

/-! ## Reading -/

inductive Fault
  | notJson (details : Bytes)
  | notObject
  | entry (suffix : Bytes) (fault : EntryFault)
deriving DecidableEq

def Fault.message : Fault → Bytes
  | .notJson details => utf8 "JSON parse error: " ++ details
  | .notObject => utf8 "JSON root must be an object"
  | .entry suffix fault => utf8 "entry " ++ quoted suffix ++ utf8 ": " ++ fault.message

def readEntry (suffix : Bytes) (json : Json) : Except Fault (Bytes × Server) :=
  match Server.ofJson json with
  | .ok server => .ok (suffix.toLower, server)
  | .error fault => .error (.entry suffix fault)

def ofMembers (members : Table Json) : Except Fault Registry := do
  let entries ← members.toList.mapM fun (suffix, json) => readEntry suffix json
  return ⟨.ofList entries⟩

def ofJson (json : Json) : Except Fault Registry :=
  match json.members? with
  | some members => ofMembers members
  | none => .error .notObject

def read (reader : Json.Reader) (text : Bytes) : Except Fault Registry :=
  match reader text with
  | .ok json => ofJson json
  | .error details => .error (.notJson details)

inductive FileFault
  | unopened (path : Bytes)
  | unusable (path : Bytes) (fault : Fault)
deriving DecidableEq

def FileFault.message : FileFault → Bytes
  | .unopened path => utf8 "cannot open " ++ quoted path
  | .unusable path fault => path ++ utf8 ": " ++ fault.message

def ofFile (reader : Json.Reader) (files : Files) (path : Bytes) : Except FileFault Registry :=
  match files path with
  | none => .error (.unopened path)
  | some text => (read reader text).mapError (.unusable path)

/-! ## Looking up -/

/-- What follows each dot of a name, the longest first. -/
def afterDots : Bytes → List Bytes
  | [] => []
  | b :: rest => if b = byte '.' then rest :: afterDots rest else afterDots rest

/-- The nonempty suffixes of a name that start at a label, the longest first. -/
def labelSuffixes (name : Bytes) : List Bytes :=
  (name :: afterDots name).filter (· ≠ [])

/-- A name in lower case without trailing dots. -/
def normalizeName (name : Bytes) : Bytes :=
  (name.toLower.reverse.dropWhile (· = byte '.')).reverse

def defaultServer? (registry : Registry) : Option Server := registry.servers.get? []

def serverFor? (registry : Registry) (name : Bytes) : Option Server :=
  ((labelSuffixes (normalizeName name)).findSome? registry.servers.get?).or registry.defaultServer?

end Registry

end RouteMonitor.Whois
