import RouteMonitor.Address.SocketAddress
import RouteMonitor.Json

/-!
# Whois servers

A server is a host, a port and the query it expects. It is configured as a text, `host` or
`host:port`, or as an object that adds the query. The text has a port exactly if it has one colon:
with two or more it is an IPv6 address, which stands alone.
-/

namespace RouteMonitor.Whois

structure Server where
  host : Bytes
  port : Port
  query : Bytes
deriving DecidableEq

/-- Why the entry of a suffix is no server. -/
inductive EntryFault
  | badPort (port : Bytes)
  | emptyHost
  | hostNotText
  | queryNotText
  | wrongKind
deriving DecidableEq

def EntryFault.message : EntryFault → Bytes
  | .badPort port => utf8 "bad port " ++ quoted port
  | .emptyHost => utf8 "empty host"
  | .hostNotText => utf8 "'host' must be a string"
  | .queryNotText => utf8 "'query' must be a string"
  | .wrongKind => utf8 "expected string or object"

namespace Server

def defaultPort : Port := 43

/-- The queried address takes the place of `$addr`. -/
def defaultQuery : Bytes := utf8 "$addr\r\n"

/-- Any number of digits, but neither port zero nor one beyond sixteen bits. -/
def readPort (text : Bytes) : Except EntryFault Port :=
  match Decimal.nat? text with
  | none => .error (.badPort text)
  | some number =>
    if 1 ≤ number ∧ number < 65536 then .ok (UInt16.ofNat number) else .error (.badPort text)

/-- The host and the port that a text names, the host possibly empty. -/
def splitText (text : Bytes) : Except EntryFault (Bytes × Port) :=
  match text.splitOn (byte ':') with
  | [host, port] => (readPort port).map fun port => (host, port)
  | _ => .ok (text, defaultPort)

def ofText (text : Bytes) : Except EntryFault Server := do
  let (host, port) ← splitText text
  if host = [] then throw .emptyHost
  return ⟨host, port, defaultQuery⟩

def ofMembers (members : Table Json) : Except EntryFault Server := do
  match (members.get? (utf8 "host")).bind Json.text? with
  | none => throw .hostNotText
  | some host =>
    let server ← ofText host
    match members.get? (utf8 "query") with
    | none => return server
    | some (.string query) => return { server with query }
    | some _ => throw .queryNotText

def ofJson (json : Json) : Except EntryFault Server :=
  match json.text?, json.members? with
  | some text, _ => ofText text
  | none, some members => ofMembers members
  | none, none => throw .wrongKind

end Server

end RouteMonitor.Whois
