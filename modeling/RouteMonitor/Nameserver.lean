import RouteMonitor.Address.SocketAddress
import RouteMonitor.Log

/-!
# Name servers

The resolver's name servers are a list of addresses between commas. An address without a port gets
the port of DNS. An entry that is no address is dropped with a warning, and a list from which
everything was dropped stands for one public server, so there is always a server to ask.
-/

namespace RouteMonitor.Nameserver

def port : Port := 53

def fallback : SocketAddress := ⟨.v4 ⟨1, 1, 1, 1⟩, port⟩

def read? (entry : Bytes) : Option SocketAddress :=
  match SocketAddress.read? entry with
  | some address => some address
  | none => SocketAddress.read? (entry ++ utf8 ":" ++ port.render)

/-- The addresses among some entries, in order, with a warning for each of the others. -/
def readEntries : List Bytes → Logged (List SocketAddress)
  | [] => pure []
  | entry :: entries =>
    match read? entry with
    | some address => do return address :: (← readEntries entries)
    | none => do
      Logged.write .warn (utf8 "Invalid DNS: " ++ quoted entry)
      readEntries entries

def readList (text : Bytes) : Logged (List SocketAddress) := do
  let addresses ← readEntries ((text.splitOn (byte ',')).map Bytes.trim)
  return if addresses = [] then [fallback] else addresses

def renderList (addresses : List SocketAddress) : Bytes :=
  [byte ','].intercalate (addresses.map SocketAddress.render)

end RouteMonitor.Nameserver
