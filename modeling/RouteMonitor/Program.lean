import RouteMonitor.Bytes

/-!
# The program's identity

The name and the version under which the program presents itself in its log and in its usage text.
-/

namespace RouteMonitor.Program

def name : Bytes := utf8 "bgpexplorer"

def version : Bytes := utf8 "0.3.0"

def nameAndVersion : Bytes := name ++ utf8 " " ++ version

end RouteMonitor.Program
