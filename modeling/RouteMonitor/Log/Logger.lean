import RouteMonitor.Log
import RouteMonitor.Program

/-!
# The process logger

Before it is set up, the logger has no name and shows records from `info` upwards. Setting it up
gives it the name of the program, the layout of its lines and a level. A level name that is unknown
stands for `info`, and the new logger warns about it.
-/

namespace RouteMonitor

structure Logger where
  name : Bytes
  level : Level
  pattern : Bytes
deriving DecidableEq

namespace Logger

def initial : Logger := ⟨[], .showing .info, []⟩

def named (level : Level) : Logger :=
  ⟨Program.name, level, utf8 "[%Y-%m-%d %H:%M:%S.%e] [%l] %v"⟩

def setUp (levelName : Bytes) : Logged Logger :=
  match Level.ofName? levelName with
  | some level => pure (named level)
  | none => do
    Logged.write .warn (utf8 "unknown log level " ++ quoted levelName ++ utf8 ", using info")
    pure (named (.showing .info))

end Logger

end RouteMonitor
