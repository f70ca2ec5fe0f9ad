import RouteMonitor.Bytes

/-!
# Command-line options

The arguments are a sequence of items: `--config` and `--log-level` each take the argument after
them, whatever it looks like, and `--check` and `--help` stand alone. Of several items of one kind
the last counts.
-/

namespace RouteMonitor.CommandLine

inductive Item
  | config (path : Bytes)
  | logLevel (name : Bytes)
  | check
  | help
deriving DecidableEq

namespace Item

/-- The item that an argument makes alone. -/
def ofFlag? (argument : Bytes) : Option Item :=
  if argument = utf8 "--check" then some check
  else if argument = utf8 "-h" ∨ argument = utf8 "--help" then some help
  else none

/-- The item that an argument makes with the argument after it. -/
def ofOption? (argument value : Bytes) : Option Item :=
  if argument = utf8 "-c" ∨ argument = utf8 "--config" then some (config value)
  else if argument = utf8 "-l" ∨ argument = utf8 "--log-level" then some (logLevel value)
  else none

def readAll : List Bytes → Option (List Item)
  | [] => some []
  | argument :: rest =>
    match ofFlag? argument with
    | some item => (readAll rest).map (item :: ·)
    | none =>
      match rest with
      | [] => none
      | value :: rest =>
        match ofOption? argument value with
        | some item => (readAll rest).map (item :: ·)
        | none => none

end Item

structure Options where
  config : Bytes
  logLevel : Bytes
  checkOnly : Bool
  help : Bool
deriving DecidableEq

namespace Options

def default : Options := ⟨utf8 "bgpexplorer.ini", utf8 "info", false, false⟩

def apply (options : Options) : Item → Options
  | .config path => { options with config := path }
  | .logLevel name => { options with logLevel := name }
  | .check => { options with checkOnly := true }
  | .help => { options with help := true }

def read? (arguments : List Bytes) : Option Options :=
  (Item.readAll arguments).map fun items => items.foldl apply default

end Options

end RouteMonitor.CommandLine
