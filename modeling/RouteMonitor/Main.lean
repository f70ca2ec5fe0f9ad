import RouteMonitor.CommandLine.Run
import RouteMonitor.Json.Reader

/-!
# The executable

Reads the files that a run of the program opens, prints what the run leaves behind, and exits with
its status.
-/

namespace RouteMonitor.CommandLine

/-- Opens a path for reading; a directory opens and reads as empty. -/
def openPath (path : Bytes) : IO (Option Bytes) := do
  match String.fromUTF8? ⟨path.untilNul.toArray⟩ with
  | none => return none
  | some name =>
    try
      return some (← IO.FS.readBinFile name).data.toList
    catch
      | .inappropriateType .. => return some []
      | _ => return none

/-- The settings file and the registry file that it names. -/
def openFiles (options : Options) : IO Files := do
  let settingsText ← openPath options.config
  let known : Files := fun path => if path = options.config then settingsText else none
  match (Settings.ofFile known options.config).run.value with
  | .error _ => return known
  | .ok settings =>
    match settings.get? Service.whoisRegistryPath.sectionName Service.whoisRegistryPath.key with
    | none => return known
    | some registryPath =>
      let registryText ← openPath registryPath
      return fun path => if path = registryPath then registryText else known path

def printBytes (stream : IO.FS.Stream) (text : Bytes) : IO Unit := stream.write ⟨text.toArray⟩

end RouteMonitor.CommandLine

open RouteMonitor RouteMonitor.CommandLine

def main (arguments : List String) : IO UInt32 := do
  let arguments := arguments.map utf8
  let files : Files ← match Options.read? arguments with
    | none => pure Files.none
    | some options => if options.help then pure Files.none else openFiles options
  let outcome := run Json.strictReader files .initial arguments
  let output ← IO.getStdout
  printBytes output outcome.output
  for record in outcome.records do
    printBytes output (utf8 "[" ++ record.severity.name ++ utf8 "] " ++ record.text ++ utf8 "\n")
  printBytes (← IO.getStderr) outcome.errorOutput
  return outcome.status.code.toUInt32
