import RouteMonitor.Files
import RouteMonitor.Settings.Ini

/-!
# Settings files

A settings file is read under its own path as the origin of its lines.
-/

namespace RouteMonitor.Settings

def ofFile (files : Files) (path : Bytes) : LoadM Settings :=
  match files path with
  | none => throw (.unopenedFile path)
  | some text => Ini.read path text

end RouteMonitor.Settings
