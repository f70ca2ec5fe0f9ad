import RouteMonitor.Proofs.Service.Leniences
import RouteMonitor.Proofs.Settings.Traces

/-!
# What loading a file writes

Reading a settings file leaves a trace of each line that stores an entry. Loading what was read
follows, with a debug record for each text that counts as absent and a warning for each name server
that is dropped. Nothing else is written: neither the configuration nor an error is reported, which
is left to those who asked for it.
-/

namespace RouteMonitor

/-- The severities that say neither that something went well nor that it failed. -/
def Severity.IsIncidental (severity : Severity) : Prop :=
  severity ≠ .info ∧ severity ≠ .error

namespace Service

open Settings.Ini (AreStored Stored)

/-- The lines that are stored where the file of a path is read. -/
def AreStoredFrom (files : Files) (path : Bytes) (stored : List Stored) : Prop :=
  match files path with
  | none => stored = []
  | some text => AreStored text.lines stored

theorem ofFile_records (files : Files) (path : Bytes) :
    ∃ stored, AreStoredFrom files path stored ∧
      (Settings.ofFile files path).run.records = stored.map (Stored.trace path) := by
  unfold AreStoredFrom Settings.ofFile
  cases files path with
  | none => exact ⟨[], rfl, rfl⟩
  | some text => exact Settings.Ini.read_records path text

theorem loadFile_records (reader : Json.Reader) (files : Files) (path : Bytes) :
    ∃ stored rest, AreStoredFrom files path stored ∧
      (loadFile reader files path).run.records = stored.map (Stored.trace path) ++ rest ∧
      ∀ record ∈ rest, record.severity = .debug ∨ record.severity = .warn := by
  obtain ⟨stored, hstored, hrecords⟩ := ofFile_records files path
  rw [loadFile]
  cases hread : (Settings.ofFile files path).result with
  | error error =>
    refine ⟨stored, [], hstored, ?_, fun _ hrecord => absurd hrecord List.not_mem_nil⟩
    rw [LoadM.records_bind_of_error hread, hrecords, List.append_nil]
  | ok settings =>
    refine ⟨stored, (load reader files settings).run.records, hstored, ?_, load_records_severity⟩
    rw [LoadM.records_bind_of_ok hread, hrecords]

theorem loadFile_writes (reader : Json.Reader) (files : Files) (path : Bytes) :
    ∀ record ∈ (loadFile reader files path).run.records, record.severity.IsIncidental := by
  intro record hrecord
  obtain ⟨stored, rest, -, hrecords, hrest⟩ := loadFile_records reader files path
  rw [hrecords] at hrecord
  rcases List.mem_append.1 hrecord with htrace | hrecord
  · obtain ⟨_, -, rfl⟩ := List.mem_map.1 htrace
    exact ⟨by simp [Stored.trace], by simp [Stored.trace]⟩
  · rcases hrest record hrecord with hdebug | hwarn
    · rw [hdebug]
      exact ⟨by decide, by decide⟩
    · rw [hwarn]
      exact ⟨by decide, by decide⟩

end Service

end RouteMonitor
