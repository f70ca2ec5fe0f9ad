import RouteMonitor.Proofs.Service.FirstFault

/-!
# Settings from a file

What becomes of a settings file is decided by what its path leads to. A regular file is read under
the path as it was given, and the configuration is loaded from what was read. A path that leads
nowhere gives one error to readers and loaders alike, and its message names the path; so an empty
path does, and a path below a regular file. A directory is the exception. It opens, nothing is read
from it, and the settings are taken for empty, which shows only as a missing section.

No other error has the code of a file that cannot be read. A reader refuses lines, and a loader
refuses settings; a file that the settings name is part of the setting that names it.
-/

namespace RouteMonitor

namespace FileSystem

variable {system : FileSystem} {path : Bytes} {node : Node} {content : Bytes}

/-- Up to its first NUL byte, the path is one that leads to the node, with or without a step in
front that stays in place. -/
def LeadsTo (system : FileSystem) (path : Bytes) (node : Node) : Prop :=
  ∃ name, system.node? name = some node ∧
    (path.untilNul = name ∨ isRelative name = true ∧ path.untilNul = utf8 "./" ++ name)

theorem leadsTo_iff : system.LeadsTo path node ↔ system.node? path.untilNul = some node := by
  constructor
  · intro hleads
    obtain ⟨name, hname, hpath | ⟨hrelative, hpath⟩⟩ := hleads
    · rw [hpath, hname]
    · rw [hpath, system.node?_here name hrelative, hname]
  · intro hnode
    exact ⟨path.untilNul, hnode, .inl rfl⟩

theorem files_of_leadsTo (hleads : system.LeadsTo path node) :
    system.files path = some node.content := by
  rw [files, leadsTo_iff.1 hleads, Option.map_some]

theorem files_of_nowhere (hnowhere : ∀ node, ¬system.LeadsTo path node) :
    system.files path = none := by
  have hnone : system.node? path.untilNul = none :=
    Option.eq_none_iff_forall_ne_some.2 fun node hnode => hnowhere node (leadsTo_iff.2 hnode)
  rw [files, hnone, Option.map_none]

/-- The path is empty, or it goes on behind one that leads to a regular file. -/
inductive IsDeadEnd (system : FileSystem) (path : Bytes) : Prop
  | empty : path.untilNul = [] → IsDeadEnd system path
  | below (name content rest : Bytes) : system.node? name = some (.file content) →
    path.untilNul = name ++ byte '/' :: rest → IsDeadEnd system path

theorem IsDeadEnd.not_leadsTo (hdead : system.IsDeadEnd path) (node : Node) :
    ¬system.LeadsTo path node := by
  intro hleads
  have hnode := leadsTo_iff.1 hleads
  cases hdead with
  | empty hempty =>
    rw [hempty, system.node?_nil] at hnode
    cases hnode
  | below name content rest hfile hpath =>
    rw [hpath, system.node?_below name content rest hfile] at hnode
    cases hnode

end FileSystem

open FileSystem (Node)

variable {reader : Json.Reader} {files : Files} {path : Bytes}

/-! ### Reading and loading what a path yields -/

theorem Settings.ofFile_of_some {text : Bytes} (hpath : files path = some text) :
    Settings.ofFile files path = Settings.Ini.read path text := by
  rw [Settings.ofFile, hpath]

theorem Settings.ofFile_of_none (hpath : files path = none) :
    Settings.ofFile files path = throw (.unopenedFile path) := by
  rw [Settings.ofFile, hpath]

theorem Service.loadFile_of_throw {error : ConfigError}
    (hread : Settings.ofFile files path = throw error) :
    Service.loadFile reader files path = throw error := by
  rw [Service.loadFile, hread]
  rfl

theorem Service.load_empty (reader : Json.Reader) (files : Files) :
    Service.load reader files .empty = throw (.missingSection Service.mainSection) := rfl

theorem ConfigError.report_unopenedFile (path : Bytes) :
    (ConfigError.unopenedFile path).report =
      ⟨.unreadable, none, none, utf8 "cannot open settings file '" ++ path ++ utf8 "'"⟩ := by
  have hopen : utf8 "cannot open settings file '" =
      utf8 "cannot open settings file " ++ utf8 "'" := by decide
  rw [hopen, List.append_assoc, List.append_assoc]
  rfl

/-! ### Errors of other origin -/

variable {origin text : Bytes} {settings : Settings} {error : ConfigError}

theorem Settings.Ini.Reader.code_of_step {reader : Reader} {number : Nat}
    (hstep : (reader.step origin number text).result = .error error) :
    error.report.code = .malformed := by
  rw [Reader.step] at hstep
  cases hline : Line.read text with
  | skipped | header =>
    rw [hline] at hstep
    cases hstep
  | badHeader | badEntry =>
    rw [hline] at hstep
    obtain rfl := Except.error.inj hstep
    rfl
  | store key entry =>
    rw [hline] at hstep
    cases hcurrent : reader.current with
    | none =>
      rw [hcurrent] at hstep
      obtain rfl := Except.error.inj hstep
      rfl
    | some sectionName =>
      rw [hcurrent] at hstep
      cases hstep

theorem Settings.Ini.Reader.code_of_run {lines : List Bytes} {reader : Reader} {number : Nat}
    (hrun : (Reader.run origin number lines reader).result = .error error) :
    error.report.code = .malformed := by
  induction lines generalizing reader number with
  | nil => cases hrun
  | cons line lines ih =>
    rw [Reader.run, LoadM.result_bind_eq_error_iff] at hrun
    rcases hrun with hstep | ⟨next, -, hlater⟩
    · exact code_of_step hstep
    · exact ih hlater

theorem Settings.Ini.code_of_read (hread : (read origin text).result = .error error) :
    error.report.code = .malformed := by
  rw [read, LoadM.result_bind_eq_error_iff] at hread
  rcases hread with hrun | ⟨last, -, hlast⟩
  · exact Reader.code_of_run hrun
  · cases hlast

/-- The configuration file of the whois servers counts as a setting, not as a settings file. -/
theorem Service.code_of_load (hload : (load reader files settings).result = .error error) :
    error.report.code ≠ .unreadable := by
  have htruthful := truthful_of_firstFault (load_result_eq_error_iff.1 hload)
  cases error with
  | unopenedFile | badHeader | badEntry => exact htruthful.elim
  | missingSection | missingKey | missingValue | invalidValue | requiredByMode | whoisConfig =>
    exact ErrorCode.noConfusion

theorem Settings.code_of_ofFile_of_some (hpath : files path = some text)
    (hread : (Settings.ofFile files path).result = .error error) :
    error.report.code ≠ .unreadable := by
  rw [Settings.ofFile_of_some hpath] at hread
  rw [Settings.Ini.code_of_read hread]
  exact ErrorCode.noConfusion

theorem Service.code_of_loadFile_of_some (hpath : files path = some text)
    (hload : (loadFile reader files path).result = .error error) :
    error.report.code ≠ .unreadable := by
  rw [loadFile, LoadM.result_bind_eq_error_iff] at hload
  rcases hload with hread | ⟨settings, -, hload⟩
  · exact Settings.code_of_ofFile_of_some hpath hread
  · exact code_of_load hload

/-! ### What the path leads to -/

/-- A path that leads to a regular file gives what is read from it; one that leads nowhere gives one
error, which names the path, and dead ends lead nowhere; and a directory is read as empty. Such an
error comes from no path that leads somewhere. -/
theorem settings_are_read_where_the_path_leads (reader : Json.Reader) (system : FileSystem)
    (path : Bytes) :
    (∀ content, system.LeadsTo path (.file content) →
      Settings.ofFile system.files path = Settings.Ini.read path content ∧
      Service.loadFile reader system.files path =
        Settings.Ini.read path content >>= Service.load reader system.files) ∧
    ((∀ node, ¬system.LeadsTo path node) → ∃ error : ConfigError,
      Settings.ofFile system.files path = throw error ∧
      Service.loadFile reader system.files path = throw error ∧
      error.report =
        ⟨.unreadable, none, none, utf8 "cannot open settings file '" ++ path ++ utf8 "'"⟩) ∧
    (system.IsDeadEnd path → ∀ node, ¬system.LeadsTo path node) ∧
    (system.LeadsTo path .directory →
      Settings.ofFile system.files path = pure .empty ∧
      Service.loadFile reader system.files path = throw (.missingSection (utf8 "main"))) ∧
    ∀ node, system.LeadsTo path node → ∀ error : ConfigError,
      (Settings.ofFile system.files path).result = .error error ∨
        (Service.loadFile reader system.files path).result = .error error →
      error.report.code ≠ .unreadable := by
  refine ⟨fun content hleads => ?_, fun hnowhere => ?_, fun hdead => hdead.not_leadsTo,
    fun hleads => ?_, fun node hleads error herror => ?_⟩
  · have hread := Settings.ofFile_of_some (FileSystem.files_of_leadsTo hleads)
    exact ⟨hread, by rw [Service.loadFile, hread]; rfl⟩
  · have hread := Settings.ofFile_of_none (FileSystem.files_of_nowhere hnowhere)
    exact ⟨.unopenedFile path, hread, Service.loadFile_of_throw hread,
      ConfigError.report_unopenedFile path⟩
  · have hread : Settings.ofFile system.files path = pure .empty :=
      Settings.ofFile_of_some (FileSystem.files_of_leadsTo hleads)
    refine ⟨hread, ?_⟩
    rw [Service.loadFile, hread, pure_bind, Service.load_empty]
    rfl
  · have hcontent := FileSystem.files_of_leadsTo hleads
    rcases herror with hread | hload
    · exact Settings.code_of_ofFile_of_some hcontent hread
    · exact Service.code_of_loadFile_of_some hcontent hload

/-- A file with an empty section, next to an empty directory. -/
def fileBesideDirectory : Folder :=
  (Folder.empty.put (utf8 "a.ini") (.file (utf8 "[main]\n"))).put (utf8 "d") .directory

/-- What a NUL byte hides does not count; a file has nothing below; a directory gives no error. -/
theorem file_dead_end_and_directory_are_read :
    let reader : Json.Reader := fun _ => .ok (.object [])
    let files := fileBesideDirectory.files
    Settings.ofFile files (utf8 "./a.ini\x00b") =
        Settings.Ini.read (utf8 "./a.ini\x00b") (utf8 "[main]\n") ∧
      (∃ error : ConfigError, Service.loadFile reader files (utf8 "a.ini/b") = throw error ∧
        error.report.message = utf8 "cannot open settings file 'a.ini/b'") ∧
      Settings.ofFile files (utf8 "d") = pure .empty ∧
      ∀ error : ConfigError, (Service.loadFile reader files (utf8 "d")).result = .error error →
        error.report.code ≠ .unreadable := by
  intro reader files
  let system := fileBesideDirectory.fileSystem
  have hfile : system.LeadsTo (utf8 "./a.ini\x00b") (.file (utf8 "[main]\n")) :=
    ⟨utf8 "a.ini", by rfl, .inr ⟨by decide, by decide⟩⟩
  have hbelow : system.IsDeadEnd (utf8 "a.ini/b") :=
    .below (utf8 "a.ini") (utf8 "[main]\n") (utf8 "b") (by rfl) (by decide)
  have hdirectory : system.LeadsTo (utf8 "d") .directory := ⟨utf8 "d", by rfl, .inl (by decide)⟩
  have hpaths := settings_are_read_where_the_path_leads reader system
  obtain ⟨hread, -⟩ := hpaths (utf8 "./a.ini\x00b")
  obtain ⟨-, hnowhere, hdead, -⟩ := hpaths (utf8 "a.ini/b")
  obtain ⟨-, -, -, hempty, hcode⟩ := hpaths (utf8 "d")
  obtain ⟨error, -, hload, hreport⟩ := hnowhere (hdead hbelow)
  refine ⟨(hread _ hfile).1, ⟨error, hload, ?_⟩, (hempty hdirectory).1,
    fun other hother => hcode _ hdirectory other (.inr hother)⟩
  rw [hreport]
  decide

/-- A path that leads to no regular file need not give an error, as a directory is read as empty. -/
theorem not_every_other_path_gives_an_error :
    let reader : Json.Reader := fun _ => .ok (.object [])
    ¬∀ (system : FileSystem) (path : Bytes),
      (∀ content, ¬system.LeadsTo path (.file content)) → ∃ error : ConfigError,
        Settings.ofFile system.files path = throw error ∧
        Service.loadFile reader system.files path = throw error ∧
        error.report.code = .unreadable := by
  intro reader hfails
  let system := fileBesideDirectory.fileSystem
  have hother : ∀ content, ¬system.LeadsTo (utf8 "d") (.file content) := by
    intro content hleads
    cases FileSystem.leadsTo_iff.1 hleads
  obtain ⟨error, hread, -⟩ := hfails system (utf8 "d") hother
  cases congrArg LoadM.result hread

end RouteMonitor
