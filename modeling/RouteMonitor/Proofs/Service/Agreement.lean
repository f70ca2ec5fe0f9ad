import RouteMonitor.Proofs.Service.Rows

/-!
# Loading in step

Loading takes one step for each row of the table. Here it is followed through two runs at once, with
settings and files of their own and one reader of documents. `TwoRuns.InStep` says of a part of the
loading that its first run ends as its rows say, and that the second is the same computation as soon
as the two runs agree on what is looked up by each row up to the first faulty one. Both pass through
a sequence of steps (`InStep.bind`), so both hold of the whole (`load_inStep`).

A single run is the case in which both are the same; `load_endsAt` is what is left of it.
-/

namespace RouteMonitor.Service

structure TwoRuns where
  reader : Json.Reader
  files : Files
  settings : Settings
  otherFiles : Files
  otherSettings : Settings

/-- Both runs find the same where the first one looks for the row. -/
def Row.Agrees (runs : TwoRuns) : Row → Prop
  | .presence sectionName =>
    runs.settings.hasSection sectionName = runs.otherSettings.hasSection sectionName
  | .setting sectionName key _ _ _ _ =>
    runs.settings.find? sectionName key = runs.otherSettings.find? sectionName key
  | .registryFile =>
    ∀ path, runs.settings.get? mainSection (utf8 "whoisjsonconfig") = some path →
      runs.files path = runs.otherFiles path

namespace TwoRuns

variable {α β : Type} {runs : TwoRuns}

/-- The runs agree on every row down to the first that is faulty. -/
def AgreeUpToFault (runs : TwoRuns) : List Row → Prop
  | [] => True
  | row :: rows =>
    row.Agrees runs ∧
      (row.fault? runs.reader runs.files runs.settings = none → runs.AgreeUpToFault rows)

/-- A part of the loading, in both runs, with the rows it takes its steps for. -/
structure InStep (runs : TwoRuns) (rows : List Row) (computation other : LoadM α)
    (Holds : α → Prop) : Prop where
  endsAt : computation.EndsAt (faults runs.reader runs.files runs.settings rows) Holds
  same : runs.AgreeUpToFault rows → computation = other

theorem AgreeUpToFault.left {rows later : List Row}
    (hagree : runs.AgreeUpToFault (rows ++ later)) : runs.AgreeUpToFault rows := by
  induction rows with
  | nil => trivial
  | cons row rows ih => exact ⟨hagree.1, fun hfault => ih (hagree.2 hfault)⟩

theorem AgreeUpToFault.right {rows later : List Row}
    (hagree : runs.AgreeUpToFault (rows ++ later))
    (hgood : (faults runs.reader runs.files runs.settings rows).findSome? id = none) :
    runs.AgreeUpToFault later := by
  induction rows with
  | nil => exact hagree
  | cons row rows ih =>
    rw [faults, List.map_cons, List.findSome?_cons] at hgood
    split at hgood
    · cases hgood
    · rename_i hnone
      exact ih (hagree.2 hnone) hgood

/-- It is enough to agree on some first rows that are all good or of which one is faulty. -/
theorem agreeUpToFault_of_forall {rows later : List Row}
    (hrows : ∀ row ∈ rows, row.Agrees runs)
    (hend : later = [] ∨ ∃ row ∈ rows, row.fault? runs.reader runs.files runs.settings ≠ none) :
    runs.AgreeUpToFault (rows ++ later) := by
  induction rows with
  | nil =>
    obtain rfl | ⟨row, hrow, -⟩ := hend
    · trivial
    · exact absurd hrow List.not_mem_nil
  | cons row rows ih =>
    refine ⟨hrows row List.mem_cons_self, fun hgood => ih (fun other hother =>
      hrows other (List.mem_cons_of_mem _ hother)) (hend.imp_right fun hfault => ?_)⟩
    obtain ⟨faulty, hmem, hfault⟩ := hfault
    rcases List.mem_cons.1 hmem with rfl | hmem
    · exact absurd hgood hfault
    · exact ⟨faulty, hmem, hfault⟩

namespace InStep

theorem pure {Holds : α → Prop} {value : α} (hvalue : Holds value) :
    runs.InStep [] (Pure.pure value) (Pure.pure value) Holds :=
  ⟨.pure hvalue, fun _ => rfl⟩

theorem bind {first second : LoadM α} {next otherNext : α → LoadM β} {rows later : List Row}
    {Holds : α → Prop} {Then : β → Prop} (hfirst : runs.InStep rows first second Holds)
    (hnext : ∀ value, Holds value → runs.InStep later (next value) (otherNext value) Then) :
    runs.InStep (rows ++ later) (first >>= next) (second >>= otherNext) Then where
  endsAt := by
    rw [faults, List.map_append]
    exact hfirst.endsAt.bind fun value hvalue => (hnext value hvalue).endsAt
  same := by
    intro hagree
    rw [← hfirst.same hagree.left]
    refine LoadM.bind_congr_of_result fun value hvalue => ?_
    obtain ⟨hgood, hholds⟩ := hfirst.endsAt.of_result_eq_ok hvalue
    exact (hnext value hholds).same (hagree.right hgood)

theorem of_logged (runs : TwoRuns) (logged : Logged α) :
    runs.InStep [] (liftM logged : LoadM α) (liftM logged) fun _ => True :=
  ⟨(LoadM.EndsAt.liftM logged).mono fun _ _ => trivial, fun _ => rfl⟩

theorem mono {computation other : LoadM α} {rows : List Row} {Holds Weaker : α → Prop}
    (hstep : runs.InStep rows computation other Holds)
    (hweaker : ∀ value, Holds value → Weaker value) :
    runs.InStep rows computation other Weaker :=
  ⟨hstep.endsAt.mono hweaker, hstep.same⟩

end InStep

/-! ### One step -/

theorem requireSection_inStep (runs : TwoRuns) (sectionName : Bytes) :
    runs.InStep [.presence sectionName] (requireSection runs.settings sectionName)
      (requireSection runs.otherSettings sectionName) fun _ => True where
  endsAt := requireSection_endsAt runs.reader runs.files runs.settings sectionName
  same := by
    intro hagree
    have hsection : runs.settings.hasSection sectionName =
        runs.otherSettings.hasSection sectionName := hagree.1
    rw [requireSection, requireSection, hsection]

theorem resolve_inStep (setting : Setting α) {absence : Absence} {Holds : Option α → Prop}
    (hends : (setting.resolve runs.settings).EndsAt
      [(rowOf setting absence).fault? runs.reader runs.files runs.settings] Holds) :
    runs.InStep [rowOf setting absence] (setting.resolve runs.settings)
      (setting.resolve runs.otherSettings) Holds where
  endsAt := hends
  same := by
    intro hagree
    have hfind : runs.settings.find? setting.sectionName setting.key =
        runs.otherSettings.find? setting.sectionName setting.key := hagree.1
    rw [Setting.resolve, Setting.resolve, hfind]

theorem require_inStep (setting : Setting α) {absence : Absence} {Holds : α → Prop}
    (hends : (setting.require runs.settings).EndsAt
      [(rowOf setting absence).fault? runs.reader runs.files runs.settings] Holds) :
    runs.InStep [rowOf setting absence] (setting.require runs.settings)
      (setting.require runs.otherSettings) Holds where
  endsAt := hends
  same := by
    intro hagree
    have hfind : runs.settings.find? setting.sectionName setting.key =
        runs.otherSettings.find? setting.sectionName setting.key := hagree.1
    rw [Setting.require, Setting.require, Setting.resolve, Setting.resolve, hfind]

theorem require_default_inStep (runs : TwoRuns) (setting : Setting α) {value : α}
    (hfallback : setting.fallback = .default value) :
    runs.InStep [rowOf setting .default] (setting.require runs.settings)
      (setting.require runs.otherSettings) fun _ => True :=
  (require_inStep setting (require_default_endsAt runs.reader runs.files runs.settings setting
    hfallback)).mono fun _ _ => trivial

theorem require_mandatory_inStep (runs : TwoRuns) (setting : Setting α)
    (hfallback : setting.fallback = .mandatory) (hbare : setting.onBare = .fail)
    (hreject : setting.onReject = .fail) :
    runs.InStep [rowOf setting .error] (setting.require runs.settings)
      (setting.require runs.otherSettings) fun value =>
        ∃ text, runs.settings.get? setting.sectionName setting.key = some text ∧
          setting.read text = .ok value :=
  require_inStep setting (require_mandatory_endsAt runs.reader runs.files runs.settings setting
    hfallback hbare hreject)

theorem endpoint_inStep {mode : PeerMode} (hmode : statedMode runs.settings = some mode)
    (endpoint : Endpoint) :
    runs.InStep [endpointRow runs.settings endpoint]
      ((endpoint.setting (namedSession runs.settings) mode).resolve runs.settings)
      ((endpoint.setting (namedSession runs.settings) mode).resolve runs.otherSettings)
      fun _ => True := by
  have hends := resolve_endsAt runs.reader runs.files runs.settings
    (endpoint.setting (namedSession runs.settings) mode)
    (.demanded (endpoint.requiredBy mode)) ⟨rfl, rfl, rfl⟩
  rw [endpointRow_eq_rowOf hmode]
  exact (resolve_inStep _ hends).mono fun _ _ => trivial

theorem loadRegistry_inStep {path : Bytes}
    (hpath : runs.settings.get? mainSection (utf8 "whoisjsonconfig") = some path) :
    runs.InStep [.registryFile] (loadRegistry runs.reader runs.files path)
      (loadRegistry runs.reader runs.otherFiles path) fun _ => True where
  endsAt := loadRegistry_endsAt hpath
  same := by
    intro hagree
    have hfile : runs.files path = runs.otherFiles path := hagree.1 path hpath
    rw [loadRegistry, loadRegistry, Whois.Registry.ofFile, Whois.Registry.ofFile, hfile]

/-! ### The steps in order -/

theorem loadSession_inStep (runs : TwoRuns) :
    runs.InStep (sessionRows runs.settings) (loadSession runs.settings)
      (loadSession runs.otherSettings) fun session => session = namedSession runs.settings := by
  refine (runs.requireSection_inStep mainSection).bind fun _ _ => ?_
  refine (runs.require_mandatory_inStep sessionName rfl rfl rfl).bind fun session hsession => ?_
  obtain ⟨text, htext, hread⟩ := hsession
  have hnamed : session = namedSession runs.settings :=
    (Except.ok.inj hread).symm.trans (namedSession_of_get? htext).symm
  rw [hnamed]
  exact (runs.requireSection_inStep (namedSession runs.settings)).bind fun _ _ => .pure rfl

theorem loadPeer_inStep (runs : TwoRuns) :
    runs.InStep (peerRows runs.settings) (loadPeer runs.settings (namedSession runs.settings))
      (loadPeer runs.otherSettings (namedSession runs.settings)) fun _ => True := by
  refine (runs.require_mandatory_inStep (peerMode (namedSession runs.settings)) rfl rfl rfl).bind
    fun mode hread => ?_
  obtain ⟨text, htext, hread⟩ := hread
  have hmode := statedMode_of_read htext hread
  refine (endpoint_inStep hmode .bgpPeer).bind fun _ _ => ?_
  refine (endpoint_inStep hmode .bmpPeer).bind fun _ _ => ?_
  refine (endpoint_inStep hmode .protoListen).bind fun _ _ => ?_
  refine (runs.require_default_inStep (routerId (namedSession runs.settings)) rfl).bind
    fun _ _ => ?_
  exact (runs.require_default_inStep (peerAs (namedSession runs.settings)) rfl).bind
    fun _ _ => .pure trivial

theorem loadHttp_inStep (runs : TwoRuns) :
    runs.InStep httpRows (loadHttp runs.settings) (loadHttp runs.otherSettings)
      fun _ => True := by
  refine (runs.require_default_inStep httpListen rfl).bind fun _ _ => ?_
  refine (runs.require_default_inStep httpTimeout rfl).bind fun _ _ => ?_
  exact (runs.require_default_inStep httpRoot rfl).bind fun _ _ => .pure trivial

theorem loadHistory_inStep (runs : TwoRuns) :
    runs.InStep historyRows (loadHistory runs.settings) (loadHistory runs.otherSettings)
      fun _ => True := by
  refine (runs.require_default_inStep historyDepth rfl).bind fun _ _ => ?_
  refine (runs.require_default_inStep historyMode rfl).bind fun _ _ => ?_
  refine (runs.require_default_inStep purgeAfterWithdraws rfl).bind fun _ _ => ?_
  exact (runs.require_default_inStep purgeEvery rfl).bind fun _ _ => .pure trivial

theorem loadWhois_inStep (runs : TwoRuns) :
    runs.InStep whoisRows (loadWhois runs.reader runs.files runs.settings)
      (loadWhois runs.reader runs.otherFiles runs.otherSettings) fun _ => True := by
  refine (runs.require_default_inStep whoisRequestTimeout rfl).bind fun _ _ => ?_
  refine (runs.require_default_inStep whoisCacheSeconds rfl).bind fun _ _ => ?_
  refine (runs.require_mandatory_inStep whoisRegistryPath rfl rfl rfl).bind fun path hread => ?_
  have hpath : runs.settings.get? mainSection (utf8 "whoisjsonconfig") = some path := by
    obtain ⟨text, htext, hread⟩ := hread
    exact Except.ok.inj hread ▸ htext
  refine (loadRegistry_inStep hpath).bind fun _ _ => ?_
  refine (runs.require_default_inStep whoisDatabase rfl).bind fun _ _ => ?_
  refine (runs.require_default_inStep whoisNameservers rfl).bind fun text _ => ?_
  exact (InStep.of_logged runs (Nameserver.readList text)).bind fun _ _ => .pure trivial

theorem load_inStep (runs : TwoRuns) :
    runs.InStep (rows runs.settings) (load runs.reader runs.files runs.settings)
      (load runs.reader runs.otherFiles runs.otherSettings) fun _ => True := by
  refine runs.loadSession_inStep.bind fun session hsession => ?_
  subst hsession
  refine runs.loadPeer_inStep.bind fun _ _ => ?_
  refine runs.loadHttp_inStep.bind fun _ _ => ?_
  refine runs.loadHistory_inStep.bind fun _ _ => ?_
  exact runs.loadWhois_inStep.bind fun _ _ => .pure trivial

end TwoRuns

theorem load_endsAt (reader : Json.Reader) (files : Files) (settings : Settings) :
    (load reader files settings).EndsAt (faults reader files settings (rows settings))
      fun _ => True :=
  (TwoRuns.load_inStep ⟨reader, files, settings, files, settings⟩).endsAt

end RouteMonitor.Service
