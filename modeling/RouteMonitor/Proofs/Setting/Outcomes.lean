import Mathlib.Tactic.MkIffOfInductiveProp
import RouteMonitor.Mode
import RouteMonitor.Proofs.Setting

/-!
# Every case of a setting

Under the key of a setting a look-up finds nothing, a bare key, or a text that the setting accepts
or rejects. This is the whole table of what resolving the setting then does. An accepted text is the
value under every fallback. Otherwise a default stands in where the key is absent, or where the
setting is lenient about what it holds; without a default the leniences mean nothing. A setting
stays unset only if its key is absent and no mode demands it. All other cases fail, each with an
error of its own (`Fails`), which names the section and the key.
-/

namespace RouteMonitor.Setting

variable {α : Type} {setting : Setting α} {settings : Settings} {text : Bytes} {value : α}
  {error : ConfigError}

/-! ### What a look-up finds -/

def IsAbsent (setting : Setting α) (settings : Settings) : Prop :=
  settings.has setting.sectionName setting.key = false

def IsBare (setting : Setting α) (settings : Settings) : Prop :=
  settings.has setting.sectionName setting.key = true ∧
    settings.get? setting.sectionName setting.key = none

def Accepts (setting : Setting α) (settings : Settings) (value : α) : Prop :=
  ∃ text, settings.get? setting.sectionName setting.key = some text ∧
    setting.read text = .ok value

def Rejects (setting : Setting α) (settings : Settings) (cause : Bytes) : Prop :=
  ∃ text, settings.get? setting.sectionName setting.key = some text ∧
    setting.read text = .error cause

/-- The setting has a default and is lenient enough to use it. -/
def HasStandIn (setting : Setting α) (lenience : Lenience) : Prop :=
  lenience = .useDefault ∧ ∃ value, setting.fallback = .default value

/-- The cases without a value, and the error of each. -/
@[mk_iff]
inductive Fails (setting : Setting α) (settings : Settings) : ConfigError → Prop
  | missingKey : setting.IsAbsent settings → setting.fallback = .mandatory →
    Fails setting settings (.missingKey setting.sectionName setting.key)
  | requiredByMode : setting.IsAbsent settings → setting.fallback = .byMode true →
    Fails setting settings (.requiredByMode setting.sectionName setting.key)
  | missingValue : setting.IsBare settings → ¬setting.HasStandIn setting.onBare →
    Fails setting settings (.missingValue setting.sectionName setting.key)
  | invalidValue {cause : Bytes} : setting.Rejects settings cause →
    ¬setting.HasStandIn setting.onReject →
    Fails setting settings (.invalidValue setting.sectionName setting.key cause)

theorem isAbsent_iff :
    setting.IsAbsent settings ↔ settings.find? setting.sectionName setting.key = none := by
  rw [IsAbsent, Settings.has, Option.isSome_eq_false_iff, Option.isNone_iff_eq_none]

theorem isBare_iff :
    setting.IsBare settings ↔ settings.find? setting.sectionName setting.key = some .bare := by
  rw [IsBare, Settings.get?_eq_none_iff]
  cases hfind : settings.find? setting.sectionName setting.key <;> simp [Settings.has, hfind]

theorem accepts_iff : setting.Accepts settings value ↔
    ∃ text, settings.find? setting.sectionName setting.key = some (.value text) ∧
      setting.read text = .ok value := by
  simp only [Accepts, Settings.get?_eq_some_iff]

theorem rejects_iff {cause : Bytes} : setting.Rejects settings cause ↔
    ∃ text, settings.find? setting.sectionName setting.key = some (.value text) ∧
      setting.read text = .error cause := by
  simp only [Rejects, Settings.get?_eq_some_iff]

theorem substitutes_iff : setting.Substitutes settings ↔
    setting.IsAbsent settings ∨
      setting.IsBare settings ∧ setting.onBare = .useDefault ∨
      (∃ cause, setting.Rejects settings cause) ∧ setting.onReject = .useDefault := by
  rw [Substitutes, isAbsent_iff, isBare_iff]
  refine or_congr_right (or_congr_right ⟨fun hrejected => ?_, fun hrejected => ?_⟩)
  · obtain ⟨text, cause, hfind, hread, hlenient⟩ := hrejected
    exact ⟨⟨cause, rejects_iff.2 ⟨text, hfind, hread⟩⟩, hlenient⟩
  · obtain ⟨⟨cause, hrejects⟩, hlenient⟩ := hrejected
    obtain ⟨text, hfind, hread⟩ := rejects_iff.1 hrejects
    exact ⟨text, cause, hfind, hread, hlenient⟩

/-! ### Values -/

theorem resolve_of_accepts (haccepts : setting.Accepts settings value) :
    setting.resolve settings = pure (some value) := by
  obtain ⟨text, hfind, hread⟩ := accepts_iff.1 haccepts
  exact resolve_of_stored hfind hread

theorem resolve_result_eq_some_iff :
    (setting.resolve settings).result = .ok (some value) ↔
      setting.Accepts settings value ∨
        setting.Substitutes settings ∧ setting.fallback = .default value := by
  simp [resolve_result_eq_ok_iff, Yields, accepts_iff]

theorem resolve_result_eq_none_iff :
    (setting.resolve settings).result = .ok none ↔
      setting.fallback = .byMode false ∧ setting.IsAbsent settings := by
  rw [resolve_result_eq_ok_iff, isAbsent_iff]
  simp

/-- A setting that no mode decides on is never unset, so what it is resolved to can be required. -/
theorem resolve_eq_map_require (hfallback : ∀ required, setting.fallback ≠ .byMode required) :
    setting.resolve settings = some <$> setting.require settings := by
  rw [require, map_bind]
  conv => lhs; rw [← bind_pure (setting.resolve settings)]
  apply LoadM.bind_congr_of_result
  intro resolved hresolved
  cases resolved with
  | some value => rw [map_pure]
  | none => exact absurd (resolve_result_eq_none_iff.1 hresolved).1 (hfallback false)

/-! ### Leniences without a default -/

theorem resolveBare_of_no_default (hfallback : ∀ value, setting.fallback ≠ .default value) :
    setting.resolveBare = throw (.missingValue setting.sectionName setting.key) := by
  rw [resolveBare]
  cases hkind : setting.fallback with
  | default value => exact absurd hkind (hfallback value)
  | mandatory => cases setting.onBare <;> rfl
  | byMode required => cases setting.onBare <;> rfl

theorem resolveRejected_of_no_default (hfallback : ∀ value, setting.fallback ≠ .default value)
    (text cause : Bytes) :
    setting.resolveRejected text cause =
      throw (.invalidValue setting.sectionName setting.key cause) := by
  rw [resolveRejected]
  cases hkind : setting.fallback with
  | default value => exact absurd hkind (hfallback value)
  | mandatory => cases setting.onReject <;> rfl
  | byMode required => cases setting.onReject <;> rfl

theorem resolve_with_leniences (hfallback : ∀ value, setting.fallback ≠ .default value)
    (onBare onReject : Lenience) (settings : Settings) :
    { setting with onBare := onBare, onReject := onReject }.resolve settings =
      setting.resolve settings := by
  have hother : ∀ value, Setting.fallback { setting with onBare := onBare, onReject := onReject } ≠
      .default value := hfallback
  unfold resolve
  cases settings.find? setting.sectionName setting.key with
  | none => rfl
  | some entry =>
    cases entry with
    | bare =>
      exact (resolveBare_of_no_default hother).trans (resolveBare_of_no_default hfallback).symm
    | value text =>
      cases hread : setting.read text with
      | ok value => simp only [hread]
      | error cause =>
        simp only [hread, resolveRejected_of_no_default hother,
          resolveRejected_of_no_default hfallback]

/-! ### Errors -/

theorem resolveAbsent_result_eq_error_iff :
    setting.resolveAbsent.result = .error error ↔
      setting.fallback = .mandatory ∧ error = .missingKey setting.sectionName setting.key ∨
        setting.fallback = .byMode true ∧
          error = .requiredByMode setting.sectionName setting.key := by
  rw [resolveAbsent]
  cases setting.fallback with
  | mandatory => simp [eq_comm]
  | default value => simp
  | byMode required => cases required <;> simp [eq_comm]

theorem resolveBare_result_eq_error_iff :
    setting.resolveBare.result = .error error ↔
      ¬setting.HasStandIn setting.onBare ∧
        error = .missingValue setting.sectionName setting.key := by
  rw [resolveBare, HasStandIn]
  cases setting.onBare with
  | fail => simp [eq_comm]
  | useDefault => cases setting.fallback <;> simp [eq_comm]

theorem resolveRejected_result_eq_error_iff {cause : Bytes} :
    (setting.resolveRejected text cause).result = .error error ↔
      ¬setting.HasStandIn setting.onReject ∧
        error = .invalidValue setting.sectionName setting.key cause := by
  rw [resolveRejected, HasStandIn]
  cases setting.onReject with
  | fail => simp [eq_comm]
  | useDefault => cases setting.fallback <;> simp [Except.map, eq_comm]

theorem resolve_result_eq_error_iff :
    (setting.resolve settings).result = .error error ↔ setting.Fails settings error := by
  rw [fails_iff, isAbsent_iff, isBare_iff]
  simp only [rejects_iff]
  unfold resolve
  cases settings.find? setting.sectionName setting.key with
  | none => simp [resolveAbsent_result_eq_error_iff]
  | some entry =>
    cases entry with
    | bare => simp [resolveBare_result_eq_error_iff]
    | value text =>
      cases hread : setting.read text with
      | ok value => simp [hread]
      | error cause => simp [hread, resolveRejected_result_eq_error_iff]

/-- Every error of a setting has its place in the settings. -/
theorem Fails.place (hfails : setting.Fails settings error) :
    error.report.sectionName = some setting.sectionName ∧ error.report.key = some setting.key := by
  cases hfails with
  | missingKey => exact ⟨rfl, rfl⟩
  | requiredByMode => exact ⟨rfl, rfl⟩
  | missingValue => exact ⟨rfl, rfl⟩
  | invalidValue => exact ⟨rfl, rfl⟩

/-- An accepted text is the value under every fallback. Where no text is accepted, the default is
the value exactly if it stands in for what is there, and without a default the leniences change
nothing. Only a setting that no mode demands, and whose key is absent, stays unset, so a setting
that no mode decides on is resolved to what it requires. Everything else fails with the error of its
case, which names the section and the key. -/
theorem resolve_settles_every_case (setting : Setting α) (settings : Settings) :
    (∀ value, setting.Accepts settings value → setting.resolve settings = pure (some value)) ∧
      ((∀ value, ¬setting.Accepts settings value) → ∀ value,
        ((setting.resolve settings).result = .ok (some value) ↔
          setting.fallback = .default value ∧
            (setting.IsAbsent settings ∨
              setting.IsBare settings ∧ setting.onBare = .useDefault ∨
              (∃ cause, setting.Rejects settings cause) ∧ setting.onReject = .useDefault))) ∧
      ((∀ value, setting.fallback ≠ .default value) → ∀ onBare onReject,
        { setting with onBare := onBare, onReject := onReject }.resolve settings =
          setting.resolve settings) ∧
      ((setting.resolve settings).result = .ok none ↔
        setting.fallback = .byMode false ∧ setting.IsAbsent settings) ∧
      ((∀ required, setting.fallback ≠ .byMode required) →
        setting.resolve settings = some <$> setting.require settings) ∧
      (∀ error, (setting.resolve settings).result = .error error ↔
        setting.Fails settings error) ∧
      ∀ error, (setting.resolve settings).result = .error error →
        error.report.sectionName = some setting.sectionName ∧
          error.report.key = some setting.key := by
  refine ⟨fun value => resolve_of_accepts, fun hnone value => ?_, fun hfallback onBare onReject =>
    resolve_with_leniences hfallback onBare onReject settings, resolve_result_eq_none_iff,
    resolve_eq_map_require, fun error => resolve_result_eq_error_iff, fun error herror =>
    (resolve_result_eq_error_iff.1 herror).place⟩
  rw [resolve_result_eq_some_iff, or_iff_right (hnone value), substitutes_iff, and_comm]

/-- One rejected text gives the default, an error and, under another key, nothing at all. -/
theorem rejected_mode_is_settled_by_the_fallback :
    let settings := Settings.empty.put (utf8 "main") (utf8 "keep") (.value (utf8 "none"))
    let lenient : Setting HistoryMode :=
      { sectionName := utf8 "main", key := utf8 "keep", read := HistoryMode.read,
        fallback := .default .differ, onReject := .useDefault }
    let optional : Setting HistoryMode := { lenient with fallback := .byMode false }
    (lenient.resolve settings).result = .ok (some .differ) ∧
      (optional.resolve settings).result = .error (.invalidValue (utf8 "main") (utf8 "keep")
        (utf8 "invalid history mode 'none' (every|differ)")) ∧
      Setting.resolve { optional with onReject := .fail } settings = optional.resolve settings ∧
      (Setting.resolve { optional with key := utf8 "other" } settings).result = .ok none ∧
      lenient.resolve settings = some <$> lenient.require settings ∧
      lenient.resolve (settings.put (utf8 "main") (utf8 "keep") (.value (utf8 "every"))) =
        pure (some .every) := by
  intro settings lenient optional
  have hrejects : lenient.Rejects settings (utf8 "invalid history mode 'none' (every|differ)") :=
    ⟨utf8 "none", by rfl, by rfl⟩
  have hstored : settings.get? lenient.sectionName lenient.key = some (utf8 "none") := by rfl
  have hnone : ∀ value, ¬lenient.Accepts settings value := by
    intro value haccepts
    obtain ⟨text, hget, hread⟩ := haccepts
    obtain rfl := Option.some.inj (hstored.symm.trans hget)
    cases hread
  have hlenient := resolve_settles_every_case lenient settings
  have hoptional := resolve_settles_every_case optional settings
  refine ⟨(hlenient.2.1 hnone .differ).2 ⟨rfl, .inr (.inr ⟨⟨_, hrejects⟩, rfl⟩)⟩,
    (hoptional.2.2.2.2.2.1 _).2 (.invalidValue hrejects ?_),
    hoptional.2.2.1 (by rintro value ⟨⟩) optional.onBare .fail,
    (resolve_settles_every_case _ _).2.2.2.1.2 ⟨rfl, rfl⟩,
    hlenient.2.2.2.2.1 (by rintro required ⟨⟩),
    (resolve_settles_every_case lenient _).1 .every ⟨utf8 "every", by rfl, by rfl⟩⟩
  rintro ⟨-, value, ⟨⟩⟩

end RouteMonitor.Setting
