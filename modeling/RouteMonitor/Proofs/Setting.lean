import RouteMonitor.Proofs.Outcome
import RouteMonitor.Setting

/-!
# What a setting yields

Resolving a setting either fails, or leaves it unset, or gives it a value. `Yields` says which
value, from what stands under its key alone: the value that the text is read as, or the default
where the key is absent, is bare and may be, or holds a text that is rejected and may be. Only a
setting that no mode demands may stay unset, and only where its key is absent.
-/

namespace RouteMonitor.Setting

variable {α : Type} {setting : Setting α} {settings : Settings} {value : α}

/-- The default stands in for what is under the key. -/
def Substitutes (setting : Setting α) (settings : Settings) : Prop :=
  settings.find? setting.sectionName setting.key = none ∨
    settings.find? setting.sectionName setting.key = some .bare ∧ setting.onBare = .useDefault ∨
    ∃ text cause, settings.find? setting.sectionName setting.key = some (.value text) ∧
      setting.read text = .error cause ∧ setting.onReject = .useDefault

def Yields (setting : Setting α) (settings : Settings) (value : α) : Prop :=
  (∃ text, settings.find? setting.sectionName setting.key = some (.value text) ∧
      setting.read text = .ok value) ∨
    setting.Substitutes settings ∧ setting.fallback = .default value

theorem resolveAbsent_result_eq_ok_iff {resolved : Option α} :
    setting.resolveAbsent.result = .ok resolved ↔
      (∃ value, resolved = some value ∧ setting.fallback = .default value) ∨
        resolved = none ∧ setting.fallback = .byMode false := by
  rw [resolveAbsent]
  cases setting.fallback with
  | mandatory => simp
  | default value => simp [eq_comm]
  | byMode required => cases required <;> simp [eq_comm]

theorem resolveBare_result_eq_ok_iff {resolved : Option α} :
    setting.resolveBare.result = .ok resolved ↔
      ∃ value, resolved = some value ∧ setting.onBare = .useDefault ∧
        setting.fallback = .default value := by
  rw [resolveBare]
  cases setting.onBare with
  | fail => simp
  | useDefault => cases setting.fallback <;> simp [eq_comm]

theorem resolveRejected_result_eq_ok_iff {text cause : Bytes} {resolved : Option α} :
    (setting.resolveRejected text cause).result = .ok resolved ↔
      ∃ value, resolved = some value ∧ setting.onReject = .useDefault ∧
        setting.fallback = .default value := by
  rw [resolveRejected]
  cases setting.onReject with
  | fail => simp
  | useDefault => cases setting.fallback <;> simp [Except.map, eq_comm]

theorem resolve_result_eq_ok_iff {resolved : Option α} :
    (setting.resolve settings).result = .ok resolved ↔
      (∃ value, resolved = some value ∧ setting.Yields settings value) ∨
        resolved = none ∧ setting.fallback = .byMode false ∧
          settings.find? setting.sectionName setting.key = none := by
  unfold resolve Yields Substitutes
  cases settings.find? setting.sectionName setting.key with
  | none => simp [resolveAbsent_result_eq_ok_iff]
  | some entry =>
    cases entry with
    | bare => simp [resolveBare_result_eq_ok_iff]
    | value text =>
      cases hread : setting.read text with
      | ok read => simp [hread, eq_comm]
      | error cause => simp [hread, resolveRejected_result_eq_ok_iff]

theorem require_result_eq_ok_iff :
    (setting.require settings).result = .ok value ↔ setting.Yields settings value := by
  rw [require, LoadM.result_bind_eq_ok_iff]
  constructor
  · intro hrequire
    obtain ⟨resolved, hresolved, hvalue⟩ := hrequire
    rcases resolve_result_eq_ok_iff.1 hresolved with ⟨read, rfl, hyields⟩ | ⟨rfl, -⟩
    · obtain rfl := Except.ok.inj hvalue
      exact hyields
    · cases hvalue
  · intro hyields
    exact ⟨some value, resolve_result_eq_ok_iff.2 (.inl ⟨value, rfl, hyields⟩), rfl⟩

/-- Where a rejected text is an error, a stored text that led to a value was read as this value. -/
theorem read_of_require {text : Bytes} (hstrict : setting.onReject = .fail)
    (hfind : settings.find? setting.sectionName setting.key = some (.value text))
    (hrequire : (setting.require settings).result = .ok value) : setting.read text = .ok value := by
  rcases require_result_eq_ok_iff.1 hrequire with ⟨found, hfound, hread⟩ | ⟨hsubstitutes, -⟩
  · obtain rfl := Entry.value.inj (Option.some.inj (hfind.symm.trans hfound))
    exact hread
  · rcases hsubstitutes with habsent | ⟨hbare, -⟩ | ⟨-, -, -, -, hlenient⟩
    · cases hfind.symm.trans habsent
    · cases hfind.symm.trans hbare
    · cases hstrict.symm.trans hlenient

/-- A stored text that is read gives its value, and nothing is logged. -/
theorem resolve_of_stored {text : Bytes}
    (hfind : settings.find? setting.sectionName setting.key = some (.value text))
    (hread : setting.read text = .ok value) : setting.resolve settings = pure (some value) := by
  simp only [resolve, hfind, hread]

theorem require_of_stored {text : Bytes}
    (hfind : settings.find? setting.sectionName setting.key = some (.value text))
    (hread : setting.read text = .ok value) : setting.require settings = pure value := by
  rw [require, resolve_of_stored hfind hread, pure_bind]

/-- An absent key leaves a setting unset that no mode demands, and nothing is logged. -/
theorem resolve_of_absent (hfind : settings.find? setting.sectionName setting.key = none)
    (hfallback : setting.fallback = .byMode false) : setting.resolve settings = pure none := by
  simp only [resolve, hfind, resolveAbsent, hfallback]

end RouteMonitor.Setting
