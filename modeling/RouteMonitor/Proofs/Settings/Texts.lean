import RouteMonitor.Proofs.Settings.RoundTrip

/-!
# Settings written from texts

Settings are written as one text under each of some keys; a key without a text is left out. What is
written under distinct keys is found there, and it is well formed if its texts and its names are.
-/

namespace RouteMonitor

/-- The text under each key, or nothing where the key is left out. -/
abbrev Texts := List (Bytes × Option Bytes)

namespace Settings

variable {settings : Settings} {sectionName key : Bytes} {texts : Texts}

/-- The section holds exactly these texts under their keys. -/
def Stores (settings : Settings) (sectionName : Bytes) (texts : Texts) : Prop :=
  ∀ key text?, (key, text?) ∈ texts → settings.find? sectionName key = text?.map Entry.value

def putTexts (sectionName : Bytes) : Texts → Settings → Settings
  | [], settings => settings
  | (key, some text) :: texts, settings =>
    putTexts sectionName texts (settings.put sectionName key (.value text))
  | (_, none) :: texts, settings => putTexts sectionName texts settings

theorem find?_putTexts_of_not_mem (hkey : key ∉ texts.map Prod.fst) (asked : Bytes) :
    (putTexts sectionName texts settings).find? asked key = settings.find? asked key := by
  induction texts generalizing settings with
  | nil => rfl
  | cons head texts ih =>
    obtain ⟨first, text?⟩ := head
    obtain ⟨hfirst, hrest⟩ := not_or.1 (List.mem_cons.not.1 hkey)
    cases text? with
    | none => exact ih hrest
    | some text =>
      rw [putTexts, ih hrest, find?_put, if_neg fun hboth => hfirst hboth.2]

theorem stores_putTexts (hkeys : (texts.map Prod.fst).Nodup)
    (habsent : ∀ key ∈ texts.map Prod.fst, settings.find? sectionName key = none) :
    (putTexts sectionName texts settings).Stores sectionName texts := by
  induction texts generalizing settings with
  | nil => exact fun _ _ hmem => absurd hmem List.not_mem_nil
  | cons head texts ih =>
    obtain ⟨first, text?⟩ := head
    obtain ⟨hfirst, hrest⟩ := List.nodup_cons.1 hkeys
    intro key other hmem
    cases text? with
    | none =>
      rcases List.mem_cons.1 hmem with heq | hmem
      · obtain ⟨rfl, rfl⟩ := Prod.mk.inj heq
        rw [putTexts, find?_putTexts_of_not_mem hfirst]
        exact habsent key List.mem_cons_self
      · exact ih hrest (fun key hkey => habsent key (List.mem_cons_of_mem _ hkey)) key other hmem
    | some text =>
      rcases List.mem_cons.1 hmem with heq | hmem
      · obtain ⟨rfl, rfl⟩ := Prod.mk.inj heq
        -- The key does not come again, so what is put here stays.
        rw [putTexts, find?_putTexts_of_not_mem hfirst, find?_put, if_pos ⟨rfl, rfl⟩]
        rfl
      · refine ih hrest (fun later hlater => ?_) key other hmem
        have hne : later ≠ first := ne_of_mem_of_not_mem hlater hfirst
        rw [find?_put, if_neg fun hboth => hne hboth.2]
        exact habsent later (List.mem_cons_of_mem _ hlater)

theorem hasSection_of_find? {entry : Entry} (hfind : settings.find? sectionName key = some entry) :
    settings.hasSection sectionName = true := by
  obtain ⟨keys, hkeys, -⟩ := Option.bind_eq_some_iff.1 hfind
  rw [hasSection, Table.contains, hkeys]
  rfl

namespace Ini

theorem isValue_of_isUnspaced {text : Bytes} (htext : text.IsUnspaced) : IsValue text :=
  ⟨htext.trim_eq_self, htext.onOneLine⟩

theorem forall_isKey {keys : List Bytes} (hkeys : ∀ key ∈ keys, key ≠ [] ∧ key.IsUnspaced ∧
    byte '=' ∉ key ∧ ∀ first ∈ key.head?, first ≠ byte ';' ∧ first ≠ byte '#' ∧ first ≠ byte '[') :
    ∀ key ∈ keys, IsKey key := by
  intro key hmem
  obtain ⟨hne, hunspaced, hequals, hstarts⟩ := hkeys key hmem
  exact ⟨hne, hunspaced.trim_eq_self, hunspaced.onOneLine, hequals, hstarts⟩

theorem WellFormed.putTexts (hwell : WellFormed settings) (hname : IsSectionName sectionName)
    (hkeys : ∀ key ∈ texts.map Prod.fst, IsKey key)
    (hvalues : ∀ key text, (key, some text) ∈ texts → IsValue text) :
    WellFormed (putTexts sectionName texts settings) := by
  induction texts generalizing settings with
  | nil => exact hwell
  | cons head texts ih =>
    obtain ⟨key, text?⟩ := head
    obtain ⟨hkey, hlater⟩ := List.forall_mem_cons.1 hkeys
    have hrest : ∀ key text, (key, some text) ∈ texts → IsValue text := fun key text hmem =>
      hvalues key text (List.mem_cons_of_mem _ hmem)
    cases text? with
    | none => exact ih hwell hlater hrest
    | some text =>
      refine ih (hwell.put hname hkey fun value hvalue => ?_) hlater hrest
      rw [← Entry.value.inj hvalue]
      exact hvalues key text List.mem_cons_self

end Ini

end Settings

end RouteMonitor
