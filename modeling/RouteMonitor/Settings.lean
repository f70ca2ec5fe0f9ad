import RouteMonitor.Table

/-!
# Settings

Settings are named sections of named keys. A key that is present may carry a value or stand bare,
and an empty value is a value, so each look-up tells three cases apart: absent, bare, and a text.
-/

namespace RouteMonitor

inductive Entry
  | bare
  | value (text : Bytes)
deriving DecidableEq

def Entry.text? : Entry → Option Bytes
  | .bare => none
  | .value text => some text

structure Settings where
  sections : Table (Table Entry)
deriving DecidableEq

namespace Settings

def empty : Settings := ⟨.empty⟩

def hasSection (settings : Settings) (sectionName : Bytes) : Bool :=
  settings.sections.contains sectionName

def find? (settings : Settings) (sectionName key : Bytes) : Option Entry :=
  (settings.sections.get? sectionName).bind fun keys => keys.get? key

def has (settings : Settings) (sectionName key : Bytes) : Bool :=
  (settings.find? sectionName key).isSome

def get? (settings : Settings) (sectionName key : Bytes) : Option Bytes :=
  (settings.find? sectionName key).bind Entry.text?

def keysOf (settings : Settings) (sectionName : Bytes) : Table Entry :=
  (settings.sections.get? sectionName).getD .empty

/-- A section that exists keeps its keys. -/
def openSection (settings : Settings) (sectionName : Bytes) : Settings :=
  ⟨settings.sections.insert sectionName (settings.keysOf sectionName)⟩

def put (settings : Settings) (sectionName key : Bytes) (entry : Entry) : Settings :=
  ⟨settings.sections.insert sectionName ((settings.keysOf sectionName).insert key entry)⟩

@[simp] theorem hasSection_empty (sectionName : Bytes) : empty.hasSection sectionName = false := rfl

@[simp] theorem find?_empty (sectionName key : Bytes) : empty.find? sectionName key = none := rfl

theorem hasSection_of_mem {settings : Settings} {sectionName : Bytes} {keys : Table Entry}
    (hkeys : (sectionName, keys) ∈ settings.sections.toList) :
    settings.hasSection sectionName = true := by
  rw [hasSection, Table.contains, Table.get?_eq_some_iff.2 hkeys]
  rfl

theorem find?_of_mem {settings : Settings} {sectionName key : Bytes} {keys : Table Entry}
    {entry : Entry} (hkeys : (sectionName, keys) ∈ settings.sections.toList)
    (hentry : (key, entry) ∈ keys.toList) : settings.find? sectionName key = some entry := by
  rw [find?, Table.get?_eq_some_iff.2 hkeys, Option.bind_some]
  exact Table.get?_eq_some_iff.2 hentry

theorem get?_eq_some_iff {settings : Settings} {sectionName key text : Bytes} :
    settings.get? sectionName key = some text ↔
      settings.find? sectionName key = some (.value text) := by
  cases hfind : settings.find? sectionName key with
  | none => simp [get?, hfind]
  | some entry => cases entry <;> simp [get?, hfind, Entry.text?]

theorem get?_eq_none_iff {settings : Settings} {sectionName key : Bytes} :
    settings.get? sectionName key = none ↔
      settings.has sectionName key = false ∨ settings.find? sectionName key = some .bare := by
  cases hfind : settings.find? sectionName key with
  | none => simp [get?, has, hfind]
  | some entry => cases entry <;> simp [get?, has, hfind, Entry.text?]

theorem get?_keysOf (settings : Settings) (sectionName key : Bytes) :
    (settings.keysOf sectionName).get? key = settings.find? sectionName key := by
  rw [keysOf, find?]
  cases settings.sections.get? sectionName <;> rfl

theorem hasSection_openSection (settings : Settings) (sectionName asked : Bytes) :
    (settings.openSection sectionName).hasSection asked =
      (decide (asked = sectionName) || settings.hasSection asked) := by
  rw [openSection, hasSection, Table.contains, Table.get?_insert]
  split <;> simp_all [hasSection, Table.contains]

theorem hasSection_put (settings : Settings) (sectionName key asked : Bytes) (entry : Entry) :
    (settings.put sectionName key entry).hasSection asked =
      (decide (asked = sectionName) || settings.hasSection asked) := by
  rw [put, hasSection, Table.contains, Table.get?_insert]
  split <;> simp_all [hasSection, Table.contains]

@[simp] theorem find?_openSection (settings : Settings)
    (sectionName askedSection askedKey : Bytes) :
    (settings.openSection sectionName).find? askedSection askedKey =
      settings.find? askedSection askedKey := by
  rw [openSection, find?, Table.get?_insert]
  split
  · rename_i heq
    rw [Option.bind_some, get?_keysOf, heq]
  · rfl

theorem find?_put (settings : Settings) (sectionName key askedSection askedKey : Bytes)
    (entry : Entry) :
    (settings.put sectionName key entry).find? askedSection askedKey =
      if askedSection = sectionName ∧ askedKey = key then some entry
      else settings.find? askedSection askedKey := by
  rw [put, find?, Table.get?_insert]
  by_cases hsection : askedSection = sectionName
  · rw [if_pos hsection, Option.bind_some, Table.get?_insert, get?_keysOf, hsection]
    simp
  · rw [if_neg hsection, if_neg fun hboth => hsection hboth.1]
    rfl

end Settings

end RouteMonitor
