import RouteMonitor.Settings

/-!
# Merging settings

Settings laid over others keep the sections of both. Within a section the keys of the upper settings
replace those of the lower, by a value or by a bare key, and all other keys stay. Look-ups in a
merge are look-ups in its parts (`find?_merge`), and nothing else is in it, because settings that
answer every look-up alike are equal (`ext_find?`). Opening a section and storing an entry can be
done before the merge or after it.
-/

namespace RouteMonitor

namespace Table

variable {α : Type}

theorem lookup_map_value (change : Bytes → α → α) (entries : List (Bytes × α)) (name : Bytes) :
    (entries.map fun entry => (entry.1, change entry.1 entry.2)).lookup name =
      (entries.lookup name).map (change name) := by
  induction entries with
  | nil => rfl
  | cons entry entries ih =>
    rw [List.map_cons, lookup_cons_eq_if, lookup_cons_eq_if, ih]
    by_cases heq : name = entry.1
    · rw [if_pos heq, if_pos heq, Option.map_some, heq]
    · rw [if_neg heq, if_neg heq]

/-- What a merge holds under a name that the upper table has with this value. -/
def mergedValue (combine : α → α → α) (lower : Table α) (name : Bytes) (value : α) : α :=
  ((lower.get? name).map (combine · value)).getD value

/-- The names of both tables, where the values of a name that both have are combined. -/
def mergeWith (combine : α → α → α) (lower upper : Table α) : Table α :=
  (upper.toList.map fun entry => (entry.1, mergedValue combine lower entry.1 entry.2)).foldl
    (fun merged entry => merged.insert entry.1 entry.2) lower

theorem get?_mergeWith (combine : α → α → α) (lower upper : Table α) (name : Bytes) :
    (lower.mergeWith combine upper).get? name =
      Option.merge combine (lower.get? name) (upper.get? name) := by
  have hsorted : (upper.toList.map fun entry =>
      (entry.1, mergedValue combine lower entry.1 entry.2)).Pairwise
        fun left right => left.1 < right.1 := List.pairwise_map.2 upper.sorted
  rw [mergeWith, get?_foldl_insert hsorted, lookup_map_value (mergedValue combine lower), ← get?]
  unfold mergedValue
  cases lower.get? name <;> cases upper.get? name <;> rfl

end Table

namespace Settings

theorem ext_find? {left right : Settings}
    (hsection : ∀ sectionName, left.hasSection sectionName = right.hasSection sectionName)
    (hfind : ∀ sectionName key, left.find? sectionName key = right.find? sectionName key) :
    left = right := by
  have hsections : left.sections = right.sections := by
    apply Table.ext_get?
    intro sectionName
    have hname := hsection sectionName
    have hkeys := hfind sectionName
    simp only [hasSection, Table.contains, find?] at hname hkeys
    cases hleft : left.sections.get? sectionName with
    | none =>
      rw [hleft, Option.isSome_none, eq_comm, Option.isSome_eq_false_iff,
        Option.isNone_iff_eq_none] at hname
      exact hname.symm
    | some keys =>
      rw [hleft, Option.isSome_some] at hname
      obtain ⟨others, hothers⟩ := Option.isSome_iff_exists.1 hname.symm
      have hsame : keys = others :=
        Table.ext_get? fun key => by simpa [hleft, hothers] using hkeys key
      rw [hothers, hsame]
  cases left
  cases right
  simpa using hsections

/-- The lower settings with the upper ones laid over them. -/
def merge (lower upper : Settings) : Settings :=
  ⟨lower.sections.mergeWith (Table.mergeWith fun _ entry => entry) upper.sections⟩

variable (lower upper : Settings)

@[simp] theorem hasSection_merge (sectionName : Bytes) :
    (lower.merge upper).hasSection sectionName =
      (lower.hasSection sectionName || upper.hasSection sectionName) := by
  simp only [hasSection, Table.contains, merge, Table.get?_mergeWith]
  cases lower.sections.get? sectionName <;> cases upper.sections.get? sectionName <;> rfl

@[simp] theorem find?_merge (sectionName key : Bytes) :
    (lower.merge upper).find? sectionName key =
      (upper.find? sectionName key).or (lower.find? sectionName key) := by
  simp only [find?, merge, Table.get?_mergeWith]
  cases lower.sections.get? sectionName with
  | none => cases upper.sections.get? sectionName <;> simp
  | some keys =>
    cases upper.sections.get? sectionName with
    | none => simp
    | some others =>
      simp only [Option.merge_some_some, Option.bind_some, Table.get?_mergeWith]
      cases keys.get? key <;> cases others.get? key <;> rfl

@[simp] theorem merge_empty : lower.merge .empty = lower := by
  apply ext_find?
  · simp
  · simp

theorem merge_openSection (sectionName : Bytes) :
    lower.merge (upper.openSection sectionName) = (lower.merge upper).openSection sectionName := by
  apply ext_find?
  · intro asked
    simp only [hasSection_merge, hasSection_openSection, Bool.or_left_comm]
  · simp

theorem merge_put (sectionName key : Bytes) (entry : Entry) :
    lower.merge (upper.put sectionName key entry) =
      (lower.merge upper).put sectionName key entry := by
  apply ext_find?
  · intro asked
    simp only [hasSection_merge, hasSection_put, Bool.or_left_comm]
  · intro askedSection askedKey
    simp only [find?_merge, find?_put]
    split <;> rfl

end Settings

end RouteMonitor
