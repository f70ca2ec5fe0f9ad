import RouteMonitor.Bytes

/-!
# Finite tables

A table maps names to values. It is held as a list of entries whose names strictly increase in byte
order, so the order of its list is the order in which it is shown, and two tables are equal exactly
when every look-up agrees (`ext_get?`). Inserting replaces the value of a name that is already
there.
-/

namespace RouteMonitor

structure Table (α : Type) where
  toList : List (Bytes × α)
  sorted : toList.Pairwise (fun left right => left.1 < right.1)

namespace Table

variable {α : Type}

instance [DecidableEq α] : DecidableEq (Table α) := fun left right =>
  decidable_of_iff (left.toList = right.toList) <| by cases left; cases right; simp

def empty : Table α := ⟨[], .nil⟩

def size (table : Table α) : Nat := table.toList.length

def get? (table : Table α) (name : Bytes) : Option α := table.toList.lookup name

def contains (table : Table α) (name : Bytes) : Bool := (table.get? name).isSome

/-- Puts an entry in its place before the first greater name. -/
def insertEntry (name : Bytes) (value : α) : List (Bytes × α) → List (Bytes × α)
  | [] => [(name, value)]
  | entry :: entries =>
    if name < entry.1 then (name, value) :: entry :: entries
    else if name = entry.1 then (name, value) :: entries
    else entry :: insertEntry name value entries

theorem mem_insertEntry {name : Bytes} {value : α} {entries : List (Bytes × α)}
    {entry : Bytes × α} (hmem : entry ∈ insertEntry name value entries) :
    entry = (name, value) ∨ entry ∈ entries := by
  induction entries with
  | nil => simpa [insertEntry] using hmem
  | cons head tail ih =>
    rw [insertEntry] at hmem
    split at hmem
    · simpa using hmem
    · split at hmem <;> grind

theorem sorted_insertEntry (name : Bytes) (value : α) {entries : List (Bytes × α)}
    (hsorted : entries.Pairwise fun left right => left.1 < right.1) :
    (insertEntry name value entries).Pairwise fun left right => left.1 < right.1 := by
  induction entries with
  | nil => simp [insertEntry]
  | cons head tail ih =>
    obtain ⟨hhead, htail⟩ := List.pairwise_cons.1 hsorted
    rw [insertEntry]
    split
    · rename_i hlt
      refine List.pairwise_cons.2 ⟨fun entry hentry => ?_, hsorted⟩
      rcases List.mem_cons.1 hentry with rfl | hentry
      · exact hlt
      · exact List.lt_trans hlt (hhead entry hentry)
    · split
      · rename_i heq
        exact List.pairwise_cons.2 ⟨fun entry hentry => heq ▸ hhead entry hentry, htail⟩
      · rename_i hnot hne
        refine List.pairwise_cons.2 ⟨fun entry hentry => ?_, ih htail⟩
        rcases mem_insertEntry hentry with rfl | hentry
        · exact Std.lt_of_le_of_ne hnot (Ne.symm hne)
        · exact hhead entry hentry

def insert (table : Table α) (name : Bytes) (value : α) : Table α :=
  ⟨insertEntry name value table.toList, sorted_insertEntry name value table.sorted⟩

/-- Of several values for one name, the last stands. -/
def ofList (entries : List (Bytes × α)) : Table α :=
  entries.foldl (fun table entry => table.insert entry.1 entry.2) empty

@[simp] theorem get?_empty (name : Bytes) : (empty : Table α).get? name = none := rfl

theorem lookup_cons_eq_if (entry : Bytes × α) (entries : List (Bytes × α)) (asked : Bytes) :
    (entry :: entries).lookup asked =
      if asked = entry.1 then some entry.2 else entries.lookup asked := by
  by_cases heq : asked = entry.1
  · rw [List.lookup_cons, if_pos heq, heq, beq_self_eq_true]
  · rw [List.lookup_cons, if_neg heq, beq_false_of_ne heq]

theorem lookup_insertEntry (name : Bytes) (value : α) (entries : List (Bytes × α))
    (asked : Bytes) :
    (insertEntry name value entries).lookup asked =
      if asked = name then some value else entries.lookup asked := by
  induction entries with
  | nil => rw [insertEntry, lookup_cons_eq_if]
  | cons head tail ih =>
    rw [insertEntry]
    split
    · rw [lookup_cons_eq_if]
    · split
      · rename_i heq
        rw [lookup_cons_eq_if, lookup_cons_eq_if, heq]
        split <;> rfl
      · rename_i hne
        rw [lookup_cons_eq_if, ih, lookup_cons_eq_if]
        grind

@[simp] theorem get?_insert (table : Table α) (name : Bytes) (value : α) (asked : Bytes) :
    (table.insert name value).get? asked = if asked = name then some value else table.get? asked :=
  lookup_insertEntry name value table.toList asked

theorem lookup_eq_some_of_mem {entries : List (Bytes × α)} {entry : Bytes × α}
    (hsorted : entries.Pairwise fun left right => left.1 < right.1) (hmem : entry ∈ entries) :
    entries.lookup entry.1 = some entry.2 := by
  induction entries with
  | nil => simp at hmem
  | cons head tail ih =>
    obtain ⟨hhead, htail⟩ := List.pairwise_cons.1 hsorted
    rw [lookup_cons_eq_if]
    rcases List.mem_cons.1 hmem with rfl | hmem
    · simp
    · rw [if_neg, ih htail hmem]
      exact fun heq => List.lt_irrefl _ (heq ▸ hhead entry hmem)

theorem mem_of_lookup_eq_some {entries : List (Bytes × α)} {name : Bytes} {value : α}
    (hlookup : entries.lookup name = some value) : (name, value) ∈ entries := by
  induction entries with
  | nil => simp at hlookup
  | cons head tail ih =>
    rw [lookup_cons_eq_if] at hlookup
    split at hlookup
    · rename_i heq
      obtain rfl := Option.some.inj hlookup
      simp [heq]
    · exact List.mem_cons_of_mem _ (ih hlookup)

theorem get?_eq_some_iff {table : Table α} {name : Bytes} {value : α} :
    table.get? name = some value ↔ (name, value) ∈ table.toList :=
  ⟨mem_of_lookup_eq_some, lookup_eq_some_of_mem table.sorted⟩

theorem eq_of_sorted_of_mem_iff {left right : List (Bytes × α)}
    (hleft : left.Pairwise fun left right => left.1 < right.1)
    (hright : right.Pairwise fun left right => left.1 < right.1)
    (hmem : ∀ entry, entry ∈ left ↔ entry ∈ right) : left = right := by
  induction left generalizing right with
  | nil =>
    cases right with
    | nil => rfl
    | cons head tail => exact absurd ((hmem head).2 List.mem_cons_self) List.not_mem_nil
  | cons leftHead leftTail ih =>
    cases right with
    | nil => exact absurd ((hmem leftHead).1 List.mem_cons_self) List.not_mem_nil
    | cons rightHead rightTail =>
      obtain ⟨hleftHead, hleftTail⟩ := List.pairwise_cons.1 hleft
      obtain ⟨hrightHead, hrightTail⟩ := List.pairwise_cons.1 hright
      have hhead : leftHead = rightHead := by
        rcases List.mem_cons.1 ((hmem leftHead).1 List.mem_cons_self) with heq | hin
        · exact heq
        · rcases List.mem_cons.1 ((hmem rightHead).2 List.mem_cons_self) with heq | hin'
          · exact heq.symm
          · exact absurd (hrightHead _ hin) (List.lt_asymm (hleftHead _ hin'))
      subst hhead
      rw [ih hleftTail hrightTail fun entry => ?_]
      constructor
      · intro hin
        rcases List.mem_cons.1 ((hmem entry).1 (List.mem_cons_of_mem _ hin)) with rfl | hin'
        · exact absurd (hleftHead _ hin) (List.lt_irrefl _)
        · exact hin'
      · intro hin
        rcases List.mem_cons.1 ((hmem entry).2 (List.mem_cons_of_mem _ hin)) with rfl | hin'
        · exact absurd (hrightHead _ hin) (List.lt_irrefl _)
        · exact hin'

theorem ext_get? {left right : Table α} (hget : ∀ name, left.get? name = right.get? name) :
    left = right := by
  have hlist : left.toList = right.toList :=
    eq_of_sorted_of_mem_iff left.sorted right.sorted fun (name, value) => by
      rw [← get?_eq_some_iff, ← get?_eq_some_iff, hget]
  cases left
  cases right
  simpa using hlist

/-! ## Inserting a sorted list -/

theorem lookup_eq_none_of_forall_lt {entries : List (Bytes × α)} {name : Bytes}
    (hlt : ∀ entry ∈ entries, name < entry.1) : entries.lookup name = none := by
  cases hlookup : entries.lookup name with
  | none => rfl
  | some value => exact absurd (hlt _ (mem_of_lookup_eq_some hlookup)) (List.lt_irrefl _)

theorem get?_foldl_insert {entries : List (Bytes × α)}
    (hsorted : entries.Pairwise fun left right => left.1 < right.1) (table : Table α)
    (name : Bytes) :
    (entries.foldl (fun table entry => table.insert entry.1 entry.2) table).get? name =
      (entries.lookup name).or (table.get? name) := by
  induction entries generalizing table with
  | nil => rfl
  | cons head tail ih =>
    obtain ⟨hhead, htail⟩ := List.pairwise_cons.1 hsorted
    rw [List.foldl_cons, ih htail, get?_insert, lookup_cons_eq_if]
    by_cases heq : name = head.1
    · rw [if_pos heq, if_pos heq, heq, lookup_eq_none_of_forall_lt hhead]
      rfl
    · rw [if_neg heq, if_neg heq]

@[simp] theorem ofList_toList (table : Table α) : ofList table.toList = table := by
  apply ext_get?
  intro name
  rw [ofList, get?_foldl_insert table.sorted, get?_empty, Option.or_none]
  rfl

theorem insert_insert (table : Table α) (name : Bytes) (first second : α) :
    (table.insert name first).insert name second = table.insert name second := by
  apply ext_get?
  intro asked
  rw [get?_insert, get?_insert, get?_insert]
  split <;> rfl

end Table

end RouteMonitor
