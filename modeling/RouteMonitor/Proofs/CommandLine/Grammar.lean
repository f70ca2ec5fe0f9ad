import RouteMonitor.CommandLine.Options

/-!
# The grammar of the command line

Arguments are good if they spell a sequence of items, one after the other, and the items they spell
are then known: nothing else is told from them. A word in the place of a value is that value, even
if it looks like an option. The options that result need no scan, for each is the value of the last
item of its kind or its default.
-/

namespace RouteMonitor.CommandLine

/-- The arguments are the items in order. -/
inductive Spells : List Bytes → List Item → Prop
  | nil : Spells [] []
  | check {arguments : List Bytes} {items : List Item} : Spells arguments items →
    Spells (utf8 "--check" :: arguments) (.check :: items)
  | help {flag : Bytes} {arguments : List Bytes} {items : List Item} :
    flag = utf8 "-h" ∨ flag = utf8 "--help" → Spells arguments items →
    Spells (flag :: arguments) (.help :: items)
  | config {flag path : Bytes} {arguments : List Bytes} {items : List Item} :
    flag = utf8 "-c" ∨ flag = utf8 "--config" → Spells arguments items →
    Spells (flag :: path :: arguments) (.config path :: items)
  | logLevel {flag name : Bytes} {arguments : List Bytes} {items : List Item} :
    flag = utf8 "-l" ∨ flag = utf8 "--log-level" → Spells arguments items →
    Spells (flag :: name :: arguments) (.logLevel name :: items)

variable {argument value : Bytes} {arguments : List Bytes} {item : Item} {items : List Item}

/-! ### One item -/

theorem Item.ofFlag?_eq_some_iff : Item.ofFlag? argument = some item ↔
    argument = utf8 "--check" ∧ item = .check ∨
      (argument = utf8 "-h" ∨ argument = utf8 "--help") ∧ item = .help := by
  constructor
  · intro hflag
    unfold Item.ofFlag? at hflag
    split at hflag
    · rename_i hcheck
      exact .inl ⟨hcheck, (Option.some.inj hflag).symm⟩
    · split at hflag
      · rename_i hhelp
        exact .inr ⟨hhelp, (Option.some.inj hflag).symm⟩
      · cases hflag
  · intro hflag
    rcases hflag with ⟨rfl, rfl⟩ | ⟨rfl | rfl, rfl⟩ <;> rfl

theorem Item.ofOption?_eq_some_iff : Item.ofOption? argument value = some item ↔
    (argument = utf8 "-c" ∨ argument = utf8 "--config") ∧ item = .config value ∨
      (argument = utf8 "-l" ∨ argument = utf8 "--log-level") ∧ item = .logLevel value := by
  constructor
  · intro hoption
    unfold Item.ofOption? at hoption
    split at hoption
    · rename_i hconfig
      exact .inl ⟨hconfig, (Option.some.inj hoption).symm⟩
    · split at hoption
      · rename_i hlevel
        exact .inr ⟨hlevel, (Option.some.inj hoption).symm⟩
      · cases hoption
  · intro hoption
    rcases hoption with ⟨rfl | rfl, rfl⟩ | ⟨rfl | rfl, rfl⟩ <;> rfl

/-- No word is both a flag and an option. -/
theorem Item.ofFlag?_eq_none_of_ofOption? (hoption : Item.ofOption? argument value = some item) :
    Item.ofFlag? argument = none := by
  rcases Item.ofOption?_eq_some_iff.1 hoption with ⟨rfl | rfl, -⟩ | ⟨rfl | rfl, -⟩ <;> rfl

/-! ### All items -/

theorem Spells.of_ofFlag? (hflag : Item.ofFlag? argument = some item)
    (hspells : Spells arguments items) : Spells (argument :: arguments) (item :: items) := by
  rcases Item.ofFlag?_eq_some_iff.1 hflag with ⟨rfl, rfl⟩ | ⟨hhelp, rfl⟩
  · exact hspells.check
  · exact hspells.help hhelp

theorem Spells.of_ofOption? (hoption : Item.ofOption? argument value = some item)
    (hspells : Spells arguments items) :
    Spells (argument :: value :: arguments) (item :: items) := by
  rcases Item.ofOption?_eq_some_iff.1 hoption with ⟨hconfig, rfl⟩ | ⟨hlevel, rfl⟩
  · exact hspells.config hconfig
  · exact hspells.logLevel hlevel

theorem Item.readAll_cons_of_ofFlag? (hflag : Item.ofFlag? argument = some item) :
    Item.readAll (argument :: arguments) = (Item.readAll arguments).map (item :: ·) := by
  rw [Item.readAll.eq_def]
  simp only [hflag]

theorem Item.readAll_cons_cons_of_ofOption? (hoption : Item.ofOption? argument value = some item) :
    Item.readAll (argument :: value :: arguments) = (Item.readAll arguments).map (item :: ·) := by
  simp only [Item.readAll, Item.ofFlag?_eq_none_of_ofOption? hoption, hoption]

theorem spells_of_readAll (hread : Item.readAll arguments = some items) :
    Spells arguments items := by
  fun_induction Item.readAll arguments generalizing items with
  | case1 =>
    obtain rfl := Option.some.inj hread
    exact .nil
  | case2 argument rest item hflag ih =>
    obtain ⟨others, hothers, rfl⟩ := Option.map_eq_some_iff.1 hread
    exact (ih hothers).of_ofFlag? hflag
  | case3 => cases hread
  | case4 argument hflag value rest item hoption ih =>
    obtain ⟨others, hothers, rfl⟩ := Option.map_eq_some_iff.1 hread
    exact (ih hothers).of_ofOption? hoption
  | case5 => cases hread

theorem readAll_eq_some_iff : Item.readAll arguments = some items ↔ Spells arguments items := by
  refine ⟨spells_of_readAll, fun hspells => ?_⟩
  induction hspells with
  | nil => rfl
  | check _ ih =>
    have hitem := Item.ofFlag?_eq_some_iff.2 (.inl ⟨rfl, rfl⟩)
    rw [Item.readAll_cons_of_ofFlag? hitem, ih, Option.map_some]
  | help hflag _ ih =>
    have hitem := Item.ofFlag?_eq_some_iff.2 (.inr ⟨hflag, rfl⟩)
    rw [Item.readAll_cons_of_ofFlag? hitem, ih, Option.map_some]
  | @config flag path _ _ hflag _ ih =>
    have hitem : Item.ofOption? flag path = some (.config path) :=
      Item.ofOption?_eq_some_iff.2 (.inl ⟨hflag, rfl⟩)
    rw [Item.readAll_cons_cons_of_ofOption? hitem, ih, Option.map_some]
  | @logLevel flag name _ _ hflag _ ih =>
    have hitem : Item.ofOption? flag name = some (.logLevel name) :=
      Item.ofOption?_eq_some_iff.2 (.inr ⟨hflag, rfl⟩)
    rw [Item.readAll_cons_cons_of_ofOption? hitem, ih, Option.map_some]

/-! ### The options -/

def Item.path? : Item → Option Bytes
  | .config path => some path
  | _ => none

def Item.levelName? : Item → Option Bytes
  | .logLevel name => some name
  | _ => none

def Options.ofItems (items : List Item) : Options where
  config := (items.filterMap Item.path?).getLast?.getD (utf8 "bgpexplorer.ini")
  logLevel := (items.filterMap Item.levelName?).getLast?.getD (utf8 "info")
  checkOnly := decide (.check ∈ items)
  help := decide (.help ∈ items)

theorem Options.foldl_apply (items : List Item) (options : Options) :
    items.foldl Options.apply options =
      { config := (items.filterMap Item.path?).getLast?.getD options.config
        logLevel := (items.filterMap Item.levelName?).getLast?.getD options.logLevel
        checkOnly := options.checkOnly || decide (.check ∈ items)
        help := options.help || decide (.help ∈ items) } := by
  induction items generalizing options with
  | nil => simp
  | cons item items ih =>
    rw [List.foldl_cons, ih]
    cases item <;> simp [Options.apply, Item.path?, Item.levelName?, List.getLast?_cons]

theorem Options.read?_of_spells (hspells : Spells arguments items) :
    Options.read? arguments = some (Options.ofItems items) := by
  rw [Options.read?, readAll_eq_some_iff.2 hspells, Option.map_some, Options.foldl_apply]
  rfl

theorem Options.read?_eq_none (hnone : ∀ items, ¬Spells arguments items) :
    Options.read? arguments = none := by
  rw [Options.read?, Option.map_eq_none_iff, Option.eq_none_iff_forall_ne_some]
  intro items hread
  exact hnone items (readAll_eq_some_iff.1 hread)

/-! ### Checks left out -/

theorem filterMap_filter_check {α : Type} {field : Item → Option α} (hcheck : field .check = none)
    (items : List Item) : (items.filter (· ≠ .check)).filterMap field = items.filterMap field := by
  rw [List.filterMap_filter]
  congr 1
  funext item
  by_cases hitem : item = .check
  · simp [hitem, hcheck]
  · simp [hitem]

/-- The options are the same, but for what a check asks for. -/
structure DiffersInCheck (options other : Options) : Prop where
  config : options.config = other.config
  logLevel : options.logLevel = other.logLevel
  help : options.help = other.help

theorem differsInCheck_of_filter {items otherItems : List Item}
    (hitems : items.filter (· ≠ .check) = otherItems.filter (· ≠ .check)) :
    DiffersInCheck (Options.ofItems items) (Options.ofItems otherItems) where
  config := by
    simp only [Options.ofItems]
    rw [← filterMap_filter_check rfl items, hitems, filterMap_filter_check rfl]
  logLevel := by
    simp only [Options.ofItems]
    rw [← filterMap_filter_check rfl items, hitems, filterMap_filter_check rfl]
  help := by
    have hmem : .help ∈ items.filter (· ≠ .check) ↔ .help ∈ otherItems.filter (· ≠ .check) := by
      rw [hitems]
    simpa [Options.ofItems] using hmem

end RouteMonitor.CommandLine
