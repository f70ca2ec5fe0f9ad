import Mathlib.Data.List.Forall2
import Mathlib.Logic.Relation
import RouteMonitor.Proofs.CommandLine.Grammar

/-!
# Arguments as items

Arguments are accepted exactly if they can be cut into the words of items, and there is at most one
way to cut them, since the first word of an item tells how many words it has. This makes the
options a function of the items: those of more arguments are laid over those that came before, and
items of different kinds may change places, because each kind sets a field of its own.
-/

namespace RouteMonitor.CommandLine

/-- The words of one item. Only the first is fixed; a value is any word. -/
inductive Item.IsSpelledBy : Item → List Bytes → Prop
  | check : IsSpelledBy .check [utf8 "--check"]
  | help {flag : Bytes} : flag = utf8 "-h" ∨ flag = utf8 "--help" → IsSpelledBy .help [flag]
  | config {flag path : Bytes} : flag = utf8 "-c" ∨ flag = utf8 "--config" →
    IsSpelledBy (.config path) [flag, path]
  | logLevel {flag name : Bytes} : flag = utf8 "-l" ∨ flag = utf8 "--log-level" →
    IsSpelledBy (.logLevel name) [flag, name]

/-- The arguments, cut into the words of items. -/
structure Decomposes (arguments : List Bytes) (items : List Item) (pieces : List (List Bytes)) :
    Prop where
  flatten_eq : pieces.flatten = arguments
  spelled : List.Forall₂ Item.IsSpelledBy items pieces

variable {arguments front back words : List Bytes} {item : Item} {items : List Item}
  {pieces : List (List Bytes)}

/-! ### The only decomposition -/

theorem Item.IsSpelledBy.spells (hitem : item.IsSpelledBy words) (hrest : Spells back items) :
    Spells (words ++ back) (item :: items) := by
  cases hitem with
  | check => exact hrest.check
  | help hflag => exact hrest.help hflag
  | config hflag => exact hrest.config hflag
  | logLevel hflag => exact hrest.logLevel hflag

theorem Decomposes.spells (hdecomposes : Decomposes arguments items pieces) :
    Spells arguments items := by
  obtain ⟨rfl, hspelled⟩ := hdecomposes
  induction hspelled with
  | nil => exact .nil
  | cons hitem _ ih => exact hitem.spells ih

theorem Decomposes.cons (hitem : item.IsSpelledBy words) (hrest : Decomposes back items pieces) :
    Decomposes (words ++ back) (item :: items) (words :: pieces) where
  flatten_eq := by rw [List.flatten_cons, hrest.flatten_eq]
  spelled := .cons hitem hrest.spelled

theorem Spells.exists_decomposes (hspells : Spells arguments items) :
    ∃ pieces, Decomposes arguments items pieces := by
  induction hspells with
  | nil => exact ⟨[], rfl, .nil⟩
  | check _ ih =>
    obtain ⟨pieces, hpieces⟩ := ih
    exact ⟨_, hpieces.cons .check⟩
  | help hflag _ ih =>
    obtain ⟨pieces, hpieces⟩ := ih
    exact ⟨_, hpieces.cons (.help hflag)⟩
  | config hflag _ ih =>
    obtain ⟨pieces, hpieces⟩ := ih
    exact ⟨_, hpieces.cons (.config hflag)⟩
  | logLevel hflag _ ih =>
    obtain ⟨pieces, hpieces⟩ := ih
    exact ⟨_, hpieces.cons (.logLevel hflag)⟩

/-- How many words an item has does not depend on their spelling. -/
theorem Item.IsSpelledBy.length_eq {others : List Bytes} (hwords : item.IsSpelledBy words)
    (hothers : item.IsSpelledBy others) : words.length = others.length := by
  cases hwords <;> cases hothers <;> rfl

theorem Spells.unique {others : List Item} (hspells : Spells arguments items)
    (hother : Spells arguments others) : items = others :=
  Option.some.inj <| (readAll_eq_some_iff.2 hspells).symm.trans (readAll_eq_some_iff.2 hother)

theorem pieces_unique {others : List (List Bytes)}
    (hpieces : List.Forall₂ Item.IsSpelledBy items pieces)
    (hothers : List.Forall₂ Item.IsSpelledBy items others)
    (hflatten : pieces.flatten = others.flatten) : pieces = others := by
  induction hpieces generalizing others with
  | nil =>
    cases hothers
    rfl
  | cons hitem _ ih =>
    cases hothers with
    | cons hother hrest =>
      rw [List.flatten_cons, List.flatten_cons] at hflatten
      obtain ⟨rfl, htail⟩ := List.append_inj hflatten (hitem.length_eq hother)
      rw [ih hrest htail]

theorem Decomposes.unique {others : List Item} {otherPieces : List (List Bytes)}
    (hdecomposes : Decomposes arguments items pieces)
    (hother : Decomposes arguments others otherPieces) :
    items = others ∧ pieces = otherPieces := by
  obtain rfl := hdecomposes.spells.unique hother.spells
  have hflatten := hdecomposes.flatten_eq.trans hother.flatten_eq.symm
  exact ⟨rfl, pieces_unique hdecomposes.spelled hother.spelled hflatten⟩

theorem exists_read?_iff :
    (∃ options, Options.read? arguments = some options) ↔
      ∃ items pieces, Decomposes arguments items pieces := by
  constructor
  · intro hread
    obtain ⟨options, hoptions⟩ := hread
    obtain ⟨items, hitems, -⟩ := Option.map_eq_some_iff.1 hoptions
    exact ⟨items, (readAll_eq_some_iff.1 hitems).exists_decomposes⟩
  · intro hdecomposes
    obtain ⟨items, pieces, hpieces⟩ := hdecomposes
    exact ⟨_, Options.read?_of_spells hpieces.spells⟩

/-! ### More arguments -/

theorem Item.IsSpelledBy.readAll_append (hitem : item.IsSpelledBy words) (back : List Bytes) :
    Item.readAll (words ++ back) = (Item.readAll back).map (item :: ·) := by
  cases hitem with
  | check => exact Item.readAll_cons_of_ofFlag? (Item.ofFlag?_eq_some_iff.2 (.inl ⟨rfl, rfl⟩))
  | help hflag =>
    exact Item.readAll_cons_of_ofFlag? (Item.ofFlag?_eq_some_iff.2 (.inr ⟨hflag, rfl⟩))
  | config hflag =>
    exact Item.readAll_cons_cons_of_ofOption? (Item.ofOption?_eq_some_iff.2 (.inl ⟨hflag, rfl⟩))
  | logLevel hflag =>
    exact Item.readAll_cons_cons_of_ofOption? (Item.ofOption?_eq_some_iff.2 (.inr ⟨hflag, rfl⟩))

/-- Items are read one after the other, whatever follows them. -/
theorem Decomposes.readAll_append (hfront : Decomposes front items pieces) (back : List Bytes) :
    Item.readAll (front ++ back) = (Item.readAll back).map (items ++ ·) := by
  obtain ⟨rfl, hspelled⟩ := hfront
  induction hspelled with
  | nil => simp
  | cons hitem _ ih =>
    rw [List.flatten_cons, List.append_assoc, hitem.readAll_append, ih, Option.map_map]
    rfl

/-- The options with those that the items set laid over them. -/
def Options.overlay (options : Options) (items : List Item) : Options where
  config := (items.filterMap Item.path?).getLast?.getD options.config
  logLevel := (items.filterMap Item.levelName?).getLast?.getD options.logLevel
  checkOnly := options.checkOnly || decide (.check ∈ items)
  help := options.help || decide (.help ∈ items)

theorem Options.read?_append {options : Options} (hfront : Options.read? front = some options)
    (hback : Spells back items) :
    Options.read? (front ++ back) = some (options.overlay items) := by
  obtain ⟨frontItems, hitems, rfl⟩ := Option.map_eq_some_iff.1 hfront
  obtain ⟨pieces, hpieces⟩ := (readAll_eq_some_iff.1 hitems).exists_decomposes
  rw [Options.read?, hpieces.readAll_append, readAll_eq_some_iff.2 hback, Option.map_some,
    Option.map_some, List.foldl_append, Options.foldl_apply items]
  rfl

/-! ### Items in another order -/

/-- What an item sets. -/
inductive Kind
  | config
  | logLevel
  | check
  | help

def Item.kind : Item → Kind
  | .config _ => .config
  | .logLevel _ => .logLevel
  | .check => .check
  | .help => .help

/-- Two neighbours of different kinds have changed places. -/
inductive Exchange : List Bytes → List Bytes → Prop
  | swap {before first second after : List Bytes} {items : List Item}
    {pieces : List (List Bytes)} {firstItem secondItem : Item} :
    Decomposes before items pieces → firstItem.IsSpelledBy first →
    secondItem.IsSpelledBy second → firstItem.kind ≠ secondItem.kind →
    Exchange (before ++ (first ++ (second ++ after))) (before ++ (second ++ (first ++ after)))

theorem Options.apply_comm {first second : Item} (hkind : first.kind ≠ second.kind)
    (options : Options) :
    (options.apply first).apply second = (options.apply second).apply first := by
  cases first <;> cases second <;> first | rfl | exact absurd rfl hkind

/-- What stands behind the two items need not be accepted; it is refused in either order. -/
theorem Exchange.read?_eq {other : List Bytes} (hexchange : Exchange arguments other) :
    Options.read? arguments = Options.read? other := by
  obtain ⟨hbefore, hfirst, hsecond, hkind⟩ := hexchange
  rw [Options.read?, Options.read?, hbefore.readAll_append, hbefore.readAll_append,
    hfirst.readAll_append, hsecond.readAll_append, hsecond.readAll_append, hfirst.readAll_append]
  simp only [Option.map_map]
  congr 1
  funext rest
  simp only [Function.comp_apply, List.foldl_append, List.foldl_cons, Options.apply_comm hkind]

theorem read?_eq_of_eqvGen {other : List Bytes}
    (hexchanges : Relation.EqvGen Exchange arguments other) :
    Options.read? arguments = Options.read? other := by
  have hclass : Quot.mk Exchange arguments = Quot.mk Exchange other :=
    Quot.eqvGen_sound hexchanges
  exact congrArg (Quot.lift Options.read? fun _ _ hexchange => hexchange.read?_eq) hclass

/-- Arguments are accepted exactly if they are the words of a sequence of items. There is one such
sequence, and the options are the values of the last items of each kind, or the defaults. The
options of accepted arguments with more accepted arguments behind them are those that the latter set
laid over those of the former, and items of different kinds may change places. -/
theorem arguments_are_a_sequence_of_items (arguments : List Bytes) :
    ((∃ options, Options.read? arguments = some options) ↔
        ∃ items pieces, Decomposes arguments items pieces) ∧
      (∀ items pieces others otherPieces, Decomposes arguments items pieces →
        Decomposes arguments others otherPieces → items = others ∧ pieces = otherPieces) ∧
      (∀ items pieces, Decomposes arguments items pieces →
        Options.read? arguments = some (Options.ofItems items)) ∧
      (∀ options more items pieces, Options.read? arguments = some options →
        Decomposes more items pieces →
          Options.read? more = some (Options.default.overlay items) ∧
            Options.read? (arguments ++ more) = some (options.overlay items)) ∧
      ∀ reordered, Relation.EqvGen Exchange arguments reordered →
        Options.read? arguments = Options.read? reordered :=
  ⟨exists_read?_iff, fun _ _ _ _ hdecomposes hother => hdecomposes.unique hother,
    fun _ _ hdecomposes => Options.read?_of_spells hdecomposes.spells,
    fun _ _ _ _ hread hmore => ⟨Options.read?_of_spells hmore.spells,
      Options.read?_append hread hmore.spells⟩,
    fun _ hexchanges => read?_eq_of_eqvGen hexchanges⟩

/-- The values of these options are themselves spelled like options. -/
theorem values_may_look_like_options :
    let arguments := [utf8 "-c", utf8 "--check", utf8 "--log-level", utf8 "-c"]
    let items := [Item.config (utf8 "--check"), .logLevel (utf8 "-c")]
    let pieces := [[utf8 "-c", utf8 "--check"], [utf8 "--log-level", utf8 "-c"]]
    let reordered := [utf8 "--log-level", utf8 "-c", utf8 "-c", utf8 "--check"]
    Decomposes arguments items pieces ∧
      (∀ others otherPieces, Decomposes arguments others otherPieces →
        items = others ∧ pieces = otherPieces) ∧
      Options.read? arguments = some ⟨utf8 "--check", utf8 "-c", false, false⟩ ∧
      Options.read? (arguments ++ [utf8 "--check", utf8 "-c", utf8 "b.ini"]) =
        some ⟨utf8 "b.ini", utf8 "-c", true, false⟩ ∧
      Options.read? arguments = Options.read? reordered := by
  intro arguments items pieces reordered
  have hconfig : Item.IsSpelledBy (.config (utf8 "--check")) [utf8 "-c", utf8 "--check"] :=
    .config (.inl rfl)
  have hlevel : Item.IsSpelledBy (.logLevel (utf8 "-c")) [utf8 "--log-level", utf8 "-c"] :=
    .logLevel (.inr rfl)
  have hdecomposes : Decomposes arguments items pieces := ⟨rfl, .cons hconfig (.cons hlevel .nil)⟩
  have hmore : Decomposes [utf8 "--check", utf8 "-c", utf8 "b.ini"]
      [.check, .config (utf8 "b.ini")] [[utf8 "--check"], [utf8 "-c", utf8 "b.ini"]] :=
    ⟨rfl, .cons .check (.cons (.config (.inl rfl)) .nil)⟩
  have hexchange : Exchange arguments reordered :=
    @Exchange.swap [] _ _ [] [] [] _ _ ⟨rfl, .nil⟩ hconfig hlevel (by rintro ⟨⟩)
  have harguments := arguments_are_a_sequence_of_items arguments
  have hread := harguments.2.2.1 items pieces hdecomposes
  exact ⟨hdecomposes, fun others otherPieces => harguments.2.1 _ _ others otherPieces hdecomposes,
    hread, (harguments.2.2.2.1 _ _ _ _ hread hmore).2, harguments.2.2.2.2 _ (.rel _ _ hexchange)⟩

end RouteMonitor.CommandLine
