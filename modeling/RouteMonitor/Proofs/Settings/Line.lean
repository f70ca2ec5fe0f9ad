import RouteMonitor.Proofs.Bytes
import RouteMonitor.Settings.Ini

/-!
# What a line says

The format of a line without surrounding blanks, stated on the line alone: a header is a pair of
brackets around a name, and a line that starts with neither a comment sign nor a bracket is an
entry, whose key stands before its first `=`. `Line.read` decides exactly these, and an entry
without a key is the only one that it refuses.
-/

namespace RouteMonitor.Settings.Ini

/-- The line opens the section with the given name. -/
def IsHeader (text name : Bytes) : Prop :=
  ∃ inner : Bytes, text = byte '[' :: (inner ++ [byte ']']) ∧ name = inner.trim

/-- The line starts neither a comment nor a header. -/
def StartsEntry (text : Bytes) : Prop :=
  ∃ first rest, text = first :: rest ∧ first ≠ byte ';' ∧ first ≠ byte '#' ∧ first ≠ byte '['

/-- The line is the key itself, or the key and the value around its first `=`. -/
def SplitsAs (text key : Bytes) : Entry → Prop
  | .bare => byte '=' ∉ text ∧ key = text
  | .value value => ∃ before after, text = before ++ byte '=' :: after ∧ byte '=' ∉ before ∧
      key = Bytes.trim before ∧ value = Bytes.trim after

/-- The line holds an entry for the given key, which may be empty. -/
def IsEntry (text key : Bytes) (entry : Entry) : Prop :=
  StartsEntry text ∧ SplitsAs text key entry

theorem StartsEntry.of_head?_eq {text other : Bytes} (hstarts : StartsEntry text)
    (hhead : other.head? = text.head?) : StartsEntry other := by
  obtain ⟨first, rest, rfl, hfirst⟩ := hstarts
  obtain ⟨others, rfl⟩ := List.head?_eq_some_iff.1 hhead
  exact ⟨first, others, rfl, hfirst⟩

theorem splitEntry_eq_iff {text key : Bytes} {entry : Entry} :
    splitEntry text = (key, entry) ↔ SplitsAs text key entry := by
  have hequals : utf8 "=" = [byte '='] := by decide
  rw [splitEntry, hequals]
  cases hcut : text.cut? [byte '='] with
  | none =>
    have hnot := Bytes.cut?_eq_none_iff.1 hcut
    cases entry with
    | bare => simp [SplitsAs, hnot, eq_comm]
    | value value =>
      refine ⟨fun hpair => by simp at hpair, fun hsplits => ?_⟩
      obtain ⟨before, after, rfl, -⟩ := hsplits
      exact absurd (List.mem_append_right before List.mem_cons_self) hnot
  | some parts =>
    obtain ⟨before, after⟩ := parts
    obtain ⟨htext, hbefore⟩ := Bytes.cut?_eq_some_iff.1 hcut
    cases entry with
    | bare =>
      refine ⟨fun hpair => by simp at hpair, fun hsplits => ?_⟩
      obtain ⟨hnot, -⟩ := hsplits
      exact absurd (htext ▸ List.mem_append_right before List.mem_cons_self) hnot
    | value value =>
      constructor
      · intro hpair
        obtain ⟨hkey, hentry⟩ := Prod.mk.inj hpair
        exact ⟨before, after, htext, hbefore, hkey.symm, (Entry.value.inj hentry).symm⟩
      · intro hsplits
        obtain ⟨front, back, hother, hfront, rfl, rfl⟩ := hsplits
        have hsame := Bytes.cut?_eq_some_iff.2 ⟨hother, hfront⟩
        rw [hcut] at hsame
        obtain ⟨rfl, rfl⟩ := Prod.mk.inj (Option.some.inj hsame)
        rfl

/-! ### The kinds of lines -/

/-- The line is blank or a comment. -/
def IsSkipped (text : Bytes) : Prop := ∀ first ∈ text.head?, first = byte ';' ∨ first = byte '#'

theorem kind_of_line (text : Bytes) :
    IsSkipped text ∨ (∃ rest, text = byte '[' :: rest) ∨ StartsEntry text := by
  cases text with
  | nil => exact .inl fun first hfirst => by simp at hfirst
  | cons first rest =>
    by_cases hcomment : first = byte ';' ∨ first = byte '#'
    · exact .inl fun b hb => by rwa [← Option.some.inj hb]
    · by_cases hbracket : first = byte '['
      · exact .inr (.inl ⟨rest, by rw [hbracket]⟩)
      · obtain ⟨hsemicolon, hhash⟩ := not_or.1 hcomment
        exact .inr (.inr ⟨first, rest, rfl, hsemicolon, hhash, hbracket⟩)

theorem Line.read_of_isSkipped {text : Bytes} (hskipped : IsSkipped text) :
    Line.read text = .skipped := by
  cases text with
  | nil => rfl
  | cons first rest => rw [Line.read, if_pos (hskipped first rfl)]

theorem Line.read_of_bracket (rest : Bytes) :
    Line.read (byte '[' :: rest) =
      if rest.getLast? = some (byte ']') then .header (Bytes.trim rest.dropLast)
      else .badHeader := by
  rw [Line.read, if_neg (by decide), if_pos rfl]

theorem Line.read_of_startsEntry {text : Bytes} (hstarts : StartsEntry text) :
    Line.read text =
      if (splitEntry text).1 = [] then .badEntry
      else .store (splitEntry text).1 (splitEntry text).2 := by
  obtain ⟨first, rest, rfl, hsemicolon, hhash, hbracket⟩ := hstarts
  rw [Line.read, if_neg (by simp [hsemicolon, hhash]), if_neg hbracket]

theorem Line.read_eq_header_iff {text name : Bytes} :
    Line.read text = .header name ↔ IsHeader text name := by
  constructor
  · intro hread
    rcases kind_of_line text with hskipped | ⟨rest, rfl⟩ | hstarts
    · rw [Line.read_of_isSkipped hskipped] at hread
      cases hread
    · rw [Line.read_of_bracket] at hread
      split at hread
      · rename_i hlast
        obtain ⟨inner, rfl⟩ := List.getLast?_eq_some_iff.1 hlast
        rw [List.dropLast_concat] at hread
        exact ⟨inner, rfl, (Line.header.inj hread).symm⟩
      · cases hread
    · rw [Line.read_of_startsEntry hstarts] at hread
      split at hread <;> cases hread
  · intro hheader
    obtain ⟨inner, rfl, rfl⟩ := hheader
    rw [Line.read_of_bracket, if_pos List.getLast?_concat, List.dropLast_concat]

theorem IsEntry.read_eq {text key : Bytes} {entry : Entry} (hentry : IsEntry text key entry) :
    Line.read text = if key = [] then .badEntry else .store key entry := by
  rw [Line.read_of_startsEntry hentry.1, splitEntry_eq_iff.2 hentry.2]

theorem Line.read_eq_store_iff {text key : Bytes} {entry : Entry} :
    Line.read text = .store key entry ↔ IsEntry text key entry ∧ key ≠ [] := by
  constructor
  · intro hread
    rcases kind_of_line text with hskipped | ⟨rest, rfl⟩ | hstarts
    · rw [Line.read_of_isSkipped hskipped] at hread
      cases hread
    · rw [Line.read_of_bracket] at hread
      split at hread <;> cases hread
    · rw [Line.read_of_startsEntry hstarts] at hread
      split at hread
      · cases hread
      · rename_i hkey
        obtain ⟨rfl, rfl⟩ := Line.store.inj hread
        exact ⟨⟨hstarts, splitEntry_eq_iff.1 rfl⟩, hkey⟩
  · intro hstores
    obtain ⟨hentry, hkey⟩ := hstores
    rw [hentry.read_eq, if_neg hkey]

/-! ### Lines that are refused -/

/-- The line starts as a header does, but its last byte closes no header. -/
def IsBrokenHeader (text : Bytes) : Prop :=
  text.head? = some (byte '[') ∧ text.getLast? ≠ some (byte ']')

/-- Nothing but blanks stands before the first `=` of the line. -/
def HasEmptyKey (text : Bytes) : Prop :=
  ∃ before after, text = before ++ byte '=' :: after ∧ byte '=' ∉ before ∧ Bytes.trim before = []

theorem StartsEntry.ne_nil {text : Bytes} (hstarts : StartsEntry text) : text ≠ [] := by
  obtain ⟨first, rest, rfl, -⟩ := hstarts
  exact List.cons_ne_nil first rest

theorem StartsEntry.head?_ne {text : Bytes} (hstarts : StartsEntry text) :
    text.head? ≠ some (byte '[') := by
  obtain ⟨first, rest, rfl, -, -, hbracket⟩ := hstarts
  simpa using hbracket

theorem splitEntry_key_eq_nil_iff {text : Bytes} (hstarts : StartsEntry text) :
    (splitEntry text).1 = [] ↔ HasEmptyKey text := by
  have hsplits : SplitsAs text (splitEntry text).1 (splitEntry text).2 := splitEntry_eq_iff.1 rfl
  constructor
  · intro hkey
    rw [hkey] at hsplits
    cases hentry : (splitEntry text).2 with
    | bare =>
      rw [hentry] at hsplits
      exact absurd hsplits.2.symm hstarts.ne_nil
    | value value =>
      rw [hentry] at hsplits
      obtain ⟨before, after, htext, hbefore, hnil, -⟩ := hsplits
      exact ⟨before, after, htext, hbefore, hnil.symm⟩
  · intro hempty
    obtain ⟨before, after, htext, hbefore, hnil⟩ := hempty
    rw [splitEntry_eq_iff.2 (show SplitsAs text [] (.value (Bytes.trim after)) from
      ⟨before, after, htext, hbefore, hnil.symm, rfl⟩)]

theorem Line.read_eq_badHeader_iff {text : Bytes} :
    Line.read text = .badHeader ↔ IsBrokenHeader text := by
  rcases kind_of_line text with hskipped | ⟨rest, rfl⟩ | hstarts
  · rw [Line.read_of_isSkipped hskipped]
    refine ⟨fun hread => absurd hread (by simp), fun hbroken => ?_⟩
    exact absurd (hskipped _ hbroken.1) (by decide)
  · rw [Line.read_of_bracket, IsBrokenHeader]
    cases rest with
    | nil => simp [show byte '[' ≠ byte ']' by decide]
    | cons first rest => simp [List.getLast?_cons]
  · rw [Line.read_of_startsEntry hstarts]
    refine ⟨fun hread => ?_, fun hbroken => absurd hbroken.1 hstarts.head?_ne⟩
    split at hread <;> cases hread

theorem Line.read_eq_badEntry_iff {text : Bytes} :
    Line.read text = .badEntry ↔ StartsEntry text ∧ HasEmptyKey text := by
  rcases kind_of_line text with hskipped | ⟨rest, rfl⟩ | hstarts
  · rw [Line.read_of_isSkipped hskipped]
    refine ⟨fun hread => absurd hread (by simp), fun hempty => ?_⟩
    obtain ⟨first, rest, rfl, hsemicolon, hhash, -⟩ := hempty.1
    exact absurd (hskipped first rfl) (by simp [hsemicolon, hhash])
  · rw [Line.read_of_bracket]
    refine ⟨fun hread => ?_, fun hempty => absurd rfl hempty.1.head?_ne⟩
    split at hread <;> cases hread
  · have hkey := splitEntry_key_eq_nil_iff hstarts
    rw [Line.read_of_startsEntry hstarts]
    split <;> simp_all

/-! ### One line says one thing -/

theorem IsHeader.unique {text left right : Bytes} (hleft : IsHeader text left)
    (hright : IsHeader text right) : left = right :=
  Line.header.inj <| (Line.read_eq_header_iff.2 hleft).symm.trans (Line.read_eq_header_iff.2 hright)

theorem IsEntry.unique {text leftKey rightKey : Bytes} {left right : Entry}
    (hleft : IsEntry text leftKey left) (hright : IsEntry text rightKey right) :
    leftKey = rightKey ∧ left = right := by
  have hsame := (splitEntry_eq_iff.2 hleft.2).symm.trans (splitEntry_eq_iff.2 hright.2)
  exact Prod.mk.inj hsame

theorem IsEntry.not_isHeader {text key name : Bytes} {entry : Entry}
    (hentry : IsEntry text key entry) : ¬IsHeader text name := by
  intro hheader
  obtain ⟨inner, rfl, -⟩ := hheader
  obtain ⟨first, rest, htext, -, -, hbracket⟩ := hentry.1
  exact hbracket (List.cons.inj htext).1.symm

end RouteMonitor.Settings.Ini
