import RouteMonitor.Proofs.Settings.Reading

/-!
# Settings and texts

The settings that some text gives are exactly the well-formed ones. Names, keys and values that were
read stand on one line without blanks around them, and a key is told from a header, a comment and a
value by the bytes that it may not hold. Conversely each well-formed settings are given by the text
that writes every section under its header, one line for each of its entries.
-/

namespace RouteMonitor.Settings.Ini

/-! ### Well-formed settings -/

structure IsSectionName (name : Bytes) : Prop where
  trimmed : name.trim = name
  onOneLine : name.OnOneLine

structure IsKey (key : Bytes) : Prop where
  nonempty : key ≠ []
  trimmed : key.trim = key
  onOneLine : key.OnOneLine
  noEquals : byte '=' ∉ key
  starts : ∀ first ∈ key.head?, first ≠ byte ';' ∧ first ≠ byte '#' ∧ first ≠ byte '['

structure IsValue (value : Bytes) : Prop where
  trimmed : value.trim = value
  onOneLine : value.OnOneLine

structure WellFormed (settings : Settings) : Prop where
  sections : ∀ sectionName keys, (sectionName, keys) ∈ settings.sections.toList →
    IsSectionName sectionName
  keys : ∀ sectionName keys, (sectionName, keys) ∈ settings.sections.toList →
    ∀ key entry, (key, entry) ∈ keys.toList → IsKey key
  values : ∀ sectionName keys, (sectionName, keys) ∈ settings.sections.toList →
    ∀ key value, (key, .value value) ∈ keys.toList → IsValue value

theorem wellFormed_empty : WellFormed .empty := by
  constructor
  all_goals
    intro sectionName keys hkeys
    exact absurd hkeys List.not_mem_nil

theorem WellFormed.isValue_of_find? {settings : Settings} (hwell : WellFormed settings)
    {sectionName key value : Bytes} (hfind : settings.find? sectionName key = some (.value value)) :
    IsValue value := by
  obtain ⟨keys, hkeys, hentry⟩ := Option.bind_eq_some_iff.1 hfind
  exact hwell.values sectionName keys (Table.get?_eq_some_iff.1 hkeys) key value
    (Table.get?_eq_some_iff.1 hentry)

theorem WellFormed.put {settings : Settings} (hwell : WellFormed settings)
    {sectionName key : Bytes} {entry : Entry} (hname : IsSectionName sectionName)
    (hkey : IsKey key) (hvalue : ∀ value, entry = .value value → IsValue value) :
    WellFormed (settings.put sectionName key entry) := by
  have hold : ∀ other held, (other, held) ∈ (settings.keysOf sectionName).toList →
      IsKey other ∧ ∀ value, held = .value value → IsValue value := by
    intro other held hmem
    rw [← Table.get?_eq_some_iff, get?_keysOf] at hmem
    obtain ⟨keys, hkeys, hheld⟩ := Option.bind_eq_some_iff.1 hmem
    have hkeys := Table.get?_eq_some_iff.1 hkeys
    have hheld := Table.get?_eq_some_iff.1 hheld
    exact ⟨hwell.keys _ _ hkeys _ _ hheld, fun value hentry =>
      hwell.values _ _ hkeys _ _ (hentry ▸ hheld)⟩
  have hnew : ∀ other held, (other, held) ∈
      ((settings.keysOf sectionName).insert key entry).toList →
      IsKey other ∧ ∀ value, held = .value value → IsValue value := by
    intro other held hmem
    rcases Table.mem_insertEntry hmem with heq | hmem
    · obtain ⟨rfl, rfl⟩ := Prod.mk.inj heq
      exact ⟨hkey, hvalue⟩
    · exact hold other held hmem
  refine ⟨fun name keys hkeys => ?sections, fun name keys hkeys other held hheld => ?keys,
    fun name keys hkeys other value hheld => ?values⟩
  all_goals rcases Table.mem_insertEntry hkeys with heq | hkeys
  case sections.inl => exact (Prod.mk.inj heq).1 ▸ hname
  case sections.inr => exact hwell.sections name keys hkeys
  case keys.inl => exact (hnew other held ((Prod.mk.inj heq).2 ▸ hheld)).1
  case keys.inr => exact hwell.keys name keys hkeys other held hheld
  case values.inl => exact (hnew other _ ((Prod.mk.inj heq).2 ▸ hheld)).2 value rfl
  case values.inr => exact hwell.values name keys hkeys other value hheld

/-! ### What is read is well formed -/

variable {text name key : Bytes} {entry : Entry}

theorem IsHeader.isSectionName (honeLine : text.OnOneLine) (hheader : IsHeader text name) :
    IsSectionName name := by
  obtain ⟨inner, rfl, rfl⟩ := hheader
  refine ⟨Bytes.trim_trim inner, honeLine.of_subset fun b hb => ?_⟩
  simp [Bytes.mem_of_mem_trim hb]

theorem IsEntry.isKey (htrimmed : text.trim = text) (honeLine : text.OnOneLine)
    (hentry : IsEntry text key entry) (hkey : key ≠ []) : IsKey key := by
  obtain ⟨⟨first, rest, hstarts, hsigns⟩, hsplits⟩ := hentry
  have hfirst : first.isBlank = false :=
    (Bytes.trim_eq_self_iff.1 htrimmed).1 first (by rw [hstarts]; rfl)
  cases entry with
  | bare =>
    obtain ⟨hnot, rfl⟩ := hsplits
    refine ⟨hkey, htrimmed, honeLine, hnot, fun b hb => ?_⟩
    rw [hstarts] at hb
    obtain rfl := Option.some.inj hb
    exact hsigns
  | value value =>
    obtain ⟨before, after, htext, hnot, rfl, -⟩ := hsplits
    have hbefore : before.head? = some first := by
      cases before with
      | nil => exact absurd rfl hkey
      | cons b front =>
        obtain ⟨rfl, -⟩ := List.cons.inj (hstarts.symm.trans htext)
        rfl
    refine ⟨hkey, Bytes.trim_trim before, honeLine.of_subset fun b hb => ?_, fun hmem => ?_,
      fun b hb => ?_⟩
    · rw [htext]
      exact List.mem_append_left _ (Bytes.mem_of_mem_trim hb)
    · exact hnot (Bytes.mem_of_mem_trim hmem)
    · rw [Bytes.head?_trim_of_not_blank (by simp [hbefore, hfirst]), hbefore] at hb
      obtain rfl := Option.some.inj hb
      exact hsigns

theorem IsEntry.isValue {value : Bytes} (honeLine : text.OnOneLine)
    (hentry : IsEntry text key (.value value)) : IsValue value := by
  obtain ⟨-, before, after, rfl, -, -, rfl⟩ := hentry
  refine ⟨Bytes.trim_trim after, honeLine.of_subset fun b hb => ?_⟩
  simp [Bytes.mem_of_mem_trim hb]

theorem onOneLine_trim_of_mem_lines {line : Bytes} (hline : line ∈ text.lines) :
    line.trim.OnOneLine :=
  (Bytes.onOneLine_of_mem_lines hline).of_subset fun _ hb => Bytes.mem_of_mem_trim hb

theorem LastStores.exists_line {lines : List Bytes} {sectionName : Bytes}
    (hlast : LastStores lines sectionName key entry) :
    ∃ line ∈ lines, IsEntry line.trim key entry := by
  obtain ⟨number, ⟨line, hline, hentry, -⟩, -⟩ := hlast
  exact ⟨line, List.mem_of_getElem? hline, hentry⟩

theorem wellFormed_of_read {origin : Bytes} {settings : Settings}
    (hread : (read origin text).result = .ok settings) : WellFormed settings := by
  obtain ⟨reader, hreflects, rfl⟩ := exists_reflects_of_read hread
  refine ⟨fun sectionName keys hkeys => ?sections,
    fun sectionName keys hkeys key entry hentry => ?keys,
    fun sectionName keys hkeys key value hentry => ?values⟩
  case sections =>
    obtain ⟨line, hline, hheader⟩ := hreflects.hasHeader_of_mem hkeys
    exact hheader.isSectionName (onOneLine_trim_of_mem_lines hline)
  case keys =>
    obtain ⟨line, hline, hstores⟩ := (hreflects.lastStores_of_mem hkeys hentry).exists_line
    refine hstores.isKey (Bytes.trim_trim line) (onOneLine_trim_of_mem_lines hline) ?_
    intro hempty
    exact hreflects.keyed line hline entry (hempty ▸ hstores)
  case values =>
    obtain ⟨line, hline, hstores⟩ := (hreflects.lastStores_of_mem hkeys hentry).exists_line
    exact hstores.isValue (onOneLine_trim_of_mem_lines hline)

/-! ### What is written is read back -/

theorem IsKey.startsEntry (hkey : IsKey key) (rest : Bytes) : StartsEntry (key ++ rest) := by
  obtain ⟨first, after, hcons⟩ := List.exists_cons_of_ne_nil hkey.nonempty
  exact ⟨first, after ++ rest, by rw [hcons]; rfl, hkey.starts first (by rw [hcons]; rfl)⟩

theorem IsKey.isEntry_entryLine (hkey : IsKey key)
    (hvalue : ∀ value, entry = .value value → IsValue value) :
    IsEntry (entryLine key entry) key entry := by
  cases entry with
  | bare => exact ⟨by simpa [entryLine] using hkey.startsEntry [], hkey.noEquals, rfl⟩
  | value value =>
    have hequals : utf8 "=" = [byte '='] := by decide
    rw [entryLine, hequals, List.append_assoc]
    exact ⟨hkey.startsEntry _, key, value, rfl, hkey.noEquals, hkey.trimmed.symm,
      (hvalue value rfl).trimmed.symm⟩

theorem IsKey.trim_entryLine (hkey : IsKey key)
    (hvalue : ∀ value, entry = .value value → IsValue value) :
    (entryLine key entry).trim = entryLine key entry := by
  obtain ⟨hhead, hlast⟩ := Bytes.trim_eq_self_iff.1 hkey.trimmed
  cases entry with
  | bare => exact hkey.trimmed
  | value value =>
    have hequals : utf8 "=" = [byte '='] := by decide
    rw [entryLine, hequals, List.append_assoc, Bytes.trim_eq_self_iff]
    refine ⟨fun b hb => ?_, fun b hb => ?_⟩
    · rw [List.head?_append_of_ne_nil _ hkey.nonempty] at hb
      exact hhead b hb
    · cases value with
      | nil =>
        rw [List.append_nil, List.getLast?_concat] at hb
        obtain rfl := Option.some.inj hb
        decide
      | cons c rest =>
        rw [List.getLast?_append_of_ne_nil _ (by simp),
          List.getLast?_append_of_ne_nil _ (by simp)] at hb
        exact (Bytes.trim_eq_self_iff.1 (hvalue _ rfl).trimmed).2 b hb

theorem IsKey.onOneLine_entryLine (hkey : IsKey key)
    (hvalue : ∀ value, entry = .value value → IsValue value) :
    (entryLine key entry).OnOneLine := by
  cases entry with
  | bare => exact hkey.onOneLine
  | value value =>
    have hequals : (utf8 "=").OnOneLine := by decide
    exact (hkey.onOneLine.append hequals).append (hvalue value rfl).onOneLine

theorem IsSectionName.headerLine (hname : IsSectionName name) :
    IsHeader (utf8 "[" ++ name ++ utf8 "]") name :=
  ⟨name, rfl, hname.trimmed.symm⟩

theorem trim_headerLine (name : Bytes) :
    Bytes.trim (utf8 "[" ++ name ++ utf8 "]") = utf8 "[" ++ name ++ utf8 "]" := by
  have hopen : utf8 "[" = [byte '['] := by decide
  have hclose : utf8 "]" = [byte ']'] := by decide
  rw [hopen, hclose, Bytes.trim_eq_self_iff]
  refine ⟨fun b hb => ?_, fun b hb => ?_⟩
  · obtain rfl := Option.some.inj (show some (byte '[') = some b from hb)
    decide
  · rw [List.getLast?_concat] at hb
    obtain rfl := Option.some.inj hb
    decide

theorem IsSectionName.onOneLine_headerLine (hname : IsSectionName name) :
    (utf8 "[" ++ name ++ utf8 "]").OnOneLine := by
  have hopen : (utf8 "[").OnOneLine := by decide
  have hclose : (utf8 "]").OnOneLine := by decide
  exact (hopen.append hname.onOneLine).append hclose

/-! ### Runs over written lines -/

variable (origin : Bytes)

theorem result_run_append (number : Nat) (front back : List Bytes) (reader : Reader) :
    (Reader.run origin number (front ++ back) reader).result =
      (Reader.run origin number front reader).result >>= fun between =>
        (Reader.run origin (number + front.length) back between).result := by
  rw [Reader.run_append, LoadM.result_bind]

def putAll (sectionName : Bytes) (entries : List (Bytes × Entry)) (settings : Settings) :
    Settings :=
  entries.foldl (fun settings entry => settings.put sectionName entry.1 entry.2) settings

theorem run_entryLines {entries : List (Bytes × Entry)}
    (hkeys : ∀ key entry, (key, entry) ∈ entries → IsKey key)
    (hvalues : ∀ key value, (key, .value value) ∈ entries → IsValue value)
    (number : Nat) (settings : Settings) (sectionName : Bytes) :
    (Reader.run origin number (entries.map fun (key, entry) => entryLine key entry)
        ⟨settings, some sectionName⟩).result =
      .ok ⟨putAll sectionName entries settings, some sectionName⟩ := by
  induction entries generalizing number settings with
  | nil => rfl
  | cons head entries ih =>
    obtain ⟨key, entry⟩ := head
    have hkey : IsKey key := hkeys key entry List.mem_cons_self
    have hvalue : ∀ value, entry = .value value → IsValue value :=
      fun value heq => hvalues key value (heq ▸ List.mem_cons_self)
    have hstep : (Reader.step origin number (entryLine key entry).trim
        ⟨settings, some sectionName⟩).result =
          .ok ⟨settings.put sectionName key entry, some sectionName⟩ := by
      rw [hkey.trim_entryLine hvalue, step_result_eq_ok_iff]
      have hread := Line.read_eq_store_iff.2 ⟨hkey.isEntry_entryLine hvalue, hkey.nonempty⟩
      exact .inr (.inr ⟨key, entry, sectionName, hread, rfl, rfl⟩)
    rw [List.map_cons, Reader.run, LoadM.result_bind_of_ok hstep]
    exact ih (fun key entry hmem => hkeys key entry (List.mem_cons_of_mem _ hmem))
      (fun key value hmem => hvalues key value (List.mem_cons_of_mem _ hmem)) _ _

/-- What the lines of a section do to the settings. -/
def storeSection (settings : Settings) (entry : Bytes × Table Entry) : Settings :=
  putAll entry.1 entry.2.toList (settings.openSection entry.1)

theorem run_sectionLines {keys : Table Entry} (hname : IsSectionName name)
    (hkeys : ∀ key entry, (key, entry) ∈ keys.toList → IsKey key)
    (hvalues : ∀ key value, (key, .value value) ∈ keys.toList → IsValue value)
    (number : Nat) (reader : Reader) :
    (Reader.run origin number (sectionLines name keys) reader).result =
      .ok ⟨storeSection reader.settings (name, keys), some name⟩ := by
  have hstep : (reader.step origin number (Bytes.trim (utf8 "[" ++ name ++ utf8 "]"))).result =
      .ok ⟨reader.settings.openSection name, some name⟩ := by
    rw [trim_headerLine, step_result_eq_ok_iff]
    exact .inr (.inl ⟨name, Line.read_eq_header_iff.2 hname.headerLine, rfl⟩)
  rw [sectionLines, Reader.run, LoadM.result_bind_of_ok hstep]
  exact run_entryLines origin hkeys hvalues _ _ _

theorem run_sections {sections : List (Bytes × Table Entry)}
    (hnames : ∀ name keys, (name, keys) ∈ sections → IsSectionName name)
    (hkeys : ∀ name keys, (name, keys) ∈ sections →
      ∀ key entry, (key, entry) ∈ keys.toList → IsKey key)
    (hvalues : ∀ name keys, (name, keys) ∈ sections →
      ∀ key value, (key, .value value) ∈ keys.toList → IsValue value)
    (number : Nat) (reader : Reader) :
    ∃ current, (Reader.run origin number
        (sections.flatMap fun (name, keys) => sectionLines name keys) reader).result =
      .ok ⟨sections.foldl storeSection reader.settings, current⟩ := by
  induction sections generalizing number reader with
  | nil => exact ⟨reader.current, rfl⟩
  | cons head sections ih =>
    obtain ⟨name, keys⟩ := head
    have hhead := run_sectionLines origin (hnames name keys List.mem_cons_self)
      (hkeys name keys List.mem_cons_self) (hvalues name keys List.mem_cons_self) number reader
    rw [List.flatMap_cons, result_run_append, hhead]
    exact ih (fun name keys hmem => hnames name keys (List.mem_cons_of_mem _ hmem))
      (fun name keys hmem => hkeys name keys (List.mem_cons_of_mem _ hmem))
      (fun name keys hmem => hvalues name keys (List.mem_cons_of_mem _ hmem)) _
      ⟨storeSection reader.settings (name, keys), some name⟩

/-! ### What the written lines store -/

theorem putAll_insert (sections : Table (Table Entry)) (sectionName : Bytes)
    (entries : List (Bytes × Entry)) (keys : Table Entry) :
    putAll sectionName entries ⟨sections.insert sectionName keys⟩ =
      ⟨sections.insert sectionName
        (entries.foldl (fun keys entry => keys.insert entry.1 entry.2) keys)⟩ := by
  induction entries generalizing keys with
  | nil => rfl
  | cons head entries ih =>
    have hput : (⟨sections.insert sectionName keys⟩ : Settings).put sectionName head.1 head.2 =
        ⟨sections.insert sectionName (keys.insert head.1 head.2)⟩ := by
      simp [put, keysOf, Table.insert_insert]
    rw [putAll, List.foldl_cons, hput]
    exact ih (keys.insert head.1 head.2)

theorem storeSection_of_absent {settings : Settings} {keys : Table Entry}
    (habsent : settings.sections.get? name = none) :
    storeSection settings (name, keys) = ⟨settings.sections.insert name keys⟩ := by
  have hempty : settings.keysOf name = .empty := by rw [keysOf, habsent]; rfl
  rw [storeSection, openSection, hempty, putAll_insert]
  exact congrArg (fun keys => Settings.mk (settings.sections.insert name keys))
    (Table.ofList_toList keys)

theorem foldl_storeSection {sections : List (Bytes × Table Entry)}
    (hsorted : sections.Pairwise fun left right => left.1 < right.1) (table : Table (Table Entry))
    (habsent : ∀ entry ∈ sections, table.get? entry.1 = none) :
    sections.foldl storeSection ⟨table⟩ =
      ⟨sections.foldl (fun table entry => table.insert entry.1 entry.2) table⟩ := by
  induction sections generalizing table with
  | nil => rfl
  | cons head sections ih =>
    obtain ⟨hhead, htail⟩ := List.pairwise_cons.1 hsorted
    obtain ⟨name, keys⟩ := head
    have hstore : storeSection ⟨table⟩ (name, keys) = ⟨table.insert name keys⟩ :=
      storeSection_of_absent (habsent (name, keys) List.mem_cons_self)
    rw [List.foldl_cons, hstore]
    refine ih htail (table.insert name keys) fun entry hentry => ?_
    rw [Table.get?_insert, if_neg fun heq => List.lt_irrefl _ (heq ▸ hhead entry hentry)]
    exact habsent entry (List.mem_cons_of_mem _ hentry)

theorem foldl_storeSection_toList (settings : Settings) :
    settings.sections.toList.foldl storeSection .empty = settings := by
  rw [Settings.empty, foldl_storeSection settings.sections.sorted _ fun _ _ => rfl]
  exact congrArg Settings.mk (Table.ofList_toList settings.sections)

theorem onOneLine_of_mem_renderLines {settings : Settings} (hwell : WellFormed settings)
    {line : Bytes} (hline : line ∈ renderLines settings) : line.OnOneLine := by
  obtain ⟨⟨name, keys⟩, hsection, hline⟩ := List.mem_flatMap.1 hline
  rcases List.mem_cons.1 hline with rfl | hline
  · exact (hwell.sections name keys hsection).onOneLine_headerLine
  · obtain ⟨⟨key, entry⟩, hentry, rfl⟩ := List.mem_map.1 hline
    refine (hwell.keys name keys hsection key entry hentry).onOneLine_entryLine ?_
    intro value heq
    exact hwell.values name keys hsection key value (heq ▸ hentry)

theorem read_render_of_wellFormed {settings : Settings} (hwell : WellFormed settings) :
    (read origin (render settings)).result = .ok settings := by
  have hlines : Bytes.lines (render settings) = renderLines settings ++ [[]] :=
    Bytes.lines_flatMap_lineEnd fun line hline => onOneLine_of_mem_renderLines hwell hline
  obtain ⟨current, hrun⟩ := run_sections origin hwell.sections hwell.keys hwell.values 1 .initial
  have hstored : Reader.initial.settings = .empty := rfl
  rw [hstored, foldl_storeSection_toList] at hrun
  rw [read_result_eq_ok_iff, hlines, result_run_append, renderLines, hrun]
  exact ⟨⟨settings, current⟩, rfl, rfl⟩

/-- The settings that reading gives are the well-formed ones, and each comes back from its text. -/
theorem exists_read_iff_wellFormed (origin : Bytes) (settings : Settings) :
    ((∃ text, (read origin text).result = .ok settings) ↔ WellFormed settings) ∧
      (WellFormed settings → (read origin (render settings)).result = .ok settings) := by
  refine ⟨⟨fun hread => ?_, fun hwell => ?_⟩, fun hwell => read_render_of_wellFormed origin hwell⟩
  · obtain ⟨text, hread⟩ := hread
    exact wellFormed_of_read hread
  · exact ⟨render settings, read_render_of_wellFormed origin hwell⟩

/-- An empty section, the empty name, a bare key, an empty value and one with signs come back. -/
theorem all_kinds_of_entries_come_back :
    let settings := (((Settings.empty.openSection []).put (utf8 "a") (utf8 "bare") .bare).put
      (utf8 "a") (utf8 "empty") (.value [])).put (utf8 "a") (utf8 "signs") (.value (utf8 "=;[#] ="))
    WellFormed settings ∧ (read defaultOrigin (render settings)).result = .ok settings := by
  intro settings
  have hread : (read defaultOrigin (utf8 "[ ]\r\n[a]\nsigns= =;[#] =\n empty =\nbare")).result =
      .ok settings := by rfl
  have himage := exists_read_iff_wellFormed defaultOrigin settings
  have hwell := himage.1.1 ⟨_, hread⟩
  exact ⟨hwell, himage.2 hwell⟩

end RouteMonitor.Settings.Ini
