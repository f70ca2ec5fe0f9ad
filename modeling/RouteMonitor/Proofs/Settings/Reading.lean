import RouteMonitor.Proofs.Outcome
import RouteMonitor.Proofs.Settings.Line

/-!
# What an accepted text means

Which sections, keys and values a text holds, stated on its lines alone: a section is there if some
line is its header, a line stores its entry in the section of the nearest header above it, and of
several lines that store one key in one section the last counts, whatever stands between them.
Reading line by line keeps this in step with the lines read so far, so it holds of every text that
is accepted.
-/

namespace RouteMonitor.Settings.Ini

/-! ### Lines and what they store -/

/-- The nearest header above, among some lines, opens the given section. -/
def OpenSection (lines : List Bytes) (sectionName : Bytes) : Prop :=
  ∃ above header below, lines = above ++ header :: below ∧
    IsHeader (Bytes.trim header) sectionName ∧
    ∀ line ∈ below, ∀ other, ¬IsHeader (Bytes.trim line) other

/-- The line of a number, counted from zero, stores an entry in a section. -/
def StoresAt (lines : List Bytes) (number : Nat) (sectionName key : Bytes) (entry : Entry) : Prop :=
  ∃ line, lines[number]? = some line ∧ IsEntry (Bytes.trim line) key entry ∧
    OpenSection (lines.take number) sectionName

/-- The last line that stores the key in the section stores this entry. -/
def LastStores (lines : List Bytes) (sectionName key : Bytes) (entry : Entry) : Prop :=
  ∃ number, StoresAt lines number sectionName key entry ∧
    ∀ later, number < later → ∀ other, ¬StoresAt lines later sectionName key other

def HasHeader (lines : List Bytes) (sectionName : Bytes) : Prop :=
  ∃ line ∈ lines, IsHeader (Bytes.trim line) sectionName

variable {lines : List Bytes} {line sectionName key : Bytes} {entry : Entry}

theorem not_openSection_nil : ¬OpenSection [] sectionName := by
  intro hopen
  obtain ⟨above, header, below, hlines, -⟩ := hopen
  exact absurd hlines (by simp)

theorem openSection_append_header {name : Bytes} (hheader : IsHeader line.trim name) :
    OpenSection (lines ++ [line]) sectionName ↔ name = sectionName := by
  constructor
  · intro hopen
    obtain ⟨above, header, below, hlines, hother, hbelow⟩ := hopen
    rcases List.eq_nil_or_concat below with rfl | ⟨front, last, rfl⟩
    · obtain ⟨-, hlast⟩ := List.append_inj' hlines rfl
      rw [List.singleton_inj.1 hlast] at hheader
      exact hheader.unique hother
    · have hsplit : lines ++ [line] = (above ++ header :: front) ++ [last] := by simpa using hlines
      obtain ⟨-, hlast⟩ := List.append_inj' hsplit rfl
      rw [List.singleton_inj.1 hlast] at hheader
      exact absurd hheader (hbelow last (by simp) name)
  · intro hname
    rw [← hname]
    exact ⟨lines, line, [], rfl, hheader, by simp⟩

theorem openSection_append_iff (hline : ∀ other, ¬IsHeader line.trim other) :
    OpenSection (lines ++ [line]) sectionName ↔ OpenSection lines sectionName := by
  constructor
  · intro hopen
    obtain ⟨above, header, below, hlines, hheader, hbelow⟩ := hopen
    rcases List.eq_nil_or_concat below with rfl | ⟨front, last, rfl⟩
    · obtain ⟨-, hlast⟩ := List.append_inj' hlines rfl
      rw [List.singleton_inj.1 hlast] at hline
      exact absurd hheader (hline sectionName)
    · have hsplit : lines ++ [line] = (above ++ header :: front) ++ [last] := by simpa using hlines
      obtain ⟨rfl, -⟩ := List.append_inj' hsplit rfl
      exact ⟨above, header, front, rfl, hheader, fun text htext =>
        hbelow text (by simp [htext])⟩
  · intro hopen
    obtain ⟨above, header, below, rfl, hheader, hbelow⟩ := hopen
    refine ⟨above, header, below ++ [line], by simp, hheader, fun text htext => ?_⟩
    rcases List.mem_append.1 htext with htext | htext
    · exact hbelow text htext
    · rw [List.mem_singleton.1 htext]
      exact hline

theorem hasHeader_append_iff :
    HasHeader (lines ++ [line]) sectionName ↔
      HasHeader lines sectionName ∨ IsHeader line.trim sectionName := by
  simp [HasHeader, or_and_right, exists_or]

theorem StoresAt.lt_length {number : Nat} (hstores : StoresAt lines number sectionName key entry) :
    number < lines.length := by
  obtain ⟨line, hline, -⟩ := hstores
  exact (List.getElem?_eq_some_iff.1 hline).1

/-- Below some lines, a line adds what holds of itself and leaves those above it as they were. -/
theorem exists_getElem?_append_iff {Holds : List Bytes → Bytes → Prop} {number : Nat} :
    (∃ text, (lines ++ [line])[number]? = some text ∧
        Holds ((lines ++ [line]).take number) text) ↔
      (∃ text, lines[number]? = some text ∧ Holds (lines.take number) text) ∨
        number = lines.length ∧ Holds lines line := by
  rcases Nat.lt_trichotomy number lines.length with hlt | rfl | hgt
  · rw [List.getElem?_append_left hlt, List.take_append_of_le_length (Nat.le_of_lt hlt)]
    simp [Nat.ne_of_lt hlt]
  · simp
  · have hnone : (lines ++ [line])[number]? = none := by
      rw [List.getElem?_eq_none_iff, List.length_append, List.length_singleton]
      exact hgt
    have hnone' : lines[number]? = none := List.getElem?_eq_none (Nat.le_of_lt hgt)
    simp [hnone, hnone', Nat.ne_of_gt hgt]

theorem storesAt_append_iff {number : Nat} :
    StoresAt (lines ++ [line]) number sectionName key entry ↔
      StoresAt lines number sectionName key entry ∨
        number = lines.length ∧ IsEntry line.trim key entry ∧ OpenSection lines sectionName :=
  @exists_getElem?_append_iff lines line (fun above text =>
    IsEntry (Bytes.trim text) key entry ∧ OpenSection above sectionName) number

/-- A line that stores the key in the section overrides every line above it. -/
theorem lastStores_append_stores {stored : Entry} (hentry : IsEntry line.trim key stored)
    (hopen : OpenSection lines sectionName) :
    LastStores (lines ++ [line]) sectionName key entry ↔ stored = entry := by
  have hlast : StoresAt (lines ++ [line]) lines.length sectionName key stored :=
    storesAt_append_iff.2 (.inr ⟨rfl, hentry, hopen⟩)
  constructor
  · intro hstored
    obtain ⟨number, hstores, hafter⟩ := hstored
    rcases storesAt_append_iff.1 hstores with hearly | ⟨-, hsame, -⟩
    · exact absurd hlast (hafter lines.length hearly.lt_length stored)
    · exact (hentry.unique hsame).2
  · intro hsame
    subst hsame
    refine ⟨lines.length, hlast, fun later hlater other hother => ?_⟩
    have hbound := hother.lt_length
    rw [List.length_append, List.length_singleton] at hbound
    omega

/-- Any other line leaves the last entry of the key in the section as it was. -/
theorem lastStores_append_other
    (hother : ∀ stored, ¬(IsEntry line.trim key stored ∧ OpenSection lines sectionName)) :
    LastStores (lines ++ [line]) sectionName key entry ↔
      LastStores lines sectionName key entry := by
  have hsame : ∀ number other, StoresAt (lines ++ [line]) number sectionName key other ↔
      StoresAt lines number sectionName key other := by
    intro number other
    rw [storesAt_append_iff]
    exact or_iff_left fun hlast => hother other hlast.2
  unfold LastStores
  simp only [hsame]

/-- Of the lines that store a key in a section, there is a last one. -/
theorem StoresAt.exists_lastStores {number : Nat}
    (hstores : StoresAt lines number sectionName key entry) :
    ∃ last, LastStores lines sectionName key last := by
  -- Each later line that stores the key leaves fewer lines below it.
  induction hbelow : lines.length - number using Nat.strong_induction_on
    generalizing number entry with
  | _ below ih =>
    by_cases hlater : ∃ later, number < later ∧ ∃ other, StoresAt lines later sectionName key other
    · obtain ⟨later, hlt, other, hother⟩ := hlater
      have hbound := hother.lt_length
      exact ih (lines.length - later) (by omega) hother rfl
    · exact ⟨entry, number, hstores, fun later hlt other hother =>
        hlater ⟨later, hlt, other, hother⟩⟩

/-! ### Reading keeps in step with the lines -/

/-- What a reader holds is what the lines it has read say. -/
structure Reflects (lines : List Bytes) (reader : Reader) : Prop where
  current : ∀ sectionName, reader.current = some sectionName ↔ OpenSection lines sectionName
  sections : ∀ sectionName,
    reader.settings.hasSection sectionName = true ↔ HasHeader lines sectionName
  entries : ∀ sectionName key entry,
    reader.settings.find? sectionName key = some entry ↔ LastStores lines sectionName key entry
  keyed : ∀ line ∈ lines, ∀ entry, ¬IsEntry (Bytes.trim line) [] entry

theorem reflects_initial : Reflects [] .initial where
  current sectionName := by simp [Reader.initial, not_openSection_nil]
  sections sectionName := by simp [Reader.initial, HasHeader]
  entries sectionName key entry := by simp [Reader.initial, LastStores, StoresAt]
  keyed line hline := absurd hline List.not_mem_nil

/-- What a reader may do with a line that it accepts. -/
theorem step_result_eq_ok_iff {origin text : Bytes} {number : Nat} {reader next : Reader} :
    (reader.step origin number text).result = .ok next ↔
      Line.read text = .skipped ∧ next = reader ∨
        (∃ name, Line.read text = .header name ∧
          next = ⟨reader.settings.openSection name, some name⟩) ∨
        ∃ key entry sectionName, Line.read text = .store key entry ∧
          reader.current = some sectionName ∧
          next = ⟨reader.settings.put sectionName key entry, some sectionName⟩ := by
  rw [Reader.step]
  cases hread : Line.read text with
  | skipped => simp [eq_comm]
  | header name => simp [eq_comm]
  | badHeader => simp
  | badEntry => simp
  | store key entry =>
    cases reader.current with
    | none => simp
    | some sectionName => simp [Except.map, eq_comm]

theorem OpenSection.hasHeader (hopen : OpenSection lines sectionName) :
    HasHeader lines sectionName := by
  obtain ⟨above, header, below, rfl, hheader, -⟩ := hopen
  exact ⟨header, by simp, hheader⟩

/-- A line that is neither a header nor an entry says nothing. -/
theorem Reflects.append_neither {reader : Reader} (hreflects : Reflects lines reader)
    (hheader : ∀ name, ¬IsHeader line.trim name)
    (hentry : ∀ key entry, ¬IsEntry line.trim key entry) : Reflects (lines ++ [line]) reader where
  current sectionName := by
    rw [hreflects.current, openSection_append_iff hheader]
  sections sectionName := by
    rw [hreflects.sections, hasHeader_append_iff, or_iff_left (hheader sectionName)]
  entries sectionName key entry := by
    rw [hreflects.entries, lastStores_append_other fun stored hboth => hentry key stored hboth.1]
  keyed := List.forall_mem_append.2 ⟨hreflects.keyed, by simpa using hentry []⟩

theorem Reflects.append_header {reader : Reader} {name : Bytes} (hreflects : Reflects lines reader)
    (hheader : IsHeader line.trim name) :
    Reflects (lines ++ [line]) ⟨reader.settings.openSection name, some name⟩ where
  current sectionName := by
    rw [openSection_append_header hheader, Option.some_inj]
  sections sectionName := by
    have hname : IsHeader line.trim sectionName ↔ sectionName = name :=
      ⟨fun hother => hother.unique hheader, fun heq => heq ▸ hheader⟩
    rw [hasHeader_append_iff, hasSection_openSection, Bool.or_eq_true, decide_eq_true_iff,
      hreflects.sections, hname, or_comm]
  entries sectionName key entry := by
    rw [find?_openSection, hreflects.entries, lastStores_append_other]
    exact fun stored hboth => hboth.1.not_isHeader hheader
  keyed := List.forall_mem_append.2
    ⟨hreflects.keyed, by simpa using fun entry hentry => hentry.not_isHeader hheader⟩

theorem Reflects.append_entry {reader : Reader} {name storedKey : Bytes} {stored : Entry}
    (hreflects : Reflects lines reader) (hcurrent : reader.current = some name)
    (hentry : IsEntry line.trim storedKey stored) (hkey : storedKey ≠ []) :
    Reflects (lines ++ [line]) ⟨reader.settings.put name storedKey stored, some name⟩ where
  current sectionName := by
    rw [openSection_append_iff fun other => hentry.not_isHeader, ← hcurrent, hreflects.current]
  sections sectionName := by
    have hname : HasHeader lines name := ((hreflects.current name).1 hcurrent).hasHeader
    rw [hasHeader_append_iff, hasSection_put, Bool.or_eq_true, decide_eq_true_iff,
      hreflects.sections, or_iff_left hentry.not_isHeader]
    exact or_iff_right_of_imp fun heq => heq ▸ hname
  entries sectionName key entry := by
    have hopen : OpenSection lines name := (hreflects.current name).1 hcurrent
    rw [find?_put]
    by_cases hsame : sectionName = name ∧ key = storedKey
    · obtain ⟨rfl, rfl⟩ := hsame
      rw [if_pos ⟨rfl, rfl⟩, Option.some_inj, lastStores_append_stores hentry hopen]
    · rw [if_neg hsame, hreflects.entries, lastStores_append_other]
      intro other hboth
      obtain ⟨hother, hotherOpen⟩ := hboth
      have hsection := (hreflects.current sectionName).2 hotherOpen
      rw [hcurrent] at hsection
      exact hsame ⟨(Option.some.inj hsection).symm, (hother.unique hentry).1⟩
  keyed := List.forall_mem_append.2
    ⟨hreflects.keyed, by simpa using fun entry hempty => hkey (hentry.unique hempty).1⟩

theorem Reflects.step {origin : Bytes} {number : Nat} {reader next : Reader}
    (hreflects : Reflects lines reader)
    (hstep : (reader.step origin number line.trim).result = .ok next) :
    Reflects (lines ++ [line]) next := by
  rcases step_result_eq_ok_iff.1 hstep with ⟨hread, rfl⟩ | ⟨name, hread, rfl⟩ |
    ⟨key, entry, sectionName, hread, hcurrent, rfl⟩
  · refine hreflects.append_neither (fun name hheader => ?_) fun key entry hentry => ?_
    · simp [Line.read_eq_header_iff.2 hheader] at hread
    · rw [hentry.read_eq] at hread
      split at hread <;> cases hread
  · exact hreflects.append_header (Line.read_eq_header_iff.1 hread)
  · obtain ⟨hentry, hkey⟩ := Line.read_eq_store_iff.1 hread
    exact hreflects.append_entry hcurrent hentry hkey

theorem Reflects.run {origin : Bytes} {number : Nat} {rest : List Bytes} {reader last : Reader}
    (hreflects : Reflects lines reader)
    (hrun : (Reader.run origin number rest reader).result = .ok last) :
    Reflects (lines ++ rest) last := by
  induction rest generalizing lines number reader with
  | nil =>
    obtain rfl := Except.ok.inj hrun
    rwa [List.append_nil]
  | cons line rest ih =>
    obtain ⟨next, hstep, hrest⟩ := LoadM.result_bind_eq_ok_iff.1 hrun
    rw [List.append_cons]
    exact ih (hreflects.step hstep) hrest

theorem Reader.run_append (origin : Bytes) (number : Nat) (front back : List Bytes)
    (reader : Reader) :
    Reader.run origin number (front ++ back) reader =
      Reader.run origin number front reader >>= Reader.run origin (number + front.length) back := by
  induction front generalizing number reader with
  | nil => rw [List.nil_append, Reader.run, pure_bind, List.length_nil, Nat.add_zero]
  | cons line front ih =>
    rw [List.cons_append, Reader.run, Reader.run, bind_assoc, List.length_cons,
      show number + (front.length + 1) = number + 1 + front.length by omega]
    exact congrArg _ (funext fun next => ih (number + 1) next)

theorem read_result_eq_ok_iff {origin text : Bytes} {settings : Settings} :
    (read origin text).result = .ok settings ↔
      ∃ reader, (Reader.initial.run origin 1 text.lines).result = .ok reader ∧
        reader.settings = settings := by
  rw [read, LoadM.result_bind_eq_ok_iff]
  simp

/-- The settings of an accepted text hold what its lines say. -/
theorem exists_reflects_of_read {origin text : Bytes} {settings : Settings}
    (hread : (read origin text).result = .ok settings) :
    ∃ reader, Reflects text.lines reader ∧ reader.settings = settings := by
  obtain ⟨reader, hrun, hsettings⟩ := read_result_eq_ok_iff.1 hread
  exact ⟨reader, by simpa using reflects_initial.run hrun, hsettings⟩

/-! ### What look-ups answer -/

theorem Reflects.has_iff {reader : Reader} (hreflects : Reflects lines reader) :
    reader.settings.has sectionName key = true ↔
      ∃ number entry, StoresAt lines number sectionName key entry := by
  rw [has, Option.isSome_iff_exists]
  constructor
  · intro hfound
    obtain ⟨entry, hfind⟩ := hfound
    obtain ⟨number, hstores, -⟩ := (hreflects.entries sectionName key entry).1 hfind
    exact ⟨number, entry, hstores⟩
  · intro hstored
    obtain ⟨number, entry, hstores⟩ := hstored
    obtain ⟨last, hlast⟩ := hstores.exists_lastStores
    exact ⟨last, (hreflects.entries sectionName key last).2 hlast⟩

theorem Reflects.get?_eq_some_iff {reader : Reader} {value : Bytes}
    (hreflects : Reflects lines reader) :
    reader.settings.get? sectionName key = some value ↔
      LastStores lines sectionName key (.value value) := by
  rw [Settings.get?_eq_some_iff, hreflects.entries]

theorem Reflects.get?_eq_none_iff {reader : Reader} (hreflects : Reflects lines reader) :
    reader.settings.get? sectionName key = none ↔
      (∀ number entry, ¬StoresAt lines number sectionName key entry) ∨
        LastStores lines sectionName key .bare := by
  rw [Settings.get?_eq_none_iff, hreflects.entries, ← Bool.not_eq_true, hreflects.has_iff]
  simp only [not_exists]

theorem Reflects.hasHeader_of_mem {reader : Reader} {keys : Table Entry}
    (hreflects : Reflects lines reader)
    (hkeys : (sectionName, keys) ∈ reader.settings.sections.toList) :
    HasHeader lines sectionName :=
  (hreflects.sections sectionName).1 (hasSection_of_mem hkeys)

theorem Reflects.lastStores_of_mem {reader : Reader} {keys : Table Entry}
    (hreflects : Reflects lines reader)
    (hkeys : (sectionName, keys) ∈ reader.settings.sections.toList)
    (hentry : (key, entry) ∈ keys.toList) : LastStores lines sectionName key entry :=
  (hreflects.entries sectionName key entry).1 (find?_of_mem hkeys hentry)

/-- Look-ups in the settings of an accepted text answer what its lines say, and the settings hold
nothing besides. -/
theorem read_holds_what_lines_say {origin text : Bytes} {settings : Settings}
    (hread : (read origin text).result = .ok settings) :
    (∀ sectionName, settings.hasSection sectionName = true ↔ HasHeader text.lines sectionName) ∧
      (∀ sectionName key, settings.has sectionName key = true ↔
        ∃ number entry, StoresAt text.lines number sectionName key entry) ∧
      (∀ sectionName key value, settings.get? sectionName key = some value ↔
        LastStores text.lines sectionName key (.value value)) ∧
      (∀ sectionName key, settings.get? sectionName key = none ↔
        (∀ number entry, ¬StoresAt text.lines number sectionName key entry) ∨
          LastStores text.lines sectionName key .bare) ∧
      ∀ sectionName keys, (sectionName, keys) ∈ settings.sections.toList →
        HasHeader text.lines sectionName ∧
          ∀ key entry, (key, entry) ∈ keys.toList →
            LastStores text.lines sectionName key entry := by
  obtain ⟨reader, hreflects, rfl⟩ := exists_reflects_of_read hread
  refine ⟨hreflects.sections, fun sectionName key => hreflects.has_iff,
    fun sectionName key value => hreflects.get?_eq_some_iff,
    fun sectionName key => hreflects.get?_eq_none_iff, fun sectionName keys hkeys => ?_⟩
  exact ⟨hreflects.hasHeader_of_mem hkeys, fun key entry hentry =>
    hreflects.lastStores_of_mem hkeys hentry⟩

/-- A bare key in a section that is opened again overrides the value above it. -/
theorem reopened_section_overrides :
    let text := utf8 "[a]\nk = 1\n[b]\nk = 2\n[a]\n; k = 3\nk\n"
    let settings := (Settings.empty.put (utf8 "a") (utf8 "k") .bare).put (utf8 "b") (utf8 "k")
      (.value (utf8 "2"))
    (read defaultOrigin text).result = .ok settings ∧
      LastStores text.lines (utf8 "a") (utf8 "k") .bare ∧
      LastStores text.lines (utf8 "b") (utf8 "k") (.value (utf8 "2")) := by
  intro text settings
  have hread : (read defaultOrigin text).result = .ok settings := by rfl
  have hlines := read_holds_what_lines_say hread
  refine ⟨hread, ?_, (hlines.2.2.1 _ _ _).1 (by decide)⟩
  refine ((hlines.2.2.2.1 _ _).1 (by decide)).resolve_left fun hnone => ?_
  obtain ⟨number, entry, hstores⟩ := (hlines.2.1 (utf8 "a") (utf8 "k")).1 (by decide)
  exact hnone number entry hstores

end RouteMonitor.Settings.Ini
