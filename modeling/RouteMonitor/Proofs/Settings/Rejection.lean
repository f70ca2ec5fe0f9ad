import RouteMonitor.Proofs.Bytes.Lines
import RouteMonitor.Proofs.Settings.Reading

/-!
# Where a text is refused

A text is refused exactly if it has a bad line: a header that is not closed, an entry with nothing
before its `=`, or an entry without a header above it. The error is that of the first bad line. It
quotes the line without the blanks around it and gives its number, which counts carriage returns and
line feeds alike, and nothing below the line matters.

A reader that has accepted some lines reflects them, so it refuses the next line exactly if that
line is bad below them; both halves of the argument, over a list of lines, follow from this step.
-/

namespace RouteMonitor.Settings.Ini

/-- The line, without surrounding blanks, may not stand below the given lines. -/
def IsBad (above : List Bytes) (text : Bytes) : Prop :=
  IsBrokenHeader text ∨ StartsEntry text ∧ (HasEmptyKey text ∨ ¬∃ name, HasHeader above name)

def refusal (origin : Bytes) (number : Nat) (text : Bytes) : ConfigError :=
  if text.head? = some (byte '[') then .badHeader origin number text
  else .badEntry origin number text

variable {origin text : Bytes} {above lines : List Bytes} {reader : Reader}

theorem report_refusal (origin : Bytes) (number : Nat) (text : Bytes) :
    (refusal origin number text).report = .general .malformed (ConfigError.lineMessage origin
      (if text.head? = some (byte '[') then utf8 "invalid section header"
        else utf8 "invalid line") number text) := by
  rw [refusal]
  split <;> rfl

theorem isBad_iff :
    IsBad above text ↔ Line.read text = .badHeader ∨ Line.read text = .badEntry ∨
      (∃ key entry, Line.read text = .store key entry) ∧ ¬∃ name, HasHeader above name := by
  have hentry : StartsEntry text ↔
      Line.read text = .badEntry ∨ ∃ key entry, Line.read text = .store key entry := by
    constructor
    · intro hstarts
      rw [Line.read_of_startsEntry hstarts]
      split
      · exact .inl rfl
      · exact .inr ⟨_, _, rfl⟩
    · intro hread
      rcases hread with hread | ⟨key, entry, hread⟩
      · exact (Line.read_eq_badEntry_iff.1 hread).1
      · exact (Line.read_eq_store_iff.1 hread).1.1
  rw [IsBad, ← Line.read_eq_badHeader_iff, and_or_left, ← Line.read_eq_badEntry_iff, hentry]
  tauto

/-- An empty line is no header. -/
theorem isBad_append_nil : IsBad (above ++ [[]]) text ↔ IsBad above text := by
  have hnil : ∀ name, ¬IsHeader (Bytes.trim []) name := by
    intro name hheader
    obtain ⟨inner, hinner, -⟩ := hheader
    exact absurd hinner (by simp [Bytes.trim])
  simp only [IsBad, hasHeader_append_iff, hnil, or_false]

/-! ### One line -/

theorem exists_openSection_iff :
    (∃ sectionName, OpenSection lines sectionName) ↔ ∃ name, HasHeader lines name := by
  constructor
  · intro hopen
    obtain ⟨sectionName, hopen⟩ := hopen
    exact ⟨sectionName, hopen.hasHeader⟩
  · intro hheader
    induction lines using List.reverseRecOn with
    | nil =>
      obtain ⟨name, line, hline, -⟩ := hheader
      exact absurd hline List.not_mem_nil
    | append_singleton lines line ih =>
      by_cases hline : ∃ name, IsHeader line.trim name
      · obtain ⟨name, hline⟩ := hline
        exact ⟨name, (openSection_append_header hline).2 rfl⟩
      · obtain ⟨name, hname⟩ := hheader
        have hearlier := (hasHeader_append_iff.1 hname).resolve_right fun hlast =>
          hline ⟨name, hlast⟩
        obtain ⟨sectionName, hopen⟩ := ih ⟨name, hearlier⟩
        exact ⟨sectionName, (openSection_append_iff (not_exists.1 hline)).2 hopen⟩

theorem Reflects.current_eq_none_iff (hreflects : Reflects above reader) :
    reader.current = none ↔ ¬∃ name, HasHeader above name := by
  rw [← exists_openSection_iff, ← Option.not_isSome_iff_eq_none, Option.isSome_iff_exists]
  simp only [hreflects.current]

/-- A reader refuses exactly the lines that are bad below those it has read. -/
theorem Reflects.step_result_eq_error_iff (hreflects : Reflects above reader) {number : Nat}
    {error : ConfigError} :
    (reader.step origin number text).result = .error error ↔
      IsBad above text ∧ error = refusal origin number text := by
  rw [isBad_iff, Reader.step, refusal]
  cases hread : Line.read text with
  | skipped => simp
  | header name => simp
  | badHeader =>
    rw [if_pos (Line.read_eq_badHeader_iff.1 hread).1]
    simp [eq_comm]
  | badEntry =>
    rw [if_neg (Line.read_eq_badEntry_iff.1 hread).1.head?_ne]
    simp [eq_comm]
  | store key entry =>
    rw [if_neg (Line.read_eq_store_iff.1 hread).1.1.head?_ne, ← hreflects.current_eq_none_iff]
    cases reader.current with
    | none => simp [eq_comm]
    | some sectionName => simp [Except.map]

/-! ### Many lines -/

theorem Reflects.run_of_good (hreflects : Reflects above reader)
    (hgood : ∀ front line back, lines = front ++ line :: back →
      ¬IsBad (above ++ front) (Bytes.trim line)) (number : Nat) :
    ∃ last, (Reader.run origin number lines reader).result = .ok last := by
  induction lines generalizing above reader number with
  | nil => exact ⟨reader, rfl⟩
  | cons line lines ih =>
    cases hstep : (reader.step origin number line.trim).result with
    | error error =>
      have hbad := (hreflects.step_result_eq_error_iff.1 hstep).1
      exact absurd hbad (by simpa using hgood [] line lines rfl)
    | ok next =>
      have hlater : ∀ front other back, lines = front ++ other :: back →
          ¬IsBad (above ++ [line] ++ front) (Bytes.trim other) := by
        intro front other back hlines
        simpa using hgood (line :: front) other back (by rw [hlines, List.cons_append])
      obtain ⟨last, hlast⟩ := ih (hreflects.step hstep) hlater (number + 1)
      exact ⟨last, (LoadM.result_bind_of_ok hstep _).trans hlast⟩

/-- What stands below a bad line has no influence, not even on what is logged. -/
theorem Reflects.run_append_bad {front : List Bytes} {line : Bytes}
    (hreflects : Reflects above reader) (hbad : IsBad (above ++ front) line.trim)
    (below other : List Bytes) (number : Nat) :
    Reader.run origin number (front ++ line :: below) reader =
      Reader.run origin number (front ++ line :: other) reader := by
  rw [Reader.run_append, Reader.run_append]
  apply LoadM.bind_congr_of_result
  intro between hbetween
  have herror := (hreflects.run hbetween).step_result_eq_error_iff.2
    ⟨hbad, Eq.refl (refusal origin (number + front.length) line.trim)⟩
  rw [Reader.run, Reader.run]
  apply LoadM.bind_congr_of_result
  intro next hnext
  rw [herror] at hnext
  cases hnext

theorem Reflects.run_of_first_bad {front : List Bytes} {line : Bytes}
    (hreflects : Reflects above reader)
    (hgood : ∀ before earlier after, front = before ++ earlier :: after →
      ¬IsBad (above ++ before) (Bytes.trim earlier))
    (hbad : IsBad (above ++ front) line.trim) (below : List Bytes) (number : Nat) :
    (Reader.run origin number (front ++ line :: below) reader).result =
      .error (refusal origin (number + front.length) line.trim) := by
  obtain ⟨between, hbetween⟩ : ∃ between, (Reader.run origin number front reader).result =
      .ok between := hreflects.run_of_good hgood number
  have herror := (hreflects.run hbetween).step_result_eq_error_iff.2
    ⟨hbad, Eq.refl (refusal origin (number + front.length) line.trim)⟩
  rw [Reader.run_append, LoadM.result_bind_of_ok hbetween, Reader.run]
  exact LoadM.result_bind_of_error herror _

/-! ### Bad lines in their places -/

structure IsBadLineAt (text before line after : Bytes) : Prop
    extends Bytes.IsLineAt text before line after where
  bad : IsBad before.lines line.trim

/-- No bad line of the text stands before this one. -/
structure IsFirstBadLineAt (text before line after : Bytes) : Prop
    extends IsBadLineAt text before line after where
  first : ∀ otherBefore otherLine otherAfter,
    IsBadLineAt text otherBefore otherLine otherAfter → before.length ≤ otherBefore.length

variable {before line after : Bytes}

theorem IsBadLineAt.exists_lines_eq (hline : IsBadLineAt text before line after) :
    ∃ above below, text.lines = above ++ line :: below ∧ before.lines = above ++ [[]] ∧
      IsBad above line.trim := by
  obtain ⟨above, below, hlines, hbefore⟩ := hline.toIsLineAt.exists_lines_eq
  refine ⟨above, below, hlines, hbefore, ?_⟩
  have hbad := hline.bad
  rwa [hbefore, isBad_append_nil] at hbad

theorem exists_isBadLineAt {below : List Bytes} (hlines : text.lines = above ++ line :: below)
    (hbad : IsBad above line.trim) :
    ∃ before after, IsBadLineAt text before line after ∧ before.lines = above ++ [[]] := by
  obtain ⟨before, after, hplace, hbefore⟩ := Bytes.exists_isLineAt hlines
  exact ⟨before, after, ⟨hplace, by rwa [hbefore, isBad_append_nil]⟩, hbefore⟩

theorem IsBadLineAt.exists_first (hline : IsBadLineAt text before line after) :
    ∃ before line after, IsFirstBadLineAt text before line after := by
  -- Each bad line that stands before this one has less text before it.
  induction hlength : before.length using Nat.strong_induction_on
    generalizing before line after with
  | _ length ih =>
    by_cases hfirst : ∀ otherBefore otherLine otherAfter,
        IsBadLineAt text otherBefore otherLine otherAfter → before.length ≤ otherBefore.length
    · exact ⟨before, line, after, hline, hfirst⟩
    · push Not at hfirst
      obtain ⟨otherBefore, otherLine, otherAfter, hother, hless⟩ := hfirst
      exact ih otherBefore.length (hlength ▸ hless) hother rfl

theorem IsFirstBadLineAt.good_above (hline : IsFirstBadLineAt text before line after)
    {below : List Bytes} (hlines : text.lines = above ++ line :: below)
    (hbefore : before.lines = above ++ [[]]) :
    ∀ front earlier back, above = front ++ earlier :: back →
      ¬IsBad front (Bytes.trim earlier) := by
  intro front earlier back habove hbad
  rw [habove, List.append_assoc, List.cons_append] at hlines
  obtain ⟨earlierBefore, earlierAfter, hearlier, hfront⟩ := exists_isBadLineAt hlines hbad
  have hcount := Bytes.length_of_lines_eq_append hbefore
  have hearlierCount := Bytes.length_of_lines_eq_append hfront
  rw [habove, List.length_append, List.length_cons] at hcount
  have hless := hearlier.toIsLineAt.length_lt hline.toIsLineAt (by omega)
  have hle := hline.first _ _ _ hearlier
  omega

theorem IsFirstBadLineAt.read_result (hline : IsFirstBadLineAt text before line after)
    (origin : Bytes) :
    (read origin text).result =
      .error (refusal origin (1 + before.countP Byte.isLineEnd) line.trim) := by
  obtain ⟨above, below, hlines, hbefore, hbad⟩ := hline.toIsBadLineAt.exists_lines_eq
  have hgood := hline.good_above hlines hbefore
  rw [read, hlines, ← Bytes.length_of_lines_eq_append hbefore]
  exact LoadM.result_bind_of_error (reflects_initial.run_of_first_bad hgood hbad below 1) _

theorem IsBadLineAt.read_eq (hline : IsBadLineAt text before line after) (origin : Bytes)
    {other : Bytes} (hother : ∀ b ∈ other.head?, b.isLineEnd = true) :
    read origin (before ++ line ++ other) = read origin text := by
  obtain ⟨above, below, hlines, hbefore, hbad⟩ := hline.exists_lines_eq
  have hplace : Bytes.IsLineAt (before ++ line ++ other) before line other :=
    ⟨rfl, hline.onOneLine, hline.start, hother⟩
  obtain ⟨otherAbove, otherBelow, hotherLines, hotherBefore⟩ := hplace.exists_lines_eq
  obtain rfl : otherAbove = above := List.append_cancel_right (hotherBefore.symm.trans hbefore)
  rw [read, read, hlines, hotherLines,
    reflects_initial.run_append_bad hbad otherBelow below 1]

/-- A text is refused exactly if it has a bad line. The error has no place in the settings; it names
the origin, the first bad line and its number, and nothing that follows this line changes the
reading. -/
theorem read_fails_at_first_bad_line (origin text : Bytes) :
    ((∃ error, (read origin text).result = .error error) ↔
        ∃ before line after, IsBadLineAt text before line after) ∧
      ∀ error, (read origin text).result = .error error →
        ∃ before line after, IsFirstBadLineAt text before line after ∧
          error.report.code = .malformed ∧ error.report.sectionName = none ∧
          error.report.key = none ∧
          error.report.message = origin ++ utf8 " " ++
            (if line.trim.head? = some (byte '[') then utf8 "invalid section header"
              else utf8 "invalid line") ++ utf8 " (" ++
            Decimal.ofNat (1 + before.countP Byte.isLineEnd) ++ utf8 "): " ++ quoted line.trim ∧
          ∀ other : Bytes, (∀ b ∈ other.head?, b.isLineEnd = true) →
            read origin (before ++ line ++ other) = read origin text := by
  have hexists : ∀ error, (read origin text).result = .error error →
      ∃ before line after, IsBadLineAt text before line after := by
    intro error herror
    by_contra hnone
    have hgood : ∀ front line back, text.lines = front ++ line :: back →
        ¬IsBad ([] ++ front) (Bytes.trim line) := by
      intro front line back hlines hbad
      obtain ⟨before, after, hplace, -⟩ := exists_isBadLineAt hlines hbad
      exact hnone ⟨before, line, after, hplace⟩
    obtain ⟨last, hlast⟩ : ∃ last, (Reader.run origin 1 text.lines .initial).result = .ok last :=
      reflects_initial.run_of_good hgood 1
    rw [read, LoadM.result_bind_of_ok hlast] at herror
    cases herror
  constructor
  · constructor
    · intro hfails
      obtain ⟨error, herror⟩ := hfails
      exact hexists error herror
    · intro hbad
      obtain ⟨_, _, _, hline⟩ := hbad
      obtain ⟨before, line, after, hfirst⟩ := hline.exists_first
      exact ⟨_, hfirst.read_result origin⟩
  · intro error herror
    obtain ⟨_, _, _, hline⟩ := hexists error herror
    obtain ⟨before, line, after, hfirst⟩ := hline.exists_first
    obtain rfl := Except.error.inj (herror.symm.trans (hfirst.read_result origin))
    refine ⟨before, line, after, hfirst, ?_⟩
    rw [report_refusal]
    exact ⟨rfl, rfl, rfl, rfl, fun other hother => hfirst.toIsBadLineAt.read_eq origin hother⟩

/-- Two lines are bad; the entry without a key is the first, in line 4 as its number counts both
bytes of the first line end. -/
theorem first_of_two_bad_lines_is_reported :
    let origin := utf8 "a.ini"
    let text := utf8 "[a]\r\nk\n = x \n["
    (read origin text).result = .error (.badEntry origin 4 (utf8 "= x")) ∧
      ∃ before line after, IsFirstBadLineAt text before line after ∧
        utf8 "a.ini invalid line (4): '= x'" = origin ++ utf8 " " ++
          (if line.trim.head? = some (byte '[') then utf8 "invalid section header"
            else utf8 "invalid line") ++ utf8 " (" ++
          Decimal.ofNat (1 + before.countP Byte.isLineEnd) ++ utf8 "): " ++ quoted line.trim ∧
        read origin (before ++ line) = read origin text := by
  intro origin text
  have hread : (read origin text).result = .error (.badEntry origin 4 (utf8 "= x")) := by rfl
  obtain ⟨before, line, after, hfirst, -, -, -, hmessage, hother⟩ :=
    (read_fails_at_first_bad_line origin text).2 _ hread
  refine ⟨hread, before, line, after, hfirst, ?_, ?_⟩
  · rw [← hmessage]
    decide
  · rw [← hother [] (by simp), List.append_nil]

end RouteMonitor.Settings.Ini
