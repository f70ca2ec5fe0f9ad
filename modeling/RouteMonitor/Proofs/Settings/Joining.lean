import RouteMonitor.Proofs.Settings.Merge
import RouteMonitor.Proofs.Settings.Rejection
import RouteMonitor.Proofs.Settings.Statements

/-!
# Joined texts

Two texts joined by a line feed are read one after the other. If both are accepted alone, their join
gives the settings of the first with those of the second laid over them. A first text that is
refused is refused in the same way whatever follows. A second text that opens with a header is
refused at the same line, only that the lines of the first now stand above it; without the header
its first entries would go to the section that the first text left open.

Both halves compare the reader that goes on from the first text with one that starts anew. As long
as the second text is accepted, the reader that goes on holds the merge, and wherever the other has
a section open, it has the same one open (`Continues`). As soon as both have the same section open,
or none, they refuse the same lines.
-/

namespace RouteMonitor.Settings.Ini

variable {origin text : Bytes} {lines : List Bytes} {number : Nat} {lower : Settings}
  {alone after next : Reader}

/-- The second reader has read on from the lower settings where the first began anew. -/
structure Continues (lower : Settings) (alone after : Reader) : Prop where
  settings : after.settings = lower.merge alone.settings
  current : ∀ sectionName, alone.current = some sectionName → after.current = some sectionName

theorem continues_initial (reader : Reader) : Continues reader.settings .initial reader where
  settings := (merge_empty reader.settings).symm
  current _ hcurrent := by cases hcurrent

/-! ### While the text is accepted -/

theorem Continues.obey? (hcontinues : Continues lower alone after) {statement : Line}
    (hobey : alone.obey? statement = some next) :
    ∃ last, after.obey? statement = some last ∧ Continues lower next last := by
  cases statement with
  | skipped =>
    obtain rfl := Option.some.inj hobey
    exact ⟨after, rfl, hcontinues⟩
  | header name =>
    obtain rfl := Option.some.inj hobey
    refine ⟨_, rfl, ⟨?_, fun sectionName hcurrent => hcurrent⟩⟩
    rw [merge_openSection, hcontinues.settings]
  | store key entry =>
    obtain ⟨sectionName, hcurrent, rfl⟩ := Option.map_eq_some_iff.1 hobey
    have hafter := hcontinues.current sectionName hcurrent
    refine ⟨⟨after.settings.put sectionName key entry, after.current⟩, ?_, ?_, hcontinues.current⟩
    · rw [Reader.obey?, hafter, Option.map_some]
    · rw [merge_put, hcontinues.settings]
  | badHeader => cases hobey
  | badEntry => cases hobey

theorem Continues.foldlM (hcontinues : Continues lower alone after) {statements : List Line}
    (hobey : statements.foldlM Reader.obey? alone = some next) :
    ∃ last, statements.foldlM Reader.obey? after = some last ∧ Continues lower next last := by
  induction statements generalizing alone after with
  | nil =>
    obtain rfl := Option.some.inj hobey
    exact ⟨after, rfl, hcontinues⟩
  | cons statement statements ih =>
    rw [List.foldlM_cons] at hobey ⊢
    obtain ⟨between, hstatement, hrest⟩ := Option.bind_eq_some_iff.1 hobey
    obtain ⟨middle, hmiddle, hbetween⟩ := hcontinues.obey? hstatement
    rw [hmiddle]
    exact ih hbetween hrest

theorem toOption_read_eq_some_iff {settings : Settings} :
    (read origin text).result.toOption = some settings ↔
      ∃ reader, (statements text).foldlM Reader.obey? .initial = some reader ∧
        reader.settings = settings := by
  rw [toOption_read, Option.map_eq_some_iff]

theorem read_append_of_ok {front back : Bytes} {upper : Settings}
    (hfront : (read origin front).result = .ok lower)
    (hback : (read origin back).result = .ok upper) :
    (read origin (front ++ utf8 "\n" ++ back)).result = .ok (lower.merge upper) := by
  rw [eq_ok_iff_toOption_eq_some, toOption_read_eq_some_iff] at *
  obtain ⟨between, hbetween, rfl⟩ := hfront
  obtain ⟨alone, halone, rfl⟩ := hback
  obtain ⟨last, hlast, hcontinues⟩ := (continues_initial between).foldlM halone
  refine ⟨last, ?_, hcontinues.settings⟩
  rw [List.append_assoc]
  show (statements (front ++ byte '\n' :: back)).foldlM Reader.obey? .initial = some last
  rw [statements_append_cons front (by decide), List.foldlM_append, hbetween]
  exact hlast

/-! ### Where the text is refused -/

/-- The first line that is neither blank nor a comment is a header. -/
def OpensWithHeader (text : Bytes) : Prop :=
  ∃ above header below name, text.lines = above ++ header :: below ∧
    (∀ line ∈ above, IsSkipped (Bytes.trim line)) ∧ IsHeader (Bytes.trim header) name

theorem refusal_of_isBrokenHeader (hbroken : IsBrokenHeader text) :
    refusal origin number text = .badHeader origin number text :=
  if_pos hbroken.1

theorem refusal_of_startsEntry (hstarts : StartsEntry text) :
    refusal origin number text = .badEntry origin number text :=
  if_neg hstarts.head?_ne

/-- Whether a reader refuses a line depends only on whether it has a section open. -/
theorem step_alike {reader other : Reader} (hcurrent : reader.current = other.current)
    (origin : Bytes) (number otherNumber : Nat) (text : Bytes) :
    (∃ next otherNext, (reader.step origin number text).result = .ok next ∧
        (other.step origin otherNumber text).result = .ok otherNext ∧
        next.current = otherNext.current) ∨
      (reader.step origin number text).result = .error (refusal origin number text) ∧
        (other.step origin otherNumber text).result =
          .error (refusal origin otherNumber text) := by
  rw [Reader.step, Reader.step, ← hcurrent]
  cases hread : Line.read text with
  | skipped => exact .inl ⟨reader, other, rfl, rfl, hcurrent⟩
  | header name => exact .inl ⟨_, _, rfl, rfl, rfl⟩
  | badHeader =>
    have hbroken := Line.read_eq_badHeader_iff.1 hread
    rw [refusal_of_isBrokenHeader hbroken, refusal_of_isBrokenHeader hbroken]
    exact .inr ⟨rfl, rfl⟩
  | badEntry =>
    have hstarts := (Line.read_eq_badEntry_iff.1 hread).1
    rw [refusal_of_startsEntry hstarts, refusal_of_startsEntry hstarts]
    exact .inr ⟨rfl, rfl⟩
  | store key entry =>
    have hstarts := (Line.read_eq_store_iff.1 hread).1.1
    rw [refusal_of_startsEntry hstarts, refusal_of_startsEntry hstarts]
    cases hopen : reader.current with
    | none => exact .inr ⟨rfl, rfl⟩
    | some sectionName => exact .inl ⟨_, _, rfl, rfl, rfl⟩

/-- Readers with the same open section refuse the same lines, whatever the numbers of the lines. -/
theorem run_refused_alike {reader other : Reader} (hcurrent : reader.current = other.current)
    {error : ConfigError} (hrun : (Reader.run origin number lines reader).result = .error error)
    (shift : Nat) :
    ∃ place line, error = refusal origin place line ∧
      (Reader.run origin (number + shift) lines other).result =
        .error (refusal origin (place + shift) line) := by
  induction lines generalizing number reader other with
  | nil => cases hrun
  | cons line lines ih =>
    rw [Reader.run] at hrun ⊢
    rcases step_alike hcurrent origin number (number + shift) line.trim with
      ⟨next, otherNext, hnext, hotherNext, hsame⟩ | ⟨herror, hotherError⟩
    · rw [LoadM.result_bind_of_ok hnext] at hrun
      rw [LoadM.result_bind_of_ok hotherNext, show number + shift + 1 = number + 1 + shift by omega]
      exact ih hsame hrun
    · rw [LoadM.result_bind_of_error herror] at hrun
      refine ⟨number, line.trim, (Except.error.inj hrun).symm, ?_⟩
      exact LoadM.result_bind_of_error hotherError _

theorem run_skipped (hlines : ∀ line ∈ lines, IsSkipped (Bytes.trim line)) (origin : Bytes)
    (number : Nat) (reader : Reader) : Reader.run origin number lines reader = pure reader := by
  induction lines generalizing number with
  | nil => rfl
  | cons line lines ih =>
    have hline := Line.read_of_isSkipped (hlines line List.mem_cons_self)
    rw [Reader.run, Reader.step, hline, pure_bind]
    exact ih (fun other hother => hlines other (List.mem_cons_of_mem _ hother)) _

/-- After the header, what a reader held before has no influence on the lines that it refuses. -/
theorem run_refused_alike_of_header {above below : List Bytes} {header name : Bytes}
    (habove : ∀ line ∈ above, IsSkipped (Bytes.trim line)) (hheader : IsHeader header.trim name)
    {reader : Reader} {error : ConfigError}
    (hrun : (Reader.run origin number (above ++ header :: below) reader).result = .error error)
    (shift : Nat) (other : Reader) :
    ∃ place line, error = refusal origin place line ∧
      (Reader.run origin (number + shift) (above ++ header :: below) other).result =
        .error (refusal origin (place + shift) line) := by
  have hopened : ∀ (number : Nat) (reader : Reader),
      Reader.run origin number (above ++ header :: below) reader =
        Reader.run origin (number + above.length + 1) below
          ⟨reader.settings.openSection name, some name⟩ := by
    intro number reader
    rw [Reader.run_append, run_skipped habove, pure_bind, Reader.run, Reader.step,
      Line.read_eq_header_iff.2 hheader, pure_bind]
  rw [hopened] at hrun ⊢
  rw [show number + shift + above.length + 1 = number + above.length + 1 + shift by omega]
  have hcurrent : Reader.current ⟨reader.settings.openSection name, some name⟩ =
      Reader.current ⟨other.settings.openSection name, some name⟩ := rfl
  exact run_refused_alike hcurrent hrun shift

theorem lines_append_lineFeed (front back : Bytes) :
    (front ++ utf8 "\n" ++ back).lines = front.lines ++ back.lines := by
  rw [List.append_assoc]
  exact Bytes.lines_append_cons front (by decide) back

theorem read_result_eq_error_iff {error : ConfigError} :
    (read origin text).result = .error error ↔
      (Reader.initial.run origin 1 text.lines).result = .error error := by
  rw [read]
  cases hrun : (Reader.initial.run origin 1 text.lines).result with
  | error found => rw [LoadM.result_bind_of_error hrun, Except.error.injEq, Except.error.injEq]
  | ok reader =>
    rw [LoadM.result_bind_of_ok hrun, LoadM.result_pure]
    simp

theorem read_append_of_front_refused {front : Bytes} {error : ConfigError}
    (hfront : (read origin front).result = .error error) (back : Bytes) :
    (read origin (front ++ utf8 "\n" ++ back)).result = .error error := by
  rw [read_result_eq_error_iff] at *
  rw [lines_append_lineFeed, Reader.run_append]
  exact LoadM.result_bind_of_error hfront _

theorem read_append_of_back_refused {front back : Bytes} {error : ConfigError}
    (hfront : (read origin front).result = .ok lower) (hopens : OpensWithHeader back)
    (hback : (read origin back).result = .error error) :
    ∃ place line, error = refusal origin place line ∧
      (read origin (front ++ utf8 "\n" ++ back)).result =
        .error (refusal origin (place + 1 + front.countP Byte.isLineEnd) line) := by
  obtain ⟨between, hbetween, -⟩ := read_result_eq_ok_iff.1 hfront
  obtain ⟨above, header, below, name, hlines, habove, hheader⟩ := hopens
  rw [read_result_eq_error_iff, hlines] at hback
  obtain ⟨place, line, herror, hrefused⟩ :=
    run_refused_alike_of_header habove hheader hback front.lines.length between
  refine ⟨place, line, herror, ?_⟩
  rw [read_result_eq_error_iff, lines_append_lineFeed, Reader.run_append,
    LoadM.result_bind_of_ok hbetween, hlines, hrefused, Bytes.length_lines]
  congr 2
  omega

/-- The join of two accepted texts gives the settings of the first with those of the second laid
over them. Of a second text that is refused below its first header, the join is refused at the same
line, counted from the start of the first text; a first text that is refused decides alone. -/
theorem joined_texts_are_read_in_order (origin front back : Bytes) :
    (∀ lower upper, (read origin front).result = .ok lower →
        (read origin back).result = .ok upper →
          (read origin (front ++ utf8 "\n" ++ back)).result = .ok (lower.merge upper)) ∧
      (∀ lower error, (read origin front).result = .ok lower → OpensWithHeader back →
        (read origin back).result = .error error →
          ∃ number line, error = refusal origin number line ∧
            (read origin (front ++ utf8 "\n" ++ back)).result =
              .error (refusal origin (number + 1 + front.countP Byte.isLineEnd) line)) ∧
      ∀ error, (read origin front).result = .error error →
        (read origin (front ++ utf8 "\n" ++ back)).result = .error error :=
  ⟨fun _ _ hfront hback => read_append_of_ok hfront hback,
    fun _ _ hfront hopens hback => read_append_of_back_refused hfront hopens hback,
    fun _ hfront => read_append_of_front_refused hfront back⟩

/-- A bare key of the second text replaces the value of the first, and a bad line of the second is
found three lines further down. -/
theorem fragments_meet_at_the_line_feed :
    let front := utf8 "[a]\nk = 1\nj = 2"
    let back := utf8 "; more\n[b]\n[a]\nk\n"
    let faulty := utf8 "[b]\r\n= x"
    let merged := ((Settings.empty.put (utf8 "a") (utf8 "j") (.value (utf8 "2"))).put (utf8 "a")
      (utf8 "k") .bare).openSection (utf8 "b")
    (read defaultOrigin (front ++ utf8 "\n" ++ back)).result = .ok merged ∧
      OpensWithHeader faulty ∧
      (read defaultOrigin faulty).result = .error (.badEntry defaultOrigin 3 (utf8 "= x")) ∧
      (read defaultOrigin (front ++ utf8 "\n" ++ faulty)).result =
        .error (.badEntry defaultOrigin 6 (utf8 "= x")) ∧
      (read defaultOrigin (faulty ++ utf8 "\n" ++ back)).result =
        .error (.badEntry defaultOrigin 3 (utf8 "= x")) := by
  intro front back faulty merged
  have hfront : (read defaultOrigin front).result =
      .ok ((Settings.empty.put (utf8 "a") (utf8 "k") (.value (utf8 "1"))).put (utf8 "a") (utf8 "j")
        (.value (utf8 "2"))) := by rfl
  have hback : (read defaultOrigin back).result =
      .ok ((Settings.empty.openSection (utf8 "b")).put (utf8 "a") (utf8 "k") .bare) := by rfl
  have hfaulty : (read defaultOrigin faulty).result =
      .error (.badEntry defaultOrigin 3 (utf8 "= x")) := by rfl
  have hopens : OpensWithHeader faulty :=
    ⟨[], utf8 "[b]", [[], utf8 "= x"], utf8 "b", by rfl, by simp, utf8 "b", by rfl, by rfl⟩
  refine ⟨?_, hopens, hfaulty, ?_,
    (joined_texts_are_read_in_order defaultOrigin faulty back).2.2 _ hfaulty⟩
  · rw [(joined_texts_are_read_in_order defaultOrigin front back).1 _ _ hfront hback]
    rfl
  · obtain ⟨number, line, hsame, hjoined⟩ :=
      (joined_texts_are_read_in_order defaultOrigin front faulty).2.1 _ _ hfront hopens hfaulty
    rw [hjoined]
    unfold refusal at hsame ⊢
    split at hsame
    · cases hsame
    · rename_i hbracket
      obtain ⟨-, rfl, rfl⟩ := ConfigError.badEntry.inj hsame
      rw [if_neg hbracket]
      rfl

end RouteMonitor.Settings.Ini
