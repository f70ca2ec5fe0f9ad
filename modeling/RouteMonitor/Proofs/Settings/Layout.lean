import Mathlib.Logic.Relation
import RouteMonitor.Proofs.Settings.Line
import RouteMonitor.Proofs.Settings.Statements

/-!
# The layout of a text

Blank lines and comments, blanks around a line, around its first `=` or inside its brackets, and the
bytes that end a line are the layout of a text. `Edit` changes the layout in one place, and each
edit can be undone, so texts that differ in their layout are those that a chain of edits joins, in
either direction. An edit leaves the statements of a text as they are: a line that it adds says
nothing, a line that it pads says what it said, and one line end splits a text as well as another.
-/

namespace RouteMonitor.Settings.Ini

/-- Space, tab, vertical tab and form feed. -/
def IsPadding (text : Bytes) : Prop := ∀ b ∈ text, b = 32 ∨ b = 9 ∨ b = 11 ∨ b = 12

instance (text : Bytes) : Decidable (IsPadding text) :=
  List.decidableBAll (fun b : Byte => b = 32 ∨ b = 9 ∨ b = 11 ∨ b = 12) text

/-- The bytes that may end a line. -/
inductive IsLineBreak : Bytes → Prop
  | lineFeed : IsLineBreak (utf8 "\n")
  | carriageReturn : IsLineBreak (utf8 "\r")
  | both : IsLineBreak (utf8 "\r\n")

/-- The second line is the first with padding where it has no meaning: at the ends of any line,
around the first `=` of an entry, just inside the brackets of a header. -/
inductive Padded : Bytes → Bytes → Prop
  | ends {line left right : Bytes} : IsPadding left → IsPadding right →
    Padded line (left ++ line ++ right)
  | equals {key value left right : Bytes} : StartsEntry (Bytes.trim (key ++ byte '=' :: value)) →
    byte '=' ∉ key → IsPadding left → IsPadding right →
    Padded (key ++ byte '=' :: value) (key ++ left ++ byte '=' :: (right ++ value))
  | brackets {before inner after left right : Bytes} : IsPadding before → IsPadding after →
    IsPadding left → IsPadding right →
    Padded (before ++ (byte '[' :: (inner ++ [byte ']'])) ++ after)
      (before ++ (byte '[' :: (left ++ inner ++ right ++ [byte ']'])) ++ after)

/-- A change of the layout in one place. -/
inductive Edit : Bytes → Bytes → Prop
  | lineAbove {before line lineBreak after : Bytes} :
    (∀ b ∈ before.getLast?, b.isLineEnd = true) → line.OnOneLine → IsSkipped line.trim →
    IsLineBreak lineBreak → Edit (before ++ after) (before ++ line ++ lineBreak ++ after)
  | lineBelow {before line lineBreak after : Bytes} :
    (∀ b ∈ after.head?, b.isLineEnd = true) → line.OnOneLine → IsSkipped line.trim →
    IsLineBreak lineBreak → Edit (before ++ after) (before ++ lineBreak ++ line ++ after)
  | padding {text before line padded after : Bytes} : Bytes.IsLineAt text before line after →
    Padded line padded → Edit text (before ++ padded ++ after)
  | lineBreak {before old new after : Bytes} : IsLineBreak old → IsLineBreak new →
    Edit (before ++ old ++ after) (before ++ new ++ after)

/-! ### Padded lines -/

variable {text line padded left right : Bytes}

theorem IsPadding.isBlank (hpadding : IsPadding text) : text.IsBlank := by
  intro b hb
  rcases hpadding b hb with rfl | rfl | rfl | rfl
  all_goals decide

theorem IsPadding.onOneLine (hpadding : IsPadding text) : text.OnOneLine := by
  intro b hb
  rcases hpadding b hb with rfl | rfl | rfl | rfl
  all_goals decide

theorem IsPadding.not_mem {b : Byte} (hb : b.isBlank = false) (hpadding : IsPadding text) :
    b ∉ text := by
  intro hmem
  rw [hpadding.isBlank b hmem] at hb
  cases hb

theorem trim_padded (hleft : IsPadding left) (hright : IsPadding right) (text : Bytes) :
    Bytes.trim (left ++ text ++ right) = text.trim := by
  rw [Bytes.trim_append_blank hright.isBlank, Bytes.trim_blank_append hleft.isBlank]

theorem Padded.onOneLine (hpadded : Padded line padded) (hline : line.OnOneLine) :
    padded.OnOneLine := by
  cases hpadded with
  | ends hleft hright => exact (hleft.onOneLine.append hline).append hright.onOneLine
  | equals _ _ hleft hright =>
    simp only [Bytes.OnOneLine, List.forall_mem_append, List.forall_mem_cons] at hline ⊢
    obtain ⟨hkey, hsign, hvalue⟩ := hline
    exact ⟨⟨hkey, hleft.onOneLine⟩, hsign, hright.onOneLine, hvalue⟩
  | brackets _ _ hleft hright =>
    simp only [Bytes.OnOneLine, List.forall_mem_append, List.forall_mem_cons] at hline ⊢
    obtain ⟨⟨hbefore, hopen, hinner, hclose⟩, hafter⟩ := hline
    exact ⟨⟨hbefore, hopen, ⟨⟨hleft.onOneLine, hinner⟩, hright.onOneLine⟩, hclose⟩, hafter⟩

/-- The key and the value of an entry, wherever blanks stand around them. -/
theorem splitsAs_trim {key : Bytes} (hkey : byte '=' ∉ key) (value : Bytes) :
    SplitsAs (Bytes.trim (key ++ byte '=' :: value)) key.trim (.value value.trim) := by
  refine ⟨key.dropWhile Byte.isBlank, value.rdropWhile Byte.isBlank,
    Bytes.trim_append_cons (by decide) key value, ?_, ?_, ?_⟩
  · exact fun hmem => hkey ((List.dropWhile_sublist _).subset hmem)
  · rw [Bytes.trim_dropWhile_isBlank]
  · rw [Bytes.trim_rdropWhile_isBlank]

theorem read_trim_header (inner : Bytes) :
    Line.read (Bytes.trim (byte '[' :: (inner ++ [byte ']']))) = .header inner.trim := by
  have htrim : Bytes.trim (byte '[' :: (inner ++ [byte ']'])) =
      byte '[' :: (inner ++ [byte ']']) := by
    refine Bytes.trim_eq_self_iff.2 ⟨fun b hb => ?_, fun b hb => ?_⟩
    · obtain rfl : byte '[' = b := by simpa using hb
      decide
    · obtain rfl : byte ']' = b := by simpa [List.getLast?_cons] using hb
      decide
  rw [htrim]
  exact Line.read_eq_header_iff.2 ⟨inner, rfl, rfl⟩

/-- A padded line says what the line said. -/
theorem Padded.read_trim_eq (hpadded : Padded line padded) :
    Line.read padded.trim = Line.read line.trim := by
  cases hpadded with
  | ends hleft hright => rw [trim_padded hleft hright]
  | @equals key value left right hstarts hkey hleft hright =>
    have hkeyLeft : byte '=' ∉ key ++ left := by
      rw [List.mem_append, not_or]
      exact ⟨hkey, hleft.not_mem (by decide)⟩
    have hhead : (Bytes.trim (key ++ left ++ byte '=' :: (right ++ value))).head? =
        (Bytes.trim (key ++ byte '=' :: value)).head? := by
      rw [Bytes.head?_trim_append_cons (by decide), Bytes.head?_trim_append_cons (by decide),
        Bytes.trim_append_blank hleft.isBlank]
    have hsplits := splitsAs_trim hkeyLeft (right ++ value)
    rw [Bytes.trim_append_blank hleft.isBlank, Bytes.trim_blank_append hright.isBlank] at hsplits
    have hline : IsEntry _ _ _ := ⟨hstarts, splitsAs_trim hkey value⟩
    have hentry : IsEntry _ _ _ := ⟨hstarts.of_head?_eq hhead, hsplits⟩
    rw [hentry.read_eq, hline.read_eq]
  | brackets hbefore hafter hleft hright =>
    rw [trim_padded hbefore hafter, trim_padded hbefore hafter, read_trim_header,
      read_trim_header, trim_padded hleft hright]

/-! ### Edits -/

theorem statements_of_isSkipped (hline : line.OnOneLine) (hskipped : IsSkipped line.trim) :
    statements line = [] := by
  rw [statements_of_onOneLine hline, Line.read_of_isSkipped hskipped]
  rfl

theorem Padded.statements_eq (hpadded : Padded line padded) (hline : line.OnOneLine) :
    statements padded = statements line := by
  rw [statements_of_onOneLine hline, statements_of_onOneLine (hpadded.onOneLine hline),
    hpadded.read_trim_eq]

/-- However a line ends, the texts before and after the end are read apart. -/
theorem IsLineBreak.statements_append {lineBreak : Bytes} (hbreak : IsLineBreak lineBreak)
    (before after : Bytes) :
    statements (before ++ lineBreak ++ after) = statements before ++ statements after := by
  rw [List.append_assoc]
  cases hbreak with
  | lineFeed => exact statements_append_cons before (by decide) after
  | carriageReturn => exact statements_append_cons before (by decide) after
  | both =>
    calc statements (before ++ (utf8 "\r\n" ++ after))
        = statements before ++ statements (utf8 "\n" ++ after) :=
          statements_append_cons before (by decide) _
      _ = statements before ++ (statements [] ++ statements after) := by
          rw [← statements_append_cons [] (show Byte.isLineEnd 10 = true by decide)]
          rfl
      _ = statements before ++ statements after := by rw [statements_nil, List.nil_append]

/-- No edit changes what a text says. -/
theorem Edit.statements_eq {edited : Bytes} (hedit : Edit text edited) :
    statements edited = statements text := by
  cases hedit with
  | @lineAbove before line lineBreak after hbefore hline hskipped hbreak =>
    rw [hbreak.statements_append, statements_append_of_start hbefore,
      statements_of_isSkipped hline hskipped, List.append_nil, statements_append_of_start hbefore]
  | @lineBelow before line lineBreak after hafter hline hskipped hbreak =>
    rw [List.append_assoc, hbreak.statements_append, statements_append_of_stop hafter,
      statements_of_isSkipped hline hskipped, List.nil_append, statements_append_of_stop hafter]
  | @padding text before line padded after hline hpadded =>
    rw [statements_of_isLineAt hline, statements_of_isLineAt ⟨rfl,
      hpadded.onOneLine hline.onOneLine, hline.start, hline.stop⟩,
      hpadded.statements_eq hline.onOneLine]
  | lineBreak hold hnew => rw [hold.statements_append, hnew.statements_append]

theorem statements_eq_of_eqvGen {edited : Bytes} (hedits : Relation.EqvGen Edit text edited) :
    statements text = statements edited := by
  induction hedits with
  | rel text edited hedit => exact hedit.statements_eq.symm
  | refl text => rfl
  | symm text edited _ ih => exact ih.symm
  | trans text between edited _ _ ihleft ihright => exact ihleft.trans ihright

/-- Texts that a chain of edits joins give the same settings, or neither gives any. -/
theorem layout_does_not_matter {text edited : Bytes} (hedits : Relation.EqvGen Edit text edited)
    (origin otherOrigin : Bytes) (settings : Settings) :
    (read origin text).result = .ok settings ↔
      (read otherOrigin edited).result = .ok settings :=
  read_result_eq_ok_of_statements (statements_eq_of_eqvGen hedits)

theorem commented_and_padded_text_reads_the_same :
    Relation.EqvGen Edit (utf8 "[a]\nk=v") (utf8 "[ a\t]\r\n; note\nk\t= v") ∧
      ∀ settings, (read (utf8 "plain") (utf8 "[a]\nk=v")).result = .ok settings ↔
        (read (utf8 "padded") (utf8 "[ a\t]\r\n; note\nk\t= v")).result = .ok settings := by
  have hheaderLine : Bytes.IsLineAt (utf8 "[a]\nk=v") [] (utf8 "[a]") (utf8 "\nk=v") :=
    ⟨by decide, by decide, by rintro b ⟨⟩, by rintro b ⟨⟩; rfl⟩
  have hbrackets : Edit (utf8 "[a]\nk=v") (utf8 "[ a\t]\nk=v") :=
    .padding hheaderLine <| @Padded.brackets [] (utf8 "a") [] (utf8 " ") (utf8 "\t") (by decide)
      (by decide) (by decide) (by decide)
  have hbreak : Edit (utf8 "[ a\t]\nk=v") (utf8 "[ a\t]\r\nk=v") :=
    @Edit.lineBreak (utf8 "[ a\t]") _ _ (utf8 "k=v") .lineFeed .both
  have hcomment : Edit (utf8 "[ a\t]\r\nk=v") (utf8 "[ a\t]\r\n; note\nk=v") :=
    @Edit.lineAbove (utf8 "[ a\t]\r\n") (utf8 "; note") _ (utf8 "k=v") (by rintro b ⟨⟩; rfl)
      (by decide) (by rintro b ⟨⟩; exact .inl rfl) .lineFeed
  have hentryLine : Bytes.IsLineAt (utf8 "[ a\t]\r\n; note\nk=v") (utf8 "[ a\t]\r\n; note\n")
      (utf8 "k=v") [] :=
    ⟨by decide, by decide, by rintro b ⟨⟩; rfl, by rintro b ⟨⟩⟩
  have hequals : Edit (utf8 "[ a\t]\r\n; note\nk=v") (utf8 "[ a\t]\r\n; note\nk\t= v") :=
    .padding hentryLine <| @Padded.equals (utf8 "k") (utf8 "v") (utf8 "\t") (utf8 " ")
      ⟨byte 'k', utf8 "=v", by decide⟩ (by decide) (by decide) (by decide)
  have hedits : Relation.EqvGen Edit (utf8 "[a]\nk=v") (utf8 "[ a\t]\r\n; note\nk\t= v") :=
    .trans _ _ _ (.rel _ _ hbrackets) <| .trans _ _ _ (.rel _ _ hbreak) <|
      .trans _ _ _ (.rel _ _ hcomment) (.rel _ _ hequals)
  exact ⟨hedits, layout_does_not_matter hedits (utf8 "plain") (utf8 "padded")⟩

end RouteMonitor.Settings.Ini
