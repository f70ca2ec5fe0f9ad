import RouteMonitor.Proofs.Bytes.Lines
import RouteMonitor.Proofs.Outcome
import RouteMonitor.Settings.Ini

/-!
# The statements of a text

Reading looks at a text only through what its lines say, in order; a line that says nothing might as
well not be there. `statements` is what is left of a text then, and reading is a fold over it that
neither the numbers of the lines nor the origin of the text enter. Texts that are joined by a line
end have the statements of both.
-/

namespace RouteMonitor.Settings.Ini

/-- What the lines of a text say, without those that say nothing. -/
def statements (text : Bytes) : List Line :=
  (text.lines.map fun line => Line.read line.trim).filter (· ≠ .skipped)

/-- What a statement makes of a reader that accepts it. -/
def Reader.obey? (reader : Reader) : Line → Option Reader
  | .skipped => some reader
  | .header name => some ⟨reader.settings.openSection name, some name⟩
  | .store key entry => reader.current.map fun sectionName =>
    { reader with settings := reader.settings.put sectionName key entry }
  | .badHeader | .badEntry => none

/-! ### Reading is a fold -/

variable {origin text line : Bytes} {number : Nat} {reader : Reader}

theorem toOption_step (origin : Bytes) (number : Nat) (text : Bytes) (reader : Reader) :
    (reader.step origin number text).result.toOption = reader.obey? (Line.read text) := by
  rw [Reader.step]
  cases Line.read text with
  | skipped => rfl
  | header name => rfl
  | badHeader => rfl
  | badEntry => rfl
  | store key entry =>
    rw [Reader.obey?]
    cases reader.current with
    | none => rfl
    | some sectionName => rfl

theorem toOption_run (origin : Bytes) (number : Nat) (lines : List Bytes) (reader : Reader) :
    (Reader.run origin number lines reader).result.toOption =
      (lines.map fun line => Line.read line.trim).foldlM Reader.obey? reader := by
  induction lines generalizing number reader with
  | nil => rfl
  | cons line lines ih =>
    have hstep := toOption_step origin number line.trim reader
    rw [Reader.run, List.map_cons, List.foldlM_cons, ← hstep]
    cases hresult : (reader.step origin number line.trim).result with
    | error error => rw [LoadM.result_bind_of_error hresult]; rfl
    | ok next => rw [LoadM.result_bind_of_ok hresult]; exact ih (number + 1) next

theorem foldlM_filter_skipped (lines : List Line) (reader : Reader) :
    (lines.filter (· ≠ .skipped)).foldlM Reader.obey? reader =
      lines.foldlM Reader.obey? reader := by
  induction lines generalizing reader with
  | nil => rfl
  | cons line lines ih =>
    by_cases hline : line = .skipped
    · rw [List.filter_cons_of_neg (by simp [hline]), ih, hline]
      rfl
    · rw [List.filter_cons_of_pos (by simp [hline]), List.foldlM_cons, List.foldlM_cons]
      exact congrArg _ (funext ih)

/-- What a text gives depends on its statements alone. -/
theorem toOption_read (origin text : Bytes) :
    (read origin text).result.toOption =
      ((statements text).foldlM Reader.obey? .initial).map Reader.settings := by
  rw [statements, foldlM_filter_skipped, ← toOption_run origin 1, read]
  cases hrun : (Reader.run origin 1 text.lines .initial).result with
  | error error => rw [LoadM.result_bind_of_error hrun]; rfl
  | ok reader => rw [LoadM.result_bind_of_ok hrun]; rfl

theorem eq_ok_iff_toOption_eq_some {ε α : Type} {result : Except ε α} {value : α} :
    result = .ok value ↔ result.toOption = some value := by
  cases result with
  | error error => simp [Except.toOption]
  | ok found => simp [Except.toOption]

theorem read_result_eq_ok_of_statements {otherOrigin other : Bytes} {settings : Settings}
    (hstatements : statements text = statements other) :
    (read origin text).result = .ok settings ↔ (read otherOrigin other).result = .ok settings := by
  rw [eq_ok_iff_toOption_eq_some, eq_ok_iff_toOption_eq_some, toOption_read, toOption_read,
    hstatements]

/-! ### Statements of joined texts -/

@[simp] theorem statements_nil : statements [] = [] := rfl

theorem statements_of_onOneLine (hline : line.OnOneLine) :
    statements line = [Line.read line.trim].filter (· ≠ .skipped) := by
  rw [statements, Bytes.lines_of_onOneLine hline, List.map_singleton]

theorem statements_append_cons (before : Bytes) {b : Byte} (hb : b.isLineEnd = true)
    (rest : Bytes) : statements (before ++ b :: rest) = statements before ++ statements rest := by
  rw [statements, Bytes.lines_append_cons before hb, List.map_append, List.filter_append]
  rfl

/-- A text that ends where a line ends is read before what follows. -/
theorem statements_append_of_start {before : Bytes}
    (hbefore : ∀ b ∈ before.getLast?, b.isLineEnd = true) (rest : Bytes) :
    statements (before ++ rest) = statements before ++ statements rest := by
  rcases List.eq_nil_or_concat' before with rfl | ⟨front, b, rfl⟩
  · rfl
  · have hb : b.isLineEnd = true := hbefore b (by simp)
    rw [List.append_assoc, List.singleton_append, statements_append_cons front hb,
      statements_append_cons front hb, statements_nil, List.append_nil]

theorem statements_append_of_stop {after : Bytes}
    (hafter : ∀ b ∈ after.head?, b.isLineEnd = true) (text : Bytes) :
    statements (text ++ after) = statements text ++ statements after := by
  cases after with
  | nil => rw [statements_nil, List.append_nil, List.append_nil]
  | cons b rest =>
    have hb : b.isLineEnd = true := hafter b rfl
    rw [statements_append_cons text hb, ← List.nil_append (b :: rest),
      statements_append_cons [] hb, statements_nil, List.nil_append]

theorem statements_of_isLineAt {before after : Bytes}
    (hline : Bytes.IsLineAt text before line after) :
    statements text = statements before ++ (statements line ++ statements after) := by
  rw [hline.text_eq, List.append_assoc, statements_append_of_start hline.start,
    statements_append_of_stop hline.stop]

end RouteMonitor.Settings.Ini
