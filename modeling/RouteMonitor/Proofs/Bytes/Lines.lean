import RouteMonitor.Proofs.Bytes

/-!
# Lines in their places

A line of a text is a piece without line ends that reaches from one line end, or from the start, to
the next one, or to the end. `IsLineAt` says this of the text alone, with what stands before and
after the line. Places correspond to positions in the list of lines, and the number of line ends
before a place is the number of lines above it.
-/

namespace RouteMonitor.Bytes

structure IsLineAt (text before line after : Bytes) : Prop where
  text_eq : text = before ++ line ++ after
  onOneLine : line.OnOneLine
  start : ∀ b ∈ before.getLast?, b.isLineEnd = true
  stop : ∀ b ∈ after.head?, b.isLineEnd = true

variable {text before line after : Bytes}

theorem lines_of_onOneLine (hline : line.OnOneLine) : line.lines = [line] :=
  List.splitOnP_eq_singleton hline

theorem lines_append_cons (before : Bytes) {b : Byte} (hb : b.isLineEnd = true) (rest : Bytes) :
    (before ++ b :: rest).lines = before.lines ++ rest.lines :=
  List.splitOnP_append_cons before rest hb

theorem length_lines (text : Bytes) : text.lines.length = text.countP Byte.isLineEnd + 1 :=
  length_splitOnP Byte.isLineEnd text

/-- The first line of a text is the whole, or ends at the first line end. -/
theorem first_line_cases {others : List Bytes} (hlines : text.lines = line :: others) :
    line.OnOneLine ∧ (text = line ∧ others = [] ∨
      ∃ b, ∃ rest : Bytes, text = line ++ b :: rest ∧ b.isLineEnd = true ∧
        others = rest.lines) := by
  have hfirst : OnOneLine (text.takeWhile fun b => !b.isLineEnd) := fun b hb => by
    simpa using List.mem_takeWhile_imp hb
  have hsplit : (text.takeWhile fun b => !b.isLineEnd) ++ text.dropWhile (fun b => !b.isLineEnd) =
      text := List.takeWhile_append_dropWhile
  cases hdrop : text.dropWhile fun b => !b.isLineEnd with
  | nil =>
    rw [hdrop, List.append_nil] at hsplit
    rw [hsplit] at hfirst
    rw [lines_of_onOneLine hfirst] at hlines
    obtain ⟨rfl, rfl⟩ := List.cons.inj hlines
    exact ⟨hfirst, .inl ⟨rfl, rfl⟩⟩
  | cons b rest =>
    have hb : b.isLineEnd = true := by
      have hhead := eq_false_of_mem_head?_dropWhile (fun b : Byte => !b.isLineEnd) text b
      simpa [hdrop] using hhead
    rw [hdrop] at hsplit
    rw [← hsplit, lines_append_lineEnd hfirst hb] at hlines
    obtain ⟨rfl, rfl⟩ := List.cons.inj hlines
    exact ⟨hfirst, .inr ⟨b, rest, hsplit.symm, hb, rfl⟩⟩

/-! ### Places and positions -/

theorem IsLineAt.exists_lines_eq (hline : IsLineAt text before line after) :
    ∃ above below, text.lines = above ++ line :: below ∧ before.lines = above ++ [[]] := by
  have hrest : ∃ below, Bytes.lines (line ++ after) = line :: below := by
    cases after with
    | nil => exact ⟨[], by rw [List.append_nil, lines_of_onOneLine hline.onOneLine]⟩
    | cons b rest => exact ⟨_, lines_append_lineEnd hline.onOneLine (hline.stop b rfl) rest⟩
  obtain ⟨below, hbelow⟩ := hrest
  rcases List.eq_nil_or_concat' before with rfl | ⟨front, b, rfl⟩
  · exact ⟨[], below, by rw [hline.text_eq, List.nil_append, hbelow, List.nil_append], rfl⟩
  · have hb : b.isLineEnd = true := hline.start b (by simp)
    refine ⟨Bytes.lines front, below, ?_, lines_append_cons front hb []⟩
    rw [hline.text_eq, List.append_assoc, List.append_assoc, List.singleton_append,
      lines_append_cons front hb, hbelow]

theorem exists_isLineAt {above below : List Bytes} (hlines : text.lines = above ++ line :: below) :
    ∃ before after, IsLineAt text before line after ∧ before.lines = above ++ [[]] := by
  induction above generalizing text with
  | nil =>
    obtain ⟨honOneLine, ⟨rfl, -⟩ | ⟨b, rest, rfl, hb, -⟩⟩ := first_line_cases hlines
    · exact ⟨[], [], ⟨by simp, honOneLine, by simp, by simp⟩, rfl⟩
    · exact ⟨[], b :: rest, ⟨rfl, honOneLine, by simp, by simp [hb]⟩, rfl⟩
  | cons first above ih =>
    obtain ⟨honOneLine, ⟨-, hnone⟩ | ⟨b, rest, rfl, hb, hrest⟩⟩ := first_line_cases hlines
    · exact absurd hnone (by simp)
    · obtain ⟨before, after, hplace, hbefore⟩ := ih hrest.symm
      refine ⟨first ++ b :: before, after, ⟨?_, hplace.onOneLine, ?_, hplace.stop⟩, ?_⟩
      · simp [hplace.text_eq]
      · intro c hc
        rw [List.getLast?_append, List.getLast?_cons] at hc
        cases hlast : before.getLast? with
        | none => simp_all
        | some last => exact hplace.start c (by simp_all)
      · rw [lines_append_lineEnd honOneLine hb, hbefore, List.cons_append]

theorem length_of_lines_eq_append {above : List Bytes} (hbefore : before.lines = above ++ [[]]) :
    above.length = before.countP Byte.isLineEnd := by
  have hlength := length_lines before
  rw [hbefore, List.length_append, List.length_singleton] at hlength
  omega

/-- Of two places in a text, the one with fewer line ends before it comes first. -/
theorem IsLineAt.length_lt {otherBefore otherLine otherAfter : Bytes}
    (hline : IsLineAt text before line after)
    (hother : IsLineAt text otherBefore otherLine otherAfter)
    (hcount : before.countP Byte.isLineEnd < otherBefore.countP Byte.isLineEnd) :
    before.length < otherBefore.length := by
  by_contra hle
  have hprefix : otherBefore <+: before := by
    have hleft : otherBefore <+: text :=
      ⟨otherLine ++ otherAfter, by rw [hother.text_eq, List.append_assoc]⟩
    have hright : before <+: text := ⟨line ++ after, by rw [hline.text_eq, List.append_assoc]⟩
    exact List.prefix_of_prefix_length_le hleft hright (by omega)
  have hless : otherBefore.countP Byte.isLineEnd ≤ before.countP Byte.isLineEnd :=
    hprefix.sublist.countP_le
  omega

end RouteMonitor.Bytes
