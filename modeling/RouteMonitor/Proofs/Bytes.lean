import Mathlib.Data.List.DropRight
import RouteMonitor.Bytes

/-!
# What the cuts of a text keep

Each cut of a byte string is known here by what it keeps and by what undoes it: trimming leaves a
text without blanks at its ends, lines hold no line end and come back from their concatenation, and
a cut at a byte is the only way to write a text around the first occurrence of that byte. The rest
of the theory reaches the cuts only through these facts.
-/

namespace RouteMonitor

/-- What is decided of each of the 256 codes holds of every byte. -/
theorem Byte.forall_of_codes {Holds : Byte → Prop}
    (hcodes : ∀ code < 256, Holds (UInt8.ofNat code)) (b : Byte) : Holds b := by
  have hcode := hcodes b.toNat b.toNat_lt
  rwa [UInt8.ofNat_toNat] at hcode

namespace Bytes

/-- What remains starts with a byte that was not to be dropped. -/
theorem eq_false_of_mem_head?_dropWhile (drops : Byte → Bool) (text : Bytes) :
    ∀ b ∈ (text.dropWhile drops).head?, drops b = false := by
  intro b hb
  have hnot := List.head?_dropWhile_not drops text
  rw [Option.mem_def.1 hb] at hnot
  exact hnot

/-! ### Letter case -/

@[simp] theorem toLower_toLower (text : Bytes) : text.toLower.toLower = text.toLower := by
  have hbyte : ∀ b : Byte, b.toLower.toLower = b.toLower := Byte.forall_of_codes (by decide +kernel)
  simp [toLower, hbyte]

/-! ### Trimming -/

/-- A text is trimmed exactly if neither of its ends is blank. -/
theorem trim_eq_self_iff {text : Bytes} :
    text.trim = text ↔
      (∀ b ∈ text.head?, b.isBlank = false) ∧ ∀ b ∈ text.getLast?, b.isBlank = false := by
  constructor
  · intro htrim
    have hhead : text.dropWhile Byte.isBlank = text := by
      refine (text.dropWhile_suffix Byte.isBlank).eq_of_length_le ?_
      calc text.length = text.trim.length := by rw [htrim]
        _ ≤ (text.dropWhile Byte.isBlank).length := (List.rdropWhile_prefix _ _).length_le
    have hlast : text.rdropWhile Byte.isBlank = text := by
      have hboth : (text.dropWhile Byte.isBlank).rdropWhile Byte.isBlank = text := htrim
      rwa [hhead] at hboth
    refine ⟨fun b hb => ?_, fun b hb => ?_⟩
    · rw [← hhead] at hb
      exact eq_false_of_mem_head?_dropWhile Byte.isBlank text b hb
    · obtain ⟨hne, rfl⟩ := List.mem_getLast?_eq_getLast hb
      simpa using List.rdropWhile_eq_self_iff.1 hlast hne
  · intro hends
    obtain ⟨hhead, hlast⟩ := hends
    have hdrop : text.dropWhile Byte.isBlank = text := by
      cases text with
      | nil => rfl
      | cons b rest => rw [List.dropWhile_cons_of_neg (by simp [hhead b rfl])]
    show (text.dropWhile Byte.isBlank).rdropWhile Byte.isBlank = text
    rw [hdrop, List.rdropWhile_eq_self_iff]
    intro hne
    simp [hlast _ (List.getLast?_eq_some_getLast hne)]

theorem dropWhile_isBlank_append_cons {b : Byte} (hb : b.isBlank = false) (before after : Bytes) :
    (before ++ b :: after).dropWhile Byte.isBlank =
      before.dropWhile Byte.isBlank ++ b :: after := by
  rw [List.dropWhile_append]
  split
  · rename_i hempty
    rw [List.isEmpty_iff.1 hempty, List.dropWhile_cons_of_neg (by simp [hb]), List.nil_append]
  · rfl

/-- The parts around a byte that is not blank are trimmed each at its outer end. -/
theorem trim_append_cons {b : Byte} (hb : b.isBlank = false) (before after : Bytes) :
    Bytes.trim (before ++ b :: after) =
      before.dropWhile Byte.isBlank ++ b :: after.rdropWhile Byte.isBlank := by
  rw [trim, dropWhile_isBlank_append_cons hb, List.reverse_append, List.reverse_cons,
    List.append_assoc, List.singleton_append, dropWhile_isBlank_append_cons hb, List.rdropWhile]
  simp

theorem trim_cons_of_not_blank {b : Byte} (hb : b.isBlank = false) (rest : Bytes) :
    Bytes.trim (b :: rest) = b :: rest.rdropWhile Byte.isBlank :=
  trim_append_cons hb [] rest

theorem head?_trim_of_not_blank {text : Bytes} (hhead : ∀ b ∈ text.head?, b.isBlank = false) :
    text.trim.head? = text.head? := by
  cases text with
  | nil => rfl
  | cons b rest => rw [trim_cons_of_not_blank (hhead b rfl)]; rfl

theorem trim_dropWhile_isBlank (text : Bytes) :
    Bytes.trim (text.dropWhile Byte.isBlank) = text.trim := by
  rw [trim, trim, List.dropWhile_idempotent]

theorem head?_trim (text : Bytes) : text.trim.head? = (text.dropWhile Byte.isBlank).head? := by
  rw [← trim_dropWhile_isBlank,
    head?_trim_of_not_blank (eq_false_of_mem_head?_dropWhile Byte.isBlank text)]

theorem head?_trim_append_cons {b : Byte} (hb : b.isBlank = false) (before after : Bytes) :
    (Bytes.trim (before ++ b :: after)).head? = before.trim.head?.or (some b) := by
  rw [trim_append_cons hb, List.head?_append, head?_trim]
  rfl

theorem isBlank_head?_trim (text : Bytes) : ∀ b ∈ text.trim.head?, b.isBlank = false := by
  rw [head?_trim]
  exact eq_false_of_mem_head?_dropWhile Byte.isBlank text

theorem isBlank_getLast?_trim (text : Bytes) : ∀ b ∈ text.trim.getLast?, b.isBlank = false := by
  intro b hb
  obtain ⟨hne, rfl⟩ := List.mem_getLast?_eq_getLast hb
  exact Bool.not_eq_true _ ▸
    List.rdropWhile_last_not Byte.isBlank (text.dropWhile Byte.isBlank) hne

@[simp] theorem trim_trim (text : Bytes) : text.trim.trim = text.trim :=
  trim_eq_self_iff.2 ⟨isBlank_head?_trim text, isBlank_getLast?_trim text⟩

/-- A text of blanks. -/
def IsBlank (text : Bytes) : Prop := ∀ b ∈ text, b.isBlank = true

instance (text : Bytes) : Decidable text.IsBlank :=
  List.decidableBAll (fun b : Byte => b.isBlank = true) text

theorem trim_blank_append {blanks : Bytes} (hblanks : blanks.IsBlank) (text : Bytes) :
    Bytes.trim (blanks ++ text) = text.trim := by
  rw [trim, List.dropWhile_append_of_pos hblanks, trim]

theorem trim_append_blank {blanks : Bytes} (hblanks : blanks.IsBlank) (text : Bytes) :
    Bytes.trim (text ++ blanks) = text.trim := by
  rw [trim, trim, List.dropWhile_append]
  split
  · rename_i hempty
    rw [List.dropWhile_eq_nil_iff.2 hblanks, List.isEmpty_iff.1 hempty]
  · have hreverse : ∀ b ∈ blanks.reverse, b.isBlank = true := fun b hb =>
      hblanks b (List.mem_reverse.1 hb)
    rw [List.reverse_append, List.dropWhile_append_of_pos hreverse]

theorem trim_rdropWhile_isBlank (text : Bytes) :
    Bytes.trim (text.rdropWhile Byte.isBlank) = text.trim := by
  have hblanks : IsBlank (text.rtakeWhile Byte.isBlank) := fun b hb => List.mem_rtakeWhile_imp hb
  calc Bytes.trim (text.rdropWhile Byte.isBlank)
      = Bytes.trim (text.rdropWhile Byte.isBlank ++ text.rtakeWhile Byte.isBlank) :=
        (trim_append_blank hblanks _).symm
    _ = text.trim := by rw [List.rdropWhile_append_rtakeWhile]

theorem mem_of_mem_trim {text : Bytes} {b : Byte} (hmem : b ∈ text.trim) : b ∈ text :=
  (List.dropWhile_sublist _).subset ((List.rdropWhile_prefix _ _).subset hmem)

/-! ### Pieces -/

/-- A text has one more piece than it has separators. -/
theorem length_splitOnP (isSeparator : Byte → Bool) (text : Bytes) :
    (text.splitOnP isSeparator).length = text.countP isSeparator + 1 := by
  induction text with
  | nil => rfl
  | cons b rest ih =>
    rw [List.splitOnP_cons_eq_if_modifyHead, List.countP_cons]
    split
    · rw [List.length_cons, ih]
    · rw [List.length_modifyHead, ih, Nat.add_zero]

theorem length_splitOn (separator : Byte) (text : Bytes) :
    (text.splitOn separator).length = text.count separator + 1 :=
  length_splitOnP _ text

/-! ### Lines -/

/-- A text that stands on one line. -/
def OnOneLine (text : Bytes) : Prop := ∀ b ∈ text, b.isLineEnd = false

instance (text : Bytes) : Decidable text.OnOneLine :=
  List.decidableBAll (fun b : Byte => b.isLineEnd = false) text

theorem OnOneLine.of_subset {part text : Bytes} (htext : text.OnOneLine)
    (hsubset : ∀ b ∈ part, b ∈ text) : part.OnOneLine :=
  fun b hb => htext b (hsubset b hb)

theorem OnOneLine.append {left right : Bytes} (hleft : left.OnOneLine)
    (hright : right.OnOneLine) : (left ++ right).OnOneLine := by
  intro b hb
  rcases List.mem_append.1 hb with hb | hb
  · exact hleft b hb
  · exact hright b hb

theorem onOneLine_of_mem_lines {text line : Bytes} (hline : line ∈ text.lines) :
    line.OnOneLine := by
  induction text generalizing line with
  | nil =>
    obtain rfl : line = [] := by simpa [lines] using hline
    intro b hb
    exact absurd hb List.not_mem_nil
  | cons b rest ih =>
    rw [lines, List.splitOnP_cons_eq_if_modifyHead] at hline
    obtain ⟨first, others, hsplit⟩ := List.exists_cons_of_ne_nil
      (List.splitOnP_ne_nil Byte.isLineEnd rest)
    have hmem : ∀ other : Bytes, other ∈ first :: others → other.OnOneLine := fun other hother => by
      apply ih
      rwa [lines, hsplit]
    split at hline
    · rcases List.mem_cons.1 hline with rfl | hline
      · intro c hc
        exact absurd hc List.not_mem_nil
      · exact ih hline
    · rename_i hb
      rw [hsplit, List.modifyHead_cons] at hline
      rcases List.mem_cons.1 hline with rfl | hline
      · intro c hc
        rcases List.mem_cons.1 hc with rfl | hc
        · simpa using hb
        · exact hmem first List.mem_cons_self c hc
      · exact hmem line (List.mem_cons_of_mem _ hline)

theorem lines_append_lineEnd {line : Bytes} (hline : line.OnOneLine) {b : Byte}
    (hb : b.isLineEnd = true) (rest : Bytes) :
    (line ++ b :: rest).lines = line :: rest.lines :=
  List.splitOnP_append_cons_of_forall_mem hline b hb rest

/-- Lines that are each ended come back, and the last end opens one more. -/
theorem lines_flatMap_lineEnd {texts : List Bytes} (htexts : ∀ text ∈ texts, text.OnOneLine) :
    Bytes.lines (texts.flatMap fun text => text ++ utf8 "\n") = texts ++ [[]] := by
  induction texts with
  | nil => rfl
  | cons text texts ih =>
    have hend : utf8 "\n" = [10] := by decide
    rw [List.flatMap_cons, hend, List.append_assoc, List.cons_append, List.nil_append,
      lines_append_lineEnd (htexts text List.mem_cons_self) (by decide), ← hend,
      ih fun other hother => htexts other (List.mem_cons_of_mem _ hother)]
    rfl

/-! ### Texts without blanks -/

/-- A text without blanks. Such a text keeps its ends and stands on one line. -/
def IsUnspaced (text : Bytes) : Prop := ∀ b ∈ text, b.isBlank = false

instance (text : Bytes) : Decidable text.IsUnspaced :=
  List.decidableBAll (fun b : Byte => b.isBlank = false) text

theorem IsUnspaced.trim_eq_self {text : Bytes} (htext : text.IsUnspaced) : text.trim = text :=
  trim_eq_self_iff.2 ⟨fun b hb => htext b (List.mem_of_mem_head? hb),
    fun b hb => htext b (List.mem_of_mem_getLast? hb)⟩

theorem IsUnspaced.onOneLine {text : Bytes} (htext : text.IsUnspaced) : text.OnOneLine := by
  have hbyte : ∀ b : Byte, b.isBlank = false → b.isLineEnd = false :=
    Byte.forall_of_codes (by decide +kernel)
  exact fun b hb => hbyte b (htext b hb)

/-! ### Cuts at one byte -/

/-- A cut at a byte is the only way to write a text around the first occurrence of that byte. -/
theorem cut?_eq_some_iff {text before after : Bytes} {separator : Byte} :
    text.cut? [separator] = some (before, after) ↔
      text = before ++ separator :: after ∧ separator ∉ before := by
  induction text generalizing before with
  | nil => simp [cut?]
  | cons b rest ih =>
    rw [cut?]
    by_cases hb : separator = b
    · subst hb
      rw [if_pos (by simp)]
      cases before with
      | nil => simp [eq_comm]
      | cons c before => simp only [List.mem_cons, not_or]; grind
    · rw [if_neg (by simpa using hb)]
      constructor
      · intro hmap
        obtain ⟨⟨front, back⟩, hcut, hpair⟩ := Option.map_eq_some_iff.1 hmap
        obtain ⟨rfl, rfl⟩ := Prod.mk.inj hpair
        obtain ⟨rfl, hnot⟩ := ih.1 hcut
        exact ⟨rfl, by simp [hb, hnot]⟩
      · intro hparts
        obtain ⟨htext, hnot⟩ := hparts
        cases before with
        | nil => exact absurd (List.cons.inj htext).1.symm hb
        | cons c before =>
          obtain ⟨rfl, hrest⟩ := List.cons.inj htext
          rw [ih.2 ⟨hrest, fun hmem => hnot (List.mem_cons_of_mem _ hmem)⟩]
          rfl

theorem cut?_eq_none_iff {text : Bytes} {separator : Byte} :
    text.cut? [separator] = none ↔ separator ∉ text := by
  induction text with
  | nil => simp [cut?]
  | cons b rest ih =>
    rw [cut?]
    by_cases hb : separator = b
    · simp [hb]
    · rw [if_neg (by simpa using hb), Option.map_eq_none_iff, ih]
      simp [hb]

/-- A cut at a longer separator, too, leaves out nothing but the separator. -/
theorem eq_append_of_cut? {text separator before after : Bytes}
    (hcut : text.cut? separator = some (before, after)) : text = before ++ separator ++ after := by
  induction text generalizing before with
  | nil => cases hcut
  | cons b rest ih =>
    rw [cut?] at hcut
    split at hcut
    · rename_i hprefix
      obtain ⟨rfl, rfl⟩ := Prod.mk.inj (Option.some.inj hcut)
      obtain ⟨back, hback⟩ := List.isPrefixOf_iff_prefix.1 hprefix
      rw [← hback, List.drop_left, List.nil_append]
    · obtain ⟨⟨front, back⟩, hfront, hpair⟩ := Option.map_eq_some_iff.1 hcut
      obtain ⟨rfl, rfl⟩ := Prod.mk.inj hpair
      rw [ih hfront, List.cons_append, List.cons_append]

theorem cutLast?_eq_some_iff {text before after : Bytes} {separator : Byte} :
    text.cutLast? separator = some (before, after) ↔
      text = before ++ separator :: after ∧ separator ∉ after := by
  have hreverse : text = before ++ separator :: after ↔
      text.reverse = after.reverse ++ separator :: before.reverse := by
    rw [← List.reverse_inj]
    simp
  rw [cutLast?, Option.map_eq_some_iff, hreverse, ← List.mem_reverse, ← cut?_eq_some_iff]
  constructor
  · intro hparts
    obtain ⟨⟨front, back⟩, hcut, hpair⟩ := hparts
    obtain ⟨rfl, rfl⟩ := Prod.mk.inj hpair
    rwa [List.reverse_reverse, List.reverse_reverse]
  · intro hcut
    exact ⟨_, hcut, by simp⟩

theorem cutLast?_append_cons {after : Bytes} {separator : Byte} (hafter : separator ∉ after)
    (before : Bytes) :
    (before ++ separator :: after).cutLast? separator = some (before, after) :=
  cutLast?_eq_some_iff.2 ⟨rfl, hafter⟩

/-! ### The part before a NUL byte -/

theorem untilNul_eq_self {text : Bytes} (htext : 0 ∉ text) : text.untilNul = text := by
  rw [untilNul, List.takeWhile_eq_self_iff]
  intro b hb
  simpa using ne_of_mem_of_not_mem hb htext

theorem untilNul_append_of_mem {left : Bytes} (hleft : 0 ∈ left) (right : Bytes) :
    (left ++ right).untilNul = left.untilNul := by
  induction left with
  | nil => exact absurd hleft List.not_mem_nil
  | cons b rest ih =>
    by_cases hb : b = 0
    · simp [untilNul, hb]
    · have hrest : 0 ∈ rest := (List.mem_cons.1 hleft).resolve_left (Ne.symm hb)
      simpa [untilNul, hb] using ih hrest

theorem untilNul_append_of_not_mem {left : Bytes} (hleft : 0 ∉ left) (right : Bytes) :
    (left ++ right).untilNul = left ++ right.untilNul := by
  rw [untilNul, List.takeWhile_append_of_pos, untilNul]
  intro b hb
  simpa using ne_of_mem_of_not_mem hb hleft

theorem untilNul_eq_iff {text front : Bytes} :
    text.untilNul = front ↔
      0 ∉ front ∧ (text = front ∨ ∃ rest, text = front ++ 0 :: rest) := by
  constructor
  · intro hfront
    subst hfront
    refine ⟨fun hmem => by simpa using List.mem_takeWhile_imp hmem, ?_⟩
    have hsplit : text.untilNul ++ text.dropWhile (· != 0) = text :=
      List.takeWhile_append_dropWhile
    cases hrest : text.dropWhile (· != 0) with
    | nil =>
      rw [hrest, List.append_nil] at hsplit
      exact .inl hsplit.symm
    | cons b rest =>
      have hstop := eq_false_of_mem_head?_dropWhile (· != 0) text b (by rw [hrest]; rfl)
      obtain rfl : b = 0 := by simpa using hstop
      exact .inr ⟨rest, by rw [← hrest, hsplit]⟩
  · intro hparts
    obtain ⟨hnot, rfl | ⟨rest, rfl⟩⟩ := hparts
    · exact untilNul_eq_self hnot
    · rw [untilNul_append_of_not_mem hnot]
      exact List.append_nil front

theorem mem_untilNul_append {left : Bytes} {b : Byte} (hb : b ∈ left.untilNul) (right : Bytes) :
    b ∈ (left ++ right).untilNul := by
  by_cases hnul : 0 ∈ left
  · rwa [untilNul_append_of_mem hnul]
  · rw [untilNul_append_of_not_mem hnul]
    exact List.mem_append_left _ ((List.takeWhile_prefix _).subset hb)

end Bytes

end RouteMonitor
