import RouteMonitor.Proofs.Bytes

/-!
# The first word of a text

The first word is the longest run of bytes without a blank that stands behind the leading blanks.
`IsFirstWordAt` says this of the text alone, with what stands before and after the word. Every text
has exactly one first word, which is empty only in a text of blanks.
-/

namespace RouteMonitor.Bytes

/-- The text is its leading blanks, a word without blanks, and a rest that is nothing or starts with
a blank. A word may be empty only if nothing follows the blanks. -/
structure IsFirstWordAt (text before word after : Bytes) : Prop where
  text_eq : text = before ++ word ++ after
  blank : before.IsBlank
  unspaced : word.IsUnspaced
  stop : ∀ b ∈ after.head?, b.isBlank = true
  whole : word = [] → after = []

def IsFirstWord (text word : Bytes) : Prop :=
  ∃ before after, IsFirstWordAt text before word after

variable {text before word after : Bytes}

theorem isFirstWordAt_firstWord (text : Bytes) :
    IsFirstWordAt text (text.takeWhile Byte.isBlank) text.firstWord
      ((text.dropWhile Byte.isBlank).dropWhile fun b => !b.isBlank) where
  text_eq := by
    rw [firstWord, List.append_assoc, List.takeWhile_append_dropWhile,
      List.takeWhile_append_dropWhile]
  blank b hb := List.mem_takeWhile_imp hb
  unspaced b hb := by simpa using List.mem_takeWhile_imp hb
  stop b hb := by simpa using eq_false_of_mem_head?_dropWhile _ _ b hb
  whole hword := by
    have hhead := eq_false_of_mem_head?_dropWhile Byte.isBlank text
    rw [firstWord] at hword
    cases hrest : text.dropWhile Byte.isBlank with
    | nil => rfl
    | cons b rest =>
      rw [hrest] at hword hhead
      rw [List.takeWhile_cons_of_pos (by simp [hhead b rfl])] at hword
      cases hword

theorem IsFirstWordAt.firstWord_eq (hword : IsFirstWordAt text before word after) :
    text.firstWord = word := by
  obtain ⟨rfl, hblank, hunspaced, hstop, hwhole⟩ := hword
  rw [firstWord, List.append_assoc, List.dropWhile_append_of_pos hblank]
  cases word with
  | nil => rw [hwhole rfl]; rfl
  | cons b word =>
    have hafter : after.takeWhile (fun b => !b.isBlank) = [] := by
      cases after with
      | nil => rfl
      | cons c after => rw [List.takeWhile_cons_of_neg (by simp [hstop c rfl])]
    rw [List.cons_append, List.dropWhile_cons_of_neg (by simp [hunspaced b List.mem_cons_self]),
      ← List.cons_append, List.takeWhile_append_of_pos, hafter, List.append_nil]
    intro c hc
    simp [hunspaced c hc]

theorem isFirstWord_iff : IsFirstWord text word ↔ text.firstWord = word := by
  constructor
  · intro hword
    obtain ⟨before, after, hword⟩ := hword
    exact hword.firstWord_eq
  · intro hword
    exact ⟨_, _, hword ▸ isFirstWordAt_firstWord text⟩

/-- Bytes that follow a word belong to it up to the next blank. -/
theorem firstWord_append_cons {b : Byte} (hbefore : before.IsBlank) (hword : word.IsUnspaced)
    (hb : b.isBlank = false) (rest : Bytes) :
    firstWord (before ++ word ++ b :: rest) =
      word ++ b :: rest.takeWhile fun c => !c.isBlank := by
  rw [← isFirstWord_iff]
  refine ⟨before, rest.dropWhile fun c => !c.isBlank, ?_, hbefore, fun c hc => ?_, fun c hc => ?_,
    fun hempty => ?_⟩
  · simp [List.takeWhile_append_dropWhile]
  · rcases List.mem_append.1 hc with hc | hc
    · exact hword c hc
    · rcases List.mem_cons.1 hc with rfl | hc
      · exact hb
      · simpa using List.mem_takeWhile_imp hc
  · simpa using eq_false_of_mem_head?_dropWhile _ _ c hc
  · simp at hempty

end RouteMonitor.Bytes
