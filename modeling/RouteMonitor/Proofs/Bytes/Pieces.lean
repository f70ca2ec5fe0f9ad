import Mathlib.Data.List.Basic
import RouteMonitor.Bytes

/-!
# Texts made of pieces

Numeric literals are pieces joined by a one-byte separator. A byte of such a text is the separator
or belongs to a piece, the text is about as long as its pieces, and if no piece is empty or holds
the separator, a doubled separator occurs only where one is put after the pieces.
-/

namespace RouteMonitor.Bytes

variable {pieces : List Bytes} {separator b : Byte}

theorem eq_or_mem_of_mem_intercalate (hmem : b ∈ [separator].intercalate pieces) :
    b = separator ∨ ∃ piece ∈ pieces, b ∈ piece := by
  induction pieces with
  | nil => exact absurd hmem List.not_mem_nil
  | cons piece pieces ih =>
    cases pieces with
    | nil =>
      rw [List.intercalate_singleton] at hmem
      exact .inr ⟨piece, List.mem_singleton_self piece, hmem⟩
    | cons next pieces =>
      rw [List.intercalate_cons_cons, List.append_assoc] at hmem
      rcases List.mem_append.1 hmem with hpiece | hrest
      · exact .inr ⟨piece, List.mem_cons_self, hpiece⟩
      rcases List.mem_cons.1 hrest with hseparator | hrest
      · exact .inl hseparator
      rcases ih hrest with hseparator | hlater
      · exact .inl hseparator
      · obtain ⟨later, hlater, hb⟩ := hlater
        exact .inr ⟨later, List.mem_cons_of_mem _ hlater, hb⟩

theorem mem_intercalate_cons_cons (piece next : Bytes) (pieces : List Bytes) :
    separator ∈ [separator].intercalate (piece :: next :: pieces) := by
  simp [List.intercalate_cons_cons]

theorem length_intercalate_le {limit : Nat} (hpieces : ∀ piece ∈ pieces, piece.length ≤ limit) :
    ([separator].intercalate pieces).length ≤ pieces.length * (limit + 1) := by
  induction pieces with
  | nil => simp
  | cons piece pieces ih =>
    have hpiece := hpieces piece List.mem_cons_self
    cases pieces with
    | nil =>
      rw [List.intercalate_singleton, List.length_singleton]
      omega
    | cons next pieces =>
      have hrest := ih fun later hlater => hpieces later (List.mem_cons_of_mem _ hlater)
      have hcount : (piece :: next :: pieces).length * (limit + 1) =
          (next :: pieces).length * (limit + 1) + (limit + 1) := Nat.succ_mul _ _
      rw [List.intercalate_cons_cons, List.length_append, List.length_append,
        List.length_singleton, hcount]
      omega

/-! ### Where a doubled separator is cut -/

theorem cut?_double_append_of_not_mem {piece : Bytes} (hpiece : separator ∉ piece) (text : Bytes) :
    (piece ++ text).cut? [separator, separator] =
      (text.cut? [separator, separator]).map fun (before, after) => (piece ++ before, after) := by
  induction piece with
  | nil => simp
  | cons b piece ih =>
    have hb : separator ≠ b := fun heq => hpiece (heq ▸ List.mem_cons_self)
    rw [List.cons_append, cut?, if_neg (by simp [hb]),
      ih fun hmem => hpiece (List.mem_cons_of_mem _ hmem), Option.map_map]
    rfl

theorem cut?_double_cons_of_ne (hb : separator ≠ b) (text : Bytes) :
    Bytes.cut? (separator :: b :: text) [separator, separator] =
      (Bytes.cut? (b :: text) [separator, separator]).map fun (before, after) =>
        (separator :: before, after) := by
  rw [cut?, if_neg (by simp [hb])]

theorem cut?_double_append_self (text : Bytes) :
    Bytes.cut? ([separator, separator] ++ text) [separator, separator] = some ([], text) := by
  simp [cut?]

/-- No cut falls into joined pieces or onto the border after them. -/
theorem cut?_double_intercalate_append
    (hpieces : ∀ piece ∈ pieces, piece ≠ [] ∧ separator ∉ piece) (text : Bytes) :
    Bytes.cut? ([separator].intercalate pieces ++ text) [separator, separator] =
      (text.cut? [separator, separator]).map fun (before, after) =>
        ([separator].intercalate pieces ++ before, after) := by
  induction pieces with
  | nil => simp
  | cons piece pieces ih =>
    have hpiece := (hpieces piece List.mem_cons_self).2
    cases pieces with
    | nil => rw [List.intercalate_singleton, cut?_double_append_of_not_mem hpiece]
    | cons next pieces =>
      have hrest := ih fun later hlater => hpieces later (List.mem_cons_of_mem _ hlater)
      obtain ⟨hnext, hnot⟩ := hpieces next (by simp)
      obtain ⟨first, others, rfl⟩ := List.exists_cons_of_ne_nil hnext
      have hfirst : separator ≠ first := fun heq => hnot (heq ▸ List.mem_cons_self)
      rw [List.intercalate_cons_cons, List.append_assoc, List.append_assoc,
        cut?_double_append_of_not_mem hpiece]
      rw [List.intercalate_cons_cons_left] at hrest ⊢
      rw [List.cons_append, List.nil_append, List.cons_append, cut?_double_cons_of_ne hfirst,
        ← List.cons_append, hrest, Option.map_map, Option.map_map]
      simp [Function.comp_def]

end RouteMonitor.Bytes
