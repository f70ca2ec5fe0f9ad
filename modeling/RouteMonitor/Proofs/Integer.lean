import RouteMonitor.Integer
import RouteMonitor.Proofs.Bytes
import RouteMonitor.Proofs.Bytes.Digits

/-!
# Integers and their texts

Every integer of a width is read back from its decimal text. An unsigned width holds no negative
number, so the minus sign is written only where it is read.
-/

namespace RouteMonitor.Integer

variable {width : Width}

theorem takeWhile_isDigit_ofNat (number : Nat) :
    (Decimal.ofNat number).takeWhile Byte.isDigit = Decimal.ofNat number :=
  List.takeWhile_eq_self_iff.2 fun _ hmem => Decimal.isDigit_of_mem_ofNat hmem

theorem readMagnitude_ofNat (integer : Integer width) {negative : Bool} {number : Nat}
    (hvalue : (if negative then -(number : Int) else number) = integer.value) :
    readMagnitude width negative (Decimal.ofNat number) = .ok integer := by
  have hdigits : (Decimal.ofNat number).all Byte.isDigit = true :=
    List.all_eq_true.2 fun _ hmem => Decimal.isDigit_of_mem_ofNat hmem
  unfold readMagnitude
  simp only [takeWhile_isDigit_ofNat, Decimal.value_ofNat, hvalue]
  rw [if_neg Decimal.ofNat_ne_nil, dif_pos integer.inRange, if_pos hdigits]

theorem signed_of_neg {integer : Integer width} (hnegative : integer.value < 0) :
    width.signed = true := by
  have hleast := integer.inRange.1
  rw [Width.least] at hleast
  split at hleast
  · assumption
  · omega

theorem read_ofNat (width : Width) (number : Nat) :
    read width (Decimal.ofNat number) = readMagnitude width false (Decimal.ofNat number) := by
  have hsign : ∀ sign ∈ Decimal.ofNat number, sign ≠ byte '+' ∧ sign ≠ byte '-' := by
    intro sign hmem
    constructor
    · rintro rfl
      exact absurd (Decimal.isDigit_of_mem_ofNat hmem) (by decide)
    · rintro rfl
      exact absurd (Decimal.isDigit_of_mem_ofNat hmem) (by decide)
  obtain ⟨first, rest, hdigits⟩ := List.exists_cons_of_ne_nil (@Decimal.ofNat_ne_nil number)
  rw [hdigits] at hsign ⊢
  obtain ⟨hplus, hminus⟩ := hsign first List.mem_cons_self
  rw [read, if_neg hplus, if_neg fun hboth => hminus hboth.1]

theorem read_render (integer : Integer width) : read width integer.render = .ok integer := by
  rw [render, Decimal.ofInt]
  split
  · rename_i hnegative
    rw [read, if_neg (by decide), if_pos ⟨rfl, signed_of_neg hnegative⟩]
    exact readMagnitude_ofNat integer (by simp only [if_true]; omega)
  · rw [read_ofNat]
    exact readMagnitude_ofNat integer (by simp only [Bool.false_eq_true, if_false]; omega)

theorem isUnspaced_render (integer : Integer width) : integer.render.IsUnspaced := by
  have hdigit : ∀ b : Byte, b.isDigit = true → b.isBlank = false :=
    Byte.forall_of_codes (by decide +kernel)
  have hnumber : ∀ number, (Decimal.ofNat number).IsUnspaced := fun number b hb =>
    hdigit b (Decimal.isDigit_of_mem_ofNat hb)
  rw [render, Decimal.ofInt]
  split
  · exact List.forall_mem_cons.2 ⟨by decide, hnumber _⟩
  · exact hnumber _

end RouteMonitor.Integer
