import Mathlib.Algebra.Group.Nat.Defs
import Mathlib.Data.List.Basic
import RouteMonitor.Bytes.Decimal
import RouteMonitor.Bytes.Hexadecimal
import RouteMonitor.Proofs.Bytes

/-!
# Numbers and their digits

Decimal and hexadecimal numbers are written by one rule: all digits but the last write the number
over the base, and the last is the remainder. What both of them promise follows from this rule by
strong induction: a number has at least one digit, it is read back from its digits, it starts with a
zero only if that is its only digit, and a power of the base bounds their count. In base ten these
are the only digits without a leading zero that stand for the number.
-/

namespace RouteMonitor

namespace Digits

variable {base number : Nat}

def ofDigit (digit : Nat) : Byte := byte digit.digitChar

def written (base number : Nat) : Bytes := (Nat.toDigits base number).map byte

theorem written_eq (hbase : 1 < base) (number : Nat) :
    written base number =
      if number < base then [ofDigit number]
      else written base (number / base) ++ [ofDigit (number % base)] := by
  rw [written, Nat.toDigits_eq_if hbase]
  split
  · rfl
  · rw [List.map_append]
    rfl

theorem written_ne_nil : written base number ≠ [] := by
  simp [written]

theorem length_written_le (hbase : 1 < base) {limit : Nat} (hlimit : 0 < limit)
    (hnumber : number < base ^ limit) : (written base number).length ≤ limit := by
  rw [written, List.length_map]
  exact (Nat.length_toDigits_le_iff hbase hlimit).2 hnumber

theorem exists_digit_of_mem_written (hbase : 1 < base) {b : Byte} (hmem : b ∈ written base number) :
    ∃ digit < base, b = ofDigit digit := by
  induction number using Nat.strongRecOn with
  | ind number ih =>
    rw [written_eq hbase] at hmem
    split at hmem
    · rename_i hsmall
      exact ⟨number, hsmall, List.mem_singleton.1 hmem⟩
    · rename_i hlarge
      rcases List.mem_append.1 hmem with hfront | hlast
      · exact ih (number / base) (Nat.div_lt_self (by omega) hbase) hfront
      · exact ⟨number % base, Nat.mod_lt _ (by omega), List.mem_singleton.1 hlast⟩

/-- The value of the digits, where each byte counts by some weight that is right for digits. -/
theorem foldl_written (hbase : 1 < base) {weight : Byte → Nat}
    (hweight : ∀ digit < base, weight (ofDigit digit) = digit) (number : Nat) :
    (written base number).foldl (fun total b => base * total + weight b) 0 = number := by
  induction number using Nat.strongRecOn with
  | ind number ih =>
    rw [written_eq hbase]
    split
    · rename_i hsmall
      simp [hweight number hsmall]
    · rename_i hlarge
      rw [List.foldl_append, ih (number / base) (Nat.div_lt_self (by omega) hbase)]
      simp [hweight (number % base) (Nat.mod_lt _ (by omega)), Nat.div_add_mod]

theorem head?_written_ne_zero (hbase : 1 < base) (hsixteen : base ≤ 16) (hpos : 0 < number) :
    (written base number).head? ≠ some (byte '0') := by
  have hdigit : ∀ digit < 16, 0 < digit → ofDigit digit ≠ byte '0' := by decide
  induction number using Nat.strongRecOn with
  | ind number ih =>
    rw [written_eq hbase]
    split
    · rename_i hsmall
      simpa using hdigit number (by omega) hpos
    · rename_i hlarge
      have hquotient : 0 < number / base := Nat.div_pos (by omega) (by omega)
      have hfront := ih (number / base) (Nat.div_lt_self hpos hbase) hquotient
      rwa [List.head?_append_of_ne_nil _ written_ne_nil]

end Digits

/-! ### Decimal numbers -/

namespace Decimal

open Digits

variable {number : Nat}

theorem ofNat_ne_nil : ofNat number ≠ [] := written_ne_nil

theorem isDigit_of_mem_ofNat {b : Byte} (hmem : b ∈ ofNat number) : b.isDigit = true := by
  have hall : ∀ digit < 10, (ofDigit digit).isDigit = true := by decide
  obtain ⟨digit, hdigit, rfl⟩ := exists_digit_of_mem_written (by omega) hmem
  exact hall digit hdigit

@[simp] theorem value_ofNat (number : Nat) : value (ofNat number) = number :=
  foldl_written (by omega) (by decide) number

@[simp] theorem nat?_ofNat (number : Nat) : nat? (ofNat number) = some number := by
  have hdigits : (ofNat number).all Byte.isDigit = true :=
    List.all_eq_true.2 fun _ hmem => isDigit_of_mem_ofNat hmem
  rw [nat?, if_pos ⟨ofNat_ne_nil, hdigits⟩, value_ofNat]

theorem length_ofNat_le {limit : Nat} (hlimit : 0 < limit) (hnumber : number < 10 ^ limit) :
    (ofNat number).length ≤ limit :=
  length_written_le (by omega) hlimit hnumber

theorem ofNat_not_zero_first (number : Nat) :
    (ofNat number).length = 1 ∨ (ofNat number).head? ≠ some (byte '0') := by
  rcases Nat.eq_zero_or_pos number with hzero | hpos
  · left
    rw [hzero]
    rfl
  · exact .inr (head?_written_ne_zero (by omega) (by omega) hpos)

theorem nat?_eq_some_iff {text : Bytes} : nat? text = some number ↔
    text ≠ [] ∧ (∀ b ∈ text, b.isDigit = true) ∧ value text = number := by
  rw [nat?, Option.ite_none_right_eq_some, List.all_eq_true, Option.some.injEq, and_assoc]

theorem isDigit_of_mem_of_nat? {text : Bytes} (hread : nat? text = some number) :
    ∀ b ∈ text, b.isDigit = true :=
  (nat?_eq_some_iff.1 hread).2.1

/-! ### Digits without a leading zero -/

theorem digit_lt_and_ofDigit_eq {b : Byte} (hdigit : b.isDigit = true) :
    b.toNat - (byte '0').toNat < 10 ∧ ofDigit (b.toNat - (byte '0').toNat) = b := by
  have hcodes : ∀ b : Byte, b.isDigit = true →
      b.toNat - (byte '0').toNat < 10 ∧ ofDigit (b.toNat - (byte '0').toNat) = b :=
    Byte.forall_of_codes (by decide +kernel)
  exact hcodes b hdigit

theorem value_append_singleton (front : Bytes) (last : Byte) :
    value (front ++ [last]) = 10 * value front + (last.toNat - (byte '0').toNat) := by
  rw [value, List.foldl_append]
  rfl

theorem ofNat_of_lt {digit : Nat} (hdigit : digit < 10) : ofNat digit = [ofDigit digit] := by
  rw [ofNat, ← written, written_eq (by omega), if_pos hdigit]

theorem ofNat_append_digit {digit : Nat} (hpos : 0 < number) (hdigit : digit < 10) :
    ofNat (10 * number + digit) = ofNat number ++ [ofDigit digit] := by
  have hquotient : (10 * number + digit) / 10 = number := by omega
  have hremainder : (10 * number + digit) % 10 = digit := by omega
  rw [ofNat, ← written, written_eq (by omega), if_neg (by omega), hquotient, hremainder]
  rfl

theorem ofNat_value {text : Bytes} (hne : text ≠ []) (hdigits : ∀ b ∈ text, b.isDigit = true)
    (hzero : text.length = 1 ∨ text.head? ≠ some (byte '0')) : ofNat (value text) = text := by
  -- Digits are taken off at the end, so that the first one stays in view.
  induction text using List.reverseRecOn with
  | nil => exact absurd rfl hne
  | append_singleton front last ih =>
    obtain ⟨hlast, hdigit⟩ := digit_lt_and_ofDigit_eq (hdigits last (by simp))
    rw [value_append_singleton]
    by_cases hfront : front = []
    · rw [hfront, value, List.foldl_nil, Nat.mul_zero, Nat.zero_add, ofNat_of_lt hlast, hdigit,
        List.nil_append]
    · have hhead : front.head? ≠ some (byte '0') := by
        have hlength := List.length_pos_iff.2 hfront
        rw [List.head?_append_of_ne_nil _ hfront, List.length_append,
          List.length_singleton] at hzero
        exact hzero.resolve_left (by omega)
      have hread := ih hfront (fun b hb => hdigits b (List.mem_append_left _ hb)) (.inr hhead)
      have hpos : 0 < value front := by
        refine Nat.pos_of_ne_zero fun hnone => hhead ?_
        rw [← hread, hnone]
        rfl
      rw [ofNat_append_digit hpos hlast, hread, hdigit]

end Decimal

/-! ### Hexadecimal numbers -/

namespace Hexadecimal

open Digits

variable {number : Nat}

theorem ofNat_ne_nil : ofNat number ≠ [] := written_ne_nil

theorem readDigit?_ofDigit : ∀ digit < 16, readDigit? (ofDigit digit) = some digit := by
  decide

theorem mapM_readDigit? {text : Bytes} (hdigits : ∀ b ∈ text, (readDigit? b).isSome) :
    text.mapM readDigit? = some (text.map fun b => (readDigit? b).getD 0) := by
  induction text with
  | nil => rfl
  | cons b rest ih =>
    obtain ⟨digit, hdigit⟩ := Option.isSome_iff_exists.1 (hdigits b List.mem_cons_self)
    have hrest := ih fun c hc => hdigits c (List.mem_cons_of_mem _ hc)
    simp [List.mapM_cons, hdigit, hrest]

theorem isSome_readDigit?_of_mem_ofNat {b : Byte} (hmem : b ∈ ofNat number) :
    (readDigit? b).isSome := by
  obtain ⟨digit, hdigit, rfl⟩ := exists_digit_of_mem_written (by omega) hmem
  rw [readDigit?_ofDigit digit hdigit]
  rfl

theorem isSome_readDigit?_of_mapM {text : Bytes} {digits : List Nat}
    (hread : text.mapM readDigit? = some digits) : ∀ b ∈ text, (readDigit? b).isSome := by
  induction text generalizing digits with
  | nil => exact fun b hb => absurd hb List.not_mem_nil
  | cons b rest ih =>
    simp only [List.mapM_cons, Option.bind_eq_bind, Option.bind_eq_some_iff] at hread
    obtain ⟨digit, hdigit, others, hothers, -⟩ := hread
    exact List.forall_mem_cons.2 ⟨Option.isSome_iff_exists.2 ⟨digit, hdigit⟩, ih hothers⟩

theorem isSome_readDigit?_of_nat? {text : Bytes} (hread : nat? text = some number) :
    ∀ b ∈ text, (readDigit? b).isSome := by
  rw [nat?] at hread
  split at hread
  · cases hread
  · obtain ⟨digits, hdigits, -⟩ := Option.map_eq_some_iff.1 hread
    exact isSome_readDigit?_of_mapM hdigits

@[simp] theorem nat?_ofNat (number : Nat) : nat? (ofNat number) = some number := by
  have hweight : ∀ digit < 16, (readDigit? (ofDigit digit)).getD 0 = digit := by
    intro digit hdigit
    rw [readDigit?_ofDigit digit hdigit]
    rfl
  have hvalue : (ofNat number).foldl (fun total b => 16 * total + (readDigit? b).getD 0) 0 =
      number := foldl_written (by omega) hweight number
  rw [nat?, if_neg ofNat_ne_nil, mapM_readDigit? fun _ hmem => isSome_readDigit?_of_mem_ofNat hmem,
    Option.map_some, value, List.foldl_map]
  exact congrArg some hvalue

theorem length_ofNat_le {limit : Nat} (hlimit : 0 < limit) (hnumber : number < 16 ^ limit) :
    (ofNat number).length ≤ limit :=
  length_written_le (by omega) hlimit hnumber

end Hexadecimal

end RouteMonitor
