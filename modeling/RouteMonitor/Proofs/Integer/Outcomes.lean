import Mathlib.Data.Nat.Digits.Defs
import RouteMonitor.Proofs.Integer
import RouteMonitor.Setting

/-!
# What becomes of the text of an integer

A text is looked at from its sign on: what counts is the longest run of digits behind the sign, the
number that these digits stand for, and whether anything follows them. `Begins` says this of the
text alone. A number out of range is too large or too small by its sign, whatever follows its
digits; a number in range is the value if nothing follows; and every text that is left over has a
byte where a digit should stand.
-/

namespace RouteMonitor.Integer

/-! ### Digits and their number -/

/-- One or more digits, and the number that they stand for in base ten. -/
structure IsNumeral (text : Bytes) (number : Nat) : Prop where
  ne_nil : text ≠ []
  digits : ∀ b ∈ text, b.isDigit = true
  value : number = Nat.ofDigits 10 (text.reverse.map fun b => b.toNat - (byte '0').toNat)

/-- The longest run of digits at the start of the text stands for the number. -/
structure HasRun (text : Bytes) (number : Nat) (rest : Bytes) : Prop where
  run : ∃ digits, text = digits ++ rest ∧ IsNumeral digits number
  longest : ∀ b ∈ rest.head?, b.isDigit = false

/-- The text is a sign that the width admits, or none, and a text that starts with a run of digits.
Whether the sign is a minus, what the digits stand for, and what follows them. -/
inductive Begins (width : Width) : Bytes → Bool → Nat → Bytes → Prop
  | plain {text rest : Bytes} {number : Nat} : HasRun text number rest →
    Begins width text false number rest
  | plus {text rest : Bytes} {number : Nat} : HasRun text number rest →
    Begins width (byte '+' :: text) false number rest
  | minus {text rest : Bytes} {number : Nat} : width.signed = true → HasRun text number rest →
    Begins width (byte '-' :: text) true number rest

def signedNumber (negative : Bool) (number : Nat) : Int := if negative then -number else number

variable {width : Width} {text rest : Bytes} {negative : Bool} {number : Nat}

theorem value_eq_ofDigits (digits : Bytes) :
    Decimal.value digits =
      Nat.ofDigits 10 (digits.reverse.map fun b => b.toNat - (byte '0').toNat) := by
  rw [Nat.ofDigits_eq_foldr, List.map_reverse, List.foldr_reverse, List.foldl_map, Decimal.value]
  simp only [Nat.cast_id, Nat.add_comm]

theorem isNumeral_iff :
    IsNumeral text number ↔
      text ≠ [] ∧ text.all Byte.isDigit = true ∧ number = Decimal.value text := by
  rw [value_eq_ofDigits, List.all_eq_true]
  exact ⟨fun h => ⟨h.ne_nil, h.digits, h.value⟩, fun h => ⟨h.1, h.2.1, h.2.2⟩⟩

theorem hasRun_iff :
    HasRun text number rest ↔
      text.takeWhile Byte.isDigit ≠ [] ∧ number = Decimal.value (text.takeWhile Byte.isDigit) ∧
        rest = text.dropWhile Byte.isDigit := by
  constructor
  · intro hrun
    obtain ⟨⟨digits, rfl, hnumeral⟩, hlongest⟩ := hrun
    obtain ⟨hne, -, hvalue⟩ := isNumeral_iff.1 hnumeral
    have hrest : rest.takeWhile Byte.isDigit = [] ∧ rest.dropWhile Byte.isDigit = rest := by
      cases rest with
      | nil => exact ⟨rfl, rfl⟩
      | cons b rest => simp [hlongest b rfl]
    rw [List.takeWhile_append_of_pos hnumeral.digits, List.dropWhile_append_of_pos hnumeral.digits,
      hrest.1, hrest.2, List.append_nil]
    exact ⟨hne, hvalue, rfl⟩
  · intro hparts
    obtain ⟨hne, hvalue, rfl⟩ := hparts
    have hdigits : (text.takeWhile Byte.isDigit).all Byte.isDigit = true :=
      List.all_eq_true.2 fun b hb => List.mem_takeWhile_imp hb
    exact ⟨⟨_, List.takeWhile_append_dropWhile.symm, isNumeral_iff.2 ⟨hne, hdigits, hvalue⟩⟩,
      Bytes.eq_false_of_mem_head?_dropWhile Byte.isDigit text⟩

/-! ### Ranges -/

namespace Width

theorem least_le_zero (width : Width) : width.least ≤ 0 := by
  have hpos : 0 < 2 ^ (width.bits - 1) := Nat.two_pow_pos _
  rw [least]
  split
  · simp only [Nat.pow_eq]
    omega
  · exact Int.le_refl 0

theorem zero_le_greatest (width : Width) : 0 ≤ width.greatest := by
  have hsigned : 0 < 2 ^ (width.bits - 1) := Nat.two_pow_pos _
  have hunsigned : 0 < 2 ^ width.bits := Nat.two_pow_pos _
  rw [greatest]
  split
  all_goals
    simp only [Nat.pow_eq]
    omega

theorem not_holds_positive_iff :
    ¬width.Holds (signedNumber false number) ↔ width.greatest < number := by
  have hleast := width.least_le_zero
  simp only [Holds, signedNumber, Bool.false_eq_true, if_false]
  omega

theorem not_holds_negative_iff :
    ¬width.Holds (signedNumber true number) ↔ -(number : Int) < width.least := by
  have hgreatest := width.zero_le_greatest
  simp only [Holds, signedNumber, if_true]
  omega

end Width

/-! ### Reading from the sign on -/

theorem readMagnitude_of_hasRun (hrun : HasRun text number rest) :
    readMagnitude width negative text =
      if inRange : width.Holds (signedNumber negative number) then
        if rest = [] then .ok ⟨signedNumber negative number, inRange⟩ else .error .invalidDigit
      else .error (if negative then .tooSmall else .tooLarge) := by
  obtain ⟨hne, rfl, rfl⟩ := hasRun_iff.1 hrun
  have hall : text.dropWhile Byte.isDigit = [] ↔ text.all Byte.isDigit = true := by
    rw [List.dropWhile_eq_nil_iff, List.all_eq_true]
  simp only [readMagnitude, if_neg hne, hall]
  rfl

theorem readMagnitude_of_no_run (hrun : ∀ number rest, ¬HasRun text number rest) :
    readMagnitude width negative text = .error .invalidDigit := by
  have hnone : text.takeWhile Byte.isDigit = [] := by
    by_contra hne
    exact hrun _ _ (hasRun_iff.2 ⟨hne, rfl, rfl⟩)
  simp only [readMagnitude, if_pos hnone]

/-- The sign is taken from a text in one way only. -/
theorem exists_body (hne : text ≠ []) :
    ∃ sign body, read width text = readMagnitude width sign body ∧
      ∀ negative number rest,
        Begins width text negative number rest ↔ negative = sign ∧ HasRun body number rest := by
  have hfirst : ∀ {first : Byte} {more rest : Bytes} {number : Nat},
      HasRun (first :: more) number rest → first.isDigit = true := by
    intro first more rest number hrun
    by_contra hdigit
    exact (hasRun_iff.1 hrun).1 (List.takeWhile_cons_of_neg hdigit)
  obtain ⟨first, more, rfl⟩ := List.exists_cons_of_ne_nil hne
  by_cases hplus : first = byte '+'
  · subst hplus
    refine ⟨false, more, by rw [read, if_pos rfl], fun negative number rest => ⟨?_, ?_⟩⟩
    · intro hbegins
      cases hbegins with
      | plain hrun => exact absurd (hfirst hrun) (by decide)
      | plus hrun => exact ⟨rfl, hrun⟩
    · rintro ⟨rfl, hrun⟩
      exact .plus hrun
  · by_cases hminus : first = byte '-' ∧ width.signed = true
    · obtain ⟨rfl, hsigned⟩ := hminus
      refine ⟨true, more, by rw [read, if_neg hplus, if_pos ⟨rfl, hsigned⟩],
        fun negative number rest => ⟨?_, ?_⟩⟩
      · intro hbegins
        cases hbegins with
        | plain hrun => exact absurd (hfirst hrun) (by decide)
        | minus _ hrun => exact ⟨rfl, hrun⟩
      · rintro ⟨rfl, hrun⟩
        exact .minus hsigned hrun
    · refine ⟨false, first :: more, by rw [read, if_neg hplus, if_neg hminus],
        fun negative number rest => ⟨?_, ?_⟩⟩
      · intro hbegins
        cases hbegins with
        | plain hrun => exact ⟨rfl, hrun⟩
        | plus => exact absurd rfl hplus
        | minus hsigned => exact absurd ⟨rfl, hsigned⟩ hminus
      · rintro ⟨rfl, hrun⟩
        exact .plain hrun

theorem Begins.ne_nil (hbegins : Begins width text negative number rest) : text ≠ [] := by
  cases hbegins with
  | plain hrun =>
    rintro rfl
    exact (hasRun_iff.1 hrun).1 rfl
  | plus => exact List.cons_ne_nil _ _
  | minus => exact List.cons_ne_nil _ _

theorem read_of_begins (hbegins : Begins width text negative number rest) :
    read width text =
      if inRange : width.Holds (signedNumber negative number) then
        if rest = [] then .ok ⟨signedNumber negative number, inRange⟩ else .error .invalidDigit
      else .error (if negative then .tooSmall else .tooLarge) := by
  obtain ⟨sign, body, hread, hbody⟩ := @exists_body width text hbegins.ne_nil
  obtain ⟨rfl, hrun⟩ := (hbody _ _ _).1 hbegins
  rw [hread, readMagnitude_of_hasRun hrun]

theorem read_of_not_begins (hne : text ≠ [])
    (hnone : ∀ negative number rest, ¬Begins width text negative number rest) :
    read width text = .error .invalidDigit := by
  obtain ⟨sign, body, hread, hbody⟩ := @exists_body width text hne
  rw [hread, readMagnitude_of_no_run fun number rest hrun =>
    hnone sign number rest ((hbody _ _ _).2 ⟨rfl, hrun⟩)]

/-! ### Values and causes -/

/-- The text is a number of unbounded size, with nothing behind it. -/
def Spells (width : Width) (text : Bytes) (integer : Int) : Prop :=
  ∃ negative number, Begins width text negative number [] ∧ integer = signedNumber negative number

/-- A run of digits beyond the greatest number, whatever follows it. -/
def Exceeds (width : Width) (text : Bytes) : Prop :=
  ∃ number rest, Begins width text false number rest ∧ width.greatest < number

/-- A minus sign and a run of digits beyond the least number, whatever follows it. -/
def FallsBelow (width : Width) (text : Bytes) : Prop :=
  ∃ number rest, Begins width text true number rest ∧ -(number : Int) < width.least

theorem Begins.unique {other : Bool} {otherNumber : Nat} {otherRest : Bytes}
    (hbegins : Begins width text negative number rest)
    (hother : Begins width text other otherNumber otherRest) :
    other = negative ∧ otherNumber = number ∧ otherRest = rest := by
  obtain ⟨sign, body, -, hbody⟩ := @exists_body width text hbegins.ne_nil
  obtain ⟨rfl, hrun⟩ := (hbody _ _ _).1 hbegins
  obtain ⟨rfl, hotherRun⟩ := (hbody _ _ _).1 hother
  obtain ⟨-, rfl, rfl⟩ := hasRun_iff.1 hrun
  obtain ⟨-, rfl, rfl⟩ := hasRun_iff.1 hotherRun
  exact ⟨rfl, rfl, rfl⟩

/-- Which texts are read as what. -/
inductive Outcome (width : Width) (text : Bytes) : Except Fault (Integer width) → Prop
  | empty : text = [] → Outcome width text (.error .empty)
  | value {integer : Integer width} : Spells width text integer.value →
    Outcome width text (.ok integer)
  | tooLarge : Exceeds width text → Outcome width text (.error .tooLarge)
  | tooSmall : FallsBelow width text → Outcome width text (.error .tooSmall)
  | invalidDigit : text ≠ [] → (∀ integer, Spells width text integer → ¬width.Holds integer) →
    ¬Exceeds width text → ¬FallsBelow width text → Outcome width text (.error .invalidDigit)

/-- Digits in range with something behind them leave no other outcome. -/
theorem outcome_of_rest (hbegins : Begins width text negative number rest) (hrest : rest ≠ [])
    (hholds : width.Holds (signedNumber negative number)) :
    Outcome width text (.error .invalidDigit) := by
  refine .invalidDigit hbegins.ne_nil ?_ ?_ ?_
  · rintro integer ⟨other, otherNumber, hother, -⟩
    exact absurd (hbegins.unique hother).2.2.symm hrest
  · rintro ⟨otherNumber, otherRest, hother, hgreatest⟩
    obtain ⟨rfl, rfl, -⟩ := hbegins.unique hother
    exact absurd hholds (Width.not_holds_positive_iff.2 hgreatest)
  · rintro ⟨otherNumber, otherRest, hother, hleast⟩
    obtain ⟨rfl, rfl, -⟩ := hbegins.unique hother
    exact absurd hholds (Width.not_holds_negative_iff.2 hleast)

/-- Nor does a text that begins with no number. -/
theorem outcome_of_not_begins (hne : text ≠ [])
    (hnone : ∀ negative number rest, ¬Begins width text negative number rest) :
    Outcome width text (.error .invalidDigit) := by
  refine .invalidDigit hne ?_ ?_ ?_
  · rintro integer ⟨negative, number, hbegins, -⟩
    exact absurd hbegins (hnone _ _ _)
  · rintro ⟨number, rest, hbegins, -⟩
    exact hnone _ _ _ hbegins
  · rintro ⟨number, rest, hbegins, -⟩
    exact hnone _ _ _ hbegins

theorem outcome_read (width : Width) (text : Bytes) : Outcome width text (read width text) := by
  by_cases hne : text = []
  · subst hne
    exact .empty rfl
  by_cases hbegins : ∃ negative number rest, Begins width text negative number rest
  · obtain ⟨negative, number, rest, hbegins⟩ := hbegins
    rw [read_of_begins hbegins]
    split
    · rename_i hholds
      split
      · rename_i hrest
        subst hrest
        exact .value ⟨negative, number, hbegins, rfl⟩
      · rename_i hrest
        exact outcome_of_rest hbegins hrest hholds
    · rename_i hholds
      cases negative with
      | true => exact .tooSmall ⟨number, rest, hbegins, Width.not_holds_negative_iff.1 hholds⟩
      | false => exact .tooLarge ⟨number, rest, hbegins, Width.not_holds_positive_iff.1 hholds⟩
  · have hnone : ∀ negative number rest, ¬Begins width text negative number rest :=
      fun negative number rest h => hbegins ⟨negative, number, rest, h⟩
    rw [read_of_not_begins hne hnone]
    exact outcome_of_not_begins hne hnone

/-- A text has one outcome, and reading gives it. -/
theorem read_eq_iff {outcome : Except Fault (Integer width)} :
    read width text = outcome ↔ Outcome width text outcome := by
  constructor
  · rintro rfl
    exact outcome_read width text
  · intro houtcome
    cases houtcome with
    | empty hempty =>
      subst hempty
      rfl
    | @value integer hspells =>
      obtain ⟨negative, number, hbegins, hvalue⟩ := hspells
      obtain ⟨value, inRange⟩ := integer
      obtain rfl : value = signedNumber negative number := hvalue
      rw [read_of_begins hbegins, dif_pos inRange, if_pos rfl]
    | tooLarge hexceeds =>
      obtain ⟨number, rest, hbegins, hgreatest⟩ := hexceeds
      rw [read_of_begins hbegins, dif_neg (Width.not_holds_positive_iff.2 hgreatest)]
      rfl
    | tooSmall hbelow =>
      obtain ⟨number, rest, hbegins, hleast⟩ := hbelow
      rw [read_of_begins hbegins, dif_neg (Width.not_holds_negative_iff.2 hleast)]
      rfl
    | invalidDigit hne hspells hexceeds hbelow =>
      have houtcome := outcome_read width text
      generalize read width text = outcome at houtcome ⊢
      cases houtcome with
      | empty hempty => exact absurd hempty hne
      | @value integer hvalue => exact absurd integer.inRange (hspells _ hvalue)
      | tooLarge hother => exact absurd hother hexceeds
      | tooSmall hother => exact absurd hother hbelow
      | invalidDigit => rfl

theorem exists_read_eq_ok_iff {value : Int} :
    (∃ integer, read width text = .ok integer ∧ integer.value = value) ↔
      Spells width text value ∧ width.Holds value := by
  constructor
  · rintro ⟨integer, hread, rfl⟩
    cases read_eq_iff.1 hread with
    | value hspells => exact ⟨hspells, integer.inRange⟩
  · rintro ⟨hspells, hholds⟩
    exact ⟨⟨value, hholds⟩, read_eq_iff.2 (.value hspells), rfl⟩

theorem Fault.message_injective {left right : Fault} (hmessage : left.message = right.message) :
    left = right := by
  revert hmessage
  cases left <;> cases right <;> decide

theorem readInteger_eq_ok_iff {integer : Integer width} :
    Setting.readInteger width text = .ok integer ↔ read width text = .ok integer := by
  rw [Setting.readInteger]
  cases read width text <;> simp [Except.mapError]

theorem readInteger_eq_error_iff {fault : Fault} :
    Setting.readInteger width text = .error fault.message ↔
      Outcome width text (.error fault) := by
  rw [Setting.readInteger, ← read_eq_iff]
  cases read width text with
  | ok integer => simp [Except.mapError]
  | error other =>
    simp only [Except.mapError, Except.error.injEq]
    exact ⟨Fault.message_injective, fun h => h ▸ rfl⟩

/-- A text is accepted exactly if it is digits behind an optional sign, a minus only for a signed
width, and the number that it stands for is in the range of the width; this number is the value.
Every other text is rejected for one cause. -/
theorem readInteger_yields_exact_value_or_cause (width : Width) (text : Bytes) :
    (∀ value : Int,
        (∃ integer, Setting.readInteger width text = .ok integer ∧ integer.value = value) ↔
          Spells width text value ∧ width.Holds value) ∧
      (∀ integer : Integer width, Setting.readInteger width integer.render = .ok integer) ∧
      (Setting.readInteger width text = .error (utf8 "cannot parse integer from empty string") ↔
        text = []) ∧
      (Setting.readInteger width text = .error (utf8 "number too large to fit in target type") ↔
        Exceeds width text) ∧
      (Setting.readInteger width text = .error (utf8 "number too small to fit in target type") ↔
        FallsBelow width text) ∧
      (Setting.readInteger width text = .error (utf8 "invalid digit found in string") ↔
        text ≠ [] ∧ (∀ value, Spells width text value → ¬width.Holds value) ∧
          ¬Exceeds width text ∧ ¬FallsBelow width text) := by
  refine ⟨fun value => ?value, fun integer => ?written, ?empty, ?tooLarge, ?tooSmall, ?invalid⟩
  case value =>
    simp only [readInteger_eq_ok_iff]
    exact exists_read_eq_ok_iff
  case written => exact readInteger_eq_ok_iff.2 (read_render integer)
  case empty =>
    refine (@readInteger_eq_error_iff width text .empty).trans ⟨fun houtcome => ?_, .empty⟩
    cases houtcome
    assumption
  case tooLarge =>
    refine (@readInteger_eq_error_iff width text .tooLarge).trans ⟨fun houtcome => ?_, .tooLarge⟩
    cases houtcome
    assumption
  case tooSmall =>
    refine (@readInteger_eq_error_iff width text .tooSmall).trans ⟨fun houtcome => ?_, .tooSmall⟩
    cases houtcome
    assumption
  case invalid =>
    refine (@readInteger_eq_error_iff width text .invalidDigit).trans ⟨fun houtcome => ?_, ?_⟩
    · cases houtcome with
      | invalidDigit hne hspells hexceeds hbelow => exact ⟨hne, hspells, hexceeds, hbelow⟩
    · rintro ⟨hne, hspells, hexceeds, hbelow⟩
      exact .invalidDigit hne hspells hexceeds hbelow

/-- A number out of range is reported as such with junk behind it, a number in range is not; the
least number of the width is read, the plus sign opens no second one. -/
theorem range_is_judged_before_what_follows :
    Setting.readInteger .i8 (utf8 "+00128 x") =
        .error (utf8 "number too large to fit in target type") ∧
      Setting.readInteger .i8 (utf8 "-129-") =
        .error (utf8 "number too small to fit in target type") ∧
      (∃ integer, Setting.readInteger .i8 (utf8 "-128") = .ok integer ∧ integer.value = -128) ∧
      ¬Exceeds .i8 (utf8 "+127x") ∧ ¬FallsBelow .i8 (utf8 "+-129") := by
  obtain ⟨-, -, -, htooLarge, -, -⟩ :=
    readInteger_yields_exact_value_or_cause .i8 (utf8 "+00128 x")
  obtain ⟨-, -, -, -, htooSmall, -⟩ := readInteger_yields_exact_value_or_cause .i8 (utf8 "-129-")
  obtain ⟨hleast, -⟩ := readInteger_yields_exact_value_or_cause .i8 (utf8 "-128")
  obtain ⟨-, -, -, -, -, hrest⟩ := readInteger_yields_exact_value_or_cause .i8 (utf8 "+127x")
  obtain ⟨-, -, -, -, -, hsign⟩ := readInteger_yields_exact_value_or_cause .i8 (utf8 "+-129")
  have hlarge : HasRun (utf8 "00128 x") 128 (utf8 " x") := hasRun_iff.2 (by decide)
  have hsmall : HasRun (utf8 "129-") 129 (utf8 "-") := hasRun_iff.2 (by decide)
  have hexact : HasRun (utf8 "128") 128 [] := hasRun_iff.2 (by decide)
  refine ⟨htooLarge.2 ⟨128, _, .plus hlarge, by decide⟩,
    htooSmall.2 ⟨129, _, .minus rfl hsmall, by decide⟩,
    (hleast (-128)).2 ⟨⟨true, 128, .minus rfl hexact, by decide⟩, by decide⟩,
    (hrest.1 (by decide)).2.2.1, (hsign.1 (by decide)).2.2.2⟩

end RouteMonitor.Integer
