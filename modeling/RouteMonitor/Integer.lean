import RouteMonitor.Bytes.Decimal

/-!
# Integers of a fixed width

Numeric settings hold an integer of a fixed width, signed or not. A text is read by its value as an
unbounded integer, so nothing ever wraps: a number outside the range is a fault of its own. The
range is judged on the longest run of digits, before anything that follows the run, which is why a
number too large with junk behind it is reported as too large.
-/

namespace RouteMonitor

structure Integer.Width where
  signed : Bool
  bits : Nat
deriving DecidableEq, Repr

namespace Integer.Width

def u8 : Width := ⟨false, 8⟩
def i8 : Width := ⟨true, 8⟩
def u16 : Width := ⟨false, 16⟩
def i16 : Width := ⟨true, 16⟩
def u32 : Width := ⟨false, 32⟩
def i32 : Width := ⟨true, 32⟩
def u64 : Width := ⟨false, 64⟩
def i64 : Width := ⟨true, 64⟩

def least (width : Width) : Int := if width.signed then -Nat.pow 2 (width.bits - 1) else 0

def greatest (width : Width) : Int :=
  if width.signed then Nat.pow 2 (width.bits - 1) - 1 else Nat.pow 2 width.bits - 1

def Holds (width : Width) (number : Int) : Prop :=
  width.least ≤ number ∧ number ≤ width.greatest

instance (width : Width) (number : Int) : Decidable (width.Holds number) :=
  inferInstanceAs (Decidable (_ ∧ _))

end Integer.Width

structure Integer (width : Integer.Width) where
  value : Int
  inRange : width.Holds value := by decide
deriving DecidableEq

namespace Integer

/-- Why a text is not an integer of a given width. -/
inductive Fault
  | empty
  | invalidDigit
  | tooLarge
  | tooSmall
deriving DecidableEq, Repr

def Fault.message : Fault → Bytes
  | .empty => utf8 "cannot parse integer from empty string"
  | .invalidDigit => utf8 "invalid digit found in string"
  | .tooLarge => utf8 "number too large to fit in target type"
  | .tooSmall => utf8 "number too small to fit in target type"

/-- Reads what follows the sign. -/
def readMagnitude (width : Width) (negative : Bool) (text : Bytes) :
    Except Fault (Integer width) :=
  let digits := text.takeWhile Byte.isDigit
  let number : Int := if negative then -Decimal.value digits else Decimal.value digits
  if digits = [] then .error .invalidDigit
  else if inRange : width.Holds number then
    if text.all Byte.isDigit then .ok ⟨number, inRange⟩ else .error .invalidDigit
  else .error (if negative then .tooSmall else .tooLarge)

/-- A plus sign may precede any number, a minus sign only one of a signed width. -/
def read (width : Width) : Bytes → Except Fault (Integer width)
  | [] => .error .empty
  | sign :: rest =>
    if sign = byte '+' then readMagnitude width false rest
    else if sign = byte '-' ∧ width.signed then readMagnitude width true rest
    else readMagnitude width false (sign :: rest)

def render {width : Width} (integer : Integer width) : Bytes := Decimal.ofInt integer.value

end Integer

end RouteMonitor
