import RouteMonitor.Bytes

/-!
# Decimal numbers

Numbers are written in base ten without leading zeros, and read back from any nonempty run of
digits, leading zeros included.
-/

namespace RouteMonitor.Decimal

def ofNat (number : Nat) : Bytes := (Nat.toDigits 10 number).map byte

def ofInt (number : Int) : Bytes :=
  if number < 0 then byte '-' :: ofNat number.natAbs else ofNat number.natAbs

/-- The number that a run of digits stands for, most significant digit first. -/
def value (digits : Bytes) : Nat :=
  digits.foldl (fun number digit => 10 * number + (digit.toNat - (byte '0').toNat)) 0

/-- Reads a text that consists of digits alone. -/
def nat? (text : Bytes) : Option Nat :=
  if text ≠ [] ∧ text.all Byte.isDigit then some (value text) else none

end RouteMonitor.Decimal
