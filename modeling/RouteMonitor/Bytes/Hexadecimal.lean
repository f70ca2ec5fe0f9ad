import RouteMonitor.Bytes

/-!
# Hexadecimal numbers

Digits are read in either case and written in lower case, without leading zeros.
-/

namespace RouteMonitor.Hexadecimal

def ofNat (number : Nat) : Bytes := (Nat.toDigits 16 number).map byte

def readDigit? (b : Byte) : Option Nat :=
  if b.isDigit then some (b.toNat - (byte '0').toNat)
  else if byte 'a' ≤ b.toLower ∧ b.toLower ≤ byte 'f' then
    some (10 + (b.toLower.toNat - (byte 'a').toNat))
  else none

/-- The number that digits stand for, most significant digit first. -/
def value (digits : List Nat) : Nat := digits.foldl (fun number digit => 16 * number + digit) 0

/-- Reads a text that consists of digits alone. -/
def nat? (text : Bytes) : Option Nat :=
  if text = [] then none else (text.mapM readDigit?).map value

end RouteMonitor.Hexadecimal
