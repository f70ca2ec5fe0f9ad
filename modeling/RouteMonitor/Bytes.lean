/-!
# Byte strings

Settings files, host names and log texts are strings of bytes, in any encoding or in none. This
module holds the character classes and the cuts that the formats of the library share: blank bytes,
decimal digits, letter case, trimming, the first word, the part before a NUL byte, and the parts
around the first or last occurrence of a separator. Letters and blanks are those of ASCII; every
other byte stands for itself.
-/

namespace RouteMonitor

abbrev Byte := UInt8

abbrev Bytes := List Byte

/-- The UTF-8 encoding of a text. -/
def utf8 (text : String) : Bytes := text.toByteArray.data.toList

/-- The code of an ASCII character. -/
def byte (character : Char) : Byte := character.toUInt8

namespace Byte

/-- Space, tab, line feed, vertical tab, form feed and carriage return. -/
def isBlank (b : Byte) : Bool := b == 32 || (9 ≤ b && b ≤ 13)

def isLineEnd (b : Byte) : Bool := b == 10 || b == 13

def isDigit (b : Byte) : Bool := byte '0' ≤ b && b ≤ byte '9'

def toLower (b : Byte) : Byte := if byte 'A' ≤ b ∧ b ≤ byte 'Z' then b + 32 else b

end Byte

namespace Bytes

def trim (text : Bytes) : Bytes :=
  ((text.dropWhile Byte.isBlank).reverse.dropWhile Byte.isBlank).reverse

def toLower (text : Bytes) : Bytes := text.map Byte.toLower

def firstWord (text : Bytes) : Bytes :=
  (text.dropWhile Byte.isBlank).takeWhile fun b => !b.isBlank

/-- The part before the first NUL byte, which ends a path, an argument or an address literal. -/
def untilNul (text : Bytes) : Bytes := text.takeWhile (· != 0)

/-- A line ends at each carriage return and at each line feed, so that the two together end two
lines; there is always a last line, possibly empty. -/
def lines (text : Bytes) : List Bytes := text.splitOnP Byte.isLineEnd

/-- The parts before and after the first occurrence of a nonempty separator. -/
def cut? (text separator : Bytes) : Option (Bytes × Bytes) :=
  match text with
  | [] => none
  | b :: rest =>
    if separator.isPrefixOf (b :: rest) then some ([], (b :: rest).drop separator.length)
    else (cut? rest separator).map fun (before, after) => (b :: before, after)

/-- The parts before and after the last occurrence of a byte. -/
def cutLast? (text : Bytes) (separator : Byte) : Option (Bytes × Bytes) :=
  (cut? text.reverse [separator]).map fun (after, before) => (before.reverse, after.reverse)

end Bytes

/-- Writes a value between single quotes, as messages do. -/
def quoted (value : Bytes) : Bytes := utf8 "'" ++ value ++ utf8 "'"

end RouteMonitor
