import RouteMonitor.Bytes.Hexadecimal

/-!
# The tokens of JSON

A document is a sequence of tokens with blanks between them. Texts are decoded here: an escape
stands for one byte or for one code point, which a text holds in UTF-8, and a code point beyond
sixteen bits is written as a pair of surrogate units. Half of such a pair is no text, and neither is
an unescaped control byte.
-/

namespace RouteMonitor.Json

inductive Token
  | openBracket
  | closeBracket
  | openBrace
  | closeBrace
  | comma
  | colon
  | null
  | bool (value : Bool)
  | number (text : Bytes)
  | string (text : Bytes)
deriving DecidableEq

/-- What is left of a text after something was read from it. -/
abbrev Rest (text : Bytes) := { rest : Bytes // rest.length < text.length }

namespace Token

def isBlank (b : Byte) : Bool := b == 32 || b == 9 || b == 10 || b == 13

def ofPunctuation? (b : Byte) : Option Token :=
  if b = byte '[' then some openBracket
  else if b = byte ']' then some closeBracket
  else if b = byte '\x7b' then some openBrace
  else if b = byte '\x7d' then some closeBrace
  else if b = byte ',' then some comma
  else if b = byte ':' then some colon
  else none

/-! ## Words -/

/-- The bytes of numbers and names. -/
def isWordByte (b : Byte) : Bool :=
  b.isDigit || (byte 'a' ≤ b.toLower && b.toLower ≤ byte 'z') ||
    b == byte '+' || b == byte '-' || b == byte '.'

def isDigits (text : Bytes) : Bool := !text.isEmpty && text.all Byte.isDigit

/-- Digits after an optional sign. -/
def isExponent : Bytes → Bool
  | [] => false
  | sign :: rest => isDigits (if sign = byte '+' ∨ sign = byte '-' then rest else sign :: rest)

/-- What may follow the integer part of a number. -/
def isFraction : Bytes → Bool
  | [] => true
  | first :: rest =>
    if first = byte '.' then
      let digits := rest.takeWhile Byte.isDigit
      !digits.isEmpty &&
        match rest.dropWhile Byte.isDigit with
        | [] => true
        | exponent :: after => exponent.toLower == byte 'e' && isExponent after
    else first.toLower == byte 'e' && isExponent rest

def isMagnitude (text : Bytes) : Bool :=
  let digits := text.takeWhile Byte.isDigit
  !digits.isEmpty && (digits.length == 1 || digits.head? != some (byte '0')) &&
    isFraction (text.dropWhile Byte.isDigit)

def isNumber (text : Bytes) : Bool :=
  isMagnitude (if text.head? = some (byte '-') then text.tail else text)

def ofWord? (word : Bytes) : Option Token :=
  if word = utf8 "null" then some null
  else if word = utf8 "true" then some (bool true)
  else if word = utf8 "false" then some (bool false)
  else if isNumber word then some (number word)
  else none

/-! ## Texts -/

def quotationMark : Byte := 34

def backslash : Byte := 92

/-- The byte that a one-letter escape stands for. -/
def ofEscape? (letter : Byte) : Option Byte :=
  if letter = quotationMark ∨ letter = backslash ∨ letter = byte '/' then some letter
  else if letter = byte 'b' then some 8
  else if letter = byte 'f' then some 12
  else if letter = byte 'n' then some 10
  else if letter = byte 'r' then some 13
  else if letter = byte 't' then some 9
  else none

/-- Reads the four digits of a sixteen-bit unit. -/
def readUnit? (text : Bytes) : Option (Nat × Rest text) :=
  match text with
  | first :: second :: third :: fourth :: rest =>
    (Hexadecimal.nat? [first, second, third, fourth]).map fun unit =>
      (unit, ⟨rest, by simp only [List.length_cons]; omega⟩)
  | _ => none

def utf8OfCodePoint (codePoint : Nat) : Bytes := String.utf8EncodeChar (Char.ofNat codePoint)

/-- Reads a unit behind `\u`. -/
def readEscapedUnit? (text : Bytes) : Option (Nat × Rest text) :=
  match text with
  | first :: second :: rest =>
    if first = backslash ∧ second = byte 'u' then
      (readUnit? rest).map fun (unit, ⟨after, _⟩) =>
        (unit, ⟨after, by simp only [List.length_cons]; omega⟩)
    else none
  | _ => none

def isHighSurrogate (unit : Nat) : Bool := 0xD800 ≤ unit && unit < 0xDC00

def isLowSurrogate (unit : Nat) : Bool := 0xDC00 ≤ unit && unit < 0xE000

def ofSurrogates (high low : Nat) : Nat := 0x10000 + (high - 0xD800) * 0x400 + (low - 0xDC00)

/-- Reads one code point after `\u`: one unit, or a high surrogate and a low one behind it. -/
def readCodePoint? (text : Bytes) : Option (Bytes × Rest text) :=
  match readUnit? text with
  | none => none
  | some (unit, ⟨rest, hrest⟩) =>
    if isHighSurrogate unit then
      match readEscapedUnit? rest with
      | none => none
      | some (low, ⟨after, hafter⟩) =>
        if isLowSurrogate low then
          some (utf8OfCodePoint (ofSurrogates unit low), ⟨after, by omega⟩)
        else none
    else if isLowSurrogate unit then none
    else some (utf8OfCodePoint unit, ⟨rest, hrest⟩)

/-- Reads what follows a backslash. -/
def readEscape? (text : Bytes) : Option (Bytes × Rest text) :=
  match text with
  | [] => none
  | letter :: rest =>
    if letter = byte 'u' then
      (readCodePoint? rest).map fun (decoded, ⟨after, hafter⟩) =>
        (decoded, ⟨after, by simp only [List.length_cons]; omega⟩)
    else (ofEscape? letter).map fun decoded => ([decoded], ⟨rest, by simp⟩)

/-- Reads a text up to its closing quotation mark. -/
def readString? (text : Bytes) : Option (Bytes × Rest text) :=
  match text with
  | [] => none
  | b :: rest =>
    if b = quotationMark then some ([], ⟨rest, by simp⟩)
    else if b < 32 then none
    else if b = backslash then
      match readEscape? rest with
      | none => none
      | some (decoded, ⟨after, _⟩) =>
        (readString? after).map fun (tail, ⟨last, _⟩) =>
          (decoded ++ tail, ⟨last, by simp only [List.length_cons]; omega⟩)
    else
      (readString? rest).map fun (tail, ⟨last, _⟩) =>
        (b :: tail, ⟨last, by simp only [List.length_cons]; omega⟩)
termination_by text.length

/-! ## Documents -/

/-- The tokens of a document, or nothing if some part of it is no token. -/
def ofText? (text : Bytes) : Option (List Token) :=
  match text with
  | [] => some []
  | b :: rest =>
    if isBlank b then ofText? rest
    else match ofPunctuation? b with
      | some token => (ofText? rest).map (token :: ·)
      | none =>
        if b = quotationMark then
          match readString? rest with
          | none => none
          | some (decoded, ⟨after, _⟩) => (ofText? after).map (string decoded :: ·)
        else
          match ofWord? (b :: rest.takeWhile isWordByte) with
          | none => none
          | some token => (ofText? (rest.dropWhile isWordByte)).map (token :: ·)
termination_by text.length
decreasing_by
  all_goals simp only [List.length_cons]
  all_goals try omega
  exact Nat.lt_succ_of_le (List.dropWhile_suffix isWordByte).length_le

end Token

end RouteMonitor.Json
