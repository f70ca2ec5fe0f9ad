import RouteMonitor.Bytes.Decimal

/-!
# IPv4 addresses

An address is four octets, written as dotted decimal. The literal is strict: exactly four octets
without leading zeros and nothing around them. A text is cut at its first NUL byte before it is
read, but its length is limited before the cut.
-/

namespace RouteMonitor

structure Ipv4 where
  first : Byte
  second : Byte
  third : Byte
  fourth : Byte
deriving DecidableEq, Repr

namespace Ipv4

def octets (address : Ipv4) : Bytes :=
  [address.first, address.second, address.third, address.fourth]

theorem eq_of_octets_eq {left right : Ipv4} (hoctets : left.octets = right.octets) :
    left = right := by
  cases left
  cases right
  simpa [octets] using hoctets

/-- An octet has no leading zero, so that each has one spelling. -/
def readOctet? (text : Bytes) : Option Byte :=
  match Decimal.nat? text with
  | none => none
  | some number =>
    if number < 256 ∧ (text.length = 1 ∨ text.head? ≠ some (byte '0')) then
      some (UInt8.ofNat number)
    else none

def readDotted? (text : Bytes) : Option Ipv4 :=
  match (text.splitOn (byte '.')).map readOctet? with
  | [some first, some second, some third, some fourth] => some ⟨first, second, third, fourth⟩
  | _ => none

/-- The longest text that is looked at. -/
def textLimit : Nat := 16

def read? (text : Bytes) : Option Ipv4 :=
  if text.length ≤ textLimit then readDotted? text.untilNul else none

def faultMessage : Bytes := utf8 "invalid IPv4 address syntax"

def read (text : Bytes) : Except Bytes Ipv4 :=
  match read? text with
  | some address => .ok address
  | none => .error faultMessage

def render (address : Ipv4) : Bytes :=
  [byte '.'].intercalate (address.octets.map fun octet => Decimal.ofNat octet.toNat)

end Ipv4

end RouteMonitor
