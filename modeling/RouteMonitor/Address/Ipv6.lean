import RouteMonitor.Address.Ipv4
import RouteMonitor.Bytes.Hexadecimal

/-!
# IPv6 addresses

An address is eight groups of sixteen bits. In a text, groups are one to four hexadecimal digits
joined by colons; one double colon may stand for one or more zero groups, and a dotted quad may
stand for the last two groups.

The written form is unique: lower case without leading zeros, the double colon in place of the first
longest run of at least two zero groups, and a dotted quad at the end exactly for the addresses that
embed an IPv4 address, those that start with six zero groups or with five and `ffff`.
-/

namespace RouteMonitor

abbrev Group := UInt16

structure Ipv6 where
  groups : List Group
  length_groups : groups.length = 8
deriving DecidableEq

namespace Group

def highOctet (group : Group) : Byte := UInt8.ofNat (group.toNat / 256)

def lowOctet (group : Group) : Byte := UInt8.ofNat (group.toNat % 256)

def ofOctets (high low : Byte) : Group := UInt16.ofNat (256 * high.toNat + low.toNat)

@[simp] theorem ofOctets_octets (group : Group) :
    ofOctets group.highOctet group.lowOctet = group := by
  have hbound := group.toNat_lt
  apply UInt16.toNat.inj
  simp [ofOctets, highOctet, lowOctet]
  omega

/-- One to four hexadecimal digits of either case. -/
def read? (text : Bytes) : Option Group :=
  if text.length ≤ 4 then (Hexadecimal.nat? text).map UInt16.ofNat else none

def render (group : Group) : Bytes := Hexadecimal.ofNat group.toNat

def renderAll (groups : List Group) : Bytes := [byte ':'].intercalate (groups.map render)

end Group

namespace Ipv6

/-- The sixteen bytes of an address in network order. -/
def octets (address : Ipv6) : Bytes :=
  address.groups.flatMap fun group => [group.highOctet, group.lowOctet]

theorem length_octets (address : Ipv6) : address.octets.length = 16 := by
  rw [octets, List.length_flatMap]
  simp [List.map_const', address.length_groups]

theorem eq_of_flatMap_octets_eq {left right : List Group}
    (hoctets : (left.flatMap fun group => [group.highOctet, group.lowOctet]) =
      right.flatMap fun group => [group.highOctet, group.lowOctet]) : left = right := by
  induction left generalizing right with
  | nil =>
    cases right with
    | nil => rfl
    | cons group groups => simp at hoctets
  | cons leftGroup leftGroups ih =>
    cases right with
    | nil => simp at hoctets
    | cons rightGroup rightGroups =>
      simp only [List.flatMap_cons, List.cons_append, List.nil_append, List.cons.injEq] at hoctets
      obtain ⟨hhigh, hlow, hrest⟩ := hoctets
      rw [← Group.ofOctets_octets leftGroup, ← Group.ofOctets_octets rightGroup, hhigh, hlow,
        ih hrest]

theorem eq_of_octets_eq {left right : Ipv6} (hoctets : left.octets = right.octets) :
    left = right := by
  have hgroups := eq_of_flatMap_octets_eq hoctets
  cases left
  cases right
  simpa using hgroups

/-! ## Embedded IPv4 addresses -/

def groupsOfQuad (quad : Ipv4) : List Group :=
  [Group.ofOctets quad.first quad.second, Group.ofOctets quad.third quad.fourth]

def quadOfGroups (left right : Group) : Ipv4 :=
  ⟨left.highOctet, left.lowOctet, right.highOctet, right.lowOctet⟩

/-! ## Reading -/

/-- Reads the groups between colons. A dotted quad is admitted as the last piece of a text that ends
the whole address. -/
def readPieces? (endsAddress : Bool) : List Bytes → Option (List Group)
  | [] => some []
  | [piece] =>
    match Group.read? piece with
    | some group => some [group]
    | none => if endsAddress then (Ipv4.readDotted? piece).map groupsOfQuad else none
  | piece :: pieces =>
    match Group.read? piece with
    | some group => (readPieces? endsAddress pieces).map (group :: ·)
    | none => none

/-- The groups on one side of a double colon, possibly none. -/
def readSide? (endsAddress : Bool) (text : Bytes) : Option (List Group) :=
  if text = [] then some [] else readPieces? endsAddress (text.splitOn (byte ':'))

def ofGroups? (groups : List Group) : Option Ipv6 :=
  if length_groups : groups.length = 8 then some ⟨groups, length_groups⟩ else none

def readText? (text : Bytes) : Option Ipv6 :=
  match text.cut? (utf8 "::") with
  | none => (readSide? true text).bind ofGroups?
  | some (before, after) =>
    match readSide? false before, readSide? true after with
    | some left, some right =>
      if left.length + right.length < 8 then
        ofGroups? (left ++ List.replicate (8 - (left.length + right.length)) 0 ++ right)
      else none
    | _, _ => none

/-- The longest text that is looked at. -/
def textLimit : Nat := 46

def read? (text : Bytes) : Option Ipv6 :=
  if text.length ≤ textLimit then readText? text.untilNul else none

/-! ## Writing -/

/-- The start and the length of the first longest run of zero groups. -/
def longestZeroRun : List Group → Nat × Nat
  | [] => (0, 0)
  | group :: groups =>
    let here := ((group :: groups).takeWhile (· == 0)).length
    let (start, length) := longestZeroRun groups
    if length ≤ here then (0, here) else (start + 1, length)

/-- The text after the double colon, given where the run it replaces starts. -/
def renderTail (start : Nat) (groups : List Group) : Bytes :=
  match start, groups with
  | 0, [left, right] => (quadOfGroups left right).render
  | 0, [0xffff, left, right] => utf8 "ffff:" ++ (quadOfGroups left right).render
  | _, _ => Group.renderAll groups

def render (address : Ipv6) : Bytes :=
  let (start, length) := longestZeroRun address.groups
  if 2 ≤ length then
    Group.renderAll (address.groups.take start) ++ utf8 "::" ++
      renderTail start (address.groups.drop (start + length))
  else Group.renderAll address.groups

end Ipv6

end RouteMonitor
