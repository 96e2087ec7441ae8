import PodIsolation.Address.IPv4

/-!
# IPv6 addresses

## Colon text

Eight groups of hexadecimal digits separated by colons.  A double colon stands
for a gap of zero groups, and the last two groups may be written as an IPv4
address.  In the plain form a gap stands for at least one group; next to the
prefix length of a block it may also stand for none.

An address is printed with its longest run of two or more zero groups as the
gap, the first such run if there are several.  An IPv4-mapped address is
printed with its IPv4 address.
-/

namespace PodIsolation

structure IPv6 where
  groups : List UInt16
  length_groups : groups.length = 8
deriving DecidableEq, Repr

namespace IPv6

def ofGroups? (groups : List UInt16) : Option IPv6 :=
  if h : groups.length = 8 then some { groups, length_groups := h } else none

/-!
## Printing
-/

def groupText (g : UInt16) : List Char :=
  Nat.toDigits 16 g.toNat

def groupsText (groups : List UInt16) : List Char :=
  [':'].intercalate (groups.map groupText)

/-- The number of zero groups at the head. -/
def zeroRun (groups : List UInt16) : Nat :=
  (groups.takeWhile (· == 0)).length

/-- The start and the length of the first longest run of zero groups. -/
def longestRun (groups : List UInt16) : Nat × Nat :=
  (List.range groups.length).foldl
    (fun best start =>
      let run := zeroRun (groups.drop start)
      if best.2 < run then (start, run) else best)
    (0, 0)

/-- The IPv4 address inside an IPv4-mapped address. -/
def mapped? (address : IPv6) : Option IPv4 :=
  match address.groups with
  | [0, 0, 0, 0, 0, 0xffff, high, low] =>
      some
        { a := (high >>> 8).toUInt8, b := high.toUInt8,
          c := (low >>> 8).toUInt8, d := low.toUInt8 }
  | _ => none

def chars (address : IPv6) : List Char :=
  match address.mapped? with
  | some v4 => "::ffff:".toList ++ v4.chars
  | none =>
      let (start, run) := longestRun address.groups
      if run < 2 then groupsText address.groups
      else
        groupsText (address.groups.take start) ++ [':', ':'] ++
          groupsText (address.groups.drop (start + run))

def text (address : IPv6) : String :=
  String.ofList address.chars

/-!
## Reading
-/

/-- The two sides of the first double colon. -/
def splitGap : List Char -> Option (List Char × List Char)
  | ':' :: ':' :: rest => some ([], rest)
  | c :: rest => (splitGap rest).map fun sides => (c :: sides.1, sides.2)
  | [] => none

def group? (digits : List Char) : Option UInt16 :=
  if digits.length ≤ 4 then (Numeral.hexadecimal? digits).map UInt16.ofNat else none

/-- The two groups that an embedded IPv4 address stands for. -/
def embeddedGroups (v4 : IPv4) : List UInt16 :=
  [(v4.a.toUInt16 <<< 8) ||| v4.b.toUInt16, (v4.c.toUInt16 <<< 8) ||| v4.d.toUInt16]

/-- The groups written by the pieces between colons.  Only where an address
may end can its last piece be an IPv4 address. -/
def readGroups (form : AddressForm) (atEnd : Bool) : List (List Char) -> Option (List UInt16)
  | [] => some []
  | piece :: rest =>
      match group? piece with
      | some g => (readGroups form atEnd rest).map (g :: ·)
      | none =>
          if atEnd && rest.isEmpty then
            (IPv4.ofChars? form piece).map embeddedGroups
          else none

def sideGroups? (form : AddressForm) (atEnd : Bool) (side : List Char) :
    Option (List UInt16) :=
  if side.isEmpty then some [] else readGroups form atEnd (side.splitOn ':')

/-- The most groups that may be written around a gap. -/
def aroundGap : AddressForm -> Nat
  | .plain => 7
  | .block => 8

def ofChars? (form : AddressForm) (text : List Char) : Option IPv6 :=
  match splitGap text with
  | none => (sideGroups? form true text).bind ofGroups?
  | some (front, back) =>
      match sideGroups? form false front, sideGroups? form true back with
      | some front, some back =>
          if front.length ≤ 7 ∧ front.length + back.length ≤ aroundGap form then
            let gap := List.replicate (8 - front.length - back.length) 0
            ofGroups? (front ++ gap ++ back)
          else none
      | _, _ => none

end IPv6

end PodIsolation
