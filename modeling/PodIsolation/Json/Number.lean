import PodIsolation.Json.Basic

/-!
# Numbers in JSON text

## What a numeral denotes

Whole numbers that fit in 64 bits, with or without a sign, are exact.  All
others are read in two roundings: the leading digits that fit in 64 bits are
rounded, and then the product or quotient with the power of ten that is left.
-/

namespace PodIsolation

namespace Json

inductive Number where
  | whole (n : Int)
  | real (x : Binary64)
  /-- The numeral is beyond all finite numbers. -/
  | tooLarge
deriving DecidableEq, Repr

/-- The sign and the digits of an exponent. -/
structure Exponent where
  negative : Bool
  digits : List Char

/-- The parts of a numeral; the fraction and the exponent may be missing. -/
structure NumberParts where
  negative : Bool
  whole : List Char
  fraction : Option (List Char) := none
  exponent : Option Exponent := none

namespace NumberParts

/-- The significand with one more digit, if it fits. -/
def extended? (significand : Nat) (digit : Char) : Option Nat :=
  let longer := significand * 10 + (digit.toNat - '0'.toNat)
  if longer < UInt64.size then some longer else none

/-- Adds digits before the point to a significand as long as it fits; counts the
digits that are left. -/
def takeWhole (significand : Nat) : List Char -> Nat × Nat
  | [] => (significand, 0)
  | digit :: rest =>
      match extended? significand digit with
      | some longer => takeWhole longer rest
      | none => (significand, rest.length + 1)

/-- Adds digits after the point to a significand as long as it fits; counts the
digits that are taken. -/
def takeFraction (significand : Nat) : List Char -> Nat × Nat
  | [] => (significand, 0)
  | digit :: rest =>
      match extended? significand digit with
      | some longer =>
          let (taken, count) := takeFraction longer rest
          (taken, count + 1)
      | none => (significand, 0)

/-- The nearest magnitude to a power of ten; there is one up to 1e308. -/
def tenTo (n : Nat) : Magnitude :=
  (Magnitude.nearest? (Nat.pow 10 n) 1).getD .zero

/-- A magnitude over a power of ten; large powers are divided by in turns. -/
def scaledDown : Nat -> Magnitude -> Nat -> Option Magnitude
  | 0, _, _ => some .zero
  | turns + 1, m, n =>
      if n ≤ 308 then m.div? (tenTo n)
      else if m.isZero then some .zero
      else match m.div? (tenTo 308) with
        | some m => scaledDown turns m (n - 308)
        | none => none

/-- A significand times a power of ten, if that is finite.  Three turns take the
largest significand down to zero. -/
def scaled? (significand : Nat) (power : Int) : Option Magnitude :=
  match Magnitude.nearest? significand 1 with
  | none => none
  | some m =>
      if power < 0 then scaledDown 3 m power.natAbs
      else if power ≤ 308 then m.mul? (tenTo power.toNat)
      else if m.isZero then some m
      else none

/-- The largest exponent that is told from those beyond it. -/
def exponentLimit : Nat := 2147483647

/-- A significand with the exponent of the text added to its own. -/
def withExponent? (significand : Nat) (power : Int) : Option Exponent -> Option Magnitude
  | none => scaled? significand power
  | some e =>
      let n := Nat.ofDigitChars 10 e.digits 0
      if exponentLimit < n then
        if significand ≠ 0 && !e.negative then none else some .zero
      else scaled? significand (if e.negative then power - n else power + n)

def magnitude? (n : NumberParts) : Option Magnitude :=
  let (whole, left) := takeWhole 0 n.whole
  let (significand, taken) := takeFraction whole (n.fraction.getD [])
  withExponent? significand (left - taken) n.exponent

def realValue (n : NumberParts) : Number :=
  match n.magnitude? with
  | some magnitude => .real { negative := n.negative, magnitude }
  | none => .tooLarge

/-- Zero with a minus sign is no whole number. -/
def value (n : NumberParts) : Number :=
  if n.fraction.isNone && n.exponent.isNone then
    let whole : Int := Nat.ofDigitChars 10 n.whole 0
    if !n.negative && whole < UInt64.size then .whole whole
    else if n.negative && 0 < whole && Int64.minValue.toInt ≤ -whole then .whole (-whole)
    else n.realValue
  else n.realValue

end NumberParts

end Json

end PodIsolation
