import PodIsolation.Number.Binary64
import PodIsolation.Text.Alphabetic
import PodIsolation.Text.Numeral

/-!
# Durations

## Durations as text

A duration is a sum of decimal numbers with units.  Zero needs no unit, and
signs at the start do not count.  A term may be negative zero but nothing less,
and the sum must fit in 64 bits of seconds; reading breaks down at a term that
leaves these bounds.
-/

namespace PodIsolation

inductive DurationError where
  | malformed
  /-- A term or the sum is negative or too large. -/
  | outOfBounds
deriving DecidableEq, Repr

namespace Duration

/-- How many parts of a unit make a second, and how many seconds a unit has. -/
structure TimeUnit where
  parts : Nat := 1
  seconds : Nat := 1
deriving DecidableEq, Repr

def TimeUnit.ofName? : String -> Option TimeUnit
  | "ns" => some { parts := 1000000000 }
  | "us" => some { parts := 1000000 }
  | "\u00b5s" => some { parts := 1000000 }
  | "\u03bcs" => some { parts := 1000000 }
  | "ms" => some { parts := 1000 }
  | "s" => some {}
  | "m" => some { seconds := 60 }
  | "h" => some { seconds := 3600 }
  | _ => none

/-- A decimal number with a sign and a point, but without an exponent, as a sign
and a fraction. -/
def decimal? (text : List Char) : Option (Bool × Nat × Nat) :=
  let (negative, text) := match text with
    | '-' :: rest => (true, rest)
    | '+' :: rest => (false, rest)
    | _ => (false, text)
  let whole := text.takeWhile Char.isDigit
  let fraction? := match text.dropWhile Char.isDigit with
    | [] => some []
    | '.' :: rest => some rest
    | _ => none
  fraction?.bind fun fraction =>
    (Numeral.decimal? (whole ++ fraction)).map fun n =>
      (negative, n, Nat.pow 10 fraction.length)

def nanosPerSecond : Nat := 1000000000

/-- The nanoseconds of a term, in two roundings to binary numbers and one to
whole nanoseconds. -/
def nanos (negative : Bool) (num den : Nat) (u : TimeUnit) : Except DurationError Nat :=
  let product := do
    let value <- Magnitude.nearest? num den
    let seconds <- Magnitude.nearest? u.seconds u.parts
    value.mul? seconds
  match product with
  | none => .error .outOfBounds
  | some m =>
      if negative && !m.isZero then .error .outOfBounds
      else if UInt64.size * m.denominator ≤ m.numerator then .error .outOfBounds
      else .ok (Magnitude.roundedQuotient (m.numerator * nanosPerSecond) m.denominator)

/-- Reads the terms of a sum. -/
def readTerms : Nat -> Nat -> List Char -> Except DurationError Nat
  | 0, _, _ => .error .malformed
  | fuel + 1, total, text =>
      if text.isEmpty || text == ['0'] then .ok total
      else
        let number := text.takeWhile fun c => !Text.isAlphabetic c
        let text := text.drop number.length
        let name := text.takeWhile Text.isAlphabetic
        match decimal? number, TimeUnit.ofName? (String.ofList name) with
        | some (negative, num, den), some u => do
            let total := total + (<- nanos negative num den u)
            if UInt64.size * nanosPerSecond ≤ total then .error .outOfBounds
            else readTerms fuel total (text.drop name.length)
        | _, _ => .error .malformed

/-- The nanoseconds of a duration, whatever its sign. -/
def ofChars (text : List Char) : Except DurationError Nat :=
  let text := (text.dropWhile (· == '+')).dropWhile (· == '-')
  readTerms (text.length + 1) 0 text

def ofText (text : String) : Except DurationError Nat :=
  ofChars text.toList

end Duration

end PodIsolation
