/-!
# Binary floating point

## Finite numbers of 64 bits

A magnitude is a significand of at most 53 bits times a power of two that is not
below -1074.  A fraction is rounded to the nearest magnitude, and a tie goes to
the even significand.  Fractions beyond the largest magnitude have none.
-/

namespace PodIsolation

structure Magnitude where
  significand : Nat
  exponent : Int
deriving DecidableEq, Repr, Inhabited

structure Binary64 where
  negative : Bool := false
  magnitude : Magnitude
deriving DecidableEq, Repr, Inhabited

namespace Magnitude

def zero : Magnitude where
  significand := 0
  exponent := 0

def isZero (m : Magnitude) : Bool :=
  m.significand = 0

/-- The power of two with a natural exponent. -/
def twoTo (n : Nat) : Nat :=
  1 <<< n

/-!
## As fractions
-/

def numerator (m : Magnitude) : Nat :=
  m.significand * twoTo m.exponent.toNat

def denominator (m : Magnitude) : Nat :=
  twoTo (-m.exponent).toNat

/-- Half of the distance between neighbours decides, then the even quotient. -/
def roundedQuotient (num den : Nat) : Nat :=
  let quotient := num / den
  let twice := 2 * (num % den)
  if den < twice || (twice == den && quotient % 2 == 1) then quotient + 1 else quotient

/-- The fraction times a power of two, as a fraction. -/
def shifted (num den : Nat) (shift : Int) : Nat × Nat :=
  (num * twoTo shift.toNat, den * twoTo (-shift).toNat)

/-- The shift that leaves 53 bits before the point, or fewer for tiny
fractions. -/
def normalShift (num den : Nat) : Int :=
  let guess : Int := 52 - ((num.log2 : Int) - den.log2)
  let (n, d) := shifted num den guess
  min (if n / d < twoTo 52 then guess + 1 else guess) 1074

/-- The magnitude nearest to a fraction. -/
def nearest? (num den : Nat) : Option Magnitude :=
  if num = 0 then some zero
  else
    let shift := normalShift num den
    let (n, d) := shifted num den shift
    let quotient := roundedQuotient n d
    let m : Magnitude :=
      if quotient = twoTo 53 then { significand := twoTo 52, exponent := 1 - shift }
      else { significand := quotient, exponent := -shift }
    if 971 < m.exponent then none else some m

def mul? (a b : Magnitude) : Option Magnitude :=
  nearest? (a.numerator * b.numerator) (a.denominator * b.denominator)

def div? (a b : Magnitude) : Option Magnitude :=
  nearest? (a.numerator * b.denominator) (a.denominator * b.numerator)

end Magnitude

end PodIsolation
