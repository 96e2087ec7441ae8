import PodIsolation.Number.Binary64

/-!
# Shortest decimals

## The fewest digits that read back

Among the decimals that round to a magnitude, the shortest is the one with the
fewest digits.  Of several the nearest counts, and of two that are equally near
the one with the even last digit.
-/

namespace PodIsolation

/-- Digits before a power of ten. -/
structure Decimal where
  digits : Nat
  exponent : Int
deriving DecidableEq, Repr

namespace Magnitude

/-- The ends of the interval of numbers that round to a magnitude, in quarters
of its unit.  Below a power of two the neighbours are half as far. -/
def interval (m : Magnitude) : Nat × Nat :=
  let below := if m.significand = twoTo 52 && -1074 < m.exponent then 1 else 2
  (4 * m.significand - below, 4 * m.significand + 2)

/-- A quarter of the unit of a magnitude over a power of ten, as a fraction. -/
def quarterOver (m : Magnitude) (power : Int) : Nat × Nat :=
  let exponent := m.exponent - 2
  (twoTo exponent.toNat * Nat.pow 10 (-power).toNat,
    twoTo (-exponent).toNat * Nat.pow 10 power.toNat)

/-- The multiple of a power of ten that rounds to a magnitude, if there is one;
its ends count if the significand is even. -/
def onGrid? (m : Magnitude) (power : Int) : Option Nat :=
  let (num, den) := m.quarterOver power
  let (low, high) := m.interval
  let reaches (digits : Nat) : Bool :=
    if m.significand % 2 = 0 then low * num ≤ digits * den && digits * den ≤ high * num
    else low * num < digits * den && digits * den < high * num
  let value := 4 * m.significand * num
  let down := value / den
  let rest := value - down * den
  let preferDown := 2 * rest < den || (2 * rest == den && down % 2 == 0)
  let candidates := if preferDown then [down, down + 1] else [down + 1, down]
  candidates.find? fun digits => 0 < digits && reaches digits

/-- Tries grids from a power downward, each finer than the one before. -/
def shortestFrom (m : Magnitude) : Nat -> Int -> Decimal
  | 0, power => { digits := 0, exponent := power }
  | n + 1, power =>
      match m.onGrid? power with
      | some digits => { digits, exponent := power }
      | none => shortestFrom m n (power - 1)

/-- No finite magnitude needs a grid coarser than the first or finer than the
last that are tried. -/
def shortest (m : Magnitude) : Decimal :=
  m.shortestFrom 640 309

end Magnitude

end PodIsolation
