/-!
# Numerals

## Digits and their values

Numerals are lists of characters.  A numeral has at least one digit, and every
character is an ASCII digit of its base; there are no signs and no separators
unless a function says otherwise.
-/

namespace PodIsolation

namespace Numeral

def hexDigit? (c : Char) : Option Nat :=
  if '0' ≤ c ∧ c ≤ '9' then some (c.toNat - '0'.toNat)
  else if 'a' ≤ c ∧ c ≤ 'f' then some (c.toNat - 'a'.toNat + 10)
  else if 'A' ≤ c ∧ c ≤ 'F' then some (c.toNat - 'A'.toNat + 10)
  else none

def isDecimal (digits : List Char) : Bool :=
  !digits.isEmpty && digits.all Char.isDigit

/-- The value of a decimal numeral. -/
def decimal? (digits : List Char) : Option Nat :=
  if isDecimal digits then some (Nat.ofDigitChars 10 digits 0) else none

/-- The value of a hexadecimal numeral. -/
def hexadecimal? (digits : List Char) : Option Nat :=
  if digits.isEmpty then none
  else (digits.mapM hexDigit?).map fun values => values.foldl (fun n d => n * 16 + d) 0

/-- A decimal numeral below a bound, with any number of digits. -/
def decimalBelow? (bound : Nat) (digits : List Char) : Option Nat :=
  (decimal? digits).filter (· < bound)

/-- A decimal numeral below a bound, which may begin with a plus sign. -/
def signedDecimalBelow? (bound : Nat) : List Char -> Option Nat
  | '+' :: digits => decimalBelow? bound digits
  | digits => decimalBelow? bound digits

theorem isDecimal_toDigits (n : Nat) : isDecimal (Nat.toDigits 10 n) = true := by
  simp only [isDecimal, Bool.and_eq_true, Bool.not_eq_true', List.isEmpty_eq_false_iff,
    List.all_eq_true]
  refine ⟨Nat.toDigits_ne_nil, ?_⟩
  intro c hc
  exact Nat.isDigit_of_mem_toDigits (b := 10) (by decide) (by decide) hc

/-- Reading the digits of a number yields the number. -/
@[simp] theorem decimal?_toDigits (n : Nat) :
    decimal? (Nat.toDigits 10 n) = some n := by
  simp [decimal?, isDecimal_toDigits, Nat.ofDigitChars_ten_toDigits]

end Numeral

end PodIsolation
