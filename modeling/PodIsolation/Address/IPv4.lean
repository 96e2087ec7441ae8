import PodIsolation.Text.Numeral

/-!
# IPv4 addresses

## Dotted text

Four decimal octets separated by dots.  Two forms of the text are in use.  In
the plain form an octet has no superfluous leading zeros; next to the prefix
length of a block an octet may be padded with zeros to three digits.
-/

namespace PodIsolation

/-- Where the text of an address stands. -/
inductive AddressForm where
  | plain
  | block
deriving DecidableEq, Repr

structure IPv4 where
  a : UInt8
  b : UInt8
  c : UInt8
  d : UInt8
deriving DecidableEq, Repr

namespace IPv4

def octetText (n : UInt8) : List Char :=
  Nat.toDigits 10 n.toNat

def chars (address : IPv4) : List Char :=
  ['.'].intercalate
    [octetText address.a, octetText address.b, octetText address.c, octetText address.d]

def text (address : IPv4) : String :=
  String.ofList address.chars

/-- A superfluous leading zero. -/
def isPadded : List Char -> Bool
  | '0' :: _ :: _ => true
  | _ => false

def octet? (form : AddressForm) (digits : List Char) : Option UInt8 :=
  if digits.length ≤ 3 ∧ (form = .block ∨ ¬ isPadded digits) then
    (Numeral.decimalBelow? 256 digits).map UInt8.ofNat
  else none

def ofChars? (form : AddressForm) (text : List Char) : Option IPv4 :=
  match (text.splitOn '.').mapM (octet? form) with
  | some [a, b, c, d] => some { a, b, c, d }
  | _ => none

end IPv4

end PodIsolation
