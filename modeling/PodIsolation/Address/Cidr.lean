import PodIsolation.Address.IPv6

/-!
# Address blocks

## Addresses with a prefix length

A block keeps the address as written, host bits included.  Its text is the
address, a slash, and the prefix length in at most as many digits as the
largest length has.
-/

namespace PodIsolation

inductive Address where
  | v4 (address : IPv4)
  | v6 (address : IPv6)
deriving DecidableEq, Repr

namespace Address

def text : Address -> String
  | .v4 a => a.text
  | .v6 a => a.text

/-- An address in its plain form. -/
def ofText? (text : String) : Option Address :=
  match IPv4.ofChars? .plain text.toList with
  | some a => some (.v4 a)
  | none => (IPv6.ofChars? .plain text.toList).map .v6

end Address

inductive Cidr where
  | v4 (address : IPv4) (length : Fin 33)
  | v6 (address : IPv6) (length : Fin 129)
deriving DecidableEq, Repr

namespace Cidr

def address : Cidr -> Address
  | .v4 a _ => .v4 a
  | .v6 a _ => .v6 a

/-- The block of a single host. -/
def host : Address -> Cidr
  | .v4 a => .v4 a 32
  | .v6 a => .v6 a 128

def text : Cidr -> String
  | .v4 a length => a.text ++ "/" ++ toString length.val
  | .v6 a length => a.text ++ "/" ++ toString length.val

/-- A prefix length of at most the given number of digits. -/
def length? (digits bound : Nat) (text : List Char) : Option (Fin bound) :=
  if text.length ≤ digits then
    (Numeral.decimal? text).bind fun n => if h : n < bound then some ⟨n, h⟩ else none
  else none

def ofChars? (text : List Char) : Option Cidr :=
  match text.splitOn '/' with
  | [address, length] =>
      match IPv4.ofChars? .block address with
      | some a => (length? 2 33 length).map (.v4 a)
      | none =>
          match IPv6.ofChars? .block address with
          | some a => (length? 3 129 length).map (.v6 a)
          | none => none
  | _ => none

def ofText? (text : String) : Option Cidr :=
  ofChars? text.toList

/-- Why the text of a block was refused. -/
def refusal : String := "invalid IP address syntax"

end Cidr

end PodIsolation
