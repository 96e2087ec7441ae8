import PodIsolation.Json.Basic
import PodIsolation.Number.Shortest

/-!
# Writing JSON text

## Form

The compact form: no white space between tokens, and within strings only
quotes, backslashes and control characters are escaped, the usual ones of these
by a letter.  Numbers in binary have the fewest digits that read back.  They are
positional from 0.00001 up to but not including 1e+16, and then have a point.
-/

namespace PodIsolation

namespace Json

def hexChar (n : Nat) : Char :=
  if n < 10 then Char.ofNat ('0'.toNat + n) else Char.ofNat ('a'.toNat + (n - 10))

def escapeChar (c : Char) : List Char :=
  match c with
  | '"' => ['\\', '"']
  | '\\' => ['\\', '\\']
  | '\n' => ['\\', 'n']
  | '\r' => ['\\', 'r']
  | '\t' => ['\\', 't']
  | '\x08' => ['\\', 'b']
  | '\x0c' => ['\\', 'f']
  | c =>
      if c.toNat < 0x20 then
        ['\\', 'u', '0', '0', hexChar (c.toNat / 16), hexChar (c.toNat % 16)]
      else [c]

def quote (s : String) : String :=
  String.ofList ('"' :: s.toList.flatMap escapeChar ++ ['"'])

/-!
## Numbers
-/

def zeros (n : Nat) : List Char :=
  List.replicate n '0'

/-- Digits with a point after the first, if there are more. -/
def scientificDigits : List Char -> List Char
  | first :: second :: rest => first :: '.' :: second :: rest
  | digits => digits

/-- The digits of a decimal that is not zero, with the point at its place. -/
def decimalChars (d : Decimal) : List Char :=
  let digits := Nat.toDigits 10 d.digits
  let point : Int := digits.length + d.exponent
  if 16 < point || point ≤ -5 then
    let power := point - 1
    scientificDigits digits ++ 'e' :: (if power < 0 then '-' else '+') ::
      Nat.toDigits 10 power.natAbs
  else if point ≤ 0 then '0' :: '.' :: zeros (-point).toNat ++ digits
  else if 0 ≤ d.exponent then digits ++ zeros d.exponent.toNat ++ ['.', '0']
  else digits.take point.toNat ++ '.' :: digits.drop point.toNat

def magnitudeChars (m : Magnitude) : List Char :=
  if m.isZero then ['0', '.', '0'] else decimalChars m.shortest

def renderReal (x : Binary64) : String :=
  String.ofList ((if x.negative then ['-'] else []) ++ magnitudeChars x.magnitude)

/-!
## Documents
-/

mutual

def render : Json -> String
  | .null => "null"
  | .bool b => if b then "true" else "false"
  | .int n => toString n
  | .real x => renderReal x
  | .string s => quote s
  | .list items => "[" ++ ",".intercalate (renderItems items) ++ "]"
  | .object members => "\x7b" ++ ",".intercalate (renderMembers members) ++ "\x7d"

def renderItems : List Json -> List String
  | [] => []
  | item :: rest => render item :: renderItems rest

def renderMembers : List (String × Json) -> List String
  | [] => []
  | (name, value) :: rest => (quote name ++ ":" ++ render value) :: renderMembers rest

end

end Json

end PodIsolation
