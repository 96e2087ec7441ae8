import PodIsolation.Text.Combining
import PodIsolation.Text.Unprintable

/-!
# Quoted text

## Text in quotes on one line

Quotes and backslashes are escaped by a backslash.  Characters that show nothing
of their own, and those that combine with the character before, are escaped by a
letter or by their code point in braces.
-/

namespace PodIsolation

namespace Text

/-- Printable ASCII is never hidden, which spares a search of the tables. -/
def isHidden (c : Char) : Bool :=
  if ' ' ≤ c ∧ c ≤ '~' then false else isCombining c || isUnprintable c

def quotedChar (c : Char) : List Char :=
  match c with
  | '"' => ['\\', '"']
  | '\\' => ['\\', '\\']
  | '\n' => ['\\', 'n']
  | '\r' => ['\\', 'r']
  | '\t' => ['\\', 't']
  | '\x00' => ['\\', '0']
  | c =>
      if isHidden c then
        ['\\', 'u', '\x7b'] ++ Nat.toDigits 16 c.toNat ++ ['\x7d']
      else [c]

def quoted (s : String) : String :=
  String.ofList ('"' :: s.toList.flatMap quotedChar ++ ['"'])

end Text

end PodIsolation
