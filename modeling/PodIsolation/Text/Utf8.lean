/-!
# Decoding UTF-8

## Replacement of invalid bytes

Text from a command may hold bytes that are no UTF-8.  Each maximal prefix of
a character that is not continued becomes one replacement character, and so
does each byte that begins no character.
-/

namespace PodIsolation

namespace Text

/-- The range of the second byte and the number of continuation bytes after
the lead byte of a character beyond ASCII. -/
def leadByte? (b : Nat) : Option ((Nat × Nat) × Nat) :=
  if 0xC2 ≤ b ∧ b ≤ 0xDF then some ((0x80, 0xBF), 1)
  else if b = 0xE0 then some ((0xA0, 0xBF), 2)
  else if 0xE1 ≤ b ∧ b ≤ 0xEC then some ((0x80, 0xBF), 2)
  else if b = 0xED then some ((0x80, 0x9F), 2)
  else if 0xEE ≤ b ∧ b ≤ 0xEF then some ((0x80, 0xBF), 2)
  else if b = 0xF0 then some ((0x90, 0xBF), 3)
  else if 0xF1 ≤ b ∧ b ≤ 0xF3 then some ((0x80, 0xBF), 3)
  else if b = 0xF4 then some ((0x80, 0x8F), 3)
  else none

/-- The bits of a lead byte that belong to the code point. -/
def leadBits (b : Nat) : Nat :=
  if b < 0xE0 then b - 0xC0 else if b < 0xF0 then b - 0xE0 else b - 0xF0

/-- What is owed of a character: the range of its next byte, the number of
bytes still to come, and the code point so far. -/
structure Pending where
  range : Nat × Nat
  owed : Nat
  point : Nat

/-- Starts a character with a byte: either it is pending, or it is complete. -/
def startChar (b : Nat) : Option Pending × List Char :=
  if b < 0x80 then (none, [Char.ofNat b])
  else match leadByte? b with
    | some (range, owed) => (some { range, owed, point := leadBits b }, [])
    | none => (none, ['\ufffd'])

/-- Takes the next byte; a byte that does not continue the pending character
ends it with a replacement and starts a new one. -/
def acceptByte (pending : Option Pending) (b : Nat) : Option Pending × List Char :=
  match pending with
  | none => startChar b
  | some p =>
      if p.range.1 ≤ b ∧ b ≤ p.range.2 then
        let point := p.point * 64 + (b - 0x80)
        if p.owed = 1 then (none, [Char.ofNat point])
        else (some { range := (0x80, 0xBF), owed := p.owed - 1, point }, [])
      else
        let next := startChar b
        (next.1, '\ufffd' :: next.2)

def decodeBytes : Option Pending -> List Nat -> List Char
  | none, [] => []
  | some _, [] => ['\ufffd']
  | pending, b :: rest =>
      let step := acceptByte pending b
      step.2 ++ decodeBytes step.1 rest

/-- The text of a sequence of bytes. -/
def ofUtf8Lossy (bytes : List Nat) : String :=
  String.ofList (decodeBytes none bytes)

end Text

end PodIsolation
