import PodIsolation.Json.Draft
import PodIsolation.Text.Numeral

/-!
# Reading JSON text

## Grammar

The grammar of JSON documents, without extensions: no comments, no trailing
commas, no leading zeros, no control characters inside strings.  The parser
yields a draft, and with it the text that follows the value, unless the text
breaks within the value.
-/

namespace PodIsolation

namespace Json

/-- White space between tokens. -/
def isSpace (c : Char) : Bool :=
  c == ' ' || c == '\t' || c == '\n' || c == '\r'

def skipSpace (text : List Char) : List Char :=
  text.dropWhile isSpace

/-!
## Strings
-/

/-- The code unit written by four hexadecimal digits. -/
def codeUnit? (a b c d : Char) : Option Nat := do
  let a <- Numeral.hexDigit? a
  let b <- Numeral.hexDigit? b
  let c <- Numeral.hexDigit? c
  let d <- Numeral.hexDigit? d
  return a * 4096 + b * 256 + c * 16 + d

/-- The character after a backslash, apart from code unit escapes. -/
def simpleEscape? : Char -> Option Char
  | '"' => some '"'
  | '\\' => some '\\'
  | '/' => some '/'
  | 'b' => some '\x08'
  | 'f' => some '\x0c'
  | 'n' => some '\n'
  | 'r' => some '\r'
  | 't' => some '\t'
  | _ => none

def isHighSurrogate (unit : Nat) : Bool :=
  0xD800 ≤ unit && unit < 0xDC00

def isLowSurrogate (unit : Nat) : Bool :=
  0xDC00 ≤ unit && unit < 0xE000

/-- The second half of a surrogate pair at the head of a text. -/
def lowSurrogate? : List Char -> Option Nat
  | '\\' :: 'u' :: a :: b :: c :: d :: _ => (codeUnit? a b c d).filter isLowSurrogate
  | _ => none

def pairPoint (high low : Nat) : Nat :=
  0x10000 + (high - 0xD800) * 0x400 + (low - 0xDC00)

/-- A text that leaves no room for four digits has ended. -/
def brokenDigits (text : List Char) (paired : Bool) : Break :=
  if (String.ofList text).utf8ByteSize < 4 then .string paired else .malformed

/-- Whether a text after a first half of a surrogate pair may still turn out to
hold the second half. -/
def awaitsLow : List Char -> Bool
  | [] => true
  | ['\\'] => true
  | '\\' :: 'u' :: rest => (String.ofList rest).utf8ByteSize < 4
  | _ => false

/-- The rest of a string after its opening quote.  What has been read comes in
reverse, with whether its surrogates are paired. -/
def readString (seen : List Char) (paired : Bool) : List Char ->
    Except Break (Option String × List Char)
  | '"' :: rest =>
      .ok (if paired then some (String.ofList seen.reverse) else none, rest)
  | '\\' :: 'u' :: a :: b :: c :: d :: rest =>
      match codeUnit? a b c d with
      | none => .error (brokenDigits (a :: b :: c :: d :: rest) paired)
      | some unit =>
          if isHighSurrogate unit then
            match lowSurrogate? rest with
            | some low =>
                match rest with
                | _ :: _ :: _ :: _ :: _ :: _ :: rest =>
                    readString (Char.ofNat (pairPoint unit low) :: seen) paired rest
                | _ => .error .malformed
            | none => readString seen (paired && awaitsLow rest) rest
          else if isLowSurrogate unit then readString seen false rest
          else readString (Char.ofNat unit :: seen) paired rest
  | '\\' :: 'u' :: rest => .error (brokenDigits rest paired)
  | ['\\'] => .error (.string paired)
  | '\\' :: c :: rest =>
      match simpleEscape? c with
      | none => .error .malformed
      | some c => readString (c :: seen) paired rest
  | c :: rest =>
      if c.toNat < 0x20 then .error .malformed else readString (c :: seen) paired rest
  | [] => .error (.string paired)

/-!
## Numbers
-/

/-- Digits at the head of a text; there must be one. -/
def readDigits (text : List Char) : Except Break (List Char × List Char) :=
  match text with
  | [] => .error .numeral
  | c :: _ =>
      if c.isDigit then .ok (text.takeWhile Char.isDigit, text.dropWhile Char.isDigit)
      else .error .malformed

/-- Digits without a superfluous leading zero. -/
def readWhole (text : List Char) : Except Break (List Char × List Char) :=
  match text with
  | '0' :: c :: rest => if c.isDigit then .error .malformed else .ok (['0'], c :: rest)
  | _ => readDigits text

def readFraction :
    List Char -> Except Break (Option (List Char) × List Char)
  | '.' :: rest => do
      let (digits, rest) <- readDigits rest
      return (some digits, rest)
  | text => .ok (none, text)

def readExponent : List Char -> Except Break (Option Exponent × List Char)
  | c :: rest =>
      if c == 'e' || c == 'E' then do
        let (negative, rest) := match rest with
          | '-' :: rest => (true, rest)
          | '+' :: rest => (false, rest)
          | _ => (false, rest)
        let (digits, rest) <- readDigits rest
        return (some { negative, digits }, rest)
      else .ok (none, c :: rest)
  | [] => .ok (none, [])

/-- A number after its sign. -/
def readNumber (negative : Bool) (text : List Char) :
    Except Break (Number × List Char) := do
  let (whole, text) <- readWhole text
  let (fraction, text) <- readFraction text
  let (exponent, text) <- readExponent text
  return (NumberParts.value { negative, whole, fraction, exponent }, text)

/-!
## Words
-/

/-- The rest of a word. -/
def readWord : List Char -> List Char -> Except Break (Unit × List Char)
  | [], text => .ok ((), text)
  | _ :: _, [] => .error .word
  | expected :: word, c :: text =>
      if c = expected then readWord word text else .error .malformed

/-!
## Values

Each call below consumes a character before it calls another, so the length of
the text bounds the depth of the calls.
-/

/-- A draft, and the text after it unless the text breaks within it. -/
structure Reading where
  draft : Draft
  rest : Except Break (List Char)

def Reading.ofBreak (b : Break) : Reading where
  draft := .broken b
  rest := .error b

def Reading.ofExcept (make : T -> Draft) : Except Break (T × List Char) -> Reading
  | .ok (value, rest) => { draft := make value, rest := .ok rest }
  | .error b => .ofBreak b

/-- What is left of a list or an object where neither a comma nor its end
follows. -/
def missingEnd (make : Option TextFault -> Draft) : List Char -> Reading
  | [] => { draft := make (some .cutOff), rest := .error .nothing }
  | _ => { draft := make (some .refused), rest := .error .malformed }

mutual

/-- One value at the head of the text. -/
def readValue : Nat -> List Char -> Reading
  | 0, _ => .ofBreak .malformed
  | fuel + 1, text =>
      match skipSpace text with
      | [] => .ofBreak .nothing
      | 'n' :: rest => .ofExcept (fun _ => .null) (readWord ['u', 'l', 'l'] rest)
      | 't' :: rest => .ofExcept (fun _ => .bool true) (readWord ['r', 'u', 'e'] rest)
      | 'f' :: rest => .ofExcept (fun _ => .bool false) (readWord ['a', 'l', 's', 'e'] rest)
      | '"' :: rest => .ofExcept .string (readString [] true rest)
      | '-' :: rest => .ofExcept .number (readNumber true rest)
      | '[' :: rest =>
          match skipSpace rest with
          | [] => missingEnd (.list []) []
          | ']' :: rest => { draft := .list [] none, rest := .ok rest }
          | rest => readItems fuel rest []
      | '\x7b' :: rest =>
          match skipSpace rest with
          | [] => missingEnd (.object []) []
          | '\x7d' :: rest => { draft := .object [] none, rest := .ok rest }
          | rest => readMembers fuel rest []
      | c :: rest =>
          if c.isDigit then .ofExcept .number (readNumber false (c :: rest))
          else .ofBreak .malformed

/-- The items of a list that has at least one more. -/
def readItems : Nat -> List Char -> List Draft -> Reading
  | 0, _, _ => .ofBreak .malformed
  | fuel + 1, text, seen =>
      let item := readValue fuel text
      let seen := item.draft :: seen
      match item.rest with
      | .error b => { draft := .list seen.reverse (some b.whenRead), rest := .error b }
      | .ok rest =>
          match skipSpace rest with
          | ',' :: rest => readItems fuel rest seen
          | ']' :: rest => { draft := .list seen.reverse none, rest := .ok rest }
          | rest => missingEnd (.list seen.reverse) rest

/-- The members of an object that has at least one more. -/
def readMembers : Nat -> List Char -> List (Option String × Draft) -> Reading
  | 0, _, _ => .ofBreak .malformed
  | fuel + 1, text, seen =>
      let brokenAt (name : Option String) (b : Break) : Reading :=
        { draft := .object ((name, .broken b) :: seen).reverse (some b.whenRead)
          rest := .error b }
      match skipSpace text with
      | '"' :: rest =>
          match readString [] true rest with
          | .error b => brokenAt none b
          | .ok (name, rest) =>
              match skipSpace rest with
              | ':' :: rest =>
                  let value := readValue fuel rest
                  let draft := if name.isNone then value.draft.nameless else value.draft
                  let seen := (name, draft) :: seen
                  match value.rest with
                  | .error b =>
                      { draft := .object seen.reverse (some b.whenRead), rest := .error b }
                  | .ok rest =>
                      match skipSpace rest with
                      | ',' :: rest => readMembers fuel rest seen
                      | '\x7d' :: rest =>
                          { draft := .object seen.reverse none, rest := .ok rest }
                      | rest => missingEnd (.object seen.reverse) rest
              | [] => brokenAt name (if name.isNone then .string false else .nothing)
              | _ => brokenAt name .malformed
      | [] => brokenAt none .nothing
      | _ => brokenAt none .malformed

end

namespace Draft

/-- The draft of a text, with the fault of what follows it. -/
def ofText (text : String) : Draft × Option TextFault :=
  let chars := text.toList
  let reading := readValue (chars.length + 1) chars
  match reading.rest with
  | .ok rest => (reading.draft, if (skipSpace rest).isEmpty then none else some .refused)
  | .error _ => (reading.draft, none)

end Draft

/-- How many levels of lists and objects a reader may enter, and one more. -/
def levelLimit : Nat := 128

/-- The document that the whole text holds. -/
def parse? (text : String) : Option Json :=
  let (draft, trailing) := Draft.ofText text
  if (draft.readFault? levelLimit).isNone && trailing.isNone then some draft.toJson
  else none

end Json

end PodIsolation
