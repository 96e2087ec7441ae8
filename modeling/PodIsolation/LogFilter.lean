import PodIsolation.Text.Alphabetic
import PodIsolation.Text.Blank
import PodIsolation.Text.Letters
import PodIsolation.Text.Numeral
import PodIsolation.Text.Pattern

/-!
# Log filters

## Directives

A filter is a list of directives separated by commas.  A directive is a level, or
a target, a span in brackets with fields in braces, or both, that may be followed
by an equals sign and a level.

A directive is scanned without the blanks around it, but its parts are cut from
the text with them, at the same places counted in bytes.  A part that would
begin or end within a character breaks the reading down.
-/

namespace PodIsolation

inductive DirectiveError where
  | malformed
  /-- A part of a directive begins or ends within a character. -/
  | misplaced
deriving DecidableEq, Repr

namespace LogFilter

/-- A level is a number up to five or a word. -/
def isLevel (word : List Char) : Bool :=
  (Numeral.signedDecimalBelow? 6 word).isSome ||
    ["trace", "debug", "info", "warn", "error", "off"].any fun level =>
      Text.sameLetters (String.ofList word) level

def isLevelEnd (word : List Char) : Bool :=
  word.isEmpty || isLevel word

/-!
## Parts of a text by bytes
-/

/-- The text after a number of bytes. -/
def dropBytes? : Nat -> List Char -> Option (List Char)
  | 0, text => some text
  | _ + 1, [] => none
  | n + 1, c :: rest => if c.utf8Size ≤ n + 1 then dropBytes? (n + 1 - c.utf8Size) rest else none

/-- The text up to a number of bytes. -/
def takeBytes? : Nat -> List Char -> Option (List Char)
  | 0, _ => some []
  | _ + 1, [] => none
  | n + 1, c :: rest =>
      if c.utf8Size ≤ n + 1 then
        (takeBytes? (n + 1 - c.utf8Size) rest).map fun taken => c :: taken
      else none

def part (text : List Char) (start stop : Nat) : Except DirectiveError (List Char) :=
  match (dropBytes? start text).bind (takeBytes? (stop - start)) with
  | some cut => .ok cut
  | none => .error .misplaced

/-!
## Fields
-/

/-- A decimal number with an optional point and exponent, or a word for what no
digits can write. -/
def isNumber (text : List Char) : Bool :=
  ["inf", "infinity", "nan"].any (Text.sameLetters (String.ofList text) ·) ||
    let whole := text.takeWhile Char.isDigit
    let rest := text.dropWhile Char.isDigit
    let (fraction, rest) := match rest with
      | '.' :: rest => (rest.takeWhile Char.isDigit, rest.dropWhile Char.isDigit)
      | _ => ([], rest)
    !(whole ++ fraction).isEmpty && match rest with
      | [] => true
      | e :: sign :: digits =>
          (e == 'e' || e == 'E') && Numeral.isDecimal
            (if sign == '+' || sign == '-' then digits else sign :: digits)
      | [_] => false

/-- A value is a number with a plus sign, or a pattern. -/
def isFieldValue : List Char -> Bool
  | '+' :: number => isNumber number
  | text => Text.Pattern.isValid text

/-- A field is a name that may be followed by an equals sign and a value.  What
follows a second equals sign does not count. -/
def isField (text : List Char) : Bool :=
  !text.isEmpty && match text.dropWhile (· != '=') with
    | _ :: rest => isFieldValue (rest.takeWhile (· != '='))
    | [] => true

/-!
## Scanning
-/

/-- Where the scan of a directive stands; parts are known by where they start. -/
inductive Phase where
  | start
  | levelOrTarget (start : Nat)
  | span (start : Nat)
  | field (start : Nat)
  | fields
  | target
  | level (start : Nat)
deriving DecidableEq, Repr

def isStartChar (c : Char) : Bool :=
  c == '-' || c == ':' || c == '_' || Text.isAlphanumeric c

/-- The phase after a character at a place. -/
def step (text : List Char) (place : Nat) (c : Char) : Phase -> Except DirectiveError Phase
  | .start =>
      if c = '[' then .ok (.span (place + 1))
      else if isStartChar c then .ok (.levelOrTarget place)
      else .error .malformed
  | .levelOrTarget start =>
      if c = '=' then do
        let _ <- part text start place
        return .level (place + 1)
      else if c = '[' then do
        let _ <- part text start place
        return .span (place + 1)
      else .ok (.levelOrTarget start)
  | .span start =>
      if c = ']' then do
        let _ <- part text start place
        return .target
      else if c = '\x7b' then do
        let _ <- part text start place
        return .field (place + 1)
      else .ok (.span start)
  | .field start =>
      if c = '\x7d' then do
        if isField (<- part text start place) then .ok .fields else .error .malformed
      else .ok (.field start)
  | .fields => if c = ']' then .ok .target else .error .malformed
  | .target => if c = '=' then .ok (.level (place + 1)) else .error .malformed
  | .level start => .ok (.level start)

/-- The phase after all characters from a place on. -/
def scan (text : List Char) (place : Nat) : List Char -> Phase -> Except DirectiveError Phase
  | [], phase => .ok phase
  | c :: rest, phase => do scan text (place + c.utf8Size) rest (<- step text place c phase)

/-- Checks a directive. -/
def checkDirective (text : List Char) : Except DirectiveError Unit := do
  match <- scan text 0 (Text.trimmed text) .start with
  | .levelOrTarget _ => .ok ()
  | .target => .ok ()
  | .level start =>
      match dropBytes? start text with
      | some level => if isLevelEnd level then .ok () else .error .malformed
      | none => .error .misplaced
  | _ => .error .malformed

/-- Checks the directives in their order; empty ones do not count. -/
def check (text : String) : Except DirectiveError Unit :=
  ((text.toList.splitOn ',').filter fun d => !d.isEmpty).forM checkDirective

end LogFilter

end PodIsolation
