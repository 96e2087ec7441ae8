import PodIsolation.Text.Alphabetic
import PodIsolation.Text.Blank
import PodIsolation.Text.Numeral

/-!
# Patterns

## Which texts are regular expressions

A pattern is a text of literals, classes, groups and repetitions that matches
whole characters only, and that a finite automaton can match.  Word boundaries
can be looked for in ASCII alone.

The functions below take a part from the head of a text and leave the text after
it; there is none if the part is malformed.
-/

namespace PodIsolation

namespace Text

namespace Pattern

/-!
## Modes
-/

/-- How the text of a pattern is read; flags change it. -/
structure Mode where
  /-- Blanks and comments stand for nothing. -/
  spaced : Bool := false
  /-- Classes hold characters, and not only those of ASCII. -/
  unicode : Bool := true
deriving DecidableEq, Repr

namespace Mode

/-- Passes over blanks and comments; a comment lasts to the end of its line. -/
def skipSpaced (inComment : Bool) : List Char -> List Char
  | [] => []
  | c :: rest =>
      if inComment then skipSpaced (c != '\n') rest
      else if isBlank c then skipSpaced false rest
      else if c == '#' then skipSpaced true rest
      else c :: rest

def skip (m : Mode) (text : List Char) : List Char :=
  if m.spaced then skipSpaced false text else text

/-- The mode after flags; a minus sign takes back those after it. -/
def apply (m : Mode) (on : Bool) : List Char -> Mode
  | [] => m
  | flag :: rest =>
      match flag with
      | '-' => m.apply false rest
      | 'x' => { m with spaced := on }.apply on rest
      | 'u' => { m with unicode := on }.apply on rest
      | _ => m.apply on rest

/-- Whether a class may hold a character. -/
def admits (m : Mode) (c : Char) : Bool :=
  m.unicode || c.toNat < 128

end Mode

/-!
## Escapes
-/

/-- What an escape stands for: one character, a class, or a place. -/
inductive Escape where
  | literal (c : Char)
  | charClass
  | place
deriving DecidableEq, Repr

/-- The character with a hexadecimal numeral. -/
def hexChar? (digits : List Char) : Option Char := do
  let n <- Numeral.hexadecimal? digits
  if n.isValidChar then some (Char.ofNat n) else none

def readDigits? (m : Mode) : Nat -> List Char -> Option (List Char × List Char)
  | 0, text => some ([], text)
  | n + 1, text =>
      match m.skip text with
      | [] => none
      | digit :: rest => do
          let (digits, rest) <- readDigits? m n rest
          return (digit :: digits, rest)

/-- A numeral of a fixed number of digits. -/
def readHex? (m : Mode) (width : Nat) (text : List Char) : Option (Char × List Char) := do
  let (digits, rest) <- readDigits? m width text
  return (<- hexChar? digits, rest)

/-- The general categories with one letter. -/
def isCategory (c : Char) : Bool :=
  ['c', 'l', 'm', 'n', 'p', 's', 'z'].contains c.toLower

/-- ASCII marks stand for themselves, except those of word boundaries. -/
def isMark (c : Char) : Bool :=
  c.toNat < 128 && !c.isAlphanum && c != '<' && c != '>'

/-- An escape that has one letter or mark. -/
def shortEscape? (m : Mode) (c : Char) : Option Escape :=
  match c with
  | 'a' => some (.literal '\x07')
  | 'f' => some (.literal '\x0c')
  | 'n' => some (.literal '\n')
  | 'r' => some (.literal '\r')
  | 't' => some (.literal '\t')
  | 'v' => some (.literal '\x0b')
  | 'A' => some .place
  | 'z' => some .place
  | c =>
      if ['b', 'B', '<', '>'].contains c then if m.unicode then none else some .place
      else if ['d', 's', 'w'].contains c then some .charClass
      else if ['D', 'S', 'W'].contains c then if m.unicode then some .charClass else none
      else if isMark c then some (.literal c)
      else none

/-- An escape after its backslash.  A byte beyond ASCII is no character. -/
def readEscape? (m : Mode) : List Char -> Option (Escape × List Char)
  | [] => none
  | 'x' :: rest => do
      let (c, rest) <- readHex? m 2 rest
      if m.admits c then some (.literal c, rest) else none
  | 'u' :: rest => (readHex? m 4 rest).map fun (c, rest) => (.literal c, rest)
  | 'U' :: rest => (readHex? m 8 rest).map fun (c, rest) => (.literal c, rest)
  | c :: rest =>
      if c == 'p' || c == 'P' then
        match m.skip rest with
        | category :: rest =>
            if m.unicode && isCategory category then some (.charClass, rest) else none
        | [] => none
      else (shortEscape? m c).map fun e => (e, rest)

/-!
## Classes
-/

def classNames : List String :=
  ["alnum", "alpha", "ascii", "blank", "cntrl", "digit", "graph", "lower", "print", "punct",
    "space", "upper", "word", "xdigit"]

/-- A named class after its opening bracket and colon, with whether it is the
opposite of the name. -/
def readClassName? (text : List Char) : Option (Bool × List Char) :=
  let (negated, text) := match text with
    | '^' :: rest => (true, rest)
    | _ => (false, text)
  let name := text.takeWhile Char.isLower
  match text.drop name.length with
  | ':' :: ']' :: rest =>
      if classNames.contains (String.ofList name) then some (negated, rest) else none
  | _ => none

/-- One item of a class: a literal, unless it is a class of its own. -/
def readItem? (m : Mode) : List Char -> Option (Option Char × List Char)
  | [] => none
  | '\\' :: rest => do
      match <- readEscape? m rest with
      | (.literal c, rest) => if m.admits c then some (some c, rest) else none
      | (.charClass, rest) => some (none, rest)
      | (.place, _) => none
  | c :: rest => if m.admits c then some (some c, rest) else none

/-- An item of a class, or a range of two literals. -/
def readRange? (m : Mode) (text : List Char) : Option (List Char) := do
  let (first, rest) <- readItem? m text
  match m.skip rest with
  | '-' :: rest =>
      match m.skip rest with
      | [] => none
      | next :: others =>
          if next == ']' || next == '-' then some ('-' :: rest)
          else do
            let (last, rest) <- readItem? m (next :: others)
            match first, last with
            | some first, some last => if first ≤ last then some rest else none
            | _, _ => none
  | rest => some rest

/-- The start of a class after its opening bracket.  A closing bracket there
stands for itself. -/
def openClass? (m : Mode) (text : List Char) : Option (List Char) :=
  let unbracketed (text : List Char) : List Char :=
    match text with
    | ']' :: rest => rest
    | _ => text
  match m.skip text with
  | '^' :: rest => if m.unicode then some (unbracketed (m.skip rest)) else none
  | text => some (unbracketed text)

/-- The rest of a class inside the given number of others. -/
def readClass? (m : Mode) : Nat -> Nat -> List Char -> Option (List Char)
  | 0, _, _ => none
  | fuel + 1, depth, text =>
      match m.skip text with
      | [] => none
      | '[' :: ':' :: rest =>
          match readClassName? rest with
          | some (negated, rest) =>
              if negated && !m.unicode then none else readClass? m fuel depth rest
          | none => do readClass? m fuel (depth + 1) (<- openClass? m (':' :: rest))
      | '[' :: rest => do readClass? m fuel (depth + 1) (<- openClass? m rest)
      | ']' :: rest => if depth = 0 then some rest else readClass? m fuel (depth - 1) rest
      | '&' :: '&' :: rest => readClass? m fuel depth rest
      | '-' :: '-' :: rest => readClass? m fuel depth rest
      | '~' :: '~' :: rest => readClass? m fuel depth rest
      | text => do readClass? m fuel depth (<- readRange? m text)

/-!
## Groups
-/

/-- Flags up to the mark that ends them; at most one of each, and one minus sign
with a flag after it. -/
def isFlags (flags : List Char) : Bool :=
  flags.all (['i', 'm', 's', 'U', 'u', 'R', 'x', '-'].contains ·) &&
    flags.all (fun flag => flags.count flag == 1) && flags.getLast? != some '-'

def isNameChar (c : Char) : Bool :=
  isAlphanumeric c || ['_', '.', '[', ']'].contains c

/-- A name starts with a letter or a low line. -/
def isName : List Char -> Bool
  | [] => false
  | c :: rest => (isAlphabetic c || c == '_') && rest.all isNameChar

/-- How a group begins: with flags, or with a name. -/
inductive Opening where
  | group (name : List Char) (flags : List Char)
  /-- Flags without a group hold from here on. -/
  | flags (flags : List Char)

def readName? (text : List Char) : Option (Opening × List Char) :=
  let name := text.takeWhile (· != '>')
  match text.drop name.length with
  | _ :: rest => if isName name then some (.group name [], rest) else none
  | [] => none

/-- A group after its opening parenthesis. -/
def readOpening? : List Char -> Option (Opening × List Char)
  | '?' :: 'P' :: '<' :: rest => readName? rest
  | '?' :: '<' :: rest => readName? rest
  | '?' :: rest =>
      let flags := rest.takeWhile fun c => c != ':' && c != ')'
      match rest.drop flags.length with
      | ':' :: rest => if isFlags flags then some (.group [] flags, rest) else none
      | _ :: rest => if isFlags flags && !flags.isEmpty then some (.flags flags, rest) else none
      | [] => none
  | rest => some (.group [] [], rest)

/-!
## Whole patterns
-/

/-- What has been met of a pattern: the modes around the groups that are open,
the names of groups, and whether what came last can be repeated. -/
structure Progress where
  mode : Mode := {}
  outer : List Mode := []
  names : List (List Char) := []
  repeatable : Bool := false

namespace Progress

def enter? (p : Progress) : Opening -> Option Progress
  | .flags flags => some { p with mode := p.mode.apply true flags, repeatable := false }
  | .group name flags =>
      if !name.isEmpty && p.names.contains name then none
      else some {
        mode := p.mode.apply true flags
        outer := p.mode :: p.outer
        names := name :: p.names }

def leave? (p : Progress) : Option Progress :=
  match p.outer with
  | [] => none
  | mode :: outer => some { p with mode, outer, repeatable := true }

end Progress

/-- One part of a pattern that begins with a character. -/
def readPart? (p : Progress) (c : Char) (rest : List Char) : Option (Progress × List Char) :=
  let met := { p with repeatable := true }
  match c with
  | '(' => do
      let (opening, rest) <- readOpening? (p.mode.skip rest)
      return (<- p.enter? opening, rest)
  | ')' => p.leave?.map fun p => (p, rest)
  | '|' => some ({ p with repeatable := false }, rest)
  | '[' => do
      let rest <- openClass? p.mode rest
      return (met, <- readClass? p.mode (rest.length + 1) 0 rest)
  | '\\' => (readEscape? p.mode rest).map fun (_, rest) => (met, rest)
  | '.' => if p.mode.unicode then some (met, rest) else none
  | '*' => if p.repeatable then some (p, rest) else none
  | '+' => if p.repeatable then some (p, rest) else none
  | '?' => if p.repeatable then some (p, rest) else none
  | '\x7b' => none
  | _ => some (met, rest)

def isWhole : Nat -> Progress -> List Char -> Bool
  | 0, _, _ => false
  | fuel + 1, p, text =>
      match p.mode.skip text with
      | [] => p.outer.isEmpty
      | c :: rest =>
          match readPart? p c rest with
          | some (p, rest) => isWhole fuel p rest
          | none => false

/-- Whether a text is a pattern.  Counts of repetitions are not among those that
can be written here. -/
def isValid (text : List Char) : Bool :=
  isWhole (text.length + 1) {} text

end Pattern

end Text

end PodIsolation
