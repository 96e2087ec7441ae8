import PodIsolation.Json.Number

/-!
# Drafts of JSON documents

## What a text holds

A text need not hold a whole document: it may end too early, or go on in a way
that no document does.  A draft is the tree of what can be read before that, and
says where and how the text breaks.  Nothing is decided yet that depends on the
reader: members keep their order and may repeat a name, numbers may be too
large, and strings may have surrogates without a partner.
-/

namespace PodIsolation

namespace Json

/-- How a text breaks in the place of a value. -/
inductive Break where
  /-- The text ends before the value. -/
  | nothing
  /-- The text ends within one of the three words. -/
  | word
  /-- The text ends within a number. -/
  | numeral
  /-- The text ends within a string; up to there its surrogates are paired or
  not. -/
  | string (paired : Bool)
  /-- The text goes on in a way that no value does. -/
  | malformed
deriving DecidableEq, Repr

/-- Why a document cannot be read: its text ends too early, or it is not what
the reader asks for. -/
inductive TextFault where
  | cutOff
  | refused
deriving DecidableEq, Repr

namespace Break

/-- The fault for a reader that needs the value. -/
def whenRead : Break -> TextFault
  | .nothing => .cutOff
  | .word => .cutOff
  | .numeral => .cutOff
  | .string paired => if paired then .cutOff else .refused
  | .malformed => .refused

/-- The fault for a reader that passes over the value.  It does not look at
surrogates, and takes a number that ends too early for a malformed one. -/
def whenSkipped : Break -> TextFault
  | .nothing => .cutOff
  | .word => .cutOff
  | .numeral => .refused
  | .string _ => .cutOff
  | .malformed => .refused

/-- The fault for a reader that needs the name of a variant. -/
def whenNamed : Break -> TextFault
  | .nothing => .cutOff
  | .string paired => if paired then .cutOff else .refused
  | _ => .refused

end Break

/-- A list or an object that does not end has a fault in the place of its end.
A member whose name breaks the text has no name. -/
inductive Draft where
  | null
  | bool (b : Bool)
  | number (n : Number)
  /-- There is no text if a surrogate has no partner. -/
  | string (text : Option String)
  | list (items : List Draft) (ending : Option TextFault)
  | object (members : List (Option String × Draft)) (ending : Option TextFault)
  | broken (b : Break)
deriving Inhabited

namespace Draft

/-- The value of a member whose name has a surrogate without a partner: a reader
that needs the name refuses it before it meets a break. -/
def nameless : Draft -> Draft
  | .broken b => .broken (if b.whenSkipped = .cutOff then .string false else .malformed)
  | d => d

/-!
## Drafts of whole documents
-/

mutual

def ofJson : Json -> Draft
  | .null => .null
  | .bool b => .bool b
  | .int n => .number (.whole n)
  | .real x => .number (.real x)
  | .string s => .string (some s)
  | .list items => .list (ofItems items) none
  | .object members => .object (ofMembers members) none

def ofItems : List Json -> List Draft
  | [] => []
  | item :: rest => ofJson item :: ofItems rest

def ofMembers : List (String × Json) -> List (Option String × Draft)
  | [] => []
  | (name, value) :: rest => (some name, ofJson value) :: ofMembers rest

end

/-!
## Passing over a draft
-/

mutual

/-- The fault of a reader that passes over a draft. -/
def skipFault? : Draft -> Option TextFault
  | .broken b => some b.whenSkipped
  | .list items ending => skipItems? items ending
  | .object members ending => skipMembers? members ending
  | _ => none

def skipItems? : List Draft -> Option TextFault -> Option TextFault
  | [], ending => ending
  | item :: rest, ending =>
      match skipFault? item with
      | some fault => some fault
      | none => skipItems? rest ending

def skipMembers? : List (Option String × Draft) -> Option TextFault -> Option TextFault
  | [], ending => ending
  | (_, value) :: rest, ending =>
      match skipFault? value with
      | some fault => some fault
      | none => skipMembers? rest ending

end

/-!
## Taking in a draft
-/

mutual

/-- The fault of a reader that takes in all of a draft, and may enter fewer
levels of lists and objects than the given number. -/
def readFault? (levels : Nat) : Draft -> Option TextFault
  | .broken b => some b.whenRead
  | .number .tooLarge => some .refused
  | .string none => some .refused
  | .list items ending =>
      if levels ≤ 1 then some .refused else readItems? (levels - 1) items ending
  | .object members ending =>
      if levels ≤ 1 then some .refused else readMembers? (levels - 1) members ending
  | _ => none

def readItems? (levels : Nat) : List Draft -> Option TextFault -> Option TextFault
  | [], ending => ending
  | item :: rest, ending =>
      match readFault? levels item with
      | some fault => some fault
      | none => readItems? levels rest ending

def readMembers? (levels : Nat) :
    List (Option String × Draft) -> Option TextFault -> Option TextFault
  | [], ending => ending
  | (none, .broken b) :: _, _ => some b.whenRead
  | (none, _) :: _, _ => some .refused
  | (some _, value) :: rest, ending =>
      match readFault? levels value with
      | some fault => some fault
      | none => readMembers? levels rest ending

end

/-- Adds a member, replacing an earlier one of the same name. -/
def setMember (name : String) (value : Json) :
    List (String × Json) -> List (String × Json)
  | [] => [(name, value)]
  | (k, v) :: rest =>
      if k = name then (name, value) :: rest else (k, v) :: setMember name value rest

mutual

/-- The document of a draft without faults.  If an object repeats a name, the
last member counts and takes the place of the first. -/
def toJson : Draft -> Json
  | .null => .null
  | .bool b => .bool b
  | .number (.whole n) => .int n
  | .number (.real x) => .real x
  | .number .tooLarge => .null
  | .string text => .string (text.getD "")
  | .list items _ => .list (toItems items)
  | .object members _ => .object (toMembers members [])
  | .broken _ => .null

def toItems : List Draft -> List Json
  | [] => []
  | item :: rest => toJson item :: toItems rest

def toMembers : List (Option String × Draft) -> List (String × Json) -> List (String × Json)
  | [], seen => seen
  | (name, value) :: rest, seen =>
      toMembers rest (setMember (name.getD "") (toJson value) seen)

end

end Draft

end Json

end PodIsolation
