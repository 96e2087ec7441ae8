import PodIsolation.Json.Parser
import PodIsolation.SortedMap
import PodIsolation.StringSet

/-!
# Readers

## Reading values from drafts

A reader takes a value from a draft, or tells the first fault that it meets.
Readers go through a draft in the order of its text, so a value of the wrong
kind is met before the break of a text that ends after it.

A draft may also be held back: it is then taken in as a whole, and its value is
read later.
-/

namespace PodIsolation

namespace Json

/-- Where a reader stands: it may enter fewer levels than the given number, and
the draft was held back or not. -/
structure Place where
  levels : Nat := levelLimit
  held : Bool := false

/-- The place of what a list or an object holds. -/
def Place.inner (p : Place) : Place :=
  { p with levels := p.levels - 1 }

abbrev Reader (T : Type) := Place -> Draft -> Except TextFault T

/-- The fault of a draft that is not of the kind that is needed. -/
def Draft.mismatch : Draft -> TextFault
  | .broken b => b.whenRead
  | _ => .refused

/-- The value of a list or an object that has been read up to its end. -/
def atEnd (ending : Option TextFault) (value : T) : Except TextFault T :=
  match ending with
  | some fault => .error fault
  | none => .ok value

namespace Reader

/-- The value of a whole document. -/
def decode? (r : Reader T) (j : Json) : Option T :=
  (r {} (.ofJson j)).toOption

/-- The value that the whole of a text holds. -/
def ofText (r : Reader T) (text : String) : Except TextFault T :=
  let (draft, trailing) := Draft.ofText text
  match r {} draft with
  | .ok value => atEnd trailing value
  | .error fault => .error fault

def ofText? (r : Reader T) (text : String) : Option T :=
  (r.ofText text).toOption

/-!
## Scalars
-/

def string : Reader String
  | _, .string (some s) => .ok s
  | _, d => .error d.mismatch

def bool : Reader Bool
  | _, .bool b => .ok b
  | _, d => .error d.mismatch

/-- A whole number within bounds. -/
def int (low high : Int) : Reader Int
  | _, .number (.whole n) => if low ≤ n ∧ n ≤ high then .ok n else .error .refused
  | _, d => .error d.mismatch

def int32 : Reader Int32 := fun p d =>
  (int Int32.minValue.toInt Int32.maxValue.toInt p d).map Int32.ofInt

def int64 : Reader Int64 := fun p d =>
  (int Int64.minValue.toInt Int64.maxValue.toInt p d).map Int64.ofInt

/-- A value that is checked further. -/
def filterMap (r : Reader T) (check? : T -> Option U) : Reader U := fun p d =>
  match r p d with
  | .error fault => .error fault
  | .ok value => match check? value with
    | some value => .ok value
    | none => .error .refused

def map (r : Reader T) (f : T -> U) : Reader U := fun p d =>
  (r p d).map f

/-- A text that can only be the given one. -/
def constant (text : String) : Reader Unit :=
  string.filterMap fun s => if s = text then some () else none

/-- Null stands for no value. -/
def nullable (r : Reader T) : Reader (Option T)
  | _, .null => .ok none
  | p, d => (r p d).map some

/-- Any document. -/
def any : Reader Json := fun p d =>
  match if p.held then none else d.readFault? p.levels with
  | some fault => .error fault
  | none => .ok d.toJson

/-!
## Collections
-/

def items (r : Reader T) (p : Place) : List Draft -> Except TextFault (List T)
  | [] => .ok []
  | item :: rest => do
      let value <- r p item
      return value :: (<- items r p rest)

def list (r : Reader T) : Reader (List T)
  | p, .list drafts ending => do atEnd ending (<- items r p.inner drafts)
  | _, d => .error d.mismatch

def set (r : Reader String) : Reader StringSet :=
  (list r).map StringSet.ofList

def members (r : Reader T) (p : Place) :
    List (Option String × Draft) -> Except TextFault (List (String × T))
  | [] => .ok []
  | (none, value) :: _ => .error value.mismatch
  | (some name, value) :: rest => do
      let value <- r p value
      return (name, value) :: (<- members r p rest)

/-- An object with any names; of a name that is repeated the last value counts. -/
def dictionary (r : Reader T) : Reader (SortedMap T)
  | p, .object drafts ending => do
      atEnd ending (.ofList (<- members r p.inner drafts))
  | _, d => .error d.mismatch

end Reader

/-!
## Declared members
-/

/-- A declared member of a record that is built up in a state. -/
structure Field (S : Type) where
  name : String
  /-- Whether the member may be left out of an object. -/
  mayBeUnnamed : Bool
  /-- Whether a list may end before the member. -/
  mayBeCutOff : Bool
  read : Place -> Draft -> S -> Except TextFault S

namespace Field

def reading (r : Reader T) (set : T -> S -> S) (p : Place) (d : Draft) (s : S) :
    Except TextFault S :=
  (r p d).map fun value => set value s

def required (name : String) (r : Reader T) (set : T -> S -> S) : Field S where
  name
  mayBeUnnamed := false
  mayBeCutOff := false
  read := reading r set

/-- The member may be null, and may be left out of an object. -/
def optional (name : String) (r : Reader T) (set : Option T -> S -> S) : Field S where
  name
  mayBeUnnamed := true
  mayBeCutOff := false
  read := reading r.nullable set

/-- The member may be left out, but may not be null. -/
def defaulted (name : String) (r : Reader T) (set : T -> S -> S) : Field S where
  name
  mayBeUnnamed := true
  mayBeCutOff := true
  read := reading r set

/-- The member must be of the right kind, and has no other effect. -/
def checked (name : String) (r : Reader T) : Field S :=
  optional name r fun _ s => s

end Field

/-- What a record does with a member that is not declared. -/
abbrev Others (S : Type) := Place -> String -> Draft -> S -> Except TextFault S

/-- The member is passed over. -/
def Others.skipped : Others S := fun _ _ d s =>
  atEnd d.skipFault? s

/-- The member is held back. -/
def Others.held (hold : String -> Draft -> S -> S) : Others S := fun p name d s =>
  atEnd (d.readFault? p.levels) (hold name d s)

namespace Record

/-- Reads the members of an object in their order.  The names of the declared
members that have been met come with the state, in reverse; whether one may be
met again is up to the record. -/
def readMembers (fields : List (Field S)) (once : Bool) (other : Others S) (p : Place) :
    List (Option String × Draft) -> List String -> S -> Except TextFault (List String × S)
  | [], met, s => .ok (met, s)
  | (none, value) :: _, _, _ => .error value.mismatch
  | (some name, value) :: rest, met, s =>
      match fields.find? fun f => f.name = name with
      | none => do readMembers fields once other p rest met (<- other p name value s)
      | some f =>
          if once && met.contains name then .error .refused
          else do readMembers fields once other p rest (name :: met) (<- f.read p value s)

/-- Whether no member is missing in an object. -/
def isComplete (fields : List (Field S)) (met : List String) : Bool :=
  fields.all fun f => f.mayBeUnnamed || met.contains f.name

/-- Reads an object from a state without any member. -/
def readObject (fields : List (Field S)) (once : Bool) (other : Others S) (empty : S)
    (p : Place) (members : List (Option String × Draft)) (ending : Option TextFault) :
    Except TextFault S := do
  let (met, s) <- readMembers fields once other p.inner members [] empty
  let s <- atEnd ending s
  if isComplete fields met then .ok s else .error .refused

/-- Reads the items of a list as the members in the order of their declaration. -/
def readItems (p : Place) (ending : Option TextFault) :
    List (Field S) -> List Draft -> S -> Except TextFault S
  | [], [], s => atEnd ending s
  | [], _ :: _, _ => .error .refused
  | f :: fields, [], s => do
      let s <- atEnd ending s
      if f.mayBeCutOff then readItems p ending fields [] s else .error .refused
  | f :: fields, item :: rest, s => do readItems p ending fields rest (<- f.read p item s)

end Record

namespace Reader

/-- A record with named members or with a list of them.  No name is repeated,
and undeclared members are passed over. -/
def record (empty : S) (fields : List (Field S)) : Reader S
  | p, .object members ending =>
      Record.readObject fields true .skipped empty p members ending
  | p, .list items ending => Record.readItems p.inner ending fields items empty
  | _, d => .error d.mismatch

/-- A record with named members that holds back the undeclared ones. -/
def openRecord (empty : S) (fields : List (Field S)) (hold : String -> Draft -> S -> S) :
    Reader S
  | p, .object members ending =>
      Record.readObject fields true (.held hold) empty p members ending
  | _, d => .error d.mismatch

/-- An object that may repeat a name: each value must be of the right kind, and
the last one counts. -/
def object (empty : S) (fields : List (Field S)) : Reader S
  | p, .object members ending =>
      Record.readObject fields false .skipped empty p members ending
  | _, d => .error d.mismatch

/-- Whether a draft says nothing.  An empty object that was held back does, too. -/
def isUnit (held : Bool) : Draft -> Bool
  | .null => true
  | .object [] none => held
  | _ => false

/-- A variant by its name, or by an object whose only member has the name and
says nothing. -/
def variant (ofName? : String -> Option T) : Reader T
  | _, .string (some name) => (ofName? name).elim (.error .refused) .ok
  | _, .object [] ending => .error (ending.getD .refused)
  | _, .object ((none, value) :: _) _ => .error value.mismatch
  | p, .object ((some name, value) :: rest) ending =>
      match ofName? name with
      | none => .error .refused
      | some t =>
          if isUnit p.held value then
            if rest.isEmpty then atEnd ending t else .error .refused
          else .error value.mismatch
  | _, .broken b => .error b.whenNamed
  | _, _ => .error .refused

end Reader

end Json

end PodIsolation
