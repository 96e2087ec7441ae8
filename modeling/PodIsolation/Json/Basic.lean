import PodIsolation.Number.Binary64

/-!
# JSON values

## Values

A JSON document as a tree.  Numbers come in two kinds: whole ones, which have an
exact value, and all others (with a fraction, an exponent, or a negative zero),
which are kept in binary.

Members of an object are a list of pairs.  The parser never yields one name
twice.
-/

namespace PodIsolation

inductive Json where
  | null
  | bool (b : Bool)
  | int (n : Int)
  | real (x : Binary64)
  | string (s : String)
  | list (items : List Json)
  | object (members : List (String × Json))
deriving Inhabited

namespace Json

/-!
## Construction

Shorthands for the documents that resources encode to.
-/

def strings (texts : List String) : Json :=
  .list (texts.map .string)

def nat (n : Nat) : Json :=
  .int n

/-- Absent values are written as null. -/
def nullable (encode : alpha -> Json) : Option alpha -> Json
  | none => .null
  | some a => encode a

/-- One member if the value is present, no member otherwise. -/
def member? (name : String) (encode : alpha -> Json) :
    Option alpha -> List (String × Json)
  | none => []
  | some a => [(name, encode a)]

/-!
## Inspection
-/

/-- The member of an object with the given name. -/
def get? (name : String) : Json -> Option Json
  | .object members => members.lookup name
  | _ => none

def string? : Json -> Option String
  | .string s => some s
  | _ => none

def int? : Json -> Option Int
  | .int n => some n
  | _ => none

/-- An integer that is not negative. -/
def nat? : Json -> Option Nat
  | .int (.ofNat n) => some n
  | _ => none

def bool? : Json -> Option Bool
  | .bool b => some b
  | _ => none

def list? : Json -> Option (List Json)
  | .list items => some items
  | _ => none

def members? : Json -> Option (List (String × Json))
  | .object members => some members
  | _ => none

@[simp] theorem string?_string (s : String) : (Json.string s).string? = some s := rfl

@[simp] theorem list?_list (items : List Json) :
    (Json.list items).list? = some items := rfl

end Json

end PodIsolation
