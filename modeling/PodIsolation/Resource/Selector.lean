import PodIsolation.Resource.Metadata
import PodIsolation.StringSet

/-!
# Label selectors

## Selectors and their label maps

A selector asks for labels by a map of pairs and by a list of requirements.
The indexes of this library look labels up pair by pair, so a selector is first
reduced to one label map.  That succeeds only if every requirement asks for
exactly one value; a requirement then replaces the pair of the map that has its
key.  The first requirement that asks for anything else is the error.
-/

namespace PodIsolation

inductive Operator where
  | oneOf
  | noneOf
  | present
  | absent
  | unknown
deriving DecidableEq, Repr

namespace Operator

def name : Operator -> String
  | .oneOf => "In"
  | .noneOf => "NotIn"
  | .present => "Exists"
  | .absent => "DoesNotExist"
  | .unknown => "Unknown"

/-- All names but those of the four known operators are unknown. -/
def ofName : String -> Operator
  | "In" => .oneOf
  | "NotIn" => .noneOf
  | "Exists" => .present
  | "DoesNotExist" => .absent
  | _ => .unknown

@[simp] theorem ofName_name (op : Operator) : ofName op.name = op := by
  cases op <;> rfl

end Operator

/-- A condition on the value under one key. -/
structure Requirement where
  key : String
  operator : Operator
  values : StringSet
deriving DecidableEq

structure Selector where
  labels : Option Labels := none
  requirements : Option (List Requirement) := none
deriving DecidableEq, Inhabited

inductive SelectorError where
  | notSingleValued (operator : Operator)
  | unsupported (operator : Operator)
deriving DecidableEq, Repr

def SelectorError.message : SelectorError -> String
  | .notSingleValued op =>
      "operator " ++ op.name ++ " without a single value cannot be converted into a label map"
  | .unsupported op => "operator " ++ op.name ++ " cannot be converted into a label map"

/-- The only value that a requirement admits under its key. -/
def Requirement.singleValue (r : Requirement) : Except SelectorError String :=
  match r.operator, r.values.items with
  | .oneOf, [value] => .ok value
  | .oneOf, _ => .error (.notSingleValued .oneOf)
  | op, _ => .error (.unsupported op)

namespace Selector

def ofLabels (labels : Labels) : Selector :=
  { labels := some labels }

def ofRequirements (requirements : List Requirement) : Selector :=
  { requirements := some requirements }

/-- Adds the pairs of the requirements to a label map, in order. -/
def reduceInto (labels : Labels) : List Requirement -> Except SelectorError Labels
  | [] => .ok labels
  | r :: rest =>
      match r.singleValue with
      | .ok value => reduceInto (labels.insert r.key value) rest
      | .error e => .error e

def reduce (s : Selector) : Except SelectorError Labels :=
  reduceInto (s.labels.getD ∅) (s.requirements.getD [])

end Selector

/-!
## Encoding and reading

Both members of a selector are always written.  An operator is read from its
name, or from an object whose only member is the name with null.
-/

namespace Operator

def encode (op : Operator) : Json :=
  .string op.name

def reader : Json.Reader Operator :=
  Json.Reader.variant fun name => some (ofName name)

end Operator

namespace Requirement

def encode (r : Requirement) : Json :=
  .object
    [("key", .string r.key), ("operator", r.operator.encode),
      ("values", Json.strings r.values.items)]

def reader : Json.Reader Requirement :=
  Json.Reader.record { key := "", operator := .unknown, values := ∅ }
    [.required "key" .string fun v r => { r with key := v },
      .required "operator" Operator.reader fun v r => { r with operator := v },
      .defaulted "values" (.set .string) fun v r => { r with values := v }]

end Requirement

namespace Selector

def encode (s : Selector) : Json :=
  .object
    [("matchLabels", Json.nullable Metadata.encodeLabels s.labels),
      ("matchExpressions",
        Json.nullable (fun rs => .list (rs.map Requirement.encode)) s.requirements)]

def reader : Json.Reader Selector :=
  Json.Reader.record { }
    [.optional "matchLabels" Metadata.labelsReader fun v s => { s with labels := v },
      .optional "matchExpressions" (.list Requirement.reader) fun v s =>
        { s with requirements := v }]

def decode? (j : Json) : Option Selector :=
  reader.decode? j

end Selector

end PodIsolation
