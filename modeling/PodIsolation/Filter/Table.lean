import PodIsolation.Filter.Call
import PodIsolation.SortedMap

/-!
# Packet-filter tables

## The effect of calls on tables

A table maps the names of chains to their rules, and each rule is the list of
its arguments.  A network namespace has one table for each address family.
-/

namespace PodIsolation

abbrev Table := SortedMap (List (List String))

namespace Table

/-- The rules of a chain; a chain that does not exist has none. -/
def rules (t : Table) (chain : String) : List (List String) :=
  (t.get? chain).getD []

/-- Adds a rule at a position, or at the end if there are fewer rules. -/
def place (position : Position) (args : List String) (rules : List (List String)) :
    List (List String) :=
  match position with
  | .append => rules ++ [args]
  | .insert n => rules.insertIdx (min (n - 1) rules.length) args

def ensureRule (t : Table) (chain : String) (position : Position) (args : List String) :
    Table :=
  if (t.rules chain).contains args then t
  else t.insert chain (place position args (t.rules chain))

def deleteRule (t : Table) (chain : String) (args : List String) : Table :=
  match t.get? chain with
  | none => t
  | some rules => t.insert chain (rules.erase args)

/-- The table after an action on a chain. -/
def apply (t : Table) (chain : String) : FilterAction -> Table
  | .hasChain => t
  | .ensureChain => if t.contains chain then t else t.insert chain []
  | .flushChain => t.insert chain []
  | .ensureRule position args => t.ensureRule chain position args
  | .deleteRule args => t.deleteRule chain args

/-- The reply to an action: whether the chain existed, where that is asked. -/
def reply (t : Table) (chain : String) : FilterAction -> Bool
  | .hasChain => t.contains chain
  | _ => true

end Table

/-- The tables of a network namespace. -/
structure Tables where
  v4 : Table := ∅
  v6 : Table := ∅
deriving DecidableEq

namespace Tables

def get (t : Tables) : Family -> Table
  | .v4 => t.v4
  | .v6 => t.v6

def set (t : Tables) (table : Table) : Family -> Tables
  | .v4 => { t with v4 := table }
  | .v6 => { t with v6 := table }

@[simp] theorem get_set (t : Tables) (table : Table) (f g : Family) :
    (t.set table f).get g = if g = f then table else t.get g := by
  cases f <;> cases g <;> rfl

def apply (t : Tables) (c : FilterCall) : Tables :=
  t.set ((t.get c.family).apply c.chain c.action) c.family

def reply (t : Tables) (c : FilterCall) : Bool :=
  (t.get c.family).reply c.chain c.action

end Tables

end PodIsolation
