import PodIsolation.Dialogue
import PodIsolation.Rule.Chain

/-!
# Calls to the packet filter

## What provisioning asks of the packet filter

Every call names a table and a chain of one address family.  All calls but the
first kind change the tables only as far as needed: making a chain that exists,
adding a rule that is there, or deleting one that is not changes nothing.
-/

namespace PodIsolation

/-- Where a rule is added: at the end, or in front of the n-th rule. -/
inductive Position where
  | append
  | insert (n : Nat)
deriving DecidableEq, Repr

inductive FilterAction where
  | hasChain
  | ensureChain
  | flushChain
  | ensureRule (position : Position) (args : List String)
  | deleteRule (args : List String)
deriving DecidableEq, Repr

namespace FilterAction

def name : FilterAction -> String
  | .hasChain => "has_chain"
  | .ensureChain => "ensure_chain"
  | .flushChain => "flush_chain"
  | .ensureRule _ _ => "ensure_rule"
  | .deleteRule _ => "delete_rule"

/-- The arguments of the rule that the action is about, if any. -/
def args : FilterAction -> List String
  | .ensureRule _ args => args
  | .deleteRule args => args
  | _ => []

end FilterAction

structure FilterCall where
  family : Family
  action : FilterAction
  table : String := filterTable
  chain : String
deriving DecidableEq, Repr

/-- Why a call failed: the command could not be run, or it reported a failure. -/
inductive FilterError where
  | notRun (program cause : String)
  | failed (program args status stderr : String)
deriving DecidableEq, Repr

def FilterError.message : FilterError -> String
  | .notRun program cause => "failed to execute " ++ program ++ ": " ++ cause
  | .failed program args status stderr =>
      program ++ " " ++ args ++ " exited with " ++ status ++ ": " ++ stderr

/-- The reply to a call.  The truth value answers whether a chain exists and
has no meaning for other calls. -/
abbrev FilterReply := Except FilterError Bool

abbrev FilterProgram := Dialogue FilterCall FilterReply

/-- A call in a program that ends at the first failure. -/
def FilterCall.request (c : FilterCall) : ExceptT FilterError FilterProgram Bool :=
  Dialogue.request c

end PodIsolation
