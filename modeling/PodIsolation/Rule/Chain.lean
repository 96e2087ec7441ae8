import PodIsolation.Rule.Basic

/-!
# Chains and rule sets

## The chains of a workload

A workload is isolated by four chains, one for each direction of traffic and
each address family.  A built-in chain of the packet filter jumps to them:
`INPUT` to those for ingress, `OUTPUT` to those for egress.  The names of the
chains are visible to whoever inspects the rules of a workload.
-/

namespace PodIsolation

inductive Direction where
  | ingress
  | egress
deriving DecidableEq, Repr

inductive Family where
  | v4
  | v6
deriving DecidableEq, Repr

def filterTable : String := "filter"
def inputChain : String := "INPUT"
def outputChain : String := "OUTPUT"
def forwardChain : String := "FORWARD"

namespace Direction

def name : Direction -> String
  | .ingress => "ingress"
  | .egress => "egress"

/-- The chain that traffic of this direction enters first. -/
def builtin : Direction -> String
  | .ingress => inputChain
  | .egress => outputChain

end Direction

def Family.name : Family -> String
  | .v4 => "ipv4"
  | .v6 => "ipv6"

/-- One of the chains that hold the rules of a workload. -/
structure ChainId where
  direction : Direction
  family : Family
deriving DecidableEq, Repr

namespace ChainId

def name : ChainId -> String
  | ⟨.ingress, .v4⟩ => "DANM_INGRESS_V4"
  | ⟨.ingress, .v6⟩ => "DANM_INGRESS_V6"
  | ⟨.egress, .v4⟩ => "DANM_EGRESS_V4"
  | ⟨.egress, .v6⟩ => "DANM_EGRESS_V6"

/-- All chains, in the order in which they are provisioned. -/
def all : List ChainId :=
  [⟨.ingress, .v4⟩, ⟨.ingress, .v6⟩, ⟨.egress, .v4⟩, ⟨.egress, .v6⟩]

theorem mem_all (c : ChainId) : c ∈ all := by
  rcases c with ⟨d, f⟩
  cases d <;> cases f <;> decide

/-- The chain that jumps to this one. -/
def builtin (c : ChainId) : String :=
  c.direction.builtin

end ChainId

/-- The rules of a workload, by chain, and the network namespace they belong in. -/
structure RuleSet where
  netns : String
  rules : ChainId -> List Rule := fun _ => []

namespace RuleSet

/-- Adds rules at the end of a chain. -/
def append (s : RuleSet) (c : ChainId) (rules : List Rule) : RuleSet :=
  { s with rules := fun d => if d = c then s.rules d ++ rules else s.rules d }

def size (s : RuleSet) : Nat :=
  (ChainId.all.flatMap s.rules).length

def isEmpty (s : RuleSet) : Bool :=
  s.size == 0

@[simp] theorem netns_append (s : RuleSet) (c : ChainId) (rules : List Rule) :
    (s.append c rules).netns = s.netns := rfl

theorem rules_append (s : RuleSet) (c d : ChainId) (rules : List Rule) :
    (s.append c rules).rules d =
      if d = c then s.rules d ++ rules else s.rules d := rfl

end RuleSet

end PodIsolation
