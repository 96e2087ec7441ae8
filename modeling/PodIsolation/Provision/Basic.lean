import PodIsolation.Filter.Call

/-!
# Provisioning

## Installing a rule set in a network namespace

Chains without rules are retired first: if they exist, they are emptied and no
longer jumped to.  Then each chain with rules is made, emptied, and jumped to
from the head of its built-in chain.  A failure up to here ends the run.

After that, the rules of each chain are added, followed by a return, and last
the baseline: traffic of the loopback interface is accepted and all other
traffic is rejected.  A rule that cannot be added is counted and the run goes
on.  Every step may be repeated without effect, so that provisioning a rule set
again leaves one copy of each rule.
-/

namespace PodIsolation

/-- How many rules were added, and how many could not be. -/
structure Report where
  installed : Nat := 0
  failed : Nat := 0
deriving DecidableEq, Repr

def Report.record (r : Report) : FilterReply -> Report
  | .ok _ => { r with installed := r.installed + 1 }
  | .error _ => { r with failed := r.failed + 1 }

inductive ProvisionError where
  | netns (path cause : String)
  | chain (chain : ChainId) (source : FilterError)
  | notStarted (cause : String)
  | panicked
deriving DecidableEq, Repr

def ProvisionError.message : ProvisionError -> String
  | .netns path cause => "failed to enter network namespace " ++ path ++ ": " ++ cause
  | .chain c source =>
      "failed to prepare " ++ c.family.name ++ " chain " ++ c.name ++ ": " ++ source.message
  | .notStarted cause => "failed to spawn provisioning thread: " ++ cause
  | .panicked => "provisioning thread panicked"

abbrev Outcome := Except ProvisionError Report

/-!
## Chains
-/

/-- A call about the chain itself. -/
def ChainId.call (c : ChainId) (action : FilterAction) : FilterCall :=
  { family := c.family, action, chain := c.name }

/-- A call about the built-in chain that jumps to the chain. -/
def ChainId.builtinCall (c : ChainId) (action : FilterAction) : FilterCall :=
  { family := c.family, action, chain := c.builtin }

def ChainId.jumpArgs (c : ChainId) : List String :=
  (Rule.jump c.name).args

def retireChain (c : ChainId) : ExceptT FilterError FilterProgram Unit := do
  if <- (c.call .hasChain).request then
    let _ <- (c.call .flushChain).request
    let _ <- (c.builtinCall (.deleteRule c.jumpArgs)).request

def prepareChain (c : ChainId) : ExceptT FilterError FilterProgram Unit := do
  let _ <- (c.call .ensureChain).request
  let _ <- (c.call .flushChain).request
  let _ <- (c.builtinCall (.ensureRule (.insert 1) c.jumpArgs)).request

/-- The chains of a rule set that have rules. -/
def RuleSet.live (s : RuleSet) : List ChainId :=
  ChainId.all.filter fun c => !(s.rules c).isEmpty

/-- The chains of a rule set that have no rules. -/
def RuleSet.retired (s : RuleSet) : List ChainId :=
  ChainId.all.filter fun c => (s.rules c).isEmpty

/-!
## Rules
-/

/-- A rule to be added at the end of a chain. -/
structure Installation where
  family : Family
  chain : String
  rule : Rule
deriving DecidableEq, Repr

def Installation.call (i : Installation) : FilterCall :=
  { family := i.family, action := .ensureRule .append i.rule.args, chain := i.chain }

def loopback : String := "lo"

/-- The rules that every provisioned namespace ends with. -/
def baseline (f : Family) : List Installation :=
  [ { family := f, chain := inputChain, rule := { inInterface := some loopback } },
    { family := f, chain := outputChain, rule := { outInterface := some loopback } },
    { family := f, chain := forwardChain, rule := { inInterface := some loopback } },
    { family := f, chain := inputChain, rule := .rejecting },
    { family := f, chain := outputChain, rule := .rejecting },
    { family := f, chain := forwardChain, rule := .rejecting } ]

/-- The rules of a chain followed by a return. -/
def RuleSet.chainInstallations (s : RuleSet) (c : ChainId) : List Installation :=
  (s.rules c ++ [Rule.returning]).map fun rule => { family := c.family, chain := c.name, rule }

/-- All rules that provisioning adds, in order. -/
def RuleSet.installations (s : RuleSet) : List Installation :=
  s.live.flatMap s.chainInstallations ++ baseline .v4 ++ baseline .v6

def installAll : Report -> List Installation -> FilterProgram Report
  | report, [] => .done report
  | report, i :: rest => .ask i.call fun reply => installAll (report.record reply) rest

/-!
## The whole run
-/

/-- Names the chain in a failure. -/
def onChain (step : ChainId -> ExceptT FilterError FilterProgram Unit) (c : ChainId) :
    ExceptT ProvisionError FilterProgram Unit :=
  ExceptT.adapt (ProvisionError.chain c) (step c)

/-- All calls that provisioning makes inside the network namespace. -/
def RuleSet.program (s : RuleSet) : ExceptT ProvisionError FilterProgram Report := do
  s.retired.forM (onChain retireChain)
  s.live.forM (onChain prepareChain)
  ExceptT.lift (installAll {} s.installations)

/-- A host whose network namespaces can be entered and whose packet filter
answers calls in the namespace that is current.  An answer may be missing if
the call never returns. -/
structure Host (S : Type) where
  enter : S -> String -> S × Except String Unit
  leave : S -> String -> S
  filter : S -> FilterCall -> S × Option FilterReply

/-- Provisions a rule set.  However the run ends, the namespace is left.  There
is no outcome if a call never returned. -/
def Host.provision (h : Host S) (s : S) (rules : RuleSet) : S × Option Outcome :=
  match h.enter s rules.netns with
  | (s, .error cause) => (s, some (.error (.netns rules.netns cause)))
  | (s, .ok ()) =>
      let (s, result) := Dialogue.run h.filter s rules.program.run
      (h.leave s rules.netns, result)

/-- Provisions a rule set apart from the caller, who then always learns of an
outcome. -/
def Host.provisionApart (h : Host S) (s : S) (rules : RuleSet) : S × Outcome :=
  let (s, result) := h.provision s rules
  (s, result.getD (.error .panicked))

end PodIsolation
