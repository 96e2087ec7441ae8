import PodIsolation.Provision.Basic

/-!
# Metrics of the controller

## Counters

Counters of what became of workloads and of their rules, and the text in which
they are exposed.
-/

namespace PodIsolation

/-- The counters are not bounded.  That counters of 64 bits start over once they
are full is left out. -/
structure Metrics where
  evaluated : Nat := 0
  unmanaged : Nat := 0
  provisioned : Nat := 0
  failed : Nat := 0
  rulesInstalled : Nat := 0
  rulesFailed : Nat := 0
deriving DecidableEq, Repr

namespace Metrics

def countEvaluated (m : Metrics) : Metrics :=
  { m with evaluated := m.evaluated + 1 }

def countUnmanaged (m : Metrics) : Metrics :=
  { m with unmanaged := m.unmanaged + 1 }

/-- Counts the outcome of one provisioning. -/
def countOutcome (m : Metrics) : Outcome -> Metrics
  | .ok r =>
      { m with
        provisioned := m.provisioned + 1
        rulesInstalled := m.rulesInstalled + r.installed
        rulesFailed := m.rulesFailed + r.failed }
  | .error _ => { m with failed := m.failed + 1 }

def values (m : Metrics) : List Nat :=
  [m.evaluated, m.unmanaged, m.provisioned, m.failed, m.rulesInstalled, m.rulesFailed]

/-- The names of the counters, in the order of their values, with their meaning. -/
def descriptions : List (String × String) :=
  [ ("workloads_evaluated",
      "Total number of local workloads evaluated against network policies"),
    ("workloads_unmanaged",
      "Total number of evaluated workloads to which no network policy applies"),
    ("workloads_provisioned",
      "Total number of workloads whose rules were provisioned"),
    ("workloads_failed",
      "Total number of workloads whose provisioning was aborted"),
    ("rules_installed",
      "Total number of packet-filter rules installed"),
    ("rules_failed",
      "Total number of packet-filter rules that could not be installed") ]

/-- The counters by name. -/
def named (m : Metrics) : List (String × Nat) :=
  (descriptions.zip m.values).map fun ((name, _), value) => (name, value)

def exposition (m : Metrics) : String :=
  let counter : (String × String) × Nat -> String := fun ((name, meaning), value) =>
    let name := "netpol_" ++ name
    "# HELP " ++ name ++ " " ++ meaning ++ ".\n" ++
    "# TYPE " ++ name ++ " counter\n" ++
    name ++ "_total " ++ toString value ++ "\n"
  String.join ((descriptions.zip m.values).map counter) ++ "# EOF\n"

end Metrics

end PodIsolation
