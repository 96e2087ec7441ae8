import PodIsolation.Filter.Table
import PodIsolation.Provision.Basic

/-!
# A kernel in memory

## Rehearsing provisioning

The network namespaces of a kernel and their tables, kept in memory.  Namespaces
may be missing, and calls may fail or never return according to a list of
faults.  All that happens is recorded.
-/

namespace PodIsolation

inductive KernelEvent where
  | enter (path : String)
  | call (c : FilterCall)
  | leave (path : String)
deriving DecidableEq, Repr

/-- A short name of a family. -/
def Family.tag : Family -> String
  | .v4 => "v4"
  | .v6 => "v6"

/-- The chains of both families; the tag of the family leads each name. -/
def Tables.tagged (t : Tables) : List (String × List (List String)) :=
  [Family.v4, .v6].flatMap fun f =>
    (t.get f).entries.map fun (name, rules) => (f.tag ++ " " ++ name, rules)

/-- The tables with the given chains.  Names without a tag are left out. -/
def Tables.ofTagged (chains : List (String × List (List String))) : Tables :=
  chains.foldl
    (fun t (key, rules) => match key.toList with
      | 'v' :: '4' :: ' ' :: name => { t with v4 := t.v4.insert (String.ofList name) rules }
      | 'v' :: '6' :: ' ' :: name => { t with v6 := t.v6.insert (String.ofList name) rules }
      | _ => t)
    {}

/-- The event as a line of a log. -/
def KernelEvent.text : KernelEvent -> String
  | .enter path => "enter " ++ path
  | .leave path => "leave " ++ path
  | .call c =>
      let place := match c.action with
        | .ensureRule .append _ => ["append"]
        | .ensureRule (.insert n) _ => ["insert:" ++ toString n]
        | _ => []
      " ".intercalate
        ([c.family.tag, c.action.name] ++ place ++ [c.table, c.chain] ++ c.action.args)

/-- What happens to a call that meets a fault. -/
inductive FaultKind where
  | fail
  | notRun
  | panic
deriving DecidableEq, Repr

/-- A fault meets the calls that agree with all the members it gives, as often
as it may. -/
structure Fault where
  family : Option Family := none
  action : Option String := none
  chain : Option String := none
  arg : Option String := none
  kind : FaultKind := .fail
  times : Option Nat := none
deriving DecidableEq, Repr

namespace Fault

def meets (f : Fault) (c : FilterCall) : Bool :=
  f.family.all (· == c.family) && f.action.all (· == c.action.name) &&
    f.chain.all (· == c.chain) && f.arg.all c.action.args.contains && f.times != some 0

/-- The kind of the first fault that a call meets, and the faults left. -/
def strike (c : FilterCall) : List Fault -> Option (FaultKind × List Fault)
  | [] => none
  | f :: rest =>
      if f.meets c then some (f.kind, { f with times := f.times.map (· - 1) } :: rest)
      else (strike c rest).map fun (kind, rest) => (kind, f :: rest)

/-- The reply to a call that meets a fault. -/
def reply (c : FilterCall) : FaultKind -> Option FilterReply
  | .fail =>
      some (.error (.failed (program c.family) (" ".intercalate c.action.args)
        "exit status: 4" "injected"))
  | .notRun => some (.error (.notRun (program c.family) "injected"))
  | .panic => none
where
  program : Family -> String
    | .v4 => "iptables"
    | .v6 => "ip6tables"

end Fault

structure Kernel where
  namespaces : SortedMap Tables := ∅
  missing : SortedMap String := ∅
  faults : List Fault := []
  current : Option String := none
  events : List KernelEvent := []

namespace Kernel

def record (k : Kernel) (e : KernelEvent) : Kernel :=
  { k with events := k.events ++ [e] }

/-- The tables of a namespace; one that was never used has empty tables. -/
def tables (k : Kernel) (path : String) : Tables :=
  (k.namespaces.get? path).getD {}

/-- Carries out a call in the current namespace. -/
def apply (k : Kernel) (c : FilterCall) : Kernel :=
  match k.current with
  | none => k
  | some path =>
      { k with namespaces := k.namespaces.insert path ((k.tables path).apply c) }

def enter (k : Kernel) (path : String) : Kernel × Except String Unit :=
  match k.missing.get? path with
  | some cause => (k, .error cause)
  | none => ({ k with current := some path }.record (.enter path), .ok ())

def leave (k : Kernel) (path : String) : Kernel :=
  { k with current := none }.record (.leave path)

/-- A call that meets a fault is recorded and not carried out. -/
def filter (k : Kernel) (c : FilterCall) : Kernel × Option FilterReply :=
  let k := k.record (.call c)
  match Fault.strike c k.faults with
  | some (kind, faults) => ({ k with faults }, Fault.reply c kind)
  | none => (k.apply c, some (.ok ((k.tables (k.current.getD "")).reply c)))

def host : Host Kernel where
  enter := enter
  leave := leave
  filter := filter

end Kernel

end PodIsolation
