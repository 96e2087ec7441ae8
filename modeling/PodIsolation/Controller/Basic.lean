import PodIsolation.Cluster.Api
import PodIsolation.Controller.Metrics
import PodIsolation.Policy.Compile
import PodIsolation.Policy.Index
import PodIsolation.Resource.Pod
import PodIsolation.Watch.Basic

/-!
# The controller

## Marks and generations

The controller provisions each pod of its node once.  It marks a pod when it
dispatches the rules of the pod, and forgets the mark when the pod is deleted
or when a policy of its namespace changes.  Each change of a policy also begins
a new generation of the namespace, so that an evaluation can tell whether the
listings it is based on are still current.

## Evaluations

Applying a pod is a sequence of steps, each of which reads or writes the state
in one piece: a first check of the mark, the two listings, and the commitment of
the verdict.  Other activity may come between any two steps.  If a policy of the
namespace changed in between, the evaluation starts over.
-/

namespace PodIsolation

namespace Controller

/-- What the controllers of a cluster differ in. -/
structure Config where
  node : String
  mode : EntryMode := .first
deriving DecidableEq, Repr

structure State where
  /-- The namespace of each marked pod, by unique id. -/
  marks : SortedMap String := ∅
  /-- Generations are not bounded here.  That a counter of 64 bits starts over
  after as many changes is left out. -/
  generations : SortedMap Nat := ∅
  metrics : Metrics := {}

namespace State

def isMarked (s : State) (uid : String) : Bool :=
  s.marks.contains uid

/-- The generation of a namespace; it grows with each change of a policy. -/
def generation (s : State) (ns : String) : Nat :=
  (s.generations.get? ns).getD 0

def mark (s : State) (uid ns : String) : State :=
  { s with marks := s.marks.insert uid ns }

def unmark (s : State) (uid : String) : State :=
  { s with marks := s.marks.erase uid }

/-- Forgets the pods of a namespace and begins a new generation. -/
def reset (s : State) (ns : String) : State :=
  { s with
    marks := s.marks.filter fun _ marked => marked != ns
    generations := s.generations.insert ns (s.generation ns + 1) }

/-- A policy was applied or deleted.  A policy without a namespace concerns no
pod. -/
def policyChanged (s : State) (p : Policy) : State :=
  match p.metadata.ns with
  | some ns => s.reset ns
  | none => s

def podDeleted (s : State) (p : Pod) : State :=
  match p.metadata.uid with
  | some uid => s.unmark uid
  | none => s

def countOutcome (s : State) (o : Outcome) : State :=
  { s with metrics := s.metrics.countOutcome o }

end State

/-!
## Verdicts
-/

inductive Verdict where
  | unmanaged
  | noEndpoints
  | compiled (rules : RuleSet)

/-- What applying a pod came to. -/
inductive Dispatch where
  | otherNode
  | incomplete
  | alreadyProvisioned
  | unmanaged
  | noEndpoints
  | provisioning (rules : RuleSet)

namespace Dispatch

def name : Dispatch -> String
  | .otherNode => "OtherNode"
  | .incomplete => "Incomplete"
  | .alreadyProvisioned => "AlreadyProvisioned"
  | .unmanaged => "Unmanaged"
  | .noEndpoints => "NoEndpoints"
  | .provisioning _ => "Provisioning"

end Dispatch

/-- The verdict on a pod to which the given policies apply. -/
def judge (mode : EntryMode) (uid : String) (applicable : List Policy)
    (endpoints : List EndpointResource) : Verdict :=
  let x := EndpointIndex.ofResources endpoints uid
  match x.netns? with
  | none => .noEndpoints
  | some netns => .compiled (compile applicable x netns mode)

/-!
## Steps of an evaluation
-/

/-- Where an evaluation stands, with the generation it is based on. -/
inductive Phase where
  | start
  | awaitingPolicies (generation : Nat)
  | awaitingEndpoints (generation : Nat) (applicable : List Policy)
  | judged (generation : Nat) (verdict : Verdict)
  | ended (result : Except String Dispatch)

/-- A call that applies a pod of this node. -/
structure Evaluation where
  labels : Labels
  uid : String
  ns : String
  phase : Phase := .start

/-- The evaluation of a pod, unless the pod is none of the controller's. -/
def admission (c : Config) (p : Pod) : Except Dispatch Evaluation :=
  if p.nodeName ≠ some c.node then .error .otherNode
  else match p.metadata.uid, p.metadata.ns with
    | some uid, some ns => .ok { labels := p.labels, uid, ns }
    | _, _ => .error .incomplete

namespace Evaluation

def goto (e : Evaluation) (p : Phase) : Evaluation :=
  { e with phase := p }

/-- The policies that may apply to the pod. -/
def policiesRequest (e : Evaluation) : ListRequest :=
  .policies e.ns

/-- The endpoints that the rules of the pod may name, and those of the pod. -/
def endpointsRequest (e : Evaluation) : ListRequest :=
  .endpoints e.ns

/-- The listing that the evaluation waits for. -/
def request? (e : Evaluation) : Option ListRequest :=
  match e.phase with
  | .awaitingPolicies _ => some e.policiesRequest
  | .awaitingEndpoints _ _ => some e.endpointsRequest
  | _ => none

/-- The first check: a marked pod is left alone. -/
def check (s : State) (e : Evaluation) : State × Evaluation :=
  if s.isMarked e.uid then (s, e.goto (.ended (.ok .alreadyProvisioned)))
  else
    ({ s with metrics := s.metrics.countEvaluated },
      e.goto (.awaitingPolicies (s.generation e.ns)))

/-- The policies of the namespace have been listed. -/
def receivePolicies (generation : Nat) (listed : Except String (List Policy))
    (e : Evaluation) : Evaluation :=
  match listed with
  | .error message => e.goto (.ended (.error message))
  | .ok policies =>
      let applicable := (PolicyIndex.ofList policies).applicable e.labels
      if applicable.isEmpty then e.goto (.judged generation .unmanaged)
      else e.goto (.awaitingEndpoints generation applicable)

/-- The endpoints of the namespace have been listed. -/
def receiveEndpoints (mode : EntryMode) (generation : Nat) (applicable : List Policy)
    (listed : Except String (List EndpointResource)) (e : Evaluation) : Evaluation :=
  match listed with
  | .error message => e.goto (.ended (.error message))
  | .ok endpoints => e.goto (.judged generation (judge mode e.uid applicable endpoints))

/-- The verdict counts if no policy of the namespace has changed since; a pod is
then marked with the dispatch of its rules.  The mark is set while the state is
locked, and the thread that provisions the rules is started right after the lock
is released.  Nothing is awaited in between, so the two are one step here. -/
def commit (s : State) (generation : Nat) (verdict : Verdict) (e : Evaluation) :
    State × Evaluation :=
  if s.generation e.ns ≠ generation then (s, e.goto .start)
  else match verdict with
    | .unmanaged =>
        ({ s with metrics := s.metrics.countUnmanaged },
          e.goto (.ended (.ok .unmanaged)))
    | .noEndpoints => (s, e.goto (.ended (.ok .noEndpoints)))
    | .compiled rules =>
        if s.isMarked e.uid then (s, e.goto (.ended (.ok .alreadyProvisioned)))
        else (s.mark e.uid e.ns, e.goto (.ended (.ok (.provisioning rules))))

end Evaluation

/-!
## Events of the watches
-/

/-- Policies are handled in one step. -/
def handlePolicy (s : State) : Delivery Policy -> State
  | .apply p => s.policyChanged p
  | .delete p => s.policyChanged p

end Controller

end PodIsolation
