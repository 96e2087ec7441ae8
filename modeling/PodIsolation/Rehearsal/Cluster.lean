import PodIsolation.Controller.Basic
import PodIsolation.Rehearsal.Kernel

/-!
# A cluster in memory

## Rehearsing the controller

A controller at work in a cluster whose listings are kept in memory, on a kernel
kept in memory.  A scene can have interludes: steps that happen while a listing
is being answered, after its answer has been taken.
-/

namespace PodIsolation

namespace Rehearsal

/-- What a listing is asked for. -/
inductive Listing where
  | policies
  | endpoints
deriving DecidableEq, Repr

inductive Step where
  | applyPod (pod : Pod)
  | deletePod (pod : Pod)
  | changePolicy (policy : Policy)
  | setListings (policies : List (String × List Policy))
      (endpoints : List (String × List EndpointResource))
  | failListings (policies endpoints : Option String)
  | setFaults (faults : Option (List Fault)) (missing : Option (SortedMap String))
  | askProvisioned (uid : String)
  | askKernel
  | askMetrics
  | watchPods (notices : List (Notice Pod))
  | watchPolicies (notices : List (Notice Policy))
  /-- A step whose resource could not be read. -/
  | malformed

/-- Steps that happen during a listing. -/
structure Interlude where
  on : Listing
  steps : List Step

/-- What a step came to. -/
inductive Result where
  | done
  | dispatched (d : Controller.Dispatch)
  | failed (message : String)
  | provisioned (b : Bool)
  | kernel (k : Kernel)
  | metrics (text : String)
  | watched (error : Option WatchError) (left : Nat)
  | malformed

/-- A result, with the counters after it and what the kernel recorded since the
result before. -/
structure Report where
  result : Result
  metrics : Metrics
  events : List KernelEvent

structure Scene where
  config : Controller.Config
  policies : SortedMap (List Policy) := ∅
  endpoints : SortedMap (List EndpointResource) := ∅
  policiesFailure : Option String := none
  endpointsFailure : Option String := none
  controller : Controller.State := {}
  kernel : Kernel := {}
  interludes : List Interlude := []
  /-- The reports of the interludes, in the order in which they ended. -/
  asides : List Report := []

namespace Scene

/-- Ends a step: what the kernel recorded is reported once.  A malformed step
reports nothing of it. -/
def report (s : Scene) (result : Result) : Scene × Report :=
  match result with
  | .malformed => (s, { result, metrics := s.controller.metrics, events := [] })
  | _ =>
      ({ s with kernel := { s.kernel with events := [] } },
        { result, metrics := s.controller.metrics, events := s.kernel.events })

/-- The answer to a listing of policies, as of now. -/
def listPolicies (s : Scene) (ns : String) : Except String (List Policy) :=
  match s.policiesFailure with
  | some message => .error message
  | none => .ok ((s.policies.get? ns).getD [])

def listEndpoints (s : Scene) (ns : String) : Except String (List EndpointResource) :=
  match s.endpointsFailure with
  | some message => .error message
  | none => .ok ((s.endpoints.get? ns).getD [])

/-- Provisions rules to the end and counts the outcome. -/
def provision (s : Scene) (rules : RuleSet) : Scene :=
  let (kernel, outcome) := Kernel.host.provisionApart s.kernel rules
  { s with kernel, controller := s.controller.countOutcome outcome }

/-- The next interlude, if it belongs to the listing. -/
def nextInterlude (s : Scene) (listing : Listing) : Option (Interlude × List Interlude) :=
  match s.interludes with
  | i :: rest => if i.on = listing then some (i, rest) else none
  | [] => none

def setListings (s : Scene) (policies : List (String × List Policy))
    (endpoints : List (String × List EndpointResource)) : Scene :=
  { s with
    policies := policies.foldl (fun m (ns, l) => m.insert ns l) s.policies
    endpoints := endpoints.foldl (fun m (ns, l) => m.insert ns l) s.endpoints }

def setFaults (s : Scene) (faults : Option (List Fault))
    (missing : Option (SortedMap String)) : Scene :=
  { s with
    kernel := { s.kernel with
      faults := faults.getD s.kernel.faults
      missing := missing.getD s.kernel.missing } }

/-!
## Steps

Every call is bounded by the steps and interludes that are still to come, which
`play` counts beforehand.
-/

mutual

/-- Runs the interludes of a listing. -/
def runInterludes : Nat -> Listing -> Scene -> Scene
  | 0, _, s => s
  | fuel + 1, listing, s =>
      match s.nextInterlude listing with
      | none => s
      | some (i, rest) =>
          runInterludes fuel listing
            (runAsides fuel i.steps { s with interludes := rest })

/-- Performs the steps of an interlude. -/
def runAsides : Nat -> List Step -> Scene -> Scene
  | 0, _, s => s
  | _, [], s => s
  | fuel + 1, step :: rest, s =>
      let (s, result) := perform fuel step s
      let (s, report) := s.report result
      runAsides fuel rest { s with asides := s.asides ++ [report] }

/-- Brings an evaluation to its end. -/
def evaluate : Nat -> Controller.Evaluation -> Scene -> Scene × Result
  | 0, _, s => (s, .malformed)
  | fuel + 1, e, s =>
      match e.phase with
      | .start =>
          let (controller, e) := e.check s.controller
          evaluate fuel e { s with controller }
      | .awaitingPolicies generation =>
          match s.listPolicies e.policiesRequest.ns with
          | .error message => evaluate fuel (e.receivePolicies generation (.error message)) s
          | .ok listed =>
              evaluate fuel (e.receivePolicies generation (.ok listed))
                (runInterludes fuel .policies s)
      | .awaitingEndpoints generation applicable =>
          let receive := e.receiveEndpoints s.config.mode generation applicable
          match s.listEndpoints e.endpointsRequest.ns with
          | .error message => evaluate fuel (receive (.error message)) s
          | .ok listed =>
              evaluate fuel (receive (.ok listed)) (runInterludes fuel .endpoints s)
      | .judged generation verdict =>
          let (controller, e) := e.commit s.controller generation verdict
          evaluate fuel e { s with controller }
      | .ended (.error message) => (s, .failed message)
      | .ended (.ok d) =>
          match d with
          | .provisioning rules => (s.provision rules, .dispatched d)
          | _ => (s, .dispatched d)

def applyPod : Nat -> Pod -> Scene -> Scene × Result
  | 0, _, s => (s, .malformed)
  | fuel + 1, pod, s =>
      match Controller.admission s.config pod with
      | .error d => (s, .dispatched d)
      | .ok e => evaluate fuel e s

/-- Feeds notices about pods to the controller; failed evaluations are passed
over. -/
def watchPods : Nat -> List (Notice Pod) -> Scene -> Scene × Option WatchError × Nat
  | 0, notices, s => (s, none, notices.length)
  | _, [], s => (s, none, 0)
  | fuel + 1, n :: rest, s =>
      match Notice.reaction n with
      | .deliver (.apply pod) => watchPods fuel rest (applyPod fuel pod s).1
      | .deliver (.delete pod) =>
          watchPods fuel rest { s with controller := s.controller.podDeleted pod }
      | .pass => watchPods fuel rest s
      | .fail e => (s, some e, rest.length)

def perform : Nat -> Step -> Scene -> Scene × Result
  | 0, _, s => (s, .malformed)
  | fuel + 1, step, s =>
      match step with
      | .applyPod pod => applyPod fuel pod s
      | .deletePod pod => ({ s with controller := s.controller.podDeleted pod }, .done)
      | .changePolicy p => ({ s with controller := s.controller.policyChanged p }, .done)
      | .setListings policies endpoints => (s.setListings policies endpoints, .done)
      | .failListings policies endpoints =>
          ({ s with policiesFailure := policies, endpointsFailure := endpoints }, .done)
      | .setFaults faults missing => (s.setFaults faults missing, .done)
      | .askProvisioned uid => (s, .provisioned (s.controller.isMarked uid))
      | .askKernel => (s, .kernel s.kernel)
      | .askMetrics => (s, .metrics s.controller.metrics.exposition)
      | .watchPods notices =>
          let (s, error, left) := watchPods fuel notices s
          (s, .watched error left)
      | .watchPolicies notices =>
          let e := watch Controller.handlePolicy s.controller notices
          ({ s with controller := e.state }, .watched e.error e.left.length)
      | .malformed => (s, .malformed)

end

def Step.weight : Step -> Nat
  | .watchPods notices => 12 * (notices.length + 1)
  | _ => 12

/-- A bound on the calls that a step can lead to: each evaluation starts over at
most once for each interlude. -/
def bound (step : Step) (interludes : List Interlude) : Nat :=
  let inner := interludes.foldl
    (fun n i => i.steps.foldl (fun n step => n + Step.weight step) (n + 12)) 0
  (Step.weight step + inner) * (interludes.length + 2)

/-- Performs a step with its interludes.  Interludes that were not needed are
dropped. -/
def play (s : Scene) (step : Step) (interludes : List Interlude) :
    Scene × Report × List Report :=
  let (s, result) := perform (bound step interludes) step { s with interludes, asides := [] }
  let asides := s.asides
  let (s, report) := { s with interludes := [], asides := [] }.report result
  (s, report, asides)

end Scene

end Rehearsal

end PodIsolation
