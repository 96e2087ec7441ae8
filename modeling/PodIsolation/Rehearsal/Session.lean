import PodIsolation.Controller.Basic
import PodIsolation.Program
import PodIsolation.Rehearsal.Command
import PodIsolation.Rehearsal.Feed

/-!
# The program against a scripted server

## Rehearsing the whole program

A session plays the program from discovery to its end, in time that passes only
as the script says.  The pods are listed once the policies are watched.  The
steps of the script are taken once both kinds are watched, and the program does
all it can at each moment.  Times are milliseconds.
-/

namespace PodIsolation

namespace Rehearsal

/-- What the controller works on: the listings it asks for and its own state. -/
structure Work where
  config : Controller.Config
  programs : FilterPrograms
  policies : SortedMap Answer := ∅
  endpoints : SortedMap Answer := ∅
  controller : Controller.State := {}
  script : CommandScript := {}
  requests : List String := []

namespace Work

/-- The line that a request for a listing is sent with, if it can be sent. -/
def requestLine? (q : ListRequest) : Option String :=
  (requestTarget? q.uri).map ("GET " ++ ·)

/-- Asks for a listing. -/
def list (w : Work) (q : ListRequest) (answers : SortedMap Answer)
    (reader : Json.Reader T) : Work × Except String (List T) :=
  match requestLine? q with
  | none => (w, .error "the listing cannot be requested")
  | some line =>
      let answer := (answers.get? q.ns).getD (.resources [])
      ({ w with requests := w.requests ++ [line] },
        match answer.exchange.read (ResourceList.reader reader) with
        | .ok l => .ok l.items
        | .error _ => .error "the listing failed")

/-- How many steps an evaluation takes when nothing happens in between. -/
def evaluationSteps : Nat := 5

def evaluate : Nat -> Controller.Evaluation -> Work -> Work
  | 0, _, w => w
  | n + 1, e, w =>
      match e.phase with
      | .start =>
          let (controller, e) := e.check w.controller
          evaluate n e { w with controller }
      | .awaitingPolicies generation =>
          let (w, listed) := w.list e.policiesRequest w.policies Policy.reader
          evaluate n (e.receivePolicies generation listed) w
      | .awaitingEndpoints generation applicable =>
          let (w, listed) := w.list e.endpointsRequest w.endpoints EndpointResource.reader
          evaluate n (e.receiveEndpoints w.config.mode generation applicable listed) w
      | .judged generation verdict =>
          let (controller, e) := e.commit w.controller generation verdict
          evaluate n e { w with controller }
      | .ended (.ok (.provisioning rules)) =>
          let (script, outcome) := (fileHost w.programs).provisionApart w.script rules
          { w with script, controller := w.controller.countOutcome outcome }
      | .ended _ => w

def handlePod (w : Work) : Delivery Pod -> Work
  | .apply pod =>
      match Controller.admission w.config pod with
      | .ok e => evaluate evaluationSteps e w
      | .error _ => w
  | .delete pod => { w with controller := w.controller.podDeleted pod }

def handlePolicy (w : Work) (d : Delivery Policy) : Work :=
  { w with controller := Controller.handlePolicy w.controller d }

end Work

/-!
## Time
-/

/-- A watch that failed, and the shutdown that it began. -/
structure Failure where
  cause : WatchError
  course : ShutdownCourse

structure Session where
  grace : Nat
  now : Nat
  work : Work
  policies : Feed Policy
  pods : Feed Pod
  failure : Option Failure := none
  ended : Option (Except ProgramError Unit) := none

/-- A session is given up after an hour. -/
def sessionLimit : Nat := 3600000

namespace Session

def isRunning (s : Session) : Bool :=
  s.ended.isNone && s.failure.isNone

/-- Begins the shutdown after an error of a watch. -/
def fail (s : Session) (cause : WatchError) : Session :=
  { s with
    failure := (shutdown s.grace [{ time := s.now, message := watchFailedText }]).map fun course =>
      { cause, course } }

/-- Lets the feed of the pods go on. -/
def runPods (s : Session) : Session :=
  let (pods, work, error) := s.pods.run Work.handlePod s.now s.work
  error.elim id (fun e s => s.fail e) { s with pods, work }

/-- Lets the feed of the policies go on. -/
def runPolicies (s : Session) : Session :=
  let (policies, work, error) := s.policies.run Work.handlePolicy s.now s.work
  error.elim id (fun e s => s.fail e) { s with policies, work }

/-- The program ends when its shutdown has come to its end. -/
def finish (s : Session) : Session :=
  match s.ended, s.failure with
  | none, some f =>
      match f.course.ended with
      | none => { s with ended := some (.error .endless) }
      | some time =>
          if time ≤ s.now then { s with ended := some (.error (.watchFailed f.cause)) } else s
  | _, _ => s

/-- All that the program does at this moment. -/
def settle (s : Session) : Session :=
  let s := if s.isRunning then s.runPolicies else s
  let s := if s.isRunning && s.policies.accepted then s.runPods else s
  s.finish

/-- The times at which something happens by itself. -/
def alarms (s : Session) : List Nat :=
  match s.failure with
  | some f => f.course.ended.toList
  | none => s.policies.restsUntil.toList ++ s.pods.restsUntil.toList

/-- Lets time pass up to a target, at most until a goal is reached.  Each turn
takes at least one millisecond. -/
def passUntil (goal : Session -> Bool) (target : Nat) : Nat -> Session -> Session
  | 0, s => s
  | n + 1, s =>
      if s.ended.isSome || goal s then s
      else match ((s.alarms.filter (s.now < ·)).filter (· ≤ target)).min? with
        | some time => passUntil goal target n { s with now := time }.settle
        | none => { s with now := max s.now target }

def waitFor (goal : Session -> Bool) (s : Session) : Session :=
  s.passUntil goal sessionLimit (sessionLimit + 1)

def sleep (ms : Nat) (s : Session) : Session :=
  passUntil (fun _ => false) (min (s.now + ms) sessionLimit) (ms + 1) s

/-!
## Steps of the script
-/

inductive Event where
  | sendPod (line : String)
  | sendPolicy (line : String)
  | closePods
  | closePolicies
  | awaitCounts (counts : List (String × Nat))
  | signal (n : Nat)
  | sleep (ms : Nat)

/-- Whether the counters have reached the given values. -/
def hasReached (counts : List (String × Nat)) (s : Session) : Bool :=
  counts.all fun (name, n) => (s.work.controller.metrics.named.lookup name).any (n ≤ ·)

/-- What an event changes at once. -/
def receive (s : Session) : Event -> Session
  | .sendPod line => if s.isRunning then { s with pods := s.pods.send line } else s
  | .sendPolicy line => if s.isRunning then { s with policies := s.policies.send line } else s
  | .closePods => { s with pods := s.pods.close }
  | .closePolicies => { s with policies := s.policies.close }
  | .awaitCounts counts => s.waitFor (hasReached counts)
  | .signal n => if n = 0 then s else { s with ended := some (stopped n) }
  | .sleep _ => s

/-- How long an event takes. -/
def Event.duration : Event -> Nat
  | .sleep ms => ms
  | _ => 1

def take (s : Session) (e : Event) : Session :=
  if s.ended.isSome || sessionLimit ≤ s.now then s
  else
    let s := (s.receive e).settle
    if s.ended.isSome then s else s.sleep e.duration

/-- Whether both kinds are watched. -/
def isWatching (s : Session) : Bool :=
  s.policies.accepted && s.pods.accepted

/-- Plays a session to its end. -/
def play (s : Session) (events : List Event) : Session :=
  waitFor (fun _ => false) (events.foldl take (waitFor isWatching s.settle))

/-- The time from the withdrawal of readiness to the end. -/
def sinceUnready (s : Session) : Option Nat :=
  s.failure.map fun f => s.now - f.course.unready

end Session

/-!
## From the start
-/

/-- The script of a server. -/
structure Server where
  served : List Exchange := []
  policies : Feed Policy := { kind := policyKind }
  pods : Feed Pod
  policyListings : SortedMap Answer := ∅
  endpointListings : SortedMap Answer := ∅

/-- A served kind is found by the checks of discovery; a check without an answer
fails. -/
def Server.discovery (s : Server) : RetryResult :=
  retry discoveryAttempts
    ((List.range discoveryAttempts).map fun n =>
      (nthAnswer s.served n).any (Exchange.serves Policy.kind))

/-- The session of a program with the given settings. -/
def Server.session (s : Server) (settings : Settings) : Session where
  grace := settings.gracePeriodSecs * 1000
  now := s.discovery.elapsed 0 discoveryPause
  work :=
    { config := { node := settings.nodeName, mode := settings.entries }
      programs := settings.programs
      policies := s.policyListings
      endpoints := s.endpointListings }
  policies := s.policies
  pods := s.pods

/-- Plays the program; without discovery it ends before it watches anything. -/
def Server.play (s : Server) (settings : Settings) (events : List Session.Event) : Session :=
  let session := s.session settings
  if s.discovery.found then session.play events
  else { session with ended := some (.error .notServed) }

end Rehearsal

end PodIsolation
