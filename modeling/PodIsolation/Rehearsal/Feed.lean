import PodIsolation.Cluster.Source

/-!
# Feeds from a scripted server

## Rehearsing a source

A scripted server answers the listings of a source in order and keeps its
watches open for lines to be sent.  After an error the source rests for a while
before it goes on; what is sent on an open watch in the meantime waits.
-/

namespace PodIsolation

namespace Rehearsal

/-- A scripted answer: the resources of a list, or a whole response. -/
inductive Answer where
  | resources (items : List Json)
  | response (r : Response)

def Answer.exchange : Answer -> Exchange
  | .resources items =>
      let body : Json := .object
        [("items", .list items), ("metadata", .object [("resourceVersion", .string "1")])]
      .ok { body := body.render }
  | .response r => .ok r

/-- The answer to a check of discovery that finds the given kinds. -/
def servedKinds (kinds : List String) : Exchange :=
  let entry (kind : String) : Json := .object [("kind", .string kind)]
  let body : Json := .object [("resources", .list (kinds.map entry))]
  .ok { body := body.render }

/-- The n-th of the scripted answers; the last one repeats. -/
def nthAnswer (answers : List α) (n : Nat) : Option α :=
  answers[n]? <|> answers.getLast?

/-- The lines of a body that is read as a watch. -/
def bodyLines (body : String) : List String :=
  let lines := body.splitOn "\n"
  if lines.getLast? = some "" then lines.dropLast else lines

/-- How long a source rests after its n-th error, in milliseconds. -/
def restAfter (errors : Nat) : Nat :=
  min (800 <<< errors) 10000

structure Feed (T : Type) where
  kind : ResourceKind T
  lists : List Answer := []
  /-- Answers every request for a watch, if given. -/
  watchResponse : Option Response := none
  phase : SourcePhase := .listing none
  listed : Nat := 0
  /-- Whether lines can be sent on the latest watch. -/
  isOpen : Bool := false
  /-- Lines that were sent and have not been read. -/
  lines : List String := []
  /-- Whether a watch was ever accepted. -/
  accepted : Bool := false
  errors : Nat := 0
  restsUntil : Option Nat := none
  requests : List String := []

namespace Feed

def request (f : Feed T) (uri : String) : Feed T :=
  { f with requests := f.requests ++ ["GET " ++ uri] }

/-- Enters a phase.  A watch that is given up takes its lines with it. -/
def goto (f : Feed T) (phase : SourcePhase) : Feed T :=
  match phase with
  | .watching _ => { f with phase }
  | _ => { f with phase, isOpen := false, lines := [] }

/-- The next thing that a feed does at a time, with the notices it yields.  A
feed that waits for a line or rests does nothing. -/
def step (now : Nat) (f : Feed T) : Option (Feed T × List (Notice T)) :=
  if f.restsUntil.any (now < ·) then none
  else
    let f := { f with restsUntil := none }
    let yield (f : Feed T) (notices : List (Notice T)) (phase : SourcePhase) :=
      let failed := notices.any fun n => !n.isOk
      let f := f.goto phase
      if failed then
        some ({ f with restsUntil := some (now + restAfter f.errors), errors := f.errors + 1 },
          notices)
      else some (f, notices)
    match f.phase with
    | .listing page =>
        let answer := (nthAnswer f.lists f.listed).getD (.resources [])
        let (notices, phase) :=
          ResourceKind.receiveList
            (answer.exchange.read (ResourceList.reader f.kind.reader))
        yield { f.request (f.kind.listUri page) with listed := f.listed + 1 } notices phase
    | .opening version =>
        let f := f.request (f.kind.watchUri version)
        match f.watchResponse with
        | some r =>
            some ({ f with phase := .watching version, lines := bodyLines r.body }, [])
        | none =>
            some ({ f with phase := .watching version, isOpen := true, accepted := true }, [])
    | .watching version =>
        match f.lines with
        | line :: rest =>
            let (notices, phase) := f.kind.receiveLine version line
            yield { f with lines := rest } notices phase
        | [] => if f.isOpen then none else some (f.goto (.opening version), [])

/-- A bound on what a feed does before it waits or repeats itself. -/
def bound (f : Feed T) : Nat :=
  let response := f.watchResponse.elim 0 fun r => (bodyLines r.body).length
  f.lists.length + f.lines.length + response + 8

/-- Lets a feed go on at a time, until it waits or an error ends it. -/
def advance (handle : S -> Delivery T -> S) (now : Nat) :
    Nat -> Feed T -> S -> Feed T × S × Option WatchError
  | 0, f, s => (f, s, none)
  | n + 1, f, s =>
      match f.step now with
      | none => (f, s, none)
      | some (f, notices) =>
          let e := watch handle s notices
          match e.error with
          | some error => (f, e.state, some error)
          | none => advance handle now n f e.state

def run (handle : S -> Delivery T -> S) (now : Nat) (f : Feed T) (s : S) :
    Feed T × S × Option WatchError :=
  f.advance handle now f.bound s

/-- Sends a line, unless the latest watch is closed. -/
def send (f : Feed T) (line : String) : Feed T :=
  if f.isOpen then { f with lines := f.lines ++ [line] } else f

/-- Ends the latest watch; lines that were sent can still be read. -/
def close (f : Feed T) : Feed T :=
  { f with isOpen := false }

end Feed

end Rehearsal

end PodIsolation
