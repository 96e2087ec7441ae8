import PodIsolation.Dialogue

/-!
# Discovery

## Checking until the answer is yes

A check is repeated a bounded number of times, with a pause between two checks
and none after the last.  Checks and pauses are requests to the surroundings.
-/

namespace PodIsolation

/-- What is asked of the surroundings while a check is repeated.  A check is
answered by its outcome; the reply to a pause says nothing. -/
inductive RetryRequest (D : Type) where
  | check
  | pause (interval : D)
deriving DecidableEq, Repr

abbrev RetryProgram (D : Type) := Dialogue (RetryRequest D) Bool

/-- Makes the attempts with the given numbers until a check succeeds.  Each one
but the last of all is followed by a pause. -/
def makeAttempts (attempts : Nat) (interval : D) : List Nat -> RetryProgram D Bool
  | [] => return false
  | attempt :: later => do
      if <- Dialogue.request .check then return true
      if attempt < attempts then
        let _ <- Dialogue.request (.pause interval)
      makeAttempts attempts interval later

/-- Checks until a check succeeds, at most the given number of times. -/
def retryProgram (attempts : Nat) (interval : D) : RetryProgram D Bool :=
  makeAttempts attempts interval (List.range' 1 attempts)

/-!
## What it comes to
-/

/-- How many checks and how many pauses there were. -/
structure RetryTally where
  checks : Nat := 0
  pauses : Nat := 0
deriving DecidableEq, Repr

/-- Answers the checks by their outcomes, which are numbered from one. -/
def RetryTally.answer (outcome : Nat -> Bool) (t : RetryTally) :
    RetryRequest D -> RetryTally × Option Bool
  | .check => ({ t with checks := t.checks + 1 }, some (outcome (t.checks + 1)))
  | .pause _ => ({ t with pauses := t.pauses + 1 }, some true)

/-- What repeated checking came to. -/
structure RetryResult extends RetryTally where
  found : Bool
deriving DecidableEq, Repr

/-- Checks at most the given number of times.  The outcomes are those of the
checks in order; a check beyond them fails.  The length of a pause is left open. -/
def retry (attempts : Nat) (outcomes : List Bool) : RetryResult :=
  let (tally, found) :=
    Dialogue.run (RetryTally.answer fun number => outcomes.getD (number - 1) false) {}
      (retryProgram attempts ())
  { tally with found := found.getD false }

/-- The time that checking took. -/
def RetryResult.elapsed (r : RetryResult) (check pause : Nat) : Nat :=
  r.checks * check + r.pauses * pause

/-- How often the program checks whether its resources are served. -/
def discoveryAttempts : Nat := 5

/-- The pause between two such checks, in milliseconds. -/
def discoveryPause : Nat := 100

end PodIsolation
