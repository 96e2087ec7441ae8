import PodIsolation.CommandLine
import PodIsolation.Discovery
import PodIsolation.Shutdown
import PodIsolation.Watch.Error

/-!
# The program

## How the program ends

The program reads its command line, sets up a client, checks that policies are
served, and then watches until it is told to stop or a watch fails.
-/

namespace PodIsolation

inductive ProgramError where
  | usage (e : UsageError)
  /-- The client could not be set up. -/
  | startup (message : String)
  | notServed
  | watchFailed (cause : WatchError)
  /-- The end of the grace period is later than the clock can tell. -/
  | endless
  /-- A second signal came while the watches were being stopped. -/
  | aborted
deriving DecidableEq, Repr

namespace ProgramError

def message : ProgramError -> String
  | .usage _ => "invalid arguments"
  | .startup message => message
  | .notServed => "DanmNetworkPolicy resources are not served by the API server"
  | .watchFailed _ => watchFailedText
  | .endless => "the grace period does not end"
  | .aborted => "Aborted"

/-- A program that breaks down ends by itself. -/
def exitCode : ProgramError -> UInt32
  | .usage .broken => 101
  | .endless => 101
  | .usage _ => 2
  | _ => 1

end ProgramError

/-- What comes of signals to stop that are received at once. -/
def stopped (signals : Nat) : Except ProgramError Unit :=
  if signals ≤ 1 then .ok () else .error .aborted

/-- Where no server can be reached, the program ends during its start.  Options
that choose a server lead to none. -/
def endWithoutServer (args : List String) (env : Environment) : ProgramError :=
  match readCommandLine args env with
  | .error e => .usage e
  | .ok r =>
      if r.given.any CliOption.choosesServer then .startup "the API server cannot be chosen"
      else .notServed

end PodIsolation
