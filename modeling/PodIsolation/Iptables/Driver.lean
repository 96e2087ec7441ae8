import PodIsolation.Filter.Call
import PodIsolation.Iptables.Command

/-!
# The packet filter by command

## Calls as commands

Each call becomes at most two commands: a check, and then, if the check says
so, a change.  A check answers by its exit code, where 0 means yes and 1 means
no; every other end of a check is a failure, and so is every end of a change
other than exit code 0.  Every command waits for the lock of the tables.
-/

namespace PodIsolation

namespace Iptables

abbrev CommandProgram := Dialogue Command CommandResult

/-- The arguments common to all commands: table, operation, chain. -/
def tableArgs (table operation chain : String) : List String :=
  ["-t", table, operation, chain]

def listArgs (table chain : String) : List String :=
  tableArgs table "-L" chain ++ ["-n"]

def newChainArgs (table chain : String) : List String :=
  tableArgs table "-N" chain

def flushArgs (table chain : String) : List String :=
  tableArgs table "-F" chain

def checkArgs (table chain : String) (rule : List String) : List String :=
  tableArgs table "-C" chain ++ rule

def deleteArgs (table chain : String) (rule : List String) : List String :=
  tableArgs table "-D" chain ++ rule

def addArgs (position : Position) (table chain : String) (rule : List String) :
    List String :=
  match position with
  | .append => tableArgs table "-A" chain ++ rule
  | .insert n => tableArgs table "-I" chain ++ toString n :: rule

/-- The failure that a result amounts to; the lock option is not reported. -/
def failure (program : String) (args : List String) : CommandResult -> FilterError
  | .notRun cause => .notRun program cause
  | .ended status stderr =>
      .failed program (" ".intercalate args) status.text (stderrText stderr)

def command (program : String) (args : List String) : Command :=
  { program, args := "-w" :: args }

/-- Runs a command that answers yes or no. -/
def check (program : String) (args : List String) : CommandProgram FilterReply :=
  .ask (command program args) fun
    | .ended (.code 0) _ => .done (.ok true)
    | .ended (.code 1) _ => .done (.ok false)
    | result => .done (.error (failure program args result))

/-- Runs a command that has to succeed. -/
def change (program : String) (args : List String) : CommandProgram FilterReply :=
  .ask (command program args) fun
    | .ended (.code 0) _ => .done (.ok true)
    | result => .done (.error (failure program args result))

/-- Makes a change if the check gives the expected answer. -/
def changeIf (expected : Bool) (checked : CommandProgram FilterReply)
    (changed : CommandProgram FilterReply) : CommandProgram FilterReply := do
  match <- checked with
  | .ok answer => if answer = expected then changed else return .ok true
  | .error e => return .error e

/-- The commands of a call. -/
def perform (program : String) (c : FilterCall) : CommandProgram FilterReply :=
  match c.action with
  | .hasChain => check program (listArgs c.table c.chain)
  | .ensureChain =>
      changeIf false (check program (listArgs c.table c.chain))
        (change program (newChainArgs c.table c.chain))
  | .flushChain => change program (flushArgs c.table c.chain)
  | .ensureRule position rule =>
      changeIf false (check program (checkArgs c.table c.chain rule))
        (change program (addArgs position c.table c.chain rule))
  | .deleteRule rule =>
      changeIf true (check program (checkArgs c.table c.chain rule))
        (change program (deleteArgs c.table c.chain rule))

end Iptables

/-- The programs that drive the packet filter of each family. -/
structure FilterPrograms where
  v4 : String := "iptables"
  v6 : String := "ip6tables"
deriving DecidableEq, Repr

def FilterPrograms.get (p : FilterPrograms) : Family -> String
  | .v4 => p.v4
  | .v6 => p.v6

/-- Answers a call by running commands. -/
def FilterPrograms.answer (p : FilterPrograms)
    (respond : S -> Command -> S × Option CommandResult) (s : S) (c : FilterCall) :
    S × Option FilterReply :=
  Dialogue.run respond s (Iptables.perform (p.get c.family) c)

end PodIsolation
