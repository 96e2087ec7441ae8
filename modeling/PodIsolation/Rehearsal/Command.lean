import PodIsolation.Iptables.Driver
import PodIsolation.Netns
import PodIsolation.Rehearsal.Kernel

/-!
# Commands that answer from a script

## Rehearsing the packet filter by command

Only the two programs of the packet filter can be run.  A run takes the first
response whose text occurs in its command line, and succeeds in silence if
there is none.  A program without a slash in its name is searched for, and any
other is a path.
-/

namespace PodIsolation

structure CommandResponse where
  occurs : String := ""
  status : ExitStatus := .code 0
  stderr : List Nat := []
  times : Option Nat := none
deriving DecidableEq, Repr

structure CommandScript where
  responses : List CommandResponse := []
  runs : List (List String) := []

namespace CommandScript

def isInfix (part : List Char) : List Char -> Bool
  | [] => part.isEmpty
  | c :: rest => part.isPrefixOf (c :: rest) || isInfix part rest

/-- The response to a command line, and the responses left. -/
def take (line : List Char) :
    List CommandResponse -> Option (CommandResponse × List CommandResponse)
  | [] => none
  | r :: rest =>
      if r.times != some 0 && isInfix r.occurs.toList line then
        some (r, { r with times := r.times.map (· - 1) } :: rest)
      else (take line rest).map fun (found, rest) => (found, r :: rest)

def hasNul (s : String) : Bool :=
  s.toList.contains '\x00'

/-- Why a program other than those two cannot be run. -/
def startError (program : String) : String :=
  let denied := "Permission denied (os error 13)"
  if program.toList.contains '/' then
    match HostPath.resolve program with
    | .error cause => cause.message
    | .ok () => denied
  else if program = "." || program = ".." then denied
  else if HostPath.nameLimit < program.utf8ByteSize then PathError.nameTooLong.message
  else PathError.notFound.message

def run (s : CommandScript) (c : Command) : CommandScript × Option CommandResult :=
  if c.argv.any hasNul then (s, some (.notRun "nul byte found in provided data"))
  else if c.program ∉ ["iptables", "ip6tables"] then
    (s, some (.notRun (startError c.program)))
  else
    let s := { s with runs := s.runs ++ [c.argv] }
    match take (" ".intercalate c.argv).toList s.responses with
    | some (r, responses) => ({ s with responses }, some (.ended r.status r.stderr))
    | none => (s, some (.ended (.code 0) []))

end CommandScript

/-- A host whose packet filter runs commands and whose namespaces are in memory. -/
def scriptedHost (p : FilterPrograms) (missing : SortedMap String) : Host CommandScript where
  enter s path := match missing.get? path with
    | some cause => (s, .error cause)
    | none => (s, .ok ())
  leave s _ := s
  filter := p.answer CommandScript.run

/-- A host whose packet filter runs commands and whose namespaces are files. -/
def fileHost (p : FilterPrograms) : Host CommandScript where
  enter s path := match enterNetns path with
    | .error e => (s, .error e.message)
    | .ok () => (s, .ok ())
  leave s _ := s
  filter := p.answer CommandScript.run

end PodIsolation
