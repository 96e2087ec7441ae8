import PodIsolation.Text.Blank
import PodIsolation.Text.Utf8

/-!
# Commands

## Runs of a command and how they end

A command is a program with its arguments.  It ends with an exit code or by a
signal, and either way leaves text on its error stream; or it cannot be run.
-/

namespace PodIsolation

structure Command where
  program : String
  args : List String
deriving DecidableEq, Repr

def Command.argv (c : Command) : List String :=
  c.program :: c.args

inductive ExitStatus where
  | code (n : Nat)
  | signal (n : Nat)
deriving DecidableEq, Repr

/-- The names of the signals 1 to 31. -/
def signalNames : List String :=
  ["SIGHUP", "SIGINT", "SIGQUIT", "SIGILL", "SIGTRAP", "SIGABRT", "SIGBUS", "SIGFPE",
    "SIGKILL", "SIGUSR1", "SIGSEGV", "SIGUSR2", "SIGPIPE", "SIGALRM", "SIGTERM",
    "SIGSTKFLT", "SIGCHLD", "SIGCONT", "SIGSTOP", "SIGTSTP", "SIGTTIN", "SIGTTOU",
    "SIGURG", "SIGXCPU", "SIGXFSZ", "SIGVTALRM", "SIGPROF", "SIGWINCH", "SIGIO",
    "SIGPWR", "SIGSYS"]

def ExitStatus.text : ExitStatus -> String
  | .code n => "exit status: " ++ toString n
  | .signal n =>
      "signal: " ++ toString n ++
        match n with
        | 0 => ""
        | i + 1 => match signalNames[i]? with
          | some name => " (" ++ name ++ ")"
          | none => ""

inductive CommandResult where
  | ended (status : ExitStatus) (stderr : List Nat)
  | notRun (cause : String)
deriving DecidableEq, Repr

/-- Text on the error stream as it is reported. -/
def stderrText (bytes : List Nat) : String :=
  Text.trim (Text.ofUtf8Lossy bytes)

end PodIsolation
