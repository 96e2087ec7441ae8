import PodIsolation.Program

/-!
# The command

## Starting the program

Reads the arguments and the environment, looks for a server that serves the
policies, and reports how the program ended by its exit code.  This build has no
transport to a server, so every check of discovery fails.
-/

open PodIsolation

/-- Pauses between the checks of discovery, and yields whether one succeeded. -/
def discover : IO Bool := do
  let result := retry discoveryAttempts []
  IO.sleep (result.elapsed 0 discoveryPause).toUInt32
  return result.found

def main (args : List String) : IO UInt32 := do
  let env : Environment :=
    { nodeName := ← IO.getEnv "NODE_NAME"
      logLevel := ← IO.getEnv "NETPOL_CONTROLLER_LOG" }
  let e := endWithoutServer args env
  if e = .notServed then
    let _ ← discover
  IO.eprintln ("Error: " ++ e.message)
  return e.exitCode
