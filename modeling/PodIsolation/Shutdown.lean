/-!
# Shutdown

## Ending the program after a fatal error

The first fatal error makes the program not ready and signals its watches to
stop.  The program then ends with that error, not before the grace period is
over, whether or not the watches have stopped by then.  Without a fatal error
it never ends this way.  An end that the clock cannot tell is never waited for:
the program breaks down at once.  Times are milliseconds.
-/

namespace PodIsolation

/-- What is reported of a watch that failed. -/
def watchFailedText : String := "watch failed"

structure FatalError where
  time : Nat
  message : String
deriving DecidableEq, Repr

/-- The clock tells the time since the machine was started, in seconds of 63 bits.
The machine has been up for a while when the program begins. -/
def isTold (uptime time : Nat) : Bool :=
  (uptime + time) / 1000 < Int64.maxValue.toInt.toNat

/-- The course of a shutdown: when readiness is withdrawn, when the watches
learn of it, and when the program ends, unless it breaks down. -/
structure ShutdownCourse where
  error : FatalError
  unready : Nat
  signaled : Option Nat
  ended : Option Nat
deriving DecidableEq, Repr

/-- The errors are taken in the order in which they are sent.  Without a grace
period the program ends before a watch can learn of the shutdown. -/
def shutdownFrom (uptime grace : Nat) (fatals : List FatalError) : Option ShutdownCourse :=
  fatals.head?.map fun e =>
    let ended := if isTold uptime (e.time + grace) then some (e.time + grace) else none
    { error := e
      unready := e.time
      signaled := if grace = 0 then none else ended.map fun _ => e.time
      ended }

/-- A shutdown on a machine that has been up for a day. -/
def shutdown : Nat -> List FatalError -> Option ShutdownCourse :=
  shutdownFrom (24 * 3600 * 1000)

end PodIsolation
