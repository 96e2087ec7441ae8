import PodIsolation.Watch.Basic

/-!
# Watches in time

## Watches that can be interrupted

Each notice of a stream arrives some time after the stream is asked for it, and
handling a resource may take time.  An interruption ends the watch at once,
even in the middle of handling a resource.  Times are milliseconds.
-/

namespace PodIsolation

/-- A notice and the time it lets the watch wait. -/
structure TimedNotice (T : Type) where
  after : Nat
  notice : Notice T

/-- A step of handling, with its time. -/
inductive HandlingStep (T : Type) where
  | started (d : Delivery T) (time : Nat)
  | finished (d : Delivery T) (time : Nat)
deriving DecidableEq, Repr

def HandlingStep.time : HandlingStep T -> Nat
  | .started _ t => t
  | .finished _ t => t

/-- The course of a watch.  A watch that waits forever has no end. -/
structure TimedCourse (T : Type) where
  steps : List (HandlingStep T) := []
  ended : Option Nat := none
  failure : Option WatchError := none

namespace TimedCourse

def prepend (steps : List (HandlingStep T)) (c : TimedCourse T) : TimedCourse T :=
  { c with steps := steps ++ c.steps }

/-- What can be seen of a course by a time. -/
def upTo (limit : Nat) (c : TimedCourse T) : TimedCourse T :=
  let seen := c.ended.filter (· ≤ limit)
  { steps := c.steps.filter (·.time ≤ limit)
    ended := seen
    failure := if seen.isSome then c.failure else none }

end TimedCourse

/-- The circumstances of a watch: how long handling takes, whether the stream
stays open after its last notice, and when the watch is interrupted. -/
structure Circumstances where
  handling : Nat := 0
  endless : Bool := false
  interruption : Option Nat := none

namespace Circumstances

/-- Whether the interruption comes before the watch gets to a time. -/
def interrupts (c : Circumstances) (time : Nat) : Bool :=
  c.interruption.any (· < time)

/-- The course of a watch from a time on. -/
def course (c : Circumstances) (now : Nat) : List (TimedNotice T) -> TimedCourse T
  | [] => if c.endless then { ended := c.interruption } else { ended := some now }
  | n :: rest =>
      let arrival := now + n.after
      if c.interrupts arrival then { ended := c.interruption }
      else match Notice.reaction n.notice with
        | .pass => course c arrival rest
        | .fail e => { ended := some arrival, failure := some e }
        | .deliver d =>
            if c.handling = 0 then
              (course c arrival rest).prepend [.started d arrival]
            else
              let finish := arrival + c.handling
              if c.interrupts finish then
                { steps := [.started d arrival], ended := c.interruption }
              else
                (course c finish rest).prepend [.started d arrival, .finished d finish]

end Circumstances

end PodIsolation
