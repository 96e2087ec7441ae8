import PodIsolation.Watch.Error

/-!
# Watches

## Handling the events of a stream

A watch takes the notices of a stream in order.  Resources that appear or
change are applied, those that vanish are deleted, and the marks around a
listing are passed over, as are benign errors.  The first other error ends the
watch, and what follows it stays in the stream.
-/

namespace PodIsolation

inductive WatchEvent (T : Type) where
  | init
  | initDone
  | apply (resource : T)
  | initApply (resource : T)
  | delete (resource : T)
deriving DecidableEq, Repr

/-- An item of a stream: an event or an error. -/
abbrev Notice (T : Type) := Except WatchError (WatchEvent T)

/-- What a handler is asked to do with a resource. -/
inductive Delivery (T : Type) where
  | apply (resource : T)
  | delete (resource : T)
deriving DecidableEq, Repr

/-- What a notice means for the watch. -/
inductive Reaction (T : Type) where
  | deliver (d : Delivery T)
  | pass
  | fail (e : WatchError)
deriving DecidableEq, Repr

def Notice.reaction : Notice T -> Reaction T
  | .ok (.apply r) => .deliver (.apply r)
  | .ok (.initApply r) => .deliver (.apply r)
  | .ok (.delete r) => .deliver (.delete r)
  | .ok .init => .pass
  | .ok .initDone => .pass
  | .error e => if e.isBenign then .pass else .fail e

/-- How a watch ended: the state of the handler, the error if there was one, and
the notices that were not taken. -/
structure WatchEnd (S T : Type) where
  state : S
  error : Option WatchError
  left : List (Notice T)

/-- Runs a watch with a handler that changes a state. -/
def watch (handle : S -> Delivery T -> S) : S -> List (Notice T) -> WatchEnd S T
  | s, [] => { state := s, error := none, left := [] }
  | s, n :: rest =>
      match Notice.reaction n with
      | .deliver d => watch handle (handle s d) rest
      | .pass => watch handle s rest
      | .fail e => { state := s, error := some e, left := rest }

end PodIsolation
