/-!
# Dialogues

## Programs that ask

A dialogue is a program that puts requests to its surroundings, one at a time,
and goes on according to the replies.  Keeping it as data lets one program be
run against in-memory tables, against a command, or step by step beside another
program.
-/

namespace PodIsolation

inductive Dialogue (Q R : Type) (A : Type) where
  | done (a : A)
  | ask (request : Q) (next : R -> Dialogue Q R A)

namespace Dialogue

def bind : Dialogue Q R A -> (A -> Dialogue Q R B) -> Dialogue Q R B
  | .done a, f => f a
  | .ask request next, f => .ask request fun reply => bind (next reply) f

instance : Monad (Dialogue Q R) where
  pure := .done
  bind := bind

@[simp] theorem pure_eq (a : A) : (pure a : Dialogue Q R A) = .done a := rfl

@[simp] theorem done_bind (a : A) (f : A -> Dialogue Q R B) :
    (Dialogue.done a >>= f) = f a := rfl

@[simp] theorem ask_bind (request : Q) (next : R -> Dialogue Q R A)
    (f : A -> Dialogue Q R B) :
    (Dialogue.ask request next >>= f) =
      Dialogue.ask request fun reply => next reply >>= f := rfl

/-- Puts a single request and yields the reply. -/
def request (q : Q) : Dialogue Q R R :=
  .ask q .done

/-!
## Running

Surroundings with a state answer each request in turn.  They may also fail to
answer, which ends the program without a result.
-/

def run (respond : S -> Q -> S × Option R) : S -> Dialogue Q R A -> S × Option A
  | s, .done a => (s, some a)
  | s, .ask q next =>
      match respond s q with
      | (s, some reply) => run respond s (next reply)
      | (s, none) => (s, none)

/-- Replaces each request by a dialogue of smaller requests. -/
def interpret (f : Q -> Dialogue Q' R' R) : Dialogue Q R A -> Dialogue Q' R' A
  | .done a => .done a
  | .ask q next => bind (f q) fun reply => interpret f (next reply)

end Dialogue

end PodIsolation
