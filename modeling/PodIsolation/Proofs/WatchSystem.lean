import Mathlib.Logic.Function.Basic
import PodIsolation.Shutdown
import PodIsolation.Proofs.WatchSchedule

/-!
# Two watches and their supervisor

## What can happen at a moment

Two watches go on side by side, each on a schedule of its own.  A watch that has
taken a fatal error sends it through a channel that holds two of them.  The
supervisor takes the first error that is sent, withdraws readiness and signals
the watches to stop.  It waits until they have let go of the signal, but not
longer than the grace period, then sleeps for what is left of the grace period
and returns the error.  If the clock cannot tell when the grace period ends, which
depends on how long the machine has been up, it breaks down, and nothing happens
any more.  If both watches are over and no error has been sent, it waits forever.

At each moment everything that can be done is done, in any order, before time
goes on.  A watch may let go of the signal at any time, or never.
-/

namespace PodIsolation

inductive Watcher where
  | policies
  | pods
deriving DecidableEq

namespace Watcher

def both (p : Watcher -> Bool) : Bool :=
  p .policies && p .pods

theorem both_eq_true {p : Watcher -> Bool} : both p = true <-> forall i, p i = true := by
  constructor
  · intro h i
    rcases Bool.and_eq_true_iff.mp h with ⟨hpolicies, hpods⟩
    cases i with
    | policies => exact hpolicies
    | pods => exact hpods
  · intro h
    exact Bool.and_eq_true_iff.mpr ⟨h .policies, h .pods⟩

/-- Next to each watch there is only one other. -/
theorem eq_of_ne {i j k : Watcher} (hj : j ≠ i) (hk : k ≠ i) : j = k := by
  cases i <;> cases j <;> cases k <;> trivial

end Watcher

inductive Supervisor where
  | waiting
  /-- It waits for errors that nobody can send any more. -/
  | idle
  | draining (e : WatchError) (deadline : Nat)
  | sleeping (e : WatchError) (deadline : Nat)
  | returned (e : WatchError) (time : Nat)
  | broken
deriving DecidableEq

/-- How much the supervisor may still do; anything it does lowers this. -/
def Supervisor.weight : Supervisor -> Nat
  | .waiting => 3
  | .draining _ _ => 2
  | .sleeping _ _ => 1
  | .idle => 0
  | .returned _ _ => 0
  | .broken => 0

/-- Two watches, the errors that are sent and not yet taken, and the supervisor
with the times at which it has withdrawn readiness. -/
structure WatchSystem (T : Watcher -> Type) where
  now : Nat := 0
  tasks : (i : Watcher) -> WatchTask (T i)
  channel : List (Watcher × WatchError) := []
  supervisor : Supervisor := .waiting
  unready : List Nat := []
  signaled : Bool := false
  released : Watcher -> Bool := fun _ => false

/-- A schedule for each of the watches. -/
abbrev Schedules (T : Watcher -> Type) := (i : Watcher) -> Schedule (T i)

namespace WatchSystem

variable {T : Watcher -> Type}

/-- Something that is done as soon as it can be done. -/
inductive Move where
  | work (i : Watcher)
  | send (i : Watcher)
  | stop (i : Watcher)
  | supervise

def Move.all : List Move :=
  [.work .policies, .work .pods, .send .policies, .send .pods, .stop .policies, .stop .pods,
    .supervise]

theorem Move.mem_all (m : Move) : m ∈ Move.all := by
  cases m with
  | supervise => simp [Move.all]
  | work i | send i | stop i => cases i <;> simp [Move.all]

inductive Action where
  | move (m : Move)
  | release (i : Watcher)
  | tick

/-- How many errors the channel holds. -/
def capacity : Nat := 2

def put (s : WatchSystem T) (i : Watcher) (w : WatchTask (T i)) : WatchSystem T :=
  { s with tasks := Function.update s.tasks i w }

/-- The supervisor takes an error. -/
def receive (s : WatchSystem T) (uptime grace : Nat) (e : WatchError)
    (rest : List (Watcher × WatchError)) : WatchSystem T :=
  let deadline := s.now + grace
  let unready := s.unready ++ [s.now]
  if isTold uptime deadline then
    { s with channel := rest, unready, signaled := true, supervisor := .draining e deadline }
  else { s with channel := rest, unready, supervisor := .broken }

def supervise (s : WatchSystem T) (uptime grace : Nat) : Option (WatchSystem T) :=
  match s.supervisor with
  | .waiting =>
      match s.channel with
      | (_, e) :: rest => some (s.receive uptime grace e rest)
      | [] =>
          if Watcher.both fun i => (s.tasks i).phase.isOver then some { s with supervisor := .idle }
          else none
  | .draining e deadline =>
      if Watcher.both s.released || deadline ≤ s.now then
        some { s with supervisor := .sleeping e deadline }
      else none
  | .sleeping e deadline =>
      if deadline ≤ s.now then some { s with supervisor := .returned e s.now } else none
  | .idle => none
  | .returned _ _ => none
  | .broken => none

def move (s : WatchSystem T) (uptime grace : Nat) : Move -> Option (WatchSystem T)
  | .work i => ((s.tasks i).work s.now).map (s.put i)
  | .send i =>
      match (s.tasks i).phase with
      | .reporting e time =>
          if s.channel.length < capacity then
            some { s.put i ((s.tasks i).goto (.closed time (some e))) with
              channel := s.channel ++ [(i, e)] }
          else none
      | _ => none
  | .stop i =>
      if s.signaled && (s.tasks i).phase.isActive then
        some (s.put i ((s.tasks i).goto (.closed s.now none)))
      else none
  | .supervise => s.supervise uptime grace

/-- There is nothing left to do at this moment. -/
def isSettled (s : WatchSystem T) (uptime grace : Nat) : Bool :=
  Move.all.all fun m => (s.move uptime grace m).isNone

def step (s : WatchSystem T) (uptime grace : Nat) (a : Action) : Option (WatchSystem T) :=
  if s.supervisor = .broken then none
  else match a with
    | .move m => s.move uptime grace m
    | .release i => some { s with released := Function.update s.released i true }
    | .tick => if s.isSettled uptime grace then some { s with now := s.now + 1 } else none

def run (uptime grace : Nat) : List Action -> WatchSystem T -> Option (WatchSystem T)
  | [], s => some s
  | a :: actions, s => (s.step uptime grace a).bind (run uptime grace actions)

def start (schedules : Schedules T) : WatchSystem T :=
  { tasks := fun i => (schedules i).start }

variable {uptime grace : Nat} {s s' : WatchSystem T}

/-- All that can be done at a moment. -/
inductive Moves (uptime grace : Nat) (s : WatchSystem T) : Move -> WatchSystem T -> Prop where
  | work {i : Watcher} {w : WatchTask (T i)} : (s.tasks i).work s.now = some w ->
      Moves uptime grace s (.work i) (s.put i w)
  | send {i : Watcher} {e : WatchError} {time : Nat} :
      (s.tasks i).phase = .reporting e time ->
      Moves uptime grace s (.send i) { s.put i ((s.tasks i).goto (.closed time (some e))) with
        channel := s.channel ++ [(i, e)] }
  | stop {i : Watcher} : s.signaled = true -> (s.tasks i).phase.isActive = true ->
      Moves uptime grace s (.stop i) (s.put i ((s.tasks i).goto (.closed s.now none)))
  | take {i : Watcher} {e : WatchError} {rest : List (Watcher × WatchError)} :
      s.supervisor = .waiting -> s.channel = (i, e) :: rest ->
      isTold uptime (s.now + grace) = true ->
      Moves uptime grace s .supervise { s with
        channel := rest, unready := s.unready ++ [s.now], signaled := true
        supervisor := .draining e (s.now + grace) }
  | breakDown {i : Watcher} {e : WatchError} {rest : List (Watcher × WatchError)} :
      s.supervisor = .waiting -> s.channel = (i, e) :: rest ->
      isTold uptime (s.now + grace) = false ->
      Moves uptime grace s .supervise { s with
        channel := rest, unready := s.unready ++ [s.now], supervisor := .broken }
  | rest : s.supervisor = .waiting -> s.channel = [] ->
      (forall i, (s.tasks i).phase.isOver = true) ->
      Moves uptime grace s .supervise { s with supervisor := .idle }
  | drain {e : WatchError} {deadline : Nat} : s.supervisor = .draining e deadline ->
      Moves uptime grace s .supervise { s with supervisor := .sleeping e deadline }
  | awake {e : WatchError} {deadline : Nat} : s.supervisor = .sleeping e deadline ->
      deadline ≤ s.now ->
      Moves uptime grace s .supervise { s with supervisor := .returned e s.now }

theorem moves_of_supervise (h : s.supervise uptime grace = some s') :
    Moves uptime grace s .supervise s' := by
  unfold supervise at h
  cases hsupervisor : s.supervisor with
  | waiting =>
      rw [hsupervisor] at h
      dsimp only at h
      split at h
      next i e rest hchannel =>
        rw [receive] at h
        cases htold : isTold uptime (s.now + grace) with
        | true =>
            rw [if_pos htold] at h
            cases h
            exact .take hsupervisor hchannel htold
        | false =>
            rw [if_neg (ne_true_of_eq_false htold)] at h
            cases h
            exact .breakDown hsupervisor hchannel htold
      next hchannel =>
        rcases Option.ite_none_right_eq_some.mp h with ⟨hover, hs⟩
        cases hs
        exact .rest hsupervisor hchannel (Watcher.both_eq_true.mp hover)
  | draining e deadline =>
      simp only [hsupervisor, Option.ite_none_right_eq_some, Option.some.injEq] at h
      exact h.right ▸ .drain hsupervisor
  | sleeping e deadline =>
      simp only [hsupervisor, Option.ite_none_right_eq_some, Option.some.injEq] at h
      exact h.right ▸ .awake hsupervisor h.left
  | idle => simp [hsupervisor] at h
  | returned e time => simp [hsupervisor] at h
  | broken => simp [hsupervisor] at h

theorem moves_of_move {m : Move} (h : s.move uptime grace m = some s') :
    Moves uptime grace s m s' := by
  cases m with
  | work i =>
      rcases Option.map_eq_some_iff.mp h with ⟨w, hwork, rfl⟩
      exact .work hwork
  | send i =>
      cases hphase : (s.tasks i).phase with
      | reporting e time =>
          simp only [move, hphase, Option.ite_none_right_eq_some, Option.some.injEq] at h
          exact h.right ▸ .send hphase
      | _ => simp [move, hphase] at h
  | stop i =>
      simp only [move, Option.ite_none_right_eq_some, Option.some.injEq, Bool.and_eq_true] at h
      rcases h with ⟨⟨hsignaled, hactive⟩, rfl⟩
      exact .stop hsignaled hactive
  | supervise => exact moves_of_supervise h

theorem move_eq_none_of_settled (h : s.isSettled uptime grace = true) (m : Move) :
    s.move uptime grace m = none :=
  Option.isNone_iff_eq_none.mp (List.all_eq_true.mp h m m.mem_all)

/-- All that a step can be. -/
inductive Steps (uptime grace : Nat) (s : WatchSystem T) : Action -> WatchSystem T -> Prop where
  | move {m : Move} {s' : WatchSystem T} : Moves uptime grace s m s' ->
      Steps uptime grace s (.move m) s'
  | release (i : Watcher) :
      Steps uptime grace s (.release i) { s with released := Function.update s.released i true }
  | tick : (forall m, s.move uptime grace m = none) ->
      Steps uptime grace s .tick { s with now := s.now + 1 }

theorem step_cases {a : Action} (h : s.step uptime grace a = some s') :
    s.supervisor ≠ .broken ∧ Steps uptime grace s a s' := by
  rcases Option.ite_none_left_eq_some.mp h with ⟨hunbroken, h⟩
  refine ⟨hunbroken, ?_⟩
  cases a with
  | move m => exact .move (moves_of_move h)
  | release i =>
      cases h
      exact .release i
  | tick =>
      rcases Option.ite_none_right_eq_some.mp h with ⟨hsettled, hs⟩
      cases hs
      exact .tick (move_eq_none_of_settled hsettled)

/-- What every step keeps is kept by a run. -/
theorem run_induction {P : WatchSystem T -> Prop}
    (hstep : forall s a s', P s -> s.supervisor ≠ .broken -> Steps uptime grace s a s' -> P s')
    {actions : List Action} (h : run uptime grace actions s = some s') (hs : P s) : P s' := by
  induction actions generalizing s with
  | nil =>
      cases h
      exact hs
  | cons a actions ih =>
      rcases Option.bind_eq_some_iff.mp h with ⟨next, hnext, hrest⟩
      rcases step_cases hnext with ⟨hunbroken, hsteps⟩
      exact ih hrest (hstep s a next hs hunbroken hsteps)

theorem run_append {actions more : List Action} {t : WatchSystem T}
    (h : run uptime grace actions s = some s') (hmore : run uptime grace more s' = some t) :
    run uptime grace (actions ++ more) s = some t := by
  induction actions generalizing s with
  | nil =>
      cases h
      exact hmore
  | cons a actions ih =>
      rcases Option.bind_eq_some_iff.mp h with ⟨next, hnext, hrest⟩
      exact Option.bind_eq_some_iff.mpr ⟨next, hnext, ih hrest⟩

end WatchSystem

end PodIsolation
