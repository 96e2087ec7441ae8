import PodIsolation.Proofs.WatchInvariant

/-!
# Fatal errors end the watches

## The first fatal error of two watches

The first fatal error that a watch takes from its stream ends both watches at
that moment and, after the grace period, the supervisor.  Without a fatal error
the supervisor waits forever.  Time can always go on, unless the supervisor
breaks down over a grace period whose end the clock cannot tell.
-/

namespace PodIsolation

variable {T : Watcher -> Type}

/-- The watch takes a fatal error at a time, and no watch takes one earlier. -/
structure Schedules.FailsFirst (schedules : Schedules T) (i : Watcher) (e : WatchError)
    (time : Nat) : Prop where
  fails : ((schedules i).course none).FailsWith e time
  first : forall j x u, ((schedules j).course none).FailsWith x u -> time ≤ u

namespace WatchSystem

variable {schedules : Schedules T} {uptime grace : Nat} {s s' : WatchSystem T}
variable {i : Watcher} {e : WatchError} {time : Nat}

/-- Where the system stands if the first fatal error is taken at the time. -/
structure FailsFast (schedules : Schedules T) (uptime grace : Nat) (e : WatchError) (time : Nat)
    (s : WatchSystem T) : Prop where
  ready : s.now < time -> s.unready = []
  once : s.unready = [] ∨ s.unready = [time]
  unready : time < s.now -> s.unready = [time]
  handled : forall i x, x ∈ (s.tasks i).steps -> x.time ≤ time
  onCourse : forall i, (s.tasks i).course (some time) = (schedules i).course (some time)
  stopped : time < s.now -> forall i, exists last failure,
    (s.tasks i).phase = .closed last failure ∧
    (schedules i).course (some time) =
      { steps := (s.tasks i).steps, ended := some last, failure }
  returned : forall x u, s.supervisor = .returned x u ->
    x = e ∧ u = time + grace ∧ isTold uptime (time + grace) = true
  returns : time + grace < s.now -> s.supervisor = .returned e (time + grace)
  broken : s.supervisor = .broken -> isTold uptime (time + grace) = false ∧ s.now = time

/-- The system keeps to the course of a shutdown. -/
structure FollowsShutdown (c : ShutdownCourse) (e : WatchError) (s : WatchSystem T) : Prop where
  once : s.unready = [] ∨ s.unready = [c.unready]
  unready : c.unready < s.now -> s.unready = [c.unready]
  returned : forall x u, s.supervisor = .returned x u -> x = e ∧ c.ended = some u
  returns : forall u, c.ended = some u -> u < s.now -> s.supervisor = .returned e u
  broken : s.supervisor = .broken -> c.ended = none

/-- Where the system stands if no watch takes a fatal error. -/
structure StaysReady (schedules : Schedules T) (s : WatchSystem T) : Prop where
  ready : s.unready = []
  unsignaled : s.signaled = false
  onCourse : forall i, (s.tasks i).course none = (schedules i).course none
  waits : s.supervisor = .waiting ∨ s.supervisor = .idle

/-!
# Standings with and without a fatal error
-/

theorem Stopping.eq_first {k : Watcher} {x : WatchError} {u : Nat}
    (h : Stopping schedules k x u s) (hapart : schedules.Apart)
    (hfirst : schedules.FailsFirst i e time) : k = i ∧ x = e ∧ u = time := by
  have htime : u = time :=
    Nat.le_antisymm (h.first i e time hfirst.fails) (hfirst.first k x u h.failsWith)
  subst htime
  have hwatch : k = i := hapart k i u (Schedule.mem_happenings_of_failsWith h.failsWith)
    (Schedule.mem_happenings_of_failsWith hfirst.fails)
  subst hwatch
  exact ⟨rfl, (TimedCourse.failsWith_unique h.failsWith hfirst.fails).left, rfl⟩

theorem time_le_of_onCourse
    (h : (s.tasks i).course (some time) = (schedules i).course (some time))
    {x : HandlingStep (T i)} (hx : x ∈ (s.tasks i).steps) : x.time ≤ time := by
  have hmem := (s.tasks i).steps_subset_course (some time) hx
  rw [h] at hmem
  exact Schedule.time_le_of_mem_courseFrom hmem

theorem course_of_over (hover : (s.tasks i).phase.isOver = true)
    (h : (s.tasks i).course (some time) = (schedules i).course (some time)) :
    exists last failure, (s.tasks i).phase = .closed last failure ∧
      (schedules i).course (some time) =
        { steps := (s.tasks i).steps, ended := some last, failure } := by
  cases hphase : (s.tasks i).phase with
  | closed last failure =>
      refine ⟨last, failure, rfl, ?_⟩
      rw [← h, WatchTask.course, hphase]
      simp [WatchPhase.course, TimedCourse.prepend]
  | _ => simp [hphase, WatchPhase.isOver] at hover

theorem Watching.failsFast (h : Watching schedules s)
    (hsound : forall i, (s.tasks i).Sound (schedules i) s.now)
    (hsupervisor : s.supervisor = .waiting ∨ s.supervisor = .idle)
    (hfirst : schedules.FailsFirst i e time) : FailsFast schedules uptime grace e time s := by
  have hnow : s.now ≤ time := h.now_le hsound hfirst.fails
  have honCourse : forall i, (s.tasks i).course (some time) = (schedules i).course (some time) := by
    intro i
    apply h.onCourse i
    intro u hu
    cases hu
    exact hnow
  constructor
  · intro _
    exact h.ready
  · exact Or.inl h.ready
  · intro hlate
    exact absurd hnow (Nat.not_le_of_lt hlate)
  · intro i x hx
    exact time_le_of_onCourse (honCourse i) hx
  · exact honCourse
  · intro hlate
    exact absurd hnow (Nat.not_le_of_lt hlate)
  · intro x u hreturned
    rw [hreturned] at hsupervisor
    rcases hsupervisor with hs | hs <;> cases hs
  · intro hlate
    exact absurd (Nat.le_add_right_of_le hnow) (Nat.not_le_of_lt hlate)
  · intro hbroken
    rw [hbroken] at hsupervisor
    rcases hsupervisor with hs | hs <;> cases hs

theorem Stopping.failsFast (h : Stopping schedules i e time s)
    (hreturned : forall x u, s.supervisor = .returned x u ->
      x = e ∧ u = time + grace ∧ isTold uptime (time + grace) = true)
    (hreturns : time + grace < s.now -> s.supervisor = .returned e (time + grace))
    (hbroken : s.supervisor = .broken -> isTold uptime (time + grace) = false ∧ s.now = time) :
    FailsFast schedules uptime grace e time s where
  ready hearly := absurd h.since (Nat.not_le_of_lt hearly)
  once := Or.inr h.unready
  unready _ := h.unready
  handled i _ hx := time_le_of_onCourse (h.onCourse i) hx
  onCourse := h.onCourse
  stopped hlate i := by
    rcases h.stopped i with hover | hnow
    · exact course_of_over hover (h.onCourse i)
    · exact absurd hnow (Nat.ne_of_gt hlate)
  returned := hreturned
  returns := hreturns
  broken := hbroken

theorem Keeps.failsFast (h : s.Keeps schedules uptime grace) (hapart : schedules.Apart)
    (hfirst : schedules.FailsFirst i e time) : FailsFast schedules uptime grace e time s := by
  cases h.standing with
  | watching hwaiting hwatching => exact hwatching.failsFast h.sound (Or.inl hwaiting) hfirst
  | idle hidle hwatching => exact hwatching.failsFast h.sound (Or.inr hidle) hfirst
  | stopping hsupervisor hsignaled htime htold hstopping =>
      rcases hstopping.eq_first hapart hfirst with ⟨rfl, rfl, rfl⟩
      apply hstopping.failsFast
      · intro x u hreturned
        rw [hreturned] at hsupervisor
        rcases hsupervisor with hs | hs <;> cases hs
      · intro hlate
        exact absurd htime (Nat.not_le_of_lt hlate)
      · intro hbroken
        rw [hbroken] at hsupervisor
        rcases hsupervisor with hs | hs <;> cases hs
  | returned hsupervisor hsignaled htold hstopping =>
      rcases hstopping.eq_first hapart hfirst with ⟨rfl, rfl, rfl⟩
      apply hstopping.failsFast
      · intro x u hreturned
        cases hsupervisor.symm.trans hreturned
        exact ⟨rfl, rfl, htold⟩
      · intro _
        exact hsupervisor
      · intro hbroken
        cases hsupervisor.symm.trans hbroken
  | broken hsupervisor htold hstopping =>
      rcases hstopping.eq_first hapart hfirst with ⟨rfl, rfl, htime⟩
      rw [htime] at hstopping htold
      apply hstopping.failsFast
      · intro x u hreturned
        cases hsupervisor.symm.trans hreturned
      · intro hlate
        rw [htime] at hlate
        exact absurd (Nat.le_add_right time grace) (Nat.not_le_of_lt hlate)
      · intro _
        exact ⟨htold, htime⟩

theorem Keeps.staysReady (h : s.Keeps schedules uptime grace)
    (hnone : forall i e time, ¬ ((schedules i).course none).FailsWith e time) :
    StaysReady schedules s := by
  have hwatching : Watching schedules s -> s.supervisor = .waiting ∨ s.supervisor = .idle ->
      StaysReady schedules s := by
    intro h hsupervisor
    exact ⟨h.ready, h.unsignaled, fun i => h.onCourse i none (fun _ h => nomatch h), hsupervisor⟩
  cases h.standing with
  | watching hwaiting h => exact hwatching h (Or.inl hwaiting)
  | idle hidle h => exact hwatching h (Or.inr hidle)
  | stopping _ _ _ _ hstopping => exact absurd hstopping.failsWith (hnone _ _ _)
  | returned _ _ _ hstopping => exact absurd hstopping.failsWith (hnone _ _ _)
  | broken _ _ hstopping => exact absurd hstopping.failsWith (hnone _ _ _)

theorem FailsFast.followsShutdown (h : FailsFast schedules uptime grace e time s)
    {message : String} {later : List FatalError} {c : ShutdownCourse}
    (hcourse : shutdownFrom uptime grace ({ time, message } :: later) = some c) :
    FollowsShutdown c e s := by
  cases hcourse
  constructor
  · exact h.once
  · exact h.unready
  · intro x u hreturned
    rcases h.returned x u hreturned with ⟨rfl, rfl, htold⟩
    exact ⟨rfl, if_pos htold⟩
  · intro u hended hlate
    rcases Option.ite_none_right_eq_some.mp hended with ⟨-, hu⟩
    cases hu
    exact h.returns hlate
  · intro hbroken
    exact if_neg (ne_true_of_eq_false (h.broken hbroken).left)

/-!
# Time can go on

Whatever is done at a moment leaves less to do, so each moment comes to an end.
-/

/-- How much can still be done at a moment. -/
def weight (s : WatchSystem T) : Nat :=
  (s.tasks .policies).phase.weight + (s.tasks .pods).phase.weight + s.supervisor.weight

theorem weight_put_lt {w : WatchTask (T i)} (h : w.phase.weight < (s.tasks i).phase.weight) :
    (s.put i w).weight < s.weight := by
  cases i with
  | policies =>
      have hother : (s.put .policies w).tasks .pods = s.tasks .pods :=
        put_of_ne s w Watcher.noConfusion
      simp only [weight, put_self, hother]
      exact Nat.add_lt_add_right (Nat.add_lt_add_right h _) _
  | pods =>
      have hother : (s.put .pods w).tasks .policies = s.tasks .policies :=
        put_of_ne s w Watcher.noConfusion
      simp only [weight, put_self, hother]
      exact Nat.add_lt_add_right (Nat.add_lt_add_left h _) _

theorem Moves.weight_lt {m : Move} (h : Moves uptime grace s m s') : s'.weight < s.weight := by
  cases h with
  | @work i w hwork =>
      rcases WatchTask.work_cases hwork with ⟨phase, steps, hworks, rfl⟩
      exact weight_put_lt hworks.weight_lt
  | @send i e time hphase =>
      apply weight_put_lt
      rw [hphase]
      exact Nat.zero_lt_one
  | @stop i hsignaled hactive =>
      apply weight_put_lt
      cases hphase : (s.tasks i).phase with
      | asking since rest => exact Nat.zero_lt_succ _
      | handling d finish rest => exact Nat.zero_lt_succ _
      | _ => simp [hphase, WatchPhase.isActive] at hactive
  | take hsupervisor | breakDown hsupervisor | rest hsupervisor | drain hsupervisor
  | awake hsupervisor =>
      simp [weight, hsupervisor, Supervisor.weight]

theorem Moves.now_eq {m : Move} (h : Moves uptime grace s m s') : s'.now = s.now := by
  cases h <;> rfl

/-- A moment comes to its end, or the supervisor breaks down. -/
theorem exists_settled (uptime grace : Nat) (s : WatchSystem T) :
    exists actions s', run uptime grace actions s = some s' ∧ s'.now = s.now ∧
      (s'.supervisor = .broken ∨ s'.isSettled uptime grace = true) := by
  induction hweight : s.weight using Nat.strongRecOn generalizing s with
  | ind n ih =>
      by_cases hbroken : s.supervisor = .broken
      · exact ⟨[], s, rfl, rfl, Or.inl hbroken⟩
      cases hsettled : s.isSettled uptime grace with
      | true => exact ⟨[], s, rfl, rfl, Or.inr hsettled⟩
      | false =>
          rcases List.all_eq_false.mp hsettled with ⟨m, -, hm⟩
          have hsome : s.move uptime grace m ≠ none :=
            fun h => hm (Option.isNone_iff_eq_none.mpr h)
          rcases Option.ne_none_iff_exists'.mp hsome with ⟨next, hnext⟩
          have hmoves := moves_of_move hnext
          rcases ih next.weight (hweight ▸ hmoves.weight_lt) next rfl with
            ⟨actions, s', hrun, hnow, hend⟩
          have hstep : s.step uptime grace (.move m) = some next := (if_neg hbroken).trans hnext
          refine ⟨.move m :: actions, s', ?_, hnow.trans hmoves.now_eq, hend⟩
          rw [run, hstep]
          exact hrun

/-- Time gets to any moment, or the supervisor breaks down. -/
theorem exists_later (uptime grace : Nat) (s : WatchSystem T) (later : Nat) :
    exists actions s', run uptime grace actions s = some s' ∧
      (s'.supervisor = .broken ∨ later ≤ s'.now) := by
  induction later with
  | zero => exact ⟨[], s, rfl, Or.inr (Nat.zero_le _)⟩
  | succ later ih =>
      rcases ih with ⟨actions, reached, hrun, hbroken | hlater⟩
      · exact ⟨actions, reached, hrun, Or.inl hbroken⟩
      rcases exists_settled uptime grace reached with ⟨moves, settled, hmoves, hnow, hend⟩
      by_cases hbroken : settled.supervisor = .broken
      · exact ⟨_, settled, run_append hrun hmoves, Or.inl hbroken⟩
      have hsettled := hend.resolve_left hbroken
      have hstep : settled.step uptime grace .tick = some { settled with now := settled.now + 1 } :=
        (if_neg hbroken).trans (if_pos hsettled)
      have htick : run uptime grace [.tick] settled =
          some { settled with now := settled.now + 1 } := by
        rw [run, hstep]
        rfl
      refine ⟨_, _, run_append (run_append hrun hmoves) htick, Or.inr ?_⟩
      exact Nat.succ_le_succ (hnow ▸ hlater)

theorem Keeps.exists_returned (h : s.Keeps schedules uptime grace) (hapart : schedules.Apart)
    (hfirst : schedules.FailsFirst i e time) (htold : isTold uptime (time + grace) = true) :
    exists more s', run uptime grace more s = some s' ∧
      s'.supervisor = .returned e (time + grace) := by
  rcases exists_later uptime grace s (time + grace + 1) with ⟨more, s', hrun, hend⟩
  have hkeeps : s'.Keeps schedules uptime grace :=
    run_induction (fun _ _ _ hkeeps hunbroken hsteps => hkeeps.step hunbroken hapart hsteps) hrun h
  have hfails := hkeeps.failsFast hapart hfirst
  refine ⟨more, s', hrun, ?_⟩
  rcases hend with hbroken | hlater
  · exact absurd htold (ne_true_of_eq_false (hfails.broken hbroken).left)
  · exact hfails.returns hlater

/-- The first fatal error that a watch takes withdraws readiness once, at that
moment, after which neither watch does anything, and the supervisor returns this
error when the grace period is over.  It breaks down instead if the clock cannot
tell the end of the grace period, which depends on the uptime.  A watch that
handles all resources for the same time goes through its course in these
circumstances, and the supervisor through the course of a shutdown.  Without a
fatal error it never returns, and readiness is kept.  Every run goes on to any
later time, unless the supervisor breaks down. -/
theorem fails_fast (schedules : Schedules T) (hapart : schedules.Apart) (uptime grace : Nat)
    {actions : List Action} {s : WatchSystem T}
    (hrun : run uptime grace actions (start schedules) = some s) :
    (forall i e time, schedules.FailsFirst i e time ->
      FailsFast schedules uptime grace e time s ∧
      (forall j handling, (forall n, n ∈ (schedules j).notices -> n.handling = handling) ->
        (s.tasks j).course (some time) =
          ({ handling, endless := (schedules j).endless, interruption := some time } :
            Circumstances).course 0 ((schedules j).notices.map ScheduledNotice.toTimedNotice)) ∧
      (forall later c,
        shutdownFrom uptime grace ({ time, message := watchFailedText } :: later) = some c ->
        FollowsShutdown c e s) ∧
      (isTold uptime (time + grace) = true -> exists more s',
        run uptime grace more s = some s' ∧ s'.supervisor = .returned e (time + grace))) ∧
    ((forall i e time, ¬ ((schedules i).course none).FailsWith e time) ->
      StaysReady schedules s) ∧
    (forall later, exists more s', run uptime grace more s = some s' ∧
      (s'.supervisor = .broken ∨ later ≤ s'.now)) := by
  have hkeeps := keeps_of_run hapart hrun
  refine ⟨?_, ?_, ?_⟩
  · intro i e time hfirst
    have hfails := hkeeps.failsFast hapart hfirst
    refine ⟨hfails, ?_, ?_, ?_⟩
    · intro j handling huniform
      exact (hfails.onCourse j).trans ((schedules j).course_uniform (some time) huniform)
    · intro later c hcourse
      exact hfails.followsShutdown hcourse
    · intro htold
      exact hkeeps.exists_returned hapart hfirst htold
  · intro hnone
    exact hkeeps.staysReady hnone
  · intro later
    exact exists_later uptime grace s later

/-- A resource of the policies is handled for long, when the pods fail. -/
def slowHandling : Schedules fun _ => String
  | .policies => { notices := [{ after := 2, notice := .ok (.apply "a"), handling := 10 }] }
  | .pods => { notices := [{ after := 5, notice := .error .noResourceVersion }] }

/-- Neither watch lets go of the signal. -/
def slowRun : List Action :=
  [.tick, .tick, .move (.work .policies), .tick, .tick, .tick, .move (.work .pods),
    .move (.send .pods), .move .supervise, .move (.stop .policies), .tick, .tick, .tick,
    .move .supervise, .move .supervise, .tick]

theorem fails_fast_with_slow_handling :
    slowHandling.Apart ∧ slowHandling.FailsFirst .pods .noResourceVersion 5 ∧
    exists s, run 60000 3 slowRun (start slowHandling) = some s ∧
      s.supervisor = .returned .noResourceVersion 8 ∧ s.unready = [5] ∧
      (s.tasks .policies).steps = [.started (.apply "a") 2] ∧
      FailsFast slowHandling 60000 3 .noResourceVersion 5 s := by
  have hapart : slowHandling.Apart := Schedules.apart (by decide)
  have hfirst : slowHandling.FailsFirst .pods .noResourceVersion 5 := by
    refine ⟨⟨rfl, rfl⟩, ?_⟩
    intro j x u hfails
    cases j with
    | policies => cases hfails.left
    | pods => exact Nat.le_of_eq (Option.some.inj hfails.right)
  have hrun : run 60000 3 slowRun (start slowHandling) =
      some ((run 60000 3 slowRun (start slowHandling)).get rfl) := rfl
  refine ⟨hapart, hfirst, _, hrun, rfl, rfl, rfl, ?_⟩
  exact ((fails_fast slowHandling hapart 60000 3 hrun).left .pods .noResourceVersion 5 hfirst).left

/-- The policies may not be watched. -/
def refusedPolicies : Schedules fun _ => String
  | .policies => { notices := [{ after := 0, notice := .error (.reported { code := 403 }) }] }
  | .pods => { notices := [], endless := true }

/-- The longest grace period that can be asked for. -/
def longestGrace : Nat :=
  1000 * (UInt64.size - 1)

theorem not_isTold_longestGrace (uptime : Nat) : isTold uptime longestGrace = false := by
  unfold isTold longestGrace
  rw [decide_eq_false_iff_not, Nat.not_lt, Nat.le_div_iff_mul_le (by decide)]
  exact Nat.le_add_left_of_le (by decide)

/-- After the longest grace period no error is ever returned, however short a time
the machine has been up: the supervisor breaks down as soon as it takes one. -/
theorem never_returned_after_longest_grace :
    refusedPolicies.Apart ∧ refusedPolicies.FailsFirst .policies (.reported { code := 403 }) 0 ∧
    (exists actions s, run 0 longestGrace actions (start refusedPolicies) = some s ∧
      s.supervisor = .broken) ∧
    (forall uptime actions s, run uptime longestGrace actions (start refusedPolicies) = some s ->
      forall x u, s.supervisor ≠ .returned x u) := by
  have hapart : refusedPolicies.Apart := Schedules.apart (by decide)
  have hfirst : refusedPolicies.FailsFirst .policies (.reported { code := 403 }) 0 := by
    refine ⟨⟨rfl, rfl⟩, ?_⟩
    intro j x u hfails
    exact Nat.zero_le u
  refine ⟨hapart, hfirst, ?_, ?_⟩
  · exact ⟨[.move (.work .policies), .move (.send .policies), .move .supervise], _, rfl, rfl⟩
  · intro uptime actions s hrun x u hreturned
    have hfails := (keeps_of_run hapart hrun).failsFast hapart hfirst
    have htold := (hfails.returned x u hreturned).right.right
    rw [Nat.zero_add, not_isTold_longestGrace] at htold
    cases htold

end WatchSystem

end PodIsolation
