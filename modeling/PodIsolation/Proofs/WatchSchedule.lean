import PodIsolation.Watch.Timed

/-!
# Watches on a schedule

## The course of a watch whose handlers take their time

A schedule says when each notice of a stream arrives and how long it is handled.
The course of a watch goes on until the stream ends, a fatal error is taken or
the watch is interrupted.  Where all notices are handled for the same time, it is
the course in circumstances with this time.
-/

namespace PodIsolation

variable {T : Type}

/-- A notice and the time that handling it takes. -/
structure ScheduledNotice (T : Type) extends TimedNotice T where
  handling : Nat := 0

/-- The notices of a stream, and whether the stream stays open after them. -/
structure Schedule (T : Type) where
  notices : List (ScheduledNotice T)
  endless : Bool := false

def interruptedBefore (interruption : Option Nat) (time : Nat) : Bool :=
  interruption.any (· < time)

theorem not_interruptedBefore {interruption : Option Nat} {time : Nat} :
    interruptedBefore interruption time = false <-> forall u, u ∈ interruption -> time ≤ u := by
  cases interruption with
  | none => simp [interruptedBefore]
  | some u => simp [interruptedBefore]

namespace TimedCourse

/-- The course ends with a fatal error. -/
def FailsWith (c : TimedCourse T) (e : WatchError) (time : Nat) : Prop :=
  c.failure = some e ∧ c.ended = some time

/-- What is left of a course while a resource is handled. -/
def afterHandling (interruption : Option Nat) (d : Delivery T) (finish : Nat)
    (c : TimedCourse T) : TimedCourse T :=
  if interruptedBefore interruption finish then { ended := interruption }
  else c.prepend [.finished d finish]

theorem prepend_prepend (earlier later : List (HandlingStep T)) (c : TimedCourse T) :
    (c.prepend later).prepend earlier = c.prepend (earlier ++ later) := by
  simp [prepend]

theorem failsWith_unique {c : TimedCourse T} {e e' : WatchError} {t t' : Nat}
    (h : c.FailsWith e t) (h' : c.FailsWith e' t') : e = e' ∧ t = t' :=
  ⟨Option.some.inj (h.left.symm.trans h'.left), Option.some.inj (h.right.symm.trans h'.right)⟩

end TimedCourse

namespace Schedule

/-- The course of a watch that asks its stream for the next notice. -/
def courseFrom (endless : Bool) (interruption : Option Nat) (now : Nat) :
    List (ScheduledNotice T) -> TimedCourse T
  | [] => if endless then { ended := interruption } else { ended := some now }
  | n :: rest =>
      let arrival := now + n.after
      if interruptedBefore interruption arrival then { ended := interruption }
      else match Notice.reaction n.notice with
        | .pass => courseFrom endless interruption arrival rest
        | .fail e => { ended := some arrival, failure := some e }
        | .deliver d =>
            if n.handling = 0 then
              (courseFrom endless interruption arrival rest).prepend [.started d arrival]
            else
              let finish := arrival + n.handling
              ((courseFrom endless interruption finish rest).afterHandling interruption d
                finish).prepend [.started d arrival]

def course (s : Schedule T) (interruption : Option Nat) : TimedCourse T :=
  courseFrom s.endless interruption 0 s.notices

/-- The times at which something happens to a watch that is not interrupted: a
notice arrives, or a handler is done. -/
def happeningsFrom (now : Nat) : List (ScheduledNotice T) -> List Nat
  | [] => []
  | n :: rest =>
      let arrival := now + n.after
      arrival :: match Notice.reaction n.notice with
        | .pass => happeningsFrom arrival rest
        | .fail _ => []
        | .deliver _ => (arrival + n.handling) :: happeningsFrom (arrival + n.handling) rest

def happenings (s : Schedule T) : List Nat :=
  happeningsFrom 0 s.notices

/-!
# Handling that always takes the same time
-/

theorem courseFrom_uniform (c : Circumstances) {notices : List (ScheduledNotice T)}
    (h : forall n, n ∈ notices -> n.handling = c.handling) (now : Nat) :
    courseFrom c.endless c.interruption now notices =
      c.course now (notices.map ScheduledNotice.toTimedNotice) := by
  induction notices generalizing now with
  | nil => rfl
  | cons n rest ih =>
      have hhandling : n.handling = c.handling := h n List.mem_cons_self
      have hrest := ih fun m hm => h m (List.mem_cons_of_mem n hm)
      rw [courseFrom, List.map_cons, Circumstances.course, hhandling]
      change (if c.interrupts (now + n.after) then _ else _) = _
      by_cases hcut : c.interrupts (now + n.after) = true
      · rw [if_pos hcut, if_pos hcut]
      · rw [if_neg hcut, if_neg hcut]
        cases n.notice.reaction with
        | pass => exact hrest _
        | fail e => rfl
        | deliver d =>
            by_cases hzero : c.handling = 0
            · simp only [hzero, if_true, hrest]
            · simp only [hzero, if_false, hrest, TimedCourse.afterHandling]
              change (if c.interrupts _ then _ else _ : TimedCourse T).prepend _ = _
              split <;> rfl

/-- On a schedule with the same time for all notices, the course is that of a
watch in circumstances with this time. -/
theorem course_uniform (s : Schedule T) (interruption : Option Nat) {handling : Nat}
    (h : forall n, n ∈ s.notices -> n.handling = handling) :
    s.course interruption =
      ({ handling, endless := s.endless, interruption } : Circumstances).course 0
        (s.notices.map ScheduledNotice.toTimedNotice) :=
  courseFrom_uniform { handling, endless := s.endless, interruption } h 0

/-!
# Failures

A watch gets to a fatal error by way of notices that are passed over and of
resources that are handled, all of which come before the interruption.
-/

/-- How a watch that asks its stream at some time comes to a fatal error. -/
inductive Fails (interruption : Option Nat) (e : WatchError) (time : Nat) :
    Nat -> List (ScheduledNotice T) -> Prop where
  | fail {now : Nat} {n : ScheduledNotice T} {rest : List (ScheduledNotice T)} :
      interruptedBefore interruption (now + n.after) = false ->
      Notice.reaction n.notice = .fail e -> now + n.after = time ->
      Fails interruption e time now (n :: rest)
  | pass {now : Nat} {n : ScheduledNotice T} {rest : List (ScheduledNotice T)} :
      interruptedBefore interruption (now + n.after) = false ->
      Notice.reaction n.notice = .pass ->
      Fails interruption e time (now + n.after) rest ->
      Fails interruption e time now (n :: rest)
  | deliver {now : Nat} {n : ScheduledNotice T} {rest : List (ScheduledNotice T)}
      {d : Delivery T} :
      interruptedBefore interruption (now + n.after) = false ->
      Notice.reaction n.notice = .deliver d ->
      interruptedBefore interruption (now + n.after + n.handling) = false ->
      Fails interruption e time (now + n.after + n.handling) rest ->
      Fails interruption e time now (n :: rest)

variable {endless : Bool} {interruption : Option Nat} {now time : Nat}
variable {notices : List (ScheduledNotice T)} {e : WatchError}

theorem courseFrom_failsWith :
    (courseFrom endless interruption now notices).FailsWith e time <->
      Fails interruption e time now notices := by
  constructor
  · intro h
    fun_induction courseFrom endless interruption now notices with
    | case1 now hendless => cases h.left
    | case2 now hendless => cases h.left
    | case3 now n rest arrival hcut => cases h.left
    | case4 now n rest arrival hcut hpass ih =>
        exact .pass (eq_false_of_ne_true hcut) hpass (ih h)
    | case5 now n rest arrival hcut x hfail =>
        cases h.left
        exact .fail (eq_false_of_ne_true hcut) hfail (Option.some.inj h.right)
    | case6 now n rest arrival hcut d hdeliver hzero ih =>
        have harrival : now + n.after + n.handling = arrival := by omega
        refine .deliver (eq_false_of_ne_true hcut) hdeliver ?_ ?_
        · rw [harrival]
          exact eq_false_of_ne_true hcut
        · rw [harrival]
          exact ih h
    | case7 now n rest arrival hcut d hdeliver hzero finish ih =>
        cases hlate : interruptedBefore interruption finish with
        | true =>
            rw [TimedCourse.afterHandling, if_pos hlate] at h
            cases h.left
        | false =>
            rw [TimedCourse.afterHandling, if_neg (ne_true_of_eq_false hlate)] at h
            exact .deliver (eq_false_of_ne_true hcut) hdeliver hlate (ih h)
  · intro h
    induction h with
    | fail hcut hfail htime =>
        subst htime
        simp [courseFrom, hcut, hfail, TimedCourse.FailsWith]
    | pass hcut hpass _ ih => simpa [courseFrom, hcut, hpass] using ih
    | @deliver now n rest d hcut hdeliver hlate _ ih =>
        by_cases hzero : n.handling = 0
        · rw [hzero] at ih
          simp only [courseFrom, hcut, hdeliver, hzero, if_true]
          exact ih
        · simp only [courseFrom, hcut, hdeliver, hzero, if_false, TimedCourse.afterHandling, hlate]
          exact ih

theorem Fails.le (h : Fails interruption e time now notices) : now ≤ time := by
  induction h with
  | fail _ _ htime => omega
  | pass _ _ _ ih => omega
  | deliver _ _ _ _ ih => omega

/-- No failure is due to an interruption. -/
theorem Fails.uninterrupted (h : Fails interruption e time now notices) :
    Fails none e time now notices := by
  induction h with
  | fail _ hfail htime => exact .fail rfl hfail htime
  | pass _ hpass _ ih => exact .pass rfl hpass ih
  | deliver _ hdeliver _ _ ih => exact .deliver rfl hdeliver rfl ih

theorem Fails.mem_happeningsFrom (h : Fails interruption e time now notices) :
    time ∈ happeningsFrom now notices := by
  induction h with
  | fail _ _ htime =>
      rw [← htime]
      exact List.mem_cons_self
  | pass _ hpass _ ih =>
      rw [happeningsFrom, hpass]
      exact List.mem_cons_of_mem _ ih
  | deliver _ hdeliver _ _ ih =>
      rw [happeningsFrom, hdeliver]
      exact List.mem_cons_of_mem _ (List.mem_cons_of_mem _ ih)

theorem failsWith_none {s : Schedule T} (h : (s.course interruption).FailsWith e time) :
    (s.course none).FailsWith e time :=
  courseFrom_failsWith.mpr (courseFrom_failsWith.mp h).uninterrupted

theorem mem_happenings_of_failsWith {s : Schedule T}
    (h : (s.course interruption).FailsWith e time) : time ∈ s.happenings :=
  (courseFrom_failsWith.mp h).mem_happeningsFrom

/-- No step of a course comes after the interruption. -/
theorem time_le_of_mem_courseFrom {t : Nat} {x : HandlingStep T}
    (h : x ∈ (courseFrom endless (some t) now notices).steps) : x.time ≤ t := by
  fun_induction courseFrom endless (some t) now notices with
  | case1 now hendless => cases h
  | case2 now hendless => cases h
  | case3 now n rest arrival hcut => cases h
  | case4 now n rest arrival hcut hpass ih => exact ih h
  | case5 now n rest arrival hcut e hfail => cases h
  | case6 now n rest arrival hcut d hdeliver hzero ih =>
      rcases List.mem_cons.mp h with rfl | h
      · exact not_interruptedBefore.mp (eq_false_of_ne_true hcut) t rfl
      · exact ih h
  | case7 now n rest arrival hcut d hdeliver hzero finish ih =>
      rcases List.mem_cons.mp h with rfl | h
      · exact not_interruptedBefore.mp (eq_false_of_ne_true hcut) t rfl
      · unfold TimedCourse.afterHandling at h
        split at h
        next => cases h
        next hlate =>
          rcases List.mem_cons.mp h with rfl | h
          · exact not_interruptedBefore.mp (eq_false_of_ne_true hlate) t rfl
          · exact ih h

end Schedule

/-!
# Standings of a watch

At any time a watch waits for its stream or for a handler, or it has taken a
fatal error and has to report it, or it is over.
-/

inductive WatchPhase (T : Type) where
  | asking (since : Nat) (rest : List (ScheduledNotice T))
  | handling (d : Delivery T) (finish : Nat) (rest : List (ScheduledNotice T))
  | reporting (e : WatchError) (time : Nat)
  | closed (time : Nat) (failure : Option WatchError)

/-- A watch under way, with its steps so far. -/
structure WatchTask (T : Type) where
  phase : WatchPhase T
  endless : Bool
  steps : List (HandlingStep T) := []

namespace WatchPhase

/-- The watch can still be interrupted. -/
def isActive : WatchPhase T -> Bool
  | .asking _ _ => true
  | .handling _ _ _ => true
  | .reporting _ _ => false
  | .closed _ _ => false

def isOver : WatchPhase T -> Bool
  | .closed _ _ => true
  | _ => false

/-- Handling begins.  A handler that takes no time is done at once. -/
def handle (d : Delivery T) (now handling : Nat) (rest : List (ScheduledNotice T)) :
    WatchPhase T :=
  if handling = 0 then .asking now rest else .handling d (now + handling) rest

/-- What the watch does by itself at a time, if there is something to do. -/
def work (endless : Bool) (now : Nat) :
    WatchPhase T -> Option (WatchPhase T × List (HandlingStep T))
  | .asking since [] =>
      if endless || now < since then none else some (.closed now none, [])
  | .asking since (n :: rest) =>
      if now < since + n.after then none
      else match Notice.reaction n.notice with
        | .pass => some (.asking now rest, [])
        | .fail e => some (.reporting e now, [])
        | .deliver d => some (handle d now n.handling rest, [.started d now])
  | .handling d finish rest =>
      if now < finish then none else some (.asking now rest, [.finished d now])
  | .reporting _ _ => none
  | .closed _ _ => none

/-- The time at which the watch has something to do by itself. -/
def due? (endless : Bool) : WatchPhase T -> Option Nat
  | .asking since [] => if endless then none else some since
  | .asking since (n :: _) => some (since + n.after)
  | .handling _ finish _ => some finish
  | .reporting _ _ => none
  | .closed _ _ => none

/-- The course of the watch from this standing on. -/
def course (endless : Bool) (interruption : Option Nat) : WatchPhase T -> TimedCourse T
  | .asking since rest => Schedule.courseFrom endless interruption since rest
  | .handling d finish rest =>
      (Schedule.courseFrom endless interruption finish rest).afterHandling interruption d finish
  | .reporting e time => { ended := some time, failure := some e }
  | .closed time failure => { ended := some time, failure }

/-- The happenings that are still to come. -/
def happenings : WatchPhase T -> List Nat
  | .asking since rest => Schedule.happeningsFrom since rest
  | .handling _ finish rest => finish :: Schedule.happeningsFrom finish rest
  | .reporting _ _ => []
  | .closed _ _ => []

variable {endless : Bool} {now : Nat} {phase phase' : WatchPhase T}
variable {steps : List (HandlingStep T)}

/-- All that a watch can do by itself. -/
inductive Works (endless : Bool) (now : Nat) :
    WatchPhase T -> WatchPhase T -> List (HandlingStep T) -> Prop where
  | finish {since : Nat} : endless = false -> since ≤ now ->
      Works endless now (.asking since []) (.closed now none) []
  | pass {since : Nat} {n : ScheduledNotice T} {rest : List (ScheduledNotice T)} :
      since + n.after ≤ now -> Notice.reaction n.notice = .pass ->
      Works endless now (.asking since (n :: rest)) (.asking now rest) []
  | fail {since : Nat} {n : ScheduledNotice T} {rest : List (ScheduledNotice T)}
      {e : WatchError} : since + n.after ≤ now -> Notice.reaction n.notice = .fail e ->
      Works endless now (.asking since (n :: rest)) (.reporting e now) []
  | deliver {since : Nat} {n : ScheduledNotice T} {rest : List (ScheduledNotice T)}
      {d : Delivery T} : since + n.after ≤ now -> Notice.reaction n.notice = .deliver d ->
      Works endless now (.asking since (n :: rest)) (handle d now n.handling rest)
        [.started d now]
  | done {d : Delivery T} {finish : Nat} {rest : List (ScheduledNotice T)} : finish ≤ now ->
      Works endless now (.handling d finish rest) (.asking now rest) [.finished d now]

theorem works_of_work (h : phase.work endless now = some (phase', steps)) :
    Works endless now phase phase' steps := by
  fun_cases work endless now phase with
  | case1 since hidle => simp [work, hidle] at h
  | case2 since hbusy =>
      simp only [work, if_neg hbusy] at h
      cases h
      simp only [Bool.or_eq_true, decide_eq_true_eq, not_or, Nat.not_lt] at hbusy
      exact .finish (eq_false_of_ne_true hbusy.left) hbusy.right
  | case3 since n rest hearly => simp [work, hearly] at h
  | case4 since n rest hdue hpass =>
      simp only [work, if_neg hdue, hpass] at h
      cases h
      exact .pass (Nat.le_of_not_lt hdue) hpass
  | case5 since n rest hdue e hfail =>
      simp only [work, if_neg hdue, hfail] at h
      cases h
      exact .fail (Nat.le_of_not_lt hdue) hfail
  | case6 since n rest hdue d hdeliver =>
      simp only [work, if_neg hdue, hdeliver] at h
      cases h
      exact .deliver (Nat.le_of_not_lt hdue) hdeliver
  | case7 d finish rest hearly => simp [work, hearly] at h
  | case8 d finish rest hdone =>
      simp only [work, if_neg hdone] at h
      cases h
      exact .done (Nat.le_of_not_lt hdone)
  | case9 e time => cases h
  | case10 time failure => cases h

theorem lt_of_work_eq_none {u : Nat} (h : phase.work endless now = none)
    (hdue : phase.due? endless = some u) : now < u := by
  fun_cases work endless now phase with
  | case1 since hidle =>
      cases endless with
      | true => cases hdue
      | false =>
          cases hdue
          simpa using hidle
  | case2 since hbusy => simp [work, hbusy] at h
  | case3 since n rest hearly => exact Option.some.inj hdue ▸ hearly
  | case4 since n rest hlate hpass => simp [work, hlate, hpass] at h
  | case5 since n rest hlate e hfail => simp [work, hlate, hfail] at h
  | case6 since n rest hlate d hdeliver => simp [work, hlate, hdeliver] at h
  | case7 d finish rest hearly => exact Option.some.inj hdue ▸ hearly
  | case8 d finish rest hdone => simp [work, hdone] at h
  | case9 e time => cases hdue
  | case10 time failure => cases hdue

/-- Nothing that was to be done is left undone, and an error is reported at once. -/
structure Timely (endless : Bool) (now : Nat) (phase : WatchPhase T) : Prop where
  due : forall u, phase.due? endless = some u -> now ≤ u
  asked : forall since rest, phase = .asking since rest -> since ≤ now
  reported : forall e u, phase = .reporting e u -> u = now

theorem timely_over (time : Nat) (failure : Option WatchError) :
    Timely endless now (.closed time failure : WatchPhase T) where
  due _ h := nomatch h
  asked _ _ h := nomatch h
  reported _ _ h := nomatch h

theorem timely_asking (rest : List (ScheduledNotice T)) :
    Timely endless now (.asking now rest) where
  due u hu := by
    cases rest with
    | nil =>
        cases endless with
        | true => cases hu
        | false => exact Option.some.inj hu ▸ Nat.le_refl now
    | cons n rest => exact Option.some.inj hu ▸ Nat.le_add_right now n.after
  asked since rest h := by
    cases h
    exact Nat.le_refl now
  reported _ _ h := nomatch h

theorem timely_handle (d : Delivery T) (handling : Nat) (rest : List (ScheduledNotice T)) :
    Timely endless now (handle d now handling rest) := by
  by_cases hzero : handling = 0
  · rw [handle, if_pos hzero]
    exact timely_asking rest
  · rw [handle, if_neg hzero]
    constructor
    · intro u hu
      exact Option.some.inj hu ▸ Nat.le_add_right now handling
    · intro since rest h
      cases h
    · intro e u h
      cases h

theorem Works.timely (h : Works endless now phase phase' steps) : phase'.Timely endless now := by
  cases h with
  | finish => exact timely_over now none
  | pass => exact timely_asking _
  | @fail since n rest e =>
      constructor
      · intro u hu
        cases hu
      · intro since rest h
        cases h
      · intro e u h
        cases h
        rfl
  | deliver => exact timely_handle _ _ _
  | done => exact timely_asking _

/-- Time may pass when there is nothing to do and nothing to report. -/
theorem Timely.tick (htimely : phase.Timely endless now) (hidle : phase.work endless now = none)
    (hreport : forall e u, phase ≠ .reporting e u) : phase.Timely endless (now + 1) where
  due _ h := lt_of_work_eq_none hidle h
  asked since rest h := Nat.le_succ_of_le (htimely.asked since rest h)
  reported e u h := absurd h (hreport e u)

theorem Works.not_over (h : Works endless now phase phase' steps) : phase.isOver = false := by
  cases h <;> rfl

/-- No watch reports an error by its own work. -/
theorem Works.not_failed (h : Works endless now phase phase' steps) (time : Nat)
    (e : WatchError) : phase' ≠ .closed time (some e) := by
  intro hfailed
  cases h with
  | deliver =>
      unfold handle at hfailed
      split at hfailed <;> cases hfailed
  | _ => cases hfailed

/-- A watch that works keeps to its course. -/
theorem Works.course (h : Works endless now phase phase' steps) (htimely : phase.Timely endless now)
    {interruption : Option Nat} (hopen : forall u, u ∈ interruption -> now ≤ u) :
    phase.course endless interruption = (phase'.course endless interruption).prepend steps := by
  have hcut : interruptedBefore interruption now = false := not_interruptedBefore.mpr hopen
  cases h with
  | @finish since hendless hsince =>
      have hdue : due? endless (.asking since [] : WatchPhase T) = some since := by
        simp [due?, hendless]
      have hnow : since = now := Nat.le_antisymm hsince (htimely.due since hdue)
      simp [WatchPhase.course, Schedule.courseFrom, hendless, hnow, TimedCourse.prepend]
  | @pass since n rest hle hpass =>
      have hnow : since + n.after = now := Nat.le_antisymm hle (htimely.due _ rfl)
      simp [WatchPhase.course, Schedule.courseFrom, hnow, hcut, hpass, TimedCourse.prepend]
  | @fail since n rest e hle hfail =>
      have hnow : since + n.after = now := Nat.le_antisymm hle (htimely.due _ rfl)
      simp [WatchPhase.course, Schedule.courseFrom, hnow, hcut, hfail, TimedCourse.prepend]
  | @deliver since n rest d hle hdeliver =>
      have hnow : since + n.after = now := Nat.le_antisymm hle (htimely.due _ rfl)
      by_cases hzero : n.handling = 0
      · simp [WatchPhase.course, Schedule.courseFrom, handle, hnow, hcut, hdeliver, hzero]
      · simp [WatchPhase.course, Schedule.courseFrom, handle, hnow, hcut, hdeliver, hzero]
  | @done d finish rest hle =>
      have hnow : finish = now := Nat.le_antisymm hle (htimely.due finish rfl)
      simp [WatchPhase.course, TimedCourse.afterHandling, hnow, hcut]

theorem Works.mem_happenings (h : Works endless now phase phase' steps)
    (htimely : phase.Timely endless now) {u : Nat} (hu : u ∈ phase'.happenings) :
    u ∈ phase.happenings := by
  cases h with
  | finish => cases hu
  | fail => cases hu
  | @pass since n rest hle hpass =>
      have hnow : since + n.after = now := Nat.le_antisymm hle (htimely.due _ rfl)
      simp only [happenings, Schedule.happeningsFrom, hpass, hnow]
      exact List.mem_cons_of_mem _ hu
  | @deliver since n rest d hle hdeliver =>
      have hnow : since + n.after = now := Nat.le_antisymm hle (htimely.due _ rfl)
      simp only [happenings, Schedule.happeningsFrom, hdeliver, hnow]
      apply List.mem_cons_of_mem
      by_cases hzero : n.handling = 0
      · rw [handle, if_pos hzero] at hu
        rw [hzero]
        exact List.mem_cons_of_mem _ hu
      · rw [handle, if_neg hzero] at hu
        exact hu
  | @done d finish rest hle =>
      have hnow : finish = now := Nat.le_antisymm hle (htimely.due finish rfl)
      rw [← hnow] at hu
      exact List.mem_cons_of_mem _ hu

/-- A watch that is interrupted at a time when nothing else happens to it. -/
theorem course_of_interruption (hactive : phase.isActive = true)
    (htimely : phase.Timely endless now) (hquiet : now ∉ phase.happenings) :
    phase.course endless (some now) = { ended := some now } := by
  have hlate : forall u, phase.due? endless = some u -> u ∈ phase.happenings -> now < u := by
    intro u hdue hu
    apply Nat.lt_of_le_of_ne (htimely.due u hdue)
    rintro rfl
    exact hquiet hu
  cases phase with
  | asking since rest =>
      cases rest with
      | nil =>
          cases endless with
          | true => rfl
          | false =>
              have hnow : since = now :=
                Nat.le_antisymm (htimely.asked since [] rfl) (htimely.due since rfl)
              simp [WatchPhase.course, Schedule.courseFrom, hnow]
      | cons n rest =>
          have hcut := hlate _ rfl List.mem_cons_self
          simp [WatchPhase.course, Schedule.courseFrom, interruptedBefore, hcut]
  | handling d finish rest =>
      have hcut := hlate _ rfl List.mem_cons_self
      simp [WatchPhase.course, TimedCourse.afterHandling, interruptedBefore, hcut]
  | reporting e time => cases hactive
  | closed time failure => cases hactive

/-- A watch that is not over has not failed earlier than now. -/
theorem Timely.le_of_failsWith (htimely : phase.Timely endless now) (hover : phase.isOver = false)
    {interruption : Option Nat} {e : WatchError} {u : Nat}
    (h : (phase.course endless interruption).FailsWith e u) : now ≤ u := by
  cases phase with
  | asking since rest =>
      have hfails := Schedule.courseFrom_failsWith.mp h
      cases hfails with
      | @fail _ n rest _ _ htime => exact htime ▸ htimely.due _ rfl
      | @pass _ n rest _ _ hfails => exact Nat.le_trans (htimely.due _ rfl) hfails.le
      | @deliver _ n rest _ _ _ _ hfails =>
          exact Nat.le_trans (htimely.due _ rfl) (Nat.le_of_add_right_le hfails.le)
  | handling d finish rest =>
      simp only [WatchPhase.course, TimedCourse.afterHandling] at h
      split at h
      next => cases h.left
      next =>
        have hfails := Schedule.courseFrom_failsWith.mp h
        exact Nat.le_trans (htimely.due finish rfl) hfails.le
  | reporting x time =>
      cases h.right
      exact Nat.le_of_eq (htimely.reported x u rfl).symm
  | closed time failure => cases hover

/-- How much a watch may still do; anything it does lowers this. -/
def weight : WatchPhase T -> Nat
  | .asking _ rest => 2 * rest.length + 2
  | .handling _ _ rest => 2 * rest.length + 3
  | .reporting _ _ => 1
  | .closed _ _ => 0

theorem Works.weight_lt (h : Works endless now phase phase' steps) :
    phase'.weight < phase.weight := by
  cases h with
  | deliver =>
      unfold handle
      split <;> simp only [weight, List.length_cons] <;> omega
  | _ => simp [weight]

end WatchPhase

namespace WatchTask

def goto (w : WatchTask T) (phase : WatchPhase T) : WatchTask T :=
  { w with phase }

def work (w : WatchTask T) (now : Nat) : Option (WatchTask T) :=
  (w.phase.work w.endless now).map fun (phase, steps) =>
    { w with phase, steps := w.steps ++ steps }

/-- The whole course of the watch, if it is interrupted at some time from now on. -/
def course (w : WatchTask T) (interruption : Option Nat) : TimedCourse T :=
  (w.phase.course w.endless interruption).prepend w.steps

/-- The watch is on its schedule. -/
structure Sound (s : Schedule T) (now : Nat) (w : WatchTask T) : Prop where
  endless : w.endless = s.endless
  timely : w.phase.Timely w.endless now
  pending : forall u, u ∈ w.phase.happenings -> u ∈ s.happenings

variable {s : Schedule T} {now : Nat} {w w' : WatchTask T}

theorem work_cases (h : w.work now = some w') :
    exists phase steps, WatchPhase.Works w.endless now w.phase phase steps ∧
      w' = { w with phase, steps := w.steps ++ steps } := by
  rcases Option.map_eq_some_iff.mp h with ⟨⟨phase, steps⟩, hwork, rfl⟩
  exact ⟨phase, steps, WatchPhase.works_of_work hwork, rfl⟩

theorem not_over_of_work (h : w.work now = some w') : w.phase.isOver = false := by
  rcases work_cases h with ⟨phase, steps, hworks, -⟩
  exact hworks.not_over

theorem not_failed_of_work (h : w.work now = some w') (time : Nat) (e : WatchError) :
    w'.phase ≠ .closed time (some e) := by
  rcases work_cases h with ⟨phase, steps, hworks, rfl⟩
  exact hworks.not_failed time e

theorem Sound.work (hw : w.Sound s now) (h : w.work now = some w') : w'.Sound s now := by
  rcases work_cases h with ⟨phase, steps, hworks, rfl⟩
  constructor
  · exact hw.endless
  · exact hworks.timely
  · intro u hu
    exact hw.pending u (hworks.mem_happenings hw.timely hu)

theorem Sound.tick (hw : w.Sound s now) (hidle : w.work now = none)
    (hreport : forall e u, w.phase ≠ .reporting e u) : w.Sound s (now + 1) where
  endless := hw.endless
  timely := hw.timely.tick (Option.map_eq_none_iff.mp hidle) hreport
  pending := hw.pending

theorem Sound.over (hw : w.Sound s now) (time : Nat) (failure : Option WatchError) :
    (w.goto (.closed time failure)).Sound s now where
  endless := hw.endless
  timely := WatchPhase.timely_over time failure
  pending _ h := nomatch h

theorem course_of_work (hw : w.Sound s now) (h : w.work now = some w')
    {interruption : Option Nat} (hopen : forall u, u ∈ interruption -> now ≤ u) :
    w'.course interruption = w.course interruption := by
  rcases work_cases h with ⟨phase, steps, hworks, rfl⟩
  simp only [course]
  rw [hworks.course hw.timely hopen, TimedCourse.prepend_prepend]

theorem course_of_interruption (hw : w.Sound s now) (hactive : w.phase.isActive = true)
    (hquiet : now ∉ s.happenings) :
    (w.goto (.closed now none)).course (some now) = w.course (some now) := by
  have hpending : now ∉ w.phase.happenings := fun h => hquiet (hw.pending now h)
  unfold course
  rw [WatchPhase.course_of_interruption hactive hw.timely hpending]
  rfl

theorem steps_subset_course (w : WatchTask T) (interruption : Option Nat) :
    w.steps ⊆ (w.course interruption).steps :=
  List.subset_append_left _ _

end WatchTask

/-- A watch that has not begun. -/
def Schedule.start (s : Schedule T) : WatchTask T :=
  { phase := .asking 0 s.notices, endless := s.endless }

theorem Schedule.start_sound (s : Schedule T) : s.start.Sound s 0 where
  endless := rfl
  timely := WatchPhase.timely_asking s.notices
  pending _ h := h

theorem Schedule.start_course (s : Schedule T) (interruption : Option Nat) :
    s.start.course interruption = s.course interruption := rfl

end PodIsolation
