import PodIsolation.Proofs.WatchSystem

/-!
# Fatal errors end the watches

## What a run of two watches keeps

As long as the supervisor has taken no error, the watches keep to the courses
that nothing interrupts, and an error that a watch has taken is under way to the
supervisor.  Once an error is taken, the watches keep to the courses that are
interrupted at this time.  Nothing may happen to both watches at the same time:
otherwise it is open which error is taken, and whether a watch still sees what
comes with the signal.
-/

namespace PodIsolation

variable {T : Watcher -> Type}

/-- Nothing happens to both watches at the same time. -/
def Schedules.Apart (schedules : Schedules T) : Prop :=
  forall i j time, time ∈ (schedules i).happenings -> time ∈ (schedules j).happenings -> i = j

theorem Schedules.apart {schedules : Schedules T}
    (h : forall time, time ∈ (schedules .policies).happenings ->
      time ∉ (schedules .pods).happenings) : schedules.Apart := by
  intro i j time hi hj
  cases i with
  | policies =>
      cases j with
      | policies => rfl
      | pods => exact absurd hj (h time hi)
  | pods =>
      cases j with
      | policies => exact absurd hi (h time hj)
      | pods => rfl

namespace WatchSystem

variable {schedules : Schedules T} {uptime grace : Nat} {s s' : WatchSystem T}

/-!
# Before an error is taken
-/

/-- The supervisor has taken no error.  Errors that are sent have been taken from
their streams just now. -/
structure Watching (schedules : Schedules T) (s : WatchSystem T) : Prop where
  ready : s.unready = []
  unsignaled : s.signaled = false
  onCourse : forall i interruption, (forall u, u ∈ interruption -> s.now ≤ u) ->
    (s.tasks i).course interruption = (schedules i).course interruption
  unread : forall i time e, (s.tasks i).phase = .closed time (some e) ->
    time = s.now ∧ (i, e) ∈ s.channel
  fresh : forall i e, (i, e) ∈ s.channel -> (s.tasks i).phase = .closed s.now (some e)

theorem Watching.now_le (h : Watching schedules s)
    (hsound : forall i, (s.tasks i).Sound (schedules i) s.now) {i : Watcher} {e : WatchError}
    {u : Nat} (hfails : ((schedules i).course none).FailsWith e u) : s.now ≤ u := by
  rw [← h.onCourse i none fun _ h => nomatch h] at hfails
  cases hover : (s.tasks i).phase.isOver with
  | false => exact (hsound i).timely.le_of_failsWith hover hfails
  | true =>
      cases hphase : (s.tasks i).phase with
      | closed time failure =>
          simp only [WatchTask.course, hphase] at hfails
          rcases hfails with ⟨hfailure, htime⟩
          cases hfailure
          cases htime
          exact Nat.le_of_eq (h.unread i _ e hphase).left.symm
      | _ => simp [hphase, WatchPhase.isOver] at hover

/-!
# After an error is taken
-/

/-- The supervisor has taken an error that a watch took from its stream at a
time, and before which no watch takes one. -/
structure Stopping (schedules : Schedules T) (i : Watcher) (e : WatchError) (time : Nat)
    (s : WatchSystem T) : Prop where
  unready : s.unready = [time]
  failed : (s.tasks i).phase = .closed time (some e)
  first : forall j x u, ((schedules j).course none).FailsWith x u -> time ≤ u
  onCourse : forall j, (s.tasks j).course (some time) = (schedules j).course (some time)
  since : time ≤ s.now
  stopped : forall j, (s.tasks j).phase.isOver = true ∨ s.now = time

theorem Stopping.failsWith {i : Watcher} {e : WatchError} {time : Nat}
    (h : Stopping schedules i e time s) : ((schedules i).course none).FailsWith e time := by
  have hcourse : ((schedules i).course (some time)).FailsWith e time := by
    rw [← h.onCourse i]
    simp only [WatchTask.course, h.failed]
    exact ⟨rfl, rfl⟩
  exact Schedule.failsWith_none hcourse

/-- Where the system stands, by its supervisor. -/
inductive Standing (schedules : Schedules T) (uptime grace : Nat) (s : WatchSystem T) : Prop where
  | watching : s.supervisor = .waiting -> Watching schedules s -> Standing schedules uptime grace s
  | idle : s.supervisor = .idle -> Watching schedules s -> s.channel = [] ->
      (forall i, (s.tasks i).phase.isOver = true) -> Standing schedules uptime grace s
  | stopping {i : Watcher} {e : WatchError} {time : Nat} :
      s.supervisor = .draining e (time + grace) ∨ s.supervisor = .sleeping e (time + grace) ->
      s.signaled = true -> s.now ≤ time + grace -> isTold uptime (time + grace) = true ->
      Stopping schedules i e time s -> Standing schedules uptime grace s
  | returned {i : Watcher} {e : WatchError} {time : Nat} :
      s.supervisor = .returned e (time + grace) -> s.signaled = true ->
      isTold uptime (time + grace) = true -> Stopping schedules i e time s ->
      Standing schedules uptime grace s
  | broken {i : Watcher} {e : WatchError} :
      s.supervisor = .broken -> isTold uptime (s.now + grace) = false ->
      Stopping schedules i e s.now s -> Standing schedules uptime grace s

/-- What every run keeps. -/
structure Keeps (schedules : Schedules T) (uptime grace : Nat) (s : WatchSystem T) : Prop where
  sound : forall i, (s.tasks i).Sound (schedules i) s.now
  distinct : (s.channel.map Prod.fst).Nodup
  sent : forall i e, (i, e) ∈ s.channel -> (s.tasks i).phase.isOver = true
  standing : Standing schedules uptime grace s

theorem keeps_start (schedules : Schedules T) (uptime grace : Nat) :
    (start schedules).Keeps schedules uptime grace where
  sound i := (schedules i).start_sound
  distinct := List.nodup_nil
  sent _ _ h := nomatch h
  standing := by
    refine .watching rfl ?_
    constructor
    · rfl
    · rfl
    · intro i interruption _
      exact (schedules i).start_course interruption
    · intro i time e h
      cases h
    · intro i e h
      cases h

/-!
# One watch goes on
-/

theorem put_self (s : WatchSystem T) (i : Watcher) (w : WatchTask (T i)) :
    (s.put i w).tasks i = w := by
  simp only [WatchSystem.put, Function.update_self]

theorem put_of_ne (s : WatchSystem T) {i j : Watcher} (w : WatchTask (T i)) (h : j ≠ i) :
    (s.put i w).tasks j = s.tasks j := by
  simp only [WatchSystem.put, Function.update_of_ne h]

theorem forall_put (P : (j : Watcher) -> WatchTask (T j) -> Prop) {i : Watcher}
    {w : WatchTask (T i)} (hself : P i w) (hother : forall j, j ≠ i -> P j (s.tasks j)) :
    forall j, P j ((s.put i w).tasks j) :=
  (Function.forall_update_iff s.tasks P).mpr ⟨hself, hother⟩

variable {i : Watcher} {w : WatchTask (T i)}

/-- A watch that is not over has sent nothing. -/
theorem Keeps.unsent (h : s.Keeps schedules uptime grace) (hover : (s.tasks i).phase.isOver = false)
    {j : Watcher} {e : WatchError} (hmem : (j, e) ∈ s.channel) : j ≠ i := by
  rintro rfl
  exact absurd (h.sent j e hmem) (ne_true_of_eq_false hover)

theorem Watching.onCourse_put (h : Watching schedules s)
    (hcourse : forall interruption, (forall u, u ∈ interruption -> s.now ≤ u) ->
      w.course interruption = (s.tasks i).course interruption) :
    forall j interruption, (forall u, u ∈ interruption -> s.now ≤ u) ->
      ((s.put i w).tasks j).course interruption = (schedules j).course interruption := by
  apply forall_put fun j x => forall interruption, (forall u, u ∈ interruption -> s.now ≤ u) ->
    x.course interruption = (schedules j).course interruption
  · intro interruption hopen
    exact (hcourse interruption hopen).trans (h.onCourse i interruption hopen)
  · intro j _
    exact h.onCourse j

theorem Watching.put (h : Watching schedules s) (hunsent : forall j e, (j, e) ∈ s.channel -> j ≠ i)
    (hcourse : forall interruption, (forall u, u ∈ interruption -> s.now ≤ u) ->
      w.course interruption = (s.tasks i).course interruption)
    (hfailed : forall time e, w.phase ≠ .closed time (some e)) :
    Watching schedules (s.put i w) where
  ready := h.ready
  unsignaled := h.unsignaled
  onCourse := h.onCourse_put hcourse
  unread := by
    apply forall_put fun j x => forall time e, x.phase = .closed time (some e) ->
      time = s.now ∧ (j, e) ∈ s.channel
    · intro time e hphase
      exact absurd hphase (hfailed time e)
    · intro j _
      exact h.unread j
  fresh j e hmem := by
    rw [put_of_ne s w (hunsent j e hmem)]
    exact h.fresh j e hmem

theorem Stopping.put {k : Watcher} {e : WatchError} {time : Nat}
    (h : Stopping schedules k e time s) (hne : k ≠ i)
    (hcourse : w.course (some time) = (s.tasks i).course (some time))
    (hnow : s.now = time) : Stopping schedules k e time (s.put i w) where
  unready := h.unready
  failed := by
    rw [put_of_ne s w hne]
    exact h.failed
  first := h.first
  onCourse := forall_put (fun j x => x.course (some time) = (schedules j).course (some time))
    (hcourse.trans (h.onCourse i)) (fun j _ => h.onCourse j)
  since := h.since
  stopped _ := Or.inr hnow

theorem Stopping.ne_of_not_over {k : Watcher} {e : WatchError} {time : Nat}
    (h : Stopping schedules k e time s) (hover : (s.tasks i).phase.isOver = false) :
    k ≠ i ∧ s.now = time := by
  constructor
  · rintro rfl
    simp [h.failed, WatchPhase.isOver] at hover
  · rcases h.stopped i with hstopped | hnow
    · exact absurd hstopped (ne_true_of_eq_false hover)
    · exact hnow

/-- Only the tasks, the time and the readiness matter after an error is taken. -/
theorem Stopping.congr {k : Watcher} {e : WatchError} {time : Nat}
    (h : Stopping schedules k e time s) (htasks : s'.tasks = s.tasks) (hnow : s'.now = s.now)
    (hunready : s'.unready = s.unready) : Stopping schedules k e time s' := by
  constructor
  · rw [hunready]
    exact h.unready
  · rw [htasks]
    exact h.failed
  · exact h.first
  · rw [htasks]
    exact h.onCourse
  · rw [hnow]
    exact h.since
  · rw [htasks, hnow]
    exact h.stopped

/-- A standing in which a watch is not over, when the watch goes on. -/
theorem Standing.put (h : Standing schedules uptime grace s) (hunbroken : s.supervisor ≠ .broken)
    (hover : (s.tasks i).phase.isOver = false) {channel : List (Watcher × WatchError)}
    (hwatching : Watching schedules s -> Watching schedules { s.put i w with channel })
    (hcourse : forall k e time, Stopping schedules k e time s -> s.signaled = true ->
      w.course (some time) = (s.tasks i).course (some time)) :
    Standing schedules uptime grace { s.put i w with channel } := by
  have hstopping : forall k e time, Stopping schedules k e time s -> s.signaled = true ->
      Stopping schedules k e time { s.put i w with channel } := by
    intro k e time h hsignaled
    rcases h.ne_of_not_over hover with ⟨hne, hnow⟩
    exact (h.put hne (hcourse k e time h hsignaled) hnow).congr rfl rfl rfl
  cases h with
  | watching hsupervisor h => exact .watching hsupervisor (hwatching h)
  | idle hsupervisor h hchannel hall => exact absurd (hall i) (ne_true_of_eq_false hover)
  | stopping hsupervisor hsignaled htime htold h =>
      exact .stopping hsupervisor hsignaled htime htold (hstopping _ _ _ h hsignaled)
  | returned hsupervisor hsignaled htold h =>
      exact .returned hsupervisor hsignaled htold (hstopping _ _ _ h hsignaled)
  | broken hsupervisor htold h => exact absurd hsupervisor hunbroken

theorem Keeps.put (h : s.Keeps schedules uptime grace) (hover : (s.tasks i).phase.isOver = false)
    (hw : w.Sound (schedules i) s.now) (hstanding : Standing schedules uptime grace (s.put i w)) :
    (s.put i w).Keeps schedules uptime grace where
  sound := forall_put (fun j x => x.Sound (schedules j) s.now) hw (fun j _ => h.sound j)
  distinct := h.distinct
  sent j e hmem := by
    rw [put_of_ne s w (h.unsent hover hmem)]
    exact h.sent j e hmem
  standing := hstanding

theorem Keeps.work (h : s.Keeps schedules uptime grace) (hunbroken : s.supervisor ≠ .broken)
    (hwork : (s.tasks i).work s.now = some w) : (s.put i w).Keeps schedules uptime grace := by
  have hover := WatchTask.not_over_of_work hwork
  apply h.put hover ((h.sound i).work hwork)
  apply h.standing.put hunbroken hover
  · intro hwatching
    exact hwatching.put (fun j e hmem => h.unsent hover hmem)
      (fun _ hopen => WatchTask.course_of_work (h.sound i) hwork hopen)
      (WatchTask.not_failed_of_work hwork)
  · intro k e time hstopping _
    apply WatchTask.course_of_work (h.sound i) hwork
    intro u hu
    cases hu
    exact Nat.le_of_eq (hstopping.ne_of_not_over hover).right

/-- A watch that reports its error. -/
theorem course_of_report {e : WatchError} {time : Nat}
    (hphase : (s.tasks i).phase = .reporting e time) (interruption : Option Nat) :
    ((s.tasks i).goto (.closed time (some e))).course interruption =
      (s.tasks i).course interruption := by
  simp only [WatchTask.course, WatchTask.goto, hphase, WatchPhase.course]

theorem Watching.send (h : Watching schedules s) {e : WatchError}
    (hphase : (s.tasks i).phase = .reporting e s.now)
    (hunsent : forall j x, (j, x) ∈ s.channel -> j ≠ i) :
    Watching schedules { s.put i ((s.tasks i).goto (.closed s.now (some e))) with
      channel := s.channel ++ [(i, e)] } where
  ready := h.ready
  unsignaled := h.unsignaled
  onCourse := h.onCourse_put fun interruption _ => course_of_report hphase interruption
  unread := by
    apply forall_put fun j x => forall time y, x.phase = .closed time (some y) ->
      time = s.now ∧ (j, y) ∈ s.channel ++ [(i, e)]
    · intro time y hover
      cases hover
      exact ⟨rfl, List.mem_append_right _ (List.mem_singleton_self _)⟩
    · intro j _ time y hover
      rcases h.unread j time y hover with ⟨htime, hmem⟩
      exact ⟨htime, List.mem_append_left _ hmem⟩
  fresh j x hmem := by
    rcases List.mem_append.mp hmem with hmem | hmem
    · change ((s.put i _).tasks j).phase = .closed s.now (some x)
      rw [put_of_ne s _ (hunsent j x hmem)]
      exact h.fresh j x hmem
    · cases List.mem_singleton.mp hmem
      change ((s.put i _).tasks i).phase = .closed s.now (some e)
      rw [put_self]
      rfl

theorem Keeps.send (h : s.Keeps schedules uptime grace) (hunbroken : s.supervisor ≠ .broken)
    {e : WatchError} {time : Nat} (hphase : (s.tasks i).phase = .reporting e time) :
    Keeps schedules uptime grace { s.put i ((s.tasks i).goto (.closed time (some e))) with
      channel := s.channel ++ [(i, e)] } := by
  have hover : (s.tasks i).phase.isOver = false := by
    rw [hphase]
    rfl
  have hunsent : forall j x, (j, x) ∈ s.channel -> j ≠ i := fun j x => h.unsent hover
  cases (h.sound i).timely.reported e time hphase
  constructor
  · exact forall_put (fun j x => x.Sound (schedules j) s.now) ((h.sound i).over _ _)
      (fun j _ => h.sound j)
  · rw [List.map_append, List.nodup_append]
    refine ⟨h.distinct, List.pairwise_singleton _ i, ?_⟩
    intro j hj k hk
    rcases List.mem_map.mp hj with ⟨⟨_, x⟩, hmem, rfl⟩
    cases List.mem_singleton.mp hk
    exact hunsent _ x hmem
  · apply forall_put fun j x => forall y, (j, y) ∈ s.channel ++ [(i, e)] -> x.phase.isOver = true
    · intro _ _
      rfl
    · intro j hj y hmem
      rcases List.mem_append.mp hmem with hmem | hmem
      · exact h.sent j y hmem
      · cases List.mem_singleton.mp hmem
        exact absurd rfl hj
  · apply h.standing.put hunbroken hover
    · intro hwatching
      exact hwatching.send hphase hunsent
    · intro k x time _ _
      exact course_of_report hphase (some time)

theorem Keeps.stop (h : s.Keeps schedules uptime grace) (hunbroken : s.supervisor ≠ .broken)
    (hapart : schedules.Apart) (hsignaled : s.signaled = true)
    (hactive : (s.tasks i).phase.isActive = true) :
    (s.put i ((s.tasks i).goto (.closed s.now none))).Keeps schedules uptime grace := by
  have hover : (s.tasks i).phase.isOver = false := by
    cases hphase : (s.tasks i).phase with
    | closed time failure => simp [hphase, WatchPhase.isActive] at hactive
    | _ => rfl
  apply h.put hover ((h.sound i).over s.now none)
  apply h.standing.put hunbroken hover
  · intro hwatching
    exact absurd hsignaled (ne_true_of_eq_false hwatching.unsignaled)
  · intro k e time hstopping _
    rcases hstopping.ne_of_not_over hover with ⟨hne, hnow⟩
    have htime := Schedule.mem_happenings_of_failsWith hstopping.failsWith
    rw [← hnow] at htime ⊢
    apply WatchTask.course_of_interruption (h.sound i) hactive
    intro hquiet
    exact hne (hapart k i s.now htime hquiet)

/-!
# The supervisor goes on
-/

theorem Watching.congr (h : Watching schedules s) (htasks : s'.tasks = s.tasks)
    (hnow : s'.now = s.now) (hchannel : s'.channel = s.channel)
    (hunready : s'.unready = s.unready) (hsignaled : s'.signaled = s.signaled) :
    Watching schedules s' := by
  constructor
  · rw [hunready]
    exact h.ready
  · rw [hsignaled]
    exact h.unsignaled
  · rw [htasks, hnow]
    exact h.onCourse
  · rw [htasks, hnow, hchannel]
    exact h.unread
  · rw [htasks, hnow, hchannel]
    exact h.fresh

theorem Keeps.congr (h : s.Keeps schedules uptime grace) (htasks : s'.tasks = s.tasks)
    (hnow : s'.now = s.now) (hchannel : s'.channel.Sublist s.channel)
    (hstanding : Standing schedules uptime grace s') : s'.Keeps schedules uptime grace where
  sound := by
    rw [htasks, hnow]
    exact h.sound
  distinct := (hchannel.map Prod.fst).nodup h.distinct
  sent i e hmem := by
    rw [htasks]
    exact h.sent i e (hchannel.mem hmem)
  standing := hstanding

theorem Standing.of_waiting (h : Standing schedules uptime grace s)
    (hwaiting : s.supervisor = .waiting) :
    Watching schedules s := by
  cases h with
  | watching _ h => exact h
  | idle hsupervisor => cases hwaiting.symm.trans hsupervisor
  | stopping hsupervisor =>
      rcases hsupervisor with hsupervisor | hsupervisor <;> cases hwaiting.symm.trans hsupervisor
  | returned hsupervisor => cases hwaiting.symm.trans hsupervisor
  | broken hsupervisor => cases hwaiting.symm.trans hsupervisor

theorem Standing.of_stopping (h : Standing schedules uptime grace s) {e : WatchError}
    {deadline : Nat}
    (hstopping : s.supervisor = .draining e deadline ∨ s.supervisor = .sleeping e deadline) :
    exists i time, deadline = time + grace ∧ s.signaled = true ∧ s.now ≤ time + grace ∧
      isTold uptime (time + grace) = true ∧ Stopping schedules i e time s := by
  cases h with
  | @stopping i e time hsupervisor hsignaled htime htold h =>
      refine ⟨i, time, ?_⟩
      rcases hsupervisor with hsupervisor | hsupervisor <;> rw [hsupervisor] at hstopping <;>
        rcases hstopping with hs | hs <;> cases hs <;>
        exact ⟨rfl, hsignaled, htime, htold, h⟩
  | _ hsupervisor =>
      rw [hsupervisor] at hstopping
      rcases hstopping with hs | hs <;> cases hs

/-- The error that the supervisor takes is the first one. -/
theorem Keeps.taken (h : s.Keeps schedules uptime grace) (hwaiting : s.supervisor = .waiting)
    {e : WatchError} {rest : List (Watcher × WatchError)} (hchannel : s.channel = (i, e) :: rest)
    (htasks : s'.tasks = s.tasks) (hnow : s'.now = s.now)
    (hunready : s'.unready = s.unready ++ [s.now]) : Stopping schedules i e s.now s' := by
  have hwatching := h.standing.of_waiting hwaiting
  constructor
  · rw [hunready, hwatching.ready]
    rfl
  · rw [htasks]
    exact hwatching.fresh i e (hchannel ▸ List.mem_cons_self)
  · intro j x u hfails
    exact hwatching.now_le h.sound hfails
  · intro j
    rw [htasks]
    apply hwatching.onCourse j
    intro u hu
    cases hu
    exact Nat.le_refl _
  · exact Nat.le_of_eq hnow.symm
  · intro j
    exact Or.inr hnow

theorem Keeps.supervise (h : s.Keeps schedules uptime grace)
    (hmoves : Moves uptime grace s .supervise s') :
    s'.Keeps schedules uptime grace := by
  cases hmoves with
  | @take i e rest hwaiting hchannel htold =>
      refine h.congr rfl rfl (hchannel ▸ List.sublist_cons_self _ rest) ?_
      exact .stopping (Or.inl rfl) rfl (Nat.le_add_right s.now grace) htold
        (h.taken hwaiting hchannel rfl rfl rfl)
  | @breakDown i e rest hwaiting hchannel htold =>
      refine h.congr rfl rfl (hchannel ▸ List.sublist_cons_self _ rest) ?_
      exact .broken rfl htold (h.taken hwaiting hchannel rfl rfl rfl)
  | rest hwaiting hchannel hover =>
      refine h.congr rfl rfl (List.Sublist.refl _) ?_
      exact .idle rfl ((h.standing.of_waiting hwaiting).congr rfl rfl rfl rfl rfl) hchannel hover
  | @drain e deadline hdraining =>
      rcases h.standing.of_stopping (Or.inl hdraining) with
        ⟨i, time, rfl, hsignaled, htime, htold, hstopping⟩
      refine h.congr rfl rfl (List.Sublist.refl _) ?_
      exact .stopping (Or.inr rfl) hsignaled htime htold (hstopping.congr rfl rfl rfl)
  | @awake e deadline hsleeping hdue =>
      rcases h.standing.of_stopping (Or.inr hsleeping) with
        ⟨i, time, rfl, hsignaled, htime, htold, hstopping⟩
      refine h.congr rfl rfl (List.Sublist.refl _) ?_
      have hnow : s.now = time + grace := Nat.le_antisymm htime hdue
      exact .returned (congrArg _ hnow) hsignaled htold (hstopping.congr rfl rfl rfl)

theorem Keeps.move (h : s.Keeps schedules uptime grace) (hunbroken : s.supervisor ≠ .broken)
    (hapart : schedules.Apart) {m : Move} (hmoves : Moves uptime grace s m s') :
    s'.Keeps schedules uptime grace := by
  cases m with
  | work i =>
      cases hmoves with
      | work hwork => exact h.work hunbroken hwork
  | send i =>
      cases hmoves with
      | send hphase => exact h.send hunbroken hphase
  | stop i =>
      cases hmoves with
      | stop hsignaled hactive => exact h.stop hunbroken hapart hsignaled hactive
  | supervise => exact h.supervise hmoves

/-!
# Time goes on
-/

/-- There is room for the error of a watch that has not sent one. -/
theorem Keeps.room (h : s.Keeps schedules uptime grace) (hover : (s.tasks i).phase.isOver = false) :
    s.channel.length < capacity := by
  have hunsent : forall j e, (j, e) ∈ s.channel -> j ≠ i := fun j e => h.unsent hover
  have hdistinct := h.distinct
  cases hchannel : s.channel with
  | nil => exact Nat.zero_lt_two
  | cons first rest =>
      cases rest with
      | nil => exact Nat.one_lt_two
      | cons second rest =>
          rw [hchannel] at hunsent hdistinct
          have hfirst : first.fst ≠ i := hunsent _ _ List.mem_cons_self
          have hsecond : second.fst ≠ i :=
            hunsent _ _ (List.mem_cons_of_mem first List.mem_cons_self)
          have hsame : first.fst ∈ (second :: rest).map Prod.fst := by
            rw [Watcher.eq_of_ne hfirst hsecond]
            exact List.mem_cons_self
          exact absurd hsame (List.nodup_cons.mp hdistinct).left

theorem Watching.tick (h : Watching schedules s) (hchannel : s.channel = []) :
    Watching schedules { s with now := s.now + 1 } where
  ready := h.ready
  unsignaled := h.unsignaled
  onCourse i interruption hopen :=
    h.onCourse i interruption fun u hu => Nat.le_of_succ_le (hopen u hu)
  unread i time e hphase := by
    have hmem := (h.unread i time e hphase).right
    rw [hchannel] at hmem
    cases hmem
  fresh i e hmem := by
    change (i, e) ∈ s.channel at hmem
    rw [hchannel] at hmem
    cases hmem

theorem Stopping.tick {k : Watcher} {e : WatchError} {time : Nat}
    (h : Stopping schedules k e time s) (hover : forall j, (s.tasks j).phase.isOver = true) :
    Stopping schedules k e time { s with now := s.now + 1 } where
  unready := h.unready
  failed := h.failed
  first := h.first
  onCourse := h.onCourse
  since := Nat.le_succ_of_le h.since
  stopped j := Or.inl (hover j)

/-- Where nothing is left to do, no error waits to be sent. -/
theorem Keeps.not_reporting (h : s.Keeps schedules uptime grace)
    (hsettled : forall m, s.move uptime grace m = none) (i : Watcher) (e : WatchError)
    (time : Nat) :
    (s.tasks i).phase ≠ .reporting e time := by
  intro hphase
  have hroom : s.channel.length < capacity := by
    apply h.room (i := i)
    rw [hphase]
    rfl
  have hsend := hsettled (.send i)
  simp [WatchSystem.move, hphase, hroom] at hsend

/-- Where nothing is left to do after the signal, both watches are over. -/
theorem Keeps.over_of_signaled (h : s.Keeps schedules uptime grace)
    (hsettled : forall m, s.move uptime grace m = none) (hsignaled : s.signaled = true)
    (i : Watcher) :
    (s.tasks i).phase.isOver = true := by
  have hstop := hsettled (.stop i)
  cases hphase : (s.tasks i).phase with
  | closed time failure => rfl
  | reporting e time => exact absurd hphase (h.not_reporting hsettled i e time)
  | asking since rest => simp [WatchSystem.move, hsignaled, hphase, WatchPhase.isActive] at hstop
  | handling d finish rest =>
      simp [WatchSystem.move, hsignaled, hphase, WatchPhase.isActive] at hstop

theorem Keeps.tick (h : s.Keeps schedules uptime grace) (hunbroken : s.supervisor ≠ .broken)
    (hsettled : forall m, s.move uptime grace m = none) :
    Keeps schedules uptime grace { s with now := s.now + 1 } := by
  have hover := h.over_of_signaled hsettled
  have hsupervise : s.supervise uptime grace = none := hsettled .supervise
  constructor
  · intro i
    exact (h.sound i).tick (Option.map_eq_none_iff.mp (hsettled (.work i)))
      (h.not_reporting hsettled i)
  · exact h.distinct
  · exact h.sent
  · cases h.standing with
    | watching hwaiting hwatching =>
        refine .watching hwaiting (hwatching.tick ?_)
        unfold WatchSystem.supervise at hsupervise
        rw [hwaiting] at hsupervise
        cases hchannel : s.channel with
        | nil => rfl
        | cons first rest => simp [hchannel] at hsupervise
    | idle hidle hwatching hchannel hover =>
        exact .idle hidle (hwatching.tick hchannel) hchannel hover
    | @stopping i e time hsupervisor hsignaled htime htold hstopping =>
        refine .stopping hsupervisor hsignaled ?_ htold (hstopping.tick (hover hsignaled))
        apply Nat.lt_of_not_le
        intro hdue
        unfold WatchSystem.supervise at hsupervise
        rcases hsupervisor with hsupervisor | hsupervisor <;>
          simp [hsupervisor, hdue] at hsupervise
    | returned hreturned hsignaled htold hstopping =>
        exact .returned hreturned hsignaled htold (hstopping.tick (hover hsignaled))
    | broken hbroken => exact absurd hbroken hunbroken

theorem Keeps.step (h : s.Keeps schedules uptime grace) (hunbroken : s.supervisor ≠ .broken)
    (hapart : schedules.Apart) {a : Action} (hsteps : Steps uptime grace s a s') :
    s'.Keeps schedules uptime grace := by
  cases hsteps with
  | move hmoves => exact h.move hunbroken hapart hmoves
  | release i =>
      refine h.congr rfl rfl (List.Sublist.refl _) ?_
      cases h.standing with
      | watching hwaiting hwatching =>
          exact .watching hwaiting (hwatching.congr rfl rfl rfl rfl rfl)
      | idle hidle hwatching hchannel hover =>
          exact .idle hidle (hwatching.congr rfl rfl rfl rfl rfl) hchannel hover
      | stopping hsupervisor hsignaled htime htold hstopping =>
          exact .stopping hsupervisor hsignaled htime htold (hstopping.congr rfl rfl rfl)
      | returned hreturned hsignaled htold hstopping =>
          exact .returned hreturned hsignaled htold (hstopping.congr rfl rfl rfl)
      | broken hbroken => exact absurd hbroken hunbroken
  | tick hsettled => exact h.tick hunbroken hsettled

theorem keeps_of_run (hapart : schedules.Apart) {actions : List Action}
    (h : run uptime grace actions (start schedules) = some s) : s.Keeps schedules uptime grace :=
  run_induction (fun _ _ _ hkeeps hunbroken hsteps => hkeeps.step hunbroken hapart hsteps) h
    (keeps_start schedules uptime grace)

end WatchSystem

end PodIsolation
