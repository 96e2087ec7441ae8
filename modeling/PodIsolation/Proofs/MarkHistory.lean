import PodIsolation.Proofs.ControllerRun
import PodIsolation.Proofs.MapLookup

/-!
# Marks

## Marks tell of dispatches

A pod is marked if and only if its rules have been dispatched and nothing has
cleared the mark since.  A call dispatches rules only for a pod that is not
marked, in the step that marks it, so that between two dispatches of one pod
there is always an event that clears the mark.
-/

namespace PodIsolation

namespace Controller

/-!
# Dispatches
-/

/-- The rules of a pod are dispatched. -/
structure Launch where
  uid : String
  ns : String
  rules : RuleSet

def Evaluation.launch? (e : Evaluation) : Option Launch :=
  match e.phase with
  | .ended (.ok (.provisioning rules)) => some { uid := e.uid, ns := e.ns, rules }
  | _ => none

def Call.launch? : Call -> Option Launch
  | .active e _ => e.launch?
  | .completed e _ => e.launch?
  | _ => none

theorem Evaluation.launch?_samePod {e : Evaluation} {l : Launch} (h : e.launch? = some l) :
    l.uid = e.uid ∧ l.ns = e.ns := by
  unfold launch? at h
  split at h
  · cases h
    exact ⟨rfl, rfl⟩
  · cases h

/-- The dispatch that the event was. -/
def Record.launch? (r : Record) : Option Launch :=
  match r.event with
  | .move _ .commit => r.call.bind Call.launch?
  | _ => none

namespace Call

variable {mode : EntryMode} {s s' : State} {call after : Call} {m : Move}

/-- A step of a call marks a pod and dispatches its rules, or it leaves the marks
as they are and dispatches nothing. -/
theorem Moves.marks (h : call.Moves mode s m s' after) :
    (m = .commit ∧ exists l, after.launch? = some l ∧ s.marks.get? l.uid = none ∧
      s'.marks = s.marks.insert l.uid l.ns) ∨
    (s'.marks = s.marks ∧ (after.launch? = none ∨ m ≠ .commit)) := by
  cases h with
  | @dispatch e rules hphase hnew =>
      left
      refine ⟨rfl, { uid := e.uid, ns := e.ns, rules }, rfl, ?_, rfl⟩
      simpa [State.isMarked, SortedMap.contains] using hnew
  | complete o hphase => exact Or.inr ⟨rfl, Or.inr Move.noConfusion⟩
  | askPolicies hphase | askEndpoints hphase => exact Or.inr ⟨rfl, Or.inr Move.noConfusion⟩
  | _ => exact Or.inr ⟨rfl, Or.inl rfl⟩

/-- A call that has dispatched rules keeps them and commits nothing else. -/
theorem Moves.launched (h : call.Moves mode s m s' after) {l : Launch}
    (hl : call.launch? = some l) : after.launch? = some l ∧ m ≠ .commit := by
  cases h with
  | complete o hphase => exact ⟨hl, Move.noConfusion⟩
  | @cancel e asked hawaiting =>
      cases hphase : e.phase <;> simp_all [launch?, Evaluation.launch?, Phase.isAwaiting]
  | _ => simp_all [launch?, Evaluation.launch?]

theorem Moves.committed (h : call.Moves mode s .commit s' after) :
    exists e, after = .active e false := by
  cases h <;> exact ⟨_, rfl⟩

end Call

/-!
# Clearing marks
-/

namespace State

theorem get?_podDeleted (s : State) (pod : Pod) (uid ns : String) :
    (s.podDeleted pod).marks.get? uid = some ns <->
      s.marks.get? uid = some ns ∧ pod.metadata.uid ≠ some uid := by
  unfold podDeleted
  cases hdeleted : pod.metadata.uid with
  | none => simp
  | some deleted =>
      have hmarks : (s.unmark deleted).marks = s.marks.erase deleted := rfl
      simp only [hmarks, SortedMap.get?_erase]
      by_cases huid : uid = deleted
      · simp [huid]
      · simp [huid, Ne.symm huid]

theorem get?_policyChanged (s : State) (p : Policy) (uid ns : String) :
    (s.policyChanged p).marks.get? uid = some ns <->
      s.marks.get? uid = some ns ∧ p.metadata.ns ≠ some ns := by
  unfold policyChanged
  cases hchanged : p.metadata.ns with
  | none => simp
  | some changed =>
      have hmarks : (s.reset changed).marks =
          s.marks.filter fun _ marked => marked != changed := rfl
      rw [hmarks, SortedMap.get?_filter, Option.filter_eq_some_iff, bne_iff_ne, ne_comm]
      simp

end State

/-!
# The marks and what happened
-/

/-- The pod's rules were dispatched, from the namespace, and nothing has cleared
its mark since.  The latest event comes first. -/
def Standing (uid ns : String) (past : List Record) : Prop :=
  exists later r earlier l, past = later ++ r :: earlier ∧ r.launch? = some l ∧
    l.uid = uid ∧ l.ns = ns ∧ forall x, x ∈ later -> ¬ x.event.Clears uid ns

theorem standing_nil {uid ns : String} : ¬ Standing uid ns [] := by
  rintro ⟨later, r, earlier, l, hpast, _⟩
  cases later <;> cases hpast

theorem standing_cons {uid ns : String} {r : Record} {past : List Record} :
    Standing uid ns (r :: past) <->
      (exists l, r.launch? = some l ∧ l.uid = uid ∧ l.ns = ns) ∨
        (Standing uid ns past ∧ ¬ r.event.Clears uid ns) := by
  constructor
  · rintro ⟨later, x, earlier, l, hpast, hl, huid, hns, hkept⟩
    cases later with
    | nil =>
        cases hpast
        exact Or.inl ⟨l, hl, huid, hns⟩
    | cons y later =>
        cases hpast
        right
        refine ⟨⟨later, x, earlier, l, rfl, hl, huid, hns, ?_⟩, hkept r List.mem_cons_self⟩
        exact fun z hz => hkept z (List.mem_cons_of_mem r hz)
  · rintro (⟨l, hl, huid, hns⟩ | ⟨⟨later, x, earlier, l, rfl, hl, huid, hns, hkept⟩, hr⟩)
    · exact ⟨[], r, past, l, rfl, hl, huid, hns, by simp⟩
    · refine ⟨r :: later, x, earlier, l, rfl, hl, huid, hns, ?_⟩
      intro z hz
      rcases List.mem_cons.mp hz with rfl | hz
      · exact hr
      · exact hkept z hz

namespace World

variable {c : Config} {w w' : World} {event : Event} {events : List Event}

/-- The marks after a step are those before, but for the ones that the event
clears and the one that comes with a dispatch. -/
theorem Steps.marks (h : Steps c w event w') :
    exists r, r.event = event ∧ w'.past = r :: w.past ∧
      (forall l, r.launch? = some l -> w.state.marks.get? l.uid = none) ∧
      forall uid ns, w'.state.marks.get? uid = some ns <->
        (exists l, r.launch? = some l ∧ l.uid = uid ∧ l.ns = ns) ∨
          (w.state.marks.get? uid = some ns ∧ ¬ event.Clears uid ns) := by
  cases h with
  | apply i pod hfree =>
      refine ⟨_, rfl, rfl, by simp [Record.launch?], ?_⟩
      intro uid ns
      simp [Record.launch?, put, Event.Clears, Event.Resets]
  | @move i m call after state hcall hmoves =>
      refine ⟨_, rfl, rfl, ?_⟩
      have hkept : forall uid ns, ¬ (Event.move i m).Clears uid ns := fun uid ns h => h
      rcases hmoves.marks with ⟨rfl, l, hl, hnew, hmarks⟩ | ⟨hmarks, hnone⟩
      · have hlaunch : Record.launch? ⟨.move i .commit, some after⟩ = some l := hl
        constructor
        · intro l' hl'
          rw [hlaunch] at hl'
          cases hl'
          exact hnew
        · intro uid ns
          simp only [put, hmarks, SortedMap.get?_insert, hlaunch, Option.some.injEq]
          by_cases huid : uid = l.uid
          · simp [huid, hnew]
          · simp [huid, Ne.symm huid, hkept]
      · have hlaunch : Record.launch? ⟨.move i m, some after⟩ = none := by
          unfold Record.launch?
          rcases hnone with hnone | hm
          · split
            · exact hnone
            · rfl
          · split
            · rename_i heq
              cases heq
              exact absurd rfl hm
            · rfl
        constructor
        · intro l' hl'
          rw [hlaunch] at hl'
          cases hl'
        · intro uid ns
          simp only [put, hmarks, hlaunch]
          simp [hkept]
  | deletePod pod =>
      refine ⟨_, rfl, rfl, by simp [Record.launch?], ?_⟩
      intro uid ns
      simp [Record.launch?, State.get?_podDeleted, Event.Clears]
  | policy d =>
      refine ⟨_, rfl, rfl, by simp [Record.launch?], ?_⟩
      intro uid ns
      cases d <;>
        simp [Record.launch?, handlePolicy, State.get?_policyChanged, Event.Clears, Event.Resets]

/-- Rules are dispatched where a call commits its verdict. -/
theorem Steps.launched (h : Steps c w event w') {l : Launch}
    (hl : Record.launch? ⟨event, event.call?.bind w'.calls⟩ = some l) :
    exists i e, event = .move i .commit ∧ w'.calls i = some (.active e false) ∧
      e.launch? = some l := by
  cases h with
  | apply i pod hfree => cases hl
  | @move i m call after state hcall hmoves =>
      cases m with
      | commit =>
          rcases hmoves.committed with ⟨e, rfl⟩
          refine ⟨i, e, rfl, by simp [put], ?_⟩
          simpa [Record.launch?, Event.call?, put, Call.launch?] using hl
      | _ => cases hl
  | deletePod pod | policy d => cases hl

/-- A pod is marked if and only if a dispatch stands, and no dispatch was made
while an earlier one of the same pod stood. -/
structure Exact (w : World) : Prop where
  marks : forall uid ns, w.state.marks.get? uid = some ns <-> Standing uid ns w.past
  apart : forall later r earlier l ns, w.past = later ++ r :: earlier ->
    r.launch? = some l -> ¬ Standing l.uid ns earlier

theorem exact_empty : Exact {} where
  marks uid ns := by simp [standing_nil]
  apart later r earlier l ns hpast := by cases later <;> cases hpast

theorem Exact.step (h : w.Exact) (hstep : Steps c w event w') : w'.Exact := by
  rcases hstep.marks with ⟨r, rfl, hpast, hnew, hmarks⟩
  constructor
  · intro uid ns
    rw [hmarks, hpast, standing_cons, h.marks]
  · intro later x earlier l ns hsplit hl hstanding
    rw [hpast] at hsplit
    cases later with
    | nil =>
        -- A dispatch that stood would have been marked when this one was made.
        cases hsplit
        have hmarked := (h.marks l.uid ns).mpr hstanding
        rw [hnew l hl] at hmarked
        cases hmarked
    | cons y later =>
        exact h.apart later x earlier l ns (List.cons.inj hsplit).right hl hstanding

theorem Exact.isMarked_iff (h : w.Exact) (uid : String) :
    w.state.isMarked uid = true <-> exists ns, Standing uid ns w.past := by
  unfold State.isMarked SortedMap.contains
  simp only [Option.isSome_iff_exists, h.marks]

theorem exact_of_run (h : run c events {} = some w) : w.Exact :=
  run_induction (fun _ _ _ hw hstep => hw.step hstep) h exact_empty

/-!
# Calls without a dispatch
-/

def launches (w : World) : List Launch :=
  w.past.filterMap Record.launch?

def Launched (w : World) (i : Nat) : Prop :=
  exists call l, w.calls i = some call ∧ call.launch? = some l

theorem Launched.step {i : Nat} (h : w.Launched i) (hstep : Steps c w event w') :
    w'.Launched i := by
  rcases h with ⟨call, l, hcall, hl⟩
  rcases hstep.call hcall with ⟨_, hkept⟩ | ⟨m, after, _, hmoves, hafter⟩
  · exact ⟨call, l, hkept, hl⟩
  · exact ⟨after, l, hafter, (hmoves.launched hl).left⟩

theorem Launched.run {i : Nat} (h : w.Launched i) (hrun : run c events w = some w') :
    w'.Launched i :=
  run_induction (fun _ _ _ hw hstep => Launched.step hw hstep) hrun h

/-- A step of a call that has not dispatched rules afterwards changes no mark. -/
theorem Steps.quiet {i : Nat} (hstep : Steps c w event w') (hcall : event.call? = some i)
    (h : ¬ w'.Launched i) : w'.state.marks = w.state.marks ∧ w'.launches = w.launches := by
  cases hstep with
  | apply j pod hfree => exact ⟨rfl, rfl⟩
  | @move j m call after state hold hmoves =>
      cases hcall
      rcases hmoves.marks with ⟨rfl, l, hl, _⟩ | ⟨hmarks, _⟩
      · exact absurd ⟨after, l, by simp [put], hl⟩ h
      · refine ⟨hmarks, ?_⟩
        have hnone : after.launch? = none := by
          cases hl : after.launch? with
          | none => rfl
          | some l => exact absurd ⟨after, l, by simp [put], hl⟩ h
        have hlaunch : Record.launch? ⟨.move i m, some after⟩ = none := by
          unfold Record.launch?
          split
          · exact hnone
          · rfl
        simp [launches, put, hlaunch]
  | deletePod pod => cases hcall
  | policy d => cases hcall

/-!
# Exact marks
-/

/-- After any schedule, a pod is marked if and only if its rules were dispatched
and neither the pod was deleted nor a policy of the namespace of that dispatch
changed since.  Between two dispatches of a pod there is such an event.  Calls
that end in any other way than a dispatch change no mark and dispatch nothing at
any of their steps. -/
theorem marks_exact (c : Config) (events : List Event) (w : World)
    (h : run c events {} = some w) :
    (forall uid, w.state.isMarked uid = true <->
      exists later r earlier l, w.past = later ++ r :: earlier ∧ r.launch? = some l ∧
        l.uid = uid ∧ forall x, x ∈ later -> ¬ x.event.Clears uid l.ns) ∧
    (forall later r between r' earlier l l',
      w.past = later ++ r :: (between ++ r' :: earlier) ->
      r.launch? = some l -> r'.launch? = some l' -> l.uid = l'.uid ->
        exists x, x ∈ between ∧ x.event.Clears l'.uid l'.ns) ∧
    (forall before event rest v v' i, events = before ++ event :: rest ->
      run c before {} = some v -> v.step c event = some v' -> event.call? = some i ->
      ¬ w.Launched i -> v'.state.marks = v.state.marks ∧ v'.launches = v.launches) := by
  have hexact := exact_of_run h
  refine ⟨?_, ?_, ?_⟩
  · intro uid
    rw [hexact.isMarked_iff]
    constructor
    · rintro ⟨ns, later, r, earlier, l, hpast, hl, huid, rfl, hkept⟩
      exact ⟨later, r, earlier, l, hpast, hl, huid, hkept⟩
    · rintro ⟨later, r, earlier, l, hpast, hl, huid, hkept⟩
      exact ⟨l.ns, later, r, earlier, l, hpast, hl, huid, rfl, hkept⟩
  · intro later r between r' earlier l l' hpast hl hl' huid
    apply Classical.byContradiction
    intro hnone
    apply hexact.apart later r (between ++ r' :: earlier) l l'.ns hpast hl
    rw [huid]
    refine ⟨between, r', earlier, l', rfl, hl', rfl, rfl, ?_⟩
    exact fun x hx hclears => hnone ⟨x, hx, hclears⟩
  · -- A call that has dispatched nothing by the end has not done so at the step.
    intro before event rest v v' i hevents hv hstep hcall hnot
    have hrest : run c rest v' = some w := by
      rw [hevents, run_append, hv] at h
      simpa [run, hstep] using h
    apply (steps_of_step hstep).quiet hcall
    exact fun hlaunched => hnot (hlaunched.run hrest)

/-- Two calls are evaluated side by side and one of them dispatches rules.  A
change of a policy clears the mark, and a third call dispatches rules again. -/
theorem marks_exact_after_change :
    let pod : Pod :=
      { metadata := { uid := some "u", ns := some "default" },
        spec := some { nodeName := some "node" } }
    let policy : Policy := { metadata := { name := some "web", ns := some "default" }, spec := {} }
    let endpoint : EndpointResource :=
      { metadata := { uid := some "e", ns := some "default" },
        spec := { podUid := "u", netns := "/run/netns/pod" } }
    let evaluation : Nat -> List Event := fun i =>
      [.apply i pod, .move i .check, .move i (.ask (.policies "default")),
        .move i (.receivePolicies (.ok [policy])), .move i (.ask (.endpoints "default")),
        .move i (.receiveEndpoints (.ok [endpoint]))]
    let events : List Event :=
      evaluation 0 ++ evaluation 1 ++ [.move 0 .commit, .move 1 .commit, .policy (.apply policy)] ++
        evaluation 2 ++ [.move 2 .commit]
    exists w, run { node := "node" } events {} = some w ∧ w.launches.length = 2 ∧
      exists later r earlier l, w.past = later ++ r :: earlier ∧ r.launch? = some l ∧
        l.uid = "u" ∧ forall x, x ∈ later -> ¬ x.event.Clears "u" l.ns := by
  intro pod policy endpoint evaluation events
  have hend : (run { node := "node" } events {}).map
      (fun w => (w.launches.length, w.state.isMarked "u")) = some (2, true) := by
    decide +kernel
  rcases Option.map_eq_some_iff.mp hend with ⟨w, hw, hpair⟩
  obtain ⟨hlaunches, hmarked⟩ := Prod.mk.inj hpair
  exact ⟨w, hw, hlaunches, ((marks_exact _ events w hw).left "u").mp hmarked⟩

end World

end Controller

end PodIsolation
