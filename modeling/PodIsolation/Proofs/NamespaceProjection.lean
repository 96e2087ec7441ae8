import Mathlib.Data.List.Basic
import PodIsolation.Proofs.EvaluationBound
import PodIsolation.Proofs.MarkHistory

/-!
# Projections to a namespace

## Namespaces do not interfere

What the controller remembers of a namespace is its generation and the marks of
its pods.  Events of other namespaces change neither, as long as each pod stays
in one namespace.  So they can be left out of a schedule: the calls for pods of
the namespace take the same steps and come to the same outcomes, and the marks
of its pods are the same at every point.
-/

namespace PodIsolation

namespace Controller

/-!
# Events of a namespace
-/

/-- The pod that a call of the schedule begins with. -/
def applied? (events : List Event) (i : Nat) : Option Pod :=
  events.findSome? fun
    | .apply j pod => if j = i then some pod else none
    | _ => none

namespace Event

def pod? : Event -> Option Pod
  | .apply _ pod => some pod
  | .deletePod pod => some pod
  | _ => none

/-- The namespace of the pod or of the policy that an event of the schedule is about. -/
def home? (events : List Event) : Event -> Option String
  | .apply _ pod => pod.metadata.ns
  | .move i _ => (applied? events i).bind fun pod => pod.metadata.ns
  | .deletePod pod => pod.metadata.ns
  | .policy (.apply p) => p.metadata.ns
  | .policy (.delete p) => p.metadata.ns

/-- The event is not one of another namespace. -/
def isHome (events : List Event) (ns : String) (event : Event) : Bool :=
  (event.home? events).all fun home => home == ns

end Event

/-- A pod with the unique id appears in the schedule, in the namespace. -/
def Resides (events : List Event) (uid ns : String) : Prop :=
  exists event pod, event ∈ events ∧ event.pod? = some pod ∧ pod.metadata.uid = some uid ∧
    pod.metadata.ns = some ns

/-- Each call begins with one pod, and each pod stays in one namespace. -/
structure Orderly (events : List Event) : Prop where
  applied : forall i pod, .apply i pod ∈ events -> applied? events i = some pod
  settled : forall uid home home', Resides events uid home -> Resides events uid home' ->
    home = home'

/-- The pod of the call is not one of another namespace. -/
def isHomeCall (events : List Event) (ns : String) (i : Nat) : Bool :=
  ((applied? events i).bind fun pod => pod.metadata.ns).all fun home => home == ns

namespace Event

variable {events : List Event} {event : Event} {uid ns home : String}

theorem eq_of_isHome (h : event.isHome events ns = true)
    (hhome : event.home? events = some home) : home = ns := by
  simpa [isHome, hhome] using h

theorem isHome_of_home? (h : event.home? events = some ns) : event.isHome events ns = true := by
  simp [isHome, h]

theorem isHome_of_resets (h : event.Resets ns) : event.isHome events ns = true := by
  apply isHome_of_home?
  cases event with
  | policy d => cases d <;> exact h
  | apply | move | deletePod => cases h

/-- Events of other namespaces clear no mark of a pod that stays in one namespace. -/
theorem not_clears (h : event.isHome events ns = false) (hevent : event ∈ events)
    (hpods : forall home, Resides events uid home -> home = ns) : ¬ event.Clears uid ns := by
  intro hclears
  have hhome : event.isHome events ns = true := by
    cases event with
    | deletePod pod =>
        cases hns : pod.metadata.ns with
        | none => simp [isHome, home?, hns]
        | some home =>
            have hresides : Resides events uid home := ⟨_, pod, hevent, rfl, hclears, hns⟩
            rw [hpods home hresides] at hns
            exact isHome_of_home? hns
    | apply | move | policy => exact isHome_of_resets hclears
  rw [hhome] at h
  cases h

end Event

/-!
# Calls and the state
-/

namespace Call

variable {mode : EntryMode} {s s' t : State} {e : Evaluation} {asked : Bool} {m : Move}
  {call after : Call}

/-- A call sees nothing of the state but the generation of its namespace and the mark of
its pod, so that it can take the same step in any state with the same ones. -/
theorem Moves.transfer (h : Moves mode s (.active e asked) m s' after)
    (hgeneration : t.generation e.ns = s.generation e.ns)
    (hmarked : t.isMarked e.uid = s.isMarked e.uid) :
    exists t', Moves mode t (.active e asked) m t' after := by
  cases h with
  | leave hphase hm => exact ⟨_, .leave hphase (hmarked.trans hm)⟩
  | evaluate hphase hm =>
      rw [← hgeneration]
      exact ⟨_, .evaluate hphase (hmarked.trans hm)⟩
  | askPolicies hphase => exact ⟨_, .askPolicies hphase⟩
  | policiesFailed message hphase => exact ⟨_, .policiesFailed message hphase⟩
  | policiesNone hphase hnone => exact ⟨_, .policiesNone hphase hnone⟩
  | policiesSome hphase hsome => exact ⟨_, .policiesSome hphase hsome⟩
  | askEndpoints hphase => exact ⟨_, .askEndpoints hphase⟩
  | endpointsFailed message hphase => exact ⟨_, .endpointsFailed message hphase⟩
  | endpoints listed hphase => exact ⟨_, .endpoints listed hphase⟩
  | stale hphase hstale => exact ⟨_, .stale hphase (by rw [hgeneration]; exact hstale)⟩
  | unmanaged hphase => exact ⟨_, .unmanaged (by rw [hgeneration]; exact hphase)⟩
  | noEndpoints hphase => exact ⟨_, .noEndpoints (by rw [hgeneration]; exact hphase)⟩
  | overtaken hphase hm =>
      exact ⟨_, .overtaken (by rw [hgeneration]; exact hphase) (hmarked.trans hm)⟩
  | dispatch hphase hm =>
      exact ⟨_, .dispatch (by rw [hgeneration]; exact hphase) (hmarked.trans hm)⟩
  | cancel hphase => exact ⟨_, .cancel hphase⟩
  | complete o hphase => exact ⟨_, .complete o hphase⟩

end Call

namespace World

variable {c : Config} {w w' v v' : World} {event : Event} {events : List Event} {i : Nat}
  {ns : String}

/-- A call that is there does not begin again. -/
theorem not_applied_of_called (h : run c events w = some w') (hcall : w.calls i ≠ none)
    (pod : Pod) : .apply i pod ∉ events := by
  induction events generalizing w with
  | nil => exact List.not_mem_nil
  | cons event rest ih =>
      rcases Option.bind_eq_some_iff.mp h with ⟨v, hv, hrest⟩
      have hstep := steps_of_step hv
      intro hmem
      rcases List.mem_cons.mp hmem with rfl | hmem
      · cases hstep with
        | apply i pod hfree => exact hcall hfree
      · rcases Option.ne_none_iff_exists'.mp hcall with ⟨call, hcall⟩
        refine ih hrest ?_ hmem
        rcases hstep.call hcall with ⟨_, hkept⟩ | ⟨_, _, _, _, hafter⟩ <;> simp [*]

theorem applied?_of_mem (h : run c events w = some w') {pod : Pod}
    (hmem : .apply i pod ∈ events) : applied? events i = some pod := by
  induction events generalizing w with
  | nil => cases hmem
  | cons event rest ih =>
      rcases Option.bind_eq_some_iff.mp h with ⟨v, hv, hrest⟩
      rcases List.mem_cons.mp hmem with rfl | hlatermem
      · simp [applied?]
      · have hlater := ih hrest hlatermem
        cases event with
        | apply j other =>
            have hij : j ≠ i := by
              rintro rfl
              refine not_applied_of_called hrest ?_ pod hlatermem
              cases steps_of_step hv with
              | apply j other hfree => simp [put]
            simpa [applied?, hij] using hlater
        | move | deletePod | policy => simpa [applied?] using hlater

/-!
# What is known of calls and marks
-/

/-- What happened comes from the schedule, and each pod that was dispatched appears in it. -/
structure Documented (c : Config) (events : List Event) (w : World) : Prop where
  grounded : w.Grounded c
  exact : w.Exact
  heard : forall r, r ∈ w.past -> r.event ∈ events
  launched : forall r l, r ∈ w.past -> r.launch? = some l ->
    Resides events l.uid l.ns ∧ r.event.home? events = some l.ns

theorem documented_empty : Documented c events {} where
  grounded _ _ _ hcall := by cases hcall
  exact := exact_empty
  heard _ h := by cases h
  launched _ _ h := by cases h

theorem Documented.marked {uid home : String} (h : w.Documented c events)
    (hmarked : w.state.marks.get? uid = some home) : Resides events uid home := by
  rcases (h.exact.marks uid home).mp hmarked with
    ⟨later, r, earlier, l, hpast, hl, rfl, rfl, _⟩
  have hr : r ∈ w.past := by simp [hpast]
  exact (h.launched r l hr hl).left

section Projection

variable (horderly : Orderly events)

include horderly

theorem isHome_of_call? (hevent : event ∈ events) (hcall : event.call? = some i) :
    event.isHome events ns = isHomeCall events ns i := by
  cases event with
  | apply j pod =>
      cases hcall
      simp [Event.isHome, Event.home?, isHomeCall, horderly.applied i pod hevent]
  | move j m =>
      cases hcall
      rfl
  | deletePod pod | policy d => cases hcall

theorem Grounded.resides {e : Evaluation} {asked : Bool} (h : w.Grounded c)
    (hheard : forall r, r ∈ w.past -> r.event ∈ events)
    (hcall : w.calls i = some (.active e asked)) :
    Resides events e.uid e.ns ∧
      (applied? events i).bind (fun pod => pod.metadata.ns) = some e.ns := by
  rcases (h i e asked hcall).left with ⟨r, pod, hr, happly, huid, hns, _⟩
  have hmem : .apply i pod ∈ events := happly ▸ hheard r hr
  refine ⟨⟨_, pod, hmem, rfl, huid, hns⟩, ?_⟩
  rw [horderly.applied i pod hmem]
  exact hns

theorem Documented.step (h : w.Documented c events) (hstep : Steps c w event w')
    (hevent : event ∈ events) : w'.Documented c events := by
  have hgrounded := h.grounded.step hstep
  have hheard : forall r, r ∈ w'.past -> r.event ∈ events := by
    intro r hr
    rw [hstep.record] at hr
    rcases List.mem_cons.mp hr with rfl | hr
    · exact hevent
    · exact h.heard r hr
  refine ⟨hgrounded, h.exact.step hstep, hheard, ?_⟩
  intro r l hr hl
  rw [hstep.record] at hr
  rcases List.mem_cons.mp hr with rfl | hr
  · rcases hstep.launched hl with ⟨i, e, rfl, hcall, hlaunch⟩
    rcases Evaluation.launch?_samePod hlaunch with ⟨huid, hns⟩
    rw [huid, hns]
    exact hgrounded.resides horderly hheard hcall
  · exact h.launched r l hr hl

/-!
# The same world without the other namespaces
-/

/-- The second world is the first one without what happened in other namespaces. -/
structure Mirrors (events : List Event) (ns : String) (w v : World) : Prop where
  past : v.past = w.past.filter fun r => r.event.isHome events ns
  calls : forall i, v.calls i = if isHomeCall events ns i then w.calls i else none
  generation : v.state.generation ns = w.state.generation ns
  marks : forall uid home, v.state.marks.get? uid = some home <->
    w.state.marks.get? uid = some home ∧ home = ns

/-- What happens elsewhere can be left out. -/
theorem Mirrors.skip (h : Mirrors events ns w v) (hdocumented : w.Documented c events)
    (hstep : Steps c w event w') (hevent : event ∈ events)
    (helsewhere : event.isHome events ns = false) : Mirrors events ns w' v := by
  constructor
  · rw [hstep.record, List.filter_cons_of_neg (by simpa using helsewhere), h.past]
  · intro i
    rw [h.calls]
    cases hhome : isHomeCall events ns i with
    | false => rfl
    | true =>
        have hother : event.call? ≠ some i := by
          intro hcall
          rw [isHome_of_call? horderly hevent hcall, hhome] at helsewhere
          cases helsewhere
        rw [hstep.calls_of_ne hother]
  · rw [h.generation]
    refine (hstep.generation_kept fun hresets => ?_).symm
    rw [Event.isHome_of_resets hresets] at helsewhere
    cases helsewhere
  · intro uid home
    rcases hstep.marks with ⟨r, rfl, hpast, _, hmarks⟩
    rw [h.marks, hmarks]
    constructor
    · rintro ⟨hmarked, rfl⟩
      have hspared := Event.not_clears helsewhere hevent fun other hother =>
        horderly.settled uid other home hother (hdocumented.marked hmarked)
      exact ⟨Or.inr ⟨hmarked, hspared⟩, rfl⟩
    · rintro ⟨⟨l, hl, rfl, rfl⟩ | ⟨hmarked, _⟩, rfl⟩
      · -- A dispatch elsewhere is one of a pod of another namespace.
        have hdocumented' := hdocumented.step horderly hstep hevent
        have hr : r ∈ w'.past := by simp [hpast]
        rw [Event.isHome_of_home? (hdocumented'.launched r l hr hl).right] at helsewhere
        cases helsewhere
      · exact ⟨hmarked, rfl⟩

/-- What happens in the namespace happens in both worlds alike. -/
theorem Mirrors.follow (h : Mirrors events ns w v) (hdocumented : w'.Documented c events)
    (hstep : Steps c w event w') (hstep' : Steps c v event v') (hevent : event ∈ events)
    (hhome : event.isHome events ns = true)
    (hcalls : forall i, event.call? = some i -> v'.calls i = w'.calls i) :
    Mirrors events ns w' v' := by
  have hrecord : event.call?.bind v'.calls = event.call?.bind w'.calls := by
    cases hcall : event.call? with
    | none => rfl
    | some i => exact hcalls i hcall
  constructor
  · rw [hstep'.record, hstep.record, List.filter_cons_of_pos (by simpa using hhome), h.past,
      hrecord]
  · intro i
    by_cases hcall : event.call? = some i
    · rw [← isHome_of_call? horderly hevent hcall, hhome, if_pos rfl, hcalls i hcall]
    · rw [hstep.calls_of_ne hcall, hstep'.calls_of_ne hcall, h.calls]
  · rcases hstep.generation ns with ⟨hresets, hnext⟩ | ⟨hkept, hnext⟩ <;>
      rcases hstep'.generation ns with ⟨hresets', hnext'⟩ | ⟨hkept', hnext'⟩
    · rw [hnext, hnext', h.generation]
    · exact absurd hresets hkept'
    · exact absurd hresets' hkept
    · rw [hnext, hnext', h.generation]
  · intro uid home
    rcases hstep.marks with ⟨r, rfl, hpast, _, hmarks⟩
    rcases hstep'.marks with ⟨r', _, hpast', _, hmarks'⟩
    have hsame : r' = r := by
      rw [(List.cons.inj (hpast'.symm.trans hstep'.record)).left, hrecord]
      exact (List.cons.inj (hpast.symm.trans hstep.record)).left.symm
    subst hsame
    rw [hmarks, hmarks', h.marks]
    constructor
    · rintro (⟨l, hl, rfl, rfl⟩ | ⟨⟨hmarked, rfl⟩, hkept⟩)
      · have hr : r' ∈ w'.past := by simp [hpast]
        have hl' := (hdocumented.launched r' l hr hl).right
        exact ⟨Or.inl ⟨l, hl, rfl, rfl⟩, Event.eq_of_isHome hhome hl'⟩
      · exact ⟨Or.inr ⟨hmarked, hkept⟩, rfl⟩
    · rintro ⟨hl | ⟨hmarked, hkept⟩, rfl⟩
      · exact Or.inl hl
      · exact Or.inr ⟨⟨hmarked, rfl⟩, hkept⟩

theorem Mirrors.isMarked {uid : String} (h : Mirrors events ns w v)
    (hdocumented : w.Documented c events) (hresides : Resides events uid ns) :
    v.state.isMarked uid = w.state.isMarked uid := by
  rw [Bool.eq_iff_iff]
  simp only [State.isMarked, SortedMap.contains, Option.isSome_iff_exists, h.marks]
  constructor
  · rintro ⟨home, hmarked, _⟩
    exact ⟨home, hmarked⟩
  · rintro ⟨home, hmarked⟩
    exact ⟨home, hmarked, horderly.settled uid home ns (hdocumented.marked hmarked) hresides⟩

/-- What happens in the namespace can happen without the others. -/
theorem Mirrors.exists_steps (h : Mirrors events ns w v) (hdocumented : w.Documented c events)
    (hstep : Steps c w event w') (hevent : event ∈ events)
    (hhome : event.isHome events ns = true) :
    exists v', Steps c v event v' ∧
      forall i, event.call? = some i -> v'.calls i = w'.calls i := by
  have hcall : forall i, event.call? = some i -> v.calls i = w.calls i := by
    intro i hi
    rw [h.calls, ← isHome_of_call? horderly hevent hi, hhome, if_pos rfl]
  cases hstep with
  | apply i pod hfree =>
      refine ⟨_, .apply i pod ((hcall i rfl).trans hfree), ?_⟩
      intro j hj
      cases hj
      simp [put]
  | @move i m call after state hold hmoves =>
      rcases hmoves.active with ⟨e, asked, rfl⟩
      rcases hdocumented.grounded.resides horderly hdocumented.heard hold with ⟨hresides, hns⟩
      have hlocal : e.ns = ns := Event.eq_of_isHome hhome hns
      rw [hlocal] at hresides
      rcases hmoves.transfer (t := v.state) (by rw [hlocal]; exact h.generation)
        (h.isMarked horderly hdocumented hresides) with ⟨state', hmoves'⟩
      refine ⟨_, .move i ((hcall i rfl).trans hold) hmoves', ?_⟩
      intro j hj
      cases hj
      simp [put]
  | deletePod pod =>
      refine ⟨_, .deletePod pod, ?_⟩
      intro j hj
      cases hj
  | policy d =>
      refine ⟨_, .policy d, ?_⟩
      intro j hj
      cases hj

/-- A schedule that is possible stays so without the other namespaces. -/
theorem Mirrors.run {rest : List Event} (h : Mirrors events ns w v)
    (hdocumented : w.Documented c events) (hrun : run c rest w = some w')
    (hrest : forall event, event ∈ rest -> event ∈ events) :
    exists v', World.run c (rest.filter (Event.isHome events ns)) v = some v' ∧
      Mirrors events ns w' v' ∧ w'.Documented c events := by
  induction rest generalizing w v with
  | nil =>
      cases hrun
      exact ⟨v, rfl, h, hdocumented⟩
  | cons event rest ih =>
      rcases Option.bind_eq_some_iff.mp hrun with ⟨u, hu, hrun⟩
      have hstep := steps_of_step hu
      have hevent := hrest event List.mem_cons_self
      have hlater : forall event, event ∈ rest -> event ∈ events :=
        fun other hother => hrest other (List.mem_cons_of_mem event hother)
      have hdocumented' := hdocumented.step horderly hstep hevent
      cases hhome : event.isHome events ns with
      | false =>
          rw [List.filter_cons_of_neg (by simp [hhome])]
          exact ih (h.skip horderly hdocumented hstep hevent hhome) hdocumented' hrun hlater
      | true =>
          rcases h.exists_steps horderly hdocumented hstep hevent hhome with
            ⟨u', hstep', hcalls⟩
          have hmirrors := h.follow horderly hdocumented' hstep hstep' hevent hhome hcalls
          rcases ih hmirrors hdocumented' hrun hlater with ⟨v', hv', hend⟩
          rw [List.filter_cons_of_pos hhome]
          exact ⟨v', Option.bind_eq_some_iff.mpr ⟨u', hstep'.step, hv'⟩, hend⟩

end Projection

theorem Mirrors.evaluations (h : Mirrors events ns w v) (hhome : isHomeCall events ns i = true) :
    v.evaluations i = w.evaluations i := by
  unfold World.evaluations
  rw [h.past, List.countP_filter]
  apply List.countP_congr
  intro r _
  simp only [Bool.and_eq_true, and_iff_left_iff_imp]
  intro hbegins
  rw [Record.event_of_begins hbegins]
  exact hhome

theorem Mirrors.launches (h : Mirrors events ns w v) (hdocumented : w.Documented c events) :
    v.launches = w.launches.filter fun l => l.ns == ns := by
  unfold World.launches
  rw [h.past, List.filterMap_filter, List.filter_filterMap]
  apply List.filterMap_congr
  intro r hr
  cases hl : r.launch? with
  | none => simp
  | some l =>
      have hlocal : r.event.isHome events ns = (l.ns == ns) := by
        simp [Event.isHome, (hdocumented.launched r l hr hl).right]
      rw [hlocal]
      rfl

/-- A schedule in which each pod stays in one namespace is possible without the events
of the other namespaces, too.  At every point, the calls for pods of the namespace
stand where they stood and have begun as many evaluations, so that they come to the
same outcomes; the same rules have been dispatched for pods of the namespace, in the
same order, and no others; and the same pods of the namespace are marked. -/
theorem namespaces_apart (c : Config) (ns : String) (events : List Event) (w : World)
    (h : run c events {} = some w)
    (hpods : forall uid home home', Resides events uid home -> Resides events uid home' ->
      home = home')
    (before rest : List Event) (hsplit : events = before ++ rest) :
    exists v v', run c before {} = some v ∧
      run c (before.filter (Event.isHome events ns)) {} = some v' ∧
      v'.past = v.past.filter (fun r => r.event.isHome events ns) ∧
      (forall i pod, .apply i pod ∈ events -> pod.metadata.ns = some ns ->
        v'.calls i = v.calls i ∧ v'.evaluations i = v.evaluations i) ∧
      v'.launches = v.launches.filter (fun l => l.ns == ns) ∧
      (forall uid, v'.state.marks.get? uid = some ns <-> v.state.marks.get? uid = some ns) ∧
      (forall uid, Resides events uid ns ->
        v'.state.isMarked uid = v.state.isMarked uid) := by
  have horderly : Orderly events := ⟨fun _ _ hmem => applied?_of_mem h hmem, hpods⟩
  rw [hsplit, run_append, Option.bind_eq_some_iff] at h
  rcases h with ⟨v, hv, _⟩
  have hstart : Mirrors events ns {} {} :=
    ⟨rfl, fun i => (ite_self none).symm, rfl, fun uid home => by simp⟩
  rcases hstart.run horderly documented_empty hv
    (fun event hevent => hsplit ▸ List.mem_append_left rest hevent) with
    ⟨v', hv', hmirrors, hdocumented⟩
  refine ⟨v, v', hv, hv', hmirrors.past, ?_, hmirrors.launches hdocumented, ?_, ?_⟩
  · intro i pod hmem hns
    have hhome : isHomeCall events ns i = true := by
      simp [isHomeCall, horderly.applied i pod hmem, hns]
    exact ⟨by rw [hmirrors.calls, if_pos hhome], hmirrors.evaluations hhome⟩
  · intro uid
    rw [hmirrors.marks]
    exact and_iff_left rfl
  · exact fun uid hresides => hmirrors.isMarked horderly hdocumented hresides

/-- A pod of another namespace is evaluated, and a policy of that namespace changes, while
rules are dispatched for a pod. -/
theorem namespaces_apart_web :
    let c : Config := { node := "node" }
    let pod : Pod :=
      { metadata := { uid := some "u", ns := some "default" },
        spec := some { nodeName := some "node" } }
    let other : Pod :=
      { metadata := { uid := some "x", ns := some "other" },
        spec := some { nodeName := some "node" } }
    let policy : Policy := { metadata := { name := some "web", ns := some "default" }, spec := {} }
    let change : Policy := { metadata := { name := some "web", ns := some "other" }, spec := {} }
    let endpoint : EndpointResource :=
      { metadata := { uid := some "e", ns := some "default" },
        spec := { podUid := "u", netns := "/run/netns/pod" } }
    let events : List Event :=
      [.apply 0 pod, .apply 1 other, .move 1 .check, .move 0 .check,
        .move 1 (.ask (.policies "other")), .move 0 (.ask (.policies "default")),
        .policy (.apply change), .move 0 (.receivePolicies (.ok [policy])),
        .move 1 (.receivePolicies (.ok [])), .move 0 (.ask (.endpoints "default")),
        .move 1 .commit, .deletePod other, .move 0 (.receiveEndpoints (.ok [endpoint])),
        .move 0 .commit]
    (events.filter (Event.isHome events "default")).length = 7 ∧
      exists w v, run c events {} = some w ∧
        run c (events.filter (Event.isHome events "default")) {} = some v ∧
        w.launches.length = 1 ∧ w.state.isMarked "u" = true ∧ v.calls 0 = w.calls 0 ∧
        v.evaluations 0 = w.evaluations 0 ∧ v.state.isMarked "u" = w.state.isMarked "u" := by
  intro c pod other policy change endpoint events
  have hend : (run c events {}).map
      (fun w => (w.launches.length, w.state.isMarked "u")) = some (1, true) := by
    decide +kernel
  rcases Option.map_eq_some_iff.mp hend with ⟨w, hw, hpair⟩
  obtain ⟨hlaunches, hmarked⟩ := Prod.mk.inj hpair
  have hpod : forall event, event ∈ events ->
      event.pod? = none ∨ event.pod? = some pod ∨ event.pod? = some other := by
    simp [events, Event.pod?]
  have hresides : forall uid home, Resides events uid home ->
      uid = "u" ∧ home = "default" ∨ uid = "x" ∧ home = "other" := by
    rintro uid home ⟨event, p, hevent, hp, huid, hns⟩
    rcases hpod event hevent with hnone | hsome | hsome <;> rw [hp] at *
    · cases hnone
    · cases hsome
      cases huid
      cases hns
      exact Or.inl ⟨rfl, rfl⟩
    · cases hsome
      cases huid
      cases hns
      exact Or.inr ⟨rfl, rfl⟩
  have hpods : forall uid home home', Resides events uid home -> Resides events uid home' ->
      home = home' := by
    intro uid home home' h h'
    rcases hresides uid home h with ⟨rfl, rfl⟩ | ⟨rfl, rfl⟩ <;>
      rcases hresides _ home' h' with ⟨huid, rfl⟩ | ⟨huid, rfl⟩
    · rfl
    · exact absurd huid (by decide)
    · exact absurd huid (by decide)
    · rfl
  rcases namespaces_apart c "default" events w hw hpods events [] (List.append_nil events).symm with
    ⟨u, v, hu, hv, _, hcalls, _, _, hmarks⟩
  rw [hw] at hu
  cases hu
  rcases hcalls 0 pod List.mem_cons_self rfl with ⟨hcall, hevaluations⟩
  exact ⟨rfl, w, v, hw, hv, hlaunches, hmarked, hcall, hevaluations,
    hmarks "u" ⟨_, pod, List.mem_cons_self, rfl, rfl, rfl⟩⟩

end World

end Controller

end PodIsolation
