import PodIsolation.Proofs.ListingRequests
import PodIsolation.Proofs.MarkHistory
import PodIsolation.Rehearsal.Cluster

/-!
# Rehearsals of the controller

## Scenes follow schedules

A scene brings an evaluation to its end by recursion, and while a listing is
answered it takes the steps of interludes, which may evaluate pods themselves.  A
schedule takes the same steps one by one, with a call for each evaluation.  So
whatever a scene plays is what some schedule leads to, and what holds after all
schedules holds in all scenes.
-/

namespace PodIsolation

/-!
# Watches
-/

/-- What the handler preserves holds at the end of a watch. -/
theorem watch_preserves {S T : Type} {handle : S -> Delivery T -> S} (P : S -> Prop)
    (hhandle : forall s d, P s -> P (handle s d)) {s : S} (hs : P s)
    (notices : List (Notice T)) : P (watch handle s notices).state := by
  induction notices generalizing s with
  | nil => exact hs
  | cons n rest ih =>
      simp only [watch]
      cases n.reaction with
      | deliver d => exact ih (hhandle s d hs)
      | pass => exact ih hs
      | fail e => exact hs

namespace Controller

namespace World

variable {c : Config} {w w' v : World} {event : Event} {own : Option Nat} {i : Nat}

/-!
# Going on
-/

/-- From some number on, no number belongs to a call. -/
def HasRoom (w : World) : Prop :=
  exists n, forall i, n ≤ i -> w.calls i = none

theorem HasRoom.step (h : w.HasRoom) (hstep : Steps c w event w') : w'.HasRoom := by
  rcases h with ⟨n, hn⟩
  cases hstep with
  | apply i pod hfree =>
      refine ⟨max n (i + 1), ?_⟩
      intro j hj
      have hji : j ≠ i := by omega
      simp [put, hji, hn j (by omega)]
  | @move i m call after state hcall hmoves =>
      refine ⟨n, ?_⟩
      intro j hj
      have hji : j ≠ i := by
        rintro rfl
        rw [hn j hj] at hcall
        cases hcall
      simp [put, hji, hn j hj]
  | deletePod pod => exact ⟨n, hn⟩
  | policy d => exact ⟨n, hn⟩

/-- Some schedule leads to the world. -/
def Reached (c : Config) (w : World) : Prop :=
  exists events, run c events {} = some w

theorem Reached.exists_free (h : Reached c w) : exists i, w.calls i = none := by
  rcases h with ⟨events, hrun⟩
  have hroom : w.HasRoom :=
    run_induction (fun _ _ _ hw hstep => hw.step hstep) hrun ⟨0, fun _ _ => rfl⟩
  rcases hroom with ⟨n, hn⟩
  exact ⟨n, hn n (Nat.le_refl n)⟩

/-- A schedule leads on to the other world.  Of the calls that were there, at most
the given one has moved. -/
structure Continues (c : Config) (own : Option Nat) (w w' : World) : Prop where
  schedule : exists events, run c events w = some w'
  others : forall i call, some i ≠ own -> w.calls i = some call -> w'.calls i = some call

theorem Continues.refl : Continues c own w w :=
  ⟨⟨[], rfl⟩, fun _ _ _ hcall => hcall⟩

theorem Continues.trans (h : Continues c own w v) (hrest : Continues c own v w') :
    Continues c own w w' := by
  constructor
  · rcases h.schedule with ⟨events, hrun⟩
    rcases hrest.schedule with ⟨later, hlater⟩
    exact ⟨events ++ later, by rw [run_append, hrun]; exact hlater⟩
  · exact fun i call hi hcall => hrest.others i call hi (h.others i call hi hcall)

theorem Continues.reached (h : Continues c own w w') (hreached : Reached c w) :
    Reached c w' := by
  rcases hreached with ⟨events, hrun⟩
  rcases h.schedule with ⟨later, hlater⟩
  exact ⟨events ++ later, by rw [run_append, hrun]; exact hlater⟩

theorem Continues.past (h : Continues c own w w') {r : Record} (hr : r ∈ w.past) :
    r ∈ w'.past := by
  rcases h.schedule with ⟨events, hrun⟩
  refine run_induction (P := fun v => r ∈ v.past) ?_ hrun hr
  intro v event v' hv hstep
  rcases hstep.past with ⟨r', _, hpast⟩
  rw [hpast]
  exact List.mem_cons_of_mem r' hv

/-- What leaves all calls alone leaves the others alone. -/
theorem Continues.any (h : Continues c none w w') : Continues c own w w' :=
  ⟨h.schedule, fun i call _ hcall => h.others i call (Option.some_ne_none i) hcall⟩

theorem Continues.of_free (h : Continues c (some i) w w') (hfree : w.calls i = none) :
    Continues c none w w' := by
  refine ⟨h.schedule, ?_⟩
  intro j call _ hcall
  apply h.others j call _ hcall
  rintro ⟨rfl⟩
  rw [hfree] at hcall
  cases hcall

theorem Continues.of_step (event : Event) (h : w.step c event = some w')
    (hcall : event.call? = own) : Continues c own w w' := by
  refine ⟨⟨[event], by simp [run, h]⟩, ?_⟩
  intro j call hj hold
  have hother : event.call? ≠ some j := fun heq => hj (heq.symm.trans hcall)
  cases steps_of_step h with
  | apply i pod hfree | move i hcall hmoves =>
      have hji : j ≠ i := fun heq => hother (congrArg some heq.symm)
      simpa [put, hji] using hold
  | deletePod pod => exact hold
  | policy d => exact hold

/-- Some schedule leads to the world, which is then in the state. -/
structure Attains (c : Config) (w : World) (state : State) : Prop where
  state_eq : w.state = state
  reached : Reached c w

variable {state state' : State}

theorem attains_empty (c : Config) : Attains c {} {} :=
  ⟨rfl, [], rfl⟩

theorem Attains.move (h : w.Attains c state) {call after : Call} {m : Move}
    (hcall : w.calls i = some call) (hstep : call.step c.mode state m = some (state', after)) :
    exists w', Continues c (some i) w w' ∧ w'.Attains c state' ∧ w'.calls i = some after ∧
      w'.requests = w.requests ++ (Event.move i m).request?.toList := by
  rw [← h.state_eq] at hstep
  have htaken : w.step c (.move i m) = some (w.put (.move i m) i state' after) := by
    simp [step, hcall, hstep]
  have hlater := Continues.of_step (.move i m) htaken rfl
  exact ⟨_, hlater, ⟨rfl, hlater.reached h.reached⟩, if_pos rfl, (steps_of_step htaken).requests⟩

theorem Attains.apply (h : w.Attains c state) (pod : Pod) :
    exists i w', w.calls i = none ∧ Continues c (some i) w w' ∧ w'.Attains c state ∧
      w'.calls i = some (.ofPod c pod) ∧ w'.requests = w.requests ∧
      exists r, r ∈ w'.past ∧ r.event = .apply i pod := by
  rcases h.reached.exists_free with ⟨i, hfree⟩
  have hlater : Continues c (some i) w (w.put (.apply i pod) i w.state (.ofPod c pod)) :=
    .of_step (.apply i pod) (by simp [step, hfree]) rfl
  exact ⟨i, _, hfree, hlater, ⟨h.state_eq, hlater.reached h.reached⟩, if_pos rfl, rfl,
    _, List.mem_cons_self, rfl⟩

theorem Attains.deletePod (h : w.Attains c state) (pod : Pod) :
    exists w', Continues c none w w' ∧ w'.Attains c (state.podDeleted pod) ∧
      w'.requests = w.requests := by
  have hlater : Continues c none w _ := .of_step (.deletePod pod) rfl rfl
  exact ⟨_, hlater, ⟨congrArg (State.podDeleted · pod) h.state_eq, hlater.reached h.reached⟩, rfl⟩

theorem Attains.policy (h : w.Attains c state) (d : Delivery Policy) :
    exists w', Continues c none w w' ∧ w'.Attains c (handlePolicy state d) ∧
      w'.requests = w.requests := by
  have hlater : Continues c none w _ := .of_step (.policy d) rfl rfl
  exact ⟨_, hlater, ⟨congrArg (handlePolicy · d) h.state_eq, hlater.reached h.reached⟩, rfl⟩

theorem Attains.watch (h : w.Attains c state) (notices : List (Notice Policy)) :
    exists w', Continues c none w w' ∧ w'.Attains c (watch handlePolicy state notices).state := by
  apply watch_preserves (fun state => exists w', Continues c none w w' ∧ w'.Attains c state)
  · rintro state d ⟨v, hv, hattains⟩
    rcases hattains.policy d with ⟨w', hw, hend, -⟩
    exact ⟨w', hv.trans hw, hend⟩
  · exact ⟨w, .refl, h⟩

end World

end Controller

/-!
# Scenes
-/

namespace Rehearsal

open Controller (Config Call State World)
open Controller.World (Continues Reached)

/-- What a call returned, if the result is that of a call. -/
def Result.returned? : Result -> Option (Except String Controller.Dispatch)
  | .dispatched d => some (.ok d)
  | .failed message => some (.error message)
  | _ => none

/-- The result is what a call for the pod returned. -/
def Result.Answers (result : Result) (pod : Pod) (w : World) : Prop :=
  forall x, result.returned? = some x -> exists i r, r ∈ w.past ∧ r.event = .apply i pod ∧
    (w.calls i).bind Call.returned? = some x

namespace Scene

/-- The controller of a scene is in the state that a schedule has led to. -/
structure Follows (c : Config) (s : Scene) (w : World) : Prop where
  config : s.config = c
  attains : w.Attains c s.controller

variable {c : Config} {s : Scene} {w : World} {i fuel : Nat}

theorem Follows.congr (h : s.Follows c w) {s' : Scene} (hconfig : s'.config = s.config)
    (hcontroller : s'.controller = s.controller) : s'.Follows c w :=
  ⟨hconfig.trans h.config, hcontroller ▸ h.attains⟩

theorem result_report (s : Scene) (result : Result) : (s.report result).2.result = result := by
  unfold Scene.report
  split <;> rfl

theorem Follows.report (h : s.Follows c w) (result : Result) :
    (s.report result).1.Follows c w := by
  unfold Scene.report
  split
  · exact h
  · exact h.congr rfl rfl

theorem Follows.move (h : s.Follows c w) {call after : Call} {m : Controller.Move}
    {state : State} (hcall : w.calls i = some call)
    (hstep : call.step c.mode s.controller m = some (state, after)) :
    exists w', Continues c (some i) w w' ∧ Follows c { s with controller := state } w' ∧
      w'.calls i = some after := by
  rcases h.attains.move hcall hstep with ⟨w', hw, hattains, hafter, -⟩
  exact ⟨w', hw, ⟨h.config, hattains⟩, hafter⟩

theorem Follows.deletePod (h : s.Follows c w) (pod : Pod) :
    exists w', Continues c none w w' ∧
      Follows c { s with controller := s.controller.podDeleted pod } w' := by
  rcases h.attains.deletePod pod with ⟨w', hw, hattains, -⟩
  exact ⟨w', hw, h.config, hattains⟩

/-- What the functions of a scene do with so much fuel has a schedule. -/
structure Scheduled (c : Config) (fuel : Nat) : Prop where
  interludes : forall listing s w, Follows c s w ->
    exists w', Continues c none w w' ∧ (runInterludes fuel listing s).Follows c w'
  asides : forall steps s w, Follows c s w ->
    exists w', Continues c none w w' ∧ (runAsides fuel steps s).Follows c w'
  evaluation : forall e s w i, Follows c s w -> w.calls i = some (.active e false) ->
    exists w', Continues c (some i) w w' ∧ (evaluate fuel e s).1.Follows c w' ∧
      forall x, (evaluate fuel e s).2.returned? = some x ->
        (w'.calls i).bind Call.returned? = some x
  application : forall pod s w, Follows c s w ->
    exists w', Continues c none w w' ∧ (applyPod fuel pod s).1.Follows c w' ∧
      (applyPod fuel pod s).2.Answers pod w'
  watching : forall notices s w, Follows c s w ->
    exists w', Continues c none w w' ∧ (watchPods fuel notices s).1.Follows c w'
  performance : forall step s w, Follows c s w ->
    exists w', Continues c none w w' ∧ (perform fuel step s).1.Follows c w'

theorem scheduled_zero (c : Config) : Scheduled c 0 where
  interludes _ s w h := ⟨w, .refl, h⟩
  asides _ s w h := ⟨w, .refl, h⟩
  evaluation _ s w i h _ := ⟨w, .refl, h, fun _ hx => by cases hx⟩
  application _ s w h := ⟨w, .refl, h, fun _ hx => by cases hx⟩
  watching _ s w h := ⟨w, .refl, h⟩
  performance _ s w h := ⟨w, .refl, h⟩

namespace Scheduled

theorem runInterludes_succ (ih : Scheduled c fuel) (listing : Listing) (h : s.Follows c w) :
    exists w', Continues c none w w' ∧ (runInterludes (fuel + 1) listing s).Follows c w' := by
  unfold runInterludes
  cases s.nextInterlude listing with
  | none => exact ⟨w, .refl, h⟩
  | some next =>
      have hrest : Follows c { s with interludes := next.2 } w := h.congr rfl rfl
      rcases ih.asides next.1.steps _ w hrest with ⟨v, hv, hasides⟩
      rcases ih.interludes listing _ v hasides with ⟨w', hw, hend⟩
      exact ⟨w', hv.trans hw, hend⟩

theorem runAsides_succ (ih : Scheduled c fuel) (steps : List Step) (h : s.Follows c w) :
    exists w', Continues c none w w' ∧ (runAsides (fuel + 1) steps s).Follows c w' := by
  unfold runAsides
  cases steps with
  | nil => exact ⟨w, .refl, h⟩
  | cons step rest =>
      rcases ih.performance step s w h with ⟨v, hv, hperformed⟩
      let reported := (perform fuel step s).1.report (perform fuel step s).2
      have hreported : Follows c { reported.1 with asides := reported.1.asides ++ [reported.2] } v :=
        (hperformed.report _).congr rfl rfl
      rcases ih.asides rest _ v hreported with ⟨w', hw, hend⟩
      exact ⟨w', hv.trans hw, hend⟩

/-- A listing is asked for, and the evaluation goes on with the answer after what
was played in the meantime. -/
theorem evaluation_of_answer (ih : Scheduled c fuel) {e e' : Controller.Evaluation}
    {s' : Scene} {m : Controller.Move} (h : s.Follows c w)
    {q : ListRequest} (hcall : w.calls i = some (.active e false)) (hrequest : e.request? = some q)
    (hplayed : forall v, s.Follows c v -> exists v', Continues c none v v' ∧ s'.Follows c v')
    (hreceive : forall state : State,
      (Call.active e true).step c.mode state m = some (state, .active e' false)) :
    exists w', Continues c (some i) w w' ∧ (evaluate fuel e' s').1.Follows c w' ∧
      forall x, (evaluate fuel e' s').2.returned? = some x ->
        (w'.calls i).bind Call.returned? = some x := by
  rcases h.move hcall (Call.step_ask hrequest _) with ⟨asked, hasked, hfollows, hwaiting⟩
  rcases hplayed asked hfollows with ⟨played, hlater, hfollows'⟩
  -- What was played has left this call waiting.
  have hkept := hlater.others i _ (Option.some_ne_none i) hwaiting
  rcases hfollows'.move hkept (hreceive s'.controller) with ⟨got, hgot, hreceived, hnext⟩
  rcases ih.evaluation _ _ got i hreceived hnext with ⟨w', hw, hend⟩
  exact ⟨w', hasked.trans (hlater.any.trans (hgot.trans hw)), hend⟩

theorem evaluate_succ (ih : Scheduled c fuel) (e : Controller.Evaluation) (h : s.Follows c w)
    (hcall : w.calls i = some (.active e false)) :
    exists w', Continues c (some i) w w' ∧ (evaluate (fuel + 1) e s).1.Follows c w' ∧
      forall x, (evaluate (fuel + 1) e s).2.returned? = some x ->
        (w'.calls i).bind Call.returned? = some x := by
  unfold evaluate
  cases hphase : e.phase with
  | start =>
      rcases h.move hcall (Call.step_check hphase _) with ⟨v, hv, hchecked, hnext⟩
      rcases ih.evaluation _ _ v i hchecked hnext with ⟨w', hw, hend⟩
      exact ⟨w', hv.trans hw, hend⟩
  | awaitingPolicies generation =>
      have hrequest := Controller.Evaluation.request?_of_awaitingPolicies hphase
      dsimp only
      cases s.listPolicies e.policiesRequest.ns with
      | error message =>
          exact ih.evaluation_of_answer h hcall hrequest (fun v hv => ⟨v, .refl, hv⟩)
            (Call.step_receivePolicies hphase (.error message))
      | ok listed =>
          exact ih.evaluation_of_answer h hcall hrequest (ih.interludes .policies s)
            (Call.step_receivePolicies hphase (.ok listed))
  | awaitingEndpoints generation applicable =>
      have hrequest := Controller.Evaluation.request?_of_awaitingEndpoints hphase
      rw [h.config]
      dsimp only
      cases s.listEndpoints e.endpointsRequest.ns with
      | error message =>
          exact ih.evaluation_of_answer h hcall hrequest (fun v hv => ⟨v, .refl, hv⟩)
            (Call.step_receiveEndpoints hphase (.error message))
      | ok listed =>
          exact ih.evaluation_of_answer h hcall hrequest (ih.interludes .endpoints s)
            (Call.step_receiveEndpoints hphase (.ok listed))
  | judged generation verdict =>
      rcases h.move hcall (Call.step_commit hphase _) with ⟨v, hv, hcommitted, hnext⟩
      rcases ih.evaluation _ _ v i hcommitted hnext with ⟨w', hw, hend⟩
      exact ⟨w', hv.trans hw, hend⟩
  | ended result =>
      have hreturned : (w.calls i).bind Call.returned? = some result := by
        simp [hcall, Call.returned?, Controller.Evaluation.result?, hphase]
      dsimp only
      cases result with
      | error message =>
          refine ⟨w, .refl, h, ?_⟩
          rintro x ⟨rfl⟩
          exact hreturned
      | ok d =>
          cases d with
          | provisioning rules =>
              let outcome := (Kernel.host.provisionApart s.kernel rules).2
              rcases h.move hcall (Call.step_complete hphase outcome _) with
                ⟨w', hw, hcompleted, hnext⟩
              refine ⟨w', hw, hcompleted.congr rfl rfl, ?_⟩
              rintro x ⟨rfl⟩
              simp [hnext, Call.returned?, Controller.Evaluation.result?, hphase]
          | _ =>
              refine ⟨w, .refl, h, ?_⟩
              rintro x ⟨rfl⟩
              exact hreturned

theorem applyPod_succ (ih : Scheduled c fuel) (pod : Pod) (h : s.Follows c w) :
    exists w', Continues c none w w' ∧ (applyPod (fuel + 1) pod s).1.Follows c w' ∧
      (applyPod (fuel + 1) pod s).2.Answers pod w' := by
  rcases h.attains.apply pod with ⟨i, v, hfree, hv, hattains, hcall, -, r, hr, happly⟩
  have hfollows : s.Follows c v := ⟨h.config, hattains⟩
  unfold applyPod
  rw [h.config]
  unfold Call.ofPod at hcall
  cases hadmitted : Controller.admission c pod with
  | error d =>
      rw [hadmitted] at hcall
      refine ⟨v, hv.of_free hfree, hfollows, ?_⟩
      rintro x ⟨rfl⟩
      exact ⟨i, r, hr, happly, by rw [hcall]; rfl⟩
  | ok e =>
      rw [hadmitted] at hcall
      rcases ih.evaluation e s v i hfollows hcall with ⟨w', hw, hend, hreturned⟩
      refine ⟨w', (hv.trans hw).of_free hfree, hend, ?_⟩
      exact fun x hx => ⟨i, r, hw.past hr, happly, hreturned x hx⟩

theorem watchPods_succ (ih : Scheduled c fuel) (notices : List (Notice Pod))
    (h : s.Follows c w) :
    exists w', Continues c none w w' ∧ (watchPods (fuel + 1) notices s).1.Follows c w' := by
  unfold watchPods
  cases notices with
  | nil => exact ⟨w, .refl, h⟩
  | cons n rest =>
      dsimp only
      cases n.reaction with
      | deliver d =>
          cases d with
          | apply pod =>
              rcases ih.application pod s w h with ⟨v, hv, happlied, _⟩
              rcases ih.watching rest _ v happlied with ⟨w', hw, hend⟩
              exact ⟨w', hv.trans hw, hend⟩
          | delete pod =>
              rcases h.deletePod pod with ⟨v, hv, hdeleted⟩
              rcases ih.watching rest _ v hdeleted with ⟨w', hw, hend⟩
              exact ⟨w', hv.trans hw, hend⟩
      | pass => exact ih.watching rest s w h
      | fail e => exact ⟨w, .refl, h⟩

theorem perform_succ (ih : Scheduled c fuel) (step : Step) (h : s.Follows c w) :
    exists w', Continues c none w w' ∧ (perform (fuel + 1) step s).1.Follows c w' := by
  unfold perform
  cases step with
  | applyPod pod =>
      rcases ih.application pod s w h with ⟨w', hw, hend, _⟩
      exact ⟨w', hw, hend⟩
  | deletePod pod => exact h.deletePod pod
  | changePolicy p =>
      rcases h.attains.policy (.apply p) with ⟨w', hw, hattains, -⟩
      exact ⟨w', hw, h.config, hattains⟩
  | watchPods notices => exact ih.watching notices s w h
  | watchPolicies notices =>
      rcases h.attains.watch notices with ⟨w', hw, hattains⟩
      exact ⟨w', hw, h.config, hattains⟩
  | _ => exact ⟨w, .refl, h.congr rfl rfl⟩

end Scheduled

theorem scheduled (c : Config) (fuel : Nat) : Scheduled c fuel := by
  induction fuel with
  | zero => exact scheduled_zero c
  | succ fuel ih =>
      constructor
      · exact fun listing _ _ h => ih.runInterludes_succ listing h
      · exact fun steps _ _ h => ih.runAsides_succ steps h
      · exact fun e _ _ _ h hcall => ih.evaluate_succ e h hcall
      · exact fun pod _ _ h => ih.applyPod_succ pod h
      · exact fun notices _ _ h => ih.watchPods_succ notices h
      · exact fun step _ _ h => ih.perform_succ step h

/-- A step that a scene plays has a schedule, its interludes included.  What
applying a pod comes to is what a call for the pod returns. -/
theorem Follows.play (h : s.Follows c w) (step : Step) (interludes : List Interlude) :
    exists w', Continues c none w w' ∧ (s.play step interludes).1.Follows c w' ∧
      forall pod, step = .applyPod pod ->
        (s.play step interludes).2.1.result.Answers pod w' := by
  let ready : Scene := { s with interludes, asides := [] }
  have hready : ready.Follows c w := h.congr rfl rfl
  have hplayed : exists w', Continues c none w w' ∧
      (perform (bound step interludes) step ready).1.Follows c w' ∧
      forall pod, step = .applyPod pod ->
        (perform (bound step interludes) step ready).2.Answers pod w' := by
    cases bound step interludes with
    | zero => exact ⟨w, .refl, hready, fun _ _ _ hx => by cases hx⟩
    | succ fuel =>
        cases step with
        | applyPod pod =>
            rcases (scheduled c fuel).application pod ready w hready with ⟨w', hw, hend, hanswers⟩
            refine ⟨w', hw, hend, ?_⟩
            rintro _ ⟨rfl⟩
            exact hanswers
        | _ =>
            rcases (scheduled c (fuel + 1)).performance _ ready w hready with ⟨w', hw, hend⟩
            exact ⟨w', hw, hend, fun _ heq => by cases heq⟩
  rcases hplayed with ⟨w', hw, hend, hanswers⟩
  let played := perform (bound step interludes) step ready
  have hclosed : Follows c { played.1 with interludes := [], asides := [] } w' :=
    hend.congr rfl rfl
  refine ⟨w', hw, hclosed.report played.2, ?_⟩
  intro pod hstep
  unfold Scene.play
  dsimp only
  rw [result_report]
  exact hanswers pod hstep

theorem Follows.plays (h : s.Follows c w) (plays : List (Step × List Interlude)) :
    exists w', Continues c none w w' ∧
      (plays.foldl (fun s p => (s.play p.1 p.2).1) s).Follows c w' := by
  induction plays generalizing s w with
  | nil => exact ⟨w, .refl, h⟩
  | cons p rest ih =>
      rcases h.play p.1 p.2 with ⟨v, hv, hplayed, _⟩
      rcases ih hplayed with ⟨w', hw, hend⟩
      exact ⟨w', hv.trans hw, hend⟩

/-- Whatever is played with a new controller has a schedule. -/
theorem exists_schedule (hnew : s.controller = {}) (plays : List (Step × List Interlude)) :
    exists events w, World.run s.config events {} = some w ∧
      w.state = (plays.foldl (fun s p => (s.play p.1 p.2).1) s).controller := by
  have hstart : s.Follows s.config {} := ⟨rfl, hnew ▸ World.attains_empty s.config⟩
  rcases hstart.plays plays with ⟨w, _, hend⟩
  rcases hend.attains.reached with ⟨events, hrun⟩
  exact ⟨events, w, hrun, hend.attains.state_eq⟩

/-- The marks of a scene tell of dispatches. -/
theorem Follows.isMarked_iff (h : s.Follows c w) (uid : String) :
    s.controller.isMarked uid = true <-> exists ns, Controller.Standing uid ns w.past := by
  rcases h.attains.reached with ⟨events, hrun⟩
  rw [← h.attains.state_eq]
  exact (World.exact_of_run hrun).isMarked_iff uid

end Scene

end Rehearsal

end PodIsolation
