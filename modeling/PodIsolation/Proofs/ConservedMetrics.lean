import PodIsolation.Proofs.CounterShares
import PodIsolation.Proofs.DiscardedEvaluations
import PodIsolation.Proofs.EnteredNamespaces

/-!
# Metrics are conserved

## A controller and its threads at rest

Once all calls have returned and all that they dispatched has come to an outcome, the
share of each call in the counters can be read off from what it returned, from what
became of its evaluations, and from how its thread ended.
-/

namespace PodIsolation

namespace Controller

namespace World

variable {c : Config} {w w' : World} {event : Event} {i : Nat}

/-!
# Worlds at rest
-/

/-- Every call has returned, and all that was dispatched has come to an outcome. -/
structure AtRest (w : World) : Prop where
  returned : forall i, w.calls i ≠ none -> w.returned? i ≠ none
  completed : forall i rules, w.returned? i = some (.ok (.provisioning rules)) ->
    w.outcome? i ≠ none

/-- Whether all calls that have begun are at rest. -/
def isAtRest (w : World) : Bool :=
  w.begun.all fun i => (w.returned? i).any fun result => !isDispatch result || (w.outcome? i).isSome

theorem Accounted.atRest (h : w.Accounted) (hrest : w.isAtRest = true) : w.AtRest := by
  have hcalls : forall i, w.calls i ≠ none -> exists result, w.returned? i = some result ∧
      (isDispatch result = true -> w.outcome? i ≠ none) := by
    intro i hi
    have hi := List.all_eq_true.mp hrest i ((h.begun i).mpr hi)
    cases hresult : w.returned? i with
    | none =>
        rw [hresult] at hi
        cases hi
    | some result =>
        refine ⟨result, rfl, fun hdispatch => Option.isSome_iff_ne_none.mp ?_⟩
        simpa [hresult, hdispatch] using hi
  constructor
  · intro i hi hnone
    rcases hcalls i hi with ⟨result, hresult, -⟩
    rw [hnone] at hresult
    cases hresult
  · intro i rules hreturned
    have hi : w.calls i ≠ none := by
      intro hnone
      rw [returned?, hnone] at hreturned
      cases hreturned
    rcases hcalls i hi with ⟨result, hresult, houtcome⟩
    rw [hreturned, Option.some.injEq] at hresult
    exact houtcome (by rw [← hresult]; rfl)

theorem AtRest.counted (h : w.AtRest) (hcall : w.calls i ≠ none) :
    (w.account i).counted = ((w.returned? i).any isConclusion).toNat := by
  obtain ⟨call, hcall⟩ := Option.ne_none_iff_exists'.mp hcall
  obtain ⟨result, hresult⟩ := Option.ne_none_iff_exists'.mp (h.returned i (by simp [hcall]))
  have hreturned : call.returned? = some result := by
    simpa [returned?, hcall] using hresult
  simp only [Account.counted, account, hcall, Option.elim_some, hresult, Option.any_some]
  exact Call.counted_of_returned hreturned

theorem AtRest.dispatched (h : w.AtRest) (haccounted : w.Accounted) (i : Nat) :
    (w.outcome? i).isSome = (w.returned? i).any isDispatch := by
  apply Bool.eq_iff_iff.mpr
  constructor
  · intro houtcome
    rcases Option.isSome_iff_exists.mp houtcome with ⟨o, ho⟩
    exact (haccounted.balanced i).dispatched o ho
  · intro hreturned
    cases hresult : w.returned? i with
    | none =>
        rw [hresult] at hreturned
        cases hreturned
    | some result =>
        rw [hresult, Option.any_some] at hreturned
        unfold isDispatch at hreturned
        split at hreturned
        · exact Option.isSome_iff_ne_none.mpr (h.completed i _ hresult)
        · cases hreturned

/-- Only the call itself learns of the outcome of its dispatch. -/
theorem Steps.completed (h : Steps c w event w') {e : Evaluation} {o : Outcome}
    (hcall : w'.calls i = some (.completed e o)) :
    event = .move i (.complete o) ∨
      (event.call? ≠ some i ∧ w.calls i = some (.completed e o)) := by
  cases hbefore : w.calls i with
  | none =>
      rcases h.begun hbefore hcall with ⟨pod, -, hpod⟩
      rcases Call.ofPod_cases c pod with ⟨d, hofPod, -⟩ | ⟨e, hofPod, -⟩ <;>
        rw [hofPod] at hpod <;> cases hpod
  | some call =>
      rcases h.call hbefore with ⟨hother, hkept⟩ | ⟨m, after, rfl, hmoves, hafter⟩
      · rw [hkept] at hcall
        exact Or.inr ⟨hother, hcall⟩
      · rw [hafter, Option.some.injEq] at hcall
        subst hcall
        rw [hmoves.completed]
        exact Or.inl rfl

end World

end Controller

/-!
# Threads and outcomes
-/

namespace Node

/-- How the thread of a call has ended, if it has. -/
def outcome? (n : Node) (i : Nat) : Option Outcome :=
  match n.threads i with
  | some (.ended o) => some o
  | _ => none

/-- The report of the thread of a call, if there is one. -/
def report? (n : Node) (i : Nat) : Option Report :=
  (n.outcome? i).bind Except.toOption

variable {c : Controller.Config} {n n' : Node} {event : Event} {events : List Event} {i : Nat}

theorem world_advance (n : Node) (event : Controller.Event) (w : Controller.World) :
    (n.advance event w).world = w := by
  unfold advance
  split
  · split <;> rfl
  · rfl

theorem threads_advance_of_ne {event : Controller.Event} {w : Controller.World}
    (hother : event.call? ≠ some i) : (n.advance event w).threads i = n.threads i := by
  unfold advance
  split
  · split
    · exact if_neg fun hij => hother (congrArg some hij.symm)
    · rfl
  · rfl

/-- A thread that has come with an event belongs to a dispatch. -/
theorem launched_of_advance {event : Controller.Event} {w : Controller.World}
    {thread : ProvisioningThread} (h : (n.advance event w).threads i = some thread) :
    n.threads i = some thread ∨ w.Launched i := by
  unfold advance at h
  split at h
  · split at h
    · rename_i j _ l hl
      by_cases hij : i = j
      · right
        rw [hij]
        exact Option.bind_eq_some_iff.mp hl |>.imp fun call hcall => ⟨l, hcall⟩
      · exact Or.inl ((if_neg hij).symm.trans h)
    · exact Or.inl h
  · exact Or.inl h

theorem serve_eq (n : Node) (path : String) (q : FilterCall) (fate : Fate) :
    (n.serve path q fate).world = n.world ∧ (n.serve path q fate).threads = n.threads := by
  unfold serve
  split <;> exact ⟨rfl, rfl⟩

/-- An event of a node is one of its world, or leaves that as it is. -/
theorem Steps.world (h : Steps c n event n') :
    n'.world = n.world ∨ exists e, Controller.World.Steps c n.world e n'.world := by
  cases h with
  | @control event w hworld =>
      right
      rw [world_advance]
      exact ⟨event, hworld⟩
  | finish hworld => exact Or.inr ⟨_, hworld⟩
  | call fate hthread => exact Or.inl (serve_eq n _ _ _).left
  | abandon | enter | obstructed | leave => exact Or.inl rfl

/-- What holds of a world and is preserved by each of its steps holds on a node. -/
theorem run_world {P : Controller.World -> Prop}
    (hstep : forall w event w', P w -> Controller.World.Steps c w event w' -> P w')
    (h : run c events n = some n') (hn : P n.world) : P n'.world := by
  refine run_induction (P := fun n => P n.world) ?_ h hn
  intro n event n' hn hsteps
  rcases hsteps.world with hsame | ⟨e, hworld⟩
  · rw [hsame]
    exact hn
  · exact hstep _ _ _ hn hworld

/-- Threads belong to dispatches, and the outcomes that the controller has learned of
are those of the threads. -/
structure Linked (n : Node) : Prop where
  completed : forall i e o, n.world.calls i = some (.completed e o) ->
    n.threads i = some (.ended o)
  launched : forall i thread, n.threads i = some thread -> n.world.Launched i

theorem linked_start (t : String -> Tables) : Linked { tables := t } where
  completed i e o hcall := by cases hcall
  launched i thread hthread := by cases hthread

theorem Linked.congr (h : n.Linked) (hworld : n'.world = n.world)
    (hthreads : n'.threads = n.threads) : n'.Linked := by
  constructor
  · rw [hworld, hthreads]
    exact h.completed
  · rw [hworld, hthreads]
    exact h.launched

/-- A thread that goes on. -/
theorem Linked.put (h : n.Linked) {old : ProvisioningThread} (hold : n.threads i = some old)
    (hrunning : forall o, old ≠ .ended o) (thread : ProvisioningThread) :
    (n.put i thread).Linked := by
  constructor
  · intro j e o hcall
    have hended := h.completed j e o hcall
    have hij : j ≠ i := by
      rintro rfl
      rw [hold] at hended
      exact hrunning o (Option.some.inj hended)
    exact (if_neg hij).trans hended
  · intro j other hother
    by_cases hij : j = i
    · rw [hij]
      exact h.launched i old hold
    · exact h.launched j other ((if_neg hij).symm.trans hother)

theorem Linked.control (h : n.Linked) {event : Controller.Event} {w : Controller.World}
    (hstep : Controller.World.Steps c n.world event w) (hevent : event.isOutcome = false) :
    (n.advance event w).Linked := by
  constructor
  · intro i e o hcall
    rw [world_advance] at hcall
    rcases hstep.completed hcall with rfl | ⟨hother, hbefore⟩
    · cases hevent
    · rw [threads_advance_of_ne hother]
      exact h.completed i e o hbefore
  · intro i thread hthread
    rw [world_advance]
    rcases launched_of_advance hthread with hbefore | hlaunched
    · exact (h.launched i thread hbefore).step hstep
    · exact hlaunched

theorem Linked.finish (h : n.Linked) {o : Outcome} {w : Controller.World}
    (hthread : n.threads i = some (.ended o))
    (hstep : Controller.World.Steps c n.world (.move i (.complete o)) w) :
    Linked { n with world := w } := by
  constructor
  · intro j e p hcall
    rcases hstep.completed hcall with hown | ⟨-, hbefore⟩
    · cases hown
      exact hthread
    · exact h.completed j e p hbefore
  · exact fun j thread hthread => (h.launched j thread hthread).step hstep

theorem Linked.step (h : n.Linked) (hstep : n.step c event = some n') : n'.Linked := by
  cases event with
  | control event =>
      simp only [Node.step, Option.ite_none_left_eq_some, Option.map_eq_some_iff] at hstep
      rcases hstep with ⟨hevent, w, hw, rfl⟩
      exact h.control (Controller.World.steps_of_step hw) (Bool.eq_false_iff.mpr hevent)
  | finish i =>
      simp only [Node.step] at hstep
      split at hstep
      · rcases Option.map_eq_some_iff.mp hstep with ⟨w, hw, rfl⟩
        exact h.finish ‹_› (Controller.World.steps_of_step hw)
      · cases hstep
  | abandon i cause =>
      cases steps_of_step hstep with
      | abandon cause hthread => exact h.put hthread (fun _ => ProvisioningThread.noConfusion) _
  | enter i obstacle =>
      cases steps_of_step hstep with
      | @enter _ rules hthread =>
          have hentered : Linked { n with entered := rules.netns :: n.entered } := h.congr rfl rfl
          exact hentered.put hthread (fun _ => ProvisioningThread.noConfusion) _
      | obstructed cause hthread => exact h.put hthread (fun _ => ProvisioningThread.noConfusion) _
  | call i fate =>
      cases steps_of_step hstep with
      | @call _ path q next fate hthread =>
          obtain ⟨hworld, hthreads⟩ := serve_eq n path q fate
          have hserved := h.congr hworld hthreads
          exact hserved.put ((congrFun hthreads i).trans hthread)
            (fun _ => ProvisioningThread.noConfusion) _
  | leave i =>
      cases steps_of_step hstep with
      | leave hthread => exact h.put hthread (fun _ => ProvisioningThread.noConfusion) _

theorem Linked.run (h : n.Linked) (hrun : run c events n = some n') : n'.Linked := by
  induction events generalizing n with
  | nil =>
      cases hrun
      exact h
  | cons event rest ih =>
      rcases Option.bind_eq_some_iff.mp hrun with ⟨m, hm, hrest⟩
      exact ih (h.step hm) hrest

/-- The controller has learned only how threads have ended. -/
theorem Linked.ended (h : n.Linked) {o : Outcome} (ho : n.world.outcome? i = some o) :
    n.outcome? i = some o := by
  rcases Option.bind_eq_some_iff.mp ho with ⟨call, hcall, hout⟩
  cases call with
  | completed e p =>
      cases hout
      rw [outcome?, h.completed i e o hcall]
  | refused | active | cancelled => cases hout

/-- At rest, the controller has learned how each thread has ended. -/
theorem Linked.outcome_eq (h : n.Linked) (hrest : n.world.AtRest) (i : Nat) :
    n.outcome? i = n.world.outcome? i := by
  cases hout : n.world.outcome? i with
  | some o => exact h.ended hout
  | none =>
      cases hthread : n.threads i with
      | none => rw [outcome?, hthread]
      | some thread =>
          -- A thread has come with a dispatch, whose outcome would be known.
          rcases h.launched i thread hthread with ⟨call, l, hcall, hl⟩
          have hreturned : n.world.returned? i = some (.ok (.provisioning l.rules)) := by
            rw [Controller.World.returned?, hcall]
            exact Controller.Call.returned?_of_launch? hl
          exact absurd hout (hrest.completed i l.rules hreturned)

theorem accounted_of_run {t : String -> Tables} (h : run c events { tables := t } = some n) :
    n.world.Accounted :=
  run_world (fun _ _ _ hw hstep => hw.step hstep) h Controller.World.accounted_empty

/-!
# Conserved metrics
-/

/-- Whatever happens on a node, once each call has returned and each dispatch has come
to an outcome, the counters are what the calls came to.  An evaluation was counted for
each call that returned a verdict or an error, for each call that found its pod marked
at its commitment, and for each evaluation that was discarded, which happens if and only
if a policy of the namespace has changed since the evaluation began.  Each dispatch
counts as provisioned or as failed, by how its thread has ended, and the rules are those
of the reports. -/
theorem metrics_conserved (c : Controller.Config) (t : String -> Tables) (events : List Event)
    (n : Node) (h : run c events { tables := t } = some n) (hrest : n.world.AtRest) :
    let w := n.world
    let m := w.state.metrics
    m.evaluated = w.number (fun i => (w.returned? i).any Controller.isConclusion) +
      w.number w.overtaken + w.total w.discards ∧
    m.unmanaged = w.number (fun i => (w.returned? i).any Controller.isUnmanaged) ∧
    m.provisioned + m.failed = w.number (fun i => (w.returned? i).any Controller.isDispatch) ∧
    m.failed = w.number (fun i => (n.outcome? i).any Outcome.isFailure) ∧
    m.rulesInstalled = w.total (fun i => (n.report? i).elim 0 Report.installed) ∧
    m.rulesFailed = w.total (fun i => (n.report? i).elim 0 Report.failed) ∧
    Controller.World.Discerning w.past := by
  intro w m
  have haccounted : w.Accounted := accounted_of_run h
  have hdated : w.Dated :=
    run_world (fun _ _ _ hw hstep => hw.step hstep) h Controller.World.dated_empty
  have hlinked : n.Linked := (linked_start t).run h
  have houtcome : forall i, n.outcome? i = w.outcome? i := hlinked.outcome_eq hrest
  simp only [Controller.World.number_eq_total, ← Controller.World.total_add]
  refine ⟨?_, ?_, ?_, ?_, ?_, ?_, hdated.discerning⟩
  · apply haccounted.counter Metrics.evaluated rfl fun _ _ => rfl
    intro i hi
    rw [(haccounted.balanced i).evaluated_share, hrest.counted ((haccounted.begun i).mp hi)]
    rfl
  · apply haccounted.counter Metrics.unmanaged rfl fun _ _ => rfl
    exact fun i _ => (w.account i).unmanaged_share
  · apply haccounted.counter (fun m => m.provisioned + m.failed) rfl
    · intro a b
      simp only [Metrics.provisioned_add, Metrics.failed_add]
      omega
    · intro i _
      rw [← hrest.dispatched haccounted i]
      exact (w.account i).outcome_share.left
  · apply haccounted.counter Metrics.failed rfl fun _ _ => rfl
    intro i _
    rw [houtcome]
    exact (w.account i).outcome_share.right.left
  · apply haccounted.counter Metrics.rulesInstalled rfl fun _ _ => rfl
    intro i _
    rw [report?, houtcome]
    exact (w.account i).outcome_share.right.right.left
  · apply haccounted.counter Metrics.rulesFailed rfl fun _ _ => rfl
    intro i _
    rw [report?, houtcome]
    exact (w.account i).outcome_share.right.right.right

/-- The first call is evaluated twice, as a policy changes meanwhile, and a thread
provisions its pod with one failure.  A second call for the pod is overtaken.  The
others are of another pod whose namespace is missing, of a pod without policies, of
one whose policies cannot be listed, and of a pod of another node. -/
theorem metrics_conserved_with_discarded_evaluation :
    let c : Controller.Config := { node := "node" }
    let pod : String -> String -> Pod := fun uid node =>
      { metadata := { uid := some uid, ns := some "default" },
        spec := some { nodeName := some node } }
    let policy : Policy := { metadata := { name := some "web", ns := some "default" }, spec := {} }
    let endpoint : String -> EndpointResource := fun podUid =>
      { metadata := { uid := some ("e" ++ podUid), ns := some "default" },
        spec := { podUid, netns := "/run/netns/" ++ podUid } }
    let evaluation : Nat -> List Event := fun i =>
      [.control (.move i .check), .control (.move i (.ask (.policies "default"))),
        .control (.move i (.receivePolicies (.ok [policy]))),
        .control (.move i (.ask (.endpoints "default"))),
        .control (.move i (.receiveEndpoints (.ok [endpoint "u", endpoint "v"])))]
    let events : List Event :=
      [.control (.apply 0 (pod "u" "node")), .control (.apply 1 (pod "u" "node")),
        .control (.apply 2 (pod "v" "node")), .control (.apply 3 (pod "w" "node")),
        .control (.apply 4 (pod "w" "node")), .control (.apply 5 (pod "w" "other"))] ++
      evaluation 0 ++ [.control (.policy (.apply policy)), .control (.move 0 .commit)] ++
      evaluation 0 ++ evaluation 1 ++ evaluation 2 ++
      [.control (.move 0 .commit), .control (.move 1 .commit), .control (.move 2 .commit),
        .control (.move 3 .check), .control (.move 3 (.ask (.policies "default"))),
        .control (.move 3 (.receivePolicies (.ok []))), .control (.move 3 .commit),
        .control (.move 4 .check), .control (.move 4 (.ask (.policies "default"))),
        .control (.move 4 (.receivePolicies (.error "unreachable"))),
        .enter 2 (some "no such file"), .enter 0 none, .finish 2] ++
      List.replicate 4 (.call 0 ⟨true, some (.ok false)⟩) ++
      [.call 0 ⟨false, some (.error (.notRun "iptables" "busy"))⟩] ++
      List.replicate 11 (.call 0 ⟨true, some (.ok true)⟩) ++ [.leave 0, .finish 0]
    exists n, run c events { tables := fun _ => {} } = some n ∧ n.world.AtRest ∧
      n.world.state.metrics =
        { evaluated := 6, unmanaged := 1, provisioned := 1, failed := 1, rulesInstalled := 11,
          rulesFailed := 1 } ∧
      n.world.number n.world.overtaken = 1 ∧ n.world.total n.world.discards = 1 ∧
      n.world.number (fun i => (n.world.returned? i).any Controller.isConclusion) = 4 ∧
      Controller.World.Discerning n.world.past := by
  intro c pod policy endpoint evaluation events
  have hend : (run c events { tables := fun _ => {} }).map (fun n => (n.world.isAtRest,
      n.world.state.metrics, n.world.number n.world.overtaken, n.world.total n.world.discards)) =
        some (true,
          { evaluated := 6, unmanaged := 1, provisioned := 1, failed := 1, rulesInstalled := 11,
            rulesFailed := 1 }, 1, 1) := by
    decide +kernel
  rcases Option.map_eq_some_iff.mp hend with ⟨n, hn, hresult⟩
  simp only [Prod.mk.injEq] at hresult
  obtain ⟨hrest, hmetrics, hovertaken, hdiscards⟩ := hresult
  have hatRest : n.world.AtRest := (accounted_of_run hn).atRest hrest
  obtain ⟨hevaluated, -, -, -, -, -, hdiscerning⟩ :=
    metrics_conserved c (fun _ => {}) events n hn hatRest
  refine ⟨n, hn, hatRest, hmetrics, hovertaken, hdiscards, ?_, hdiscerning⟩
  simp only [hovertaken, hdiscards, hmetrics] at hevaluated
  omega

end Node

end PodIsolation
