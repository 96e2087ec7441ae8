import PodIsolation.Controller.Basic

/-!
# Runs of the controller

## Calls side by side

Any number of calls that apply pods are under way, and each stands somewhere in
its evaluation.  A call takes one step at a time, and each step reads or writes
the state in one piece.  Between two steps of a call there may be steps of other
calls, deletions of pods and events of policies, in any order.  A listing is
asked for in one step, by a request that names its kind and its namespace, and
arrives in a later one, as whatever the cluster holds then or as an error.  A call
can be cancelled while it waits for a listing.

A schedule is a list of events.  The world after a schedule holds a record of
all that happened, with the latest event first.
-/

namespace PodIsolation

namespace Controller

/-!
# Calls
-/

/-- A call that applies a pod. -/
inductive Call where
  /-- It returned before any evaluation. -/
  | refused (d : Dispatch)
  /-- Its evaluation is under way or has ended.  If it waits for a listing, the
  listing may have been asked for. -/
  | active (e : Evaluation) (asked : Bool)
  | cancelled (e : Evaluation)
  /-- It dispatched rules, and their provisioning has come to an outcome. -/
  | completed (e : Evaluation) (o : Outcome)

/-- The call as it begins. -/
def Call.ofPod (c : Config) (pod : Pod) : Call :=
  match admission c pod with
  | .ok e => .active e false
  | .error d => .refused d

/-- A pod is refused, or its evaluation begins. -/
theorem admission_cases (c : Config) (pod : Pod) :
    (pod.nodeName ≠ some c.node ∧ admission c pod = .error .otherNode) ∨
    (pod.nodeName = some c.node ∧ (pod.metadata.uid = none ∨ pod.metadata.ns = none) ∧
      admission c pod = .error .incomplete) ∨
    (pod.nodeName = some c.node ∧ exists uid ns, pod.metadata.uid = some uid ∧
      pod.metadata.ns = some ns ∧ admission c pod = .ok { labels := pod.labels, uid, ns }) := by
  unfold admission
  by_cases hnode : pod.nodeName = some c.node
  · right
    rw [if_neg (not_not_intro hnode)]
    cases huid : pod.metadata.uid with
    | none => exact Or.inl ⟨hnode, Or.inl rfl, rfl⟩
    | some uid =>
        cases hns : pod.metadata.ns with
        | none => exact Or.inl ⟨hnode, Or.inr rfl, rfl⟩
        | some ns => exact Or.inr ⟨hnode, uid, ns, rfl, rfl, rfl⟩
  · left
    rw [if_pos hnode]
    exact ⟨hnode, rfl⟩

/-- A step of a call. -/
inductive Move where
  | check
  | ask (q : ListRequest)
  | receivePolicies (listed : Except String (List Policy))
  | receiveEndpoints (listed : Except String (List EndpointResource))
  | commit
  | cancel
  | complete (o : Outcome)

/-- The evaluation waits for a listing. -/
def Phase.isAwaiting : Phase -> Bool
  | .awaitingPolicies _ => true
  | .awaitingEndpoints _ _ => true
  | _ => false

theorem Evaluation.request?_of_awaitingPolicies {e : Evaluation} {generation : Nat}
    (h : e.phase = .awaitingPolicies generation) : e.request? = some e.policiesRequest := by
  simp [Evaluation.request?, h]

theorem Evaluation.request?_of_awaitingEndpoints {e : Evaluation} {generation : Nat}
    {applicable : List Policy} (h : e.phase = .awaitingEndpoints generation applicable) :
    e.request? = some e.endpointsRequest := by
  simp [Evaluation.request?, h]

/-- The state and the call after a step, if the call can take it. -/
def Call.step (mode : EntryMode) (s : State) : Call -> Move -> Option (State × Call)
  | .active e asked, m =>
      match e.phase, asked, m with
      | .start, false, .check => some ((e.check s).1, .active (e.check s).2 false)
      | _, false, .ask q => if e.request? = some q then some (s, .active e true) else none
      | .awaitingPolicies generation, true, .receivePolicies listed =>
          some (s, .active (e.receivePolicies generation listed) false)
      | .awaitingEndpoints generation applicable, true, .receiveEndpoints listed =>
          some (s, .active (e.receiveEndpoints mode generation applicable listed) false)
      | .judged generation verdict, false, .commit =>
          some ((e.commit s generation verdict).1,
            .active (e.commit s generation verdict).2 false)
      | .ended (.ok (.provisioning _)), false, .complete o =>
          some (s.countOutcome o, .completed e o)
      | phase, _, .cancel => if phase.isAwaiting then some (s, .cancelled e) else none
      | _, _, _ => none
  | _, _ => none

/-- All that a step of a call can come to. -/
inductive Call.Moves (mode : EntryMode) (s : State) :
    Call -> Move -> State -> Call -> Prop where
  | leave {e : Evaluation} : e.phase = .start -> s.isMarked e.uid = true ->
      Moves mode s (.active e false) .check s
        (.active (e.goto (.ended (.ok .alreadyProvisioned))) false)
  | evaluate {e : Evaluation} : e.phase = .start -> s.isMarked e.uid = false ->
      Moves mode s (.active e false) .check { s with metrics := s.metrics.countEvaluated }
        (.active (e.goto (.awaitingPolicies (s.generation e.ns))) false)
  | askPolicies {e : Evaluation} {generation : Nat} :
      e.phase = .awaitingPolicies generation ->
      Moves mode s (.active e false) (.ask (.policies e.ns)) s (.active e true)
  | policiesFailed {e : Evaluation} {generation : Nat} (message : String) :
      e.phase = .awaitingPolicies generation ->
      Moves mode s (.active e true) (.receivePolicies (.error message)) s
        (.active (e.goto (.ended (.error message))) false)
  | policiesNone {e : Evaluation} {generation : Nat} {policies : List Policy} :
      e.phase = .awaitingPolicies generation ->
      (PolicyIndex.ofList policies).applicable e.labels = [] ->
      Moves mode s (.active e true) (.receivePolicies (.ok policies)) s
        (.active (e.goto (.judged generation .unmanaged)) false)
  | policiesSome {e : Evaluation} {generation : Nat} {policies : List Policy} :
      e.phase = .awaitingPolicies generation ->
      (PolicyIndex.ofList policies).applicable e.labels ≠ [] ->
      Moves mode s (.active e true) (.receivePolicies (.ok policies)) s
        (.active (e.goto (.awaitingEndpoints generation
          ((PolicyIndex.ofList policies).applicable e.labels))) false)
  | askEndpoints {e : Evaluation} {generation : Nat} {applicable : List Policy} :
      e.phase = .awaitingEndpoints generation applicable ->
      Moves mode s (.active e false) (.ask (.endpoints e.ns)) s (.active e true)
  | endpointsFailed {e : Evaluation} {generation : Nat} {applicable : List Policy}
      (message : String) : e.phase = .awaitingEndpoints generation applicable ->
      Moves mode s (.active e true) (.receiveEndpoints (.error message)) s
        (.active (e.goto (.ended (.error message))) false)
  | endpoints {e : Evaluation} {generation : Nat} {applicable : List Policy}
      (listed : List EndpointResource) :
      e.phase = .awaitingEndpoints generation applicable ->
      Moves mode s (.active e true) (.receiveEndpoints (.ok listed)) s
        (.active (e.goto (.judged generation (judge mode e.uid applicable listed))) false)
  | stale {e : Evaluation} {generation : Nat} {verdict : Verdict} :
      e.phase = .judged generation verdict -> s.generation e.ns ≠ generation ->
      Moves mode s (.active e false) .commit s (.active (e.goto .start) false)
  | unmanaged {e : Evaluation} : e.phase = .judged (s.generation e.ns) .unmanaged ->
      Moves mode s (.active e false) .commit { s with metrics := s.metrics.countUnmanaged }
        (.active (e.goto (.ended (.ok .unmanaged))) false)
  | noEndpoints {e : Evaluation} : e.phase = .judged (s.generation e.ns) .noEndpoints ->
      Moves mode s (.active e false) .commit s
        (.active (e.goto (.ended (.ok .noEndpoints))) false)
  | overtaken {e : Evaluation} {rules : RuleSet} :
      e.phase = .judged (s.generation e.ns) (.compiled rules) -> s.isMarked e.uid = true ->
      Moves mode s (.active e false) .commit s
        (.active (e.goto (.ended (.ok .alreadyProvisioned))) false)
  | dispatch {e : Evaluation} {rules : RuleSet} :
      e.phase = .judged (s.generation e.ns) (.compiled rules) -> s.isMarked e.uid = false ->
      Moves mode s (.active e false) .commit (s.mark e.uid e.ns)
        (.active (e.goto (.ended (.ok (.provisioning rules)))) false)
  | cancel {e : Evaluation} {asked : Bool} : e.phase.isAwaiting = true ->
      Moves mode s (.active e asked) .cancel s (.cancelled e)
  | complete {e : Evaluation} {rules : RuleSet} (o : Outcome) :
      e.phase = .ended (.ok (.provisioning rules)) ->
      Moves mode s (.active e false) (.complete o) (s.countOutcome o) (.completed e o)

namespace Call

variable {mode : EntryMode} {s s' : State} {call after : Call} {m : Move} {e : Evaluation}

theorem moves_check (h : e.phase = .start) :
    Moves mode s (.active e false) .check (e.check s).1 (.active (e.check s).2 false) := by
  unfold Evaluation.check
  split
  · exact .leave h ‹_›
  · exact .evaluate h (Bool.eq_false_iff.mpr ‹_›)

theorem moves_receivePolicies {generation : Nat} (h : e.phase = .awaitingPolicies generation)
    (listed : Except String (List Policy)) :
    Moves mode s (.active e true) (.receivePolicies listed) s
      (.active (e.receivePolicies generation listed) false) := by
  cases listed with
  | error message => exact .policiesFailed message h
  | ok policies =>
      simp only [Evaluation.receivePolicies, List.isEmpty_iff]
      split
      · exact .policiesNone h ‹_›
      · exact .policiesSome h ‹_›

theorem moves_receiveEndpoints {generation : Nat} {applicable : List Policy}
    (h : e.phase = .awaitingEndpoints generation applicable)
    (listed : Except String (List EndpointResource)) :
    Moves mode s (.active e true) (.receiveEndpoints listed) s
      (.active (e.receiveEndpoints mode generation applicable listed) false) := by
  cases listed with
  | error message => exact .endpointsFailed message h
  | ok endpoints => exact .endpoints endpoints h

theorem moves_commit {generation : Nat} {verdict : Verdict}
    (h : e.phase = .judged generation verdict) :
    Moves mode s (.active e false) .commit (e.commit s generation verdict).1
      (.active (e.commit s generation verdict).2 false) := by
  unfold Evaluation.commit
  split
  · exact .stale h ‹_›
  · rename_i hcurrent
    rw [← Decidable.not_not.mp hcurrent] at h
    cases verdict with
    | unmanaged => exact .unmanaged h
    | noEndpoints => exact .noEndpoints h
    | compiled rules =>
        simp only
        split
        · exact .overtaken h ‹_›
        · exact .dispatch h (Bool.eq_false_iff.mpr ‹_›)

theorem moves_ask {q : ListRequest} (h : e.request? = some q) :
    Moves mode s (.active e false) (.ask q) s (.active e true) := by
  unfold Evaluation.request? at h
  split at h
  · cases h
    exact .askPolicies ‹_›
  · cases h
    exact .askEndpoints ‹_›
  · cases h

theorem moves_of_step (h : call.step mode s m = some (s', after)) :
    Moves mode s call m s' after := by
  cases call with
  | refused d => cases h
  | cancelled e => cases h
  | completed e o => cases h
  | active e asked =>
      simp only [step] at h
      split at h
      · cases h
        exact moves_check ‹_›
      · rcases Option.ite_none_right_eq_some.mp h with ⟨hrequest, ⟨rfl⟩⟩
        exact moves_ask hrequest
      · cases h
        exact moves_receivePolicies ‹_› _
      · cases h
        exact moves_receiveEndpoints ‹_› _
      · cases h
        exact moves_commit ‹_›
      · cases h
        exact .complete _ ‹_›
      · split at h
        · cases h
          exact .cancel ‹_›
        · cases h
      · cases h

theorem Moves.step (h : call.Moves mode s m s' after) :
    call.step mode s m = some (s', after) := by
  cases h with
  | leave hphase hmarked => simp [Call.step, Evaluation.check, hphase, hmarked]
  | evaluate hphase hnew => simp [Call.step, Evaluation.check, hphase, hnew]
  | askPolicies hphase =>
      simp [Call.step, hphase, Evaluation.request?_of_awaitingPolicies hphase,
        Evaluation.policiesRequest]
  | askEndpoints hphase =>
      simp [Call.step, hphase, Evaluation.request?_of_awaitingEndpoints hphase,
        Evaluation.endpointsRequest]
  | complete o hphase => simp [Call.step, hphase]
  | policiesFailed message hphase => simp [Call.step, Evaluation.receivePolicies, hphase]
  | policiesNone hphase happlicable | policiesSome hphase happlicable =>
      simp [Call.step, Evaluation.receivePolicies, hphase, happlicable]
  | endpointsFailed message hphase | endpoints listed hphase =>
      simp [Call.step, Evaluation.receiveEndpoints, hphase]
  | stale hphase hstale => simp [Call.step, Evaluation.commit, hphase, hstale]
  | unmanaged hphase | noEndpoints hphase => simp [Call.step, Evaluation.commit, hphase]
  | overtaken hphase hmarked => simp [Call.step, Evaluation.commit, hphase, hmarked]
  | dispatch hphase hnew => simp [Call.step, Evaluation.commit, hphase, hnew]
  | @cancel e asked hawaiting =>
      cases hphase : e.phase <;> cases asked <;> simp_all [Call.step, Phase.isAwaiting]

section Steps

variable {generation : Nat}

/-!
## Steps that a call can take
-/

theorem step_check (h : e.phase = .start) (s : State) :
    (active e false).step mode s .check =
      some ((e.check s).1, active (e.check s).2 false) :=
  (moves_check h).step

theorem step_ask {q : ListRequest} (h : e.request? = some q) (s : State) :
    (active e false).step mode s (.ask q) = some (s, active e true) :=
  (moves_ask h).step

theorem step_receivePolicies (h : e.phase = .awaitingPolicies generation)
    (listed : Except String (List Policy)) (s : State) :
    (active e true).step mode s (.receivePolicies listed) =
      some (s, active (e.receivePolicies generation listed) false) :=
  (moves_receivePolicies h listed).step

theorem step_receiveEndpoints {applicable : List Policy}
    (h : e.phase = .awaitingEndpoints generation applicable)
    (listed : Except String (List EndpointResource)) (s : State) :
    (active e true).step mode s (.receiveEndpoints listed) =
      some (s, active (e.receiveEndpoints mode generation applicable listed) false) :=
  (moves_receiveEndpoints h listed).step

theorem step_commit {verdict : Verdict} (h : e.phase = .judged generation verdict) (s : State) :
    (active e false).step mode s .commit =
      some ((e.commit s generation verdict).1,
        active (e.commit s generation verdict).2 false) :=
  (moves_commit h).step

theorem step_complete {rules : RuleSet} (h : e.phase = .ended (.ok (.provisioning rules)))
    (o : Outcome) (s : State) :
    (active e false).step mode s (.complete o) = some (s.countOutcome o, completed e o) :=
  (Moves.complete o h).step

end Steps

end Call

/-!
# Events
-/

inductive Event where
  /-- A call begins, under a number of its own. -/
  | apply (i : Nat) (pod : Pod)
  | move (i : Nat) (m : Move)
  | deletePod (pod : Pod)
  | policy (d : Delivery Policy)

namespace Event

/-- The call that the event belongs to. -/
def call? : Event -> Option Nat
  | .apply i _ => some i
  | .move i _ => some i
  | _ => none

/-- A policy of the namespace is applied or deleted. -/
def Resets (ns : String) : Event -> Prop
  | .policy (.apply p) => p.metadata.ns = some ns
  | .policy (.delete p) => p.metadata.ns = some ns
  | _ => False

/-- The pod is deleted, or a policy of the namespace is applied or deleted. -/
def Clears (uid ns : String) : Event -> Prop
  | .deletePod pod => pod.metadata.uid = some uid
  | e => e.Resets ns

end Event

/-- An event that has happened. -/
structure Record where
  event : Event
  /-- The call of the event, as it stands afterwards. -/
  call : Option Call := none

structure World where
  state : State := {}
  calls : Nat -> Option Call := fun _ => none
  /-- What has happened, with the latest event first. -/
  past : List Record := []

namespace World

/-- An event of a call has led to a new state and to a new standing of the call. -/
def put (w : World) (event : Event) (i : Nat) (state : State) (call : Call) : World where
  state := state
  calls j := if j = i then some call else w.calls j
  past := { event, call := some call } :: w.past

def step (c : Config) (w : World) : Event -> Option World
  | .apply i pod =>
      match w.calls i with
      | none => some (w.put (.apply i pod) i w.state (.ofPod c pod))
      | some _ => none
  | .move i m =>
      (w.calls i).bind fun call => (call.step c.mode w.state m).map fun next =>
        w.put (.move i m) i next.1 next.2
  | .deletePod pod =>
      some { w with
        state := w.state.podDeleted pod
        past := { event := .deletePod pod } :: w.past }
  | .policy d =>
      some { w with
        state := handlePolicy w.state d
        past := { event := .policy d } :: w.past }

/-- The world after a schedule, if the schedule is possible. -/
def run (c : Config) : List Event -> World -> Option World
  | [], w => some w
  | event :: rest, w => (w.step c event).bind (run c rest)

/-- The steps of a world, one case for each kind of event. -/
inductive Steps (c : Config) (w : World) : Event -> World -> Prop where
  | apply (i : Nat) (pod : Pod) : w.calls i = none ->
      Steps c w (.apply i pod) (w.put (.apply i pod) i w.state (.ofPod c pod))
  | move (i : Nat) {m : Move} {call after : Call} {state : State} :
      w.calls i = some call -> call.Moves c.mode w.state m state after ->
      Steps c w (.move i m) (w.put (.move i m) i state after)
  | deletePod (pod : Pod) :
      Steps c w (.deletePod pod) { w with
        state := w.state.podDeleted pod
        past := { event := .deletePod pod } :: w.past }
  | policy (d : Delivery Policy) :
      Steps c w (.policy d) { w with
        state := handlePolicy w.state d
        past := { event := .policy d } :: w.past }

variable {c : Config} {w w' : World} {event : Event} {events : List Event}

theorem steps_of_step (h : w.step c event = some w') : Steps c w event w' := by
  cases event with
  | apply i pod =>
      simp only [step] at h
      split at h
      · cases h
        exact .apply i pod ‹_›
      · cases h
  | move i m =>
      simp only [step, Option.bind_eq_some_iff, Option.map_eq_some_iff] at h
      rcases h with ⟨call, hcall, ⟨state, after⟩, hstep, rfl⟩
      exact .move i hcall (Call.moves_of_step hstep)
  | deletePod pod =>
      cases h
      exact .deletePod pod
  | policy d =>
      cases h
      exact .policy d

theorem Steps.step (h : Steps c w event w') : w.step c event = some w' := by
  cases h with
  | apply i pod hfree => simp [World.step, hfree]
  | move i hcall hmoves => simp [World.step, hcall, hmoves.step]
  | deletePod pod => rfl
  | policy d => rfl

/-- An event changes no call but its own. -/
theorem Steps.calls_of_ne (h : Steps c w event w') {i : Nat} (hother : event.call? ≠ some i) :
    w'.calls i = w.calls i := by
  cases h with
  | apply j pod hfree | move j hcall hmoves =>
      have hij : i ≠ j := fun hij => hother (congrArg some hij.symm)
      simp [put, hij]
  | deletePod pod | policy d => rfl

/-- A call stands as it did, or the event is a step that it takes. -/
theorem Steps.call (h : Steps c w event w') {i : Nat} {call : Call}
    (hcall : w.calls i = some call) :
    (event.call? ≠ some i ∧ w'.calls i = some call) ∨
      exists m after, event = .move i m ∧ call.Moves c.mode w.state m w'.state after ∧
        w'.calls i = some after := by
  by_cases hown : event.call? = some i
  · right
    cases h with
    | apply j pod hfree =>
        cases hown
        rw [hfree] at hcall
        cases hcall
    | @move j m other after state hother hmoves =>
        cases hown
        rw [hcall, Option.some.injEq] at hother
        subst hother
        exact ⟨m, after, rfl, hmoves, by simp [put]⟩
    | deletePod pod | policy d => cases hown
  · exact Or.inl ⟨hown, (h.calls_of_ne hown).trans hcall⟩

/-- A call that was not there has begun with the event. -/
theorem Steps.begun (h : Steps c w event w') {i : Nat} {call : Call}
    (hfree : w.calls i = none) (hcall : w'.calls i = some call) :
    exists pod, event = .apply i pod ∧ call = .ofPod c pod := by
  have hown : event.call? = some i := by
    apply Decidable.byContradiction
    intro hother
    rw [h.calls_of_ne hother, hfree] at hcall
    cases hcall
  cases h with
  | apply j pod _ =>
      cases hown
      simp only [put, if_true, Option.some.injEq] at hcall
      exact ⟨pod, rfl, hcall.symm⟩
  | move j hother hmoves =>
      cases hown
      rw [hfree] at hother
      cases hother
  | deletePod pod | policy d => cases hown

/-- A step is recorded with the call that took it. -/
theorem Steps.record (h : Steps c w event w') :
    w'.past = { event, call := event.call?.bind w'.calls } :: w.past := by
  cases h <;> simp [put, Event.call?]

/-- What holds of a world and is preserved by each step holds after any schedule. -/
theorem run_induction {P : World -> Prop}
    (hstep : forall w event w', P w -> Steps c w event w' -> P w')
    (h : run c events w = some w') (hw : P w) : P w' := by
  induction events generalizing w with
  | nil =>
      cases h
      exact hw
  | cons event rest ih =>
      rcases Option.bind_eq_some_iff.mp h with ⟨v, hv, hrest⟩
      exact ih hrest (hstep w event v hw (steps_of_step hv))

theorem run_append {later : List Event} :
    run c (events ++ later) w = (run c events w).bind (run c later) := by
  induction events generalizing w with
  | nil => rfl
  | cons event rest ih =>
      rw [List.cons_append]
      simp only [run]
      cases w.step c event with
      | none => rfl
      | some v => exact ih

end World

end Controller

end PodIsolation
