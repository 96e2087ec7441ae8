import PodIsolation.Proofs.RehearsedRun
import PodIsolation.Rehearsal.Session

/-!
# Rehearsals of the program

## Sessions follow schedules

The program evaluates a pod to the end before it takes the next notice.  The
evaluation is a call of its own in a schedule, which goes through its steps with
nothing in between.  Feeds and time only decide which notices come when.  What
the program sends to the server is what the calls of the schedule ask for, so it
requests listings of namespaces of pods of its node and no others.
-/

namespace PodIsolation

namespace Rehearsal

open Controller (Config Call World)

/-!
# Work
-/

namespace Work

variable {c : Config} {work : Work}

/-- The controller is in the state of the world, and what was requested is what the
calls have asked for. -/
structure Follows (c : Config) (work : Work) (w : World) : Prop where
  config : work.config = c
  attains : w.Attains c work.controller
  requests : work.requests = w.requests.filterMap requestLine?

/-- Some schedule leads to the state of the controller, with the same requests. -/
def Scheduled (c : Config) (work : Work) : Prop :=
  exists w, work.Follows c w

/-- A listing leaves a request behind and nothing else. -/
theorem exists_list_eq (work : Work) (q : ListRequest) (answers : SortedMap Answer)
    (reader : Json.Reader T) : exists listed, work.list q answers reader =
      ({ work with requests := work.requests ++ (requestLine? q).toList }, listed) := by
  unfold list
  cases requestLine? q with
  | none => exact ⟨.error "the listing cannot be requested", by simp⟩
  | some line => exact ⟨_, rfl⟩

variable {i : Nat} {w : World}

theorem Follows.move (h : work.Follows c w) {call after : Call} {m : Controller.Move}
    {state : Controller.State} (hcall : w.calls i = some call)
    (hstep : call.step c.mode work.controller m = some (state, after))
    (hrequest : (Controller.Event.move i m).request? = none) :
    exists v, Follows c { work with controller := state } v ∧ v.calls i = some after := by
  rcases h.attains.move hcall hstep with ⟨v, -, hattains, hafter, hrequests⟩
  rw [hrequest, Option.toList_none, List.append_nil] at hrequests
  exact ⟨v, ⟨h.config, hattains, by rw [hrequests]; exact h.requests⟩, hafter⟩

theorem Follows.ask (h : work.Follows c w) {e : Controller.Evaluation} {q : ListRequest}
    (hcall : w.calls i = some (.active e false)) (hrequest : e.request? = some q) :
    exists v, Follows c { work with requests := work.requests ++ (requestLine? q).toList } v ∧
      v.calls i = some (.active e true) := by
  rcases h.attains.move hcall (Call.step_ask hrequest _) with
    ⟨v, -, hattains, hwaiting, hrequests⟩
  refine ⟨v, ⟨h.config, hattains, ?_⟩, hwaiting⟩
  rw [hrequests, List.filterMap_append, h.requests]
  cases hline : requestLine? q <;> simp [Controller.Event.request?, hline]

theorem evaluate_scheduled {n : Nat} {e : Controller.Evaluation} (h : work.Follows c w)
    (hcall : w.calls i = some (.active e false)) : (evaluate n e work).Scheduled c := by
  induction n generalizing e work w with
  | zero => exact ⟨w, h⟩
  | succ n ih =>
      unfold evaluate
      cases hphase : e.phase with
      | start =>
          rcases h.move hcall (Call.step_check hphase _) rfl with ⟨v, hchecked, hnext⟩
          exact ih hchecked hnext
      | awaitingPolicies generation =>
          have hrequest := Controller.Evaluation.request?_of_awaitingPolicies hphase
          rcases h.ask hcall hrequest with ⟨u, hasked, hwaiting⟩
          rcases work.exists_list_eq e.policiesRequest work.policies Policy.reader with
            ⟨listed, hlisted⟩
          simp only [hlisted]
          rcases hasked.move hwaiting (Call.step_receivePolicies hphase listed _) rfl with
            ⟨v, hgot, hnext⟩
          exact ih hgot hnext
      | awaitingEndpoints generation applicable =>
          have hrequest := Controller.Evaluation.request?_of_awaitingEndpoints hphase
          rcases h.ask hcall hrequest with ⟨u, hasked, hwaiting⟩
          rcases work.exists_list_eq e.endpointsRequest work.endpoints EndpointResource.reader with
            ⟨listed, hlisted⟩
          have hmode : work.config.mode = c.mode := congrArg Config.mode h.config
          simp only [hlisted, hmode]
          rcases hasked.move hwaiting (Call.step_receiveEndpoints hphase listed _) rfl with
            ⟨v, hgot, hnext⟩
          exact ih hgot hnext
      | judged generation verdict =>
          rcases h.move hcall (Call.step_commit hphase _) rfl with ⟨v, hcommitted, hnext⟩
          exact ih hcommitted hnext
      | ended result =>
          cases result with
          | error message => exact ⟨w, h⟩
          | ok d =>
              cases d with
              | provisioning rules =>
                  let outcome := ((fileHost work.programs).provisionApart work.script rules).2
                  rcases h.move hcall (Call.step_complete hphase outcome _) rfl with ⟨v, hend, -⟩
                  exact ⟨v, hend.config, hend.attains, hend.requests⟩
              | _ => exact ⟨w, h⟩

theorem Scheduled.handlePod (h : work.Scheduled c) (d : Delivery Pod) :
    (work.handlePod d).Scheduled c := by
  rcases h with ⟨w, h⟩
  cases d with
  | apply pod =>
      rcases h.attains.apply pod with ⟨i, v, -, -, hbegun, hcall, hrequests, -⟩
      unfold Call.ofPod at hcall
      cases hadmitted : Controller.admission c pod with
      | error d =>
          have hleft : work.handlePod (.apply pod) = work := by
            simp only [Work.handlePod, h.config, hadmitted]
          rw [hleft]
          exact ⟨w, h⟩
      | ok e =>
          have hevaluated : work.handlePod (.apply pod) = evaluate evaluationSteps e work := by
            simp only [Work.handlePod, h.config, hadmitted]
          rw [hadmitted] at hcall
          rw [hevaluated]
          exact evaluate_scheduled ⟨h.config, hbegun, hrequests ▸ h.requests⟩ hcall
  | delete pod =>
      rcases h.attains.deletePod pod with ⟨v, -, hdeleted, hrequests⟩
      exact ⟨v, h.config, hdeleted, hrequests ▸ h.requests⟩

theorem Scheduled.handlePolicy (h : work.Scheduled c) (d : Delivery Policy) :
    (work.handlePolicy d).Scheduled c := by
  rcases h with ⟨w, h⟩
  rcases h.attains.policy d with ⟨v, -, hchanged, hrequests⟩
  exact ⟨v, h.config, hchanged, hrequests ▸ h.requests⟩

end Work

/-!
# Sessions
-/

theorem Feed.run_preserves {S T : Type} {handle : S -> Delivery T -> S} (P : S -> Prop)
    (hhandle : forall s d, P s -> P (handle s d)) {s : S} (hs : P s) (now : Nat) (f : Feed T) :
    P (f.run handle now s).2.1 := by
  unfold run
  generalize f.bound = n
  induction n generalizing f s with
  | zero => exact hs
  | succ n ih =>
      unfold advance
      cases f.step now with
      | none => exact hs
      | some next =>
          have hwatched := watch_preserves P hhandle hs next.2
          dsimp only
          split
          · exact hwatched
          · exact ih hwatched next.1

namespace Session

variable {c : Config} {s : Session}

theorem work_finish (s : Session) : s.finish.work = s.work := by
  unfold finish
  split
  · split
    · rfl
    · split <;> rfl
  · rfl

theorem scheduled_runPods (h : s.work.Scheduled c) : s.runPods.work.Scheduled c := by
  have hrun := Feed.run_preserves (Work.Scheduled c) (fun _ d hw => hw.handlePod d) h s.now s.pods
  unfold runPods
  dsimp only
  cases (s.pods.run Work.handlePod s.now s.work).2.2 <;> exact hrun

theorem scheduled_runPolicies (h : s.work.Scheduled c) : s.runPolicies.work.Scheduled c := by
  have hrun := Feed.run_preserves (Work.Scheduled c) (fun _ d hw => hw.handlePolicy d) h s.now
    s.policies
  unfold runPolicies
  dsimp only
  cases (s.policies.run Work.handlePolicy s.now s.work).2.2 <;> exact hrun

theorem scheduled_settle (h : s.work.Scheduled c) : s.settle.work.Scheduled c := by
  have hpolicies : (if s.isRunning then s.runPolicies else s).work.Scheduled c := by
    split
    · exact scheduled_runPolicies h
    · exact h
  unfold settle
  rw [work_finish]
  generalize (if s.isRunning then s.runPolicies else s) = s' at hpolicies ⊢
  split
  · exact scheduled_runPods hpolicies
  · exact hpolicies

theorem scheduled_passUntil (h : s.work.Scheduled c) (goal : Session -> Bool) (target n : Nat) :
    (s.passUntil goal target n).work.Scheduled c := by
  induction n generalizing s with
  | zero => exact h
  | succ n ih =>
      unfold passUntil
      split
      · exact h
      · split
        · rename_i time _
          exact ih (scheduled_settle (s := { s with now := time }) h)
        · exact h

theorem scheduled_receive (h : s.work.Scheduled c) (e : Event) :
    (s.receive e).work.Scheduled c := by
  cases e with
  | awaitCounts counts => exact scheduled_passUntil h _ _ _
  | sendPod line | sendPolicy line | signal n =>
      dsimp only [receive]
      split <;> exact h
  | _ => exact h

theorem scheduled_take (h : s.work.Scheduled c) (e : Event) : (s.take e).work.Scheduled c := by
  have hsettled := scheduled_settle (scheduled_receive h e)
  unfold take
  split
  · exact h
  · dsimp only
    split
    · exact hsettled
    · exact scheduled_passUntil hsettled _ _ _

/-- Whatever a session plays has a schedule. -/
theorem scheduled_play (h : s.work.Scheduled c) (events : List Event) :
    (s.play events).work.Scheduled c := by
  have htaken : forall {s : Session}, s.work.Scheduled c ->
      (events.foldl take s).work.Scheduled c := by
    induction events with
    | nil => exact id
    | cons e rest ih => exact fun hs => ih (scheduled_take hs e)
  have hwatching := scheduled_passUntil (scheduled_settle h) isWatching sessionLimit
    (sessionLimit + 1)
  exact scheduled_passUntil (htaken hwatching) _ _ _

end Session

/-- Whatever the program does against a scripted server has a schedule.  The program
requests what the calls of the schedule ask for, in the same order, and each of these
listings is one of the namespace of a pod of its node. -/
theorem Server.exists_schedule (server : Server) (settings : Settings)
    (steps : List Session.Event) :
    let c : Config := { node := settings.nodeName, mode := settings.entries }
    let work := (server.play settings steps).work
    exists events w, World.run c events {} = some w ∧ w.state = work.controller ∧
      work.requests = w.requests.filterMap Work.requestLine? ∧
      forall q, q ∈ w.requests -> exists i pod,
        Controller.Began c w.past i pod ∧ pod.metadata.ns = some q.ns := by
  intro c work
  have hstart : (server.session settings).work.Scheduled c :=
    ⟨{}, rfl, World.attains_empty c, rfl⟩
  have hend : work.Scheduled c := by
    show (server.play settings steps).work.Scheduled c
    unfold Server.play
    dsimp only
    split
    · exact Session.scheduled_play hstart steps
    · exact hstart
  rcases hend with ⟨w, hfollows⟩
  rcases hfollows.attains.reached with ⟨events, hrun⟩
  refine ⟨events, w, hrun, hfollows.attains.state_eq, hfollows.requests, ?_⟩
  intro q hq
  rcases World.mem_requests hq with ⟨r, i, hr, hask⟩
  exact ⟨i, (World.tracing_of_run hrun).requested r i q hr hask⟩

end Rehearsal

end PodIsolation
