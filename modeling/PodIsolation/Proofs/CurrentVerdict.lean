import PodIsolation.Proofs.ControllerRun

/-!
# Verdicts

## Verdicts are current

An evaluation notes the generation of its namespace before it asks for the
policies, and its verdict counts only if the generation is still the same.  So a
verdict that counts was reached from policies and endpoints of the namespace that
were both asked for after the last change of a policy there.
-/

namespace PodIsolation

namespace Controller

/-- What an evaluation has come to, if it has ended. -/
def Evaluation.result? (e : Evaluation) : Option (Except String Dispatch) :=
  match e.phase with
  | .ended result => some result
  | _ => none

/-- What a call has returned, if it has. -/
def Call.returned? : Call -> Option (Except String Dispatch)
  | .refused d => some (.ok d)
  | .active e _ => e.result?
  | .cancelled _ => none
  | .completed e _ => e.result?

/-- The pod was evaluated to the end, and not left alone. -/
def Dispatch.isVerdict : Dispatch -> Bool
  | .unmanaged => true
  | .noEndpoints => true
  | .provisioning _ => true
  | _ => false

/-- What a call returns on a verdict that counts. -/
def Verdict.dispatch : Verdict -> Dispatch
  | .unmanaged => .unmanaged
  | .noEndpoints => .noEndpoints
  | .compiled rules => .provisioning rules

/-- The step of the call that the event is. -/
def Event.moveOf? (i : Nat) : Event -> Option Move
  | .move j m => if j = i then some m else none
  | _ => none

theorem Event.moveOf?_eq_none {i : Nat} {event : Event} (h : event.call? ≠ some i) :
    event.moveOf? i = none := by
  cases event with
  | move j m => exact if_neg fun hij => h (congrArg some hij)
  | apply | deletePod | policy => rfl

/-!
# Generations
-/

namespace State

theorem generation_policyChanged (s : State) (p : Policy) (ns : String) :
    (s.policyChanged p).generation ns =
      if p.metadata.ns = some ns then s.generation ns + 1 else s.generation ns := by
  unfold policyChanged
  cases hchanged : p.metadata.ns with
  | none => simp
  | some changed =>
      by_cases hns : ns = changed
      · simp [reset, generation, hns]
      · simp [reset, generation, hns, Ne.symm hns]

theorem generation_podDeleted (s : State) (pod : Pod) (ns : String) :
    (s.podDeleted pod).generation ns = s.generation ns := by
  unfold podDeleted
  split <;> rfl

end State

namespace Call

variable {mode : EntryMode} {s s' : State} {call after : Call} {m : Move}

theorem Moves.generation (h : call.Moves mode s m s' after) (ns : String) :
    s'.generation ns = s.generation ns := by
  cases h <;> rfl

theorem Moves.active (h : call.Moves mode s m s' after) :
    exists e asked, call = .active e asked := by
  cases h <;> exact ⟨_, _, rfl⟩

variable {e e' : Evaluation} {asked asked' : Bool}

theorem Moves.samePod (h : Moves mode s (.active e asked) m s' (.active e' asked')) :
    e'.uid = e.uid ∧ e'.ns = e.ns ∧ e'.labels = e.labels := by
  cases h <;> exact ⟨rfl, rfl, rfl⟩

/-- A call that returns on a verdict was about to commit its own, which is still
of the present generation. -/
theorem Moves.returned (h : call.Moves mode s m s' after) {d : Dispatch}
    (hbefore : call.returned? = none) (hafter : after.returned? = some (.ok d))
    (hd : d.isVerdict = true) :
    exists e asked verdict, call = .active e asked ∧
      e.phase = .judged (s.generation e.ns) verdict ∧ d = verdict.dispatch := by
  cases h with
  | leave hphase hmarked =>
      cases hafter
      cases hd
  | overtaken hphase hmarked =>
      cases hafter
      cases hd
  | unmanaged hphase =>
      cases hafter
      exact ⟨_, _, _, rfl, hphase, rfl⟩
  | noEndpoints hphase =>
      cases hafter
      exact ⟨_, _, _, rfl, hphase, rfl⟩
  | dispatch hphase hnew =>
      cases hafter
      exact ⟨_, _, _, rfl, hphase, rfl⟩
  | askPolicies hphase | askEndpoints hphase | complete o hphase =>
      -- The evaluation is the same before and after.
      exact absurd (hafter.symm.trans hbefore) (Option.some_ne_none _)
  | _ => cases hafter

variable {c : Config} {pod : Pod}

theorem isVerdict_of_ofPod {d : Dispatch} (h : (ofPod c pod).returned? = some (.ok d)) :
    d.isVerdict = false := by
  unfold ofPod at h
  rcases admission_cases c pod with ⟨_, hpod⟩ | ⟨_, _, hpod⟩ | ⟨_, uid, ns, _, _, hpod⟩ <;>
    rw [hpod] at h <;> cases h <;> rfl

theorem ofPod_eq_active (h : ofPod c pod = .active e asked) :
    pod.metadata.uid = some e.uid ∧ pod.metadata.ns = some e.ns ∧ pod.labels = e.labels ∧
      e.phase = .start ∧ asked = false := by
  unfold ofPod at h
  rcases admission_cases c pod with ⟨_, hpod⟩ | ⟨_, _, hpod⟩ | ⟨_, uid, ns, huid, hns, hpod⟩ <;>
    rw [hpod] at h <;> cases h
  exact ⟨huid, hns, rfl, rfl, rfl⟩

end Call

namespace World

variable {c : Config} {w w' : World} {event : Event} {events : List Event}

/-- The generation of a namespace counts the changes of its policies. -/
theorem Steps.generation (h : Steps c w event w') (ns : String) :
    (event.Resets ns ∧ w'.state.generation ns = w.state.generation ns + 1) ∨
      (¬ event.Resets ns ∧ w'.state.generation ns = w.state.generation ns) := by
  cases h with
  | apply i pod hfree => exact Or.inr ⟨id, rfl⟩
  | move i hcall hmoves => exact Or.inr ⟨id, hmoves.generation ns⟩
  | deletePod pod => exact Or.inr ⟨id, State.generation_podDeleted _ pod ns⟩
  | policy d =>
      cases d with
      | apply p | delete p =>
          have hgeneration := State.generation_policyChanged w.state p ns
          by_cases hns : p.metadata.ns = some ns
          · rw [if_pos hns] at hgeneration
            exact Or.inl ⟨hns, hgeneration⟩
          · rw [if_neg hns] at hgeneration
            exact Or.inr ⟨hns, hgeneration⟩

theorem Steps.generation_kept (h : Steps c w event w') (hkept : ¬ event.Resets ns) :
    w'.state.generation ns = w.state.generation ns := by
  rcases h.generation ns with ⟨hresets, _⟩ | ⟨_, hsame⟩
  · exact absurd hresets hkept
  · exact hsame

theorem Steps.past (h : Steps c w event w') :
    exists r, r.event = event ∧ w'.past = r :: w.past :=
  ⟨_, rfl, h.record⟩

/-!
# What evaluations are based on
-/

/-- The call has asked for the policies of the namespace and has taken the given
steps since, with the latest first.  It noted the generation before.  If that is
still the same, no policy of the namespace has changed since the call asked. -/
structure Based (w : World) (i : Nat) (ns : String) (generation : Nat) (moves : List Move) :
    Prop where
  noted : generation ≤ w.state.generation ns
  asked : exists since r before, w.past = since ++ r :: before ∧
    r.event = .move i (.ask (.policies ns)) ∧
    since.filterMap (fun x => x.event.moveOf? i) = moves ∧
    (w.state.generation ns = generation -> forall x, x ∈ since -> ¬ x.event.Resets ns)

variable {i : Nat} {ns : String} {generation : Nat} {moves : List Move}

theorem Steps.noted (h : Steps c w event w') (hnoted : generation ≤ w.state.generation ns) :
    generation ≤ w'.state.generation ns := by
  rcases h.generation ns with ⟨_, hnext⟩ | ⟨_, hnext⟩ <;> omega

theorem Based.step (h : w.Based i ns generation moves) (hstep : Steps c w event w') :
    w'.Based i ns generation ((event.moveOf? i).toList ++ moves) := by
  refine ⟨hstep.noted h.noted, ?_⟩
  rcases hstep.past with ⟨r', rfl, hpast⟩
  rcases h.asked with ⟨since, r, before, hbefore, hr, hmoves, hfresh⟩
  refine ⟨r' :: since, r, before, ?_, hr, ?_, ?_⟩
  · rw [hpast, hbefore, List.cons_append]
  · rw [← hmoves, List.filterMap_cons]
    cases r'.event.moveOf? i <;> rfl
  · intro hsame x hx
    have hnoted := h.noted
    rcases hstep.generation ns with ⟨_, hnext⟩ | ⟨hkept, hnext⟩
    · -- The generation is past the one that was noted, and never comes back to it.
      omega
    · rcases List.mem_cons.mp hx with rfl | hx
      · exact hkept
      · exact hfresh (hnext ▸ hsame) x hx

theorem Based.other (h : w.Based i ns generation moves) (hstep : Steps c w event w')
    (hother : event.moveOf? i = none) : w'.Based i ns generation moves := by
  have hnext := h.step hstep
  rw [hother] at hnext
  exact hnext

theorem Based.own {m : Move} (h : w.Based i ns generation moves)
    (hstep : Steps c w (.move i m) w') : w'.Based i ns generation (m :: moves) := by
  have hown : (Event.move i m).moveOf? i = some m := if_pos rfl
  have hnext := h.step hstep
  rw [hown] at hnext
  exact hnext

theorem Steps.based (hstep : Steps c w (.move i (.ask (.policies ns))) w')
    (hnoted : generation ≤ w.state.generation ns) : w'.Based i ns generation [] := by
  refine ⟨hstep.noted hnoted, ?_⟩
  rcases hstep.past with ⟨r, hr, hpast⟩
  exact ⟨[], r, w.past, hpast, hr, rfl, by simp⟩

/-- What an evaluation is based on, phase by phase. -/
inductive Sourced (mode : EntryMode) (w : World) (i : Nat) (e : Evaluation) :
    Bool -> Phase -> Prop where
  | start : Sourced mode w i e false .start
  | checked {generation : Nat} : generation ≤ w.state.generation e.ns ->
      Sourced mode w i e false (.awaitingPolicies generation)
  | policiesAsked {generation : Nat} : w.Based i e.ns generation [] ->
      Sourced mode w i e true (.awaitingPolicies generation)
  | managed {generation : Nat} {policies : List Policy} :
      (PolicyIndex.ofList policies).applicable e.labels ≠ [] ->
      w.Based i e.ns generation [.receivePolicies (.ok policies)] ->
      Sourced mode w i e false (.awaitingEndpoints generation
        ((PolicyIndex.ofList policies).applicable e.labels))
  | endpointsAsked {generation : Nat} {policies : List Policy} :
      (PolicyIndex.ofList policies).applicable e.labels ≠ [] ->
      w.Based i e.ns generation [.ask (.endpoints e.ns), .receivePolicies (.ok policies)] ->
      Sourced mode w i e true (.awaitingEndpoints generation
        ((PolicyIndex.ofList policies).applicable e.labels))
  | unmanaged {generation : Nat} {policies : List Policy} :
      (PolicyIndex.ofList policies).applicable e.labels = [] ->
      w.Based i e.ns generation [.receivePolicies (.ok policies)] ->
      Sourced mode w i e false (.judged generation .unmanaged)
  | judged {generation : Nat} {policies : List Policy} {endpoints : List EndpointResource}
      {verdict : Verdict} :
      (PolicyIndex.ofList policies).applicable e.labels ≠ [] ->
      verdict = judge mode e.uid ((PolicyIndex.ofList policies).applicable e.labels) endpoints ->
      w.Based i e.ns generation [.receiveEndpoints (.ok endpoints),
        .ask (.endpoints e.ns), .receivePolicies (.ok policies)] ->
      Sourced mode w i e false (.judged generation verdict)
  | ended (result : Except String Dispatch) : Sourced mode w i e false (.ended result)

variable {e e' : Evaluation} {asked asked' : Bool}

/-- What happens elsewhere does not change what an evaluation is based on. -/
theorem Sourced.other {mode : EntryMode} {phase : Phase} (h : Sourced mode w i e asked phase)
    (hstep : Steps c w event w') (hother : event.moveOf? i = none) :
    Sourced mode w' i e asked phase := by
  cases h with
  | start => exact .start
  | checked hnoted => exact .checked (hstep.noted hnoted)
  | policiesAsked hbased => exact .policiesAsked (hbased.other hstep hother)
  | managed hsome hbased => exact .managed hsome (hbased.other hstep hother)
  | endpointsAsked hsome hbased => exact .endpointsAsked hsome (hbased.other hstep hother)
  | unmanaged hnone hbased => exact .unmanaged hnone (hbased.other hstep hother)
  | judged hsome hverdict hbased => exact .judged hsome hverdict (hbased.other hstep hother)
  | ended result => exact .ended result

theorem Sourced.own {m : Move} {state : State} (h : Sourced c.mode w i e asked e.phase)
    (hmoves : Call.Moves c.mode w.state (.active e asked) m state (.active e' asked'))
    (hstep : Steps c w (.move i m) w') : Sourced c.mode w' i e' asked' e'.phase := by
  cases hmoves with
  | leave hphase hmarked => exact .ended _
  | evaluate hphase hnew => exact .checked (hstep.noted (Nat.le_refl _))
  | askPolicies hphase =>
      rw [hphase] at h ⊢
      cases h with
      | checked hnoted => exact .policiesAsked (hstep.based hnoted)
  | policiesFailed message hphase => exact .ended _
  | policiesNone hphase hnone =>
      rw [hphase] at h
      cases h with
      | policiesAsked hbased => exact .unmanaged hnone (hbased.own hstep)
  | policiesSome hphase hsome =>
      rw [hphase] at h
      cases h with
      | policiesAsked hbased => exact .managed hsome (hbased.own hstep)
  | askEndpoints hphase =>
      rw [hphase] at h ⊢
      cases h with
      | managed hsome hbased => exact .endpointsAsked hsome (hbased.own hstep)
  | endpointsFailed message hphase => exact .ended _
  | endpoints listed hphase =>
      rw [hphase] at h
      cases h with
      | endpointsAsked hsome hbased => exact .judged hsome rfl (hbased.own hstep)
  | stale hphase hstale => exact .start
  | unmanaged hphase => exact .ended _
  | noEndpoints hphase => exact .ended _
  | overtaken hphase hmarked => exact .ended _
  | dispatch hphase hnew => exact .ended _

/-- The call began with the pod that its evaluation is about. -/
def Begun (w : World) (i : Nat) (e : Evaluation) : Prop :=
  exists r pod, r ∈ w.past ∧ r.event = .apply i pod ∧ pod.metadata.uid = some e.uid ∧
    pod.metadata.ns = some e.ns ∧ pod.labels = e.labels

theorem Begun.step (h : w.Begun i e) (hstep : Steps c w event w')
    (hpod : e'.uid = e.uid ∧ e'.ns = e.ns ∧ e'.labels = e.labels) : w'.Begun i e' := by
  rcases h with ⟨r, pod, hr, hbegun⟩
  rcases hstep.past with ⟨r', _, hpast⟩
  rcases hpod with ⟨huid, hns, hlabels⟩
  refine ⟨r, pod, ?_, ?_⟩
  · rw [hpast]
    exact List.mem_cons_of_mem r' hr
  · rw [huid, hns, hlabels]
    exact hbegun

/-- Every evaluation is about a pod and based on listings. -/
def Grounded (c : Config) (w : World) : Prop :=
  forall i e asked, w.calls i = some (.active e asked) ->
    w.Begun i e ∧ Sourced c.mode w i e asked e.phase

theorem Grounded.step (h : w.Grounded c) (hstep : Steps c w event w') : w'.Grounded c := by
  intro i e asked hcall
  cases hbefore : w.calls i with
  | none =>
      rcases hstep.begun hbefore hcall with ⟨pod, rfl, hpod⟩
      rcases Call.ofPod_eq_active hpod.symm with ⟨huid, hns, hlabels, hphase, rfl⟩
      rcases hstep.past with ⟨r, hr, hpast⟩
      rw [hphase]
      exact ⟨⟨r, pod, by simp [hpast], hr, huid, hns, hlabels⟩, .start⟩
  | some call =>
      rcases hstep.call hbefore with ⟨hother, hkept⟩ | ⟨m, after, rfl, hmoves, hafter⟩
      · rw [hkept, Option.some.injEq] at hcall
        subst hcall
        rcases h i e asked hbefore with ⟨hbegun, hsourced⟩
        exact ⟨hbegun.step hstep ⟨rfl, rfl, rfl⟩,
          hsourced.other hstep (Event.moveOf?_eq_none hother)⟩
      · rw [hafter, Option.some.injEq] at hcall
        subst hcall
        rcases hmoves.active with ⟨e₀, asked₀, rfl⟩
        rcases h i e₀ asked₀ hbefore with ⟨hbegun, hsourced⟩
        exact ⟨hbegun.step hstep hmoves.samePod, hsourced.own hmoves hstep⟩

theorem grounded_of_run (h : run c events {} = some w) : w.Grounded c :=
  run_induction (fun _ _ _ hw hstep => hw.step hstep) h fun _ _ _ hcall => by cases hcall

/-!
# Current verdicts
-/

theorem Steps.returned {d : Dispatch} (h : Steps c w event w')
    (hbefore : (w.calls i).bind Call.returned? = none)
    (hafter : (w'.calls i).bind Call.returned? = some (.ok d)) (hd : d.isVerdict = true) :
    exists e asked verdict, w.calls i = some (.active e asked) ∧
      e.phase = .judged (w.state.generation e.ns) verdict ∧ d = verdict.dispatch := by
  rcases Option.bind_eq_some_iff.mp hafter with ⟨later, hlater, hreturned⟩
  cases hcall : w.calls i with
  | none =>
      rcases h.begun hcall hlater with ⟨pod, _, rfl⟩
      rw [Call.isVerdict_of_ofPod hreturned] at hd
      cases hd
  | some call =>
      rw [hcall] at hbefore
      rcases h.call hcall with ⟨_, hkept⟩ | ⟨m, after, _, hmoves, hnext⟩
      · rw [hkept] at hafter
        rw [hbefore] at hafter
        cases hafter
      · rw [hnext] at hafter
        rcases hmoves.returned hbefore hafter hd with ⟨e, asked, verdict, rfl, hjudged, hverdict⟩
        exact ⟨e, asked, verdict, rfl, hjudged, hverdict⟩

/-- Whenever a step makes a call return on a verdict, it is the verdict on the
pod that the call began with, by policies and endpoints of the namespace of the
pod that were both asked for after the last change of a policy there. -/
theorem verdict_current (c : Config) (events : List Event) (w w' : World) (event : Event)
    (i : Nat) (d : Dispatch) (h : run c events {} = some w)
    (hstep : w.step c event = some w') (hbefore : (w.calls i).bind Call.returned? = none)
    (hafter : (w'.calls i).bind Call.returned? = some (.ok d)) (hd : d.isVerdict = true) :
    exists r pod uid ns, r ∈ w.past ∧ r.event = .apply i pod ∧
      pod.metadata.uid = some uid ∧ pod.metadata.ns = some ns ∧
      exists since ask before policies, w.past = since ++ ask :: before ∧
        ask.event = .move i (.ask (.policies ns)) ∧
        (forall x, x ∈ since -> ¬ x.event.Resets ns) ∧
        let applicable := (PolicyIndex.ofList policies).applicable pod.labels
        let moves := since.filterMap fun x => x.event.moveOf? i
        (applicable = [] ∧ d = .unmanaged ∧ moves = [.receivePolicies (.ok policies)] ∨
          applicable ≠ [] ∧ exists endpoints,
            d = (judge c.mode uid applicable endpoints).dispatch ∧
            moves = [.receiveEndpoints (.ok endpoints), .ask (.endpoints ns),
              .receivePolicies (.ok policies)]) := by
  rcases (steps_of_step hstep).returned hbefore hafter hd with
    ⟨e, asked, verdict, hcall, hjudged, rfl⟩
  rcases grounded_of_run h i e asked hcall with
    ⟨⟨r, pod, hr, happly, huid, hns, hlabels⟩, hsourced⟩
  refine ⟨r, pod, e.uid, e.ns, hr, happly, huid, hns, ?_⟩
  rw [hlabels]
  rw [hjudged] at hsourced
  cases hsourced with
  | @unmanaged _ policies hnone hbased =>
      rcases hbased.asked with ⟨since, ask, before, hpast, hask, hsince, hfresh⟩
      exact ⟨since, ask, before, policies, hpast, hask, hfresh rfl,
        Or.inl ⟨hnone, rfl, hsince⟩⟩
  | @judged _ policies endpoints _ hsome hverdict hbased =>
      rcases hbased.asked with ⟨since, ask, before, hpast, hask, hsince, hfresh⟩
      exact ⟨since, ask, before, policies, hpast, hask, hfresh rfl,
        Or.inr ⟨hsome, endpoints, by rw [hverdict], hsince⟩⟩

/-- A policy changes while the endpoints are listed.  The first verdict is given
up, and the second one is committed. -/
theorem verdict_current_after_change :
    let c : Config := { node := "node" }
    let pod : Pod :=
      { metadata := { uid := some "u", ns := some "default" },
        spec := some { nodeName := some "node" } }
    let policy : Policy := { metadata := { name := some "web", ns := some "default" }, spec := {} }
    let endpoint : EndpointResource :=
      { metadata := { uid := some "e", ns := some "default" },
        spec := { podUid := "u", netns := "/run/netns/pod" } }
    let events : List Event :=
      [.apply 0 pod, .move 0 .check, .move 0 (.ask (.policies "default")),
        .move 0 (.receivePolicies (.ok [policy])), .move 0 (.ask (.endpoints "default")),
        .policy (.delete policy), .move 0 (.receiveEndpoints (.ok [endpoint])),
        .move 0 .commit, .move 0 .check, .move 0 (.ask (.policies "default")),
        .move 0 (.receivePolicies (.ok []))]
    exists w w', run c events {} = some w ∧ w.step c (.move 0 .commit) = some w' ∧
      (w'.calls 0).bind Call.returned? = some (.ok .unmanaged) ∧
      exists r pod ns since ask before, r ∈ w.past ∧ r.event = .apply 0 pod ∧
        pod.metadata.ns = some ns ∧ w.past = since ++ ask :: before ∧
        ask.event = .move 0 (.ask (.policies ns)) ∧
        forall x, x ∈ since -> ¬ x.event.Resets ns := by
  intro c pod policy endpoint events
  have hend : (run c events {}).map (fun w => (((w.calls 0).bind Call.returned?).isNone,
      ((w.step c (.move 0 .commit)).bind fun w' => (w'.calls 0).bind Call.returned?).map
        fun result => result.toOption.map Dispatch.name)) =
      some (true, some (some "Unmanaged")) := by
    decide +kernel
  rcases Option.map_eq_some_iff.mp hend with ⟨w, hw, hpair⟩
  obtain ⟨hbefore, hname⟩ := Prod.mk.inj hpair
  rcases Option.map_eq_some_iff.mp hname with ⟨result, hresult, hname⟩
  rcases Option.bind_eq_some_iff.mp hresult with ⟨w', hstep, hafter⟩
  have hunmanaged : result = .ok .unmanaged := by
    rcases result with message | d
    · cases hname
    · cases d <;> simp_all [Except.toOption, Dispatch.name]
  subst hunmanaged
  rcases verdict_current c events w w' (.move 0 .commit) 0 .unmanaged hw hstep
    (Option.isNone_iff_eq_none.mp hbefore) hafter rfl with
    ⟨r, pod, uid, ns, hr, happly, _, hns, since, ask, before, policies, hpast, hask, hfresh, _⟩
  exact ⟨w, w', hw, hstep, hafter, r, pod, ns, since, ask, before, hr, happly, hns, hpast, hask,
    hfresh⟩

end World

end Controller

end PodIsolation
