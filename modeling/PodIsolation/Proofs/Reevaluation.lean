import PodIsolation.Proofs.Isolation
import PodIsolation.Proofs.NamespaceFrame
import PodIsolation.Proofs.RehearsedRun

/-!
# Evaluating a pod again

## What remains of earlier evaluations

Steps are played one after the other, and provisioning meets no faults.  When a
pod is evaluated anew and its rules are provisioned, nothing remains of what was
provisioned before: the pod is isolated as a new controller would isolate it.
When no policy applies to the pod any more, its namespace is not entered, and all
that was provisioned there remains.
-/

namespace PodIsolation

namespace Tables

/-- The same packets are accepted in the built-in chains. -/
def AcceptsLike (t u : Tables) : Prop :=
  forall services chain p, chain ∈ [inputChain, outputChain, forwardChain] ->
    (t.Accepts services chain p <-> u.Accepts services chain p)

variable {s : RuleSet} {t u : Tables}

/-- A rule set decides what is accepted, whatever the tables were before. -/
theorem Settled.acceptsLike (ht : Settled s t) (hu : Settled s u) (haccepting : s.Accepting) :
    t.AcceptsLike u := by
  intro services chain p hchain
  have hgate : forall d, t.Accepts services (ChainId.builtin ⟨d, p.family⟩) p <->
      u.Accepts services (ChainId.builtin ⟨d, p.family⟩) p := by
    intro d
    rw [ht.accepts_gate_iff (c := ⟨d, p.family⟩) haccepting rfl,
      hu.accepts_gate_iff (c := ⟨d, p.family⟩) haccepting rfl]
  simp only [List.mem_cons, List.not_mem_nil, or_false] at hchain
  rcases hchain with rfl | rfl | rfl
  · exact hgate .ingress
  · exact hgate .egress
  · rw [ht.accepts_forward_iff, hu.accepts_forward_iff]

theorem accepts_empty (services : Services) (chain : String) (p : Packet) :
    Accepts {} services chain p := by
  rw [accepts_iff, contents_empty]
  exact Or.inr rfl

/-- Once a rule set has been provisioned, some packet is rejected. -/
theorem Settled.not_acceptsLike_empty (h : Settled s t) : ¬ t.AcceptsLike {} := by
  intro hlike
  let p : Packet := { source := .v4 ⟨10, 0, 0, 1⟩, dest := .v4 ⟨10, 0, 0, 2⟩ }
  have hforward := (hlike (fun _ _ _ => false) forwardChain p (by simp)).mpr (accepts_empty _ _ p)
  have hlo : p.inInterface = some loopback := h.accepts_forward_iff.mp hforward
  cases hlo

end Tables

/-!
# Kernels between runs
-/

namespace Kernel

/-- Nothing stands in the way of provisioning.  Each namespace has not been used
yet, or some rule set has been provisioned there last. -/
structure Steady (k : Kernel) : Prop where
  faults : k.faults = []
  present : forall path, k.missing.get? path = none
  tables : forall path, k.tables path = {} ∨ exists s, Tables.Settled s (k.tables path)

variable {k : Kernel}

theorem steady_new : Steady {} :=
  ⟨rfl, fun _ => rfl, fun _ => Or.inl rfl⟩

theorem Steady.orderly (h : k.Steady) (path : String) : (k.tables path).Orderly := by
  rcases h.tables path with hempty | ⟨s, hsettled⟩
  · rw [hempty]
    exact Tables.blank_empty.orderly
  · exact hsettled.orderly

theorem Steady.settled_provision (h : k.Steady) (s : RuleSet) :
    Tables.Settled s ((host.provision k s).1.tables s.netns) := by
  rw [(provision_ready ⟨h.faults, h.present s.netns⟩).left, if_pos rfl]
  exact Tables.settled_provisioned s (h.orderly s.netns)

theorem Steady.provision (h : k.Steady) (s : RuleSet) : (host.provision k s).1.Steady := by
  obtain ⟨_, hready, _⟩ := provision_ready ⟨h.faults, h.present s.netns⟩
  refine ⟨hready.faults, ?_, ?_⟩
  · rw [provision_missing onKernel_host]
    exact h.present
  · intro path
    by_cases hpath : path = s.netns
    · exact Or.inr ⟨s, hpath ▸ h.settled_provision s⟩
    · rw [provision_others onKernel_host s hpath]
      exact h.tables path

end Kernel

namespace Rehearsal

open Controller (Call Config Evaluation)

namespace Scene

variable {s : Scene} {e : Evaluation} {c : Config}

/-!
# Scenes without interludes
-/

theorem runInterludes_of_nil (h : s.interludes = []) (fuel : Nat) (listing : Listing) :
    runInterludes fuel listing s = s := by
  cases fuel with
  | zero => simp only [runInterludes]
  | succ fuel => simp only [runInterludes, nextInterlude, h]

/-- What all scenes have in common that are played without interludes and faults. -/
structure Quiet (c : Config) (s : Scene) : Prop where
  config : s.config = c
  interludes : s.interludes = []
  kernel : s.kernel.Steady

theorem quiet_new (c : Config) : Quiet c { config := c } :=
  ⟨rfl, rfl, Kernel.steady_new⟩

theorem Quiet.congr (h : s.Quiet c) {s' : Scene} (hconfig : s'.config = s.config)
    (hinterludes : s'.interludes = s.interludes) (hkernel : s'.kernel = s.kernel) :
    s'.Quiet c :=
  ⟨hconfig.trans h.config, hinterludes.trans h.interludes, hkernel ▸ h.kernel⟩

theorem Quiet.controlled (h : s.Quiet c) (controller : Controller.State) :
    Quiet c { s with controller } :=
  h.congr rfl rfl rfl

theorem Quiet.provision (h : s.Quiet c) (rules : RuleSet) : (s.provision rules).Quiet c :=
  ⟨h.config, h.interludes, h.kernel.provision rules⟩

theorem Quiet.report (h : s.Quiet c) (result : Result) : (s.report result).1.Quiet c := by
  unfold Scene.report
  split
  · exact h
  · exact ⟨h.config, h.interludes, h.kernel.faults, h.kernel.present, h.kernel.tables⟩

theorem Quiet.evaluate (h : s.Quiet c) (fuel : Nat) (e : Evaluation) :
    (evaluate fuel e s).1.Quiet c := by
  induction fuel generalizing e s with
  | zero =>
      unfold Scene.evaluate
      exact h
  | succ fuel ih =>
      unfold Scene.evaluate
      cases e.phase with
      | start | judged generation verdict => exact ih (h.controlled _) _
      | awaitingPolicies generation | awaitingEndpoints generation applicable =>
          dsimp only
          rw [runInterludes_of_nil h.interludes]
          split <;> exact ih h _
      | ended result =>
          rcases result with message | d
          · exact h
          · cases d with
            | provisioning rules => exact h.provision rules
            | _ => exact h

theorem Quiet.applyPod (h : s.Quiet c) (fuel : Nat) (pod : Pod) :
    (applyPod fuel pod s).1.Quiet c := by
  unfold Scene.applyPod
  split
  · exact h
  · split
    · exact h
    · exact h.evaluate _ _

theorem Quiet.watchPods (h : s.Quiet c) (fuel : Nat) (notices : List (Notice Pod)) :
    (watchPods fuel notices s).1.Quiet c := by
  induction fuel generalizing notices s with
  | zero =>
      unfold Scene.watchPods
      exact h
  | succ fuel ih =>
      unfold Scene.watchPods
      cases notices with
      | nil => exact h
      | cons n rest =>
          dsimp only
          cases n.reaction with
          | deliver d =>
              cases d with
              | apply pod => exact ih (h.applyPod fuel pod) rest
              | delete pod => exact ih (h.controlled _) rest
          | pass => exact ih h rest
          | fail e => exact h

theorem Quiet.perform (h : s.Quiet c) (fuel : Nat) {step : Step}
    (hfaults : forall faults missing, step ≠ .setFaults faults missing) :
    (perform fuel step s).1.Quiet c := by
  unfold Scene.perform
  cases fuel with
  | zero => exact h
  | succ fuel =>
      cases step with
      | applyPod pod => exact h.applyPod fuel pod
      | watchPods notices => exact h.watchPods fuel notices
      | setFaults faults missing => exact absurd rfl (hfaults faults missing)
      | _ => exact h.congr rfl rfl rfl

theorem Quiet.play (h : s.Quiet c) {step : Step}
    (hfaults : forall faults missing, step ≠ .setFaults faults missing) :
    (s.play step []).1.Quiet c := by
  have hready : Quiet c { s with interludes := [], asides := [] } :=
    ⟨h.config, rfl, h.kernel⟩
  have hend := hready.perform (bound step []) hfaults
  unfold Scene.play
  dsimp only
  apply Quiet.report
  exact ⟨hend.config, rfl, hend.kernel⟩

/-- Plays steps one after the other with nothing in between. -/
def playAll (s : Scene) (steps : List Step) : Scene :=
  steps.foldl (fun s step => (s.play step []).1) s

theorem Quiet.playAll (h : s.Quiet c) {steps : List Step}
    (hfaults : forall faults missing, Step.setFaults faults missing ∉ steps) :
    (s.playAll steps).Quiet c := by
  induction steps generalizing s with
  | nil => exact h
  | cons step rest ih =>
      apply ih
      · apply h.play
        rintro faults missing rfl
        exact hfaults faults missing List.mem_cons_self
      · exact fun faults missing hmem => hfaults faults missing (List.mem_cons_of_mem step hmem)

/-!
# Evaluations without interludes

An evaluation goes through its phases one after the other.
-/

section Phases

variable {fuel generation : Nat}

theorem evaluate_start (hphase : e.phase = .start) :
    evaluate (fuel + 1) e s =
      evaluate fuel (e.check s.controller).2
        { s with controller := (e.check s.controller).1 } := by
  rw [evaluate, hphase]

theorem evaluate_awaitingPolicies (h : s.interludes = [])
    (hphase : e.phase = .awaitingPolicies generation) :
    evaluate (fuel + 1) e s =
      evaluate fuel (e.receivePolicies generation (s.listPolicies e.ns)) s := by
  rw [evaluate, hphase]
  dsimp only [Evaluation.policiesRequest, ListRequest.ns]
  rw [runInterludes_of_nil h]
  split <;> rename_i hlisted <;> rw [hlisted]

theorem evaluate_awaitingEndpoints {applicable : List Policy} (h : s.interludes = [])
    (hphase : e.phase = .awaitingEndpoints generation applicable) :
    evaluate (fuel + 1) e s =
      evaluate fuel
        (e.receiveEndpoints s.config.mode generation applicable (s.listEndpoints e.ns)) s := by
  rw [evaluate, hphase]
  dsimp only [Evaluation.endpointsRequest, ListRequest.ns]
  rw [runInterludes_of_nil h]
  split <;> rename_i hlisted <;> rw [hlisted]

theorem evaluate_judged {verdict : Controller.Verdict}
    (hphase : e.phase = .judged generation verdict) :
    evaluate (fuel + 1) e s =
      evaluate fuel (e.commit s.controller generation verdict).2
        { s with controller := (e.commit s.controller generation verdict).1 } := by
  rw [evaluate, hphase]

theorem evaluate_failed {message : String} (hphase : e.phase = .ended (.error message)) :
    evaluate (fuel + 1) e s = (s, .failed message) := by
  unfold evaluate
  rw [hphase]

theorem evaluate_returned {d : Controller.Dispatch} (hphase : e.phase = .ended (.ok d)) :
    (evaluate (fuel + 1) e s).2 = .dispatched d := by
  unfold evaluate
  rw [hphase]
  dsimp only
  split <;> rfl

end Phases

theorem judge_eq_compiled {mode : EntryMode} {uid : String} {applicable : List Policy}
    {endpoints : List EndpointResource} {rules : RuleSet}
    (h : Controller.judge mode uid applicable endpoints = .compiled rules) :
    (EndpointIndex.ofResources endpoints uid).netns? = some rules.netns ∧ rules.Accepting := by
  unfold Controller.judge at h
  dsimp only at h
  split at h
  · cases h
  · rename_i netns hnetns
    cases h
    rw [netns_compile]
    exact ⟨hnetns, fun _ _ => target_of_mem_compile⟩

/-- What the listings of a scene say of a pod, both taken at the same moment. -/
def ruling (s : Scene) (e : Evaluation) : Except String Controller.Verdict :=
  match s.listPolicies e.ns with
  | .error message => .error message
  | .ok policies =>
      let applicable := (PolicyIndex.ofList policies).applicable e.labels
      if applicable.isEmpty then .ok .unmanaged
      else match s.listEndpoints e.ns with
        | .error message => .error message
        | .ok endpoints => .ok (Controller.judge s.config.mode e.uid applicable endpoints)

theorem ruling_eq_compiled {rules : RuleSet} (h : s.ruling e = .ok (.compiled rules)) :
    (EndpointIndex.ofResources ((s.endpoints.get? e.ns).getD []) e.uid).netns? =
      some rules.netns ∧ rules.Accepting := by
  unfold ruling at h
  split at h
  · cases h
  · dsimp only at h
    split at h
    · cases h
    · unfold listEndpoints at h
      cases hfailure : s.endpointsFailure with
      | some message =>
          rw [hfailure] at h
          cases h
      | none =>
          rw [hfailure] at h
          exact judge_eq_compiled (Except.ok.inj h)

/-- What a ruling makes of a kernel: compiled rules are provisioned. -/
def carryOut (k : Kernel) : Except String Controller.Verdict -> Kernel
  | .ok (.compiled rules) => (Kernel.host.provision k rules).1
  | _ => k

/-- What applying a pod comes to on a ruling. -/
def answer : Except String Controller.Verdict -> Result
  | .error message => .failed message
  | .ok verdict => .dispatched verdict.dispatch

theorem evaluate_verdict (hnew : s.controller.isMarked e.uid = false) (fuel : Nat)
    (verdict : Controller.Verdict) :
    let played := evaluate (fuel + 2)
      (e.goto (.judged (s.controller.generation e.ns) verdict)) s
    played.2 = answer (.ok verdict) ∧ played.1.kernel = carryOut s.kernel (.ok verdict) := by
  intro played
  have hplayed : played = _ := evaluate_judged rfl
  rw [hplayed]
  cases verdict with
  | unmanaged | noEndpoints =>
      simp [Evaluation.commit, Evaluation.goto, evaluate, answer, carryOut,
        Controller.Verdict.dispatch]
  | compiled rules =>
      simp [Evaluation.commit, Evaluation.goto, evaluate, answer, carryOut,
        Controller.Verdict.dispatch, hnew]
      rfl

theorem evaluate_of_marked (hstart : e.phase = .start)
    (hmarked : s.controller.isMarked e.uid = true) (fuel : Nat) :
    (evaluate (fuel + 2) e s).2 = .dispatched .alreadyProvisioned := by
  rw [evaluate_start hstart]
  apply evaluate_returned
  simp [Evaluation.check, Evaluation.goto, hmarked]

/-- An evaluation with nothing in between comes to what the listings say. -/
theorem evaluate_of_new (h : s.interludes = []) (hstart : e.phase = .start)
    (hnew : s.controller.isMarked e.uid = false) (fuel : Nat) :
    let played := evaluate (fuel + 5) e s
    played.2 = answer (s.ruling e) ∧ played.1.kernel = carryOut s.kernel (s.ruling e) := by
  intro played
  -- That the evaluation has begun is counted, which changes no listing and no mark.
  let noted : Scene :=
    { s with
      controller := { s.controller with metrics := s.controller.metrics.countEvaluated } }
  have hchecked : e.check s.controller =
      (noted.controller, e.goto (.awaitingPolicies (noted.controller.generation e.ns))) := by
    simp [Evaluation.check, hnew, noted, Controller.State.generation]
  have hplayed : played = evaluate (fuel + 3)
      ((e.goto (.awaitingPolicies (noted.controller.generation e.ns))).receivePolicies
        (noted.controller.generation e.ns) (s.listPolicies e.ns)) noted := by
    rw [show played = _ from evaluate_start hstart, hchecked]
    exact evaluate_awaitingPolicies (s := noted) h rfl
  rw [hplayed, ruling]
  cases s.listPolicies e.ns with
  | error message =>
      rw [evaluate_failed rfl]
      exact ⟨rfl, rfl⟩
  | ok policies =>
      -- Without applicable policies the endpoints are not listed.
      by_cases hnone : ((PolicyIndex.ofList policies).applicable e.labels).isEmpty = true
      · simp only [Evaluation.receivePolicies, Evaluation.goto, hnone, if_true]
        exact evaluate_verdict (s := noted) hnew (fuel + 1) .unmanaged
      · rw [Bool.not_eq_true] at hnone
        simp only [Evaluation.receivePolicies, Evaluation.goto, hnone, Bool.false_eq_true, if_false]
        rw [evaluate_awaitingEndpoints (s := noted) h rfl]
        have hlisted : noted.listEndpoints e.ns = s.listEndpoints e.ns := rfl
        rw [hlisted]
        cases s.listEndpoints e.ns with
        | error message =>
            rw [evaluate_failed rfl]
            exact ⟨rfl, rfl⟩
        | ok endpoints => exact evaluate_verdict (s := noted) hnew fuel _

/-!
# Applying a pod
-/

theorem tables_report (s : Scene) (result : Result) (path : String) :
    (s.report result).1.kernel.tables path = s.kernel.tables path := by
  unfold Scene.report
  split <;> rfl

variable {pod : Pod}

theorem play_refused {d : Controller.Dispatch}
    (hrefused : Controller.admission s.config pod = .error d) :
    (s.play (.applyPod pod) []).2.1.result = .dispatched d := by
  unfold play
  dsimp only
  rw [result_report, show bound (.applyPod pod) [] = 22 + 2 from rfl, perform, applyPod, hrefused]

theorem play_admitted (hadmitted : Controller.admission s.config pod = .ok e) :
    let played := evaluate 22 e { s with interludes := [], asides := [] }
    (s.play (.applyPod pod) []).2.1.result = played.2 ∧
      forall path, (s.play (.applyPod pod) []).1.kernel.tables path =
        played.1.kernel.tables path := by
  intro played
  have hplayed : perform (bound (.applyPod pod) []) (.applyPod pod)
      { s with interludes := [], asides := [] } = played := by
    rw [show bound (.applyPod pod) [] = 22 + 2 from rfl, perform, applyPod, hadmitted]
  unfold play
  dsimp only
  rw [hplayed]
  exact ⟨result_report _ _, tables_report _ _⟩

theorem ofPod_of_admitted (hadmitted : Controller.admission c pod = .ok e) :
    Call.ofPod c pod = .active e false := by
  rw [Call.ofPod, hadmitted]

theorem phase_of_admitted (hadmitted : Controller.admission c pod = .ok e) : e.phase = .start :=
  (Call.ofPod_eq_active (ofPod_of_admitted hadmitted)).2.2.2.1

/-- A pod that is evaluated to the end is admitted, and the ruling on it is
carried out. -/
theorem play_ruled {d : Controller.Dispatch} (hd : d.isVerdict = true)
    (hresult : (s.play (.applyPod pod) []).2.1.result = .dispatched d) :
    exists e verdict, Controller.admission s.config pod = .ok e ∧
      s.ruling e = .ok verdict ∧ d = verdict.dispatch ∧
      forall path, (s.play (.applyPod pod) []).1.kernel.tables path =
        (carryOut s.kernel (.ok verdict)).tables path := by
  cases hadmitted : Controller.admission s.config pod with
  | error refused =>
      rw [play_refused hadmitted] at hresult
      cases hresult
      -- What admission refuses has no verdict.
      have hcall : (Call.ofPod s.config pod).returned? = some (.ok d) := by
        rw [Call.ofPod, hadmitted]
        rfl
      rw [Call.isVerdict_of_ofPod hcall] at hd
      cases hd
  | ok e =>
      obtain ⟨hplayed, htables⟩ := play_admitted hadmitted
      have hstart := phase_of_admitted hadmitted
      rw [hplayed] at hresult
      let ready : Scene := { s with interludes := [], asides := [] }
      cases hmarked : s.controller.isMarked e.uid with
      | true =>
          rw [evaluate_of_marked (s := ready) hstart hmarked 20] at hresult
          cases hresult
          cases hd
      | false =>
          obtain ⟨hanswer, hkernel⟩ := evaluate_of_new (s := ready) rfl hstart hmarked 17
          rw [hanswer] at hresult
          rw [hkernel] at htables
          have hruling : ready.ruling e = s.ruling e := rfl
          rw [hruling] at hresult htables
          cases hverdict : s.ruling e with
          | error message =>
              rw [hverdict] at hresult
              cases hresult
          | ok verdict =>
              rw [hverdict] at hresult htables
              cases hresult
              exact ⟨e, verdict, rfl, hverdict, rfl, htables⟩

/-- A new controller in the same cluster, with network namespaces not used yet. -/
def renewed (s : Scene) : Scene :=
  { config := s.config, policies := s.policies, endpoints := s.endpoints }

theorem ruling_renewed {verdict : Controller.Verdict} (h : s.ruling e = .ok verdict) :
    s.renewed.ruling e = .ok verdict := by
  unfold ruling listPolicies listEndpoints at h ⊢
  cases hpolicies : s.policiesFailure with
  | some message =>
      rw [hpolicies] at h
      cases h
  | none =>
      rw [hpolicies] at h
      dsimp only [renewed] at h ⊢
      split at h
      · rename_i hnone
        rw [if_pos hnone]
        exact h
      · rename_i hsome
        rw [if_neg hsome]
        cases hendpoints : s.endpointsFailure with
        | some message =>
            rw [hendpoints] at h
            cases h
        | none =>
            rw [hendpoints] at h
            exact h

theorem play_renewed {verdict : Controller.Verdict}
    (hadmitted : Controller.admission s.config pod = .ok e) (h : s.ruling e = .ok verdict) :
    (s.renewed.play (.applyPod pod) []).2.1.result = .dispatched verdict.dispatch ∧
      forall path, (s.renewed.play (.applyPod pod) []).1.kernel.tables path =
        (carryOut {} (.ok verdict)).tables path := by
  obtain ⟨hplayed, htables⟩ := play_admitted (s := s.renewed) hadmitted
  obtain ⟨hanswer, hkernel⟩ := evaluate_of_new (s := s.renewed) rfl (phase_of_admitted hadmitted)
    rfl 17
  rw [ruling_renewed h] at hanswer hkernel
  refine ⟨hplayed.trans hanswer, ?_⟩
  intro path
  rw [htables path]
  exact congrArg (Kernel.tables · path) hkernel

theorem exists_dispatch_of_name {result : Result} {name : String}
    (h : result.returned?.bind (fun x => x.toOption.map Controller.Dispatch.name) = some name) :
    exists d, result = .dispatched d ∧ d.name = name := by
  cases result with
  | dispatched d => exact ⟨d, rfl, Option.some.inj h⟩
  | _ => cases h

/-- What the last verdict on a pod says of its network namespace.  The steps
before may be any but faults.  If rules were dispatched, the namespace accepts
what it accepts under a new controller.  If no policy applies, no namespace has
changed: a new controller would let everything pass, and here everything passes
if and only if nothing had been provisioned in the namespace before. -/
theorem reapplied_acceptsLike (config : Config) (history : List Step)
    (hfaults : forall faults missing, Step.setFaults faults missing ∉ history) (pod : Pod)
    (uid ns netns : String) (huid : pod.metadata.uid = some uid) (hns : pod.metadata.ns = some ns) :
    let s := playAll { config } history
    let listed := EndpointIndex.ofResources ((s.endpoints.get? ns).getD []) uid
    let after := s.play (.applyPod pod) []
    let renewed := s.renewed.play (.applyPod pod) []
    let agrees := (after.1.kernel.tables netns).AcceptsLike (renewed.1.kernel.tables netns)
    listed.netns? = some netns ->
    (forall rules, after.2.1.result = .dispatched (.provisioning rules) ->
      rules.netns = netns ∧ renewed.2.1.result = .dispatched (.provisioning rules) ∧ agrees) ∧
    (after.2.1.result = .dispatched .unmanaged ->
      renewed.2.1.result = .dispatched .unmanaged ∧
      (forall services chain p,
        (renewed.1.kernel.tables netns).Accepts services chain p) ∧
      (forall path, after.1.kernel.tables path = s.kernel.tables path) ∧
      (agrees <-> s.kernel.tables netns = {})) := by
  intro s listed after renewed agrees hnetns
  have hquiet : s.Quiet config := (quiet_new config).playAll hfaults
  constructor
  · intro rules hresult
    rcases play_ruled rfl hresult with ⟨e, verdict, hadmitted, hruling, hverdict, htables⟩
    obtain ⟨hrenewed, hfresh⟩ := play_renewed hadmitted hruling
    cases verdict with
    | noEndpoints | unmanaged => cases hverdict
    | compiled compiled =>
        cases hverdict
        obtain ⟨hplace, haccepting⟩ := ruling_eq_compiled hruling
        obtain ⟨huid', hns', _⟩ := Call.ofPod_eq_active (ofPod_of_admitted hadmitted)
        cases huid.symm.trans huid'
        cases hns.symm.trans hns'
        cases hnetns.symm.trans hplace
        refine ⟨rfl, hrenewed, ?_⟩
        show (after.1.kernel.tables rules.netns).AcceptsLike (renewed.1.kernel.tables rules.netns)
        rw [htables rules.netns, hfresh rules.netns]
        exact (hquiet.kernel.settled_provision rules).acceptsLike
          (Kernel.steady_new.settled_provision rules) haccepting
  · intro hresult
    rcases play_ruled rfl hresult with ⟨e, verdict, hadmitted, hruling, hverdict, htables⟩
    obtain ⟨hrenewed, hfresh⟩ := play_renewed hadmitted hruling
    cases verdict with
    | noEndpoints | compiled rules => cases hverdict
    | unmanaged =>
        have hempty : renewed.1.kernel.tables netns = {} := hfresh netns
        refine ⟨hrenewed, ?_, htables, ?_⟩
        · rw [hempty]
          exact Tables.accepts_empty
        · have hkept : after.1.kernel.tables netns = s.kernel.tables netns := htables netns
          show (after.1.kernel.tables netns).AcceptsLike (renewed.1.kernel.tables netns) <-> _
          rw [hempty, hkept]
          constructor
          · intro hagrees
            rcases hquiet.kernel.tables netns with hunused | ⟨rules, hsettled⟩
            · exact hunused
            · exact absurd hagrees hsettled.not_acceptsLike_empty
          · intro hunused services chain p _
            rw [hunused]

/-- A pod whose policy has changed is provisioned again. -/
theorem reapplied_acceptsLike_after_change :
    let pod : Pod :=
      { metadata := { uid := some "u", ns := some "default" },
        spec := some { nodeName := some "node" } }
    let endpoint : EndpointResource :=
      { metadata := { uid := some "e", ns := some "default" },
        spec := { podUid := "u", netns := "/run/netns/pod" } }
    let policy : Policy := { metadata := { name := some "web", ns := some "default" }, spec := {} }
    let history : List Step :=
      [.setListings [("default", [policy])] [("default", [endpoint])], .applyPod pod,
        .changePolicy policy]
    let s := playAll { config := { node := "node" } } history
    let after := s.play (.applyPod pod) []
    let renewed := s.renewed.play (.applyPod pod) []
    (forall faults missing, Step.setFaults faults missing ∉ history) ∧
    s.kernel.tables "/run/netns/pod" ≠ {} ∧
    (exists rules, after.2.1.result = .dispatched (.provisioning rules)) ∧
    (after.1.kernel.tables "/run/netns/pod").AcceptsLike
      (renewed.1.kernel.tables "/run/netns/pod") := by
  intro pod endpoint policy history s after renewed
  have hfaults : forall faults missing, Step.setFaults faults missing ∉ history := by
    simp [history]
  have hnetns : (EndpointIndex.ofResources ((s.endpoints.get? "default").getD []) "u").netns? =
      some "/run/netns/pod" := by
    decide +kernel
  have hname : after.2.1.result.returned?.bind
      (fun x => x.toOption.map Controller.Dispatch.name) = some "Provisioning" := by
    decide +kernel
  have hused : s.kernel.tables "/run/netns/pod" ≠ {} := by
    decide +kernel
  have hagrees := (reapplied_acceptsLike { node := "node" } history hfaults pod "u"
    "default" "/run/netns/pod" rfl rfl hnetns).1
  rw [show playAll { config := { node := "node" } } history = s from rfl,
    show s.play (.applyPod pod) [] = after from rfl,
    show s.renewed.play (.applyPod pod) [] = renewed from rfl] at hagrees
  rcases exists_dispatch_of_name hname with ⟨d, hresult, hname⟩
  cases d with
  | provisioning rules => exact ⟨hfaults, hused, ⟨rules, hresult⟩, (hagrees rules hresult).2.2⟩
  | _ => simp [Controller.Dispatch.name] at hname

/-- The only policy of a pod is deleted.  The pod is evaluated again and no policy
applies, but its namespace still rejects what it receives. -/
theorem rejecting_after_last_policy :
    let pod : Pod :=
      { metadata := { uid := some "u", ns := some "default" },
        spec := some { nodeName := some "node" } }
    let endpoint : EndpointResource :=
      { metadata := { uid := some "e", ns := some "default" },
        spec := { podUid := "u", netns := "/run/netns/pod" } }
    let policy : Policy := { metadata := { name := some "web", ns := some "default" }, spec := {} }
    let s := playAll { config := { node := "node" } }
      [.setListings [("default", [policy])] [("default", [endpoint])], .applyPod pod,
        .setListings [("default", [])] [], .changePolicy policy]
    let after := s.play (.applyPod pod) []
    let renewed := s.renewed.play (.applyPod pod) []
    let p : Packet :=
      { source := .v4 ⟨10, 0, 0, 5⟩, dest := .v4 ⟨10, 0, 0, 9⟩, inInterface := some "eth0" }
    after.2.1.result = .dispatched .unmanaged ∧
    (renewed.1.kernel.tables "/run/netns/pod").Accepts (fun _ _ _ => false) "INPUT" p ∧
    ¬ (after.1.kernel.tables "/run/netns/pod").Accepts (fun _ _ _ => false) "INPUT" p := by
  intro pod endpoint policy s after renewed p
  refine ⟨?_, by decide +kernel, by decide +kernel⟩
  have hname : after.2.1.result.returned?.bind
      (fun x => x.toOption.map Controller.Dispatch.name) = some "Unmanaged" := by
    decide +kernel
  rcases exists_dispatch_of_name hname with ⟨d, hresult, hname⟩
  cases d with
  | unmanaged => exact hresult
  | _ => simp [Controller.Dispatch.name] at hname

end Scene

end Rehearsal

end PodIsolation
