import PodIsolation.Proofs.ListingRequests
import PodIsolation.Proofs.MarkHistory
import PodIsolation.Proofs.NamespaceFrame
import PodIsolation.Proofs.Reevaluation

/-!
# Network namespaces that are entered

## A controller and its threads

A controller never touches a network namespace itself.  For each pod whose rules
it dispatches, a thread of its own enters the namespace of the rule set, makes
the calls of provisioning there and leaves it.  Calls that apply pods, events of
policies and the threads of earlier dispatches go on side by side.  Whatever
becomes of the listings and of the calls to the packet filter, a thread enters
only the namespace of the first endpoint of a pod of the node that a listed
policy applies to.
-/

namespace PodIsolation

/-- The policy applies to pods with the labels. -/
def Policy.AppliesTo (p : Policy) (labels : Labels) : Prop :=
  p.asksForNothing = true ∨ exists pair, pair ∈ labels.entries ∧ p.asksFor pair = true

/-- The first of the listed endpoints that belongs to a pod. -/
def firstEndpoint? (resources : List EndpointResource) (uid : String) : Option Endpoint :=
  (listedEndpoints resources).find? fun e => e.workload.uid = uid

theorem exists_appliesTo {policies : List Policy} {labels : Labels}
    (h : (PolicyIndex.ofList policies).applicable labels ≠ []) :
    exists p, p ∈ policies ∧ p.AppliesTo labels := by
  rw [applicable_eq, applicablePolicies, ← keepFirst_eq Policy.key] at h
  rcases List.exists_mem_of_ne_nil _ h with ⟨p, hp⟩
  rcases List.mem_append.mp ((keepFirst_sublist Policy.key _).mem hp) with hp | hp
  · rcases List.mem_flatMap.mp hp with ⟨pair, hpair, hp⟩
    obtain ⟨hlisted, hasks⟩ := List.mem_filter.mp hp
    exact ⟨p, hlisted, Or.inr ⟨pair, hpair, hasks⟩⟩
  · obtain ⟨hlisted, hasks⟩ := List.mem_filter.mp hp
    exact ⟨p, hlisted, Or.inl hasks⟩

theorem netns?_ofResources (resources : List EndpointResource) (uid : String) :
    (EndpointIndex.ofResources resources uid).netns? =
      (firstEndpoint? resources uid).map Endpoint.netns := by
  unfold EndpointIndex.netns? firstEndpoint?
  rw [(indexes_ofResources resources uid).workloadEndpoints, List.head?_filter]

namespace Controller

/-!
# Warrants
-/

/-- A call has applied a pod of the node, has asked for the policies and then for the
endpoints of the namespace of the pod, and has been answered with these listings.  It
has asked for no listing of another namespace.  Some of the policies applies to the
pod, and the endpoint is the first one of the pod. -/
structure Warrant (c : Config) (past : List Record) (pod : Pod) (policies : List Policy)
    (resources : List EndpointResource) (e : Endpoint) : Prop where
  onNode : pod.nodeName = some c.node
  listed : exists i ns later commit since ask before,
    past = later ++ commit :: (since ++ ask :: before) ∧
    (exists r, r ∈ since ++ ask :: before ∧ r.event = .apply i pod) ∧
    pod.metadata.ns = some ns ∧
    ask.event = .move i (.ask (.policies ns)) ∧
    since.filterMap (fun x => x.event.moveOf? i) =
      [.receiveEndpoints (.ok resources), .ask (.endpoints ns),
        .receivePolicies (.ok policies)] ∧
    commit.event = .move i .commit ∧
    forall x q, x ∈ since ++ ask :: before -> x.event = .move i (.ask q) -> q.ns = ns
  applies : exists p, p ∈ policies ∧ p.AppliesTo pod.labels
  first : exists uid, pod.metadata.uid = some uid ∧ firstEndpoint? resources uid = some e

/-- The network namespace is that of an endpoint for which there is a warrant. -/
def Warranted (c : Config) (past : List Record) (path : String) : Prop :=
  exists pod policies resources e, Warrant c past pod policies resources e ∧ path = e.netns

theorem Warranted.cons {past : List Record} {path : String} (h : Warranted c past path)
    (r : Record) : Warranted c (r :: past) path := by
  rcases h with ⟨pod, policies, resources, e, ⟨hnode, hlisted, happlies, hfirst⟩, hpath⟩
  rcases hlisted with ⟨i, ns, later, commit, since, ask, before, hpast, hlisted⟩
  refine ⟨pod, policies, resources, e, ⟨hnode, ?_, happlies, hfirst⟩, hpath⟩
  refine ⟨i, ns, r :: later, commit, since, ask, before, ?_, hlisted⟩
  rw [hpast, List.cons_append]

namespace World

variable {w w' : World} {event : Event}

/-- Rules are dispatched for a network namespace only with a warrant. -/
theorem Steps.warranted (hgrounded : w.Grounded c) (htracing : w.Tracing c)
    (hstep : Steps c w (.move i .commit) w') {l : Launch}
    (hl : (w'.calls i).bind Call.launch? = some l) : Warranted c w'.past l.rules.netns := by
  cases hstep with
  | @move i m call after state hcall hmoves =>
      have hlaunch : after.launch? = some l := by
        simpa [put] using hl
      cases hmoves with
      | @dispatch e rules hphase hnew =>
          cases hlaunch
          obtain ⟨-, hsourced⟩ := hgrounded i e false hcall
          obtain ⟨⟨pod, ⟨hnode, r, hr, happly⟩, huid, hns, hlabels⟩, hasked⟩ :=
            htracing.traced i e false hcall
          rw [hphase] at hsourced
          cases hsourced with
          | @judged _ policies resources _ hsome hverdict hbased =>
              rcases hbased.asked with ⟨since, ask, before, hpast, hask, hsince, -⟩
              have hnetns := (Rehearsal.Scene.judge_eq_compiled hverdict.symm).left
              rw [netns?_ofResources] at hnetns
              rcases Option.map_eq_some_iff.mp hnetns with ⟨endpoint, hfirst, hpath⟩
              refine ⟨pod, policies, resources, endpoint, ⟨hnode, ?_, ?_, e.uid, huid, hfirst⟩,
                hpath.symm⟩
              · refine ⟨i, e.ns, [], _, since, ask, before, congrArg _ hpast, ?_, hns, hask,
                  hsince, rfl, ?_⟩
                · rw [← hpast]
                  exact ⟨r, hr, happly⟩
                · rw [← hpast]
                  exact hasked
              · rw [hlabels]
                exact exists_appliesTo hsome
      | _ => cases hlaunch

end World

end Controller

/-!
# Nodes
-/

/-- A thread that provisions the rules of a dispatch. -/
inductive ProvisioningThread where
  | waiting (rules : RuleSet)
  /-- It is in a network namespace, with the rest of its program. -/
  | inside (path : String) (rest : FilterProgram Outcome)
  | ended (o : Outcome)

/-- What becomes of a call to the packet filter.  It is carried out or not, and
there may be any answer to it; without one, the thread panics. -/
structure Fate where
  carriedOut : Bool
  answer : Option FilterReply

/-- How the thread goes on after the call. -/
def Fate.follow (fate : Fate) (path : String) (next : FilterReply -> FilterProgram Outcome) :
    ProvisioningThread :=
  match fate.answer with
  | some reply => .inside path (next reply)
  | none => .ended (.error .panicked)

/-- A call learns of the outcome of a dispatch. -/
def Controller.Event.isOutcome : Controller.Event -> Bool
  | .move _ (.complete _) => true
  | _ => false

/-- A controller with the threads of its dispatches, each under the number of
the call that made it, and the tables of all network namespaces. -/
structure Node where
  world : Controller.World := {}
  threads : Nat -> Option ProvisioningThread := fun _ => none
  tables : String -> Tables
  /-- The namespaces that have been entered, the latest first. -/
  entered : List String := []

namespace Node

inductive Event where
  /-- An event of the controller, other than that a thread is over. -/
  | control (event : Controller.Event)
  /-- The thread cannot be started. -/
  | abandon (i : Nat) (cause : String)
  /-- The thread enters its namespace, unless there is an obstacle. -/
  | enter (i : Nat) (obstacle : Option String)
  /-- The thread makes its next call. -/
  | call (i : Nat) (fate : Fate)
  /-- The thread has come to the end of its program. -/
  | leave (i : Nat)
  /-- The controller learns of the outcome of the thread. -/
  | finish (i : Nat)

/-- The thread has come to a new standing. -/
def put (n : Node) (i : Nat) (thread : ProvisioningThread) : Node :=
  { n with threads := fun j => if j = i then some thread else n.threads j }

/-- The controller has come to a new standing; a dispatch makes a thread. -/
def advance (n : Node) (event : Controller.Event) (w : Controller.World) : Node :=
  match event with
  | .move i .commit =>
      match (w.calls i).bind Controller.Call.launch? with
      | some l => { n with world := w }.put i (.waiting l.rules)
      | none => { n with world := w }
  | _ => { n with world := w }

/-- A thread has made a call in a namespace. -/
def serve (n : Node) (path : String) (q : FilterCall) (fate : Fate) : Node :=
  if fate.carriedOut then
    { n with tables := fun other => if other = path then (n.tables path).apply q
        else n.tables other }
  else n

def step (c : Controller.Config) (n : Node) : Event -> Option Node
  | .control event =>
      if event.isOutcome then none else (n.world.step c event).map (n.advance event)
  | .abandon i cause =>
      match n.threads i with
      | some (.waiting _) => some (n.put i (.ended (.error (.notStarted cause))))
      | _ => none
  | .enter i obstacle =>
      match n.threads i, obstacle with
      | some (.waiting rules), none =>
          some ({ n with entered := rules.netns :: n.entered }.put i
            (.inside rules.netns rules.program.run))
      | some (.waiting rules), some cause =>
          some (n.put i (.ended (.error (.netns rules.netns cause))))
      | _, _ => none
  | .call i fate =>
      match n.threads i with
      | some (.inside path (.ask q next)) =>
          some ((n.serve path q fate).put i (fate.follow path next))
      | _ => none
  | .leave i =>
      match n.threads i with
      | some (.inside _ (.done o)) => some (n.put i (.ended o))
      | _ => none
  | .finish i =>
      match n.threads i with
      | some (.ended o) =>
          (n.world.step c (.move i (.complete o))).map fun w => { n with world := w }
      | _ => none

/-- The node after what has happened, if all of it was possible. -/
def run (c : Controller.Config) : List Event -> Node -> Option Node
  | [], n => some n
  | event :: rest, n => (n.step c event).bind (run c rest)

/-- The steps of a node, one case for each way in which it takes one. -/
inductive Steps (c : Controller.Config) (n : Node) : Event -> Node -> Prop where
  | control {event : Controller.Event} {w : Controller.World} :
      Controller.World.Steps c n.world event w -> Steps c n (.control event) (n.advance event w)
  | abandon {i : Nat} {rules : RuleSet} (cause : String) :
      n.threads i = some (.waiting rules) ->
      Steps c n (.abandon i cause) (n.put i (.ended (.error (.notStarted cause))))
  | enter {i : Nat} {rules : RuleSet} : n.threads i = some (.waiting rules) ->
      Steps c n (.enter i none)
        ({ n with entered := rules.netns :: n.entered }.put i
          (.inside rules.netns rules.program.run))
  | obstructed {i : Nat} {rules : RuleSet} (cause : String) :
      n.threads i = some (.waiting rules) ->
      Steps c n (.enter i (some cause)) (n.put i (.ended (.error (.netns rules.netns cause))))
  | call {i : Nat} {path : String} {q : FilterCall} {next : FilterReply -> FilterProgram Outcome}
      (fate : Fate) : n.threads i = some (.inside path (.ask q next)) ->
      Steps c n (.call i fate) ((n.serve path q fate).put i (fate.follow path next))
  | leave {i : Nat} {path : String} {o : Outcome} :
      n.threads i = some (.inside path (.done o)) -> Steps c n (.leave i) (n.put i (.ended o))
  | finish {i : Nat} {o : Outcome} {w : Controller.World} :
      Controller.World.Steps c n.world (.move i (.complete o)) w ->
      Steps c n (.finish i) { n with world := w }

variable {c : Controller.Config} {n n' : Node} {event : Event} {events : List Event} {i : Nat}

theorem steps_of_step (h : n.step c event = some n') : Steps c n event n' := by
  cases event with
  | control event =>
      simp only [step, Option.ite_none_left_eq_some, Option.map_eq_some_iff] at h
      rcases h with ⟨-, w, hw, rfl⟩
      exact .control (Controller.World.steps_of_step hw)
  | abandon i cause =>
      simp only [step] at h
      split at h
      · cases h
        exact .abandon cause ‹_›
      · cases h
  | enter i obstacle =>
      simp only [step] at h
      split at h
      · cases h
        exact .enter ‹_›
      · cases h
        exact .obstructed _ ‹_›
      · cases h
  | call i fate =>
      simp only [step] at h
      split at h
      · cases h
        exact .call fate ‹_›
      · cases h
  | leave i =>
      simp only [step] at h
      split at h
      · cases h
        exact .leave ‹_›
      · cases h
  | finish i =>
      simp only [step] at h
      split at h
      · rcases Option.map_eq_some_iff.mp h with ⟨w, hw, rfl⟩
        exact .finish (Controller.World.steps_of_step hw)
      · cases h

/-- What holds of a node and is preserved by each step holds after any run. -/
theorem run_induction {P : Node -> Prop}
    (hstep : forall n event n', P n -> Steps c n event n' -> P n')
    (h : run c events n = some n') (hn : P n) : P n' := by
  induction events generalizing n with
  | nil =>
      cases h
      exact hn
  | cons event rest ih =>
      rcases Option.bind_eq_some_iff.mp h with ⟨m, hm, hrest⟩
      exact ih hrest (hstep n event m hn (steps_of_step hm))

/-!
# Threads of a kernel

A thread that is left to itself does what the run of its rule set does on a
kernel with the same tables and any faults.
-/

theorem step_call {path : String} {q : FilterCall} {next : FilterReply -> FilterProgram Outcome}
    (h : n.threads i = some (.inside path (.ask q next))) (fate : Fate) :
    n.step c (.call i fate) = some ((n.serve path q fate).put i (fate.follow path next)) := by
  simp [step, h]

/-- On a kernel, a call has some fate. -/
theorem exists_fate (k : Kernel) {path : String} (hcurrent : k.current = some path)
    (htables : forall other, k.tables other = n.tables other) (q : FilterCall) :
    exists fate : Fate, fate.answer = (Kernel.host.filter k q).2 ∧
      (Kernel.host.filter k q).1.current = some path ∧
      forall other, (Kernel.host.filter k q).1.tables other = (n.serve path q fate).tables other := by
  cases hstrike : Fault.strike q k.faults with
  | none =>
      refine ⟨⟨true, some (.ok ((k.tables path).reply q))⟩, ?_⟩
      rw [Kernel.filter_eq_apply hcurrent hstrike]
      refine ⟨rfl, (Kernel.apply_current _ q).trans hcurrent, ?_⟩
      intro other
      have hcurrent' : (k.record (.call q)).current = some path := hcurrent
      rw [Kernel.tables_apply hcurrent' q other]
      simp only [Node.serve, if_true, ← htables]
      rfl
  | some struck =>
      rcases struck with ⟨kind, faults⟩
      have hfilter : Kernel.host.filter k q =
          ({ k.record (.call q) with faults }, Fault.reply q kind) := by
        have hrecorded : Fault.strike q (k.record (.call q)).faults = some (kind, faults) := hstrike
        simp only [Kernel.host, Kernel.filter, hrecorded]
      rw [hfilter]
      exact ⟨⟨false, Fault.reply q kind⟩, rfl, hcurrent, htables⟩

/-- A thread that is inside can go on as its program does on the kernel. -/
theorem exists_run_inside (c : Controller.Config) {path : String} (x : FilterProgram Outcome)
    (k : Kernel) (hcurrent : k.current = some path)
    (htables : forall other, k.tables other = n.tables other)
    (hthread : n.threads i = some (.inside path x)) :
    exists events n', run c events n = some n' ∧
      n'.threads i =
        some (.ended ((Dialogue.run Kernel.host.filter k x).2.getD (.error .panicked))) ∧
      forall other, n'.tables other = (Dialogue.run Kernel.host.filter k x).1.tables other := by
  induction x generalizing n k with
  | done o =>
      refine ⟨[.leave i], n.put i (.ended o), ?_, ?_, fun other => (htables other).symm⟩
      · simp [run, step, hthread]
      · simp [put, Dialogue.run]
  | ask q next ih =>
      rcases exists_fate k hcurrent htables q with ⟨fate, hanswer, hcurrent', htables'⟩
      simp only [Dialogue.run]
      generalize Kernel.host.filter k q = answered at hanswer hcurrent' htables'
      rcases answered with ⟨l, _ | reply⟩
      · refine ⟨[.call i fate], (n.serve path q fate).put i (fate.follow path next), ?_, ?_, ?_⟩
        · simp [run, step_call hthread]
        · simp only at hanswer
          simp [put, Fate.follow, hanswer]
        · exact fun other => (htables' other).symm
      · have hfollow : fate.follow path next = .inside path (next reply) := by
          simp only at hanswer
          simp [Fate.follow, hanswer]
        rcases ih reply (n := (n.serve path q fate).put i (fate.follow path next)) l hcurrent'
          htables' (by simp [put, hfollow]) with ⟨events, n', hrun, hover, hlast⟩
        refine ⟨.call i fate :: events, n', ?_, hover, hlast⟩
        simp [run, step_call hthread, hrun]

theorem exists_run_provision (c : Controller.Config) {rules : RuleSet} (k : Kernel)
    (htables : forall other, k.tables other = n.tables other)
    (hthread : n.threads i = some (.waiting rules)) :
    exists events n', run c events n = some n' ∧
      n'.threads i = some (.ended (Kernel.host.provisionApart k rules).2) ∧
      forall other, n'.tables other = (Kernel.host.provisionApart k rules).1.tables other := by
  unfold Host.provisionApart
  cases hmissing : k.missing.get? rules.netns with
  | some cause =>
      have hprovision := Kernel.provision_of_missing Kernel.onKernel_host hmissing
      rw [hprovision]
      refine ⟨[.enter i (some cause)], n.put i (.ended (.error (.netns rules.netns cause))),
        ?_, ?_, fun other => (htables other).symm⟩
      · simp [run, step, hthread]
      · simp [put]
  | none =>
      have hprovision := Kernel.provision_of_present Kernel.onKernel_host hmissing
      simp only [hprovision]
      rcases exists_run_inside c rules.program.run
        ({ k with current := some rules.netns }.record (.enter rules.netns)) rfl
        (n := { n with entered := rules.netns :: n.entered }.put i
          (.inside rules.netns rules.program.run)) (i := i) htables (by simp [put]) with
        ⟨events, n', hrun, hover, hlast⟩
      refine ⟨.enter i none :: events, n', ?_, hover, hlast⟩
      simp [run, step, hthread, hrun]

/-!
# What a node keeps to
-/

/-- A thread that has not entered its namespace yet has a warrant for it, and one
that is inside is where it entered. -/
def Allows (c : Controller.Config) (n : Node) : ProvisioningThread -> Prop
  | .waiting rules => Controller.Warranted c n.world.past rules.netns
  | .inside path _ => path ∈ n.entered
  | .ended _ => True

/-- Every namespace that was entered is warranted, and the others have the tables
that they had at first. -/
structure Sound (c : Controller.Config) (t : String -> Tables) (n : Node) : Prop where
  grounded : n.world.Grounded c
  tracing : n.world.Tracing c
  threads : forall i thread, n.threads i = some thread -> n.Allows c thread
  entered : forall path, path ∈ n.entered -> Controller.Warranted c n.world.past path
  others : forall path, path ∉ n.entered -> n.tables path = t path

variable {t : String -> Tables}

theorem sound_start (c : Controller.Config) (t : String -> Tables) : Sound c t { tables := t } where
  grounded i e asked hcall := by cases hcall
  tracing := Controller.World.tracing_empty
  threads i thread hthread := by cases hthread
  entered path hpath := by cases hpath
  others path _ := rfl

theorem Sound.put (h : n.Sound c t) {thread : ProvisioningThread} (hthread : n.Allows c thread) :
    (n.put i thread).Sound c t := by
  refine ⟨h.grounded, h.tracing, ?_, h.entered, h.others⟩
  intro j other hother
  simp only [Node.put] at hother
  split at hother
  · cases hother
    cases thread <;> exact hthread
  · have hallows := h.threads j other hother
    cases other <;> exact hallows

theorem Sound.enter (h : n.Sound c t) {path : String}
    (hpath : Controller.Warranted c n.world.past path) :
    Sound c t { n with entered := path :: n.entered } := by
  refine ⟨h.grounded, h.tracing, ?_, ?_, ?_⟩
  · intro i thread hthread
    have hallows := h.threads i thread hthread
    cases thread with
    | waiting rules => exact hallows
    | inside other rest => exact List.mem_cons_of_mem path hallows
    | ended o => trivial
  · intro other hother
    rcases List.mem_cons.mp hother with rfl | hother
    · exact hpath
    · exact h.entered other hother
  · exact fun other hother => h.others other fun hmem => hother (List.mem_cons_of_mem path hmem)

theorem Sound.serve (h : n.Sound c t) {path : String} (hpath : path ∈ n.entered)
    (q : FilterCall) (fate : Fate) : (n.serve path q fate).Sound c t := by
  unfold Node.serve
  split
  · refine ⟨h.grounded, h.tracing, ?_, h.entered, ?_⟩
    · intro i thread hthread
      have hallows := h.threads i thread hthread
      cases thread <;> exact hallows
    · intro other hother
      have hne : other ≠ path := by
        rintro rfl
        exact hother hpath
      simp only [if_neg hne]
      exact h.others other hother
  · exact h

theorem Sound.world (h : n.Sound c t) {event : Controller.Event} {w : Controller.World}
    (hstep : Controller.World.Steps c n.world event w) : Sound c t { n with world := w } := by
  rcases hstep.past with ⟨r, -, hpast⟩
  have hkept : forall path, Controller.Warranted c n.world.past path ->
      Controller.Warranted c w.past path := by
    intro path hpath
    rw [hpast]
    exact hpath.cons r
  refine ⟨h.grounded.step hstep, h.tracing.step hstep, ?_, ?_, h.others⟩
  · intro i thread hthread
    have hallows := h.threads i thread hthread
    cases thread with
    | waiting rules => exact hkept rules.netns hallows
    | inside path rest => exact hallows
    | ended o => trivial
  · exact fun path hpath => hkept path (h.entered path hpath)

theorem Sound.advance (h : n.Sound c t) {event : Controller.Event} {w : Controller.World}
    (hstep : Controller.World.Steps c n.world event w) : (n.advance event w).Sound c t := by
  have hworld := h.world hstep
  unfold Node.advance
  split
  · split
    · rename_i l hl
      exact hworld.put (hstep.warranted h.grounded h.tracing hl)
    · exact hworld
  · exact hworld

theorem Sound.step (h : n.Sound c t) (hstep : Steps c n event n') : n'.Sound c t := by
  cases hstep with
  | control hworld => exact h.advance hworld
  | abandon cause hthread => exact h.put trivial
  | enter hthread => exact (h.enter (h.threads _ _ hthread)).put List.mem_cons_self
  | obstructed cause hthread => exact h.put trivial
  | @call i path q next fate hthread =>
      have hpath : path ∈ n.entered := h.threads _ _ hthread
      apply (h.serve hpath q fate).put
      unfold Fate.follow
      split
      · unfold Node.serve
        split <;> exact hpath
      · trivial
  | leave hthread => exact h.put trivial
  | finish hworld => exact h.world hworld

theorem sound_of_run (h : run c events { tables := t } = some n) : n.Sound c t :=
  run_induction (fun _ _ _ hn hstep => hn.step hstep) h (sound_start c t)

/-- Whatever happens on a node, each network namespace that is entered is that of
the first endpoint of a pod of the node, by listings of the namespace of the pod that
were asked for and of which some policy applies to it.  All other network
namespaces keep their tables. -/
theorem entered_warranted (c : Controller.Config) (t : String -> Tables) (events : List Event)
    (n : Node) (h : run c events { tables := t } = some n) :
    (forall path, path ∈ n.entered -> exists pod policies resources e,
      Controller.Warrant c n.world.past pod policies resources e ∧ path = e.netns) ∧
    (forall path, path ∉ n.entered -> n.tables path = t path) :=
  ⟨(sound_of_run h).entered, (sound_of_run h).others⟩

/-- The pod has two endpoints, of which the second is a copy.  Its thread loses a
call, and a pod of another node is refused. -/
theorem entered_warranted_with_lost_call :
    let c : Controller.Config := { node := "node" }
    let pod : Pod :=
      { metadata := { uid := some "u", ns := some "default" },
        spec := some { nodeName := some "node" } }
    let policy : Policy := { metadata := { name := some "web", ns := some "default" }, spec := {} }
    let endpoint : String -> String -> EndpointResource := fun podUid netns =>
      { metadata := { uid := some ("e" ++ podUid), ns := some "default" },
        spec := { podUid, netns } }
    let resources := [endpoint "v" "/run/netns/other", endpoint "u" "/run/netns/pod",
      endpoint "u" "/run/netns/copy"]
    let events : List Event :=
      [.control (.apply 1 { pod with spec := some { nodeName := some "other" } }),
        .control (.apply 0 pod), .control (.move 0 .check),
        .control (.move 0 (.ask (.policies "default"))),
        .control (.move 0 (.receivePolicies (.ok [policy]))),
        .control (.move 0 (.ask (.endpoints "default"))),
        .control (.move 0 (.receiveEndpoints (.ok resources))), .control (.move 0 .commit),
        .enter 0 none, .call 0 ⟨true, some (.ok true)⟩, .call 0 ⟨true, none⟩, .finish 0]
    let t : String -> Tables := fun _ => Tables.ofTagged [("v4 DANM_INGRESS_V4", [["-j", "RETURN"]])]
    exists n, run c events { tables := t } = some n ∧ n.entered = ["/run/netns/pod"] ∧
      (n.tables "/run/netns/pod").contents .v4 "DANM_INGRESS_V4" = some [] ∧
      (exists pod policies resources e,
        Controller.Warrant c n.world.past pod policies resources e ∧ "/run/netns/pod" = e.netns) ∧
      n.tables "/run/netns/other" = t "/run/netns/other" := by
  intro c pod policy endpoint resources events t
  have hend : (run c events { tables := t }).map (fun n => (n.entered,
      (n.tables "/run/netns/pod").contents .v4 "DANM_INGRESS_V4")) =
        some (["/run/netns/pod"], some []) := by
    decide +kernel
  rcases Option.map_eq_some_iff.mp hend with ⟨n, hn, hpair⟩
  obtain ⟨hentered, hcontents⟩ := Prod.mk.inj hpair
  obtain ⟨hwarranted, hothers⟩ := entered_warranted c t events n hn
  refine ⟨n, hn, hentered, hcontents, hwarranted _ ?_, hothers _ ?_⟩
  · rw [hentered]
    exact List.mem_cons_self
  · rw [hentered]
    decide

end Node

end PodIsolation
