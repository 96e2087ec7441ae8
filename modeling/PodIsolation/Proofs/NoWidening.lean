import PodIsolation.Proofs.Compilation
import PodIsolation.Proofs.GuardedRun

/-!
# No widening on the way

## What a namespace accepts during a run

While rules are replaced, the tables are for some time neither those before nor
those after.  At no point of a run, whichever calls failed and wherever it
stopped, is a packet accepted that was not accepted before and that neither the
new rules nor the baseline accept.
-/

namespace PodIsolation

namespace RuleSet

/-- The rule set is what some policies ask for. -/
def Compiled (s : RuleSet) : Prop :=
  exists policies x netns mode, s = compile policies x netns mode

theorem Compiled.accepting {s : RuleSet} (h : s.Compiled) : s.Accepting := by
  rcases h with ⟨policies, x, netns, mode, rfl⟩
  exact fun c r => target_of_mem_compile

theorem eq_of_rules_eq {s s' : RuleSet} (hnetns : s.netns = s'.netns)
    (hrules : s.rules = s'.rules) : s = s' := by
  cases s
  cases hnetns
  cases hrules
  rfl

/-- The rule set that admits what one address sends. -/
def admitting (netns : String) (a : IPv4) : RuleSet where
  netns := netns
  rules c := if c = ⟨.ingress, .v4⟩ then [Rule.withPeer .ingress (.v4 a)] else []

theorem compiled_admitting (netns : String) (a : IPv4) : (admitting netns a).Compiled := by
  let web : Labels := SortedMap.ofList [("app", "web")]
  let entry : PolicyEntry := { peers := [{ podSelector := some (.ofLabels web) }] }
  let policy : Policy := { metadata := { name := some "web" }, spec := { ingress := [entry] } }
  let e : Endpoint :=
    { uid := "e", workload := { ns := "", name := "", uid := "" }, labels := web,
      ipv4 := some a, ipv6 := none, network := .within "" .danmNet "", netns := "" }
  let x := EndpointIndex.ofList [e] ""
  have hfound : entry.endpoints x "" = [e] := by
    rw [PolicyEntry.endpoints, List.flatMap_singleton, Peer.resolve_label]
    rfl
  have hrules : (compile [policy] x netns .first).rules = (admitting netns a).rules := by
    funext c
    rw [rules_compile, List.flatMap_singleton]
    rcases c with ⟨_ | _, f⟩
    · show [entry].flatMap (PolicyEntry.declaredRules x "" ⟨.ingress, f⟩) = _
      rw [List.flatMap_singleton, PolicyEntry.declaredRules, hfound]
      cases f <;> rfl
    · rfl
  exact ⟨[policy], x, netns, .first, eq_of_rules_eq (netns_compile _ _ _ _).symm hrules.symm⟩

end RuleSet

namespace Tables

/-- The tables that runs of compiled rule sets can lead to from blank tables,
whichever calls fail and wherever the runs stop. -/
inductive Reachable : Tables -> Prop where
  | blank {t : Tables} : t.Blank -> Reachable t
  | run {t u : Tables} {s : RuleSet} :
      Reachable t -> s.Compiled -> Reaches t s.program.run u -> Reachable u

theorem Reachable.sound {t : Tables} (h : Reachable t) : Sound t := by
  induction h with
  | blank hblank => exact hblank.sound
  | run _ hs hrun ih =>
      exact ((safe_program hs.accepting ih).always_of_reaches hrun).sound

variable {t u : Tables} {s : RuleSet} {services : Services} {p : Packet}

/-!
# Built-in chains with and without the rejection
-/

theorem accepts_without_rejectRule {chain : String}
    (hbase : forall args, args ∈ (t.contents p.family chain).rules ->
      args ∈ baselineRules chain)
    (hreject : rejectRule ∉ (t.contents p.family chain).rules) :
    t.Accepts services chain p :=
  (accepts_iff chain).mpr (Packet.traverse_without_rejectRule hbase hreject _)

theorem usesLoopback_of_accepts {chain : String}
    (hbase : forall args, args ∈ (t.contents p.family chain).rules ->
      args ∈ baselineRules chain)
    (hreject : rejectRule ∈ (t.contents p.family chain).rules)
    (h : t.Accepts services chain p) : p.UsesLoopback chain :=
  Packet.usesLoopback_of_traverse hbase hreject ((accepts_iff chain).mp h)

theorem Guarded.forward_no_widening (hsound : Sound t) (hguarded : Guarded s t u)
    (h : u.Accepts services forwardChain p) :
    t.Accepts services forwardChain p ∨ p.UsesLoopback forwardChain := by
  by_cases hreject : rejectRule ∈ (t.contents p.family forwardChain).rules
  · right
    exact usesLoopback_of_accepts (hguarded.forward p.family)
      (hguarded.reject p.family hreject) h
  · left
    exact accepts_without_rejectRule (hsound.forward p.family) hreject

/-!
# Gates
-/

variable {c : ChainId}

/-- A gate without the rejection accepts every packet. -/
theorem Sound.accepts_gate (hsound : Sound t) (hfamily : p.family = c.family)
    (hreject : rejectRule ∉ (t.lane c).2.rules) : t.Accepts services c.builtin p := by
  rcases (hsound.lanes c).gate with ⟨base, hbase, hgate | ⟨hgate, hsome⟩⟩
  · have hrules : (t.contents p.family c.builtin).rules = base := by
      rw [hfamily]
      exact hgate
    apply accepts_without_rejectRule
    · rw [hrules]
      exact hbase
    · rw [hrules, ← hgate]
      exact hreject
  · obtain ⟨own, hown⟩ := Option.isSome_iff_exists.mp hsome
    have hbaseReject : rejectRule ∉ base := by
      intro hmem
      apply hreject
      rw [hgate]
      exact List.mem_cons_of_mem _ hmem
    have hpassive := (hsound.lanes c).passive
    rw [hown] at hpassive
    rw [accepts_jump_iff hfamily hgate hown hpassive]
    right
    exact Packet.traverse_without_rejectRule hbase hbaseReject _

/-- What the own chain admits the gate accepts. -/
theorem Sound.accepts_of_admitted (hsound : Sound t) (hfamily : p.family = c.family)
    {own : List (List String)} (hown : (t.lane c).1 = some own)
    (hadmitted : p.admitted services own = true) : t.Accepts services c.builtin p := by
  have hpassive := (hsound.lanes c).passive
  have hne : (t.lane c).1.rules ≠ [] := by
    rw [hown]
    intro hnil
    have hempty : own = [] := hnil
    rw [hempty] at hadmitted
    cases hadmitted
  have hjumped := (hsound.lanes c).jumped hne
  rcases (hsound.lanes c).gate with ⟨base, hbase, hgate | ⟨hgate, _⟩⟩
  · rw [hgate] at hjumped
    exact absurd (hbase _ hjumped) c.jumpArgs_not_mem_baselineRules
  · rw [hown] at hpassive
    exact (accepts_jump_iff hfamily hgate hown hpassive).mpr (Or.inl hadmitted)

/-- A packet that rules of the plan admit meets a rule of the rule set. -/
theorem exists_rule_of_admitted (haccepting : s.Accepting) {own : List (List String)}
    (hplan : forall args, args ∈ own -> args ∈ s.plan c)
    (hadmitted : p.admitted services own = true) :
    exists r, r ∈ s.rules c ∧ p.meets services r.args = true := by
  have hpassive : forall args, args ∈ own -> Rule.Passive args :=
    fun args hargs => haccepting.passive_plan (hplan args hargs)
  rcases Packet.exists_of_admitted hpassive hadmitted with ⟨args, hargs, haccept, hmeets⟩
  rcases List.mem_map.mp (hplan args hargs) with ⟨r, hr, rfl⟩
  rcases List.mem_append.mp hr with hr | hr
  · exact ⟨r, hr, hmeets⟩
  · rw [List.mem_singleton.mp hr] at haccept
    cases haccept

theorem Guarded.gate_no_widening (hsound : Sound t) (haccepting : s.Accepting)
    (hguarded : Guarded s t u) (hfamily : p.family = c.family)
    (h : u.Accepts services c.builtin p) :
    t.Accepts services c.builtin p ∨ p.UsesLoopback c.builtin ∨
      exists r, r ∈ s.rules c ∧ p.meets services r.args = true := by
  have hlane := hguarded.lanes c
  by_cases hreject : rejectRule ∈ (t.lane c).2.rules
  · have hkept := hlane.reject hreject
    rcases hlane.gate with ⟨base, hbase, hgate | ⟨hgate, hsome⟩⟩
    · have hrules : (u.contents p.family c.builtin).rules = base := by
        rw [hfamily]
        exact hgate
      right
      left
      apply usesLoopback_of_accepts _ _ h
      · rw [hrules]
        exact hbase
      · rw [hrules, ← hgate]
        exact hkept
    · obtain ⟨own, hown⟩ := Option.isSome_iff_exists.mp hsome
      have hpassive := hlane.passive
      rw [hown] at hpassive
      rw [accepts_jump_iff hfamily hgate hown hpassive] at h
      rcases h with hadmitted | hbaseline
      · -- The rules of the own chain are from before the run, or they are new.
        rcases hlane.own with hbefore | hplan
        · left
          exact hsound.accepts_of_admitted hfamily (hbefore.symm.trans hown) hadmitted
        · right
          right
          rw [hown] at hplan
          exact exists_rule_of_admitted haccepting hplan hadmitted
      · right
        left
        rw [hgate] at hkept
        exact Packet.usesLoopback_of_traverse hbase
          (List.mem_of_ne_of_mem ChainId.rejectRule_ne_jumpArgs hkept) hbaseline
  · left
    exact hsound.accepts_gate hfamily hreject

/-- At each point of a run from reachable tables, whichever calls fail, what a
built-in chain accepts was accepted before the run, or uses the loopback
interface, or meets a rule of the rule set for that direction and family. -/
theorem no_widening (ht : Reachable t) (hs : s.Compiled) (hu : Reaches t s.program.run u)
    {chain : String} (hchain : chain ∈ [inputChain, outputChain, forwardChain])
    (h : u.Accepts services chain p) :
    t.Accepts services chain p ∨ p.UsesLoopback chain ∨
      exists c : ChainId, c.builtin = chain ∧ c.family = p.family ∧
        exists r, r ∈ s.rules c ∧ p.meets services r.args = true := by
  have hsound := ht.sound
  have hguarded := (safe_program hs.accepting hsound).always_of_reaches hu
  have hgate : forall c : ChainId, c.family = p.family -> u.Accepts services c.builtin p ->
      t.Accepts services c.builtin p ∨ p.UsesLoopback c.builtin ∨
        exists c' : ChainId, c'.builtin = c.builtin ∧ c'.family = p.family ∧
          exists r, r ∈ s.rules c' ∧ p.meets services r.args = true := by
    intro c hfamily h
    rcases hguarded.gate_no_widening hsound hs.accepting hfamily.symm h with h | h | h
    · exact Or.inl h
    · exact Or.inr (Or.inl h)
    · exact Or.inr (Or.inr ⟨c, rfl, hfamily, h⟩)
  simp only [List.mem_cons, List.not_mem_nil, or_false] at hchain
  rcases hchain with rfl | rfl | rfl
  · exact hgate ⟨.ingress, p.family⟩ rfl h
  · exact hgate ⟨.egress, p.family⟩ rfl h
  · rcases hguarded.forward_no_widening hsound h with h | h
    · exact Or.inl h
    · exact Or.inr (Or.inl h)

/-- A first run without policies leaves all traffic but loopback traffic rejected.
A second one admits an address, and stops before its chain is complete. -/
theorem no_widening_before_return :
    let k : Kernel := { namespaces := SortedMap.ofList [("/run/netns/pod", fresh)] }
    let closed : RuleSet := { netns := "/run/netns/pod" }
    let s := RuleSet.admitting "/run/netns/pod" ⟨10, 0, 0, 5⟩
    let once := (Kernel.host.provision k closed).1
    let faults : List Fault := [{ arg := some "RETURN", kind := .panic }]
    let t := once.tables "/run/netns/pod"
    let u := (Kernel.host.provision { once with faults } s).1.tables "/run/netns/pod"
    let p : Packet :=
      { source := .v4 ⟨10, 0, 0, 5⟩, dest := .v4 ⟨10, 0, 0, 9⟩, inInterface := some "eth0" }
    Reachable t ∧ s.Compiled ∧ Reaches t s.program.run u ∧
    u.Accepts (fun _ _ _ => false) "INPUT" p ∧
    ¬ t.Accepts (fun _ _ _ => false) "INPUT" p ∧ ¬ p.UsesLoopback "INPUT" ∧
    exists c : ChainId, c.builtin = "INPUT" ∧ c.family = p.family ∧
      exists r, r ∈ s.rules c ∧ p.meets (fun _ _ _ => false) r.args = true := by
  intro k closed s once faults t u p
  have hclosed : closed.Compiled := ⟨[], {}, "/run/netns/pod", .first, rfl⟩
  have hs : s.Compiled := RuleSet.compiled_admitting "/run/netns/pod" ⟨10, 0, 0, 5⟩
  have ht : Reachable t :=
    .run (.blank (Kernel.blank_tables _)) hclosed (Kernel.provision_reaches k closed)
  have hu : Reaches t s.program.run u := Kernel.provision_reaches_with once faults s
  have haccepts : u.Accepts (fun _ _ _ => false) "INPUT" p := by
    decide +kernel
  have hrejects : ¬ t.Accepts (fun _ _ _ => false) "INPUT" p := by
    decide +kernel
  have hloopback : ¬ p.UsesLoopback "INPUT" := by
    decide
  refine ⟨ht, hs, hu, haccepts, hrejects, hloopback, ?_⟩
  rcases no_widening ht hs hu (by decide) haccepts with hbefore | hlo | hrule
  · exact absurd hbefore hrejects
  · exact absurd hlo hloopback
  · exact hrule

end Tables

end PodIsolation
