import PodIsolation.Proofs.ChainStructure
import PodIsolation.Proofs.CompletedRun
import PodIsolation.Proofs.Isolation

/-!
# The rejection of a built-in chain

## When it comes last

Rules of the baseline are added behind those that a built-in chain holds, and
nothing moves or removes them.  So a run that reports no failure leaves the
rejection at the end, except where an earlier run could add the rejection but
not the rule for loopback traffic.  That rule is then added behind the
rejection, where no packet gets to it, and no later run puts this right.
-/

namespace PodIsolation

namespace Contents

/-- The rules of the baseline that a built-in chain holds, in their order there. -/
def base (contents : Contents) (chain : String) : List (List String) :=
  contents.rules.filter (baselineRules chain).contains

/-- Of the rules of the baseline, the rejection comes first. -/
def RejectsFirst (contents : Contents) (chain : String) : Prop :=
  (contents.base chain).head? = some rejectRule

instance (contents : Contents) (chain : String) : Decidable (contents.RejectsFirst chain) :=
  inferInstanceAs (Decidable (_ = _))

/-- The baseline of a chain once the missing rules have been added. -/
def completed (contents : Contents) (chain : String) : List (List String) :=
  if contents.RejectsFirst chain then [rejectRule, loopbackRule chain] else baselineRules chain

variable {contents other : Contents} {chain : String} {args : List String}

theorem completed_congr (h : contents.base chain = other.base chain) :
    contents.completed chain = other.completed chain := by
  have hfirst : contents.RejectsFirst chain <-> other.RejectsFirst chain := by
    unfold RejectsFirst
    rw [h]
  unfold completed
  simp only [hfirst]

theorem base_eq_rules (h : forall args, args ∈ contents.rules -> args ∈ baselineRules chain) :
    contents.base chain = contents.rules := by
  unfold base
  rw [List.filter_eq_self]
  simpa using h

theorem base_of_jump {c : ChainId} {rules : List (List String)}
    (h : contents.rules = c.jumpArgs :: rules)
    (hrules : forall args, args ∈ rules -> args ∈ baselineRules c.builtin) :
    contents.base c.builtin = rules := by
  unfold base
  rw [h, List.filter_cons_of_neg (by simp [c.jumpArgs_not_mem_baselineRules]),
    List.filter_eq_self]
  simpa using hrules

theorem base_delete (h : args ∉ baselineRules chain) :
    base ((FilterAction.deleteRule args).effect contents) chain = contents.base chain := by
  unfold base
  rw [rules_delete, ← List.erase_filter, List.erase_of_not_mem]
  simp [h]

theorem base_insert (h : args ∉ baselineRules chain) :
    base ((FilterAction.ensureRule (.insert 1) args).effect contents) chain =
      contents.base chain := by
  unfold base
  rw [rules_insert]
  split
  · rfl
  · simp [h]

theorem base_append (h : args ∈ baselineRules chain) :
    base ((FilterAction.ensureRule .append args).effect contents) chain =
      if args ∈ contents.base chain then contents.base chain
      else contents.base chain ++ [args] := by
  have hmem : args ∈ contents.base chain <-> args ∈ contents.rules := by
    simp [base, h]
  unfold base at hmem ⊢
  rw [rules_append]
  by_cases hrules : args ∈ contents.rules
  · rw [if_pos hrules, if_pos (hmem.mpr hrules)]
  · rw [if_neg hrules, if_neg (fun hbase => hrules (hmem.mp hbase)), List.filter_append]
    simp [h]

theorem base_prefix_append (h : args ∈ baselineRules chain) :
    contents.base chain <+: base ((FilterAction.ensureRule .append args).effect contents) chain := by
  rw [base_append h]
  split
  · exact List.prefix_rfl
  · exact List.prefix_append _ _

theorem base_cases (h : (contents.base chain).Nodup) :
    contents.base chain = [] ∨ contents.base chain = [loopbackRule chain] ∨
      contents.base chain = [rejectRule] ∨ contents.base chain = baselineRules chain ∨
      contents.base chain = [rejectRule, loopbackRule chain] := by
  have hmem : forall args, args ∈ contents.base chain ->
      args = loopbackRule chain ∨ args = rejectRule := by
    intro args hargs
    simpa [baselineRules] using (List.mem_filter.mp hargs).right
  generalize contents.base chain = base at h hmem ⊢
  rcases base with _ | ⟨a, _ | ⟨b, _ | ⟨c, rest⟩⟩⟩
  · exact Or.inl rfl
  · rcases hmem a (by simp) with rfl | rfl <;> simp
  · rcases hmem a (by simp) with rfl | rfl <;> rcases hmem b (by simp) with rfl | rfl <;>
      simp_all [baselineRules]
  · rcases hmem a (by simp) with rfl | rfl <;> rcases hmem b (by simp) with rfl | rfl <;>
      rcases hmem c (by simp) with rfl | rfl <;> simp_all

/-- Missing rules of the baseline are added behind those that are there. -/
theorem base_foldl_ensureLast (h : (contents.base chain).Nodup) :
    base ((baselineRules chain).foldl ensureLast contents) chain = contents.completed chain := by
  have hne := loopbackRule_ne_rejectRule chain
  have hloopback : loopbackRule chain ∈ baselineRules chain := List.mem_cons_self
  have hreject : rejectRule ∈ baselineRules chain := List.mem_cons_of_mem _ List.mem_cons_self
  have hfold : base ((baselineRules chain).foldl ensureLast contents) chain =
      base (ensureLast (ensureLast contents (loopbackRule chain)) rejectRule) chain := rfl
  rw [hfold]
  unfold ensureLast completed RejectsFirst
  rw [base_append hreject, base_append hloopback]
  rcases base_cases h with hbase | hbase | hbase | hbase | hbase <;>
    simp [hbase, baselineRules, hne, Ne.symm hne]

end Contents

/-!
# Built-in chains
-/

namespace ChainId

theorem builtin_mem (c : ChainId) : c.builtin ∈ [inputChain, outputChain, forwardChain] := by
  rcases c with ⟨_ | _, _⟩
  · exact List.mem_cons_self
  · exact List.mem_cons_of_mem _ List.mem_cons_self

theorem builtin_cases {chain : String} (h : chain ∈ [inputChain, outputChain, forwardChain])
    (f : Family) : (exists c : ChainId, c.family = f ∧ c.builtin = chain) ∨
      chain = forwardChain := by
  simp only [List.mem_cons, List.not_mem_nil, or_false] at h
  rcases h with rfl | rfl | rfl
  · exact Or.inl ⟨⟨.ingress, f⟩, rfl, rfl⟩
  · exact Or.inl ⟨⟨.egress, f⟩, rfl, rfl⟩
  · exact Or.inr rfl

end ChainId

theorem RuleSet.additions_of_builtin (s : RuleSet) (f : Family) {chain : String}
    (hchain : chain ∈ [inputChain, outputChain, forwardChain]) :
    s.additions f chain = baselineRules chain := by
  rcases ChainId.builtin_cases hchain f with ⟨c, rfl, rfl⟩ | rfl
  · exact s.additions_builtin c
  · exact s.additions_forward f

/-!
# The order of the baseline

Whatever calls fail, the rules of the baseline keep the order in which a chain
got them.
-/

namespace Tables

variable {s : RuleSet} {t u v : Tables}

/-- The rules of the baseline in built-in chains have only become more. -/
def growth (before : Tables) (s : RuleSet) : LaneInvariant s where
  lane c lane := (before.contents c.family c.builtin).base c.builtin <+: lane.2.base c.builtin
  other f name contents := (before.contents f name).base name <+: contents.base name
  flushed h := h
  unjumped {c} _ _ h _ := by
    rw [Contents.base_delete c.jumpArgs_not_mem_baselineRules]
    exact h
  jumped_to {c} _ _ h _ := by
    rw [Contents.base_insert c.jumpArgs_not_mem_baselineRules]
    exact h
  appended h _ _ := h
  settled h hargs := h.trans (Contents.base_prefix_append hargs)
  forwarded h hargs := h.trans (Contents.base_prefix_append hargs)

theorem base_prefix_of_reaches (h : Reaches t s.program.run u) (f : Family) {chain : String}
    (hchain : chain ∈ [inputChain, outputChain, forwardChain]) :
    (t.contents f chain).base chain <+: (u.contents f chain).base chain := by
  have hbefore : (growth t s).Holds t :=
    ⟨fun c => List.prefix_rfl, fun f name _ => List.prefix_rfl⟩
  have hafter := hbefore.of_reaches h
  rcases ChainId.builtin_cases hchain f with ⟨c, rfl, rfl⟩ | rfl
  · exact hafter.lanes c
  · exact hafter.others f forwardChain (fun c => c.not_inLane_forward f)

/-- Once the rejection comes first, no run changes that, whatever it provisions
and whatever calls fail. -/
theorem rejectsFirst_of_reaches {f : Family} {chain : String}
    (hchain : chain ∈ [inputChain, outputChain, forwardChain])
    (hfirst : (t.contents f chain).RejectsFirst chain) (h : Reaches t s.program.run u) :
    (u.contents f chain).RejectsFirst chain := by
  rcases base_prefix_of_reaches h f hchain with ⟨added, hbase⟩
  unfold Contents.RejectsFirst at hfirst ⊢
  rw [← hbase, List.head?_append, hfirst]
  rfl

/-!
# Completed runs
-/

theorem base_prepared (t : Tables) (s : RuleSet) (f : Family) {chain : String}
    (hchain : chain ∈ [inputChain, outputChain, forwardChain]) :
    ((t.prepared s).contents f chain).base chain = (t.contents f chain).base chain := by
  rcases ChainId.builtin_cases hchain f with ⟨c, rfl, rfl⟩ | rfl
  · have hgate : (t.prepared s).contents c.family c.builtin =
        (if s.rules c = [] then c.retireLane (t.lane c) else c.prepareLane (t.lane c)).2 :=
      congrArg Prod.snd (lane_prepared t s c)
    rw [hgate]
    unfold lane
    split
    · cases t.contents c.family c.name with
      | none => rfl
      | some rules => exact Contents.base_delete c.jumpArgs_not_mem_baselineRules
    · exact Contents.base_insert c.jumpArgs_not_mem_baselineRules
  · rw [contents_prepared_of_not_inLane t s fun c => c.not_inLane_forward f]

theorem base_provisioned (h : Structured history t) (s : RuleSet) (f : Family)
    {chain : String} (hchain : chain ∈ [inputChain, outputChain, forwardChain]) :
    ((t.provisioned s).contents f chain).base chain = (t.contents f chain).completed chain := by
  have hbase := base_prepared t s f hchain
  -- Without equal rules, two rules of the baseline come in one of two orders.
  have hdistinct : (((t.prepared s).contents f chain).base chain).Nodup := by
    rw [hbase]
    exact (h.distinct f chain).filter _
  rw [contents_provisioned, s.additions_of_builtin f hchain,
    Contents.base_foldl_ensureLast hdistinct]
  exact Contents.completed_congr hbase

/-- In a built-in chain the baseline stands behind the jump to the own chain, if
there is one. -/
theorem Visited.gate_eq (h : Visited history t) (c : ChainId) :
    (t.contents c.family c.builtin).rules = (t.contents c.family c.builtin).base c.builtin ∨
      (t.contents c.family c.builtin).rules =
          c.jumpArgs :: (t.contents c.family c.builtin).base c.builtin ∧
        (t.contents c.family c.name).isSome := by
  rcases (h.tidy.lanes c).gate with ⟨base, hbase, hgate | ⟨hgate, hsome⟩⟩
  · left
    have hrules : (t.contents c.family c.builtin).rules = base := hgate
    rw [Contents.base_eq_rules]
    rw [hrules]
    exact hbase
  · right
    have hrules : (t.contents c.family c.builtin).rules = c.jumpArgs :: base := hgate
    rw [Contents.base_of_jump hrules hbase]
    exact ⟨hrules, hsome⟩

theorem Visited.forward_eq (h : Visited history t) (f : Family) :
    (t.contents f forwardChain).rules = (t.contents f forwardChain).base forwardChain :=
  (Contents.base_eq_rules (h.tidy.forward f)).symm

/-- A built-in chain holds its baseline and nothing else but a jump before it. -/
theorem Visited.rules_eq (h : Visited history t) (f : Family) {chain : String}
    (hchain : chain ∈ [inputChain, outputChain, forwardChain]) :
    exists jumps, (forall args, args ∈ jumps ->
        exists c : ChainId, c.family = f ∧ c.builtin = chain ∧ args = c.jumpArgs) ∧
      (t.contents f chain).rules = jumps ++ (t.contents f chain).base chain := by
  rcases ChainId.builtin_cases hchain f with ⟨c, rfl, rfl⟩ | rfl
  · rcases h.gate_eq c with hgate | ⟨hgate, _⟩
    · exact ⟨[], by simp, hgate⟩
    · refine ⟨[c.jumpArgs], ?_, hgate⟩
      intro args hargs
      exact ⟨c, rfl, rfl, List.mem_singleton.mp hargs⟩
  · exact ⟨[], by simp, h.forward_eq f⟩

/-!
# What a completed run accepts
-/

variable {services : Services} {p : Packet}

/-- The completed baseline lets loopback traffic pass, unless the rejection comes
first. -/
theorem traverse_completed (contents : Contents) (chain : String)
    (enter : String -> Option Verdict) :
    (traverse services p enter (contents.completed chain) = some .accepted ∨
      traverse services p enter (contents.completed chain) = some .passed) <->
        p.UsesLoopback chain ∧ ¬ contents.RejectsFirst chain := by
  unfold Contents.completed
  by_cases hfirst : contents.RejectsFirst chain
  · rw [if_pos hfirst, traverse_cons_reject Packet.meets_rejectRule
      Packet.targetOf?_rejectRule]
    simp [hfirst]
  · rw [if_neg hfirst, Packet.traverse_baselineRules]
    simp [hfirst]

theorem admitted_own_iff (haccepting : s.Accepting) (c : ChainId)
    (hsome : ((t.provisioned s).contents c.family c.name).isSome) :
    exists own, (t.provisioned s).contents c.family c.name = some own ∧
      (forall args, args ∈ own -> Rule.Passive args) ∧
      (p.admitted services own = true <->
        exists r, r ∈ s.rules c ∧ p.meets services r.args = true) := by
  rw [contents_provisioned_name] at hsome ⊢
  by_cases hrules : s.rules c = []
  · rw [if_pos hrules] at hsome ⊢
    unfold lane at hsome ⊢
    cases hown : t.contents c.family c.name with
    | none =>
        rw [hown] at hsome
        cases hsome
    | some rules =>
        refine ⟨[], rfl, by simp, ?_⟩
        simp [hrules, Packet.admitted, traverse]
  · rw [if_neg hrules]
    refine ⟨_, rfl, ?_, admitted_plan_iff haccepting⟩
    exact fun args hargs => haccepting.passive_plan (List.mem_eraseDups.mp hargs)

/-- A rule set has rules only for chains that are jumped to after its run. -/
theorem jumpArgs_mem_provisioned (h : Visited history (t.provisioned s)) {c : ChainId}
    (hrules : s.rules c ≠ []) :
    c.jumpArgs ∈ ((t.provisioned s).contents c.family c.builtin).rules := by
  apply (structured_of_visited h).jumped
  rw [contents_provisioned_name, if_neg hrules]
  apply List.ne_nil_of_mem (a := Rule.returning.args)
  exact List.mem_eraseDups.mpr (List.mem_map_of_mem (by simp))

theorem accepts_gate_provisioned_iff (h : Visited history t) (haccepting : s.Accepting)
    (hafter : Visited (s :: history) (t.provisioned s)) {c : ChainId} {services : Services}
    {p : Packet} (hfamily : p.family = c.family) :
    (t.provisioned s).Accepts services c.builtin p <->
      p.UsesLoopback c.builtin ∧ ¬ (t.contents c.family c.builtin).RejectsFirst c.builtin ∨
        exists r, r ∈ s.rules c ∧ p.meets services r.args = true := by
  have hbase := base_provisioned (structured_of_visited h) s c.family c.builtin_mem
  have hgate := hafter.gate_eq c
  rw [hbase] at hgate
  rcases hgate with hgate | ⟨hgate, hsome⟩
  · -- Nothing jumps to the own chain, so the rule set cannot have rules for it.
    have hjump : c.jumpArgs ∉ ((t.provisioned s).contents c.family c.builtin).rules := by
      rw [hgate, ← hbase]
      unfold Contents.base
      simp [c.jumpArgs_not_mem_baselineRules]
    have hrules : s.rules c = [] :=
      Decidable.byContradiction fun hne => hjump (jumpArgs_mem_provisioned hafter hne)
    rw [accepts_iff, hfamily]
    simp only [hgate, traverse_completed, hrules]
    simp
  · rcases admitted_own_iff haccepting c hsome with ⟨own, hown, hpassive, hadmitted⟩
    rw [accepts_jump_iff hfamily hgate hown hpassive, hadmitted]
    simp only [traverse_completed, or_comm]

theorem accepts_forward_provisioned_iff (h : Visited history t)
    (hafter : Visited (s :: history) (t.provisioned s)) {services : Services} {p : Packet} :
    (t.provisioned s).Accepts services forwardChain p <->
      p.UsesLoopback forwardChain ∧
        ¬ (t.contents p.family forwardChain).RejectsFirst forwardChain := by
  have hrules : ((t.provisioned s).contents p.family forwardChain).rules =
      (t.contents p.family forwardChain).completed forwardChain :=
    (hafter.forward_eq p.family).trans
      (base_provisioned (structured_of_visited h) s p.family (by decide))
  rw [accepts_iff]
  simp only [hrules, traverse_completed]

theorem exists_rule_builtin_iff {c : ChainId} {q : Rule -> Prop} :
    (exists d r, ChainId.family d = c.family ∧ d.builtin = c.builtin ∧ r ∈ s.rules d ∧ q r) <->
      exists r, r ∈ s.rules c ∧ q r := by
  constructor
  · rintro ⟨d, r, hfamily, hbuiltin, hr⟩
    have hdc : d = c := (d.inLane_builtin c).mp ⟨hfamily.symm, Or.inr hbuiltin.symm⟩
    subst hdc
    exact ⟨r, hr⟩
  · rintro ⟨r, hr⟩
    exact ⟨c, r, rfl, rfl, hr⟩

/-!
# The rejection after a completed run
-/

/-- After any history of runs, a run that reports no failure leaves the
rejection at the end of a built-in chain unless the rejection came first in the
baseline before.  Then the rule for loopback traffic is behind it, and loopback
traffic is accepted no longer unless the rule set accepts it. -/
theorem rejection_trails_iff (h : Visited history t)
    (hrun : Returns t s.program.run u (.ok report)) (hfailed : report.failed = 0)
    (f : Family) {chain : String} (hchain : chain ∈ [inputChain, outputChain, forwardChain]) :
    let before := t.contents f chain
    let after := u.contents f chain
    (after.rules.getLast? = some rejectRule <-> ¬ before.RejectsFirst chain) ∧
    (exists jumps, (forall args, args ∈ jumps ->
        exists c : ChainId, c.family = f ∧ c.builtin = chain ∧ args = c.jumpArgs) ∧
      after.rules = jumps ++ if before.RejectsFirst chain then [rejectRule, loopbackRule chain]
        else [loopbackRule chain, rejectRule]) ∧
    (s.Accepting -> forall services p, p.family = f ->
      (u.Accepts services chain p <->
        p.UsesLoopback chain ∧ ¬ before.RejectsFirst chain ∨
          exists c r, c.family = f ∧ c.builtin = chain ∧ r ∈ s.rules c ∧
            p.meets services r.args = true)) := by
  intro before after
  have hu := eq_provisioned_of_returns hrun hfailed
  have hafter : Visited (s :: history) u := .run h hrun.reaches
  have hbase : after.base chain = before.completed chain := by
    have hprovisioned := base_provisioned (structured_of_visited h) s f hchain
    rw [← hu] at hprovisioned
    exact hprovisioned
  rcases hafter.rules_eq f hchain with ⟨jumps, hjumps, hshape⟩
  have hrules : after.rules = jumps ++ before.completed chain := by
    rw [← hbase]
    exact hshape
  refine ⟨?_, ⟨jumps, hjumps, hrules⟩, ?_⟩
  · have hne := loopbackRule_ne_rejectRule chain
    rw [hrules]
    unfold Contents.completed baselineRules
    by_cases hfirst : before.RejectsFirst chain <;> simp [hfirst, hne]
  · intro haccepting services p hp
    subst hu
    rcases ChainId.builtin_cases hchain f with ⟨c, rfl, rfl⟩ | rfl
    · rw [accepts_gate_provisioned_iff h haccepting hafter hp, exists_rule_builtin_iff]
    · have hnone : ¬ exists c r, ChainId.family c = f ∧ c.builtin = forwardChain ∧
          r ∈ s.rules c ∧ p.meets services r.args = true := by
        rintro ⟨c, r, _, hforward, _⟩
        exact c.builtin_ne_forward hforward
      rw [accepts_forward_provisioned_iff h hafter, hp]
      simp only [hnone, or_false]
      rfl

end Tables

/-!
# Kernels with faults
-/

namespace Kernel

/-- A first run stops before the baseline is complete.  The second one has rules
for what is received and reports no failure. -/
theorem rejection_trails_after_panic :
    let stopping : RuleSet := { netns := "/run/netns/pod" }
    let filling : RuleSet :=
      { netns := "/run/netns/pod",
        rules := fun c => if c = ⟨.ingress, .v4⟩ then [{ protocol := some .tcp }] else [] }
    let once := (host.provision
      { ({} : Kernel) with faults := [{ arg := some "REJECT", kind := .panic }] } stopping).1
    let twice := host.provision { once with faults := [] } filling
    let u := twice.1.tables "/run/netns/pod"
    let p : Packet :=
      { source := .v4 ⟨127, 0, 0, 1⟩, dest := .v4 ⟨127, 0, 0, 1⟩, inInterface := some "lo" }
    twice.2 = some (.ok { installed := 14 }) ∧
    (u.contents .v4 inputChain).rules.getLast? = some rejectRule ∧
    u.Accepts (fun _ _ _ => false) inputChain p := by
  intro stopping filling once twice u p
  have hfirst : Tables.Visited [stopping] (once.tables "/run/netns/pod") :=
    visited_provision {} _ stopping (.blank Tables.blank_empty)
  have hresult : twice.2 = some (.ok { installed := 14 }) := by
    decide +kernel
  have horder :
      ¬ ((once.tables "/run/netns/pod").contents .v4 inputChain).RejectsFirst inputChain := by
    decide +kernel
  have haccepting : filling.Accepting := by
    intro c r hr
    by_cases hc : c = ⟨.ingress, .v4⟩ <;> simp_all [filling]
  have hchain : inputChain ∈ [inputChain, outputChain, forwardChain] := List.mem_cons_self
  rcases Tables.rejection_trails_iff hfirst (provision_returns once [] filling hresult) rfl .v4
    hchain with ⟨hlast, _, haccepts⟩
  exact ⟨hresult, hlast.mpr horder, (haccepts haccepting _ p rfl).mpr (Or.inl ⟨rfl, horder⟩)⟩

/-- The rule for received loopback traffic cannot be added in a first run, which
counts that.  The second run reports no failure, and yet that rule is behind the
rejection and loopback traffic is rejected. -/
theorem rejection_not_last_after_failure :
    let s : RuleSet := { netns := "/run/netns/pod" }
    let first := host.provision
      { ({} : Kernel) with
        faults := [{ family := some .v4, chain := some "INPUT", arg := some "lo" }] } s
    let second := host.provision { first.1 with faults := [] } s
    let u := second.1.tables "/run/netns/pod"
    let p : Packet :=
      { source := .v4 ⟨127, 0, 0, 1⟩, dest := .v4 ⟨127, 0, 0, 1⟩, inInterface := some "lo" }
    first.2 = some (.ok { installed := 11, failed := 1 }) ∧
    second.2 = some (.ok { installed := 12, failed := 0 }) ∧
    u.contents .v4 "INPUT" = some [["-j", "REJECT"], ["-i", "lo", "-j", "ACCEPT"]] ∧
    (u.contents .v4 "INPUT").rules.getLast? ≠ some ["-j", "REJECT"] ∧
    ¬ u.Accepts (fun _ _ _ => false) "INPUT" p := by
  intro s first second u p
  have hinput : u.contents .v4 "INPUT" =
      some [["-j", "REJECT"], ["-i", "lo", "-j", "ACCEPT"]] := by
    decide +kernel
  refine ⟨?_, ?_, hinput, ?_, ?_⟩
  · decide +kernel
  · decide +kernel
  · rw [hinput]
    decide
  · decide +kernel

end Kernel

end PodIsolation
