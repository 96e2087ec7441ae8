import PodIsolation.Proofs.ChainTraversal
import PodIsolation.Proofs.LaneInvariant

/-!
# Structure of the chains

## What faults cannot break

Rule sets are provisioned one after the other in a namespace that had no rules.
Calls may fail and runs may stop at any point, so that the rules in place can be
those of several rule sets, and a baseline may be incomplete.  Still no chain
holds a rule twice, a built-in chain holds only the jump to its own chain and
rules of its baseline, the jump comes first, and the own chains that hold rules
are those that are jumped to.
-/

namespace PodIsolation

namespace Contents

theorem nodup_append {contents : Contents} (args : List String) (h : contents.rules.Nodup) :
    ((FilterAction.ensureRule .append args).effect contents).rules.Nodup := by
  rw [rules_append]
  split
  · exact h
  · rename_i hmem
    refine List.nodup_append.mpr ⟨h, by simp, ?_⟩
    intro a ha b hb
    rw [List.mem_singleton.mp hb]
    exact fun heq => hmem (heq ▸ ha)

theorem nodup_insert {contents : Contents} (args : List String) (h : contents.rules.Nodup) :
    ((FilterAction.ensureRule (.insert 1) args).effect contents).rules.Nodup := by
  rw [rules_insert]
  split
  · exact h
  · rename_i hmem
    exact List.nodup_cons.mpr ⟨hmem, h⟩

theorem nodup_delete {contents : Contents} (args : List String) (h : contents.rules.Nodup) :
    ((FilterAction.deleteRule args).effect contents).rules.Nodup := by
  rw [rules_delete]
  exact h.erase args

end Contents

/-!
# One direction
-/

/-- Some rule set has the rule in the plan of the chain. -/
def ChainId.Asked (c : ChainId) (history : List RuleSet) (args : List String) : Prop :=
  exists s, s ∈ history ∧ args ∈ s.plan c

namespace ChainId

/-- The chains of a direction are joined, hold no rule twice, and the own chain
holds only rules that were asked for. -/
structure Tidy (c : ChainId) (history : List RuleSet) (lane : Contents × Contents) : Prop
    extends Joined c lane where
  ownDistinct : lane.1.rules.Nodup
  gateDistinct : lane.2.rules.Nodup
  asked : forall args, args ∈ lane.1.rules -> c.Asked history args

variable {c : ChainId} {history : List RuleSet} {own gate : Contents}

theorem tidy_blank (hown : own.rules = []) (hgate : gate.rules = []) :
    c.Tidy history (own, gate) :=
  { joined_blank hown hgate with
    ownDistinct := hown ▸ List.nodup_nil
    gateDistinct := hgate ▸ List.nodup_nil
    asked := by simp [hown] }

theorem Tidy.later {lane : Contents × Contents} (h : c.Tidy history lane) (s : RuleSet) :
    c.Tidy (s :: history) lane := by
  refine { h with asked := ?_ }
  intro args hargs
  rcases h.asked args hargs with ⟨r, hr, hplan⟩
  exact ⟨r, List.mem_cons_of_mem s hr, hplan⟩

theorem Tidy.flushed (h : c.Tidy history (own, gate)) : c.Tidy history (some [], gate) :=
  { h.toJoined.flushed with
    ownDistinct := List.nodup_nil
    gateDistinct := h.gateDistinct
    asked := by simp }

theorem Tidy.appended (h : c.Tidy history (own, gate)) (hjumped : c.jumpArgs ∈ gate.rules)
    {args : List String} (hargs : c.Asked history args) :
    c.Tidy history ((FilterAction.ensureRule .append args).effect own, gate) := by
  refine { h.toJoined.appended hjumped args with
    ownDistinct := Contents.nodup_append args h.ownDistinct
    gateDistinct := h.gateDistinct
    asked := ?_ }
  intro args' hmem
  rcases Contents.mem_rules_append.mp hmem with hmem | rfl
  · exact h.asked args' hmem
  · exact hargs

theorem Tidy.unjumped (h : c.Tidy history (own, gate)) (hown : own.rules = []) :
    c.Tidy history (own, (FilterAction.deleteRule c.jumpArgs).effect gate) :=
  { h.toJoined.unjumped hown with
    ownDistinct := h.ownDistinct
    gateDistinct := Contents.nodup_delete c.jumpArgs h.gateDistinct
    asked := h.asked }

theorem Tidy.jumped_to (h : c.Tidy history (own, gate)) (hown : own.isSome) :
    c.Tidy history (own, (FilterAction.ensureRule (.insert 1) c.jumpArgs).effect gate) :=
  { h.toJoined.jumped_to hown with
    ownDistinct := h.ownDistinct
    gateDistinct := Contents.nodup_insert c.jumpArgs h.gateDistinct
    asked := h.asked }

theorem Tidy.settled (h : c.Tidy history (own, gate)) {args : List String}
    (hargs : args ∈ baselineRules c.builtin) :
    c.Tidy history (own, (FilterAction.ensureRule .append args).effect gate) :=
  { h.toJoined.settled hargs with
    ownDistinct := h.ownDistinct
    gateDistinct := Contents.nodup_append args h.gateDistinct
    asked := h.asked }

/-- A jump in the gate is its first rule and leads to a chain that exists. -/
theorem Joined.jump_first (h : c.Joined (own, gate)) (hjump : c.jumpArgs ∈ gate.rules) :
    gate.rules.head? = some c.jumpArgs ∧ own.isSome := by
  rcases h.gate with ⟨base, hbase, hgate | ⟨hgate, hsome⟩⟩
  · rw [hgate] at hjump
    exact absurd (hbase _ hjump) c.jumpArgs_not_mem_baselineRules
  · rw [hgate]
    exact ⟨rfl, hsome⟩

theorem Joined.mem_gate (h : c.Joined (own, gate)) {args : List String}
    (hargs : args ∈ gate.rules) : args = c.jumpArgs ∨ args ∈ baselineRules c.builtin := by
  rcases h.gate with ⟨base, hbase, hgate | ⟨hgate, _⟩⟩
  · rw [hgate] at hargs
    exact Or.inr (hbase args hargs)
  · rw [hgate] at hargs
    rcases List.mem_cons.mp hargs with hjump | hmem
    · exact Or.inl hjump
    · exact Or.inr (hbase args hmem)

end ChainId

/-!
# All chains
-/

namespace Tables

/-- The directions are tidy, forwarding knows each rule of the baseline at most
once, and there are no other chains. -/
structure Tidy (history : List RuleSet) (t : Tables) : Prop where
  lanes : forall c : ChainId, c.Tidy history (t.lane c)
  forwardDistinct : forall f, (t.contents f forwardChain).rules.Nodup
  forward : forall f args, args ∈ (t.contents f forwardChain).rules ->
    args ∈ baselineRules forwardChain
  foreign : forall f name, (forall c, ¬ ChainId.InLane c f name) -> name ≠ forwardChain ->
    t.contents f name = none

variable {history : List RuleSet} {s : RuleSet} {t u : Tables}

theorem Blank.tidy (h : t.Blank) : Tidy [] t where
  lanes _ := ChainId.tidy_blank (h.rules _ _) (h.rules _ _)
  forwardDistinct f := h.rules f forwardChain ▸ List.nodup_nil
  forward f args hargs := by
    rw [h.rules] at hargs
    cases hargs
  foreign _ _ := h.foreign

theorem Tidy.later (h : Tidy history t) (s : RuleSet) : Tidy (s :: history) t :=
  { h with lanes := fun c => (h.lanes c).later s }

/-- Tidiness is an invariant of provisioning a rule set of the history. -/
def tidiness (hs : s ∈ history) : LaneInvariant s where
  lane c := c.Tidy history
  other _ name contents :=
    (name = forwardChain -> contents.rules.Nodup ∧
      forall args, args ∈ contents.rules -> args ∈ baselineRules forwardChain) ∧
    (name ≠ forwardChain -> contents = none)
  flushed h := h.flushed
  unjumped h hown := h.unjumped hown
  jumped_to h hown := h.jumped_to hown
  appended h hready hargs := h.appended hready.jumped ⟨s, hs, hargs⟩
  settled h hargs := h.settled hargs
  forwarded := by
    intro f contents args h hargs
    obtain ⟨hdistinct, hbase⟩ := h.left rfl
    refine ⟨fun _ => ⟨Contents.nodup_append args hdistinct, ?_⟩, fun hne => absurd rfl hne⟩
    intro args' hmem
    rcases Contents.mem_rules_append.mp hmem with hmem | rfl
    · exact hbase args' hmem
    · exact hargs

theorem holds_tidiness_iff (hs : s ∈ history) : (tidiness hs).Holds t <-> Tidy history t := by
  constructor
  · intro h
    have hforward := fun f =>
      (h.others f forwardChain (fun c => c.not_inLane_forward f)).left rfl
    exact ⟨h.lanes, fun f => (hforward f).left, fun f => (hforward f).right,
      fun f name hfree hname => (h.others f name hfree).right hname⟩
  · intro h
    refine ⟨h.lanes, ?_⟩
    intro f name hfree
    refine ⟨?_, h.foreign f name hfree⟩
    rintro rfl
    exact ⟨h.forwardDistinct f, h.forward f⟩

/-!
# Histories with faults
-/

/-- The tables that provisioning rule sets, one after the other, can pass through
from blank tables.  Any call may fail and any run may stop anywhere.  The rule
sets are listed with the latest first. -/
inductive Visited : List RuleSet -> Tables -> Prop where
  | blank {t : Tables} : t.Blank -> Visited [] t
  | run {history : List RuleSet} {t u : Tables} {s : RuleSet} :
      Visited history t -> Reaches t s.program.run u -> Visited (s :: history) u

theorem Visited.tidy (h : Visited history t) : Tidy history t := by
  induction h with
  | blank hblank => exact hblank.tidy
  | @run history t u s _ hrun ih =>
      have hs : s ∈ s :: history := List.mem_cons_self
      have hbefore := (holds_tidiness_iff hs).mpr (ih.later s)
      exact (holds_tidiness_iff hs).mp (hbefore.of_reaches hrun)

/-!
# The structure of visited tables
-/

/-- What holds of the chains at each point of a history with faults. -/
structure Structured (history : List RuleSet) (t : Tables) : Prop where
  distinct : forall f name, (t.contents f name).rules.Nodup
  gate : forall (c : ChainId) args, args ∈ (t.contents c.family c.builtin).rules ->
    args = c.jumpArgs ∨ args = loopbackRule c.builtin ∨ args = rejectRule
  forward : forall f args, args ∈ (t.contents f forwardChain).rules ->
    args = loopbackRule forwardChain ∨ args = rejectRule
  jump_first : forall c : ChainId, c.jumpArgs ∈ (t.contents c.family c.builtin).rules ->
    (t.contents c.family c.builtin).rules.head? = some c.jumpArgs
  jump_exists : forall c : ChainId, c.jumpArgs ∈ (t.contents c.family c.builtin).rules ->
    (t.contents c.family c.name).isSome
  jumped : forall c : ChainId, (t.contents c.family c.name).rules ≠ [] ->
    c.jumpArgs ∈ (t.contents c.family c.builtin).rules
  /-- All other jumps are rules that a rule set brings along. -/
  jumps : forall f name args target, args ∈ (t.contents f name).rules ->
    Rule.targetOf? args = some (.jump target) -> (t.contents f target).isSome ∨
      exists c s r, s ∈ history ∧ r ∈ s.rules c ∧ c.family = f ∧ c.name = name ∧ r.args = args

theorem targetOf?_of_mem_baselineRules {chain : String} {args : List String}
    (h : args ∈ baselineRules chain) (target : String) :
    Rule.targetOf? args ≠ some (.jump target) := by
  simp only [baselineRules, List.mem_cons, List.not_mem_nil, or_false] at h
  rcases h with rfl | rfl
  · simp [Packet.targetOf?_loopbackRule]
  · simp [Packet.targetOf?_rejectRule]

/-- A jump of a plan is a rule of the rule set, since the return is none. -/
theorem exists_rule_of_jump {c : ChainId} {args : List String} {target : String}
    (hargs : c.Asked history args) (htarget : Rule.targetOf? args = some (.jump target)) :
    exists s r, s ∈ history ∧ r ∈ s.rules c ∧ r.args = args := by
  rcases hargs with ⟨s, hs, hplan⟩
  rcases List.mem_map.mp hplan with ⟨r, hr, rfl⟩
  rcases List.mem_append.mp hr with hr | hr
  · exact ⟨s, r, hs, hr, rfl⟩
  · rw [List.mem_singleton.mp hr] at htarget
    cases htarget

/-- A chain is an own chain or a gate, it is for forwarding, or there is none. -/
theorem Tidy.kinds (h : Tidy history t) (f : Family) (name : String) :
    (exists c : ChainId, c.family = f ∧ c.name = name) ∨
    (exists c : ChainId, c.family = f ∧ c.builtin = name) ∨
    name = forwardChain ∨ t.contents f name = none := by
  by_cases hlane : exists c, ChainId.InLane c f name
  · rcases hlane with ⟨c, rfl, rfl | rfl⟩
    · exact Or.inl ⟨c, rfl, rfl⟩
    · exact Or.inr (Or.inl ⟨c, rfl, rfl⟩)
  · right
    right
    by_cases hforward : name = forwardChain
    · exact Or.inl hforward
    · exact Or.inr (h.foreign f name (fun c hin => hlane ⟨c, hin⟩) hforward)

theorem Tidy.distinct (h : Tidy history t) (f : Family) (name : String) :
    (t.contents f name).rules.Nodup := by
  rcases h.kinds f name with ⟨c, rfl, rfl⟩ | ⟨c, rfl, rfl⟩ | rfl | hnone
  · exact (h.lanes c).ownDistinct
  · exact (h.lanes c).gateDistinct
  · exact h.forwardDistinct f
  · rw [hnone]
    exact List.nodup_nil

theorem Tidy.jumps (h : Tidy history t) {f : Family} {name target : String}
    {args : List String} (hargs : args ∈ (t.contents f name).rules)
    (htarget : Rule.targetOf? args = some (.jump target)) :
    (t.contents f target).isSome ∨
      exists c s r, s ∈ history ∧ r ∈ s.rules c ∧ c.family = f ∧ c.name = name ∧
        r.args = args := by
  rcases h.kinds f name with ⟨c, rfl, rfl⟩ | ⟨c, rfl, rfl⟩ | rfl | hnone
  · right
    rcases exists_rule_of_jump ((h.lanes c).asked args hargs) htarget with ⟨s, r, hs, hr, heq⟩
    exact ⟨c, s, r, hs, hr, rfl, rfl, heq⟩
  · left
    rcases (h.lanes c).mem_gate hargs with rfl | hbaseline
    · rw [Rule.targetOf?_jumpArgs] at htarget
      cases htarget
      exact ((h.lanes c).jump_first hargs).right
    · exact absurd htarget (targetOf?_of_mem_baselineRules hbaseline target)
  · exact absurd htarget (targetOf?_of_mem_baselineRules (h.forward f args hargs) target)
  · rw [hnone] at hargs
    cases hargs

/-- Whatever rule sets are provisioned in a namespace that had no rules,
whichever calls fail and wherever the runs stop, the chains keep their structure
at each point.  The jumps of the built-in chains lead to chains that exist; a
rule of a rule set that is itself a jump is put in its own chain as it stands,
and whether there is a chain of that name is not looked at. -/
theorem structured_of_visited (h : Visited history t) : Structured history t := by
  have htidy := h.tidy
  constructor
  · exact htidy.distinct
  · intro c args hargs
    simpa [baselineRules] using (htidy.lanes c).mem_gate hargs
  · intro f args hargs
    simpa [baselineRules] using htidy.forward f args hargs
  · exact fun c hjump => ((htidy.lanes c).jump_first hjump).left
  · exact fun c hjump => ((htidy.lanes c).jump_first hjump).right
  · exact fun c => (htidy.lanes c).jumped
  · exact fun f name args target => htidy.jumps

end Tables

/-!
# Kernels with faults
-/

namespace Kernel

/-- Each run may have faults of its own. -/
theorem visited_provision (k : Kernel) (faults : List Fault) (s : RuleSet)
    {history : List RuleSet} (h : Tables.Visited history (k.tables s.netns)) :
    Tables.Visited (s :: history) ((host.provision { k with faults } s).1.tables s.netns) :=
  .run h (provision_reaches_with k faults s)

/-- A first run that stops before the return is added, and a second one that
stops when it has emptied the chain and is about to remove the jump to it. -/
theorem structured_between_flush_and_delete :
    let filling : RuleSet :=
      { netns := "/run/netns/pod",
        rules := fun c => if c = ⟨.ingress, .v4⟩ then [{ protocol := some .tcp }] else [] }
    let retiring : RuleSet := { netns := "/run/netns/pod" }
    let once := (host.provision
      { ({} : Kernel) with faults := [{ arg := some "RETURN", kind := .panic }] } filling).1
    let twice := (host.provision
      { once with faults := [{ action := some "delete_rule", kind := .panic }] } retiring).1
    let t := once.tables "/run/netns/pod"
    let u := twice.tables "/run/netns/pod"
    t.contents .v4 "DANM_INGRESS_V4" = some [["-p", "tcp", "-j", "ACCEPT"]] ∧
    u.contents .v4 "DANM_INGRESS_V4" = some [] ∧
    u.contents .v4 "INPUT" = some [["-j", "DANM_INGRESS_V4"]] ∧
    Tables.Visited [retiring, filling] u ∧ Tables.Structured [retiring, filling] u := by
  intro filling retiring once twice t u
  have hfirst : Tables.Visited [filling] t :=
    visited_provision {} _ filling (.blank Tables.blank_empty)
  have hvisited : Tables.Visited [retiring, filling] u :=
    visited_provision once _ retiring hfirst
  refine ⟨?_, ?_, ?_, hvisited, Tables.structured_of_visited hvisited⟩
  all_goals decide +kernel

end Kernel

end PodIsolation
