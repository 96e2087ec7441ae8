import PodIsolation.Proofs.FaultlessRun

/-!
# Convergence

## One state for each rule set

Whatever was provisioned before, a run without faults leads to the tables that
its rule set calls for.  Only empty chains may tell of earlier rule sets.
-/

namespace PodIsolation

namespace Contents

/-- A chain without rules is created if it is not there yet. -/
theorem foldl_ensureLast_of_rules_eq_nil {contents : Contents} {added : List (List String)}
    (hcontents : contents.rules = []) (h : added ≠ []) :
    added.foldl ensureLast contents = some added.eraseDups := by
  have hnil : added.foldl ensureLast contents = added.foldl ensureLast (some []) := by
    cases contents with
    | none =>
        cases added with
        | nil => exact absurd rfl h
        | cons args rest => rfl
    | some rules => rw [show rules = [] from hcontents]
  rw [hnil, foldl_ensureLast_nil]

/-- Rules that are there already are not added again. -/
theorem foldl_ensureLast_of_subset {rules added : List (List String)} (h : added ⊆ rules) :
    added.foldl ensureLast (some rules) = some rules := by
  have hnone : (added.filter fun args => args ∉ rules) = [] := by
    rw [List.filter_eq_nil_iff]
    intro args hargs
    simpa using h hargs
  rw [foldl_ensureLast, hnone]
  simp

end Contents

namespace RuleSet

/-- The built-in chain of a direction, as a rule set calls for it. -/
def gate (s : RuleSet) (c : ChainId) : List (List String) :=
  (if s.rules c = [] then [] else [c.jumpArgs]) ++ baselineRules c.builtin

theorem gate_of_rules_eq_nil {s : RuleSet} {c : ChainId} (h : s.rules c = []) :
    s.gate c = baselineRules c.builtin := by
  simp [gate, h]

theorem gate_of_rules_ne_nil {s : RuleSet} {c : ChainId} (h : s.rules c ≠ []) :
    s.gate c = c.jumpArgs :: baselineRules c.builtin := by
  simp [gate, h]

end RuleSet

namespace Tables

/-!
# Orderly tables

Between runs, a built-in chain has no rules yet or holds the baseline.  Before
the baseline there may be a jump to the own chain of the direction, which is
there then.
-/

/-- What runs without faults preserve. -/
structure Orderly (t : Tables) : Prop where
  gate : forall c : ChainId, (t.contents c.family c.builtin).rules = [] ∨
    t.contents c.family c.builtin = some (baselineRules c.builtin) ∨
    t.contents c.family c.builtin = some (c.jumpArgs :: baselineRules c.builtin) ∧
      (t.contents c.family c.name).isSome
  forward : forall f, (t.contents f forwardChain).rules = [] ∨
    t.contents f forwardChain = some (baselineRules forwardChain)
  foreign : forall f name, (forall c, ¬ ChainId.InLane c f name) -> name ≠ forwardChain ->
    t.contents f name = none

/-- The tables are those that a rule set calls for. -/
structure Settled (s : RuleSet) (t : Tables) : Prop where
  live : forall c, s.rules c ≠ [] ->
    t.contents c.family c.name = some (s.plan c).eraseDups
  idle : forall c, s.rules c = [] ->
    t.contents c.family c.name = none ∨ t.contents c.family c.name = some []
  gate : forall c, t.contents c.family c.builtin = some (s.gate c)
  forward : forall f, t.contents f forwardChain = some (baselineRules forwardChain)
  foreign : forall f name, (forall c, ¬ ChainId.InLane c f name) -> name ≠ forwardChain ->
    t.contents f name = none

theorem Blank.orderly {t : Tables} (h : t.Blank) : Orderly t where
  gate c := Or.inl (h.rules c.family c.builtin)
  forward f := Or.inl (h.rules f forwardChain)
  foreign _ _ := h.foreign

theorem Settled.orderly {s : RuleSet} {t : Tables} (h : Settled s t) : Orderly t := by
  constructor
  · intro c
    right
    rw [h.gate c]
    by_cases hrules : s.rules c = []
    · left
      rw [RuleSet.gate_of_rules_eq_nil hrules]
    · right
      rw [RuleSet.gate_of_rules_ne_nil hrules, h.live c hrules]
      exact ⟨rfl, rfl⟩
  · intro f
    right
    exact h.forward f
  · exact h.foreign

/-!
# The chains after a run
-/

/-- The chains of a direction before any rule is added. -/
theorem lane_prepared (t : Tables) (s : RuleSet) (c : ChainId) :
    (t.prepared s).lane c =
      if s.rules c = [] then c.retireLane (t.lane c) else c.prepareLane (t.lane c) := by
  unfold prepared
  rw [lane_foldl lane_prepare_self (fun t c f name => contents_prepare_of_not_inLane)
      s.nodup_live,
    lane_foldl lane_retire_self (fun t c f name => contents_retire_of_not_inLane)
      s.nodup_retired]
  by_cases h : s.rules c = [] <;> simp [RuleSet.mem_live, RuleSet.mem_retired, h]

theorem contents_prepared_of_not_inLane (t : Tables) (s : RuleSet) {f : Family} {name : String}
    (h : forall c, ¬ ChainId.InLane c f name) :
    (t.prepared s).contents f name = t.contents f name := by
  unfold prepared
  rw [contents_foldl_of_not_inLane (fun t c f name => contents_prepare_of_not_inLane) _ _ h,
    contents_foldl_of_not_inLane (fun t c f name => contents_retire_of_not_inLane) _ _ h]

theorem contents_provisioned_name (t : Tables) (s : RuleSet) (c : ChainId) :
    (t.provisioned s).contents c.family c.name =
      if s.rules c = [] then (c.retireLane (t.lane c)).1 else some (s.plan c).eraseDups := by
  have hown : (t.prepared s).contents c.family c.name =
      (if s.rules c = [] then c.retireLane (t.lane c) else c.prepareLane (t.lane c)).1 :=
    congrArg Prod.fst (lane_prepared t s c)
  rw [contents_provisioned, RuleSet.additions_name, hown]
  by_cases h : s.rules c = []
  · simp [h]
  · simp only [if_neg h]
    exact Contents.foldl_ensureLast_nil (s.plan c)

theorem contents_provisioned_builtin (t : Tables) (s : RuleSet) (c : ChainId) :
    (t.provisioned s).contents c.family c.builtin =
      (baselineRules c.builtin).foldl Contents.ensureLast
        (if s.rules c = [] then c.retireLane (t.lane c) else c.prepareLane (t.lane c)).2 := by
  have hgate : (t.prepared s).contents c.family c.builtin =
      (if s.rules c = [] then c.retireLane (t.lane c) else c.prepareLane (t.lane c)).2 :=
    congrArg Prod.snd (lane_prepared t s c)
  rw [contents_provisioned, RuleSet.additions_builtin, hgate]

/-- Retiring leaves at most the baseline in the gate of an orderly direction. -/
theorem Orderly.retireLane_gate {t : Tables} (h : Orderly t) (c : ChainId) :
    (c.retireLane (t.lane c)).2.rules = [] ∨
      (c.retireLane (t.lane c)).2 = some (baselineRules c.builtin) := by
  have herase : (baselineRules c.builtin).erase c.jumpArgs = baselineRules c.builtin :=
    List.erase_of_not_mem c.jumpArgs_not_mem_baselineRules
  unfold lane
  cases hown : t.contents c.family c.name with
  | none =>
      rcases h.gate c with hgate | hgate | ⟨_, hsome⟩
      · exact Or.inl hgate
      · exact Or.inr hgate
      · rw [hown] at hsome
        exact absurd hsome Bool.false_ne_true
  | some rules =>
      rcases h.gate c with hgate | hgate | ⟨hgate, _⟩
      · left
        have hdelete := Contents.rules_delete (t.contents c.family c.builtin) c.jumpArgs
        rw [hgate] at hdelete
        exact hdelete
      · right
        simp [ChainId.retireLane, FilterAction.effect, hgate, herase]
      · right
        simp [ChainId.retireLane, FilterAction.effect, hgate]

/-- Preparing leaves the jump in the gate of an orderly direction, and behind it
at most the baseline. -/
theorem Orderly.prepareLane_gate {t : Tables} (h : Orderly t) (c : ChainId) :
    (c.prepareLane (t.lane c)).2 = some [c.jumpArgs] ∨
      (c.prepareLane (t.lane c)).2 = some (c.jumpArgs :: baselineRules c.builtin) := by
  unfold lane
  simp only [ChainId.prepareLane, FilterAction.effect_ensureRule]
  rcases h.gate c with hgate | hgate | ⟨hgate, _⟩
  · simp [show (t.contents c.family c.builtin).getD [] = [] from hgate, Table.place]
  · simp [hgate, Table.place, c.jumpArgs_not_mem_baselineRules]
  · simp [hgate]

theorem foldl_baselineRules_of_rules_eq_nil {contents : Contents} (h : contents.rules = [])
    (chain : String) :
    (baselineRules chain).foldl Contents.ensureLast contents = some (baselineRules chain) := by
  have hne : baselineRules chain ≠ [] :=
    List.cons_ne_nil _ _
  rw [Contents.foldl_ensureLast_of_rules_eq_nil h hne]
  simp [baselineRules, List.eraseDups_cons, (loopbackRule_ne_rejectRule chain).symm]

theorem foldl_baselineRules_jump (c : ChainId) :
    (baselineRules c.builtin).foldl Contents.ensureLast (some [c.jumpArgs]) =
      some (c.jumpArgs :: baselineRules c.builtin) := by
  rcases c with ⟨_ | _, _ | _⟩ <;> rfl

/-- A run leads from orderly tables to those that the rule set calls for. -/
theorem settled_provisioned {t : Tables} (s : RuleSet) (h : Orderly t) :
    Settled s (t.provisioned s) := by
  constructor
  · intro c hrules
    rw [contents_provisioned_name, if_neg hrules]
  · intro c hrules
    rw [contents_provisioned_name, if_pos hrules]
    unfold lane
    cases t.contents c.family c.name with
    | none => exact Or.inl rfl
    | some rules => exact Or.inr rfl
  · intro c
    rw [contents_provisioned_builtin]
    by_cases hrules : s.rules c = []
    · rw [if_pos hrules, RuleSet.gate_of_rules_eq_nil hrules]
      rcases h.retireLane_gate c with hgate | hgate
      · rw [foldl_baselineRules_of_rules_eq_nil hgate]
      · rw [hgate, Contents.foldl_ensureLast_of_subset (List.Subset.refl _)]
    · rw [if_neg hrules, RuleSet.gate_of_rules_ne_nil hrules]
      rcases h.prepareLane_gate c with hgate | hgate
      · rw [hgate, foldl_baselineRules_jump]
      · rw [hgate, Contents.foldl_ensureLast_of_subset (List.subset_cons_self _ _)]
  · intro f
    have hfree : forall c, ¬ ChainId.InLane c f forwardChain := fun c => c.not_inLane_forward f
    rw [contents_provisioned, RuleSet.additions_forward, contents_prepared_of_not_inLane t s hfree]
    rcases h.forward f with hforward | hforward
    · rw [foldl_baselineRules_of_rules_eq_nil hforward]
    · rw [hforward, Contents.foldl_ensureLast_of_subset (List.Subset.refl _)]
  · intro f name hfree hforward
    rw [contents_provisioned, RuleSet.additions_foreign s hfree hforward,
      contents_prepared_of_not_inLane t s hfree]
    exact h.foreign f name hfree hforward

/-!
# Running again
-/

/-- A chain that has no rules keeps its state. -/
theorem Settled.provisioned_idle {s : RuleSet} {t : Tables} (h : Settled s t) {c : ChainId}
    (hrules : s.rules c = []) :
    (t.provisioned s).contents c.family c.name = t.contents c.family c.name := by
  rw [contents_provisioned_name, if_pos hrules]
  unfold lane
  rcases h.idle c hrules with hidle | hidle <;> rw [hidle] <;> rfl

/-- Tables that a rule set calls for agree except for chains without rules. -/
theorem Settled.eq_of_idle {s : RuleSet} {t u : Tables} (ht : Settled s t) (hu : Settled s u)
    (h : forall c : ChainId, s.rules c = [] ->
      t.contents c.family c.name = u.contents c.family c.name) : t = u := by
  apply Tables.ext
  intro f name
  by_cases hlane : exists c, ChainId.InLane c f name
  · rcases hlane with ⟨c, rfl, rfl | rfl⟩
    · by_cases hrules : s.rules c = []
      · exact h c hrules
      · rw [ht.live c hrules, hu.live c hrules]
    · rw [ht.gate c, hu.gate c]
  · have hfree : forall c, ¬ ChainId.InLane c f name := fun c hin => hlane ⟨c, hin⟩
    by_cases hforward : name = forwardChain
    · rw [hforward, ht.forward f, hu.forward f]
    · rw [ht.foreign f name hfree hforward, hu.foreign f name hfree hforward]

theorem Settled.provisioned_eq {s : RuleSet} {t : Tables} (h : Settled s t) :
    t.provisioned s = t :=
  (settled_provisioned s h.orderly).eq_of_idle h fun _ hrules => h.provisioned_idle hrules

end Tables

/-!
# Histories

Provisioning without faults converges: the last rule set decides what the
tables hold, and providing it again changes nothing.
-/

namespace Kernel

theorem settled_provisionAll {k : Kernel} {path : String} (hready : k.Ready path)
    (hblank : (k.tables path).Blank) {history : List RuleSet} {last : RuleSet}
    (hnetns : forall s, s ∈ history ++ [last] -> s.netns = path) :
    Tables.Settled last ((k.provisionAll (history ++ [last])).tables path) := by
  have horderly : forall (sets : List RuleSet) (t : Tables), t.Orderly ->
      (sets.foldl Tables.provisioned t).Orderly := by
    intro sets
    induction sets with
    | nil => exact fun t h => h
    | cons s rest ih => exact fun t h => ih _ (Tables.settled_provisioned s h).orderly
  rw [(provisionAll_ready hready hnetns).left, List.foldl_append]
  exact Tables.settled_provisioned last (horderly history _ hblank.orderly)

/-- After any rule sets for a namespace whose tables were blank, the tables are
as the last rule set calls for, and provisioning it again changes nothing. -/
theorem provisionAll_converges (k : Kernel) (path : String) (hfaults : k.faults = [])
    (hpresent : k.missing.get? path = none) (hblank : (k.tables path).Blank)
    (history : List RuleSet) (last : RuleSet)
    (hnetns : forall s, s ∈ history ++ [last] -> s.netns = path) :
    let final := k.provisionAll (history ++ [last])
    let t := final.tables path
    (forall c, last.rules c ≠ [] -> t.contents c.family c.name =
      some ((last.rules c ++ [Rule.returning]).map Rule.args).eraseDups) ∧
    (forall c, last.rules c = [] ->
      t.contents c.family c.name = none ∨ t.contents c.family c.name = some []) ∧
    (forall f, t.contents f "INPUT" =
      some ((if last.rules ⟨.ingress, f⟩ = [] then []
        else [["-j", ChainId.name ⟨.ingress, f⟩]]) ++
          [["-i", "lo", "-j", "ACCEPT"], ["-j", "REJECT"]])) ∧
    (forall f, t.contents f "OUTPUT" =
      some ((if last.rules ⟨.egress, f⟩ = [] then []
        else [["-j", ChainId.name ⟨.egress, f⟩]]) ++
          [["-o", "lo", "-j", "ACCEPT"], ["-j", "REJECT"]])) ∧
    (forall f, t.contents f "FORWARD" =
      some [["-i", "lo", "-j", "ACCEPT"], ["-j", "REJECT"]]) ∧
    (forall f name, (forall c : ChainId, c.family = f -> name ≠ c.name) ->
      name ∉ ["INPUT", "OUTPUT", "FORWARD"] -> t.contents f name = none) ∧
    (forall other, (host.provision final last).1.tables other = final.tables other) := by
  intro final t
  have hsettled : Tables.Settled last t :=
    settled_provisionAll ⟨hfaults, hpresent⟩ hblank hnetns
  have hlast : last.netns = path := hnetns last (by simp)
  refine ⟨hsettled.live, hsettled.idle, fun f => hsettled.gate ⟨.ingress, f⟩,
    fun f => hsettled.gate ⟨.egress, f⟩, hsettled.forward, ?_, ?_⟩
  · intro f name hname hbuiltin
    apply hsettled.foreign f name
    · intro c hin
      rcases hin with ⟨hfamily, h | h⟩
      · exact hname c hfamily.symm h
      · rcases c with ⟨_ | _, g⟩ <;>
          simp [h, ChainId.builtin, Direction.builtin, inputChain, outputChain] at hbuiltin
    · intro h
      simp [h, forwardChain] at hbuiltin
  · intro other
    have hready : final.Ready path :=
      (provisionAll_ready ⟨hfaults, hpresent⟩ hnetns).right
    subst hlast
    rw [(provision_ready hready).left other]
    by_cases hother : other = last.netns
    · rw [if_pos hother, hother]
      exact hsettled.provisioned_eq
    · rw [if_neg hother]

/-- A namespace that first filters what it receives and then what it sends. -/
theorem provisionAll_converges_from_ingress_to_egress :
    let ingress : RuleSet :=
      { netns := "/run/netns/pod",
        rules := fun c => if c = ⟨.ingress, .v4⟩ then [{ protocol := some .tcp }] else [] }
    let egress : RuleSet :=
      { netns := "/run/netns/pod",
        rules := fun c => if c = ⟨.egress, .v6⟩ then [{ protocol := some .udp },
          { protocol := some .udp }] else [] }
    let k : Kernel := { namespaces := SortedMap.ofList [("/run/netns/pod", Tables.fresh)] }
    let t := (k.provisionAll ([ingress] ++ [egress])).tables "/run/netns/pod"
    t.contents .v6 "DANM_EGRESS_V6" = some [["-p", "udp", "-j", "ACCEPT"], ["-j", "RETURN"]] ∧
    (t.contents .v4 "DANM_INGRESS_V4" = none ∨ t.contents .v4 "DANM_INGRESS_V4" = some []) ∧
    t.contents .v4 "INPUT" = some [["-i", "lo", "-j", "ACCEPT"], ["-j", "REJECT"]] ∧
    t.contents .v6 "OUTPUT" =
      some [["-j", "DANM_EGRESS_V6"], ["-o", "lo", "-j", "ACCEPT"], ["-j", "REJECT"]] := by
  intro ingress egress k t
  have h := provisionAll_converges k "/run/netns/pod" rfl rfl (blank_tables _)
    [ingress] egress (by simp [ingress, egress])
  rcases h with ⟨hlive, hidle, hinput, houtput, -⟩
  refine ⟨hlive ⟨.egress, .v6⟩ ?_, hidle ⟨.ingress, .v4⟩ ?_, hinput .v4, houtput .v6⟩
  · simp [egress]
  · simp [egress]

end Kernel

end PodIsolation
