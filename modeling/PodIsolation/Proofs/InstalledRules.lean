import PodIsolation.Proofs.ChainContents

/-!
# Installed rules

## What a rule set adds to each chain

The rules that a chain is given are added one after the other, unless they are
there already.  Which these are follows from the installations of the rule set,
for the own chains of directions, for the built-in chains, and for all others.
-/

namespace PodIsolation

/-- Adds a rule at the end of a chain that does not hold it. -/
def Contents.ensureLast (contents : Contents) (args : List String) : Contents :=
  (FilterAction.ensureRule .append args).effect contents

theorem Contents.foldl_ensureLast (rules added : List (List String)) :
    added.foldl ensureLast (some rules) =
      some (rules ++ (added.filter fun args => args ∉ rules).eraseDups) := by
  induction added generalizing rules with
  | nil => simp
  | cons args rest ih =>
      rw [List.foldl_cons]
      by_cases hmem : args ∈ rules
      · have hkept : ensureLast (some rules) args = some rules := by
          simp [ensureLast, FilterAction.effect, hmem]
        rw [hkept, ih]
        simp [hmem]
      · have hadded : ensureLast (some rules) args = some (rules ++ [args]) := by
          simp [ensureLast, FilterAction.effect, hmem, Table.place]
        have hrest : (rest.filter fun b => b ∉ rules ++ [args]) =
            (rest.filter fun b => b ∉ rules).filter fun b => !b == args := by
          rw [List.filter_filter]
          apply List.filter_congr
          intro b _
          by_cases hb : b = args <;> simp [hb]
        rw [hadded, ih, hrest]
        simp [hmem, List.eraseDups_cons]

/-- A chain that was emptied gets the first occurrences of its rules. -/
theorem Contents.foldl_ensureLast_nil (added : List (List String)) :
    added.foldl ensureLast (some []) = some added.eraseDups := by
  have hall : (added.filter fun args => args ∉ ([] : List (List String))) = added := by
    rw [List.filter_eq_self]
    simp
  rw [foldl_ensureLast, hall]
  rfl

namespace RuleSet

theorem mem_live {s : RuleSet} {c : ChainId} : c ∈ s.live <-> s.rules c ≠ [] := by
  simp [live, ChainId.mem_all]

theorem mem_retired {s : RuleSet} {c : ChainId} : c ∈ s.retired <-> s.rules c = [] := by
  simp [retired, ChainId.mem_all]

theorem nodup_live (s : RuleSet) : s.live.Nodup :=
  ChainId.nodup_all.filter _

theorem nodup_retired (s : RuleSet) : s.retired.Nodup :=
  ChainId.nodup_all.filter _

/-- The argument lists of the rules of a chain and of the return behind them. -/
def plan (s : RuleSet) (c : ChainId) : List (List String) :=
  (s.rules c ++ [Rule.returning]).map Rule.args

/-- The argument lists of the rules that provisioning adds to a chain. -/
def additions (s : RuleSet) (f : Family) (name : String) : List (List String) :=
  (s.installations.filter fun i => i.family = f ∧ i.chain = name).map fun i => i.rule.args

theorem filter_chainInstallations (s : RuleSet) (c : ChainId) (f : Family) (name : String) :
    ((s.chainInstallations c).filter fun i => i.family = f ∧ i.chain = name).map
        (fun i => i.rule.args) =
      if c.family = f ∧ c.name = name then s.plan c else [] := by
  by_cases h : c.family = f ∧ c.name = name
  · have hall : (s.chainInstallations c).filter (fun i => i.family = f ∧ i.chain = name) =
        s.chainInstallations c := by
      rw [List.filter_eq_self]
      intro i hi
      rcases List.mem_map.mp hi with ⟨rule, _, rfl⟩
      simpa using h
    rw [hall, if_pos h]
    simp [chainInstallations, plan, Function.comp_def]
  · have hnone : (s.chainInstallations c).filter (fun i => i.family = f ∧ i.chain = name) =
        [] := by
      rw [List.filter_eq_nil_iff]
      intro i hi
      rcases List.mem_map.mp hi with ⟨rule, _, rfl⟩
      simpa using h
    rw [hnone, if_neg h]
    rfl

theorem additions_eq (s : RuleSet) (f : Family) (name : String) :
    s.additions f name =
      (s.live.flatMap fun c => if c.family = f ∧ c.name = name then s.plan c else []) ++
        ((baseline .v4 ++ baseline .v6).filter fun i => i.family = f ∧ i.chain = name).map
          fun i => i.rule.args := by
  unfold additions installations
  rw [List.append_assoc, List.filter_append, List.map_append, List.filter_flatMap,
    List.map_flatMap]
  congr 1
  congr 1
  funext c
  exact filter_chainInstallations s c f name

theorem additions_name (s : RuleSet) (c : ChainId) :
    s.additions c.family c.name = if s.rules c = [] then [] else s.plan c := by
  have hbaseline : ((baseline .v4 ++ baseline .v6).filter fun i =>
      i.family = c.family ∧ i.chain = c.name) = [] := by
    rcases c with ⟨_ | _, _ | _⟩ <;> decide
  have hown : forall chains : List ChainId, chains.Nodup ->
      (chains.flatMap fun d => if d.family = c.family ∧ d.name = c.name then s.plan d
        else []) = if c ∈ chains then s.plan c else [] := by
    intro chains hnodup
    induction chains with
    | nil => rfl
    | cons d rest ih =>
        obtain ⟨hd, hrest⟩ := List.nodup_cons.mp hnodup
        rw [List.flatMap_cons, ih hrest]
        by_cases hdc : d = c
        · subst hdc
          simp [hd]
        · simp [hdc, Ne.symm hdc]
  rw [additions_eq, hbaseline, hown _ s.nodup_live]
  by_cases h : s.rules c = [] <;> simp [mem_live, h]

theorem additions_of_ne_name (s : RuleSet) (f : Family) {name : String}
    (h : forall c : ChainId, c.name ≠ name) :
    s.additions f name =
      ((baseline .v4 ++ baseline .v6).filter fun i => i.family = f ∧ i.chain = name).map
        fun i => i.rule.args := by
  simp [additions_eq, h]

end RuleSet

/-- The rule that accepts traffic of the loopback interface in a built-in chain. -/
def loopbackRule (chain : String) : List String :=
  if chain = outputChain then ["-o", "lo", "-j", "ACCEPT"] else ["-i", "lo", "-j", "ACCEPT"]

def rejectRule : List String :=
  ["-j", "REJECT"]

theorem loopbackRule_ne_rejectRule (chain : String) : loopbackRule chain ≠ rejectRule := by
  unfold loopbackRule
  split <;> decide

/-- The rules of the baseline in a built-in chain. -/
def baselineRules (chain : String) : List (List String) :=
  [loopbackRule chain, rejectRule]

theorem ChainId.jumpArgs_not_mem_baselineRules (c : ChainId) {chain : String} :
    c.jumpArgs ∉ baselineRules chain := by
  unfold baselineRules loopbackRule
  split <;> rcases c with ⟨_ | _, _ | _⟩ <;> decide

namespace RuleSet

theorem additions_builtin (s : RuleSet) (c : ChainId) :
    s.additions c.family c.builtin = baselineRules c.builtin := by
  rw [additions_of_ne_name s c.family (fun d => d.name_ne_builtin c)]
  rcases c with ⟨_ | _, _ | _⟩ <;> decide

theorem additions_forward (s : RuleSet) (f : Family) :
    s.additions f forwardChain = baselineRules forwardChain := by
  rw [additions_of_ne_name s f ChainId.name_ne_forward]
  cases f <;> decide

/-- No rule is added to a chain that is neither of a direction nor for forwarding. -/
theorem additions_foreign (s : RuleSet) {f : Family} {name : String}
    (hlane : forall c, ¬ ChainId.InLane c f name) (hforward : name ≠ forwardChain) :
    s.additions f name = [] := by
  have hinput : inputChain ≠ name :=
    fun h => hlane ⟨.ingress, f⟩ ⟨rfl, Or.inr h.symm⟩
  have houtput : outputChain ≠ name :=
    fun h => hlane ⟨.egress, f⟩ ⟨rfl, Or.inr h.symm⟩
  have hown : forall c : ChainId, ¬ (c.family = f ∧ c.name = name) :=
    fun c h => hlane c ⟨h.left.symm, Or.inl h.right.symm⟩
  simp [additions_eq, hown, baseline, hinput, houtput, Ne.symm hforward]

end RuleSet

end PodIsolation
