import PodIsolation.Proofs.FaultlessRun
import PodIsolation.Proofs.PacketVerdict

/-!
# Traversal of the chains of a workload

## Own chains and gates

The rules of an own chain accept or return, so its verdict does not depend on
other chains.  A gate holds the baseline and perhaps, before it, the jump to its
own chain.  What a gate accepts follows from what the own chain accepts.
-/

namespace PodIsolation

/-!
# Rules that accept or return
-/

def Rule.Passive (args : List String) : Prop :=
  targetOf? args = some .accept ∨ targetOf? args = some .return

theorem Rule.targetOf?_args_of_accept {r : Rule} (h : r.target = none) :
    targetOf? r.args = some .accept := by
  rw [targetOf?_args, effect, h]
  rfl

theorem Rule.passive_args_of_accept {r : Rule} (h : r.target = none) : Passive r.args :=
  Or.inl (targetOf?_args_of_accept h)

theorem Rule.targetOf?_jumpArgs (c : ChainId) : targetOf? c.jumpArgs = some (.jump c.name) := by
  rcases c with ⟨_ | _, _ | _⟩ <;> rfl

theorem Rule.passive_returning : Passive returning.args := by
  right
  rfl

namespace RuleSet

/-- No rule names a target, so that all accept. -/
def Accepting (s : RuleSet) : Prop :=
  forall c r, r ∈ s.rules c -> r.target = none

theorem Accepting.passive_plan {s : RuleSet} (h : s.Accepting) {c : ChainId}
    {args : List String} (hargs : args ∈ s.plan c) : Rule.Passive args := by
  rcases List.mem_map.mp hargs with ⟨r, hr, rfl⟩
  rcases List.mem_append.mp hr with hr | hr
  · exact Rule.passive_args_of_accept (h c r hr)
  · rw [List.mem_singleton.mp hr]
    exact Rule.passive_returning

end RuleSet

namespace Packet

variable (services : Services) (p : Packet)

/-- The packet is accepted by rules among which there is no jump. -/
def admitted (rules : List (List String)) : Bool :=
  traverse services p (fun _ => none) rules == some .accepted

/-- The packet uses the interface that the baseline accepts in a built-in chain. -/
def UsesLoopback (chain : String) : Prop :=
  (if chain = outputChain then p.outInterface else p.inInterface) = some loopback

instance (p : Packet) (chain : String) : Decidable (p.UsesLoopback chain) :=
  inferInstanceAs (Decidable (_ = _))

variable {services p}

theorem traverse_passive {rules : List (List String)}
    (h : forall args, args ∈ rules -> Rule.Passive args) (enter : String -> Option Verdict) :
    traverse services p enter rules =
      some (if p.admitted services rules then .accepted else .passed) := by
  unfold admitted
  induction rules with
  | nil => rfl
  | cons args rest ih =>
      have hrest := ih fun args hargs => h args (List.mem_cons_of_mem _ hargs)
      cases hmeets : p.meets services args with
      | false => rw [traverse_cons_of_not_meets hmeets, traverse_cons_of_not_meets hmeets, hrest]
      | true =>
          rcases h args List.mem_cons_self with haccept | hreturn
          · rw [traverse_cons_accept hmeets haccept, traverse_cons_accept hmeets haccept]
            rfl
          · rw [traverse_cons_return hmeets hreturn, traverse_cons_return hmeets hreturn]
            rfl

/-- Some rule accepts a packet that is admitted. -/
theorem exists_of_admitted {rules : List (List String)}
    (h : forall args, args ∈ rules -> Rule.Passive args)
    (hadmitted : p.admitted services rules = true) :
    exists args, args ∈ rules ∧ Rule.targetOf? args = some .accept ∧
      p.meets services args = true := by
  unfold admitted at hadmitted
  induction rules with
  | nil => cases hadmitted
  | cons args rest ih =>
      have hlater : p.admitted services rest = true -> exists args', args' ∈ args :: rest ∧
          Rule.targetOf? args' = some .accept ∧ p.meets services args' = true := by
        intro hrest
        rcases ih (fun args hargs => h args (List.mem_cons_of_mem _ hargs)) hrest with
          ⟨args', hmem, hargs'⟩
        exact ⟨args', List.mem_cons_of_mem _ hmem, hargs'⟩
      cases hmeets : p.meets services args with
      | false =>
          rw [traverse_cons_of_not_meets hmeets] at hadmitted
          exact hlater hadmitted
      | true =>
          rcases h args List.mem_cons_self with haccept | hreturn
          · exact ⟨args, List.mem_cons_self, haccept, hmeets⟩
          · rw [traverse_cons_return hmeets hreturn] at hadmitted
            cases hadmitted

/-- Rules that accept, followed by a return, admit the packets that one of them
matches. -/
theorem admitted_append_returning {rules : List (List String)}
    (h : forall args, args ∈ rules -> Rule.targetOf? args = some .accept) :
    p.admitted services (rules ++ [Rule.returning.args]) = true <->
      exists args, args ∈ rules ∧ p.meets services args = true := by
  unfold admitted
  induction rules with
  | nil =>
      have hmeets : p.meets services Rule.returning.args = true := rfl
      rw [List.nil_append, traverse_cons_return hmeets rfl]
      simp
  | cons args rest ih =>
      have hrest := ih fun args hargs => h args (List.mem_cons_of_mem _ hargs)
      rw [List.cons_append]
      cases hmeets : p.meets services args with
      | false =>
          rw [traverse_cons_of_not_meets hmeets, hrest]
          simp [hmeets]
      | true =>
          rw [traverse_cons_accept hmeets (h args List.mem_cons_self)]
          simp [hmeets]

/-!
# The baseline
-/

theorem meets_rejectRule : p.meets services rejectRule = true :=
  rfl

theorem meets_loopbackRule {chain : String} :
    p.meets services (loopbackRule chain) = true <-> p.UsesLoopback chain := by
  unfold UsesLoopback loopbackRule loopback
  split <;> simp [meets, Rule.options, satisfies]

theorem targetOf?_loopbackRule (chain : String) :
    Rule.targetOf? (loopbackRule chain) = some .accept := by
  unfold loopbackRule
  split <;> rfl

theorem targetOf?_rejectRule : Rule.targetOf? rejectRule = some .reject :=
  rfl

/-- Rules of the baseline without the rejection let every packet pass. -/
theorem traverse_without_rejectRule {chain : String} {base : List (List String)}
    (hbase : forall args, args ∈ base -> args ∈ baselineRules chain)
    (hreject : rejectRule ∉ base) (enter : String -> Option Verdict) :
    traverse services p enter base = some .accepted ∨
      traverse services p enter base = some .passed := by
  have hpassive : forall args, args ∈ base -> Rule.Passive args := by
    intro args hargs
    left
    have hmem := hbase args hargs
    simp only [baselineRules, List.mem_cons, List.not_mem_nil, or_false] at hmem
    rcases hmem with rfl | rfl
    · exact targetOf?_loopbackRule chain
    · exact absurd hargs hreject
  rw [traverse_passive hpassive]
  cases p.admitted services base with
  | true => exact Or.inl rfl
  | false => exact Or.inr rfl

/-- Rules of the baseline with the rejection let only loopback traffic pass. -/
theorem usesLoopback_of_traverse {chain : String} {base : List (List String)}
    (hbase : forall args, args ∈ base -> args ∈ baselineRules chain)
    (hreject : rejectRule ∈ base) {enter : String -> Option Verdict}
    (h : traverse services p enter base = some .accepted ∨
      traverse services p enter base = some .passed) : p.UsesLoopback chain := by
  induction base with
  | nil => cases hreject
  | cons args rest ih =>
      have hmem := hbase args List.mem_cons_self
      simp only [baselineRules, List.mem_cons, List.not_mem_nil, or_false] at hmem
      rcases hmem with rfl | rfl
      · cases hmeets : p.meets services (loopbackRule chain) with
        | true => exact meets_loopbackRule.mp hmeets
        | false =>
            rw [traverse_cons_of_not_meets hmeets] at h
            exact ih (fun args hargs => hbase args (List.mem_cons_of_mem _ hargs))
              (List.mem_of_ne_of_mem (loopbackRule_ne_rejectRule chain).symm hreject) h
      · rw [traverse_cons_reject meets_rejectRule targetOf?_rejectRule] at h
        rcases h with h | h <;> cases h

/-- The whole baseline lets loopback traffic pass and no other. -/
theorem traverse_baselineRules (chain : String) (enter : String -> Option Verdict) :
    (traverse services p enter (baselineRules chain) = some .accepted ∨
      traverse services p enter (baselineRules chain) = some .passed) <->
        p.UsesLoopback chain := by
  constructor
  · exact usesLoopback_of_traverse (fun _ h => h) (List.mem_cons_of_mem _ List.mem_cons_self)
  · intro h
    left
    exact traverse_cons_accept (meets_loopbackRule.mpr h) (targetOf?_loopbackRule chain)

/-- A jump to a chain that accepts or is passed. -/
theorem traverse_jump_cons {c : ChainId} {enter : String -> Option Verdict} {b : Bool}
    (h : enter c.name = some (if b then .accepted else .passed)) (rest : List (List String)) :
    traverse services p enter (c.jumpArgs :: rest) =
      if b then some .accepted else traverse services p enter rest := by
  have htarget := Rule.targetOf?_jumpArgs c
  have hmeets : p.meets services c.jumpArgs = true := rfl
  rw [traverse_cons_jump hmeets htarget, h]
  cases b <;> simp

end Packet

/-!
# Gates
-/

namespace Tables

/-- The built-in chain of the packet's family accepts the packet. -/
def Accepts (t : Tables) (services : Services) (chain : String) (p : Packet) : Prop :=
  (t.get p.family).accepts services chain p = true

instance (t : Tables) (services : Services) (chain : String) (p : Packet) :
    Decidable (t.Accepts services chain p) :=
  inferInstanceAs (Decidable (_ = true))

variable {t : Tables} {services : Services} {p : Packet}

theorem accepts_iff (chain : String) :
    t.Accepts services chain p <->
      let enter := (t.get p.family).verdict? services p (t.get p.family).entries.length
      let rules := (t.contents p.family chain).getD []
      traverse services p enter rules = some .accepted ∨
        traverse services p enter rules = some .passed := by
  unfold Accepts Table.accepts
  rw [Bool.or_eq_true, beq_iff_eq, beq_iff_eq]
  rfl

/-- The verdict of a chain whose rules accept or return. -/
theorem verdict?_passive {f : Family} {name : String} {rules : List (List String)}
    (hrules : t.contents f name = some rules)
    (hpassive : forall args, args ∈ rules -> Rule.Passive args) :
    (t.get f).verdict? services p (t.get f).entries.length name =
      some (if p.admitted services rules then .accepted else .passed) := by
  have hchain : (t.get f).get? name = some rules := hrules
  cases hdepth : (t.get f).entries.length with
  | zero => exact absurd (List.eq_nil_of_length_eq_zero hdepth) (SortedMap.entries_ne_nil hchain)
  | succ depth =>
      rw [Table.verdict?, hchain]
      exact Packet.traverse_passive hpassive _

variable {c : ChainId} {base own : List (List String)}

/-- A gate that jumps accepts what its own chain admits and what the rest of its
rules let pass. -/
theorem accepts_jump_iff (hfamily : p.family = c.family)
    (hgate : (t.contents c.family c.builtin).getD [] = c.jumpArgs :: base)
    (hown : t.contents c.family c.name = some own)
    (hpassive : forall args, args ∈ own -> Rule.Passive args) :
    t.Accepts services c.builtin p <->
      p.admitted services own = true ∨
        let enter := (t.get p.family).verdict? services p (t.get p.family).entries.length
        (traverse services p enter base = some .accepted ∨
          traverse services p enter base = some .passed) := by
  rw [← hfamily] at hgate hown
  rw [accepts_iff, hgate]
  simp only
  rw [Packet.traverse_jump_cons (verdict?_passive hown hpassive)]
  cases p.admitted services own <;> simp

end Tables

end PodIsolation
