import PodIsolation.Proofs.FaultyRun

/-!
# Invariants of a direction

## What provisioning can do to the chains of a direction

Of each direction and family, provisioning empties the own chain and fills it,
puts the jump to it in front of the gate and takes it away, and adds the
baseline to the gate.  It fills an own chain only after it has emptied it and
while the gate jumps to it, and it takes the jump away only while the own chain
has no rules.  A property of the two chains that these changes keep holds at
each point of a run, whatever calls fail.
-/

namespace PodIsolation

/-!
# Ready directions
-/

namespace ChainId

/-- The direction is ready for the rules of the plan. -/
structure Ready (c : ChainId) (plan : List (List String)) (lane : Contents × Contents) :
    Prop where
  jumped : c.jumpArgs ∈ lane.2.rules
  own : forall args, args ∈ lane.1.rules -> args ∈ plan

variable {c : ChainId} {plan : List (List String)} {own gate : Contents}

theorem Ready.appended (h : c.Ready plan (own, gate)) {args : List String}
    (hargs : args ∈ plan) :
    c.Ready plan ((FilterAction.ensureRule .append args).effect own, gate) := by
  constructor
  · exact h.jumped
  · intro args' hmem
    rcases Contents.mem_rules_append.mp hmem with hmem | rfl
    · exact h.own args' hmem
    · exact hargs

theorem Ready.settled (h : c.Ready plan (own, gate)) (args : List String) :
    c.Ready plan (own, (FilterAction.ensureRule .append args).effect gate) where
  jumped := Contents.mem_rules_append.mpr (Or.inl h.jumped)
  own := h.own

/-!
# Joined directions

The gate holds rules of the baseline and perhaps, in front, the jump to the own
chain, which exists then.  An own chain that has rules is jumped to.
-/

structure Joined (c : ChainId) (lane : Contents × Contents) : Prop where
  gate : exists base, (forall args, args ∈ base -> args ∈ baselineRules c.builtin) ∧
    (lane.2.rules = base ∨ lane.2.rules = c.jumpArgs :: base ∧ lane.1.isSome)
  jumped : lane.1.rules ≠ [] -> c.jumpArgs ∈ lane.2.rules

/-- A direction without rules is joined. -/
theorem joined_blank (hown : own.rules = []) (hgate : gate.rules = []) :
    c.Joined (own, gate) where
  gate := ⟨[], by simp, Or.inl hgate⟩
  jumped := fun hne => absurd hown hne

theorem Joined.flushed (h : c.Joined (own, gate)) : c.Joined (some [], gate) where
  gate := by
    rcases h.gate with ⟨base, hbase, hgate | ⟨hgate, _⟩⟩
    · exact ⟨base, hbase, Or.inl hgate⟩
    · exact ⟨base, hbase, Or.inr ⟨hgate, rfl⟩⟩
  jumped := by simp

theorem Joined.appended (h : c.Joined (own, gate)) (hjumped : c.jumpArgs ∈ gate.rules)
    (args : List String) :
    c.Joined ((FilterAction.ensureRule .append args).effect own, gate) where
  gate := by
    rcases h.gate with ⟨base, hbase, hgate | ⟨hgate, hsome⟩⟩
    · exact ⟨base, hbase, Or.inl hgate⟩
    · exact ⟨base, hbase, Or.inr ⟨hgate, Contents.isSome_append args hsome⟩⟩
  jumped := fun _ => hjumped

/-- The jump is removed from the gate of an own chain without rules. -/
theorem Joined.unjumped (h : c.Joined (own, gate)) (hown : own.rules = []) :
    c.Joined (own, (FilterAction.deleteRule c.jumpArgs).effect gate) where
  gate := by
    rcases h.gate with ⟨base, hbase, hgate⟩
    refine ⟨base, hbase, Or.inl ?_⟩
    have hnot : c.jumpArgs ∉ base :=
      fun hmem => c.jumpArgs_not_mem_baselineRules (hbase c.jumpArgs hmem)
    rw [Contents.rules_delete]
    rcases hgate with hgate | ⟨hgate, _⟩
    · rw [hgate, List.erase_of_not_mem hnot]
    · rw [hgate, List.erase_cons_head]
  jumped := fun hne => absurd hown hne

/-- The jump is put in front of the gate of an own chain that exists. -/
theorem Joined.jumped_to (h : c.Joined (own, gate)) (hown : own.isSome) :
    c.Joined (own, (FilterAction.ensureRule (.insert 1) c.jumpArgs).effect gate) where
  gate := by
    rcases h.gate with ⟨base, hbase, hgate⟩
    refine ⟨base, hbase, Or.inr ⟨?_, hown⟩⟩
    have hnot : c.jumpArgs ∉ base :=
      fun hmem => c.jumpArgs_not_mem_baselineRules (hbase c.jumpArgs hmem)
    rw [Contents.rules_insert]
    rcases hgate with hgate | ⟨hgate, _⟩
    · rw [hgate, if_neg hnot]
    · rw [hgate, if_pos List.mem_cons_self]
  jumped := fun hne => Contents.mem_rules_insert (h.jumped hne)

theorem Joined.settled (h : c.Joined (own, gate)) {args : List String}
    (hargs : args ∈ baselineRules c.builtin) :
    c.Joined (own, (FilterAction.ensureRule .append args).effect gate) where
  gate := by
    rcases h.gate with ⟨base, hbase, hgate⟩
    rw [Contents.rules_append]
    split
    · exact ⟨base, hbase, hgate⟩
    · refine ⟨base ++ [args], ?_, ?_⟩
      · intro args' hmem
        rcases List.mem_append.mp hmem with hmem | hmem
        · exact hbase args' hmem
        · rw [List.mem_singleton.mp hmem]
          exact hargs
      · rcases hgate with hgate | ⟨hgate, hsome⟩
        · exact Or.inl (by rw [hgate])
        · exact Or.inr ⟨by rw [hgate, List.cons_append], hsome⟩
  jumped := fun hne => Contents.mem_rules_append.mpr (Or.inl (h.jumped hne))

end ChainId

/-!
# Invariants
-/

/-- A property of the own chain and the gate of each direction, and one of each
other chain, that provisioning a rule set keeps. -/
structure LaneInvariant (s : RuleSet) where
  lane : ChainId -> Contents × Contents -> Prop
  other : Family -> String -> Contents -> Prop
  flushed {c : ChainId} {own gate : Contents} :
    lane c (own, gate) -> lane c (some [], gate)
  unjumped {c : ChainId} {own gate : Contents} : lane c (own, gate) -> own.rules = [] ->
    lane c (own, (FilterAction.deleteRule c.jumpArgs).effect gate)
  jumped_to {c : ChainId} {own gate : Contents} : lane c (own, gate) -> own.isSome ->
    lane c (own, (FilterAction.ensureRule (.insert 1) c.jumpArgs).effect gate)
  appended {c : ChainId} {own gate : Contents} {args : List String} :
    lane c (own, gate) -> c.Ready (s.plan c) (own, gate) -> args ∈ s.plan c ->
    lane c ((FilterAction.ensureRule .append args).effect own, gate)
  settled {c : ChainId} {own gate : Contents} {args : List String} :
    lane c (own, gate) -> args ∈ baselineRules c.builtin ->
    lane c (own, (FilterAction.ensureRule .append args).effect gate)
  forwarded {f : Family} {contents : Contents} {args : List String} :
    other f forwardChain contents -> args ∈ baselineRules forwardChain ->
    other f forwardChain ((FilterAction.ensureRule .append args).effect contents)

namespace LaneInvariant

variable {s : RuleSet} (inv : LaneInvariant s)

theorem ensured {c : ChainId} {own gate : Contents} (h : inv.lane c (own, gate)) :
    inv.lane c (some own.rules, gate) := by
  cases own with
  | none => exact inv.flushed h
  | some rules => exact h

structure Holds (t : Tables) : Prop where
  lanes : forall c, inv.lane c (t.lane c)
  others : forall f name, (forall c, ¬ ChainId.InLane c f name) ->
    inv.other f name (t.contents f name)

variable {inv} {t u : Tables} {c : ChainId}

theorem Holds.of_lane (h : inv.Holds t)
    (hother : forall f name, ¬ c.InLane f name -> u.contents f name = t.contents f name)
    (hlane : inv.lane c (u.lane c)) : inv.Holds u := by
  constructor
  · intro d
    by_cases hd : c = d
    · subst hd
      exact hlane
    · rw [Tables.lane_eq_of_contents_eq hd hother]
      exact h.lanes d
  · intro f name hfree
    rw [hother f name (hfree c)]
    exact h.others f name hfree

theorem Holds.call (h : inv.Holds t) (action : FilterAction)
    (hlane : inv.lane c (action.effect (t.lane c).1, (t.lane c).2)) :
    inv.Holds (t.apply (c.call action)) := by
  apply h.of_lane fun f name hin => Tables.contents_call_of_not_inLane t action hin
  rw [Tables.lane_call]
  exact hlane

theorem Holds.builtinCall (h : inv.Holds t) (action : FilterAction)
    (hlane : inv.lane c ((t.lane c).1, action.effect (t.lane c).2)) :
    inv.Holds (t.apply (c.builtinCall action)) := by
  apply h.of_lane fun f name hin => Tables.contents_builtinCall_of_not_inLane t action hin
  rw [Tables.lane_builtinCall]
  exact hlane

/-!
## Retiring
-/

theorem safeOk_retireChain (h : inv.Holds t) :
    Tables.SafeOk inv.Holds (fun _ _ => True) (retireChain c) t := by
  unfold retireChain
  apply Tables.SafeOk.bind (fun _ _ => True) (Tables.safeOk_request h ?_ trivial)
  · intro found u hu _
    cases found with
    | false => exact Tables.safeOk_pure hu trivial
    | true =>
        have hflushed := inv.flushed (hu.lanes c)
        apply Tables.SafeOk.bind (fun _ v => (v.lane c).1 = some [])
          (Tables.safeOk_request hu (hu.call .flushChain hflushed) ?_)
        · intro _ v hv hown
          apply Tables.SafeOk.bind (fun _ _ => True) (Tables.safeOk_request hv ?_ trivial)
          · exact fun _ w hw _ => Tables.safeOk_pure hw trivial
          · -- The own chain is empty by now, so the jump to it may go.
            have hrules : (v.lane c).1.rules = [] := by
              rw [hown]
              rfl
            exact hv.builtinCall _ (inv.unjumped (hv.lanes c) hrules)
        · rw [Tables.lane_call]
          rfl
  · rw [Tables.apply_hasChain]
    exact h

end LaneInvariant

/-!
## Preparing
-/

namespace Tables

variable {s : RuleSet} {t u : Tables} {c : ChainId}

/-- The directions of some chains are ready for the rules of the rule set. -/
def ReadyFor (s : RuleSet) (chains : List ChainId) (t : Tables) : Prop :=
  forall d, d ∈ chains -> d.Ready (s.plan d) (t.lane d)

theorem ready_of_lane {chains : List ChainId}
    (h : forall d, d ∈ chains -> d ≠ c -> d.Ready (s.plan d) (t.lane d))
    (hother : forall f name, ¬ c.InLane f name -> u.contents f name = t.contents f name) :
    forall d, d ∈ chains -> d ≠ c -> d.Ready (s.plan d) (u.lane d) := by
  intro d hd hne
  rw [lane_eq_of_contents_eq (Ne.symm hne) hother]
  exact h d hd hne

theorem ready_jumped_to (hown : (t.lane c).1 = some []) :
    c.Ready (s.plan c) ((t.apply (c.builtinCall (.ensureRule (.insert 1) c.jumpArgs))).lane c) := by
  rw [lane_builtinCall, hown]
  constructor
  · rw [Contents.rules_insert]
    split
    · assumption
    · exact List.mem_cons_self
  · intro args hargs
    cases hargs

end Tables

namespace LaneInvariant

variable {s : RuleSet} {inv : LaneInvariant s} {t : Tables} {c : ChainId}

theorem safeOk_prepareChain {done : List ChainId} (h : inv.Holds t)
    (hready : Tables.ReadyFor s done t) :
    Tables.SafeOk inv.Holds (fun _ v => Tables.ReadyFor s (c :: done) v) (prepareChain c) t := by
  unfold prepareChain
  apply Tables.SafeOk.bind
    (fun _ v => forall d, d ∈ done -> d ≠ c -> d.Ready (s.plan d) (v.lane d))
    (Tables.safeOk_request h (h.call .ensureChain (inv.ensured (h.lanes c))) ?_)
  · intro _ u hu hothers
    apply Tables.SafeOk.bind
      (fun _ v => (v.lane c).1 = some [] ∧
        forall d, d ∈ done -> d ≠ c -> d.Ready (s.plan d) (v.lane d))
      (Tables.safeOk_request hu (hu.call .flushChain (inv.flushed (hu.lanes c))) ?_)
    · intro _ v hv hflushed
      rcases hflushed with ⟨hown, hothers⟩
      -- The own chain exists by now, so a jump to it may be put in the gate.
      have hsome : (v.lane c).1.isSome := by
        rw [hown]
        rfl
      apply Tables.SafeOk.bind (fun _ w => Tables.ReadyFor s (c :: done) w)
        (Tables.safeOk_request hv (hv.builtinCall _ (inv.jumped_to (hv.lanes c) hsome)) ?_)
      · exact fun _ w hw hdone => Tables.safeOk_pure hw hdone
      · intro d hd
        by_cases hdc : d = c
        · subst hdc
          exact Tables.ready_jumped_to hown
        · exact Tables.ready_of_lane hothers
            (fun f name hin => Tables.contents_builtinCall_of_not_inLane v _ hin) d
            (List.mem_of_ne_of_mem hdc hd) hdc
    · constructor
      · rw [Tables.lane_call]
        rfl
      · exact Tables.ready_of_lane hothers
          fun f name hin => Tables.contents_call_of_not_inLane u _ hin
  · exact Tables.ready_of_lane (fun d hd _ => hready d hd)
      fun f name hin => Tables.contents_call_of_not_inLane t _ hin

end LaneInvariant

/-!
## Installing
-/

/-- Provisioning adds rules of a plan to own chains, and else those of the
baseline. -/
theorem RuleSet.mem_installations {s : RuleSet} {i : Installation} (h : i ∈ s.installations) :
    (exists c, c ∈ s.live ∧ i.call = c.call (.ensureRule .append i.rule.args) ∧
      i.rule.args ∈ s.plan c) ∨
    (exists c : ChainId, i.call = c.builtinCall (.ensureRule .append i.rule.args) ∧
      i.rule.args ∈ baselineRules c.builtin) ∨
    (i.chain = forwardChain ∧ i.rule.args ∈ baselineRules forwardChain) := by
  unfold installations at h
  rw [List.append_assoc] at h
  rcases List.mem_append.mp h with hown | hbaseline
  · left
    rcases List.mem_flatMap.mp hown with ⟨c, hc, hi⟩
    rcases List.mem_map.mp hi with ⟨rule, hrule, rfl⟩
    exact ⟨c, hc, rfl, List.mem_map_of_mem hrule⟩
  · right
    have hall : forall f, i ∈ baseline f ->
        (exists c : ChainId, i.call = c.builtinCall (.ensureRule .append i.rule.args) ∧
          i.rule.args ∈ baselineRules c.builtin) ∨
        (i.chain = forwardChain ∧ i.rule.args ∈ baselineRules forwardChain) := by
      intro f hi
      simp only [baseline, List.mem_cons, List.not_mem_nil, or_false] at hi
      rcases hi with rfl | rfl | rfl | rfl | rfl | rfl
      · exact Or.inl ⟨⟨.ingress, f⟩, rfl, List.mem_cons_self⟩
      · exact Or.inl ⟨⟨.egress, f⟩, rfl, List.mem_cons_self⟩
      · exact Or.inr ⟨rfl, List.mem_cons_self⟩
      · exact Or.inl ⟨⟨.ingress, f⟩, rfl, List.mem_cons_of_mem _ List.mem_cons_self⟩
      · exact Or.inl ⟨⟨.egress, f⟩, rfl, List.mem_cons_of_mem _ List.mem_cons_self⟩
      · exact Or.inr ⟨rfl, List.mem_cons_of_mem _ List.mem_cons_self⟩
    rcases List.mem_append.mp hbaseline with hi | hi
    · exact hall .v4 hi
    · exact hall .v6 hi

namespace LaneInvariant

variable {s : RuleSet} {inv : LaneInvariant s} {t : Tables}

theorem Holds.forwardCall (h : inv.Holds t) {i : Installation}
    (hchain : i.chain = forwardChain) (hargs : i.rule.args ∈ baselineRules forwardChain) :
    inv.Holds (t.apply i.call) ∧ forall c : ChainId, (t.apply i.call).lane c = t.lane c := by
  have hcontents : forall f name, (t.apply i.call).contents f name =
      if f = i.family ∧ name = forwardChain then
        (FilterAction.ensureRule .append i.rule.args).effect (t.contents f name)
      else t.contents f name := by
    intro f name
    rw [Tables.contents_apply, ← hchain]
    rfl
  have hlane : forall c : ChainId, (t.apply i.call).lane c = t.lane c := by
    intro c
    simp [Tables.lane, hcontents]
  refine ⟨⟨?_, ?_⟩, hlane⟩
  · intro c
    rw [hlane c]
    exact h.lanes c
  · intro f name hfree
    have hother := h.others f name hfree
    rw [hcontents]
    split
    · rename_i hplace
      rw [hplace.right] at hother ⊢
      exact inv.forwarded hother hargs
    · exact hother

/-- One installation keeps the invariant and leaves the directions ready. -/
theorem Holds.install (h : inv.Holds t) (hready : Tables.ReadyFor s s.live t)
    {i : Installation} (hi : i ∈ s.installations) :
    inv.Holds (t.apply i.call) ∧ Tables.ReadyFor s s.live (t.apply i.call) := by
  rcases s.mem_installations hi with ⟨c, hc, hcall, hargs⟩ | ⟨c, hcall, hargs⟩ | ⟨hchain, hargs⟩
  · rw [hcall]
    refine ⟨h.call _ (inv.appended (h.lanes c) (hready c hc) hargs), ?_⟩
    intro d hd
    by_cases hdc : d = c
    · subst hdc
      rw [Tables.lane_call]
      exact (hready d hd).appended hargs
    · exact Tables.ready_of_lane (fun d hd _ => hready d hd)
        (fun f name hin => Tables.contents_call_of_not_inLane t _ hin) d hd hdc
  · rw [hcall]
    refine ⟨h.builtinCall _ (inv.settled (h.lanes c) hargs), ?_⟩
    intro d hd
    by_cases hdc : d = c
    · subst hdc
      rw [Tables.lane_builtinCall]
      exact (hready d hd).settled i.rule.args
    · exact Tables.ready_of_lane (fun d hd _ => hready d hd)
        (fun f name hin => Tables.contents_builtinCall_of_not_inLane t _ hin) d hd hdc
  · obtain ⟨hnext, hlane⟩ := h.forwardCall hchain hargs
    refine ⟨hnext, ?_⟩
    intro d hd
    rw [hlane d]
    exact hready d hd

theorem safe_installAll {installations : List Installation}
    (hsub : forall i, i ∈ installations -> i ∈ s.installations) (report : Report)
    (h : inv.Holds t) (hready : Tables.ReadyFor s s.live t) :
    Tables.Safe inv.Holds (fun _ _ => True) (installAll report installations) t := by
  induction installations generalizing report t with
  | nil => exact .done h trivial
  | cons i rest ih =>
      have hrest := fun i hi => hsub i (List.mem_cons_of_mem _ hi)
      obtain ⟨hnext, hreadyNext⟩ := h.install hready (hsub i List.mem_cons_self)
      exact .ask h (ih hrest _ hnext hreadyNext) (fun e => ih hrest _ h hready)
        fun e => ih hrest _ hnext hreadyNext

/-- A run keeps the invariant at each of its points. -/
theorem safe_program (h : inv.Holds t) :
    Tables.SafeOk inv.Holds (fun _ _ => True) s.program t := by
  unfold RuleSet.program
  apply Tables.SafeOk.bind (fun _ _ => True)
    (Tables.safeOk_forM (fun _ _ => True)
      (fun _ c u hu _ => (safeOk_retireChain hu).onChain) s.retired [] h trivial)
  intro _ u hu _
  apply Tables.SafeOk.bind (fun _ v => Tables.ReadyFor s (s.live.reverse ++ []) v)
    (Tables.safeOk_forM (Tables.ReadyFor s)
      (fun done c u hu h => (safeOk_prepareChain hu h).onChain)
      s.live [] hu (by intro d hd; cases hd))
  intro _ v hv hready
  have hlive : Tables.ReadyFor s s.live v := fun d hd => hready d (by simpa using hd)
  unfold Tables.SafeOk
  rw [ExceptT.run_lift, Dialogue.map_eq_bind]
  apply Tables.Safe.bind (safe_installAll (fun _ hi => hi) {} hv hlive)
  exact fun _ w hw _ => .done hw fun _ _ => trivial

theorem Holds.of_reaches {u : Tables} (h : inv.Holds t)
    (hrun : Tables.Reaches t s.program.run u) : inv.Holds u :=
  (safe_program h).always_of_reaches hrun

end LaneInvariant

end PodIsolation
