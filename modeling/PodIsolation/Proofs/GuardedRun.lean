import PodIsolation.Proofs.ChainTraversal
import PodIsolation.Proofs.LaneInvariant

/-!
# Guarded runs

## What every step of a run preserves

Whatever calls fail, at each point of a run the chains of a direction are
in order: the own chain only accepts and returns, and the gate holds rules of
the baseline and perhaps, in front, the jump to the own chain.  An own chain
that has rules is jumped to.  Beyond that, a run removes no rejection, and it
fills an own chain only after it has emptied it.
-/

namespace PodIsolation

/-!
# One direction

The contents of the own chain and of the gate, in this order.
-/

namespace ChainId

/-- The chains of a direction are in order. -/
structure Sound (c : ChainId) (lane : Contents × Contents) : Prop where
  passive : forall args, args ∈ lane.1.rules -> Rule.Passive args
  gate : exists base, (forall args, args ∈ base -> args ∈ baselineRules c.builtin) ∧
    (lane.2.rules = base ∨ lane.2.rules = c.jumpArgs :: base ∧ lane.1.isSome)
  jumped : lane.1.rules ≠ [] -> c.jumpArgs ∈ lane.2.rules

/-- The chains of a direction are in order and keep their guard: the rejection
stays, and what is not from before is from the plan. -/
structure Guarded (c : ChainId) (plan : List (List String))
    (before now : Contents × Contents) : Prop extends Sound c now where
  reject : rejectRule ∈ before.2.rules -> rejectRule ∈ now.2.rules
  own : now.1 = before.1 ∨ forall args, args ∈ now.1.rules -> args ∈ plan

variable {c : ChainId} {plan : List (List String)} {own gate : Contents}
variable {before : Contents × Contents}

theorem Sound.joined (h : c.Sound before) : c.Joined before :=
  ⟨h.gate, h.jumped⟩

theorem Joined.sound (h : c.Joined before)
    (hpassive : forall args, args ∈ before.1.rules -> Rule.Passive args) : c.Sound before :=
  ⟨hpassive, h.gate, h.jumped⟩

theorem sound_blank (hown : own.rules = []) (hgate : gate.rules = []) : c.Sound (own, gate) :=
  (joined_blank hown hgate).sound (by simp [hown])

theorem Sound.guarded (h : c.Sound before) : c.Guarded plan before before :=
  { h with
    reject := id
    own := Or.inl rfl }

theorem rejectRule_ne_jumpArgs : rejectRule ≠ c.jumpArgs := by
  rcases c with ⟨_ | _, _ | _⟩ <;> decide

/-!
## Changes of the own chain
-/

theorem Guarded.flushed (h : c.Guarded plan before (own, gate)) :
    c.Guarded plan before (some [], gate) :=
  { h.joined.flushed.sound (by simp) with
    reject := h.reject
    own := Or.inr (by simp) }

theorem Guarded.appended (h : c.Guarded plan before (own, gate))
    (hready : c.Ready plan (own, gate))
    (hpassive : forall args, args ∈ plan -> Rule.Passive args) {args : List String}
    (hargs : args ∈ plan) :
    c.Guarded plan before ((FilterAction.ensureRule .append args).effect own, gate) := by
  have hmem := (hready.appended hargs).own
  have hsound := (h.joined.appended hready.jumped args).sound
    fun args' h' => hpassive args' (hmem args' h')
  exact { hsound with
    reject := h.reject
    own := Or.inr hmem }

/-!
## Changes of the gate
-/

theorem Guarded.unjumped (h : c.Guarded plan before (own, gate)) (hown : own.rules = []) :
    c.Guarded plan before (own, (FilterAction.deleteRule c.jumpArgs).effect gate) := by
  have hreject : rejectRule ∈ before.2.rules ->
      rejectRule ∈ ((FilterAction.deleteRule c.jumpArgs).effect gate).rules := by
    intro hbefore
    rw [Contents.rules_delete]
    exact (List.mem_erase_of_ne rejectRule_ne_jumpArgs).mpr (h.reject hbefore)
  exact { (h.joined.unjumped hown).sound h.passive with
    reject := hreject
    own := h.own }

theorem Guarded.jumped_to (h : c.Guarded plan before (own, gate)) (hown : own.isSome) :
    c.Guarded plan before
      (own, (FilterAction.ensureRule (.insert 1) c.jumpArgs).effect gate) :=
  { (h.joined.jumped_to hown).sound h.passive with
    reject := fun hbefore => Contents.mem_rules_insert (h.reject hbefore)
    own := h.own }

theorem Guarded.settled (h : c.Guarded plan before (own, gate)) {args : List String}
    (hargs : args ∈ baselineRules c.builtin) :
    c.Guarded plan before (own, (FilterAction.ensureRule .append args).effect gate) :=
  { (h.joined.settled hargs).sound h.passive with
    reject := fun hbefore => Contents.mem_rules_append.mpr (Or.inl (h.reject hbefore))
    own := h.own }

end ChainId

/-!
# All directions
-/

namespace Tables

/-- The chains of all directions are in order, and forwarding knows only rules
of the baseline. -/
structure Sound (t : Tables) : Prop where
  lanes : forall c : ChainId, c.Sound (t.lane c)
  forward : forall f args, args ∈ (t.contents f forwardChain).rules ->
    args ∈ baselineRules forwardChain

/-- The tables of a run of a rule set, compared with those before the run. -/
structure Guarded (s : RuleSet) (before now : Tables) : Prop where
  lanes : forall c : ChainId, c.Guarded (s.plan c) (before.lane c) (now.lane c)
  forward : forall f args, args ∈ (now.contents f forwardChain).rules ->
    args ∈ baselineRules forwardChain
  reject : forall f, rejectRule ∈ (before.contents f forwardChain).rules ->
    rejectRule ∈ (now.contents f forwardChain).rules

variable {s : RuleSet} {before t u : Tables} {c : ChainId}

theorem Blank.sound (h : t.Blank) : Sound t := by
  constructor
  · exact fun c => ChainId.sound_blank (h.rules _ _) (h.rules _ _)
  · intro f args hargs
    rw [h.rules] at hargs
    cases hargs

theorem Sound.guarded (h : Sound before) : Guarded s before before :=
  ⟨fun c => (h.lanes c).guarded, h.forward, fun _ => id⟩

theorem Guarded.sound (h : Guarded s before t) : Sound t :=
  ⟨fun c => (h.lanes c).toSound, h.forward⟩

/-- Being guarded is an invariant of provisioning accepting rules. -/
def guard (before : Tables) (haccepting : s.Accepting) : LaneInvariant s where
  lane c := c.Guarded (s.plan c) (before.lane c)
  other f name contents := name = forwardChain ->
    (forall args, args ∈ contents.rules -> args ∈ baselineRules forwardChain) ∧
      (rejectRule ∈ (before.contents f forwardChain).rules -> rejectRule ∈ contents.rules)
  flushed h := h.flushed
  unjumped h hown := h.unjumped hown
  jumped_to h hown := h.jumped_to hown
  appended h hready hargs := h.appended hready (fun _ => haccepting.passive_plan) hargs
  settled h hargs := h.settled hargs
  forwarded := by
    intro f contents args h hargs hforward
    obtain ⟨hbase, hreject⟩ := h hforward
    constructor
    · intro args' hmem
      rcases Contents.mem_rules_append.mp hmem with hmem | rfl
      · exact hbase args' hmem
      · exact hargs
    · exact fun hbefore => Contents.mem_rules_append.mpr (Or.inl (hreject hbefore))

theorem holds_guard (haccepting : s.Accepting) :
    (guard before haccepting).Holds = Guarded s before := by
  funext t
  apply propext
  constructor
  · intro h
    have hforward := fun f => h.others f forwardChain (fun c => c.not_inLane_forward f) rfl
    exact ⟨h.lanes, fun f => (hforward f).left, fun f => (hforward f).right⟩
  · intro h
    refine ⟨h.lanes, ?_⟩
    intro f name _ hname
    rw [hname]
    exact ⟨h.forward f, h.reject f⟩

/-- A run of accepting rules keeps the guard at each of its points. -/
theorem safe_program (haccepting : s.Accepting) (hsound : Sound before) :
    SafeOk (Guarded s before) (fun _ _ => True) s.program before := by
  rw [← holds_guard haccepting]
  apply LaneInvariant.safe_program
  rw [holds_guard haccepting]
  exact hsound.guarded

end Tables

end PodIsolation
