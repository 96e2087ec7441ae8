import PodIsolation.Proofs.CompletedRun
import PodIsolation.Proofs.ReadiedChains

/-!
# Failures of chains

## What a run leaves behind that cannot ready its chains

If a call for a chain fails, the run ends.  The chains before that one are ready
then, those behind it are as they were, and of the one in between at most the own
chain has been made or emptied.  No rule has been added yet.
-/

namespace PodIsolation

namespace RuleSet

variable {s : RuleSet} {t u : Tables}

/-!
# A chain that is not readied

The calls for a chain that precede the one that failed look for it, make it, or
empty it.
-/

theorem dropLast_readying_subset (s : RuleSet) (t : Tables) (c : ChainId) :
    (s.readying t c).dropLast ⊆ [c.call .hasChain, c.call .ensureChain, c.call .flushChain] := by
  unfold readying Tables.retirement ChainId.preparing
  split
  · split <;> simp
  · simp

theorem mem_of_made {c : ChainId} {made : List FilterCall} {q : FilterCall}
    (h : made ++ [q] <+: s.readying t c) {m : FilterCall} (hm : m ∈ made) :
    m ∈ [c.call .hasChain, c.call .ensureChain, c.call .flushChain] := by
  apply s.dropLast_readying_subset t c
  rcases h with ⟨rest, hrest⟩
  rw [← hrest, List.append_assoc, List.dropLast_append_of_ne_nil (by simp)]
  exact List.mem_append_left _ hm

/-- All calls up to the one that failed are for some chain. -/
theorem exists_readying {before : List ChainId} {c : ChainId} {made : List FilterCall}
    {q : FilterCall} {served : Transcript} {reply : FilterReply}
    (hserves : served.Serves (before.flatMap (s.readying t) ++ made))
    (h : made ++ [q] <+: s.readying t c) {entry : FilterCall × FilterReply}
    (hentry : entry ∈ served ++ [(q, reply)]) : exists d, entry.1 ∈ s.readying t d := by
  rcases List.mem_append.mp hentry with hentry | hentry
  · rcases List.mem_append.mp (Transcript.call_mem hserves.left hentry) with hmem | hmem
    · rcases List.mem_flatMap.mp hmem with ⟨d, -, hd⟩
      exact ⟨d, hd⟩
    · exact ⟨c, h.subset (List.mem_append_left _ hmem)⟩
  · rw [List.mem_singleton.mp hentry]
    exact ⟨c, h.subset (List.mem_append_right _ (List.mem_singleton.mpr rfl))⟩

/-- What can become of an own chain that is not readied. -/
theorem contents_made {c : ChainId} {made : List FilterCall} {q : FilterCall}
    (h : made ++ [q] <+: s.readying t c) (v : Tables) (f : Family) (name : String) :
    (made.foldl Tables.apply v).contents f name = v.contents f name ∨
      f = c.family ∧ name = c.name ∧
        (made.foldl Tables.apply v).contents f name = some [] := by
  apply List.foldlRecOn (motive := fun w : Tables => w.contents f name = v.contents f name ∨
    f = c.family ∧ name = c.name ∧ w.contents f name = some []) made Tables.apply (Or.inl rfl)
  intro w hw m hm
  have hcall : exists action, m = c.call action ∧ (action.effect (w.contents f name) =
      w.contents f name ∨ action.effect (w.contents f name) = some []) := by
    have hmem := mem_of_made h hm
    simp only [List.mem_cons, List.not_mem_nil, or_false] at hmem
    rcases hmem with rfl | rfl | rfl
    · exact ⟨.hasChain, rfl, Or.inl rfl⟩
    · refine ⟨.ensureChain, rfl, ?_⟩
      cases w.contents f name with
      | none => exact Or.inr rfl
      | some rules => exact Or.inl rfl
    · exact ⟨.flushChain, rfl, Or.inr rfl⟩
  rcases hcall with ⟨action, rfl, haction⟩
  rw [Tables.contents_call]
  split
  · rename_i hplace
    rcases haction with haction | haction
    · rw [haction]
      exact hw
    · rw [haction]
      exact Or.inr ⟨hplace.left, hplace.right, rfl⟩
  · exact hw

theorem own_readyLane (s : RuleSet) (c : ChainId) (lane : Contents × Contents) :
    (s.readyLane c lane).1 = lane.1 ∨ (s.readyLane c lane).1 = some [] := by
  rcases lane with ⟨_ | rules, gate⟩ <;> unfold readyLane <;> split <;>
    simp [ChainId.retireLane, ChainId.prepareLane]

/-- The gate of a chain that is readied loses the jump, gets it in front, or
stays as it is. -/
theorem gate_readyLane (s : RuleSet) (c : ChainId) (lane : Contents × Contents) :
    (s.readyLane c lane).2 = lane.2 ∨
      (c.jumpArgs ∉ lane.2.rules ∧ (s.readyLane c lane).2 = some (c.jumpArgs :: lane.2.rules)) ∨
      (s.readyLane c lane).2 = lane.2.map fun rules => rules.erase c.jumpArgs := by
  rcases lane with ⟨own, gate⟩
  unfold readyLane
  split
  · cases own with
    | none => exact Or.inl rfl
    | some rules => exact Or.inr (Or.inr rfl)
  · simp only [ChainId.prepareLane, FilterAction.effect_ensureRule]
    split
    · exact Or.inl rfl
    · rename_i hmem
      exact Or.inr (Or.inl ⟨hmem, by simp [Table.place, Contents.rules]⟩)

/-- The directions whose chains come before one that is not readied, that one,
and those behind it. -/
structure Abandoned (s : RuleSet) (before : List ChainId) (c : ChainId) (after : List ChainId)
    (t u : Tables) : Prop where
  before : forall d, d ∈ before -> u.lane d = s.readyLane d (t.lane d)
  own : (u.lane c).1 = (t.lane c).1 ∨ (u.lane c).1 = some []
  gate : (u.lane c).2 = (t.lane c).2
  after : forall d, d ∈ after -> u.lane d = t.lane d
  foreign : forall f name, (forall d, ¬ ChainId.InLane d f name) ->
    u.contents f name = t.contents f name

theorem abandoned_of_made {before after : List ChainId} {c : ChainId} {made : List FilterCall}
    {q : FilterCall} (horder : s.order = before ++ c :: after)
    (h : made ++ [q] <+: s.readying t c) :
    Abandoned s before c after t (made.foldl Tables.apply (before.foldl s.ready t)) := by
  have hnodup := s.nodup_order
  rw [horder, List.nodup_append] at hnodup
  obtain ⟨hbefore, hrest, hapart⟩ := hnodup
  obtain ⟨hc, -⟩ := List.nodup_cons.mp hrest
  have hcbefore : c ∉ before := fun hmem => hapart c hmem c List.mem_cons_self rfl
  have hlane := s.lane_foldl_ready hbefore t
  have hmade := contents_made h (before.foldl s.ready t)
  -- Only the own chain of the direction is touched by the calls that were made.
  have hother : forall d, d ≠ c -> (made.foldl Tables.apply (before.foldl s.ready t)).lane d =
      (before.foldl s.ready t).lane d := by
    intro d hd
    apply Tables.lane_eq_of_contents_eq (Ne.symm hd)
    intro f name hin
    rcases hmade f name with hkept | ⟨hf, hname, -⟩
    · exact hkept
    · exact absurd ⟨hf, Or.inl hname⟩ hin
  have hcurrent := hlane c
  rw [if_neg hcbefore] at hcurrent
  constructor
  · intro d hd
    rw [hother d (fun heq => hcbefore (heq ▸ hd)), hlane d, if_pos hd]
  · rw [← hcurrent]
    rcases hmade c.family c.name with hkept | ⟨-, -, hempty⟩
    · exact Or.inl hkept
    · exact Or.inr hempty
  · rw [← hcurrent]
    rcases hmade c.family c.builtin with hkept | ⟨-, hname, -⟩
    · exact hkept
    · exact absurd hname (c.builtin_ne_name c)
  · intro d hd
    have hdbefore : d ∉ before :=
      fun hmem => hapart d hmem d (List.mem_cons_of_mem c hd) rfl
    rw [hother d (fun heq => hc (heq ▸ hd)), hlane d, if_neg hdbefore]
  · intro f name hin
    rw [← Tables.contents_foldl_of_not_inLane s.contents_ready_of_not_inLane before t hin]
    rcases hmade f name with hkept | ⟨hf, hname, -⟩
    · exact hkept
    · exact absurd ⟨hf, Or.inl hname⟩ (hin c)

/-- A direction has been readied, or its gate is as it was and its own chain is as
it was or empty. -/
theorem Abandoned.lane {before after : List ChainId} {c : ChainId}
    (h : Abandoned s before c after t u) (horder : s.order = before ++ c :: after) (d : ChainId) :
    u.lane d = s.readyLane d (t.lane d) ∨
      (((u.lane d).1 = (t.lane d).1 ∨ (u.lane d).1 = some []) ∧ (u.lane d).2 = (t.lane d).2) := by
  have hd := s.mem_order d
  rw [horder] at hd
  rcases List.mem_append.mp hd with hd | hd
  · exact Or.inl (h.before d hd)
  rcases List.mem_cons.mp hd with rfl | hd
  · exact Or.inr ⟨h.own, h.gate⟩
  · rw [h.after d hd]
    exact Or.inr ⟨Or.inl rfl, rfl⟩

end RuleSet

/-!
# Runs that end with the failure of a chain
-/

namespace Kernel

/-- A run that ends with the failure of a chain has readied the chains before it,
and all calls for them have succeeded.  Of the calls for the chain itself the
first ones have succeeded and the next one has failed.  No rule has been added at
the end of a chain.  Each own chain is as it was or empty, each gate has at most
lost its jump or got it in front, and all else is as it was. -/
theorem provision_abandoned {h : Host Kernel} (hfaulting : h.Faulting) {k : Kernel} {s : RuleSet}
    {c : ChainId} {e : FilterError}
    (hfailed : (h.provision k s).2 = some (.error (.chain c e))) :
    let t := k.tables s.netns
    let u := (h.provision k s).1.tables s.netns
    let log := h.transcript k s
    ((h.provision k s).1.events = k.events ++ .enter s.netns ::
      (log.map (fun entry => .call entry.1) ++ [.leave s.netns])) ∧
    (exists before after made q, exists served : Transcript,
      s.retired ++ s.live = before ++ c :: after ∧
      log = served ++ [(q, .error e)] ∧
      served.Serves (before.flatMap (s.readying t) ++ made) ∧
      made ++ [q] <+: s.readying t c ∧
      (forall d, d ∈ before -> u.lane d = s.readyLane d (t.lane d)) ∧
      (forall d, d ∈ after -> u.lane d = t.lane d)) ∧
    (forall entry, entry ∈ log -> forall args,
      entry.1.action ≠ .ensureRule .append args) ∧
    (forall d : ChainId, u.contents d.family d.name = t.contents d.family d.name ∨
      u.contents d.family d.name = some []) ∧
    (forall d : ChainId, u.contents d.family d.builtin = t.contents d.family d.builtin ∨
      (d.jumpArgs ∉ (t.contents d.family d.builtin).rules ∧
        u.contents d.family d.builtin =
          some (d.jumpArgs :: (t.contents d.family d.builtin).rules)) ∨
      u.contents d.family d.builtin =
        (t.contents d.family d.builtin).map fun rules => rules.erase d.jumpArgs) ∧
    (forall f name, (forall d : ChainId, ¬ d.InLane f name) ->
      u.contents f name = t.contents f name) := by
  intro t u log
  obtain ⟨hrecorded, hevents⟩ := recorded_provision hfaulting s hfailed (by simp)
  rcases RuleSet.readies_of_program hrecorded with
    ⟨_, hresult, hreadies⟩ | ⟨_, _, _, hresult, _⟩
  · cases hresult
    rcases hreadies.breaks rfl s.nodup_order with
      ⟨before, d, after, made, q, source, served, horder, hchain, hlog, hserves, hprefix⟩
    cases hchain
    obtain ⟨hbefore, -⟩ := List.nodup_append.mp (horder ▸ s.nodup_order)
    have htables : u = made.foldl Tables.apply (before.foldl s.ready t) := by
      rw [show u = _ from hrecorded.tables, hlog, Transcript.obeyed_append, hserves.obeyed_eq,
        Transcript.obeyed_cons_error, Transcript.obeyed_nil, List.append_nil, List.foldl_append,
        s.foldl_readying_flatMap t hbefore]
    have habandoned : RuleSet.Abandoned s before c after t u :=
      htables ▸ RuleSet.abandoned_of_made horder hprefix
    have hlane := habandoned.lane horder
    refine ⟨hevents, ⟨before, after, made, q, served, horder, hlog, hserves, hprefix,
      habandoned.before, habandoned.after⟩, ?_, ?_, ?_, habandoned.foreign⟩
    · intro entry hentry args
      rw [show log = _ from hlog] at hentry
      rcases RuleSet.exists_readying hserves hprefix hentry with ⟨d, hd⟩
      exact RuleSet.action_ne_append (s.readying_subset _ d hd) args
    · intro d
      rcases hlane d with hready | ⟨hown, -⟩
      · have hown := s.own_readyLane d (t.lane d)
        rw [← hready] at hown
        exact hown
      · exact hown
    · intro d
      rcases hlane d with hready | ⟨-, hgate⟩
      · have hgate := s.gate_readyLane d (t.lane d)
        rw [← hready] at hgate
        exact hgate
      · exact Or.inl hgate
  · cases hresult

/-- A run that retires a chain, prepares another one, and then cannot empty a
third one. -/
theorem provision_abandoned_at_flush :
    let accept := ["-s", "10.0.0.9/32", "-j", "ACCEPT"]
    let before : Tables := Tables.ofTagged
      [ ("v4 DANM_EGRESS_V4", [accept]), ("v4 INPUT", [["-j", "REJECT"]]),
        ("v6 DANM_INGRESS_V6", [accept]),
        ("v6 INPUT", [["-j", "DANM_INGRESS_V6"], ["-j", "REJECT"]]) ]
    let k : Kernel :=
      { namespaces := SortedMap.ofList [("/run/netns/pod", before)]
        faults := [{ action := some "flush_chain", chain := some "DANM_EGRESS_V4" }] }
    let s : RuleSet :=
      { netns := "/run/netns/pod",
        rules := fun c => if c.family = .v4 then [{ protocol := some .tcp }] else [] }
    let e : FilterError := .failed "iptables" "" "exit status: 4" "injected"
    let u := (host.provision k s).1.tables s.netns
    host.Faulting ∧ (host.provision k s).2 = some (.error (.chain ⟨.egress, .v4⟩ e)) ∧
    s.retired ++ s.live = [⟨.ingress, .v6⟩, ⟨.egress, .v6⟩, ⟨.ingress, .v4⟩, ⟨.egress, .v4⟩] ∧
    u.lane ⟨.ingress, .v6⟩ = (some [], some [["-j", "REJECT"]]) ∧
    u.lane ⟨.ingress, .v4⟩ = (some [], some [["-j", "DANM_INGRESS_V4"], ["-j", "REJECT"]]) ∧
    u.lane ⟨.egress, .v4⟩ = (some [accept], none) ∧
    u.contents .v4 "FORWARD" = none ∧
    forall entry, entry ∈ host.transcript k s -> forall args,
      entry.1.action ≠ .ensureRule .append args := by
  intro accept before k s e u
  have hfailed : (host.provision k s).2 = some (.error (.chain ⟨.egress, .v4⟩ e)) := by
    decide +kernel
  obtain ⟨-, -, happends, -, -, hforeign⟩ := provision_abandoned faulting_host hfailed
  refine ⟨faulting_host, hfailed, by decide, by decide +kernel, by decide +kernel,
    by decide +kernel, ?_, happends⟩
  exact (hforeign .v4 "FORWARD" fun d => d.not_inLane_forward .v4).trans (by decide +kernel)

end Kernel

end PodIsolation
