import PodIsolation.Proofs.RunFootprint

/-!
# The frame of a run

## What provisioning leaves alone

Provisioning enters the network namespace of a rule set, makes its calls there
and leaves it, however the run ends.  All other namespaces keep their tables.  In
the namespace itself, only the own chains and the built-in chains can change, and
in a built-in chain the rules of others keep their number and their order.  This
holds whatever the tables hold before and whatever becomes of the calls.
-/

namespace PodIsolation

/-!
# Kernels under any faults
-/

/-- A host whose namespaces are those of a kernel.  A call is recorded, and it is
carried out in the current namespace or not.  What is replied, if anything, may
depend on all that has happened. -/
structure Host.OnKernel (h : Host Kernel) : Prop where
  enter : h.enter = Kernel.enter
  leave : h.leave = Kernel.leave
  filter : forall k c, exists faults,
    (h.filter k c).1 = { k.record (.call c) with faults } ∨
      (h.filter k c).1 = { (k.record (.call c)).apply c with faults }

namespace Kernel

variable {h : Host Kernel} {k l : Kernel} {path : String}

theorem onKernel_host : host.OnKernel where
  enter := rfl
  leave := rfl
  filter k c := by
    simp only [host, filter]
    split
    · rename_i kind faults _
      exact ⟨faults, Or.inl rfl⟩
    · exact ⟨_, Or.inr rfl⟩

/-- From one kernel to the other, calls were made in the current namespace, and
some of them were carried out there. -/
structure Spent (k : Kernel) (path : String) (calls : List FilterCall) (l : Kernel) : Prop where
  current : l.current = some path
  events : l.events = k.events ++ calls.map .call
  missing : l.missing = k.missing
  others : forall other, other ≠ path -> l.tables other = k.tables other
  tables : exists obeyed : List FilterCall, obeyed.Sublist calls ∧
    l.tables path = obeyed.foldl Tables.apply (k.tables path)

theorem spent_nil (hcurrent : k.current = some path) : Spent k path [] k :=
  ⟨hcurrent, by simp, rfl, fun _ _ => rfl, [], List.Sublist.refl [], rfl⟩

@[simp] theorem apply_events (k : Kernel) (c : FilterCall) : (k.apply c).events = k.events := by
  unfold apply
  split <;> rfl

theorem Spent.cons {c : FilterCall} {calls : List FilterCall} {m : Kernel}
    (hcurrent : k.current = some path) {faults : List Fault}
    (hl : l = { k.record (.call c) with faults } ∨
      l = { (k.record (.call c)).apply c with faults }) (hrest : Spent l path calls m) :
    Spent k path (c :: calls) m := by
  have hrecorded : (k.record (.call c)).current = some path := hcurrent
  rcases hrest.tables with ⟨obeyed, hsublist, htables⟩
  rcases hl with rfl | rfl
  · refine ⟨hrest.current, ?_, hrest.missing, hrest.others, obeyed, hsublist.cons c, htables⟩
    simpa [record] using hrest.events
  · refine ⟨hrest.current, ?_, ?_, ?_, c :: obeyed, hsublist.cons_cons c, ?_⟩
    · simpa [record] using hrest.events
    · exact hrest.missing.trans (apply_missing _ c)
    · intro other hother
      have hkept := tables_apply hrecorded c other
      rw [if_neg hother] at hkept
      exact (hrest.others other hother).trans hkept
    · have happlied := tables_apply hrecorded c path
      rw [if_pos rfl] at happlied
      rw [htables, List.foldl_cons]
      exact congrArg (obeyed.foldl Tables.apply) happlied

theorem spent_run {allowed : FilterCall -> Prop} {post : A -> Prop} (hkernel : h.OnKernel)
    {x : FilterProgram A} (hx : Dialogue.Within (fun _ => True) allowed post x)
    (hcurrent : k.current = some path) :
    exists calls : List FilterCall, Spent k path calls (Dialogue.run h.filter k x).1 ∧
      (forall q, q ∈ calls -> allowed q) ∧
      forall a, (Dialogue.run h.filter k x).2 = some a -> post a := by
  induction hx generalizing k with
  | done ha =>
      refine ⟨[], spent_nil hcurrent, by simp, ?_⟩
      rintro a ⟨⟩
      exact ha
  | @ask q next hq _ ih =>
      rcases hkernel.filter k q with ⟨faults, hfilter⟩
      -- Carried out or not, the call leaves the namespace current.
      have hnext : (h.filter k q).1.current = some path := by
        rcases hfilter with hfilter | hfilter <;> rw [hfilter]
        · exact hcurrent
        · exact (apply_current _ q).trans hcurrent
      simp only [Dialogue.run]
      generalize h.filter k q = answered at hfilter hnext
      rcases answered with ⟨l, _ | reply⟩
      · exact ⟨[q], (spent_nil hnext).cons hcurrent hfilter, by simpa using hq, by simp⟩
      · rcases ih reply trivial hnext with ⟨calls, hspent, hcalls, hpost⟩
        refine ⟨q :: calls, hspent.cons hcurrent hfilter, ?_, hpost⟩
        intro r hr
        rcases List.mem_cons.mp hr with rfl | hr
        · exact hq
        · exact hcalls r hr

/-- What calls of a kind preserve one by one, those that were carried out preserve. -/
theorem Spent.preserves {P : Tables -> Prop} {calls : List FilterCall} (hspent : Spent k path calls l)
    (hstep : forall q, q ∈ calls -> forall t, P t -> P (t.apply q)) (hP : P (k.tables path)) :
    P (l.tables path) := by
  rcases hspent.tables with ⟨obeyed, hsublist, htables⟩
  rw [htables]
  refine List.foldlRecOn (motive := P) obeyed Tables.apply hP ?_
  exact fun t ht q hq => hstep q (hsublist.subset hq) t ht

/-!
# Whole runs
-/

theorem provision_of_missing (hkernel : h.OnKernel) {s : RuleSet} {cause : String}
    (hmissing : k.missing.get? s.netns = some cause) :
    h.provision k s = (k, some (.error (.netns s.netns cause))) := by
  have henter : h.enter k s.netns = (k, .error cause) := by
    rw [hkernel.enter]
    simp [enter, hmissing]
  unfold Host.provision
  rw [henter]

theorem provision_of_present (hkernel : h.OnKernel) {s : RuleSet}
    (hpresent : k.missing.get? s.netns = none) :
    let entered := { k with current := some s.netns }.record (.enter s.netns)
    h.provision k s =
      ((Dialogue.run h.filter entered s.program.run).1.leave s.netns,
        (Dialogue.run h.filter entered s.program.run).2) := by
  have henter : h.enter k s.netns =
      ({ k with current := some s.netns }.record (.enter s.netns), .ok ()) := by
    rw [hkernel.enter]
    simp [enter, hpresent]
  unfold Host.provision
  rw [henter, hkernel.leave]

/-- A run enters the namespace, spends its calls there, and leaves it. -/
theorem exists_spent (hkernel : h.OnKernel) (k : Kernel) (s : RuleSet)
    (hpresent : k.missing.get? s.netns = none) :
    exists (calls : List FilterCall) (m : Kernel),
      Spent ({ k with current := some s.netns }.record (.enter s.netns)) s.netns calls m ∧
      (h.provision k s).1 = m.leave s.netns ∧
      (forall q, q ∈ calls -> s.Makes q) ∧
      forall e, (h.provision k s).2 = some (.error e) -> exists c source, e = .chain c source := by
  rcases spent_run hkernel s.footed_program
    (k := { k with current := some s.netns }.record (.enter s.netns)) rfl with
    ⟨calls, hspent, hcalls, hresult⟩
  rw [provision_of_present hkernel hpresent]
  refine ⟨calls, _, hspent, rfl, hcalls, ?_⟩
  intro e he
  rcases hresult _ he e rfl with ⟨c, source, hchain, _⟩
  exact ⟨c, source, hchain⟩

/-- What every call of provisioning preserves in the tables of the namespace,
a run preserves. -/
theorem provision_preserves {P : Tables -> Prop} (hkernel : h.OnKernel) (s : RuleSet)
    (hstep : forall q : FilterCall, s.Makes q -> forall t, P t -> P (t.apply q))
    (hP : P (k.tables s.netns)) : P ((h.provision k s).1.tables s.netns) := by
  cases hmissing : k.missing.get? s.netns with
  | some cause =>
      rw [provision_of_missing hkernel hmissing]
      exact hP
  | none =>
      rcases exists_spent hkernel k s hmissing with ⟨calls, m, hspent, hend, hcalls, _⟩
      rw [hend]
      exact hspent.preserves (fun q hq t ht => hstep q (hcalls q hq) t ht) hP

theorem provision_others (hkernel : h.OnKernel) (s : RuleSet) {other : String}
    (hother : other ≠ s.netns) : (h.provision k s).1.tables other = k.tables other := by
  cases hmissing : k.missing.get? s.netns with
  | some cause => rw [provision_of_missing hkernel hmissing]
  | none =>
      rcases exists_spent hkernel k s hmissing with ⟨calls, m, hspent, hend, _⟩
      rw [hend]
      exact hspent.others other hother

theorem provision_missing (hkernel : h.OnKernel) (k : Kernel) (s : RuleSet) :
    (h.provision k s).1.missing = k.missing := by
  cases hmissing : k.missing.get? s.netns with
  | some cause => rw [provision_of_missing hkernel hmissing]
  | none =>
      rcases exists_spent hkernel k s hmissing with ⟨calls, m, hspent, hend, _⟩
      rw [hend]
      exact hspent.missing

/-!
# The frame
-/

/-- A run that cannot enter its namespace makes no call and changes nothing.  Any
other run enters it once, makes its calls there, each to the tables of the family
that it is about, and leaves it once, whether it ends with a report, with an error
about a chain, or without an outcome, which a caller apart learns as a panic.
Other namespaces, other chains, and the rules of others in the built-in chains
stay as they are. -/
theorem provision_framed (h : Host Kernel) (hkernel : h.OnKernel) (k : Kernel) (s : RuleSet) :
    let l := (h.provision k s).1
    let outcome := (h.provision k s).2
    let apart := h.provisionApart k s
    (forall cause, k.missing.get? s.netns = some cause ->
      l = k ∧ outcome = some (.error (.netns s.netns cause))) ∧
    (k.missing.get? s.netns = none ->
      l.current = none ∧
      (exists calls : List FilterCall,
        l.events = k.events ++ .enter s.netns :: (calls.map .call ++ [.leave s.netns]) ∧
        forall q, q ∈ calls -> q.table = "filter" ∧
          (forall c : ChainId, q.chain = c.name -> q.family = c.family) ∧
          ((forall c : ChainId, q.chain ≠ c.name) ->
            forall c : ChainId, q.action.args = c.jumpArgs ->
              q.family = c.family ∧ q.chain = c.builtin)) ∧
      (outcome = none ∨ (exists report, outcome = some (.ok report)) ∨
        exists c source, outcome = some (.error (.chain c source)))) ∧
    (apart.1 = l ∧ (outcome = none -> apart.2 = .error .panicked) ∧
      forall result, outcome = some result -> apart.2 = result) ∧
    (forall other, other ≠ s.netns -> l.tables other = k.tables other) ∧
    (forall f name, (forall c : ChainId, c.family = f -> name ≠ c.name) ->
      name ∉ ["INPUT", "OUTPUT", "FORWARD"] ->
      (l.tables s.netns).contents f name = (k.tables s.netns).contents f name) ∧
    (forall c : ChainId,
      ((l.tables s.netns).contents c.family c.builtin).besides
          [c.jumpArgs, loopbackRule c.builtin, rejectRule] =
        ((k.tables s.netns).contents c.family c.builtin).besides
          [c.jumpArgs, loopbackRule c.builtin, rejectRule]) ∧
    (forall f,
      ((l.tables s.netns).contents f "FORWARD").besides [loopbackRule "FORWARD", rejectRule] =
        ((k.tables s.netns).contents f "FORWARD").besides
          [loopbackRule "FORWARD", rejectRule]) := by
  intro l outcome apart
  refine ⟨?_, ?_, ?_, ?_, ?_, ?_, ?_⟩
  · intro cause hmissing
    have hend := provision_of_missing hkernel hmissing
    exact ⟨congrArg Prod.fst hend, congrArg Prod.snd hend⟩
  · intro hpresent
    rcases exists_spent hkernel k s hpresent with ⟨calls, m, hspent, hend, hcalls, herror⟩
    refine ⟨congrArg Kernel.current hend, ⟨calls, ?_, ?_⟩, ?_⟩
    · rw [show l = m.leave s.netns from hend]
      simp [leave, record, hspent.events]
    · intro q hq
      exact ⟨(hcalls q hq).table, fun _ => (hcalls q hq).family_of_own,
        fun hother _ => (hcalls q hq).family_of_jump hother⟩
    · cases houtcome : outcome with
      | none => exact Or.inl rfl
      | some result =>
          right
          cases result with
          | ok report => exact Or.inl ⟨report, rfl⟩
          | error e =>
              rcases herror e houtcome with ⟨c, source, rfl⟩
              exact Or.inr ⟨c, source, rfl⟩
  · refine ⟨rfl, ?_, ?_⟩
    · intro hnone
      exact congrArg (Option.getD · (.error .panicked)) hnone
    · intro result hresult
      exact congrArg (Option.getD · (.error .panicked)) hresult
  · exact fun other hother => provision_others hkernel s hother
  · intro f name hown hbuiltin
    have hlane : forall c, ¬ ChainId.InLane c f name := by
      rintro c ⟨hfamily, hname | hname⟩
      · exact hown c hfamily.symm hname
      · rcases c with ⟨_ | _, g⟩ <;>
          simp [hname, ChainId.builtin, Direction.builtin, inputChain, outputChain] at hbuiltin
    have hforward : name ≠ forwardChain := fun hname => hbuiltin (by simp [hname, forwardChain])
    exact provision_preserves (P := fun t => t.contents f name = (k.tables s.netns).contents f name)
      hkernel s (fun q hq t ht => (Tables.contents_apply_foreign hq hlane hforward).trans ht) rfl
  · intro c
    exact provision_preserves
      (P := fun t => (t.contents c.family c.builtin).besides c.gateRules =
        ((k.tables s.netns).contents c.family c.builtin).besides c.gateRules)
      hkernel s (fun q hq t ht => (Tables.besides_gate_apply hq c).trans ht) rfl
  · intro f
    exact provision_preserves
      (P := fun t => (t.contents f forwardChain).besides (baselineRules forwardChain) =
        ((k.tables s.netns).contents f forwardChain).besides (baselineRules forwardChain))
      hkernel s (fun q hq t ht => (Tables.besides_forward_apply hq f).trans ht) rfl

/-- A run that is brought down while the baseline is added, in a namespace with
rules of others. -/
theorem provision_framed_beside_foreign_rules :
    let foreign := [["-s", "10.0.0.9/32", "-j", "DROP"], ["-j", "LOG"]]
    let before : Tables :=
      Tables.ofTagged [("v4 INPUT", ["-j", "REJECT"] :: foreign), ("v4 nat", foreign)]
    let k : Kernel :=
      { namespaces := SortedMap.ofList [("/run/netns/pod", before), ("/run/netns/db", before)]
        faults := [{ chain := some "OUTPUT", kind := .panic }] }
    let s : RuleSet :=
      { netns := "/run/netns/pod",
        rules := fun c => if c = ⟨.ingress, .v4⟩ then [{ protocol := some .tcp }] else [] }
    let l := (host.provision k s).1
    host.OnKernel ∧ k.missing.get? s.netns = none ∧
    (l.tables "/run/netns/pod").contents .v4 "INPUT" =
      some (["-j", "DANM_INGRESS_V4"] :: ["-j", "REJECT"] :: foreign ++
        [["-i", "lo", "-j", "ACCEPT"]]) ∧
    l.current = none ∧ (host.provisionApart k s).2 = .error .panicked ∧
    l.tables "/run/netns/db" = before ∧
    (l.tables "/run/netns/pod").contents .v4 "nat" = some foreign ∧
    ((l.tables "/run/netns/pod").contents .v4 "INPUT").besides
      [["-j", "DANM_INGRESS_V4"], ["-i", "lo", "-j", "ACCEPT"], ["-j", "REJECT"]] = foreign := by
  intro foreign before k s l
  have hpresent : k.missing.get? s.netns = none := rfl
  obtain ⟨_, hentered, ⟨_, hpanicked, _⟩, hothers, hchains, hgates, _⟩ :=
    provision_framed host onKernel_host k s
  have hlost : (host.provision k s).2 = none := by
    decide +kernel
  refine ⟨onKernel_host, hpresent, by decide +kernel, (hentered hpresent).left,
    hpanicked hlost, (hothers "/run/netns/db" (by decide)).trans (by decide +kernel), ?_, ?_⟩
  · exact (hchains .v4 "nat" (by rintro ⟨_ | _, _ | _⟩ _ <;> decide) (by decide)).trans
      (by decide +kernel)
  · exact (hgates ⟨.ingress, .v4⟩).trans (by decide +kernel)

end Kernel

end PodIsolation
