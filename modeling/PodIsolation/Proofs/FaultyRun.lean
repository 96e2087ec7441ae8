import PodIsolation.Proofs.FaultlessRun

/-!
# Provisioning with faults

## The states that a run passes through

Any call may fail, and a run may stop at any point because a call never returns
or the program is brought down.  The tables that a run can leave behind are
therefore all those that it passes through.
-/

namespace PodIsolation

namespace Tables

/-!
# Reached tables

A call that fails was not carried out, or it was and only the reply tells
otherwise.  Every prefix of a run counts.
-/

/-- Running the program in the first tables can lead to the last ones. -/
inductive Reaches : Tables -> FilterProgram A -> Tables -> Prop where
  | stopped (t : Tables) (x : FilterProgram A) : Reaches t x t
  | obeyed {t u : Tables} {c : FilterCall} {next : FilterReply -> FilterProgram A} :
      Reaches (t.apply c) (next (.ok (t.reply c))) u -> Reaches t (.ask c next) u
  | refused {t u : Tables} {c : FilterCall} {next : FilterReply -> FilterProgram A}
      (e : FilterError) : Reaches t (next (.error e)) u -> Reaches t (.ask c next) u
  | denied {t u : Tables} {c : FilterCall} {next : FilterReply -> FilterProgram A}
      (e : FilterError) : Reaches (t.apply c) (next (.error e)) u -> Reaches t (.ask c next) u

/-!
# Safe programs

A program is safe if a property holds of all tables that it passes through, and
another of its result and of the tables at its end.
-/

inductive Safe (always : Tables -> Prop) (post : A -> Tables -> Prop) :
    FilterProgram A -> Tables -> Prop where
  | done {t : Tables} {a : A} : always t -> post a t -> Safe always post (.done a) t
  | ask {t : Tables} {c : FilterCall} {next : FilterReply -> FilterProgram A} :
      always t -> Safe always post (next (.ok (t.reply c))) (t.apply c) ->
      (forall e, Safe always post (next (.error e)) t) ->
      (forall e, Safe always post (next (.error e)) (t.apply c)) ->
      Safe always post (.ask c next) t

variable {always : Tables -> Prop} {t u : Tables}

theorem Safe.always_of_reaches {post : A -> Tables -> Prop} {x : FilterProgram A}
    (h : Safe always post x t) (hreaches : Reaches t x u) : always u := by
  induction hreaches with
  | stopped t x =>
      cases h with
      | done halways _ => exact halways
      | ask halways _ _ _ => exact halways
  | obeyed _ ih =>
      cases h with
      | ask _ hobeyed _ _ => exact ih hobeyed
  | refused e _ ih =>
      cases h with
      | ask _ _ hrefused _ => exact ih (hrefused e)
  | denied e _ ih =>
      cases h with
      | ask _ _ _ hdenied => exact ih (hdenied e)

theorem Safe.bind {mid : A -> Tables -> Prop} {post : B -> Tables -> Prop}
    {x : FilterProgram A} {f : A -> FilterProgram B} (h : Safe always mid x t)
    (hf : forall a u, always u -> mid a u -> Safe always post (f a) u) :
    Safe always post (x >>= f) t := by
  induction h with
  | done halways hmid => exact hf _ _ halways hmid
  | ask halways _ _ _ ihobeyed ihrefused ihdenied =>
      exact .ask halways ihobeyed ihrefused ihdenied

/-- A program that may fail, where nothing more is asked of its failures. -/
def SafeOk (always : Tables -> Prop) (post : A -> Tables -> Prop)
    (x : ExceptT E FilterProgram A) (t : Tables) : Prop :=
  Safe always (fun result u => forall a, result = .ok a -> post a u) x.run t

theorem SafeOk.bind (mid : A -> Tables -> Prop) {post : B -> Tables -> Prop}
    {x : ExceptT E FilterProgram A} {f : A -> ExceptT E FilterProgram B}
    (h : SafeOk always mid x t)
    (hf : forall a u, always u -> mid a u -> SafeOk always post (f a) u) :
    SafeOk always post (x >>= f) t := by
  unfold SafeOk
  rw [ExceptT.run_bind]
  apply Safe.bind h
  intro result u halways hmid
  cases result with
  | error e =>
      apply Safe.done halways
      intro b hb
      cases hb
  | ok a => exact hf a u halways (hmid a rfl)

theorem safeOk_pure {post : A -> Tables -> Prop} {a : A} (halways : always t)
    (h : post a t) : SafeOk always post (pure a : ExceptT E FilterProgram A) t := by
  apply Safe.done halways
  intro b hb
  cases hb
  exact h

theorem safeOk_request {post : Bool -> Tables -> Prop} {c : FilterCall} (halways : always t)
    (happly : always (t.apply c)) (h : post (t.reply c) (t.apply c)) :
    SafeOk always post c.request t := by
  apply Safe.ask halways
  · apply Safe.done happly
    intro b hb
    cases hb
    exact h
  · intro e
    apply Safe.done halways
    intro b hb
    cases hb
  · intro e
    apply Safe.done happly
    intro b hb
    cases hb

theorem SafeOk.onChain {post : Unit -> Tables -> Prop}
    {step : ChainId -> ExceptT FilterError FilterProgram Unit} {c : ChainId}
    (h : SafeOk always post (step c) t) :
    SafeOk always post (PodIsolation.onChain step c) t := by
  unfold SafeOk PodIsolation.onChain
  rw [ExceptT.run_adapt, Dialogue.map_eq_bind]
  apply Safe.bind h
  intro result u halways hpost
  apply Safe.done halways
  intro a ha
  cases result with
  | error e => cases ha
  | ok b =>
      cases ha
      exact hpost _ rfl

/-- Steps for one chain after another.  The property that they keep knows the
chains that are done. -/
theorem safeOk_forM {step : ChainId -> ExceptT E FilterProgram Unit}
    (kept : List ChainId -> Tables -> Prop)
    (hstep : forall done c u, always u -> kept done u ->
      SafeOk always (fun _ v => kept (c :: done) v) (step c) u)
    (chains done : List ChainId) (halways : always t) (h : kept done t) :
    SafeOk always (fun _ v => kept (chains.reverse ++ done) v) (chains.forM step) t := by
  induction chains generalizing done t with
  | nil => exact safeOk_pure halways h
  | cons c rest ih =>
      apply SafeOk.bind (fun _ v => kept (c :: done) v) (hstep done c t halways h)
      intro _ u halways hkept
      rw [List.reverse_cons, List.append_assoc]
      exact ih (c :: done) halways hkept

end Tables

/-!
# Kernels with faults

Whatever faults a kernel has, provisioning leaves behind tables that the program
of the rule set can reach.
-/

namespace Kernel

/-- A call is carried out and answered, or it meets a fault and changes nothing. -/
theorem filter_cases {k : Kernel} {path : String} (h : k.current = some path)
    (c : FilterCall) : exists l : Kernel, l.current = some path ∧
      (host.filter k c = (l, some (.ok ((k.tables path).reply c))) ∧
          l.tables path = (k.tables path).apply c ∨
        (exists e, host.filter k c = (l, some (.error e))) ∧ l.tables path = k.tables path ∨
        host.filter k c = (l, none) ∧ l.tables path = k.tables path) := by
  cases hstrike : Fault.strike c k.faults with
  | none =>
      refine ⟨(k.record (.call c)).apply c, ?_, Or.inl ⟨filter_eq_apply h hstrike, ?_⟩⟩
      · rw [apply_current]
        exact h
      · rw [tables_apply (k := k.record (.call c)) h, if_pos rfl]
        rfl
  | some struck =>
      rcases struck with ⟨kind, faults⟩
      have hstrike' : Fault.strike c (k.record (.call c)).faults = some (kind, faults) :=
        hstrike
      have hfilter : host.filter k c =
          ({ k.record (.call c) with faults }, Fault.reply c kind) := by
        simp only [host, filter, hstrike']
      refine ⟨{ k.record (.call c) with faults }, h, Or.inr ?_⟩
      cases kind with
      | fail => exact Or.inl ⟨⟨_, hfilter⟩, rfl⟩
      | notRun => exact Or.inl ⟨⟨_, hfilter⟩, rfl⟩
      | panic => exact Or.inr ⟨hfilter, rfl⟩

theorem reaches_run {path : String} (x : FilterProgram A) {k : Kernel}
    (h : k.current = some path) :
    Tables.Reaches (k.tables path) x ((Dialogue.run host.filter k x).1.tables path) := by
  induction x generalizing k with
  | done a => exact .stopped _ _
  | ask c next ih =>
      rcases filter_cases h c with
        ⟨l, hl, ⟨hfilter, htables⟩ | ⟨⟨e, hfilter⟩, htables⟩ | ⟨hfilter, htables⟩⟩
      · have hnext := ih (.ok ((k.tables path).reply c)) hl
        rw [htables] at hnext
        simp only [Dialogue.run, hfilter]
        exact .obeyed hnext
      · have hnext := ih (.error e) hl
        rw [htables] at hnext
        simp only [Dialogue.run, hfilter]
        exact .refused e hnext
      · simp only [Dialogue.run, hfilter, htables]
        exact .stopped _ _

theorem provision_reaches (k : Kernel) (s : RuleSet) :
    Tables.Reaches (k.tables s.netns) s.program.run
      ((host.provision k s).1.tables s.netns) := by
  unfold Host.provision
  cases hmissing : k.missing.get? s.netns with
  | some cause =>
      have henter : host.enter k s.netns = (k, .error cause) := by
        simp only [host, enter, hmissing]
      rw [henter]
      exact .stopped _ _
  | none =>
      have henter : host.enter k s.netns =
          ({ k with current := some s.netns }.record (.enter s.netns), .ok ()) := by
        simp only [host, enter, hmissing]
      rw [henter]
      exact reaches_run (k := { k with current := some s.netns }.record (.enter s.netns))
        s.program.run rfl

/-- A run may have other faults than the one before it. -/
theorem provision_reaches_with (k : Kernel) (faults : List Fault) (s : RuleSet) :
    Tables.Reaches (k.tables s.netns) s.program.run
      ((host.provision { k with faults } s).1.tables s.netns) :=
  provision_reaches { k with faults } s

end Kernel

end PodIsolation
