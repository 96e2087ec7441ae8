import PodIsolation.Proofs.FaultyRun

/-!
# Completed runs

## Runs that report no failure

Steps for whole chains stop at the first call that fails, and the report of a
run counts the rules that could not be added.  So a run that comes to its end
and reports no failure was refused nothing, and it leaves the tables that a run
without faults leaves.
-/

namespace PodIsolation

instance Outcome.decidableEq : DecidableEq Outcome
  | .ok r, .ok r' => decidable_of_iff (r = r') (by simp)
  | .error e, .error e' => decidable_of_iff (e = e') (by simp)
  | .ok _, .error _ => isFalse (by simp)
  | .error _, .ok _ => isFalse (by simp)

namespace Tables

/-!
# Results of runs
-/

/-- Running the program in the first tables can end in the last ones with the
result.  As in a run that stops somewhere, a call that fails may have been
carried out. -/
inductive Returns : Tables -> FilterProgram A -> Tables -> A -> Prop where
  | done (t : Tables) (a : A) : Returns t (.done a) t a
  | obeyed {t u : Tables} {c : FilterCall} {next : FilterReply -> FilterProgram A} {a : A} :
      Returns (t.apply c) (next (.ok (t.reply c))) u a -> Returns t (.ask c next) u a
  | refused {t u : Tables} {c : FilterCall} {next : FilterReply -> FilterProgram A} {a : A}
      (e : FilterError) : Returns t (next (.error e)) u a -> Returns t (.ask c next) u a
  | denied {t u : Tables} {c : FilterCall} {next : FilterReply -> FilterProgram A} {a : A}
      (e : FilterError) :
      Returns (t.apply c) (next (.error e)) u a -> Returns t (.ask c next) u a

variable {t u : Tables}

theorem Returns.reaches {x : FilterProgram A} {a : A} (h : Returns t x u a) :
    Reaches t x u := by
  induction h with
  | done t a => exact .stopped t _
  | obeyed _ ih => exact .obeyed ih
  | refused e _ ih => exact .refused e ih
  | denied e _ ih => exact .denied e ih

theorem Returns.of_bind {x : FilterProgram A} {f : A -> FilterProgram B} {b : B}
    (h : Returns t (x >>= f) u b) : exists v a, Returns t x v a ∧ Returns v (f a) u b := by
  induction x generalizing t with
  | done a => exact ⟨t, a, .done t a, h⟩
  | ask c next ih =>
      rw [Dialogue.ask_bind] at h
      cases h with
      | obeyed h =>
          rcases ih _ h with ⟨v, a, hx, hf⟩
          exact ⟨v, a, .obeyed hx, hf⟩
      | refused e h =>
          rcases ih _ h with ⟨v, a, hx, hf⟩
          exact ⟨v, a, .refused e hx, hf⟩
      | denied e h =>
          rcases ih _ h with ⟨v, a, hx, hf⟩
          exact ⟨v, a, .denied e hx, hf⟩

/-!
# Programs that stop at a failure

When such a program succeeds with a good value, every call was carried out.
-/

def FailFast (good : A -> Prop) (x : ExceptT E FilterProgram A) : Prop :=
  forall t u a, Returns t x.run u (.ok a) -> good a -> Leads t x u a

theorem failFast_pure (good : A -> Prop) (a : A) :
    FailFast good (pure a : ExceptT E FilterProgram A) := by
  intro t u b h _
  cases h with
  | done => exact leads_pure t a

theorem FailFast.bind {good : B -> Prop} {x : ExceptT E FilterProgram A}
    {f : A -> ExceptT E FilterProgram B} (hx : FailFast (fun _ => True) x)
    (hf : forall a, FailFast good (f a)) : FailFast good (x >>= f) := by
  intro t u b h hgood
  rw [ExceptT.run_bind] at h
  rcases h.of_bind with ⟨v, result, hfirst, hrest⟩
  cases result with
  | error e => cases hrest
  | ok a => exact (hx t v a hfirst trivial).bind (hf a v u b hrest hgood)

theorem failFast_request (good : Bool -> Prop) (c : FilterCall) : FailFast good c.request := by
  intro t u b h _
  cases h with
  | obeyed h =>
      cases h with
      | done => exact leads_request t c
  | refused e h => cases h
  | denied e h => cases h

theorem FailFast.onChain {step : ChainId -> ExceptT FilterError FilterProgram Unit}
    {c : ChainId} (h : FailFast (fun _ => True) (step c)) :
    FailFast (fun _ => True) (PodIsolation.onChain step c) := by
  intro t u b hrun _
  unfold PodIsolation.onChain at hrun
  rw [ExceptT.run_adapt, Dialogue.map_eq_bind] at hrun
  rcases hrun.of_bind with ⟨v, result, hfirst, hrest⟩
  cases result with
  | error e => cases hrest
  | ok a =>
      cases hrest with
      | done => exact (h t u a hfirst trivial).onChain

theorem failFast_forM {step : ChainId -> ExceptT E FilterProgram Unit}
    (h : forall c, FailFast (fun _ => True) (step c)) (chains : List ChainId) :
    FailFast (fun _ => True) (chains.forM step) := by
  induction chains with
  | nil => exact failFast_pure _ ()
  | cons c rest ih => exact (h c).bind fun _ => ih

theorem failFast_retireChain (c : ChainId) : FailFast (fun _ => True) (retireChain c) := by
  apply (failFast_request _ _).bind
  intro found
  cases found with
  | false => exact failFast_pure _ ()
  | true =>
      exact (failFast_request _ _).bind fun _ =>
        (failFast_request _ _).bind fun _ => failFast_pure _ ()

theorem failFast_prepareChain (c : ChainId) : FailFast (fun _ => True) (prepareChain c) :=
  (failFast_request _ _).bind fun _ => (failFast_request _ _).bind fun _ =>
    (failFast_request _ _).bind fun _ => failFast_pure _ ()

/-!
# Reports without failures
-/

/-- Failures that were counted stay counted. -/
theorem failed_le_of_returns {installations : List Installation} {report last : Report}
    (h : Returns t (installAll report installations) u last) : report.failed ≤ last.failed := by
  induction installations generalizing t report with
  | nil =>
      cases h with
      | done => exact Nat.le_refl _
  | cons i rest ih =>
      cases h with
      | obeyed h =>
          have hrest : (report.record (.ok (t.reply i.call))).failed ≤ last.failed := ih h
          exact hrest
      | refused e h =>
          have hrest : (report.record (.error e)).failed ≤ last.failed := ih h
          exact Nat.le_of_succ_le hrest
      | denied e h =>
          have hrest : (report.record (.error e)).failed ≤ last.failed := ih h
          exact Nat.le_of_succ_le hrest

theorem run_obey_of_returns {installations : List Installation} {report last : Report}
    (h : Returns t (installAll report installations) u last) (hfailed : last.failed = 0) :
    Dialogue.run obey t (installAll report installations) = (u, some last) := by
  induction installations generalizing t report with
  | nil =>
      cases h with
      | done => rfl
  | cons i rest ih =>
      cases h with
      | obeyed h => exact ih h
      | refused e h =>
          have hcounted := failed_le_of_returns h
          rw [hfailed] at hcounted
          exact absurd hcounted (Nat.not_succ_le_zero _)
      | denied e h =>
          have hcounted := failed_le_of_returns h
          rw [hfailed] at hcounted
          exact absurd hcounted (Nat.not_succ_le_zero _)

theorem failFast_program (s : RuleSet) :
    FailFast (fun report => report.failed = 0) s.program := by
  apply (failFast_forM (fun c => (failFast_retireChain c).onChain) s.retired).bind
  intro _
  apply (failFast_forM (fun c => (failFast_prepareChain c).onChain) s.live).bind
  intro _ t u last h hfailed
  rw [ExceptT.run_lift, Dialogue.map_eq_bind] at h
  rcases h.of_bind with ⟨v, report, hinstall, hrest⟩
  cases hrest with
  | done =>
      unfold Leads
      rw [ExceptT.run_lift, Dialogue.map_eq_bind, Dialogue.run_bind,
        run_obey_of_returns hinstall hfailed]
      rfl

/-- A run that reports no failure leaves the tables of a run without faults. -/
theorem eq_provisioned_of_returns {s : RuleSet} {report : Report}
    (h : Returns t s.program.run u (.ok report)) (hfailed : report.failed = 0) :
    u = t.provisioned s := by
  have hrun := failFast_program s t u report h hfailed
  have hlead := leads_program t s
  unfold Leads at hrun hlead
  rw [hlead] at hrun
  cases hrun
  rfl

end Tables

/-!
# Kernels with faults
-/

namespace Kernel

theorem returns_run {path : String} (x : FilterProgram A) {k : Kernel} {a : A}
    (h : k.current = some path) (hresult : (Dialogue.run host.filter k x).2 = some a) :
    Tables.Returns (k.tables path) x ((Dialogue.run host.filter k x).1.tables path) a := by
  induction x generalizing k with
  | done b =>
      cases hresult
      exact .done _ _
  | ask c next ih =>
      rcases filter_cases h c with
        ⟨l, hl, ⟨hfilter, htables⟩ | ⟨⟨e, hfilter⟩, htables⟩ | ⟨hfilter, htables⟩⟩
      · simp only [Dialogue.run, hfilter] at hresult ⊢
        have hnext := ih _ hl hresult
        rw [htables] at hnext
        exact .obeyed hnext
      · simp only [Dialogue.run, hfilter] at hresult ⊢
        have hnext := ih _ hl hresult
        rw [htables] at hnext
        exact .refused e hnext
      · simp only [Dialogue.run, hfilter] at hresult
        cases hresult

/-- A run may have faults of its own. -/
theorem provision_returns (k : Kernel) (faults : List Fault) (s : RuleSet) {report : Report}
    (h : (host.provision { k with faults } s).2 = some (.ok report)) :
    Tables.Returns (k.tables s.netns) s.program.run
      ((host.provision { k with faults } s).1.tables s.netns) (.ok report) := by
  unfold Host.provision at h ⊢
  cases hmissing : k.missing.get? s.netns with
  | some cause =>
      have henter : host.enter { k with faults } s.netns =
          ({ k with faults }, .error cause) := by
        simp only [host, enter, hmissing]
      rw [henter] at h
      cases h
  | none =>
      have henter : host.enter { k with faults } s.netns =
          ({ k with faults, current := some s.netns }.record (.enter s.netns), .ok ()) := by
        simp only [host, enter, hmissing]
      rw [henter] at h ⊢
      have hentered : ({ k with faults, current := some s.netns }.record
          (.enter s.netns)).current = some s.netns := rfl
      exact returns_run s.program.run hentered h

end Kernel

end PodIsolation
