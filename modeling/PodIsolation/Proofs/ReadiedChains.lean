import PodIsolation.Proofs.AnsweredRun

/-!
# Readied chains

## How a run readies its chains

A run readies one chain after the other: it retires those without rules and then
prepares those with rules.  It makes the calls for each chain in a row and stops
at the first call that fails.  Which calls these are depends on the chain alone,
so the transcript of a run is known up to the failure, and with it the tables.
-/

namespace PodIsolation

/-!
# Calls in a row
-/

namespace Transcript

/-- The calls were made one after the other, up to the first that failed. -/
inductive Follows : List FilterCall -> Transcript -> Except FilterError Unit -> Prop where
  | done : Follows [] [] (.ok ())
  | obeyed {c : FilterCall} {rest : List FilterCall} {log : Transcript}
      {result : Except FilterError Unit} (answer : Bool) : Follows rest log result ->
      Follows (c :: rest) ((c, .ok answer) :: log) result
  | failed (c : FilterCall) (rest : List FilterCall) (e : FilterError) :
      Follows (c :: rest) [(c, .error e)] (.error e)

variable {calls : List FilterCall} {log : Transcript} {result : Except FilterError Unit}

theorem Follows.serves (h : Follows calls log result) (hresult : result = .ok ()) :
    log.Serves calls := by
  induction h with
  | done => exact serves_nil
  | obeyed answer _ ih => exact (ih hresult).cons _ answer
  | failed c rest e => cases hresult

theorem Follows.breaks (h : Follows calls log result) {e : FilterError}
    (hresult : result = .error e) : exists made q, exists first : Transcript,
      made ++ [q] <+: calls ∧ log = first ++ [(q, .error e)] ∧ first.Serves made := by
  induction h with
  | done => cases hresult
  | @obeyed c rest log _ answer _ ih =>
      rcases ih hresult with ⟨made, q, first, hprefix, rfl, hserves⟩
      exact ⟨c :: made, q, (c, .ok answer) :: first, List.prefix_cons_inj c |>.mpr hprefix,
        rfl, hserves.cons c answer⟩
  | failed c rest e =>
      cases hresult
      exact ⟨[], c, [], ⟨rest, rfl⟩, rfl, serves_nil⟩

end Transcript

namespace Tables

variable {t : Tables}

/-- From the tables on, the program makes the calls one after the other, and it
fails with the first that fails. -/
def Sequential (t : Tables) (x : ExceptT FilterError FilterProgram Unit)
    (calls : List FilterCall) : Prop :=
  forall log u result, Recorded t x.run log u result -> Transcript.Follows calls log result

theorem sequential_pure : Sequential t (pure ()) [] := by
  intro log u result h
  cases h with
  | done => exact .done

theorem sequential_request {c : FilterCall} {f : Bool -> ExceptT FilterError FilterProgram Unit}
    {rest : List FilterCall} (h : Sequential (t.apply c) (f (t.reply c)) rest) :
    Sequential t (c.request >>= f) (c :: rest) := by
  intro log u result hrun
  rcases hrun.of_run_bind with ⟨e, rfl, hfirst⟩ | ⟨first, v, a, log', rfl, hfirst, hrest⟩
  · cases hfirst with
    | obeyed hfirst => cases hfirst
    | refused e hfirst =>
        cases hfirst with
        | done => exact .failed c rest e
  · cases hfirst with
    | obeyed hfirst =>
        cases hfirst with
        | done => exact .obeyed _ (h _ _ _ hrest)
    | refused e hfirst => cases hfirst

/-- The calls that retire a chain if none of them fails. -/
def retirement (t : Tables) (c : ChainId) : List FilterCall :=
  c.call .hasChain ::
    if (t.contents c.family c.name).isSome then
      [c.call .flushChain, c.builtinCall (.deleteRule c.jumpArgs)]
    else []

theorem sequential_retireChain (t : Tables) (c : ChainId) :
    Sequential t (retireChain c) (t.retirement c) := by
  apply sequential_request
  rw [apply_hasChain]
  by_cases hexists : (t.contents c.family c.name).isSome = true
  · have hreply : t.reply (c.call .hasChain) = true := hexists
    rw [hreply, if_pos hexists]
    exact sequential_request (sequential_request sequential_pure)
  · have hreply : t.reply (c.call .hasChain) = false := Bool.eq_false_iff.mpr hexists
    rw [hreply, if_neg hexists]
    exact sequential_pure

end Tables

/-- The calls that prepare a chain if none of them fails. -/
def ChainId.preparing (c : ChainId) : List FilterCall :=
  [ c.call .ensureChain, c.call .flushChain,
    c.builtinCall (.ensureRule (.insert 1) c.jumpArgs) ]

theorem Tables.sequential_prepareChain (t : Tables) (c : ChainId) :
    Sequential t (prepareChain c) c.preparing :=
  sequential_request (sequential_request (sequential_request sequential_pure))

/-!
# Readying a chain

Whether a chain is retired or prepared depends on its rules alone, and the calls
for it on whether it exists.
-/

namespace RuleSet

/-- The calls that ready a chain for the rule set if none of them fails. -/
def readying (s : RuleSet) (t : Tables) (c : ChainId) : List FilterCall :=
  if s.rules c = [] then t.retirement c else c.preparing

/-- The tables after a chain has been readied for the rule set. -/
def ready (s : RuleSet) (t : Tables) (c : ChainId) : Tables :=
  if s.rules c = [] then t.retire c else t.prepare c

/-- The chains of a direction after they have been readied for the rule set. -/
def readyLane (s : RuleSet) (c : ChainId) (lane : Contents × Contents) : Contents × Contents :=
  if s.rules c = [] then c.retireLane lane else c.prepareLane lane

theorem foldl_readying (s : RuleSet) (t : Tables) (c : ChainId) :
    (s.readying t c).foldl Tables.apply t = s.ready t c := by
  unfold readying ready
  split
  · have hcontains : (t.contents c.family c.name).isSome = (t.get c.family).contains c.name :=
      rfl
    unfold Tables.retirement Tables.retire
    rw [List.foldl_cons, Tables.apply_hasChain, hcontains]
    split <;> rfl
  · rfl

theorem contents_ready_of_not_inLane (s : RuleSet) (t : Tables) (c : ChainId) (f : Family)
    (name : String) (h : ¬ c.InLane f name) :
    (s.ready t c).contents f name = t.contents f name := by
  unfold ready
  split
  · exact Tables.contents_retire_of_not_inLane h
  · exact Tables.contents_prepare_of_not_inLane h

theorem lane_ready_self (s : RuleSet) (t : Tables) (c : ChainId) :
    (s.ready t c).lane c = s.readyLane c (t.lane c) := by
  unfold ready readyLane
  split
  · exact t.lane_retire_self c
  · exact t.lane_prepare_self c

theorem lane_foldl_ready (s : RuleSet) {chains : List ChainId} (hnodup : chains.Nodup)
    (t : Tables) (d : ChainId) : (chains.foldl s.ready t).lane d =
      if d ∈ chains then s.readyLane d (t.lane d) else t.lane d :=
  Tables.lane_foldl s.lane_ready_self s.contents_ready_of_not_inLane hnodup t d

/-- Readying one chain changes no calls for another one. -/
theorem readying_ready (s : RuleSet) (t : Tables) {c d : ChainId} (h : c ≠ d) :
    s.readying (s.ready t c) d = s.readying t d := by
  have hname : ¬ c.InLane d.family d.name := fun hin => h ((c.inLane_name d).mp hin)
  unfold readying Tables.retirement
  rw [contents_ready_of_not_inLane s t c _ _ hname]

theorem readying_flatMap_ready (s : RuleSet) (t : Tables) {c : ChainId} {chains : List ChainId}
    (h : c ∉ chains) :
    chains.flatMap (s.readying (s.ready t c)) = chains.flatMap (s.readying t) := by
  unfold List.flatMap
  congr 1
  apply List.map_congr_left
  intro d hd
  exact s.readying_ready t fun heq => h (heq ▸ hd)

theorem readying_subset (s : RuleSet) (t : Tables) (c : ChainId) :
    s.readying t c ⊆ c.preparation := by
  unfold readying Tables.retirement ChainId.preparing ChainId.preparation
  split
  · split <;> simp
  · simp

theorem action_ne_append {c : ChainId} {q : FilterCall} (h : q ∈ c.preparation)
    (args : List String) : q.action ≠ .ensureRule .append args := by
  simp only [ChainId.preparation, List.mem_cons, List.not_mem_nil, or_false] at h
  rcases h with rfl | rfl | rfl | rfl | rfl <;> simp [ChainId.call, ChainId.builtinCall]

/-!
# Readying chain after chain
-/

/-- The chains were readied one after the other, up to the first call that failed. -/
inductive Readies (s : RuleSet) :
    Tables -> List ChainId -> Transcript -> Except ProvisionError Unit -> Prop where
  | done (t : Tables) : Readies s t [] [] (.ok ())
  | next {t : Tables} {c : ChainId} {rest : List ChainId} {first log : Transcript}
      {result : Except ProvisionError Unit} : first.Serves (s.readying t c) ->
      Readies s (s.ready t c) rest log result -> Readies s t (c :: rest) (first ++ log) result
  | failed {t : Tables} {c : ChainId} {rest : List ChainId} {log : Transcript}
      {e : FilterError} : Transcript.Follows (s.readying t c) log (.error e) ->
      Readies s t (c :: rest) log (.error (.chain c e))

variable {s : RuleSet} {t u : Tables} {chains others : List ChainId} {first log : Transcript}
  {result : Except ProvisionError Unit}

theorem Readies.append (h : Readies s t chains first result) (hresult : result = .ok ())
    {last : Except ProvisionError Unit}
    (hrest : Readies s (chains.foldl s.ready t) others log last) :
    Readies s t (chains ++ others) (first ++ log) last := by
  induction h with
  | done t => exact hrest
  | @next t c rest first' log' _ hserves _ ih =>
      rw [List.append_assoc]
      exact .next hserves (ih hresult hrest)
  | failed h => cases hresult

theorem Readies.append_failed (h : Readies s t chains log result) {e : ProvisionError}
    (hresult : result = .error e) (others : List ChainId) :
    Readies s t (chains ++ others) log result := by
  induction h with
  | done t => cases hresult
  | next hserves _ ih => exact .next hserves (ih hresult)
  | failed h => exact .failed h

/-- All calls were made and succeeded. -/
theorem Readies.serves (h : Readies s t chains log result) (hresult : result = .ok ())
    (hnodup : chains.Nodup) : log.Serves (chains.flatMap (s.readying t)) := by
  induction h with
  | done t => exact Transcript.serves_nil
  | @next t c rest first log _ hserves _ ih =>
      obtain ⟨hc, hrest⟩ := List.nodup_cons.mp hnodup
      have hlog := ih hresult hrest
      rw [s.readying_flatMap_ready t hc] at hlog
      exact hserves.append hlog
  | failed h => cases hresult

/-- One chain was not readied.  All calls for the chains before it succeeded. -/
theorem Readies.breaks (h : Readies s t chains log result) {e : ProvisionError}
    (hresult : result = .error e) (hnodup : chains.Nodup) :
    exists before c after made q source, exists first : Transcript,
      chains = before ++ c :: after ∧ e = .chain c source ∧ log = first ++ [(q, .error source)] ∧
      first.Serves (before.flatMap (s.readying t) ++ made) ∧ made ++ [q] <+: s.readying t c := by
  induction h with
  | done t => cases hresult
  | @next t c rest served log _ hserves _ ih =>
      obtain ⟨hc, hrest⟩ := List.nodup_cons.mp hnodup
      rcases ih hresult hrest with
        ⟨before, d, after, made, q, source, first, rfl, rfl, rfl, hfirst, hprefix⟩
      have hbefore : c ∉ before := fun hmem => hc (List.mem_append_left _ hmem)
      have hd : c ≠ d := fun heq => hc (by simp [heq])
      rw [s.readying_flatMap_ready t hbefore] at hfirst
      rw [s.readying_ready t hd] at hprefix
      refine ⟨c :: before, d, after, made, q, source, served ++ first, rfl, rfl, ?_, ?_, hprefix⟩
      · rw [List.append_assoc]
      · rw [List.flatMap_cons, List.append_assoc]
        exact hserves.append hfirst
  | @failed t c rest log e h =>
      cases hresult
      rcases h.breaks rfl with ⟨made, q, first, hprefix, rfl, hserves⟩
      exact ⟨[], c, rest, made, q, e, first, rfl, rfl, rfl, hserves, hprefix⟩

/-- What the calls for some chains make of the tables. -/
theorem foldl_readying_flatMap (s : RuleSet) (t : Tables) (hnodup : chains.Nodup) :
    (chains.flatMap (s.readying t)).foldl Tables.apply t = chains.foldl s.ready t := by
  induction chains generalizing t with
  | nil => rfl
  | cons c rest ih =>
      obtain ⟨hc, hrest⟩ := List.nodup_cons.mp hnodup
      rw [List.flatMap_cons, List.foldl_append, foldl_readying, List.foldl_cons, ← ih _ hrest,
        s.readying_flatMap_ready t hc]

/-!
## The steps of the program
-/

theorem recorded_of_onChain {step : ChainId -> ExceptT FilterError FilterProgram Unit}
    {c : ChainId} (h : Tables.Recorded t (onChain step c).run log u result) :
    exists inner, Tables.Recorded t (step c).run log u inner ∧
      result = inner.mapError (ProvisionError.chain c) := by
  unfold onChain at h
  rw [ExceptT.run_adapt, Dialogue.map_eq_bind] at h
  rcases h.of_bind with ⟨first, v, inner, rest, rfl, hfirst, hrest⟩
  cases hrest with
  | done =>
      rw [List.append_nil]
      exact ⟨inner, hfirst, rfl⟩

theorem readies_of_recorded {step : ChainId -> ExceptT FilterError FilterProgram Unit}
    (hstep : forall t c, c ∈ chains -> Tables.Sequential t (step c) (s.readying t c))
    (h : Tables.Recorded t (chains.forM (onChain step)).run log u result) :
    Readies s t chains log result := by
  induction chains generalizing t log with
  | nil =>
      cases h with
      | done => exact .done _
  | cons c rest ih =>
      have hbind : Tables.Recorded t
          (onChain step c >>= fun _ => rest.forM (onChain step)).run log u result := h
      have hfollows := hstep t c List.mem_cons_self
      rcases hbind.of_run_bind with ⟨e, rfl, hfirst⟩ | ⟨first, v, a, log', rfl, hfirst, hrest⟩
      · rcases recorded_of_onChain hfirst with ⟨inner, hinner, hresult⟩
        cases inner with
        | ok a => cases hresult
        | error source =>
            cases hresult
            exact .failed (hfollows _ _ _ hinner)
      · rcases recorded_of_onChain hfirst with ⟨inner, hinner, hresult⟩
        cases inner with
        | error source => cases hresult
        | ok a =>
            have hserves := (hfollows _ _ _ hinner).serves rfl
            have hready : v = s.ready t c := by
              rw [hinner.tables, hserves.obeyed_eq, s.foldl_readying]
            subst hready
            exact .next hserves (ih (fun t d hd => hstep t d (List.mem_cons_of_mem c hd)) hrest)

theorem readies_retired (h : Tables.Recorded t (s.retired.forM (onChain retireChain)).run log u
    result) : Readies s t s.retired log result := by
  apply readies_of_recorded (fun t c hc => ?_) h
  rw [readying, if_pos (mem_retired.mp hc)]
  exact t.sequential_retireChain c

theorem readies_live (h : Tables.Recorded t (s.live.forM (onChain prepareChain)).run log u
    result) : Readies s t s.live log result := by
  apply readies_of_recorded (fun t c hc => ?_) h
  rw [readying, if_neg (mem_live.mp hc)]
  exact t.sequential_prepareChain c

/-- All chains in the order in which they are readied. -/
def order (s : RuleSet) : List ChainId :=
  s.retired ++ s.live

theorem nodup_order (s : RuleSet) : s.order.Nodup := by
  refine List.nodup_append.mpr ⟨s.nodup_retired, s.nodup_live, ?_⟩
  rintro c hretired d hlive rfl
  exact mem_live.mp hlive (mem_retired.mp hretired)

theorem mem_order (s : RuleSet) (c : ChainId) : c ∈ s.order := by
  by_cases h : s.rules c = []
  · exact List.mem_append_left _ (mem_retired.mpr h)
  · exact List.mem_append_right _ (mem_live.mpr h)

/-- A run readies its chains, and if it can, it adds its rules. -/
theorem readies_of_program {outcome : Outcome}
    (h : Tables.Recorded t s.program.run log u outcome) :
    (exists e, outcome = .error e ∧ Readies s t s.order log (.error e)) ∨
      exists first rest report, outcome = .ok report ∧ log = first ++ rest ∧
        Readies s t s.order first (.ok ()) ∧
        Tables.Recorded (s.order.foldl s.ready t) (installAll {} s.installations) rest u
          report := by
  rcases h.of_run_bind with ⟨e, rfl, hretire⟩ | ⟨first, v, _, log', rfl, hretire, hrest⟩
  · exact Or.inl ⟨e, rfl, (readies_retired hretire).append_failed rfl s.live⟩
  · have hretired := readies_retired hretire
    have hv : v = s.retired.foldl s.ready t := by
      rw [hretire.tables, (hretired.serves rfl s.nodup_retired).obeyed_eq,
        s.foldl_readying_flatMap t s.nodup_retired]
    subst hv
    rcases hrest.of_run_bind with ⟨e, rfl, hprepare⟩ | ⟨second, w, _, rest, rfl, hprepare, hinstall⟩
    · exact Or.inl ⟨e, rfl, hretired.append rfl (readies_live hprepare)⟩
    · have hlive := readies_live hprepare
      have hw : w = s.order.foldl s.ready t := by
        rw [hprepare.tables, (hlive.serves rfl s.nodup_live).obeyed_eq,
          s.foldl_readying_flatMap _ s.nodup_live, order, List.foldl_append]
      subst hw
      rw [ExceptT.run_lift, Dialogue.map_eq_bind] at hinstall
      rcases hinstall.of_bind with ⟨installed, x, report, last, rfl, hinstalled, hlast⟩
      cases hlast with
      | done =>
          exact Or.inr ⟨first ++ second, installed, report, rfl, by simp,
            hretired.append rfl hlive, hinstalled⟩

end RuleSet

end PodIsolation
