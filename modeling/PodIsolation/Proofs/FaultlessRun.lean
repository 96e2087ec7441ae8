import PodIsolation.Proofs.InstalledRules
import PodIsolation.Rehearsal.Kernel

/-!
# Provisioning without faults

## The tables after a run

If every call is carried out, a provisioning run comes to its end, and the
tables it leaves are a function of the tables before.  A kernel without faults
runs exactly so in the network namespace of the rule set.
-/

namespace PodIsolation

/-!
# Runs of dialogues
-/

namespace Dialogue

theorem map_eq_bind (f : A -> B) (x : Dialogue Q R A) :
    f <$> x = x >>= fun a => Dialogue.done (f a) :=
  rfl

theorem run_bind (respond : S -> Q -> S × Option R) (s : S) (x : Dialogue Q R A)
    (f : A -> Dialogue Q R B) :
    run respond s (x >>= f) =
      match run respond s x with
      | (s, some a) => run respond s (f a)
      | (s, none) => (s, none) := by
  induction x generalizing s with
  | done a => rfl
  | ask request next ih =>
      rw [ask_bind]
      simp only [run]
      rcases respond s request with ⟨s, _ | reply⟩
      · rfl
      · exact ih reply s

/-- Surroundings that answer alike, step by step, lead to related states and to
the same result. -/
theorem run_related {rel : S -> T -> Prop} {respond : S -> Q -> S × Option R}
    {respond' : T -> Q -> T × Option R}
    (hstep : forall s t q, rel s t ->
      rel (respond s q).1 (respond' t q).1 ∧ (respond s q).2 = (respond' t q).2)
    (x : Dialogue Q R A) {s : S} {t : T} (h : rel s t) :
    rel (run respond s x).1 (run respond' t x).1 ∧
      (run respond s x).2 = (run respond' t x).2 := by
  induction x generalizing s t with
  | done a => exact ⟨h, rfl⟩
  | ask q next ih =>
      have hq := hstep s t q h
      simp only [run]
      rcases hs : respond s q with ⟨s', reply⟩
      rcases ht : respond' t q with ⟨t', reply'⟩
      rw [hs, ht] at hq
      rcases hq with ⟨hrel, hreply⟩
      simp only at hrel hreply
      subst hreply
      cases reply with
      | none => exact ⟨hrel, rfl⟩
      | some reply => exact ih reply hrel

end Dialogue

/-!
# Tables that obey

Every call is carried out and answered.
-/

namespace Tables

def obey (t : Tables) (c : FilterCall) : Tables × Option FilterReply :=
  (t.apply c, some (.ok (t.reply c)))

/-- The program leads from one state of the tables to another, with a result. -/
def Leads (t : Tables) (x : ExceptT E FilterProgram A) (u : Tables) (a : A) : Prop :=
  Dialogue.run obey t x.run = (u, some (.ok a))

theorem leads_pure (t : Tables) (a : A) :
    Leads t (pure a : ExceptT E FilterProgram A) t a :=
  rfl

theorem Leads.bind {t u v : Tables} {x : ExceptT E FilterProgram A}
    {f : A -> ExceptT E FilterProgram B} {a : A} {b : B}
    (hx : Leads t x u a) (hf : Leads u (f a) v b) : Leads t (x >>= f) v b := by
  unfold Leads at hx hf ⊢
  rw [ExceptT.run_bind, Dialogue.run_bind, hx]
  exact hf

theorem leads_request (t : Tables) (c : FilterCall) :
    Leads t c.request (t.apply c) (t.reply c) :=
  rfl

theorem Leads.onChain {t u : Tables} {step : ChainId -> ExceptT FilterError FilterProgram Unit}
    {c : ChainId} (h : Leads t (step c) u ()) : Leads t (PodIsolation.onChain step c) u () := by
  unfold Leads at h ⊢
  unfold PodIsolation.onChain
  rw [ExceptT.run_adapt, Dialogue.map_eq_bind, Dialogue.run_bind, h]
  rfl

theorem leads_forM {step : ChainId -> ExceptT E FilterProgram Unit}
    {after : Tables -> ChainId -> Tables}
    (h : forall t c, Leads t (step c) (after t c) ()) (chains : List ChainId) (t : Tables) :
    Leads t (chains.forM step) (chains.foldl after t) () := by
  induction chains generalizing t with
  | nil => exact leads_pure t ()
  | cons c rest ih => exact (h t c).bind (ih (after t c))

/-!
## The functions of a run

What a run does to the tables, one function for each part of the program.
-/

/-- Empties a chain that exists and removes the jump to it. -/
def retire (t : Tables) (c : ChainId) : Tables :=
  if (t.get c.family).contains c.name then
    (t.apply (c.call .flushChain)).apply (c.builtinCall (.deleteRule c.jumpArgs))
  else t

/-- Makes an empty chain and a jump to it. -/
def prepare (t : Tables) (c : ChainId) : Tables :=
  ((t.apply (c.call .ensureChain)).apply (c.call .flushChain)).apply
    (c.builtinCall (.ensureRule (.insert 1) c.jumpArgs))

def install (t : Tables) (installations : List Installation) : Tables :=
  installations.foldl (fun t i => t.apply i.call) t

/-- The tables before the rules of a rule set are added. -/
def prepared (t : Tables) (s : RuleSet) : Tables :=
  s.live.foldl prepare (s.retired.foldl retire t)

/-- The tables after a rule set has been provisioned without faults. -/
def provisioned (t : Tables) (s : RuleSet) : Tables :=
  (t.prepared s).install s.installations

/-- Asking for a chain changes nothing. -/
theorem apply_hasChain (t : Tables) (c : ChainId) : t.apply (c.call .hasChain) = t := by
  apply Tables.ext
  intro f name
  simp [contents_apply, ChainId.call, FilterAction.effect]

theorem leads_retireChain (t : Tables) (c : ChainId) :
    Leads t (retireChain c) (t.retire c) () := by
  apply Leads.bind (leads_request t (c.call .hasChain))
  rw [apply_hasChain]
  by_cases hexists : (t.get c.family).contains c.name = true
  · have hreply : t.reply (c.call .hasChain) = true := hexists
    rw [hreply, retire, if_pos hexists]
    exact (leads_request _ _).bind ((leads_request _ _).bind (leads_pure _ _))
  · have hreply : t.reply (c.call .hasChain) = false :=
      Bool.eq_false_iff.mpr hexists
    rw [hreply, retire, if_neg hexists]
    exact leads_pure t ()

theorem leads_prepareChain (t : Tables) (c : ChainId) :
    Leads t (prepareChain c) (t.prepare c) () :=
  (leads_request _ _).bind ((leads_request _ _).bind
    ((leads_request _ _).bind (leads_pure _ _)))

theorem run_installAll (t : Tables) (report : Report) (installations : List Installation) :
    Dialogue.run obey t (installAll report installations) =
      (t.install installations,
        some { report with installed := report.installed + installations.length }) := by
  induction installations generalizing t report with
  | nil => rfl
  | cons i rest ih =>
      simp only [installAll, Dialogue.run, obey, ih, install, List.foldl_cons, Report.record,
        List.length_cons]
      rw [Nat.add_assoc, Nat.add_comm 1]

theorem leads_program (t : Tables) (s : RuleSet) :
    Leads t s.program (t.provisioned s) { installed := s.installations.length } := by
  apply (leads_forM (fun t c => (leads_retireChain t c).onChain) s.retired t).bind
  apply (leads_forM (fun t c => (leads_prepareChain t c).onChain) s.live _).bind
  unfold Leads
  rw [ExceptT.run_lift, Dialogue.map_eq_bind, Dialogue.run_bind, run_installAll]
  simp [provisioned, prepared, Dialogue.run]

end Tables

/-!
# Chain by chain

What a run does to the chains of one direction depends on these chains alone.
-/

namespace ChainId

def retireLane (c : ChainId) : Contents × Contents -> Contents × Contents
  | (none, gate) => (none, gate)
  | (some _, gate) => (some [], (FilterAction.deleteRule c.jumpArgs).effect gate)

def prepareLane (c : ChainId) : Contents × Contents -> Contents × Contents
  | (_, gate) => (some [], (FilterAction.ensureRule (.insert 1) c.jumpArgs).effect gate)

end ChainId

namespace Tables

theorem lane_retire_self (t : Tables) (c : ChainId) :
    (t.retire c).lane c = c.retireLane (t.lane c) := by
  have hcontains : (t.get c.family).contains c.name = (t.lane c).1.isSome := rfl
  unfold retire
  rw [hcontains]
  rcases hlane : t.lane c with ⟨own, gate⟩
  cases own with
  | none => simp [hlane, ChainId.retireLane]
  | some rules => simp [ChainId.retireLane, lane_call, lane_builtinCall, hlane]

theorem contents_retire_of_not_inLane {t : Tables} {c : ChainId} {f : Family}
    {name : String} (h : ¬ c.InLane f name) :
    (t.retire c).contents f name = t.contents f name := by
  unfold retire
  split
  · rw [contents_builtinCall_of_not_inLane _ _ h, contents_call_of_not_inLane _ _ h]
  · rfl

theorem lane_prepare_self (t : Tables) (c : ChainId) :
    (t.prepare c).lane c = c.prepareLane (t.lane c) := by
  simp [prepare, ChainId.prepareLane, lane_call, lane_builtinCall]

theorem contents_prepare_of_not_inLane {t : Tables} {c : ChainId} {f : Family}
    {name : String} (h : ¬ c.InLane f name) :
    (t.prepare c).contents f name = t.contents f name := by
  unfold prepare
  rw [contents_builtinCall_of_not_inLane _ _ h, contents_call_of_not_inLane _ _ h,
    contents_call_of_not_inLane _ _ h]

/-- Steps that each handle the chains of one direction, for different directions. -/
theorem lane_foldl {step : Tables -> ChainId -> Tables}
    {effect : ChainId -> Contents × Contents -> Contents × Contents}
    (hself : forall t c, (step t c).lane c = effect c (t.lane c))
    (hother : forall t c f name, ¬ c.InLane f name ->
      (step t c).contents f name = t.contents f name)
    {chains : List ChainId} (hnodup : chains.Nodup) (t : Tables) (d : ChainId) :
    (chains.foldl step t).lane d =
      if d ∈ chains then effect d (t.lane d) else t.lane d := by
  induction chains generalizing t with
  | nil => simp
  | cons c rest ih =>
      obtain ⟨hc, hrest⟩ := List.nodup_cons.mp hnodup
      rw [List.foldl_cons, ih hrest]
      by_cases hd : c = d
      · subst hd
        simp [hc, hself]
      · have hlane := lane_eq_of_contents_eq hd (hother t c)
        simp [hlane, Ne.symm hd]

theorem contents_foldl_of_not_inLane {step : Tables -> ChainId -> Tables}
    (hother : forall t c f name, ¬ c.InLane f name ->
      (step t c).contents f name = t.contents f name)
    (chains : List ChainId) (t : Tables) {f : Family} {name : String}
    (h : forall c, ¬ ChainId.InLane c f name) :
    (chains.foldl step t).contents f name = t.contents f name := by
  induction chains generalizing t with
  | nil => rfl
  | cons c rest ih => rw [List.foldl_cons, ih, hother t c f name (h c)]

theorem contents_install (t : Tables) (installations : List Installation) (f : Family)
    (name : String) :
    (t.install installations).contents f name =
      ((installations.filter fun i => i.family = f ∧ i.chain = name).map
        fun i => i.rule.args).foldl Contents.ensureLast (t.contents f name) := by
  induction installations generalizing t with
  | nil => rfl
  | cons i rest ih =>
      have hstep : (t.apply i.call).contents f name =
          if i.family = f ∧ i.chain = name then
            Contents.ensureLast (t.contents f name) i.rule.args
          else t.contents f name := by
        rw [contents_apply]
        by_cases h : i.family = f ∧ i.chain = name
        · rw [if_pos h, if_pos ⟨h.left.symm, h.right.symm⟩]
          rfl
        · rw [if_neg h, if_neg (fun h' => h ⟨h'.left.symm, h'.right.symm⟩)]
      have hrest := ih (t.apply i.call)
      rw [hstep] at hrest
      simp only [install, List.foldl_cons] at hrest ⊢
      rw [hrest]
      by_cases h : i.family = f ∧ i.chain = name <;> simp [h]

theorem contents_provisioned (t : Tables) (s : RuleSet) (f : Family) (name : String) :
    (t.provisioned s).contents f name =
      (s.additions f name).foldl Contents.ensureLast ((t.prepared s).contents f name) :=
  contents_install _ _ f name

end Tables

/-!
# Kernels without faults

A kernel that has no faults left carries out every call in the tables of the
namespace that is current.
-/

namespace Kernel

/-- The kernel has served calls in one namespace, which has the given tables now. -/
structure Serves (before : Kernel) (path : String) (k : Kernel) (t : Tables) : Prop where
  faults : k.faults = []
  current : k.current = some path
  missing : k.missing = before.missing
  tables : k.tables path = t
  others : forall other, other ≠ path -> k.tables other = before.tables other

@[simp] theorem apply_faults (k : Kernel) (c : FilterCall) : (k.apply c).faults = k.faults := by
  unfold apply
  split <;> rfl

@[simp] theorem apply_missing (k : Kernel) (c : FilterCall) :
    (k.apply c).missing = k.missing := by
  unfold apply
  split <;> rfl

@[simp] theorem apply_current (k : Kernel) (c : FilterCall) :
    (k.apply c).current = k.current := by
  unfold apply
  split <;> simp_all

theorem tables_apply {k : Kernel} {path : String} (h : k.current = some path)
    (c : FilterCall) (other : String) :
    (k.apply c).tables other =
      if other = path then (k.tables path).apply c else k.tables other := by
  unfold apply
  rw [h]
  by_cases hother : other = path <;> simp [tables, hother]

/-- A call that meets no fault is carried out. -/
theorem filter_eq_apply {k : Kernel} {path : String} {c : FilterCall}
    (h : k.current = some path) (hstrike : Fault.strike c k.faults = none) :
    host.filter k c =
      ((k.record (.call c)).apply c, some (.ok ((k.tables path).reply c))) := by
  have hstrike' : Fault.strike c (k.record (.call c)).faults = none := hstrike
  have hcurrent : (k.record (.call c)).current = some path := h
  simp only [host, filter, hstrike', hcurrent, Option.getD_some]
  rfl

theorem serves_step {before : Kernel} {path : String} (k : Kernel) (t : Tables)
    (c : FilterCall) (h : Serves before path k t) :
    Serves before path (host.filter k c).1 (t.obey c).1 ∧
      (host.filter k c).2 = (t.obey c).2 := by
  have happly := tables_apply (k := k.record (.call c)) h.current c
  have hrecorded : forall other, (k.record (.call c)).tables other = k.tables other :=
    fun _ => rfl
  have hstrike : Fault.strike c k.faults = none := by
    rw [h.faults]
    rfl
  rw [filter_eq_apply h.current hstrike, h.tables]
  constructor
  · constructor
    · simpa [record] using h.faults
    · simpa [record] using h.current
    · simpa [record] using h.missing
    · rw [happly, if_pos rfl, hrecorded, h.tables]
      rfl
    · intro other hother
      rw [happly, if_neg hother, hrecorded]
      exact h.others other hother
  · rfl

/-- A namespace in which provisioning meets no obstacle. -/
structure Ready (k : Kernel) (path : String) : Prop where
  faults : k.faults = []
  present : k.missing.get? path = none

theorem leave_serves {before : Kernel} {path : String} {k : Kernel} {t : Tables}
    (h : Serves before path k t) (other : String) :
    (k.leave path).tables other = if other = path then t else before.tables other := by
  have hleave : (k.leave path).tables other = k.tables other := rfl
  by_cases hother : other = path
  · rw [hleave, if_pos hother, hother, h.tables]
  · rw [hleave, if_neg hother, h.others other hother]

/-- Provisioning a namespace of a kernel without faults changes the tables of
that namespace as a run in which every call is carried out. -/
theorem provision_ready {k : Kernel} {s : RuleSet} (h : k.Ready s.netns) :
    (forall other, (host.provision k s).1.tables other =
      if other = s.netns then (k.tables s.netns).provisioned s else k.tables other) ∧
      (host.provision k s).1.Ready s.netns ∧
      (host.provision k s).2 = some (.ok { installed := s.installations.length }) := by
  have hstart : Serves k s.netns ({ k with current := some s.netns }.record
      (.enter s.netns)) (k.tables s.netns) :=
    ⟨h.faults, rfl, rfl, rfl, fun _ _ => rfl⟩
  obtain ⟨hserves, hresult⟩ := Dialogue.run_related serves_step s.program.run hstart
  have hlead := Tables.leads_program (k.tables s.netns) s
  unfold Tables.Leads at hlead
  rw [hlead] at hserves hresult
  have henter : host.enter k s.netns =
      ({ k with current := some s.netns }.record (.enter s.netns), .ok ()) := by
    simp [host, enter, h.present]
  unfold Host.provision
  rw [henter]
  refine ⟨leave_serves hserves, ⟨hserves.faults, ?_⟩, hresult⟩
  have hpresent := h.present
  rw [← hserves.missing] at hpresent
  exact hpresent

/-- In a namespace that has only been created, nothing is filtered. -/
theorem blank_tables (path : String) :
    (tables { namespaces := SortedMap.ofList [(path, Tables.fresh)] } path).Blank := by
  have hcreated : tables { namespaces := SortedMap.ofList [(path, Tables.fresh)] } path =
      Tables.fresh := by
    simp [tables, SortedMap.ofList]
  rw [hcreated]
  exact Tables.blank_fresh

/-- The kernel after rule sets have been provisioned, one after the other. -/
def provisionAll (k : Kernel) (sets : List RuleSet) : Kernel :=
  sets.foldl (fun k s => (host.provision k s).1) k

theorem provisionAll_ready {k : Kernel} {path : String} (h : k.Ready path)
    {sets : List RuleSet} (hsets : forall s, s ∈ sets -> s.netns = path) :
    (k.provisionAll sets).tables path = sets.foldl Tables.provisioned (k.tables path) ∧
      (k.provisionAll sets).Ready path := by
  induction sets generalizing k with
  | nil => exact ⟨rfl, h⟩
  | cons s rest ih =>
      have hs : s.netns = path := hsets s List.mem_cons_self
      subst hs
      obtain ⟨htables, hready, -⟩ := provision_ready h
      have hrest := ih hready fun s' hs' => hsets s' (List.mem_cons_of_mem s hs')
      rw [htables, if_pos rfl] at hrest
      exact hrest

end Kernel

end PodIsolation
