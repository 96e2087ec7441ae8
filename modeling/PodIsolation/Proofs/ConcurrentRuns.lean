import PodIsolation.Proofs.NoWidening
import PodIsolation.Proofs.RunFootprint

/-!
# Concurrent runs

## Two runs in one network namespace

A run is not kept from starting while another one is still under way in the same
namespace.  Each call is carried out as a whole, but calls of the two runs may
alternate in any way.  Each run empties every own chain, or finds that there is
none, and from then on only rules of the two plans come into the chain.  A rule
of the first run can outlast the second one, but only if it is added after the
second run has emptied the chain.
-/

namespace PodIsolation

/-!
# Races

Two runs take turns.  The run whose turn it is makes one call, and the tables
that both share answer it.
-/

/-- One of two runs in the same network namespace. -/
inductive Turn where
  | first
  | second
deriving DecidableEq, Repr

structure Served where
  turn : Turn
  call : FilterCall
  reply : Bool
deriving DecidableEq

/-- Two runs under way in the same tables. -/
structure Race where
  tables : Tables
  runs : Turn -> FilterProgram Outcome

namespace Race

def start (t : Tables) (sets : Turn -> RuleSet) : Race where
  tables := t
  runs turn := (sets turn).program.run

def isOver (r : Race) : Bool :=
  [Turn.first, Turn.second].all fun turn =>
    match r.runs turn with
    | .done _ => true
    | .ask _ _ => false

/-- One of the runs makes its next call, which is carried out.  A run that has
come to its end makes none. -/
def step (r : Race) (turn : Turn) : Option (Served × Race) :=
  match r.runs turn with
  | .done _ => none
  | .ask q next =>
      some
        ({ turn, call := q, reply := r.tables.reply q },
          { tables := r.tables.apply q
            runs := fun other =>
              if other = turn then next (.ok (r.tables.reply q)) else r.runs other })

/-- The calls and the last tables if the runs take turns as given and both end
with the last turn. -/
def play : List Turn -> Race -> Option (List Served × Tables)
  | [], r => if r.isOver then some ([], r.tables) else none
  | turn :: rest, r =>
      (r.step turn).bind fun (e, later) =>
        (play rest later).map fun (calls, u) => (e :: calls, u)

variable {r later : Race} {turn : Turn} {turns : List Turn} {e : Served}
variable {calls : List Served} {u : Tables}

theorem step_eq_some (h : r.step turn = some (e, later)) :
    exists q next, r.runs turn = .ask q next ∧
      e = { turn, call := q, reply := r.tables.reply q } ∧
      later.tables = r.tables.apply q ∧
      later.runs turn = next (.ok (r.tables.reply q)) ∧
      forall other, other ≠ turn -> later.runs other = r.runs other := by
  unfold step at h
  split at h
  · cases h
  · rename_i q next hrun
    cases h
    exact ⟨q, next, hrun, rfl, rfl, if_pos rfl, fun other hother => if_neg hother⟩

theorem play_nil (h : r.play [] = some (calls, u)) :
    (forall turn, exists outcome, r.runs turn = .done outcome) ∧ calls = [] ∧ u = r.tables := by
  unfold play at h
  split at h
  · rename_i hover
    cases h
    refine ⟨?_, rfl, rfl⟩
    intro turn
    have hturn : turn ∈ [Turn.first, Turn.second] := by cases turn <;> decide
    have hdone := List.all_eq_true.mp hover turn hturn
    split at hdone
    · rename_i outcome hrun
      exact ⟨outcome, hrun⟩
    · cases hdone
  · cases h

theorem play_cons (h : r.play (turn :: turns) = some (calls, u)) :
    exists e later rest, r.step turn = some (e, later) ∧
      later.play turns = some (rest, u) ∧ calls = e :: rest := by
  rw [play] at h
  rcases Option.bind_eq_some_iff.mp h with ⟨⟨e, later⟩, hstep, hrest⟩
  rcases Option.map_eq_some_iff.mp hrest with ⟨⟨rest, v⟩, hplay, heq⟩
  cases heq
  exact ⟨e, later, rest, hstep, hplay, rfl⟩

end Race

/-!
# What comes into a chain

Every call is carried out.  A run brings a rule into an own chain only by adding
a rule of its plan, so what is there in the end was there before or was added.
-/

def Carried (reply : FilterReply) : Prop :=
  exists found, reply = .ok found

theorem RuleSet.Makes.mem_rules_apply {s : RuleSet} {q : FilterCall} (h : s.Makes q) (t : Tables)
    (c : ChainId) {args : List String}
    (hargs : args ∈ ((t.apply q).contents c.family c.name).rules) :
    args ∈ (t.contents c.family c.name).rules ∨
      args ∈ s.plan c ∧ q = c.call (.ensureRule .append args) := by
  by_cases hplace : c.family = q.family ∧ c.name = q.chain
  · rw [Tables.contents_apply, if_pos hplace] at hargs
    cases h with
    | @own d action hhandles =>
        have hd : d = c := (ChainId.name_inj.mp hplace.right).symm
        subst hd
        cases hhandles with
        | look => exact Or.inl hargs
        | make => exact Or.inl hargs
        | empty => cases hargs
        | fill hplan =>
            rcases Contents.mem_rules_append.mp hargs with hargs | rfl
            · exact Or.inl hargs
            · exact Or.inr ⟨hplan, rfl⟩
    | jump d | unjump d | settle d _ => exact absurd hplace.right (c.name_ne_builtin d)
    | forward f _ => exact absurd hplace.right c.name_ne_forward
  · rw [Tables.contents_apply, if_neg hplace] at hargs
    exact Or.inl hargs

namespace Race

def Provisions (sets : Turn -> RuleSet) (r : Race) : Prop :=
  forall turn, Dialogue.Within Carried (sets turn).Makes
    (fun result => forall e, result = .error e -> ChainError Carried e) (r.runs turn)

theorem provisions_start (t : Tables) (sets : Turn -> RuleSet) :
    (start t sets).Provisions sets :=
  fun turn => (sets turn).footed_program

variable {sets : Turn -> RuleSet} {r later : Race} {turn : Turn} {turns : List Turn} {e : Served}
variable {calls : List Served} {u : Tables} {c : ChainId} {args : List String}

theorem Provisions.step (h : r.Provisions sets) (hstep : r.step turn = some (e, later)) :
    later.Provisions sets ∧ (sets turn).Makes e.call := by
  rcases step_eq_some hstep with ⟨q, next, hrun, rfl, -, hnext, hothers⟩
  have hask := h turn
  rw [hrun] at hask
  cases hask with
  | ask hq hreplies =>
      refine ⟨?_, hq⟩
      intro other
      by_cases hother : other = turn
      · subst hother
        rw [hnext]
        exact hreplies _ ⟨_, rfl⟩
      · rw [hothers other hother]
        exact h other

theorem Provisions.mem_rules (h : r.Provisions sets) (hplay : r.play turns = some (calls, u))
    (hargs : args ∈ (u.contents c.family c.name).rules) :
    args ∈ (r.tables.contents c.family c.name).rules ∨
      exists turn, args ∈ (sets turn).plan c ∧
        ⟨turn, c.call (.ensureRule .append args), true⟩ ∈ calls := by
  induction turns generalizing r calls with
  | nil =>
      rcases play_nil hplay with ⟨-, -, rfl⟩
      exact Or.inl hargs
  | cons turn turns ih =>
      rcases play_cons hplay with ⟨e, later, rest, hstep, hrest, rfl⟩
      obtain ⟨hlater, hmakes⟩ := h.step hstep
      -- What is there after the first of the calls was there before, or is what it added.
      rcases ih hlater hrest with hthere | ⟨other, hplan, hadded⟩
      · rcases step_eq_some hstep with ⟨q, next, -, rfl, htables, -, -⟩
        rw [htables] at hthere
        rcases hmakes.mem_rules_apply r.tables c hthere with hthere | ⟨hplan, hq⟩
        · exact Or.inl hthere
        · refine Or.inr ⟨turn, hplan, ?_⟩
          have hcall : q = c.call (.ensureRule .append args) := hq
          rw [hcall]
          exact List.mem_cons_self
      · exact Or.inr ⟨other, hplan, List.mem_cons_of_mem e hadded⟩

end Race

/-!
# Clearing a chain

A run empties the chains that get rules, and those that get none if they exist.
-/

/-- If every call is carried out, the program is yet to empty the chain or to
find that there is no such chain. -/
inductive Clears (c : ChainId) : FilterProgram A -> Prop where
  | flush {next : FilterReply -> FilterProgram A} : Clears c (.ask (c.call .flushChain) next)
  | look {next : FilterReply -> FilterProgram A} : Clears c (next (.ok true)) ->
      Clears c (.ask (c.call .hasChain) next)
  | later {q : FilterCall} {next : FilterReply -> FilterProgram A} :
      (forall found, Clears c (next (.ok found))) -> Clears c (.ask q next)

section Clears

variable {c : ChainId}

theorem Clears.bind {x : FilterProgram A} (h : Clears c x) (f : A -> FilterProgram B) :
    Clears c (x >>= f) := by
  induction h with
  | flush => exact .flush
  | look _ ih => exact .look ih
  | later _ ih => exact .later ih

theorem Clears.of_within {allowed : FilterCall -> Prop} {post : A -> Prop} {x : FilterProgram A}
    {f : A -> FilterProgram B} (h : Dialogue.Within Carried allowed post x)
    (hf : forall a, post a -> Clears c (f a)) : Clears c (x >>= f) := by
  induction h with
  | done ha => exact hf _ ha
  | ask _ _ ih => exact .later fun found => ih _ ⟨found, rfl⟩

theorem Clears.run_bind {x : ExceptT E FilterProgram A} (h : Clears c x.run)
    (f : A -> ExceptT E FilterProgram B) : Clears c (x >>= f).run := by
  rw [ExceptT.run_bind]
  exact h.bind _

theorem Clears.after {allowed : FilterCall -> Prop} {x : ExceptT ProvisionError FilterProgram A}
    {f : A -> ExceptT ProvisionError FilterProgram B}
    (h : Footed Carried allowed (ChainError Carried) x) (hf : forall a, Clears c (f a).run) :
    Clears c (x >>= f).run := by
  rw [ExceptT.run_bind]
  apply Clears.of_within h
  intro result hresult
  cases result with
  | error e =>
      -- A failure would be that of a call, but all calls are carried out.
      rcases hresult e rfl with ⟨_, _, -, _, hcarried⟩
      cases hcarried
  | ok a => exact hf a

theorem Clears.onChain {step : ChainId -> ExceptT FilterError FilterProgram Unit} {d : ChainId}
    (h : Clears c (step d).run) : Clears c (PodIsolation.onChain step d).run := by
  unfold PodIsolation.onChain
  rw [ExceptT.run_adapt, Dialogue.map_eq_bind]
  exact h.bind _

theorem clears_forM {allowed : FilterCall -> Prop}
    {step : ChainId -> ExceptT ProvisionError FilterProgram Unit} {chains : List ChainId}
    (hc : c ∈ chains) (hself : Clears c (step c).run)
    (hstep : forall d, Footed Carried allowed (ChainError Carried) (step d)) :
    Clears c (chains.forM step).run := by
  induction chains with
  | nil => cases hc
  | cons d rest ih =>
      show Clears c (step d >>= fun _ => rest.forM step).run
      by_cases hd : c = d
      · subst hd
        exact hself.run_bind _
      · exact Clears.after (hstep d) fun _ => ih (List.mem_of_ne_of_mem hd hc)

theorem clears_retireChain (c : ChainId) : Clears c (retireChain c).run :=
  .look .flush

theorem clears_prepareChain (c : ChainId) : Clears c (prepareChain c).run :=
  .later fun _ => .flush

theorem RuleSet.clears_program (s : RuleSet) (c : ChainId) : Clears c s.program.run := by
  have hretire : forall d, Footed Carried s.Makes (ChainError Carried)
      (PodIsolation.onChain retireChain d) :=
    fun d => (footed_retireChain fun q => s.makes_preparation d).onChain
  have hprepare : forall d, Footed Carried s.Makes (ChainError Carried)
      (PodIsolation.onChain prepareChain d) :=
    fun d => (footed_prepareChain fun q => s.makes_preparation d).onChain
  unfold RuleSet.program
  by_cases hrules : s.rules c = []
  · apply Clears.run_bind
    exact clears_forM (mem_retired.mpr hrules) (clears_retireChain c).onChain hretire
  · apply Clears.after (footed_forM fun d _ => hretire d)
    intro _
    apply Clears.run_bind
    exact clears_forM (mem_live.mpr hrules) (clears_prepareChain c).onChain hprepare

end Clears

/-!
# Rules that outlast a run

From the point where a run has cleared a chain, all that the chain holds is added.
-/

def Served.Cleared (e : Served) (c : ChainId) : Prop :=
  e.call = c.call .flushChain ∨ e.call = c.call .hasChain ∧ e.reply = false

namespace Race

/-- A run clears the chain at some point, and what the chain holds in the end has
been added by one of the runs after that point. -/
def ClearedBy (sets : Turn -> RuleSet) (turn : Turn) (c : ChainId) (calls : List Served)
    (u : Tables) : Prop :=
  exists before e after, calls = before ++ e :: after ∧ e.turn = turn ∧ e.Cleared c ∧
    forall args, args ∈ (u.contents c.family c.name).rules ->
      exists adder, args ∈ (sets adder).plan c ∧
        ⟨adder, c.call (.ensureRule .append args), true⟩ ∈ after

variable {sets : Turn -> RuleSet} {r later : Race} {turn : Turn} {turns : List Turn}
variable {e : Served} {calls : List Served} {u : Tables} {c : ChainId}

theorem ClearedBy.cons (h : ClearedBy sets turn c calls u) (e : Served) :
    ClearedBy sets turn c (e :: calls) u := by
  rcases h with ⟨before, e', after, rfl, hturn, hcleared, hrules⟩
  exact ⟨e :: before, e', after, rfl, hturn, hcleared, hrules⟩

theorem Provisions.clearedBy_of_empty (h : r.Provisions sets)
    (hplay : r.play turns = some (calls, u)) (hcleared : e.Cleared c)
    (hempty : (r.tables.contents c.family c.name).rules = []) :
    ClearedBy sets e.turn c (e :: calls) u := by
  refine ⟨[], e, calls, rfl, rfl, hcleared, ?_⟩
  intro args hargs
  rcases h.mem_rules hplay hargs with hthere | hadded
  · rw [hempty] at hthere
    cases hthere
  · exact hadded

theorem step_clears (hclears : Clears c (r.runs turn)) (hstep : r.step turn = some (e, later)) :
    Clears c (later.runs turn) ∨
      e.Cleared c ∧ (later.tables.contents c.family c.name).rules = [] := by
  rcases step_eq_some hstep with ⟨q, next, hrun, rfl, htables, hnext, -⟩
  rw [hrun] at hclears
  rw [hnext, htables]
  cases hclears with
  | flush =>
      refine Or.inr ⟨Or.inl rfl, ?_⟩
      rw [Tables.contents_call, if_pos ⟨rfl, rfl⟩]
      rfl
  | look hfound =>
      cases hreply : r.tables.reply (c.call .hasChain) with
      | true => exact Or.inl hfound
      | false =>
          have hnone : r.tables.contents c.family c.name = none :=
            Option.isSome_eq_false_iff.mp hreply |> Option.isNone_iff_eq_none.mp
          refine Or.inr ⟨Or.inr ⟨rfl, rfl⟩, ?_⟩
          rw [Tables.apply_hasChain, hnone]
          rfl
  | later hreplies => exact Or.inl (hreplies _)

theorem Provisions.clearedBy (h : r.Provisions sets) (hclears : Clears c (r.runs turn))
    (hplay : r.play turns = some (calls, u)) : ClearedBy sets turn c calls u := by
  induction turns generalizing r calls with
  | nil =>
      rcases (play_nil hplay).left turn with ⟨outcome, hover⟩
      rw [hover] at hclears
      cases hclears
  | cons mover turns ih =>
      rcases play_cons hplay with ⟨e, later, rest, hstep, hrest, rfl⟩
      have hlater := (h.step hstep).left
      rcases step_eq_some hstep with ⟨q, next, -, he, -, -, hothers⟩
      by_cases hmover : mover = turn
      · subst hmover
        rcases step_clears hclears hstep with hclears | ⟨hcleared, hempty⟩
        · exact (ih hlater hclears hrest).cons e
        · have hcleared := hlater.clearedBy_of_empty hrest hcleared hempty
          rw [he] at hcleared ⊢
          exact hcleared
      · -- The other run has moved, so the program of this one is what it was.
        have hclears : Clears c (later.runs turn) := by
          rw [hothers turn (Ne.symm hmover)]
          exact hclears
        exact (ih hlater hclears hrest).cons e

/-- Two runs of rule sets in one namespace, their calls alternating in any way.
When both have ended, a rule of an own chain is a rule of the second set for that
chain, or its return, or else a rule of the first set for that chain, or its
return, which the first run added after the second run had emptied the chain or
found that it did not exist. -/
theorem mem_own_of_play (t : Tables) (sets : Turn -> RuleSet) (turns : List Turn)
    (calls : List Served) (u : Tables) (hplay : (start t sets).play turns = some (calls, u))
    (c : ChainId) :
    exists before e after, calls = before ++ e :: after ∧ e.turn = .second ∧
      (e.call = c.call .flushChain ∨ e.call = c.call .hasChain ∧ e.reply = false) ∧
      forall args, args ∈ (u.contents c.family c.name).rules ->
        args ∈ ((sets .second).rules c ++ [Rule.returning]).map Rule.args ∨
        args ∈ ((sets .first).rules c ++ [Rule.returning]).map Rule.args ∧
          ⟨.first, c.call (.ensureRule .append args), true⟩ ∈ after := by
  have hclears : Clears c ((start t sets).runs .second) := (sets .second).clears_program c
  rcases (provisions_start t sets).clearedBy hclears hplay with
    ⟨before, e, after, hcalls, hturn, hcleared, hrules⟩
  refine ⟨before, e, after, hcalls, hturn, hcleared, ?_⟩
  intro args hargs
  rcases hrules args hargs with ⟨_ | _, hplan, hadded⟩
  · exact Or.inr ⟨hplan, hadded⟩
  · exact Or.inl hplan

/-- The first run has filled its chain when the second one starts, and from then
on they alternate.  No rule of the first set is left. -/
theorem mem_own_of_play_after_filling :
    let sets : Turn -> RuleSet
      | .first => .admitting "/run/netns/pod" ⟨10, 0, 0, 5⟩
      | .second => .admitting "/run/netns/pod" ⟨10, 0, 0, 6⟩
    let turns := List.replicate 8 Turn.first ++
      (List.replicate 12 [Turn.second, .first]).flatten ++ List.replicate 8 .second
    exists calls u, (start {} sets).play turns = some (calls, u) ∧
      u.contents .v4 "DANM_INGRESS_V4" =
        some [["-s", "10.0.0.6/32", "-j", "ACCEPT"], ["-j", "RETURN"]] ∧
      exists before e after, calls = before ++ e :: after ∧ e.turn = .second ∧
        forall args, args ∈ (u.contents .v4 "DANM_INGRESS_V4").rules ->
          args ∈ [["-s", "10.0.0.6/32", "-j", "ACCEPT"], ["-j", "RETURN"]] ∨
          ⟨.first, ChainId.call ⟨.ingress, .v4⟩ (.ensureRule .append args), true⟩ ∈ after := by
  intro sets turns
  have hends : ((start {} sets).play turns).map
      (fun last => last.2.contents .v4 "DANM_INGRESS_V4") =
        some (some [["-s", "10.0.0.6/32", "-j", "ACCEPT"], ["-j", "RETURN"]]) := by
    decide +kernel
  rcases Option.map_eq_some_iff.mp hends with ⟨⟨calls, u⟩, hplay, hrules⟩
  rcases mem_own_of_play {} sets turns calls u hplay ⟨.ingress, .v4⟩ with
    ⟨before, e, after, hcalls, hturn, -, hmem⟩
  have hplan : ((sets .second).rules ⟨.ingress, .v4⟩ ++ [Rule.returning]).map Rule.args =
      [["-s", "10.0.0.6/32", "-j", "ACCEPT"], ["-j", "RETURN"]] := by
    decide +kernel
  rw [hplan] at hmem
  exact ⟨calls, u, hplay, hrules, before, e, after, hcalls, hturn,
    fun args hargs => (hmem args hargs).imp_right And.right⟩

/-- The run for an old rule set has made one call when the run for the new one
starts and comes to its end.  Then the first run goes on, and the chain is left
with the old grant alone. -/
theorem old_grant_left_by_first_run :
    let sets : Turn -> RuleSet
      | .first => .admitting "/run/netns/pod" ⟨10, 0, 0, 5⟩
      | .second => .admitting "/run/netns/pod" ⟨10, 0, 0, 6⟩
    let turns := Turn.first :: (List.replicate 20 .second ++ List.replicate 19 .first)
    (forall turn, (sets turn).Compiled ∧ (sets turn).netns = "/run/netns/pod") ∧
    exists calls u, (start {} sets).play turns = some (calls, u) ∧
      u.contents .v4 "DANM_INGRESS_V4" =
        some [["-s", "10.0.0.5/32", "-j", "ACCEPT"], ["-j", "RETURN"]] ∧
      ["-s", "10.0.0.5/32", "-j", "ACCEPT"] ∉
        ((sets .second).rules ⟨.ingress, .v4⟩ ++ [Rule.returning]).map Rule.args := by
  intro sets turns
  have hcompiled : forall turn, (sets turn).Compiled ∧ (sets turn).netns = "/run/netns/pod" := by
    intro turn
    cases turn with
    | first | second => exact ⟨RuleSet.compiled_admitting _ _, rfl⟩
  have hends : ((start {} sets).play turns).map
      (fun last => last.2.contents .v4 "DANM_INGRESS_V4") =
        some (some [["-s", "10.0.0.5/32", "-j", "ACCEPT"], ["-j", "RETURN"]]) := by
    decide +kernel
  rcases Option.map_eq_some_iff.mp hends with ⟨⟨calls, u⟩, hplay, hrules⟩
  exact ⟨hcompiled, calls, u, hplay, hrules, by decide +kernel⟩

end Race

end PodIsolation
