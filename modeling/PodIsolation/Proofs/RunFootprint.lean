import PodIsolation.Proofs.LaneInvariant

/-!
# The footprint of a run

## Which calls provisioning can make

Whatever replies a run gets, it makes only calls of a few kinds.  They concern
the own chains of directions, the jumps to them, and the baseline, each in the
tables of its family.  All that a run leaves alone follows from the kinds of its
calls.
-/

namespace PodIsolation

/-!
# Dialogues and their requests
-/

namespace Dialogue

/-- As long as the replies are possible ones, all requests are of a kind, and so
are all results. -/
inductive Within (possible : R -> Prop) (allowed : Q -> Prop) (post : A -> Prop) :
    Dialogue Q R A -> Prop where
  | done {a : A} : post a -> Within possible allowed post (.done a)
  | ask {q : Q} {next : R -> Dialogue Q R A} : allowed q ->
      (forall reply, possible reply -> Within possible allowed post (next reply)) ->
      Within possible allowed post (.ask q next)

variable {possible : R -> Prop} {allowed : Q -> Prop}

theorem Within.bind {mid : A -> Prop} {post : B -> Prop} {x : Dialogue Q R A}
    {f : A -> Dialogue Q R B} (h : Within possible allowed mid x)
    (hf : forall a, mid a -> Within possible allowed post (f a)) :
    Within possible allowed post (x >>= f) := by
  induction h with
  | done ha => exact hf _ ha
  | ask hq _ ih => exact .ask hq ih

end Dialogue

/-!
# Programs that may fail

A program makes only calls of a kind and fails only with errors of a kind.  A
call fails with the error that it was answered.  A step for a chain names the
chain in its failure.
-/

def Footed (possible : FilterReply -> Prop) (allowed : FilterCall -> Prop) (error : E -> Prop)
    (x : ExceptT E FilterProgram A) : Prop :=
  Dialogue.Within possible allowed (fun result => forall e, result = .error e -> error e) x.run

section Footed

variable {possible : FilterReply -> Prop} {allowed : FilterCall -> Prop} {error : E -> Prop}

def CallError (possible : FilterReply -> Prop) (e : FilterError) : Prop :=
  possible (.error e)

def ChainError (possible : FilterReply -> Prop) (e : ProvisionError) : Prop :=
  exists c source, e = .chain c source ∧ possible (.error source)

theorem footed_pure (a : A) :
    Footed possible allowed error (pure a : ExceptT E FilterProgram A) :=
  .done fun _ he => by cases he

theorem Footed.bind {x : ExceptT E FilterProgram A} {f : A -> ExceptT E FilterProgram B}
    (h : Footed possible allowed error x) (hf : forall a, Footed possible allowed error (f a)) :
    Footed possible allowed error (x >>= f) := by
  unfold Footed
  rw [ExceptT.run_bind]
  apply Dialogue.Within.bind h
  intro result hresult
  cases result with
  | error e =>
      refine .done ?_
      rintro e' ⟨⟩
      exact hresult e rfl
  | ok a => exact hf a

theorem footed_request {c : FilterCall} (h : allowed c) :
    Footed possible allowed (CallError possible) c.request := by
  refine .ask h fun reply hreply => .done ?_
  rintro e rfl
  exact hreply

theorem footed_forM {step : ChainId -> ExceptT E FilterProgram Unit} {chains : List ChainId}
    (h : forall c, c ∈ chains -> Footed possible allowed error (step c)) :
    Footed possible allowed error (chains.forM step) := by
  induction chains with
  | nil => exact footed_pure ()
  | cons c rest ih =>
      exact (h c List.mem_cons_self).bind fun _ => ih fun d hd => h d (List.mem_cons_of_mem c hd)

theorem Footed.onChain {step : ChainId -> ExceptT FilterError FilterProgram Unit} {c : ChainId}
    (h : Footed possible allowed (CallError possible) (step c)) :
    Footed possible allowed (ChainError possible) (PodIsolation.onChain step c) := by
  unfold Footed PodIsolation.onChain
  rw [ExceptT.run_adapt, Dialogue.map_eq_bind]
  apply Dialogue.Within.bind h
  intro result hresult
  refine .done ?_
  intro e he
  cases result with
  | error source =>
      cases he
      exact ⟨c, source, rfl, hresult source rfl⟩
  | ok a => cases he

theorem footed_installAll {installations : List Installation}
    (h : forall i, i ∈ installations -> allowed i.call) (report : Report) :
    Footed possible allowed error (ExceptT.lift (installAll report installations)) := by
  unfold Footed
  rw [ExceptT.run_lift, Dialogue.map_eq_bind]
  induction installations generalizing report with
  | nil => exact .done fun _ he => by cases he
  | cons i rest ih =>
      exact .ask (h i List.mem_cons_self)
        fun _ _ => ih (fun j hj => h j (List.mem_cons_of_mem i hj)) _

def ChainId.preparation (c : ChainId) : List FilterCall :=
  [ c.call .hasChain, c.call .ensureChain, c.call .flushChain,
    c.builtinCall (.ensureRule (.insert 1) c.jumpArgs), c.builtinCall (.deleteRule c.jumpArgs) ]

theorem footed_retireChain {c : ChainId} (h : forall q, q ∈ c.preparation -> allowed q) :
    Footed possible allowed (CallError possible) (retireChain c) := by
  apply (footed_request (h (c.call .hasChain) (by simp [ChainId.preparation]))).bind
  intro found
  cases found with
  | false => exact footed_pure ()
  | true =>
      apply (footed_request (h (c.call .flushChain) (by simp [ChainId.preparation]))).bind
      intro _
      apply (footed_request (h (c.builtinCall (.deleteRule c.jumpArgs))
        (by simp [ChainId.preparation]))).bind
      exact fun _ => footed_pure ()

theorem footed_prepareChain {c : ChainId} (h : forall q, q ∈ c.preparation -> allowed q) :
    Footed possible allowed (CallError possible) (prepareChain c) := by
  apply (footed_request (h (c.call .ensureChain) (by simp [ChainId.preparation]))).bind
  intro _
  apply (footed_request (h (c.call .flushChain) (by simp [ChainId.preparation]))).bind
  intro _
  apply (footed_request (h (c.builtinCall (.ensureRule (.insert 1) c.jumpArgs))
    (by simp [ChainId.preparation]))).bind
  exact fun _ => footed_pure ()

end Footed

/-!
# The calls of a run

A run looks for own chains, makes, empties and fills them, has the gates jump to
them or not, and settles the gates and the forwarding with the baseline.
-/

namespace RuleSet

inductive Handles (s : RuleSet) (c : ChainId) : FilterAction -> Prop where
  | look : Handles s c .hasChain
  | make : Handles s c .ensureChain
  | empty : Handles s c .flushChain
  | fill {args : List String} : args ∈ s.plan c -> Handles s c (.ensureRule .append args)

inductive Makes (s : RuleSet) : FilterCall -> Prop where
  | own (c : ChainId) {action : FilterAction} : s.Handles c action -> Makes s (c.call action)
  | jump (c : ChainId) : Makes s (c.builtinCall (.ensureRule (.insert 1) c.jumpArgs))
  | unjump (c : ChainId) : Makes s (c.builtinCall (.deleteRule c.jumpArgs))
  | settle (c : ChainId) {args : List String} : args ∈ baselineRules c.builtin ->
      Makes s (c.builtinCall (.ensureRule .append args))
  | forward (f : Family) {args : List String} : args ∈ baselineRules forwardChain ->
      Makes s { family := f, action := .ensureRule .append args, chain := forwardChain }

variable {s : RuleSet} {possible : FilterReply -> Prop}

theorem makes_installation {i : Installation} (h : i ∈ s.installations) : s.Makes i.call := by
  rcases s.mem_installations h with ⟨c, _, hcall, hargs⟩ | ⟨c, hcall, hargs⟩ | ⟨hchain, hargs⟩
  · rw [hcall]
    exact .own c (.fill hargs)
  · rw [hcall]
    exact .settle c hargs
  · rcases i with ⟨f, chain, rule⟩
    cases hchain
    exact .forward f hargs

theorem makes_preparation (s : RuleSet) (c : ChainId) {q : FilterCall} (h : q ∈ c.preparation) :
    s.Makes q := by
  simp only [ChainId.preparation, List.mem_cons, List.not_mem_nil, or_false] at h
  rcases h with rfl | rfl | rfl | rfl | rfl
  · exact .own c .look
  · exact .own c .make
  · exact .own c .empty
  · exact .jump c
  · exact .unjump c

/-- A run makes no other calls, and inside the namespace it fails only on a chain. -/
theorem footed_program (s : RuleSet) :
    Footed possible s.Makes (ChainError possible) s.program := by
  apply Footed.bind
  · exact footed_forM fun c _ => (footed_retireChain fun q => s.makes_preparation c).onChain
  intro _
  apply Footed.bind
  · exact footed_forM fun c _ => (footed_prepareChain fun q => s.makes_preparation c).onChain
  intro _
  exact footed_installAll (fun i hi => makes_installation hi) {}

end RuleSet

/-!
# Where the calls go
-/

namespace ChainId

theorem jumpArgs_inj {c d : ChainId} (h : c.jumpArgs = d.jumpArgs) : c = d := by
  have hnames : ["-j", c.name] = ["-j", d.name] := h
  exact name_inj.mp (by simpa using hnames)

end ChainId

namespace RuleSet.Makes

variable {s : RuleSet} {q : FilterCall}

theorem table (h : s.Makes q) : q.table = filterTable := by
  cases h <;> rfl

theorem family_of_own (h : s.Makes q) {d : ChainId} (hchain : q.chain = d.name) :
    q.family = d.family := by
  cases h with
  | @own c action _ => rw [← ChainId.name_inj.mp hchain]; rfl
  | jump c | unjump c | settle c hargs => exact absurd hchain (c.builtin_ne_name d)
  | forward f hargs => exact absurd hchain.symm d.name_ne_forward

/-- Outside the own chains, a call about the jump to one goes to the gate of its
direction, in the tables of its family. -/
theorem family_of_jump (h : s.Makes q) {d : ChainId}
    (hother : forall c : ChainId, q.chain ≠ c.name) (hargs : q.action.args = d.jumpArgs) :
    q.family = d.family ∧ q.chain = d.builtin := by
  cases h with
  | @own c action _ => exact absurd rfl (hother c)
  | jump c | unjump c =>
      rw [← ChainId.jumpArgs_inj hargs]
      exact ⟨rfl, rfl⟩
  | @settle c args hmem | @forward f args hmem =>
      have heq : args = d.jumpArgs := hargs
      rw [heq] at hmem
      exact absurd hmem d.jumpArgs_not_mem_baselineRules

end RuleSet.Makes

/-!
# What the calls leave alone
-/

namespace ChainId

/-- The rules that provisioning adds to the gate of a direction, and removes
from it. -/
def gateRules (c : ChainId) : List (List String) :=
  c.jumpArgs :: baselineRules c.builtin

end ChainId

/-- The rules of a chain that are not among the given ones, in order. -/
def Contents.besides (contents : Contents) (handled : List (List String)) : List (List String) :=
  contents.rules.filter fun args => !handled.contains args

namespace Contents

variable {contents : Contents} {handled : List (List String)} {args : List String}

theorem besides_append (h : args ∈ handled) :
    ((FilterAction.ensureRule .append args).effect contents).besides handled =
      contents.besides handled := by
  unfold besides
  rw [rules_append]
  split <;> simp [h]

theorem besides_insert (h : args ∈ handled) :
    ((FilterAction.ensureRule (.insert 1) args).effect contents).besides handled =
      contents.besides handled := by
  unfold besides
  rw [rules_insert]
  split <;> simp [h]

theorem besides_delete (h : args ∈ handled) :
    ((FilterAction.deleteRule args).effect contents).besides handled =
      contents.besides handled := by
  unfold besides
  rw [rules_delete]
  generalize contents.rules = rules
  induction rules with
  | nil => rfl
  | cons head rest ih =>
      by_cases hhead : head = args
      · simp [hhead, h]
      · rw [List.erase_cons_tail (by simpa using hhead), List.filter_cons, List.filter_cons, ih]

end Contents

namespace Tables

variable {s : RuleSet} {q : FilterCall} {t : Tables}

/-- A chain that is none of a direction and not for forwarding stays as it is. -/
theorem contents_apply_foreign (h : s.Makes q) {f : Family} {name : String}
    (hlane : forall c, ¬ ChainId.InLane c f name) (hforward : name ≠ forwardChain) :
    (t.apply q).contents f name = t.contents f name := by
  cases h with
  | @own c action _ => exact contents_call_of_not_inLane t action (hlane c)
  | jump c | unjump c | settle c hargs => exact contents_builtinCall_of_not_inLane t _ (hlane c)
  | forward g hargs => rw [contents_apply, if_neg fun hplace => hforward hplace.right]

/-- In the gate of a direction only the rules of the gate come and go. -/
theorem besides_gate_apply (h : s.Makes q) (d : ChainId) :
    ((t.apply q).contents d.family d.builtin).besides d.gateRules =
      (t.contents d.family d.builtin).besides d.gateRules := by
  have hbuiltin : forall (c : ChainId) (action : FilterAction),
      (forall contents, (action.effect contents).besides c.gateRules =
        contents.besides c.gateRules) ->
      ((t.apply (c.builtinCall action)).contents d.family d.builtin).besides d.gateRules =
        (t.contents d.family d.builtin).besides d.gateRules := by
    intro c action haction
    by_cases hc : c = d
    · subst hc
      rw [contents_builtinCall, if_pos ⟨rfl, rfl⟩]
      exact haction _
    · have hin : ¬ c.InLane d.family d.builtin := fun h => hc ((c.inLane_builtin d).mp h)
      rw [contents_builtinCall_of_not_inLane t action hin]
  cases h with
  | @own c action _ => rw [contents_call, if_neg fun hplace => d.builtin_ne_name c hplace.right]
  | jump c => exact hbuiltin c _ fun _ => Contents.besides_insert List.mem_cons_self
  | unjump c => exact hbuiltin c _ fun _ => Contents.besides_delete List.mem_cons_self
  | settle c hargs =>
      exact hbuiltin c _ fun _ => Contents.besides_append (List.mem_cons_of_mem _ hargs)
  | forward f hargs =>
      rw [contents_apply, if_neg fun hplace => d.builtin_ne_forward hplace.right]

/-- Forwarding only gains rules of the baseline. -/
theorem besides_forward_apply (h : s.Makes q) (f : Family) :
    ((t.apply q).contents f forwardChain).besides (baselineRules forwardChain) =
      (t.contents f forwardChain).besides (baselineRules forwardChain) := by
  cases h with
  | @own c action _ =>
      rw [contents_call_of_not_inLane t action (c.not_inLane_forward f)]
  | jump c | unjump c | settle c hargs =>
      rw [contents_builtinCall_of_not_inLane t _ (c.not_inLane_forward f)]
  | forward g hargs =>
      rw [contents_apply]
      split
      · exact Contents.besides_append hargs
      · rfl

end Tables

end PodIsolation
