import PodIsolation.Filter.Table
import PodIsolation.Proofs.MapLookup
import PodIsolation.Provision.Basic

/-!
# Contents of chains

## What a call does to a chain

A call changes at most the chain that it names, in the tables of its family.
Its effect on that chain is a function of what the chain held before, and all
that provisioning does is described chain by chain.
-/

namespace PodIsolation

/-- What a chain holds: its rules in order, or nothing if there is no such chain. -/
abbrev Contents := Option (List (List String))

/-- The rules of a chain; a chain that does not exist has none. -/
abbrev Contents.rules (contents : Contents) : List (List String) :=
  contents.getD []

/-- The effect of an action on the chain that it names. -/
def FilterAction.effect : FilterAction -> Contents -> Contents
  | .hasChain, contents => contents
  | .ensureChain, contents => some (contents.getD [])
  | .flushChain, _ => some []
  | .ensureRule position args, contents =>
      if (contents.getD []).contains args then contents
      else some (Table.place position args (contents.getD []))
  | .deleteRule args, contents => contents.map fun rules => rules.erase args

@[simp] theorem FilterAction.effect_hasChain (contents : Contents) :
    hasChain.effect contents = contents := rfl

@[simp] theorem FilterAction.effect_ensureChain (contents : Contents) :
    ensureChain.effect contents = some (contents.getD []) := rfl

@[simp] theorem FilterAction.effect_flushChain (contents : Contents) :
    flushChain.effect contents = some [] := rfl

theorem FilterAction.effect_ensureRule (position : Position) (args : List String)
    (contents : Contents) :
    (ensureRule position args).effect contents =
      if args ∈ contents.getD [] then contents
      else some (Table.place position args (contents.getD [])) := by
  simp [effect]

namespace Contents

theorem rules_append (contents : Contents) (args : List String) :
    ((FilterAction.ensureRule .append args).effect contents).rules =
      if args ∈ contents.rules then contents.rules else contents.rules ++ [args] := by
  rw [FilterAction.effect_ensureRule]
  split <;> rfl

theorem mem_rules_append {contents : Contents} {args args' : List String} :
    args' ∈ ((FilterAction.ensureRule .append args).effect contents).rules <->
      args' ∈ contents.rules ∨ args' = args := by
  rw [rules_append]
  split
  · rename_i hmem
    constructor
    · exact Or.inl
    · intro h
      rcases h with h | rfl
      · exact h
      · exact hmem
  · simp

theorem isSome_append {contents : Contents} (args : List String)
    (h : contents.isSome) :
    ((FilterAction.ensureRule .append args).effect contents).isSome := by
  rw [FilterAction.effect_ensureRule]
  split
  · exact h
  · rfl

theorem rules_insert (contents : Contents) (args : List String) :
    ((FilterAction.ensureRule (.insert 1) args).effect contents).rules =
      if args ∈ contents.rules then contents.rules else args :: contents.rules := by
  rw [FilterAction.effect_ensureRule]
  split <;> simp [rules, Table.place]

theorem mem_rules_insert {contents : Contents} {args args' : List String}
    (h : args' ∈ contents.rules) :
    args' ∈ ((FilterAction.ensureRule (.insert 1) args).effect contents).rules := by
  rw [rules_insert]
  split
  · exact h
  · exact List.mem_cons_of_mem _ h

theorem rules_delete (contents : Contents) (args : List String) :
    ((FilterAction.deleteRule args).effect contents).rules = contents.rules.erase args := by
  cases contents <;> simp [FilterAction.effect]

end Contents

theorem Table.get?_apply (t : Table) (chain name : String) (action : FilterAction) :
    (t.apply chain action).get? name =
      if name = chain then action.effect (t.get? name) else t.get? name := by
  by_cases hname : name = chain
  · subst hname
    cases action with
    | hasChain => simp [Table.apply, FilterAction.effect]
    | ensureChain =>
        cases hchain : t.get? name <;>
          simp [Table.apply, FilterAction.effect, SortedMap.contains, hchain]
    | flushChain => simp [Table.apply, FilterAction.effect]
    | ensureRule position args =>
        by_cases hmem : args ∈ (t.get? name).getD []
        · simp [Table.apply, Table.ensureRule, Table.rules, FilterAction.effect, hmem]
        · simp [Table.apply, Table.ensureRule, Table.rules, FilterAction.effect, hmem]
    | deleteRule args =>
        cases hchain : t.get? name <;>
          simp [Table.apply, Table.deleteRule, FilterAction.effect, hchain]
  · cases action with
    | hasChain => simp [Table.apply, hname]
    | ensureChain =>
        by_cases hchain : t.contains chain = true <;> simp [Table.apply, hchain, hname]
    | flushChain => simp [Table.apply, hname]
    | ensureRule position args =>
        by_cases hmem : args ∈ t.rules chain <;>
          simp [Table.apply, Table.ensureRule, hmem, hname]
    | deleteRule args =>
        cases hchain : t.get? chain <;>
          simp [Table.apply, Table.deleteRule, hchain, hname]

namespace Tables

def contents (t : Tables) (f : Family) (name : String) : Contents :=
  (t.get f).get? name

theorem ext {t u : Tables} (h : forall f name, t.contents f name = u.contents f name) :
    t = u := by
  rcases t with ⟨v4, v6⟩
  rcases u with ⟨w4, w6⟩
  have h4 : v4 = w4 := SortedMap.ext (h .v4)
  have h6 : v6 = w6 := SortedMap.ext (h .v6)
  rw [h4, h6]

@[simp] theorem contents_empty (f : Family) (name : String) :
    contents {} f name = none := by
  cases f <;> rfl

theorem contents_apply (t : Tables) (c : FilterCall) (f : Family) (name : String) :
    (t.apply c).contents f name =
      if f = c.family ∧ name = c.chain then c.action.effect (t.contents f name)
      else t.contents f name := by
  unfold contents apply
  rw [get_set]
  by_cases hf : f = c.family
  · subst hf
    simp [Table.get?_apply]
  · simp [hf]

end Tables

/-!
# The chains of a direction

Of each family and direction, provisioning handles two chains: the chain that
holds the rules of the workload, and the built-in chain that jumps to it.  Here
they are the own chain and the gate.
-/

namespace ChainId

@[simp] theorem name_inj {c d : ChainId} : c.name = d.name <-> c = d := by
  rcases c with ⟨_ | _, _ | _⟩ <;> rcases d with ⟨_ | _, _ | _⟩ <;> decide

@[simp] theorem name_ne_builtin (c d : ChainId) : c.name ≠ d.builtin := by
  rcases c with ⟨_ | _, _ | _⟩ <;> rcases d with ⟨_ | _, _ | _⟩ <;> decide

@[simp] theorem builtin_ne_name (c d : ChainId) : c.builtin ≠ d.name :=
  (name_ne_builtin d c).symm

@[simp] theorem name_ne_forward (c : ChainId) : c.name ≠ forwardChain := by
  rcases c with ⟨_ | _, _ | _⟩ <;> decide

@[simp] theorem builtin_ne_forward (c : ChainId) : c.builtin ≠ forwardChain := by
  rcases c with ⟨_ | _, _ | _⟩ <;> decide

theorem nodup_all : all.Nodup := by
  decide

end ChainId

namespace Tables

/-- The own chain of a direction and its gate. -/
def lane (t : Tables) (c : ChainId) : Contents × Contents :=
  (t.contents c.family c.name, t.contents c.family c.builtin)

theorem contents_call (t : Tables) (c : ChainId) (action : FilterAction) (f : Family)
    (name : String) :
    (t.apply (c.call action)).contents f name =
      if f = c.family ∧ name = c.name then action.effect (t.contents f name)
      else t.contents f name :=
  contents_apply t (c.call action) f name

theorem contents_builtinCall (t : Tables) (c : ChainId) (action : FilterAction) (f : Family)
    (name : String) :
    (t.apply (c.builtinCall action)).contents f name =
      if f = c.family ∧ name = c.builtin then action.effect (t.contents f name)
      else t.contents f name :=
  contents_apply t (c.builtinCall action) f name

end Tables

/-- Whether a chain of the tables is one of the two of a direction. -/
def ChainId.InLane (c : ChainId) (f : Family) (name : String) : Prop :=
  f = c.family ∧ (name = c.name ∨ name = c.builtin)

namespace ChainId

theorem inLane_name (c d : ChainId) : c.InLane d.family d.name <-> c = d := by
  unfold InLane
  rcases c with ⟨_ | _, _ | _⟩ <;> rcases d with ⟨_ | _, _ | _⟩ <;> decide

theorem inLane_builtin (c d : ChainId) : c.InLane d.family d.builtin <-> c = d := by
  unfold InLane
  rcases c with ⟨_ | _, _ | _⟩ <;> rcases d with ⟨_ | _, _ | _⟩ <;> decide

theorem not_inLane_forward (c : ChainId) (f : Family) : ¬ c.InLane f forwardChain := by
  intro hin
  rcases hin.right with hname | hbuiltin
  · exact c.name_ne_forward hname.symm
  · exact c.builtin_ne_forward hbuiltin.symm

end ChainId

namespace Tables

theorem lane_call (t : Tables) (c : ChainId) (action : FilterAction) :
    (t.apply (c.call action)).lane c = (action.effect (t.lane c).1, (t.lane c).2) := by
  simp [lane, contents_call]

theorem lane_builtinCall (t : Tables) (c : ChainId) (action : FilterAction) :
    (t.apply (c.builtinCall action)).lane c = ((t.lane c).1, action.effect (t.lane c).2) := by
  simp [lane, contents_builtinCall]

theorem contents_call_of_not_inLane (t : Tables) (action : FilterAction) {c : ChainId}
    {f : Family} {name : String} (h : ¬ c.InLane f name) :
    (t.apply (c.call action)).contents f name = t.contents f name := by
  rw [contents_call, if_neg fun hn => h ⟨hn.left, Or.inl hn.right⟩]

theorem contents_builtinCall_of_not_inLane (t : Tables) (action : FilterAction) {c : ChainId}
    {f : Family} {name : String} (h : ¬ c.InLane f name) :
    (t.apply (c.builtinCall action)).contents f name = t.contents f name := by
  rw [contents_builtinCall, if_neg fun hb => h ⟨hb.left, Or.inr hb.right⟩]

theorem lane_eq_of_contents_eq {t u : Tables} {c d : ChainId} (hne : c ≠ d)
    (h : forall f name, ¬ c.InLane f name -> u.contents f name = t.contents f name) :
    u.lane d = t.lane d := by
  have hname : ¬ c.InLane d.family d.name := fun hin => hne ((c.inLane_name d).mp hin)
  have hbuiltin : ¬ c.InLane d.family d.builtin :=
    fun hin => hne ((c.inLane_builtin d).mp hin)
  simp [lane, h _ _ hname, h _ _ hbuiltin]

/-!
# Blank tables

Before anything is provisioned in a namespace, its built-in chains may be there
or not, but nothing is filtered yet.
-/

/-- There are no chains but built-in ones, and no rules. -/
def Blank (t : Tables) : Prop :=
  forall f name, t.contents f name = none ∨
    name ∈ [inputChain, outputChain, forwardChain] ∧ t.contents f name = some []

theorem blank_empty : Blank {} :=
  fun f name => Or.inl (contents_empty f name)

/-- The tables of a new namespace, with the built-in chains. -/
def fresh : Tables where
  v4 := SortedMap.ofList [(inputChain, []), (outputChain, []), (forwardChain, [])]
  v6 := SortedMap.ofList [(inputChain, []), (outputChain, []), (forwardChain, [])]

theorem blank_fresh : Blank fresh := by
  have hchains : forall f entry, entry ∈ (fresh.get f).entries ->
      entry.1 ∈ [inputChain, outputChain, forwardChain] ∧ entry.2 = [] := by
    intro f
    cases f <;> decide
  intro f name
  cases hname : fresh.contents f name with
  | none => exact Or.inl rfl
  | some rules =>
      obtain ⟨hbuiltin, hnil⟩ := hchains f (name, rules) (SortedMap.mem_entries.mpr hname)
      exact Or.inr ⟨hbuiltin, congrArg some hnil⟩

variable {t : Tables}

theorem Blank.rules (h : t.Blank) (f : Family) (name : String) :
    (t.contents f name).rules = [] := by
  rcases h f name with hnone | ⟨_, hnil⟩
  · rw [hnone]
    rfl
  · rw [hnil]
    rfl

theorem Blank.foreign (h : t.Blank) {f : Family} {name : String}
    (hfree : forall c, ¬ ChainId.InLane c f name) (hforward : name ≠ forwardChain) :
    t.contents f name = none := by
  rcases h f name with hnone | ⟨hbuiltin, _⟩
  · exact hnone
  · simp only [List.mem_cons, List.not_mem_nil, or_false] at hbuiltin
    rcases hbuiltin with rfl | rfl | rfl
    · exact absurd ⟨rfl, Or.inr rfl⟩ (hfree ⟨.ingress, f⟩)
    · exact absurd ⟨rfl, Or.inr rfl⟩ (hfree ⟨.egress, f⟩)
    · exact absurd rfl hforward

end Tables

end PodIsolation
