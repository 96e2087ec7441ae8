import PodIsolation.Iptables.Driver
import PodIsolation.Proofs.Convergence
import PodIsolation.Proofs.LaneInvariant
import PodIsolation.Text.Numeral

/-!
# Provisioning by command

## The packet filter and the programs that drive it

A run that drives the packet filter by commands ends as a run that is answered
by the packet filter itself.  A check may say no by its exit code, but a change
that fails would end up in the outcome, so the point is that no change fails:
each chain that is emptied or added to exists at that time.
-/

namespace PodIsolation

/-!
# Faithful programs

What a program of the packet filter does to a table is known for the seven
operations that are used, in the form in which they are used.  Nothing is said
about any other command line.
-/

namespace Table

/-- Rules are compared as lists of texts. -/
local instance lawfulRules : LawfulBEq (List String) := inferInstance

/-- The table after an operation on a chain, and the exit code. -/
def execute (t : Table) (operation chain : String) (rest : List String) :
    Option (Table × Nat) :=
  match operation, rest with
  | "-L", ["-n"] => some (t, if t.contains chain then 0 else 1)
  | "-N", [] => some (if t.contains chain then (t, 1) else (t.insert chain [], 0))
  | "-F", [] => some (if t.contains chain then (t.insert chain [], 0) else (t, 1))
  | "-C", rule => some (t, if rule ∈ t.rules chain then 0 else 1)
  | "-A", rule =>
      some (if t.contains chain then (t.insert chain (t.rules chain ++ [rule]), 0) else (t, 1))
  | "-I", position :: rule =>
      if t.contains chain then
        match Numeral.decimal? position.toList with
        | some (n + 1) =>
            if n ≤ (t.rules chain).length then
              some (t.insert chain ((t.rules chain).insertIdx n rule), 0)
            else none
        | _ => none
      else some (t, 1)
  | "-D", rule =>
      some (if rule ∈ t.rules chain then (t.insert chain ((t.rules chain).erase rule), 0)
        else (t, 1))
  | _, _ => none

end Table

/-- The tables of a namespace after a command line, for one family. -/
def Tables.execute (t : Tables) (f : Family) : List String -> Option (Tables × Nat)
  | "-w" :: "-t" :: "filter" :: operation :: chain :: rest =>
      ((t.get f).execute operation chain rest).map fun (table, code) => (t.set table f, code)
  | _ => none

/-- Surroundings in which commands are run. -/
abbrev Shell := Kernel -> Command -> Kernel × Option CommandResult

/-- The two programs work on the tables of the namespace that is current. -/
structure FilterPrograms.Faithful (p : FilterPrograms) (shell : Shell) : Prop where
  ended {k : Kernel} {path : String} {f : Family} {args : List String} {t : Tables} {code : Nat} :
    k.current = some path -> (k.tables path).execute f args = some (t, code) ->
    exists stderr, (shell k ⟨p.get f, args⟩).2 = some (.ended (.code code) stderr)
  tables {k : Kernel} {path : String} {f : Family} {args : List String} {t : Tables} {code : Nat} :
    k.current = some path -> (k.tables path).execute f args = some (t, code) ->
    forall other, (shell k ⟨p.get f, args⟩).1.tables other =
      if other = path then t else k.tables other
  current {k : Kernel} {path : String} {f : Family} {args : List String} {t : Tables}
    {code : Nat} :
    k.current = some path -> (k.tables path).execute f args = some (t, code) ->
    (shell k ⟨p.get f, args⟩).1.current = some path

namespace Kernel

/-- The family whose program a command runs. -/
def family? (p : FilterPrograms) (c : Command) : Option Family :=
  [Family.v4, Family.v6].find? fun f => p.get f = c.program

/-- A kernel that carries out the commands itself. -/
def shell (p : FilterPrograms) : Shell := fun k c =>
  match k.current, family? p c with
  | some path, some f =>
      match (k.tables path).execute f c.args with
      | some (t, code) =>
          ({ k with namespaces := k.namespaces.insert path t }, some (.ended (.code code) []))
      | none => (k, some (.ended (.code 2) []))
  | _, _ => (k, none)

/-- Two different programs can be faithful. -/
theorem faithful_shell {p : FilterPrograms} (h : p.v4 ≠ p.v6) : p.Faithful (shell p) := by
  have hfamily : forall f args, family? p ⟨p.get f, args⟩ = some f := by
    intro f args
    cases f <;> simp [family?, FilterPrograms.get, h]
  have hshell : forall {k : Kernel} {path : String} {f : Family} {args : List String}
      {t : Tables} {code : Nat}, k.current = some path ->
      (k.tables path).execute f args = some (t, code) ->
      shell p k ⟨p.get f, args⟩ =
        ({ k with namespaces := k.namespaces.insert path t },
          some (.ended (.code code) [])) := by
    intro k path f args t code hcurrent hexecute
    simp [shell, hcurrent, hfamily, hexecute]
  constructor
  · intro k path f args t code hcurrent hexecute
    rw [hshell hcurrent hexecute]
    exact ⟨[], rfl⟩
  · intro k path f args t code hcurrent hexecute other
    rw [hshell hcurrent hexecute]
    by_cases hother : other = path <;> simp [Kernel.tables, hother]
  · intro k path f args t code hcurrent hexecute
    rw [hshell hcurrent hexecute]
    exact hcurrent

end Kernel

/-!
# Runs of commands
-/

/-- A kernel with the commands that were run on it, and how each of them ended. -/
structure Driven where
  kernel : Kernel
  runs : List (Command × Option CommandResult) := []

namespace Driven

def run (shell : Shell) (d : Driven) (c : Command) : Driven × Option CommandResult :=
  let (kernel, result) := shell d.kernel c
  ({ kernel, runs := d.runs ++ [(c, result)] }, result)

/-- A host whose packet filter runs commands, in the namespaces of a kernel. -/
def host (p : FilterPrograms) (shell : Shell) : Host Driven where
  enter d path :=
    let (kernel, result) := d.kernel.enter path
    ({ d with kernel }, result)
  leave d path := { d with kernel := d.kernel.leave path }
  filter := p.answer (run shell)

end Driven

/-- The operation of a command of the packet filter. -/
def Command.operation? (c : Command) : Option String :=
  c.args[3]?

/-- A command that only asks, or that succeeded. -/
def Command.AsksOrSucceeds (c : Command) (result : Option CommandResult) : Prop :=
  c.operation? ∈ [some "-L", some "-C"] ∨
    exists stderr, result = some (.ended (.code 0) stderr)

namespace Driven

/-- Commands have been run in one namespace, which has the given tables now. -/
structure Serves (before : Kernel) (path : String) (d : Driven) (t : Tables) : Prop where
  current : d.kernel.current = some path
  tables : forall other, d.kernel.tables other = if other = path then t else before.tables other
  runs : forall run, run ∈ d.runs -> run.1.AsksOrSucceeds run.2

/-- Commands lead from one state of the tables to another, with a result. -/
def Leads (shell : Shell) (before : Kernel) (path : String) (t : Tables)
    (x : Iptables.CommandProgram A) (u : Tables) (a : A) : Prop :=
  forall d : Driven, d.Serves before path t ->
    exists d' : Driven, Dialogue.run (run shell) d x = (d', some a) ∧ d'.Serves before path u

variable {p : FilterPrograms} {shell : Shell} {before : Kernel} {path : String}
variable {t u : Tables} {f : Family}

theorem leads_done (a : A) : Leads shell before path t (.done a) t a :=
  fun d h => ⟨d, rfl, h⟩

theorem Leads.bind {v : Tables} {x : Iptables.CommandProgram A}
    {next : A -> Iptables.CommandProgram B} {a : A} {b : B}
    (hx : Leads shell before path t x u a) (hnext : Leads shell before path u (next a) v b) :
    Leads shell before path t (x >>= next) v b := by
  intro d hd
  obtain ⟨d', hrun, hd'⟩ := hx d hd
  obtain ⟨d'', hrun', hd''⟩ := hnext d' hd'
  refine ⟨d'', ?_, hd''⟩
  rw [Dialogue.run_bind, hrun]
  exact hrun'

/-- A command of the packet filter, which is recorded. -/
theorem Serves.command {d : Driven} (h : d.Serves before path t) (hfaithful : p.Faithful shell)
    {args : List String} {code : Nat}
    (hexecute : t.execute f ("-w" :: args) = some (u, code))
    (hasks : code = 0 ∨ ("-w" :: args)[3]? ∈ [some "-L", some "-C"]) :
    exists stderr, exists d' : Driven,
      run shell d (Iptables.command (p.get f) args) =
        (d', some (.ended (.code code) stderr)) ∧ d'.Serves before path u := by
  have htables : d.kernel.tables path = t := by
    rw [h.tables, if_pos rfl]
  rw [← htables] at hexecute
  obtain ⟨stderr, hresult⟩ := hfaithful.ended h.current hexecute
  refine ⟨stderr, _, Prod.ext rfl hresult, hfaithful.current h.current hexecute, ?_, ?_⟩
  · intro other
    have hother := hfaithful.tables h.current hexecute other
    refine hother.trans ?_
    by_cases hpath : other = path
    · rw [if_pos hpath, if_pos hpath]
    · rw [if_neg hpath, if_neg hpath, h.tables, if_neg hpath]
  · intro ran hran
    rcases List.mem_append.mp hran with hran | hran
    · exact h.runs ran hran
    · rw [List.mem_singleton.mp hran]
      rcases hasks with hcode | hoperation
      · right
        rw [← hcode]
        exact ⟨stderr, hresult⟩
      · left
        exact hoperation

/-- A check that answers by its exit code. -/
theorem leads_check (hfaithful : p.Faithful shell) {args : List String} {answer : Bool}
    (hexecute : t.execute f ("-w" :: args) = some (t, if answer then 0 else 1))
    (hasks : ("-w" :: args)[3]? ∈ [some "-L", some "-C"]) :
    Leads shell before path t (Iptables.check (p.get f) args) t (.ok answer) := by
  intro d hd
  obtain ⟨stderr, d', hrun, hd'⟩ := hd.command hfaithful hexecute (.inr hasks)
  refine ⟨d', ?_, hd'⟩
  unfold Iptables.check Dialogue.run
  rw [hrun]
  cases answer <;> rfl

/-- A change that succeeds. -/
theorem leads_change (hfaithful : p.Faithful shell) {args : List String}
    (hexecute : t.execute f ("-w" :: args) = some (u, 0)) :
    Leads shell before path t (Iptables.change (p.get f) args) u (.ok true) := by
  intro d hd
  obtain ⟨stderr, d', hrun, hd'⟩ := hd.command hfaithful hexecute (.inl rfl)
  refine ⟨d', ?_, hd'⟩
  unfold Iptables.change Dialogue.run
  rw [hrun]
  rfl

/-- A check, and a change only if the answer calls for one. -/
theorem leads_changeIf {expected answer : Bool}
    {checked changed : Iptables.CommandProgram FilterReply}
    (hchecked : Leads shell before path t checked t (.ok answer))
    (hchanged : answer = expected -> Leads shell before path t changed u (.ok true))
    (hsame : answer ≠ expected -> u = t) :
    Leads shell before path t (Iptables.changeIf expected checked changed) u (.ok true) := by
  apply hchecked.bind
  by_cases hanswer : answer = expected
  · simp only [if_pos hanswer]
    exact hchanged hanswer
  · simp only [if_neg hanswer]
    rw [hsame hanswer]
    exact leads_done _

end Driven

/-!
# Calls by command

The commands of a call have the effect of the call, as long as a chain that is
to be emptied or added to exists and a rule is not put beyond the end.
-/

namespace Table

/-- What an action needs of the chain that it names. -/
def Admits (t : Table) (chain : String) : FilterAction -> Prop
  | .hasChain => True
  | .ensureChain => True
  | .flushChain => t.contains chain
  | .ensureRule .append _ => t.contains chain
  | .ensureRule (.insert n) _ => t.contains chain ∧ 1 ≤ n ∧ n ≤ (t.rules chain).length + 1
  | .deleteRule _ => True

theorem rules_of_get? {t : Table} {chain : String} {rules : List (List String)}
    (h : t.get? chain = some rules) : t.rules chain = rules := by
  unfold Table.rules
  rw [h]
  rfl

/-- Deleting a rule that is not there changes nothing. -/
theorem deleteRule_of_not_mem {t : Table} {chain : String} {args : List String}
    (h : args ∉ t.rules chain) : t.deleteRule chain args = t := by
  apply SortedMap.ext
  intro name
  unfold deleteRule
  cases hchain : t.get? chain with
  | none => rfl
  | some rules =>
      rw [rules_of_get? hchain] at h
      by_cases hname : name = chain
      · simp [hname, hchain, List.erase_of_not_mem h]
      · simp [hname]

theorem deleteRule_of_mem {t : Table} {chain : String} {args : List String}
    (h : args ∈ t.rules chain) :
    t.deleteRule chain args = t.insert chain ((t.rules chain).erase args) := by
  unfold deleteRule
  cases hchain : t.get? chain with
  | none =>
      have hrules : t.rules chain = [] := by
        unfold Table.rules
        rw [hchain]
        rfl
      rw [hrules] at h
      cases h
  | some rules => rw [rules_of_get? hchain]

theorem ensureRule_of_mem {t : Table} {chain : String} {args : List String} (position : Position)
    (h : args ∈ t.rules chain) : t.ensureRule chain position args = t := by
  simp [ensureRule, h]

theorem ensureRule_of_not_mem {t : Table} {chain : String} {args : List String}
    (position : Position) (h : args ∉ t.rules chain) :
    t.ensureRule chain position args = t.insert chain (place position args (t.rules chain)) := by
  simp [ensureRule, h]

theorem execute_append {t : Table} {chain : String} {args : List String}
    (hadmits : t.Admits chain (.ensureRule .append args)) (h : args ∉ t.rules chain) :
    t.execute "-A" chain args = some (t.ensureRule chain .append args, 0) := by
  have hcontains : t.contains chain = true := hadmits
  rw [ensureRule_of_not_mem .append h]
  change some (if t.contains chain then _ else _) = _
  rw [if_pos hcontains]
  rfl

/-- A position is spelled and read again. -/
theorem execute_insert {t : Table} {chain : String} {args : List String} {n : Nat}
    (hadmits : t.Admits chain (.ensureRule (.insert n) args)) (h : args ∉ t.rules chain) :
    t.execute "-I" chain (toString n :: args) =
      some (t.ensureRule chain (.insert n) args, 0) := by
  obtain ⟨hcontains, hpositive, hlength⟩ := hadmits
  obtain ⟨m, rfl⟩ : exists m, n = m + 1 := ⟨n - 1, by omega⟩
  have hm : m ≤ (t.rules chain).length := by omega
  have hread : Numeral.decimal? (toString (m + 1)).toList = some (m + 1) := by
    simp
  rw [ensureRule_of_not_mem (.insert (m + 1)) h]
  change (if t.contains chain then _ else _) = _
  rw [if_pos hcontains]
  simp only [hread, if_pos hm, place, Nat.add_sub_cancel, Nat.min_eq_left hm]

end Table

namespace Tables

/-- What a call needs of the tables. -/
structure Admits (t : Tables) (c : FilterCall) : Prop where
  table : c.table = filterTable
  action : (t.get c.family).Admits c.chain c.action

@[simp] theorem set_get (t : Tables) (f : Family) : t.set (t.get f) f = t := by
  cases f <;> rfl

/-- What the program of a family makes of a command line. -/
theorem execute_tableArgs (t : Tables) (f : Family) (operation chain : String)
    (rest : List String) :
    t.execute f ("-w" :: (Iptables.tableArgs filterTable operation chain ++ rest)) =
      ((t.get f).execute operation chain rest).map fun (table, code) =>
        (t.set table f, code) :=
  rfl

end Tables

namespace Driven

variable {p : FilterPrograms} {shell : Shell} {before : Kernel} {path : String}
variable {t : Tables}

/-- Whether a chain exists, asked by command. -/
theorem leads_list (hfaithful : p.Faithful shell) (t : Tables) (f : Family) (chain : String) :
    Leads shell before path t
      (Iptables.check (p.get f) (Iptables.listArgs filterTable chain)) t
      (.ok ((t.get f).contains chain)) := by
  apply leads_check hfaithful
  · rw [Iptables.listArgs, Tables.execute_tableArgs]
    simp [Table.execute]
  · exact List.mem_cons_self

/-- Whether a rule is in a chain, asked by command. -/
theorem leads_checkRule (hfaithful : p.Faithful shell) (t : Tables) (f : Family)
    (chain : String) (rule : List String) :
    Leads shell before path t
      (Iptables.check (p.get f) (Iptables.checkArgs filterTable chain rule)) t
      (.ok (decide (rule ∈ (t.get f).rules chain))) := by
  apply leads_check hfaithful
  · rw [Iptables.checkArgs, Tables.execute_tableArgs]
    simp [Table.execute]
  · exact List.mem_cons_of_mem _ List.mem_cons_self

/-- The commands of a call have its effect, and answer as it would be answered. -/
theorem leads_perform (hfaithful : p.Faithful shell) {c : FilterCall} (h : t.Admits c) :
    Leads shell before path t (Iptables.perform (p.get c.family) c) (t.apply c)
      (.ok (t.reply c)) := by
  rcases c with ⟨f, action, table, chain⟩
  obtain ⟨htable, hadmits⟩ := h
  simp only at htable hadmits
  subst htable
  cases action with
  | hasChain =>
      have hsame : t.apply ⟨f, .hasChain, filterTable, chain⟩ = t := t.set_get f
      rw [hsame]
      exact leads_list hfaithful t f chain
  | ensureChain =>
      apply leads_changeIf (leads_list hfaithful t f chain)
      · intro hmissing
        apply leads_change hfaithful
        rw [Iptables.newChainArgs, ← List.append_nil (Iptables.tableArgs _ _ _),
          Tables.execute_tableArgs]
        simp [Table.execute, Tables.apply, Table.apply, hmissing]
      · intro hexists
        have hcontains : (t.get f).contains chain = true := by simpa using hexists
        simp [Tables.apply, Table.apply, hcontains]
  | flushChain =>
      have hexists : (t.get f).contains chain = true := hadmits
      apply leads_change hfaithful
      rw [Iptables.flushArgs, ← List.append_nil (Iptables.tableArgs _ _ _),
        Tables.execute_tableArgs]
      simp [Table.execute, Tables.apply, Table.apply, hexists]
  | ensureRule position rule =>
      apply leads_changeIf (leads_checkRule hfaithful t f chain rule)
      · intro hmissing
        have hmem : rule ∉ (t.get f).rules chain := by simpa using hmissing
        apply leads_change hfaithful
        cases position with
        | append =>
            rw [Iptables.addArgs, Tables.execute_tableArgs, Table.execute_append hadmits hmem]
            rfl
        | insert n =>
            rw [Iptables.addArgs, Tables.execute_tableArgs, Table.execute_insert hadmits hmem]
            rfl
      · intro hexists
        have hmem : rule ∈ (t.get f).rules chain := by simpa using hexists
        simp [Tables.apply, Table.apply, Table.ensureRule_of_mem position hmem]
  | deleteRule rule =>
      apply leads_changeIf (leads_checkRule hfaithful t f chain rule)
      · intro hexists
        have hmem : rule ∈ (t.get f).rules chain := by simpa using hexists
        apply leads_change hfaithful
        rw [Iptables.deleteArgs, Tables.execute_tableArgs]
        simp [Table.execute, Tables.apply, Table.apply, Table.deleteRule_of_mem hmem, hmem]
      · intro hmissing
        have hmem : rule ∉ (t.get f).rules chain := by simpa using hmissing
        simp [Tables.apply, Table.apply, Table.deleteRule_of_not_mem hmem]

end Driven

/-!
# Programs by command
-/

namespace Tables

/-- Every call of a program is admitted at its time. -/
def Admitted (t : Tables) : FilterProgram A -> Prop
  | .done _ => True
  | .ask c next => t.Admits c ∧ Admitted (t.apply c) (next (.ok (t.reply c)))

/-- The whole program by command ends as the program itself. -/
theorem Admitted.leads {p : FilterPrograms} {shell : Shell} (hfaithful : p.Faithful shell)
    {before : Kernel} {path : String} {t : Tables} {x : FilterProgram A} (h : t.Admitted x)
    {d : Driven} (hd : d.Serves before path t) :
    exists d' : Driven, Dialogue.run (p.answer (Driven.run shell)) d x =
      (d', (Dialogue.run obey t x).2) ∧ d'.Serves before path (Dialogue.run obey t x).1 := by
  induction x generalizing t d with
  | done a => exact ⟨d, rfl, hd⟩
  | ask c next ih =>
      obtain ⟨hcall, hnext⟩ := h
      obtain ⟨d', hrun, hd'⟩ := Driven.leads_perform hfaithful hcall d hd
      obtain ⟨d'', hrest, hd''⟩ := ih _ hnext hd'
      have hanswer : p.answer (Driven.run shell) d c = (d', some (.ok (t.reply c))) := hrun
      refine ⟨d'', ?_, hd''⟩
      simp only [Dialogue.run, hanswer, obey]
      exact hrest

theorem admitted_pure (t : Tables) (a : A) :
    t.Admitted (pure a : ExceptT E FilterProgram A).run :=
  trivial

theorem admitted_bind {t u : Tables} {x : FilterProgram A} {next : A -> FilterProgram B} {a : A}
    (hrun : Dialogue.run obey t x = (u, some a)) (hx : t.Admitted x)
    (hnext : u.Admitted (next a)) : t.Admitted (x >>= next) := by
  induction x generalizing t with
  | done b =>
      cases hrun
      exact hnext
  | ask c rest ih => exact ⟨hx.left, ih _ hrun hx.right⟩

theorem admitted_map {t : Tables} {x : FilterProgram A} (g : A -> B) (h : t.Admitted x) :
    t.Admitted (g <$> x) := by
  induction x generalizing t with
  | done a => trivial
  | ask c next ih => exact ⟨h.left, ih _ h.right⟩

theorem admitted_onChain {t : Tables} {step : ChainId -> ExceptT FilterError FilterProgram Unit}
    {c : ChainId} (h : t.Admitted (step c).run) : t.Admitted (onChain step c).run := by
  unfold onChain
  rw [ExceptT.run_adapt]
  exact admitted_map _ h

theorem Leads.admitted_bind {t u : Tables} {x : ExceptT E FilterProgram A}
    {next : A -> ExceptT E FilterProgram B} {a : A} (hlead : Leads t x u a)
    (hx : t.Admitted x.run) (hnext : u.Admitted (next a).run) :
    t.Admitted (x >>= next).run := by
  rw [ExceptT.run_bind]
  exact Tables.admitted_bind hlead hx hnext

theorem admitted_request {t : Tables} {c : FilterCall} (h : t.Admits c) :
    t.Admitted c.request.run :=
  ⟨h, trivial⟩

theorem admitted_forM {good : Tables -> Prop} {step : ChainId -> ExceptT E FilterProgram Unit}
    {after : Tables -> ChainId -> Tables} (hlead : forall t c, Leads t (step c) (after t c) ())
    (hstep : forall t c, good t -> t.Admitted (step c).run)
    (hgood : forall t c, good t -> good (after t c))
    (chains : List ChainId) {t : Tables} (h : good t) :
    t.Admitted (chains.forM step).run := by
  induction chains generalizing t with
  | nil => exact admitted_pure t ()
  | cons c rest ih => exact (hlead t c).admitted_bind (hstep t c h) (ih (hgood t c h))

/-!
# Chains that exist

No call makes a chain disappear, so what exists once may be used from then on.
-/

theorem isSome_effect (action : FilterAction) {contents : Contents} (h : contents.isSome) :
    (action.effect contents).isSome := by
  cases action <;> simp [FilterAction.effect, h]
  split <;> simp [h]

theorem contains_apply {t : Tables} (c : FilterCall) {f : Family} {name : String}
    (h : (t.get f).contains name) : ((t.apply c).get f).contains name := by
  have hcontents : ((t.apply c).contents f name).isSome := by
    rw [contents_apply]
    split
    · exact isSome_effect c.action h
    · exact h
  exact hcontents

/-- The built-in chains exist in both families. -/
def HasBuiltins (t : Tables) : Prop :=
  forall f chain, chain ∈ [inputChain, outputChain, forwardChain] -> (t.get f).contains chain

theorem HasBuiltins.apply {t : Tables} (h : t.HasBuiltins) (c : FilterCall) :
    (t.apply c).HasBuiltins :=
  fun f chain hchain => contains_apply c (h f chain hchain)

theorem HasBuiltins.retire {t : Tables} (h : t.HasBuiltins) (c : ChainId) :
    (t.retire c).HasBuiltins := by
  unfold Tables.retire
  split
  · exact (h.apply _).apply _
  · exact h

theorem HasBuiltins.prepare {t : Tables} (h : t.HasBuiltins) (c : ChainId) :
    (t.prepare c).HasBuiltins :=
  ((h.apply _).apply _).apply _

theorem HasBuiltins.foldl {t : Tables} (h : t.HasBuiltins) {after : Tables -> ChainId -> Tables}
    (hafter : forall t c, HasBuiltins t -> HasBuiltins (after t c)) (chains : List ChainId) :
    (chains.foldl after t).HasBuiltins := by
  induction chains generalizing t with
  | nil => exact h
  | cons c rest ih => exact ih (hafter t c h)

theorem HasBuiltins.prepared {t : Tables} (h : t.HasBuiltins) (s : RuleSet) :
    (t.prepared s).HasBuiltins :=
  (h.foldl (fun _ c hu => hu.retire c) s.retired).foldl (fun _ c hu => hu.prepare c) s.live

theorem HasBuiltins.builtin {t : Tables} (h : t.HasBuiltins) (c : ChainId) :
    (t.get c.family).contains c.builtin := by
  apply h
  rcases c with ⟨_ | _, f⟩
  · exact List.mem_cons_self
  · exact List.mem_cons_of_mem _ List.mem_cons_self

/-- An own chain is emptied only if it exists. -/
theorem admitted_retireChain (t : Tables) (c : ChainId) : t.Admitted (retireChain c).run := by
  apply (leads_request t (c.call .hasChain)).admitted_bind (admitted_request ⟨rfl, trivial⟩)
  rw [apply_hasChain]
  cases hexists : t.reply (c.call .hasChain) with
  | false => exact admitted_pure t ()
  | true =>
      apply (leads_request t (c.call .flushChain)).admitted_bind
      · exact admitted_request ⟨rfl, hexists⟩
      · exact (leads_request _ _).admitted_bind (admitted_request ⟨rfl, trivial⟩)
          (admitted_pure _ _)

/-- An own chain is made before it is emptied, and the built-in chain has a
first position. -/
theorem admitted_prepareChain {t : Tables} (h : t.HasBuiltins) (c : ChainId) :
    t.Admitted (prepareChain c).run := by
  apply (leads_request t (c.call .ensureChain)).admitted_bind (admitted_request ⟨rfl, trivial⟩)
  apply (leads_request _ (c.call .flushChain)).admitted_bind
  · have hmade : ((t.apply (c.call .ensureChain)).contents c.family c.name).isSome := by
      simp [contents_call]
    exact admitted_request ⟨rfl, hmade⟩
  · apply (leads_request _ _).admitted_bind
    · have hbuiltin := ((h.apply (c.call .ensureChain)).apply (c.call .flushChain)).builtin c
      exact admitted_request ⟨rfl, hbuiltin, Nat.le_refl 1, Nat.le_add_left 1 _⟩
    · exact admitted_pure _ _

theorem admitted_installAll {installations : List Installation} {t : Tables} (report : Report)
    (h : forall i : Installation, i ∈ installations -> (t.get i.family).contains i.chain) :
    t.Admitted (installAll report installations) := by
  induction installations generalizing t report with
  | nil => trivial
  | cons i rest ih =>
      refine ⟨⟨rfl, h i List.mem_cons_self⟩, ?_⟩
      exact ih _ fun j hj => contains_apply _ (h j (List.mem_cons_of_mem _ hj))

/-- Every rule is added to a chain that exists once the chains are prepared. -/
theorem HasBuiltins.contains_chain {t : Tables} (h : t.HasBuiltins) {s : RuleSet}
    {i : Installation} (hi : i ∈ s.installations) :
    ((t.prepared s).get i.family).contains i.chain := by
  have hbuiltins := h.prepared s
  rcases s.mem_installations hi with ⟨c, hc, hcall, -⟩ | ⟨c, hcall, -⟩ | ⟨hchain, -⟩
  · have hfamily : i.family = c.family := congrArg FilterCall.family hcall
    have hname : i.chain = c.name := congrArg FilterCall.chain hcall
    have hown : (t.prepared s).contents c.family c.name = some [] := by
      have hlane := congrArg Prod.fst (t.lane_prepared s c)
      rw [if_neg (RuleSet.mem_live.mp hc)] at hlane
      exact hlane
    rw [hfamily, hname]
    exact Option.isSome_of_eq_some hown
  · have hfamily : i.family = c.family := congrArg FilterCall.family hcall
    have hname : i.chain = c.builtin := congrArg FilterCall.chain hcall
    rw [hfamily, hname]
    exact hbuiltins.builtin c
  · apply hbuiltins
    rw [hchain]
    simp

/-- Every call of a run is admitted if the built-in chains exist at first. -/
theorem admitted_program {t : Tables} (h : t.HasBuiltins) (s : RuleSet) :
    t.Admitted s.program.run := by
  have hretire := fun t c => (leads_retireChain t c).onChain
  have hprepare := fun t c => (leads_prepareChain t c).onChain
  have hretired : HasBuiltins (s.retired.foldl retire t) :=
    h.foldl (fun _ c hu => hu.retire c) s.retired
  apply (leads_forM hretire s.retired t).admitted_bind
  · exact admitted_forM hretire (fun u c _ => admitted_onChain (admitted_retireChain u c))
      (fun _ c hu => hu.retire c) _ h
  · apply (leads_forM hprepare s.live _).admitted_bind
    · exact admitted_forM hprepare (fun u c hu => admitted_onChain (admitted_prepareChain hu c))
        (fun _ c hu => hu.prepare c) _ hretired
    · rw [ExceptT.run_lift]
      exact admitted_map _ (admitted_installAll {} fun i hi => h.contains_chain hi)

end Tables

/-!
# Runs by command

A run by command in a namespace whose built-in chains exist is compared with a
run without faults on the same kernel.
-/

namespace Driven

theorem leave_serves {before : Kernel} {path : String} {d : Driven} {t : Tables}
    (h : d.Serves before path t) (other : String) :
    (d.kernel.leave path).tables other = if other = path then t else before.tables other :=
  h.tables other

/-- A run by command has the outcome of the run, and leaves the same tables; no
command but a check fails. -/
theorem provision_refines {p : FilterPrograms} {shell : Shell} (hfaithful : p.Faithful shell)
    (k : Kernel) (s : RuleSet) (hbuiltins : (k.tables s.netns).HasBuiltins) :
    let byCommand := (host p shell).provision { kernel := k } s
    let direct := Kernel.host.provision { k with faults := [] } s
    byCommand.2 = direct.2 ∧
    (forall path, byCommand.1.kernel.tables path = direct.1.tables path) ∧
    (forall run, run ∈ byCommand.1.runs -> run.1.AsksOrSucceeds run.2) := by
  intro byCommand direct
  cases hmissing : k.missing.get? s.netns with
  | some cause =>
      -- The namespace cannot be entered, so that nothing is run.
      have hcommand : byCommand = ({ kernel := k }, some (.error (.netns s.netns cause))) := by
        simp [byCommand, Host.provision, host, Kernel.enter, hmissing]
      have hdirect : direct =
          ({ k with faults := [] }, some (.error (.netns s.netns cause))) := by
        simp [direct, Host.provision, Kernel.host, Kernel.enter, hmissing]
      rw [hcommand, hdirect]
      exact ⟨rfl, fun _ => rfl, fun run hrun => absurd hrun List.not_mem_nil⟩
  | none =>
      have hready : Kernel.Ready { k with faults := [] } s.netns := ⟨rfl, hmissing⟩
      obtain ⟨htables, -, houtcome⟩ := Kernel.provision_ready hready
      have hentered : Serves k s.netns
          { kernel := { k with current := some s.netns }.record (.enter s.netns) }
          (k.tables s.netns) := by
        refine ⟨rfl, ?_, fun run hrun => absurd hrun List.not_mem_nil⟩
        intro other
        by_cases hother : other = s.netns
        · rw [if_pos hother, hother]
          rfl
        · rw [if_neg hother]
          rfl
      obtain ⟨d, hrun, hserves⟩ :=
        (Tables.admitted_program hbuiltins s).leads hfaithful hentered
      have hlead : Dialogue.run Tables.obey (k.tables s.netns) s.program.run = _ :=
        Tables.leads_program (k.tables s.netns) s
      rw [hlead] at hrun hserves
      have hcommand : byCommand = ({ d with kernel := d.kernel.leave s.netns },
          some (.ok { installed := s.installations.length })) := by
        simp [byCommand, Host.provision, host, Kernel.enter, hmissing, hrun]
      rw [hcommand]
      refine ⟨houtcome.symm, ?_, hserves.runs⟩
      intro path
      rw [htables path]
      exact leave_serves hserves path

/-- A namespace that has the built-in chains and a chain of an earlier run. -/
theorem provision_refines_with_earlier_chain :
    let t := Tables.ofTagged [("v4 INPUT", [["-j", "DANM_INGRESS_V4"]]), ("v4 OUTPUT", []),
      ("v4 FORWARD", []), ("v4 DANM_INGRESS_V4", [["-j", "RETURN"]]),
      ("v6 INPUT", []), ("v6 OUTPUT", []), ("v6 FORWARD", [])]
    let k : Kernel := { namespaces := SortedMap.insert ∅ "/run/netns/pod" t }
    let s : RuleSet :=
      { netns := "/run/netns/pod",
        rules := fun c => if c = ⟨.egress, .v6⟩ then [{ protocol := some .udp }] else [] }
    let byCommand := (host {} (Kernel.shell {})).provision { kernel := k } s
    let after := byCommand.1.kernel.tables "/run/netns/pod"
    FilterPrograms.Faithful {} (Kernel.shell {}) ∧ (k.tables s.netns).HasBuiltins ∧
    byCommand.2 = some (.ok { installed := 14 }) ∧
    after.contents .v4 "INPUT" = some [["-i", "lo", "-j", "ACCEPT"], ["-j", "REJECT"]] ∧
    after.contents .v4 "DANM_INGRESS_V4" = some [] ∧
    after.contents .v6 "DANM_EGRESS_V6" = some [["-p", "udp", "-j", "ACCEPT"], ["-j", "RETURN"]] ∧
    (forall run, run ∈ byCommand.1.runs -> run.1.AsksOrSucceeds run.2) := by
  intro t k s
  have hfaithful : FilterPrograms.Faithful {} (Kernel.shell {}) :=
    Kernel.faithful_shell (by decide)
  have hbuiltins : (k.tables s.netns).HasBuiltins := by
    intro f chain hchain
    simp only [List.mem_cons, List.not_mem_nil, or_false] at hchain
    rcases hchain with rfl | rfl | rfl <;> cases f <;> rfl
  have hready : Kernel.Ready { k with faults := [] } s.netns := ⟨rfl, rfl⟩
  have hlength : s.installations.length = 14 := by
    decide +kernel
  have hrefines := provision_refines hfaithful k s hbuiltins
  have hdirect := Kernel.provision_ready hready
  generalize (host {} (Kernel.shell {})).provision { kernel := k } s = byCommand at hrefines ⊢
  generalize Kernel.host.provision { k with faults := [] } s = direct at hrefines hdirect
  obtain ⟨houtcome, htables, hruns⟩ := hrefines
  obtain ⟨hprovisioned, -, hreport⟩ := hdirect
  rw [hlength] at hreport
  have hafter : byCommand.1.kernel.tables "/run/netns/pod" = (k.tables s.netns).provisioned s := by
    rw [htables, hprovisioned, if_pos rfl]
  refine ⟨hfaithful, hbuiltins, ?_, ?_, ?_, ?_, hruns⟩
  · exact houtcome.trans hreport
  · rw [hafter]
    decide +kernel
  · rw [hafter]
    decide +kernel
  · rw [hafter]
    decide +kernel

end Driven

end PodIsolation
