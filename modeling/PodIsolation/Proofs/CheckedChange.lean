import PodIsolation.Proofs.FaultlessRun
import PodIsolation.Iptables.Driver

/-!
# Changes that follow a check

## Calls that look first

A call that makes sure of a chain or a rule, or deletes a rule, runs a check first
and changes something only if the exit code of the check says that this is needed.
Any other end of the check, such as a lock that could not be had or a signal, says
nothing about the tables, and then nothing is changed: the call fails with the check
as the reason.  This holds whatever the command does and however that depends on the
commands that were run before.
-/

namespace PodIsolation

/-- The command ended by itself and with this code. -/
def CommandResult.Exits (result : CommandResult) (code : Nat) : Prop :=
  exists stderr, result = .ended (.code code) stderr

theorem CommandResult.Exits.unique {result : CommandResult} {code other : Nat}
    (h : result.Exits code) (h' : result.Exits other) : code = other := by
  rcases h with ⟨stderr, rfl⟩
  rcases h' with ⟨_, hresult⟩
  cases hresult
  rfl

/-- How commands end, each after those that were run before it. -/
abbrev Behaviour := List Command -> Command -> CommandResult

/-- Runs a command after the others. -/
def Behaviour.answer (b : Behaviour) (ran : List Command) (c : Command) :
    List Command × Option CommandResult :=
  (ran ++ [c], some (b ran c))

namespace Iptables

/-!
# Plans
-/

/-- The arguments of a check and of a change, with the exit code of the check on
which there is nothing to change and the one on which the change is due. -/
structure Plan where
  check : List String
  change : List String
  settled : Nat
  due : Nat
deriving DecidableEq, Repr

/-- The plan of a call that looks before it changes anything. -/
def plan? (c : FilterCall) : Option Plan :=
  match c.action with
  | .hasChain | .flushChain => none
  | .ensureChain =>
      some
        { check := ["-t", c.table, "-L", c.chain, "-n"]
          change := ["-t", c.table, "-N", c.chain]
          settled := 0
          due := 1 }
  | .ensureRule .append rule =>
      some
        { check := ["-t", c.table, "-C", c.chain] ++ rule
          change := ["-t", c.table, "-A", c.chain] ++ rule
          settled := 0
          due := 1 }
  | .ensureRule (.insert n) rule =>
      some
        { check := ["-t", c.table, "-C", c.chain] ++ rule
          change := ["-t", c.table, "-I", c.chain, toString n] ++ rule
          settled := 0
          due := 1 }
  | .deleteRule rule =>
      some
        { check := ["-t", c.table, "-C", c.chain] ++ rule
          change := ["-t", c.table, "-D", c.chain] ++ rule
          settled := 1
          due := 0 }

/-- The exit code by which a check gives an answer. -/
def answerCode : Bool -> Nat
  | true => 0
  | false => 1

theorem perform_eq_changeIf {c : FilterCall} {plan : Plan} (h : plan? c = some plan)
    (program : String) : exists expected,
      perform program c =
        changeIf expected (check program plan.check) (change program plan.change) ∧
      plan.due = answerCode expected ∧ plan.settled = answerCode (!expected) := by
  unfold plan? at h
  unfold perform
  split at h <;> cases h
  · rename_i haction
    exact ⟨false, by rw [haction]; rfl, rfl, rfl⟩
  · rename_i haction
    exact ⟨false, by rw [haction]; rfl, rfl, rfl⟩
  · rename_i haction
    exact ⟨false, by rw [haction]; rfl, rfl, rfl⟩
  · rename_i haction
    exact ⟨true, by rw [haction]; rfl, rfl, rfl⟩

/-!
# Failures
-/

/-- The failure names the command, by its program and its arguments, and tells how it
ended.  Of a command that could not be run, it names the program. -/
inductive Names (program : String) (args : List String) : CommandResult -> FilterError -> Prop where
  | ended (status : ExitStatus) (stderr : List Nat) :
      Names program args (.ended status stderr)
        (.failed program (" ".intercalate args) status.text (stderrText stderr))
  | notRun (cause : String) : Names program args (.notRun cause) (.notRun program cause)

variable {program : String} {args : List String}

theorem names_failure (program : String) (args : List String) (result : CommandResult) :
    Names program args result (failure program args result) := by
  cases result with
  | ended status stderr => exact .ended status stderr
  | notRun cause => exact .notRun cause

theorem Names.unique {result : CommandResult} {e e' : FilterError}
    (h : Names program args result e) (h' : Names program args result e') : e = e' := by
  cases h <;> cases h' <;> rfl

/-!
# Single commands
-/

variable (b : Behaviour) (ran : List Command)

theorem run_check (program : String) (args : List String) :
    (exists answer, (b ran (command program args)).Exits (answerCode answer) ∧
      Dialogue.run b.answer ran (check program args) =
        (ran ++ [command program args], some (.ok answer))) ∨
    ((forall answer, ¬ (b ran (command program args)).Exits (answerCode answer)) ∧
      exists e, Names program args (b ran (command program args)) e ∧
        Dialogue.run b.answer ran (check program args) =
          (ran ++ [command program args], some (.error e))) := by
  simp only [check, Dialogue.run, Behaviour.answer]
  split
  · rename_i stderr hresult
    exact Or.inl ⟨true, ⟨stderr, hresult⟩, rfl⟩
  · rename_i stderr hresult
    exact Or.inl ⟨false, ⟨stderr, hresult⟩, rfl⟩
  · rename_i hyes hno
    refine Or.inr ⟨?_, _, names_failure _ _ _, rfl⟩
    rintro (_ | _) ⟨stderr, hresult⟩
    · exact hno stderr hresult
    · exact hyes stderr hresult

theorem run_change (program : String) (args : List String) :
    ((b ran (command program args)).Exits 0 ∧
      Dialogue.run b.answer ran (change program args) =
        (ran ++ [command program args], some (.ok true))) ∨
    (¬ (b ran (command program args)).Exits 0 ∧
      exists e, Names program args (b ran (command program args)) e ∧
        Dialogue.run b.answer ran (change program args) =
          (ran ++ [command program args], some (.error e))) := by
  simp only [change, Dialogue.run, Behaviour.answer]
  split
  · rename_i stderr hresult
    exact Or.inl ⟨⟨stderr, hresult⟩, rfl⟩
  · rename_i hother
    refine Or.inr ⟨?_, _, names_failure _ _ _, rfl⟩
    rintro ⟨stderr, hresult⟩
    exact hother stderr hresult

/-!
# Whole calls
-/

/-- The ways in which a call can go: the commands that it runs, and its reply.  How
the check and the change end is given. -/
inductive Course (program : String) (plan : Plan) (checked changed : CommandResult) :
    List Command -> FilterReply -> Prop where
  | settled : checked.Exits plan.settled ->
      Course program plan checked changed [command program plan.check] (.ok true)
  | unclear {e : FilterError} : ¬ checked.Exits plan.settled -> ¬ checked.Exits plan.due ->
      Names program plan.check checked e ->
      Course program plan checked changed [command program plan.check] (.error e)
  | changed : checked.Exits plan.due -> changed.Exits 0 ->
      Course program plan checked changed
        [command program plan.check, command program plan.change] (.ok true)
  | failed {e : FilterError} : checked.Exits plan.due -> ¬ changed.Exits 0 ->
      Names program plan.change changed e ->
      Course program plan checked changed
        [command program plan.check, command program plan.change] (.error e)

theorem run_perform {c : FilterCall} {plan : Plan} (h : plan? c = some plan) (program : String) :
    exists later reply,
      Dialogue.run b.answer ran (perform program c) = (ran ++ later, some reply) ∧
      Course program plan (b ran (command program plan.check))
        (b (ran ++ [command program plan.check]) (command program plan.change)) later reply := by
  rcases perform_eq_changeIf h program with ⟨expected, hperform, hdue, hsettled⟩
  rw [hperform, changeIf, Dialogue.run_bind]
  rcases run_check b ran program plan.check with
    ⟨answer, hexits, hrun⟩ | ⟨hunclear, e, hnames, hrun⟩
  · rw [hrun]
    by_cases hanswer : answer = expected
    · subst hanswer
      rw [← hdue] at hexits
      rcases run_change b (ran ++ [command program plan.check]) program plan.change with
        ⟨hchanged, hrun'⟩ | ⟨hchanged, e, hnames, hrun'⟩
      · refine ⟨_, _, ?_, .changed hexits hchanged⟩
        simp [hrun']
      · refine ⟨_, _, ?_, .failed hexits hchanged hnames⟩
        simp [hrun']
    · have hother : answer = !expected := by
        cases answer <;> cases expected <;> simp_all
      rw [hother, ← hsettled] at hexits
      refine ⟨_, _, ?_, .settled hexits⟩
      simp [hanswer, Dialogue.run]
  · rw [hrun]
    refine ⟨_, _, ?_, .unclear ?_ ?_ hnames⟩
    · simp [Dialogue.run]
    · rw [hsettled]
      exact hunclear (!expected)
    · rw [hdue]
      exact hunclear expected

theorem due_ne_settled {c : FilterCall} {plan : Plan} (h : plan? c = some plan) :
    plan.due ≠ plan.settled := by
  rcases perform_eq_changeIf h "" with ⟨expected, -, hdue, hsettled⟩
  rw [hdue, hsettled]
  cases expected <;> decide

variable {plan : Plan} {checked changed : CommandResult} {later : List Command}
  {reply : FilterReply}

theorem Course.changes_iff (h : Course program plan checked changed later reply)
    (hplan : plan.due ≠ plan.settled) :
    later = [command program plan.check, command program plan.change] <->
      checked.Exits plan.due := by
  cases h with
  | settled hsettled =>
      simp only [List.cons.injEq, true_and, reduceCtorEq, false_iff]
      exact fun hdue => hplan (hdue.unique hsettled)
  | unclear _ hdue _ => simp [hdue]
  | changed hdue _ => simp [hdue]
  | failed hdue _ _ => simp [hdue]

theorem Course.ok_iff (h : Course program plan checked changed later reply)
    (hplan : plan.due ≠ plan.settled) :
    (exists answer, reply = .ok answer) <->
      checked.Exits plan.settled ∨ checked.Exits plan.due ∧ changed.Exits 0 := by
  cases h with
  | settled hsettled => simp [hsettled]
  | unclear hsettled hdue _ => simp [hsettled, hdue]
  | changed hdue hchanged => simp [hdue, hchanged]
  | failed hdue hchanged _ =>
      have hsettled : ¬ checked.Exits plan.settled :=
        fun hsettled => hplan (hdue.unique hsettled)
      simp [hsettled, hchanged]

theorem Course.error_iff (h : Course program plan checked changed later reply)
    (hplan : plan.due ≠ plan.settled) (e : FilterError) :
    reply = .error e <->
      (¬ checked.Exits plan.settled ∧ ¬ checked.Exits plan.due ∧
        Names program plan.check checked e) ∨
      (checked.Exits plan.due ∧ ¬ changed.Exits 0 ∧ Names program plan.change changed e) := by
  cases h with
  | settled hsettled =>
      have hdue : ¬ checked.Exits plan.due := fun hdue => hplan (hdue.unique hsettled)
      simp [hsettled, hdue]
  | unclear hsettled hdue hnames =>
      simp only [hsettled, hdue, not_false_eq_true, true_and, false_and, or_false,
        Except.error.injEq]
      exact ⟨fun heq => heq ▸ hnames, hnames.unique⟩
  | changed hdue hchanged => simp [hdue, hchanged]
  | failed hdue hchanged hnames =>
      simp only [hdue, hchanged, not_true_eq_false, not_false_eq_true, true_and, false_and,
        and_false, false_or, Except.error.injEq]
      exact ⟨fun heq => heq ▸ hnames, hnames.unique⟩

/-- Whatever the command does, a call that looks first runs its check and then nothing
else, or its change; it runs the change if and only if the check exits with the code on
which the change is due.  It succeeds if and only if the check alone settles the call or
the change exits with 0.  Every other end of the check or of the change is the error, and
names it. -/
theorem perform_cautious (b : Behaviour) (ran : List Command) (program : String)
    (c : FilterCall) (plan : Plan) (h : plan? c = some plan) :
    let checked := b ran (command program plan.check)
    let changed := b (ran ++ [command program plan.check]) (command program plan.change)
    exists later reply,
      Dialogue.run b.answer ran (perform program c) = (ran ++ later, some reply) ∧
      (later = [command program plan.check] ∨
        later = [command program plan.check, command program plan.change]) ∧
      (later = [command program plan.check, command program plan.change] <->
        checked.Exits plan.due) ∧
      ((exists answer, reply = .ok answer) <->
        checked.Exits plan.settled ∨ checked.Exits plan.due ∧ changed.Exits 0) ∧
      (forall e, reply = .error e <->
        (¬ checked.Exits plan.settled ∧ ¬ checked.Exits plan.due ∧
          Names program plan.check checked e) ∨
        (checked.Exits plan.due ∧ ¬ changed.Exits 0 ∧ Names program plan.change changed e)) := by
  intro checked changed
  rcases run_perform b ran h program with ⟨later, reply, hrun, hcourse⟩
  have hplan := due_ne_settled h
  refine ⟨later, reply, hrun, ?_, hcourse.changes_iff hplan, hcourse.ok_iff hplan,
    hcourse.error_iff hplan⟩
  cases hcourse with
  | settled _ | unclear _ _ _ => exact Or.inl rfl
  | changed _ _ | failed _ _ _ => exact Or.inr rfl

/-- The check of a first call cannot have the lock, so nothing is changed.  In a second
call the check finds no such rule, and the change is killed. -/
theorem perform_cautious_with_lock_timeout :
    let c : FilterCall :=
      { family := .v4, action := .ensureRule (.insert 1) ["-j", "DANM_INGRESS_V4"],
        chain := "INPUT" }
    let plan : Plan :=
      { check := ["-t", "filter", "-C", "INPUT", "-j", "DANM_INGRESS_V4"],
        change := ["-t", "filter", "-I", "INPUT", "1", "-j", "DANM_INGRESS_V4"],
        settled := 0, due := 1 }
    let check := command "iptables" plan.check
    let b : Behaviour := fun ran _ =>
      .ended (([.code 4, .code 1] : List ExitStatus).getD ran.length (.signal 9)) []
    plan? c = some plan ∧
      Dialogue.run b.answer [] (perform "iptables" c) =
        ([check], some (.error (.failed "iptables" "-t filter -C INPUT -j DANM_INGRESS_V4"
          "exit status: 4" ""))) ∧
      Dialogue.run b.answer [check] (perform "iptables" c) =
        ([check, check, command "iptables" plan.change],
          some (.error (.failed "iptables" "-t filter -I INPUT 1 -j DANM_INGRESS_V4"
            "signal: 9 (SIGKILL)" ""))) := by
  intro c plan check b
  have hplan : plan? c = some plan := by decide +kernel
  refine ⟨hplan, ?_, ?_⟩
  · obtain ⟨later, reply, hrun, hshape, hchanges, -, herror⟩ :=
      perform_cautious b [] "iptables" c plan hplan
    have hother : forall code, code ≠ 4 -> ¬ (b [] check).Exits code := by
      rintro code hcode ⟨_, hresult⟩
      cases hresult
      exact hcode rfl
    have hnames : Names "iptables" plan.check (b [] check)
        (.failed "iptables" "-t filter -C INPUT -j DANM_INGRESS_V4" "exit status: 4" "") := by
      have htext : " ".intercalate plan.check = "-t filter -C INPUT -j DANM_INGRESS_V4" := by
        decide +kernel
      rw [← htext]
      exact .ended (.code 4) []
    have hdue := hother plan.due (by decide)
    rw [hrun, (herror _).mpr (Or.inl ⟨hother plan.settled (by decide), hdue, hnames⟩),
      hshape.resolve_right fun hboth => hdue (hchanges.mp hboth)]
    rfl
  · obtain ⟨later, reply, hrun, -, hchanges, -, herror⟩ :=
      perform_cautious b [check] "iptables" c plan hplan
    have hdue : (b [check] check).Exits plan.due := ⟨[], rfl⟩
    have hkilled : ¬ (b [check, check] (command "iptables" plan.change)).Exits 0 := by
      rintro ⟨_, hresult⟩
      cases hresult
    have hnames : Names "iptables" plan.change (b [check, check] (command "iptables" plan.change))
        (.failed "iptables" "-t filter -I INPUT 1 -j DANM_INGRESS_V4" "signal: 9 (SIGKILL)" "") := by
      have htext : " ".intercalate plan.change = "-t filter -I INPUT 1 -j DANM_INGRESS_V4" := by
        decide +kernel
      rw [← htext]
      exact .ended (.signal 9) []
    rw [hrun, (herror _).mpr (Or.inr ⟨hdue, hkilled, hnames⟩), hchanges.mpr hdue]
    rfl

end Iptables

end PodIsolation
