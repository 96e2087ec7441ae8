import PodIsolation.Discovery
import PodIsolation.Proofs.AnsweredRun

/-!
# Bounded retries

## Where a repeated check stops

The attempts before the one that succeeds are a check and a pause each.  The
program stops right after the first check that succeeds, and otherwise after the
check of its last attempt, which no pause follows.  This holds for every number
of attempts, every interval and every sequence of outcomes.
-/

namespace PodIsolation

/-- The check with this number is the first to succeed. -/
structure FirstSuccess (outcome : Nat -> Bool) (k : Nat) : Prop where
  pos : 0 < k
  succeeds : outcome k = true
  earlier : forall j, 0 < j -> j < k -> outcome j = false

abbrev RetryLog (D : Type) := List (RetryRequest D × Bool)

/-- The requests of attempts that fail, with their replies.  Each attempt has its pause. -/
def failedAttempts (d : D) : Nat -> RetryLog D
  | 0 => []
  | m + 1 => (.check, false) :: (.pause d, true) :: failedAttempts d m

/-!
# Single attempts
-/

variable {outcome : Nat -> Bool} {t u : RetryTally} {n a : Nat} {d : D} {later : List Nat}
  {log : RetryLog D} {found : Bool}

theorem makeAttempts_cons (n : Nat) (d : D) (a : Nat) (later : List Nat) :
    makeAttempts n d (a :: later) =
      .ask .check fun found =>
        if found then .done true
        else if a < n then .ask (.pause d) fun _ => makeAttempts n d later
        else makeAttempts n d later :=
  rfl

/-- With these outcomes the program returns, with the tally and the result, and its
requests are those of the log. -/
structure Plays (outcome : Nat -> Bool) (t : RetryTally) (x : RetryProgram D Bool)
    (log : RetryLog D) (u : RetryTally) (found : Bool) : Prop where
  run : Dialogue.run (RetryTally.answer outcome) t x = (u, some found)
  transcript : Dialogue.transcript (RetryTally.answer outcome) t x = log

theorem plays_nil (outcome : Nat -> Bool) (t : RetryTally) (n : Nat) (d : D) :
    Plays outcome t (makeAttempts n d []) [] t false :=
  ⟨rfl, rfl⟩

theorem plays_found (n : Nat) (d : D) (a : Nat) (later : List Nat)
    (hfound : outcome (t.checks + 1) = true) :
    Plays outcome t (makeAttempts n d (a :: later)) [(.check, true)]
      { t with checks := t.checks + 1 } true := by
  rw [makeAttempts_cons]
  constructor
  · simp [Dialogue.run, RetryTally.answer, hfound]
  · simp [Dialogue.transcript, RetryTally.answer, hfound]

theorem Plays.failed (hfailed : outcome (t.checks + 1) = false) (ha : a < n)
    (h : Plays outcome { checks := t.checks + 1, pauses := t.pauses + 1 }
      (makeAttempts n d later) log u found) :
    Plays outcome t (makeAttempts n d (a :: later))
      ((.check, false) :: (.pause d, true) :: log) u found := by
  rw [makeAttempts_cons]
  constructor
  · simpa [Dialogue.run, RetryTally.answer, hfailed, ha] using h.run
  · simpa [Dialogue.transcript, RetryTally.answer, hfailed, ha] using h.transcript

theorem plays_last (d : D) (hfailed : outcome (t.checks + 1) = false) :
    Plays outcome t (makeAttempts n d [n]) [(.check, false)]
      { t with checks := t.checks + 1 } false := by
  rw [makeAttempts_cons]
  constructor
  · simp [Dialogue.run, RetryTally.answer, hfailed, makeAttempts]
  · simp [Dialogue.transcript, RetryTally.answer, hfailed, makeAttempts]

/-!
# Whole runs
-/

/-- Attempts that fail, none of them the last of all, leave the rest of the program to be
played from a later tally. -/
theorem Plays.after_failures {m : Nat}
    (hfailed : forall j, t.checks < j -> j ≤ t.checks + m -> outcome j = false)
    (hlast : a + m ≤ n)
    (h : Plays outcome { checks := t.checks + m, pauses := t.pauses + m }
      (makeAttempts n d later) log u found) :
    Plays outcome t (makeAttempts n d (List.range' a m ++ later))
      (failedAttempts d m ++ log) u found := by
  -- The first attempt moves the tally and the next number on, so both are generalized.
  induction m generalizing t a with
  | zero => exact h
  | succ m ih =>
      have hfirst : outcome (t.checks + 1) = false :=
        hfailed _ (Nat.lt_succ_self _) (by omega)
      refine Plays.failed hfirst (by omega) (ih ?_ (by omega) ?_)
      · intro j hj hle
        exact hfailed j (by simp at hj; omega) (by simp at hle; omega)
      · simpa [Nat.add_assoc, Nat.add_comm 1 m] using h

theorem plays_success {k : Nat} (h : FirstSuccess outcome k) (hk : k ≤ n) (d : D) :
    Plays outcome {} (retryProgram n d) (failedAttempts d (k - 1) ++ [(.check, true)])
      { checks := k, pauses := k - 1 } true := by
  obtain ⟨m, rfl⟩ : exists m, k = m + 1 := Nat.exists_eq_add_one.mpr h.pos
  obtain ⟨r, rfl⟩ := Nat.exists_eq_add_of_le hk
  have hnumbers : List.range' 1 (m + 1 + r) =
      List.range' 1 m ++ (m + 1) :: List.range' (m + 2) r := by
    rw [Nat.add_assoc, ← List.range'_append_1, Nat.add_comm 1 r, List.range'_succ]
    simp [Nat.add_comm, Nat.add_left_comm]
  unfold retryProgram
  rw [hnumbers]
  refine Plays.after_failures ?_ (by omega) ?_
  · intro j hj hle
    exact h.earlier j hj (by simp at hle; omega)
  · simpa using plays_found (t := { checks := m, pauses := m }) (m + 1 + r) d (m + 1)
      (List.range' (m + 2) r) h.succeeds

theorem dropLast_failedAttempts (d : D) (m : Nat) :
    (failedAttempts d (m + 1)).dropLast = failedAttempts d m ++ [(.check, false)] := by
  induction m with
  | zero => rfl
  | succ m ih =>
      rw [failedAttempts, List.dropLast_cons_of_ne_nil (by simp),
        List.dropLast_cons_of_ne_nil (by simp [failedAttempts]), ih]
      rfl

theorem plays_exhausted (hfailed : forall j, 0 < j -> j ≤ n -> outcome j = false) (d : D) :
    Plays outcome {} (retryProgram n d) (failedAttempts d n).dropLast
      { checks := n, pauses := n - 1 } false := by
  cases n with
  | zero => exact plays_nil outcome {} 0 d
  | succ m =>
      have hnumbers : List.range' 1 (m + 1) = List.range' 1 m ++ [m + 1] := by
        rw [List.range'_1_concat, Nat.add_comm 1 m]
      unfold retryProgram
      rw [hnumbers, dropLast_failedAttempts]
      refine Plays.after_failures ?_ (by omega) ?_
      · intro j hj hle
        exact hfailed j hj (by simp at hle; omega)
      · have hlast : outcome (m + 1) = false := hfailed _ (Nat.succ_pos m) (Nat.le_refl _)
        simpa using plays_last (t := { checks := m, pauses := m }) d hlast

theorem firstSuccess_or_failed (outcome : Nat -> Bool) (n : Nat) :
    (exists k, FirstSuccess outcome k ∧ k ≤ n) ∨
      forall j, 0 < j -> j ≤ n -> outcome j = false := by
  induction n with
  | zero => exact Or.inr fun j hj hle => absurd hj (by omega)
  | succ n ih =>
      rcases ih with ⟨k, hk, hle⟩ | hfailed
      · exact Or.inl ⟨k, hk, Nat.le_succ_of_le hle⟩
      · cases hnext : outcome (n + 1) with
        | true =>
            have hearlier : forall j, 0 < j -> j < n + 1 -> outcome j = false :=
              fun j hj hlt => hfailed j hj (Nat.le_of_lt_succ hlt)
            exact Or.inl ⟨n + 1, ⟨Nat.succ_pos n, hnext, hearlier⟩, Nat.le_refl _⟩
        | false =>
            refine Or.inr fun j hj hle => ?_
            rcases Nat.le_succ_iff.mp hle with hle | rfl
            · exact hfailed j hj hle
            · exact hnext

/-!
# What stands where in a log
-/

/-- The last request of a program that makes an attempt is a check. -/
theorem log_ends_with_check (n : Nat) (d : D) (outcome : Nat -> Bool) :
    let log := Dialogue.transcript (RetryTally.answer outcome) {} (retryProgram n d)
    log = [] ∨ exists m found, log = failedAttempts d m ++ [(.check, found)] := by
  intro log
  rcases firstSuccess_or_failed outcome n with ⟨k, hk, hle⟩ | hfailed
  · exact Or.inr ⟨k - 1, true, (plays_success hk hle d).transcript⟩
  · have hlog := (plays_exhausted hfailed d).transcript
    cases n with
    | zero => exact Or.inl hlog
    | succ m => exact Or.inr ⟨m, false, hlog.trans (dropLast_failedAttempts d m)⟩

/-- A check that fails is followed by a pause, a pause by a check, and the last check
by nothing. -/
theorem entry_cases {m : Nat} {entry : RetryRequest D × Bool} {before after : RetryLog D}
    (h : failedAttempts d m ++ [(.check, found)] = before ++ entry :: after) :
    (entry = (.check, false) ∧ exists rest, after = (.pause d, true) :: rest) ∨
      (entry = (.pause d, true) ∧ exists answer rest, after = (.check, answer) :: rest) ∨
      (entry = (.check, found) ∧ after = []) := by
  induction m generalizing before with
  | zero =>
      rcases before with _ | ⟨first, before⟩
      · cases h
        exact Or.inr (Or.inr ⟨rfl, rfl⟩)
      · simp [failedAttempts] at h
  | succ m ih =>
      -- The attempts are taken off in pairs, so the prefix is split twice.
      rcases before with _ | ⟨first, _ | ⟨second, before⟩⟩
      · cases h
        exact Or.inl ⟨rfl, _, rfl⟩
      · cases h
        refine Or.inr (Or.inl ⟨rfl, ?_⟩)
        cases m with
        | zero => exact ⟨found, [], rfl⟩
        | succ m => exact ⟨false, _, rfl⟩
      · simp only [failedAttempts, List.cons_append, List.cons.injEq] at h
        exact ih h.2.2

/-- If the first check to succeed is among the attempts, the program finds what it
checks for after that check, with one pause less than checks.  Otherwise it makes all
its checks, with one pause less if there is any.  Each pause lasts for the interval and
is followed by a check, and nothing follows a check that succeeds. -/
theorem retry_exact (n : Nat) (d : D) (outcome : Nat -> Bool) :
    let course := Dialogue.run (RetryTally.answer outcome) {} (retryProgram n d)
    let log := Dialogue.transcript (RetryTally.answer outcome) {} (retryProgram n d)
    (forall k, FirstSuccess outcome k -> k ≤ n ->
      course = ({ checks := k, pauses := k - 1 }, some true) ∧
        log = failedAttempts d (k - 1) ++ [(.check, true)]) ∧
    ((forall k, FirstSuccess outcome k -> n < k) ->
      course = ({ checks := n, pauses := n - 1 }, some false) ∧
        log = (failedAttempts d n).dropLast) ∧
    (forall before interval reply after, log = before ++ (.pause interval, reply) :: after ->
      interval = d ∧ exists found rest, after = (.check, found) :: rest) ∧
    (forall before after, log = before ++ (.check, true) :: after -> after = []) := by
  intro course log
  refine ⟨?_, ?_, ?_, ?_⟩
  · intro k hk hle
    have hplays := plays_success hk hle d
    exact ⟨hplays.run, hplays.transcript⟩
  · intro hlate
    rcases firstSuccess_or_failed outcome n with ⟨k, hk, hle⟩ | hfailed
    · exact absurd (hlate k hk) (Nat.not_lt.mpr hle)
    · have hplays := plays_exhausted hfailed d
      exact ⟨hplays.run, hplays.transcript⟩
  · intro before interval reply after hlog
    rcases log_ends_with_check n d outcome with hempty | ⟨m, found, hends⟩
    · exact absurd (hempty.symm.trans hlog) (by simp)
    · rcases entry_cases (hends.symm.trans hlog) with ⟨hentry, _⟩ | ⟨hentry, hnext⟩ | ⟨hentry, _⟩
      · cases hentry
      · cases hentry
        exact ⟨rfl, hnext⟩
      · cases hentry
  · intro before after hlog
    rcases log_ends_with_check n d outcome with hempty | ⟨m, found, hends⟩
    · exact absurd (hempty.symm.trans hlog) (by simp)
    · rcases entry_cases (hends.symm.trans hlog) with ⟨hentry, _⟩ | ⟨hentry, _⟩ | ⟨_, hnothing⟩
      · cases hentry
      · cases hentry
      · exact hnothing

/-- The third check is the first to succeed: five attempts reach it, and two do not. -/
theorem retry_exact_at_third_check :
    let outcome : Nat -> Bool := fun number => number == 3
    let course (attempts : Nat) :=
      Dialogue.run (RetryTally.answer outcome) {} (retryProgram attempts 100)
    let log (attempts : Nat) :=
      Dialogue.transcript (RetryTally.answer outcome) {} (retryProgram attempts 100)
    let rest : RetryLog Nat := [(.check, true)]
    FirstSuccess outcome 3 ∧
      course 5 = ({ checks := 3, pauses := 2 }, some true) ∧
      log 5 = [(.check, false), (.pause 100, true), (.check, false)] ++
        (.pause 100, true) :: rest ∧
      (exists found later, rest = (.check, found) :: later) ∧
      (forall k, FirstSuccess outcome k -> 2 < k) ∧
      course 2 = ({ checks := 2, pauses := 1 }, some false) ∧
      log 2 = [(.check, false), (.pause 100, true), (.check, false)] := by
  intro outcome course log rest
  have hthird : FirstSuccess outcome 3 :=
    { pos := by decide
      succeeds := rfl
      earlier := fun j _ hlt => beq_false_of_ne (Nat.ne_of_lt hlt) }
  have hlate : forall k, FirstSuccess outcome k -> 2 < k := by
    intro k hk
    have hthree : k = 3 := eq_of_beq hk.succeeds
    omega
  obtain ⟨hreached, -, hpause, -⟩ := retry_exact 5 100 outcome
  obtain ⟨hcourse, hlog⟩ := hreached 3 hthird (by decide)
  have hsplit : log 5 = [(.check, false), (.pause 100, true), (.check, false)] ++
      (.pause 100, true) :: rest := hlog
  obtain ⟨-, hexhausted, -, -⟩ := retry_exact 2 100 outcome
  obtain ⟨hcourse', hlog'⟩ := hexhausted hlate
  exact ⟨hthird, hcourse, hsplit, (hpause _ _ _ _ hsplit).right, hlate, hcourse', hlog'⟩

end PodIsolation
