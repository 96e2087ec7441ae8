import PodIsolation.Proofs.NamespaceFrame

/-!
# Answered runs

## The calls of a run with their replies

A run that comes to its end has got a reply to each of its calls.  The transcript
lists the calls with their replies in the order in which they were made.  If a
call that fails has changed nothing, the transcript tells what became of the
tables: they are what the calls that succeeded made of them, one after the other.
-/

namespace PodIsolation

/-!
# Transcripts
-/

/-- The requests that were answered, with their replies. -/
def Dialogue.transcript (respond : S -> Q -> S × Option R) : S -> Dialogue Q R A -> List (Q × R)
  | _, .done _ => []
  | s, .ask q next =>
      match respond s q with
      | (s, some reply) => (q, reply) :: transcript respond s (next reply)
      | (_, none) => []

abbrev Transcript := List (FilterCall × FilterReply)

/-- The calls that were answered while a rule set was provisioned. -/
def Host.transcript (h : Host S) (s : S) (rules : RuleSet) : Transcript :=
  match h.enter s rules.netns with
  | (_, .error _) => []
  | (s, .ok ()) => Dialogue.transcript h.filter s rules.program.run

namespace Transcript

/-- The calls that succeeded. -/
def obeyed (log : Transcript) : List FilterCall :=
  (log.filter fun entry => entry.2.isOk).map Prod.fst

@[simp] theorem obeyed_nil : obeyed [] = [] := rfl

@[simp] theorem obeyed_cons_ok (c : FilterCall) (answer : Bool) (log : Transcript) :
    obeyed ((c, .ok answer) :: log) = c :: obeyed log := rfl

@[simp] theorem obeyed_cons_error (c : FilterCall) (e : FilterError) (log : Transcript) :
    obeyed ((c, .error e) :: log) = obeyed log := rfl

@[simp] theorem obeyed_append (log log' : Transcript) :
    obeyed (log ++ log') = obeyed log ++ obeyed log' := by
  simp [obeyed]

/-- The calls were made in this order, and all of them succeeded. -/
def Serves (log : Transcript) (calls : List FilterCall) : Prop :=
  log.map Prod.fst = calls ∧ forall entry, entry ∈ log -> entry.2.isOk = true

variable {log log' : Transcript} {calls calls' : List FilterCall}

theorem call_mem (h : log.map Prod.fst = calls) {entry : FilterCall × FilterReply}
    (hentry : entry ∈ log) : entry.1 ∈ calls :=
  h ▸ List.mem_map_of_mem hentry

theorem serves_nil : Serves [] [] :=
  ⟨rfl, by simp⟩

theorem Serves.append (h : Serves log calls) (h' : Serves log' calls') :
    Serves (log ++ log') (calls ++ calls') := by
  refine ⟨?_, ?_⟩
  · rw [List.map_append, h.left, h'.left]
  · intro entry hentry
    rcases List.mem_append.mp hentry with hentry | hentry
    · exact h.right entry hentry
    · exact h'.right entry hentry

theorem Serves.cons (h : Serves log calls) (c : FilterCall) (answer : Bool) :
    Serves ((c, .ok answer) :: log) (c :: calls) := by
  have hfirst : Serves [(c, .ok answer)] [c] := by
    refine ⟨rfl, ?_⟩
    intro entry hentry
    rw [List.mem_singleton.mp hentry]
    rfl
  exact hfirst.append h

theorem Serves.obeyed_eq (h : Serves log calls) : log.obeyed = calls := by
  rw [obeyed, List.filter_eq_self.mpr h.right, h.left]

end Transcript

/-!
# Recorded runs
-/

namespace Tables

/-- Running the program in the first tables can end in the last ones with the
result, and with the transcript.  A call that fails was not carried out. -/
inductive Recorded : Tables -> FilterProgram A -> Transcript -> Tables -> A -> Prop where
  | done (t : Tables) (a : A) : Recorded t (.done a) [] t a
  | obeyed {t u : Tables} {c : FilterCall} {next : FilterReply -> FilterProgram A}
      {log : Transcript} {a : A} : Recorded (t.apply c) (next (.ok (t.reply c))) log u a ->
      Recorded t (.ask c next) ((c, .ok (t.reply c)) :: log) u a
  | refused {t u : Tables} {c : FilterCall} {next : FilterReply -> FilterProgram A}
      {log : Transcript} {a : A} (e : FilterError) : Recorded t (next (.error e)) log u a ->
      Recorded t (.ask c next) ((c, .error e) :: log) u a

variable {t u : Tables} {log : Transcript}

/-- The tables at the end are what the calls that succeeded made of the first ones. -/
theorem Recorded.tables {x : FilterProgram A} {a : A} (h : Recorded t x log u a) :
    u = log.obeyed.foldl Tables.apply t := by
  induction h with
  | done t a => rfl
  | obeyed _ ih => exact ih
  | refused e _ ih => exact ih

theorem Recorded.of_bind {x : FilterProgram A} {f : A -> FilterProgram B} {b : B}
    (h : Recorded t (x >>= f) log u b) : exists first v a rest,
      log = first ++ rest ∧ Recorded t x first v a ∧ Recorded v (f a) rest u b := by
  induction x generalizing t log with
  | done a => exact ⟨[], t, a, log, rfl, .done t a, h⟩
  | ask c next ih =>
      rw [Dialogue.ask_bind] at h
      cases h with
      | obeyed h =>
          rcases ih _ h with ⟨first, v, a, rest, rfl, hx, hf⟩
          exact ⟨_ :: first, v, a, rest, rfl, .obeyed hx, hf⟩
      | refused e h =>
          rcases ih _ h with ⟨first, v, a, rest, rfl, hx, hf⟩
          exact ⟨_ :: first, v, a, rest, rfl, .refused e hx, hf⟩

/-- A program that may fail ends with the failure of its first part, or goes on
with what that part yields. -/
theorem Recorded.of_run_bind {x : ExceptT E FilterProgram A} {f : A -> ExceptT E FilterProgram B}
    {result : Except E B} (h : Recorded t (x >>= f).run log u result) :
    (exists e, result = .error e ∧ Recorded t x.run log u (.error e)) ∨
      exists first v a rest, log = first ++ rest ∧ Recorded t x.run first v (.ok a) ∧
        Recorded v (f a).run rest u result := by
  rw [ExceptT.run_bind] at h
  rcases h.of_bind with ⟨first, v, outcome, rest, rfl, hx, hrest⟩
  cases outcome with
  | error e =>
      cases hrest with
      | done =>
          rw [List.append_nil]
          exact Or.inl ⟨e, rfl, hx⟩
  | ok a => exact Or.inr ⟨first, v, a, rest, rfl, hx, hrest⟩

end Tables

/-!
# Hosts with faults
-/

/-- A host whose namespaces are those of a kernel.  A call is carried out and
answered, or it changes nothing and fails, or it changes nothing and is never
answered.  Which calls meet a fault may depend on all that has happened. -/
structure Host.Faulting (h : Host Kernel) : Prop where
  enter : h.enter = Kernel.enter
  leave : h.leave = Kernel.leave
  filter : forall k c, exists faults,
    h.filter k c = ({ (k.record (.call c)).apply c with faults },
        some (.ok ((k.tables (k.current.getD "")).reply c))) ∨
      exists failure : Option FilterError,
        h.filter k c = ({ k.record (.call c) with faults }, failure.map .error)

theorem Host.Faulting.onKernel {h : Host Kernel} (hfaulting : h.Faulting) : h.OnKernel where
  enter := hfaulting.enter
  leave := hfaulting.leave
  filter k c := by
    rcases hfaulting.filter k c with ⟨faults, hobeyed | ⟨failure, hfailed⟩⟩
    · exact ⟨faults, Or.inr (congrArg Prod.fst hobeyed)⟩
    · exact ⟨faults, Or.inl (congrArg Prod.fst hfailed)⟩

namespace Kernel

theorem faulting_host : host.Faulting where
  enter := rfl
  leave := rfl
  filter k c := by
    simp only [host, filter]
    split
    · rename_i kind faults _
      refine ⟨faults, Or.inr ?_⟩
      cases kind with
      | fail => exact ⟨some _, rfl⟩
      | notRun => exact ⟨some _, rfl⟩
      | panic => exact ⟨none, rfl⟩
    · exact ⟨_, Or.inl rfl⟩

variable {h : Host Kernel} {k : Kernel} {path : String}

/-- A run that ends has a transcript of its calls, which are those that the
kernel has recorded. -/
theorem recorded_run (hfaulting : h.Faulting) (x : FilterProgram A) {a : A}
    (hcurrent : k.current = some path) (hresult : (Dialogue.run h.filter k x).2 = some a) :
    Tables.Recorded (k.tables path) x (Dialogue.transcript h.filter k x)
        ((Dialogue.run h.filter k x).1.tables path) a ∧
      (Dialogue.run h.filter k x).1.events =
        k.events ++ (Dialogue.transcript h.filter k x).map fun entry => .call entry.1 := by
  induction x generalizing k with
  | done b =>
      cases hresult
      exact ⟨.done _ _, by simp [Dialogue.run, Dialogue.transcript]⟩
  | ask c next ih =>
      rcases hfaulting.filter k c with ⟨faults, hobeyed | ⟨failure, hfailed⟩⟩
      · simp only [Dialogue.run, Dialogue.transcript, hobeyed] at hresult ⊢
        have htables : ({ (k.record (.call c)).apply c with faults } : Kernel).tables path =
            (k.tables path).apply c := by
          have happlied := tables_apply (k := k.record (.call c)) hcurrent c path
          rw [if_pos rfl] at happlied
          exact happlied
        have hkept : ({ (k.record (.call c)).apply c with faults } : Kernel).current =
            some path := (apply_current _ c).trans hcurrent
        obtain ⟨hrecorded, hevents⟩ := ih _ hkept hresult
        rw [htables] at hrecorded
        rw [hcurrent, Option.getD_some] at hrecorded hevents ⊢
        refine ⟨.obeyed hrecorded, ?_⟩
        rw [hevents]
        simp [record]
      · cases failure with
        | none =>
            simp only [Dialogue.run, hfailed] at hresult
            cases hresult
        | some e =>
            simp only [Dialogue.run, Dialogue.transcript, hfailed, Option.map_some] at hresult ⊢
            have hkept : ({ k.record (.call c) with faults } : Kernel).current = some path :=
              hcurrent
            obtain ⟨hrecorded, hevents⟩ := ih (.error e) hkept hresult
            refine ⟨.refused e hrecorded, ?_⟩
            rw [hevents]
            simp [record]

/-- A run that has entered its namespace and ends has a transcript. -/
theorem recorded_provision (hfaulting : h.Faulting) (s : RuleSet) {outcome : Outcome}
    (hresult : (h.provision k s).2 = some outcome)
    (hentered : forall cause, outcome ≠ .error (.netns s.netns cause)) :
    Tables.Recorded (k.tables s.netns) s.program.run (h.transcript k s)
        ((h.provision k s).1.tables s.netns) outcome ∧
      (h.provision k s).1.events = k.events ++ .enter s.netns ::
        ((h.transcript k s).map (fun entry => .call entry.1) ++ [.leave s.netns]) := by
  cases hmissing : k.missing.get? s.netns with
  | some cause =>
      rw [provision_of_missing hfaulting.onKernel hmissing] at hresult
      cases hresult
      exact absurd rfl (hentered cause)
  | none =>
      have htranscript : h.transcript k s = Dialogue.transcript h.filter
          ({ k with current := some s.netns }.record (.enter s.netns)) s.program.run := by
        unfold Host.transcript
        rw [hfaulting.enter]
        simp [enter, hmissing]
      rw [provision_of_present hfaulting.onKernel hmissing] at hresult ⊢
      obtain ⟨hrecorded, hevents⟩ := recorded_run hfaulting s.program.run rfl hresult
      rw [htranscript]
      refine ⟨hrecorded, ?_⟩
      simp only [leave, record] at hevents ⊢
      rw [hevents]
      simp

end Kernel

end PodIsolation
