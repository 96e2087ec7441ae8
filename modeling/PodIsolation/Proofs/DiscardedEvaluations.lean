import PodIsolation.Proofs.CallAccount

/-!
# Discarded evaluations

## Why an evaluation starts over

An evaluation notes the generation of its namespace as it begins.  The generation
grows with each change of a policy and with nothing else, so the difference at the
commitment is the number of changes since.  The evaluation is discarded if there
was one.
-/

namespace PodIsolation

namespace Controller

/-- The generation that an evaluation has noted. -/
def Phase.generation? : Phase -> Option Nat
  | .awaitingPolicies generation => some generation
  | .awaitingEndpoints generation _ => some generation
  | .judged generation _ => some generation
  | .start => none
  | .ended _ => none

/-- The past, with the latest event first, up to the beginning of the evaluation that
the call has begun last, and that evaluation as it began. -/
structure Latest (past : List Record) (i : Nat) (e : Evaluation) (since : List Record) :
    Prop where
  begun : exists b before, past = since ++ b :: before ∧ b.begins i = true ∧
    b.call = some (.active e false)
  last : forall x, x ∈ since -> x.begins i = false

theorem Latest.cons {past since : List Record} {i : Nat} {e : Evaluation} {r : Record}
    (h : Latest past i e since) (hr : r.begins i = false) :
    Latest (r :: past) i e (r :: since) := by
  constructor
  · rcases h.begun with ⟨b, before, hpast, hb⟩
    exact ⟨b, before, by rw [hpast, List.cons_append], hb⟩
  · intro x hx
    rcases List.mem_cons.mp hx with rfl | hx
    · exact hr
    · exact h.last x hx

namespace Call

variable {mode : EntryMode} {s s' : State} {call : Call} {m : Move} {e' : Evaluation}
  {asked' : Bool} {generation : Nat}

/-- A generation is noted as an evaluation begins, and kept as long as it goes on. -/
theorem Moves.noted (h : call.Moves mode s m s' (.active e' asked'))
    (hnoted : e'.phase.generation? = some generation) :
    (m = .check ∧ asked' = false ∧ e'.phase.isAwaiting = true ∧
      generation = s.generation e'.ns) ∨
      (m ≠ .check ∧ exists e asked, call = .active e asked ∧ e.ns = e'.ns ∧
        e.phase.generation? = some generation) := by
  cases h with
  | evaluate hphase hnew =>
      cases hnoted
      exact Or.inl ⟨rfl, rfl, rfl, rfl⟩
  | leave hphase | policiesFailed _ hphase | endpointsFailed _ hphase | stale hphase
  | unmanaged hphase | noEndpoints hphase | overtaken hphase | dispatch hphase => cases hnoted
  | askPolicies hphase | askEndpoints hphase =>
      exact Or.inr ⟨Move.noConfusion, _, _, rfl, rfl, hnoted⟩
  | policiesNone hphase | policiesSome hphase | endpoints _ hphase =>
      cases hnoted
      exact Or.inr ⟨Move.noConfusion, _, _, rfl, rfl, by rw [hphase]; rfl⟩

/-- A commitment is that of a verdict, which is given up exactly where it is not of the
present generation. -/
theorem Moves.judged {after : Call} (h : call.Moves mode s .commit s' after) (i : Nat) :
    exists e generation verdict, call = .active e false ∧ e.phase = .judged generation verdict ∧
      (Record.commits i Phase.isStart ⟨.move i .commit, some after⟩ = true <->
        s.generation e.ns ≠ generation) := by
  cases h with
  | stale hphase hstale =>
      refine ⟨_, _, _, rfl, hphase, ?_⟩
      simp [Record.commits, Phase.isStart, hstale]
  | unmanaged hphase | noEndpoints hphase | overtaken hphase | dispatch hphase =>
      refine ⟨_, _, _, rfl, hphase, ?_⟩
      simp [Record.commits, Phase.isStart]

end Call

theorem changes_cons (ns : String) (event : Event) (events : List Event) :
    changes ns (event :: events) = changes ns events + if event.Resets ns then 1 else 0 := by
  simp only [changes, List.countP_cons, decide_eq_true_iff]

theorem changes_pos_iff {ns : String} {past : List Record} :
    0 < changes ns (past.map Record.event) <-> exists r, r ∈ past ∧ r.event.Resets ns := by
  simp [changes, List.countP_pos_iff]

namespace World

variable {c : Config} {w w' : World} {event : Event} {events : List Event} {i : Nat}
  {ns : String} {generation : Nat}

/-- Since the call has begun its evaluation, the policies of the namespace have changed
as often as the generation has grown. -/
def Dates (w : World) (i : Nat) (ns : String) (generation : Nat) : Prop :=
  exists e since, Latest w.past i e since ∧ e.ns = ns ∧
    w.state.generation ns = generation + changes ns (since.map Record.event)

theorem Dates.step (h : w.Dates i ns generation) (hstep : Steps c w event w')
    (hother : event ≠ .move i .check) : w'.Dates i ns generation := by
  rcases h with ⟨e, since, hlatest, hns, hgeneration⟩
  let r : Record := ⟨event, event.call?.bind w'.calls⟩
  have hr : r.begins i = false :=
    Bool.eq_false_iff.mpr fun hbegins => hother (Record.event_of_begins hbegins)
  refine ⟨e, r :: since, ?_, hns, ?_⟩
  · rw [hstep.record]
    exact hlatest.cons hr
  · rw [List.map_cons, changes_cons]
    rcases hstep.generation ns with ⟨hresets, hnext⟩ | ⟨hkept, hnext⟩
    · rw [if_pos (show r.event.Resets ns from hresets)]
      omega
    · rw [if_neg (show ¬ r.event.Resets ns from hkept)]
      omega

/-- Each commitment of a call is preceded by the beginning of its evaluation, which is
discarded exactly where a policy of the namespace has changed in between. -/
def Discerning (past : List Record) : Prop :=
  forall later r before i, past = later ++ r :: before -> r.event = .move i .commit ->
    exists e since, Latest before i e since ∧
      (r.commits i Phase.isStart = true <-> exists x, x ∈ since ∧ x.event.Resets e.ns)

structure Dated (w : World) : Prop where
  noted : forall i e asked generation, w.calls i = some (.active e asked) ->
    e.phase.generation? = some generation -> w.Dates i e.ns generation
  discerning : Discerning w.past

theorem dated_empty : Dated {} where
  noted i e asked generation hcall := by cases hcall
  discerning later r before i hpast := by cases later <;> cases hpast

theorem Dated.noted_step (h : w.Dated) (hstep : Steps c w event w') {e : Evaluation}
    {asked : Bool} (hcall : w'.calls i = some (.active e asked))
    (hnoted : e.phase.generation? = some generation) : w'.Dates i e.ns generation := by
  cases hbefore : w.calls i with
  | none =>
      rcases hstep.begun hbefore hcall with ⟨pod, -, hpod⟩
      rcases Call.ofPod_eq_active hpod.symm with ⟨-, -, -, hphase, -⟩
      rw [hphase] at hnoted
      cases hnoted
  | some call =>
      rcases hstep.call hbefore with ⟨hother, hkept⟩ | ⟨m, after, rfl, hmoves, hafter⟩
      · rw [hkept, Option.some.injEq] at hcall
        subst hcall
        apply (h.noted i e asked generation hbefore hnoted).step hstep
        exact fun hevent => hother (congrArg Event.call? hevent)
      · rw [hafter, Option.some.injEq] at hcall
        subst hcall
        rcases hmoves.noted hnoted with
          ⟨rfl, rfl, hawaiting, hgeneration⟩ | ⟨hm, e₀, asked₀, rfl, hns, hphase⟩
        · refine ⟨e, [], ⟨⟨_, _, hstep.record, ?_, ?_⟩, ?_⟩, rfl, ?_⟩
          · simp [Record.begins, Event.call?, hafter, hawaiting]
          · exact hafter
          · exact fun x hx => absurd hx List.not_mem_nil
          · rw [hgeneration]
            exact hstep.generation_kept id
        · rw [← hns]
          apply (h.noted i e₀ asked₀ generation hbefore hphase).step hstep
          exact fun hevent => hm (Event.move.inj hevent).right

/-- The commitment of a call discards its evaluation for the changes since it began. -/
theorem Dated.discerns {call after : Call} {state : State} (h : w.Dated)
    (hcall : w.calls i = some call) (hmoves : call.Moves c.mode w.state .commit state after) :
    exists e since, Latest w.past i e since ∧
      (Record.commits i Phase.isStart ⟨.move i .commit, some after⟩ = true <->
        exists x, x ∈ since ∧ x.event.Resets e.ns) := by
  rcases hmoves.judged i with ⟨e, g, verdict, rfl, hphase, hstale⟩
  rcases h.noted i e false g hcall (by rw [hphase]; rfl) with
    ⟨begun, since, hlatest, hns, hgeneration⟩
  refine ⟨begun, since, hlatest, ?_⟩
  rw [hstale, hgeneration, hns, ← changes_pos_iff]
  omega

theorem Dated.step (h : w.Dated) (hstep : Steps c w event w') : w'.Dated := by
  refine ⟨fun i e asked generation => h.noted_step hstep, ?_⟩
  intro later r before i hpast hevent
  rw [hstep.record] at hpast
  cases later with
  | nil =>
      obtain ⟨rfl, rfl⟩ := List.cons.inj hpast
      simp only at hevent
      subst hevent
      cases hstep with
      | @move i m call after state hcall hmoves =>
          have hafter : (w.put (.move i .commit) i state after).calls i = some after := if_pos rfl
          rw [Event.call?, Option.bind_some, hafter]
          exact h.discerns hcall hmoves
  | cons x later =>
      exact h.discerning later r before i (List.cons.inj hpast).right hevent

end World

end Controller

end PodIsolation
