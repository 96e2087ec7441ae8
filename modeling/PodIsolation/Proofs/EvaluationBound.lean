import PodIsolation.Proofs.CurrentVerdict

/-!
# Evaluations of a call

## Evaluations come to an end

An evaluation starts over only if a policy of its namespace has changed since it
began.  So a call owes at most one evaluation at a time, and owes a further one
only after a change: it begins one evaluation, and one more for each change while
it is under way at the most.

From one change to the next a call takes six steps at most, since each of them
brings it closer to a verdict that counts.  So it ends under every schedule in
which it is given its turns, its listings are answered, and the policies of the
namespace come to rest.
-/

namespace PodIsolation

namespace Controller

/-!
# Evaluations and changes
-/

/-- The event was the beginning of an evaluation by the call. -/
def Record.begins (i : Nat) (r : Record) : Bool :=
  match r.event, r.call with
  | .move j .check, some (.active e _) => j == i && e.phase.isAwaiting
  | _, _ => false

/-- How many evaluations the call has begun. -/
def World.evaluations (w : World) (i : Nat) : Nat :=
  w.past.countP (Record.begins i)

instance (ns : String) : DecidablePred (Event.Resets ns)
  | .policy (.apply p) => inferInstanceAs (Decidable (p.metadata.ns = some ns))
  | .policy (.delete p) => inferInstanceAs (Decidable (p.metadata.ns = some ns))
  | .apply _ _ => inferInstanceAs (Decidable False)
  | .move _ _ => inferInstanceAs (Decidable False)
  | .deletePod _ => inferInstanceAs (Decidable False)

/-- How often a schedule changes policies of the namespace. -/
def changes (ns : String) (events : List Event) : Nat :=
  events.countP fun event => decide (event.Resets ns)

theorem Record.event_of_begins {i : Nat} {r : Record} (h : r.begins i = true) :
    r.event = .move i .check := by
  unfold begins at h
  split at h
  · rename_i j _ _ heq _
    have hij : j = i := eq_of_beq (Bool.and_eq_true_iff.mp h).left
    rw [heq, hij]
  · cases h

/-!
# Calls under way
-/

/-- The call is evaluating its pod. -/
def Call.isUnderWay : Call -> Bool
  | .active e _ => e.result?.isNone
  | _ => false

/-- The call has returned, or was cancelled before it did. -/
def Call.IsOver (call : Call) : Prop :=
  (exists result, call.returned? = some result) ∨ exists e, call = .cancelled e

/-- What the call evaluates is a pod of the namespace, and it completes nothing before it
returns. -/
def Call.Serves (ns : String) : Call -> Prop
  | .active e _ => e.ns = ns
  | .completed e _ => e.result? ≠ none
  | _ => True

/-- An evaluation of a past generation is to be made again. -/
def lag (current generation : Nat) : Nat :=
  if current = generation then 0 else 1

/-- The evaluations that are still to begin if the generation stays as it is. -/
def Phase.due (current : Nat) : Phase -> Nat
  | .start => 1
  | .awaitingPolicies generation => lag current generation
  | .awaitingEndpoints generation _ => lag current generation
  | .judged generation _ => lag current generation
  | .ended _ => 0

def Call.due (s : State) : Call -> Nat
  | .active e _ => e.phase.due (s.generation e.ns)
  | _ => 0

/-- The steps up to the commitment of a verdict, that one included. -/
def Phase.rank : Phase -> Bool -> Nat
  | .awaitingPolicies _, false => 5
  | .awaitingPolicies _, true => 4
  | .awaitingEndpoints _ _, false => 3
  | .awaitingEndpoints _ _, true => 2
  | .judged _ _, _ => 1
  | _, _ => 0

/-- A bound of the steps that are still to take if the generation stays as it is.  An
evaluation has six. -/
def Call.remaining (s : State) : Call -> Nat
  | .active e asked => 6 * e.phase.due (s.generation e.ns) + e.phase.rank asked
  | _ => 0

section Measure

variable {mode : EntryMode} {s s' : State} {call after : Call} {m : Move} {ns : String}

@[simp]
theorem lag_self (generation : Nat) : lag generation generation = 0 :=
  if_pos rfl

theorem lag_of_ne {current generation : Nat} (h : current ≠ generation) :
    lag current generation = 1 :=
  if_neg h

theorem lag_le_one (current generation : Nat) : lag current generation ≤ 1 := by
  unfold lag
  split <;> omega

theorem Phase.due_le_one (current : Nat) (p : Phase) : p.due current ≤ 1 := by
  cases p with
  | start => exact Nat.le_refl 1
  | ended result => exact Nat.zero_le 1
  | awaitingPolicies | awaitingEndpoints | judged => exact lag_le_one current _

@[simp]
theorem Evaluation.phase_goto (e : Evaluation) (p : Phase) : (e.goto p).phase = p :=
  rfl

@[simp]
theorem Evaluation.ns_goto (e : Evaluation) (p : Phase) : (e.goto p).ns = e.ns :=
  rfl

theorem Phase.rank_pos {p : Phase} (h : p.isAwaiting = true) (asked : Bool) :
    0 < p.rank asked := by
  cases p <;> cases asked <;> simp_all [isAwaiting, rank]

namespace Call

theorem due_le_one (s : State) (call : Call) : call.due s ≤ 1 := by
  cases call with
  | active e asked => exact e.phase.due_le_one _
  | refused | cancelled | completed => exact Nat.zero_le 1

theorem Serves.due (h : call.Serves ns) (hs : s'.generation ns = s.generation ns) :
    call.due s' = call.due s := by
  cases call with
  | active e asked =>
      cases h
      simp only [Call.due, hs]
  | refused | cancelled | completed => rfl

theorem Serves.remaining (h : call.Serves ns) (hs : s'.generation ns = s.generation ns) :
    call.remaining s' = call.remaining s := by
  cases call with
  | active e asked =>
      cases h
      simp only [Call.remaining, hs]
  | refused | cancelled | completed => rfl

theorem Serves.isOver (h : call.Serves ns) (hended : call.isUnderWay = false) :
    call.IsOver := by
  cases call with
  | refused d => exact Or.inl ⟨_, rfl⟩
  | active e asked =>
      left
      apply Option.ne_none_iff_exists'.mp
      intro hnone
      rw [isUnderWay, show e.result? = none from hnone] at hended
      cases hended
  | cancelled e => exact Or.inr ⟨e, rfl⟩
  | completed e o => exact Or.inl (Option.ne_none_iff_exists'.mp h)

theorem serves_ofPod {c : Config} {pod : Pod} (h : pod.metadata.ns = some ns) :
    (ofPod c pod).Serves ns := by
  unfold ofPod
  rcases admission_cases c pod with ⟨_, hpod⟩ | ⟨_, _, hpod⟩ | ⟨_, uid, home, _, hns, hpod⟩ <;>
    rw [hpod]
  · trivial
  · trivial
  · exact Option.some.inj (hns.symm.trans h)

theorem ofPod_ne_cancelled {c : Config} (pod : Pod) (e : Evaluation) :
    ofPod c pod ≠ .cancelled e := by
  unfold ofPod
  split <;> exact Call.noConfusion

theorem Moves.serves (h : call.Moves mode s m s' after) (hns : call.Serves ns) :
    after.Serves ns := by
  cases h with
  | cancel hphase => trivial
  | complete o hphase => simp [Serves, Evaluation.result?, hphase]
  | _ => exact hns

theorem Moves.cancelled {e : Evaluation} (h : call.Moves mode s m s' (.cancelled e)) :
    m = .cancel := by
  cases h
  rfl

/-- A call that has ended begins nothing any more. -/
theorem Moves.ended (h : call.Moves mode s m s' after) (hended : call.isUnderWay = false) :
    after.isUnderWay = false ∧ m ≠ .check := by
  cases h with
  | complete o hphase => exact ⟨rfl, Move.noConfusion⟩
  | cancel hphase => exact ⟨rfl, Move.noConfusion⟩
  | _ => simp_all [isUnderWay, Evaluation.result?]

theorem remaining_of_ended (h : call.isUnderWay = false) : call.remaining s = 0 := by
  cases call with
  | active e asked =>
      cases hphase : e.phase <;>
        simp_all [isUnderWay, Evaluation.result?, remaining, Phase.due, Phase.rank]
  | refused | cancelled | completed => rfl

/-- An evaluation that begins was due, and another one is due only if a policy has
changed since. -/
theorem Moves.due (h : call.Moves mode s m s' after) (i : Nat) :
    (if Record.begins i ⟨.move i m, some after⟩ then 1 else 0) + after.due s' ≤ call.due s := by
  have hs := h.generation
  cases h with
  | evaluate hphase hnew =>
      simp [Call.due, hphase, Phase.due, hs, Record.begins, Phase.isAwaiting]
  | stale hphase hstale => simp [Call.due, hphase, Phase.due, Record.begins, lag_of_ne hstale]
  | _ => simp_all [Call.due, Record.begins, Phase.due, Phase.isAwaiting]

/-- Each step of a call brings it closer to its end. -/
theorem Moves.remaining (h : call.Moves mode s m s' after) (hway : call.isUnderWay = true) :
    after.remaining s' < call.remaining s := by
  have hs := h.generation
  cases h with
  | cancel hphase => exact Nat.add_pos_right _ (Phase.rank_pos hphase _)
  | complete o hphase => simp [isUnderWay, Evaluation.result?, hphase] at hway
  | stale hphase hstale =>
      simp [Call.remaining, hphase, Phase.due, Phase.rank, lag_of_ne hstale]
  | _ => simp_all [Call.remaining, Phase.due, Phase.rank]

end Call

end Measure

/-!
# Schedules
-/

namespace World

def Serving (w : World) (i : Nat) (ns : String) : Prop :=
  exists call, w.calls i = some call ∧ call.Serves ns

def UnderWay (w : World) (i : Nat) : Prop :=
  exists call, w.calls i = some call ∧ call.isUnderWay = true

def due (w : World) (i : Nat) : Nat :=
  (w.calls i).elim 0 (Call.due w.state)

def remaining (w : World) (i : Nat) : Nat :=
  (w.calls i).elim 0 (Call.remaining w.state)

variable {c : Config} {w w' : World} {event : Event} {events : List Event} {i : Nat}
  {ns : String}

theorem Steps.serving (h : Steps c w event w') (hns : w.Serving i ns) : w'.Serving i ns := by
  rcases hns with ⟨call, hcall, hns⟩
  rcases h.call hcall with ⟨_, hkept⟩ | ⟨m, after, _, hmoves, hafter⟩
  · exact ⟨call, hkept, hns⟩
  · exact ⟨after, hafter, hmoves.serves hns⟩

theorem due_le_one (w : World) (i : Nat) : w.due i ≤ 1 := by
  unfold due
  cases w.calls i with
  | none => exact Nat.zero_le 1
  | some call => exact call.due_le_one w.state

theorem Steps.evaluations (h : Steps c w event w') (i : Nat) :
    w'.evaluations i = w.evaluations i +
      if Record.begins i ⟨event, event.call?.bind w'.calls⟩ then 1 else 0 := by
  unfold World.evaluations
  rw [h.record, List.countP_cons]

theorem Steps.evaluations_of_ne (h : Steps c w event w') (hother : event ≠ .move i .check) :
    w'.evaluations i = w.evaluations i := by
  rw [h.evaluations i, if_neg fun hbegins => hother (Record.event_of_begins hbegins)]
  rfl

/-- A call owes a further evaluation only after a change. -/
theorem Steps.due (h : Steps c w event w') (hns : w.Serving i ns) :
    w'.evaluations i + w'.due i ≤ w.evaluations i + w.due i + changes ns [event] := by
  rcases hns with ⟨call, hcall, hns⟩
  rcases h.call hcall with ⟨hother, hkept⟩ | ⟨m, after, rfl, hmoves, hafter⟩
  · have hsame : w'.evaluations i = w.evaluations i :=
      h.evaluations_of_ne fun hevent => hother (congrArg Event.call? hevent)
    simp only [World.due, hcall, hkept, Option.elim_some, changes, List.countP_singleton,
      decide_eq_true_iff]
    by_cases hresets : event.Resets ns
    · have hbound := call.due_le_one w'.state
      rw [if_pos hresets]
      omega
    · rw [hns.due (h.generation_kept hresets)]
      omega
  · have hmove := hmoves.due i
    rw [h.evaluations i]
    simp only [World.due, Event.call?, hcall, hafter, Option.bind_some, Option.elim_some]
    omega

theorem run_serving (h : run c events w = some w') (hns : w.Serving i ns) :
    w'.Serving i ns :=
  run_induction (fun _ _ _ hw hstep => hstep.serving hw) h hns

theorem run_due (h : run c events w = some w') (hns : w.Serving i ns) :
    w'.evaluations i + w'.due i ≤ w.evaluations i + w.due i + changes ns events := by
  induction events generalizing w with
  | nil =>
      cases h
      exact Nat.le_refl _
  | cons event rest ih =>
      rcases Option.bind_eq_some_iff.mp h with ⟨v, hv, hrest⟩
      have hstep := steps_of_step hv
      have hfirst := hstep.due hns
      have hlater := ih hrest (hstep.serving hns)
      have hsum : changes ns (event :: rest) = changes ns [event] + changes ns rest := by
        rw [← List.singleton_append, changes, List.countP_append]
        rfl
      omega

/-- A call that has ended begins no further evaluation. -/
theorem run_ended {call : Call} (h : run c events w = some w') (hcall : w.calls i = some call)
    (hended : call.isUnderWay = false) : w'.evaluations i = w.evaluations i := by
  have hkept : w'.evaluations i = w.evaluations i ∧
      exists after, w'.calls i = some after ∧ after.isUnderWay = false := by
    apply run_induction ?_ h ⟨rfl, call, hcall, hended⟩
    rintro v event v' ⟨hsame, after, hafter, hended⟩ hstep
    rw [← hsame]
    rcases hstep.call hafter with ⟨hother, hkept⟩ | ⟨m, later, rfl, hmoves, hlater⟩
    · refine ⟨hstep.evaluations_of_ne ?_, after, hkept, hended⟩
      exact fun hevent => hother (congrArg Event.call? hevent)
    · rcases hmoves.ended hended with ⟨hstill, hm⟩
      refine ⟨hstep.evaluations_of_ne ?_, later, hlater, hstill⟩
      exact fun hevent => hm (Event.move.inj hevent).right
  exact hkept.left

/-- A call has begun no evaluation before it began itself. -/
theorem evaluations_of_free (h : run c events {} = some w) (hfree : w.calls i = none) :
    w.evaluations i = 0 := by
  have hnone : w.calls i = none -> w.evaluations i = 0 := by
    apply run_induction ?_ h fun _ => rfl
    intro v event v' hv hstep hfree
    cases hcall : v.calls i with
    | some call =>
        rcases hstep.call hcall with ⟨_, hafter⟩ | ⟨_, _, _, _, hafter⟩ <;>
          rw [hfree] at hafter <;> cases hafter
    | none =>
        rw [← hv hcall]
        apply hstep.evaluations_of_ne
        rintro rfl
        cases hstep with
        | move i hcalled hmoves =>
            rw [hcall] at hcalled
            cases hcalled
  exact hnone hfree

/-- Without a change, no step takes a call away from its end, and its own bring it
closer. -/
theorem Steps.remaining (h : Steps c w event w') (hns : w.Serving i ns)
    (hkept : ¬ event.Resets ns) :
    w'.remaining i ≤ w.remaining i ∧
      (event.call? = some i -> w.UnderWay i -> w'.remaining i < w.remaining i) := by
  rcases hns with ⟨call, hcall, hns⟩
  rcases h.call hcall with ⟨hother, hsame⟩ | ⟨m, after, rfl, hmoves, hafter⟩
  · have hequal : w'.remaining i = w.remaining i := by
      simp only [World.remaining, hcall, hsame, Option.elim_some]
      exact hns.remaining (h.generation_kept hkept)
    exact ⟨Nat.le_of_eq hequal, fun hown => absurd hown hother⟩
  · simp only [World.remaining, hcall, hafter, Option.elim_some]
    cases hway : call.isUnderWay with
    | true =>
        have hless := hmoves.remaining hway
        exact ⟨Nat.le_of_lt hless, fun _ _ => hless⟩
    | false =>
        rw [Call.remaining_of_ended (hmoves.ended hway).left]
        refine ⟨Nat.zero_le _, ?_⟩
        rintro _ ⟨other, hother, hunder⟩
        rw [hcall] at hother
        cases hother
        rw [hway] at hunder
        cases hunder

/-!
# Endless schedules
-/

/-- A schedule that goes on forever, with the worlds that it leads through. -/
structure Endless (c : Config) (events : Nat -> Event) (worlds : Nat -> World) : Prop where
  start : worlds 0 = {}
  step : forall n, (worlds n).step c (events n) = some (worlds (n + 1))

/-- The call is given its turns. -/
structure Attended (events : Nat -> Event) (worlds : Nat -> World) (i : Nat) : Prop where
  /-- What it has asked for is answered. -/
  answered : forall n e, (worlds n).calls i = some (.active e true) -> e.result? = none ->
    exists m, n ≤ m ∧ (events m).call? = some i
  /-- It goes on where it does not wait for an answer. -/
  scheduled : forall n e, (worlds n).calls i = some (.active e false) -> e.result? = none ->
    exists m, n ≤ m ∧ (events m).call? = some i

section Endless

variable {schedule : Nat -> Event} {worlds : Nat -> World} {n : Nat}

theorem Attended.turn (h : Attended schedule worlds i) (hway : (worlds n).UnderWay i) :
    exists m, n ≤ m ∧ (schedule m).call? = some i := by
  rcases hway with ⟨call, hcall, hway⟩
  cases call with
  | active e asked =>
      have hnone := Option.isNone_iff_eq_none.mp hway
      cases asked with
      | true => exact h.answered n e hcall hnone
      | false => exact h.scheduled n e hcall hnone
  | refused | cancelled | completed => cases hway

theorem Endless.serving (h : Endless c schedule worlds) (hns : (worlds n).Serving i ns)
    {m : Nat} (hm : n ≤ m) : (worlds m).Serving i ns := by
  induction hm with
  | refl => exact hns
  | @step m _ ih => exact (steps_of_step (h.step m)).serving ih

theorem Endless.remaining (h : Endless c schedule worlds) (hns : (worlds n).Serving i ns)
    (hrest : forall m, n ≤ m -> ¬ (schedule m).Resets ns) {m : Nat} (hm : n ≤ m) :
    (worlds m).remaining i ≤ (worlds n).remaining i := by
  induction hm with
  | refl => exact Nat.le_refl _
  | @step m hm ih =>
      have hstep := (steps_of_step (h.step m)).remaining (h.serving hns hm) (hrest m hm)
      exact Nat.le_trans hstep.left ih

/-- Once no policy of the namespace changes any more, a call that is given its turns comes
to its end. -/
theorem Endless.exists_ended (h : Endless c schedule worlds) (hns : (worlds n).Serving i ns)
    (hrest : forall m, n ≤ m -> ¬ (schedule m).Resets ns)
    (hattended : Attended schedule worlds i) :
    exists m, n ≤ m ∧ (worlds m).Serving i ns ∧ ¬ (worlds m).UnderWay i := by
  -- The induction is on what remains, which shrinks with each turn of the call.
  induction hsize : (worlds n).remaining i using Nat.strongRecOn generalizing n with
  | ind size ih =>
      subst hsize
      by_cases hway : (worlds n).UnderWay i
      · rcases hattended.turn hway with ⟨m, hm, hturn⟩
        have hserving := h.serving hns hm
        have hbound := h.remaining hns hrest hm
        by_cases hthere : (worlds m).UnderWay i
        · have hstep := steps_of_step (h.step m)
          have hless := (hstep.remaining hserving (hrest m hm)).right hturn hthere
          rcases ih _ (Nat.lt_of_lt_of_le hless hbound) (hstep.serving hserving)
            (fun k hk => hrest k (by omega)) rfl with ⟨k, hk, hend⟩
          exact ⟨k, by omega, hend⟩
        · exact ⟨m, hm, hserving, hthere⟩
      · exact ⟨n, Nat.le_refl n, hns, hway⟩

theorem Endless.cancelled (h : Endless c schedule worlds) {e : Evaluation}
    (hcall : (worlds n).calls i = some (.cancelled e)) :
    exists m, schedule m = .move i .cancel := by
  induction n with
  | zero =>
      rw [h.start] at hcall
      cases hcall
  | succ n ih =>
      have hstep := steps_of_step (h.step n)
      cases hbefore : (worlds n).calls i with
      | none =>
          rcases hstep.begun hbefore hcall with ⟨pod, _, hpod⟩
          exact absurd hpod.symm (Call.ofPod_ne_cancelled pod e)
      | some call =>
          rcases hstep.call hbefore with ⟨_, hkept⟩ | ⟨m, after, hevent, hmoves, hafter⟩
          · rw [hkept] at hcall
            rw [hcall] at hbefore
            exact ih hbefore
          · rw [hcall] at hafter
            cases hafter
            rw [hmoves.cancelled] at hevent
            exact ⟨n, hevent⟩

end Endless

/-- The worlds, and another one before them. -/
def preceded (w : World) (worlds : Nat -> World) : Nat -> World
  | 0 => w
  | n + 1 => worlds n

/-- A schedule can be drawn out forever, with deletions of a pod. -/
theorem exists_endless_from (pod : Pod) (h : run c events w = some w') :
    exists worlds : Nat -> World, worlds 0 = w ∧
      (forall n, (worlds n).step c (events.getD n (.deletePod pod)) = some (worlds (n + 1))) ∧
      forall n, events.length ≤ n -> (worlds n).calls = w'.calls := by
  induction events generalizing w with
  | nil =>
      cases h
      refine ⟨fun n => Nat.repeat (fun w => (w.step c (.deletePod pod)).getD w) n w', rfl,
        fun n => rfl, ?_⟩
      intro n _
      induction n with
      | zero => rfl
      | succ n ih => exact ih (Nat.zero_le n)
  | cons event rest ih =>
      rcases Option.bind_eq_some_iff.mp h with ⟨v, hv, hrest⟩
      rcases ih hrest with ⟨worlds, hstart, hsteps, hend⟩
      refine ⟨preceded w worlds, rfl, ?_, ?_⟩
      · intro n
        cases n with
        | zero => simpa [preceded, hstart] using hv
        | succ n => exact hsteps n
      · intro n hn
        cases n with
        | zero => cases hn
        | succ n => exact hend n (Nat.le_of_succ_le_succ hn)

/-!
# Evaluations end
-/

/-- A call that is under way can take a step, and where it waits it can be answered. -/
theorem exists_move (h : run c events {} = some w) (hway : w.UnderWay i) :
    exists m w', m ≠ .cancel ∧ w.step c (.move i m) = some w' := by
  rcases hway with ⟨call, hcall, hway⟩
  have htake : forall {m : Move} {state : State} {after : Call},
      call.Moves c.mode w.state m state after -> m ≠ .cancel ->
        exists m w', m ≠ .cancel ∧ w.step c (.move i m) = some w' :=
    fun hmoves hm => ⟨_, _, hm, (Steps.move i hcall hmoves).step⟩
  cases call with
  | refused | cancelled | completed => cases hway
  | active e asked =>
      have hsourced := (grounded_of_run h i e asked hcall).right
      cases hphase : e.phase with
      | start =>
          rw [hphase] at hsourced
          cases hsourced
          exact htake (Call.moves_check hphase) Move.noConfusion
      | awaitingPolicies generation =>
          cases asked with
          | false => exact htake (.askPolicies hphase) Move.noConfusion
          | true => exact htake (Call.moves_receivePolicies hphase (.ok [])) Move.noConfusion
      | awaitingEndpoints generation applicable =>
          cases asked with
          | false => exact htake (.askEndpoints hphase) Move.noConfusion
          | true => exact htake (.endpoints [] hphase) Move.noConfusion
      | judged generation verdict =>
          rw [hphase] at hsourced
          cases hsourced <;> exact htake (Call.moves_commit hphase) Move.noConfusion
      | ended result => simp [Call.isUnderWay, Evaluation.result?, hphase] at hway

theorem Serving.exists_isOver (h : w.Serving i ns) (hended : ¬ w.UnderWay i) :
    exists call, w.calls i = some call ∧ call.isUnderWay = false ∧ call.IsOver := by
  rcases h with ⟨call, hcall, hns⟩
  have hidle : call.isUnderWay = false := by
    rw [← Bool.not_eq_true]
    exact fun hway => hended ⟨call, hcall, hway⟩
  exact ⟨call, hcall, hidle, hns.isOver hidle⟩

theorem Steps.applied {pod : Pod} (h : Steps c w (.apply i pod) w')
    (hns : pod.metadata.ns = some ns) : w.calls i = none ∧ w'.Serving i ns := by
  cases h with
  | apply i pod hfree => exact ⟨hfree, .ofPod c pod, by simp [put], Call.serves_ofPod hns⟩

/-- A call for a pod of a namespace begins one evaluation, and at most one more for
each change of a policy of the namespace since it began.  It begins none after its
end, and until then it can always go on.  On every schedule that goes on forever,
gives the call its turns, answers its listings, and changes the policies of the
namespace only finitely often, whatever else it does, the call returns or is
cancelled. -/
theorem reevaluation_terminates (c : Config) (i : Nat) (pod : Pod) (ns : String)
    (hns : pod.metadata.ns = some ns) :
    (forall before during w, run c (before ++ .apply i pod :: during) {} = some w ->
      w.evaluations i ≤ 1 + changes ns during ∧
      (¬ w.UnderWay i ->
        forall after w', run c after w = some w' -> w'.evaluations i = w.evaluations i) ∧
      (w.UnderWay i -> exists m w', m ≠ .cancel ∧ w.step c (.move i m) = some w')) ∧
    (forall schedule worlds, Endless c schedule worlds ->
      (exists n, schedule n = .apply i pod) -> Attended schedule worlds i ->
      (exists n, forall m, n ≤ m -> ¬ (schedule m).Resets ns) ->
      exists n, ((worlds n).calls i).bind Call.returned? ≠ none ∨
        schedule n = .move i .cancel) := by
  constructor
  · intro before during w h
    have hrun := h
    rw [run_append, Option.bind_eq_some_iff] at h
    rcases h with ⟨u, hu, hrest⟩
    rcases Option.bind_eq_some_iff.mp hrest with ⟨v, hv, hduring⟩
    have hstep := steps_of_step hv
    rcases hstep.applied hns with ⟨hfree, hserving⟩
    refine ⟨?_, ?_, exists_move hrun⟩
    · have hbegun : v.evaluations i = 0 := by
        rw [hstep.evaluations_of_ne Event.noConfusion, evaluations_of_free hu hfree]
      have hdue := run_due hduring hserving
      have hfirst := v.due_le_one i
      omega
    · intro hended after w' hafter
      rcases (run_serving hduring hserving).exists_isOver hended with ⟨call, hcall, hidle, _⟩
      exact run_ended hafter hcall hidle
  · rintro schedule worlds hendless ⟨start, hstart⟩ hattended ⟨rest, hrest⟩
    have hbegin := hendless.step start
    rw [hstart] at hbegin
    have hserving := ((steps_of_step hbegin).applied hns).right
    -- The call is there from the step after its beginning, and nothing disturbs it from `rest`.
    have hlater := hendless.serving hserving (Nat.le_max_left (start + 1) rest)
    have hquiet : forall m, max (start + 1) rest ≤ m -> ¬ (schedule m).Resets ns :=
      fun m hm => hrest m (Nat.le_trans (Nat.le_max_right _ _) hm)
    rcases hendless.exists_ended hlater hquiet hattended with ⟨n, _, hend, hended⟩
    rcases hend.exists_isOver hended with ⟨call, hcall, _, ⟨result, hresult⟩ | ⟨e, rfl⟩⟩
    · exact ⟨n, Or.inl (by simp [hcall, hresult])⟩
    · rcases hendless.cancelled hcall with ⟨m, hm⟩
      exact ⟨m, Or.inr hm⟩

/-- A policy changes while a call evaluates its pod, and the call begins a second evaluation.
Then pods are deleted forever. -/
theorem reevaluation_terminates_after_change :
    let c : Config := { node := "node" }
    let pod : Pod :=
      { metadata := { uid := some "u", ns := some "default" },
        spec := some { nodeName := some "node" } }
    let policy : Policy := { metadata := { name := some "web", ns := some "default" }, spec := {} }
    let during : List Event :=
      [.move 0 .check, .move 0 (.ask (.policies "default")), .policy (.apply policy),
        .deletePod pod, .move 0 (.receivePolicies (.ok [])), .move 0 .commit, .move 0 .check,
        .move 0 (.ask (.policies "default")), .move 0 (.receivePolicies (.ok [])),
        .move 0 .commit]
    let schedule : Nat -> Event := fun n => (.apply 0 pod :: during).getD n (.deletePod pod)
    pod.metadata.ns = some "default" ∧
      (exists w, run c (.apply 0 pod :: during) {} = some w ∧ w.evaluations 0 = 2 ∧
        changes "default" during = 1 ∧ w.evaluations 0 ≤ 1 + changes "default" during) ∧
      exists worlds, Endless c schedule worlds ∧ Attended schedule worlds 0 ∧
        (forall m, 11 ≤ m -> ¬ (schedule m).Resets "default") ∧
        exists n, ((worlds n).calls 0).bind Call.returned? ≠ none ∨
          schedule n = .move 0 .cancel := by
  intro c pod policy during schedule
  have hend : (run c (.apply 0 pod :: during) {}).map
      (fun w => (w.evaluations 0, (w.calls 0).map Call.isUnderWay)) = some (2, some false) := by
    decide +kernel
  rcases Option.map_eq_some_iff.mp hend with ⟨w, hw, hpair⟩
  obtain ⟨htwice, hidle⟩ := Prod.mk.inj hpair
  rcases Option.map_eq_some_iff.mp hidle with ⟨call, hcall, hidle⟩
  have hclaim := reevaluation_terminates c 0 pod "default" rfl
  rcases exists_endless_from pod hw with ⟨worlds, hstart, hsteps, hcalls⟩
  have hendless : Endless c schedule worlds := ⟨hstart, hsteps⟩
  have hquiet : forall m, 11 ≤ m -> ¬ (schedule m).Resets "default" := by
    intro m hm
    have hdelete : schedule m = .deletePod pod := by
      simp only [schedule, List.getD, List.getElem?_eq_none (l := .apply 0 pod :: during) hm]
      rfl
    rw [hdelete]
    exact id
  -- The last turn of the call is the eleventh event, and it has ended by then.
  have hturn : forall n asked e, (worlds n).calls 0 = some (.active e asked) ->
      e.result? = none -> exists m, n ≤ m ∧ (schedule m).call? = some 0 := by
    intro n asked e hactive hresult
    by_cases hn : n ≤ 10
    · exact ⟨10, hn, rfl⟩
    · rw [hcalls n (by simp [during]; omega), hcall] at hactive
      cases hactive
      simp [Call.isUnderWay, hresult] at hidle
  have hattended : Attended schedule worlds 0 :=
    ⟨fun n => hturn n true, fun n => hturn n false⟩
  exact ⟨rfl, ⟨w, hw, htwice, rfl, (hclaim.left [] during w hw).left⟩, worlds, hendless, hattended,
    hquiet, hclaim.right schedule worlds hendless ⟨0, rfl⟩ hattended ⟨11, hquiet⟩⟩

end World

end Controller

end PodIsolation
