import PodIsolation.Proofs.CallAccount

/-!
# Shares of the counters

## Counters as sums

Every event belongs to one call at the most, and leaves the accounts of all others as
they are.  Where a call begins, its share is nothing yet, and where it takes a step,
its share grows by what the counters grow.  So the counters of a controller are at any
time the sum of the shares of its calls, and the account of each call is balanced.
-/

namespace PodIsolation

namespace Controller

/-- The call that begins with the event. -/
def Event.begun? : Event -> Option Nat
  | .apply i _ => some i
  | _ => none

namespace World

/-- The calls that have begun, with the latest first. -/
def begun (w : World) : List Nat :=
  w.past.filterMap fun r => r.event.begun?

/-- How many calls are of a kind. -/
def number (w : World) (p : Nat -> Bool) : Nat :=
  w.begun.countP p

/-- What all calls come to together. -/
def total [AddCommMonoid M] (w : World) (f : Nat -> M) : M :=
  (w.begun.map f).sum

/-- What a call has returned, if it has. -/
def returned? (w : World) (i : Nat) : Option (Except String Dispatch) :=
  (w.calls i).bind Call.returned?

/-- What the provisioning of the rules of a call came to, as far as the controller has
learned of it. -/
def outcome? (w : World) (i : Nat) : Option Outcome :=
  (w.calls i).bind Call.outcome?

/-- How many evaluations of the call were discarded. -/
def discards (w : World) (i : Nat) : Nat :=
  w.past.countP (Record.commits i Phase.isStart)

/-- The call has found its pod marked at a commitment. -/
def overtaken (w : World) (i : Nat) : Bool :=
  w.past.any (Record.commits i Phase.isOvertaken)

def account (w : World) (i : Nat) : Account where
  call := w.calls i
  evaluations := w.evaluations i
  discards := w.discards i
  overtaken := w.overtaken i

variable {c : Config} {w w' : World} {event : Event} {events : List Event} {i : Nat}

/-!
# Sums over calls
-/

theorem total_congr [AddCommMonoid M] {f g : Nat -> M} (h : forall i, i ∈ w.begun -> f i = g i) :
    w.total f = w.total g :=
  congrArg List.sum (List.map_congr_left h)

/-- Where one call comes to something else, the total changes by the difference. -/
theorem total_update [AddCommMonoid M] {f g : Nat -> M} (hapart : w.begun.Nodup)
    (hi : i ∈ w.begun) (hsame : forall j, j ≠ i -> g j = f j) :
    w.total g + f i = w.total f + g i := by
  have hothers : ((w.begun.erase i).map g).sum = ((w.begun.erase i).map f).sum := by
    refine congrArg List.sum (List.map_congr_left fun j hj => hsame j ?_)
    exact (hapart.mem_erase_iff.mp hj).left
  unfold total
  rw [← List.sum_map_erase f hi, ← List.sum_map_erase g hi, hothers, add_right_comm,
    add_comm (g i), add_right_comm]

theorem number_eq_total (w : World) (p : Nat -> Bool) :
    w.number p = w.total fun i => (p i).toNat := by
  unfold number total
  induction w.begun with
  | nil => rfl
  | cons i rest ih =>
      rw [List.countP_cons, List.map_cons, List.sum_cons, ih]
      cases p i <;> simp [Nat.add_comm]

/-!
# Accounts after a step
-/

theorem Steps.begun_eq (h : Steps c w event w') :
    w'.begun = event.begun?.toList ++ w.begun := by
  unfold World.begun
  rw [h.record, List.filterMap_cons]
  cases event.begun? <;> rfl

/-- What an event adds to the account of a call. -/
theorem Steps.account (h : Steps c w event w') (i : Nat) :
    w'.account i =
      (w.account i).record i ⟨event, event.call?.bind w'.calls⟩ (w'.calls i) := by
  have htally : forall p : Record -> Bool, w'.past.countP p =
      w.past.countP p + (p ⟨event, event.call?.bind w'.calls⟩).toNat := by
    intro p
    rw [h.record, List.countP_cons]
    cases p _ <;> rfl
  simp only [World.account, Account.record, World.evaluations, discards, overtaken, htally]
  rw [h.record, List.any_cons]

/-- An event changes no account but that of its call. -/
theorem Steps.account_of_ne (h : Steps c w event w') (hother : event.call? ≠ some i) :
    w'.account i = w.account i := by
  have hbegins : ¬ Record.begins i ⟨event, event.call?.bind w'.calls⟩ = true :=
    fun hbegins => hother (congrArg Event.call? (Record.event_of_begins hbegins))
  have hcommits : forall p, ¬ Record.commits i p ⟨event, event.call?.bind w'.calls⟩ = true :=
    fun p hcommits => hother (Record.call?_of_commits hcommits)
  rw [h.account i, Account.record, h.calls_of_ne hother]
  simp [hbegins, hcommits, World.account]

/-- The account of a call is opened as it begins. -/
theorem Steps.account_apply {pod : Pod} (h : Steps c w (.apply i pod) w')
    (hbalanced : (w.account i).Balanced) :
    w.calls i = none ∧ w'.account i = .opened c pod := by
  have haccount := h.account i
  cases h with
  | apply i pod hfree =>
      refine ⟨hfree, ?_⟩
      rw [haccount, hbalanced.fresh hfree]
      simp [Account.record, Account.opened, Record.begins, Record.commits, put]

theorem Steps.account_move {m : Move} (h : Steps c w (.move i m) w') :
    exists call after, w.calls i = some call ∧ call.Moves c.mode w.state m w'.state after ∧
      w'.account i = (w.account i).move i m after := by
  have haccount := h.account i
  cases h with
  | @move i m call after state hcall hmoves =>
      refine ⟨call, after, hcall, hmoves, ?_⟩
      rw [haccount]
      simp [Account.move, Event.call?, put]

/-!
# The sum of all shares
-/

/-- All calls are accounted for, and the counters are the sum of their shares. -/
structure Accounted (w : World) : Prop where
  apart : w.begun.Nodup
  begun : forall i, i ∈ w.begun <-> w.calls i ≠ none
  balanced : forall i, (w.account i).Balanced
  metrics : w.state.metrics = w.total fun i => (w.account i).share

theorem accounted_empty : Accounted {} where
  apart := List.nodup_nil
  begun i := by simp [World.begun]
  balanced i := Account.balanced_empty
  metrics := rfl

theorem Accounted.balanced_step (h : w.Accounted) (hstep : Steps c w event w') (i : Nat) :
    (w'.account i).Balanced := by
  by_cases hown : event.call? = some i
  · cases event with
    | apply j pod =>
        cases hown
        rw [(hstep.account_apply (h.balanced i)).right]
        exact Account.balanced_opened c pod
    | move j m =>
        cases hown
        rcases hstep.account_move with ⟨call, after, hcall, hmoves, hmoved⟩
        rw [hmoved]
        exact (h.balanced i).move hcall hmoves i
    | deletePod pod | policy d => cases hown
  · rw [hstep.account_of_ne hown]
    exact h.balanced i

theorem Accounted.begun_step (h : w.Accounted) (hstep : Steps c w event w') :
    w'.begun.Nodup ∧ forall i, i ∈ w'.begun <-> w'.calls i ≠ none := by
  rw [hstep.begun_eq]
  cases hstep with
  | apply i pod hfree =>
      refine ⟨List.nodup_cons.mpr ⟨fun hi => (h.begun i).mp hi hfree, h.apart⟩, ?_⟩
      intro j
      by_cases hij : j = i <;> simp [Event.begun?, put, hij, h.begun j]
  | @move i m call after state hcall hmoves =>
      refine ⟨h.apart, ?_⟩
      intro j
      by_cases hij : j = i
      · subst hij
        simp [Event.begun?, put, h.begun, hcall]
      · simp [Event.begun?, put, hij, h.begun]
  | deletePod pod | policy d => exact ⟨h.apart, h.begun⟩

theorem metrics_podDeleted (s : State) (pod : Pod) :
    (s.podDeleted pod).metrics = s.metrics := by
  unfold State.podDeleted
  split <;> rfl

theorem metrics_policyChanged (s : State) (p : Policy) :
    (s.policyChanged p).metrics = s.metrics := by
  unfold State.policyChanged
  split <;> rfl

/-- An event that is no step of a call changes no counter. -/
theorem Steps.metrics (h : Steps c w event w') (hevent : forall i m, event ≠ .move i m) :
    w'.state.metrics = w.state.metrics := by
  cases h with
  | apply i pod hfree => rfl
  | move i hcall hmoves => exact absurd rfl (hevent _ _)
  | deletePod pod => exact metrics_podDeleted w.state pod
  | policy d => cases d <;> exact metrics_policyChanged w.state _

theorem Steps.total_kept [AddCommMonoid M] (h : Steps c w event w')
    (hbegun : event.begun? = none) (f : Nat -> M) : w'.total f = w.total f := by
  unfold total
  rw [h.begun_eq, hbegun]
  rfl

theorem Steps.total_apply [AddCommMonoid M] {pod : Pod} (h : Steps c w (.apply i pod) w')
    (f : Nat -> M) : w'.total f = f i + w.total f := by
  unfold total
  rw [h.begun_eq]
  exact List.sum_cons

theorem Accounted.metrics_apply {pod : Pod} (h : w.Accounted)
    (hstep : Steps c w (.apply i pod) w') :
    w'.state.metrics = w'.total fun j => (w'.account j).share := by
  obtain ⟨hfree, hopened⟩ := hstep.account_apply (h.balanced i)
  have hshare : (w'.account i).share = 0 := by
    rw [hopened]
    exact (Account.opened_cases c pod).right.right
  have hothers : forall j, j ∈ w.begun -> (w'.account j).share = (w.account j).share := by
    intro j hj
    rw [hstep.account_of_ne]
    intro hown
    cases hown
    exact (h.begun i).mp hj hfree
  calc
    w'.state.metrics = w.state.metrics := hstep.metrics nofun
    _ = w.total fun j => (w'.account j).share := h.metrics.trans (total_congr hothers).symm
    _ = w'.total fun j => (w'.account j).share := by
      rw [hstep.total_apply, hshare, zero_add]

/-- The counters and the share of the call grow by the same. -/
theorem Accounted.metrics_move {m : Move} (h : w.Accounted) (hstep : Steps c w (.move i m) w') :
    w'.state.metrics = w'.total fun j => (w'.account j).share := by
  rcases hstep.account_move with ⟨call, after, hcall, hmoves, hmoved⟩
  have hi : i ∈ w.begun := (h.begun i).mpr (by simp [hcall])
  have hothers : forall j, j ≠ i -> (w'.account j).share = (w.account j).share := by
    intro j hj
    rw [hstep.account_of_ne fun hown => hj (Option.some.inj hown).symm]
  have hadded := Account.share_move (a := w.account i) hcall hmoves i
  have htotal := total_update h.apart hi hothers
  apply add_right_cancel (b := (w.account i).share)
  rw [hadded, ← hmoved, h.metrics, ← htotal, hstep.total_kept rfl]

theorem Accounted.metrics_quiet (h : w.Accounted) (hstep : Steps c w event w')
    (hquiet : event.call? = none) :
    w'.state.metrics = w'.total fun i => (w'.account i).share := by
  have hevent : event.begun? = none ∧ forall i m, event ≠ .move i m := by
    cases event with
    | apply i pod | move i m => cases hquiet
    | deletePod pod | policy d => exact ⟨rfl, nofun⟩
  have hkept : forall i, i ∈ w.begun -> (w.account i).share = (w'.account i).share := by
    intro i _
    rw [hstep.account_of_ne]
    rw [hquiet]
    exact (Option.some_ne_none i).symm
  rw [hstep.metrics hevent.right, h.metrics, hstep.total_kept hevent.left]
  exact total_congr hkept

theorem Accounted.metrics_step (h : w.Accounted) (hstep : Steps c w event w') :
    w'.state.metrics = w'.total fun i => (w'.account i).share := by
  cases event with
  | apply i pod => exact h.metrics_apply hstep
  | move i m => exact h.metrics_move hstep
  | deletePod pod | policy d => exact h.metrics_quiet hstep rfl

theorem Accounted.step (h : w.Accounted) (hstep : Steps c w event w') : w'.Accounted where
  apart := (h.begun_step hstep).left
  begun := (h.begun_step hstep).right
  balanced := h.balanced_step hstep
  metrics := h.metrics_step hstep

/-- A counter is the sum of what the calls have added to it. -/
theorem Accounted.counter (h : w.Accounted) (counter : Metrics -> Nat) (hzero : counter 0 = 0)
    (hadd : forall m n, counter (m + n) = counter m + counter n) {f : Nat -> Nat}
    (hf : forall i, i ∈ w.begun -> counter (w.account i).share = f i) :
    counter w.state.metrics = w.total f := by
  let hom : Metrics →+ Nat := ⟨⟨counter, hzero⟩, hadd⟩
  rw [h.metrics, ← total_congr hf]
  unfold total
  rw [show counter = hom from rfl, map_list_sum, List.map_map]
  rfl

theorem total_add (w : World) (f g : Nat -> Nat) :
    w.total (fun i => f i + g i) = w.total f + w.total g :=
  List.sum_map_add

end World

end Controller

end PodIsolation
