import Mathlib.Algebra.BigOperators.Group.List.Basic
import PodIsolation.Proofs.EvaluationBound
import PodIsolation.Proofs.MarkHistory

/-!
# Accounts of calls

## Evaluations and counters

The evaluations of a call can be accounted for one by one.  Each was discarded, as
policies had changed, or was overtaken, as the pod had been marked meanwhile, or it
is under way, or it came to what the call returned.

What a call has added to the counters of the controller can be told from the number of
its evaluations, from what it returned and from the outcome of its dispatch.  A step of
the call adds to the counters what it adds to this share.
-/

namespace PodIsolation

attribute [ext] Metrics

namespace Metrics

/-!
# Sums of counters
-/

instance : Add Metrics where
  add m n :=
    { evaluated := m.evaluated + n.evaluated
      unmanaged := m.unmanaged + n.unmanaged
      provisioned := m.provisioned + n.provisioned
      failed := m.failed + n.failed
      rulesInstalled := m.rulesInstalled + n.rulesInstalled
      rulesFailed := m.rulesFailed + n.rulesFailed }

instance : Zero Metrics where
  zero := {}

section Counters

variable (m n : Metrics)

@[simp] theorem evaluated_add : (m + n).evaluated = m.evaluated + n.evaluated := rfl
@[simp] theorem unmanaged_add : (m + n).unmanaged = m.unmanaged + n.unmanaged := rfl
@[simp] theorem provisioned_add : (m + n).provisioned = m.provisioned + n.provisioned := rfl
@[simp] theorem failed_add : (m + n).failed = m.failed + n.failed := rfl
@[simp] theorem rulesInstalled_add :
    (m + n).rulesInstalled = m.rulesInstalled + n.rulesInstalled := rfl
@[simp] theorem rulesFailed_add : (m + n).rulesFailed = m.rulesFailed + n.rulesFailed := rfl

@[simp] theorem evaluated_zero : (0 : Metrics).evaluated = 0 := rfl
@[simp] theorem unmanaged_zero : (0 : Metrics).unmanaged = 0 := rfl
@[simp] theorem provisioned_zero : (0 : Metrics).provisioned = 0 := rfl
@[simp] theorem failed_zero : (0 : Metrics).failed = 0 := rfl
@[simp] theorem rulesInstalled_zero : (0 : Metrics).rulesInstalled = 0 := rfl
@[simp] theorem rulesFailed_zero : (0 : Metrics).rulesFailed = 0 := rfl

@[simp]
theorem evaluated_countOutcome (o : Outcome) :
    (m.countOutcome o).evaluated = m.evaluated := by
  cases o <;> rfl

@[simp]
theorem unmanaged_countOutcome (o : Outcome) :
    (m.countOutcome o).unmanaged = m.unmanaged := by
  cases o <;> rfl

/-- An outcome adds the same to all counters. -/
theorem countOutcome_eq (o : Outcome) : m.countOutcome o = m + countOutcome 0 o := by
  cases o <;> ext <;> simp [countOutcome]

end Counters

instance : AddCancelCommMonoid Metrics where
  add_assoc a b c := by ext <;> exact Nat.add_assoc _ _ _
  zero_add a := by ext <;> exact Nat.zero_add _
  add_zero a := by ext <;> exact Nat.add_zero _
  add_comm a b := by ext <;> exact Nat.add_comm _ _
  nsmul := nsmulRec
  add_left_cancel a b c h := by
    rw [Metrics.ext_iff] at h ⊢
    simpa using h

end Metrics

/-- The outcomes of a provisioning that was aborted. -/
def Outcome.isFailure : Outcome -> Bool
  | .ok _ => false
  | .error (.netns _ _) => true
  | .error (.chain _ _) => true
  | .error (.notStarted _) => true
  | .error .panicked => true

/-- What one outcome adds to the counters. -/
theorem Metrics.countOutcome_zero (o : Outcome) :
    (countOutcome 0 o).provisioned + (countOutcome 0 o).failed = 1 ∧
      (countOutcome 0 o).failed = (Outcome.isFailure o).toNat ∧
      (countOutcome 0 o).rulesInstalled = o.toOption.elim 0 Report.installed ∧
      (countOutcome 0 o).rulesFailed = o.toOption.elim 0 Report.failed := by
  rcases o with e | r
  · cases e <;> exact ⟨rfl, rfl, rfl, rfl⟩
  · refine ⟨rfl, rfl, ?_, ?_⟩ <;> exact Nat.zero_add _

namespace Controller

/-!
# What became of evaluations
-/

/-- A commitment of the call after which it stands in such a phase. -/
def Record.commits (i : Nat) (p : Phase -> Bool) (r : Record) : Bool :=
  match r.event, r.call with
  | .move j .commit, some (.active e _) => j == i && p e.phase
  | _, _ => false

def Phase.isStart : Phase -> Bool
  | .start => true
  | _ => false

/-- The pod was found to be marked. -/
def Phase.isOvertaken : Phase -> Bool
  | .ended (.ok .alreadyProvisioned) => true
  | _ => false

/-- The result of an evaluation that counted, or an error. -/
def isConclusion : Except String Dispatch -> Bool
  | .ok d => d.isVerdict
  | .error _ => true

def isUnmanaged : Except String Dispatch -> Bool
  | .ok .unmanaged => true
  | _ => false

def isDispatch : Except String Dispatch -> Bool
  | .ok (.provisioning _) => true
  | _ => false

/-- Evaluations in this phase that are neither discarded nor overtaken. -/
def Phase.counted : Phase -> Nat
  | .start => 0
  | .ended result => (isConclusion result).toNat
  | _ => 1

def Call.counted : Call -> Nat
  | .refused d => d.isVerdict.toNat
  | .active e _ => e.phase.counted
  | .cancelled e => e.phase.counted
  | .completed e _ => e.phase.counted

/-- What the provisioning of the dispatched rules came to. -/
def Call.outcome? : Call -> Option Outcome
  | .completed _ o => some o
  | _ => none

theorem Record.call?_of_commits {i : Nat} {p : Phase -> Bool} {r : Record}
    (h : r.commits i p = true) : r.event.call? = some i := by
  unfold commits at h
  split at h
  · rename_i j _ _ hevent _
    have hij : j = i := eq_of_beq (Bool.and_eq_true_iff.mp h).left
    rw [hevent, hij]
    rfl
  · cases h

namespace Call

variable {c : Config} {mode : EntryMode} {s s' : State} {call after : Call} {m : Move}

theorem counted_of_returned {result : Except String Dispatch}
    (h : call.returned? = some result) : call.counted = (isConclusion result).toNat := by
  have hended : forall e : Evaluation, e.result? = some result ->
      e.phase.counted = (isConclusion result).toNat := by
    intro e he
    unfold Evaluation.result? at he
    split at he
    · rename_i hphase
      cases he
      rw [hphase]
      rfl
    · cases he
  cases call with
  | refused d =>
      cases h
      rfl
  | active e asked => exact hended e h
  | cancelled e => cases h
  | completed e o => exact hended e h

theorem returned?_of_launch? {l : Launch} (h : call.launch? = some l) :
    call.returned? = some (.ok (.provisioning l.rules)) := by
  have hresult : forall e : Evaluation, e.launch? = some l ->
      e.result? = some (.ok (.provisioning l.rules)) := by
    intro e he
    unfold Evaluation.launch? at he
    split at he
    · rename_i hphase
      cases he
      rw [Evaluation.result?, hphase]
    · cases he
  cases call with
  | active e asked => exact hresult e h
  | completed e o => exact hresult e h
  | refused | cancelled => cases h

/-- A call begins with nothing to account for. -/
theorem ofPod_cases (c : Config) (pod : Pod) :
    (exists d, ofPod c pod = .refused d ∧ d.isVerdict = false) ∨
      exists e, ofPod c pod = .active e false ∧ e.phase = .start := by
  cases hcall : ofPod c pod with
  | refused d =>
      have hreturned : (ofPod c pod).returned? = some (.ok d) := by
        rw [hcall]
        rfl
      exact Or.inl ⟨d, rfl, isVerdict_of_ofPod hreturned⟩
  | active e asked =>
      obtain ⟨-, -, -, hphase, rfl⟩ := ofPod_eq_active hcall
      exact Or.inr ⟨e, rfl, hphase⟩
  | cancelled e => exact absurd hcall (ofPod_ne_cancelled pod e)
  | completed e o =>
      unfold ofPod at hcall
      split at hcall <;> cases hcall

/-!
# What a step adds
-/

/-- An evaluation that begins is one to account for, and it stays so until it is
discarded, overtaken or has come to a result. -/
theorem Moves.account (h : call.Moves mode s m s' after) (i : Nat) :
    (Record.begins i ⟨.move i m, some after⟩).toNat + call.counted =
      (Record.commits i Phase.isStart ⟨.move i m, some after⟩).toNat +
        (Record.commits i Phase.isOvertaken ⟨.move i m, some after⟩).toNat + after.counted := by
  cases h with
  | @cancel e asked hphase =>
      cases hawaited : e.phase <;>
        simp_all [Record.begins, Record.commits, Phase.isAwaiting, counted]
  | leave hphase | evaluate hphase | askPolicies hphase | policiesFailed _ hphase
  | policiesNone hphase | policiesSome hphase | askEndpoints hphase | endpointsFailed _ hphase
  | endpoints _ hphase | stale hphase | unmanaged hphase | noEndpoints hphase
  | overtaken hphase | dispatch hphase | complete _ hphase =>
      simp [Record.begins, Record.commits, Phase.isStart, Phase.isOvertaken, Phase.isAwaiting,
        counted, Phase.counted, hphase, isConclusion, Dispatch.isVerdict]

/-- What a call that has begun so many evaluations has added to the counters. -/
def share (evaluations : Nat) (call : Call) : Metrics :=
  { call.outcome?.elim 0 (Metrics.countOutcome 0) with
    evaluated := evaluations
    unmanaged := (call.returned?.any isUnmanaged).toNat }

/-- A step of a call adds to the counters what it adds to the share of the call. -/
theorem Moves.metrics (h : call.Moves mode s m s' after) (i evaluations : Nat) :
    s'.metrics + call.share evaluations = s.metrics +
      after.share (evaluations + (Record.begins i ⟨.move i m, some after⟩).toNat) := by
  cases h with
  | evaluate hphase hnew =>
      ext <;> simp +arith [Record.begins, Phase.isAwaiting, share, outcome?, returned?,
        Evaluation.result?, hphase, Metrics.countEvaluated]
  | complete o hphase =>
      ext <;> simp [Record.begins, share, outcome?, returned?, Evaluation.result?, hphase,
        State.countOutcome, Metrics.countOutcome_eq s.metrics, isUnmanaged]
  | @cancel e asked hawaiting =>
      cases hphase : e.phase <;> simp_all [Record.begins, Phase.isAwaiting, share, outcome?,
        returned?, Evaluation.result?]
  | leave hphase | askPolicies hphase | policiesFailed _ hphase | policiesNone hphase
  | policiesSome hphase | askEndpoints hphase | endpointsFailed _ hphase | endpoints _ hphase
  | stale hphase | unmanaged hphase | noEndpoints hphase | overtaken hphase | dispatch hphase =>
      ext <;> simp [Record.begins, Phase.isAwaiting, share, outcome?, returned?,
        Evaluation.result?, hphase, State.mark, Metrics.countUnmanaged, isUnmanaged]

theorem Moves.completed {e : Evaluation} {o : Outcome}
    (h : call.Moves mode s m s' (.completed e o)) : m = .complete o := by
  cases h
  rfl

/-- A call has had no outcome unless it has dispatched rules. -/
theorem Moves.dispatched (h : call.Moves mode s m s' after) {o : Outcome}
    (ho : after.outcome? = some o) : after.returned?.any isDispatch = true := by
  cases h with
  | complete o hphase => simp [returned?, Evaluation.result?, hphase, isDispatch]
  | _ => cases ho

/-- A call that has returned commits nothing any more. -/
theorem Moves.returnedBefore (h : call.Moves mode s m s' after) {result : Except String Dispatch}
    (hresult : call.returned? = some result) :
    after.returned? = some result ∧ m ≠ .commit := by
  cases h with
  | complete o hphase => exact ⟨hresult, Move.noConfusion⟩
  | @cancel e asked hawaiting =>
      cases hphase : e.phase <;> simp_all [returned?, Evaluation.result?, Phase.isAwaiting]
  | _ => simp_all [returned?, Evaluation.result?]

end Call

theorem Record.commit_of_commits {i j : Nat} {p : Phase -> Bool} {m : Move} {call : Option Call}
    (h : Record.commits i p ⟨.move j m, call⟩ = true) : m = .commit := by
  unfold commits at h
  split at h
  · rename_i hevent _
    exact (Event.move.inj hevent).right
  · cases h

theorem Record.returned_of_overtaken {i j : Nat} {m : Move} {call : Call}
    (h : Record.commits i Phase.isOvertaken ⟨.move j m, some call⟩ = true) :
    call.returned? = some (.ok .alreadyProvisioned) := by
  unfold commits at h
  split at h
  · rename_i e _ _ hcall
    cases hcall
    have hphase : e.phase.isOvertaken = true := (Bool.and_eq_true_iff.mp h).right
    unfold Phase.isOvertaken at hphase
    split at hphase
    · rename_i hended
      simp [Call.returned?, Evaluation.result?, hended]
    · cases hphase
  · cases h

/-!
# The account of a call
-/

/-- A call as it stands, with what became of its evaluations so far. -/
structure Account where
  call : Option Call := none
  evaluations : Nat := 0
  discards : Nat := 0
  overtaken : Bool := false

namespace Account

def returned? (a : Account) : Option (Except String Dispatch) :=
  a.call.bind Call.returned?

def outcome? (a : Account) : Option Outcome :=
  a.call.bind Call.outcome?

def counted (a : Account) : Nat :=
  a.call.elim 0 Call.counted

/-- The account of a call that begins. -/
def opened (c : Config) (pod : Pod) : Account :=
  { call := some (.ofPod c pod) }

/-- The account of call `i` after an event, which leaves the call as given. -/
def record (a : Account) (i : Nat) (r : Record) (call : Option Call) : Account where
  call := call
  evaluations := a.evaluations + (r.begins i).toNat
  discards := a.discards + (r.commits i Phase.isStart).toNat
  overtaken := r.commits i Phase.isOvertaken || a.overtaken

/-- The account after a step of the call. -/
def move (a : Account) (i : Nat) (m : Move) (after : Call) : Account :=
  a.record i ⟨.move i m, some after⟩ (some after)

/-- What the call has added to the counters. -/
def share (a : Account) : Metrics :=
  a.call.elim 0 (Call.share a.evaluations)

/-- Each evaluation of the call is accounted for. -/
structure Balanced (a : Account) : Prop where
  fresh : a.call = none -> a = {}
  evaluations : a.evaluations = a.discards + a.overtaken.toNat + a.counted
  overtaken : a.overtaken = true -> a.returned? = some (.ok .alreadyProvisioned)
  dispatched : forall o, a.outcome? = some o -> a.returned?.any isDispatch = true

variable {c : Config} {mode : EntryMode} {s s' : State} {a : Account} {call after : Call}
  {m : Move}

theorem balanced_empty : Balanced {} where
  fresh _ := rfl
  evaluations := rfl
  overtaken := nofun
  dispatched := nofun

theorem opened_cases (c : Config) (pod : Pod) :
    (opened c pod).counted = 0 ∧ (opened c pod).outcome? = none ∧ (opened c pod).share = 0 := by
  unfold opened
  rcases Call.ofPod_cases c pod with ⟨d, hcall, hd⟩ | ⟨e, hcall, hphase⟩
  · rw [hcall]
    cases d with
    | unmanaged | noEndpoints | provisioning => cases hd
    | otherNode | incomplete | alreadyProvisioned => exact ⟨rfl, rfl, rfl⟩
  · have hcounted : e.phase.counted = 0 := by
      rw [hphase]
      rfl
    have hresult : e.result? = none := by
      rw [Evaluation.result?, hphase]
    refine ⟨by rw [hcall]; exact hcounted, by rw [hcall]; rfl, ?_⟩
    rw [share, hcall, Option.elim_some, Call.share, Call.returned?, hresult]
    rfl

theorem balanced_opened (c : Config) (pod : Pod) : (opened c pod).Balanced := by
  obtain ⟨hcounted, houtcome, -⟩ := opened_cases c pod
  constructor
  · exact nofun
  · rw [hcounted]
    rfl
  · exact nofun
  · intro o ho
    rw [houtcome] at ho
    cases ho

/-- A call finds its pod marked once at the most, since it has returned then. -/
theorem Balanced.move (h : a.Balanced) (hcall : a.call = some call)
    (hmoves : call.Moves mode s m s' after) (i : Nat) : (a.move i m after).Balanced := by
  have hreturned : a.returned? = call.returned? := by
    rw [returned?, hcall]
    rfl
  have hkept : a.overtaken = true -> after.returned? = some (.ok .alreadyProvisioned) ∧
      forall p, Record.commits i p ⟨.move i m, some after⟩ = false := by
    intro hover
    obtain ⟨hafter, hm⟩ := hmoves.returnedBefore (hreturned.symm.trans (h.overtaken hover))
    exact ⟨hafter, fun p => Bool.eq_false_iff.mpr fun hp => hm (Record.commit_of_commits hp)⟩
  constructor
  · exact nofun
  · have hbefore := h.evaluations
    have haccount := hmoves.account i
    have honce : (a.move i m after).overtaken.toNat = a.overtaken.toNat +
        (Record.commits i Phase.isOvertaken ⟨.move i m, some after⟩).toNat := by
      unfold Account.move Account.record
      cases hover : a.overtaken with
      | false => simp
      | true => simp [(hkept hover).right]
    rw [honce]
    simp only [Account.move, record, counted, hcall, Option.elim_some] at hbefore haccount ⊢
    omega
  · intro hover
    rcases Bool.or_eq_true_iff.mp hover with hnow | hbefore
    · exact Record.returned_of_overtaken hnow
    · exact (hkept hbefore).left
  · exact fun o ho => hmoves.dispatched ho

theorem share_move (hcall : a.call = some call) (hmoves : call.Moves mode s m s' after)
    (i : Nat) : s'.metrics + a.share = s.metrics + (a.move i m after).share := by
  have hmetrics := hmoves.metrics i a.evaluations
  rw [share, hcall]
  exact hmetrics

theorem Balanced.evaluated_share (h : a.Balanced) :
    a.share.evaluated = a.counted + a.overtaken.toNat + a.discards := by
  have hsplit := h.evaluations
  cases hcall : a.call with
  | none =>
      rw [h.fresh hcall]
      rfl
  | some call =>
      have hshare : a.share.evaluated = a.evaluations := by
        rw [share, hcall]
        rfl
      omega

theorem unmanaged_share (a : Account) :
    a.share.unmanaged = (a.returned?.any isUnmanaged).toNat := by
  unfold share returned?
  cases a.call <;> rfl

/-- The share of a call in the other counters is what its outcome adds to them. -/
theorem outcome_share (a : Account) :
    a.share.provisioned + a.share.failed = a.outcome?.isSome.toNat ∧
      a.share.failed = (a.outcome?.any Outcome.isFailure).toNat ∧
      a.share.rulesInstalled = (a.outcome?.bind Except.toOption).elim 0 Report.installed ∧
      a.share.rulesFailed = (a.outcome?.bind Except.toOption).elim 0 Report.failed := by
  unfold share outcome?
  cases a.call with
  | none => exact ⟨rfl, rfl, rfl, rfl⟩
  | some call =>
      cases houtcome : call.outcome? with
      | none => simp [Call.share, houtcome]
      | some o => simpa [Call.share, houtcome] using Metrics.countOutcome_zero o

end Account

end Controller

end PodIsolation
