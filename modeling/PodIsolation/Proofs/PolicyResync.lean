import PodIsolation.Proofs.CurrentVerdict
import PodIsolation.Proofs.IndexScan
import PodIsolation.Proofs.MarkHistory

/-!
# Resynchronization of policies

## Policies that change unobserved

A stream tells the controller of each change of a policy while it is connected.
It may lag behind.  When it is interrupted, policies change unobserved, and once
it is connected again it lists the policies that there are.  Each of those clears
the marks of its namespace.  Policies that are gone are not listed, so a
namespace that has none left keeps its marks.
-/

namespace PodIsolation

namespace Controller

/-!
# Notices
-/

/-- The policies of a namespace among all policies. -/
def policiesIn (policies : List Policy) (ns : String) : List Policy :=
  policies.filter fun p => p.metadata.ns = some ns

/-- All policies after one of them was applied or deleted.  A policy is known by
its namespace and its name. -/
def changed (policies : List Policy) (d : Delivery Policy) : List Policy :=
  match d with
  | .apply p => without p ++ [p]
  | .delete p => without p
where
  without (p : Policy) : List Policy :=
    policies.filter fun q =>
      ¬ (q.metadata.ns = p.metadata.ns ∧ q.metadata.name = p.metadata.name)

def noticeOf : Delivery Policy -> Notice Policy
  | .apply p => .ok (.apply p)
  | .delete p => .ok (.delete p)

def relisting (policies : List Policy) : List (Notice Policy) :=
  .ok .init :: (policies.map fun p => .ok (.initApply p)) ++ [.ok .initDone]

/-- Handling the notice clears the marks of the namespace. -/
def Concerns (n : Notice Policy) (ns : String) : Prop :=
  exists d, n.reaction = .deliver d ∧ (Event.policy d).Resets ns

/-- After a watch that goes on, the marks that are left are those of namespaces
that none of its notices concerned. -/
theorem get?_watch (s : State) (notices : List (Notice Policy))
    (h : (watch handlePolicy s notices).error = none) (uid ns : String) :
    (watch handlePolicy s notices).state.marks.get? uid = some ns <->
      s.marks.get? uid = some ns ∧ forall n, n ∈ notices -> ¬ Concerns n ns := by
  induction notices generalizing s with
  | nil => simp [watch]
  | cons n rest ih =>
      simp only [watch] at h ⊢
      simp only [List.forall_mem_cons]
      cases hreaction : n.reaction with
      | deliver d =>
          rw [hreaction] at h
          have hconcerns : Concerns n ns <-> (Event.policy d).Resets ns := by
            simp [Concerns, hreaction]
          rw [ih _ h, hconcerns]
          cases d with
          | apply p | delete p =>
              simp only [handlePolicy, State.get?_policyChanged, Event.Resets, and_assoc, ne_eq]
      | pass =>
          rw [hreaction] at h
          have hconcerns : ¬ Concerns n ns := by
            simp [Concerns, hreaction]
          rw [ih _ h]
          simp [hconcerns]
      | fail e =>
          rw [hreaction] at h
          cases h

theorem concerns_noticeOf {d : Delivery Policy} {ns : String} :
    Concerns (noticeOf d) ns <-> (Event.policy d).Resets ns := by
  cases d <;> simp [Concerns, noticeOf, Notice.reaction]

theorem mem_policiesIn {policies : List Policy} {ns : String} {p : Policy} :
    p ∈ policiesIn policies ns <-> p ∈ policies ∧ p.metadata.ns = some ns := by
  simp [policiesIn]

theorem exists_concerns_relisting {policies : List Policy} {ns : String}
    (h : policiesIn policies ns ≠ []) : exists n, n ∈ relisting policies ∧ Concerns n ns := by
  rcases List.exists_mem_of_ne_nil _ h with ⟨p, hp⟩
  obtain ⟨hlisted, hns⟩ := mem_policiesIn.mp hp
  refine ⟨.ok (.initApply p), ?_, .apply p, rfl, hns⟩
  simp [relisting, hlisted]

theorem policiesIn_changed {d : Delivery Policy} {ns : String}
    (h : ¬ (Event.policy d).Resets ns) (policies : List Policy) :
    policiesIn (changed policies d) ns = policiesIn policies ns := by
  have hwithout : forall p : Policy, p.metadata.ns ≠ some ns ->
      policiesIn (changed.without policies p) ns = policiesIn policies ns := by
    intro p hp
    unfold policiesIn changed.without
    rw [List.filter_filter]
    apply List.filter_congr
    intro q _
    by_cases hq : q.metadata.ns = some ns
    · simp [hq, Ne.symm hp]
    · simp [hq]
  cases d with
  | apply p =>
      have hp : p.metadata.ns ≠ some ns := h
      rw [changed, policiesIn, List.filter_append, ← policiesIn, hwithout p hp]
      simp [hp]
  | delete p => exact hwithout p h

/-!
# Deployments
-/

/-- A controller in a cluster, with the stream that tells it of policies. -/
structure Deployment where
  world : World := {}
  policies : List Policy := []
  /-- Changes of policies are noticed. -/
  connected : Bool := false
  /-- What the stream still has to tell. -/
  pending : List (Notice Policy) := []
  /-- What the server has read for the listing that a call asked for. -/
  served : Nat -> Option (List Policy) := fun _ => none
  /-- The listing from which the rules of a pod were compiled last. -/
  basis : String -> List Policy := fun _ => []

inductive Happening where
  /-- A call begins or takes a step, or a pod is deleted. -/
  | act (event : Event)
  /-- The server reads the policies for a call that has asked for them. -/
  | serve (i : Nat)
  /-- What was read for a call arrives. -/
  | receive (i : Nat)
  /-- A policy changes, and the stream notices. -/
  | change (d : Delivery Policy)
  /-- Policies change unobserved. -/
  | drift (policies : List Policy)
  /-- The stream is interrupted, and what it has not told yet may be lost. -/
  | interrupt (e : WatchError) (kept : Nat)
  /-- The stream connects and lists the policies. -/
  | relist
  /-- The watch takes the next notice. -/
  | handle

/-- Events that come in a way of their own. -/
def Event.isFed : Event -> Bool
  | .policy _ => true
  | .move _ (.receivePolicies (.ok _)) => true
  | _ => false

namespace Deployment

/-- The listing of a namespace that a call was served. -/
def listing (s : Deployment) (i : Nat) (ns : String) : List Policy :=
  policiesIn ((s.served i).getD []) ns

/-- The controller has come to a new standing by an event.  An evaluation that
begins anew has been served nothing yet. -/
def advance (s : Deployment) (event : Event) (w : World) : Deployment :=
  match event with
  | .move i .check => { s with world := w, served := fun j => if j = i then none else s.served j }
  | .move i .commit =>
      match (w.calls i).bind Call.launch? with
      | none => { s with world := w }
      | some l =>
          { s with
            world := w
            basis := fun uid => if uid = l.uid then s.listing i l.ns else s.basis uid }
  | _ => { s with world := w }

def step (c : Config) (s : Deployment) : Happening -> Option Deployment
  | .act event =>
      if event.isFed then none else (s.world.step c event).map (s.advance event)
  | .serve i =>
      match s.world.calls i with
      | some (.active e true) =>
          match e.phase with
          | .awaitingPolicies _ =>
              some { s with served := fun j => if j = i then some s.policies else s.served j }
          | _ => none
      | _ => none
  | .receive i =>
      match s.world.calls i, s.served i with
      | some (.active e true), some policies =>
          (s.world.step c (.move i (.receivePolicies (.ok (policiesIn policies e.ns))))).map
            fun w => { s with world := w }
      | _, _ => none
  | .change d =>
      if s.connected then
        some { s with policies := changed s.policies d, pending := s.pending ++ [noticeOf d] }
      else none
  | .drift policies => if s.connected then none else some { s with policies }
  | .interrupt e kept =>
      some { s with connected := false, pending := s.pending.take kept ++ [.error e] }
  | .relist =>
      if s.connected then none
      else some { s with connected := true, pending := s.pending ++ relisting s.policies }
  | .handle =>
      match s.pending with
      | [] => none
      | n :: rest =>
          match n.reaction with
          | .deliver d =>
              (s.world.step c (.policy d)).map fun w => { s with world := w, pending := rest }
          | .pass => some { s with pending := rest }
          | .fail _ => none

/-- The deployment after what has happened, if all of it was possible. -/
def run (c : Config) : List Happening -> Deployment -> Option Deployment
  | [], s => some s
  | h :: rest, s => (s.step c h).bind (run c rest)

variable {c : Config} {s s' : Deployment} {i : Nat} {ns : String}

/-- All that can happen, one case for each way in which it does. -/
inductive Steps (c : Config) (s : Deployment) : Happening -> Deployment -> Prop where
  | act {event : Event} {w : World} : event.isFed = false -> World.Steps c s.world event w ->
      Steps c s (.act event) (s.advance event w)
  | serve {i : Nat} {e : Evaluation} {generation : Nat} :
      s.world.calls i = some (.active e true) -> e.phase = .awaitingPolicies generation ->
      Steps c s (.serve i)
        { s with served := fun j => if j = i then some s.policies else s.served j }
  | receive {i : Nat} {e : Evaluation} {policies : List Policy} {w : World} :
      s.world.calls i = some (.active e true) -> s.served i = some policies ->
      World.Steps c s.world (.move i (.receivePolicies (.ok (policiesIn policies e.ns)))) w ->
      Steps c s (.receive i) { s with world := w }
  | change (d : Delivery Policy) : s.connected = true ->
      Steps c s (.change d)
        { s with policies := changed s.policies d, pending := s.pending ++ [noticeOf d] }
  | drift (policies : List Policy) : s.connected = false ->
      Steps c s (.drift policies) { s with policies }
  | interrupt (e : WatchError) (kept : Nat) :
      Steps c s (.interrupt e kept)
        { s with connected := false, pending := s.pending.take kept ++ [.error e] }
  | relist : s.connected = false ->
      Steps c s .relist
        { s with connected := true, pending := s.pending ++ relisting s.policies }
  | deliver {n : Notice Policy} {rest : List (Notice Policy)} {d : Delivery Policy} {w : World} :
      s.pending = n :: rest -> n.reaction = .deliver d -> World.Steps c s.world (.policy d) w ->
      Steps c s .handle { s with world := w, pending := rest }
  | pass {n : Notice Policy} {rest : List (Notice Policy)} :
      s.pending = n :: rest -> n.reaction = .pass ->
      Steps c s .handle { s with pending := rest }

theorem steps_of_step {happening : Happening} (h : s.step c happening = some s') :
    Steps c s happening s' := by
  cases happening with
  | act event =>
      simp only [step, Option.ite_none_left_eq_some, Option.map_eq_some_iff] at h
      rcases h with ⟨hfed, w, hw, rfl⟩
      exact .act (Bool.eq_false_iff.mpr hfed) (World.steps_of_step hw)
  | serve i =>
      simp only [step] at h
      split at h
      · split at h
        · cases h
          exact .serve ‹_› ‹_›
        · cases h
      · cases h
  | receive i =>
      simp only [step] at h
      split at h
      · rcases Option.map_eq_some_iff.mp h with ⟨w, hw, rfl⟩
        exact .receive ‹_› ‹_› (World.steps_of_step hw)
      · cases h
  | change d =>
      simp only [step, Option.ite_none_right_eq_some] at h
      rcases h with ⟨hconnected, ⟨rfl⟩⟩
      exact .change d hconnected
  | drift policies =>
      simp only [step, Option.ite_none_left_eq_some] at h
      rcases h with ⟨hconnected, ⟨rfl⟩⟩
      exact .drift policies (Bool.eq_false_iff.mpr hconnected)
  | interrupt e kept =>
      cases h
      exact .interrupt e kept
  | relist =>
      simp only [step, Option.ite_none_left_eq_some] at h
      rcases h with ⟨hconnected, ⟨rfl⟩⟩
      exact .relist (Bool.eq_false_iff.mpr hconnected)
  | handle =>
      simp only [step] at h
      split at h
      · cases h
      · split at h
        · rcases Option.map_eq_some_iff.mp h with ⟨w, hw, rfl⟩
          exact .deliver ‹_› ‹_› (World.steps_of_step hw)
        · cases h
          exact .pass ‹_› ‹_›
        · cases h

/-- Handling notices one at a time comes to what the watch makes of all of them. -/
theorem watch_of_handle (h : s.step c .handle = some s') :
    watch handlePolicy s'.world.state s'.pending = watch handlePolicy s.world.state s.pending := by
  cases steps_of_step h with
  | deliver hpending hreaction hw =>
      cases hw
      simp [hpending, watch, hreaction]
  | pass hpending hreaction => simp [hpending, watch, hreaction]

/-!
# What is still known of a listing
-/

/-- The listing is that of the namespace, or it need not be any more: a notice
that concerns the namespace will be handled, or the stream is not connected, or
the namespace has no policies left. -/
def Covered (s : Deployment) (listed : List Policy) (ns : String) : Prop :=
  listed = policiesIn s.policies ns ∨ (exists n, n ∈ s.pending ∧ Concerns n ns) ∨
    s.connected = false ∨ policiesIn s.policies ns = []

/-- A call holds a listing, some policy of which applies to its pod.  If no policy
of the namespace has been noticed to change since, the listing is covered. -/
structure Holds (s : Deployment) (i : Nat) (ns : String) (generation : Nat) : Prop where
  noted : generation ≤ s.world.state.generation ns
  nonempty : s.listing i ns ≠ []
  covered : s.world.state.generation ns = generation -> s.Covered (s.listing i ns) ns

/-- What an evaluation is founded on, phase by phase. -/
def Founded (s : Deployment) (i : Nat) (e : Evaluation) : Prop :=
  match e.phase with
  | .awaitingPolicies generation =>
      generation ≤ s.world.state.generation e.ns ∧
        forall policies, s.served i = some policies ->
          s.world.state.generation e.ns = generation ->
            s.Covered (policiesIn policies e.ns) e.ns
  | .awaitingEndpoints generation _ => s.Holds i e.ns generation
  | .judged generation verdict =>
      forall rules, verdict = .compiled rules -> s.Holds i e.ns generation
  | _ => True

/-- What every step preserves. -/
structure Tracked (s : Deployment) : Prop where
  calls : forall i e asked, s.world.calls i = some (.active e asked) -> s.Founded i e
  marks : forall uid ns, s.world.state.marks.get? uid = some ns ->
    s.basis uid ≠ [] ∧ s.Covered (s.basis uid) ns

theorem tracked_start (policies : List Policy) : Tracked { policies } where
  calls _ _ _ hcall := by cases hcall
  marks _ _ hmark := by cases hmark

theorem Holds.mono {generation : Nat} (h : s.Holds i ns generation)
    (hserved : s'.served i = s.served i)
    (hle : s.world.state.generation ns ≤ s'.world.state.generation ns)
    (hcovered : s'.world.state.generation ns = s.world.state.generation ns ->
      forall listed, s.Covered listed ns -> s'.Covered listed ns) :
    s'.Holds i ns generation := by
  have hlisting : s'.listing i ns = s.listing i ns := by
    unfold listing
    rw [hserved]
  refine ⟨Nat.le_trans h.noted hle, hlisting ▸ h.nonempty, ?_⟩
  intro hsame
  have hnoted := h.noted
  have hkept : s.world.state.generation ns = generation := by omega
  rw [hlisting]
  exact hcovered (hsame.trans hkept.symm) _ (h.covered hkept)

theorem Founded.mono {e : Evaluation} (h : s.Founded i e) (hserved : s'.served i = s.served i)
    (hle : s.world.state.generation e.ns ≤ s'.world.state.generation e.ns)
    (hcovered : s'.world.state.generation e.ns = s.world.state.generation e.ns ->
      forall listed, s.Covered listed e.ns -> s'.Covered listed e.ns) :
    s'.Founded i e := by
  unfold Founded at h ⊢
  cases hphase : e.phase with
  | start => trivial
  | ended result => trivial
  | awaitingPolicies generation =>
      rw [hphase] at h
      refine ⟨Nat.le_trans h.left hle, ?_⟩
      intro policies hpolicies hsame
      have hnoted := h.left
      have hkept : s.world.state.generation e.ns = generation := by omega
      exact hcovered (hsame.trans hkept.symm) _ (h.right policies (hserved ▸ hpolicies) hkept)
  | awaitingEndpoints generation applicable =>
      rw [hphase] at h
      exact h.mono hserved hle hcovered
  | judged generation verdict =>
      rw [hphase] at h
      exact fun rules hrules => (h rules hrules).mono hserved hle hcovered

theorem Tracked.mono (h : s.Tracked) (hcalls : s'.world.calls = s.world.calls)
    (hserved : s'.served = s.served) (hbasis : s'.basis = s.basis)
    (hle : forall ns, s.world.state.generation ns ≤ s'.world.state.generation ns)
    (hcovered : forall ns, s'.world.state.generation ns = s.world.state.generation ns ->
      forall listed, s.Covered listed ns -> s'.Covered listed ns)
    (hmarks : forall uid ns, s'.world.state.marks.get? uid = some ns ->
      s.world.state.marks.get? uid = some ns ∧
        s'.world.state.generation ns = s.world.state.generation ns) : s'.Tracked := by
  constructor
  · intro i e asked hcall
    rw [hcalls] at hcall
    exact (h.calls i e asked hcall).mono (by rw [hserved]) (hle e.ns) (hcovered e.ns)
  · intro uid ns hmark
    obtain ⟨hmarked, hsame⟩ := hmarks uid ns hmark
    obtain ⟨hnonempty, hcover⟩ := h.marks uid ns hmarked
    rw [hbasis]
    exact ⟨hnonempty, hcovered ns hsame _ hcover⟩

/-!
# The stream
-/

theorem Tracked.streamed (h : s.Tracked) (policies : List Policy) (connected : Bool)
    (pending : List (Notice Policy))
    (hcovered : forall ns listed, s.Covered listed ns ->
      Covered { s with policies, connected, pending } listed ns) :
    Tracked { s with policies, connected, pending } :=
  h.mono rfl rfl rfl (fun _ => Nat.le_refl _) (fun ns _ => hcovered ns) fun _ _ hmark => ⟨hmark, rfl⟩

theorem Tracked.change (h : s.Tracked) (d : Delivery Policy) :
    Tracked { s with policies := changed s.policies d, pending := s.pending ++ [noticeOf d] } := by
  apply h.streamed
  intro ns listed hcovered
  by_cases hns : (Event.policy d).Resets ns
  · right; left
    exact ⟨noticeOf d, by simp, concerns_noticeOf.mpr hns⟩
  · unfold Covered at hcovered ⊢
    rw [policiesIn_changed hns]
    rcases hcovered with hlisted | ⟨n, hn, hconcerns⟩ | hrest
    · exact Or.inl hlisted
    · exact Or.inr (Or.inl ⟨n, List.mem_append_left _ hn, hconcerns⟩)
    · exact Or.inr (Or.inr hrest)

theorem Tracked.relist (h : s.Tracked) :
    Tracked { s with connected := true, pending := s.pending ++ relisting s.policies } := by
  apply h.streamed
  intro ns listed _
  by_cases hnone : policiesIn s.policies ns = []
  · exact Or.inr (Or.inr (Or.inr hnone))
  · rcases exists_concerns_relisting hnone with ⟨n, hn, hconcerns⟩
    exact Or.inr (Or.inl ⟨n, List.mem_append_right _ hn, hconcerns⟩)

variable {n : Notice Policy} {rest : List (Notice Policy)}

theorem Covered.tail {listed : List Policy} (h : s.Covered listed ns)
    (hpending : s.pending = n :: rest) (hn : ¬ Concerns n ns) (w : World) :
    Covered { s with world := w, pending := rest } listed ns := by
  rcases h with hlisted | ⟨m, hm, hconcerns⟩ | hrest
  · exact Or.inl hlisted
  · rw [hpending] at hm
    rcases List.mem_cons.mp hm with rfl | hm
    · exact absurd hconcerns hn
    · exact Or.inr (Or.inl ⟨m, hm, hconcerns⟩)
  · exact Or.inr (Or.inr hrest)

theorem Tracked.pass (h : s.Tracked) (hpending : s.pending = n :: rest)
    (hreaction : n.reaction = .pass) : Tracked { s with pending := rest } := by
  have hn : forall ns, ¬ Concerns n ns := by
    simp [Concerns, hreaction]
  exact h.streamed s.policies s.connected rest fun ns _ hcovered =>
    hcovered.tail hpending (hn ns) s.world

theorem Tracked.deliver {d : Delivery Policy} {w : World} (h : s.Tracked)
    (hpending : s.pending = n :: rest) (hreaction : n.reaction = .deliver d)
    (hw : World.Steps c s.world (.policy d) w) :
    Tracked { s with world := w, pending := rest } := by
  have hconcerns : forall ns, Concerns n ns <-> (Event.policy d).Resets ns := by
    simp [Concerns, hreaction]
  have hgeneration := hw.generation
  have hpolicy : forall uid ns, w.state.marks.get? uid = some ns ->
      s.world.state.marks.get? uid = some ns ∧ ¬ (Event.policy d).Resets ns := by
    intro uid ns hmark
    cases hw
    cases d <;> exact (State.get?_policyChanged _ _ uid ns).mp hmark
  have hcalls : w.calls = s.world.calls := by
    cases hw
    rfl
  refine h.mono hcalls rfl rfl ?_ ?_ ?_
  · intro ns
    rcases hgeneration ns with ⟨_, hnext⟩ | ⟨_, hnext⟩
    · exact Nat.le.intro hnext.symm
    · exact Nat.le_of_eq hnext.symm
  · -- The notice is needed no more where it concerns, since its generation is over.
    intro ns hsame listed hcovered
    apply hcovered.tail hpending
    intro hn
    rcases hgeneration ns with ⟨_, hnext⟩ | ⟨hkept, _⟩
    · exact absurd (hnext.symm.trans hsame) (Nat.succ_ne_self _)
    · exact hkept ((hconcerns ns).mp hn)
  · intro uid ns hmark
    obtain ⟨hmarked, hkept⟩ := hpolicy uid ns hmark
    rcases hgeneration ns with ⟨hresets, _⟩ | ⟨_, hnext⟩
    · exact absurd hresets hkept
    · exact ⟨hmarked, hnext⟩

/-!
# Calls
-/

theorem Tracked.serve {e : Evaluation} {generation : Nat} (h : s.Tracked)
    (hcall : s.world.calls i = some (.active e true))
    (hphase : e.phase = .awaitingPolicies generation) :
    Tracked { s with served := fun j => if j = i then some s.policies else s.served j } := by
  constructor
  · intro j e' asked hcall'
    have hfounded := h.calls j e' asked hcall'
    by_cases hji : j = i
    · subst hji
      cases hcall.symm.trans hcall'
      unfold Founded at hfounded ⊢
      rw [hphase] at hfounded ⊢
      refine ⟨hfounded.left, ?_⟩
      intro policies hpolicies _
      simp only [if_true] at hpolicies
      cases hpolicies
      exact Or.inl rfl
    · exact hfounded.mono (if_neg hji) (Nat.le_refl _) fun _ _ hcovered => hcovered
  · exact h.marks

/-- A call takes a step.  What the call is founded on then and what marks are
based on is to be shown. -/
theorem Tracked.move {m : Move} {call after : Call} {state : State} (h : s.Tracked)
    (hmoves : call.Moves c.mode s.world.state m state after)
    (hworld : s'.world = s.world.put (.move i m) i state after)
    (hserved : forall j, j ≠ i -> s'.served j = s.served j)
    (hcovered : forall ns listed, s.Covered listed ns -> s'.Covered listed ns)
    (hfounded : forall e asked, after = .active e asked -> s'.Founded i e)
    (hmarks : forall uid ns, state.marks.get? uid = some ns ->
      s'.basis uid ≠ [] ∧ s.Covered (s'.basis uid) ns) : s'.Tracked := by
  have hgeneration : forall ns,
      s'.world.state.generation ns = s.world.state.generation ns := by
    intro ns
    rw [hworld]
    exact hmoves.generation ns
  constructor
  · intro j e asked hcall
    rw [hworld] at hcall
    by_cases hji : j = i
    · subst hji
      simp only [World.put, if_true, Option.some.injEq] at hcall
      exact hfounded e asked hcall
    · simp only [World.put, if_neg hji] at hcall
      exact (h.calls j e asked hcall).mono (hserved j hji) (Nat.le_of_eq (hgeneration e.ns).symm)
        fun _ => hcovered e.ns
  · intro uid ns hmark
    rw [hworld] at hmark
    obtain ⟨hnonempty, hcover⟩ := hmarks uid ns hmark
    exact ⟨hnonempty, hcovered ns _ hcover⟩

theorem Tracked.unmarked {m : Move} {call after : Call} {state : State} (h : s.Tracked)
    (hmoves : call.Moves c.mode s.world.state m state after)
    (hmarks : state.marks = s.world.state.marks)
    (hfounded : forall e asked, after = .active e asked -> s.Founded i e) :
    Tracked { s with world := s.world.put (.move i m) i state after } := by
  refine h.move hmoves rfl (fun _ _ => rfl) (fun _ _ hcovered => hcovered) ?_ ?_
  · intro e asked hafter
    exact (hfounded e asked hafter).mono rfl (Nat.le_of_eq (hmoves.generation e.ns).symm)
      fun _ _ hcovered => hcovered
  · intro uid ns hmark
    rw [hmarks] at hmark
    exact h.marks uid ns hmark

theorem founded_of_ended {e : Evaluation} {result : Except String Dispatch}
    (h : e.phase = .ended result) : s.Founded i e := by
  unfold Founded
  rw [h]
  trivial

theorem advance_commit {w : World} {call : Call} (hcall : w.calls i = some call) :
    s.advance (.move i .commit) w =
      match call.launch? with
      | none => { s with world := w }
      | some l =>
          { s with
            world := w
            basis := fun uid => if uid = l.uid then s.listing i l.ns else s.basis uid } := by
  simp only [advance, hcall, Option.bind_some]

theorem Tracked.dispatch {e : Evaluation} {rules : RuleSet} (h : s.Tracked)
    (hcall : s.world.calls i = some (.active e false))
    (hphase : e.phase = .judged (s.world.state.generation e.ns) (.compiled rules))
    (hmoves : Call.Moves c.mode s.world.state (.active e false) .commit
      (s.world.state.mark e.uid e.ns)
      (.active (e.goto (.ended (.ok (.provisioning rules)))) false)) :
    Tracked (s.advance (.move i .commit) (s.world.put (.move i .commit) i
      (s.world.state.mark e.uid e.ns)
      (.active (e.goto (.ended (.ok (.provisioning rules)))) false))) := by
  have hfounded := h.calls i e false hcall
  unfold Founded at hfounded
  rw [hphase] at hfounded
  have hholds := hfounded rules rfl
  rw [advance_commit (if_pos rfl)]
  refine h.move hmoves rfl (fun _ _ => rfl) (fun _ _ hcovered => hcovered) ?_ ?_
  · rintro e' asked ⟨rfl, rfl⟩
    exact founded_of_ended rfl
  · intro uid ns hmark
    have hmarked : (s.world.state.marks.insert e.uid e.ns).get? uid = some ns := hmark
    rw [SortedMap.get?_insert] at hmarked
    show (if uid = e.uid then s.listing i e.ns else s.basis uid) ≠ [] ∧
      s.Covered (if uid = e.uid then s.listing i e.ns else s.basis uid) ns
    by_cases huid : uid = e.uid
    · -- The generation has not moved on, so the listing that the call holds is covered.
      rw [if_pos huid] at hmarked ⊢
      cases hmarked
      exact ⟨hholds.nonempty, hholds.covered rfl⟩
    · rw [if_neg huid] at hmarked ⊢
      exact h.marks uid ns hmarked

theorem Tracked.check {call after : Call} {state : State} (h : s.Tracked)
    (hmoves : call.Moves c.mode s.world.state .check state after) :
    Tracked (s.advance (.move i .check) (s.world.put (.move i .check) i state after)) := by
  have hmarks : state.marks = s.world.state.marks := by
    cases hmoves <;> rfl
  refine h.move hmoves rfl (fun j hj => if_neg hj) (fun _ _ hcovered => hcovered) ?_ ?_
  · intro e asked hafter
    cases hmoves with
    | leave hphase hmarked =>
        cases hafter
        exact founded_of_ended rfl
    | evaluate hphase hnew =>
        cases hafter
        refine ⟨Nat.le_refl _, ?_⟩
        -- What was served to an earlier attempt does not count.
        intro policies hpolicies
        have hnothing : (none : Option (List Policy)) = some policies :=
          (if_pos rfl).symm.trans hpolicies
        cases hnothing
  · intro uid ns hmark
    rw [hmarks] at hmark
    exact h.marks uid ns hmark

theorem Tracked.moveCall {m : Move} {call after : Call} {state : State} (h : s.Tracked)
    (hfed : (Event.move i m).isFed = false) (hcall : s.world.calls i = some call)
    (hmoves : call.Moves c.mode s.world.state m state after) :
    Tracked (s.advance (.move i m) (s.world.put (.move i m) i state after)) := by
  have hafter : (s.world.put (.move i m) i state after).calls i = some after := if_pos rfl
  have hsame := hmoves
  cases hmoves with
  | leave hphase hmarked | evaluate hphase hnew => exact h.check hsame
  | dispatch hphase hnew => exact h.dispatch hcall hphase hsame
  | policiesNone hphase hnone | policiesSome hphase hsome => cases hfed
  | askPolicies hphase | askEndpoints hphase =>
      apply h.unmarked hsame rfl
      rintro e asked ⟨rfl, rfl⟩
      exact h.calls i _ _ hcall
  | policiesFailed message hphase | endpointsFailed message hphase =>
      apply h.unmarked hsame rfl
      rintro e asked ⟨rfl, rfl⟩
      exact founded_of_ended rfl
  | endpoints listed hphase =>
      apply h.unmarked hsame rfl
      rintro e asked ⟨rfl, rfl⟩
      have hfounded := h.calls i _ _ hcall
      unfold Founded at hfounded
      rw [hphase] at hfounded
      exact fun _ _ => hfounded
  | stale hphase hstale =>
      rw [advance_commit hafter]
      apply h.unmarked hsame rfl
      rintro e asked ⟨rfl, rfl⟩
      trivial
  | unmanaged hphase | noEndpoints hphase | overtaken hphase hmarked =>
      rw [advance_commit hafter]
      apply h.unmarked hsame rfl
      rintro e asked ⟨rfl, rfl⟩
      exact founded_of_ended rfl
  | cancel hawaiting | complete o hphase =>
      apply h.unmarked hsame rfl
      rintro e asked hnone
      cases hnone

theorem Tracked.act {event : Event} {w : World} (h : s.Tracked) (hfed : event.isFed = false)
    (hw : World.Steps c s.world event w) : Tracked (s.advance event w) := by
  cases hw with
  | move i hcall hmoves => exact h.moveCall hfed hcall hmoves
  | policy d => cases hfed
  | apply i pod hfree =>
      constructor
      · intro j e asked hcall
        by_cases hji : j = i
        · subst hji
          have hbegun : Call.ofPod c pod = .active e asked :=
            Option.some.inj ((if_pos rfl).symm.trans hcall)
          unfold Founded
          rw [(Call.ofPod_eq_active hbegun).2.2.2.1]
          trivial
        · have hold := h.calls j e asked ((if_neg hji).symm.trans hcall)
          exact hold.mono rfl (Nat.le_refl _) fun _ _ hcovered => hcovered
      · exact h.marks
  | deletePod pod =>
      refine h.mono rfl rfl rfl ?_ (fun _ _ _ hcovered => hcovered) ?_
      · exact fun ns => Nat.le_of_eq (State.generation_podDeleted _ pod ns).symm
      · exact fun uid ns hmark => ⟨((State.get?_podDeleted _ pod uid ns).mp hmark).left,
          State.generation_podDeleted _ pod ns⟩

theorem applicable_nil (labels : Labels) : (PolicyIndex.ofList []).applicable labels = [] := by
  rw [PolicyIndex.applicable_ofList, List.flatMap_eq_nil_iff.mpr fun _ _ => List.filter_nil]
  rfl

theorem Tracked.receive {e : Evaluation} {policies : List Policy} {w : World} (h : s.Tracked)
    (hcall : s.world.calls i = some (.active e true)) (hserved : s.served i = some policies)
    (hw : World.Steps c s.world (.move i (.receivePolicies (.ok (policiesIn policies e.ns)))) w) :
    Tracked { s with world := w } := by
  have hlisting : s.listing i e.ns = policiesIn policies e.ns := by
    unfold listing
    rw [hserved]
    rfl
  cases hw with
  | @move _ _ call after state hcall' hmoves =>
      have hmarks : state.marks = s.world.state.marks := by
        cases hmoves <;> rfl
      apply h.unmarked hmoves hmarks
      rintro e' asked rfl
      cases hcall.symm.trans hcall'
      have hfounded := h.calls i e true hcall
      cases hmoves with
      | policiesNone hphase hnone =>
          intro rules hrules
          cases hrules
      | policiesSome hphase hsome =>
          unfold Founded at hfounded
          rw [hphase] at hfounded
          refine ⟨hfounded.left, ?_, ?_⟩
          · show s.listing i e.ns ≠ []
            intro hnone
            rw [hlisting] at hnone
            rw [hnone] at hsome
            exact hsome (applicable_nil e.labels)
          · intro hsame
            show s.Covered (s.listing i e.ns) e.ns
            rw [hlisting]
            exact hfounded.right policies hserved hsame

/-!
# Runs
-/

theorem Tracked.step {happening : Happening} (h : s.Tracked) (hstep : Steps c s happening s') :
    s'.Tracked := by
  cases hstep with
  | act hfed hw => exact h.act hfed hw
  | serve hcall hphase => exact h.serve hcall hphase
  | receive hcall hserved hw => exact h.receive hcall hserved hw
  | change d hconnected => exact h.change d
  | drift policies hconnected =>
      exact h.streamed policies s.connected s.pending fun _ _ _ => Or.inr (Or.inr (Or.inl hconnected))
  | interrupt e kept =>
      exact h.streamed s.policies false _ fun _ _ _ => Or.inr (Or.inr (Or.inl rfl))
  | relist hconnected => exact h.relist
  | deliver hpending hreaction hw => exact h.deliver hpending hreaction hw
  | pass hpending hreaction => exact h.pass hpending hreaction

theorem Tracked.run {happenings : List Happening} (h : s.Tracked)
    (hrun : run c happenings s = some s') : s'.Tracked := by
  induction happenings generalizing s with
  | nil =>
      cases hrun
      exact h
  | cons happening rest ih =>
      rcases Option.bind_eq_some_iff.mp hrun with ⟨v, hv, hrest⟩
      exact ih (h.step (steps_of_step hv)) hrest

/-!
# Marks after a resynchronization
-/

/-- The stream is connected, and the watch takes all that is pending.  The rules
of a pod that is marked then were compiled from the policies that its namespace
has now, unless the namespace has no policies left; in that case they never were. -/
theorem basis_current_iff (c : Config) (policies : List Policy) (happenings : List Happening)
    (s : Deployment) (h : run c happenings { policies } = some s) (hconnected : s.connected = true)
    (hgoes : (watch handlePolicy s.world.state s.pending).error = none) (uid ns : String)
    (hmarked : (watch handlePolicy s.world.state s.pending).state.marks.get? uid = some ns) :
    s.basis uid = policiesIn s.policies ns <-> policiesIn s.policies ns ≠ [] := by
  have htracked := (tracked_start policies).run h
  obtain ⟨hmark, hpending⟩ := (get?_watch s.world.state s.pending hgoes uid ns).mp hmarked
  obtain ⟨hnonempty, hcovered⟩ := htracked.marks uid ns hmark
  constructor
  · intro hsame
    exact hsame ▸ hnonempty
  · intro hleft
    rcases hcovered with hlisted | ⟨n, hn, hconcerns⟩ | hlost | hnone
    · exact hlisted
    · exact absurd hconcerns (hpending n hn)
    · rw [hconnected] at hlost
      cases hlost
    · exact absurd hnone hleft

/-- Two pods are marked when the stream is interrupted.  Meanwhile the policy of one
namespace is replaced and that of the other is deleted.  The listing that follows clears
the first mark, and the pod is evaluated again; the second mark stays.  A change in a
third namespace is still pending. -/
theorem basis_current_after_interruption :
    let pod : String -> String -> Pod := fun uid ns =>
      { metadata := { uid := some uid, ns := some ns }, spec := some { nodeName := some "node" } }
    let endpoint : String -> String -> EndpointResource := fun podUid ns =>
      { metadata := { uid := some ("e" ++ podUid), ns := some ns },
        spec := { podUid, netns := "/run/netns/" ++ podUid } }
    let policy : String -> String -> Policy := fun name ns =>
      { metadata := { name := some name, ns := some ns }, spec := {} }
    let evaluation : Nat -> String -> String -> List Happening := fun i uid ns =>
      [.act (.apply i (pod uid ns)), .act (.move i .check), .act (.move i (.ask (.policies ns))),
        .serve i, .receive i, .act (.move i (.ask (.endpoints ns))),
        .act (.move i (.receiveEndpoints (.ok [endpoint uid ns]))), .act (.move i .commit)]
    let happenings : List Happening :=
      [.relist, .handle, .handle, .handle, .handle] ++
      evaluation 0 "u" "default" ++ evaluation 1 "v" "other" ++
      [.interrupt (.reported { code := 410 }) 0, .drift [policy "new" "default"], .relist,
        .handle, .handle, .handle] ++
      evaluation 2 "u" "default" ++ [.change (.apply (policy "web" "third"))]
    let policies := [policy "web" "default", policy "web" "other"]
    exists s, run { node := "node" } happenings { policies } = some s ∧
      s.connected = true ∧ s.pending.length = 2 ∧
      (watch handlePolicy s.world.state s.pending).error = none ∧
      (watch handlePolicy s.world.state s.pending).state.marks.get? "u" = some "default" ∧
      (watch handlePolicy s.world.state s.pending).state.marks.get? "v" = some "other" ∧
      s.basis "u" = policiesIn s.policies "default" ∧
      s.basis "v" ≠ policiesIn s.policies "other" := by
  intro pod endpoint policy evaluation happenings policies
  have hend : (run { node := "node" } happenings { policies }).map
      (fun s => (s.connected, s.pending.length,
        (watch handlePolicy s.world.state s.pending).error,
        ["u", "v"].map (watch handlePolicy s.world.state s.pending).state.marks.get?)) =
      some (true, 2, none, [some "default", some "other"]) := by
    decide +kernel
  have hleft : (run { node := "node" } happenings { policies }).map
      (fun s => ["default", "other"].map fun ns => (policiesIn s.policies ns).length) =
      some [1, 0] := by
    decide +kernel
  rcases Option.map_eq_some_iff.mp hend with ⟨s, hrun, hs⟩
  simp only [Prod.mk.injEq, List.map_cons, List.cons.injEq] at hs
  rcases hs with ⟨hconnected, hpending, hgoes, hmarked, hmarked', -⟩
  rw [hrun] at hleft
  simp only [Option.map_some, Option.some.injEq, List.map_cons, List.cons.injEq] at hleft
  rcases hleft with ⟨hlength, hlength', -⟩
  have hcurrent := fun uid ns => basis_current_iff _ _ _ s hrun hconnected hgoes uid ns
  refine ⟨s, hrun, hconnected, hpending, hgoes, hmarked, hmarked', ?_, ?_⟩
  · exact (hcurrent "u" "default" hmarked).mpr (List.ne_nil_of_length_eq_add_one hlength)
  · intro hsame
    exact (hcurrent "v" "other" hmarked').mp hsame (List.eq_nil_of_length_eq_zero hlength')

/-- The only policy of a namespace is deleted while the stream is interrupted.
All that the stream tells afterwards has been handled, and the pod whose rules
were compiled from the policy is still marked. -/
theorem marked_after_unobserved_deletion :
    let pod : Pod :=
      { metadata := { uid := some "u", ns := some "default" },
        spec := some { nodeName := some "node" } }
    let endpoint : EndpointResource :=
      { metadata := { uid := some "e", ns := some "default" },
        spec := { podUid := "u", netns := "/run/netns/pod" } }
    let policy : Policy := { metadata := { name := some "web", ns := some "default" }, spec := {} }
    let expired : WatchError := .reported { code := 410 }
    let happenings : List Happening :=
      [.relist, .handle, .handle, .handle, .act (.apply 0 pod), .act (.move 0 .check),
        .act (.move 0 (.ask (.policies "default"))), .serve 0, .receive 0,
        .act (.move 0 (.ask (.endpoints "default"))),
        .act (.move 0 (.receiveEndpoints (.ok [endpoint]))), .act (.move 0 .commit),
        .interrupt expired 0, .drift [], .relist, .handle, .handle, .handle]
    exists s, run { node := "node" } happenings { policies := [policy] } = some s ∧
      expired.isBenign = true ∧ s.connected = true ∧ s.pending = [] ∧
      s.world.state.isMarked "u" = true ∧ policiesIn s.policies "default" = [] ∧
      s.basis "u" ≠ [] := by
  intro pod endpoint policy expired happenings
  have hend : (run { node := "node" } happenings { policies := [policy] }).map
      (fun s => (s.connected, s.pending.isEmpty, s.world.state.isMarked "u",
        (policiesIn s.policies "default").isEmpty, (s.basis "u").isEmpty)) =
      some (true, true, true, true, false) := by
    decide +kernel
  rcases Option.map_eq_some_iff.mp hend with ⟨s, hrun, hs⟩
  simp only [Prod.mk.injEq, List.isEmpty_iff, List.isEmpty_eq_false_iff] at hs
  rcases hs with ⟨hconnected, hpending, hmarked, hnone, hbasis⟩
  exact ⟨s, hrun, rfl, hconnected, hpending, hmarked, hnone, hbasis⟩

end Deployment

end Controller

end PodIsolation
