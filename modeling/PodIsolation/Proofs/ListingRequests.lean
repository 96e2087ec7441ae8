import PodIsolation.Proofs.CurrentVerdict

/-!
# Requests for listings

## Calls ask about the namespace of their pod

A call keeps to the pod that it began with, and that pod is one of the node.  All
listings that it asks for, in however many evaluations, are those of the namespace
of the pod.
-/

namespace PodIsolation

namespace Controller

/-- The listing that the event asks for. -/
def Event.request? : Event -> Option ListRequest
  | .move _ (.ask q) => some q
  | _ => none

/-- The call began with the pod, which is one of the node. -/
def Began (c : Config) (past : List Record) (i : Nat) (pod : Pod) : Prop :=
  pod.nodeName = some c.node ∧ exists r, r ∈ past ∧ r.event = .apply i pod

/-- The evaluation is about the pod that its call began with, and its call has asked
for listings of the namespace of that pod only. -/
structure Traced (c : Config) (past : List Record) (i : Nat) (e : Evaluation) : Prop where
  begun : exists pod, Began c past i pod ∧ pod.metadata.uid = some e.uid ∧
    pod.metadata.ns = some e.ns ∧ pod.labels = e.labels
  asked : forall r q, r ∈ past -> r.event = .move i (.ask q) -> q.ns = e.ns

variable {c : Config} {past : List Record} {i : Nat} {e e' : Evaluation} {asked : Bool}

theorem Began.cons {pod : Pod} (h : Began c past i pod) (r : Record) :
    Began c (r :: past) i pod := by
  rcases h with ⟨hnode, x, hx, happly⟩
  exact ⟨hnode, x, List.mem_cons_of_mem r hx, happly⟩

theorem Traced.cons (h : Traced c past i e) {r : Record}
    (hr : forall q, r.event = .move i (.ask q) -> q.ns = e.ns) : Traced c (r :: past) i e := by
  constructor
  · rcases h.begun with ⟨pod, hpod, hbegun⟩
    exact ⟨pod, hpod.cons r, hbegun⟩
  · intro x q hx hask
    rcases List.mem_cons.mp hx with rfl | hx
    · exact hr q hask
    · exact h.asked x q hx hask

theorem Traced.samePod (h : Traced c past i e)
    (hpod : e'.uid = e.uid ∧ e'.ns = e.ns ∧ e'.labels = e.labels) : Traced c past i e' := by
  rcases hpod with ⟨huid, hns, hlabels⟩
  constructor
  · rw [huid, hns, hlabels]
    exact h.begun
  · rw [hns]
    exact h.asked

theorem Call.nodeName_of_ofPod {pod : Pod} (h : ofPod c pod = .active e asked) :
    pod.nodeName = some c.node := by
  unfold ofPod at h
  rcases admission_cases c pod with ⟨_, hpod⟩ | ⟨hnode, _⟩ | ⟨hnode, _⟩
  · rw [hpod] at h
    cases h
  · exact hnode
  · exact hnode

/-- A call that asks for a listing asks for one of the namespace of its evaluation. -/
theorem Call.Moves.ns_of_ask {mode : EntryMode} {s s' : State} {after : Call} {q : ListRequest}
    (h : Moves mode s (.active e asked) (.ask q) s' after) : q.ns = e.ns := by
  cases h <;> rfl

namespace World

variable {w w' : World} {event : Event} {events : List Event}

/-- All that was asked for, in the order in which it was. -/
def requests (w : World) : List ListRequest :=
  (w.past.filterMap fun r => r.event.request?).reverse

theorem Steps.requests (h : Steps c w event w') :
    w'.requests = w.requests ++ event.request?.toList := by
  unfold World.requests
  rw [h.record, List.filterMap_cons]
  cases hrequest : event.request? with
  | none => simp
  | some q => simp

theorem mem_requests {q : ListRequest} (h : q ∈ w.requests) :
    exists r i, r ∈ w.past ∧ r.event = .move i (.ask q) := by
  rcases List.mem_filterMap.mp (List.mem_reverse.mp h) with ⟨r, hr, hrequest⟩
  unfold Event.request? at hrequest
  split at hrequest
  · rename_i i _ hevent
    cases hrequest
    exact ⟨r, i, hr, hevent⟩
  · cases hrequest

/-- Every event of a call belongs to a call that has begun, every evaluation is
traced, and all that was ever asked for is about the namespace of a pod of the node. -/
structure Tracing (c : Config) (w : World) : Prop where
  known : forall r i, r ∈ w.past -> r.event.call? = some i -> w.calls i ≠ none
  traced : forall i e asked, w.calls i = some (.active e asked) -> Traced c w.past i e
  requested : forall r i q, r ∈ w.past -> r.event = .move i (.ask q) ->
    exists pod, Began c w.past i pod ∧ pod.metadata.ns = some q.ns

theorem tracing_empty : Tracing c {} where
  known r i hr := by cases hr
  traced i e asked hcall := by cases hcall
  requested r i q hr := by cases hr

/-- A step of one call, with what is recorded of it. -/
theorem Tracing.put (h : w.Tracing c) {state : State} {call : Call}
    (hevent : event.call? = some i)
    (hself : forall e asked, call = .active e asked ->
      Traced c ({ event, call := some call } :: w.past) i e)
    (hrequest : forall j q, event = .move j (.ask q) ->
      exists pod, Began c w.past j pod ∧ pod.metadata.ns = some q.ns) :
    (w.put event i state call).Tracing c := by
  constructor
  · intro r j hr hj
    by_cases hij : j = i
    · simp [World.put, hij]
    · rcases List.mem_cons.mp hr with rfl | hr
      · exact absurd (Option.some.inj (hj.symm.trans hevent)) hij
      · simpa [World.put, hij] using h.known r j hr hj
  · intro j e asked hcall
    by_cases hij : j = i
    · subst hij
      simp only [World.put, if_true, Option.some.injEq] at hcall
      exact hself e asked hcall
    · have hold : w.calls j = some (.active e asked) := by
        simpa [World.put, hij] using hcall
      apply (h.traced j e asked hold).cons
      intro q hask
      have hown : event.call? = some j := congrArg Event.call? hask
      exact absurd (Option.some.inj (hown.symm.trans hevent)) hij
  · intro r j q hr hask
    have hasked : exists pod, Began c w.past j pod ∧ pod.metadata.ns = some q.ns := by
      rcases List.mem_cons.mp hr with rfl | hr
      · exact hrequest j q hask
      · exact h.requested r j q hr hask
    rcases hasked with ⟨pod, hpod, hns⟩
    exact ⟨pod, hpod.cons _, hns⟩

/-- An event that belongs to no call. -/
theorem Tracing.record (h : w.Tracing c) {state : State} {call : Option Call}
    (hevent : event.call? = none) :
    Tracing c { w with state, past := { event, call } :: w.past } := by
  have hnone : forall j q, event ≠ .move j (.ask q) := by
    rintro j q rfl
    cases hevent
  constructor
  · intro r j hr hj
    rcases List.mem_cons.mp hr with rfl | hr
    · cases hevent.symm.trans hj
    · exact h.known r j hr hj
  · intro j e asked hcall
    apply (h.traced j e asked hcall).cons
    exact fun q hask => absurd hask (hnone j q)
  · intro r j q hr hask
    rcases List.mem_cons.mp hr with rfl | hr
    · exact absurd hask (hnone j q)
    · rcases h.requested r j q hr hask with ⟨pod, hpod, hns⟩
      exact ⟨pod, hpod.cons _, hns⟩

theorem Tracing.step (h : w.Tracing c) (hstep : Steps c w event w') : w'.Tracing c := by
  cases hstep with
  | apply i pod hfree =>
      refine h.put rfl ?_ (fun _ _ hask => by cases hask)
      intro e asked hcall
      rcases Call.ofPod_eq_active hcall with ⟨huid, hns, hlabels, -, -⟩
      constructor
      · exact ⟨pod, ⟨Call.nodeName_of_ofPod hcall, _, List.mem_cons_self, rfl⟩, huid, hns, hlabels⟩
      · intro r q hr hask
        rcases List.mem_cons.mp hr with rfl | hr
        · cases hask
        · exact absurd hfree (h.known r i hr (congrArg Event.call? hask))
  | @move i m call after state hcall hmoves =>
      rcases hmoves.active with ⟨e₀, asked₀, rfl⟩
      have htraced := h.traced i e₀ asked₀ hcall
      refine h.put rfl ?_ ?_
      · rintro e asked rfl
        apply (htraced.samePod hmoves.samePod).cons
        rintro q ⟨rfl⟩
        exact hmoves.ns_of_ask.trans hmoves.samePod.right.left.symm
      · rintro j q ⟨rfl⟩
        rcases htraced.begun with ⟨pod, hpod, -, hns, -⟩
        exact ⟨pod, hpod, by rw [hns, hmoves.ns_of_ask]⟩
  | deletePod pod => exact h.record rfl
  | policy d => exact h.record rfl

theorem tracing_of_run (h : run c events {} = some w) : w.Tracing c :=
  run_induction (fun _ _ _ hw hstep => hw.step hstep) h tracing_empty

end World

end Controller

end PodIsolation
