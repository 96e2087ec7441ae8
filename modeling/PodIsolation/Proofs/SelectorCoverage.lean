import PodIsolation.Proofs.ListingOrder
import PodIsolation.Proofs.ListingScan

/-!
# Coverage of label selectors

## Selectors as conditions on labels

A label selector is a conjunction: it admits labels that have all of its pairs and
meet all of its requirements.  Indexes and peers look for less, for any one of the
pairs to which a selector reduces.  What they find is therefore never less than
what the selector admits.
-/

namespace PodIsolation

/-- The labels meet the requirement.  An operator that is not known admits nothing. -/
def Requirement.Admits (r : Requirement) (labels : Labels) : Prop :=
  match r.operator with
  | .oneOf => exists value, labels.get? r.key = some value ∧ value ∈ r.values.items
  | .noneOf => forall value, labels.get? r.key = some value -> value ∉ r.values.items
  | .present => exists value, labels.get? r.key = some value
  | .absent => labels.get? r.key = none
  | .unknown => False

namespace Selector

/-- The labels have every pair of the selector and meet every requirement. -/
structure Admits (s : Selector) (labels : Labels) : Prop where
  pairs : forall key value, (s.labels.getD ∅).get? key = some value ->
    labels.get? key = some value
  requirements : forall r, r ∈ s.requirements.getD [] -> r.Admits labels

/-- The selector has neither pairs nor requirements. -/
def IsEmpty (s : Selector) : Prop :=
  s.labels.getD ∅ = ∅ ∧ s.requirements.getD [] = []

/-!
# Reduction

Reduction only succeeds on requirements that each ask for one value, so all pairs
that it yields are asked for by the selector.
-/

variable {labels wanted start : Labels}

theorem singleValue_eq_ok {r : Requirement} {value : String} (h : r.singleValue = .ok value) :
    r.operator = .oneOf ∧ r.values.items = [value] := by
  unfold Requirement.singleValue at h
  split at h
  · rename_i hoperator hitems
    cases h
    exact ⟨hoperator, hitems⟩
  · cases h
  · cases h

theorem get?_of_admits {r : Requirement} {value : String} (h : r.singleValue = .ok value)
    (hadmits : r.Admits labels) : labels.get? r.key = some value := by
  rcases singleValue_eq_ok h with ⟨hoperator, hitems⟩
  unfold Requirement.Admits at hadmits
  rw [hoperator] at hadmits
  rcases hadmits with ⟨other, hother, hmem⟩
  rw [hitems, List.mem_singleton] at hmem
  rw [hother, hmem]

theorem reduceInto_cons_eq_ok {r : Requirement} {rest : List Requirement} :
    reduceInto start (r :: rest) = .ok wanted <->
      exists value, r.singleValue = .ok value ∧
        reduceInto (start.insert r.key value) rest = .ok wanted := by
  rw [reduceInto]
  cases r.singleValue <;> simp

/-- If labels have the pairs found so far and meet the requirements that remain,
they have all pairs in the end. -/
theorem get?_of_reduceInto {rs : List Requirement} (h : reduceInto start rs = .ok wanted)
    (hstart : forall key value, start.get? key = some value -> labels.get? key = some value)
    (hrs : forall r, r ∈ rs -> r.Admits labels) {key value : String}
    (hwanted : wanted.get? key = some value) : labels.get? key = some value := by
  induction rs generalizing start with
  | nil =>
      cases h
      exact hstart key value hwanted
  | cons r rest ih =>
      rcases reduceInto_cons_eq_ok.mp h with ⟨single, hsingle, hrest⟩
      apply ih hrest
      · intro key value hvalue
        rw [SortedMap.get?_insert] at hvalue
        split at hvalue
        · rename_i hkey
          cases hvalue
          rw [hkey]
          exact get?_of_admits hsingle (hrs r List.mem_cons_self)
        · exact hstart key value hvalue
      · intro r' hr'
        exact hrs r' (List.mem_cons_of_mem r hr')

/-- Labels that a selector admits have every pair to which it reduces. -/
theorem Admits.get?_of_reduce {s : Selector} (h : s.Admits labels) (hreduce : s.reduce = .ok wanted)
    {key value : String} (hwanted : wanted.get? key = some value) :
    labels.get? key = some value :=
  get?_of_reduceInto hreduce h.pairs h.requirements hwanted

/-- No key is lost: neither one found so far nor that of a requirement. -/
theorem get?_reduceInto_ne_none {rs : List Requirement} (h : reduceInto start rs = .ok wanted)
    {key : String} (hkey : start.get? key ≠ none ∨ exists r, r ∈ rs ∧ r.key = key) :
    wanted.get? key ≠ none := by
  induction rs generalizing start with
  | nil =>
      cases h
      rcases hkey with hkey | ⟨r, hr, _⟩
      · exact hkey
      · cases hr
  | cons r rest ih =>
      rcases reduceInto_cons_eq_ok.mp h with ⟨single, _, hrest⟩
      apply ih hrest
      by_cases hfirst : key = r.key
      · left
        simp [hfirst]
      · rcases hkey with hkey | ⟨r', hr', hkey⟩
        · left
          simpa [hfirst] using hkey
        · right
          rcases List.mem_cons.mp hr' with rfl | hmem
          · exact absurd hkey.symm hfirst
          · exact ⟨r', hmem, hkey⟩

/-- A selector that is not empty reduces to labels that are not empty. -/
theorem reduce_ne_empty {s : Selector} (hreduce : s.reduce = .ok wanted) (h : ¬ s.IsEmpty) :
    wanted ≠ ∅ := by
  intro hempty
  subst hempty
  apply h
  constructor
  · apply SortedMap.ext
    intro key
    apply Classical.byContradiction
    intro hkey
    exact get?_reduceInto_ne_none hreduce (Or.inl hkey) (SortedMap.get?_empty key)
  · apply List.eq_nil_iff_forall_not_mem.mpr
    intro r hr
    exact get?_reduceInto_ne_none hreduce (Or.inr ⟨r, hr, rfl⟩) (SortedMap.get?_empty r.key)

end Selector

theorem SortedMap.exists_get?_of_ne_empty {labels : Labels} (h : labels ≠ ∅) :
    exists key value, labels.get? key = some value := by
  have hentries : labels.entries ≠ [] := by
    intro hnil
    exact h (Peer.isEmpty_eq_true_iff.mp (List.isEmpty_iff.mpr hnil))
  rcases List.exists_mem_of_ne_nil _ hentries with ⟨⟨key, value⟩, hmem⟩
  exact ⟨key, value, SortedMap.mem_entries.mp hmem⟩

/-!
# Policies
-/

/-- A policy whose selector admits the labels of a pod applies to the pod. -/
theorem PolicyIndex.mem_applicable_of_admits {listing : List Policy}
    (hdistinct : listing.Pairwise fun p q => p.key ≠ q.key) {labels wanted : Labels} {p : Policy}
    (hp : p ∈ listing) (hreduce : p.spec.podSelector.reduce = .ok wanted)
    (hadmits : p.spec.podSelector.Admits labels) :
    p ∈ (ofList listing).applicable labels := by
  rw [mem_applicable hdistinct]
  constructor
  · exact hp
  · by_cases hempty : wanted = ∅
    · right
      rw [Policy.asksForNothing_iff, hreduce, hempty]
    · left
      rcases SortedMap.exists_get?_of_ne_empty hempty with ⟨key, value, hwanted⟩
      have hlabel := hadmits.get?_of_reduce hreduce hwanted
      exact ⟨(key, value), SortedMap.mem_entries.mpr hlabel,
        Policy.asksFor_iff.mpr ⟨wanted, hreduce, hwanted⟩⟩

/-!
# Peers
-/

namespace Peer

variable {listing : List Endpoint} {ns : String} {peer : Peer} {wanted : Labels} {e : Endpoint}

/-- The pod selector of the peer admits the labels of the endpoint, if it has one,
and the endpoint is attached to the network of the peer, if it names one. -/
structure Admits (ns : String) (peer : Peer) (e : Endpoint) : Prop where
  labels : forall s, peer.podSelector = some s -> s.Admits e.labels
  network : forall n, peer.named? = some n -> e.network = .within n.name (.ofName n.kind) ns

theorem exists_wanted
    (h : forall s, peer.podSelector = some s -> exists wanted, s.reduce = .ok wanted) :
    exists wanted, peer.wanted = .ok wanted := by
  unfold Peer.wanted
  cases hselector : peer.podSelector with
  | none => exact ⟨∅, rfl⟩
  | some s => exact h s hselector

theorem wanted_ne_empty (hwanted : peer.wanted = .ok wanted) {s : Selector}
    (hselector : peer.podSelector = some s) (h : ¬ s.IsEmpty) : wanted ≠ ∅ := by
  unfold Peer.wanted at hwanted
  rw [hselector] at hwanted
  exact Selector.reduce_ne_empty hwanted h

theorem labeled_of_admits (hwanted : peer.wanted = .ok wanted) (hadmits : peer.Admits ns e)
    (hne : wanted ≠ ∅) : Labeled wanted e := by
  rcases SortedMap.exists_get?_of_ne_empty hne with ⟨key, value, hvalue⟩
  refine ⟨key, value, hvalue, ?_⟩
  unfold Peer.wanted at hwanted
  cases hselector : peer.podSelector with
  | none =>
      rw [hselector] at hwanted
      cases hwanted
      exact absurd rfl hne
  | some s =>
      rw [hselector] at hwanted
      exact (hadmits.labels s hselector).get?_of_reduce hwanted hvalue

theorem attached_of_admits (hadmits : peer.Admits ns e) (hnamed : peer.named? ≠ none) :
    peer.Attached ns e := by
  rcases Option.ne_none_iff_exists'.mp hnamed with ⟨n, hn⟩
  exact (attached_iff_of_named hn).mpr (hadmits.network n hn)

theorem named?_ne_none_of_attached (h : peer.Attached ns e) : peer.named? ≠ none := by
  intro hnone
  rw [attached_iff, bind_network?, hnone] at h
  cases h

/-- A peer that asks for anything selects every endpoint that it admits. -/
theorem selects_of_admits (hwanted : peer.wanted = .ok wanted) (hadmits : peer.Admits ns e)
    (hasks : wanted ≠ ∅ ∨ peer.named? ≠ none) : peer.Selects listing ns e := by
  refine ⟨wanted, hwanted, ?_, ?_⟩
  · rcases hasks with hne | hnamed
    · exact Or.inl (labeled_of_admits hwanted hadmits hne)
    · exact Or.inr (attached_of_admits hadmits hnamed)
  · -- Labels that some endpoint has are asked for, and so is a network.
    intro hlabeled hattached
    rcases hlabeled with ⟨_, _, key, value, hvalue, _⟩
    rcases hattached with ⟨_, _, hattached⟩
    have hne : wanted ≠ ∅ := by
      intro hempty
      rw [hempty] at hvalue
      cases hvalue
    exact ⟨labeled_of_admits hwanted hadmits hne,
      attached_of_admits hadmits (named?_ne_none_of_attached hattached)⟩

/-- A peer that asks for anything resolves to all endpoints that it admits. -/
theorem mem_resolve_of_admits (hdistinct : listing.Pairwise fun e e' => e.uid ≠ e'.uid)
    (hwanted : peer.wanted = .ok wanted) (hasks : wanted ≠ ∅ ∨ peer.named? ≠ none)
    (he : e ∈ listing) (hadmits : peer.Admits ns e) (workloadUid : String) :
    e ∈ (peer.criteria ns wanted).resolve (EndpointIndex.ofList listing workloadUid) := by
  have hindexes := EndpointIndex.indexes_ofList listing workloadUid
  rw [keepFirst_of_distinct hdistinct] at hindexes
  rw [PeerCriteria.mem_resolve hindexes (fun _ _ => eq_of_distinct hdistinct) hwanted]
  constructor
  · exact he
  · exact selects_of_admits hwanted hadmits hasks

end Peer

/-- Selectors that reduce miss nothing that they admit.  Every policy of a listing
whose selector admits the labels of a pod applies to the pod, and a peer that asks
for labels or names a network resolves to every endpoint of a listing that it
admits. -/
theorem reduced_selectors_cover :
    (forall (listing : List Policy) (labels : Labels),
      listing.Pairwise (fun p q => p.key ≠ q.key) ->
      forall p wanted, p ∈ listing -> p.spec.podSelector.reduce = .ok wanted ->
        p.spec.podSelector.Admits labels ->
        p ∈ (PolicyIndex.ofList listing).applicable labels) ∧
    (forall (listing : List Endpoint) (workloadUid ns : String) (peer : Peer),
      listing.Pairwise (fun e e' => e.uid ≠ e'.uid) ->
      (forall s, peer.podSelector = some s -> exists wanted, s.reduce = .ok wanted) ->
      ((exists s, peer.podSelector = some s ∧ ¬ s.IsEmpty) ∨ peer.named? ≠ none) ->
      exists criteria, PeerCriteria.ofPeer ns peer = .ok criteria ∧
        forall e, e ∈ listing -> peer.Admits ns e ->
          e ∈ criteria.resolve (EndpointIndex.ofList listing workloadUid)) := by
  constructor
  · intro listing labels hdistinct p wanted hp hreduce hadmits
    exact PolicyIndex.mem_applicable_of_admits hdistinct hp hreduce hadmits
  · intro listing workloadUid ns peer hdistinct hreduces hasks
    rcases Peer.exists_wanted hreduces with ⟨wanted, hwanted⟩
    have hwants : wanted ≠ ∅ ∨ peer.named? ≠ none := by
      rcases hasks with ⟨s, hselector, hne⟩ | hnamed
      · exact Or.inl (Peer.wanted_ne_empty hwanted hselector hne)
      · exact Or.inr hnamed
    refine ⟨peer.criteria ns wanted, ?_, ?_⟩
    · rw [PeerCriteria.ofPeer_eq, hwanted]
      rfl
    · intro e he hadmits
      exact Peer.mem_resolve_of_admits hdistinct hwanted hwants he hadmits workloadUid

/-- A selector with two pairs and a requirement on one of their keys, as it stands
in a policy and, beside a network, in a peer. -/
theorem reduced_selectors_cover_web :
    let front : Labels := SortedMap.ofList [("app", "web"), ("tier", "front")]
    let selector : Selector :=
      { labels := some front
        requirements := some [⟨"tier", .oneOf, StringSet.ofList ["front"]⟩] }
    let policy (name : String) (podSelector : Selector) : Policy :=
      { metadata := { name := some name, ns := some "shop" }, spec := { podSelector } }
    let listing := [policy "all" {}, policy "web" selector]
    let peer : Peer :=
      { podSelector := some selector, networkSelector := some { name := "internal" } }
    let endpoint (uid : String) (labels : Labels) : Endpoint :=
      { uid, workload := { ns := "shop", name := "", uid := "" }, labels, ipv4 := none,
        ipv6 := none, network := .within "internal" .danmNet "shop", netns := "" }
    let endpoints := [endpoint "e1" ∅, endpoint "e2" (front.insert "zone" "a")]
    selector.reduce = .ok front ∧ selector.Admits (front.insert "zone" "a") ∧
    listing.Pairwise (fun p q => p.key ≠ q.key) ∧
    policy "web" selector ∈ (PolicyIndex.ofList listing).applicable (front.insert "zone" "a") ∧
    endpoints.Pairwise (fun e e' => e.uid ≠ e'.uid) ∧
    exists criteria, PeerCriteria.ofPeer "shop" peer = .ok criteria ∧
      endpoint "e2" (front.insert "zone" "a") ∈
        criteria.resolve (EndpointIndex.ofList endpoints "pod") := by
  intro front selector policy listing peer endpoint endpoints
  have hreduce : selector.reduce = .ok front := by decide
  have hadmits : selector.Admits (front.insert "zone" "a") := by
    constructor
    · intro key value hvalue
      have hmem := SortedMap.mem_entries.mpr hvalue
      have hfront : (selector.labels.getD ∅).entries = [("app", "web"), ("tier", "front")] := by
        decide
      rw [hfront] at hmem
      simp only [List.mem_cons, List.not_mem_nil, or_false, Prod.mk.injEq] at hmem
      rcases hmem with ⟨rfl, rfl⟩ | ⟨rfl, rfl⟩
      · decide
      · decide
    · intro r hr
      rw [List.mem_singleton.mp hr]
      exact ⟨"front", by decide, by decide⟩
  have hpolicies : listing.Pairwise fun p q => p.key ≠ q.key := by decide
  have hendpoints : endpoints.Pairwise fun e e' => e.uid ≠ e'.uid := by decide
  rcases reduced_selectors_cover with ⟨hpolicy, hpeer⟩
  have happlies := hpolicy listing _ hpolicies (policy "web" selector) front
    (List.mem_cons_of_mem _ List.mem_cons_self) hreduce hadmits
  have hreduces : forall s, peer.podSelector = some s -> exists wanted, s.reduce = .ok wanted := by
    intro s hs
    cases hs
    exact ⟨front, hreduce⟩
  have hendpoint : peer.Admits "shop" (endpoint "e2" (front.insert "zone" "a")) := by
    constructor
    · intro s hs
      cases hs
      exact hadmits
    · intro n hn
      cases hn
      rfl
  rcases hpeer endpoints "pod" "shop" peer hendpoints hreduces (Or.inr (by decide)) with
    ⟨criteria, hcriteria, hresolves⟩
  have hselected := hresolves (endpoint "e2" (front.insert "zone" "a"))
    (List.mem_cons_of_mem _ List.mem_cons_self) hendpoint
  exact ⟨hreduce, hadmits, hpolicies, happlies, hendpoints, criteria, hcriteria, hselected⟩

end PodIsolation
