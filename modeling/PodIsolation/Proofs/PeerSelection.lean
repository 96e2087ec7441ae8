import PodIsolation.Policy.Peer
import PodIsolation.Proofs.IndexScan

/-!
# Selection by peers

## The endpoints that a peer selects from a listing

What the criteria of a peer resolve to is described by a condition on endpoints
of the listing, without the index and without a case for each kind of criteria.
-/

namespace PodIsolation

namespace Peer

/-- The labels that a peer asks for, unless its pod selector does not reduce. -/
def wanted (peer : Peer) : Except SelectorError Labels :=
  match peer.podSelector with
  | some selector => selector.reduce
  | none => .ok ∅

/-- The endpoint has one of the labels. -/
def Labeled (wanted : Labels) (e : Endpoint) : Prop :=
  exists key value, wanted.get? key = some value ∧ e.labels.get? key = some value

/-- The endpoint is attached to the network that the peer names. -/
def Attached (ns : String) (peer : Peer) (e : Endpoint) : Prop :=
  exists n, peer.networkSelector = some n ∧ n.name ≠ "" ∧
    e.network = .within n.name (.ofName n.kind) ns

/-- The peer of a policy in the given namespace selects the endpoint.  Labels and
network both count, unless the listing has no endpoint for one of them. -/
def Selects (listing : List Endpoint) (ns : String) (peer : Peer) (e : Endpoint) : Prop :=
  exists wanted, peer.wanted = .ok wanted ∧
    (Labeled wanted e ∨ peer.Attached ns e) ∧
    ((exists e', e' ∈ listing ∧ Labeled wanted e') ->
      (exists e', e' ∈ listing ∧ peer.Attached ns e') ->
      Labeled wanted e ∧ peer.Attached ns e)

theorem not_labeled_of_isEmpty {wanted : Labels} (h : wanted.isEmpty = true) (e : Endpoint) :
    ¬ Labeled wanted e := by
  intro hlabeled
  rcases hlabeled with ⟨key, value, hwanted, _⟩
  have hnil : wanted.entries = [] := List.isEmpty_iff.mp h
  exact SortedMap.entries_ne_nil hwanted hnil

theorem network?_eq_some {ns : String} {peer : Peer} {network : PodNetwork} :
    peer.networkSelector.bind (NetworkSelector.network? ns) = some network <->
      exists n, peer.networkSelector = some n ∧ n.name ≠ "" ∧
        network = .within n.name (.ofName n.kind) ns := by
  rw [Option.bind_eq_some_iff]
  constructor
  · intro hbound
    rcases hbound with ⟨n, hn, hnetwork⟩
    unfold NetworkSelector.network? at hnetwork
    split at hnetwork
    · cases hnetwork
    · rename_i hname
      cases hnetwork
      exact ⟨n, hn, by simpa using hname, rfl⟩
  · intro hnamed
    rcases hnamed with ⟨n, hn, hname, rfl⟩
    refine ⟨n, hn, ?_⟩
    have hnot : n.name.isEmpty = false := by
      simpa using hname
    rw [NetworkSelector.network?, hnot]
    rfl

theorem attached_iff {ns : String} {peer : Peer} {e : Endpoint} :
    peer.Attached ns e <->
      peer.networkSelector.bind (NetworkSelector.network? ns) = some e.network :=
  network?_eq_some.symm

/-- The criteria of a peer that asks for the given labels. -/
def criteria (ns : String) (peer : Peer) (wanted : Labels) : PeerCriteria :=
  match wanted.isEmpty, peer.networkSelector.bind (NetworkSelector.network? ns) with
  | false, none => .byLabels wanted
  | true, some n => .byNetwork n
  | false, some n => .byBoth wanted n
  | true, none => .nothing

end Peer

namespace PeerCriteria

theorem ofPeer_eq (ns : String) (peer : Peer) :
    ofPeer ns peer = peer.wanted.map (peer.criteria ns) := by
  have hcriteria : forall wanted : Labels,
      (match wanted.isEmpty, peer.networkSelector.bind (NetworkSelector.network? ns) with
        | false, none => (Except.ok (.byLabels wanted) : Except SelectorError PeerCriteria)
        | true, some n => .ok (.byNetwork n)
        | false, some n => .ok (.byBoth wanted n)
        | true, none => .ok .nothing) = .ok (peer.criteria ns wanted) := by
    intro wanted
    unfold Peer.criteria
    cases wanted.isEmpty <;>
      cases peer.networkSelector.bind (NetworkSelector.network? ns) <;> rfl
  unfold ofPeer Peer.wanted
  cases peer.podSelector with
  | none => exact hcriteria ∅
  | some selector =>
      simp only
      cases selector.reduce with
      | error error => rfl
      | ok wanted => exact hcriteria wanted

/-- A peer is left out if its pod selector does not reduce. -/
theorem ofPeer_error_iff (ns : String) (peer : Peer) :
    (exists error, ofPeer ns peer = .error error) <->
      exists selector error, peer.podSelector = some selector ∧
        selector.reduce = .error error := by
  rw [ofPeer_eq]
  unfold Peer.wanted
  cases peer.podSelector with
  | none =>
      constructor
      · intro hfails
        rcases hfails with ⟨error, h⟩
        cases h
      · intro hfails
        rcases hfails with ⟨selector, error, h, _⟩
        cases h
  | some selector =>
      cases hreduce : selector.reduce with
      | error error =>
          constructor
          · intro _
            exact ⟨selector, error, rfl, hreduce⟩
          · intro _
            exact ⟨error, by simp [hreduce, Except.map]⟩
      | ok labels =>
          constructor
          · intro hfails
            rcases hfails with ⟨error, h⟩
            simp only [hreduce] at h
            cases h
          · intro hfails
            rcases hfails with ⟨selector', error, h, herror⟩
            cases h
            rw [hreduce] at herror
            cases herror

section Resolution

variable {workloadUid : String} {x : EndpointIndex} {listing : List Endpoint}

theorem mem_anyLabel (h : EndpointIndex.Indexes workloadUid x listing)
    (hkey : forall a b, a ∈ listing -> b ∈ listing -> a.uid = b.uid -> a = b)
    {wanted : Labels} {e : Endpoint} :
    e ∈ anyLabel x wanted <-> e ∈ listing ∧ Peer.Labeled wanted e := by
  have hmem : forall e, e ∈ wanted.entries.flatMap (fun pair => x.labeled pair.1 pair.2) <->
      e ∈ listing ∧ Peer.Labeled wanted e := by
    intro e
    simp only [List.mem_flatMap, h.labeled, List.mem_filter, decide_eq_true_eq]
    constructor
    · intro hfound
      rcases hfound with ⟨⟨key, value⟩, hpair, he, hlabel⟩
      exact ⟨he, key, value, SortedMap.mem_entries.mp hpair, SortedMap.mem_entries.mp hlabel⟩
    · intro hlabeled
      rcases hlabeled with ⟨he, key, value, hwanted, hlabel⟩
      exact ⟨(key, value), SortedMap.mem_entries.mpr hwanted, he,
        SortedMap.mem_entries.mpr hlabel⟩
  unfold anyLabel
  rw [mem_keepFirst_of_injective, hmem]
  intro a b ha hb
  exact hkey a b ((hmem a).mp ha).left ((hmem b).mp hb).left

theorem mem_attached (h : EndpointIndex.Indexes workloadUid x listing) {network : PodNetwork}
    {e : Endpoint} : e ∈ x.attached network <-> e ∈ listing ∧ e.network = network := by
  rw [h.attached]
  simp

/-- A look-up that finds what satisfies a condition finds something if the listing
has it. -/
theorem ne_nil_iff_exists {found : List Endpoint} {condition : Endpoint -> Prop}
    (h : forall e, e ∈ found <-> e ∈ listing ∧ condition e) :
    found ≠ [] <-> exists e, e ∈ listing ∧ condition e := by
  constructor
  · intro hne
    rcases List.exists_mem_of_ne_nil _ hne with ⟨e, he⟩
    exact ⟨e, (h e).mp he⟩
  · intro hsome hnil
    rcases hsome with ⟨e, he⟩
    have hmem := (h e).mpr he
    rw [hnil] at hmem
    cases hmem

theorem mem_resolve_byBoth (h : EndpointIndex.Indexes workloadUid x listing)
    (hkey : forall a b, a ∈ listing -> b ∈ listing -> a.uid = b.uid -> a = b)
    {wanted : Labels} {network : PodNetwork} {e : Endpoint} :
    e ∈ (byBoth wanted network).resolve x <-> e ∈ listing ∧
      (Peer.Labeled wanted e ∨ e.network = network) ∧
        ((exists e', e' ∈ listing ∧ Peer.Labeled wanted e') ->
          (exists e', e' ∈ listing ∧ e'.network = network) ->
          Peer.Labeled wanted e ∧ e.network = network) := by
  have hlabeled : forall e, e ∈ anyLabel x wanted <-> e ∈ listing ∧ Peer.Labeled wanted e :=
    fun _ => mem_anyLabel h hkey
  have hattached : forall e, e ∈ x.attached network <-> e ∈ listing ∧ e.network = network :=
    fun _ => mem_attached h
  have hsomeLabeled := ne_nil_iff_exists hlabeled
  have hsomeAttached := ne_nil_iff_exists hattached
  rw [← hsomeLabeled, ← hsomeAttached]
  by_cases hnoneAttached : x.attached network = []
  · have hresolve : (byBoth wanted network).resolve x = anyLabel x wanted := by
      simp [resolve, hnoneAttached]
    rw [hresolve, hlabeled]
    constructor
    · intro hfound
      rcases hfound with ⟨he, hlabel⟩
      exact ⟨he, Or.inl hlabel, fun _ hne => absurd hnoneAttached hne⟩
    · intro hselected
      rcases hselected with ⟨he, hlabel | hnetwork, _⟩
      · exact ⟨he, hlabel⟩
      · exact absurd hnoneAttached (hsomeAttached.mpr ⟨e, he, hnetwork⟩)
  by_cases hnoneLabeled : anyLabel x wanted = []
  · have hresolve : (byBoth wanted network).resolve x = x.attached network := by
      simp [resolve, hnoneAttached, hnoneLabeled]
    rw [hresolve, hattached]
    constructor
    · intro hfound
      rcases hfound with ⟨he, hnetwork⟩
      exact ⟨he, Or.inr hnetwork, fun hne => absurd hnoneLabeled hne⟩
    · intro hselected
      rcases hselected with ⟨he, hlabel | hnetwork, _⟩
      · exact absurd hnoneLabeled (hsomeLabeled.mpr ⟨e, he, hlabel⟩)
      · exact ⟨he, hnetwork⟩
  have hresolve : (byBoth wanted network).resolve x =
      (anyLabel x wanted).filter fun e =>
        ((x.attached network).map Endpoint.uid).contains e.uid := by
    simp [resolve, hnoneAttached, hnoneLabeled]
  rw [hresolve, List.mem_filter, List.contains_iff_mem, List.mem_map, hlabeled]
  constructor
  · intro hfound
    rcases hfound with ⟨⟨he, hlabel⟩, e', he', huid⟩
    rcases (hattached e').mp he' with ⟨hmem, hnetwork⟩
    rw [hkey e' e hmem he huid] at hnetwork
    exact ⟨he, Or.inl hlabel, fun _ _ => ⟨hlabel, hnetwork⟩⟩
  · intro hselected
    rcases hselected with ⟨he, _, hboth⟩
    rcases hboth hnoneLabeled hnoneAttached with ⟨hlabel, hnetwork⟩
    exact ⟨⟨he, hlabel⟩, e, (hattached e).mpr ⟨he, hnetwork⟩, rfl⟩

/-- Criteria resolve to the endpoints of the listing that the peer selects. -/
theorem mem_resolve (h : EndpointIndex.Indexes workloadUid x listing)
    (hkey : forall a b, a ∈ listing -> b ∈ listing -> a.uid = b.uid -> a = b)
    {ns : String} {peer : Peer} {wanted : Labels} (hwanted : peer.wanted = .ok wanted)
    {e : Endpoint} :
    e ∈ (peer.criteria ns wanted).resolve x <-> e ∈ listing ∧ peer.Selects listing ns e := by
  have hselects : peer.Selects listing ns e <->
      (Peer.Labeled wanted e ∨ peer.Attached ns e) ∧
        ((exists e', e' ∈ listing ∧ Peer.Labeled wanted e') ->
          (exists e', e' ∈ listing ∧ peer.Attached ns e') ->
          Peer.Labeled wanted e ∧ peer.Attached ns e) := by
    unfold Peer.Selects
    simp [hwanted]
  rw [hselects]
  unfold Peer.criteria
  cases hempty : wanted.isEmpty with
  | true =>
      have hnone := Peer.not_labeled_of_isEmpty hempty
      cases hnetwork : peer.networkSelector.bind (NetworkSelector.network? ns) with
      | none => simp [resolve, hnone, Peer.attached_iff, hnetwork]
      | some network =>
          simp [resolve, hnone, Peer.attached_iff, hnetwork, mem_attached h, eq_comm]
  | false =>
      cases hnetwork : peer.networkSelector.bind (NetworkSelector.network? ns) with
      | none => simp [resolve, mem_anyLabel h hkey, Peer.attached_iff, hnetwork]
      | some network =>
          simp only [Peer.attached_iff, hnetwork, Option.some.injEq, eq_comm (a := network)]
          exact mem_resolve_byBoth h hkey

end Resolution

end PeerCriteria

namespace Peer

/-- The endpoints that the criteria of a peer resolve to.  A peer without
criteria yields none. -/
def resolve (x : EndpointIndex) (ns : String) (peer : Peer) : List Endpoint :=
  match PeerCriteria.ofPeer ns peer with
  | .ok criteria => criteria.resolve x
  | .error _ => []

theorem mem_resolve {workloadUid : String} {x : EndpointIndex} {listing : List Endpoint}
    (h : EndpointIndex.Indexes workloadUid x listing)
    (hkey : forall a b, a ∈ listing -> b ∈ listing -> a.uid = b.uid -> a = b)
    {ns : String} {peer : Peer} {e : Endpoint} :
    e ∈ peer.resolve x ns <-> e ∈ listing ∧ peer.Selects listing ns e := by
  unfold resolve
  rw [PeerCriteria.ofPeer_eq]
  cases hwanted : peer.wanted with
  | error error =>
      constructor
      · intro he
        cases he
      · intro hselected
        rcases hselected with ⟨_, wanted, h, _⟩
        rw [hwanted] at h
        cases h
  | ok wanted => exact PeerCriteria.mem_resolve h hkey hwanted

/-- A peer that asks for one label selects the endpoints that have it. -/
theorem selects_label_iff {listing : List Endpoint} {ns key value : String} {e : Endpoint} :
    Selects listing ns { podSelector := some (.ofLabels (SortedMap.ofList [(key, value)])) } e <->
      e.labels.get? key = some value := by
  constructor
  · rintro ⟨wanted, hwanted, hlabeled | ⟨n, hn, _⟩, _⟩
    · cases hwanted
      rcases hlabeled with ⟨key', value', hasked, hlabel⟩
      have hpair : (key', value') ∈ [(key, value)] := SortedMap.mem_entries.mpr hasked
      cases List.mem_singleton.mp hpair
      exact hlabel
    · cases hn
  · intro hlabel
    have hasked : (SortedMap.ofList [(key, value)]).get? key = some value := by
      simp [SortedMap.ofList]
    refine ⟨_, rfl, Or.inl ⟨key, value, hasked, hlabel⟩, ?_⟩
    rintro _ ⟨_, _, n, hn, _⟩
    cases hn

/-- A peer that asks for one label resolves to the endpoints that have it. -/
theorem resolve_label (listing : List Endpoint) (workloadUid ns key value : String) :
    resolve (.ofList listing workloadUid) ns
        { podSelector := some (.ofLabels (SortedMap.ofList [(key, value)])) } =
      keepFirst Endpoint.uid ((keepFirst Endpoint.uid listing).filter fun e =>
        (key, value) ∈ e.labels.entries) := by
  let x := EndpointIndex.ofList listing workloadUid
  have hresolve : resolve x ns
      { podSelector := some (.ofLabels (SortedMap.ofList [(key, value)])) } =
        keepFirst Endpoint.uid (x.labeled key value ++ []) := rfl
  rw [hresolve, List.append_nil, (EndpointIndex.indexes_ofList listing workloadUid).labeled]

end Peer

end PodIsolation
