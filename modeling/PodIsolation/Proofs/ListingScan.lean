import PodIsolation.Proofs.Isolation
import PodIsolation.Proofs.PeerResolution

/-!
# Indexes of listings

## Look-ups in an index of a listing

An index is filled in one pass over a listing, in which some items are left out.
Whatever is asked of it afterwards, it answers as a scan of the items that were
kept would, and every position that it holds belongs to one of them.
-/

namespace PodIsolation

/-!
# Positions in buckets
-/

/-- The positions are those of some of so many items, in the order of the items. -/
structure Ascending (size : Nat) (positions : List Nat) : Prop where
  valid : forall i, i ∈ positions -> i < size
  increasing : positions.Pairwise (· < ·)

namespace Ascending

variable {size : Nat} {positions : List Nat}

theorem nil (size : Nat) : Ascending size [] where
  valid := fun _ h => absurd h List.not_mem_nil
  increasing := List.Pairwise.nil

theorem grow (h : Ascending size positions) : Ascending (size + 1) positions where
  valid := fun i hi => Nat.lt_succ_of_lt (h.valid i hi)
  increasing := h.increasing

/-- A new item is at the end, behind all positions that a bucket holds. -/
theorem push (h : Ascending size positions) : Ascending (size + 1) (positions ++ [size]) := by
  constructor
  · intro i hi
    rcases List.mem_append.mp hi with hi | hi
    · exact Nat.lt_succ_of_lt (h.valid i hi)
    · rw [List.mem_singleton.mp hi]
      exact Nat.lt_succ_self size
  · rw [List.pairwise_append]
    refine ⟨h.increasing, List.pairwise_singleton _ size, ?_⟩
    intro i hi j hj
    rw [List.mem_singleton.mp hj]
    exact h.valid i hi

end Ascending

/-!
# Endpoints
-/

/-- The endpoint is the one that the resource describes.  A resource without a
unique id or a namespace describes none. -/
structure EndpointResource.Describes (r : EndpointResource) (e : Endpoint) : Prop where
  uid : r.metadata.uid = some e.uid
  ns : r.metadata.ns = some e.workload.ns
  pod : e.workload.name = r.spec.pod
  podUid : e.workload.uid = r.spec.podUid
  labels : e.labels = r.metadata.labels.getD ∅
  ipv4 : e.ipv4 = Endpoint.ipv4Of? r.spec.iface.address
  ipv6 : e.ipv6 = Endpoint.ipv6Of? r.spec.iface.addressV6
  network : e.network = .within r.spec.networkName (.ofName r.spec.apiType) e.workload.ns
  netns : e.netns = r.spec.netns

theorem Endpoint.ofResource_eq_ok_iff {r : EndpointResource} {e : Endpoint} :
    ofResource r = .ok e <-> r.Describes e := by
  unfold ofResource
  constructor
  · intro h
    simp only at h
    split at h
    · cases h
    · cases h
    · rename_i uid ns huid hns
      cases h
      -- `rfl` would evaluate the addresses.
      constructor <;> simp only [huid, hns]
  · intro h
    simp only [h.uid, h.ns]
    rw [← h.pod, ← h.podUid, ← h.labels, ← h.ipv4, ← h.ipv6, ← h.network, ← h.netns]

theorem Endpoint.exists_ofResource_iff {r : EndpointResource} :
    (exists e, ofResource r = .ok e) <-> r.metadata.uid ≠ none ∧ r.metadata.ns ≠ none := by
  unfold ofResource
  cases r.metadata.uid with
  | none => simp
  | some uid => cases r.metadata.ns <;> simp

namespace EndpointIndex

/-- Every bucket holds positions of indexed endpoints, in their order. -/
structure Filed (x : EndpointIndex) : Prop where
  byLabel : forall pair, Ascending x.size (x.byLabel.positions pair)
  byNetwork : forall network, Ascending x.size (x.byNetwork.positions network)
  ofWorkload : Ascending x.size x.ofWorkload

theorem filed_empty : Filed {} := by
  constructor
  · intro pair
    rw [Buckets.positions_empty]
    exact Ascending.nil _
  · intro network
    rw [Buckets.positions_empty]
    exact Ascending.nil _
  · exact Ascending.nil _

theorem Filed.add {x : EndpointIndex} (h : Filed x) (workloadUid : String) (e : Endpoint) :
    Filed (x.add workloadUid e) := by
  have hsize : (x.add workloadUid e).size = x.size + 1 := Array.size_push ..
  constructor
  · intro pair
    rw [hsize, EndpointIndex.add, Buckets.positions_addUnder e.labels.entries_nodup]
    split
    · exact (h.byLabel pair).push
    · exact (h.byLabel pair).grow
  · intro network
    rw [hsize, EndpointIndex.add, Buckets.positions_add]
    split
    · exact (h.byNetwork network).push
    · exact (h.byNetwork network).grow
  · rw [hsize, EndpointIndex.add]
    split
    · exact h.ofWorkload.push
    · exact h.ofWorkload.grow

theorem filed_ofList (listing : List Endpoint) (workloadUid : String) :
    Filed (ofList listing workloadUid) :=
  List.foldlRecOn (motive := Filed) _ _ filed_empty fun _ h e _ => h.add workloadUid e

/-- The index of a listing of resources answers like a scan of the endpoints that
the resources describe, of which the first with each unique id counts.  No
look-up meets a position without an endpoint. -/
theorem answers_like_scan (resources : List EndpointResource) (workloadUid : String) :
    let x := ofResources resources workloadUid
    let endpoints := (resources.filterMap fun r => (Endpoint.ofResource r).toOption).eraseDupsBy
      fun e e' => e.uid == e'.uid
    (forall r e, Endpoint.ofResource r = .ok e <-> r.Describes e) ∧
    (forall r, (exists e, Endpoint.ofResource r = .ok e) <->
      r.metadata.uid ≠ none ∧ r.metadata.ns ≠ none) ∧
    (forall key value, x.labeled key value =
      endpoints.filter fun e => e.labels.get? key = some value) ∧
    (forall network, x.attached network = endpoints.filter fun e => e.network = network) ∧
    x.workloadEndpoints = (endpoints.filter fun e => e.workload.uid = workloadUid) ∧
    x.netns? = (endpoints.find? fun e => e.workload.uid = workloadUid).map Endpoint.netns ∧
    x.size = endpoints.length ∧
    (forall key value, Ascending x.size (x.byLabel.positions (key, value))) ∧
    (forall network, Ascending x.size (x.byNetwork.positions network)) ∧
    Ascending x.size x.ofWorkload := by
  intro x endpoints
  have hindexes : Indexes workloadUid x endpoints := indexes_ofResources resources workloadUid
  have hfiled : Filed x := filed_ofList _ workloadUid
  have hnetns : x.netns? =
      (endpoints.find? fun e => e.workload.uid = workloadUid).map Endpoint.netns := by
    rw [netns?, hindexes.workloadEndpoints, List.head?_filter]
  have hsize : x.size = endpoints.length := by
    rw [← hindexes.all, Array.length_toList]
    rfl
  refine ⟨fun _ _ => Endpoint.ofResource_eq_ok_iff, fun _ => Endpoint.exists_ofResource_iff, ?_,
    hindexes.attached, hindexes.workloadEndpoints, hnetns, hsize,
    fun key value => hfiled.byLabel (key, value), hfiled.byNetwork, hfiled.ofWorkload⟩
  intro key value
  simp only [hindexes.labeled, SortedMap.mem_entries]

end EndpointIndex

/-!
# Policies

Policies whose selectors do not reduce have no place in an index.
-/

namespace Policy

variable {p : Policy}

theorem asksFor_iff {key value : String} :
    p.asksFor (key, value) = true <->
      exists wanted, p.spec.podSelector.reduce = .ok wanted ∧ wanted.get? key = some value := by
  unfold asksFor
  cases p.spec.podSelector.reduce with
  | error error => simp
  | ok wanted => simp [SortedMap.mem_entries]

theorem asksForNothing_iff :
    p.asksForNothing = true <-> p.spec.podSelector.reduce = .ok ∅ := by
  unfold asksForNothing
  cases p.spec.podSelector.reduce with
  | error error => simp
  | ok wanted => simp [Peer.isEmpty_eq_true_iff]

end Policy

namespace PolicyIndex

end PolicyIndex

end PodIsolation
