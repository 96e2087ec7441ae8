import PodIsolation.Policy.Index
import PodIsolation.Endpoint.Index
import PodIsolation.Proofs.MapLookup

/-!
# Indexes and scans

## Look-ups as filters

An index answers each look-up with the items that a scan of the listing would
find, in the same order.
-/

namespace PodIsolation

/-!
# First occurrences
-/

section FirstOccurrences

variable {A K : Type} [DecidableEq K]

theorem keepFirstBeyond_eq (key : A -> K) (seen : List K) (items : List A) :
    keepFirstBeyond key seen items =
      (items.filter fun a => key a ∉ seen).eraseDupsBy fun a b => key a == key b := by
  induction items generalizing seen with
  | nil => rfl
  | cons a rest ih =>
      by_cases hseen : key a ∈ seen
      · simp [keepFirstBeyond, hseen, ih]
      · have hrest : (rest.filter fun b => key b ∉ key a :: seen) =
            (rest.filter fun b => key b ∉ seen).filter fun b => (key b == key a) = false := by
          rw [List.filter_filter]
          apply List.filter_congr
          intro b _
          by_cases hb : key b = key a <;> simp [hb]
        simp only [keepFirstBeyond, if_neg hseen, ih, hrest]
        simp [hseen, List.eraseDupsBy_cons]

theorem keepFirst_eq (key : A -> K) (items : List A) :
    keepFirst key items = items.eraseDupsBy fun a b => key a == key b := by
  have hall : (items.filter fun a => key a ∉ ([] : List K)) = items := by
    rw [List.filter_eq_self]
    simp
  unfold keepFirst
  rw [keepFirstBeyond_eq, hall]

theorem mem_keepFirstBeyond_of_mem {key : A -> K} {seen : List K} {items : List A} {a : A}
    (ha : a ∈ items) (hseen : key a ∉ seen) :
    exists b, b ∈ keepFirstBeyond key seen items ∧ key b = key a := by
  induction items generalizing seen with
  | nil => cases ha
  | cons c rest ih =>
      by_cases hc : key c ∈ seen
      · have hrest : a ∈ rest := by
          rcases List.mem_cons.mp ha with rfl | hrest
          · exact absurd hc hseen
          · exact hrest
        simpa [keepFirstBeyond, hc] using ih hrest hseen
      · by_cases hac : key a = key c
        · exact ⟨c, by simp [keepFirstBeyond, hc], hac.symm⟩
        · have hrest : a ∈ rest := by
            rcases List.mem_cons.mp ha with rfl | hrest
            · exact absurd rfl hac
            · exact hrest
          have hunseen : key a ∉ key c :: seen := by
            simp [hac, hseen]
          rcases ih hrest hunseen with ⟨b, hb, hkey⟩
          exact ⟨b, by simp [keepFirstBeyond, hc, hb], hkey⟩

/-- Nothing is lost from items that their keys tell apart. -/
theorem mem_keepFirst_of_injective {key : A -> K} {items : List A}
    (hkey : forall a b, a ∈ items -> b ∈ items -> key a = key b -> a = b) (a : A) :
    a ∈ keepFirst key items <-> a ∈ items := by
  constructor
  · exact (keepFirst_sublist key items).mem
  · intro ha
    rcases mem_keepFirstBeyond_of_mem ha (List.not_mem_nil (a := key a)) with ⟨b, hb, hab⟩
    have hmem : b ∈ items := (keepFirst_sublist key items).mem hb
    rw [hkey a b ha hmem hab.symm]
    exact hb

theorem keepFirstBeyond_pairwise (key : A -> K) (seen : List K) (items : List A) :
    (keepFirstBeyond key seen items).Pairwise (fun a b => key a ≠ key b) ∧
      forall a, a ∈ keepFirstBeyond key seen items -> key a ∉ seen := by
  induction items generalizing seen with
  | nil => simp [keepFirstBeyond]
  | cons a rest ih =>
      by_cases ha : key a ∈ seen
      · simpa [keepFirstBeyond, ha] using ih seen
      · obtain ⟨hpairwise, hseen⟩ := ih (key a :: seen)
        simp only [keepFirstBeyond, if_neg ha, List.pairwise_cons, List.mem_cons]
        refine ⟨⟨fun b hb heq => hseen b hb ?_, hpairwise⟩, ?_⟩
        · rw [heq]
          exact List.mem_cons_self
        · intro b hb
          rcases hb with rfl | hb
          · exact ha
          · exact fun hmem => hseen b hb (List.mem_cons_of_mem _ hmem)

theorem keepFirst_injective {key : A -> K} {items : List A} {a b : A}
    (ha : a ∈ keepFirst key items) (hb : b ∈ keepFirst key items) (h : key a = key b) :
    a = b := by
  have hpairwise := (keepFirstBeyond_pairwise key [] items).left
  rcases List.getElem_of_mem ha with ⟨i, hi, rfl⟩
  rcases List.getElem_of_mem hb with ⟨j, hj, rfl⟩
  rcases Nat.lt_trichotomy i j with hlt | rfl | hlt
  · exact absurd h (List.pairwise_iff_getElem.mp hpairwise i j hi hj hlt)
  · rfl
  · exact absurd h.symm (List.pairwise_iff_getElem.mp hpairwise j i hj hi hlt)

end FirstOccurrences

/-!
# Positions

Items are added to an index at the end, so that positions stay valid.
-/

section Positions

variable {A : Type}

/-- The positions are those of the given items. -/
def Locates (items : Array A) (positions : List Nat) (found : List A) : Prop :=
  positions.map (fun i => items[i]?) = found.map some

theorem locates_nil (items : Array A) : Locates items [] [] :=
  rfl

theorem Locates.filterMap {items : Array A} {positions : List Nat} {found : List A}
    (h : Locates items positions found) :
    positions.filterMap (fun i => items[i]?) = found := by
  have hsome : (positions.map fun i => items[i]?).filterMap id = (found.map some).filterMap id :=
    congrArg (List.filterMap id) h
  simpa [List.filterMap_map, Function.comp_def] using hsome

theorem Locates.valid {items : Array A} {positions : List Nat} {found : List A}
    (h : Locates items positions found) {i : Nat} (hi : i ∈ positions) : i < items.size := by
  have hmem : items[i]? ∈ found.map some := by
    rw [← h]
    exact List.mem_map_of_mem hi
  rcases List.mem_map.mp hmem with ⟨a, _, ha⟩
  exact (Array.getElem?_eq_some_iff.mp ha.symm).1

theorem Locates.push {items : Array A} {positions : List Nat} {found : List A}
    (h : Locates items positions found) (a : A) : Locates (items.push a) positions found := by
  unfold Locates
  rw [← h]
  apply List.map_congr_left
  intro i hi
  have hvalid := h.valid hi
  rw [Array.getElem?_push_lt hvalid, Array.getElem?_eq_getElem hvalid]

theorem Locates.push_last {items : Array A} {positions : List Nat} {found : List A}
    (h : Locates items positions found) (a : A) :
    Locates (items.push a) (positions ++ [items.size]) (found ++ [a]) := by
  have hpush := h.push a
  unfold Locates at hpush ⊢
  rw [List.map_append, List.map_append, hpush]
  simp

end Positions

/-- An index that keeps track of the items added to it so far, item by item, has
kept track of a whole list in the end. -/
theorem foldl_tracks {A X : Type} {tracks : X -> List A -> Prop} {add : X -> A -> X}
    (hadd : forall x added a, tracks x added -> tracks (add x a) (added ++ [a]))
    (items : List A) {x : X} {added : List A} (h : tracks x added) :
    tracks (items.foldl add x) (added ++ items) := by
  induction items generalizing x added with
  | nil =>
      rw [List.append_nil]
      exact h
  | cons a rest ih =>
      have hrest := ih (hadd x added a h)
      rw [List.append_assoc] at hrest
      exact hrest

theorem Buckets.positions_addUnder {K : Type} [BEq K] [Hashable K] [LawfulBEq K]
    [LawfulHashable K] {keys : List K} (hnodup : keys.Nodup) (b : Buckets K) (position : Nat)
    (k : K) :
    positions (b.addUnder keys position) k =
      if k ∈ keys then b.positions k ++ [position] else b.positions k := by
  unfold addUnder
  induction keys generalizing b with
  | nil => simp
  | cons key rest ih =>
      obtain ⟨hkey, hrest⟩ := List.nodup_cons.mp hnodup
      rw [List.foldl_cons, ih hrest, positions_add]
      by_cases hk : key = k
      · subst hk
        simp [hkey]
      · simp [hk, Ne.symm hk]

/-!
# Endpoints
-/

namespace EndpointIndex

/-- The index holds the given endpoints, from the point of view of one pod. -/
structure Indexes (workloadUid : String) (x : EndpointIndex) (endpoints : List Endpoint) :
    Prop where
  all : x.endpoints.toList = endpoints
  byLabel : forall pair, Locates x.endpoints (x.byLabel.positions pair)
    (endpoints.filter fun e => pair ∈ e.labels.entries)
  byNetwork : forall network, Locates x.endpoints (x.byNetwork.positions network)
    (endpoints.filter fun e => e.network = network)
  ofWorkload : Locates x.endpoints x.ofWorkload
    (endpoints.filter fun e => e.workload.uid = workloadUid)

theorem indexes_empty (workloadUid : String) : Indexes workloadUid {} [] := by
  constructor
  · rfl
  · intro pair
    rw [Buckets.positions_empty]
    exact locates_nil _
  · intro network
    rw [Buckets.positions_empty]
    exact locates_nil _
  · exact locates_nil _

theorem Indexes.add {workloadUid : String} {x : EndpointIndex} {endpoints : List Endpoint}
    (h : Indexes workloadUid x endpoints) (e : Endpoint) :
    Indexes workloadUid (x.add workloadUid e) (endpoints ++ [e]) := by
  constructor
  · simp [EndpointIndex.add, h.all]
  · intro pair
    have hlocates := h.byLabel pair
    simp only [EndpointIndex.add, Buckets.positions_addUnder e.labels.entries_nodup,
      List.filter_append]
    by_cases hpair : pair ∈ e.labels.entries
    · simpa [hpair] using hlocates.push_last e
    · simpa [hpair] using hlocates.push e
  · intro network
    have hlocates := h.byNetwork network
    simp only [EndpointIndex.add, Buckets.positions_add, List.filter_append]
    by_cases hnetwork : e.network = network
    · simpa [hnetwork] using hlocates.push_last e
    · simpa [hnetwork] using hlocates.push e
  · have hlocates := h.ofWorkload
    simp only [EndpointIndex.add, List.filter_append]
    by_cases hworkload : e.workload.uid = workloadUid
    · simpa [hworkload] using hlocates.push_last e
    · simpa [hworkload] using hlocates.push e

theorem indexes_ofList (listing : List Endpoint) (workloadUid : String) :
    Indexes workloadUid (ofList listing workloadUid) (keepFirst Endpoint.uid listing) := by
  have hadd : forall x endpoints e, Indexes workloadUid x endpoints ->
      Indexes workloadUid (EndpointIndex.add workloadUid x e) (endpoints ++ [e]) :=
    fun _ _ e h => h.add e
  exact foldl_tracks hadd (keepFirst Endpoint.uid listing) (indexes_empty workloadUid)

variable {workloadUid : String} {x : EndpointIndex} {endpoints : List Endpoint}

theorem Indexes.labeled (h : Indexes workloadUid x endpoints) (key value : String) :
    x.labeled key value = endpoints.filter fun e => (key, value) ∈ e.labels.entries :=
  (h.byLabel (key, value)).filterMap

theorem Indexes.attached (h : Indexes workloadUid x endpoints) (network : PodNetwork) :
    x.attached network = endpoints.filter fun e => e.network = network :=
  (h.byNetwork network).filterMap

theorem Indexes.workloadEndpoints (h : Indexes workloadUid x endpoints) :
    x.workloadEndpoints = endpoints.filter fun e => e.workload.uid = workloadUid :=
  h.ofWorkload.filterMap

end EndpointIndex

/-!
# Policies
-/

namespace Policy

/-- The selector of the policy reduces to labels among which the pair is. -/
def asksFor (p : Policy) (pair : String × String) : Bool :=
  match p.spec.podSelector.reduce with
  | .ok labels => labels.entries.contains pair
  | .error _ => false

/-- The selector of the policy reduces to no labels at all. -/
def asksForNothing (p : Policy) : Bool :=
  match p.spec.podSelector.reduce with
  | .ok labels => labels.isEmpty
  | .error _ => false

end Policy

namespace PolicyIndex

structure Indexes (x : PolicyIndex) (policies : List Policy) : Prop where
  byLabel : forall pair, Locates x.policies (x.byLabel.positions pair)
    (policies.filter fun p => p.asksFor pair)
  unconditional : Locates x.policies x.unconditional (policies.filter Policy.asksForNothing)

theorem indexes_empty : Indexes {} [] := by
  constructor
  · intro pair
    rw [Buckets.positions_empty]
    exact locates_nil _
  · exact locates_nil _

theorem Indexes.add {x : PolicyIndex} {policies : List Policy} (h : Indexes x policies)
    (p : Policy) : Indexes (x.add p) (policies ++ [p]) := by
  cases hreduce : p.spec.podSelector.reduce with
  | error e =>
      have hadd : x.add p = x := by
        simp [PolicyIndex.add, hreduce]
      rw [hadd]
      constructor
      · intro pair
        simpa [List.filter_append, Policy.asksFor, hreduce] using h.byLabel pair
      · simpa [List.filter_append, Policy.asksForNothing, hreduce] using h.unconditional
  | ok labels =>
      constructor
      · intro pair
        have hlocates := h.byLabel pair
        simp only [PolicyIndex.add, hreduce,
          Buckets.positions_addUnder labels.entries_nodup, List.filter_append]
        by_cases hpair : pair ∈ labels.entries
        · simpa [Policy.asksFor, hreduce, hpair] using hlocates.push_last p
        · simpa [Policy.asksFor, hreduce, hpair] using hlocates.push p
      · have hlocates := h.unconditional
        simp only [PolicyIndex.add, hreduce, List.filter_append]
        by_cases hempty : labels.isEmpty = true
        · simpa [Policy.asksForNothing, hreduce, hempty] using hlocates.push_last p
        · simpa [Policy.asksForNothing, hreduce, hempty] using hlocates.push p

theorem indexes_ofList (listing : List Policy) : Indexes (ofList listing) listing := by
  have hadd : forall x policies p, Indexes x policies ->
      Indexes (PolicyIndex.add x p) (policies ++ [p]) :=
    fun _ _ p h => h.add p
  exact foldl_tracks hadd listing indexes_empty

/-- The policies that apply to a pod are found label by label, then those that
ask for no labels; of policies with one key the first counts. -/
theorem applicable_ofList (listing : List Policy) (labels : Labels) :
    (ofList listing).applicable labels =
      ((labels.entries.flatMap fun pair => listing.filter fun p => p.asksFor pair) ++
        listing.filter Policy.asksForNothing).eraseDupsBy fun p q => p.key == q.key := by
  have h := indexes_ofList listing
  unfold applicable
  rw [keepFirst_eq, List.filterMap_append, List.filterMap_flatMap, h.unconditional.filterMap]
  simp only [fun pair => (h.byLabel pair).filterMap]

end PolicyIndex

end PodIsolation
