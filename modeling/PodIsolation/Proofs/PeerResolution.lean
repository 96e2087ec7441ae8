import Mathlib.Data.List.Basic
import PodIsolation.Proofs.PeerSelection

/-!
# Resolution of peers

## What a peer yields, in which order

Resolution looks endpoints up in an index, key by key, and drops those that it
has found before.  Here its result is read off the listing itself: which
endpoints are found, each once, and which of them comes first.
-/

namespace PodIsolation

/-!
# Items in groups

Items that are collected group by group are kept in the first group to which they
belong.
-/

section Groups

variable {A G K : Type} [DecidableEq G] [DecidableEq K] {key : A -> K} {items : List A}

theorem keepFirstBeyond_congr {seen seen' : List K} (h : forall k, k ∈ seen <-> k ∈ seen') :
    keepFirstBeyond key seen items = keepFirstBeyond key seen' items := by
  simp only [keepFirstBeyond_eq, h]

theorem keepFirstBeyond_append (seen : List K) (more : List A) :
    keepFirstBeyond key seen (items ++ more) =
      keepFirstBeyond key seen items ++ keepFirstBeyond key (items.map key ++ seen) more := by
  induction items generalizing seen with
  | nil => rfl
  | cons a rest ih =>
      by_cases ha : key a ∈ seen
      · have hseen : forall k, k ∈ rest.map key ++ seen <-> k ∈ (a :: rest).map key ++ seen := by
          intro k
          simp only [List.map_cons, List.cons_append, List.mem_cons, List.mem_append]
          constructor
          · exact Or.inr
          · intro hk
            rcases hk with rfl | hk
            · exact Or.inr ha
            · exact hk
        simp only [List.cons_append, keepFirstBeyond, if_pos ha, ih,
          keepFirstBeyond_congr hseen]
      · have hseen : forall k, k ∈ rest.map key ++ key a :: seen <->
            k ∈ (a :: rest).map key ++ seen := by
          intro k
          simp only [List.map_cons, List.cons_append, List.mem_cons, List.mem_append]
          exact or_left_comm
        simp only [List.cons_append, keepFirstBeyond, if_neg ha, ih,
          keepFirstBeyond_congr hseen]

theorem keepFirstBeyond_of_distinct (h : items.Pairwise fun a b => key a ≠ key b)
    (seen : List K) : keepFirstBeyond key seen items = items.filter fun a => key a ∉ seen := by
  induction items generalizing seen with
  | nil => rfl
  | cons a rest ih =>
      obtain ⟨ha, hrest⟩ := List.pairwise_cons.mp h
      by_cases hseen : key a ∈ seen
      · simp [keepFirstBeyond, hseen, ih hrest]
      · have hothers : (rest.filter fun b => key b ∉ key a :: seen) =
            rest.filter fun b => key b ∉ seen := by
          apply List.filter_congr
          intro b hb
          simp [Ne.symm (ha b hb)]
        simp only [keepFirstBeyond, if_neg hseen, ih hrest, hothers]
        simp [hseen]

theorem keepFirst_of_distinct (h : items.Pairwise fun a b => key a ≠ key b) :
    keepFirst key items = items := by
  rw [keepFirst, keepFirstBeyond_of_distinct h, List.filter_eq_self]
  simp

/-- Items that their keys tell apart are equal if their keys are. -/
theorem eq_of_distinct (h : items.Pairwise fun a b => key a ≠ key b) {a b : A}
    (ha : a ∈ items) (hb : b ∈ items) (hkey : key a = key b) : a = b := by
  rw [← keepFirst_of_distinct h] at ha hb
  exact keepFirst_injective ha hb hkey

theorem keepFirstBeyond_flatMap_filter (h : items.Pairwise fun a b => key a ≠ key b)
    {groups : List G} (hgroups : groups.Nodup) (belongs : G -> A -> Bool) (seen : List K) :
    keepFirstBeyond key seen (groups.flatMap fun g => items.filter (belongs g)) =
      groups.flatMap fun g => items.filter fun a =>
        key a ∉ seen ∧ groups.find? (belongs · a) = some g := by
  induction groups generalizing seen with
  | nil => rfl
  | cons g rest ih =>
      obtain ⟨hg, hrest⟩ := List.nodup_cons.mp hgroups
      have hmem : forall a, a ∈ items ->
          (key a ∈ (items.filter (belongs g)).map key <-> belongs g a = true) := by
        intro a ha
        rw [List.mem_map]
        constructor
        · intro hfound
          rcases hfound with ⟨b, hb, hkey⟩
          obtain ⟨hb, hbelongs⟩ := List.mem_filter.mp hb
          rw [← eq_of_distinct h hb ha hkey]
          exact hbelongs
        · intro hbelongs
          exact ⟨a, List.mem_filter.mpr ⟨ha, hbelongs⟩, rfl⟩
      rw [List.flatMap_cons, List.flatMap_cons, keepFirstBeyond_append, ih hrest,
        keepFirstBeyond_of_distinct (h.filter _), List.filter_filter]
      congr 1
      · apply List.filter_congr
        intro a _
        by_cases hbelongs : belongs g a = true
        · simp [hbelongs]
        · have hother : rest.find? (belongs · a) ≠ some g := by
            intro hfind
            exact hg (List.mem_of_find?_eq_some hfind)
          simp [hbelongs, hother]
      · apply List.flatMap_congr
        intro g' hg'
        apply List.filter_congr
        intro a ha
        have hne : g ≠ g' := fun heq => hg (heq ▸ hg')
        by_cases hbelongs : belongs g a = true
        · simp [hbelongs, (hmem a ha).mpr hbelongs, hne]
        · simp [hbelongs, mt (hmem a ha).mp hbelongs]

/-- Of items that their keys tell apart, each is kept in the first group to which
it belongs. -/
theorem keepFirst_flatMap_filter (h : items.Pairwise fun a b => key a ≠ key b)
    {groups : List G} (hgroups : groups.Nodup) (belongs : G -> A -> Bool) :
    keepFirst key (groups.flatMap fun g => items.filter (belongs g)) =
      groups.flatMap fun g => items.filter fun a => groups.find? (belongs · a) = some g := by
  unfold keepFirst
  rw [keepFirstBeyond_flatMap_filter h hgroups]
  simp

end Groups

/-!
# Positions in the listing
-/

namespace Endpoint

/-- The first copy of each endpoint of a listing, in the order of the listing. -/
def firstCopies (listing : List Endpoint) : List Endpoint :=
  listing.eraseDupsBy fun e e' => e.uid == e'.uid

/-- Where the first copy of an endpoint is in a listing. -/
def position (listing : List Endpoint) (e : Endpoint) : Nat :=
  listing.findIdx fun e' => e'.uid == e.uid

variable {listing : List Endpoint}

theorem keepFirst_eq_firstCopies (listing : List Endpoint) :
    keepFirst Endpoint.uid listing = firstCopies listing :=
  keepFirst_eq Endpoint.uid listing

theorem firstCopies_distinct (listing : List Endpoint) :
    (firstCopies listing).Pairwise fun e e' => e.uid ≠ e'.uid := by
  rw [← keepFirst_eq_firstCopies]
  exact (keepFirstBeyond_pairwise Endpoint.uid [] listing).left

theorem firstCopies_injective {e e' : Endpoint} (he : e ∈ firstCopies listing)
    (he' : e' ∈ firstCopies listing) (h : e.uid = e'.uid) : e = e' :=
  eq_of_distinct (firstCopies_distinct listing) he he' h

theorem keepFirstBeyond_position (seen : List String) :
    (keepFirstBeyond Endpoint.uid seen listing).Pairwise fun e e' =>
      position listing e < position listing e' := by
  induction listing generalizing seen with
  | nil => exact List.Pairwise.nil
  | cons first rest ih =>
      have hlater : forall e, e.uid ≠ first.uid ->
          position (first :: rest) e = position rest e + 1 := by
        intro e he
        simp [position, List.findIdx_cons, beq_false_of_ne (Ne.symm he)]
      -- The endpoints kept of the rest differ from the first one, which was seen.
      have hrest : forall seen : List String, first.uid ∈ seen ->
          (keepFirstBeyond Endpoint.uid seen rest).Pairwise fun e e' =>
            position (first :: rest) e < position (first :: rest) e' := by
        intro seen hseen
        have hunseen := (keepFirstBeyond_pairwise Endpoint.uid seen rest).right
        apply (ih seen).imp_of_mem
        intro e e' he he' hlt
        rw [hlater e fun heq => hunseen e he (heq ▸ hseen),
          hlater e' fun heq => hunseen e' he' (heq ▸ hseen)]
        exact Nat.succ_lt_succ hlt
      by_cases hseen : first.uid ∈ seen
      · simpa [keepFirstBeyond, hseen] using hrest seen hseen
      · simp only [keepFirstBeyond, if_neg hseen]
        refine List.pairwise_cons.mpr ⟨?_, hrest _ List.mem_cons_self⟩
        intro e he
        have hunseen := (keepFirstBeyond_pairwise Endpoint.uid (first.uid :: seen) rest).right
        rw [hlater e fun heq => hunseen e he (heq ▸ List.mem_cons_self)]
        simp [position, List.findIdx_cons]

theorem firstCopies_position (listing : List Endpoint) :
    (firstCopies listing).Pairwise fun e e' => position listing e < position listing e' := by
  rw [← keepFirst_eq_firstCopies]
  exact keepFirstBeyond_position []

end Endpoint

/-!
# Wanted labels
-/

namespace Peer

variable {listing : List Endpoint} {wanted : Labels} {e : Endpoint} {key : String}

/-- The key is the smallest one under which the endpoint has a wanted label. -/
structure FirstMatch (wanted : Labels) (e : Endpoint) (key : String) : Prop where
  labeled : exists value, wanted.get? key = some value ∧ e.labels.get? key = some value
  least : forall other value, wanted.get? other = some value ->
    e.labels.get? other = some value -> key ≤ other

def firstMatch? (wanted : Labels) (e : Endpoint) : Option String :=
  (wanted.entries.find? fun pair => e.labels.get? pair.1 = some pair.2).map Prod.fst

theorem FirstMatch.unique {other : String} (h : FirstMatch wanted e key)
    (h' : FirstMatch wanted e other) : key = other := by
  rcases h.labeled with ⟨value, hwanted, hlabel⟩
  rcases h'.labeled with ⟨value', hwanted', hlabel'⟩
  exact String.le_antisymm (h.least other value' hwanted' hlabel')
    (h'.least key value hwanted hlabel)

theorem firstMatch_of_find? {pair : String × String}
    (h : (wanted.entries.find? fun pair => e.labels.get? pair.1 = some pair.2) = some pair) :
    FirstMatch wanted e pair.1 := by
  obtain ⟨hlabel, before, after, hentries, hbefore⟩ := List.find?_eq_some_iff_append.mp h
  have hsorted := wanted.sorted
  rw [hentries] at hsorted
  obtain ⟨_, hafter, _⟩ := List.pairwise_append.mp hsorted
  constructor
  · refine ⟨pair.2, SortedMap.mem_entries.mp ?_, by simpa using hlabel⟩
    rw [hentries]
    exact List.mem_append_right before List.mem_cons_self
  · intro other value hwanted hother
    have hmem : (other, value) ∈ before ++ pair :: after := by
      rw [← hentries]
      exact SortedMap.mem_entries.mpr hwanted
    rcases List.mem_append.mp hmem with hmem | hmem
    · have hnot := hbefore (other, value) hmem
      simp [hother] at hnot
    · rcases List.mem_cons.mp hmem with rfl | hmem
      · exact String.le_refl other
      · exact Std.le_of_lt ((List.pairwise_cons.mp hafter).left (other, value) hmem)

theorem firstMatch?_eq_some : firstMatch? wanted e = some key <-> FirstMatch wanted e key := by
  unfold firstMatch?
  constructor
  · intro h
    rcases Option.map_eq_some_iff.mp h with ⟨pair, hfind, rfl⟩
    exact firstMatch_of_find? hfind
  · intro h
    rcases h.labeled with ⟨value, hwanted, hlabel⟩
    cases hfind : wanted.entries.find? fun pair => e.labels.get? pair.1 = some pair.2 with
    | none =>
        have hnot := List.find?_eq_none.mp hfind (key, value) (SortedMap.mem_entries.mpr hwanted)
        simp [hlabel] at hnot
    | some pair =>
        rw [Option.map_some, h.unique (firstMatch_of_find? hfind)]

theorem exists_firstMatch_iff : (exists key, FirstMatch wanted e key) <-> Labeled wanted e := by
  constructor
  · intro hmatch
    rcases hmatch with ⟨key, h⟩
    rcases h.labeled with ⟨value, hwanted, hlabel⟩
    exact ⟨key, value, hwanted, hlabel⟩
  · intro hlabeled
    rcases hlabeled with ⟨key, value, hwanted, hlabel⟩
    cases hfirst : firstMatch? wanted e with
    | none =>
        have hnone := List.find?_eq_none.mp (Option.map_eq_none_iff.mp hfirst) (key, value)
          (SortedMap.mem_entries.mpr hwanted)
        simp [hlabel] at hnone
    | some first => exact ⟨first, firstMatch?_eq_some.mp hfirst⟩

/-!
# The order of labeled endpoints

Endpoints with a wanted label come in the order of the keys under which they have
one first, and under one key in the order of the listing.
-/

def Precedes (listing : List Endpoint) (wanted : Labels) (e e' : Endpoint) : Prop :=
  exists key key', FirstMatch wanted e key ∧ FirstMatch wanted e' key' ∧
    (key < key' ∨ key = key' ∧ e.position listing < e'.position listing)

/-- The labeled endpoints of a listing, key by key. -/
def labeledIn (listing : List Endpoint) (wanted : Labels) : List Endpoint :=
  wanted.keys.flatMap fun key =>
    (Endpoint.firstCopies listing).filter fun e => firstMatch? wanted e = some key

theorem mem_labeledIn : e ∈ labeledIn listing wanted <->
    e ∈ Endpoint.firstCopies listing ∧ Labeled wanted e := by
  simp only [labeledIn, List.mem_flatMap, List.mem_filter, decide_eq_true_eq,
    firstMatch?_eq_some, ← exists_firstMatch_iff]
  constructor
  · intro hfound
    rcases hfound with ⟨key, _, he, hfirst⟩
    exact ⟨he, key, hfirst⟩
  · intro hlabeled
    rcases hlabeled with ⟨he, key, hfirst⟩
    rcases hfirst.labeled with ⟨value, hwanted, _⟩
    exact ⟨key, List.mem_map_of_mem (SortedMap.mem_entries.mpr hwanted), he, hfirst⟩

theorem labeledIn_ordered (listing : List Endpoint) (wanted : Labels) :
    (labeledIn listing wanted).Pairwise (Precedes listing wanted) := by
  have hmem : forall key e, e ∈ (Endpoint.firstCopies listing).filter
      (fun e => firstMatch? wanted e = some key) -> FirstMatch wanted e key := by
    intro key e he
    exact firstMatch?_eq_some.mp (by simpa using (List.mem_filter.mp he).right)
  apply List.pairwise_flatMap.mpr
  constructor
  · intro key _
    apply ((Endpoint.firstCopies_position listing).filter _).imp_of_mem
    intro e e' he he' hlt
    exact ⟨key, key, hmem key e he, hmem key e' he', Or.inr ⟨rfl, hlt⟩⟩
  · apply (List.pairwise_map.mpr wanted.sorted).imp
    intro key key' hlt e he e' he'
    exact ⟨key, key', hmem key e he, hmem key' e' he', Or.inl hlt⟩

/-- The index yields the labeled endpoints in their order. -/
theorem anyLabel_ofList (listing : List Endpoint) (workloadUid : String) (wanted : Labels) :
    PeerCriteria.anyLabel (EndpointIndex.ofList listing workloadUid) wanted =
      labeledIn listing wanted := by
  have hindexes := EndpointIndex.indexes_ofList listing workloadUid
  rw [Endpoint.keepFirst_eq_firstCopies] at hindexes
  unfold PeerCriteria.anyLabel labeledIn SortedMap.keys
  simp only [hindexes.labeled, Prod.eta]
  rw [keepFirst_flatMap_filter (Endpoint.firstCopies_distinct listing) wanted.entries_nodup
    fun pair e => decide (pair ∈ e.labels.entries), List.flatMap_map]
  apply List.flatMap_congr
  intro pair hpair
  apply List.filter_congr
  intro e _
  have hbelongs : (fun pair => decide (pair ∈ e.labels.entries)) =
      fun pair => decide (e.labels.get? pair.1 = some pair.2) := by
    funext pair
    simp only [← SortedMap.mem_entries]
  have hfirst : firstMatch? wanted e = some pair.1 <->
      (wanted.entries.find? fun pair => e.labels.get? pair.1 = some pair.2) = some pair := by
    unfold firstMatch?
    constructor
    · intro h
      rcases Option.map_eq_some_iff.mp h with ⟨other, hfind, hkey⟩
      -- Two entries of one map under one key are the same.
      have hother := SortedMap.mem_entries.mp (List.mem_of_find?_eq_some hfind)
      rw [hkey, SortedMap.mem_entries.mp hpair] at hother
      rw [hfind, Prod.ext hkey (Option.some.inj hother).symm]
    · intro h
      rw [h, Option.map_some]
  rw [hbelongs, decide_eq_decide]
  exact hfirst.symm

theorem attached_ofList (listing : List Endpoint) (workloadUid : String) (network : PodNetwork) :
    (EndpointIndex.ofList listing workloadUid).attached network =
      (Endpoint.firstCopies listing).filter fun e => e.network = network := by
  rw [← Endpoint.keepFirst_eq_firstCopies]
  exact (EndpointIndex.indexes_ofList listing workloadUid).attached network

/-!
# Attached endpoints

Networks are told apart by their names, their kinds and, unless the kind is the
cluster-wide one, their namespaces.
-/

/-- The network that a peer names, if it names one. -/
def named? (peer : Peer) : Option NetworkSelector :=
  peer.networkSelector.filter fun n => n.name ≠ ""

theorem bind_network? (ns : String) (peer : Peer) :
    peer.networkSelector.bind (NetworkSelector.network? ns) =
      peer.named?.map fun n => .within n.name (.ofName n.kind) ns := by
  unfold named?
  cases peer.networkSelector with
  | none => rfl
  | some n =>
      by_cases hname : n.name = "" <;>
        simp [NetworkSelector.network?, Option.filter_some, hname]

instance (ns : String) (peer : Peer) (e : Endpoint) : Decidable (peer.Attached ns e) :=
  decidable_of_iff _ attached_iff.symm

theorem attached_iff_of_named {ns : String} {peer : Peer} {n : NetworkSelector}
    (h : peer.named? = some n) {e : Endpoint} :
    peer.Attached ns e <-> e.network = .within n.name (.ofName n.kind) ns := by
  rw [attached_iff, bind_network?, h, Option.map_some, Option.some.injEq, eq_comm]

end Peer

/-- The name of a kind of networks, where an empty one stands for the default. -/
def NetworkKind.spelled (kind : String) : String :=
  if kind = "" then "DanmNet" else kind

namespace NetworkKind

theorem name_ofName (kind : String) : (ofName kind).name = spelled kind := by
  unfold ofName spelled
  split <;> simp_all [name]

theorem ofName_spelled (kind : String) : ofName (spelled kind) = ofName kind := by
  unfold spelled
  split
  · rename_i h
    rw [h]
    rfl
  · rfl

theorem ofName_inj {kind other : String} :
    ofName kind = ofName other <-> spelled kind = spelled other := by
  constructor
  · intro h
    rw [← name_ofName, ← name_ofName, h]
  · intro h
    rw [← ofName_spelled, h, ofName_spelled]

theorem isClusterScoped_ofName (kind : String) :
    (ofName kind).isClusterScoped = true <-> spelled kind = "ClusterNetwork" := by
  have hcluster : ofName "ClusterNetwork" = .cluster := rfl
  have hspelled : spelled "ClusterNetwork" = "ClusterNetwork" := rfl
  rw [← hspelled, ← ofName_inj, hcluster]
  cases ofName kind <;> simp [isClusterScoped]

end NetworkKind

theorem PodNetwork.within_inj {name name' ns ns' : String} {kind kind' : NetworkKind} :
    within name kind ns = within name' kind' ns' <->
      name = name' ∧ kind = kind' ∧ (kind'.isClusterScoped = false -> ns = ns') := by
  simp only [within, PodNetwork.mk.injEq]
  constructor
  · intro h
    rcases h with ⟨hname, rfl, hns⟩
    refine ⟨hname, rfl, ?_⟩
    intro hscoped
    simpa [hscoped] using hns
  · intro h
    rcases h with ⟨hname, rfl, hns⟩
    refine ⟨hname, rfl, ?_⟩
    cases hscoped : kind.isClusterScoped with
    | true => rfl
    | false => simp [hns hscoped]

/-- A resource is attached to the network that a peer names if it has the name, a
kind that means the same and, for a kind with namespaces, the namespace. -/
theorem Peer.attached_ofResource_iff {ns : String} {peer : Peer} {n : NetworkSelector}
    (hnamed : peer.named? = some n) {r : EndpointResource} {e : Endpoint}
    (h : Endpoint.ofResource r = .ok e) :
    peer.Attached ns e <->
      r.spec.networkName = n.name ∧
        NetworkKind.spelled r.spec.apiType = NetworkKind.spelled n.kind ∧
        (NetworkKind.spelled n.kind ≠ "ClusterNetwork" -> r.metadata.ns = some ns) := by
  unfold Endpoint.ofResource at h
  simp only at h
  split at h
  · cases h
  · cases h
  · rename_i uid ns' _ hns
    cases h
    rw [attached_iff_of_named hnamed, PodNetwork.within_inj, NetworkKind.ofName_inj, hns]
    simp only [← NetworkKind.isClusterScoped_ofName, Bool.not_eq_true, Option.some.injEq, ne_eq]

/-!
# Resolution
-/

namespace Peer

theorem isEmpty_eq_true_iff {labels : Labels} : labels.isEmpty = true <-> labels = ∅ := by
  rcases labels with ⟨entries, hsorted⟩
  constructor
  · intro h
    have hnil : entries = [] := List.isEmpty_iff.mp h
    subst hnil
    rfl
  · intro h
    rw [h]
    rfl

theorem criteria_eq (ns : String) (peer : Peer) (wanted : Labels) :
    peer.criteria ns wanted =
      match decide (wanted = ∅), peer.named?.map fun n => .within n.name (.ofName n.kind) ns with
      | false, none => .byLabels wanted
      | true, some n => .byNetwork n
      | false, some n => .byBoth wanted n
      | true, none => .nothing := by
  have hempty : decide (wanted = ∅) = wanted.isEmpty := by
    rw [Bool.eq_iff_iff, decide_eq_true_iff, isEmpty_eq_true_iff]
  rw [hempty, ← bind_network?]
  rfl

variable {workloadUid ns : String} {peer : Peer} {wanted : Labels} {network : PodNetwork}

theorem labeledIn_distinct (listing : List Endpoint) (wanted : Labels) :
    (labeledIn listing wanted).Pairwise fun e e' => e.uid ≠ e'.uid := by
  rw [← anyLabel_ofList listing ""]
  exact (keepFirstBeyond_pairwise Endpoint.uid [] _).left

/-- Among first copies, membership is settled by unique ids. -/
theorem contains_uid_iff {condition : Endpoint -> Bool}
    (he : e ∈ Endpoint.firstCopies listing) :
    (((Endpoint.firstCopies listing).filter condition).map Endpoint.uid).contains e.uid =
      condition e := by
  rw [Bool.eq_iff_iff, List.contains_iff_mem, List.mem_map]
  constructor
  · intro hfound
    rcases hfound with ⟨e', he', huid⟩
    obtain ⟨hmem, hcondition⟩ := List.mem_filter.mp he'
    rw [← Endpoint.firstCopies_injective hmem he huid]
    exact hcondition
  · intro hcondition
    exact ⟨e, List.mem_filter.mpr ⟨he, hcondition⟩, rfl⟩

theorem resolve_byBoth_ofList :
    let labeled := labeledIn listing wanted
    let attached := (Endpoint.firstCopies listing).filter fun e => e.network = network
    (PeerCriteria.byBoth wanted network).resolve (EndpointIndex.ofList listing workloadUid) =
      if attached = [] then labeled
      else if labeled = [] then attached
      else labeled.filter fun e => e.network = network := by
  intro labeled attached
  have hfilter : (labeled.filter fun e => (attached.map Endpoint.uid).contains e.uid) =
      labeled.filter fun e => e.network = network := by
    apply List.filter_congr
    intro e he
    exact contains_uid_iff (mem_labeledIn.mp he).left
  unfold PeerCriteria.resolve
  simp only [anyLabel_ofList, attached_ofList, List.isEmpty_iff]
  rw [hfilter]

theorem resolve_distinct (listing : List Endpoint) (workloadUid : String)
    (criteria : PeerCriteria) :
    ((criteria.resolve (EndpointIndex.ofList listing workloadUid)).map Endpoint.uid).Nodup := by
  have hlabeled := fun wanted => labeledIn_distinct listing wanted
  have hattached := fun network : PodNetwork =>
    (Endpoint.firstCopies_distinct listing).filter fun e => decide (e.network = network)
  apply List.pairwise_map.mpr
  cases criteria with
  | byLabels wanted =>
      rw [PeerCriteria.resolve, anyLabel_ofList]
      exact hlabeled wanted
  | byNetwork network =>
      rw [PeerCriteria.resolve, attached_ofList]
      exact hattached network
  | byBoth wanted network =>
      rw [resolve_byBoth_ofList]
      split
      · exact hlabeled wanted
      · split
        · exact hattached network
        · exact (hlabeled wanted).filter _
  | nothing => exact List.Pairwise.nil

theorem filter_attached_of_named {n : NetworkSelector} (hnamed : peer.named? = some n)
    (endpoints : List Endpoint) :
    (endpoints.filter fun e => peer.Attached ns e) =
      endpoints.filter fun e => e.network = .within n.name (.ofName n.kind) ns := by
  simp only [attached_iff_of_named hnamed]

/-- The selection of a peer is read off the listing.  Endpoints that have a wanted
label come in the order of their first wanted keys, attached ones in the order of
the listing.  If both are asked for and both are found, only the labeled ones that
are attached count, and if one is not found, the other counts alone. -/
theorem resolve_as_listed (listing : List Endpoint) (workloadUid ns : String) (peer : Peer)
    (wanted : Labels) (h : peer.wanted = .ok wanted) :
    let labeled := labeledIn listing wanted
    let attached := (Endpoint.firstCopies listing).filter fun e => peer.Attached ns e
    (exists criteria, PeerCriteria.ofPeer ns peer = .ok criteria ∧
      let found := criteria.resolve (EndpointIndex.ofList listing workloadUid)
      (found.map Endpoint.uid).Nodup ∧
      (wanted ≠ ∅ -> peer.named? = none -> found = labeled) ∧
      (wanted = ∅ -> peer.named? ≠ none -> found = attached) ∧
      (wanted ≠ ∅ -> peer.named? ≠ none ->
        (labeled ≠ [] -> attached ≠ [] -> found = labeled.filter fun e => peer.Attached ns e) ∧
        (attached = [] -> found = labeled) ∧ (labeled = [] -> found = attached)) ∧
      (wanted = ∅ -> peer.named? = none -> found = [])) ∧
    (forall e, e ∈ labeled <-> e ∈ Endpoint.firstCopies listing ∧ Labeled wanted e) ∧
    labeled.Pairwise (Precedes listing wanted) ∧
    (forall n, peer.named? = some n -> forall r e, Endpoint.ofResource r = .ok e ->
      (peer.Attached ns e <->
        r.spec.networkName = n.name ∧
          NetworkKind.spelled r.spec.apiType = NetworkKind.spelled n.kind ∧
          (NetworkKind.spelled n.kind ≠ "ClusterNetwork" -> r.metadata.ns = some ns))) := by
  intro labeled attached
  have hcriteria : PeerCriteria.ofPeer ns peer = .ok (peer.criteria ns wanted) := by
    rw [PeerCriteria.ofPeer_eq, h]
    rfl
  refine ⟨⟨peer.criteria ns wanted, hcriteria, resolve_distinct _ _ _, ?_, ?_, ?_, ?_⟩,
    fun _ => mem_labeledIn, labeledIn_ordered listing wanted, ?_⟩
  · intro hwanted hnamed
    simp only [criteria_eq, hwanted, hnamed]
    exact anyLabel_ofList listing workloadUid wanted
  · intro hwanted hnamed
    rcases Option.ne_none_iff_exists'.mp hnamed with ⟨n, hn⟩
    simp only [criteria_eq, hwanted, hn]
    exact (attached_ofList listing workloadUid _).trans (filter_attached_of_named hn _).symm
  · intro hwanted hnamed
    rcases Option.ne_none_iff_exists'.mp hnamed with ⟨n, hn⟩
    have hattached : attached = (Endpoint.firstCopies listing).filter fun e =>
        e.network = .within n.name (.ofName n.kind) ns := filter_attached_of_named hn _
    have hfound : (peer.criteria ns wanted).resolve (EndpointIndex.ofList listing workloadUid) =
        if attached = [] then labeled
        else if labeled = [] then attached
        else labeled.filter fun e => peer.Attached ns e := by
      rw [filter_attached_of_named hn, hattached]
      simp only [criteria_eq, hwanted, hn]
      exact resolve_byBoth_ofList
    refine ⟨?_, ?_, ?_⟩
    · intro hsomeLabeled hsomeAttached
      rw [hfound, if_neg hsomeAttached, if_neg hsomeLabeled]
    · intro hnone
      rw [hfound, if_pos hnone]
    · intro hnone
      rw [hfound, if_pos hnone]
      split
      · rename_i hempty
        rw [hnone, hempty]
      · rfl
  · intro hwanted hnamed
    simp only [criteria_eq, hwanted, hnamed]
    rfl
  · intro n hn r e hresource
    exact attached_ofResource_iff hn hresource

/-- A peer that asks for two labels and a network, in a listing that repeats an
endpoint. -/
theorem resolve_as_listed_with_repeated_endpoint :
    let wanted : Labels := SortedMap.ofList [("tier", "front"), ("app", "web")]
    let peer : Peer :=
      { podSelector := some (.ofLabels wanted), networkSelector := some { name := "internal" } }
    let internal : PodNetwork := .within "internal" .danmNet "shop"
    let endpoint (uid : String) (labels : Labels) (network : PodNetwork) : Endpoint :=
      { uid, workload := { ns := "shop", name := "", uid := "" }, labels, ipv4 := none,
        ipv6 := none, network, netns := "" }
    let front := endpoint "e1" (SortedMap.ofList [("tier", "front")]) internal
    let both := endpoint "e2" wanted internal
    let again := endpoint "e1" wanted (.within "backplane" .cluster "shop")
    let web := endpoint "e3" (SortedMap.ofList [("app", "web")]) (.within "internal" .tenant "shop")
    peer.wanted = .ok wanted ∧
    exists criteria, PeerCriteria.ofPeer "shop" peer = .ok criteria ∧
      criteria.resolve (EndpointIndex.ofList [front, both, again, web] "pod") = [both, front] := by
  intro wanted peer internal endpoint front both again web
  have hwanted : peer.wanted = .ok wanted := rfl
  obtain ⟨⟨criteria, hcriteria, _, _, _, hboth, _⟩, _⟩ :=
    resolve_as_listed [front, both, again, web] "pod" "shop" peer wanted hwanted
  have hlabeled : labeledIn [front, both, again, web] wanted = [both, web, front] := by
    decide +kernel
  have hfound := (hboth (by decide) (by decide)).left (by rw [hlabeled]; simp)
    (by decide +kernel)
  refine ⟨hwanted, criteria, hcriteria, hfound.trans ?_⟩
  decide +kernel

end Peer

end PodIsolation
