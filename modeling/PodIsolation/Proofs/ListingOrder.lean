import Mathlib.Data.List.Perm.Basic
import PodIsolation.Proofs.Isolation
import PodIsolation.Proofs.PeerResolution

/-!
# The order of listings

## What compilation makes of a rearranged listing

The cluster lists policies and endpoints in no particular order, and a policy may
list its entries, peers and ports in any.  Indexes, peers and entries each keep
what they find first, but what is granted, and how often, does not depend on what
that is: the rules of a chain change their places and nothing else.
-/

namespace PodIsolation

/-!
# Rearranged lists
-/

/-- The lists agree item by item, once one of them has been put in another order. -/
def Rearranged (related : A -> A -> Prop) (items others : List A) : Prop :=
  exists moved : List A, items.Perm moved ∧ List.Forall₂ related moved others

namespace Rearranged

variable {related : A -> A -> Prop} {items others : List A}

theorem flatMap_perm_of_forall₂ {f g : A -> List B} (h : List.Forall₂ related items others)
    (hfg : forall a b, related a b -> (f a).Perm (g b)) :
    (items.flatMap f).Perm (others.flatMap g) := by
  induction h with
  | nil => exact List.Perm.refl []
  | cons hab _ ih => exact (hfg _ _ hab).append ih

theorem flatMap_perm {f g : A -> List B} (h : Rearranged related items others)
    (hfg : forall a b, related a b -> (f a).Perm (g b)) :
    (items.flatMap f).Perm (others.flatMap g) := by
  rcases h with ⟨moved, hperm, hrelated⟩
  exact (hperm.flatMap_right f).trans (flatMap_perm_of_forall₂ hrelated hfg)

end Rearranged

/-- The entries have the same ports and the same peers, each in some order. -/
structure PolicyEntry.Reordered (entry other : PolicyEntry) : Prop where
  ports : entry.ports.Perm other.ports
  peers : entry.peers.Perm other.peers

/-- Entries may change their places only where all of them count. -/
def EntryMode.Reordered (mode : EntryMode) (entries others : List PolicyEntry) : Prop :=
  match mode with
  | .first => List.Forall₂ PolicyEntry.Reordered entries others
  | .all => Rearranged PolicyEntry.Reordered entries others

structure Policy.Reordered (mode : EntryMode) (p q : Policy) : Prop where
  metadata : p.metadata = q.metadata
  podSelector : p.spec.podSelector = q.spec.podSelector
  policyTypes : p.spec.policyTypes = q.spec.policyTypes
  entries : forall d, mode.Reordered (p.entries d) (q.entries d)

/-!
# Entries

Two entries that differ in order select the same endpoints, each once, and ask for
the same ports.
-/

section Entries

variable {listing others : List Endpoint} {workloadUid ns : String} {entry other : PolicyEntry}

theorem Peer.selects_congr (h : forall e, e ∈ listing <-> e ∈ others) {peer : Peer}
    {e : Endpoint} : peer.Selects listing ns e <-> peer.Selects others ns e := by
  unfold Selects
  simp only [h]

theorem PolicyEntry.mem_endpoints_ofList {e : Endpoint} :
    e ∈ entry.endpoints (.ofList listing workloadUid) ns <->
      e ∈ Endpoint.firstCopies listing ∧
        exists peer, peer ∈ entry.peers ∧ peer.Selects (Endpoint.firstCopies listing) ns e := by
  have hindexes := EndpointIndex.indexes_ofList listing workloadUid
  rw [Endpoint.keepFirst_eq_firstCopies] at hindexes
  exact mem_endpoints hindexes fun _ _ => Endpoint.firstCopies_injective

theorem PolicyEntry.nodup_endpoints (x : EndpointIndex) (ns : String) (entry : PolicyEntry) :
    (entry.endpoints x ns).Nodup := by
  unfold endpoints
  rw [← keepFirst_eq Endpoint.uid]
  apply (keepFirstBeyond_pairwise Endpoint.uid [] _).left.imp
  intro e e' huid heq
  exact huid (congrArg Endpoint.uid heq)

theorem PolicyEntry.endpoints_perm (hdistinct : listing.Pairwise fun e e' => e.uid ≠ e'.uid)
    (hlisting : listing.Perm others) (hentry : entry.Reordered other) :
    (entry.endpoints (.ofList listing workloadUid) ns).Perm
      (other.endpoints (.ofList others workloadUid) ns) := by
  have hothers : others.Pairwise fun e e' => e.uid ≠ e'.uid :=
    (hlisting.pairwise_iff Ne.symm).mp hdistinct
  apply (List.perm_ext_iff_of_nodup (nodup_endpoints _ ns entry) (nodup_endpoints _ ns other)).mpr
  intro e
  have hselects : forall peer : Peer, peer.Selects listing ns e <-> peer.Selects others ns e :=
    fun _ => Peer.selects_congr fun _ => hlisting.mem_iff
  rw [mem_endpoints_ofList, mem_endpoints_ofList, ← Endpoint.keepFirst_eq_firstCopies,
    ← Endpoint.keepFirst_eq_firstCopies, keepFirst_of_distinct hdistinct,
    keepFirst_of_distinct hothers]
  simp only [hlisting.mem_iff, hentry.peers.mem_iff, hselects]

theorem PolicyEntry.demands_perm (h : entry.Reordered other) :
    entry.demands.Perm other.demands := by
  have hnil : entry.ports = [] <-> other.ports = [] := by
    constructor
    · intro hports
      exact List.perm_nil.mp (hports ▸ h.ports.symm)
    · intro hports
      exact List.perm_nil.mp (hports ▸ h.ports)
  unfold demands
  simp only [hnil]
  split
  · exact List.Perm.refl _
  · exact (h.ports.filterMap _).map some

theorem PolicyEntry.declaredRules_perm
    (hdistinct : listing.Pairwise fun e e' => e.uid ≠ e'.uid) (hlisting : listing.Perm others)
    (hentry : entry.Reordered other) (c : ChainId) :
    (entry.declaredRules (.ofList listing workloadUid) ns c).Perm
      (other.declaredRules (.ofList others workloadUid) ns c) := by
  apply (endpoints_perm hdistinct hlisting hentry).flatMap
  intro e _
  cases e.hostNetwork? c.family with
  | none => exact List.Perm.refl []
  | some host => exact (demands_perm hentry).map _

end Entries

/-!
# Policies
-/

theorem Policy.Reordered.honoured {mode : EntryMode} {p q : Policy} (h : p.Reordered mode q)
    (d : Direction) :
    Rearranged PolicyEntry.Reordered (p.honoured mode d) (q.honoured mode d) := by
  have hentries := h.entries d
  rw [← Policy.honoured_entries, ← Policy.honoured_entries]
  cases mode with
  | all => exact hentries
  | first =>
      -- Entries keep their places, so the first ones belong together.
      have hrelated : List.Forall₂ PolicyEntry.Reordered (p.entries d) (q.entries d) := hentries
      refine ⟨_, List.Perm.refl _, ?_⟩
      generalize p.entries d = entries, q.entries d = others at hrelated
      cases hrelated with
      | nil => exact List.Forall₂.nil
      | cons hfirst _ => exact List.Forall₂.cons hfirst List.Forall₂.nil

theorem Policy.declaredRules_perm {listing others : List Endpoint}
    (hdistinct : listing.Pairwise fun e e' => e.uid ≠ e'.uid) (hlisting : listing.Perm others)
    {mode : EntryMode} {p q : Policy} (h : p.Reordered mode q) (workloadUid : String)
    (c : ChainId) :
    (p.declaredRules (.ofList listing workloadUid) mode c).Perm
      (q.declaredRules (.ofList others workloadUid) mode c) := by
  unfold declaredRules
  rw [h.metadata]
  apply (h.honoured c.direction).flatMap_perm
  intro entry other hentry
  exact PolicyEntry.declaredRules_perm hdistinct hlisting hentry c

namespace PolicyIndex

variable {listing others : List Policy} {labels : Labels}

theorem mem_applicable (hdistinct : listing.Pairwise fun p q => p.key ≠ q.key) {p : Policy} :
    p ∈ (ofList listing).applicable labels <->
      p ∈ listing ∧
        ((exists pair, pair ∈ labels.entries ∧ p.asksFor pair = true) ∨
          p.asksForNothing = true) := by
  have hmem : forall p, p ∈ ((labels.entries.flatMap fun pair =>
      listing.filter fun p => p.asksFor pair) ++ listing.filter Policy.asksForNothing) <->
      p ∈ listing ∧
        ((exists pair, pair ∈ labels.entries ∧ p.asksFor pair = true) ∨
          p.asksForNothing = true) := by
    intro p
    simp only [List.mem_append, List.mem_flatMap, List.mem_filter]
    constructor
    · intro hfound
      rcases hfound with ⟨pair, hpair, hp, hasks⟩ | ⟨hp, hasks⟩
      · exact ⟨hp, Or.inl ⟨pair, hpair, hasks⟩⟩
      · exact ⟨hp, Or.inr hasks⟩
    · intro hasked
      rcases hasked with ⟨hp, ⟨pair, hpair, hasks⟩ | hasks⟩
      · exact Or.inl ⟨pair, hpair, hp, hasks⟩
      · exact Or.inr ⟨hp, hasks⟩
  rw [applicable_ofList, ← keepFirst_eq Policy.key, mem_keepFirst_of_injective, hmem]
  intro p q hp hq
  exact eq_of_distinct hdistinct ((hmem p).mp hp).left ((hmem q).mp hq).left

theorem nodup_applicable (listing : List Policy) (labels : Labels) :
    ((ofList listing).applicable labels).Nodup := by
  rw [applicable_ofList, ← keepFirst_eq Policy.key]
  apply (keepFirstBeyond_pairwise Policy.key [] _).left.imp
  intro p q hkey heq
  exact hkey (congrArg Policy.key heq)

theorem applicable_perm (hdistinct : listing.Pairwise fun p q => p.key ≠ q.key)
    (hlisting : listing.Perm others) (labels : Labels) :
    ((ofList listing).applicable labels).Perm ((ofList others).applicable labels) := by
  have hothers : others.Pairwise fun p q => p.key ≠ q.key :=
    (hlisting.pairwise_iff Ne.symm).mp hdistinct
  apply (List.perm_ext_iff_of_nodup (nodup_applicable listing labels)
    (nodup_applicable others labels)).mpr
  intro p
  rw [mem_applicable hdistinct, mem_applicable hothers, hlisting.mem_iff]

end PolicyIndex

/-!
# Compilation
-/

/-- The rules of every chain are the same up to their order if endpoints, policies,
peers and ports are given in another order, and entries too where all of them
count.  So are the policies that apply to a pod if they are listed in another
order. -/
theorem compile_perm {listing others : List Endpoint}
    (hdistinct : listing.Pairwise fun e e' => e.uid ≠ e'.uid) (hlisting : listing.Perm others)
    {mode : EntryMode} {policies changed : List Policy}
    (hpolicies : Rearranged (Policy.Reordered mode) policies changed)
    (workloadUid netns : String) :
    (forall c, ((compile policies (.ofList listing workloadUid) netns mode).rules c).Perm
      ((compile changed (.ofList others workloadUid) netns mode).rules c)) ∧
    (forall known moved : List Policy, known.Pairwise (fun p q => p.key ≠ q.key) ->
      known.Perm moved -> forall labels,
        ((PolicyIndex.ofList known).applicable labels).Perm
          ((PolicyIndex.ofList moved).applicable labels)) := by
  constructor
  · intro c
    rw [rules_compile, rules_compile]
    apply hpolicies.flatMap_perm
    intro p q hpq
    exact Policy.declaredRules_perm hdistinct hlisting hpq workloadUid c
  · intro known moved hknown hmoved labels
    exact PolicyIndex.applicable_perm hknown hmoved labels

/-- Endpoints, policies, entries, peers and ports that all change their places. -/
theorem compile_perm_of_swapped :
    let endpoint (uid app : String) (a : IPv4) : Endpoint :=
      { uid, workload := { ns := "shop", name := "", uid := "" },
        labels := SortedMap.ofList [("app", app)], ipv4 := some a, ipv6 := none,
        network := .within "internal" .danmNet "shop", netns := "" }
    let web := endpoint "e1" "web" ⟨10, 0, 0, 1⟩
    let db := endpoint "e2" "db" ⟨10, 0, 0, 2⟩
    let asking (app : String) : Peer :=
      { podSelector := some (.ofLabels (SortedMap.ofList [("app", app)])) }
    let attached : Peer := { networkSelector := some { name := "internal" } }
    let https : PolicyPort := { port := some (.number 443) }
    let named : PolicyPort := { port := some (.text "metrics") }
    let policy (name : String) (ingress : List PolicyEntry) : Policy :=
      { metadata := { name := some name, ns := some "shop" }, spec := { ingress } }
    let p := policy "p" [{ ports := [https, named], peers := [asking "web", attached] },
      { peers := [asking "db"] }]
    let p' := policy "p" [{ peers := [asking "db"] },
      { ports := [named, https], peers := [attached, asking "web"] }]
    let q := policy "q" [{ peers := [attached] }]
    [web, db].Pairwise (fun e e' => e.uid ≠ e'.uid) ∧ [web, db].Perm [db, web] ∧
    Rearranged (Policy.Reordered .all) [p, q] [q, p'] ∧
    [p, q].Pairwise (fun p q => p.key ≠ q.key) ∧ [p, q].Perm [q, p] ∧
    ((compile [p, q] (.ofList [web, db] "pod") "/run/netns/pod" .all).rules ⟨.ingress, .v4⟩).Perm
      ((compile [q, p'] (.ofList [db, web] "pod") "/run/netns/pod" .all).rules
        ⟨.ingress, .v4⟩) ∧
    ((PolicyIndex.ofList [p, q]).applicable ∅).Perm ((PolicyIndex.ofList [q, p]).applicable ∅) := by
  intro endpoint web db asking attached https named policy p p' q
  have hdistinct : [web, db].Pairwise fun e e' => e.uid ≠ e'.uid := by decide
  have hlisting : [web, db].Perm [db, web] := List.Perm.swap db web []
  have hentry : PolicyEntry.Reordered { ports := [https, named], peers := [asking "web", attached] }
      { ports := [named, https], peers := [attached, asking "web"] } :=
    ⟨List.Perm.swap _ _ [], List.Perm.swap _ _ []⟩
  have hsame : forall entry : PolicyEntry, entry.Reordered entry :=
    fun entry => ⟨List.Perm.refl _, List.Perm.refl _⟩
  have hp : p.Reordered .all p' := by
    refine ⟨rfl, rfl, rfl, ?_⟩
    intro d
    cases d with
    | ingress =>
        exact ⟨_, List.Perm.swap _ _ [], .cons (hsame _) (.cons hentry .nil)⟩
    | egress => exact ⟨[], List.Perm.refl [], .nil⟩
  have hq : q.Reordered .all q := by
    refine ⟨rfl, rfl, rfl, ?_⟩
    intro d
    cases d with
    | ingress => exact ⟨_, List.Perm.refl _, .cons (hsame _) .nil⟩
    | egress => exact ⟨[], List.Perm.refl [], .nil⟩
  have hpolicies : Rearranged (Policy.Reordered .all) [p, q] [q, p'] :=
    ⟨[q, p], List.Perm.swap q p [], .cons hq (.cons hp .nil)⟩
  have hkeys : [p, q].Pairwise fun p q => p.key ≠ q.key := by decide
  obtain ⟨hrules, happlicable⟩ :=
    compile_perm hdistinct hlisting hpolicies "pod" "/run/netns/pod"
  exact ⟨hdistinct, hlisting, hpolicies, hkeys, List.Perm.swap q p [], hrules ⟨.ingress, .v4⟩,
    happlicable [p, q] [q, p] hkeys (List.Perm.swap q p []) ∅⟩

end PodIsolation
