import PodIsolation.Proofs.ChainTraversal
import PodIsolation.Proofs.Compilation
import PodIsolation.Proofs.Convergence

/-!
# Isolation

## What a provisioned namespace accepts

Once the rules of a pod are provisioned, its network namespace accepts loopback
traffic and what the policies of the pod grant, and nothing else.  What policies
grant is said in terms of the listings of policies and endpoints.
-/

namespace PodIsolation

namespace Packet

/-- The address at the other end of traffic of a direction. -/
def remote (p : Packet) : Direction -> Address
  | .ingress => p.source
  | .egress => p.dest

/-- The packet is one of the protocol and to the port that a match asks for. -/
def Fits (services : Services) (p : Packet) (m : PortMatch) : Prop :=
  exists t, p.transport = some t ∧ t.protocol = m.protocol ∧
    match m.port with
    | none => True
    | some (.number n) => t.destPort = n.val
    | some (.named name) => services name t.protocol t.destPort = true

end Packet

/-- The policies of a listing that apply to a pod with the given labels: label by
label those that ask for it, then those that ask for no label.  Of policies with
one key the first counts. -/
def applicablePolicies (listing : List Policy) (labels : Labels) : List Policy :=
  ((labels.entries.flatMap fun pair => listing.filter fun p => p.asksFor pair) ++
    listing.filter Policy.asksForNothing).eraseDupsBy fun p q => p.key == q.key

/-- The endpoint has the address as that of its family. -/
def Endpoint.Has (e : Endpoint) : Address -> Prop
  | .v4 a => e.ipv4 = some a
  | .v6 a => e.ipv6 = some a

/-- The endpoints of a listing of resources.  Of endpoints with one unique id the
first counts. -/
def listedEndpoints (resources : List EndpointResource) : List Endpoint :=
  (resources.filterMap fun r => (Endpoint.ofResource r).toOption).eraseDupsBy
    fun e e' => e.uid == e'.uid

/-- Some policy has an entry that counts for the direction, with a peer that
selects the endpoint at the other end of the packet, and the entry declares no
ports or a valid port that the packet fits. -/
def Grants (policies : List Policy) (endpoints : List Endpoint) (mode : EntryMode)
    (services : Services) (d : Direction) (p : Packet) : Prop :=
  exists policy, policy ∈ policies ∧
    exists entry, entry ∈ policy.honoured mode d ∧
      exists peer, peer ∈ entry.peers ∧
        exists e, e ∈ endpoints ∧
          peer.Selects endpoints (policy.metadata.ns.getD "") e ∧
          e.Has (p.remote d) ∧
          (entry.ports = [] ∨
            exists port, port ∈ entry.ports ∧ exists m, port.Declares m ∧ p.Fits services m)

/-!
# Rules and packets
-/

theorem Endpoint.has_iff {e : Endpoint} {a : Address} :
    e.Has a <-> e.address? a.family = some a := by
  cases a with
  | v4 a => cases h : e.ipv4 <;> simp [Has, address?, Address.family, h]
  | v6 a => cases h : e.ipv6 <;> simp [Has, address?, Address.family, h]

namespace Packet

variable {services : Services} {p : Packet}

theorem family_remote (p : Packet) (d : Direction) : (p.remote d).family = p.family := by
  cases d
  · rfl
  · exact p.sameFamily

/-- A name that a policy declares is no number. -/
theorem resolves_port (services : Services) {spec : Option PortSpec} {port : Port}
    (h : Port.Declared spec (some port)) (protocol : Protocol) (n : Nat) :
    services.resolves port.text protocol n = true <->
      match port with
      | .number m => n = m.val
      | .named name => services name protocol n = true := by
  unfold Services.resolves
  cases port with
  | number m =>
      have hread : Numeral.decimalBelow? 65536 (Port.text (.number m)).toList = some m.val := by
        rw [Port.text, Nat.toString_eq_ofList_toDigits, String.toList_ofList]
        exact Numeral.decimalBelow?_toDigits m.lt
      rw [hread]
      exact beq_iff_eq
  | named name =>
      have hread : Numeral.decimalBelow? 65536 (Port.text (.named name)).toList = none := by
        cases hread : Numeral.decimalBelow? 65536 (Port.text (.named name)).toList with
        | none => rfl
        | some k =>
            cases h with
            | named _ hnone =>
                exact absurd
                  ⟨name.toList, Or.inl rfl, Numeral.decimalBelow?_eq_some.mp hread⟩ (hnone k)
      rw [hread]
      rfl

theorem fits_iff {services : Services} {p : Packet} {port : PolicyPort} {m : PortMatch}
    (h : port.Declares m) :
    p.Fits services m <->
      p.satisfies services ("-p", m.protocol.name) = true ∧
        forall q, m.port = some q -> p.satisfies services ("--dport", q.text) = true := by
  rw [satisfies_protocol]
  simp only [satisfies_destPort]
  unfold Fits
  rcases m with ⟨protocol, target⟩
  cases p.transport with
  | none => simp
  | some t =>
      cases target with
      | none => simp
      | some q =>
          have hresolves := resolves_port services h.port t.protocol t.destPort
          cases q <;> simp_all

/-- A declared rule matches the packets of its address that fit its port. -/
theorem meets_declared (d : Direction) (a : Address) (m : Option PortMatch) :
    p.meets services (Rule.declared d (.host a) m).args = true <->
      (forall m', m = some m' ->
        p.satisfies services ("-p", m'.protocol.name) = true ∧
          forall q, m'.port = some q -> p.satisfies services ("--dport", q.text) = true) ∧
      a = p.remote d := by
  rw [meets_args]
  rcases m with _ | ⟨protocol, _ | q⟩ <;> cases d <;>
    simp [Rule.criteria, Rule.declared, satisfies_source, satisfies_dest, remote, and_assoc]

end Packet

/-!
# Settled tables

What the tables that a rule set calls for accept.
-/

/-- The return behind accepting rules repeats none of them. -/
theorem RuleSet.Accepting.eraseDups_plan {s : RuleSet} (h : s.Accepting) (c : ChainId) :
    (s.plan c).eraseDups =
      ((s.rules c).map Rule.args).eraseDups ++ [Rule.returning.args] := by
  have hnew : Rule.returning.args ∉ (s.rules c).map Rule.args := by
    intro hmem
    rcases List.mem_map.mp hmem with ⟨r, hr, hargs⟩
    have htarget := Rule.targetOf?_args_of_accept (h c r hr)
    rw [hargs] at htarget
    cases htarget
  have hkept : [Rule.returning.args].removeAll ((s.rules c).map Rule.args) =
      [Rule.returning.args] := by
    rw [List.removeAll, List.filter_eq_self]
    intro args hargs
    rw [List.mem_singleton.mp hargs]
    simpa using hnew
  rw [RuleSet.plan, List.map_append, List.eraseDups_append, List.map_singleton, hkept]
  rfl

namespace Tables

variable {s : RuleSet} {t : Tables} {services : Services} {p : Packet} {c : ChainId}

/-- The own chain admits the packets that a rule of the rule set matches. -/
theorem admitted_plan_iff (haccepting : s.Accepting) :
    p.admitted services (s.plan c).eraseDups = true <->
      exists r, r ∈ s.rules c ∧ p.meets services r.args = true := by
  rw [haccepting.eraseDups_plan, Packet.admitted_append_returning]
  · constructor
    · intro hadmits
      rcases hadmits with ⟨args, hargs, hmeets⟩
      rcases List.mem_map.mp (List.mem_eraseDups.mp hargs) with ⟨r, hr, rfl⟩
      exact ⟨r, hr, hmeets⟩
    · intro hrule
      rcases hrule with ⟨r, hr, hmeets⟩
      exact ⟨r.args, List.mem_eraseDups.mpr (List.mem_map_of_mem hr), hmeets⟩
  · intro args hargs
    rcases List.mem_map.mp (List.mem_eraseDups.mp hargs) with ⟨r, hr, rfl⟩
    exact Rule.targetOf?_args_of_accept (haccepting c r hr)

theorem Settled.accepts_gate_iff (h : Settled s t) (haccepting : s.Accepting)
    (hfamily : p.family = c.family) :
    t.Accepts services c.builtin p <->
      p.UsesLoopback c.builtin ∨
        exists r, r ∈ s.rules c ∧ p.meets services r.args = true := by
  have hgate : (t.contents c.family c.builtin).getD [] = s.gate c := by
    rw [h.gate c]
    rfl
  by_cases hrules : s.rules c = []
  · rw [RuleSet.gate_of_rules_eq_nil hrules, ← hfamily] at hgate
    rw [accepts_iff, hgate, Packet.traverse_baselineRules]
    simp [hrules]
  · rw [RuleSet.gate_of_rules_ne_nil hrules] at hgate
    have hpassive : forall args, args ∈ (s.plan c).eraseDups -> Rule.Passive args :=
      fun args hargs => haccepting.passive_plan (List.mem_eraseDups.mp hargs)
    rw [accepts_jump_iff hfamily hgate (h.live c hrules) hpassive, admitted_plan_iff haccepting,
      Packet.traverse_baselineRules, or_comm]

theorem Settled.accepts_forward_iff (h : Settled s t) :
    t.Accepts services forwardChain p <-> p.UsesLoopback forwardChain := by
  rw [accepts_iff, h.forward p.family]
  exact Packet.traverse_baselineRules forwardChain _

end Tables

/-!
# Compiled rules
-/

section Compiled

variable {workloadUid : String} {x : EndpointIndex} {endpoints : List Endpoint}
variable {services : Services} {p : Packet}

theorem PolicyEntry.mem_endpoints (h : EndpointIndex.Indexes workloadUid x endpoints)
    (hkey : forall a b, a ∈ endpoints -> b ∈ endpoints -> a.uid = b.uid -> a = b)
    {ns : String} {entry : PolicyEntry} {e : Endpoint} :
    e ∈ entry.endpoints x ns <->
      e ∈ endpoints ∧ exists peer, peer ∈ entry.peers ∧ peer.Selects endpoints ns e := by
  have hmem : forall e, e ∈ entry.peers.flatMap (Peer.resolve x ns) <->
      e ∈ endpoints ∧ exists peer, peer ∈ entry.peers ∧ peer.Selects endpoints ns e := by
    intro e
    rw [List.mem_flatMap]
    constructor
    · intro hfound
      rcases hfound with ⟨peer, hpeer, he⟩
      rcases (Peer.mem_resolve h hkey).mp he with ⟨hlisted, hselects⟩
      exact ⟨hlisted, peer, hpeer, hselects⟩
    · intro hselected
      rcases hselected with ⟨hlisted, peer, hpeer, hselects⟩
      exact ⟨peer, hpeer, (Peer.mem_resolve h hkey).mpr ⟨hlisted, hselects⟩⟩
  rw [PolicyEntry.endpoints, ← keepFirst_eq Endpoint.uid, ← hmem]
  apply mem_keepFirst_of_injective
  intro a b ha hb
  exact hkey a b ((hmem a).mp ha).left ((hmem b).mp hb).left

/-- A rule that an entry asks for matches a packet if the packet is one of the
address and the entry declares no ports, or a valid port that the packet fits. -/
theorem PolicyEntry.exists_demand_iff {entry : PolicyEntry} {a : Address} {d : Direction} :
    (exists m, m ∈ entry.demands ∧
      p.meets services (Rule.declared d (.host a) m).args = true) <->
      a = p.remote d ∧ (entry.ports = [] ∨
        exists port, port ∈ entry.ports ∧ exists m, port.Declares m ∧ p.Fits services m) := by
  simp only [Packet.meets_declared]
  unfold PolicyEntry.demands
  by_cases hports : entry.ports = []
  · simp [hports]
  · rw [if_neg hports]
    constructor
    · intro hdemanded
      rcases hdemanded with ⟨demand, hdemand, hsatisfies, ha⟩
      rcases List.mem_map.mp hdemand with ⟨m, hm, rfl⟩
      rcases List.mem_filterMap.mp hm with ⟨port, hport, hvalid⟩
      have hdeclares := PortMatch.ofPort?_eq_some.mp hvalid
      exact ⟨ha, Or.inr ⟨port, hport, m, hdeclares,
        (Packet.fits_iff hdeclares).mpr (hsatisfies m rfl)⟩⟩
    · intro hgranted
      rcases hgranted with ⟨ha, hnone | ⟨port, hport, m, hdeclares, hfits⟩⟩
      · exact absurd hnone hports
      · have hm : m ∈ entry.ports.filterMap PortMatch.ofPort? :=
          List.mem_filterMap.mpr ⟨port, hport, PortMatch.ofPort?_eq_some.mpr hdeclares⟩
        refine ⟨some m, List.mem_map_of_mem hm, ?_, ha⟩
        intro m' hm'
        cases hm'
        exact (Packet.fits_iff hdeclares).mp hfits

/-- Some compiled rule of a chain matches a packet of the family if and only if
the policies grant it. -/
theorem exists_rule_iff_grants (h : EndpointIndex.Indexes workloadUid x endpoints)
    (hkey : forall a b, a ∈ endpoints -> b ∈ endpoints -> a.uid = b.uid -> a = b)
    {policies : List Policy} {netns : String} {mode : EntryMode} {d : Direction} :
    (exists r, r ∈ (compile policies x netns mode).rules ⟨d, p.family⟩ ∧
      p.meets services r.args = true) <->
      Grants policies endpoints mode services d p := by
  rw [rules_compile]
  constructor
  · intro hrule
    rcases hrule with ⟨r, hr, hmeets⟩
    rcases List.mem_flatMap.mp hr with ⟨policy, hpolicy, hr⟩
    rcases List.mem_flatMap.mp hr with ⟨entry, hentry, hr⟩
    rcases List.mem_flatMap.mp hr with ⟨e, he, hr⟩
    rcases (PolicyEntry.mem_endpoints h hkey).mp he with ⟨hlisted, peer, hpeer, hselects⟩
    rw [e.hostNetwork?_eq] at hr
    cases haddress : e.address? p.family with
    | none =>
        rw [haddress] at hr
        cases hr
    | some a =>
        rw [haddress] at hr
        rcases List.mem_map.mp hr with ⟨m, hm, rfl⟩
        rcases PolicyEntry.exists_demand_iff.mp ⟨m, hm, hmeets⟩ with ⟨rfl, hports⟩
        rw [← p.family_remote d] at haddress
        exact ⟨policy, hpolicy, entry, hentry, peer, hpeer, e, hlisted, hselects,
          Endpoint.has_iff.mpr haddress, hports⟩
  · intro hgrants
    rcases hgrants with ⟨policy, hpolicy, entry, hentry, peer, hpeer, e, hlisted, hselects,
      hhas, hports⟩
    have haddress := Endpoint.has_iff.mp hhas
    rw [p.family_remote d] at haddress
    have he := (PolicyEntry.mem_endpoints h hkey).mpr ⟨hlisted, peer, hpeer, hselects⟩
    rcases (PolicyEntry.exists_demand_iff (d := d)).mpr ⟨rfl, hports⟩ with ⟨m, hm, hmeets⟩
    refine ⟨Rule.declared d (.host (p.remote d)) m, ?_, hmeets⟩
    refine List.mem_flatMap.mpr ⟨policy, hpolicy, List.mem_flatMap.mpr ⟨entry, hentry,
      List.mem_flatMap.mpr ⟨e, he, ?_⟩⟩⟩
    rw [e.hostNetwork?_eq, haddress]
    exact List.mem_map_of_mem hm

end Compiled

/-!
# Isolation
-/

theorem applicable_eq (listing : List Policy) (labels : Labels) :
    (PolicyIndex.ofList listing).applicable labels = applicablePolicies listing labels :=
  PolicyIndex.applicable_ofList listing labels

theorem indexes_ofResources (resources : List EndpointResource) (workloadUid : String) :
    EndpointIndex.Indexes workloadUid (EndpointIndex.ofResources resources workloadUid)
      (listedEndpoints resources) := by
  unfold listedEndpoints
  rw [← keepFirst_eq Endpoint.uid]
  exact EndpointIndex.indexes_ofList _ workloadUid

theorem listedEndpoints_injective {resources : List EndpointResource} {a b : Endpoint}
    (ha : a ∈ listedEndpoints resources) (hb : b ∈ listedEndpoints resources)
    (h : a.uid = b.uid) : a = b := by
  unfold listedEndpoints at ha hb
  rw [← keepFirst_eq Endpoint.uid] at ha hb
  exact keepFirst_injective ha hb h

/-- Whatever was provisioned in the namespace before, a run without faults leaves
it so that it receives and sends loopback traffic and what the policies of the
pod grant, and forwards loopback traffic alone. -/
theorem provisioned_accepts_iff (k : Kernel) (netns : String) (hfaults : k.faults = [])
    (hpresent : k.missing.get? netns = none) (hblank : (k.tables netns).Blank)
    (history : List RuleSet) (hhistory : forall s, s ∈ history -> s.netns = netns)
    (policies : List Policy) (resources : List EndpointResource) (workloadUid : String)
    (labels : Labels) (mode : EntryMode) (services : Services) (p : Packet) :
    let rules := compile ((PolicyIndex.ofList policies).applicable labels)
      (EndpointIndex.ofResources resources workloadUid) netns mode
    let t := (k.provisionAll (history ++ [rules])).tables netns
    let grants := Grants (applicablePolicies policies labels) (listedEndpoints resources)
      mode services
    (t.Accepts services "INPUT" p <-> p.inInterface = some "lo" ∨ grants .ingress p) ∧
    (t.Accepts services "OUTPUT" p <-> p.outInterface = some "lo" ∨ grants .egress p) ∧
    (t.Accepts services "FORWARD" p <-> p.inInterface = some "lo") := by
  intro rules t grants
  have hnetns : forall s, s ∈ history ++ [rules] -> s.netns = netns := by
    intro s hs
    rcases List.mem_append.mp hs with hs | hs
    · exact hhistory s hs
    · rw [List.mem_singleton.mp hs]
      exact netns_compile _ _ netns mode
  have hsettled : Tables.Settled rules t :=
    Kernel.settled_provisionAll ⟨hfaults, hpresent⟩ hblank hnetns
  have haccepting : rules.Accepting := fun _ _ => target_of_mem_compile
  have hgate : forall d, t.Accepts services (ChainId.builtin ⟨d, p.family⟩) p <->
      p.UsesLoopback (ChainId.builtin ⟨d, p.family⟩) ∨ grants d p := by
    intro d
    rw [hsettled.accepts_gate_iff (c := ⟨d, p.family⟩) haccepting rfl,
      exists_rule_iff_grants (indexes_ofResources resources workloadUid)
        (fun _ _ => listedEndpoints_injective), applicable_eq]
  exact ⟨hgate .ingress, hgate .egress, hsettled.accepts_forward_iff⟩

/-- Every pod was granted the traffic of databases.  Now it is granted that of web
servers to one port, and all traffic to them. -/
theorem provisioned_accepts_web_after_db :
    let web : Labels := SortedMap.ofList [("app", "web")]
    let db : Labels := SortedMap.ofList [("app", "db")]
    let webs : Peer := { podSelector := some (.ofLabels web) }
    let dbs : Peer := { podSelector := some (.ofLabels db) }
    let ns : Metadata := { name := some "web", ns := some "shop" }
    let old : Policy := { metadata := ns, spec := { ingress := [{ peers := [dbs] }] } }
    let received : PolicyEntry := { ports := [{ port := some (.number 80) }], peers := [webs] }
    let sent : PolicyEntry := { peers := [webs] }
    let policy : Policy :=
      { metadata := ns, spec := { ingress := [received], egress := [sent] } }
    let resources : List EndpointResource :=
      [{ metadata := { uid := some "e", ns := some "shop", labels := some web }
         spec := { iface := { address := "10.0.0.5/24", addressV6 := "fd00::5/64" } } },
       { metadata := { uid := some "d", ns := some "shop", labels := some db }
         spec := { iface := { address := "10.0.0.7/24" } } }]
    let k : Kernel := { namespaces := SortedMap.ofList [("/run/netns/pod", Tables.fresh)] }
    let provided (p : Policy) : RuleSet := compile ((PolicyIndex.ofList [p]).applicable ∅)
      (EndpointIndex.ofResources resources "pod") "/run/netns/pod" .first
    let before := (k.provisionAll ([] ++ [provided old])).tables "/run/netns/pod"
    let t := (k.provisionAll ([provided old] ++ [provided policy])).tables "/run/netns/pod"
    let services : Services := fun _ _ _ => false
    let request : Packet :=
      { source := .v4 ⟨10, 0, 0, 5⟩, dest := .v4 ⟨10, 0, 0, 9⟩,
        transport := some ⟨.tcp, 40000, 80⟩, inInterface := some "eth0" }
    let query : Packet :=
      { source := .v6 ⟨[0xfd00, 0, 0, 0, 0, 0, 0, 9], rfl⟩,
        dest := .v6 ⟨[0xfd00, 0, 0, 0, 0, 0, 0, 5], rfl⟩,
        transport := some ⟨.udp, 40000, 53⟩, outInterface := some "eth0" }
    let reply : Packet := { request with source := .v4 ⟨10, 0, 0, 7⟩ }
    before.Accepts services "INPUT" reply ∧
    t.Accepts services "INPUT" request ∧ t.Accepts services "OUTPUT" query ∧
    ¬ t.Accepts services "INPUT" reply ∧ ¬ t.Accepts services "FORWARD" request := by
  intro web db webs dbs ns old received sent policy resources k provided before t services
    request query reply
  have hblank : (k.tables "/run/netns/pod").Blank := Kernel.blank_tables _
  have hbefore := provisioned_accepts_iff k "/run/netns/pod" rfl rfl hblank [] (by simp) [old]
    resources "pod" ∅ .first services
  have haccepts := provisioned_accepts_iff k "/run/netns/pod" rfl rfl hblank [provided old]
    (by simp [provided, netns_compile]) [policy] resources "pod" ∅ .first services
  let workload : Workload := { ns := "shop", name := "", uid := "" }
  let e : Endpoint :=
    { uid := "e", workload, labels := web, ipv4 := some ⟨10, 0, 0, 5⟩,
      ipv6 := some ⟨[0xfd00, 0, 0, 0, 0, 0, 0, 5], rfl⟩,
      network := .within "" .danmNet "shop", netns := "" }
  let d : Endpoint :=
    { uid := "d", workload, labels := db, ipv4 := some ⟨10, 0, 0, 7⟩, ipv6 := none,
      network := .within "" .danmNet "shop", netns := "" }
  have hlisted : listedEndpoints resources = [e, d] := by
    decide +kernel
  have he : e ∈ listedEndpoints resources := by
    rw [hlisted]
    exact List.mem_cons_self
  have hd : d ∈ listedEndpoints resources := by
    rw [hlisted]
    exact List.mem_cons_of_mem _ List.mem_cons_self
  have hwebs : webs.Selects (listedEndpoints resources) "shop" e :=
    Peer.selects_label_iff.mpr rfl
  have hdbs : dbs.Selects (listedEndpoints resources) "shop" d :=
    Peer.selects_label_iff.mpr rfl
  have hdenied : ¬ webs.Selects (listedEndpoints resources) "shop" d := by
    rw [Peer.selects_label_iff]
    decide
  refine ⟨(hbefore reply).left.mpr (Or.inr ?_), (haccepts request).left.mpr (Or.inr ?_),
    (haccepts query).right.left.mpr (Or.inr ?_), ?_, ?_⟩
  · exact ⟨old, List.mem_singleton.mpr rfl, _, List.mem_singleton.mpr rfl, dbs,
      List.mem_singleton.mpr rfl, d, hd, hdbs, rfl, Or.inl rfl⟩
  · exact ⟨policy, List.mem_singleton.mpr rfl, received, List.mem_singleton.mpr rfl, webs,
      List.mem_singleton.mpr rfl, e, he, hwebs, rfl,
      Or.inr ⟨_, List.mem_singleton.mpr rfl,
        { protocol := .tcp, port := some (.number ⟨80, by decide, by decide⟩) },
        ⟨.missing, .number rfl⟩, _, rfl, rfl, rfl⟩⟩
  · exact ⟨policy, List.mem_singleton.mpr rfl, sent, List.mem_singleton.mpr rfl, webs,
      List.mem_singleton.mpr rfl, e, he, hwebs, rfl, Or.inl rfl⟩
  · intro h
    rcases (haccepts reply).left.mp h with
      hlo | ⟨p, hp, entry, hentry, peer, hpeer, e', he', hpeers, hhas, _⟩
    · revert hlo
      decide
    · obtain rfl : p = policy := List.mem_singleton.mp hp
      obtain rfl : entry = received := List.mem_singleton.mp hentry
      obtain rfl : peer = webs := List.mem_singleton.mp hpeer
      rw [hlisted] at he'
      rcases List.mem_cons.mp he' with rfl | he'
      · have hother : e.ipv4 ≠ some ⟨10, 0, 0, 7⟩ := by
          decide
        exact hother hhas
      · obtain rfl : e' = d := List.mem_singleton.mp he'
        exact hdenied hpeers
  · intro h
    have hlo := (haccepts request).right.right.mp h
    revert hlo
    decide

end PodIsolation
