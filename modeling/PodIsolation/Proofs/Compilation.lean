import PodIsolation.Policy.Compile
import PodIsolation.Proofs.PeerSelection

/-!
# Compiled rules

## The rules that policies declare

Compilation adds rules to four chains while it goes through policies, entries,
peers and ports.  Here the rules of each chain are described without the rule
set that is built on the way, and the two descriptions agree.
-/

namespace PodIsolation

/-!
# Ports

Which ports of a policy are valid, and what they ask for.
-/

/-- The text is a number of 16 bits, perhaps with a plus sign. -/
def Numeral.Spells (text : List Char) (n : Nat) : Prop :=
  exists digits, (text = digits ∨ text = '+' :: digits) ∧ digits ≠ [] ∧
    (forall c, c ∈ digits -> c.isDigit = true) ∧ Nat.ofDigitChars 10 digits 0 = n ∧ n < 65536

inductive Protocol.Declared : Option String -> Protocol -> Prop where
  | missing : Declared none .tcp
  | empty : Declared (some "") .tcp
  | named {name : String} {p : Protocol} :
      name.toList.map Char.toLower = p.name.toList -> Declared (some name) p

/-- The port that a declaration asks for, where `none` is every port. -/
inductive Port.Declared : Option PortSpec -> Option Port -> Prop where
  | missing : Declared none none
  | number {n : Int32} {p : PortNumber} :
      n.toInt = p.val -> Declared (some (.number n)) (some (.number p))
  | empty : Declared (some (.text "")) none
  | numeral {s : String} {p : PortNumber} :
      Numeral.Spells s.toList p.val -> Declared (some (.text s)) (some (.number p))
  | named {s : String} :
      s ≠ "" -> (forall n, ¬ Numeral.Spells s.toList n) ->
      Declared (some (.text s)) (some (.named s))

structure PolicyPort.Declares (p : PolicyPort) (m : PortMatch) : Prop where
  protocol : Protocol.Declared p.protocol m.protocol
  port : Port.Declared p.port m.port

namespace Numeral

theorem decimalBelow?_eq_some {bound n : Nat} {digits : List Char} :
    decimalBelow? bound digits = some n <->
      digits ≠ [] ∧ (forall c, c ∈ digits -> c.isDigit = true) ∧
        Nat.ofDigitChars 10 digits 0 = n ∧ n < bound := by
  have hdecimal : isDecimal digits = true <->
      digits ≠ [] ∧ forall c, c ∈ digits -> c.isDigit = true := by
    simp [isDecimal]
  unfold decimalBelow? decimal?
  rw [Option.filter_eq_some_iff, ← and_assoc, ← hdecimal]
  by_cases h : isDecimal digits = true <;> simp [h]

theorem signedDecimalBelow?_eq_some {text : List Char} {n : Nat} :
    signedDecimalBelow? 65536 text = some n <-> Spells text n := by
  unfold signedDecimalBelow? Spells
  split
  · rename_i digits
    rw [decimalBelow?_eq_some]
    constructor
    · intro h
      exact ⟨digits, Or.inr rfl, h⟩
    · intro hspells
      rcases hspells with ⟨digits', htext | htext, hne, hdigits, hvalue⟩
      · subst htext
        have hplus := hdigits '+' List.mem_cons_self
        exact absurd hplus (by decide)
      · cases htext
        exact ⟨hne, hdigits, hvalue⟩
  · rename_i hplus
    rw [decimalBelow?_eq_some]
    constructor
    · intro h
      exact ⟨text, Or.inl rfl, h⟩
    · intro hspells
      rcases hspells with ⟨digits, htext | htext, hne, hdigits, hvalue⟩
      · subst htext
        exact ⟨hne, hdigits, hvalue⟩
      · exact absurd htext (hplus digits)

end Numeral

namespace PortNumber

theorem ofNat?_eq_some {n : Nat} {p : PortNumber} : ofNat? n = some p <-> n = p.val := by
  unfold ofNat?
  constructor
  · intro h
    split at h
    · cases h
      rfl
    · cases h
  · intro hn
    subst hn
    rw [dif_pos ⟨p.pos, p.lt⟩]

theorem ofInt?_eq_some {n : Int} {p : PortNumber} : ofInt? n = some p <-> n = p.val := by
  cases n with
  | ofNat n =>
      rw [ofInt?, ofNat?_eq_some]
      exact Int.ofNat_inj.symm
  | negSucc n =>
      have hp := p.pos
      constructor
      · intro h
        cases h
      · intro h
        omega

end PortNumber

theorem Protocol.ofName?_eq_some {name : String} {p : Protocol} :
    ofName? name = some p <-> name.toList.map Char.toLower = p.name.toList := by
  have hsame : forall q : Protocol, Text.sameLetters name q.name = true <->
      name.toList.map Char.toLower = q.name.toList := by
    intro q
    have hlower : q.name.toList.map Char.toLower = q.name.toList := by
      cases q <;> decide
    rw [Text.sameLetters, hlower, beq_iff_eq]
  unfold ofName?
  constructor
  · intro h
    exact (hsame p).mp
      (List.find?_some (p := fun q : Protocol => Text.sameLetters name q.name) h)
  · intro h
    have hothers : forall q : Protocol, q ≠ p -> ¬ Text.sameLetters name q.name = true := by
      intro q hq hname
      have hnames := ((hsame q).mp hname).symm.trans h
      revert hq hnames
      cases q <;> cases p <;> decide
    have hp := (hsame p).mpr h
    cases p with
    | tcp => simp [hp]
    | udp => simp [hp, hothers .tcp]
    | sctp => simp [hp, hothers .tcp, hothers .udp]

namespace PortMatch

theorem protocolOf?_eq_some {name : Option String} {p : Protocol} :
    protocolOf? name = some p <-> Protocol.Declared name p := by
  constructor
  · intro h
    unfold protocolOf? at h
    split at h
    · cases h
      exact .missing
    · cases h
      exact .empty
    · exact .named (Protocol.ofName?_eq_some.mp h)
  · intro h
    cases h with
    | missing => rfl
    | empty => rfl
    | named hname =>
        unfold protocolOf?
        split
        · contradiction
        · rename_i heq
          cases heq
          cases p <;> contradiction
        · rename_i heq
          cases heq
          exact Protocol.ofName?_eq_some.mpr hname

theorem portOf?_numeral {s : String} {n : Nat} (h : Numeral.Spells s.toList n)
    {port : Option Port} :
    portOf? (some (.text s)) = some port <-> Port.Declared (some (.text s)) port := by
  have hnumeral := Numeral.signedDecimalBelow?_eq_some.mpr h
  simp only [portOf?, hnumeral, Option.map_eq_some_iff, PortNumber.ofNat?_eq_some]
  constructor
  · intro hport
    rcases hport with ⟨p, rfl, rfl⟩
    exact .numeral h
  · intro hdeclared
    cases hdeclared with
    | empty => cases hnumeral
    | numeral hp =>
        have hn := Numeral.signedDecimalBelow?_eq_some.mpr hp
        rw [hnumeral, Option.some.injEq] at hn
        exact ⟨_, hn, rfl⟩
    | named _ hnone => exact absurd h (hnone n)

theorem portOf?_name {s : String} (h : forall n, ¬ Numeral.Spells s.toList n)
    {port : Option Port} :
    portOf? (some (.text s)) = some port <-> Port.Declared (some (.text s)) port := by
  have hnumeral : Numeral.signedDecimalBelow? 65536 s.toList = none := by
    rw [Option.eq_none_iff_forall_ne_some]
    intro n hn
    exact h n (Numeral.signedDecimalBelow?_eq_some.mp hn)
  simp only [portOf?, hnumeral]
  by_cases hs : s = ""
  · subst hs
    constructor
    · intro hport
      cases hport
      exact .empty
    · intro hdeclared
      cases hdeclared with
      | empty => rfl
      | numeral hp => exact absurd hp (h _)
      | named hne => exact absurd rfl hne
  · have hnot : s.isEmpty = false := by
      simpa using hs
    rw [hnot, if_neg Bool.false_ne_true]
    constructor
    · intro hport
      cases hport
      exact .named hs h
    · intro hdeclared
      cases hdeclared with
      | empty => exact absurd rfl hs
      | numeral hp => exact absurd hp (h _)
      | named => rfl

theorem portOf?_eq_some {spec : Option PortSpec} {port : Option Port} :
    portOf? spec = some port <-> Port.Declared spec port := by
  cases spec with
  | none =>
      constructor
      · intro hport
        cases hport
        exact .missing
      · intro hdeclared
        cases hdeclared
        rfl
  | some spec =>
      cases spec with
      | number n =>
          simp only [portOf?, Option.map_eq_some_iff, PortNumber.ofInt?_eq_some]
          constructor
          · intro hport
            rcases hport with ⟨p, hp, rfl⟩
            exact .number hp
          · intro hdeclared
            cases hdeclared with
            | number hp => exact ⟨_, hp, rfl⟩
      | text s =>
          by_cases hspells : exists n, Numeral.Spells s.toList n
          · rcases hspells with ⟨n, hn⟩
            exact portOf?_numeral hn
          · exact portOf?_name fun n hn => hspells ⟨n, hn⟩

/-- A port is valid if it declares a match, and then it has that match. -/
theorem ofPort?_eq_some {p : PolicyPort} {m : PortMatch} :
    ofPort? p = some m <-> p.Declares m := by
  unfold ofPort?
  simp only [Option.bind_eq_bind, Option.bind_eq_some_iff, protocolOf?_eq_some,
    portOf?_eq_some]
  constructor
  · intro h
    rcases h with ⟨protocol, hprotocol, port, hport, hm⟩
    cases hm
    exact ⟨hprotocol, hport⟩
  · intro h
    exact ⟨m.protocol, h.protocol, m.port, h.port, rfl⟩

end PortMatch

/-!
# Declared rules

The rules of one chain, as policies, entries, endpoints and ports declare them.
-/

/-- The network of the address that an endpoint has of a family, and of no other
address: its prefix is the whole address, of 32 or 128 bits. -/
def Endpoint.hostNetwork? (e : Endpoint) : Family -> Option Cidr
  | .v4 => e.ipv4.map fun a => .v4 a (Fin.last 32)
  | .v6 => e.ipv6.map fun a => .v6 a (Fin.last 128)

/-- The rule for a network: it is the source of what is received and the
destination of what is sent. -/
def Rule.declared (d : Direction) (host : Cidr) (m : Option PortMatch) : Rule where
  protocol := m.map PortMatch.protocol
  destPort := m.bind PortMatch.port
  source := if d = .ingress then some host else none
  dest := if d = .egress then some host else none

theorem Endpoint.hostNetwork?_eq (e : Endpoint) (f : Family) :
    e.hostNetwork? f = (e.address? f).map .host := by
  unfold hostNetwork? address?
  cases f
  · cases e.ipv4 <;> rfl
  · cases e.ipv6 <;> rfl

namespace PolicyEntry

/-- The endpoints that count for an entry of a policy in the given namespace. -/
def endpoints (x : EndpointIndex) (ns : String) (entry : PolicyEntry) : List Endpoint :=
  (entry.peers.flatMap (Peer.resolve x ns)).eraseDupsBy fun e e' => e.uid == e'.uid

/-- What an entry asks of the packets of an endpoint: the matches of its valid
ports, or nothing if it declares no ports. -/
def demands (entry : PolicyEntry) : List (Option PortMatch) :=
  if entry.ports = [] then [none]
  else (entry.ports.filterMap PortMatch.ofPort?).map some

def declaredRules (x : EndpointIndex) (ns : String) (c : ChainId) (entry : PolicyEntry) :
    List Rule :=
  (entry.endpoints x ns).flatMap fun e =>
    match e.hostNetwork? c.family with
    | none => []
    | some host => entry.demands.map (Rule.declared c.direction host)

end PolicyEntry

namespace Policy

/-- The entries of a policy that count: the first one of a direction, or all. -/
def honoured (mode : EntryMode) (d : Direction) (p : Policy) : List PolicyEntry :=
  match mode, d with
  | .first, .ingress => p.spec.ingress.head?.toList
  | .first, .egress => p.spec.egress.head?.toList
  | .all, .ingress => p.spec.ingress
  | .all, .egress => p.spec.egress

def declaredRules (x : EndpointIndex) (mode : EntryMode) (c : ChainId) (p : Policy) :
    List Rule :=
  (p.honoured mode c.direction).flatMap
    (PolicyEntry.declaredRules x (p.metadata.ns.getD "") c)

theorem honoured_entries (mode : EntryMode) (d : Direction) (p : Policy) :
    mode.honoured (p.entries d) = p.honoured mode d := by
  cases mode with
  | first =>
      unfold honoured EntryMode.honoured
      cases d
      · cases hentries : p.spec.ingress <;> simp [entries, hentries]
      · cases hentries : p.spec.egress <;> simp [entries, hentries]
  | all => cases d <;> rfl

end Policy

/-!
# Growing rule sets

Every step of compilation adds rules at the end of chains.
-/

namespace RuleSet

theorem netns_foldl {step : RuleSet -> A -> RuleSet} (h : forall s a, (step s a).netns = s.netns)
    (items : List A) (s : RuleSet) : (items.foldl step s).netns = s.netns := by
  induction items generalizing s with
  | nil => rfl
  | cons a rest ih => rw [List.foldl_cons, ih, h]

theorem rules_foldl {step : RuleSet -> A -> RuleSet} {added : A -> List Rule} {c : ChainId}
    (h : forall s a, (step s a).rules c = s.rules c ++ added a) (items : List A) (s : RuleSet) :
    (items.foldl step s).rules c = s.rules c ++ items.flatMap added := by
  induction items generalizing s with
  | nil => simp
  | cons a rest ih => rw [List.foldl_cons, ih, h, List.append_assoc, List.flatMap_cons]

theorem netns_grant (d : Direction) (ports : List PortMatch) (s : RuleSet) (e : Endpoint) :
    (grant d ports s e).netns = s.netns := by
  apply netns_foldl
  intro s f
  split <;> rfl

theorem rules_grant (d : Direction) (ports : List PortMatch) (s : RuleSet) (e : Endpoint)
    (c : ChainId) :
    (grant d ports s e).rules c =
      s.rules c ++ if c.direction = d then
        match e.address? c.family with
        | some a => peerRules d ports a
        | none => []
      else [] := by
  have hstep : forall (s : RuleSet) (f : Family),
      (match e.address? f with
        | some a => s.append ⟨d, f⟩ (peerRules d ports a)
        | none => s).rules c =
      s.rules c ++ if c = ⟨d, f⟩ then
        match e.address? f with
        | some a => peerRules d ports a
        | none => []
      else [] := by
    intro s f
    cases e.address? f with
    | none => simp
    | some a =>
        by_cases hc : c = ⟨d, f⟩ <;> simp [rules_append, hc]
  refine (rules_foldl hstep [.v4, .v6] s).trans ?_
  rcases c with ⟨d', f⟩
  by_cases hd : d' = d
  · subst hd
    cases f <;> simp
  · simp [hd]

end RuleSet

theorem peerRules_eq (d : Direction) (ports : List PortMatch) (a : Address) :
    peerRules d ports a =
      (if ports = [] then [none] else ports.map some).map (Rule.declared d (.host a)) := by
  unfold peerRules
  cases ports with
  | nil => cases d <;> rfl
  | cons m rest => cases d <;> simp [Rule.withPeer, Rule.declared]

theorem selectedEndpoints_eq (x : EndpointIndex) (ns : String) (entry : PolicyEntry) :
    selectedEndpoints x ns entry.peers = entry.endpoints x ns :=
  keepFirst_eq Endpoint.uid _

/-- The rules for an endpoint, unless no declared port is valid. -/
theorem demands_eq {entry : PolicyEntry}
    (h : entry.ports.filterMap PortMatch.ofPort? = [] -> entry.ports = []) :
    entry.demands =
      if entry.ports.filterMap PortMatch.ofPort? = [] then [none]
      else (entry.ports.filterMap PortMatch.ofPort?).map some := by
  unfold PolicyEntry.demands
  by_cases hports : entry.ports = []
  · simp [hports]
  · rw [if_neg hports, if_neg fun hvalid => hports (h hvalid)]

theorem rules_compileEntry (x : EndpointIndex) (ns : String) (d : Direction) (s : RuleSet)
    (entry : PolicyEntry) (c : ChainId) :
    (compileEntry x ns d s entry).rules c =
      s.rules c ++ if c.direction = d then entry.declaredRules x ns c else [] := by
  by_cases hinvalid : entry.ports.filterMap PortMatch.ofPort? = [] ∧ entry.ports ≠ []
  · have hdemands : entry.demands = [] := by
      rw [PolicyEntry.demands, if_neg hinvalid.right, hinvalid.left]
      rfl
    have hnone : entry.declaredRules x ns c = [] := by
      unfold PolicyEntry.declaredRules
      rw [List.flatMap_eq_nil_iff]
      intro e _
      rw [hdemands]
      split <;> rfl
    simp [compileEntry, hinvalid.left, hinvalid.right, hnone]
  · have hvalid : (((entry.ports.filterMap PortMatch.ofPort?).isEmpty &&
        !entry.ports.isEmpty) = true) = False := by
      simpa using hinvalid
    have hdeclared : entry.ports.filterMap PortMatch.ofPort? = [] -> entry.ports = [] :=
      fun h => Classical.byContradiction fun hne => hinvalid ⟨h, hne⟩
    have hdemands := demands_eq hdeclared
    simp only [compileEntry, hvalid, if_false]
    rw [selectedEndpoints_eq, RuleSet.rules_foldl fun s e => RuleSet.rules_grant d _ s e c]
    by_cases hd : c.direction = d
    · subst hd
      simp only [if_true]
      congr 1
      unfold PolicyEntry.declaredRules
      congr 1
      funext e
      rw [hdemands, e.hostNetwork?_eq]
      cases e.address? c.family with
      | none => rfl
      | some a => exact peerRules_eq c.direction _ a
    · simp [hd]

theorem netns_compileEntry (x : EndpointIndex) (ns : String) (d : Direction) (s : RuleSet)
    (entry : PolicyEntry) : (compileEntry x ns d s entry).netns = s.netns := by
  simp only [compileEntry]
  split
  · rfl
  · exact RuleSet.netns_foldl (fun s e => RuleSet.netns_grant d _ s e) _ s

theorem rules_compilePolicy (x : EndpointIndex) (mode : EntryMode) (s : RuleSet) (p : Policy)
    (c : ChainId) :
    (compilePolicy x mode s p).rules c = s.rules c ++ p.declaredRules x mode c := by
  have hstep : forall (s : RuleSet) (d : Direction),
      ((mode.honoured (p.entries d)).foldl (compileEntry x (p.metadata.ns.getD "") d) s).rules c =
        s.rules c ++ if c.direction = d then p.declaredRules x mode c else [] := by
    intro s d
    rw [RuleSet.rules_foldl fun s entry => rules_compileEntry x _ d s entry c,
      Policy.honoured_entries]
    by_cases hd : c.direction = d
    · subst hd
      simp [Policy.declaredRules]
    · simp [hd]
  refine (RuleSet.rules_foldl hstep [.ingress, .egress] s).trans ?_
  rcases c with ⟨_ | _, f⟩ <;> simp

theorem netns_compile (policies : List Policy) (x : EndpointIndex) (netns : String)
    (mode : EntryMode) : (compile policies x netns mode).netns = netns := by
  apply RuleSet.netns_foldl
  intro s p
  apply RuleSet.netns_foldl
  intro s d
  exact RuleSet.netns_foldl (netns_compileEntry x _ d) _ s

theorem rules_compile (policies : List Policy) (x : EndpointIndex) (netns : String)
    (mode : EntryMode) (c : ChainId) :
    (compile policies x netns mode).rules c = policies.flatMap (Policy.declaredRules x mode c) := by
  unfold compile
  rw [RuleSet.rules_foldl fun s p => rules_compilePolicy x mode s p c]
  rfl

/-- Compiled rules name no target. -/
theorem target_of_mem_compile {policies : List Policy} {x : EndpointIndex} {netns : String}
    {mode : EntryMode} {c : ChainId} {r : Rule}
    (hr : r ∈ (compile policies x netns mode).rules c) : r.target = none := by
  rw [rules_compile] at hr
  rcases List.mem_flatMap.mp hr with ⟨p, _, hr⟩
  rcases List.mem_flatMap.mp hr with ⟨entry, _, hr⟩
  rcases List.mem_flatMap.mp hr with ⟨e, _, hr⟩
  cases hhost : e.hostNetwork? c.family with
  | none =>
      rw [hhost] at hr
      cases hr
  | some host =>
      rw [hhost] at hr
      rcases List.mem_map.mp hr with ⟨m, _, rfl⟩
      rfl

/-- Compilation yields the declared rules: for each policy and each entry that
counts, for each endpoint of its peers that has an address of the family, one
rule for each valid port, or one for all traffic if no port is declared.  A port
is valid if it declares a match, and a peer whose pod selector does not reduce
is left out. -/
theorem compile_eq_declared (policies : List Policy) (x : EndpointIndex) (netns : String)
    (mode : EntryMode) :
    (compile policies x netns mode).netns = netns ∧
    (forall d f, (compile policies x netns mode).rules ⟨d, f⟩ =
      policies.flatMap fun p => (p.honoured mode d).flatMap fun entry =>
        (entry.endpoints x (p.metadata.ns.getD "")).flatMap fun e =>
          match e.hostNetwork? f with
          | none => []
          | some host =>
              if entry.ports = [] then [Rule.declared d host none]
              else (entry.ports.filterMap PortMatch.ofPort?).map fun m =>
                Rule.declared d host (some m)) ∧
    (forall port m, PortMatch.ofPort? port = some m <-> port.Declares m) ∧
    (forall ns peer, (exists error, PeerCriteria.ofPeer ns peer = .error error) <->
      exists selector error, peer.podSelector = some selector ∧
        selector.reduce = .error error) := by
  refine ⟨netns_compile policies x netns mode, ?_, fun _ _ => PortMatch.ofPort?_eq_some,
    PeerCriteria.ofPeer_error_iff⟩
  intro d f
  rw [rules_compile]
  have hdemands : forall (entry : PolicyEntry) (host : Cidr),
      entry.demands.map (Rule.declared d host) =
        if entry.ports = [] then [Rule.declared d host none]
        else (entry.ports.filterMap PortMatch.ofPort?).map fun m =>
          Rule.declared d host (some m) := by
    intro entry host
    unfold PolicyEntry.demands
    split <;> simp [Function.comp_def]
  simp only [← hdemands]
  rfl

/-- Both directions of a policy, and endpoints with one address and with two.  Of
what is sent, the first entry has a peer that is left out and one that is written
twice, the second one has no valid port, and the third one has one. -/
theorem compile_eq_declared_dual_stack :
    let web : Labels := SortedMap.ofList [("app", "web")]
    let db : Labels := SortedMap.ofList [("app", "db")]
    let webs : Peer := { podSelector := some (.ofLabels web) }
    let dbs : Peer := { podSelector := some (.ofLabels db) }
    let absent : Peer :=
      { podSelector := some { requirements := some [⟨"app", .noneOf, .ofList ["db"]⟩] } }
    let http : PolicyPort := { port := some (.number 80) }
    let dns : PolicyPort := { protocol := some "UDP", port := some (.text "dns") }
    let invalid : PolicyPort := { port := some (.number 0) }
    let policy : Policy :=
      { metadata := { name := some "web", ns := some "shop" }
        spec :=
          { ingress := [{ ports := [http, dns], peers := [webs] }]
            egress := [{ peers := [absent, webs, webs] }, { ports := [invalid], peers := [webs] },
              { ports := [invalid, http], peers := [dbs] }] } }
    let shop : Workload := { ns := "shop", name := "", uid := "" }
    let e : Endpoint :=
      { uid := "e", workload := shop, labels := web, ipv4 := some ⟨10, 0, 0, 5⟩,
        ipv6 := some ⟨[0xfd00, 0, 0, 0, 0, 0, 0, 5], rfl⟩,
        network := .within "internal" .danmNet "shop", netns := "" }
    let d : Endpoint :=
      { uid := "d", workload := shop, labels := db, ipv4 := some ⟨10, 0, 0, 6⟩, ipv6 := none,
        network := .within "internal" .danmNet "shop", netns := "" }
    let s := compile [policy] (EndpointIndex.ofList [e, d] "pod") "/run/netns/pod" .all
    let port80 : Port := .number ⟨80, by decide, by decide⟩
    let v4 : Cidr := .v4 ⟨10, 0, 0, 5⟩ 32
    let v6 : Cidr := .v6 ⟨[0xfd00, 0, 0, 0, 0, 0, 0, 5], rfl⟩ 128
    s.netns = "/run/netns/pod" ∧
    s.rules ⟨.ingress, .v4⟩ =
      [{ protocol := some .tcp, destPort := some port80, source := some v4 },
        { protocol := some .udp, destPort := some (.named "dns"), source := some v4 }] ∧
    s.rules ⟨.ingress, .v6⟩ =
      [{ protocol := some .tcp, destPort := some port80, source := some v6 },
        { protocol := some .udp, destPort := some (.named "dns"), source := some v6 }] ∧
    s.rules ⟨.egress, .v4⟩ =
      [{ dest := some v4 },
        { protocol := some .tcp, destPort := some port80,
          dest := some (.v4 ⟨10, 0, 0, 6⟩ 32) }] ∧
    s.rules ⟨.egress, .v6⟩ = [{ dest := some v6 }] := by
  intro web db webs dbs absent http dns invalid policy shop e d s port80 v4 v6
  let x := EndpointIndex.ofList [e, d] "pod"
  have hwebs : Peer.resolve x "shop" webs = [e] :=
    (Peer.resolve_label [e, d] "pod" "shop" "app" "web").trans (by decide +kernel)
  have hdbs : Peer.resolve x "shop" dbs = [d] :=
    (Peer.resolve_label [e, d] "pod" "shop" "app" "db").trans (by decide +kernel)
  have habsent : Peer.resolve x "shop" absent = [] := rfl
  rcases compile_eq_declared [policy] x "/run/netns/pod" .all with ⟨hnetns, hrules, -, -⟩
  refine ⟨hnetns, ?_, ?_, ?_, ?_⟩
  all_goals
    rw [hrules]
    simp only [policy, Policy.honoured, PolicyEntry.endpoints, Option.getD_some,
      List.flatMap_cons, List.flatMap_nil, hwebs, hdbs, habsent]
    decide +kernel

end PodIsolation
