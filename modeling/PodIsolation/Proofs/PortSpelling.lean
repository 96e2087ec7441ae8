import PodIsolation.Proofs.PeerResolution
import PodIsolation.Proofs.Compilation
import PodIsolation.Proofs.AddressText

/-!
# Spellings of port numbers

## Ports as numbers and as texts

A policy gives a port as a number or as a text.  A number that no packet can have
is no valid port, but a text that is no number of 16 bits is taken for the name of
a service.  So the digits of a number ask for what the number asks for only if the
number has 16 bits.
-/

namespace PodIsolation

/-!
# Digits of numbers
-/

namespace Numeral

theorem toList_toString_ofNat (n : Nat) : (toString (Int.ofNat n)).toList = Nat.toDigits 10 n := by
  change (toString n).toList = Nat.toDigits 10 n
  rw [Nat.toString_eq_ofList_toDigits, String.toList_ofList]

theorem toList_toString_negSucc (n : Nat) :
    (toString (Int.negSucc n)).toList = '-' :: Nat.toDigits 10 (n + 1) := by
  change ("-" ++ toString (n + 1)).toList = '-' :: Nat.toDigits 10 (n + 1)
  simp

theorem toString_ne_empty (n : Int) : toString n ≠ "" := by
  intro h
  have hnil : (toString n).toList = [] := by
    rw [h]
    rfl
  cases n with
  | ofNat m =>
      rw [toList_toString_ofNat] at hnil
      exact Nat.toDigits_ne_nil hnil
  | negSucc m =>
      rw [toList_toString_negSucc] at hnil
      cases hnil

/-- The text of an integer spells the integer and nothing else. -/
theorem spells_toString_iff {n : Int} {k : Nat} :
    Spells (toString n).toList k <-> n = k ∧ k < 65536 := by
  cases n with
  | ofNat m =>
      rw [toList_toString_ofNat]
      constructor
      · intro hspells
        rcases hspells with ⟨digits, rfl | htext, _, _, hvalue, hlt⟩
        · rw [Nat.ofDigitChars_ten_toDigits] at hvalue
          exact ⟨congrArg Int.ofNat hvalue, hlt⟩
        · have hplus : '+' ∈ Nat.toDigits 10 m := by
            rw [htext]
            exact List.mem_cons_self
          exact absurd (isDigit_of_mem_toDigits hplus) (by decide)
      · intro h
        rcases h with ⟨hm, hlt⟩
        have hmk : m = k := Int.ofNat_inj.mp hm
        subst hmk
        exact ⟨Nat.toDigits 10 m, Or.inl rfl, Nat.toDigits_ne_nil,
          fun _ => isDigit_of_mem_toDigits, Nat.ofDigitChars_ten_toDigits, hlt⟩
  | negSucc m =>
      rw [toList_toString_negSucc]
      constructor
      · intro hspells
        rcases hspells with ⟨digits, rfl | htext, _, hdigits, _⟩
        · exact absurd (hdigits '-' List.mem_cons_self) (by decide)
        · cases htext
      · intro h
        omega

theorem signedDecimalBelow?_toString (n : Int) :
    signedDecimalBelow? 65536 (toString n).toList =
      if 0 ≤ n ∧ n < 65536 then some n.toNat else none := by
  apply Option.ext
  intro k
  rw [signedDecimalBelow?_eq_some, spells_toString_iff]
  split
  · rw [Option.some.injEq]
    omega
  · constructor
    · intro h
      omega
    · intro h
      cases h

end Numeral

/-!
# Valid ports
-/

/-- The port with its number, if it has one, written in decimal digits. -/
def PolicyPort.spelled (port : PolicyPort) : PolicyPort :=
  match port.port with
  | some (.number n) => { port with port := some (.text (toString n.toInt)) }
  | _ => port

namespace PortMatch

variable {n : Int32}

theorem portOf?_number_eq_none (h : n.toInt ≤ 0 ∨ 65536 ≤ n.toInt) :
    portOf? (some (.number n)) = none := by
  rw [portOf?, Option.map_eq_none_iff, Option.eq_none_iff_forall_ne_some]
  intro p hp
  rw [PortNumber.ofInt?_eq_some] at hp
  have hpos := p.pos
  have hlt := p.lt
  omega

/-- The digits of a number of 16 bits are read as that number. -/
theorem portOf?_digits (h : 0 ≤ n.toInt ∧ n.toInt < 65536) :
    portOf? (some (.text (toString n.toInt))) = portOf? (some (.number n)) := by
  simp only [portOf?, Numeral.signedDecimalBelow?_toString, if_pos h]
  rcases Int.eq_ofNat_of_zero_le h.left with ⟨m, hm⟩
  rw [hm]
  rfl

/-- The digits of any other number are read as a name. -/
theorem portOf?_digits_of_large (h : ¬ (0 ≤ n.toInt ∧ n.toInt < 65536)) :
    portOf? (some (.text (toString n.toInt))) = some (some (.named (toString n.toInt))) := by
  have hne : (toString n.toInt).isEmpty = false := by
    simpa using Numeral.toString_ne_empty n.toInt
  simp only [portOf?, Numeral.signedDecimalBelow?_toString, if_neg h, hne]
  rfl

theorem ofPort?_eq (p : PolicyPort) :
    ofPort? p = (protocolOf? p.protocol).bind fun protocol =>
      (portOf? p.port).map fun port => { protocol, port } := by
  unfold ofPort?
  cases protocolOf? p.protocol with
  | none => rfl
  | some protocol => cases portOf? p.port <;> rfl

theorem ofPort?_number_eq_none (h : n.toInt ≤ 0 ∨ 65536 ≤ n.toInt) (protocol : Option String) :
    ofPort? { protocol, port := some (.number n) } = none := by
  rw [ofPort?_eq, portOf?_number_eq_none h]
  cases protocolOf? protocol <;> rfl

theorem ofPort?_digits_of_large (h : ¬ (0 ≤ n.toInt ∧ n.toInt < 65536))
    (protocol : Option String) :
    ofPort? { protocol, port := some (.text (toString n.toInt)) } =
      (protocolOf? protocol).map fun p => ⟨p, some (.named (toString n.toInt))⟩ := by
  rw [ofPort?_eq, portOf?_digits_of_large h]
  cases protocolOf? protocol <;> rfl

/-- Both spellings ask for the same if the number has 16 bits, and also if neither
asks for anything because there is no such protocol. -/
theorem ofPort?_digits_eq_iff {protocol : Option String} :
    ofPort? { protocol, port := some (.text (toString n.toInt)) } =
        ofPort? { protocol, port := some (.number n) } <->
      (0 ≤ n.toInt ∧ n.toInt < 65536) ∨ protocolOf? protocol = none := by
  by_cases h : 0 ≤ n.toInt ∧ n.toInt < 65536
  · constructor
    · intro _
      exact Or.inl h
    · intro _
      rw [ofPort?_eq, ofPort?_eq, portOf?_digits h]
  · rw [ofPort?_number_eq_none (by omega), ofPort?_digits_of_large h, Option.map_eq_none_iff]
    simp [h]

/-- A port that asks for something else once its number is written in digits asked
for nothing before. -/
theorem ofPort?_spelled_cases (port : PolicyPort) :
    ofPort? port.spelled = ofPort? port ∨
      ofPort? port = none ∧ exists m, ofPort? port.spelled = some m := by
  rcases port with ⟨protocol, spec⟩
  cases spec with
  | none => exact Or.inl rfl
  | some spec =>
      cases spec with
      | text s => exact Or.inl rfl
      | number n =>
          by_cases h : 0 ≤ n.toInt ∧ n.toInt < 65536
          · exact Or.inl (ofPort?_digits_eq_iff.mpr (Or.inl h))
          · have hspelled : ofPort? (PolicyPort.spelled ⟨protocol, some (.number n)⟩) =
                (protocolOf? protocol).map fun p => ⟨p, some (.named (toString n.toInt))⟩ :=
              ofPort?_digits_of_large h protocol
            have hnumber := ofPort?_number_eq_none (n := n) (by omega) protocol
            cases hprotocol : protocolOf? protocol with
            | none =>
                left
                rw [hspelled, hnumber, hprotocol]
                rfl
            | some p =>
                right
                rw [hspelled, hprotocol]
                exact ⟨hnumber, _, rfl⟩

end PortMatch

/-!
# Changed items

A list in which one item is changed yields something else only if the item does.
-/

section Modify

variable {A B : Type} {items : List A} {i : Nat} {a : A}

theorem exists_modify_eq (h : items[i]? = some a) (change : A -> A) :
    exists before after, items = before ++ a :: after ∧
      items.modify i change = before ++ change a :: after := by
  rcases List.getElem?_eq_some_iff.mp h with ⟨hi, rfl⟩
  exact ⟨items.take i, items.drop (i + 1), by simp, List.modify_eq_take_cons_drop hi⟩

theorem flatMap_modify_eq_iff (h : items[i]? = some a) (change : A -> A) (f : A -> List B) :
    (items.modify i change).flatMap f = items.flatMap f <-> f (change a) = f a := by
  rcases exists_modify_eq h change with ⟨before, after, hitems, hmodify⟩
  rw [hmodify, hitems]
  simp

end Modify

/-!
# Entries
-/

namespace PolicyEntry

/-- The entry with one of its ports written in digits. -/
def spelledAt (i : Nat) (entry : PolicyEntry) : PolicyEntry :=
  { entry with ports := entry.ports.modify i PolicyPort.spelled }

variable {x : EndpointIndex} {ns : String} {c : ChainId} {entry : PolicyEntry} {i : Nat}
variable {port : PolicyPort}

theorem demands_spelledAt (hport : entry.ports[i]? = some port)
    (h : PortMatch.ofPort? port.spelled = PortMatch.ofPort? port) :
    (entry.spelledAt i).demands = entry.demands := by
  rcases exists_modify_eq hport PolicyPort.spelled with ⟨before, after, hports, hspelled⟩
  unfold demands spelledAt
  rw [hspelled, hports]
  simp [List.filterMap_cons, h]

/-- A port that becomes valid is one more demand. -/
theorem length_demands_spelledAt (hport : entry.ports[i]? = some port)
    (hinvalid : PortMatch.ofPort? port = none) {m : PortMatch}
    (hvalid : PortMatch.ofPort? port.spelled = some m) :
    (entry.spelledAt i).demands.length = entry.demands.length + 1 := by
  rcases exists_modify_eq hport PolicyPort.spelled with ⟨before, after, hports, hspelled⟩
  unfold demands spelledAt
  rw [hspelled, hports]
  simp [hinvalid, hvalid]
  omega

theorem length_declaredRules (x : EndpointIndex) (ns : String) (c : ChainId)
    (entry : PolicyEntry) :
    (entry.declaredRules x ns c).length =
      (entry.endpoints x ns).countP (fun e => (e.hostNetwork? c.family).isSome) *
        entry.demands.length := by
  unfold declaredRules
  induction entry.endpoints x ns with
  | nil => simp
  | cons e rest ih =>
      rw [List.flatMap_cons, List.length_append, ih, List.countP_cons]
      cases e.hostNetwork? c.family with
      | none => simp
      | some host => simp [Nat.add_mul, Nat.add_comm]

theorem declaredRules_eq_nil
    (h : forall e, e ∈ entry.endpoints x ns -> e.hostNetwork? c.family = none) :
    entry.declaredRules x ns c = [] := by
  unfold declaredRules
  rw [List.flatMap_eq_nil_iff]
  intro e he
  rw [h e he]

theorem declaredRules_spelledAt_iff (hport : entry.ports[i]? = some port) :
    (entry.spelledAt i).declaredRules x ns c = entry.declaredRules x ns c <->
      PortMatch.ofPort? port.spelled = PortMatch.ofPort? port ∨
        forall e, e ∈ entry.endpoints x ns -> e.hostNetwork? c.family = none := by
  have hendpoints : (entry.spelledAt i).endpoints x ns = entry.endpoints x ns := rfl
  constructor
  · intro hrules
    rcases PortMatch.ofPort?_spelled_cases port with hsame | ⟨hinvalid, m, hvalid⟩
    · exact Or.inl hsame
    · right
      -- One more demand for each endpoint with an address would be one more rule.
      have hlength := congrArg List.length hrules
      rw [length_declaredRules, length_declaredRules, hendpoints,
        length_demands_spelledAt hport hinvalid hvalid, Nat.mul_succ, Nat.add_eq_left,
        List.countP_eq_zero] at hlength
      intro e he
      simpa using hlength e he
  · intro h
    rcases h with hsame | hnone
    · unfold declaredRules
      rw [demands_spelledAt hport hsame]
      rfl
    · rw [declaredRules_eq_nil hnone, declaredRules_eq_nil (hendpoints ▸ hnone)]

end PolicyEntry

/-!
# Policies
-/

/-- The entry at the position counts. -/
def EntryMode.Honours : EntryMode -> Nat -> Prop
  | .first, i => i = 0
  | .all, _ => True

namespace EntryMode

variable {mode : EntryMode} {entries : List PolicyEntry} {i : Nat}

theorem honoured_modify (mode : EntryMode) (entries : List PolicyEntry) (i : Nat)
    (change : PolicyEntry -> PolicyEntry) :
    mode.honoured (entries.modify i change) = (mode.honoured entries).modify i change := by
  cases mode with
  | first => exact List.take_modify change i 1 entries
  | all => rfl

theorem honoured_getElem?_of_honours (h : mode.Honours i) :
    (mode.honoured entries)[i]? = entries[i]? := by
  cases mode with
  | first =>
      have hi : i = 0 := h
      rw [hi]
      exact List.getElem?_take_of_lt Nat.zero_lt_one
  | all => rfl

theorem honoured_modify_of_not_honours (h : ¬ mode.Honours i)
    (change : PolicyEntry -> PolicyEntry) :
    mode.honoured (entries.modify i change) = mode.honoured entries := by
  rw [honoured_modify]
  cases mode with
  | first =>
      apply List.modify_eq_self
      have hi : i ≠ 0 := h
      have hlength : (EntryMode.first.honoured entries).length ≤ 1 := List.length_take_le 1 entries
      omega
  | all => exact absurd trivial h

end EntryMode

namespace Policy

/-- The policy with one port of one of its entries written in digits. -/
def spelledAt (d : Direction) (i j : Nat) (p : Policy) : Policy :=
  match d with
  | .ingress =>
      { p with spec := { p.spec with ingress := p.spec.ingress.modify i (.spelledAt j) } }
  | .egress =>
      { p with spec := { p.spec with egress := p.spec.egress.modify i (.spelledAt j) } }

variable {x : EndpointIndex} {mode : EntryMode} {d : Direction} {i j : Nat} {p : Policy}
variable {entry : PolicyEntry}

theorem metadata_spelledAt (d : Direction) (i j : Nat) (p : Policy) :
    (p.spelledAt d i j).metadata = p.metadata := by
  cases d <;> rfl

theorem entries_spelledAt_self (d : Direction) (i j : Nat) (p : Policy) :
    (p.spelledAt d i j).entries d = (p.entries d).modify i (.spelledAt j) := by
  cases d <;> rfl

theorem entries_spelledAt_of_ne {d' : Direction} (h : d' ≠ d) :
    (p.spelledAt d i j).entries d' = p.entries d' := by
  cases d with
  | ingress =>
      cases d' with
      | ingress => exact absurd rfl h
      | egress => rfl
  | egress =>
      cases d' with
      | ingress => rfl
      | egress => exact absurd rfl h

theorem declaredRules_spelledAt_iff (hentry : (p.entries d)[i]? = some entry) (c : ChainId) :
    (p.spelledAt d i j).declaredRules x mode c = p.declaredRules x mode c <->
      (c.direction = d -> mode.Honours i ->
        (entry.spelledAt j).declaredRules x (p.metadata.ns.getD "") c =
          entry.declaredRules x (p.metadata.ns.getD "") c) := by
  unfold declaredRules
  rw [metadata_spelledAt, ← honoured_entries, ← honoured_entries]
  by_cases hd : c.direction = d
  · subst hd
    rw [entries_spelledAt_self]
    by_cases hhonours : mode.Honours i
    · rw [EntryMode.honoured_modify, flatMap_modify_eq_iff
        ((EntryMode.honoured_getElem?_of_honours hhonours).trans hentry)]
      simp [hhonours]
    · rw [EntryMode.honoured_modify_of_not_honours hhonours]
      simp [hhonours]
  · rw [entries_spelledAt_of_ne hd]
    simp [hd]

end Policy

/-!
# Compilation
-/

/-- Where a port is in a list of policies. -/
structure PortPlace where
  policy : Nat
  direction : Direction
  entry : Nat
  port : Nat
deriving DecidableEq, Repr

/-- The policies with the number of one port written in digits. -/
def PortPlace.spelled (place : PortPlace) (policies : List Policy) : List Policy :=
  policies.modify place.policy (.spelledAt place.direction place.entry place.port)

theorem compile_eq_iff {policies others : List Policy} {x : EndpointIndex} {netns : String}
    {mode : EntryMode} :
    compile policies x netns mode = compile others x netns mode <->
      forall c, policies.flatMap (Policy.declaredRules x mode c) =
        others.flatMap (Policy.declaredRules x mode c) := by
  simp only [← rules_compile _ _ netns]
  constructor
  · intro h c
    rw [h]
  · intro h
    have hnetns : (compile policies x netns mode).netns = (compile others x netns mode).netns := by
      rw [netns_compile, netns_compile]
    exact congrArg₂ RuleSet.mk hnetns (funext h)

/-- Entries that declare ports, but no valid one, grant nothing. -/
theorem compileEntry_of_no_valid_port {entry : PolicyEntry} (hports : entry.ports ≠ [])
    (h : forall port, port ∈ entry.ports -> PortMatch.ofPort? port = none) (x : EndpointIndex)
    (ns : String) (d : Direction) (s : RuleSet) : compileEntry x ns d s entry = s := by
  have hvalid : entry.ports.filterMap PortMatch.ofPort? = [] := List.filterMap_eq_nil_iff.mpr h
  simp [compileEntry, hvalid, hports]

theorem Endpoint.hostNetwork?_eq_none_iff {e : Endpoint} :
    (forall f, e.hostNetwork? f = none) <-> e.ipv4 = none ∧ e.ipv6 = none := by
  constructor
  · intro h
    exact ⟨Option.map_eq_none_iff.mp (h .v4), Option.map_eq_none_iff.mp (h .v6)⟩
  · intro h f
    cases f with
    | v4 => exact Option.map_eq_none_iff.mpr h.left
    | v6 => exact Option.map_eq_none_iff.mpr h.right

/-- Writing the number of a port in digits changes nothing that is compiled if the
number has 16 bits.  For any other number it does, unless the port has no known
protocol, or stands in an entry that does not count or selects no address: the
number is left out, and its digits are taken for a name.  Zero is left out in
either spelling, and an entry with no valid port grants nothing. -/
theorem compile_spelled_iff (policies : List Policy) (x : EndpointIndex) (netns : String)
    (mode : EntryMode) (place : PortPlace) {p : Policy} {entry : PolicyEntry}
    {protocol : Option String} {n : Int32} (hpolicy : policies[place.policy]? = some p)
    (hentry : (p.entries place.direction)[place.entry]? = some entry)
    (hport : entry.ports[place.port]? = some { protocol, port := some (.number n) }) :
    (compile (place.spelled policies) x netns mode = compile policies x netns mode <->
      (0 ≤ n.toInt ∧ n.toInt < 65536) ∨ PortMatch.protocolOf? protocol = none ∨
        ¬ mode.Honours place.entry ∨
        forall e, e ∈ entry.endpoints x (p.metadata.ns.getD "") ->
          e.ipv4 = none ∧ e.ipv6 = none) ∧
    (¬ (0 ≤ n.toInt ∧ n.toInt < 65536) ->
      PortMatch.ofPort? { protocol, port := some (.number n) } = none ∧
      PortMatch.ofPort? { protocol, port := some (.text (toString n.toInt)) } =
        (PortMatch.protocolOf? protocol).map fun q => ⟨q, some (.named (toString n.toInt))⟩) ∧
    (n.toInt = 0 ->
      PortMatch.ofPort? { protocol, port := some (.number n) } = none ∧
      PortMatch.ofPort? { protocol, port := some (.text (toString n.toInt)) } = none) ∧
    (forall other : PolicyEntry, other.ports ≠ [] ->
      (forall port, port ∈ other.ports -> PortMatch.ofPort? port = none) ->
      forall ns d s, compileEntry x ns d s other = s) := by
  refine ⟨?_, ?_, ?_, ?_⟩
  · have hsame : PortMatch.ofPort? (PolicyPort.spelled { protocol, port := some (.number n) }) =
          PortMatch.ofPort? { protocol, port := some (.number n) } <->
        (0 ≤ n.toInt ∧ n.toInt < 65536) ∨ PortMatch.protocolOf? protocol = none :=
      PortMatch.ofPort?_digits_eq_iff
    rw [compile_eq_iff]
    simp only [PortPlace.spelled, flatMap_modify_eq_iff hpolicy,
      Policy.declaredRules_spelledAt_iff hentry, PolicyEntry.declaredRules_spelledAt_iff hport,
      hsame]
    constructor
    · intro h
      by_cases hvalid : (0 ≤ n.toInt ∧ n.toInt < 65536) ∨ PortMatch.protocolOf? protocol = none
      · exact or_assoc.mp (Or.inl hvalid)
      by_cases hhonours : mode.Honours place.entry
      · refine Or.inr (Or.inr (Or.inr ?_))
        intro e he
        apply Endpoint.hostNetwork?_eq_none_iff.mp
        intro f
        exact (h ⟨place.direction, f⟩ rfl hhonours).resolve_left hvalid e he
      · exact Or.inr (Or.inr (Or.inl hhonours))
    · intro h c _ hhonours
      rcases h with hsize | hprotocol | hnot | hnone
      · exact Or.inl (Or.inl hsize)
      · exact Or.inl (Or.inr hprotocol)
      · exact absurd hhonours hnot
      · right
        intro e he
        exact Endpoint.hostNetwork?_eq_none_iff.mpr (hnone e he) c.family
  · intro hlarge
    constructor
    · exact PortMatch.ofPort?_number_eq_none (by omega) protocol
    · exact PortMatch.ofPort?_digits_of_large hlarge protocol
  · intro hzero
    have hnumber := PortMatch.ofPort?_number_eq_none (n := n) (by omega) protocol
    have hdigits : PortMatch.ofPort? { protocol, port := some (.text (toString n.toInt)) } =
        PortMatch.ofPort? { protocol, port := some (.number n) } :=
      PortMatch.ofPort?_digits_eq_iff.mpr (Or.inl (by omega))
    exact ⟨hnumber, hdigits.trans hnumber⟩
  · intro other hports hinvalid ns d s
    exact compileEntry_of_no_valid_port hports hinvalid x ns d s

/-- Two ports of the second entry of a policy, of which one is no port at all. -/
theorem compile_spelled_iff_at_second_entry :
    let web : Labels := SortedMap.ofList [("app", "web")]
    let http : PolicyPort := { port := some (.number 8080) }
    let negative : PolicyPort := { protocol := some "UDP", port := some (.number (-5)) }
    let entry : PolicyEntry :=
      { ports := [http, negative], peers := [{ podSelector := some (.ofLabels web) }] }
    let policy : Policy :=
      { metadata := { name := some "web", ns := some "shop" }, spec := { egress := [{}, entry] } }
    let e : Endpoint :=
      { uid := "e1", workload := { ns := "shop", name := "", uid := "" }, labels := web,
        ipv4 := some ⟨10, 0, 0, 5⟩, ipv6 := none, network := .within "internal" .danmNet "shop",
        netns := "" }
    let x := EndpointIndex.ofList [e] "pod"
    let place : PortPlace := { policy := 0, direction := .egress, entry := 1, port := 0 }
    compile (place.spelled [policy]) x "/run/netns/pod" .all =
      compile [policy] x "/run/netns/pod" .all ∧
    PortMatch.ofPort? negative = none ∧
    PortMatch.ofPort? negative.spelled = some ⟨.udp, some (.named "-5")⟩ := by
  intro web http negative entry policy e x place
  have hpolicy : [policy][0]? = some policy := rfl
  have hentry : (policy.entries .egress)[1]? = some entry := rfl
  have hhttp : entry.ports[0]? = some { protocol := none, port := some (.number 8080) } := rfl
  have hnegative :
      entry.ports[1]? = some { protocol := some "UDP", port := some (.number (-5)) } := rfl
  rcases compile_spelled_iff [policy] x "/run/netns/pod" .all place hpolicy hentry hhttp with
    ⟨hsame, _⟩
  rcases compile_spelled_iff [policy] x "/run/netns/pod" .all { place with port := 1 } hpolicy
    hentry hnegative with ⟨_, hlarge, _⟩
  rcases hlarge (by decide) with ⟨hnumber, hdigits⟩
  exact ⟨hsame.mpr (Or.inl (by decide)), hnumber, hdigits.trans (by decide +kernel)⟩

/-- A number of more than 16 bits admits nothing, but its digits do. -/
theorem large_number_taken_for_name :
    let web : Labels := SortedMap.ofList [("app", "web")]
    let entry : PolicyEntry :=
      { ports := [{ port := some (.number 65536) }]
        peers := [{ podSelector := some (.ofLabels web) }] }
    let policy : Policy :=
      { metadata := { name := some "web", ns := some "shop" }, spec := { ingress := [entry] } }
    let e : Endpoint :=
      { uid := "e1", workload := { ns := "shop", name := "", uid := "" }, labels := web,
        ipv4 := some ⟨10, 0, 0, 5⟩, ipv6 := none, network := .within "internal" .danmNet "shop",
        netns := "" }
    let x := EndpointIndex.ofList [e] "pod"
    let place : PortPlace := { policy := 0, direction := .ingress, entry := 0, port := 0 }
    (compile [policy] x "/run/netns/pod" .first).rules ⟨.ingress, .v4⟩ = [] ∧
    (compile (place.spelled [policy]) x "/run/netns/pod" .first).rules ⟨.ingress, .v4⟩ =
      [{ protocol := some .tcp, destPort := some (.named "65536"),
         source := some (.host (.v4 ⟨10, 0, 0, 5⟩)) }] ∧
    compile (place.spelled [policy]) x "/run/netns/pod" .first ≠
      compile [policy] x "/run/netns/pod" .first := by
  intro web entry policy e x place
  have hselected : entry.endpoints x "shop" = [e] := by
    have hresolve : Peer.resolve x "shop" { podSelector := some (.ofLabels web) } =
        Peer.labeledIn [e] web := Peer.anyLabel_ofList [e] "pod" web
    unfold PolicyEntry.endpoints
    rw [List.flatMap_singleton, hresolve]
    decide +kernel
  have hrules : forall ports : List PolicyPort,
      (compile [{ policy with spec := { ingress := [{ entry with ports }] } }] x
        "/run/netns/pod" .first).rules ⟨.ingress, .v4⟩ =
      (PolicyEntry.demands { entry with ports }).map
        (Rule.declared .ingress (.v4 ⟨10, 0, 0, 5⟩ 32)) := by
    intro ports
    have hentry : (PolicyEntry.endpoints x "shop" { entry with ports }) = [e] := hselected
    rw [rules_compile, List.flatMap_singleton]
    change PolicyEntry.declaredRules x "shop" ⟨.ingress, .v4⟩ { entry with ports } ++ [] = _
    rw [List.append_nil, PolicyEntry.declaredRules, hentry]
    exact List.append_nil _
  have hnumber : entry.demands = [] := by decide +kernel
  have hdigits : (entry.spelledAt 0).demands = [some ⟨.tcp, some (.named "65536")⟩] := by
    decide +kernel
  have hnone : (compile [policy] x "/run/netns/pod" .first).rules ⟨.ingress, .v4⟩ = [] :=
    (hrules entry.ports).trans (congrArg (List.map _) hnumber)
  have hnamed : (compile (place.spelled [policy]) x "/run/netns/pod" .first).rules
      ⟨.ingress, .v4⟩ =
      [{ protocol := some .tcp, destPort := some (.named "65536"),
         source := some (.host (.v4 ⟨10, 0, 0, 5⟩)) }] :=
    (hrules (entry.spelledAt 0).ports).trans (congrArg (List.map _) hdigits)
  refine ⟨hnone, hnamed, ?_⟩
  intro hsame
  rw [hsame, hnone] at hnamed
  cases hnamed

end PodIsolation
