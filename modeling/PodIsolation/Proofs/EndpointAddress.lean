import PodIsolation.Proofs.ListingScan

/-!
# Addresses of endpoints

## From texts to hosts

The fields of an endpoint resource hold free text.  A text that is an address,
with a prefix length or without and between any blanks, becomes the address of
the endpoint if it is of the family of its field.  No other text becomes an
address.  The rules for an endpoint name the host of its address and no more, and
an endpoint without addresses has no rules.
-/

namespace PodIsolation

/-!
# Trimmed texts
-/

namespace Text

variable {before core after : List Char}

theorem dropWhile_of_not_blank (h : forall c, c ∈ core -> isBlank c = false) :
    core.dropWhile isBlank = core := by
  cases core with
  | nil => rfl
  | cons c rest =>
      exact List.dropWhile_cons_of_neg (ne_true_of_eq_false (h c List.mem_cons_self))

/-- Blanks are taken off both ends. -/
theorem trimmed_between (hbefore : forall c, c ∈ before -> isBlank c = true)
    (hcore : forall c, c ∈ core -> isBlank c = false)
    (hafter : forall c, c ∈ after -> isBlank c = true) :
    trimmed (before ++ core ++ after) = core := by
  have hback : forall c, c ∈ after.reverse -> isBlank c = true :=
    fun c hc => hafter c (List.mem_reverse.mp hc)
  have hcoreBack : forall c, c ∈ core.reverse -> isBlank c = false :=
    fun c hc => hcore c (List.mem_reverse.mp hc)
  unfold trimmed
  rw [List.append_assoc, List.dropWhile_append_of_pos hbefore]
  cases core with
  | nil =>
      have hnothing : (after ++ []).dropWhile isBlank = [].dropWhile isBlank :=
        List.dropWhile_append_of_pos hafter
      rw [List.append_nil] at hnothing
      rw [List.nil_append, hnothing]
      rfl
  | cons c rest =>
      have hc : ¬ isBlank c = true := ne_true_of_eq_false (hcore c List.mem_cons_self)
      rw [List.cons_append, List.dropWhile_cons_of_neg hc, ← List.cons_append,
        List.reverse_append, List.dropWhile_append_of_pos hback,
        dropWhile_of_not_blank hcoreBack, List.reverse_reverse]

end Text

/-!
# Texts of addresses
-/

namespace Address

/-- The text is the address, with a prefix length or without, between any blanks. -/
def Written (a : Address) (text : String) : Prop :=
  exists before core after, text = before ++ core ++ after ∧
    (forall c, c ∈ before.toList -> Text.isBlank c = true) ∧
    (forall c, c ∈ after.toList -> Text.isBlank c = true) ∧
    (core = a.text ∨ exists block : Cidr, block.address = a ∧ core = block.text)

/-- The text stands for an allocated address: it is a block with this address, or
the address itself. -/
def ReadFrom (a : Address) (text : String) : Prop :=
  text ≠ "" ∧ text ≠ noneAllocated ∧
    ((exists block, Cidr.ofText? text = some block ∧ block.address = a) ∨
      (Cidr.ofText? text = none ∧ ofText? text = some a))

end Address

theorem Numeral.not_isBlank_of_hexDigit {c : Char} (h : hexDigit? c ≠ none) :
    Text.isBlank c = false := by
  unfold hexDigit? at h
  split at h
  · rename_i hc
    have hlow : 48 ≤ c.toNat := UInt32.le_iff_toNat_le.mp (Char.le_def.mp hc.left)
    have hhigh : c.toNat ≤ 57 := UInt32.le_iff_toNat_le.mp (Char.le_def.mp hc.right)
    exact Text.isBlank_of_visible (by omega) (by omega)
  · split at h
    · rename_i hc
      have hlow : 97 ≤ c.toNat := UInt32.le_iff_toNat_le.mp (Char.le_def.mp hc.left)
      have hhigh : c.toNat ≤ 102 := UInt32.le_iff_toNat_le.mp (Char.le_def.mp hc.right)
      exact Text.isBlank_of_visible (by omega) (by omega)
    · split at h
      · rename_i hc
        have hlow : 65 ≤ c.toNat := UInt32.le_iff_toNat_le.mp (Char.le_def.mp hc.left)
        have hhigh : c.toNat ≤ 70 := UInt32.le_iff_toNat_le.mp (Char.le_def.mp hc.right)
        exact Text.isBlank_of_visible (by omega) (by omega)
      · exact absurd rfl h

namespace Address

theorem not_isBlank_of_mem_text {a : Address} {c : Char} (hc : c ∈ a.text.toList) :
    Text.isBlank c = false := by
  cases a with
  | v4 address =>
      have hc : c ∈ address.chars := by simpa [text, IPv4.text] using hc
      rcases IPv4.mem_chars hc with hdigit | rfl
      · exact Numeral.not_isBlank_of_hexDigit (Numeral.hexDigit?_of_isDigit hdigit)
      · decide
  | v6 address =>
      have hc : c ∈ address.chars := by simpa [text, IPv6.text] using hc
      rcases IPv6.mem_chars hc with hdigit | rfl | rfl
      · exact Numeral.not_isBlank_of_hexDigit hdigit
      · decide
      · decide

theorem slash_not_mem_text (a : Address) : '/' ∉ a.text.toList := by
  cases a with
  | v4 address => simpa [text, IPv4.text] using address.slash_not_mem_chars
  | v6 address => simpa [text, IPv6.text] using address.slash_not_mem_chars

@[simp] theorem ofText?_text (a : Address) : ofText? a.text = some a := by
  cases a with
  | v4 address => simp [ofText?, text, IPv4.text, IPv4.ofChars?_chars]
  | v6 address =>
      simp [ofText?, text, IPv6.text, IPv6.not_dotted, IPv6.ofChars?_chars]

end Address

namespace Cidr

theorem text_eq (block : Cidr) :
    exists length, block.text.toList =
      block.address.text.toList ++ '/' :: Nat.toDigits 10 length := by
  cases block with
  | v4 address length => exact ⟨length.val, by simp [text, Cidr.address, Address.text]⟩
  | v6 address length => exact ⟨length.val, by simp [text, Cidr.address, Address.text]⟩

theorem not_isBlank_of_mem_text {block : Cidr} {c : Char} (hc : c ∈ block.text.toList) :
    Text.isBlank c = false := by
  rcases block.text_eq with ⟨length, htext⟩
  rw [htext, List.mem_append, List.mem_cons] at hc
  rcases hc with hc | rfl | hc
  · exact Address.not_isBlank_of_mem_text hc
  · decide
  · exact Numeral.not_isBlank_of_hexDigit
      (Numeral.hexDigit?_of_isDigit (Numeral.isDigit_of_mem_toDigits hc))

/-- A block has a slash in its text. -/
theorem ofText?_eq_none {text : String} (h : '/' ∉ text.toList) : ofText? text = none := by
  unfold ofText? ofChars?
  rw [List.splitOn_eq_singleton h]

end Cidr

namespace Address

variable {a : Address} {text : String}

/-- What stands for no address is not read as one. -/
theorem allocated_of_read (h : Cidr.ofText? text ≠ none ∨ ofText? text ≠ none) :
    text ≠ "" ∧ text ≠ noneAllocated := by
  constructor
  · rintro rfl
    revert h
    decide
  · rintro rfl
    revert h
    decide

theorem readFrom_text (a : Address) : a.ReadFrom a.text := by
  have hread := a.ofText?_text
  obtain ⟨hempty, hnone⟩ := allocated_of_read (Or.inr (Option.ne_none_iff_exists'.mpr ⟨a, hread⟩))
  exact ⟨hempty, hnone, Or.inr ⟨Cidr.ofText?_eq_none a.slash_not_mem_text, hread⟩⟩

theorem readFrom_blockText (block : Cidr) : block.address.ReadFrom block.text := by
  have hread := block.ofText?_text
  obtain ⟨hempty, hnone⟩ :=
    allocated_of_read (Or.inl (Option.ne_none_iff_exists'.mpr ⟨block, hread⟩))
  exact ⟨hempty, hnone, Or.inl ⟨block, hread, rfl⟩⟩

/-- What is left of a written address without the blanks around it is read as the
address. -/
theorem Written.readFrom (h : a.Written text) : a.ReadFrom (Text.trim text) := by
  rcases h with ⟨before, core, after, rfl, hbefore, hafter, hcore⟩
  have hvisible : forall c, c ∈ core.toList -> Text.isBlank c = false := by
    rcases hcore with rfl | ⟨block, _, rfl⟩
    · exact fun _ => not_isBlank_of_mem_text
    · exact fun _ => Cidr.not_isBlank_of_mem_text
  have htrim : Text.trim (before ++ core ++ after) = core := by
    rw [Text.trim, String.toList_append, String.toList_append,
      Text.trimmed_between hbefore hvisible hafter, String.ofList_toList]
  rw [htrim]
  rcases hcore with rfl | ⟨block, rfl, rfl⟩
  · exact a.readFrom_text
  · exact readFrom_blockText block

end Address

/-!
# Fields of interfaces
-/

/-- The field for addresses of a family. -/
def Interface.addressText (i : Interface) : Family -> String
  | .v4 => i.address
  | .v6 => i.addressV6

namespace Endpoint

theorem addressOf?_eq_some {text : String} {a : Address} :
    addressOf? text = some a <-> a.ReadFrom (Text.trim text) := by
  unfold addressOf? Address.ReadFrom
  generalize Text.trim text = core
  by_cases hempty : core = ""
  · simp [hempty]
  · by_cases hnone : core = noneAllocated
    · simp [hnone]
    · cases hblock : Cidr.ofText? core with
      | none => simp [hempty, hnone, hblock]
      | some block => simp [hempty, hnone, hblock]

/-- An endpoint has an address of a family if its field for that family holds one. -/
theorem address?_eq_some {r : EndpointResource} {e : Endpoint} (h : r.Describes e) {f : Family}
    {a : Address} :
    e.address? f = some a <->
      a.family = f ∧ a.ReadFrom (Text.trim (r.spec.iface.addressText f)) := by
  rw [← addressOf?_eq_some]
  cases f with
  | v4 =>
      simp only [address?, h.ipv4, ipv4Of?, Interface.addressText]
      split
      · rename_i b hb
        cases a with
        | v4 address => simp [hb, Address.family]
        | v6 address => simp [Address.family]
      · rename_i hb
        cases a with
        | v4 address => simpa [Address.family] using hb address
        | v6 address => simp [Address.family]
  | v6 =>
      simp only [address?, h.ipv6, ipv6Of?, Interface.addressText]
      split
      · rename_i b hb
        cases a with
        | v4 address => simp [Address.family]
        | v6 address => simp [hb, Address.family]
      · rename_i hb
        cases a with
        | v4 address => simp [Address.family]
        | v6 address => simpa [Address.family] using hb address

end Endpoint

theorem exists_of_mem_listedEndpoints {resources : List EndpointResource} {e : Endpoint}
    (h : e ∈ listedEndpoints resources) :
    exists r, r ∈ resources ∧ Endpoint.ofResource r = .ok e := by
  unfold listedEndpoints at h
  rw [← keepFirst_eq Endpoint.uid] at h
  rcases List.mem_filterMap.mp ((keepFirst_sublist Endpoint.uid _).mem h) with ⟨r, hr, he⟩
  refine ⟨r, hr, ?_⟩
  cases hresult : Endpoint.ofResource r with
  | error error =>
      rw [hresult] at he
      cases he
  | ok found =>
      rw [hresult] at he
      cases he
      rfl

/-!
# Rules and their endpoints

Every rule of a chain is compiled for one endpoint.
-/

/-- The rules that an entry asks for, each with the endpoint that it is for. -/
def PolicyEntry.attributed (x : EndpointIndex) (ns : String) (c : ChainId)
    (entry : PolicyEntry) : List (Endpoint × Rule) :=
  (entry.endpoints x ns).flatMap fun e =>
    match e.hostNetwork? c.family with
    | none => []
    | some host => entry.demands.map fun m => (e, Rule.declared c.direction host m)

/-- The rules of a chain, each with the endpoint that it is for. -/
def attributedRules (policies : List Policy) (x : EndpointIndex) (mode : EntryMode)
    (c : ChainId) : List (Endpoint × Rule) :=
  policies.flatMap fun p =>
    (p.honoured mode c.direction).flatMap
      (PolicyEntry.attributed x (p.metadata.ns.getD "") c)

section Attributed

variable {policies : List Policy} {x : EndpointIndex} {mode : EntryMode} {c : ChainId}
variable {e : Endpoint} {rule : Rule}

theorem PolicyEntry.map_attributed (x : EndpointIndex) (ns : String) (c : ChainId)
    (entry : PolicyEntry) :
    (entry.attributed x ns c).map Prod.snd = entry.declaredRules x ns c := by
  unfold attributed declaredRules
  rw [List.map_flatMap]
  congr 1
  funext e
  cases e.hostNetwork? c.family with
  | none => rfl
  | some host => simp [Function.comp_def]

theorem map_attributedRules (policies : List Policy) (x : EndpointIndex) (netns : String)
    (mode : EntryMode) (c : ChainId) :
    (attributedRules policies x mode c).map Prod.snd =
      (compile policies x netns mode).rules c := by
  rw [rules_compile]
  unfold attributedRules
  simp only [List.map_flatMap, PolicyEntry.map_attributed]
  rfl

theorem mem_attributedRules :
    (e, rule) ∈ attributedRules policies x mode c <->
      exists p, p ∈ policies ∧ exists entry, entry ∈ p.honoured mode c.direction ∧
        e ∈ entry.endpoints x (p.metadata.ns.getD "") ∧
        exists a, e.address? c.family = some a ∧
          exists m, m ∈ entry.demands ∧ rule = Rule.declared c.direction (.host a) m := by
  have hentry : forall ns (entry : PolicyEntry), (e, rule) ∈ entry.attributed x ns c <->
      e ∈ entry.endpoints x ns ∧ exists a, e.address? c.family = some a ∧
        exists m, m ∈ entry.demands ∧ rule = Rule.declared c.direction (.host a) m := by
    intro ns entry
    unfold PolicyEntry.attributed
    simp only [List.mem_flatMap, Endpoint.hostNetwork?_eq]
    constructor
    · rintro ⟨e', he', h⟩
      cases haddress : e'.address? c.family with
      | none =>
          rw [haddress] at h
          cases h
      | some a =>
          rw [haddress] at h
          rcases List.mem_map.mp h with ⟨m, hm, heq⟩
          obtain ⟨rfl, rfl⟩ := Prod.mk.inj heq
          exact ⟨he', a, haddress, m, hm, rfl⟩
    · rintro ⟨he, a, haddress, m, hm, rfl⟩
      refine ⟨e, he, ?_⟩
      rw [haddress]
      exact List.mem_map.mpr ⟨m, hm, rfl⟩
  simp only [attributedRules, List.mem_flatMap, hentry]

/-- The rules for an endpoint name the host of its address of the family. -/
theorem host_of_mem_attributedRules (h : (e, rule) ∈ attributedRules policies x mode c)
    {a : Address} (ha : e.address? c.family = some a) :
    rule.source = (if c.direction = .ingress then some (.host a) else none) ∧
      rule.dest = (if c.direction = .egress then some (.host a) else none) := by
  rcases mem_attributedRules.mp h with ⟨_, _, _, _, _, b, hb, m, _, rfl⟩
  rw [ha, Option.some.injEq] at hb
  subst hb
  exact ⟨rfl, rfl⟩

theorem exists_resource_of_attributed {resources : List EndpointResource} {workloadUid : String}
    (h : (e, rule) ∈
      attributedRules policies (.ofResources resources workloadUid) mode c) :
    exists r, r ∈ resources ∧ Endpoint.ofResource r = .ok e := by
  rcases mem_attributedRules.mp h with ⟨_, _, _, _, he, _⟩
  have hlisted := (PolicyEntry.mem_endpoints (indexes_ofResources resources workloadUid)
    fun _ _ => listedEndpoints_injective).mp he
  exact exists_of_mem_listedEndpoints hlisted.left

end Attributed

/-!
# Hosts
-/

/-- Every compiled rule is for an endpoint that a resource of the listing describes.
If the field of a resource for a family holds an address of it, with any prefix
length or none and between any blanks, then this is the address of the endpoint,
and its rules in the chains of the family name this one host.  Only what is left of
a field without blanks, if it is read as a block or an address of the family, becomes
an address, and an endpoint without addresses has no rules in any chain. -/
theorem rules_name_written_hosts (policies : List Policy) (resources : List EndpointResource)
    (workloadUid netns : String) (mode : EntryMode) :
    let x := EndpointIndex.ofResources resources workloadUid
    let rules := attributedRules policies x mode
    (forall c, (rules c).map Prod.snd = (compile policies x netns mode).rules c) ∧
    (forall c e rule, (e, rule) ∈ rules c ->
      exists r, r ∈ resources ∧ Endpoint.ofResource r = .ok e) ∧
    (forall (r : EndpointResource) (a : Address),
      a.Written (r.spec.iface.addressText a.family) ->
      r.metadata.uid ≠ none -> r.metadata.ns ≠ none ->
      exists e, Endpoint.ofResource r = .ok e ∧ e.address? a.family = some a ∧
        forall d rule, (e, rule) ∈ rules ⟨d, a.family⟩ ->
          rule.source = (if d = .ingress then some (.host a) else none) ∧
          rule.dest = (if d = .egress then some (.host a) else none)) ∧
    (forall r e, Endpoint.ofResource r = .ok e ->
      (forall f a, e.address? f = some a <->
        a.family = f ∧ a.ReadFrom (Text.trim (r.spec.iface.addressText f))) ∧
      ((forall a : Address,
          ¬ a.ReadFrom (Text.trim (r.spec.iface.addressText a.family))) ->
        forall c rule, (e, rule) ∉ rules c)) := by
  intro x rules
  refine ⟨map_attributedRules policies x netns mode, ?_, ?_, ?_⟩
  · intro c e rule h
    exact exists_resource_of_attributed h
  · intro r a hwritten huid hns
    rcases Endpoint.exists_ofResource_iff.mpr ⟨huid, hns⟩ with ⟨e, he⟩
    have haddress : e.address? a.family = some a :=
      (Endpoint.address?_eq_some (Endpoint.ofResource_eq_ok_iff.mp he)).mpr
        ⟨rfl, hwritten.readFrom⟩
    exact ⟨e, he, haddress, fun _ _ h => host_of_mem_attributedRules h haddress⟩
  · intro r e he
    have haddress := @Endpoint.address?_eq_some r e (Endpoint.ofResource_eq_ok_iff.mp he)
    refine ⟨fun _ _ => haddress, ?_⟩
    intro hunread c rule h
    rcases mem_attributedRules.mp h with ⟨_, _, _, _, _, a, ha, _⟩
    obtain ⟨hfamily, hread⟩ := haddress.mp ha
    exact hunread a (hfamily ▸ hread)

/-- An address with a prefix length between blanks, and no address of the other
family: the rule for web servers names the host. -/
theorem rules_name_written_hosts_web :
    let web : Labels := SortedMap.ofList [("app", "web")]
    let peer : Peer := { podSelector := some (.ofLabels web) }
    let policy : Policy :=
      { metadata := { name := some "web", ns := some "default" },
        spec := { ingress := [{ peers := [peer] }] } }
    let resource : EndpointResource :=
      { metadata := { uid := some "e1", ns := some "default", labels := some web }
        spec := { iface := { address := " 10.0.0.5/24\t", addressV6 := "none" } } }
    let a : Address := .v4 ⟨10, 0, 0, 5⟩
    let x := EndpointIndex.ofResources [resource] "pod"
    a.Written resource.spec.iface.address ∧
    exists e rule, Endpoint.ofResource resource = .ok e ∧ e.address? .v4 = some a ∧
      (e, rule) ∈ attributedRules [policy] x .first ⟨.ingress, .v4⟩ ∧
      rule.source = some (.v4 ⟨10, 0, 0, 5⟩ 32) := by
  intro web peer policy resource a x
  have hwritten : a.Written resource.spec.iface.address :=
    ⟨" ", "10.0.0.5/24", "\t", rfl, List.all_eq_true.mp (by decide),
      List.all_eq_true.mp (by decide),
      Or.inr ⟨.v4 ⟨10, 0, 0, 5⟩ 24, rfl, by decide +kernel⟩⟩
  rcases rules_name_written_hosts [policy] [resource] "pod" "/run/netns/pod" .first with
    ⟨_, _, hhosts, _⟩
  rcases hhosts resource a hwritten (Option.some_ne_none _) (Option.some_ne_none _) with
    ⟨e, he, haddress, hrules⟩
  let entry : PolicyEntry := { peers := [peer] }
  have hselected : e ∈ entry.endpoints x "default" := by
    have hlisted : e ∈ listedEndpoints [resource] := by
      simp [listedEndpoints, he, Except.toOption, List.eraseDupsBy_cons]
    have hlabel : e.labels.get? "app" = some "web" := by
      rw [(Endpoint.ofResource_eq_ok_iff.mp he).labels]
      rfl
    exact (PolicyEntry.mem_endpoints (indexes_ofResources [resource] "pod")
      fun _ _ => listedEndpoints_injective).mpr
        ⟨hlisted, peer, List.mem_singleton.mpr rfl, Peer.selects_label_iff.mpr hlabel⟩
  have hrule : (e, Rule.declared .ingress (.host a) none) ∈
      attributedRules [policy] x .first ⟨.ingress, .v4⟩ :=
    mem_attributedRules.mpr ⟨policy, List.mem_singleton.mpr rfl, entry,
      List.mem_singleton.mpr rfl, hselected, a, haddress, none, List.mem_singleton.mpr rfl, rfl⟩
  exact ⟨hwritten, e, _, he, haddress, hrule, (hrules .ingress _ hrule).left⟩

end PodIsolation
