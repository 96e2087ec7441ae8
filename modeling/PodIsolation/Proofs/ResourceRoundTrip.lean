import PodIsolation.Proofs.MetadataRoundTrip
import PodIsolation.Resource.Endpoint
import PodIsolation.Resource.Policy

/-!
# Resources and their documents

## Encoding and reading back

Every value of a structure of the interface is read back from its document, and
from the list of the members of that document.
-/

namespace PodIsolation

open Json Json.Reader Json.Record

/-!
# Selectors
-/

theorem Operator.readsBack (op : Operator) (p : Place) :
    Operator.reader.ReadsBack p Operator.encode op :=
  congrArg Except.ok (Operator.ofName_name op)

theorem Requirement.recovers (r : Requirement) (p : Place) :
    Requirement.reader.Recovers ["key", "operator", "values"] p Requirement.encode r := by
  refine record_recovers (by decide)
    [.string r.key, r.operator.encode, Json.strings r.values.items] rfl rfl ?_
  refine readItems_cons (Field.required_readsBack (readsBack_string r.key) _ _) ?_
  refine readItems_cons (Field.required_readsBack (r.operator.readsBack _) _ _) ?_
  refine readItems_cons (Field.defaulted_readsBack (readsBack_set r.values) _ _) ?_
  rfl

theorem Selector.recovers (s : Selector) (p : Place) :
    Selector.reader.Recovers ["matchLabels", "matchExpressions"] p Selector.encode s := by
  refine record_recovers (by decide)
    [Json.nullable Metadata.encodeLabels s.labels,
      Json.nullable (fun rs => .list (rs.map Requirement.encode)) s.requirements] rfl rfl ?_
  refine readItems_cons (Field.optional_readsBack (fun _ _ => Json.noConfusion)
    (fun labels _ => readsBack_labels labels _) _ _) ?_
  refine readItems_cons (Field.optional_readsBack (fun _ _ => Json.noConfusion)
    (fun _ _ => .list fun r _ => (r.recovers _).named) _ _) ?_
  rfl

/-!
# Policies
-/

theorem PortSpec.readsBack (port : PortSpec) (p : Place) :
    PortSpec.reader.ReadsBack p PortSpec.encode port := by
  cases port with
  | number n =>
      have hread : int32 p (.ofJson (.int n.toInt)) = .ok n := readsBack_int32 n
      exact congrArg (Except.map PortSpec.number) hread
  | text s => rfl

theorem PortSpec.encode_ne_null (port : PortSpec) : port.encode ≠ .null := by
  cases port <;> exact Json.noConfusion

theorem PolicyPort.recovers (port : PolicyPort) (p : Place) :
    PolicyPort.reader.Recovers ["protocol", "port"] p PolicyPort.encode port := by
  refine record_recovers (by decide)
    [Json.nullable .string port.protocol, Json.nullable PortSpec.encode port.port] rfl rfl ?_
  refine readItems_cons (Field.optional_readsBack (fun _ _ => Json.noConfusion)
    (fun text _ => readsBack_string text) _ _) ?_
  refine readItems_cons (Field.optional_readsBack (fun port _ => port.encode_ne_null)
    (fun port _ => port.readsBack _) _ _) ?_
  rfl

theorem NetworkSelector.recovers (s : NetworkSelector) (p : Place) :
    NetworkSelector.reader.Recovers ["name", "type"] p NetworkSelector.encode s := by
  refine record_recovers (by decide) [.string s.name, .string s.kind] rfl rfl ?_
  refine readItems_cons (Field.defaulted_readsBack (readsBack_string s.name) _ _) ?_
  refine readItems_cons (Field.defaulted_readsBack (readsBack_string s.kind) _ _) ?_
  rfl

theorem Peer.recovers (peer : Peer) (p : Place) :
    Peer.reader.Recovers ["podSelector", "namespaceSelector", "networkSelector"] p
      Peer.encode peer := by
  refine record_recovers (by decide)
    [Json.nullable Selector.encode peer.podSelector,
      Json.nullable Selector.encode peer.namespaceSelector,
      Json.nullable NetworkSelector.encode peer.networkSelector] rfl rfl ?_
  refine readItems_cons (Field.optional_readsBack (fun _ _ => Json.noConfusion)
    (fun s _ => (s.recovers _).named) _ _) ?_
  refine readItems_cons (Field.optional_readsBack (fun _ _ => Json.noConfusion)
    (fun s _ => (s.recovers _).named) _ _) ?_
  refine readItems_cons (Field.optional_readsBack (fun _ _ => Json.noConfusion)
    (fun s _ => (s.recovers _).named) _ _) ?_
  rfl

theorem PolicyEntry.recovers {peersName : String} (hname : "ports" ≠ peersName)
    (e : PolicyEntry) (p : Place) :
    (PolicyEntry.reader peersName).Recovers ["ports", peersName] p
      (PolicyEntry.encode peersName) e := by
  refine record_recovers ?_
    [.list (e.ports.map PolicyPort.encode), .list (e.peers.map Peer.encode)] rfl rfl ?_
  · simpa [Field.defaulted] using hname
  · refine readItems_cons (Field.defaulted_readsBack
      (.list fun port _ => (port.recovers _).named) _ _) ?_
    refine readItems_cons (Field.defaulted_readsBack
      (.list fun peer _ => (peer.recovers _).named) _ _) ?_
    rfl

theorem PolicySpec.recovers (s : PolicySpec) (p : Place) :
    PolicySpec.reader.Recovers ["podSelector", "ingress", "egress", "policyTypes"] p
      PolicySpec.encode s := by
  have hentries : forall peersName, "ports" ≠ peersName -> forall (entries : List PolicyEntry) p,
      (Reader.list (PolicyEntry.reader peersName)).ReadsBack p
        (fun entries => .list (entries.map (PolicyEntry.encode peersName))) entries :=
    fun peersName hname entries p => .list fun e _ => (e.recovers hname _).named
  refine record_recovers (by decide)
    [s.podSelector.encode, .list (s.ingress.map (PolicyEntry.encode "from")),
      .list (s.egress.map (PolicyEntry.encode "to")), Json.strings s.policyTypes] rfl rfl ?_
  refine readItems_cons (Field.defaulted_readsBack (s.podSelector.recovers _).named _ _) ?_
  refine readItems_cons (Field.defaulted_readsBack
    (hentries "from" (by decide) s.ingress _) _ _) ?_
  refine readItems_cons (Field.defaulted_readsBack
    (hentries "to" (by decide) s.egress _) _ _) ?_
  refine readItems_cons (Field.defaulted_readsBack
    (.list fun text _ => readsBack_string text) _ _) ?_
  rfl

/-!
# Endpoints
-/

theorem Interface.recovers (i : Interface) (p : Place) :
    Interface.reader.Recovers ["Name", "Address", "AddressIPv6", "MacAddress", "DeviceID"] p
      Interface.encode i := by
  refine record_recovers (by decide)
    [.string i.name, .string i.address, .string i.addressV6, .string i.macAddress,
      .string i.deviceId] rfl rfl ?_
  rfl

theorem EndpointSpec.recovers (s : EndpointSpec) (p : Place) :
    EndpointSpec.reader.Recovers
      ["NetworkName", "NetworkType", "EndpointID", "Pod", "PodUID", "Host", "Netns", "Iface",
        "ApiType"] p EndpointSpec.encode s := by
  refine record_recovers (by decide)
    [.string s.networkName, .string s.networkType, .string s.endpointId, .string s.pod,
      .string s.podUid, .string s.host, .string s.netns, s.iface.encode, .string s.apiType]
    rfl rfl ?_
  rfl

/-!
# Whole resources

All resources are read alike.  Version and kind are written, and passed over by
the reader.
-/

section Resource

variable {R U : Type} {empty : R} {setMetadata : Metadata -> R -> R} {setSpec : U -> R -> R}
variable {specReader : Json.Reader U} {p : Place}

/-- The reader of a resource that is made of metadata and of a specification. -/
def resourceReader (empty : R) (setMetadata : Metadata -> R -> R) (specReader : Json.Reader U)
    (setSpec : U -> R -> R) : Json.Reader R :=
  record empty
    [.required "metadata" Metadata.reader setMetadata, .required "spec" specReader setSpec]

theorem resource_recovers (version kind : String) {encode : R -> Json}
    {encodeSpec : U -> Json} {metadata : Metadata} {spec : U} {resource : R}
    (hencode : encode resource = .object
      [("apiVersion", .string version), ("kind", .string kind), ("metadata", metadata.encode),
        ("spec", encodeSpec spec)])
    (hresource : setSpec spec (setMetadata metadata empty) = resource)
    (hplain : metadata.IsPlain p.inner.inner.inner.inner.levels)
    (hspec : specReader.ReadsBack p.inner encodeSpec spec) :
    (resourceReader empty setMetadata specReader setSpec).Recovers ["metadata", "spec"] p encode
      resource := by
  have hrecord : (resourceReader empty setMetadata specReader setSpec).Recovers
      ["metadata", "spec"] p
      (fun _ => .object [("metadata", metadata.encode), ("spec", encodeSpec spec)]) resource := by
    refine record_recovers (by simp [Field.required]) [metadata.encode, encodeSpec spec] rfl rfl ?_
    refine readItems_cons (Field.required_readsBack (Metadata.readsBack hplain) _ _) ?_
    refine readItems_cons (Field.required_readsBack hspec _ _) ?_
    exact congrArg Except.ok hresource
  constructor
  · refine Eq.trans ?_ hrecord.named
    unfold ReadsBack resourceReader at *
    rw [hencode, record_undeclared rfl, record_undeclared rfl]
  · rw [hencode]
    exact hrecord.listed

/-- The metadata of a resource that has been read is plain. -/
theorem isPlain_of_resourceReader (metadata : R -> Metadata) (hempty : metadata empty = {})
    (hmetadata : forall m r, metadata (setMetadata m r) = m)
    (hspec : forall u r, metadata (setSpec u r) = metadata r) (hheld : p.held = false)
    {d : Draft} {resource : R}
    (h : resourceReader empty setMetadata specReader setSpec p d = .ok resource) :
    (metadata resource).IsPlain p.inner.inner.inner.inner.levels := by
  have hinner : p.inner.held = false := hheld
  refine record_keeps (P := fun r => (metadata r).IsPlain p.inner.inner.inner.inner.levels)
    ?_ ?_ h
  · rw [hempty]
    intro managers hmanagers
    cases hmanagers
  · simp only [List.forall_mem_cons]
    refine ⟨?_, ?_, fun _ h => nomatch h⟩
    · apply Field.required_keeps
      intro d m r hm _
      rw [hmetadata]
      exact Metadata.isPlain_of_reader hinner hm
    · apply Field.required_keeps
      intro d u r _ hr
      rw [hspec]
      exact hr

end Resource

theorem Policy.recovers (policy : Policy) (p : Place)
    (hplain : policy.metadata.IsPlain p.inner.inner.inner.inner.levels) :
    Policy.reader.Recovers ["metadata", "spec"] p Policy.encode policy :=
  resource_recovers Policy.apiVersion Policy.kind rfl rfl hplain (policy.spec.recovers _).named

theorem EndpointResource.recovers (e : EndpointResource) (p : Place)
    (hplain : e.metadata.IsPlain p.inner.inner.inner.inner.levels) :
    EndpointResource.reader.Recovers ["metadata", "spec"] p EndpointResource.encode e :=
  resource_recovers EndpointResource.apiVersion EndpointResource.kind rfl rfl hplain
    (e.spec.recovers _).named

theorem Policy.isPlain_of_reader {policy : Policy} {p : Place} {d : Draft}
    (hheld : p.held = false) (h : Policy.reader p d = .ok policy) :
    policy.metadata.IsPlain p.inner.inner.inner.inner.levels := by
  refine isPlain_of_resourceReader Policy.metadata rfl ?_ ?_ hheld h
  · intro _ _
    rfl
  · intro _ _
    rfl

theorem EndpointResource.isPlain_of_reader {e : EndpointResource} {p : Place} {d : Draft}
    (hheld : p.held = false) (h : EndpointResource.reader p d = .ok e) :
    e.metadata.IsPlain p.inner.inner.inner.inner.levels := by
  refine isPlain_of_resourceReader EndpointResource.metadata rfl ?_ ?_ hheld h
  · intro _ _
    rfl
  · intro _ _
    rfl

/-!
# The structures of the interface
-/

/-- The structures that resources are made of, and the resources themselves. -/
inductive ApiStruct where
  | policy
  | policySpec
  | ingressRule
  | egressRule
  | peer
  | networkSelector
  | policyPort
  | selector
  | requirement
  | endpoint
  | endpointSpec
  | interface

namespace ApiStruct

def Value : ApiStruct -> Type
  | policy => Policy
  | policySpec => PolicySpec
  | ingressRule => PolicyEntry
  | egressRule => PolicyEntry
  | peer => Peer
  | networkSelector => NetworkSelector
  | policyPort => PolicyPort
  | selector => Selector
  | requirement => Requirement
  | endpoint => EndpointResource
  | endpointSpec => EndpointSpec
  | interface => Interface

/-- The names of the members, in the order of their declaration. -/
def names : ApiStruct -> List String
  | policy => ["metadata", "spec"]
  | policySpec => ["podSelector", "ingress", "egress", "policyTypes"]
  | ingressRule => ["ports", "from"]
  | egressRule => ["ports", "to"]
  | peer => ["podSelector", "namespaceSelector", "networkSelector"]
  | networkSelector => ["name", "type"]
  | policyPort => ["protocol", "port"]
  | selector => ["matchLabels", "matchExpressions"]
  | requirement => ["key", "operator", "values"]
  | endpoint => ["metadata", "spec"]
  | endpointSpec =>
      ["NetworkName", "NetworkType", "EndpointID", "Pod", "PodUID", "Host", "Netns", "Iface",
        "ApiType"]
  | interface => ["Name", "Address", "AddressIPv6", "MacAddress", "DeviceID"]

def encode : (s : ApiStruct) -> s.Value -> Json
  | policy => Policy.encode
  | policySpec => PolicySpec.encode
  | ingressRule => PolicyEntry.encode "from"
  | egressRule => PolicyEntry.encode "to"
  | peer => Peer.encode
  | networkSelector => NetworkSelector.encode
  | policyPort => PolicyPort.encode
  | selector => Selector.encode
  | requirement => Requirement.encode
  | endpoint => EndpointResource.encode
  | endpointSpec => EndpointSpec.encode
  | interface => Interface.encode

def reader : (s : ApiStruct) -> Json.Reader s.Value
  | policy => Policy.reader
  | policySpec => PolicySpec.reader
  | ingressRule => PolicyEntry.reader "from"
  | egressRule => PolicyEntry.reader "to"
  | peer => Peer.reader
  | networkSelector => NetworkSelector.reader
  | policyPort => PolicyPort.reader
  | selector => Selector.reader
  | requirement => Requirement.reader
  | endpoint => EndpointResource.reader
  | endpointSpec => EndpointSpec.reader
  | interface => Interface.reader

def decode? (s : ApiStruct) (j : Json) : Option s.Value :=
  s.reader.decode? j

/-- The metadata of a resource; other structures have none. -/
def metadata? : (s : ApiStruct) -> s.Value -> Option Metadata
  | policy, v => some (Policy.metadata v)
  | endpoint, v => some (EndpointResource.metadata v)
  | _, _ => none

/-- The levels that are left for the raw documents within the metadata of a
resource. -/
def rawLevels : Nat :=
  levelLimit - 4

/-- The raw documents within the metadata, if there are any, can be read back. -/
def IsPlain (s : ApiStruct) (v : s.Value) : Prop :=
  forall m, s.metadata? v = some m -> m.IsPlain rawLevels

theorem recovers (s : ApiStruct) (v : s.Value) (h : s.IsPlain v) :
    s.reader.Recovers s.names {} s.encode v := by
  cases s with
  | policy => exact Policy.recovers v {} (h _ rfl)
  | policySpec => exact PolicySpec.recovers v {}
  | ingressRule => exact PolicyEntry.recovers (by decide) v {}
  | egressRule => exact PolicyEntry.recovers (by decide) v {}
  | peer => exact Peer.recovers v {}
  | networkSelector => exact NetworkSelector.recovers v {}
  | policyPort => exact PolicyPort.recovers v {}
  | selector => exact Selector.recovers v {}
  | requirement => exact Requirement.recovers v {}
  | endpoint => exact EndpointResource.recovers v {} (h _ rfl)
  | endpointSpec => exact EndpointSpec.recovers v {}
  | interface => exact Interface.recovers v {}

/-- With all members in the order of their declaration, objects and lists are
read alike, whatever the members are. -/
theorem decode?_object_eq_list (s : ApiStruct) {values : List Json}
    (h : values.length = s.names.length) :
    s.decode? (.object (s.names.zip values)) = s.decode? (.list values) := by
  apply congrArg Except.toOption
  cases s <;> exact record_object_eq_list (by decide) _ _ h

/-- A value that has been read is plain. -/
theorem isPlain_of_decode? (s : ApiStruct) {j : Json} {v : s.Value} (h : s.decode? j = some v) :
    s.IsPlain v := by
  have hread : s.reader {} (.ofJson j) = .ok v := by
    unfold decode? Reader.decode? at h
    cases hresult : s.reader {} (.ofJson j) with
    | error fault =>
        rw [hresult] at h
        cases h
    | ok w =>
        rw [hresult] at h
        cases h
        rfl
  cases s with
  | policy =>
      rintro m ⟨⟩
      exact Policy.isPlain_of_reader rfl hread
  | endpoint =>
      rintro m ⟨⟩
      exact EndpointResource.isPlain_of_reader rfl hread
  | _ =>
      intro m hm
      cases hm

/-- Every value is read back from its document, and from the list of its members.
Whatever document is accepted, encoding the value that was read yields a document
that is read as this value, and so is encoded again to itself.  With all members,
an object is read like the list of its members. -/
theorem round_trips (s : ApiStruct) :
    (forall v : s.Value, s.IsPlain v ->
      s.decode? (s.encode v) = some v ∧
      s.decode? ((s.encode v).positional s.names) = some v) ∧
    (forall j v, s.decode? j = some v ->
      s.decode? (s.encode v) = some v ∧
      s.decode? ((s.encode v).positional s.names) = some v ∧
      (s.decode? (s.encode v)).map s.encode = some (s.encode v)) ∧
    (forall values : List Json, values.length = s.names.length ->
      s.decode? (.list values) = s.decode? (.object (s.names.zip values))) := by
  have hback : forall v, s.IsPlain v -> s.decode? (s.encode v) = some v ∧
      s.decode? ((s.encode v).positional s.names) = some v := by
    intro v hplain
    rcases s.recovers v hplain with ⟨hnamed, hlisted⟩
    exact ⟨congrArg Except.toOption hnamed, congrArg Except.toOption hlisted⟩
  refine ⟨hback, ?_, ?_⟩
  · intro j v hread
    rcases hback v (s.isPlain_of_decode? hread) with ⟨hnamed, hlisted⟩
    refine ⟨hnamed, hlisted, ?_⟩
    rw [hnamed]
    rfl
  · intro values hlength
    exact (s.decode?_object_eq_list hlength).symm

/-- A policy with an operator that is not known, with a number and a text for
ports, and with a raw document of a manager of its fields. -/
def managedPolicy : Policy where
  metadata :=
    { name := some "web"
      labels := some (.ofList [("tier", "front"), ("app", "web")])
      managedFields := some [{ fieldsV1 := some (.object [("f:spec", .object [])]) }] }
  spec :=
    { podSelector :=
        { requirements := some
            [{ key := "app", operator := .unknown, values := .ofList ["b", "a"] }] }
      ingress :=
        [{ ports := [{ port := some (.number 80) }, { port := some (.text "dns") }]
           peers := [{ networkSelector := some { name := "front" } }] }] }

theorem round_trips_managed_policy :
    policy.IsPlain managedPolicy ∧
    policy.decode? (policy.encode managedPolicy) = some managedPolicy ∧
    policy.decode? ((policy.encode managedPolicy).positional policy.names) =
      some managedPolicy := by
  have hplain : policy.IsPlain managedPolicy := by
    rintro m ⟨⟩ managers ⟨⟩ f hf j hj
    cases List.mem_singleton.mp hf
    cases hj
    refine ⟨Json.noConfusion, .object (by decide) (by decide) ?_⟩
    intro member hmember
    cases List.mem_singleton.mp hmember
    exact .object (by decide) (by decide) (fun _ h => absurd h List.not_mem_nil)
  exact ⟨hplain, (round_trips policy).left managedPolicy hplain⟩

end ApiStruct

end PodIsolation
