import PodIsolation.Resource.Selector

/-!
# Network policies

## Policies and their entries

A policy selects pods and lists entries for traffic to them and from them.
Each entry names peers and the ports that these may use.  Port numbers are not
checked here: a policy may ask for a port that no packet can have.
-/

namespace PodIsolation

/-- A port as a policy gives it. -/
inductive PortSpec where
  | number (n : Int32)
  | text (s : String)
deriving DecidableEq

structure PolicyPort where
  protocol : Option String := none
  port : Option PortSpec := none
deriving DecidableEq

/-- A pod network by its name and kind; no name selects no network. -/
structure NetworkSelector where
  name : String := ""
  kind : String := ""
deriving DecidableEq

structure Peer where
  podSelector : Option Selector := none
  namespaceSelector : Option Selector := none
  networkSelector : Option NetworkSelector := none
deriving DecidableEq

structure PolicyEntry where
  ports : List PolicyPort := []
  peers : List Peer := []
deriving DecidableEq

structure PolicySpec where
  podSelector : Selector := {}
  ingress : List PolicyEntry := []
  egress : List PolicyEntry := []
  policyTypes : List String := []
deriving DecidableEq

structure Policy where
  metadata : Metadata
  spec : PolicySpec

namespace Policy

def name (p : Policy) : String :=
  p.metadata.displayName

/-- What tells policies apart: the unique id, or the name if there is none. -/
def key (p : Policy) : String :=
  p.metadata.uid.getD p.name

end Policy

/-!
## Encoding

Every member of the specification is written, and null stands for what is not
given.
-/

def PortSpec.encode : PortSpec -> Json
  | .number n => .int n.toInt
  | .text s => .string s

def PolicyPort.encode (p : PolicyPort) : Json :=
  .object
    [("protocol", Json.nullable .string p.protocol),
      ("port", Json.nullable PortSpec.encode p.port)]

def NetworkSelector.encode (s : NetworkSelector) : Json :=
  .object [("name", .string s.name), ("type", .string s.kind)]

def Peer.encode (p : Peer) : Json :=
  .object
    [("podSelector", Json.nullable Selector.encode p.podSelector),
      ("namespaceSelector", Json.nullable Selector.encode p.namespaceSelector),
      ("networkSelector", Json.nullable NetworkSelector.encode p.networkSelector)]

/-- The name of the member that holds the peers depends on the direction. -/
def PolicyEntry.encode (peersName : String) (e : PolicyEntry) : Json :=
  .object
    [("ports", .list (e.ports.map PolicyPort.encode)),
      (peersName, .list (e.peers.map Peer.encode))]

def PolicySpec.encode (s : PolicySpec) : Json :=
  .object
    [("podSelector", s.podSelector.encode),
      ("ingress", .list (s.ingress.map (PolicyEntry.encode "from"))),
      ("egress", .list (s.egress.map (PolicyEntry.encode "to"))),
      ("policyTypes", Json.strings s.policyTypes)]

def Policy.apiVersion : String := "netpol.k8s.io/v1"
def Policy.kind : String := "DanmNetworkPolicy"

def Policy.encode (p : Policy) : Json :=
  .object
    [("apiVersion", .string Policy.apiVersion), ("kind", .string Policy.kind),
      ("metadata", p.metadata.encode), ("spec", p.spec.encode)]

/-!
## Reading
-/

/-- A whole number of 32 bits, or any text. -/
def PortSpec.reader : Json.Reader PortSpec
  | p, .string s => Json.Reader.string.map PortSpec.text p (.string s)
  | p, d => Json.Reader.int32.map PortSpec.number p d

def PolicyPort.reader : Json.Reader PolicyPort :=
  Json.Reader.record { }
    [.optional "protocol" .string fun v p => { p with protocol := v },
      .optional "port" PortSpec.reader fun v p => { p with port := v }]

def NetworkSelector.reader : Json.Reader NetworkSelector :=
  Json.Reader.record { }
    [.defaulted "name" .string fun v s => { s with name := v },
      .defaulted "type" .string fun v s => { s with kind := v }]

def Peer.reader : Json.Reader Peer :=
  Json.Reader.record { }
    [.optional "podSelector" Selector.reader fun v p => { p with podSelector := v },
      .optional "namespaceSelector" Selector.reader fun v p =>
        { p with namespaceSelector := v },
      .optional "networkSelector" NetworkSelector.reader fun v p =>
        { p with networkSelector := v }]

def PolicyEntry.reader (peersName : String) : Json.Reader PolicyEntry :=
  Json.Reader.record { }
    [.defaulted "ports" (.list PolicyPort.reader) fun v e => { e with ports := v },
      .defaulted peersName (.list Peer.reader) fun v e => { e with peers := v }]

def PolicySpec.reader : Json.Reader PolicySpec :=
  Json.Reader.record { }
    [.defaulted "podSelector" Selector.reader fun v s => { s with podSelector := v },
      .defaulted "ingress" (.list (PolicyEntry.reader "from")) fun v s =>
        { s with ingress := v },
      .defaulted "egress" (.list (PolicyEntry.reader "to")) fun v s => { s with egress := v },
      .defaulted "policyTypes" (.list .string) fun v s => { s with policyTypes := v }]

def Policy.reader : Json.Reader Policy :=
  Json.Reader.record { metadata := {}, spec := {} }
    [.required "metadata" Metadata.reader fun v p => { p with metadata := v },
      .required "spec" PolicySpec.reader fun v p => { p with spec := v }]

def Peer.decode? (j : Json) : Option Peer :=
  Peer.reader.decode? j

def Policy.decode? (j : Json) : Option Policy :=
  Policy.reader.decode? j

end PodIsolation
