import PodIsolation.PodNetwork
import PodIsolation.Rule.Chain
import PodIsolation.Resource.Endpoint
import PodIsolation.Text.Blank

/-!
# Endpoints

## Endpoints of workloads

An endpoint as rules are compiled for it: the pod it belongs to, its labels,
at most one address of each family, its network, and the network namespace of
its pod.
-/

namespace PodIsolation

/-- The pod behind an endpoint. -/
structure Workload where
  ns : String
  name : String
  uid : String
deriving DecidableEq, Repr

structure Endpoint where
  uid : String
  workload : Workload
  labels : Labels
  ipv4 : Option IPv4
  ipv6 : Option IPv6
  network : PodNetwork
  netns : String
deriving DecidableEq

namespace Endpoint

/-- The address of a family, if the endpoint has one. -/
def address? (e : Endpoint) : Family -> Option Address
  | .v4 => e.ipv4.map .v4
  | .v6 => e.ipv6.map .v6

/-!
## Conversion of endpoint resources

A resource without a unique id or a namespace is no endpoint.  Text that is no
address of the family of its field counts as no address.
-/

inductive Defect where
  | missingUid (name : String)
  | missingNamespace (name : String)
deriving DecidableEq, Repr

def Defect.message : Defect -> String
  | .missingUid name => "endpoint " ++ name ++ " has no uid"
  | .missingNamespace name => "endpoint " ++ name ++ " has no namespace"

/-- The address in a text, with or without a prefix length. -/
def addressOf? (text : String) : Option Address :=
  let text := Text.trim text
  if text.isEmpty || text == noneAllocated then none
  else match Cidr.ofText? text with
    | some block => some block.address
    | none => Address.ofText? text

def ipv4Of? (text : String) : Option IPv4 :=
  match addressOf? text with
  | some (.v4 a) => some a
  | _ => none

def ipv6Of? (text : String) : Option IPv6 :=
  match addressOf? text with
  | some (.v6 a) => some a
  | _ => none

def ofResource (r : EndpointResource) : Except Defect Endpoint :=
  let name := r.metadata.displayName
  match r.metadata.uid, r.metadata.ns with
  | none, _ => .error (.missingUid name)
  | some _, none => .error (.missingNamespace name)
  | some uid, some ns =>
      .ok {
        uid
        workload := { ns, name := r.spec.pod, uid := r.spec.podUid }
        labels := r.metadata.labels.getD ∅
        ipv4 := ipv4Of? r.spec.iface.address
        ipv6 := ipv6Of? r.spec.iface.addressV6
        network := .within r.spec.networkName (.ofName r.spec.apiType) ns
        netns := r.spec.netns }

end Endpoint

end PodIsolation
