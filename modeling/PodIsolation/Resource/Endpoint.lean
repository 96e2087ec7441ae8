import PodIsolation.Resource.Metadata

/-!
# Endpoint resources

## Endpoints as the cluster lists them

An endpoint connects a pod to a network.  Its addresses are free text, since
the allocator may write a sentinel or an address with a prefix length.
-/

namespace PodIsolation

structure Interface where
  name : String := ""
  address : String := ""
  addressV6 : String := ""
  macAddress : String := ""
  deviceId : String := ""
deriving DecidableEq

structure EndpointSpec where
  networkName : String := ""
  networkType : String := ""
  endpointId : String := ""
  pod : String := ""
  podUid : String := ""
  host : String := ""
  netns : String := ""
  iface : Interface := {}
  apiType : String := ""
deriving DecidableEq

structure EndpointResource where
  metadata : Metadata
  spec : EndpointSpec

/-- What stands in place of an address that was not allocated. -/
def noneAllocated : String := "none"

/-!
## Encoding
-/

def Interface.encode (i : Interface) : Json :=
  .object
    [("Name", .string i.name), ("Address", .string i.address),
      ("AddressIPv6", .string i.addressV6), ("MacAddress", .string i.macAddress),
      ("DeviceID", .string i.deviceId)]

def EndpointSpec.encode (s : EndpointSpec) : Json :=
  .object
    [("NetworkName", .string s.networkName), ("NetworkType", .string s.networkType),
      ("EndpointID", .string s.endpointId), ("Pod", .string s.pod),
      ("PodUID", .string s.podUid), ("Host", .string s.host),
      ("Netns", .string s.netns), ("Iface", s.iface.encode),
      ("ApiType", .string s.apiType)]

def EndpointResource.apiVersion : String := "danm.k8s.io/v1"
def EndpointResource.kind : String := "DanmEp"

def EndpointResource.encode (e : EndpointResource) : Json :=
  .object
    [("apiVersion", .string EndpointResource.apiVersion),
      ("kind", .string EndpointResource.kind),
      ("metadata", e.metadata.encode), ("spec", e.spec.encode)]

/-!
## Reading
-/

def Interface.reader : Json.Reader Interface :=
  Json.Reader.record { }
    [.defaulted "Name" .string fun v i => { i with name := v },
      .defaulted "Address" .string fun v i => { i with address := v },
      .defaulted "AddressIPv6" .string fun v i => { i with addressV6 := v },
      .defaulted "MacAddress" .string fun v i => { i with macAddress := v },
      .defaulted "DeviceID" .string fun v i => { i with deviceId := v }]

def EndpointSpec.reader : Json.Reader EndpointSpec :=
  Json.Reader.record { }
    [.defaulted "NetworkName" .string fun v s => { s with networkName := v },
      .defaulted "NetworkType" .string fun v s => { s with networkType := v },
      .defaulted "EndpointID" .string fun v s => { s with endpointId := v },
      .defaulted "Pod" .string fun v s => { s with pod := v },
      .defaulted "PodUID" .string fun v s => { s with podUid := v },
      .defaulted "Host" .string fun v s => { s with host := v },
      .defaulted "Netns" .string fun v s => { s with netns := v },
      .defaulted "Iface" Interface.reader fun v s => { s with iface := v },
      .defaulted "ApiType" .string fun v s => { s with apiType := v }]

def EndpointResource.reader : Json.Reader EndpointResource :=
  Json.Reader.record { metadata := {}, spec := {} }
    [.required "metadata" Metadata.reader fun v e => { e with metadata := v },
      .required "spec" EndpointSpec.reader fun v e => { e with spec := v }]

def EndpointResource.decode? (j : Json) : Option EndpointResource :=
  EndpointResource.reader.decode? j

end PodIsolation
