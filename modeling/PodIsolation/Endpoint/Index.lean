import PodIsolation.Buckets
import PodIsolation.Distinct
import PodIsolation.Endpoint.Basic

/-!
# Index of endpoints

## The endpoints of a namespace

Endpoints are looked up by label, by network, and by the pod they belong to.
Of several endpoints with one unique id only the first is kept, and each
look-up yields endpoints in the order of the listing.
-/

namespace PodIsolation

structure EndpointIndex where
  endpoints : Array Endpoint := #[]
  byLabel : Buckets (String × String) := ∅
  byNetwork : Buckets PodNetwork := ∅
  ofWorkload : List Nat := []

namespace EndpointIndex

/-- Adds an endpoint that is not in the index yet. -/
def add (workloadUid : String) (x : EndpointIndex) (e : Endpoint) : EndpointIndex :=
  let position := x.endpoints.size
  { endpoints := x.endpoints.push e
    byLabel := x.byLabel.addUnder e.labels.entries position
    byNetwork := x.byNetwork.add e.network position
    ofWorkload :=
      if e.workload.uid = workloadUid then x.ofWorkload ++ [position] else x.ofWorkload }

/-- The index of a listing, from the point of view of one pod. -/
def ofList (listing : List Endpoint) (workloadUid : String) : EndpointIndex :=
  (keepFirst Endpoint.uid listing).foldl (add workloadUid) {}

/-- Resources that are no endpoints are left out. -/
def ofResources (resources : List EndpointResource) (workloadUid : String) :
    EndpointIndex :=
  ofList (resources.filterMap fun r => (Endpoint.ofResource r).toOption) workloadUid

def size (x : EndpointIndex) : Nat :=
  x.endpoints.size

/-- The endpoints at the given positions. -/
def select (x : EndpointIndex) (positions : List Nat) : List Endpoint :=
  positions.filterMap fun i => x.endpoints[i]?

def labeled (x : EndpointIndex) (key value : String) : List Endpoint :=
  x.select (x.byLabel.positions (key, value))

def attached (x : EndpointIndex) (network : PodNetwork) : List Endpoint :=
  x.select (x.byNetwork.positions network)

def workloadEndpoints (x : EndpointIndex) : List Endpoint :=
  x.select x.ofWorkload

/-- The network namespace of the pod: that of its first endpoint. -/
def netns? (x : EndpointIndex) : Option String :=
  x.workloadEndpoints.head?.map Endpoint.netns

end EndpointIndex

end PodIsolation
