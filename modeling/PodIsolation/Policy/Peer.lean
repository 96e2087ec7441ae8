import PodIsolation.Endpoint.Index
import PodIsolation.Resource.Policy

/-!
# Peers

## Endpoints that a peer selects

A peer selects endpoints by labels, by network, or by both.  An endpoint has to
have only one of the labels.  Of two criteria, one that selects no endpoint at
all does not constrain the other.
-/

namespace PodIsolation

/-- What a peer asks of an endpoint. -/
inductive PeerCriteria where
  | byLabels (labels : Labels)
  | byNetwork (network : PodNetwork)
  | byBoth (labels : Labels) (network : PodNetwork)
  | nothing
deriving DecidableEq

/-- The network that a selector names, as seen from a namespace. -/
def NetworkSelector.network? (ns : String) (s : NetworkSelector) : Option PodNetwork :=
  if s.name.isEmpty then none else some (.within s.name (.ofName s.kind) ns)

namespace PeerCriteria

/-- The criteria of a peer in a policy of the given namespace. -/
def ofPeer (ns : String) (p : Peer) : Except SelectorError PeerCriteria := do
  let wanted <- match p.podSelector with
    | some s => s.reduce
    | none => .ok ∅
  match wanted.isEmpty, p.networkSelector.bind (NetworkSelector.network? ns) with
  | false, none => return .byLabels wanted
  | true, some n => return .byNetwork n
  | false, some n => return .byBoth wanted n
  | true, none => return .nothing

/-- The endpoints with one of the labels, each once, by key and then in the
order of the listing. -/
def anyLabel (x : EndpointIndex) (labels : Labels) : List Endpoint :=
  keepFirst Endpoint.uid (labels.entries.flatMap fun pair => x.labeled pair.1 pair.2)

def resolve (x : EndpointIndex) : PeerCriteria -> List Endpoint
  | .byLabels labels => anyLabel x labels
  | .byNetwork network => x.attached network
  | .byBoth labels network =>
      let labeled := anyLabel x labels
      let attached := x.attached network
      if attached.isEmpty then labeled
      else if labeled.isEmpty then attached
      else labeled.filter fun e => (attached.map Endpoint.uid).contains e.uid
  | .nothing => []

end PeerCriteria

end PodIsolation
