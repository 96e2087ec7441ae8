/-!
# Networks of pods

## References

An endpoint is attached to a network of the cluster.  A network is known by its
name, its kind, and its namespace; networks of the cluster-wide kind have no
namespace, so their names alone tell them apart.
-/

namespace PodIsolation

inductive NetworkKind where
  | danmNet
  | tenant
  | cluster
  | other (name : String)
deriving DecidableEq, Hashable, Repr

namespace NetworkKind

/-- The kind that a resource names; no name means the namespaced default. -/
def ofName : String -> NetworkKind
  | "" => .danmNet
  | "DanmNet" => .danmNet
  | "TenantNetwork" => .tenant
  | "ClusterNetwork" => .cluster
  | name => .other name

def name : NetworkKind -> String
  | .danmNet => "DanmNet"
  | .tenant => "TenantNetwork"
  | .cluster => "ClusterNetwork"
  | .other name => name

def isClusterScoped : NetworkKind -> Bool
  | .cluster => true
  | _ => false

def rank : NetworkKind -> Nat
  | .danmNet => 0
  | .tenant => 1
  | .cluster => 2
  | .other _ => 3

/-- The known kinds in order, then all others by name. -/
def order (k l : NetworkKind) : Ordering :=
  match k, l with
  | .other k, .other l => compare k l
  | k, l => compare k.rank l.rank

end NetworkKind

structure PodNetwork where
  name : String
  kind : NetworkKind
  ns : Option String
deriving DecidableEq, Hashable, Repr

namespace PodNetwork

/-- The network of a name as seen from a namespace. -/
def within (name : String) (kind : NetworkKind) (scope : String) : PodNetwork where
  name := name
  kind := kind
  ns := if kind.isClusterScoped then none else some scope

def text (n : PodNetwork) : String :=
  match n.ns with
  | some ns => n.kind.name ++ "/" ++ ns ++ "." ++ n.name
  | none => n.kind.name ++ "/" ++ n.name

/-- No namespace comes before every namespace. -/
def orderNamespace : Option String -> Option String -> Ordering
  | none, none => .eq
  | none, some _ => .lt
  | some _, none => .gt
  | some a, some b => compare a b

/-- By name, then kind, then namespace. -/
def order (m n : PodNetwork) : Ordering :=
  (compare m.name n.name).then
    ((m.kind.order n.kind).then (orderNamespace m.ns n.ns))

def sortedDistinct (networks : List PodNetwork) : List PodNetwork :=
  (networks.mergeSort fun m n => (m.order n).isLE).eraseDups

end PodNetwork

end PodIsolation
