import PodIsolation.Buckets
import PodIsolation.Distinct
import PodIsolation.Resource.Policy

/-!
# Index of policies

## The policies that apply to a pod

A policy applies to a pod if the pod has one of the pairs that the selector of
the policy reduces to, or if it reduces to no pairs at all.  Policies whose
selector does not reduce are left out.
-/

namespace PodIsolation

structure PolicyIndex where
  policies : Array Policy := #[]
  byLabel : Buckets (String × String) := ∅
  unconditional : List Nat := []

namespace PolicyIndex

def add (x : PolicyIndex) (p : Policy) : PolicyIndex :=
  match p.spec.podSelector.reduce with
  | .error _ => x
  | .ok labels =>
      let position := x.policies.size
      { policies := x.policies.push p
        byLabel := x.byLabel.addUnder labels.entries position
        unconditional :=
          if labels.isEmpty then x.unconditional ++ [position] else x.unconditional }

def ofList (listing : List Policy) : PolicyIndex :=
  listing.foldl add {}

def size (x : PolicyIndex) : Nat :=
  x.policies.size

/-- The policies that apply to a pod with the given labels, each once: label by
label first, then those that apply to every pod. -/
def applicable (x : PolicyIndex) (labels : Labels) : List Policy :=
  let positions := labels.entries.flatMap x.byLabel.positions ++ x.unconditional
  keepFirst Policy.key (positions.filterMap fun i => x.policies[i]?)

end PolicyIndex

end PodIsolation
