import PodIsolation.Resource.Pod.Part

/-!
# Placement of pods

## Where a pod may run

Affinities to nodes and to other pods, tolerations, and how pods spread.
-/

namespace PodIsolation

namespace PodPart

def nodeTerm : List Member :=
  let requirement := texts ["key", "operator"] ++ textLists ["values"]
  [many "matchExpressions" requirement, many "matchFields" requirement]

def podTerm : List Member :=
  [one "labelSelector" labelSelector, one "namespaceSelector" labelSelector] ++
    textLists ["matchLabelKeys", "mismatchLabelKeys", "namespaces"] ++ texts ["topologyKey"]

/-- An affinity prefers some terms, by weight, and requires others. -/
def preferred (name : String) (term : List Member) : Member :=
  many "preferredDuringSchedulingIgnoredDuringExecution"
    (one name term :: int32s ["weight"])

def podAffinity : List Member :=
  [preferred "podAffinityTerm" podTerm,
    many "requiredDuringSchedulingIgnoredDuringExecution" podTerm]

def affinity : List Member :=
  [one "nodeAffinity"
      [preferred "preference" nodeTerm,
        one "requiredDuringSchedulingIgnoredDuringExecution"
          [many "nodeSelectorTerms" nodeTerm]],
    one "podAffinity" podAffinity, one "podAntiAffinity" podAffinity]

def toleration : List Member :=
  texts ["effect", "key", "operator", "value"] ++ int64s ["tolerationSeconds"]

def spread : List Member :=
  one "labelSelector" labelSelector :: textLists ["matchLabelKeys"] ++
    int32s ["maxSkew", "minDomains"] ++
    texts ["nodeAffinityPolicy", "nodeTaintsPolicy", "topologyKey", "whenUnsatisfiable"]

end PodPart

end PodIsolation
