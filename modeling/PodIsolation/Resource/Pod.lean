import PodIsolation.Resource.Pod.Container
import PodIsolation.Resource.Pod.Placement
import PodIsolation.Resource.Pod.Status
import PodIsolation.Resource.Pod.Volume

/-!
# Pods

## Pods as the cluster lists them

Of a pod, only its metadata and the node it runs on matter here.  The version
and the kind, if they are given, must be those of a pod, and all else that is
given must be of the right kind.
-/

namespace PodIsolation

structure PodSpec where
  nodeName : Option String := none
deriving DecidableEq

structure Pod where
  metadata : Metadata := {}
  spec : Option PodSpec := none

/-- The node that the pod is bound to, if any. -/
def Pod.nodeName (p : Pod) : Option String :=
  p.spec.bind PodSpec.nodeName

def Pod.labels (p : Pod) : Labels :=
  p.metadata.labels.getD ∅

/-!
## Reading
-/

namespace PodPart

def podSecurity : List Member :=
  int64s ["fsGroup", "runAsGroup", "runAsUser"] ++ flags ["runAsNonRoot"] ++
    texts ["fsGroupChangePolicy", "seLinuxChangePolicy", "supplementalGroupsPolicy"] ++
    each (.list .int64) ["supplementalGroups"] ++
    [one "appArmorProfile" localProfile, one "seLinuxOptions" linuxOptions,
      one "seccompProfile" localProfile, many "sysctls" (texts ["name", "value"]),
      one "windowsOptions" windowsOptions]

/-- The members of a specification other than the name of the node. -/
def spec : List Member :=
  int64s ["activeDeadlineSeconds", "terminationGracePeriodSeconds"] ++
    int32s ["priority"] ++
    flags ["automountServiceAccountToken", "enableServiceLinks", "hostIPC", "hostNetwork",
      "hostPID", "hostUsers", "setHostnameAsFQDN", "shareProcessNamespace"] ++
    texts ["dnsPolicy", "hostname", "preemptionPolicy", "priorityClassName",
      "restartPolicy", "runtimeClassName", "schedulerName", "serviceAccount",
      "serviceAccountName", "subdomain"] ++
    textMaps ["nodeSelector", "overhead"] ++
    [one "affinity" affinity, many "containers" container,
      one "dnsConfig"
        (textLists ["nameservers", "searches"] ++ [many "options" (texts ["name", "value"])]),
      many "ephemeralContainers" addedContainer,
      many "hostAliases" (textLists ["hostnames"] ++ texts ["ip"]),
      many "imagePullSecrets" localReference, many "initContainers" container,
      one "os" (texts ["name"]), many "readinessGates" (texts ["conditionType"]),
      many "resourceClaims" (texts ["name", "resourceClaimName", "resourceClaimTemplateName"]),
      one "resources" resources, many "schedulingGates" (texts ["name"]),
      one "securityContext" podSecurity, many "tolerations" toleration,
      many "topologySpreadConstraints" spread, many "volumes" volume]

end PodPart

/-- A member of a part, as a member of a record that it does not change. -/
def PodPart.Member.within (m : PodPart.Member) : Json.Field S where
  name := m.name
  mayBeUnnamed := m.mayBeUnnamed
  mayBeCutOff := m.mayBeCutOff
  read p d s := (m.read p d ()).map fun _ => s

def PodSpec.reader : Json.Reader PodSpec :=
  Json.Reader.object { }
    (.optional "nodeName" .string (fun v s => { s with nodeName := v }) ::
      PodPart.spec.map PodPart.Member.within)

def Pod.reader : Json.Reader Pod :=
  Json.Reader.object { }
    [.defaulted "apiVersion" (.constant "v1") fun _ p => p,
      .defaulted "kind" (.constant "Pod") fun _ p => p,
      .optional "metadata" Metadata.reader fun v p => { p with metadata := v.getD {} },
      .optional "spec" PodSpec.reader fun v p => { p with spec := v },
      .checked "status" (PodPart.reader PodPart.status)]

def Pod.decode? (j : Json) : Option Pod :=
  Pod.reader.decode? j

end PodIsolation
