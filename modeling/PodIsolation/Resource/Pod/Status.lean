import PodIsolation.Resource.Pod.Part

/-!
# Status of pods

## What the cluster reports of a pod
-/

namespace PodIsolation

namespace PodPart

def condition : List Member :=
  times ["lastProbeTime", "lastTransitionTime"] ++ int64s ["observedGeneration"] ++
    texts ["message", "reason", "status", "type"]

def containerState : List Member :=
  [one "running" (times ["startedAt"]),
    one "terminated"
      (texts ["containerID", "message", "reason"] ++ int32s ["exitCode", "signal"] ++
        times ["finishedAt", "startedAt"]),
    one "waiting" (texts ["message", "reason"])]

def containerStatus : List Member :=
  textMaps ["allocatedResources"] ++
    texts ["containerID", "image", "imageID", "name", "stopSignal"] ++
    flags ["ready", "started"] ++ int32s ["restartCount"] ++
    [many "allocatedResourcesStatus"
        (texts ["name"] ++ [many "resources" (texts ["health", "resourceID"])]),
      one "lastState" containerState, one "resources" resources, one "state" containerState,
      one "user"
        [one "linux" (int64s ["gid", "uid"] ++ each (.list .int64) ["supplementalGroups"])],
      many "volumeMounts"
        (texts ["mountPath", "name", "recursiveReadOnly"] ++ flags ["readOnly"])]

def status : List Member :=
  texts ["hostIP", "message", "nominatedNodeName", "phase", "podIP", "qosClass", "reason",
      "resize"] ++
    int64s ["observedGeneration"] ++ times ["startTime"] ++
    [many "conditions" condition, many "containerStatuses" containerStatus,
      many "ephemeralContainerStatuses" containerStatus,
      many "initContainerStatuses" containerStatus, many "hostIPs" (texts ["ip"]),
      many "podIPs" (texts ["ip"]),
      many "resourceClaimStatuses" (texts ["name", "resourceClaimName"])]

end PodPart

end PodIsolation
