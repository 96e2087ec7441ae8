import PodIsolation.Resource.Pod.Part

/-!
# Containers of pods

## What a container says

The members of containers, of those that a pod starts with and of those that are
added later.
-/

namespace PodIsolation

namespace PodPart

def keyReference : List Member :=
  texts ["key", "name"] ++ flags ["optional"]

def environmentVariable : List Member :=
  texts ["name", "value"] ++
    [one "valueFrom"
      [one "configMapKeyRef" keyReference, one "fieldRef" fieldReference,
        one "resourceFieldRef" resourceReference, one "secretKeyRef" keyReference]]

def environmentSource : List Member :=
  let source := texts ["name"] ++ flags ["optional"]
  texts ["prefix"] ++ [one "configMapRef" source, one "secretRef" source]

/-- What a probe or a hook does. -/
def action : List Member :=
  [one "exec" (textLists ["command"]),
    one "httpGet"
      (texts ["host", "path", "scheme"] ++
        [many "httpHeaders" (texts ["name", "value"]), port "port"]),
    one "tcpSocket" (port "port" :: texts ["host"])]

def hook : List Member :=
  one "sleep" (int64s ["seconds"]) :: action

def probe : List Member :=
  one "grpc" (int32s ["port"] ++ texts ["service"]) :: action ++
    int32s ["failureThreshold", "initialDelaySeconds", "periodSeconds", "successThreshold",
      "timeoutSeconds"] ++
    int64s ["terminationGracePeriodSeconds"]

def containerSecurity : List Member :=
  flags ["allowPrivilegeEscalation", "privileged", "readOnlyRootFilesystem",
      "runAsNonRoot"] ++
    int64s ["runAsGroup", "runAsUser"] ++ texts ["procMount"] ++
    [one "appArmorProfile" localProfile, one "capabilities" (textLists ["add", "drop"]),
      one "seLinuxOptions" linuxOptions, one "seccompProfile" localProfile,
      one "windowsOptions" windowsOptions]

def container : List Member :=
  textLists ["args", "command"] ++
    texts ["image", "imagePullPolicy", "name", "restartPolicy", "terminationMessagePath",
      "terminationMessagePolicy", "workingDir"] ++
    flags ["stdin", "stdinOnce", "tty"] ++
    [many "env" environmentVariable, many "envFrom" environmentSource,
      one "lifecycle" (texts ["stopSignal"] ++ [one "postStart" hook, one "preStop" hook]),
      one "livenessProbe" probe, one "readinessProbe" probe, one "startupProbe" probe,
      many "ports" (texts ["hostIP", "name", "protocol"] ++ int32s ["containerPort", "hostPort"]),
      many "resizePolicy" (texts ["resourceName", "restartPolicy"]),
      one "resources" resources, one "securityContext" containerSecurity,
      many "volumeDevices" (texts ["devicePath", "name"]),
      many "volumeMounts"
        (texts ["mountPath", "mountPropagation", "name", "recursiveReadOnly", "subPath",
          "subPathExpr"] ++ flags ["readOnly"])]

/-- A container that is added to a running pod. -/
def addedContainer : List Member :=
  container ++ texts ["targetContainerName"]

end PodPart

end PodIsolation
