import PodIsolation.Resource.Pod.Part

/-!
# Volumes of pods

## What a volume says

A volume has a name and one of many sources.
-/

namespace PodIsolation

namespace PodPart

/-- A member that refers to a secret of the namespace. -/
def secretReference (name : String) : Member :=
  one name localReference

def keyPaths : Member :=
  many "items" (texts ["key", "path"] ++ int32s ["mode"])

def downwardFiles : Member :=
  many "items"
    (texts ["path"] ++ int32s ["mode"] ++
      [one "fieldRef" fieldReference, one "resourceFieldRef" resourceReference])

def claim : List Member :=
  textLists ["accessModes"] ++
    texts ["storageClassName", "volumeAttributesClassName", "volumeMode", "volumeName"] ++
    [one "dataSource" (texts ["apiGroup", "kind", "name"]),
      one "dataSourceRef" (texts ["apiGroup", "kind", "name", "namespace"]),
      one "resources" (textMaps ["limits", "requests"]), one "selector" labelSelector]

def projection : List Member :=
  [one "clusterTrustBundle"
      (one "labelSelector" labelSelector :: texts ["name", "path", "signerName"] ++
        flags ["optional"]),
    one "configMap" (keyPaths :: texts ["name"] ++ flags ["optional"]),
    one "downwardAPI" [downwardFiles],
    one "secret" (keyPaths :: texts ["name"] ++ flags ["optional"]),
    one "serviceAccountToken" (texts ["audience", "path"] ++ int64s ["expirationSeconds"])]

/-- Sources that the cluster itself provides. -/
def clusterSources : List Member :=
  [one "configMap"
      (keyPaths :: texts ["name"] ++ flags ["optional"] ++ int32s ["defaultMode"]),
    one "csi"
      (texts ["driver", "fsType"] ++ flags ["readOnly"] ++ textMaps ["volumeAttributes"] ++
        [secretReference "nodePublishSecretRef"]),
    one "downwardAPI" (downwardFiles :: int32s ["defaultMode"]),
    one "emptyDir" (texts ["medium", "sizeLimit"]),
    one "ephemeral"
      [one "volumeClaimTemplate"
        [.checked "metadata" Metadata.reader, one "spec" claim]],
    one "hostPath" (texts ["path", "type"]),
    one "image" (texts ["pullPolicy", "reference"]),
    one "persistentVolumeClaim" (texts ["claimName"] ++ flags ["readOnly"]),
    one "projected" (int32s ["defaultMode"] ++ [many "sources" projection]),
    one "secret"
      (keyPaths :: texts ["secretName"] ++ flags ["optional"] ++ int32s ["defaultMode"])]

/-- Sources on disks and servers. -/
def storageSources : List Member :=
  let readOnly := flags ["readOnly"]
  [one "awsElasticBlockStore"
      (texts ["fsType", "volumeID"] ++ int32s ["partition"] ++ readOnly),
    one "azureDisk"
      (texts ["cachingMode", "diskName", "diskURI", "fsType", "kind"] ++ readOnly),
    one "azureFile" (texts ["secretName", "shareName"] ++ readOnly),
    one "cephfs"
      (secretReference "secretRef" :: textLists ["monitors"] ++
        texts ["path", "secretFile", "user"] ++ readOnly),
    one "cinder" (secretReference "secretRef" :: texts ["fsType", "volumeID"] ++ readOnly),
    one "fc"
      (texts ["fsType"] ++ int32s ["lun"] ++ textLists ["targetWWNs", "wwids"] ++ readOnly),
    one "flexVolume"
      (secretReference "secretRef" :: texts ["driver", "fsType"] ++ textMaps ["options"] ++
        readOnly),
    one "flocker" (texts ["datasetName", "datasetUUID"]),
    one "gcePersistentDisk" (texts ["fsType", "pdName"] ++ int32s ["partition"] ++ readOnly),
    one "gitRepo" (texts ["directory", "repository", "revision"]),
    one "glusterfs" (texts ["endpoints", "path"] ++ readOnly),
    one "iscsi"
      (secretReference "secretRef" ::
        texts ["fsType", "initiatorName", "iqn", "iscsiInterface", "targetPortal"] ++
        flags ["chapAuthDiscovery", "chapAuthSession"] ++ int32s ["lun"] ++
        textLists ["portals"] ++ readOnly),
    one "nfs" (texts ["path", "server"] ++ readOnly),
    one "photonPersistentDisk" (texts ["fsType", "pdID"]),
    one "portworxVolume" (texts ["fsType", "volumeID"] ++ readOnly),
    one "quobyte" (texts ["group", "registry", "tenant", "user", "volume"] ++ readOnly),
    one "rbd"
      (secretReference "secretRef" :: texts ["fsType", "image", "keyring", "pool", "user"] ++
        textLists ["monitors"] ++ readOnly),
    one "scaleIO"
      (secretReference "secretRef" ::
        texts ["fsType", "gateway", "protectionDomain", "storageMode", "storagePool",
          "system", "volumeName"] ++ flags ["sslEnabled"] ++ readOnly),
    one "storageos"
      (secretReference "secretRef" :: texts ["fsType", "volumeName", "volumeNamespace"] ++
        readOnly),
    one "vsphereVolume"
      (texts ["fsType", "storagePolicyID", "storagePolicyName", "volumePath"])]

def volume : List Member :=
  texts ["name"] ++ clusterSources ++ storageSources

end PodPart

end PodIsolation
