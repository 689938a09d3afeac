import MeshDoctor.Resource.Shapes.Basic

/-!
# Resources — shapes of volumes

* `Shapes.volume`: a volume of a pod, with one part for each kind of source.
* `Shapes.volumeSources`: the kinds of sources and their shapes.
-/

namespace MeshDoctor.Shapes

open Json Json.Shape

/-- A source with texts, and with these parts as well. -/
def sourceOf (names : List String) (more : List (String × Shape)) : Shape :=
  record (textFields names ++ more)

/-- A source with texts that may be read only. -/
def diskOf (names : List String) (more : List (String × Shape)) : Shape :=
  sourceOf names (("readOnly", flag) :: more)

/-- Keys of an object and the paths they are put at. -/
def keyPaths : Shape := listOf (sourceOf ["key", "path"] [("mode", int32)])

/-- Fields of the resource itself as files. -/
def resourceFiles : Shape :=
  listOf (sourceOf ["path"]
    [("fieldRef", fieldOfResource), ("mode", int32), ("resourceFieldRef", amountOfContainer)])

/-- An object whose keys become files. -/
def keyedObject (name : String) : List (String × Shape) :=
  [("items", keyPaths), ("optional", flag), (name, text)]

/-- One part of a volume that several sources make up. -/
def projection : Shape :=
  record
    [("clusterTrustBundle", sourceOf ["name", "path", "signerName"]
        [("labelSelector", labelSelector), ("optional", flag)]),
      ("configMap", record (keyedObject "name")),
      ("downwardAPI", record [("items", resourceFiles)]),
      ("secret", record (keyedObject "name")),
      ("serviceAccountToken", sourceOf ["audience", "path"] [("expirationSeconds", int64)])]

/-- What a volume that is yet to be made shall be like. -/
def claim : Shape :=
  sourceOf ["storageClassName", "volumeAttributesClassName", "volumeMode", "volumeName"]
    [("accessModes", texts), ("dataSource", textRecord ["apiGroup", "kind", "name"]),
      ("dataSourceRef", textRecord ["apiGroup", "kind", "name", "namespace"]),
      ("resources", record (each amounts ["limits", "requests"])), ("selector", labelSelector)]

/-- The kinds of sources of volumes. -/
def volumeSources : List (String × Shape) :=
  [("awsElasticBlockStore", diskOf ["fsType", "volumeID"] [("partition", int32)]),
    ("azureDisk", diskOf ["cachingMode", "diskName", "diskURI", "fsType", "kind"] []),
    ("azureFile", diskOf ["secretName", "shareName"] []),
    ("cephfs", diskOf ["path", "secretFile", "user"] [("monitors", texts), ("secretRef", nameOnly)]),
    ("cinder", diskOf ["fsType", "volumeID"] [("secretRef", nameOnly)]),
    ("configMap", record (("defaultMode", int32) :: keyedObject "name")),
    ("csi", diskOf ["driver", "fsType"]
      [("nodePublishSecretRef", nameOnly), ("volumeAttributes", textTable)]),
    ("downwardAPI", record [("defaultMode", int32), ("items", resourceFiles)]),
    ("emptyDir", textRecord ["medium", "sizeLimit"]),
    ("ephemeral", record [("volumeClaimTemplate", resource [("spec", claim)])]),
    ("fc", diskOf ["fsType"] [("lun", int32), ("targetWWNs", texts), ("wwids", texts)]),
    ("flexVolume", diskOf ["driver", "fsType"] [("options", textTable), ("secretRef", nameOnly)]),
    ("flocker", textRecord ["datasetName", "datasetUUID"]),
    ("gcePersistentDisk", diskOf ["fsType", "pdName"] [("partition", int32)]),
    ("gitRepo", textRecord ["directory", "repository", "revision"]),
    ("glusterfs", diskOf ["endpoints", "path"] []),
    ("hostPath", textRecord ["path", "type"]),
    ("image", textRecord ["pullPolicy", "reference"]),
    ("iscsi", diskOf ["fsType", "initiatorName", "iqn", "iscsiInterface", "targetPortal"]
      [("chapAuthDiscovery", flag), ("chapAuthSession", flag), ("lun", int32), ("portals", texts),
        ("secretRef", nameOnly)]),
    ("nfs", diskOf ["path", "server"] []),
    ("persistentVolumeClaim", diskOf ["claimName"] []),
    ("photonPersistentDisk", textRecord ["fsType", "pdID"]),
    ("portworxVolume", diskOf ["fsType", "volumeID"] []),
    ("projected", record [("defaultMode", int32), ("sources", listOf projection)]),
    ("quobyte", diskOf ["group", "registry", "tenant", "user", "volume"] []),
    ("rbd", diskOf ["fsType", "image", "keyring", "pool", "user"]
      [("monitors", texts), ("secretRef", nameOnly)]),
    ("scaleIO", diskOf
      ["fsType", "gateway", "protectionDomain", "storageMode", "storagePool", "system", "volumeName"]
      [("secretRef", nameOnly), ("sslEnabled", flag)]),
    ("secret", record (("defaultMode", int32) :: keyedObject "secretName")),
    ("storageos", diskOf ["fsType", "volumeName", "volumeNamespace"] [("secretRef", nameOnly)]),
    ("vsphereVolume", textRecord ["fsType", "storagePolicyID", "storagePolicyName", "volumePath"])]

/-- A volume of a pod. -/
def volume : Shape := record (("name", text) :: volumeSources)

end MeshDoctor.Shapes
