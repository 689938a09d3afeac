import MeshDoctor.Resource.Shapes.Container
import MeshDoctor.Resource.Shapes.Volume

/-!
# Resources — the shape of pods

* `Shapes.affinity`: the nodes that a pod shall or shall not run on.
* `Shapes.podSpec`, `Shapes.podStatus`: what a pod shall be and what it is.
* `Shapes.pod`: a pod.
-/

namespace MeshDoctor.Shapes

open Json Json.Shape

/-! ## Placement -/

/-- What is asked of a node. -/
def nodeTerm : Shape := record (each (listOf keyCondition) ["matchExpressions", "matchFields"])

/-- Pods that shall run nearby, or shall not. -/
def podTerm : Shape :=
  record (("topologyKey", text) :: each texts ["matchLabelKeys", "mismatchLabelKeys", "namespaces"]
    ++ each labelSelector ["labelSelector", "namespaceSelector"])

/-- What is asked of the place of a pod: wishes with weights, and demands. -/
def placement (wish demand : Shape) : Shape :=
  record [("preferredDuringSchedulingIgnoredDuringExecution", listOf wish),
    ("requiredDuringSchedulingIgnoredDuringExecution", demand)]

/-- A wish with its weight. -/
def wish (name : String) (term : Shape) : Shape := record [(name, term), ("weight", int32)]

/-- What is asked of the place of a pod with respect to other pods. -/
def podPlacement : Shape := placement (wish "podAffinityTerm" podTerm) (listOf podTerm)

/-- The nodes that a pod shall or shall not run on. -/
def affinity : Shape :=
  record
    [("nodeAffinity", placement (wish "preference" nodeTerm)
        (record [("nodeSelectorTerms", listOf nodeTerm)])),
      ("podAffinity", podPlacement), ("podAntiAffinity", podPlacement)]

/-- How pods are spread over the nodes. -/
def spread : Shape :=
  record (("labelSelector", labelSelector) :: ("matchLabelKeys", texts)
    :: each int32 ["maxSkew", "minDomains"]
    ++ textFields ["nodeAffinityPolicy", "nodeTaintsPolicy", "topologyKey", "whenUnsatisfiable"])

/-- A taint that a pod puts up with. -/
def toleration : Shape :=
  record (("tolerationSeconds", int64) :: textFields ["effect", "key", "operator", "value"])

/-! ## Pods -/

/-- The rights of a pod. -/
def podSecurity : Shape :=
  record (securityFields ++
    [("fsGroup", int64), ("fsGroupChangePolicy", text), ("supplementalGroups", listOf int64),
      ("supplementalGroupsPolicy", text), ("sysctls", listOf nameAndValue)])

/-- How a pod finds addresses. -/
def nameService : Shape :=
  record [("nameservers", texts), ("options", listOf nameAndValue), ("searches", texts)]

/-- What a pod shall be. -/
def podSpec : Shape :=
  record
    (textFields
        ["dnsPolicy", "hostname", "nodeName", "preemptionPolicy", "priorityClassName", "restartPolicy",
          "runtimeClassName", "schedulerName", "serviceAccount", "serviceAccountName", "subdomain"]
      ++ each flag
        ["automountServiceAccountToken", "enableServiceLinks", "hostIPC", "hostNetwork", "hostPID",
          "hostUsers", "setHostnameAsFQDN", "shareProcessNamespace"]
      ++ each int64 ["activeDeadlineSeconds", "terminationGracePeriodSeconds"]
      ++ each (listOf container) ["containers", "initContainers"]
      ++ [("affinity", affinity), ("dnsConfig", nameService),
        ("ephemeralContainers", listOf debugContainer),
        ("hostAliases", listOf (record [("hostnames", texts), ("ip", text)])),
        ("imagePullSecrets", listOf nameOnly), ("nodeSelector", textTable), ("os", nameOnly),
        ("overhead", amounts), ("priority", int32),
        ("readinessGates", listOf (textRecord ["conditionType"])),
        ("resourceClaims", listOf
          (textRecord ["name", "resourceClaimName", "resourceClaimTemplateName"])),
        ("schedulingGates", listOf nameOnly), ("securityContext", podSecurity),
        ("tolerations", listOf toleration), ("topologySpreadConstraints", listOf spread),
        ("volumes", listOf volume)])

/-- What a pod is. -/
def podStatus : Shape :=
  record
    (textFields
        ["hostIP", "message", "nominatedNodeName", "phase", "podIP", "qosClass", "reason", "resize"]
      ++ each (listOf containerStatus)
        ["containerStatuses", "ephemeralContainerStatuses", "initContainerStatuses"]
      ++ each (listOf (textRecord ["ip"])) ["hostIPs", "podIPs"]
      ++ [("conditions", listOf (conditionWith [("lastProbeTime", moment)])),
        ("resourceClaimStatuses", listOf (textRecord ["name", "resourceClaimName"])),
        ("startTime", moment)])

/-- A pod. -/
def pod : Shape := resource [("spec", podSpec), ("status", podStatus)]

end MeshDoctor.Shapes
