import MeshDoctor.Resource.Shapes.Pod

/-!
# Resources — the shapes of services, namespaces, events and deployments

* `Shapes.service`, `Shapes.namespaceShape`, `Shapes.event`, `Shapes.deployment`.
-/

namespace MeshDoctor.Shapes

open Json Json.Shape

/-! ## Services -/

/-- A port of a service. -/
def servicePort : Shape :=
  record (("targetPort", int32OrText) :: each int32 ["nodePort", "port"]
    ++ textFields ["appProtocol", "name", "protocol"])

/-- What a service shall be. -/
def serviceSpec : Shape :=
  record
    (textFields
        ["clusterIP", "externalName", "externalTrafficPolicy", "internalTrafficPolicy",
          "ipFamilyPolicy", "loadBalancerClass", "loadBalancerIP", "sessionAffinity",
          "trafficDistribution"]
      ++ each texts ["clusterIPs", "externalIPs", "ipFamilies", "loadBalancerSourceRanges"]
      ++ each flag ["allocateLoadBalancerNodePorts", "publishNotReadyAddresses"]
      ++ [("healthCheckNodePort", int32), ("ports", listOf servicePort), ("selector", textTable),
        ("sessionAffinityConfig", record [("clientIP", record [("timeoutSeconds", int32)])])])

/-- A place at which a service can be reached from outside. -/
def outerPlace : Shape :=
  record (("ports", listOf (record (("port", int32) :: textFields ["error", "protocol"])))
    :: textFields ["hostname", "ip", "ipMode"])

/-- What a service is. -/
def serviceStatus : Shape :=
  record [("conditions", listOf (conditionWith [("observedGeneration", int64)])),
    ("loadBalancer", record [("ingress", listOf outerPlace)])]

/-- A service. -/
def service : Shape := resource [("spec", serviceSpec), ("status", serviceStatus)]

/-! ## Namespaces -/

/-- A namespace. -/
def namespaceShape : Shape :=
  resource [("spec", record [("finalizers", texts)]),
    ("status", record [("conditions", listOf (conditionWith [])), ("phase", text)])]

/-! ## Events -/

/-- A reference to any object. -/
def objectRef : Shape :=
  textRecord ["apiVersion", "fieldPath", "kind", "name", "namespace", "resourceVersion", "uid"]

/-- An event. -/
def event : Shape :=
  resource
    (textFields
        ["action", "message", "reason", "reportingComponent", "reportingInstance", "type"]
      ++ each moment ["eventTime", "firstTimestamp", "lastTimestamp"]
      ++ each objectRef ["involvedObject", "related"]
      ++ [("count", int32), ("series", record [("count", int32), ("lastObservedTime", moment)]),
        ("source", textRecord ["component", "host"])])

/-! ## Deployments -/

/-- How the pods of a deployment are replaced. -/
def strategy : Shape :=
  record [("rollingUpdate", record (each int32OrText ["maxSurge", "maxUnavailable"])), ("type", text)]

/-- What a deployment shall be. -/
def deploymentSpec : Shape :=
  record
    (each int32 ["minReadySeconds", "progressDeadlineSeconds", "replicas", "revisionHistoryLimit"]
      ++ [("paused", flag), ("selector", labelSelector), ("strategy", strategy),
        ("template", resource [("spec", podSpec)])])

/-- What a deployment is. -/
def deploymentStatus : Shape :=
  record
    (each int32
        ["availableReplicas", "collisionCount", "readyReplicas", "replicas", "unavailableReplicas",
          "updatedReplicas"]
      ++ [("conditions", listOf (conditionWith [("lastUpdateTime", moment)])),
        ("observedGeneration", int64)])

/-- A deployment. -/
def deployment : Shape := resource [("spec", deploymentSpec), ("status", deploymentStatus)]

end MeshDoctor.Shapes
