import MeshDoctor.Resource.Shapes.Basic

/-!
# Resources — shapes of containers

* `Shapes.container`, `Shapes.debugContainer`: what a container shall be.
* `Shapes.containerStatus`: what a container is.
* `Shapes.securityFields`: the rights that containers and pods are given alike.
-/

namespace MeshDoctor.Shapes

open Json Json.Shape

/-! ## Rights -/

/-- A profile that limits the calls of a container. -/
def profile : Shape := textRecord ["localhostProfile", "type"]

/-- The rights that containers and pods are given alike. -/
def securityFields : List (String × Shape) :=
  [("appArmorProfile", profile), ("runAsGroup", int64), ("runAsNonRoot", flag), ("runAsUser", int64),
    ("seLinuxOptions", textRecord ["level", "role", "type", "user"]), ("seccompProfile", profile),
    ("windowsOptions", record (("hostProcess", flag) ::
      textFields ["gmsaCredentialSpec", "gmsaCredentialSpecName", "runAsUserName"]))]

/-- The rights of a container. -/
def containerSecurity : Shape :=
  record (securityFields ++ ("procMount", text) :: ("capabilities", record (each texts ["add", "drop"]))
    :: each flag ["allowPrivilegeEscalation", "privileged", "readOnlyRootFilesystem"])

/-! ## Actions and probes -/

/-- A command that is run in a container. -/
def commandAction : Shape := record [("command", texts)]

/-- A request over HTTP. -/
def httpAction : Shape :=
  record (("httpHeaders", listOf nameAndValue) :: ("port", int32OrText) ::
    textFields ["host", "path", "scheme"])

/-- A connection to a port. -/
def socketAction : Shape := record [("host", text), ("port", int32OrText)]

/-- What is done when a container starts or stops. -/
def handler : Shape :=
  record [("exec", commandAction), ("httpGet", httpAction), ("sleep", record [("seconds", int64)]),
    ("tcpSocket", socketAction)]

/-- How it is found out whether a container is well. -/
def probe : Shape :=
  record
    ([("exec", commandAction), ("grpc", record [("port", int32), ("service", text)]),
      ("httpGet", httpAction), ("tcpSocket", socketAction), ("terminationGracePeriodSeconds", int64)]
      ++ each int32
        ["failureThreshold", "initialDelaySeconds", "periodSeconds", "successThreshold", "timeoutSeconds"])

/-! ## Containers -/

/-- A variable of the environment of a container. -/
def environmentEntry : Shape :=
  record
    [("name", text), ("value", text),
      ("valueFrom", record
        [("configMapKeyRef", keyOf), ("fieldRef", fieldOfResource),
          ("resourceFieldRef", amountOfContainer), ("secretKeyRef", keyOf)])]

/-- A source of many variables. -/
def environmentSource : Shape :=
  record [("configMapRef", nameIfAny), ("prefix", text), ("secretRef", nameIfAny)]

/-- A port of a container. -/
def containerPort : Shape :=
  record (each int32 ["containerPort", "hostPort"] ++ textFields ["hostIP", "name", "protocol"])

/-- A place where a container finds a volume. -/
def volumeMount : Shape :=
  record (("readOnly", flag) ::
    textFields ["mountPath", "mountPropagation", "name", "recursiveReadOnly", "subPath", "subPathExpr"])

/-- The parts of a container. -/
def containerFields : List (String × Shape) :=
  textFields
      ["image", "imagePullPolicy", "name", "restartPolicy", "terminationMessagePath",
        "terminationMessagePolicy", "workingDir"]
    ++ each texts ["args", "command"]
    ++ each flag ["stdin", "stdinOnce", "tty"]
    ++ each probe ["livenessProbe", "readinessProbe", "startupProbe"]
    ++ [("env", listOf environmentEntry), ("envFrom", listOf environmentSource),
      ("lifecycle", record (each handler ["postStart", "preStop"])), ("ports", listOf containerPort),
      ("resizePolicy", listOf (textRecord ["resourceName", "restartPolicy"])),
      ("resources", resourceClaims), ("securityContext", containerSecurity),
      ("volumeDevices", listOf (textRecord ["devicePath", "name"])),
      ("volumeMounts", listOf volumeMount)]

/-- What a container shall be. -/
def container : Shape := record containerFields

/-- A container that is added to look into another one. -/
def debugContainer : Shape := record (("targetContainerName", text) :: containerFields)

/-! ## What containers are -/

/-- Whether a container waits, runs or has ended. -/
def containerState : Shape :=
  record
    [("running", record [("startedAt", moment)]),
      ("terminated", record
        (each int32 ["exitCode", "signal"] ++ each moment ["finishedAt", "startedAt"]
          ++ textFields ["containerID", "message", "reason"])),
      ("waiting", textRecord ["message", "reason"])]

/-- The health of the devices that a container was given. -/
def deviceHealth : Shape :=
  record [("name", text), ("resources", listOf (textRecord ["health", "resourceID"]))]

/-- The user that a container runs as. -/
def containerUser : Shape :=
  record [("linux", record [("gid", int64), ("supplementalGroups", listOf int64), ("uid", int64)])]

/-- What a container is. -/
def containerStatus : Shape :=
  record
    (textFields ["containerID", "image", "imageID", "name"]
      ++ each flag ["ready", "started"]
      ++ each containerState ["lastState", "state"]
      ++ [("allocatedResources", amounts), ("allocatedResourcesStatus", listOf deviceHealth),
        ("resources", resourceClaims), ("restartCount", int32), ("user", containerUser),
        ("volumeMounts", listOf (record (("readOnly", flag) ::
          textFields ["mountPath", "name", "recursiveReadOnly"])))])

end MeshDoctor.Shapes
