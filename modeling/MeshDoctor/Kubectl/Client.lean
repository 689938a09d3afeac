import MeshDoctor.Inquiry.Basic
import MeshDoctor.Json.Decode
import MeshDoctor.Json.Reader
import MeshDoctor.Text.Pieces
import MeshDoctor.Text.Utf8

/-!
# Kubectl — requests as runs of the tool

* `Kubectl`: the tool with the cluster that it is pointed at.
* `Kubectl.commandLine`: the line that a run shows in messages.
* `Kubectl.probe`, `Kubectl.ping`: is the tool there, and does the cluster answer?
* `Kubectl.get`, `Kubectl.list`, `Kubectl.exec`, `Kubectl.logs`: the requests on a cluster.
-/

namespace MeshDoctor

open Json

/-- The tool with the cluster that it is pointed at. -/
structure Kubectl where
  program : String := "kubectl"
  kubeconfig : Option String := none
  context : Option String := none
  deriving DecidableEq, Repr

namespace Kubectl

/-! ## Runs -/

/-- A flag with its value, if there is one. -/
def flag (name : String) : Option String → List String
  | some value => [name, value]
  | none => []

/-- A run of the tool on its cluster. -/
def invocation (k : Kubectl) (arguments : List String) : Invocation where
  program := k.program
  arguments := flag "--context" k.context ++ arguments
  kubeconfig := k.kubeconfig

/-- The line that a run shows in messages. -/
def commandLine (i : Invocation) : String :=
  String.intercalate " " (i.program :: i.arguments)

/-- The context of a failed run without one of its own. -/
def defaultContext (i : Invocation) : String :=
  "Failed to execute " ++ commandLine i

/-- What a tool printed as text. -/
def outputText (o : ToolOutput) : String :=
  String.ofList (Text.decodeLossy o.stdout)

/-- What a tool complained about as text. -/
def complaint (o : ToolOutput) : String :=
  String.ofList (Text.decodeLossy o.stderr)

/-- What a successful tool printed, else its complaint. -/
def outcome (o : ToolOutput) : Except Failure String :=
  if o.success then .ok (outputText o) else .error (.say (Text.trim (complaint o)))

/-- What a run of the tool printed; its failures have a context. -/
def perform (k : Kubectl) (arguments : List String) (context : Option String) : Lookup String := do
  let i := k.invocation arguments
  let context := context.getD (defaultContext i)
  let o ← (request (.run i)).within context
  .ofResult (addContext context (outcome o))

/-! ## Availability -/

/-- The failure of a tool that is not there. -/
def missingTool (program : String) : Failure :=
  .say (program ++ " is not installed or not in PATH. Please install from https://kubernetes.io/docs/tasks/tools/")

/-- Is the tool there? It is asked without regard to a cluster. -/
def probe (k : Kubectl) : Lookup Unit :=
  ExceptT.mk <| .ask (.run { program := k.program, arguments := ["version", "--client"] }) fun answer =>
    match answer with
    | .ok o => .done (if ToolOutput.success o then .ok () else .error (missingTool k.program))
    | .error _ => .done (.error (missingTool k.program))

/-- Does the cluster answer? -/
def ping (k : Kubectl) : Lookup Unit := do
  let _ ← k.perform ["get", "--raw", "/readyz"] (some "Kubernetes API server is not reachable")

/-! ## Requests on a cluster -/

/-- Does a complaint say that the resource does not exist? -/
def saysNotFound (complaint : String) : Bool :=
  Text.contains "NotFound" complaint || Text.contains "not found" complaint

/-- The resource that a run printed. -/
def resource (kind name : String) (o : ToolOutput) : Except Failure Value :=
  if o.success then
    match Value.read? (outputText o) with
    | some v => .ok v
    | none => .error ⟨["Failed to parse " ++ kind ++ " " ++ name], .malformedJson⟩
  else if saysNotFound (complaint o) then .error (.of (.notFound kind name))
  else
    .error (.say ("Failed to get " ++ kind ++ " " ++ name ++ ": " ++ Text.trim (complaint o)))

/-- The arguments for one resource. -/
def getArguments (kind : String) (ns : Option String) (name : String) : List String :=
  ["get", kind, name, "-o", "json"] ++ flag "-n" ns

/-- One resource. -/
def get (k : Kubectl) (kind : String) (ns : Option String) (name : String) : Lookup Value := do
  let i := k.invocation (getArguments kind ns name)
  let o ← (request (.run i)).within (defaultContext i)
  .ofResult (resource kind name o)

/-- The items of a printed list; they may be missing but not be stated twice. -/
def items? (text : String) : Option (List Value) := do
  match ← Document.read? ["items"] text with
  | .object members =>
    match members.filter (·.1 = "items") with
    | [] => some []
    | [(_, v)] => asList some v
    | _ => none
  | .other (.array []) => some []
  | .other (.array [v]) => asList some v
  | .other _ => none

/-- The arguments for a list of resources. -/
def listArguments (kind : String) (q : ListQuery) : List String :=
  ["get", kind, "-o", "json"]
    ++ (match q.namespace with
      | some ns => ["-n", ns]
      | none => ["--all-namespaces"])
    ++ flag "-l" q.labels ++ flag "--field-selector" q.fields

/-- The resources of a kind. -/
def list (k : Kubectl) (kind : String) (q : ListQuery) : Lookup (List Value) := do
  let text ← k.perform (listArguments kind q) (some ("Failed to list " ++ kind))
  match items? text with
  | some vs => pure vs
  | none => throw ⟨["Failed to parse " ++ kind ++ " list"], .malformedJson⟩

/-- The arguments for a command in a pod. -/
def execArguments (pod : PodRef) (container : Option String) (command : List String) : List String :=
  ["exec", "-n", pod.namespace, pod.name] ++ flag "-c" container ++ "--" :: command

/-- What a command prints in a pod. -/
def exec (k : Kubectl) (pod : PodRef) (container : Option String) (command : List String) :
    Lookup String :=
  k.perform (execArguments pod container command) (some ("Failed to exec in pod " ++ pod.text))

/-- The arguments for the logs of a pod. -/
def logsArguments (pod : PodRef) (container : Option String) : List String :=
  ["logs", "-n", pod.namespace, pod.name] ++ flag "-c" container

/-- The logs of a pod. -/
def logs (k : Kubectl) (pod : PodRef) (container : Option String) : Lookup String :=
  k.perform (logsArguments pod container) (some ("Failed to get logs for pod " ++ pod.text))

end Kubectl

end MeshDoctor
