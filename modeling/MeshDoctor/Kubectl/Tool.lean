import MeshDoctor.Cluster.Snapshot
import MeshDoctor.Json.Printer
import MeshDoctor.Kubectl.Client

/-!
# Kubectl — a tool that knows a snapshot

The other side of the command lines: what a tool prints whose cluster is a snapshot.

* `Errand.read?`: what a command line asks for.
* `Snapshot.perform`: what the tool prints for it.
-/

namespace MeshDoctor

open Json

/-- What a command line asks for. -/
inductive Errand where
  | version
  | ping
  | get (kind : String) («namespace» : Option String) (name : String)
  | list (kind : String) (query : ListQuery)
  | exec (pod : PodRef)
  | logs (pod : PodRef)
  | forward (pod : PodRef)
  deriving DecidableEq, Repr

namespace Errand

/-- The query that the flags of a list state. -/
def readQuery (q : ListQuery) : List String → Option ListQuery
  | [] => some q
  | "--all-namespaces" :: rest => readQuery { q with «namespace» := none } rest
  | "-n" :: ns :: rest => readQuery { q with «namespace» := some ns } rest
  | "-l" :: selector :: rest => readQuery { q with labels := some selector } rest
  | "--field-selector" :: selector :: rest => readQuery { q with fields := some selector } rest
  | _ => none

/-- What the arguments after the context ask for. -/
def readPlain? : List String → Option Errand
  | "version" :: _ => some .version
  | ["get", "--raw", _] => some .ping
  | "get" :: kind :: "-o" :: "json" :: flags => (readQuery {} flags).map (.list kind)
  | ["get", kind, name, "-o", "json"] => some (.get kind none name)
  | ["get", kind, name, "-o", "json", "-n", ns] => some (.get kind (some ns) name)
  | "exec" :: "-n" :: ns :: name :: _ => some (.exec ⟨ns, name⟩)
  | "logs" :: "-n" :: ns :: name :: _ => some (.logs ⟨ns, name⟩)
  | "port-forward" :: "-n" :: ns :: target :: _ =>
    (Text.dropWord? "pod/" target.toList).map fun name => .forward ⟨ns, String.ofList name⟩
  | _ => none

/-- What a command line asks for; its context only says of which cluster. -/
def read? : List String → Option Errand
  | "--context" :: _ :: rest => readPlain? rest
  | arguments => readPlain? arguments

end Errand

namespace ToolOutput

/-- A tool that prints a text. -/
def prints (text : String) : ToolOutput :=
  ⟨Text.encode text, [], true⟩

/-- A tool that complains. -/
def complains (text : String) : ToolOutput :=
  ⟨[], Text.encode text, false⟩

/-- What a tool prints that has this result. -/
def ofResult {α : Type} (print : α → String) : Except Failure α → ToolOutput
  | .ok a => prints (print a)
  | .error f => complains f.text

end ToolOutput

namespace Snapshot

/-- What the tool says about a resource that does not exist. -/
def notFoundComplaint (kind name : String) : String :=
  "Error from server (NotFound): " ++ kind ++ " \"" ++ name ++ "\" not found"

/-- A resource as the tool prints it. -/
def printResource : Except Failure Value → ToolOutput
  | .ok v => .prints v.compact
  | .error ⟨_, .notFound kind name⟩ => .complains (notFoundComplaint kind name)
  | .error f => .complains f.text

/-- A list as the tool prints it. -/
def printItems (vs : List Value) : String :=
  (Value.object [("items", .array vs)]).compact

/-- What the tool prints for an errand on the cluster. -/
def perform (c : Snapshot) : Errand → ToolOutput
  | .version => .prints "Client Version\n"
  | .ping => .prints "ok"
  | .get kind ns name => printResource (c.world (.get kind ns name))
  | .list kind q => .ofResult printItems (c.world (.list kind q))
  | .exec pod => .ofResult id (c.world (.exec pod none []))
  | .logs pod => .ofResult id (c.world (.logs pod none))
  | .forward _ => .complains "error: the port cannot be forwarded"

/-- What the tool prints for a command line. -/
def answerLine (c : Snapshot) (arguments : List String) : ToolOutput :=
  match Errand.read? arguments with
  | some errand => c.perform errand
  | none => .complains "error: unknown command"

end Snapshot

end MeshDoctor
