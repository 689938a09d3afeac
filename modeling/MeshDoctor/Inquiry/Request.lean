import MeshDoctor.Json.Value
import MeshDoctor.PodRef
import MeshDoctor.Polling

/-!
# Requests

Everything that the program asks of its surroundings, at three levels: the cluster, the tools that
reach it, and the machine. Each request has its own type of answer and may fail.

* `ListQuery`: what a list of resources is narrowed to.
* `Invocation`, `ToolOutput`, `ToolStream`: a run of a tool and what comes out of it.
* `Endpoint`: how the admin interface of a sidecar answers over time.
* `Request`, `Request.Answer`: the requests and the types of their answers.
* `World`: one answer for every request.
-/

namespace MeshDoctor

/-- What a list of resources is narrowed to. -/
structure ListQuery where
  «namespace» : Option String := none
  labels : Option String := none
  fields : Option String := none
  deriving DecidableEq, Repr

namespace ListQuery

/-- Resources of one namespace. -/
def inNamespace (ns : String) : ListQuery := { «namespace» := some ns }

/-- Only resources with these labels. -/
def withLabels (q : ListQuery) (selector : String) : ListQuery := { q with labels := some selector }

/-- Only resources with these fields. -/
def withFields (q : ListQuery) (selector : String) : ListQuery := { q with fields := some selector }

end ListQuery

/-! ## Tools -/

/-- A run of a tool. -/
structure Invocation where
  program : String
  arguments : List String
  kubeconfig : Option String := none
  deriving DecidableEq, Repr

/-- The words that a machine is given to start a run. -/
def Invocation.words (i : Invocation) : List String :=
  i.program :: i.arguments ++ i.kubeconfig.toList

/-- Can a machine be given the words of a run? A NUL character would end one. -/
def Invocation.isWritable (i : Invocation) : Bool :=
  i.words.all fun word => !word.toList.contains '\x00'

/-- What a tool printed and whether it succeeded. -/
structure ToolOutput where
  stdout : List UInt8
  stderr : List UInt8
  success : Bool
  deriving DecidableEq, Repr

/-- What a running tool prints, and whether it ends or just falls silent afterwards. -/
structure ToolStream where
  stdout : List UInt8
  ends : Bool
  deriving DecidableEq, Repr

/-! ## The admin interface -/

/-- An answer over HTTP; the body is missing when it broke off. -/
structure Reply where
  status : Nat
  body : Option String
  deriving DecidableEq, Repr

/-- The milliseconds between two attempts to reach an admin interface. -/
def adminInterval : Nat := 250

/-- How an admin interface answers: what each attempt to see whether it is ready gives, none where
no answer comes, when the attempts are over, and what the request for the configuration gives. -/
structure Endpoint where
  ready : Nat → Option Reply
  clock : Clock adminInterval
  dump : Option Reply

/-! ## The machine -/

/-- How grave a log line is. -/
inductive Level where
  | info
  | warn
  | error
  deriving DecidableEq, Repr

/-- The part of the program that writes a log line. -/
inductive Speaker where
  | command
  | bundle
  deriving DecidableEq, Repr

/-- A point in time: the stamp that names a bundle and the full date. -/
structure Moment where
  stamp : String
  date : String
  deriving DecidableEq, Repr

/-! ## Requests and answers -/

/-- What the program asks of its surroundings. -/
inductive Request where
  /-- One resource. -/
  | get (kind : String) («namespace» : Option String) (name : String)
  /-- The resources of a kind. -/
  | list (kind : String) (query : ListQuery)
  /-- What a command prints in a container of a pod. -/
  | exec (pod : PodRef) (container : Option String) (command : List String)
  /-- The logs of a pod. -/
  | logs (pod : PodRef) (container : Option String)
  /-- The configuration that the sidecar of a pod shows. -/
  | sidecar (pod : PodRef)
  /-- A tool is run to its end. -/
  | run (invocation : Invocation)
  /-- A tool is started and its output is read while it runs. -/
  | start (invocation : Invocation)
  /-- The admin interface behind a local port. -/
  | admin (port : Nat)
  | pathExists (path : String)
  | readPath (path : String)
  | variable (name : String)
  | makeDirectories (path : String)
  | writePath (path : String) (text : String)
  | now
  | print (text : String)
  | log (level : Level) (speaker : Speaker) (text : String)
  deriving DecidableEq, Repr

/-- The answer that a request asks for. -/
def Request.Answer : Request → Type
  | .get .. => Json.Value
  | .list .. => List Json.Value
  | .exec .. => String
  | .logs .. => String
  | .sidecar .. => String
  | .run .. => ToolOutput
  | .start .. => ToolStream
  | .admin .. => Endpoint
  | .pathExists .. => Bool
  | .readPath .. => List UInt8
  | .variable .. => Option String
  | .makeDirectories .. => Unit
  | .writePath .. => Unit
  | .now => Moment
  | .print .. => Unit
  | .log .. => Unit

/-- One answer for every request. -/
abbrev World := (r : Request) → Except Failure r.Answer

/-- A world that answers nothing. -/
def World.silent : World := fun _ => .error (.say "no answer")

end MeshDoctor
