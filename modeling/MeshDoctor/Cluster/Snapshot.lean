import MeshDoctor.Inquiry.Request
import MeshDoctor.Text.Pieces

/-!
# Clusters — snapshots

A cluster held in memory: its objects in order, what commands and logs print, and which requests
are made to fail.

* `matchesLabels`, `matchesFields`: does an object meet every term of a selector?
* `Snapshot.get`, `Snapshot.list`: the first object of a name and all objects of a query.
* `Snapshot.world`: the answers of a snapshot to the requests on a cluster.
-/

namespace MeshDoctor

open Json

/-- A cluster held in memory. -/
structure Snapshot where
  /-- Kinds and objects. -/
  objects : List (String × Value) := []
  /-- What a command in a pod prints, or how it fails. -/
  execs : List (String × Except String String) := []
  logs : List (String × String) := []
  /-- The requests that fail, by kind and name or more broadly, and their messages. -/
  failures : List (String × String) := []

/-! ## Selectors -/

/-- The terms of a selector. -/
def selectorTerms (selector : String) : List (List Char) :=
  (selector.toList.splitOn ',').filter (· ≠ [])

/-- The names on a dotted path. -/
def dottedPath (path : List Char) : List String :=
  (path.splitOn '.').map String.ofList

/-- Has the object this label, and with this value if one is stated? -/
def meetsLabelTerm (object : Value) (term : List Char) : Bool :=
  match Text.cutFirst '=' term with
  | some (key, expected) =>
    object.textAt? ["metadata", "labels", String.ofList key] = some (String.ofList expected)
  | none => (object.at? ["metadata", "labels", String.ofList term]).isSome

/-- Has the object this text on this path? A term without a value names a part of the nameless
part. -/
def meetsFieldTerm (object : Value) (term : List Char) : Bool :=
  match Text.cutFirst '=' term with
  | some (path, expected) => object.textAt? (dottedPath path) = some (String.ofList expected)
  | none => (object.at? ["", String.ofList term]).isSome

/-- Does an object meet every term of a label selector? -/
def matchesLabels (selector : Option String) (object : Value) : Bool :=
  match selector with
  | none => true
  | some selector => (selectorTerms selector).all (meetsLabelTerm object)

/-- Does an object meet every term of a field selector? -/
def matchesFields (selector : Option String) (object : Value) : Bool :=
  match selector with
  | none => true
  | some selector => (selectorTerms selector).all (meetsFieldTerm object)

/-- The name of an object. -/
def objectName? (object : Value) : Option String :=
  object.textAt? ["metadata", "name"]

/-- The namespace of an object. -/
def objectNamespace? (object : Value) : Option String :=
  object.textAt? ["metadata", "namespace"]

/-- Is the object in the namespace, if one is asked for? -/
def inNamespace (ns : Option String) (object : Value) : Bool :=
  match ns with
  | none => true
  | some ns => objectNamespace? object = some ns

namespace Snapshot

/-! ## Requests -/

/-- The objects of a kind, in order. -/
def ofKind (c : Snapshot) (kind : String) : List Value :=
  (c.objects.filter (·.1 = kind)).map (·.2)

/-- The first object of a kind with this namespace, or without one, and this name. -/
def get (c : Snapshot) (kind : String) (ns : Option String) (name : String) : Except Failure Value :=
  match (c.ofKind kind).find? fun o => objectName? o = some name && objectNamespace? o = ns with
  | some object => .ok object
  | none => .error (.of (.notFound kind name))

/-- The objects of a kind that a query asks for, in order. -/
def list (c : Snapshot) (kind : String) (q : ListQuery) : List Value :=
  (c.ofKind kind).filter fun o =>
    inNamespace q.namespace o && matchesLabels q.labels o && matchesFields q.fields o

/-- What a command prints in a pod. -/
def exec (c : Snapshot) (pod : PodRef) : Except Failure String :=
  match c.execs.lookup pod.text with
  | some (.ok text) => .ok text
  | some (.error message) => .error (.say message)
  | none => .error (.say ("exec into " ++ pod.text ++ " not configured"))

/-- The logs of a pod. -/
def logsOf (c : Snapshot) (pod : PodRef) : String :=
  (c.logs.lookup pod.text).getD ""

/-- The entries that can make a request fail, the narrower first. -/
def failureKeys : Request → List String
  | .get kind _ name => ["get " ++ kind ++ " " ++ name, "get " ++ kind]
  | .list kind _ => ["list " ++ kind]
  | .exec pod _ _ => ["exec " ++ pod.text, "exec"]
  | .logs pod _ => ["logs " ++ pod.text, "logs"]
  | _ => []

/-- The message with which a request is made to fail. -/
def failureOf (c : Snapshot) (r : Request) : Option String :=
  (failureKeys r).findSome? fun key => c.failures.lookup key

/-- What the objects and texts of the snapshot say to a request. -/
def answer (c : Snapshot) : World
  | .get kind ns name => c.get kind ns name
  | .list kind q => .ok (c.list kind q)
  | .exec pod _ _ => c.exec pod
  | .logs pod _ => .ok (c.logsOf pod)
  | r => World.silent r

/-- The answers of a snapshot; requests that are made to fail do so first. -/
def world (c : Snapshot) : World := fun r =>
  match c.failureOf r with
  | some message => .error (.say message)
  | none => c.answer r

end Snapshot

end MeshDoctor
