import MeshDoctor.Json.Shape
import MeshDoctor.Resource.Owner

/-!
# Resources — metadata

* `Metadata`: the metadata of a resource, every part of which may be absent.
* `Metadata.decode`, `Metadata.encode`: only the present parts are written.
* `membersOfType`: a resource that names its kind or version names the right ones, and all its parts
  have their shapes.
-/

namespace MeshDoctor

open Json

/-- Labels or annotations. -/
abbrev Labels := List (String × String)

/-- The metadata of a resource. -/
structure Metadata where
  annotations : Option Labels := none
  creationTimestamp : Option Instant := none
  deletionGracePeriodSeconds : Option Int := none
  deletionTimestamp : Option Instant := none
  finalizers : Option (List String) := none
  generateName : Option String := none
  generation : Option Int := none
  labels : Option Labels := none
  managedFields : Option (List FieldManager) := none
  name : Option String := none
  «namespace» : Option String := none
  ownerReferences : Option (List OwnerRef) := none
  resourceVersion : Option String := none
  selfLink : Option String := none
  uid : Option String := none
  deriving DecidableEq, Repr, Inhabited

namespace Metadata

/-- Reads metadata. -/
def decode : Decoder Metadata := fun v => do
  let field ← v.members?
  some
    { annotations := ← optional asMap (field "annotations")
      creationTimestamp := ← optional asInstant (field "creationTimestamp")
      deletionGracePeriodSeconds := ← optional asInt64 (field "deletionGracePeriodSeconds")
      deletionTimestamp := ← optional asInstant (field "deletionTimestamp")
      finalizers := ← optional (asList asText) (field "finalizers")
      generateName := ← optional asText (field "generateName")
      generation := ← optional asInt64 (field "generation")
      labels := ← optional asMap (field "labels")
      managedFields := ← optional (asList FieldManager.decode) (field "managedFields")
      name := ← optional asText (field "name")
      «namespace» := ← optional asText (field "namespace")
      ownerReferences := ← optional (asList OwnerRef.decode) (field "ownerReferences")
      resourceVersion := ← optional asText (field "resourceVersion")
      selfLink := ← optional asText (field "selfLink")
      uid := ← optional asText (field "uid") }

/-- Labels as an object. -/
def ofLabels (labels : Labels) : Value :=
  .ofMembers (labels.map fun (name, text) => (name, .string text))

def encode (m : Metadata) : Value :=
  .object
    (presentMember "annotations" ofLabels m.annotations
      ++ presentMember "creationTimestamp" ofInstant m.creationTimestamp
      ++ presentMember "deletionGracePeriodSeconds" .int m.deletionGracePeriodSeconds
      ++ presentMember "deletionTimestamp" ofInstant m.deletionTimestamp
      ++ presentMember "finalizers" .ofTexts m.finalizers
      ++ presentMember "generateName" .string m.generateName
      ++ presentMember "generation" .int m.generation
      ++ presentMember "labels" ofLabels m.labels
      ++ presentMember "managedFields" (fun ms => .array (ms.map (·.encode))) m.managedFields
      ++ presentMember "name" .string m.name
      ++ presentMember "namespace" .string m.namespace
      ++ presentMember "ownerReferences" (fun os => .array (os.map (·.encode))) m.ownerReferences
      ++ presentMember "resourceVersion" .string m.resourceVersion
      ++ presentMember "selfLink" .string m.selfLink
      ++ presentMember "uid" .string m.uid)

/-- The value of a label. -/
def label? (m : Metadata) (key : String) : Option String :=
  m.labels.bind (·.lookup key)

/-- The value of an annotation. -/
def annotation? (m : Metadata) (key : String) : Option String :=
  m.annotations.bind (·.lookup key)

end Metadata

/-- A field that, where present, holds exactly this text. -/
def holds (text : String) : Field → Bool
  | none => true
  | some v => v.text? = some text

/-- The shape of metadata. -/
def Metadata.shape : Shape := .of decode

/-- The members of a resource that does not contradict its kind and version and whose parts have
their shapes. -/
def membersOfType (kind version : String) (shape : Shape) (v : Value) : Option (String → Field) := do
  let field ← v.members?
  if holds kind (field "kind") && holds version (field "apiVersion") && shape v then some field
  else none

end MeshDoctor
