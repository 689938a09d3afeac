import MeshDoctor.Json.Decode
import MeshDoctor.Time.Instant

/-!
# Resources — owners and managers

What the metadata of a resource says about the resources that own it and about the programs that
manage its fields.

* `OwnerRef`: a resource that owns another one.
* `FieldManager`: a program and the fields that it manages.
* `asInstant`: a point in time.
-/

namespace MeshDoctor

open Json

/-- A point in time. -/
def asInstant : Decoder Instant := fun v => v.text?.bind Instant.read?

/-- A point in time as a value. -/
def ofInstant (i : Instant) : Value := .string i.text

/-- A member that is written only if it is present. -/
def presentMember {α : Type} (name : String) (f : α → Value) : Option α → List (String × Value)
  | none => []
  | some a => [(name, f a)]

/-! ## Owners -/

/-- A resource that owns another one. -/
structure OwnerRef where
  apiVersion : String := ""
  blocksDeletion : Option Bool := none
  isController : Option Bool := none
  kind : String := ""
  name : String := ""
  uid : String := ""
  deriving DecidableEq, Repr, Inhabited

def OwnerRef.decode : Decoder OwnerRef := fun v => do
  let field ← v.members?
  some
    { apiVersion := ← lenient "" asText (field "apiVersion")
      blocksDeletion := ← optional asBool (field "blockOwnerDeletion")
      isController := ← optional asBool (field "controller")
      kind := ← lenient "" asText (field "kind")
      name := ← lenient "" asText (field "name")
      uid := ← lenient "" asText (field "uid") }

/-- Writes an owner, its two marks only where they are set. -/
def OwnerRef.encode (o : OwnerRef) : Value :=
  .object
    ([("apiVersion", .string o.apiVersion)]
      ++ presentMember "blockOwnerDeletion" .bool o.blocksDeletion
      ++ presentMember "controller" .bool o.isController
      ++ [("kind", .string o.kind), ("name", .string o.name), ("uid", .string o.uid)])

/-! ## Managers -/

/-- A program and the fields that it manages. -/
structure FieldManager where
  apiVersion : Option String := none
  fieldsType : Option String := none
  fields : Option Value := none
  manager : Option String := none
  operation : Option String := none
  subresource : Option String := none
  time : Option Instant := none
  deriving DecidableEq, Repr, Inhabited

/-- Reads a manager. The fields may be any value. -/
def FieldManager.decode : Decoder FieldManager := fun v => do
  let field ← v.members?
  some
    { apiVersion := ← optional asText (field "apiVersion")
      fieldsType := ← optional asText (field "fieldsType")
      fields := ← optional some (field "fieldsV1")
      manager := ← optional asText (field "manager")
      operation := ← optional asText (field "operation")
      subresource := ← optional asText (field "subresource")
      time := ← optional asInstant (field "time") }

def FieldManager.encode (m : FieldManager) : Value :=
  .object
    (presentMember "apiVersion" .string m.apiVersion
      ++ presentMember "fieldsType" .string m.fieldsType
      ++ presentMember "fieldsV1" id m.fields
      ++ presentMember "manager" .string m.manager
      ++ presentMember "operation" .string m.operation
      ++ presentMember "subresource" .string m.subresource
      ++ presentMember "time" ofInstant m.time)

end MeshDoctor
