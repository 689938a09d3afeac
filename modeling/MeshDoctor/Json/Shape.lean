import MeshDoctor.Json.Decode

/-!
# JSON — shapes

A shape says which values may stand at a place of a document.

* `Shape.text`, `Shape.flag`, `Shape.int32`, `Shape.int64`: the shapes of single values.
* `Shape.listOf`, `Shape.tableOf`: lists, and objects whose members are all alike.
* `Shape.record`: objects with known fields. A field may be absent or null, and an unknown one holds
  anything.
-/

namespace MeshDoctor.Json

/-- Which values may stand at a place. -/
abbrev Shape := Value → Bool

namespace Shape

/-- What a decoder reads. -/
def of {α : Type} (d : Decoder α) : Shape := fun v => (d v).isSome

/-- A text. -/
def text : Shape := of asText

/-- A boolean. -/
def flag : Shape := of asBool

/-- A whole number of 32 bits. -/
def int32 : Shape := of asInt32

/-- A whole number of 64 bits. -/
def int64 : Shape := of asInt64

/-- A whole number of 32 bits or a text. -/
def int32OrText : Shape := fun v => int32 v || text v

/-- A list whose items all have a shape. -/
def listOf (item : Shape) : Shape
  | .array items => items.all item
  | _ => false

/-- A list of texts. -/
def texts : Shape := listOf text

/-- An object whose members all have a shape. -/
def tableOf (member : Shape) : Shape
  | .object members => members.all fun (_, v) => member v
  | _ => false

/-- An object of texts. -/
def textTable : Shape := tableOf text

/-- May a value stand in a field? Null stands for a field that is absent. -/
def fits (shape : Shape) : Shape
  | .null => true
  | v => shape v

/-- An object in which the known fields have their shapes. -/
def record (fields : List (String × Shape)) : Shape
  | .object members => members.all fun (name, v) =>
    match fields.lookup name with
    | some shape => fits shape v
    | none => true
  | _ => false

/-- Several fields of one shape. -/
def each (shape : Shape) (names : List String) : List (String × Shape) :=
  names.map fun name => (name, shape)

/-- Fields that hold texts. -/
def textFields (names : List String) : List (String × Shape) := each text names

/-- A record of nothing but texts. -/
def textRecord (names : List String) : Shape := record (textFields names)

end Shape

end MeshDoctor.Json
