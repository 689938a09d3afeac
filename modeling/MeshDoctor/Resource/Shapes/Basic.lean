import MeshDoctor.Resource.Metadata

/-!
# Resources — shapes shared by several kinds

* `Shapes.moment`, `Shapes.amounts`: points in time, and amounts by name.
* `Shapes.labelSelector`: which labels are picked.
* `Shapes.nameOnly`, `Shapes.keyOf`: references to an object of the same namespace.
-/

namespace MeshDoctor.Shapes

open Json Json.Shape

/-- A point in time. -/
def moment : Shape := .of asInstant

/-- Amounts by name, each of them a text such as `250m`. -/
def amounts : Shape := textTable

/-- A reference to an object by its name. -/
def nameOnly : Shape := textRecord ["name"]

/-- A reference to an object that need not exist. -/
def nameIfAny : Shape := record (("optional", flag) :: textFields ["name"])

/-- A reference to a key of an object that need not exist. -/
def keyOf : Shape := record (("optional", flag) :: textFields ["key", "name"])

/-- A name and a value. -/
def nameAndValue : Shape := textRecord ["name", "value"]

/-- A condition on one key. -/
def keyCondition : Shape := record (("values", texts) :: textFields ["key", "operator"])

/-- Which labels are picked. -/
def labelSelector : Shape :=
  record [("matchExpressions", listOf keyCondition), ("matchLabels", textTable)]

/-- A reference to a field of the resource itself. -/
def fieldOfResource : Shape := textRecord ["apiVersion", "fieldPath"]

/-- A reference to an amount that a container may use. -/
def amountOfContainer : Shape := textRecord ["containerName", "divisor", "resource"]

/-- Amounts that are granted and asked for. -/
def resourceClaims : Shape :=
  record (("claims", listOf (textRecord ["name", "request"])) :: each amounts ["limits", "requests"])

/-- The parts that the conditions of all kinds have in common. -/
def conditionFields : List (String × Shape) :=
  ("lastTransitionTime", moment) :: textFields ["message", "reason", "status", "type"]

/-- A condition with these parts as well. -/
def conditionWith (more : List (String × Shape)) : Shape := record (more ++ conditionFields)

/-- The parts of a resource with metadata and with these parts as well. -/
def resource (more : List (String × Shape)) : Shape := record (("metadata", Metadata.shape) :: more)

end MeshDoctor.Shapes
