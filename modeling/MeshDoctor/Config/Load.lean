import MeshDoctor.Config.Document
import MeshDoctor.Inquiry.Basic
import MeshDoctor.Text.Utf8

/-!
# Configuration — loading

* `Config.fromFile`: the valid settings of a file.
* `Config.load`: the settings of a file, or the defaults where there is none, with the override from
  the environment.
-/

namespace MeshDoctor.Config

/-- The text of a file. -/
def readText (path : String) (bytes : List UInt8) : Except Failure String :=
  match Text.decodeStrict bytes with
  | .ok text => .ok text
  | .error _ => .error ⟨["Failed to read " ++ path], .note "stream did not contain valid UTF-8"⟩

/-- The settings that the text of a file states. -/
def parse (path text : String) : Except Failure Config :=
  match ofYaml? text with
  | some c => .ok c
  | none => .error ⟨["Failed to parse " ++ path], .malformedYaml⟩

/-- The valid settings that the bytes of a file state. -/
def ofBytes (path : String) (bytes : List UInt8) : Except Failure Config := do
  let text ← readText path bytes
  let c ← parse path text
  c.validate

/-- The valid settings of a file. -/
def fromFile (path : String) : Lookup Config := do
  let bytes ← (request (.readPath path)).within ("Failed to read " ++ path)
  .ofResult (ofBytes path bytes)

/-- The settings of a run. -/
def load (path : String) : Lookup Config := do
  let found : Bool ← requestOr (.pathExists path) false
  let c ← if found then fromFile path else pure {}
  let value : Option String ← requestOr (.variable namespaceVariable) none
  .ofResult (c.overrideNamespace value).validate

end MeshDoctor.Config
