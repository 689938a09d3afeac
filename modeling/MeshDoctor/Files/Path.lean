import MeshDoctor.Text.Pieces

/-!
# Files — paths

* `joinPath`: a path below another one.
* `pathParts`: the names on a path.
-/

namespace MeshDoctor

/-- The path `path` seen from `base`. An absolute path stays what it is. -/
def joinPath (base path : String) : String :=
  if path.startsWith "/" then path
  else if base.isEmpty || base.endsWith "/" then base ++ path
  else base ++ "/" ++ path

/-- The names on a path; empty ones and single dots lead nowhere else. -/
def pathParts (path : String) : List String :=
  ((path.toList.splitOn '/').map String.ofList).filter fun part => part ≠ "" && part ≠ "."

end MeshDoctor
