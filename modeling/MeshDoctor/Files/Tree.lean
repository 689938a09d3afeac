import MeshDoctor.Failure
import MeshDoctor.Files.Path

/-!
# Files — a file system held in memory

* `FileTree`: what lies below the root, by the names on the way there, and the working directory.
* `FileTree.read`, `FileTree.write`, `FileTree.makeDirectories`: the operations, which are refused as
  an operating system refuses them.
* `FileTree.refusal`: why none of the files can be started as a program.
-/

namespace MeshDoctor

/-- What lies at a path. -/
inductive FileEntry where
  | directory
  | file (bytes : List UInt8)
  deriving DecidableEq, Repr

/-- What lies below the root, by the names on the way there, and the way to the working directory. -/
structure FileTree where
  entries : List (List String × FileEntry) := []
  here : List String := []
  deriving DecidableEq, Repr

namespace FileTree

/-- The longest name of a file, in bytes. -/
def nameLimit : Nat := 255

/-- The longest path, in bytes. -/
def pathLimit : Nat := 4095

/-- What lies at the end of a way; the way of no names leads to the root. -/
def entry? (t : FileTree) (way : List String) : Option FileEntry :=
  if way = [] then some .directory else t.entries.lookup way

/-- The tree with something else at the end of a way. -/
def put (t : FileTree) (way : List String) (e : FileEntry) : FileTree :=
  { t with entries := t.entries.filter (·.1 ≠ way) ++ [(way, e)] }

/-- Goes down from a directory as far as directories lead; `done` are the names so far. -/
def walk (t : FileTree) (done : List String) : List String → Except SystemError (List String)
  | [] => .ok done
  | ".." :: rest => walk t done.dropLast rest
  | name :: rest =>
    if nameLimit < name.utf8ByteSize then .error .nameTooLong
    else
      match t.entry? (done ++ [name]) with
      | some .directory => walk t (done ++ [name]) rest
      | some (.file _) => .error .notADirectory
      | none => .error .missing

/-- The directory that a path starts from. -/
def origin (t : FileTree) (path : String) : List String :=
  if path.startsWith "/" then [] else t.here

/-- Why a text cannot be a path, empty ones apart. -/
def pathFault? (path : String) : Option SystemError :=
  if path.toList.contains '\x00' then some .nulInPath
  else if pathLimit < path.utf8ByteSize then some .nameTooLong
  else none

/-- The names on a path, if it is one. -/
def resolve (path : String) : Except SystemError (List String) :=
  match pathFault? path with
  | some e => .error e
  | none => if path.isEmpty then .error .missing else .ok (pathParts path)

/-- The way to the last name on a path, and that name; none for a path that ends with a directory. -/
def locate (t : FileTree) (path : String) : Except SystemError (List String × Option String) := do
  let parts ← resolve path
  match parts.getLast? with
  | some name =>
    if name = ".." then pure (← t.walk (t.origin path) parts, none)
    else
      let parent ← t.walk (t.origin path) parts.dropLast
      if nameLimit < name.utf8ByteSize then throw .nameTooLong else pure (parent, some name)
  | none => pure (t.origin path, none)

/-- What lies at a path. -/
def find (t : FileTree) (path : String) : Except SystemError FileEntry := do
  let (parent, name) ← t.locate path
  match name with
  | none => pure .directory
  | some name =>
    match t.entry? (parent ++ [name]) with
    | none => throw .missing
    | some .directory => pure .directory
    | some (.file bytes) => if path.endsWith "/" then throw .notADirectory else pure (.file bytes)

/-- Does anything lie at a path? -/
def holds (t : FileTree) (path : String) : Bool :=
  (t.find path).toOption.isSome

/-- The bytes of a file. -/
def read (t : FileTree) (path : String) : Except SystemError (List UInt8) := do
  match ← t.find path with
  | .directory => throw .isADirectory
  | .file bytes => pure bytes

/-- Writes a file, which replaces one that was there. -/
def write (t : FileTree) (path : String) (bytes : List UInt8) : Except SystemError FileTree := do
  let (parent, name) ← t.locate path
  match name with
  | none => throw .isADirectory
  | some name =>
    match t.entry? (parent ++ [name]) with
    | some .directory => throw .isADirectory
    | _ => if path.endsWith "/" then throw .isADirectory else pure (t.put (parent ++ [name]) (.file bytes))

/-- Goes down and makes directories where there is nothing. What was made stays when a later name
is refused; a file in the way is then said to exist, because the directory would take its place. -/
def descend (made : Bool) (t : FileTree) (done : List String) :
    List String → Except SystemError Unit × FileTree
  | [] => (.ok (), t)
  | ".." :: rest => descend made t done.dropLast rest
  | name :: rest =>
    if nameLimit < name.utf8ByteSize then (.error .nameTooLong, t)
    else
      match t.entry? (done ++ [name]) with
      | some .directory => descend made t (done ++ [name]) rest
      | some (.file _) => (.error (if made || rest = [] then .alreadyExists else .notADirectory), t)
      | none => descend true (t.put (done ++ [name]) .directory) (done ++ [name]) rest

/-- Makes a directory and those on the way to it. -/
def makeDirectories (t : FileTree) (path : String) : Except SystemError Unit × FileTree :=
  match pathFault? path with
  | some e => (.error e, t)
  | none => t.descend false (t.origin path) (pathParts path)

/-! ## Programs -/

/-- Where a program is looked for that is named without a slash. -/
def programDirectory : String := "/usr/bin/"

/-- Why nothing is started when this program is asked for: what lies there, if anything does, is no
program. -/
def refusal (t : FileTree) (program : String) : SystemError :=
  let path :=
    if program.isEmpty || program.toList.contains '/' then program else programDirectory ++ program
  match t.find path with
  | .ok _ => .denied
  | .error e => e

end FileTree

end MeshDoctor
