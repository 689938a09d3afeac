import MeshDoctor.CommandLine.Reader
import MeshDoctor.CommandLine.Run
import MeshDoctor.Report.Log

/-!
# The program

The outer layer: it answers the requests about files, the environment and the terminal. It starts no
tools, so a run of a tool is answered as if the tool were not there; the checks that need it are then
skipped, as they are on a machine without the tool.

* `Host.answer`: the answer of the machine to a request.
* `Host.follow`: an inquiry, asked of the machine.
* `main`: the program.
-/

namespace MeshDoctor.Host

/-- The failure of a refused operation. -/
def failureOf : IO.Error → Failure
  | .noFileOrDirectory .. => .of (.system .missing)
  | .permissionDenied .. => .of (.system .denied)
  | .alreadyExists .. => .of (.system .alreadyExists)
  | e => .say (toString e)

/-- The result of an operation that may be refused. -/
def attempt {α : Type} (x : IO α) : IO (Except Failure α) := do
  try
    pure (.ok (← x))
  catch e => pure (.error (failureOf e))

/-- Does anything lie at a path? -/
def exists? (path : String) : IO Bool := do
  try
    let _ ← IO.FS.Handle.mk path .read
    pure true
  catch
    | .noFileOrDirectory .. => pure false
    | _ => pure true

/-- The answer of the machine to a request. -/
def answer : (r : Request) → IO (Except Failure r.Answer)
  | .pathExists path => attempt (exists? path)
  | .readPath path => attempt do
    let bytes ← IO.FS.readBinFile path
    pure bytes.toList
  | .variable name => attempt (IO.getEnv name)
  | .makeDirectories path => attempt (IO.FS.createDirAll path)
  | .writePath path text => attempt (IO.FS.writeFile path text)
  | .print text => attempt (IO.print text)
  | .log level speaker text => attempt (IO.eprintln (logLine level speaker text))
  | .run _ => pure (.error (.of (.system .missing)))
  | .start _ => pure (.error (.of (.system .missing)))
  | r => pure (World.silent r)

/-- An inquiry, asked of the machine. -/
def follow {α : Type} : Inquiry α → IO α
  | .done a => pure a
  | .ask r next => do
    let a ← answer r
    follow (next a)

/-- How the program is called. -/
def usage : String :=
  "Usage: osm-doctor [OPTIONS] <connectivity|control-plane|ingress|validate|collect|init> [OPERANDS]"

end MeshDoctor.Host

/-- The program. -/
def main (arguments : List String) : IO UInt32 := do
  match MeshDoctor.CommandLine.read arguments with
  | .ok line => MeshDoctor.Host.follow line.execute
  | .error e =>
    if e.isMistake then IO.eprintln MeshDoctor.Host.usage else IO.println MeshDoctor.Host.usage
    pure e.exitStatus
