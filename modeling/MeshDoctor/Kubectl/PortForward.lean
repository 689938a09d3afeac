import MeshDoctor.Kubectl.Client
import MeshDoctor.Text.Numeral

/-!
# Kubectl — forwarding a port

The tool announces the local port on a line of its output and then keeps running.

* `announcedPort?`: the port that a line announces.
* `awaitPort`: the port that the first such line announces.
* `Kubectl.forward`: forwards a local port to a port of a pod.
-/

namespace MeshDoctor

/-- The port that a line announces, such as `54321` in
`Forwarding from 127.0.0.1:54321 -> 15000`. -/
def announcedPort? (line : String) : Option Nat := do
  let rest ← Text.dropWord? "Forwarding from " (Text.trimBlanks line.toList)
  let (address, _) ← Text.cutWord " -> ".toList rest
  let (_, port) ← Text.cutLast ':' address
  Text.readNumeral? UInt16.size port

/-- The first line of some bytes and the rest; none if no line ends. -/
def cutLine : List UInt8 → Option (List UInt8 × List UInt8)
  | [] => none
  | b :: rest =>
    if b = 0x0A then some ([], rest)
    else (cutLine rest).map fun (line, rest) => (b :: line, rest)

/-- A line without the carriage return at its end. -/
def dropReturn (line : List UInt8) : List UInt8 :=
  if line.getLast? = some 0x0D then line.dropLast else line

/-- The lines of some bytes that end, and the bytes after the last of them. -/
def endedLines : (fuel : Nat) → List UInt8 → List (List UInt8) × List UInt8
  | 0, bytes => ([], bytes)
  | fuel + 1, bytes =>
    match cutLine bytes with
    | none => ([], bytes)
    | some (line, rest) =>
      let (lines, last) := endedLines fuel rest
      (dropReturn line :: lines, last)

/-- The lines that a running tool prints; one that is not ended counts when the tool ends. -/
def ToolStream.lines (s : ToolStream) : List (List UInt8) :=
  let (lines, last) := endedLines s.stdout.length s.stdout
  if s.ends && !last.isEmpty then lines ++ [last] else lines

/-- The port that the first announcing line gives. A line that is no text ends the search. -/
def firstPort (silence : Failure) : List (List UInt8) → Except Failure Nat
  | [] => .error silence
  | line :: rest =>
    match Text.decodeStrict line with
    | .error fault => .error (.say fault.message)
    | .ok text =>
      match announcedPort? text with
      | some port => .ok port
      | none => firstPort silence rest

/-- The failure of a tool that ends or falls silent without having announced a port. -/
def ToolStream.silence (s : ToolStream) (pod : PodRef) : Failure :=
  if s.ends then .say ("port-forward to " ++ pod.text ++ " exited before it was ready")
  else ⟨["Timed out waiting for port-forward to " ++ pod.text], .elapsed⟩

/-- The port that a running tool announces. -/
def ToolStream.awaitPort (s : ToolStream) (pod : PodRef) : Except Failure Nat :=
  firstPort (s.silence pod) s.lines

namespace Kubectl

/-- The arguments for forwarding a port. -/
def forwardArguments (pod : PodRef) (port : Nat) : List String :=
  ["port-forward", "-n", pod.namespace, "pod/" ++ pod.name, ":" ++ toString port]

/-- The local port that is forwarded to a port of a pod. -/
def forward (k : Kubectl) (pod : PodRef) (port : Nat) : Lookup Nat := do
  let s ← (request (.start (k.invocation (forwardArguments pod port)))).within
    ("Failed to start port-forward to " ++ pod.text)
  .ofResult (ToolStream.awaitPort s pod)

end Kubectl

end MeshDoctor
