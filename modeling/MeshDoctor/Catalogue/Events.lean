import MeshDoctor.Check.Basic
import MeshDoctor.Cluster.Typed

/-!
# Catalogue — events

The warnings that the cluster reports in a namespace or on one object. At most ten are described;
the others are counted.
-/

namespace MeshDoctor.Catalogue

/-- How many warnings are described. -/
def listedWarnings : Nat := 10

/-- A warning on one line. -/
def describeEvent (e : Event) : String :=
  let line := e.involved.getD "<unknown>" ++ " " ++ e.reason.getD "" ++ ": "
    ++ Text.trim (e.message.getD "")
  match e.count with
  | some count => if 1 < count then line ++ " (x" ++ toString count ++ ")" else line
  | none => line

/-- The fields of the warnings that are meant. -/
def warningSelector : Option String → String
  | some name => "type=Warning,involvedObject.name=" ++ name
  | none => "type=Warning"

/-- Warnings, the first of them described. -/
def warningLines (events : List Event) : List String :=
  (events.take listedWarnings).map describeEvent
    ++ if listedWarnings < events.length then
      ["... and " ++ toString (events.length - listedWarnings) ++ " more"] else []

/-- There are no warnings in a namespace, or on one object there. -/
def warningEvents (ns : String) (involved : Option String) : Diagnosis Outcome := do
  let events ← listEvents ((ListQuery.inNamespace ns).withFields (warningSelector involved))
  if events.isEmpty then pure (.pass none)
  else pure (.info (String.intercalate "\n" (warningLines events)))

end MeshDoctor.Catalogue
