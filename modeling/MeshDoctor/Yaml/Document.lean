import MeshDoctor.Yaml.Lexer
import MeshDoctor.Yaml.Node

/-!
# YAML — documents

A text holds one document at most. Directives stand before the marker of its start.

* `readDocument`: the document that tokens stand for.
* `Document.read?`: the document that a text holds, if it holds one.
* `Document.resolve`: the node that an alias stands for.
-/

namespace MeshDoctor.Yaml

/-- A document. -/
structure Document where
  root : Node
  deriving Repr, Inhabited

namespace Document

/-- The node that an alias stands for; any other node stands for itself. -/
def resolve (d : Document) (n : Node) : Node :=
  match n with
  | .alias label => (d.root.labelled? label).getD n
  | _ => n

end Document

/-! ## Reading -/

/-- The directives in front of other tokens. -/
def readDirectives : List Token → List Directive × List Token
  | .directive d :: rest => let (ds, rest) := readDirectives rest; (d :: ds, rest)
  | rest => ([], rest)

/-- Does the document end before these tokens? -/
def endsDocument : List Token → Bool
  | [] => true
  | .directive _ :: _ | .documentStart :: _ | .documentEnd :: _ => true
  | _ => false

/-- The document at these tokens, of which there is one. Without the marker of its start it has content. -/
def readDocument (tokens : List Token) : Option (Document × List Token) := do
  let (directives, rest) := readDirectives tokens
  let handles ← handlesOf? directives
  let fuel := 4 * tokens.length + 4
  let (root, rest) ←
    match rest with
    | .documentStart :: rest =>
      if endsDocument rest then some (.nothing, rest) else readNode handles true false fuel rest
    | _ => if directives.isEmpty then readNode handles true false fuel rest else none
  some (⟨root⟩, rest)

/-- The document that a text holds; a text of blanks and comments holds none. -/
def Document.read? (text : String) : Option (Option Document) := do
  match ← tokens? text.toList with
  | [] => some none
  | tokens =>
    let (d, rest) ← readDocument tokens
    if rest.all (· = .documentEnd) then some (some d) else none

end MeshDoctor.Yaml
