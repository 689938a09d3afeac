import MeshDoctor.Yaml.Property

/-!
# YAML — tokens

The indentation of a text shows in its tokens: each block collection has a token where it starts and
one where it ends, and each key a token before it.

* `Token`: the tokens.
* `insertFromEnd`: putting tokens before ones that are already there.
-/

namespace MeshDoctor.Yaml

/-- The tokens of a text. -/
inductive Token where
  | directive (d : Directive)
  /-- The marker at the start of a document. -/
  | documentStart
  /-- The marker at the end of a document. -/
  | documentEnd
  /-- The start of a sequence in block form. -/
  | blockSequence
  /-- The start of a mapping in block form. -/
  | blockMapping
  /-- The end of a collection in block form. -/
  | blockEnd
  /-- The dash before an item. -/
  | item
  | openBracket
  | closeBracket
  | openBrace
  | closeBrace
  | comma
  /-- The start of a key. -/
  | key
  /-- The colon before a value. -/
  | value
  /-- A name for the node that follows. -/
  | anchor (label : Nat)
  /-- The node of a name. -/
  | alias (label : Nat)
  | tag (t : TagText)
  | scalar (style : Style) (text : List Char)
  deriving DecidableEq, Repr

/-- A list in reverse order with `new`, in order, before all but its first `n` elements. -/
def insertFromEnd {α : Type} (n : Nat) (new reversed : List α) : List α :=
  let behind := reversed.length - n
  reversed.take behind ++ new.reverse ++ reversed.drop behind

end MeshDoctor.Yaml
