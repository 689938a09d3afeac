import MeshDoctor.Yaml.Token

/-!
# YAML — nodes

A document is a tree of scalars, sequences, mappings and aliases. A node has a label where an alias may
refer to it.

* `Node`: the tree.
* `readNode`: the node that tokens stand for.
* `Node.labelled?`: the node with a label.
-/

namespace MeshDoctor.Yaml

/-- A tree of a document. -/
inductive Node where
  | alias (label : Nat)
  | scalar (label : Option Nat) (tag : Option Tag) (style : Style) (text : String)
  | sequence (label : Option Nat) (items : List Node)
  | mapping (label : Option Nat) (entries : List (Node × Node))
  deriving Repr, Inhabited

/-- The node where nothing is written. -/
def Node.nothing : Node := .scalar none none .plain ""

/-! ## Labels -/

mutual

/-- The nodes with labels, in the order of their starts. -/
def Node.labelled : Node → List (Nat × Node)
  | .alias _ => []
  | .scalar label tag style text => (label.map fun n => (n, .scalar label tag style text)).toList
  | .sequence label items =>
    (label.map fun n => (n, .sequence label items)).toList ++ labelledItems items
  | .mapping label entries =>
    (label.map fun n => (n, .mapping label entries)).toList ++ labelledEntries entries

/-- The nodes with labels in the items of a sequence. -/
def labelledItems : List Node → List (Nat × Node)
  | [] => []
  | item :: items => item.labelled ++ labelledItems items

/-- The nodes with labels in the entries of a mapping. -/
def labelledEntries : List (Node × Node) → List (Nat × Node)
  | [] => []
  | (key, value) :: entries => key.labelled ++ value.labelled ++ labelledEntries entries

end

/-- The last node with a label. -/
def Node.labelled? (root : Node) (label : Nat) : Option Node :=
  root.labelled.reverse.lookup label

/-! ## Anchors and tags -/

/-- What stands before the content of a node. -/
structure Properties where
  label : Option Nat
  tag : Option TagText

/-- The properties of a node: an anchor and a tag, in either order. -/
def readProperties : List Token → Properties × List Token
  | .anchor name :: .tag t :: rest => (⟨some name, some t⟩, rest)
  | .tag t :: .anchor name :: rest => (⟨some name, some t⟩, rest)
  | .anchor name :: rest => (⟨some name, none⟩, rest)
  | .tag t :: rest => (⟨none, some t⟩, rest)
  | rest => (⟨none, none⟩, rest)

/-- The tag of a scalar that is written. The tag that is a mark alone is none. -/
def scalarTag (tag : Option Tag) : Option Tag :=
  tag.filter (· ≠ ['!'])

/-! ## Reading tokens -/

/-- Is the next token one of these? -/
def nextIs (these : List Token) (tokens : List Token) : Bool :=
  tokens.head?.any these.contains

mutual

/-- A node; one in block form only where `block` holds, and a sequence without a start of its own only
where `unindented` does. Tags have the handles `handles`. -/
def readNode (handles : List (List Char × Tag)) (block unindented : Bool) :
    (fuel : Nat) → List Token → Option (Node × List Token)
  | 0, _ => none
  | fuel + 1, tokens =>
    match tokens with
    | .alias name :: rest => some (.alias name, rest)
    | _ => do
      let (props, rest) := readProperties tokens
      let tag ←
        match props.tag with
        | none => some none
        | some t => (t.resolve? handles).map some
      match rest, block, unindented with
      | .item :: _, _, true =>
        let (items, rest) ← readUnindented handles fuel rest
        some (.sequence props.label items, rest)
      | .scalar style text :: rest, _, _ =>
        some (.scalar props.label (scalarTag tag) style (String.ofList text), rest)
      | .openBracket :: rest, _, _ =>
        let (items, rest) ← readFlowItems handles fuel rest
        some (.sequence props.label items, rest)
      | .openBrace :: rest, _, _ =>
        let (entries, rest) ← readFlowEntries handles fuel rest
        some (.mapping props.label entries, rest)
      | .blockSequence :: rest, true, _ =>
        let (items, rest) ← readItems handles fuel rest
        some (.sequence props.label items, rest)
      | .blockMapping :: rest, true, _ =>
        let (entries, rest) ← readEntries handles fuel rest
        some (.mapping props.label entries, rest)
      | _, _, _ =>
        if props.label.isSome || props.tag.isSome then
          some (.scalar props.label tag .plain "", rest)
        else none

/-- A node, or nothing where one of the tokens `stops` follows. -/
def readOptional (handles : List (List Char × Tag)) (block unindented : Bool) (stops : List Token) :
    (fuel : Nat) → List Token → Option (Node × List Token)
  | 0, _ => none
  | fuel + 1, tokens =>
    if nextIs stops tokens then some (.nothing, tokens) else readNode handles block unindented fuel tokens

/-- The items of a sequence in block form up to its end. -/
def readItems (handles : List (List Char × Tag)) :
    (fuel : Nat) → List Token → Option (List Node × List Token)
  | 0, _ => none
  | fuel + 1, tokens =>
    match tokens with
    | .blockEnd :: rest => some ([], rest)
    | .item :: rest => do
      let (item, rest) ← readOptional handles true false [.item, .blockEnd] fuel rest
      let (items, rest) ← readItems handles fuel rest
      some (item :: items, rest)
    | _ => none

/-- The items of a sequence in the column of the key before it. -/
def readUnindented (handles : List (List Char × Tag)) :
    (fuel : Nat) → List Token → Option (List Node × List Token)
  | 0, _ => none
  | fuel + 1, tokens =>
    match tokens with
    | .item :: rest => do
      let (item, rest) ←
        readOptional handles true false [.item, .key, .value, .blockEnd] fuel rest
      let (items, rest) ← readUnindented handles fuel rest
      some (item :: items, rest)
    | rest => some ([], rest)

/-- The entries of a mapping in block form up to its end. -/
def readEntries (handles : List (List Char × Tag)) :
    (fuel : Nat) → List Token → Option (List (Node × Node) × List Token)
  | 0, _ => none
  | fuel + 1, tokens =>
    match tokens with
    | .blockEnd :: rest => some ([], rest)
    | .key :: rest => do
      let stops := [.key, .value, .blockEnd]
      let (key, rest) ← readOptional handles true true stops fuel rest
      let (value, rest) ←
        match rest with
        | .value :: rest => readOptional handles true true stops fuel rest
        | rest => some (.nothing, rest)
      let (entries, rest) ← readEntries handles fuel rest
      some ((key, value) :: entries, rest)
    | _ => none

/-- The items of a sequence in flow form from here to its bracket. A key makes a mapping of one entry;
the token after a key that is not written is passed over. -/
def readFlowItems (handles : List (List Char × Tag)) :
    (fuel : Nat) → List Token → Option (List Node × List Token)
  | 0, _ => none
  | fuel + 1, tokens =>
    match tokens with
    | .closeBracket :: rest => some ([], rest)
    | .key :: rest => do
      let (key, rest) ←
        if nextIs [.value, .comma, .closeBracket] rest then some (.nothing, rest.drop 1)
        else readNode handles false false fuel rest
      let (value, rest) ← readFlowValue handles .closeBracket fuel rest
      let (items, rest) ← readMoreFlowItems handles fuel rest
      some (.mapping none [(key, value)] :: items, rest)
    | tokens => do
      let (item, rest) ← readNode handles false false fuel tokens
      let (items, rest) ← readMoreFlowItems handles fuel rest
      some (item :: items, rest)

/-- The items of a sequence in flow form after one of them. -/
def readMoreFlowItems (handles : List (List Char × Tag)) :
    (fuel : Nat) → List Token → Option (List Node × List Token)
  | 0, _ => none
  | fuel + 1, tokens =>
    match tokens with
    | .comma :: rest => readFlowItems handles fuel rest
    | .closeBracket :: rest => some ([], rest)
    | _ => none

/-- The value after a key in a collection in flow form with the end `close`. -/
def readFlowValue (handles : List (List Char × Tag)) (close : Token) :
    (fuel : Nat) → List Token → Option (Node × List Token)
  | 0, _ => none
  | fuel + 1, tokens =>
    match tokens with
    | .value :: rest => readOptional handles false false [.comma, close] fuel rest
    | rest => some (.nothing, rest)

/-- The entries of a mapping in flow form from here to its brace. -/
def readFlowEntries (handles : List (List Char × Tag)) :
    (fuel : Nat) → List Token → Option (List (Node × Node) × List Token)
  | 0, _ => none
  | fuel + 1, tokens =>
    match tokens with
    | .closeBrace :: rest => some ([], rest)
    | .key :: rest => do
      let (key, rest) ← readOptional handles false false [.value, .comma, .closeBrace] fuel rest
      let (value, rest) ← readFlowValue handles .closeBrace fuel rest
      let (entries, rest) ← readMoreFlowEntries handles fuel rest
      some ((key, value) :: entries, rest)
    | tokens => do
      let (key, rest) ← readNode handles false false fuel tokens
      let (entries, rest) ← readMoreFlowEntries handles fuel rest
      some ((key, .nothing) :: entries, rest)

/-- The entries of a mapping in flow form after one of them. -/
def readMoreFlowEntries (handles : List (List Char × Tag)) :
    (fuel : Nat) → List Token → Option (List (Node × Node) × List Token)
  | 0, _ => none
  | fuel + 1, tokens =>
    match tokens with
    | .comma :: rest => readFlowEntries handles fuel rest
    | .closeBrace :: rest => some ([], rest)
    | _ => none

end

end MeshDoctor.Yaml
