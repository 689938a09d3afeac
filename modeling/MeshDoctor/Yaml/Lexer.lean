import MeshDoctor.Yaml.Token

/-!
# YAML — from characters to tokens

A key shows only at its colon, so the lexer remembers where keys may have started and puts their
tokens in when it comes to the colon.

* `Candidate`: a place where a key may have started.
* `Lexer`: what is known at a position of a text.
* `Lexer.step`: the token at a position.
* `tokens?`: the tokens of a text.
-/

namespace MeshDoctor.Yaml

/-! ## Places of keys -/

/-- The longest key, in octets of UTF-8, with the blanks before its colon. -/
def keyLimit : Nat := 1024

/-- A place where a key may have started. -/
structure Candidate where
  start : Cursor
  /-- The number of tokens before it. -/
  position : Nat
  /-- Must a key start here? So it is where the entries of an open mapping stand. -/
  required : Bool

/-- May the key go on up to `c`? A key fits on one line. -/
def Candidate.reaches (k : Candidate) (c : Cursor) : Bool :=
  let key := k.start.upTo c
  key.all (fun d => !isBreak d) && key.foldl (fun size d => size + d.utf8Size) 0 ≤ keyLimit

/-! ## The lexer -/

/-- What is known at a position of a text. -/
structure Lexer where
  cursor : Cursor
  /-- The columns of the open collections in block form, the innermost first. -/
  columns : List Nat
  /-- Where the innermost key may have started. -/
  candidate : Option Candidate
  /-- Where the keys around the open collections in flow form may have started. -/
  outer : List (Option Candidate)
  /-- The labels that the names of anchors stand for. -/
  labels : List (List Char × Nat)
  /-- The tokens, the last first. -/
  tokens : List Token

namespace Lexer

/-- Is the position inside of a collection in flow form? -/
def flow (l : Lexer) : Bool := !l.outer.isEmpty

/-- The first column inside of the innermost block collection. -/
def low (l : Lexer) : Nat := l.columns.head?.elim 0 (· + 1)

/-- One token more, and the position after it. -/
def emit (t : Token) (c : Cursor) (l : Lexer) : Lexer :=
  { l with cursor := c, tokens := t :: l.tokens }

/-- The end of all block collections in columns that `ends` holds of. -/
def closeBlocks (ends : Nat → Bool) (l : Lexer) : Lexer :=
  if l.flow then l
  else
    { l with
      columns := l.columns.dropWhile ends
      tokens := (l.columns.takeWhile ends).map (fun _ => .blockEnd) ++ l.tokens }

/-- The tokens `new` after the first `position` ones, with the start of a block collection in front if
`column` is further in than the open ones. -/
def openBlock (start : Token) (column position : Nat) (new : List Token) (l : Lexer) : Lexer :=
  if l.flow || column < l.low then { l with tokens := insertFromEnd position new l.tokens }
  else
    { l with
      columns := column :: l.columns
      tokens := insertFromEnd position (start :: new) l.tokens }

/-! ## Candidates -/

/-- No key goes on from here. -/
def dropCandidate (l : Lexer) : Option Lexer :=
  if l.candidate.any (·.required) then none else some { l with candidate := none }

/-- A key may start here. -/
def saveCandidate (l : Lexer) : Option Lexer :=
  if l.cursor.fresh then
    l.dropCandidate.map fun l =>
      { l with
        candidate := some
          ⟨l.cursor, l.tokens.length, !l.flow && l.columns.head? = some l.cursor.column⟩ }
  else some l

/-- Is a key missing where there had to be one? -/
def missesKey (l : Lexer) : Bool :=
  (l.candidate :: l.outer).any fun k => k.any fun k => k.required && !k.reaches l.cursor

/-! ## Tokens -/

/-- A marker at the start or the end of a document. -/
def marker (t : Token) (l : Lexer) : Option Lexer :=
  (l.closeBlocks fun _ => true).dropCandidate.map fun l => l.emit t (l.cursor.past 3 false)

/-- A directive. -/
def directive (rest : List Char) (l : Lexer) : Option Lexer := do
  let l ← (l.closeBlocks fun _ => true).dropCandidate
  let (d, rest) ← readDirective rest
  some (l.emit (.directive d) ⟨0, false, rest.drop 1⟩)

/-- The start of a collection in flow form. -/
def openFlow (t : Token) (l : Lexer) : Option Lexer :=
  l.saveCandidate.map fun l =>
    { l.emit t (l.cursor.past 1 true) with candidate := none, outer := l.candidate :: l.outer }

/-- The end of a collection in flow form. -/
def closeFlow (t : Token) (l : Lexer) : Option Lexer :=
  l.dropCandidate.map fun l =>
    match l.outer with
    | [] => l.emit t (l.cursor.past 1 false)
    | k :: outer => { l.emit t (l.cursor.past 1 false) with candidate := k, outer := outer }

/-- A comma between the parts of a collection in flow form. -/
def comma (l : Lexer) : Option Lexer :=
  l.dropCandidate.map fun l => l.emit .comma (l.cursor.past 1 true)

/-- A dash before an item. -/
def item (l : Lexer) : Option Lexer :=
  if !l.flow && !l.cursor.fresh then none
  else
    (l.openBlock .blockSequence l.cursor.column l.tokens.length []).dropCandidate.map fun l =>
      l.emit .item (l.cursor.past 1 true)

/-- A question mark before a key. -/
def explicitKey (l : Lexer) : Option Lexer :=
  if !l.flow && !l.cursor.fresh then none
  else
    (l.openBlock .blockMapping l.cursor.column l.tokens.length []).dropCandidate.map fun l =>
      l.emit .key (l.cursor.past 1 (!l.flow))

/-- A colon before a value, and the token of its key where that has none. -/
def value (l : Lexer) : Option Lexer :=
  match l.candidate.filter (·.reaches l.cursor) with
  | some k =>
    let l := l.openBlock .blockMapping k.start.column k.position [.key]
    some { l.emit .value (l.cursor.past 1 false) with candidate := none }
  | none =>
    if !l.flow && !l.cursor.fresh then none
    else
      let l := l.openBlock .blockMapping l.cursor.column l.tokens.length []
      some (l.emit .value (l.cursor.past 1 (!l.flow)))

/-- The position after a sign and a name. -/
def afterName (name rest : List Char) (l : Lexer) : Cursor :=
  ⟨l.cursor.column + 1 + name.length, false, rest⟩

/-- An anchor. Its label is the number of the names before it. -/
def anchor (rest : List Char) (l : Lexer) : Option Lexer := do
  let l ← l.saveCandidate
  let (name, rest) ← readName rest
  let label := l.labels.length
  some
    { l.emit (.anchor label) (l.afterName name rest) with
      labels := (name, label) :: l.labels.filter (·.1 ≠ name) }

/-- An alias of a name that stood at an anchor before. -/
def aliasName (rest : List Char) (l : Lexer) : Option Lexer := do
  let l ← l.saveCandidate
  let (name, rest) ← readName rest
  let label ← l.labels.lookup name
  some (l.emit (.alias label) (l.afterName name rest))

/-- A tag. -/
def tag (rest : List Char) (l : Lexer) : Option Lexer := do
  let l ← l.saveCandidate
  let (t, after) ← readTag l.flow rest
  some (l.emit (.tag t) ⟨l.cursor.column + 1 + (rest.length - after.length), false, after⟩)

/-- A scalar in block form. -/
def blockScalar (folded : Bool) (rest : List Char) (l : Lexer) : Option Lexer := do
  let l ← l.dropCandidate
  let (text, after) ← readBlockText folded l.low rest
  some (l.emit (.scalar (if folded then .folded else .literal) text) after)

/-- A scalar between quotes. -/
def quotedScalar (style : Style) (line : List Char → Option (List Char × LineEnd × List Char))
    (rest : List Char) (l : Lexer) : Option Lexer := do
  let l ← l.saveCandidate
  let (text, after) ← readQuoted line (rest.length + 1) (l.cursor.column + 1) rest
  some (l.emit (.scalar style text) after)

/-- A scalar without quotes. -/
def plainScalar (l : Lexer) : Option Lexer := do
  let l ← l.saveCandidate
  let (text, after) ← readPlain l.flow l.low (l.cursor.rest.length + 1) l.cursor
  some (l.emit (.scalar .plain text) after)

/-- The token at a position. -/
def step (l : Lexer) : Option Lexer :=
  let c := l.cursor
  if c.atMarker "---" then l.marker .documentStart
  else if c.atMarker "..." then l.marker .documentEnd
  else
    match c.rest with
    | [] => none
    | d :: rest =>
      if d = '%' && c.column = 0 then l.directive rest
      else if startsPlain l.flow d rest then l.plainScalar
      else
        match d with
        | '[' => l.openFlow .openBracket
        | '\x7b' => l.openFlow .openBrace
        | ']' => l.closeFlow .closeBracket
        | '\x7d' => l.closeFlow .closeBrace
        | ',' => l.comma
        | '-' => l.item
        | '?' => l.explicitKey
        | ':' => l.value
        | '*' => l.aliasName rest
        | '&' => l.anchor rest
        | '!' => l.tag rest
        | '|' => if l.flow then none else l.blockScalar false rest
        | '>' => if l.flow then none else l.blockScalar true rest
        | '\'' => l.quotedScalar .single singleLine rest
        | '"' => l.quotedScalar .double doubleLine rest
        | _ => none

/-- The next token of the text, over what stands between. -/
def advance (l : Lexer) : Option Lexer :=
  let l := { l with cursor := l.cursor.skip l.flow }
  if l.missesKey then none else some (l.closeBlocks fun column => l.cursor.column < column)

/-- All tokens from a position on, the last first. -/
def run : (fuel : Nat) → Lexer → Option (List Token)
  | 0, _ => none
  | fuel + 1, l => do
    let l ← l.advance
    if l.cursor.rest.isEmpty then (l.closeBlocks fun _ => true).dropCandidate.map (·.tokens)
    else (← l.step).run fuel

end Lexer

/-- The tokens of a text. -/
def tokens? (cs : List Char) : Option (List Token) :=
  if !cs.all isAllowed then none
  else
    let cs := unifyBreaks cs
    (Lexer.run (cs.length + 1) ⟨⟨0, true, cs⟩, [], none, [], [], []⟩).map List.reverse

end MeshDoctor.Yaml
