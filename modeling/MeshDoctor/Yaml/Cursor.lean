/-!
# YAML — characters and positions

* `isBlank`, `isBreak`: the characters between words and between lines.
* `Cursor`: a position in a text, with its column and whether a key may start there.
* `Cursor.skip`: the next token, over blanks, comments and line ends.
* `Cursor.upTo`: what stands between two positions.
* `readBreaks`, `foldBreaks`: the line ends inside a scalar and the text that they stand for.
-/

namespace MeshDoctor.Yaml

/-! ## Characters -/

/-- The characters between words on one line. -/
def isBlank (c : Char) : Bool := c = ' ' || c = '\t'

/-- The characters that end a line, once they are unified. -/
def isBreak (c : Char) : Bool := c = '\n' || c = '\u2028' || c = '\u2029'

/-- The characters that a text may contain. -/
def isAllowed (c : Char) : Bool :=
  let n := c.toNat
  n = 0x09 || n = 0x0A || n = 0x0D || (0x20 ≤ n && n ≤ 0x7E) || n = 0x85
    || (0xA0 ≤ n && n ≤ 0xD7FF) || (0xE000 ≤ n && n ≤ 0xFFFD) || 0x10000 ≤ n

/-- The characters with one spelling for each line end. -/
def unifyBreaks : List Char → List Char
  | [] => []
  | '\r' :: '\n' :: rest => '\n' :: unifyBreaks rest
  | c :: rest => (if c = '\r' || c = '\u0085' then '\n' else c) :: unifyBreaks rest

/-- Does a word end before these characters? -/
def endsWord : List Char → Bool
  | [] => true
  | c :: _ => isBlank c || isBreak c

/-- Does a line end after blanks? -/
def breakAhead : List Char → Bool
  | [] => false
  | c :: rest => isBreak c || (isBlank c && breakAhead rest)

/-- Characters without the blanks at their end. -/
def dropLastBlanks (cs : List Char) : List Char :=
  (cs.reverse.dropWhile isBlank).reverse

/-! ## Positions -/

/-- A position in a text. -/
structure Cursor where
  /-- The number of characters before it on its line. -/
  column : Nat
  /-- May a key start here? -/
  fresh : Bool
  rest : List Char

namespace Cursor

/-- The next token. In a flow collection tabs are blanks everywhere; elsewhere they do not indent. A
byte order mark may start a line; it is no token but takes a column. -/
def skipFrom (flow comment fresh : Bool) (column : Nat) : List Char → Cursor
  | [] => ⟨column, fresh, []⟩
  | c :: rest =>
    if isBreak c then skipFrom flow false (fresh || !flow) 0 rest
    else if comment then skipFrom flow true fresh (column + 1) rest
    else if c = '#' then skipFrom flow true fresh (column + 1) rest
    else if column = 0 && c = '\uFEFF' then skipFrom flow false fresh 1 rest
    else if c = ' ' || (c = '\t' && (flow || !fresh)) then
      skipFrom flow false fresh (column + 1) rest
    else ⟨column, fresh, c :: rest⟩

/-- The next token. -/
def skip (flow : Bool) (c : Cursor) : Cursor :=
  skipFrom flow false c.fresh c.column c.rest

/-- The position after `n` characters of a token. -/
def past (c : Cursor) (n : Nat) (fresh : Bool) : Cursor :=
  ⟨c.column + n, fresh, c.rest.drop n⟩

/-- The characters from one position to a later one. -/
def upTo (start stop : Cursor) : List Char :=
  start.rest.take (start.rest.length - stop.rest.length)

/-- Does a line start here with this marker of a document? -/
def atMarker (marker : String) (c : Cursor) : Bool :=
  c.column = 0 &&
    match marker.toList.isPrefixOf? c.rest with
    | some rest => endsWord rest
    | none => false

/-- Does the document end here? -/
def atEnd (c : Cursor) : Bool :=
  c.rest.isEmpty || c.atMarker "---" || c.atMarker "..."

/-- Does the indicator `mark` stand here as a word? -/
def atWord (mark : Char) (c : Cursor) : Bool :=
  match c.rest with
  | d :: rest => d = mark && endsWord rest
  | [] => false

end Cursor

/-! ## Line ends inside scalars -/

/-- The line ends before the next word, with its column. A tab may not stand before column `low`. -/
def readBreaks (low column : Nat) : List Char → Option (List Char × Nat × List Char)
  | [] => some ([], column, [])
  | c :: rest =>
    if isBreak c then
      (readBreaks low 0 rest).map fun (breaks, column, rest) => (c :: breaks, column, rest)
    else if c = ' ' || (c = '\t' && low ≤ column) then readBreaks low (column + 1) rest
    else if c = '\t' then none
    else some ([], column, c :: rest)

/-- What the line ends between two words stand for: a single one is a blank, of several the first
only ends the line. -/
def foldBreaks : List Char → List Char
  | ['\n'] => [' ']
  | '\n' :: more => more
  | breaks => breaks

end MeshDoctor.Yaml
