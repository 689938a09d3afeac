import MeshDoctor.Text.Radix
import MeshDoctor.Yaml.Cursor

/-!
# YAML — scalars

The five ways to write a text. A scalar that goes over several lines is read line by line, and the
line ends between are folded.

* `Style`: the ways.
* `plainLine`, `readPlain`: without quotes; ends before a colon or a comment.
* `singleLine`, `doubleLine`, `readQuoted`: between quotes.
* `readBlockText`: below an indicator, literally or folded.
-/

namespace MeshDoctor.Yaml

/-- The ways to write a scalar. -/
inductive Style where
  | plain
  | single
  | double
  | literal
  | folded
  deriving DecidableEq, Repr

/-! ## Plain scalars -/

/-- The indicators that structure flow collections. -/
def isFlowMark (c : Char) : Bool :=
  c = ',' || c = '[' || c = ']' || c = '\x7b' || c = '\x7d'

/-- The indicators that no plain scalar starts with. -/
def isMark (c : Char) : Bool :=
  isFlowMark c || c = '#' || c = '&' || c = '*' || c = '!' || c = '|' || c = '>' || c = '\'' || c = '"'
    || c = '%' || c = '@' || c = Char.ofNat 0x60

/-- Does a plain scalar start with `c`, followed by `rest`? -/
def startsPlain (flow : Bool) (c : Char) (rest : List Char) : Bool :=
  if c = '-' then !endsWord rest
  else if c = '?' || c = ':' then !flow && !endsWord rest
  else !isBlank c && !isBreak c && !isMark c

/-- The characters of a plain scalar on one line, blanks at the end included. -/
def plainLine (flow afterBlank : Bool) : List Char → Option (List Char × List Char)
  | [] => some ([], [])
  | c :: rest =>
    if isBreak c || (c = '#' && afterBlank) || (c = ':' && endsWord rest) || (flow && isFlowMark c) then
      some ([], c :: rest)
    else if flow && c = ':' && rest.head?.any (fun d => isFlowMark d || d = '?') then none
    else (plainLine flow (isBlank c) rest).map fun (line, rest) => (c :: line, rest)

/-- A plain scalar and the position after it. Outside of flow collections its further lines start
at column `low` or later. -/
def readPlain (flow : Bool) (low : Nat) : (fuel : Nat) → Cursor → Option (List Char × Cursor)
  | 0, _ => none
  | fuel + 1, c => do
    let (line, rest) ← plainLine flow true c.rest
    let text := dropLastBlanks line
    if text.isEmpty then some ([], c)
    else if !breakAhead rest then some (text, ⟨c.column + line.length, false, rest⟩)
    else
      let (breaks, column, rest) ← readBreaks low 0 rest
      let next : Cursor := ⟨column, true, rest⟩
      if (!flow && column < low) || next.atEnd then some (text, next)
      else
        let (more, after) ← readPlain flow low fuel next
        if more.isEmpty then some (text, next) else some (text ++ foldBreaks breaks ++ more, after)

/-! ## Quoted scalars -/

/-- How a line of a quoted scalar ends. -/
inductive LineEnd where
  /-- The closing quote. -/
  | closed
  /-- Blanks and a line end. -/
  | broken
  /-- A line end that stands for nothing. -/
  | joined
  deriving DecidableEq, Repr

/-- A line between single quotes, where a quote is written twice. -/
def singleLine : List Char → Option (List Char × LineEnd × List Char)
  | [] => none
  | '\'' :: '\'' :: rest => (singleLine rest).map fun (line, more) => ('\'' :: line, more)
  | c :: rest =>
    if c = '\'' then some ([], .closed, rest)
    else if breakAhead (c :: rest) then some ([], .broken, c :: rest)
    else (singleLine rest).map fun (line, more) => (c :: line, more)

/-- The character that an escape of one character stands for. -/
def shortEscape? : Char → Option Char
  | '0' => some '\x00'
  | 'a' => some '\x07'
  | 'b' => some '\x08'
  | 't' => some '\t'
  | '\t' => some '\t'
  | 'n' => some '\n'
  | 'v' => some '\x0b'
  | 'f' => some '\x0c'
  | 'r' => some '\r'
  | 'e' => some '\x1b'
  | ' ' => some ' '
  | '"' => some '"'
  | '/' => some '/'
  | '\\' => some '\\'
  | 'N' => some '\u0085'
  | '_' => some '\u00a0'
  | 'L' => some '\u2028'
  | 'P' => some '\u2029'
  | _ => none

/-- The number of hexadecimal digits after an escape character. -/
def escapeWidth : Char → Nat
  | 'x' => 2
  | 'u' => 4
  | 'U' => 8
  | _ => 0

/-- The character of a number in hexadecimal digits, if it is one. -/
def hexCharacter? (digits : List Char) : Option Char := do
  let n ← Text.digitsValue? 16 digits
  if n < 0xD800 || (0xDFFF < n && n ≤ 0x10FFFF) then some (Char.ofNat n) else none

/-- The character that an escape stands for and the number of characters after the backslash. -/
def readEscape (e : Char) (rest : List Char) : Option (Char × Nat) :=
  match shortEscape? e with
  | some c => some (c, 1)
  | none =>
    let width := escapeWidth e
    if width = 0 || rest.length < width then none
    else (hexCharacter? (rest.take width)).map fun c => (c, 1 + width)

/-- A line between double quotes, where a backslash starts an escape. -/
def doubleLine : List Char → Option (List Char × LineEnd × List Char)
  | [] => none
  | c :: rest =>
    if c = '"' then some ([], .closed, rest)
    else if c = '\\' then
      match rest with
      | [] => none
      | e :: more =>
        if isBreak e then some ([], .joined, more)
        else do
          let (d, length) ← readEscape e more
          let (line, more) ← doubleLine (more.drop (length - 1))
          some (d :: line, more)
    else if breakAhead (c :: rest) then some ([], .broken, c :: rest)
    else (doubleLine rest).map fun (line, more) => (c :: line, more)
  termination_by cs => cs.length
  decreasing_by all_goals simp only [List.length_drop, List.length_cons]; omega

/-- A quoted scalar after its opening quote, with lines as `line` reads them. -/
def readQuoted (line : List Char → Option (List Char × LineEnd × List Char)) :
    (fuel column : Nat) → List Char → Option (List Char × Cursor)
  | 0, _, _ => none
  | fuel + 1, column, cs => do
    let (text, ending, rest) ← line cs
    match ending with
    | .closed => some (text, ⟨column + (cs.length - rest.length), false, rest⟩)
    | _ =>
      let (breaks, column, rest) ← readBreaks 0 0 rest
      if (Cursor.mk column true rest).atEnd then none
      else
        let gap := if ending = .joined then breaks else foldBreaks breaks
        let (more, after) ← readQuoted line fuel column rest
        some (text ++ gap ++ more, after)

/-! ## Block scalars -/

/-- What happens to the line ends after the last line of a block scalar. -/
inductive Chomping where
  | strip
  | clip
  | keep
  deriving DecidableEq, Repr

/-- The sign of an indicator that says what happens to the last line ends. -/
def chomping? : Char → Option Chomping
  | '-' => some .strip
  | '+' => some .keep
  | _ => none

/-- The digit of an indicator that says how far the lines are indented. -/
def indentDigit? (c : Char) : Option Nat :=
  if '1' ≤ c ∧ c ≤ '9' then some (c.toNat - '0'.toNat) else none

/-- The sign and the digit after an indicator, in either order. -/
def readHeader (cs : List Char) : Chomping × Option Nat × List Char :=
  match cs with
  | [] => (.clip, none, [])
  | c :: rest =>
    match chomping? c, indentDigit? c with
    | some sign, _ =>
      match rest with
      | d :: more =>
        match indentDigit? d with
        | some n => (sign, some n, more)
        | none => (sign, none, rest)
      | [] => (sign, none, [])
    | none, some n =>
      match rest with
      | d :: more =>
        match chomping? d with
        | some sign => (sign, some n, more)
        | none => (.clip, some n, rest)
      | [] => (.clip, some n, [])
    | none, none => (.clip, none, cs)

/-- The line ends before the next line that has more than `indent` leading blanks. -/
def blockGap (indent column : Nat) : List Char → Option (List Char × Nat × List Char)
  | [] => some ([], column, [])
  | c :: rest =>
    if isBreak c then
      (blockGap indent 0 rest).map fun (breaks, column, rest) => (c :: breaks, column, rest)
    else if c = ' ' && column < indent then blockGap indent (column + 1) rest
    else if c = '\t' && column < indent then none
    else some ([], column, c :: rest)

/-- The line ends before the first line, its column, and the greatest column of all these lines. -/
def firstGap (deepest column : Nat) : List Char → Option (List Char × Nat × Nat × List Char)
  | [] => some ([], column, max deepest column, [])
  | c :: rest =>
    if isBreak c then
      (firstGap (max deepest column) 0 rest).map fun (breaks, more) => (c :: breaks, more)
    else if c = ' ' then firstGap deepest (column + 1) rest
    else if c = '\t' then none
    else some ([], column, max deepest column, c :: rest)

/-- What stands before a further line of a block scalar: in a folded one a single line end between
lines that do not start with a blank is a blank. -/
def blockJoin (folded previousBlank nextBlank : Bool) (lineEnd gap : List Char) : List Char :=
  if folded && lineEnd = ['\n'] && !previousBlank && !nextBlank then
    (if gap.isEmpty then [' '] else gap)
  else lineEnd ++ gap

/-- The lines of a block scalar at column `indent`, from the line at `cs`. `lineEnd` and `gap` are
the line ends before it. -/
def blockLines (folded : Bool) (indent : Nat) (sign : Chomping) :
    (fuel column : Nat) → (previousBlank : Bool) → (lineEnd gap cs : List Char) →
      Option (List Char × Cursor)
  | 0, _, _, _, _, _ => none
  | fuel + 1, column, previousBlank, lineEnd, gap, cs =>
    if column ≠ indent || cs.isEmpty then
      let last :=
        match sign with
        | .strip => []
        | .clip => lineEnd
        | .keep => lineEnd ++ gap
      some (last, ⟨column, true, cs⟩)
    else do
      let nextBlank := cs.head?.any isBlank
      let line := cs.takeWhile fun c => !isBreak c
      let rest := cs.dropWhile fun c => !isBreak c
      let (newGap, column, after) ← blockGap indent 0 (rest.drop 1)
      let (more, c) ← blockLines folded indent sign fuel column nextBlank (rest.take 1) newGap after
      some (blockJoin folded previousBlank nextBlank lineEnd gap ++ line ++ more, c)

/-- A block scalar after its indicator, inside of something whose content starts at column `low` or
later. -/
def readBlockText (folded : Bool) (low : Nat) (cs : List Char) : Option (List Char × Cursor) := do
  let (sign, digit, rest) := readHeader cs
  let rest := rest.dropWhile isBlank
  let rest := if rest.head? = some '#' then rest.dropWhile (fun c => !isBreak c) else rest
  if !endsWord rest then none
  else
    let body := rest.drop 1
    match digit with
    | some n =>
      let indent := low - 1 + n
      let (gap, column, after) ← blockGap indent 0 body
      blockLines folded indent sign (body.length + 1) column false [] gap after
    | none =>
      let (gap, column, deepest, after) ← firstGap 0 0 body
      blockLines folded (max deepest (max low 1)) sign (body.length + 1) column false [] gap after

end MeshDoctor.Yaml
