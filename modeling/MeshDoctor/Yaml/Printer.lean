import MeshDoctor.Json.Printer
import MeshDoctor.Yaml.Resolution
import MeshDoctor.Yaml.Scalar

/-!
# YAML — printing

A text is written plainly where that reads back as the same text, else between single quotes; one of
several lines is written literally, and one with characters that cannot be shown between double
quotes.

* `Style.of`: how a text is written.
* `writeScalar`: the written text.
* `writeEntry`: a line of a mapping.
-/

namespace MeshDoctor.Yaml

/-! ## Styles -/

/-- Can the character be shown as it is? -/
def isShown (c : Char) : Bool :=
  let n := c.toNat
  n = 0x0A || (0x20 ≤ n && n ≤ 0x7E) || (0xA0 ≤ n && n ≤ 0xD7FF)
    || (0xE000 ≤ n && n ≤ 0xFFFD && n ≠ 0xFEFF) || 0x10000 ≤ n

/-- Does an indicator inside the text end a plain scalar? -/
def hasInnerMark (afterBlank : Bool) : List Char → Bool
  | [] => false
  | c :: rest =>
    (c = '#' && afterBlank) || (c = ':' && endsWord rest) || hasInnerMark (isBlank c || isBreak c) rest

/-- Can the text be written without quotes? -/
def isPlain (cs : List Char) : Bool :=
  match cs with
  | [] => false
  | c :: rest =>
    startsPlain false c rest && !cs.any isBreak && !(cs.getLast?.any isBlank) && !hasInnerMark true cs
      && !("---".toList.isPrefixOf cs) && !("...".toList.isPrefixOf cs)

/-- Does a character of the first kind stand before one of the second? -/
def hasPair (first second : Char → Bool) : List Char → Bool
  | c :: d :: rest => (first c && second d) || hasPair first second (d :: rest)
  | _ => false

/-- Does only an escape keep a character or a blank of the text? -/
def needsEscapes (cs : List Char) : Bool :=
  cs.any (fun c => !isShown c) || hasPair (· = ' ') isBreak cs

/-- How a text is written. -/
def Style.of (cs : List Char) : Style :=
  if needsEscapes cs then .double
  else if cs.any (· = '\n') then
    if cs.getLast? = some ' ' then .double else .literal
  else if !needsQuotes cs && isPlain cs then .plain
  else if hasPair isBreak (· = ' ') cs then .double
  else .single

/-! ## Writing -/

/-- A character between double quotes. -/
def escapeShown (c : Char) : List Char :=
  if c = '"' then ['\\', '"']
  else if c = '\\' then ['\\', '\\']
  else if isShown c && !isBreak c then [c]
  else
    match c.toNat with
    | 0x00 => ['\\', '0']
    | 0x07 => ['\\', 'a']
    | 0x08 => ['\\', 'b']
    | 0x09 => ['\\', 't']
    | 0x0A => ['\\', 'n']
    | 0x0B => ['\\', 'v']
    | 0x0C => ['\\', 'f']
    | 0x0D => ['\\', 'r']
    | 0x1B => ['\\', 'e']
    | 0x85 => ['\\', 'N']
    | 0x2028 => ['\\', 'L']
    | 0x2029 => ['\\', 'P']
    | n =>
      if n ≤ 0xFF then '\\' :: 'x' :: Text.hexDigits 2 n
      else if n ≤ 0xFFFF then '\\' :: 'u' :: Text.hexDigits 4 n
      else '\\' :: 'U' :: Text.hexDigits 8 n

/-- Characters over several lines, where every line but an empty one is indented. `starts` says that a
line starts here. -/
def indentLines (starts : Bool) : List Char → List Char
  | [] => []
  | c :: rest =>
    if isBreak c then c :: indentLines true rest
    else if starts then ' ' :: ' ' :: c :: indentLines false rest
    else c :: indentLines false rest

/-- A text between single quotes, where a quote is written twice. A last line is indented even if it is
empty. -/
def quoteSingle (cs : List Char) : List Char :=
  let doubled := cs.flatMap fun c => if c = '\'' then ['\'', '\''] else [c]
  let indent := if cs.getLast?.any isBreak then [' ', ' '] else []
  '\'' :: indentLines false doubled ++ indent ++ ['\'']

/-- The signs after the indicator of a literal text. -/
def literalHints (cs : List Char) : List Char :=
  let indent := if cs.head?.any (fun c => c = ' ' || isBreak c) then ['2'] else []
  let sign :=
    match cs.reverse with
    | [] => ['-']
    | [c] => if isBreak c then ['+'] else ['-']
    | c :: d :: _ => if !isBreak c then ['-'] else if isBreak d then ['+'] else []
  indent ++ sign

/-- A literal text of several lines after its indicator. -/
def writeLiteral (cs : List Char) : List Char :=
  '|' :: literalHints cs ++ '\n' :: indentLines true cs

/-- A text as the value of an entry at the top of a document. -/
def writeScalar (cs : List Char) : List Char :=
  match Style.of cs with
  | .plain => cs
  | .single => quoteSingle cs
  | .double => '"' :: cs.flatMap escapeShown ++ ['"']
  | _ => writeLiteral cs

/-- A line of a mapping with a name that is written plainly. A literal text may bring its line end. -/
def writeEntry (name : String) (value : List Char) : List Char :=
  name.toList ++ ':' :: ' ' :: value ++ if value.getLast?.any isBreak then [] else ['\n']

end MeshDoctor.Yaml
