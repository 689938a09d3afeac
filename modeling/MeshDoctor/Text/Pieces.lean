/-!
# Text — cutting and trimming

Texts are cut on their lists of characters, so that every cut has a small equation.

* `cutFirst`, `cutLast`: the two sides of the first and of the last separator.
* `cutWord`: the two sides of the first occurrence of a word.
* `trim`: a text without the blank characters at both ends.
* `lines`: the lines of a text, a carriage return before a line end belonging to the line end.
-/

namespace MeshDoctor.Text

/-! ## Cutting at separators -/

/-- The characters before and after the first `sep`. -/
def cutFirst (sep : Char) : List Char → Option (List Char × List Char)
  | [] => none
  | c :: rest =>
    if c = sep then some ([], rest)
    else (cutFirst sep rest).map fun (before, after) => (c :: before, after)

/-- The characters before and after the last `sep`. -/
def cutLast (sep : Char) : List Char → Option (List Char × List Char)
  | [] => none
  | c :: rest =>
    match cutLast sep rest with
    | some (before, after) => some (c :: before, after)
    | none => if c = sep then some ([], rest) else none

/-- The characters before and after the first occurrence of `word`. -/
def cutWord (word : List Char) : List Char → Option (List Char × List Char)
  | [] => if word = [] then some ([], []) else none
  | c :: rest =>
    match word.isPrefixOf? (c :: rest) with
    | some after => some ([], after)
    | none => (cutWord word rest).map fun (before, after) => (c :: before, after)

/-- Does `word` occur in the text? -/
def contains (word text : String) : Bool :=
  (cutWord word.toList text.toList).isSome

/-- What follows `word` in a text that starts with it. -/
def dropWord? (word : String) (text : List Char) : Option (List Char) :=
  word.toList.isPrefixOf? text

/-! ## Trimming -/

/-- The characters that Unicode calls white space. -/
def isBlank (c : Char) : Bool :=
  let n := c.toNat
  (9 ≤ n && n ≤ 13) || n = 32 || n = 0x85 || n = 0xA0 || n = 0x1680
    || (0x2000 ≤ n && n ≤ 0x200A) || n = 0x2028 || n = 0x2029 || n = 0x202F || n = 0x205F
    || n = 0x3000

/-- Characters without the blanks at both ends. -/
def trimBlanks (cs : List Char) : List Char :=
  ((cs.dropWhile isBlank).reverse.dropWhile isBlank).reverse

/-- A text without the blanks at both ends. -/
def trim (text : String) : String :=
  String.ofList (trimBlanks text.toList)

/-! ## Lines -/

/-- The pieces between line ends. -/
def splitLines (text : String) : List String :=
  (text.toList.splitOn '\n').map String.ofList

/-- The part of a text before its first line end, to which a carriage return before it belongs. -/
def firstLine (text : String) : String :=
  let line := text.toList.takeWhile (· ≠ '\n')
  String.ofList (if line.getLast? = some '\r' then line.dropLast else line)

/-! ## Joining -/

/-- The texts in order, separated by a comma and a space. -/
def commaList (texts : List String) : String :=
  String.intercalate ", " texts

end MeshDoctor.Text
