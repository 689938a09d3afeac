import MeshDoctor.Unicode.Direction
import MeshDoctor.Unicode.DomainForm
import MeshDoctor.Unicode.Joining
import MeshDoctor.Unicode.NormalForm
import MeshDoctor.Url.Punycode

/-!
# URLs — domains

A domain is a row of labels between dots. It is brought into one form, and labels beyond ASCII are
written in Punycode.

* `mapDomain?`: the one form of the characters of a domain.
* `readLabel?`: a label, read from Punycode if it is written in it.
* `joinsRightly`, `runsRightly`: the rules for joiners and for scripts from right to left.
* `asciiDomain?`: a domain in ASCII.
-/

namespace MeshDoctor.Url

open Unicode

/-! ## Characters -/

/-- Characters that no domain holds. -/
def isForbiddenInDomain (c : Char) : Bool :=
  c.toNat ≤ 0x20 || c.toNat = 0x7F || "%#/:<>?@[\\]^|".toList.contains c

/-- What a character of a domain gives way to. -/
def mapDomainChar? (c : Char) : Option (List Char) :=
  if c.toNat < 0x80 then some [c.toLower]
  else if refusedInDomains.contains c then none
  else if ignoredInDomains.contains c then some []
  else some ((domainForms.find? c).getD [c])

/-- The one form of the characters of a domain. -/
def mapDomain? (cs : List Char) : Option (List Char) := do
  let mapped := normalForm (← cs.mapM mapDomainChar?).flatten
  if mapped.any isForbiddenInDomain then none else some mapped

/-! ## Labels -/

/-- What a label starts with that is written in Punycode. -/
def punycodeMark : List Char := "xn--".toList

/-- The longest labels that are read from Punycode and written in it. -/
def readLimit : Nat := 2000
def writeLimit : Nat := 1000

/-- A label, read from Punycode if it is written in it; what it stands for is not all ASCII and is in the
one form already. -/
def readLabel? (label : List Char) : Option (List Char) :=
  match punycodeMark.isPrefixOf? label with
  | none => some label
  | some code =>
    if readLimit < code.length || !code.all Punycode.isAscii || code.getLast? = some '-' then none
    else do
      let label ← Punycode.decode? code
      if label.all Punycode.isAscii || mapDomain? label ≠ some label then none else some label

/-- A label in ASCII. -/
def asciiLabel? (label : List Char) : Option (List Char) :=
  if label.all Punycode.isAscii then some label
  else if writeLimit < label.length then none
  else some (punycodeMark ++ Punycode.encode label)

/-! ## Joiners -/

/-- Stands between letters that would join, and keeps them apart. -/
def nonJoiner : Char := '\u200C'

/-- Joins letters that would not join. -/
def wordJoiner : Char := '\u200D'

/-- Is the first character that letters do not join across one of `sets`? -/
def meetsJoining (sets : List CodeSet) (cs : List Char) : Bool :=
  (cs.dropWhile passesJoining.contains).head?.any fun c => sets.any (·.contains c)

/-- May the character `c` stand between `before`, the last first, and `after`? A joiner stands after a
mark that takes the vowel from a letter; one that keeps letters apart also between letters that join. -/
def standsRightly (before : List Char) (c : Char) (after : List Char) : Bool :=
  (c ≠ nonJoiner && c ≠ wordJoiner) || before.head?.any isVirama
    || (c = nonJoiner && meetsJoining [joinsBoth, joinsNext] before
      && meetsJoining [joinsBoth, joinsPrevious] after)

/-- Do all joiners of a label stand where they may? `before` is what stands before, the last first. -/
def joinsRightly (before : List Char) : List Char → Bool
  | [] => true
  | c :: rest => standsRightly before c rest && joinsRightly (c :: before) rest

/-- Is a label allowed on its own? It does not start with a mark. -/
def isLabel (label : List Char) : Bool :=
  !(label.head?.any marks.contains) && joinsRightly [] label

/-! ## Direction -/

/-- Directions that show that a domain runs from right to left somewhere. -/
def showsRightToLeft (c : Char) : Bool :=
  [.hebrew, .arabic, .arabicNumber].contains (direction c)

/-- The directions inside of every label. -/
def innerDirections : List Direction :=
  [.digit, .sign, .separator, .terminator, .neutral, .boundary, .mark]

/-- Does a label run in one direction, in a domain that shows another? -/
def runsRightly (label : List Char) : Bool :=
  let directions := label.map direction
  let core := (directions.reverse.dropWhile (· = .mark)).reverse
  match directions.head?, core.getLast? with
  | some .latin, some last =>
    (last = .latin || last = .digit) && core.all (.latin :: innerDirections).contains
  | some .hebrew, some last | some .arabic, some last =>
    [.hebrew, .arabic, .digit, .arabicNumber].contains last
      && core.all (.hebrew :: .arabic :: .arabicNumber :: innerDirections).contains
      && !(core.contains .digit && core.contains .arabicNumber)
  | none, _ => true
  | _, _ => false

/-! ## Domains -/

/-- A domain in ASCII. -/
def asciiDomain? (cs : List Char) : Option (List Char) := do
  let labels ← ((← mapDomain? cs).splitOn '.').mapM readLabel?
  if !labels.all isLabel || (labels.any (·.any showsRightToLeft) && !labels.all runsRightly) then none
  else
    let written ← labels.mapM asciiLabel?
    some (['.'].intercalate written)

end MeshDoctor.Url
