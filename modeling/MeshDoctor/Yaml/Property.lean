import MeshDoctor.Text.Radix
import MeshDoctor.Yaml.Scalar

/-!
# YAML — anchors, tags and directives

What may stand before a node or a document to name it.

* `readName`: the name of an anchor or an alias.
* `TagText`, `readTag`: a tag as it is written, a handle and a suffix.
* `Directive`, `readDirective`: a line that says how a document is to be read.
* `Tag`, `TagText.resolve?`: the tag that a handle and a suffix stand for.
-/

namespace MeshDoctor.Yaml

/-- The characters of names. -/
def isNameCharacter (c : Char) : Bool := c.isAlphanum || c = '_' || c = '-'

/-! ## Anchors and aliases -/

/-- Does the name of an anchor or an alias end before these characters? -/
def endsName : List Char → Bool
  | [] => true
  | c :: _ =>
    isBlank c || isBreak c || c = '?' || c = ':' || c = ',' || c = ']' || c = '\x7d' || c = '%' || c = '@'
      || c = Char.ofNat 0x60

/-- The name after the sign of an anchor or an alias. -/
def readName (cs : List Char) : Option (List Char × List Char) :=
  let name := cs.takeWhile isNameCharacter
  let rest := cs.dropWhile isNameCharacter
  if name.isEmpty || !endsName rest then none else some (name, rest)

/-! ## Tags -/

/-- A tag: a row of octets, each as the character of its number. -/
abbrev Tag := List Char

/-- The tags of the core kinds start like this. -/
def corePrefix : Tag := "tag:yaml.org,2002:".toList

/-- The tag of nothing. -/
def nullTag : Tag := corePrefix ++ "null".toList

/-- The tag of whole numbers. -/
def intTag : Tag := corePrefix ++ "int".toList

/-- The characters of tags; `verbatim` ones may hold the marks of flow sequences. -/
def isTagCharacter (verbatim : Bool) (c : Char) : Bool :=
  isNameCharacter c || ";/?:@&=+$.%!~*'()".toList.contains c
    || (verbatim && (c = ',' || c = '[' || c = ']'))

/-- The number of octets of a character that starts with octet `n`. -/
def octetCount? (n : Nat) : Option Nat :=
  if n < 0x80 then some 1
  else if 0xC0 ≤ n && n < 0xE0 then some 2
  else if 0xE0 ≤ n && n < 0xF0 then some 3
  else if 0xF0 ≤ n && n < 0xF8 then some 4
  else none

/-- An octet after its percent sign. -/
def readOctet : List Char → Option (Nat × List Char)
  | high :: low :: rest => (Text.digitsValue? 16 [high, low]).map fun n => (n, rest)
  | _ => none

/-- The further octets of a character, each after a percent sign. -/
def readContinuation : (count : Nat) → List Char → Option (List Char × List Char)
  | 0, cs => some ([], cs)
  | count + 1, cs =>
    match cs with
    | '%' :: rest => do
      let (n, rest) ← readOctet rest
      if 0x80 ≤ n && n < 0xC0 then
        (readContinuation count rest).map fun (octets, rest) => (Char.ofNat n :: octets, rest)
      else none
    | _ => none

/-- The octets of a character after the first percent sign. -/
def readOctets (cs : List Char) : Option (List Char × List Char) := do
  let (n, rest) ← readOctet cs
  let count ← octetCount? n
  (readContinuation (count - 1) rest).map fun (octets, rest) => (Char.ofNat n :: octets, rest)

/-- The characters of a tag from here on. -/
def readTagText (verbatim : Bool) : (fuel : Nat) → List Char → Option (Tag × List Char)
  | 0, _ => none
  | fuel + 1, cs =>
    match cs with
    | '%' :: rest => do
      let (octets, rest) ← readOctets rest
      let (more, rest) ← readTagText verbatim fuel rest
      some (octets ++ more, rest)
    | c :: rest =>
      if isTagCharacter verbatim c then
        (readTagText verbatim fuel rest).map fun (more, rest) => (c :: more, rest)
      else some ([], c :: rest)
    | [] => some ([], [])

/-- The characters of a tag, of which there is at least one. -/
def readTagPart (verbatim : Bool) (cs : List Char) : Option (Tag × List Char) :=
  (readTagText verbatim (cs.length + 1) cs).filter fun (text, _) => !text.isEmpty

/-- A tag as it is written. A verbatim one has no handle. -/
structure TagText where
  handle : List Char
  suffix : Tag
  deriving DecidableEq, Repr

/-- The name between two exclamation marks, after the first, and whether the second is there. -/
def readHandle (cs : List Char) : List Char × Bool × List Char :=
  let name := cs.takeWhile isNameCharacter
  match cs.dropWhile isNameCharacter with
  | '!' :: rest => (name, true, rest)
  | rest => (name, false, rest)

/-- A tag after its exclamation mark. A mark alone is a tag of its own. -/
def readShorthand (cs : List Char) : Option (TagText × List Char) := do
  let (name, isClosed, rest) := readHandle cs
  if isClosed then
    let (suffix, rest) ← readTagPart false rest
    some (⟨'!' :: name ++ ['!'], suffix⟩, rest)
  else
    let (more, rest) ← readTagText false (rest.length + 1) rest
    match name ++ more with
    | [] => some (⟨[], ['!']⟩, rest)
    | suffix => some (⟨['!'], suffix⟩, rest)

/-- A tag after its exclamation mark. -/
def readTag (flow : Bool) (cs : List Char) : Option (TagText × List Char) := do
  let (tag, rest) ←
    match cs with
    | '<' :: more =>
      match ← readTagPart true more with
      | (text, '>' :: rest) => some (TagText.mk [] text, rest)
      | _ => none
    | _ => readShorthand cs
  if endsWord rest || (flow && rest.head? = some ',') then some (tag, rest) else none

/-! ## Directives -/

/-- A line that says how a document is to be read. -/
inductive Directive where
  /-- The version of the language. -/
  | version (major minor : Nat)
  /-- What a handle of tags stands for. -/
  | handle (name : List Char) (start : Tag)
  deriving DecidableEq, Repr

/-- A part of a version, of at most nine digits. -/
def readVersionPart (cs : List Char) : Option (Nat × List Char) :=
  let digits := cs.takeWhile Char.isDigit
  if digits.isEmpty || 9 < digits.length then none
  else (Text.digitsValue? 10 digits).map fun n => (n, cs.dropWhile Char.isDigit)

/-- The version after the name of its directive. -/
def readVersion (cs : List Char) : Option (Directive × List Char) := do
  let (major, rest) ← readVersionPart cs
  match rest with
  | '.' :: rest =>
    let (minor, rest) ← readVersionPart rest
    some (.version major minor, rest)
  | _ => none

/-- The handle and its meaning after the name of their directive. -/
def readHandleMeaning (cs : List Char) : Option (Directive × List Char) := do
  let (handle, rest) ←
    match cs with
    | '!' :: rest =>
      match readHandle rest with
      | (name, true, rest) => some ('!' :: name ++ ['!'], rest)
      | ([], false, rest) => some (['!'], rest)
      | _ => none
    | _ => none
  if rest.head?.any isBlank then
    let (start, rest) ← readTagPart true (rest.dropWhile isBlank)
    if endsWord rest then some (.handle handle start, rest) else none
  else none

/-- A directive after its percent sign, up to the end of its line. -/
def readDirective (cs : List Char) : Option (Directive × List Char) := do
  let name := cs.takeWhile isNameCharacter
  let rest := cs.dropWhile isNameCharacter
  let (directive, rest) ←
    if !endsWord rest then none
    else if name = "YAML".toList then readVersion (rest.dropWhile isBlank)
    else if name = "TAG".toList then readHandleMeaning (rest.dropWhile isBlank)
    else none
  let rest := rest.dropWhile isBlank
  let rest := if rest.head? = some '#' then rest.dropWhile (fun c => !isBreak c) else rest
  if endsWord rest then some (directive, rest) else none

/-! ## The meaning of tags -/

/-- What the handles mean where no directive says otherwise. -/
def usualHandles : List (List Char × Tag) :=
  [(['!'], ['!']), (['!', '!'], corePrefix)]

/-- What the handles mean after these directives. A handle is stated once, and so is the version. -/
def handlesOf? (directives : List Directive) : Option (List (List Char × Tag)) :=
  let handles := directives.filterMap fun
    | .handle name start => some (name, start)
    | .version _ _ => none
  let versions := directives.filterMap fun
    | .version major minor => some (major, minor)
    | .handle _ _ => none
  if (handles.map (·.1)).Nodup && versions.length ≤ 1
      && versions.all (fun v => v = (1, 1) || v = (1, 2)) then
    some (handles ++ usualHandles)
  else none

/-- The tag that a handle and a suffix stand for; a verbatim tag stands for itself. -/
def TagText.resolve? (handles : List (List Char × Tag)) (t : TagText) : Option Tag :=
  if t.handle.isEmpty then some t.suffix
  else (handles.lookup t.handle).map (· ++ t.suffix)

end MeshDoctor.Yaml
