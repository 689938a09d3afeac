import MeshDoctor.Text.Pieces
import MeshDoctor.Url.Encoding

/-!
# URLs — paths

A path is written from its segments in turn. Two dots take the last segment away again, and the drive of
a file stays.

* `isDrive`, `looksLikeDrive`: names of drives.
* `goUp`: a path without its last segment.
* `Path.add`, `readPath`: the path of segments.
-/

namespace MeshDoctor.Url

/-! ## Drives -/

/-- Does a segment name a drive? -/
def isDrive : List Char → Bool
  | [letter, mark] => letter.isAlpha && (mark = ':' || mark = '|')
  | _ => false

/-- Does a path that goes on like this start with a drive? -/
def looksLikeDrive (cs : List Char) : Bool :=
  isDrive (cs.take 2) && (cs.drop 2).head?.all fun c => "/\\?#".toList.contains c

/-- A drive with a colon. -/
def normaliseDrive : List Char → List Char
  | [letter, _] => [letter, ':']
  | segment => segment

/-! ## Segments -/

/-- A segment without encoded dots, for comparison. -/
def plainDots : List Char → List Char
  | '%' :: '2' :: 'e' :: rest => '.' :: plainDots rest
  | '%' :: '2' :: 'E' :: rest => '.' :: plainDots rest
  | c :: rest => c :: plainDots rest
  | [] => []

/-- Does a slash end the path? -/
def endsWithSlash (path : List Char) : Bool :=
  path.getLast? = some '/'

/-- What follows the last slash of a path. -/
def lastSegment (path : List Char) : List Char :=
  (path.reverse.takeWhile (· ≠ '/')).reverse

/-- A path up to its last slash. -/
def upToLastSlash (path : List Char) : List Char :=
  (path.reverse.dropWhile (· ≠ '/')).reverse

/-- May the slash at the end of a path be taken away? The first one stays, and the one of a drive. -/
def slashMayGo (path : List Char) : Bool :=
  let before := path.dropLast
  before.contains '/' && !looksLikeDrive (lastSegment before ++ ['/'])

/-- A path without its last segment; the drive of a file stays. -/
def goUp (file : Bool) (path : List Char) : List Char :=
  let path := if endsWithSlash path && slashMayGo path then path.dropLast else path
  let last := lastSegment path
  if file && isDrive last && last.getLast? = some ':' then path else upToLastSlash path

/-! ## Paths -/

/-- A path as far as it is written. -/
structure Path where
  text : List Char
  /-- Did a drive come first? -/
  hasDrive : Bool := false

/-- A path with one segment more, which a slash follows or not. -/
def Path.add (file : Bool) (p : Path) (segment : List Char) (slash : Bool) : Path :=
  let ending := if slash then ['/'] else []
  if plainDots segment = "..".toList then
    let up := goUp file p.text
    { p with text := if slash && !endsWithSlash up then up ++ ending else up }
  else if plainDots segment = ".".toList then
    { p with text := if endsWithSlash p.text then p.text else p.text ++ ['/'] }
  else if file && p.text = ['/'] && isDrive segment then
    { text := p.text ++ normaliseDrive segment ++ ending, hasDrive := true }
  else { p with text := p.text ++ segment ++ ending }

/-- A path with segments, of which a slash follows all but the last. -/
def Path.addAll (file : Bool) (p : Path) : List (List Char) → Path
  | [] => p
  | [last] => p.add file last false
  | segment :: rest => (p.add file segment true).addAll file rest

/-- Does the character separate segments? -/
def isSlash (special : Bool) (c : Char) : Bool :=
  c = '/' || (special && c = '\\')

/-- The path `start` with the segments of a text. -/
def readPath (special : Bool) (start cs : List Char) : String :=
  let segments := (cs.splitOnP (isSlash special)).map (percentEncode inPath)
  String.ofList ((Path.mk start false).addAll false segments).text

/-- The path `start` of a file with the segments of a text. One slash starts it. -/
def readFilePath (start cs : List Char) : Path :=
  let segments := (cs.splitOnP (isSlash true)).map (percentEncode inPath)
  let p := (Path.mk start false).addAll true segments
  { p with text := '/' :: p.text.dropWhile (· = '/') }

end MeshDoctor.Url
