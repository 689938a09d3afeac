import MeshDoctor.Text.Numeral
import MeshDoctor.Url.Host
import MeshDoctor.Url.Path

/-!
# URLs

A URL is read leniently and written in one way: scheme and host in lower case, no port that the scheme
has anyway, dots in the path resolved, and what a part may not hold in percent encoding.

* `Url`: a URL in its parts, each as it is written.
* `Url.read?`: the URL that a text denotes; it has to have a scheme.
* `Url.text`: the written form.
-/

namespace MeshDoctor

/-- A URL in its parts, each as it is written. -/
structure Url where
  scheme : String
  user : String := ""
  password : String := ""
  host : Option String := none
  port : Option Nat := none
  path : String := ""
  query : Option String := none
  fragment : Option String := none
  deriving DecidableEq, Repr

namespace Url

/-! ## Schemes -/

/-- The schemes for the web and the ports that they have anyway. -/
def defaultPorts : List (String × Nat) :=
  [("http", 80), ("https", 443), ("ws", 80), ("wss", 443), ("ftp", 21)]

/-- The scheme of files on the same machine. -/
def fileScheme : String := "file"

/-- Is the scheme one of those with hosts and paths of their own kind? -/
def isSpecial (scheme : String) : Bool :=
  scheme = fileScheme || (defaultPorts.lookup scheme).isSome

/-- May the character stand in a scheme? -/
def inScheme (c : Char) : Bool :=
  c.isAlphanum || c = '+' || c = '-' || c = '.'

/-- The scheme at the front of a text, in lower case, and the characters after its colon. -/
def scheme? : List Char → Option (String × List Char)
  | [] => none
  | c :: rest =>
    if !c.isAlpha then none
    else
      match rest.dropWhile inScheme with
      | ':' :: after => some (String.ofList ((c :: rest.takeWhile inScheme).map Char.toLower), after)
      | _ => none

/-! ## Authorities -/

/-- The characters before and after the colon that ends a host; colons in brackets do not. -/
def cutPort (inside : Bool) : List Char → List Char × Option (List Char)
  | [] => ([], none)
  | c :: rest =>
    if c = ':' && !inside then ([], some rest)
    else
      let (host, port) := cutPort (c = '[' || (inside && c ≠ ']')) rest
      (c :: host, port)

/-- A port in digits, and what follows it; only a backslash may. An empty port is none, and so is the one
that the scheme has anyway. -/
def readPort? (scheme : String) (cs : List Char) : Option (Option Nat × List Char) := do
  let digits := cs.takeWhile Char.isDigit
  let rest := cs.dropWhile Char.isDigit
  if rest.head?.any (· ≠ '\\') then none
  else if digits.isEmpty then some (none, rest)
  else
    let n ← Text.readNumeral? UInt16.size digits
    some (if defaultPorts.lookup scheme = some n then none else some n, rest)

/-- The user name and the password before a host. -/
def readUserInfo (cs : List Char) : String × String :=
  let encoded (part : List Char) := String.ofList (percentEncode inUserInfo part)
  match Text.cutFirst ':' cs with
  | some (user, password) => (encoded user, encoded password)
  | none => (encoded cs, "")

/-- The host and the port after a user, and what follows them. Schemes for the web need a host, and so do a
user and a port. -/
def withServer (u : Url) (cs : List Char) : Option (Url × List Char) := do
  let (host, port) := cutPort false cs
  let hasUser := !u.user.isEmpty || !u.password.isEmpty
  if host.isEmpty && (isSpecial u.scheme || port.isSome || hasUser) then none
  else
    let written ← if host.isEmpty then some "" else host? (isSpecial u.scheme) host
    let (port, rest) ← readPort? u.scheme (port.getD [])
    some ({ u with host := some written, port }, rest)

/-- A URL with the parts of an authority, and what follows its port. Nobody before an at sign is nobody,
but then something has to follow: the host, or else nothing at all. -/
def withAuthority (u : Url) (isLast : Bool) (cs : List Char) : Option (Url × List Char) :=
  match Text.cutLast '@' cs with
  | some (info, server) =>
    let (user, password) := readUserInfo info
    if info.isEmpty && server.isEmpty && !isLast then none
    else { u with user, password }.withServer server
  | none => u.withServer cs

/-! ## Reading -/

/-- The URL of a file: its host, if it has one, and its path. -/
def readFile? (u : Url) (cs : List Char) : Option Url :=
  let local? (start cs : List Char) : Option Url :=
    some { u with host := some "", path := String.ofList (readFilePath start cs).text }
  match cs with
  | a :: b :: after =>
    if !isSlash true a then local? ['/'] cs
    else if !isSlash true b then local? [] cs
    else
      let host := after.takeWhile (!isSlash true ·)
      let path := after.dropWhile (!isSlash true ·)
      if isDrive host then local? ['/'] after
      else if host.isEmpty then local? ['/'] path
      else do
        let written ← host? true host
        if written = "localhost" then local? ['/'] path
        else
          let p := readFilePath ['/'] (path.drop 1)
          some { u with host := some (if p.hasDrive then "" else written), path := String.ofList p.text }
  | a :: rest => if isSlash true a then local? [] cs else local? ['/'] (a :: rest)
  | [] => local? ['/'] cs

/-- The URL of a scheme for the web; slashes before the authority do not count. -/
def readWeb? (u : Url) (cs : List Char) : Option Url := do
  let cs := cs.dropWhile (isSlash true)
  let path := cs.dropWhile (!isSlash true ·)
  let (u, _) ← u.withAuthority (path.isEmpty && u.query.isNone && u.fragment.isNone)
    (cs.takeWhile (!isSlash true ·))
  some { u with path := readPath true ['/'] (path.drop 1) }

/-- The path after the host of any other scheme. -/
def pathAfterHost (cs : List Char) : String :=
  match cs with
  | [] => ""
  | '/' :: _ => readPath false [] cs
  | _ => readPath false ['/'] cs

/-- The URL of any other scheme. -/
def readOther? (u : Url) (cs : List Char) : Option Url :=
  match cs with
  | '/' :: '/' :: rest => do
    let path := rest.dropWhile (· ≠ '/')
    let (u, more) ← u.withAuthority (path.isEmpty && u.query.isNone && u.fragment.isNone)
      (rest.takeWhile (· ≠ '/'))
    some { u with path := pathAfterHost (more ++ path) }
  | '/' :: rest => some { u with path := readPath false ['/'] rest }
  | cs => some { u with path := String.ofList (percentEncode isControl cs) }

/-- The characters before a separator, and what follows it if it is there. -/
def cutOff (sep : Char) (cs : List Char) : List Char × Option (List Char) :=
  match Text.cutFirst sep cs with
  | some (before, after) => (before, some after)
  | none => (cs, none)

/-- A text without line ends and tabs, and without blanks and controls at its ends. -/
def clean (cs : List Char) : List Char :=
  let isIdle (c : Char) := c.toNat ≤ 0x20
  let trimmed := ((cs.dropWhile isIdle).reverse.dropWhile isIdle).reverse
  trimmed.filter fun c => c ≠ '\t' && c ≠ '\n' && c ≠ '\r'

/-- The URL that a text denotes. -/
def read? (text : String) : Option Url := do
  let (scheme, rest) ← scheme? (clean text.toList)
  let (rest, fragment) := cutOff '#' rest
  let (rest, query) := cutOff '?' rest
  let special := isSpecial scheme
  let querySet := if special then inSpecialQuery else inQuery
  let u : Url :=
    { scheme
      query := query.map fun cs => String.ofList (percentEncode querySet cs)
      fragment := fragment.map fun cs => String.ofList (percentEncode inFragment cs) }
  if scheme = fileScheme then u.readFile? rest
  else if special then u.readWeb? rest
  else u.readOther? rest

/-! ## Writing -/

/-- The written user name and password. -/
def userInfoText (u : Url) : String :=
  if u.user.isEmpty && u.password.isEmpty then ""
  else u.user ++ (if u.password.isEmpty then "" else ":" ++ u.password) ++ "@"

/-- The written authority. Without one, a path may not look as if it started with one. -/
def authorityText (u : Url) : String :=
  match u.host with
  | some host => "//" ++ u.userInfoText ++ host ++ (u.port.map fun n => ":" ++ toString n).getD ""
  | none => if u.path.startsWith "//" then "/." else ""

/-- The written form. -/
def text (u : Url) : String :=
  u.scheme ++ ":" ++ u.authorityText ++ u.path ++ (u.query.map ("?" ++ ·)).getD ""
    ++ (u.fragment.map ("#" ++ ·)).getD ""

end Url

end MeshDoctor
