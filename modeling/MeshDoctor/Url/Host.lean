import MeshDoctor.Text.Pieces
import MeshDoctor.Text.Utf8
import MeshDoctor.Url.Domain
import MeshDoctor.Url.Encoding

/-!
# URLs — hosts

A host is an address in brackets, a numeric address, or a domain. Schemes that are not for the web
take any text.

* `readIpv6?`, `writeIpv6`: addresses of eight pieces.
* `readIpv4?`, `writeIpv4`: numeric addresses, with parts in base 8, 10 or 16.
* `domain?`: a domain or a numeric address.
* `host?`: the written form of a host.
-/

namespace MeshDoctor.Url

/-! ## Numeric addresses -/

/-- The number of a part of an address; a leading zero changes the base. -/
def partValue? : List Char → Option Nat
  | [] => none
  | '0' :: 'x' :: digits => Text.digitsValue? 16 digits
  | '0' :: 'X' :: digits => Text.digitsValue? 16 digits
  | '0' :: digits => Text.digitsValue? 8 digits
  | digits => Text.digitsValue? 10 digits

/-- The parts of a host between dots; one dot at the end does not count. -/
def addressParts (cs : List Char) : List (List Char) :=
  let parts := cs.splitOn '.'
  if 1 < parts.length && parts.getLast? = some [] then parts.dropLast else parts

/-- Does a host end in a number, so that it must be an address? -/
def endsInNumber (cs : List Char) : Bool :=
  match (addressParts cs).getLast? with
  | some part => !part.isEmpty && (part.all Char.isDigit || (partValue? part).isSome)
  | none => false

/-- The address of numbers: the last one fills all places that the others leave. -/
def fillIpv4 : (places : Nat) → List Nat → Option Nat
  | _, [] => none
  | places, [n] => if n < Nat.pow 256 places then some n else none
  | places, n :: rest =>
    if n < 256 then (fillIpv4 (places - 1) rest).map (n * Nat.pow 256 (places - 1) + ·) else none

/-- The numeric address that a host denotes. -/
def readIpv4? (cs : List Char) : Option Nat := do
  let numbers ← (addressParts cs).mapM partValue?
  if 4 < numbers.length then none else fillIpv4 4 numbers

/-- The written form of a numeric address. -/
def writeIpv4 (address : Nat) : String :=
  String.intercalate "."
    ([3, 2, 1, 0].map fun place => toString (address / Nat.pow 256 place % 256))

/-! ## Addresses in brackets -/

/-- A piece of an address. -/
def piece? (cs : List Char) : Option Nat :=
  if 1 ≤ cs.length && cs.length ≤ 4 then Text.digitsValue? 16 cs else none

/-- A decimal part of an address; zeros do not lead. -/
def octet? (cs : List Char) : Option Nat := do
  let n ← if cs.isEmpty || (1 < cs.length && cs.head? = some '0') then none else Text.digitsValue? 10 cs
  if n < 256 then some n else none

/-- The two pieces of four decimal parts. -/
def octets? (cs : List Char) : Option (List Nat) :=
  match (cs.splitOn '.').mapM octet? with
  | some [a, b, c, d] => some [256 * a + b, 256 * c + d]
  | _ => none

/-- Pieces between colons; the last may be decimal where `decimal` allows it. -/
def pieces? (decimal : Bool) : List (List Char) → Option (List Nat)
  | [] => some []
  | [last] => if decimal && last.contains '.' then octets? last else (piece? last).map ([·])
  | p :: rest => do
    let n ← piece? p
    let more ← pieces? decimal rest
    some (n :: more)

/-- The pieces of one side of an address. -/
def side? (decimal : Bool) (cs : List Char) : Option (List Nat) :=
  if cs.isEmpty then some [] else pieces? decimal (cs.splitOn ':')

/-- The eight pieces that an address denotes; a double colon stands for zeros. -/
def readIpv6? (cs : List Char) : Option (List Nat) :=
  match Text.cutWord [':', ':'] cs with
  | none => do
    let pieces ← side? true cs
    if pieces.length = 8 then some pieces else none
  | some (before, after) => do
    let front ← side? false before
    let back ← side? true after
    if front.length + back.length ≤ 7 then
      some (front ++ List.replicate (8 - front.length - back.length) 0 ++ back)
    else none

/-- The length of the zeros at the front. -/
def leadingZeros (pieces : List Nat) : Nat :=
  (pieces.takeWhile (· = 0)).length

/-- Where the first of the longest rows of zeros starts, and how long it is. -/
def longestZeros (start : Nat) (best : Nat × Nat) : List Nat → Nat × Nat
  | [] => best
  | p :: rest =>
    let length := leadingZeros (p :: rest)
    longestZeros (start + 1) (if best.2 < length then (start, length) else best) rest

/-- A piece in the fewest hexadecimal digits. -/
def writePiece (n : Nat) : String :=
  String.ofList (Nat.toDigits 16 n)

/-- The written form of an address; a double colon replaces the longest row of zeros. -/
def writeIpv6 (pieces : List Nat) : String :=
  let colons (ps : List Nat) := String.intercalate ":" (ps.map writePiece)
  let (start, length) := longestZeros 0 (0, 0) pieces
  if length < 2 then "[" ++ colons pieces ++ "]"
  else "[" ++ colons (pieces.take start) ++ "::" ++ colons (pieces.drop (start + length)) ++ "]"

/-! ## Domains -/

/-- The written form of a host of a scheme for the web. -/
def domain? (cs : List Char) : Option String := do
  let text ← (Text.decodeStrict (percentDecode cs)).toOption
  let domain ← asciiDomain? text.toList
  if domain.isEmpty then none
  else if endsInNumber domain then (readIpv4? domain).map writeIpv4
  else some (String.ofList domain)

/-! ## Hosts -/

/-- Characters that no host holds. -/
def isForbiddenInHost (c : Char) : Bool :=
  "\x00\t\n\r #/:<>?@[\\]^|".toList.contains c

/-- The written form of a host. -/
def host? (special : Bool) : List Char → Option String
  | '[' :: rest =>
    if rest.getLast? = some ']' then (readIpv6? rest.dropLast).map writeIpv6 else none
  | cs =>
    if special then domain? cs
    else if cs.any isForbiddenInHost then none
    else some (String.ofList (percentEncode isControl cs))

end MeshDoctor.Url
