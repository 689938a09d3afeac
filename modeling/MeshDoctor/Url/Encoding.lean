import MeshDoctor.Text.Radix
import MeshDoctor.Text.Utf8

/-!
# URLs — percent encoding

A character that a part of a URL may not hold is written as its bytes, each a percent sign with two
hexadecimal digits.

* `isControl`, `inFragment`, `inQuery`, `inPath`, `inUserInfo`: the characters that each part does not
  hold.
* `percentEncode`, `percentDecode`: writing and reading the encoding.
-/

namespace MeshDoctor.Url

/-! ## Characters that are encoded -/

/-- Encoded everywhere: controls and everything beyond ASCII. -/
def isControl (c : Char) : Bool :=
  c.toNat < 0x20 || 0x7E < c.toNat

/-- Encoded in a fragment. -/
def inFragment (c : Char) : Bool :=
  isControl c || " \"<>`".toList.contains c

/-- Encoded in a query. -/
def inQuery (c : Char) : Bool :=
  isControl c || " \"#<>".toList.contains c

/-- Encoded in a query of a scheme for the web. -/
def inSpecialQuery (c : Char) : Bool :=
  inQuery c || c = '\''

/-- Encoded in a path. -/
def inPath (c : Char) : Bool :=
  inQuery c || "?`\x7b\x7d".toList.contains c

/-- Encoded in a user name or a password. -/
def inUserInfo (c : Char) : Bool :=
  inPath c || "/:;=@[\\]^|".toList.contains c

/-! ## Writing and reading -/

/-- A byte in percent encoding. -/
def encodeByte (b : UInt8) : List Char :=
  '%' :: Text.hexDigits 2 b.toNat

/-- A text with the characters of a set in percent encoding. -/
def percentEncode (set : Char → Bool) (cs : List Char) : List Char :=
  cs.flatMap fun c =>
    if set c then (Text.encode (String.singleton c)).flatMap encodeByte else [c]

/-- The bytes that a text with percent encoding stands for. A percent sign without two digits stands
for itself. -/
def percentDecode : List Char → List UInt8
  | '%' :: a :: b :: rest =>
    match Text.hexValue? a, Text.hexValue? b with
    | some high, some low => UInt8.ofNat (16 * high + low) :: percentDecode rest
    | _, _ => 0x25 :: percentDecode (a :: b :: rest)
  | c :: rest => Text.encode (String.singleton c) ++ percentDecode rest
  | [] => []

end MeshDoctor.Url
