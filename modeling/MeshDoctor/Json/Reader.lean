import MeshDoctor.Json.Value
import MeshDoctor.Text.Radix

/-!
# JSON — reading

A reader takes characters and gives back what it read and the characters after it. Nesting is
limited to 127 levels. A part that no one will look at is read loosely: it has to be well formed,
but its numbers may be out of range, its escapes may stand for no character and its nesting has no
limit.

* `readNumber`, `readString`: the leaves of the grammar.
* `readValue`, `readItems`, `readMembers`: the nested parts; the fuel bounds the calls inside each
  other and never runs out when it is twice the length of the text.
* `Value.read?`: the value that a whole text denotes.
* `Document.read?`: the members of a whole text that is an object, in the order written.
-/

namespace MeshDoctor.Json

/-- The characters after blanks. -/
def skipBlanks (cs : List Char) : List Char :=
  cs.dropWhile fun c => c = ' ' || c = '\n' || c = '\t' || c = '\r'

/-! ## Numbers -/

/-- The greatest number of 64 bits. -/
def maxWord : Nat := UInt64.size - 1

/-- The digits at the front, as values. -/
def spanDigits (cs : List Char) : List Nat × List Char :=
  ((cs.takeWhile Char.isDigit).map fun c => c.toNat - '0'.toNat, cs.dropWhile Char.isDigit)

/-- Takes digits onto `acc` as long as 64 bits hold the number; the digits that are left over. -/
def takeWord (acc : Nat) : List Nat → Nat × List Nat
  | [] => (acc, [])
  | d :: rest => if 10 * acc + d ≤ maxWord then takeWord (10 * acc + d) rest else (acc, d :: rest)

/-- The written exponent, capped far beyond the range of doubles. -/
def readExponent : List Char → Option (Int × List Char)
  | cs =>
    let (negative, cs) :=
      match cs with
      | '-' :: rest => (true, rest)
      | '+' :: rest => (false, rest)
      | _ => (false, cs)
    let (digits, rest) := spanDigits cs
    if digits.isEmpty then none
    else
      let size : Int := (digits.foldl (fun acc d => min (10 * acc + d) 2147483647) 0 : Nat)
      some (if negative then -size else size, rest)

/-- A number that is not whole, from its leading digits. -/
def realNumber (loose negative : Bool) (significand : Nat) (exponent : Int) : Option Value :=
  match Magnitude.scale significand exponent with
  | some size => some (.real ⟨negative, size⟩)
  | none => if loose then some .null else none

/-- A whole number; a negative zero and numbers beyond 64 bits are doubles. -/
def wholeNumber (negative : Bool) (n : Nat) : Value :=
  let asReal : Value := .real ⟨negative, (roundRatio n 1).getD ⟨0, leastExponent⟩⟩
  if negative then (if 0 < n && n ≤ 0x8000000000000000 then .int (-(n : Int)) else asReal)
  else .int n

/-- A number after its sign. Digits beyond the 64-bit range only count for its size. -/
def readUnsigned (loose negative : Bool) (cs : List Char) : Option (Value × List Char) :=
  let (digits, rest) := spanDigits cs
  match digits with
  | [] => none
  | 0 :: _ :: _ => none
  | _ =>
    let (significand, dropped) := takeWord 0 digits
    let (fraction, afterPoint) :=
      match rest with
      | '.' :: more => spanDigits more
      | _ => ([], rest)
    let hasPoint := rest.head? = some '.'
    if hasPoint && fraction.isEmpty then none
    else
      let (significand, unused) := takeWord significand fraction
      let scale : Int := (dropped.length : Int) - ((fraction.length : Int) - (unused.length : Int))
      match afterPoint with
      | 'e' :: more | 'E' :: more => do
        let (exponent, rest) ← readExponent more
        let v ← realNumber loose negative significand (scale + exponent)
        some (v, rest)
      | _ =>
        if hasPoint || !dropped.isEmpty then do
          let v ← realNumber loose negative significand scale
          some (v, afterPoint)
        else some (wholeNumber negative significand, afterPoint)

/-- A number. -/
def readNumber (loose : Bool) : List Char → Option (Value × List Char)
  | '-' :: rest => readUnsigned loose true rest
  | cs => readUnsigned loose false cs

/-! ## Strings -/

/-- Four hexadecimal digits. -/
def readHex : List Char → Option (Nat × List Char)
  | a :: b :: c :: d :: rest => do
    let a ← Text.hexValue? a
    let b ← Text.hexValue? b
    let c ← Text.hexValue? c
    let d ← Text.hexValue? d
    some (((a * 16 + b) * 16 + c) * 16 + d, rest)
  | _ => none

/-- The character of an escape whose first four digits are `n`. The first half of a pair needs the
second half after it. -/
def readUnit (loose : Bool) (n : Nat) (rest : List Char) : Option (Char × List Char) :=
  if n < 0xD800 || 0xDFFF < n then some (Char.ofNat n, rest)
  else if loose then some ('\uFFFD', rest)
  else if 0xDC00 ≤ n then none
  else
    match rest with
    | '\\' :: 'u' :: more => do
      let (m, rest) ← readHex more
      if 0xDC00 ≤ m && m ≤ 0xDFFF then
        some (Char.ofNat ((n - 0xD800) * 1024 + (m - 0xDC00) + 0x10000), rest)
      else none
    | _ => none

/-- The character of the escape after a backslash. -/
def readEscape (loose : Bool) : List Char → Option (Char × List Char)
  | '"' :: rest => some ('"', rest)
  | '\\' :: rest => some ('\\', rest)
  | '/' :: rest => some ('/', rest)
  | 'b' :: rest => some ('\x08', rest)
  | 'f' :: rest => some ('\x0c', rest)
  | 'n' :: rest => some ('\n', rest)
  | 'r' :: rest => some ('\r', rest)
  | 't' :: rest => some ('\t', rest)
  | 'u' :: rest => do
    let (n, rest) ← readHex rest
    readUnit loose n rest
  | _ => none

/-- The characters of a string after its opening quote, put in front of `acc` in reverse. -/
def readStringFrom (loose : Bool) : (fuel : Nat) → (acc : List Char) → List Char → Option (String × List Char)
  | 0, _, _ => none
  | _ + 1, _, [] => none
  | fuel + 1, acc, c :: rest =>
    if c = '"' then some (String.ofList acc.reverse, rest)
    else if c = '\\' then do
      let (d, rest) ← readEscape loose rest
      readStringFrom loose fuel (d :: acc) rest
    else if c.toNat < 32 then none
    else readStringFrom loose fuel (c :: acc) rest

/-- A string after its opening quote. -/
def readString (loose : Bool) (cs : List Char) : Option (String × List Char) :=
  readStringFrom loose (cs.length + 1) [] cs

/-! ## Values -/

/-- The value `v` if the characters start with `word`. -/
def readWord (word : String) (v : Value) (cs : List Char) : Option (Value × List Char) :=
  (word.toList.isPrefixOf? cs).map fun rest => (v, rest)

mutual

/-- A value after blanks, with `levels` of nesting left. -/
def readValue (loose : Bool) : (fuel levels : Nat) → List Char → Option (Value × List Char)
  | 0, _, _ => none
  | fuel + 1, levels, cs =>
    match skipBlanks cs with
    | [] => none
    | '"' :: rest => (readString loose rest).map fun (s, rest) => (.string s, rest)
    | '[' :: rest =>
      if levels = 0 && !loose then none
      else
        match skipBlanks rest with
        | ']' :: rest => some (.array [], rest)
        | _ => (readItems loose fuel (levels - 1) rest).map fun (vs, rest) => (.array vs, rest)
    | '\x7b' :: rest =>
      if levels = 0 && !loose then none
      else
        match skipBlanks rest with
        | '\x7d' :: rest => some (.object [], rest)
        | _ =>
          (readMembers loose fuel (levels - 1) rest).map fun (ms, rest) => (Value.ofMembers ms, rest)
    | 't' :: rest => readWord "rue" (.bool true) rest
    | 'f' :: rest => readWord "alse" (.bool false) rest
    | 'n' :: rest => readWord "ull" .null rest
    | cs => readNumber loose cs

/-- The items of an array up to its closing bracket. -/
def readItems (loose : Bool) : (fuel levels : Nat) → List Char → Option (List Value × List Char)
  | 0, _, _ => none
  | fuel + 1, levels, cs => do
    let (v, rest) ← readValue loose fuel levels cs
    match skipBlanks rest with
    | ',' :: rest => (readItems loose fuel levels rest).map fun (vs, rest) => (v :: vs, rest)
    | ']' :: rest => some ([v], rest)
    | _ => none

/-- The members of an object up to its closing brace. -/
def readMembers (loose : Bool) : (fuel levels : Nat) → List Char → Option (List (String × Value) × List Char)
  | 0, _, _ => none
  | fuel + 1, levels, cs => do
    match skipBlanks cs with
    | '"' :: rest =>
      let (name, rest) ← readString loose rest
      match skipBlanks rest with
      | ':' :: rest =>
        let (v, rest) ← readValue loose fuel levels rest
        match skipBlanks rest with
        | ',' :: rest =>
          (readMembers loose fuel levels rest).map fun (ms, rest) => ((name, v) :: ms, rest)
        | '\x7d' :: rest => some ([(name, v)], rest)
        | _ => none
      | _ => none
    | _ => none

end

/-- The levels of nesting that a document may have. -/
def nestingLimit : Nat := 127

/-- Enough fuel for a text. -/
def fuelFor (cs : List Char) : Nat :=
  2 * cs.length + 4

/-- The value that a text denotes. -/
def Value.read? (text : String) : Option Value := do
  let cs := text.toList
  let (v, rest) ← readValue false (fuelFor cs) nestingLimit cs
  if (skipBlanks rest).isEmpty then some v else none

/-! ## Documents of known members -/

/-- A text that was read for the members of its outermost object. -/
inductive Document where
  /-- The members in the order written, repeated ones included. -/
  | object (members : List (String × Value))
  /-- A value that is no object. -/
  | other (v : Value)
  deriving Repr

/-- The members of the outermost object; only the known ones are read strictly. -/
def readTopMembers (known : List String) : (fuel : Nat) → List Char → Option (List (String × Value) × List Char)
  | 0, _ => none
  | fuel + 1, cs => do
    match skipBlanks cs with
    | '"' :: rest =>
      let (name, rest) ← readString false rest
      match skipBlanks rest with
      | ':' :: rest =>
        let (v, rest) ← readValue (!known.contains name) (fuelFor rest) (nestingLimit - 1) rest
        match skipBlanks rest with
        | ',' :: rest =>
          (readTopMembers known fuel rest).map fun (ms, rest) => ((name, v) :: ms, rest)
        | '\x7d' :: rest => some ([(name, v)], rest)
        | _ => none
      | _ => none
    | _ => none

/-- The document that a text denotes, when only the known members matter. -/
def Document.read? (known : List String) (text : String) : Option Document := do
  let cs := text.toList
  match skipBlanks cs with
  | '\x7b' :: rest =>
    let (members, rest) ←
      match skipBlanks rest with
      | '\x7d' :: rest => some ([], rest)
      | _ => readTopMembers known (cs.length + 1) rest
    if (skipBlanks rest).isEmpty then some (.object members) else none
  | _ => (Value.read? text).map .other

end MeshDoctor.Json
