import MeshDoctor.Json.Binary64
import MeshDoctor.Json.Reader

/-!
# YAML — what plain scalars stand for

A plain scalar may denote nothing, a truth value or a number instead of a text.

* `isNull`, `isTruthValue`, `isNumber`: the plain scalars that are no texts.
* `readUnsigned?`: the natural number that a plain scalar denotes.
* `needsQuotes`: the texts that would be taken for something else.
-/

namespace MeshDoctor.Yaml

/-- Is the text one of these words? -/
def isOneOf (words : List String) (cs : List Char) : Bool :=
  words.any fun w => w.toList = cs

/-! ## Nothing and truth values -/

/-- The spellings of nothing, apart from writing nothing. -/
def isNull (cs : List Char) : Bool :=
  isOneOf ["null", "Null", "NULL", "~"] cs

/-- The spellings of the truth values. -/
def isTruthValue (cs : List Char) : Bool :=
  isOneOf ["true", "True", "TRUE", "false", "False", "FALSE"] cs

/-! ## Whole numbers -/

/-- The value of a row of digits. -/
def digitsIn? (base : Nat) (cs : List Char) : Option Nat :=
  if cs.isEmpty then none else Text.digitsValue? base cs

/-- A number in a base that its first characters name. -/
def basedNumber? (cs : List Char) : Option Nat :=
  match cs with
  | '0' :: 'x' :: digits => digitsIn? 16 digits
  | '0' :: 'o' :: digits => digitsIn? 8 digits
  | '0' :: 'b' :: digits => digitsIn? 2 digits
  | _ => none

/-- A text without the sign `sign` at its front. -/
def dropSign (sign : Char) (cs : List Char) : List Char :=
  match cs with
  | c :: rest => if c = sign then rest else cs
  | [] => []

/-- A text without a sign at its front. -/
def dropAnySign (cs : List Char) : List Char :=
  match cs with
  | c :: rest => if c = '+' || c = '-' then rest else cs
  | [] => []

/-- Decimal digits that start with a zero too many are a text. -/
def isZeroPadded (cs : List Char) : Bool :=
  match dropAnySign cs with
  | '0' :: d :: rest => (d :: rest).all Char.isDigit
  | _ => false

/-- The natural number below `bound` that a plain scalar denotes. -/
def readUnsigned? (bound : Nat) (cs : List Char) : Option Nat :=
  let digits := dropSign '+' cs
  let value :=
    match basedNumber? digits with
    | some n => some n
    | none => if isZeroPadded cs then none else digitsIn? 10 digits
  value.filter (· < bound)

/-- A whole number of 128 bits in a named base. -/
def isBasedNumber (cs : List Char) : Bool :=
  match cs with
  | '-' :: digits => (basedNumber? digits).any (· ≤ Nat.pow 2 127)
  | _ => (basedNumber? (dropSign '+' cs)).any (· < Nat.pow 2 128)

/-! ## Decimal numbers -/

/-- An exponent with an optional sign. -/
def readExponent? (cs : List Char) : Option Int :=
  match cs with
  | '-' :: digits => (digitsIn? 10 digits).map fun n => -(n : Int)
  | '+' :: digits => (digitsIn? 10 digits).map fun n => (n : Int)
  | digits => (digitsIn? 10 digits).map fun n => (n : Int)

/-- The digits and the exponent of a decimal number without sign. -/
def readDecimal? (cs : List Char) : Option (List Nat × Int) :=
  let (whole, rest) := Json.spanDigits cs
  let (fraction, rest) :=
    match rest with
    | '.' :: more => Json.spanDigits more
    | _ => ([], rest)
  if whole.isEmpty && fraction.isEmpty then none
  else
    let scale : Int := -(fraction.length : Int)
    match rest with
    | [] => some (whole ++ fraction, scale)
    | 'e' :: more | 'E' :: more => (readExponent? more).map fun e => (whole ++ fraction, scale + e)
    | _ => none

/-- Is the number with these digits and this exponent within the range of doubles? -/
def isInRange (digits : List Nat) (exponent : Int) : Bool :=
  let digits := digits.dropWhile (· = 0)
  let magnitude := (digits.length : Int) + exponent
  if digits.isEmpty || magnitude < 300 then true
  else if 310 < magnitude then false
  else
    let n := digits.foldl (fun acc d => 10 * acc + d) 0
    let (num, den) :=
      if exponent < 0 then (n, Nat.pow 10 exponent.natAbs)
      else (n * Nat.pow 10 exponent.natAbs, 1)
    (Json.roundRatio num den).isSome

/-- A decimal number in the range of doubles, or one of the names of the other doubles. -/
def isDecimal (cs : List Char) : Bool :=
  let unsigned := dropSign '+' cs
  isOneOf [".inf", ".Inf", ".INF"] unsigned
    || isOneOf ["-.inf", "-.Inf", "-.INF", ".nan", ".NaN", ".NAN"] cs
    || (!(unsigned.length < cs.length && (unsigned.head? = some '-' || unsigned.head? = some '+'))
      && (readDecimal? (dropSign '-' unsigned)).any fun (digits, exponent) => isInRange digits exponent)

/-! ## Texts that look like something else -/

/-- Would the text be taken for something else if it were written plainly? -/
def needsQuotes (cs : List Char) : Bool :=
  cs.isEmpty || isNull cs || isTruthValue cs || isBasedNumber cs || isDecimal cs || isZeroPadded cs

end MeshDoctor.Yaml
