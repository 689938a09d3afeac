/-!
# Text — digits of a base

Digits of the bases up to sixteen; letters count in either case when they are read.

* `hexDigit`, `hexDigits`: writing digits of base sixteen.
* `digitIn?`, `digitsValue?`: reading digits of a base.
-/

namespace MeshDoctor.Text

/-- One hexadecimal digit in lower case. -/
def hexDigit (n : Nat) : Char :=
  if n < 10 then Char.ofNat (n + '0'.toNat) else Char.ofNat (n - 10 + 'a'.toNat)

/-- The hexadecimal digits of a number in upper case, `width` of them. -/
def hexDigits (width n : Nat) : List Char :=
  (List.range width).reverse.map fun i => (hexDigit (n / Nat.pow 16 i % 16)).toUpper

/-- The value of a hexadecimal digit. -/
def hexValue? (c : Char) : Option Nat :=
  if c.isDigit then some (c.toNat - '0'.toNat)
  else if 'a' ≤ c ∧ c ≤ 'f' then some (c.toNat - 'a'.toNat + 10)
  else if 'A' ≤ c ∧ c ≤ 'F' then some (c.toNat - 'A'.toNat + 10)
  else none

/-- The value of a digit in a base up to sixteen. -/
def digitIn? (base : Nat) (c : Char) : Option Nat :=
  (hexValue? c).filter (· < base)

/-- The value of a row of digits; no digits make zero. -/
def digitsValue? (base : Nat) (cs : List Char) : Option Nat :=
  (cs.mapM (digitIn? base)).map fun ds => ds.foldl (fun acc d => base * acc + d) 0

end MeshDoctor.Text
