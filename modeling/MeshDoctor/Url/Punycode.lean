import MeshDoctor.Text.Pieces

/-!
# URLs — Punycode

Labels beyond ASCII are written in ASCII: first the ASCII characters, then for every other character,
in ascending order, how far it is from the one before it, counted over characters and places. The
distances are numbers with variable bases that adapt to the sizes seen so far.

* `Punycode.encodeNumber`: a distance.
* `Punycode.encode`: a label.
* `Punycode.readNumber?`, `Punycode.decode?`: reading both.
-/

namespace MeshDoctor.Url.Punycode

/-- The digit of a value below 36: letters, then decimal digits. -/
def digit (n : Nat) : Char :=
  if n < 26 then Char.ofNat ('a'.toNat + n) else Char.ofNat ('0'.toNat + (n - 26))

/-- The least value of a digit at position `k` that does not end a number. -/
def threshold (bias k : Nat) : Nat :=
  max 1 (min 26 (k - bias))

theorem one_le_threshold (bias k : Nat) : 1 ≤ threshold bias k := by
  unfold threshold; omega

/-- A number, the digit at position `k` first. -/
def encodeNumber (bias k n : Nat) : List Char :=
  let t := threshold bias k
  if n < t then [digit n]
  else digit (t + (n - t) % (36 - t)) :: encodeNumber bias (k + 36) ((n - t) / (36 - t))
termination_by n
decreasing_by
  have h := one_le_threshold bias k
  calc (n - threshold bias k) / (36 - threshold bias k)
      ≤ n - threshold bias k := Nat.div_le_self _ _
    _ < n := by omega

/-- Divides a distance down to a small one; counts the digits that this saves. -/
def settle (k distance : Nat) : Nat :=
  if 455 < distance then settle (k + 36) (distance / 35) else k + 36 * distance / (distance + 38)
termination_by distance
decreasing_by omega

/-- The bias after a distance, with `count` characters written. -/
def adapt (distance count : Nat) (first : Bool) : Nat :=
  let damped := if first then distance / 700 else distance / 2
  settle 0 (damped + damped / count)

/-- What was written so far. -/
structure Progress where
  written : List Char
  distance : Nat
  bias : Nat
  /-- How many characters of the label are written. -/
  count : Nat

/-- Passes over a character of the label while the characters `c` are written. -/
def pass (basic : Nat) (c : Char) (p : Progress) (d : Char) : Progress :=
  if d < c then { p with distance := p.distance + 1 }
  else if d = c then
    { written := p.written ++ encodeNumber p.bias 36 p.distance
      distance := 0
      bias := adapt p.distance (p.count + 1) (p.count = basic)
      count := p.count + 1 }
  else p

/-- Writes the characters of a list in turn; `last` is the one before. -/
def writeAll (label : List Char) (basic last : Nat) (p : Progress) : List Char → List Char
  | [] => p.written
  | c :: rest =>
    let p := { p with distance := p.distance + (c.toNat - last) * (p.count + 1) }
    let p := label.foldl (pass basic c) p
    writeAll label basic (c.toNat + 1) { p with distance := p.distance + 1 } rest

/-- Is the character one of ASCII? -/
def isAscii (c : Char) : Bool := c.toNat < 0x80

/-- A label in ASCII. -/
def encode (label : List Char) : List Char :=
  let basic := label.filter isAscii
  let others := ((label.filter (!isAscii ·)).mergeSort fun a b => a ≤ b).eraseDups
  basic ++ (if basic = [] then [] else ['-'])
    ++ writeAll label basic.length 0x80 ⟨[], 0, 72, basic.length⟩ others

/-! ## Reading -/

/-- The value of a digit. -/
def digitValue? (c : Char) : Option Nat :=
  if 'a' ≤ c ∧ c ≤ 'z' then some (c.toNat - 'a'.toNat)
  else if 'A' ≤ c ∧ c ≤ 'Z' then some (c.toNat - 'A'.toNat)
  else if '0' ≤ c ∧ c ≤ '9' then some (c.toNat - '0'.toNat + 26)
  else none

/-- A number with its first digit at position `k`, where a digit counts `weight`, and the rest. -/
def readNumber? (bias k weight : Nat) : List Char → Option (Nat × List Char)
  | [] => none
  | c :: rest => do
    let d ← digitValue? c
    let t := threshold bias k
    if d < t then some (d * weight, rest)
    else
      let (more, rest) ← readNumber? bias (k + 36) (weight * (36 - t)) rest
      some (d * weight + more, rest)

/-- Is the number that of a character? -/
def isScalar (n : Nat) : Bool :=
  n < 0xD800 || (0xDFFF < n && n ≤ 0x10FFFF)

/-- Puts in the characters that distances stand for, from the character `last` and the place `place` on. -/
def insertAll? (bias last place : Nat) (first : Bool) (label : List Char) :
    (fuel : Nat) → List Char → Option (List Char)
  | 0, _ => none
  | fuel + 1, cs =>
    if cs.isEmpty then some label
    else do
      let (distance, rest) ← readNumber? bias 36 1 cs
      let count := label.length + 1
      let position := place + distance
      let n := last + position / count
      if isScalar n then
        insertAll? (adapt distance count first) n (position % count + 1) false
          (label.insertIdx (position % count) (Char.ofNat n)) fuel rest
      else none

/-- The label that a text in ASCII stands for. -/
def decode? (cs : List Char) : Option (List Char) :=
  match Text.cutLast '-' cs with
  | some (basic, rest) =>
    if basic.isEmpty then none else insertAll? 72 0x80 0 true basic (rest.length + 1) rest
  | none => insertAll? 72 0x80 0 true [] (cs.length + 1) cs

end MeshDoctor.Url.Punycode
