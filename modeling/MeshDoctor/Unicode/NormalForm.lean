import Std.Data.HashMap
import MeshDoctor.Unicode.Composition
import MeshDoctor.Unicode.Mark

/-!
# Unicode — the composed normal form

Texts that look the same have one normal form: characters are taken apart, marks brought into order,
and what is left composed again.

* `decompose`: the parts of a character.
* `sortMarks`: marks in the order of their classes.
* `composePair?`, `compose`: characters made of others.
* `normalForm`: the composed normal form of a text.
-/

namespace MeshDoctor.Unicode

/-! ## Korean syllables -/

/-- The first of the Korean syllables and of their leading consonants, vowels and trailing consonants. -/
def syllableStart : Nat := 0xAC00
def leadStart : Nat := 0x1100
def vowelStart : Nat := 0x1161
def trailStart : Nat := 0x11A7

/-- The letters of a Korean syllable. -/
def syllableParts? (n : Nat) : Option (List Nat) :=
  if n < syllableStart || syllableStart + 19 * 588 ≤ n then none
  else
    let i := n - syllableStart
    let letters := [leadStart + i / 588, vowelStart + i % 588 / 28]
    some (if i % 28 = 0 then letters else letters ++ [trailStart + i % 28])

/-- The Korean syllable of a consonant and a vowel, or of a syllable without a trailing consonant and
one. -/
def syllable? (a b : Nat) : Option Nat :=
  if leadStart ≤ a && a < leadStart + 19 && vowelStart ≤ b && b < vowelStart + 21 then
    some (syllableStart + (a - leadStart) * 588 + (b - vowelStart) * 28)
  else if syllableStart ≤ a && a < syllableStart + 19 * 588 && (a - syllableStart) % 28 = 0
      && trailStart < b && b < trailStart + 28 then
    some (a + (b - trailStart))
  else none

/-! ## Taking apart -/

/-- The parts of a code point, taken apart `depth` times at most. -/
def decomposeCode : (depth n : Nat) → List Nat
  | 0, n => [n]
  | depth + 1, n =>
    match (syllableParts? n).or (replacements.findCode? n) with
    | some parts => parts
    | none =>
      match compositions.findCode? n with
      | some parts => parts.flatMap (decomposeCode depth)
      | none => [n]

/-- The parts of a character. -/
def decompose (c : Char) : List Char :=
  if c.toNat < 0xC0 then [c] else (decomposeCode 4 c.toNat).map Char.ofNat

/-- A mark in front of others in the order of their classes. -/
def insertMark (c : Char) : List Char → List Char
  | [] => [c]
  | d :: rest =>
    if combiningClass d ≠ 0 && combiningClass d < combiningClass c then d :: insertMark c rest
    else c :: d :: rest

/-- Marks in the order of their classes, those of one class as they were. -/
def sortMarks (cs : List Char) : List Char :=
  cs.foldr insertMark []

/-! ## Composing -/

/-- The characters that pairs of characters make. -/
def composites : Std.HashMap (Nat × Nat) Nat :=
  compositions.entries.foldl (fun table e =>
      match e.image with
      | [a, b] => table.insert (a, b) e.first
      | _ => table)
    ∅

/-- The character that two characters make. -/
def composePair? (a b : Char) : Option Char :=
  ((syllable? a.toNat b.toNat).or composites[(a.toNat, b.toNat)]?).map Char.ofNat

/-- Composes a character with those after it. `between`, the last first, are the marks that stand between
and did not compose; a mark that has one of its own class or a later one in front does not compose
either. -/
def composeFrom (start : Char) (between : List Char) : List Char → List Char
  | [] => start :: between.reverse
  | c :: rest =>
    let blocked := between.head?.any fun d => combiningClass c ≤ combiningClass d
    match if blocked then none else composePair? start c with
    | some made => composeFrom made between rest
    | none =>
      if combiningClass c = 0 then start :: between.reverse ++ composeFrom c [] rest
      else composeFrom start (c :: between) rest

/-- Composes characters. -/
def compose : List Char → List Char
  | [] => []
  | c :: rest => composeFrom c [] rest

/-- The composed normal form of a text. -/
def normalForm (cs : List Char) : List Char :=
  compose (sortMarks (cs.flatMap decompose))

end MeshDoctor.Unicode
