import MeshDoctor.Unicode.CodeSet

/-!
# Unicode — mappings of characters

What characters give way to, given as a text of entries in ascending order.

* `Spread`, `CodeMap.Entry`: what the characters of a range give way to.
* `CodeMap.ofText`: the mapping that a text of entries lists.
* `CodeMap.find?`: what a character gives way to.
-/

namespace MeshDoctor.Unicode

/-- How the characters of a range differ in what they give way to. -/
inductive Spread where
  /-- All give way to the same. -/
  | same
  /-- Each to a character as far from the first as it is itself. -/
  | shifted
  /-- Likewise, but only every second character gives way at all. -/
  | alternating
  deriving DecidableEq, Repr

/-- What the characters of a range give way to; `image` is what the first one does. -/
structure CodeMap.Entry where
  first : Nat
  last : Nat
  spread : Spread
  image : List Nat
  deriving Repr

/-- A mapping of code points: entries in ascending order. -/
structure CodeMap where
  entries : Array CodeMap.Entry

namespace CodeMap

/-- What a code point of an entry gives way to. -/
def Entry.apply? (e : Entry) (n : Nat) : Option (List Nat) :=
  if n < e.first || e.last < n then none
  else
    match e.spread with
    | .same => some e.image
    | .shifted => some (e.image.map (· + (n - e.first)))
    | .alternating =>
      if (n - e.first) % 2 = 0 then some (e.image.map (· + (n - e.first))) else none

/-- The sign between the ends of a range. -/
def spreads : List (Char × Spread) :=
  [('=', .same), ('-', .shifted), ('~', .alternating)]

/-- An entry: a code point or a range, a colon, and code points between commas. -/
def entry (word : List Char) : Entry :=
  let (range, image) := (Text.cutFirst ':' word).getD (word, [])
  let image := (image.splitOn ',').map codePoint
  let cut := spreads.findSome? fun (sign, spread) =>
    (Text.cutFirst sign range).map fun (first, last) => Entry.mk (codePoint first) (codePoint last) spread image
  cut.getD ⟨codePoint range, codePoint range, .same, image⟩

/-- The mapping that a text of entries lists. -/
def ofText (text : String) : CodeMap :=
  ⟨((words text).map entry).toArray⟩

/-- What a code point gives way to. -/
def findCode? (m : CodeMap) (n : Nat) : Option (List Nat) := do
  let i ← lastWhere (fun i => (m.entries[i]?).any fun e => e.first ≤ n) 0 m.entries.size
  let e ← m.entries[i]?
  e.apply? n

/-- What a character gives way to. -/
def find? (m : CodeMap) (c : Char) : Option (List Char) :=
  (m.findCode? c.toNat).map fun codes => codes.map Char.ofNat

end CodeMap

end MeshDoctor.Unicode
