import MeshDoctor.Text.Pieces
import MeshDoctor.Text.Radix

/-!
# Unicode — sets of characters

A property of characters is a set of code points, given as a text of ranges in ascending order.

* `words`: the words of a text.
* `CodeSet`: ranges in ascending order.
* `CodeSet.ofText`: the set that a text of ranges in hexadecimal digits lists.
* `CodeSet.contains`: is a character in the set?
-/

namespace MeshDoctor.Unicode

/-! ## Texts of tables -/

/-- The words of a text that blanks and line ends separate. -/
def words (text : String) : List (List Char) :=
  (text.toList.splitOnP fun c => c = ' ' || c = '\n').filter fun word => !word.isEmpty

/-- A code point in hexadecimal digits. -/
def codePoint (digits : List Char) : Nat :=
  (Text.digitsValue? 16 digits).getD 0

/-- A range of code points: both ends with a dash between, or one code point alone. -/
def codeRange (word : List Char) : Nat × Nat :=
  match Text.cutFirst '-' word with
  | some (first, last) => (codePoint first, codePoint last)
  | none => (codePoint word, codePoint word)

/-! ## Searching -/

/-- The last index from `low` on and below `high` where `holds` is true, if it is true at some first
indices and false after them. -/
def lastWhere (holds : Nat → Bool) (low high : Nat) : Option Nat :=
  if low < high then
    let middle := (low + high) / 2
    if holds middle then (lastWhere holds (middle + 1) high).or (some middle)
    else lastWhere holds low middle
  else none
  termination_by high - low

/-! ## Sets -/

/-- A set of code points: ranges in ascending order. -/
structure CodeSet where
  ranges : Array (Nat × Nat)

namespace CodeSet

/-- The set that a text of ranges lists. -/
def ofText (text : String) : CodeSet :=
  ⟨((words text).map codeRange).toArray⟩

/-- Is the code point in the set? -/
def containsCode (s : CodeSet) (n : Nat) : Bool :=
  match lastWhere (fun i => (s.ranges[i]?).any fun (first, _) => first ≤ n) 0 s.ranges.size with
  | some i => (s.ranges[i]?).any fun (_, last) => n ≤ last
  | none => false

/-- Is the character in the set? -/
def contains (s : CodeSet) (c : Char) : Bool :=
  s.containsCode c.toNat

end CodeSet

end MeshDoctor.Unicode
