import MeshDoctor.Text.Pieces
import MeshDoctor.Text.Width

/-!
# Reports — tables

A table has ruled lines around every row and columns as wide as their widest line.

* `Cell`: the lines of a cell and its colour.
* `Table.render`: the text of a table, with or without colours.
-/

namespace MeshDoctor

/-- The colours of cells, as numbers of a terminal's palette. -/
inductive Colour where
  | green
  | red
  | cyan
  | yellow
  | grey
  deriving DecidableEq, Repr

/-- The number of a colour. -/
def Colour.code : Colour → Nat
  | .grey => 8
  | .red => 9
  | .green => 10
  | .yellow => 11
  | .cyan => 14

/-- Starts a sequence that a terminal does not show. -/
def escape (parameters : String) : String :=
  "\x1b[" ++ parameters ++ "m"

/-- A text in a colour. -/
def Colour.paint (c : Colour) (text : String) : String :=
  escape ("38;5;" ++ toString c.code) ++ text ++ escape "39"

/-- A cell of a table. -/
structure Cell where
  lines : List String
  colour : Option Colour := none
  deriving DecidableEq, Repr

namespace Cell

/-- A cell with a text, of which each line is one of the cell. -/
def ofText (text : String) (colour : Option Colour := none) : Cell :=
  ⟨Text.splitLines text, colour⟩

/-- The columns that a cell needs. -/
def width (c : Cell) : Nat :=
  (c.lines.map Text.displayWidth).foldl max 0

/-- A line of a cell that is `width` columns wide, with a blank on both sides. Colours reach over the
blanks, but not over lines that the cell does not have. -/
def line (c : Cell) (styled : Bool) (width n : Nat) : String :=
  let blank (k : Nat) := String.ofList (List.replicate k ' ')
  match c.lines[n]? with
  | none => blank (width + 2)
  | some text =>
    let padded := " " ++ text ++ blank (width - Text.displayWidth text) ++ " "
    match c.colour with
    | some colour => if styled then colour.paint padded else padded
    | none => padded

end Cell

/-- A table: its heading and its rows. -/
structure Table where
  heading : List Cell
  rows : List (List Cell)
  deriving DecidableEq, Repr

namespace Table

/-- The widths of the columns. -/
def widths (t : Table) : List Nat :=
  t.rows.foldl (fun widths row => List.zipWith max widths (row.map Cell.width))
    (t.heading.map Cell.width)

/-- A ruled line between two ends. -/
def rule (widths : List Nat) (corner : String) : String :=
  corner ++ String.intercalate "+" (widths.map fun w => String.ofList (List.replicate (w + 2) '-'))
    ++ corner

/-- The ruled line below the heading, which no column interrupts. -/
def headingRule (widths : List Nat) : String :=
  let length := widths.foldl (fun length width => length + (width + 2)) 0 + (widths.length - 1)
  "+" ++ String.ofList (List.replicate length '=') ++ "+"

/-- The lines of a row. -/
def rowLines (styled : Bool) (widths : List Nat) (row : List Cell) : List String :=
  let height := (row.map fun c => c.lines.length).foldl max 0
  (List.range height).map fun n =>
    "|" ++ String.intercalate "|" (List.zipWith (fun w c => c.line styled w n) widths row) ++ "|"

/-- The lines of rows with ruled lines between them. -/
def bodyLines (styled : Bool) (widths : List Nat) : List (List Cell) → List String
  | [] => []
  | [row] => rowLines styled widths row
  | row :: rest => rowLines styled widths row ++ rule widths "|" :: bodyLines styled widths rest

/-- The text of a table. -/
def render (t : Table) (styled : Bool) : String :=
  let widths := t.widths
  String.intercalate "\n"
    (rule widths "+" :: rowLines styled widths t.heading ++ headingRule widths
      :: bodyLines styled widths t.rows ++ [rule widths "+"])

end Table

end MeshDoctor
