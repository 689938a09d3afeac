import MeshDoctor.Text.Numeral
import MeshDoctor.Text.Pieces
import MeshDoctor.Time.Date

/-!
# Time — points in time

A point in time is written as `2024-01-02T03:04:05Z`: whole seconds of universal time. It is read
from any date and time of day with an offset from universal time. The reader allows blanks between
the parts, one digit instead of two, a blank instead of the `T`, and a fraction of a second, which
is dropped.

* `Instant`: a day and a time of day.
* `Instant.ofLocal?`: the point in time of a local time.
* `Instant.read?`, `Instant.text`: the reader and the writer.
-/

namespace MeshDoctor

/-- A point in time, to the second. A minute may have a sixtieth second, which is a leap second. -/
structure Instant where
  date : Date
  /-- The minute of the day. -/
  minute : Nat
  second : Nat
  minute_lt : minute < 1440
  second_le : second ≤ 60
  deriving DecidableEq, Repr

namespace Instant

/-! ## Local time -/

/-- The point in time of a day and a time of day. -/
def ofParts? (date : Date) (minute second : Nat) : Option Instant :=
  if h : minute < 1440 ∧ second ≤ 60 then some ⟨date, minute, second, h.1, h.2⟩ else none

/-- The point in time at which it is `minute` of the day in a place that is `ahead` minutes ahead of
universal time. -/
def ofLocal? (date : Date) (minute second : Nat) (ahead : Int) : Option Instant := do
  let shifted := (minute : Int) - ahead
  if shifted < 0 then ofParts? (← date.previous?) (shifted + 1440).toNat second
  else if shifted < 1440 then ofParts? date shifted.toNat second
  else ofParts? (← date.next?) (shifted - 1440).toNat second

/-! ## Reading -/

/-- Characters without the blanks in front. -/
def dropBlanks (cs : List Char) : List Char := cs.dropWhile Text.isBlank

/-- The number that the digits in front denote, at most `most` of them and at least one. -/
def digits? (most : Nat) (cs : List Char) : Option (Nat × List Char) :=
  let ds := (cs.take most).takeWhile Char.isDigit
  if ds.isEmpty then none
  else some (ds.foldl (fun n c => 10 * n + (c.toNat - '0'.toNat)) 0, cs.drop ds.length)

/-- A number of one or two digits after blanks. -/
def pair? (cs : List Char) : Option (Nat × List Char) :=
  digits? 2 (dropBlanks cs)

/-- A year after blanks: four digits at most, or any number of them after a sign. -/
def year? (cs : List Char) : Option (Int × List Char) :=
  match dropBlanks cs with
  | '-' :: rest => (digits? rest.length rest).map fun (n, cs) => (-n, cs)
  | '+' :: rest => (digits? rest.length rest).map fun (n, cs) => (n, cs)
  | cs => (digits? 4 cs).map fun (n, cs) => (n, cs)

/-- What follows a mark after blanks. -/
def after? (mark : Char) (cs : List Char) : Option (List Char) :=
  match dropBlanks cs with
  | c :: rest => if c = mark then some rest else none
  | [] => none

/-- What follows the mark between the date and the time of day. -/
def afterDate? : List Char → Option (List Char)
  | 'T' :: rest => some rest
  | 't' :: rest => some rest
  | ' ' :: rest => some rest
  | _ => none

/-- What follows a fraction of a second, which need not be there. -/
def afterFraction? : List Char → Option (List Char)
  | '.' :: rest => (digits? rest.length rest).map (·.2)
  | cs => some cs

/-- The minutes of an offset after its sign; colons and blanks may stand before the second pair. -/
def offsetSize? (cs : List Char) : Option (Nat × List Char) :=
  match cs with
  | a :: b :: rest => do
    let hours := 10 * (← Text.digitValue? a) + (← Text.digitValue? b)
    match rest.dropWhile fun c => c = ':' || Text.isBlank c with
    | c :: d :: rest =>
      let minutes := 10 * (← Text.digitValue? c) + (← Text.digitValue? d)
      if hours < 24 ∧ minutes < 60 then some (60 * hours + minutes, rest) else none
    | _ => none
  | _ => none

/-- How many minutes a place is ahead of universal time. -/
def offset? (cs : List Char) : Option (Int × List Char) :=
  if (cs.take 3).map Char.toLower = ['u', 't', 'c'] then some (0, cs.drop 3)
  else
    match cs with
    | 'Z' :: rest => some (0, rest)
    | 'z' :: rest => some (0, rest)
    | '+' :: rest => (offsetSize? rest).map fun (n, cs) => (n, cs)
    | '-' :: rest => (offsetSize? rest).map fun (n, cs) => (-n, cs)
    | '−' :: rest => (offsetSize? rest).map fun (n, cs) => (-n, cs)
    | _ => none

/-- The point in time that a text denotes. -/
def read? (text : String) : Option Instant := do
  let (year, cs) ← year? text.toList
  let (month, cs) ← pair? (← after? '-' cs)
  let (day, cs) ← pair? (← after? '-' cs)
  let (hour, cs) ← pair? (← afterDate? cs)
  let (minute, cs) ← pair? (← after? ':' cs)
  let (second, cs) ← pair? (← after? ':' cs)
  let (ahead, cs) ← offset? (dropBlanks (← afterFraction? cs))
  if (dropBlanks cs).isEmpty ∧ hour < 24 ∧ minute < 60 then
    ofLocal? (← Date.ofParts? year month day) (60 * hour + minute) second ahead
  else none

/-! ## Writing -/

/-- A number with zeros in front up to a width. -/
def padded (width n : Nat) : String :=
  String.ofList (List.replicate (width - (toString n).length) '0') ++ toString n

/-- A year: four digits, and a sign where they do not suffice. -/
def yearText (year : Int) : String :=
  if 0 ≤ year ∧ year ≤ 9999 then padded 4 year.toNat
  else (if year < 0 then "-" else "+") ++ padded 4 year.natAbs

/-- How a point in time is written. -/
def text (i : Instant) : String :=
  yearText i.date.year ++ "-" ++ padded 2 i.date.month ++ "-" ++ padded 2 i.date.day ++ "T"
    ++ padded 2 (i.minute / 60) ++ ":" ++ padded 2 (i.minute % 60) ++ ":" ++ padded 2 i.second ++ "Z"

end Instant

end MeshDoctor
