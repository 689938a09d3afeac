/-!
# Text — decimal numerals

A numeral is a non-empty row of ASCII digits, with at most one leading plus sign. Reading goes from
the left and stops at the first fault, so of two faults the left one is named.

* `readNumeral`: the number a text denotes, if it is below a bound.
* `NumeralError.message`: the wording of the faults.
-/

namespace MeshDoctor.Text

/-- Why a text is not a numeral of the wanted size. -/
inductive NumeralError where
  | empty
  | invalidDigit
  | tooLarge
  deriving DecidableEq, Repr

/-- The wording of a fault. -/
def NumeralError.message : NumeralError → String
  | .empty => "cannot parse integer from empty string"
  | .invalidDigit => "invalid digit found in string"
  | .tooLarge => "number too large to fit in target type"

/-- The value of an ASCII digit. -/
def digitValue? (c : Char) : Option Nat :=
  if '0' ≤ c ∧ c ≤ '9' then some (c.toNat - '0'.toNat) else none

/-- Reads digits from the left onto the value `acc` of those before them. -/
def readDigits (bound : Nat) (acc : Nat) : List Char → Except NumeralError Nat
  | [] => .ok acc
  | c :: rest =>
    match digitValue? c with
    | none => .error .invalidDigit
    | some d =>
      let next := 10 * acc + d
      if next < bound then readDigits bound next rest else .error .tooLarge

/-- The number below `bound` that the characters denote. -/
def readNumeral (bound : Nat) : List Char → Except NumeralError Nat
  | [] => .error .empty
  | ['+'] => .error .invalidDigit
  | '+' :: digits => readDigits bound 0 digits
  | digits => readDigits bound 0 digits

/-- The number below `bound` that the characters denote, without the reason when there is none. -/
def readNumeral? (bound : Nat) (cs : List Char) : Option Nat :=
  (readNumeral bound cs).toOption

end MeshDoctor.Text
