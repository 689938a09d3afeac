import MeshDoctor.Json.Value

/-!
# JSON — decoding records

Every part that does not decode fails the whole, so decoding gives an option. A record is written
as an object or, positionally, as an array of its fields in order.

* `Value.fields?`: the fields of a record by name, from either form.
* `needed`, `withDefault`, `optional`, `lenient`: what a missing or null field means.
* `asText`, `asInt`, `asBool`, `asList`, `asMap`: the leaves.
-/

namespace MeshDoctor.Json

/-- A decoder of values. -/
abbrev Decoder (α : Type) := Value → Option α

/-! ## Leaves -/

/-- A text. -/
def asText : Decoder String := Value.text?

/-- A boolean. -/
def asBool : Decoder Bool
  | .bool b => some b
  | _ => none

/-- A whole number between two limits. -/
def asInt (low high : Int) : Decoder Int
  | .int n => if low ≤ n ∧ n ≤ high then some n else none
  | _ => none

/-- A natural number below a bound. -/
def asNat (bound : Nat) : Decoder Nat
  | .int (.ofNat n) => if n < bound then some n else none
  | _ => none

/-- A whole number of 32 bits. -/
def asInt32 : Decoder Int := asInt (-0x80000000) 0x7FFFFFFF

/-- A whole number of 64 bits. -/
def asInt64 : Decoder Int := asInt (-0x8000000000000000) 0x7FFFFFFFFFFFFFFF

/-- A list whose items all decode. -/
def asList {α : Type} (d : Decoder α) : Decoder (List α)
  | .array items => items.mapM d
  | _ => none

/-- An object whose members are all texts. -/
def asMap : Decoder (List (String × String))
  | .object members => members.mapM fun (name, v) => (v.text?).map fun s => (name, s)
  | _ => none

/-! ## Fields -/

/-- A field that may be absent. -/
abbrev Field := Option Value

/-- A field that has to be there. -/
def needed {α : Type} (d : Decoder α) : Field → Option α
  | none => none
  | some v => d v

/-- A field whose absence means a default; null does not. -/
def withDefault {α : Type} (dflt : α) (d : Decoder α) : Field → Option α
  | none => some dflt
  | some v => d v

/-- A field whose absence means nothing, and null as well. -/
def optional {α : Type} (d : Decoder α) : Field → Option (Option α)
  | none => some none
  | some .null => some none
  | some v => (d v).map some

/-- A field whose absence means a default, and null as well. -/
def lenient {α : Type} (dflt : α) (d : Decoder α) : Field → Option α
  | none => some dflt
  | some .null => some dflt
  | some v => d v

/-- The fields of a record that is written as an object or as an array of its fields in order. -/
def Value.fields? (names : List String) : Value → Option (String → Field)
  | .object members => some fun name => members.lookup name
  | .array items =>
    if items.length ≤ names.length then some fun name => (names.zip items).lookup name else none
  | _ => none

/-- The fields of a record that is written as an object only. -/
def Value.members? : Value → Option (String → Field)
  | .object members => some fun name => members.lookup name
  | _ => none

end MeshDoctor.Json
