import MeshDoctor.Json.Binary64

/-!
# JSON — values

The members of an object are kept in the order of their names, each name once.

* `Value`: a JSON value; whole numbers and others are told apart.
* `Value.same`: are two values the same? It decides equality, by `Value.same_iff`.
* `setMember`: adds a member to a sorted object, the later of two with one name staying.
* `Value.member?`, `Value.at?`: the member of a name and along a path of names.
-/

namespace MeshDoctor.Json

/-- A JSON value. -/
inductive Value where
  | null
  | bool (b : Bool)
  | int (n : Int)
  | real (x : Binary64)
  | string (s : String)
  | array (items : List Value)
  | object (members : List (String × Value))
  deriving Repr, Inhabited

/-! ## Equality -/

mutual

/-- Are two values the same? -/
def Value.same : Value → Value → Bool
  | .null, .null => true
  | .bool a, .bool b => a == b
  | .int a, .int b => a == b
  | .real a, .real b => a == b
  | .string a, .string b => a == b
  | .array a, .array b => Value.sameItems a b
  | .object a, .object b => Value.sameMembers a b
  | _, _ => false

/-- Are two lists of values the same? -/
def Value.sameItems : List Value → List Value → Bool
  | [], [] => true
  | v :: vs, w :: ws => v.same w && Value.sameItems vs ws
  | _, _ => false

/-- Are two lists of members the same? -/
def Value.sameMembers : List (String × Value) → List (String × Value) → Bool
  | [], [] => true
  | (a, v) :: vs, (b, w) :: ws => a == b && v.same w && Value.sameMembers vs ws
  | _, _ => false

end

mutual

theorem Value.same_iff : ∀ v w : Value, v.same w = true ↔ v = w
  | .null, w => by cases w <;> simp [Value.same]
  | .bool a, w => by cases w <;> simp [Value.same]
  | .int a, w => by cases w <;> simp [Value.same]
  | .real a, w => by cases w <;> simp [Value.same]
  | .string a, w => by cases w <;> simp [Value.same]
  | .array a, w => by cases w <;> simp [Value.same, Value.sameItems_iff a]
  | .object a, w => by cases w <;> simp [Value.same, Value.sameMembers_iff a]

theorem Value.sameItems_iff : ∀ vs ws : List Value, Value.sameItems vs ws = true ↔ vs = ws
  | [], ws => by cases ws <;> simp [Value.sameItems]
  | v :: vs, ws => by
    cases ws <;> simp [Value.sameItems, Value.same_iff v, Value.sameItems_iff vs]

theorem Value.sameMembers_iff :
    ∀ vs ws : List (String × Value), Value.sameMembers vs ws = true ↔ vs = ws
  | [], ws => by cases ws <;> simp [Value.sameMembers]
  | (a, v) :: vs, [] => by simp [Value.sameMembers]
  | (a, v) :: vs, (b, w) :: ws => by
    simp [Value.sameMembers, Value.same_iff v, Value.sameMembers_iff vs]

end

instance : DecidableEq Value := fun v w => decidable_of_iff _ (Value.same_iff v w)

/-! ## Members -/

/-- Puts a member at its place among sorted members, instead of one of its name. -/
def setMember (name : String) (v : Value) : List (String × Value) → List (String × Value)
  | [] => [(name, v)]
  | (other, w) :: rest =>
    if name = other then (name, v) :: rest
    else if name < other then (name, v) :: (other, w) :: rest
    else (other, w) :: setMember name v rest

/-- Members as they were written, sorted, the last of each name. -/
def sortMembers (members : List (String × Value)) : List (String × Value) :=
  members.foldl (fun acc (name, v) => setMember name v acc) []

namespace Value

/-- An object of the given members. -/
def ofMembers (members : List (String × Value)) : Value :=
  object (sortMembers members)

/-- A value or null. -/
def ofOption {α : Type} (f : α → Value) : Option α → Value
  | none => null
  | some a => f a

/-- A text or null. -/
def ofOptionText (text : Option String) : Value :=
  ofOption string text

/-- A list of texts. -/
def ofTexts (texts : List String) : Value :=
  array (texts.map string)

/-- The member of this name, none of a value that is no object. -/
def member? (name : String) : Value → Option Value
  | object members => members.lookup name
  | _ => none

/-- The value reached by following member names. -/
def at? : List String → Value → Option Value
  | [], v => some v
  | name :: rest, v => (v.member? name).bind (at? rest)

/-- The text of a string value. -/
def text? : Value → Option String
  | string s => some s
  | _ => none

/-- The text found along a path of member names. -/
def textAt? (path : List String) (v : Value) : Option String :=
  (v.at? path).bind text?

end Value

end MeshDoctor.Json
