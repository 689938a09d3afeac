import MeshDoctor.Json.Decode

/-!
# JSON — decoding what was encoded

* `Inverts`: a decoder gives back what an encoder was given.
* `fields?_object`, `withDefault_some`, `needed_some`: a field that was written is decoded.
* **`asList_map`**, **`optional_ofOption`**: lists and optional parts are given back if their parts
  are.
-/

namespace MeshDoctor.Json

variable {α : Type} {d : Decoder α} {encode : α → Value}

/-- The decoder gives back what the encoder was given. -/
def Inverts (d : Decoder α) (encode : α → Value) : Prop :=
  ∀ a, d (encode a) = some a

@[simp] theorem fields?_object (names : List String) (members : List (String × Value)) :
    (Value.object members).fields? names = some fun name => members.lookup name := rfl

@[simp] theorem withDefault_some (dflt : α) (v : Value) : withDefault dflt d (some v) = d v := rfl

@[simp] theorem needed_some (v : Value) : needed d (some v) = d v := rfl

@[simp] theorem asText_string (s : String) : asText (.string s) = some s := rfl

@[simp] theorem asBool_bool (b : Bool) : asBool (.bool b) = some b := rfl

theorem asNat_natCast {bound n : Nat} (h : n < bound) : asNat bound (.int n) = some n :=
  if_pos h

theorem asInt_int {low high n : Int} (hlow : low ≤ n) (hhigh : n ≤ high) :
    asInt low high (.int n) = some n :=
  if_pos ⟨hlow, hhigh⟩

theorem asList_map (h : Inverts d encode) (as : List α) :
    asList d (.array (as.map encode)) = some as := by
  rw [asList]
  induction as with
  | nil => rfl
  | cons a as ih =>
    rw [List.map_cons, List.mapM_cons, h a, ih]
    rfl

@[simp] theorem asList_ofTexts (texts : List String) :
    asList asText (.ofTexts texts) = some texts :=
  asList_map asText_string texts

/-- A part that may be absent is given back, as long as no part is written as null. -/
theorem optional_ofOption (h : Inverts d encode) (hnull : ∀ a, encode a ≠ .null) (o : Option α) :
    optional d (some (.ofOption encode o)) = some o := by
  cases o with
  | none => rfl
  | some a =>
    rw [Value.ofOption, optional.eq_3 _ _ fun heq => hnull a heq, h a]
    rfl

@[simp] theorem optional_ofOptionText (text : Option String) :
    optional asText (some (.ofOptionText text)) = some text :=
  optional_ofOption asText_string (fun _ => Value.noConfusion) text

end MeshDoctor.Json
