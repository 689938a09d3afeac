import Mathlib.Tactic.Simproc.ExistsAndEq
import MeshDoctor.Json.Reader

/-!
# JSON — how objects start

* `readNumber_ne_object`: a number is no object.
* **`exists_brace_of_readValue`**: a value that is an object starts with a brace.
* `Document.read?_ne_other_object`: so no object is taken for a document that is none.
-/

namespace MeshDoctor.Json

variable {loose negative : Bool} {cs rest : List Char} {ms : List (String × Value)}

theorem realNumber_ne_object {significand : Nat} {exponent : Int} :
    realNumber loose negative significand exponent ≠ some (.object ms) := by
  rw [realNumber]
  split
  · simp
  · split <;> simp

theorem wholeNumber_ne_object {n : Nat} : wholeNumber negative n ≠ .object ms := by
  rw [wholeNumber]
  split
  · split <;> simp
  · simp

theorem readUnsigned_ne_object : readUnsigned loose negative cs ≠ some (.object ms, rest) := by
  intro h
  rw [readUnsigned] at h
  simp only [] at h
  -- Whatever the digits are, the number was scaled or is whole.
  repeat' split at h
  all_goals simp [Option.bind_eq_some_iff, realNumber_ne_object, wholeNumber_ne_object] at h

theorem readNumber_ne_object : readNumber loose cs ≠ some (.object ms, rest) := by
  rw [readNumber.eq_def]
  split <;> exact readUnsigned_ne_object

/-- **A value that is an object starts with a brace.** -/
theorem exists_brace_of_readValue {fuel levels : Nat}
    (h : readValue loose fuel levels cs = some (.object ms, rest)) :
    ∃ more, skipBlanks cs = '\x7b' :: more := by
  cases fuel with
  | zero =>
    rw [readValue] at h
    cases h
  | succ fuel =>
    rw [readValue] at h
    split at h
    case h_3 =>
      split at h
      · cases h
      · split at h <;> simp at h
    case h_4 more heq => exact ⟨more, heq⟩
    case h_8 => exact absurd h readNumber_ne_object
    all_goals simp [readWord] at h

/-- An object is read member by member, so it is never a document that is no object. -/
theorem Document.read?_ne_other_object {known : List String} {text : String} :
    Document.read? known text ≠ some (.other (.object ms)) := by
  intro h
  simp only [Document.read?] at h
  split at h
  · split at h <;> simp [Option.bind_eq_some_iff] at h
  · next hno =>
    rw [Option.map_eq_some_iff] at h
    obtain ⟨v, hv, hother⟩ := h
    obtain rfl := Document.other.inj hother
    simp only [Value.read?, Option.bind_eq_bind, Option.bind_eq_some_iff] at hv
    obtain ⟨⟨v, rest⟩, hread, hv⟩ := hv
    split at hv
    · obtain rfl := Option.some.inj hv
      obtain ⟨more, hmore⟩ := exists_brace_of_readValue hread
      exact hno more hmore
    · cases hv

end MeshDoctor.Json
