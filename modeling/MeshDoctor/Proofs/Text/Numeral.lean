import MeshDoctor.Proofs.Json.Leaves
import MeshDoctor.Text.Numeral

/-!
# Text — what decimal numerals denote

* `IsNumeral`: a row of digits and the number that it denotes; `IsDecimal`: the one without zeros in
  front.
* `isDecimal_toString`, `IsNumeral.zeros`: how a number is printed, and what zeros in front do.
* `toString_nat_injective`, `toString_int_injective`: a printed number tells the number.
* `Denotes`: a numeral with or without a plus sign, and the number that it denotes.
* **`readNumeral_eq_ok_iff`**: a number below the bound is read exactly from its numerals, with or
  without a plus sign.
* `readNumeral?_eq_some_iff_denotes`, `readNumeral?_eq_some_iff`: so it is without the reason, and for
  texts that have no sign.
-/

namespace MeshDoctor.Text

variable {cs : List Char} {n : Nat}

/-! ## Numerals -/

/-- The characters are digits, and they denote the number. -/
structure IsNumeral (cs : List Char) (n : Nat) : Prop where
  ne_nil : cs ≠ []
  isDigit : ∀ c ∈ cs, c.isDigit
  value : Nat.ofDigitChars 10 cs 0 = n

/-- The text denotes the number, and it starts with a zero only if it is zero. -/
structure IsDecimal (text : String) (n : Nat) : Prop where
  isNumeral : IsNumeral text.toList n
  no_zero_first : text.toList.head? = some '0' → text = "0"

theorem IsNumeral.unique {n' : Nat} (h : IsNumeral cs n) (h' : IsNumeral cs n') : n = n' :=
  h.value.symm.trans h'.value

/-- The text is a numeral of the number, with or without a plus sign in front. -/
def Denotes (cs : List Char) (n : Nat) : Prop :=
  IsNumeral cs n ∨ ∃ digits, cs = '+' :: digits ∧ IsNumeral digits n

/-- A text with a sign is not a numeral, so a text denotes one number at most. -/
theorem Denotes.unique {n' : Nat} (h : Denotes cs n) (h' : Denotes cs n') : n = n' := by
  have hsign : ∀ {digits m}, ¬ IsNumeral ('+' :: digits) m := fun h =>
    absurd (h.isDigit '+' List.mem_cons_self) (by decide)
  rcases h with h | ⟨digits, rfl, h⟩ <;> rcases h' with h' | ⟨digits', hcs, h'⟩
  · exact h.unique h'
  · exact absurd (hcs ▸ h) hsign
  · exact absurd h' hsign
  · obtain rfl := (List.cons.inj hcs).2
    exact h.unique h'

/-- Zeros in front do not count. -/
theorem IsNumeral.zeros (h : IsNumeral cs n) (k : Nat) :
    IsNumeral (List.replicate k '0' ++ cs) n where
  ne_nil := by simp [h.ne_nil]
  isDigit := by
    intro c hc
    rcases List.mem_append.mp hc with hc | hc
    · rw [List.eq_of_mem_replicate hc]
      rfl
    · exact h.isDigit c hc
  value := by
    rw [Nat.ofDigitChars_append, Nat.ofDigitChars_replicate_zero, Nat.mul_zero]
    exact h.value

theorem toList_toString (n : Nat) : (toString n).toList = Nat.toDigits 10 n := by
  rw [Nat.toString_eq_repr, Nat.toList_repr]

/-- **A number is printed as its numeral without zeros in front.** -/
theorem isDecimal_toString (n : Nat) : IsDecimal (toString n) n where
  isNumeral := by
    rw [toList_toString]
    exact ⟨Nat.toDigits_ne_nil, fun _ => Json.isDigit_of_mem_toDigits,
      Nat.ofDigitChars_ten_toDigits⟩
  no_zero_first := by
    intro hzero
    refine String.toList_injective ?_
    rw [toList_toString] at hzero ⊢
    rcases Json.toDigits_head_ne_zero n with hdigits | ⟨c, ds, hdigits, hne⟩
    · rw [hdigits]
      rfl
    · rw [hdigits, List.head?_cons, Option.some.injEq] at hzero
      rw [hzero] at hne
      exact absurd rfl hne

/-- A printed number tells the number. -/
theorem toString_nat_injective {m n : Nat} (h : toString m = toString n) : m = n :=
  (isDecimal_toString m).isNumeral.unique (h ▸ (isDecimal_toString n).isNumeral)

/-- With its sign, so does a printed integer; the minus sign is not a digit. -/
theorem toString_int_injective {m n : Int} (h : toString m = toString n) : m = n := by
  have hsign (k l : Nat) : k.repr ≠ "-" ++ l.repr := fun h =>
    have hminus : '-' ∈ (toString k).toList := by
      rw [Nat.toString_eq_repr, h, String.toList_append]
      exact List.mem_append_left _ List.mem_cons_self
    absurd ((isDecimal_toString k).isNumeral.isDigit '-' hminus) (by decide)
  rw [Int.toString_eq_repr, Int.toString_eq_repr, Int.repr_eq_if, Int.repr_eq_if] at h
  split at h <;> split at h
  · have hvalue := toString_nat_injective h
    omega
  · exact absurd h (hsign _ _)
  · exact absurd h.symm (hsign _ _)
  · have hvalue := toString_nat_injective ((String.append_right_inj _).mp h)
    omega

/-! ## Reading -/

theorem digitValue?_eq (c : Char) :
    digitValue? c = if c.isDigit then some (c.toNat - '0'.toNat) else none := by
  have hdigit : ('0' ≤ c ∧ c ≤ '9') ↔ c.isDigit := Char.isDigit_iff_toNat.symm
  simp only [digitValue?, hdigit]

theorem readDigits_eq_ok_iff {bound acc : Nat} (hacc : acc < bound) :
    readDigits bound acc cs = .ok n ↔
      (∀ c ∈ cs, c.isDigit) ∧ Nat.ofDigitChars 10 cs acc = n ∧ n < bound := by
  induction cs generalizing acc with
  | nil =>
    rw [readDigits, Nat.ofDigitChars_nil, Except.ok.injEq]
    constructor
    · rintro rfl
      exact ⟨nofun, rfl, hacc⟩
    · exact fun h => h.2.1
  | cons c rest ih =>
    rw [readDigits, digitValue?_eq, List.forall_mem_cons, Nat.ofDigitChars_cons]
    by_cases hc : c.isDigit
    · simp only [hc, if_true, true_and]
      split
      next hnext => exact ih hnext
      next hnext =>
        -- The digits that follow only make the number larger.
        have hle := Json.le_ofDigitChars rest (10 * acc + (c.toNat - '0'.toNat))
        refine iff_of_false nofun fun h => ?_
        omega
    · simp [hc]

theorem readNumeral_nil_ne_ok {bound : Nat} : readNumeral bound [] ≠ .ok n := nofun

theorem readNumeral_plus {bound : Nat} (digits : List Char) (hdigits : digits ≠ []) :
    readNumeral bound ('+' :: digits) = readDigits bound 0 digits := by
  cases digits with
  | nil => exact absurd rfl hdigits
  | cons d digits => rfl

theorem readNumeral_of_ne_plus {bound : Nat} (hne : cs ≠ []) (hplus : cs.head? ≠ some '+') :
    readNumeral bound cs = readDigits bound 0 cs := by
  rw [readNumeral.eq_def]
  split <;> simp_all

/-- **A number below the bound is read exactly from its numerals**, with or without a plus sign. -/
theorem readNumeral_eq_ok_iff {bound : Nat} (hbound : 0 < bound) :
    readNumeral bound cs = .ok n ↔
      (IsNumeral cs n ∨ ∃ digits, cs = '+' :: digits ∧ IsNumeral digits n) ∧ n < bound := by
  have hread : ∀ digits, digits ≠ [] →
      (readDigits bound 0 digits = .ok n ↔ IsNumeral digits n ∧ n < bound) := by
    intro digits hne
    rw [readDigits_eq_ok_iff hbound]
    exact ⟨fun h => ⟨⟨hne, h.1, h.2.1⟩, h.2.2⟩, fun h => ⟨h.1.isDigit, h.1.value, h.2⟩⟩
  by_cases hplus : cs.head? = some '+'
  · obtain ⟨digits, rfl⟩ := List.head?_eq_some_iff.mp hplus
    have hsign : ¬ IsNumeral ('+' :: digits) n := fun h =>
      absurd (h.isDigit '+' List.mem_cons_self) (by decide)
    have hsame : (∃ digits', '+' :: digits = '+' :: digits' ∧ IsNumeral digits' n) ↔
        IsNumeral digits n := by
      simp
    rw [or_iff_right hsign, hsame]
    by_cases hne : digits = []
    · subst hne
      exact iff_of_false nofun fun h => h.1.ne_nil rfl
    · rw [readNumeral_plus digits hne, hread digits hne]
  · have hsign : ¬ ∃ digits, cs = '+' :: digits ∧ IsNumeral digits n := by
      rintro ⟨digits, rfl, -⟩
      exact hplus rfl
    rw [or_iff_left hsign]
    by_cases hne : cs = []
    · subst hne
      exact iff_of_false readNumeral_nil_ne_ok fun h => h.1.ne_nil rfl
    · rw [readNumeral_of_ne_plus hne hplus, hread cs hne]

/-- A text is read without the reason exactly if it denotes a number below the bound. -/
theorem readNumeral?_eq_some_iff_denotes {bound : Nat} (hbound : 0 < bound) :
    readNumeral? bound cs = some n ↔ Denotes cs n ∧ n < bound := by
  have hok : readNumeral? bound cs = some n ↔ readNumeral bound cs = .ok n := by
    rw [readNumeral?]
    cases readNumeral bound cs <;> simp [Except.toOption]
  exact hok.trans (readNumeral_eq_ok_iff hbound)

/-- A text without a sign is read exactly if it is a numeral of a number below the bound. -/
theorem readNumeral?_eq_some_iff {bound : Nat} (hbound : 0 < bound) (hplus : '+' ∉ cs) :
    readNumeral? bound cs = some n ↔ IsNumeral cs n ∧ n < bound := by
  have hsign : ¬ ∃ digits, cs = '+' :: digits ∧ IsNumeral digits n := by
    rintro ⟨digits, rfl, -⟩
    exact hplus List.mem_cons_self
  rw [readNumeral?_eq_some_iff_denotes hbound, Denotes, or_iff_left hsign]

end MeshDoctor.Text
