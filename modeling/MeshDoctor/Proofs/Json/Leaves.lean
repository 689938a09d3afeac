import MeshDoctor.Json.Printer
import MeshDoctor.Json.Reader

/-!
# JSON — reading back numbers and strings

* `EndsValue`: what may stand after a value.
* **`readNumber_toString`**: a printed whole number of 64 bits is read back.
* **`readString_escaped`**: a printed string is read back.
-/

namespace MeshDoctor.Json

/-- The characters that mean nothing between the parts of a text. -/
def blankChars : List Char := [' ', '\n', '\t', '\r']

/-- After a value a text ends, or its list, item or member does, or there are blanks. -/
def EndsValue (rest : List Char) : Prop :=
  rest = [] ∨ ∃ c more, rest = c :: more ∧ c ∈ [',', ']', '\x7d'] ++ blankChars

theorem endsValue_nil : EndsValue [] := .inl rfl

theorem endsValue_cons {c : Char} {more : List Char}
    (h : c ∈ [',', ']', '\x7d'] ++ blankChars) : EndsValue (c :: more) :=
  .inr ⟨c, more, rfl, h⟩

theorem endsValue_cases {rest : List Char} (h : EndsValue rest) :
    rest = [] ∨ ∃ more, rest = ',' :: more ∨ rest = ']' :: more ∨ rest = '\x7d' :: more ∨
      rest = ' ' :: more ∨ rest = '\n' :: more ∨ rest = '\t' :: more ∨ rest = '\r' :: more := by
  obtain rfl | ⟨c, more, rfl, hc⟩ := h
  · exact .inl rfl
  · refine .inr ⟨more, ?_⟩
    simpa [blankChars] using hc

variable {loose negative : Bool} {rest : List Char}

/-! ## Numbers -/

theorem spanDigits_of_endsValue (h : EndsValue rest) : spanDigits rest = ([], rest) := by
  obtain rfl | ⟨more, rfl | rfl | rfl | rfl | rfl | rfl | rfl⟩ := endsValue_cases h <;> rfl

theorem spanDigits_append {ds : List Char} (hds : ∀ c ∈ ds, c.isDigit) (h : EndsValue rest) :
    spanDigits (ds ++ rest) = (ds.map fun c => c.toNat - '0'.toNat, rest) := by
  have hrest := spanDigits_of_endsValue h
  rw [spanDigits, Prod.mk.injEq, List.map_eq_nil_iff] at hrest
  rw [spanDigits, List.takeWhile_append_of_pos hds, List.dropWhile_append_of_pos hds, hrest.1,
    hrest.2, List.append_nil]

theorem le_ofDigitChars (ds : List Char) (acc : Nat) : acc ≤ Nat.ofDigitChars 10 ds acc := by
  induction ds generalizing acc with
  | nil => exact Nat.le_refl acc
  | cons c ds ih =>
    rw [Nat.ofDigitChars_cons]
    have hle := ih (10 * acc + (c.toNat - '0'.toNat))
    omega

/-- Digits of a number that 64 bits hold are all taken. -/
theorem takeWord_digits {ds : List Char} {acc : Nat} (h : Nat.ofDigitChars 10 ds acc ≤ maxWord) :
    takeWord acc (ds.map fun c => c.toNat - '0'.toNat) = (Nat.ofDigitChars 10 ds acc, []) := by
  induction ds generalizing acc with
  | nil => rfl
  | cons c ds ih =>
    rw [Nat.ofDigitChars_cons] at h ⊢
    have hle := le_ofDigitChars ds (10 * acc + (c.toNat - '0'.toNat))
    rw [List.map_cons, takeWord, if_pos (Nat.le_trans hle h), ih h]

/-- A printed number starts with a zero only if it is zero. -/
theorem toDigits_head_ne_zero (n : Nat) :
    Nat.toDigits 10 n = ['0'] ∨ ∃ c ds, Nat.toDigits 10 n = c :: ds ∧ c.toNat - '0'.toNat ≠ 0 := by
  induction n using Nat.strongRecOn with
  | ind n ih =>
    by_cases hn : n < 10
    · have hdigit : ∀ d < 10, d = 0 ∨ d.digitChar.toNat - '0'.toNat ≠ 0 := by decide
      rw [Nat.toDigits_of_lt_base hn]
      rcases hdigit n hn with rfl | hne
      · exact .inl rfl
      · exact .inr ⟨_, [], rfl, hne⟩
    · rw [Nat.toDigits_of_base_le (by decide) (by omega)]
      -- The quotient is not zero, so its own first digit is not.
      rcases ih (n / 10) (by omega) with hzero | ⟨c, ds, hcs, hne⟩
      · have hvalue : Nat.ofDigitChars 10 (Nat.toDigits 10 (n / 10)) 0 = n / 10 :=
          Nat.ofDigitChars_ten_toDigits
        rw [hzero] at hvalue
        have : n / 10 = 0 := hvalue.symm
        omega
      · exact .inr ⟨c, ds ++ [(n % 10).digitChar], by rw [hcs, List.cons_append], hne⟩

/-- Digits without a fraction or an exponent after them are a whole number. -/
theorem readUnsigned_of_digits {cs : List Char} {digits : List Nat} {n : Nat}
    (hspan : spanDigits cs = (digits, rest)) (hdigits : digits ≠ [])
    (hzero : ∀ d ds, digits ≠ 0 :: d :: ds) (hword : takeWord 0 digits = (n, []))
    (h : EndsValue rest) :
    readUnsigned loose negative cs = some (wholeNumber negative n, rest) := by
  rw [readUnsigned, hspan]
  simp only [hword]
  obtain rfl | ⟨more, rfl | rfl | rfl | rfl | rfl | rfl | rfl⟩ := endsValue_cases h <;> rfl

theorem isDigit_of_mem_toDigits {n : Nat} {c : Char} (h : c ∈ Nat.toDigits 10 n) : c.isDigit :=
  Nat.isDigit_of_mem_toDigits (by decide) (Nat.le_refl 10) h

theorem readUnsigned_toDigits {n : Nat} (hn : n ≤ maxWord) (h : EndsValue rest) :
    readUnsigned loose negative (Nat.toDigits 10 n ++ rest) =
      some (wholeNumber negative n, rest) := by
  have hspan : spanDigits (Nat.toDigits 10 n ++ rest) =
      ((Nat.toDigits 10 n).map fun c => c.toNat - '0'.toNat, rest) :=
    spanDigits_append (fun _ => isDigit_of_mem_toDigits) h
  have hvalue : Nat.ofDigitChars 10 (Nat.toDigits 10 n) 0 = n := Nat.ofDigitChars_ten_toDigits
  have hword : takeWord 0 ((Nat.toDigits 10 n).map fun c => c.toNat - '0'.toNat) = (n, []) := by
    rw [takeWord_digits (by rwa [hvalue]), hvalue]
  refine readUnsigned_of_digits hspan ?_ ?_ hword h
  · rw [ne_eq, List.map_eq_nil_iff]
    exact Nat.toDigits_ne_nil
  · intro d ds hmap
    rcases toDigits_head_ne_zero n with hzero | ⟨c, cs, hcs, hne⟩
    · rw [hzero] at hmap
      cases hmap
    · rw [hcs, List.map_cons] at hmap
      exact hne (List.cons.inj hmap).1

theorem toList_toString_natCast (n : Nat) : (toString (n : Int)).toList = Nat.toDigits 10 n := by
  rw [Int.toString_eq_repr, Int.repr_eq_if, if_pos (by omega), Nat.repr_eq_ofList_toDigits,
    String.toList_ofList, Int.toNat_natCast]

theorem toList_toString_neg {n : Nat} (hn : 0 < n) :
    (toString (-(n : Int))).toList = '-' :: Nat.toDigits 10 n := by
  rw [Int.toString_eq_repr, Int.repr_eq_if, if_neg (by omega), Int.neg_neg,
    Nat.repr_eq_ofList_toDigits, Int.toNat_natCast, String.toList_append]
  exact congrArg ('-' :: ·) String.toList_ofList

/-- A number without a sign starts with a digit. -/
theorem readNumber_toDigits {n : Nat} (hn : n ≤ maxWord) (h : EndsValue rest) :
    readNumber loose (Nat.toDigits 10 n ++ rest) = some (.int n, rest) := by
  have hunsigned : readUnsigned loose false (Nat.toDigits 10 n ++ rest) = some (.int n, rest) :=
    readUnsigned_toDigits hn h
  cases hdigits : Nat.toDigits 10 n with
  | nil => exact absurd hdigits Nat.toDigits_ne_nil
  | cons c ds =>
    have hdigit : c.isDigit := isDigit_of_mem_toDigits (hdigits ▸ List.mem_cons_self)
    have hc : c ≠ '-' := by
      rintro rfl
      exact absurd hdigit (by decide)
    rw [hdigits] at hunsigned
    rw [List.cons_append, readNumber.eq_2 _ _ fun _ heq => hc (List.cons.inj heq).1]
    exact hunsigned

/-- **A printed whole number of 64 bits is read back.** -/
theorem readNumber_toString {n : Int} (hlow : -0x8000000000000000 ≤ n) (hhigh : n ≤ maxWord)
    (h : EndsValue rest) :
    readNumber loose ((toString n).toList ++ rest) = some (.int n, rest) := by
  by_cases hn : 0 ≤ n
  · obtain ⟨m, rfl⟩ := Int.eq_ofNat_of_zero_le hn
    rw [toList_toString_natCast]
    exact readNumber_toDigits (by omega) h
  · obtain ⟨m, rfl⟩ := Int.eq_negSucc_of_lt_zero (Int.lt_of_not_ge hn)
    have hword : 0x8000000000000000 ≤ maxWord := by decide
    rw [Int.negSucc_eq, ← Int.natCast_succ] at hlow ⊢
    rw [toList_toString_neg (Nat.succ_pos m), List.cons_append, readNumber.eq_1,
      readUnsigned_toDigits (by omega) h, wholeNumber, if_pos rfl, if_pos]
    simp only [Bool.and_eq_true, decide_eq_true_eq]
    omega

/-! ## Strings -/

theorem hexValue?_hexDigit : ∀ d < 16, Text.hexValue? (Text.hexDigit d) = some d := by
  decide

theorem readEscape_unicode {c : Char} (hc : c.toNat < 32) :
    readEscape loose ('u' :: '0' :: '0' :: Text.hexDigit (c.toNat / 16) ::
      Text.hexDigit (c.toNat % 16) :: rest) = some (c, rest) := by
  have hhigh := hexValue?_hexDigit (c.toNat / 16) (by omega)
  have hlow := hexValue?_hexDigit (c.toNat % 16) (by omega)
  have hzero : Text.hexValue? '0' = some 0 := by decide
  have hsum : c.toNat / 16 * 16 + c.toNat % 16 = c.toNat := by omega
  have hunit : c.toNat < 0xD800 || 0xDFFF < c.toNat := by
    rw [Bool.or_eq_true, decide_eq_true_eq]
    omega
  simp only [readEscape, readHex, hhigh, hlow, hzero, Option.bind_eq_bind, Option.bind_some]
  rw [Nat.zero_add, hsum, readUnit.eq_def, if_pos hunit, Char.ofNat_toNat]

theorem escapeChar_cases (loose : Bool) (c : Char) :
    (∃ code, escapeChar c = '\\' :: code ∧
      ∀ rest, readEscape loose (code ++ rest) = some (c, rest)) ∨
    (escapeChar c = [c] ∧ c ≠ '"' ∧ c ≠ '\\' ∧ ¬ c.toNat < 32) := by
  by_cases hescaped : c ∈ ['"', '\\', '\n', '\r', '\t', '\x08', '\x0c']
  · simp only [List.mem_cons, List.not_mem_nil, or_false] at hescaped
    rcases hescaped with rfl | rfl | rfl | rfl | rfl | rfl | rfl <;>
      exact .inl ⟨[_], rfl, fun _ => rfl⟩
  · simp only [List.mem_cons, List.not_mem_nil, or_false, not_or] at hescaped
    obtain ⟨hquote, hbackslash, hescaped⟩ := hescaped
    by_cases hcontrol : c.toNat < 32
    · refine .inl ⟨['u', '0', '0', Text.hexDigit (c.toNat / 16), Text.hexDigit (c.toNat % 16)],
        ?_, fun _ => readEscape_unicode hcontrol⟩
      simp [escapeChar, hquote, hbackslash, hescaped, hcontrol]
    · refine .inr ⟨?_, hquote, hbackslash, hcontrol⟩
      simp [escapeChar, hquote, hbackslash, hescaped, hcontrol]

theorem readStringFrom_escapeChar (fuel : Nat) (acc : List Char) (c : Char) (cs : List Char) :
    readStringFrom loose (fuel + 1) acc (escapeChar c ++ cs) =
      readStringFrom loose fuel (c :: acc) cs := by
  rcases escapeChar_cases loose c with ⟨code, hcode, hread⟩ | ⟨hplain, hquote, hbackslash, hcontrol⟩
  · rw [hcode, List.cons_append, readStringFrom, if_neg (by decide), if_pos rfl, hread]
    rfl
  · rw [hplain, List.singleton_append, readStringFrom, if_neg hquote, if_neg hbackslash,
      if_neg hcontrol]

theorem readStringFrom_escaped (cs : List Char) {fuel : Nat} (hfuel : cs.length < fuel)
    (acc : List Char) :
    readStringFrom loose fuel acc (cs.flatMap escapeChar ++ '"' :: rest) =
      some (String.ofList (acc.reverse ++ cs), rest) := by
  induction cs generalizing fuel acc with
  | nil =>
    obtain ⟨fuel, rfl⟩ := Nat.exists_eq_add_one_of_ne_zero (by omega : fuel ≠ 0)
    rw [List.flatMap_nil, List.nil_append, List.append_nil, readStringFrom, if_pos rfl]
  | cons c cs ih =>
    rw [List.length_cons] at hfuel
    obtain ⟨fuel, rfl⟩ := Nat.exists_eq_add_one_of_ne_zero (by omega : fuel ≠ 0)
    rw [List.flatMap_cons, List.append_assoc, readStringFrom_escapeChar, ih (by omega),
      List.reverse_cons, List.append_assoc]
    rfl

theorem length_le_length_escaped (cs : List Char) : cs.length ≤ (cs.flatMap escapeChar).length := by
  induction cs with
  | nil => exact Nat.le_refl 0
  | cons c cs ih =>
    have hpos : 0 < (escapeChar c).length := by
      rcases escapeChar_cases false c with ⟨code, hcode, -⟩ | ⟨hplain, -⟩
      · rw [hcode]
        exact Nat.succ_pos _
      · rw [hplain]
        exact Nat.one_pos
    rw [List.flatMap_cons, List.length_append, List.length_cons]
    omega

theorem toList_quote (s : String) :
    (quote s).toList = '"' :: (s.toList.flatMap escapeChar ++ ['"']) := by
  rw [quote, String.toList_append, String.toList_append]
  exact congrArg (fun cs => '"' :: (cs ++ ['"'])) String.toList_ofList

/-- **A printed string is read back.** -/
theorem readString_escaped (s : String) :
    readString loose (s.toList.flatMap escapeChar ++ '"' :: rest) = some (s, rest) := by
  have hlength := length_le_length_escaped s.toList
  rw [readString, readStringFrom_escaped _ (by rw [List.length_append]; omega), List.reverse_nil,
    List.nil_append, String.ofList_toList]

end MeshDoctor.Json
