import Mathlib.Data.List.Basic
import MeshDoctor.Text.Utf8

/-!
# Text — reading what was encoded

* `encode_eq_flatMap`, `encode_append`: a text is encoded character by character.
* `utf8EncodeChar_of_mem`, `mem_of_mem_encode`: a byte below 128 is a whole character.
* `decodeStep_utf8EncodeChar`: an encoded character is the front of the bytes that it starts.
* **`decodeLossy_encode`**, **`decodeStrict_encode`**: an encoded text is read back, and has no
  faults.
-/

namespace MeshDoctor.Text

/-! ## Bytes in a list -/

theorem toList_loop_eq (bytes : ByteArray) (i : Nat) (done : List UInt8) :
    ByteArray.toList.loop bytes i done = done.reverse ++ bytes.data.toList.drop i := by
  induction i, done using ByteArray.toList.loop.induct bytes with
  | case1 i done hlt ih =>
    have hlength : i < bytes.data.toList.length := by simpa using hlt
    have hget : bytes.get! i = bytes.data.toList[i] := by
      rw [ByteArray.get!, Array.getElem_toList]
      exact getElem!_pos bytes.data i hlength
    rw [ByteArray.toList.loop, if_pos hlt, ih, List.drop_eq_getElem_cons hlength, hget]
    simp
  | case2 i done hge =>
    have hlength : bytes.data.toList.length ≤ i := by simpa using hge
    rw [ByteArray.toList.loop, if_neg hge, List.drop_eq_nil_of_le hlength, List.append_nil]

theorem toList_toByteArray (bytes : List UInt8) : bytes.toByteArray.toList = bytes := by
  rw [ByteArray.toList, toList_loop_eq, List.data_toByteArray]
  simp

theorem encode_eq_flatMap (text : String) :
    encode text = text.toList.flatMap String.utf8EncodeChar := by
  have hbytes : text.toByteArray = (text.toList.flatMap String.utf8EncodeChar).toByteArray := by
    conv_lhs => rw [← String.ofList_toList (s := text)]
    exact String.toByteArray_ofList
  rw [encode, String.toUTF8_eq_toByteArray, hbytes, toList_toByteArray]

theorem encode_append (text more : String) : encode (text ++ more) = encode text ++ encode more := by
  rw [encode_eq_flatMap, encode_eq_flatMap, encode_eq_flatMap, String.toList_append,
    List.flatMap_append]

/-! ## One character -/

theorem toNat_ofNat {n : Nat} (h : n < 256) : (UInt8.ofNat n).toNat = n := by
  rw [UInt8.toNat_ofNat']
  exact Nat.mod_eq_of_lt h

theorem inRange_ofNat {low high n : Nat} (hlow : low ≤ n) (hhigh : n ≤ high) (h : n < 256) :
    inRange low high (UInt8.ofNat n) := by
  simp [inRange, toNat_ofNat h, hlow, hhigh]

theorem toNat_tail (v : Nat) : (UInt8.ofNat (v % 64 + 128)).toNat % 64 = v % 64 := by
  rw [toNat_ofNat (by omega)]
  omega

theorem inRange_tail (v : Nat) : inRange 0x80 0xBF (UInt8.ofNat (v % 64 + 128)) :=
  inRange_ofNat (by omega) (by omega) (by omega)

section Character

variable {v : Nat} (rest : List UInt8)

theorem decodeStep_one (h : v ≤ 0x7F) :
    decodeStep (UInt8.ofNat v) rest = .char (Char.ofNat v) 1 := by
  have hlead : (UInt8.ofNat v).toNat = v := toNat_ofNat (by omega)
  have hlength : sequenceLength v = 1 := by
    simp only [sequenceLength]
    grind
  simp only [decodeStep, hlead, hlength]

theorem decodeStep_two (hlow : 0x7F < v) (hhigh : v ≤ 0x7FF) :
    decodeStep (UInt8.ofNat (v / 64 % 32 + 192)) (UInt8.ofNat (v % 64 + 128) :: rest) =
      .char (Char.ofNat v) 2 := by
  have hlead : (UInt8.ofNat (v / 64 % 32 + 192)).toNat = v / 64 % 32 + 192 :=
    toNat_ofNat (by omega)
  have hlength : sequenceLength (v / 64 % 32 + 192) = 2 := by
    simp only [sequenceLength]
    grind
  have hsecond : secondRange (v / 64 % 32 + 192) = (0x80, 0xBF) := by
    simp only [secondRange]
    grind
  have hvalue : (v / 64 % 32 + 192) % 32 * 64 + v % 64 = v := by omega
  simp only [decodeStep, hlead, hlength, hsecond, inRange_tail, toNat_tail, hvalue, if_true]

theorem decodeStep_three (hlow : 0x7FF < v) (hhigh : v ≤ 0xFFFF)
    (hsurrogate : v < 0xD800 ∨ 0xDFFF < v) :
    decodeStep (UInt8.ofNat (v / 4096 % 16 + 224))
        (UInt8.ofNat (v / 64 % 64 + 128) :: UInt8.ofNat (v % 64 + 128) :: rest) =
      .char (Char.ofNat v) 3 := by
  have hlead : (UInt8.ofNat (v / 4096 % 16 + 224)).toNat = v / 4096 % 16 + 224 :=
    toNat_ofNat (by omega)
  have hlength : sequenceLength (v / 4096 % 16 + 224) = 3 := by
    simp only [sequenceLength]
    grind
  have hsecond : inRange (secondRange (v / 4096 % 16 + 224)).1
      (secondRange (v / 4096 % 16 + 224)).2 (UInt8.ofNat (v / 64 % 64 + 128)) := by
    refine inRange_ofNat ?_ ?_ (by omega)
    · simp only [secondRange]
      split_ifs <;> omega
    · simp only [secondRange]
      split_ifs <;> omega
  have hvalue : (v / 4096 % 16 + 224) % 16 * 4096 + v / 64 % 64 * 64 + v % 64 = v := by omega
  simp only [decodeStep, hlead, hlength, hsecond, inRange_tail, toNat_tail, hvalue, Bool.not_true,
    Bool.false_eq_true, if_false]

theorem decodeStep_four (hlow : 0xFFFF < v) (hhigh : v < 0x110000) :
    decodeStep (UInt8.ofNat (v / 262144 % 8 + 240))
        (UInt8.ofNat (v / 4096 % 64 + 128) :: UInt8.ofNat (v / 64 % 64 + 128) ::
          UInt8.ofNat (v % 64 + 128) :: rest) =
      .char (Char.ofNat v) 4 := by
  have hlead : (UInt8.ofNat (v / 262144 % 8 + 240)).toNat = v / 262144 % 8 + 240 :=
    toNat_ofNat (by omega)
  have hlength : sequenceLength (v / 262144 % 8 + 240) = 4 := by
    simp only [sequenceLength]
    grind
  have hsecond : inRange (secondRange (v / 262144 % 8 + 240)).1
      (secondRange (v / 262144 % 8 + 240)).2 (UInt8.ofNat (v / 4096 % 64 + 128)) := by
    refine inRange_ofNat ?_ ?_ (by omega)
    · simp only [secondRange]
      split_ifs <;> omega
    · simp only [secondRange]
      split_ifs <;> omega
  have hvalue : (v / 262144 % 8 + 240) % 8 * 262144 + v / 4096 % 64 * 4096 + v / 64 % 64 * 64 +
      v % 64 = v := by omega
  simp only [decodeStep, hlead, hlength, hsecond, inRange_tail, toNat_tail, hvalue, Bool.not_true,
    Bool.false_eq_true, if_false]

end Character

/-- **An encoded character is the front of the bytes that it starts.** -/
theorem decodeStep_utf8EncodeChar (c : Char) :
    ∃ b more, String.utf8EncodeChar c = b :: more ∧
      ∀ rest, decodeStep b (more ++ rest) = .char c (more.length + 1) := by
  have hc : Char.ofNat c.val.toNat = c := Char.ofNat_toNat c
  have hvalid : c.val.toNat < 0xD800 ∨ 0xDFFF < c.val.toNat ∧ c.val.toNat < 0x110000 := c.valid
  by_cases hone : c.val.toNat ≤ 0x7F
  · have hchar : String.utf8EncodeChar c = [UInt8.ofNat c.val.toNat] := if_pos hone
    refine ⟨_, _, hchar, fun rest => ?_⟩
    rw [List.nil_append, decodeStep_one rest hone, hc]
    rfl
  by_cases htwo : c.val.toNat ≤ 0x7FF
  · have hchar : String.utf8EncodeChar c = [UInt8.ofNat (c.val.toNat / 64 % 32 + 192),
        UInt8.ofNat (c.val.toNat % 64 + 128)] :=
      (if_neg hone).trans (if_pos htwo)
    refine ⟨_, _, hchar, fun rest => ?_⟩
    rw [List.singleton_append, decodeStep_two rest (by omega) htwo, hc]
    rfl
  by_cases hthree : c.val.toNat ≤ 0xFFFF
  · have hchar : String.utf8EncodeChar c = [UInt8.ofNat (c.val.toNat / 4096 % 16 + 224),
        UInt8.ofNat (c.val.toNat / 64 % 64 + 128), UInt8.ofNat (c.val.toNat % 64 + 128)] :=
      (if_neg hone).trans ((if_neg htwo).trans (if_pos hthree))
    refine ⟨_, _, hchar, fun rest => ?_⟩
    rw [List.cons_append, List.singleton_append, decodeStep_three rest (by omega) hthree
      (by omega), hc]
    rfl
  · have hchar : String.utf8EncodeChar c = [UInt8.ofNat (c.val.toNat / 262144 % 8 + 240),
        UInt8.ofNat (c.val.toNat / 4096 % 64 + 128), UInt8.ofNat (c.val.toNat / 64 % 64 + 128),
        UInt8.ofNat (c.val.toNat % 64 + 128)] :=
      (if_neg hone).trans ((if_neg htwo).trans (if_neg hthree))
    refine ⟨_, _, hchar, fun rest => ?_⟩
    rw [List.cons_append, List.cons_append, List.singleton_append,
      decodeStep_four rest (by omega) (by omega), hc]
    rfl

theorem le_toNat_ofNat {n : Nat} (hlow : 128 ≤ n) (hhigh : n < 256) :
    128 ≤ (UInt8.ofNat n).toNat := by
  rw [toNat_ofNat hhigh]
  exact hlow

/-- A byte below 128 in an encoded character is all of it. -/
theorem utf8EncodeChar_of_mem {c : Char} {b : UInt8} (hb : b ∈ String.utf8EncodeChar c)
    (hlow : b.toNat < 128) : String.utf8EncodeChar c = [b] ∧ c.toNat = b.toNat := by
  by_cases hone : c.val.toNat ≤ 0x7F
  · have hchar : String.utf8EncodeChar c = [UInt8.ofNat c.val.toNat] := if_pos hone
    rw [hchar, List.mem_singleton] at hb
    refine ⟨hchar.trans (by rw [hb]), ?_⟩
    rw [hb, toNat_ofNat (by omega)]
    rfl
  · -- All bytes of a longer encoding have their high bit.
    have hhigh : ∀ b' ∈ String.utf8EncodeChar c, 128 ≤ b'.toNat := by
      have hvalid : c.val.toNat < 0xD800 ∨ 0xDFFF < c.val.toNat ∧ c.val.toNat < 0x110000 := c.valid
      intro b' hb'
      simp only [String.utf8EncodeChar, hone, if_false] at hb'
      split_ifs at hb' <;> simp only [List.mem_cons, List.not_mem_nil, or_false] at hb'
      · rcases hb' with rfl | rfl <;> exact le_toNat_ofNat (by omega) (by omega)
      · rcases hb' with rfl | rfl | rfl <;> exact le_toNat_ofNat (by omega) (by omega)
      · rcases hb' with rfl | rfl | rfl | rfl <;> exact le_toNat_ofNat (by omega) (by omega)
    exact absurd hlow (Nat.not_lt.mpr (hhigh b hb))

/-! ## Texts -/

theorem mem_of_mem_encode {text : String} {b : UInt8} (hb : b ∈ encode text)
    (hlow : b.toNat < 128) : ∃ c ∈ text.toList, c.toNat = b.toNat := by
  rw [encode_eq_flatMap] at hb
  obtain ⟨c, hc, hmem⟩ := List.mem_flatMap.mp hb
  exact ⟨c, hc, (utf8EncodeChar_of_mem hmem hlow).2⟩

theorem decodeLossy_flatMap (cs : List Char) :
    decodeLossy (cs.flatMap String.utf8EncodeChar) = cs := by
  induction cs with
  | nil => rw [List.flatMap_nil, decodeLossy]
  | cons c cs ih =>
    obtain ⟨b, more, hchar, hstep⟩ := decodeStep_utf8EncodeChar c
    rw [List.flatMap_cons, hchar, List.cons_append, decodeLossy, hstep]
    simp only [Nat.add_sub_cancel, List.drop_left, ih]

theorem decodeStrictFrom_flatMap (offset : Nat) (cs : List Char) :
    decodeStrictFrom offset (cs.flatMap String.utf8EncodeChar) = .ok cs := by
  induction cs generalizing offset with
  | nil => rw [List.flatMap_nil, decodeStrictFrom]
  | cons c cs ih =>
    obtain ⟨b, more, hchar, hstep⟩ := decodeStep_utf8EncodeChar c
    rw [List.flatMap_cons, hchar, List.cons_append, decodeStrictFrom, hstep]
    simp only [Nat.add_sub_cancel, List.drop_left, ih, Except.map]

/-- **An encoded text is read back.** -/
theorem decodeLossy_encode (text : String) : decodeLossy (encode text) = text.toList := by
  rw [encode_eq_flatMap, decodeLossy_flatMap]

/-- **An encoded text has no faults.** -/
theorem decodeStrict_encode (text : String) : decodeStrict (encode text) = .ok text := by
  rw [decodeStrict, encode_eq_flatMap, decodeStrictFrom_flatMap, Except.map, String.ofList_toList]

end MeshDoctor.Text
