import MeshDoctor.Proofs.Json.Grammar

/-!
# JSON — reading back what was printed

* `ReadsBack`: whatever stands for a value is read as the value.
* **`Readable.readsBack`**: readable values are read back.
* **`Value.read?_of_spells`**, **`Document.read?_of_spells`**: so are whole texts.
* `Value.read?_compact`, `Document.read?_compact`, `Document.read?_pretty`: the printed ones.
-/

namespace MeshDoctor.Json

/-! ## Sorted members -/

theorem setMember_of_lt {name : String} {v : Value} {members : List (String × Value)}
    (h : ∀ m ∈ members, m.1 < name) : setMember name v members = members ++ [(name, v)] := by
  induction members with
  | nil => rfl
  | cons m rest ih =>
    obtain ⟨other, w⟩ := m
    rw [List.forall_mem_cons] at h
    have hne : name ≠ other := by
      rintro rfl
      exact String.lt_irrefl _ h.1
    rw [setMember, if_neg hne, if_neg (String.lt_asymm h.1), ih h.2, List.cons_append]

theorem sortMembers_of_sorted {members : List (String × Value)}
    (h : (members.map Prod.fst).Pairwise (· < ·)) : sortMembers members = members := by
  suffices hfold : ∀ acc, (∀ m ∈ acc, ∀ m' ∈ members, m.1 < m'.1) →
      members.foldl (fun acc m => setMember m.1 m.2 acc) acc = acc ++ members from
    hfold [] fun _ hm => nomatch hm
  induction members with
  | nil => exact fun acc _ => (List.append_nil acc).symm
  | cons m rest ih =>
    intro acc hacc
    rw [List.map_cons, List.pairwise_cons, List.forall_mem_map] at h
    rw [List.foldl_cons, setMember_of_lt fun m' hm' => hacc m' hm' m List.mem_cons_self,
      ih h.2, List.append_assoc, List.singleton_append]
    intro m' hm' m'' hm''
    rcases List.mem_append.mp hm' with hm' | hm'
    · exact hacc m' hm' m'' (List.mem_cons_of_mem _ hm'')
    · rw [List.mem_singleton.mp hm']
      exact h.1 m'' hm''

/-! ## Blanks -/

variable {loose : Bool} {levels fuel : Nat} {v : Value} {cs rest : List Char}

/-- Punctuation is no blank. -/
theorem skipBlanks_cons {c : Char} (h : c ∉ blankChars) : skipBlanks (c :: cs) = c :: cs := by
  simp only [blankChars, List.mem_cons, List.not_mem_nil, or_false, not_or] at h
  exact List.dropWhile_cons_of_neg (by simp [h])

theorem skipBlanks_append {blanks : List Char} (h : Blanks blanks) :
    skipBlanks (blanks ++ cs) = skipBlanks cs :=
  List.dropWhile_append_of_pos fun c hc => by simpa [blankChars, or_assoc] using h c hc

theorem readValue_append {blanks : List Char} (h : Blanks blanks) :
    readValue loose fuel levels (blanks ++ cs) = readValue loose fuel levels cs := by
  cases fuel with
  | zero => rw [readValue, readValue]
  | succ fuel => rw [readValue, readValue, skipBlanks_append h]

theorem endsValue_append {blanks : List Char} (h : Blanks blanks) (hrest : EndsValue rest) :
    EndsValue (blanks ++ rest) := by
  cases blanks with
  | nil => exact hrest
  | cons c more => exact endsValue_cons (List.mem_append_right _ (h c List.mem_cons_self))

/-! ## Values in lists -/

/-- Whatever stands for the value is read as the value, if what follows may follow a value. -/
def ReadsBack (loose : Bool) (levels : Nat) (v : Value) : Prop :=
  ∀ cs, Spells v cs → ∀ fuel rest, 2 * cs.length ≤ fuel → EndsValue rest →
    readValue loose fuel levels (cs ++ rest) = some (v, rest)

/-- Blanks after a value are left to be skipped. -/
theorem ReadsBack.exists_of_element (hv : ReadsBack loose levels v) (h : SpellsElement v cs)
    (fuel : Nat) (rest : List Char) (hfuel : 2 * cs.length ≤ fuel) (hrest : EndsValue rest)
    (hskip : skipBlanks rest = rest) :
    ∃ left, readValue loose fuel levels (cs ++ rest) = some (v, left) ∧ skipBlanks left = rest := by
  obtain @⟨before, cs, after, _, hbefore, h, hafter⟩ := h
  simp only [List.length_append] at hfuel
  refine ⟨after ++ rest, ?_, by rw [skipBlanks_append hafter, hskip]⟩
  rw [List.append_assoc, List.append_assoc, readValue_append hbefore]
  exact hv cs h fuel _ (by omega) (endsValue_append hafter hrest)

/-- A member starts with its name and goes on with its value. -/
theorem SpellsMember.exists_opening {m : String × Value} (h : SpellsMember m cs)
    (rest : List Char) :
    ∃ name colon value, skipBlanks (cs ++ rest) = '"' :: name ∧
      (∀ loose, readString loose name = some (m.1, colon)) ∧
      skipBlanks colon = ':' :: (value ++ rest) ∧ SpellsElement m.2 value ∧
      value.length < cs.length := by
  obtain @⟨before, after, value, name, v, hbefore, hafter, h⟩ := h
  refine ⟨_, after ++ ':' :: (value ++ rest), value, ?_, fun _ => readString_escaped name, ?_, h, ?_⟩
  · simp only [List.append_assoc, toList_quote, List.cons_append, List.nil_append]
    rw [skipBlanks_append hbefore, skipBlanks_cons (by decide)]
  · rw [skipBlanks_append hafter, skipBlanks_cons (by decide)]
  · simp only [List.length_append, List.length_cons]
    omega

theorem readItems_of_joined {items : List Value} (h : Joined SpellsElement ']' items cs)
    (hback : ∀ v ∈ items, ReadsBack loose levels v) (hfuel : 2 * cs.length < fuel) :
    readItems loose fuel levels (cs ++ rest) = some (items, rest) := by
  induction h generalizing fuel with
  | @last v cs h =>
    obtain ⟨fuel, rfl⟩ := Nat.exists_eq_add_one_of_ne_zero (by omega : fuel ≠ 0)
    rw [List.length_append] at hfuel
    obtain ⟨left, hread, hskip⟩ := (hback v List.mem_cons_self).exists_of_element h fuel
      (']' :: rest) (by omega) (endsValue_cons (by decide)) (skipBlanks_cons (by decide))
    rw [List.append_assoc, List.singleton_append, readItems, hread]
    simp only [Option.bind_eq_bind, Option.bind_some, hskip]
  | @cons v cs items more h _ ih =>
    obtain ⟨fuel, rfl⟩ := Nat.exists_eq_add_one_of_ne_zero (by omega : fuel ≠ 0)
    rw [List.length_append, List.length_cons] at hfuel
    obtain ⟨left, hread, hskip⟩ := (hback v List.mem_cons_self).exists_of_element h fuel
      (',' :: (more ++ rest)) (by omega) (endsValue_cons (by decide)) (skipBlanks_cons (by decide))
    have hitems : readItems loose fuel levels (more ++ rest) = some (items, rest) :=
      ih (fun w hw => hback w (List.mem_cons_of_mem _ hw)) (by omega)
    rw [List.append_assoc, List.cons_append, readItems, hread]
    simp only [Option.bind_eq_bind, Option.bind_some, hskip, hitems, Option.map_some]

theorem readMembers_of_joined {members : List (String × Value)}
    (h : Joined SpellsMember '\x7d' members cs) (hback : ∀ m ∈ members, ReadsBack loose levels m.2)
    (hfuel : 2 * cs.length < fuel) :
    readMembers loose fuel levels (cs ++ rest) = some (members, rest) := by
  induction h generalizing fuel with
  | @last m cs h =>
    obtain ⟨fuel, rfl⟩ := Nat.exists_eq_add_one_of_ne_zero (by omega : fuel ≠ 0)
    rw [List.length_append] at hfuel
    obtain ⟨name, colon, value, hopening, hname, hcolon, hvalue, hlength⟩ :=
      h.exists_opening ('\x7d' :: rest)
    obtain ⟨left, hread, hskip⟩ := (hback m List.mem_cons_self).exists_of_element hvalue fuel
      ('\x7d' :: rest) (by omega) (endsValue_cons (by decide)) (skipBlanks_cons (by decide))
    rw [List.append_assoc, List.singleton_append, readMembers]
    simp only [hopening, hname, hcolon, hread, hskip, Option.bind_eq_bind, Option.bind_some]
  | @cons m cs members more h _ ih =>
    obtain ⟨fuel, rfl⟩ := Nat.exists_eq_add_one_of_ne_zero (by omega : fuel ≠ 0)
    rw [List.length_append, List.length_cons] at hfuel
    obtain ⟨name, colon, value, hopening, hname, hcolon, hvalue, hlength⟩ :=
      h.exists_opening (',' :: (more ++ rest))
    obtain ⟨left, hread, hskip⟩ := (hback m List.mem_cons_self).exists_of_element hvalue fuel
      (',' :: (more ++ rest)) (by omega) (endsValue_cons (by decide)) (skipBlanks_cons (by decide))
    have hmembers : readMembers loose fuel levels (more ++ rest) = some (members, rest) :=
      ih (fun m' hm' => hback m' (List.mem_cons_of_mem _ hm')) (by omega)
    rw [List.append_assoc, List.cons_append, readMembers]
    simp only [hopening, hname, hcolon, hread, hskip, hmembers, Option.bind_eq_bind,
      Option.bind_some, Option.map_some]

/-! ## How values start -/

theorem toList_toString_int (n : Int) :
    ∃ c more, (toString n).toList = c :: more ∧ (c.isDigit ∨ c = '-') := by
  by_cases hn : 0 ≤ n
  · obtain ⟨m, rfl⟩ := Int.eq_ofNat_of_zero_le hn
    rw [toList_toString_natCast]
    cases hdigits : Nat.toDigits 10 m with
    | nil => exact absurd hdigits Nat.toDigits_ne_nil
    | cons c more =>
      exact ⟨c, more, rfl, .inl (isDigit_of_mem_toDigits (hdigits ▸ List.mem_cons_self))⟩
  · obtain ⟨m, rfl⟩ := Int.eq_negSucc_of_lt_zero (Int.lt_of_not_ge hn)
    rw [Int.negSucc_eq, ← Int.natCast_succ, toList_toString_neg (Nat.succ_pos m)]
    exact ⟨'-', _, rfl, .inr rfl⟩

/-- A value starts with no blank and does not end a list. -/
theorem Spells.exists_cons (h : Spells v cs) :
    ∃ c more, cs = c :: more ∧ c ∉ ']' :: blankChars := by
  cases h with
  | null => exact ⟨'n', _, rfl, by decide⟩
  | bool b => cases b <;> exact ⟨_, _, rfl, by decide⟩
  | int n =>
    obtain ⟨c, more, hchars, hc⟩ := toList_toString_int n
    refine ⟨c, more, hchars, fun hmem => ?_⟩
    simp only [blankChars, List.mem_cons, List.not_mem_nil, or_false] at hmem
    rcases hmem with rfl | rfl | rfl | rfl | rfl <;> exact absurd hc (by decide)
  | string s => exact ⟨'"', _, toList_quote s, by decide⟩
  | emptyArray _ => exact ⟨'[', _, rfl, by decide⟩
  | array _ => exact ⟨'[', _, rfl, by decide⟩
  | emptyObject _ => exact ⟨'\x7b', _, rfl, by decide⟩
  | object _ => exact ⟨'\x7b', _, rfl, by decide⟩

theorem Joined.exists_first {α : Type} {Part : α → List Char → Prop} {closing : Char} {as : List α}
    (h : Joined Part closing as cs) : ∃ a part more, Part a part ∧ cs = part ++ more := by
  cases h with
  | last h => exact ⟨_, _, _, h, rfl⟩
  | cons h _ => exact ⟨_, _, _, h, rfl⟩

/-- The first item does not end the list. -/
theorem exists_skipBlanks_items {items : List Value} (h : Joined SpellsElement ']' items cs)
    (rest : List Char) : ∃ c more, skipBlanks (cs ++ rest) = c :: more ∧ c ≠ ']' := by
  obtain ⟨v, part, more, hpart, rfl⟩ := h.exists_first
  obtain @⟨before, cs, after, _, hbefore, hspelled, -⟩ := hpart
  obtain ⟨c, cs', rfl, hc⟩ := hspelled.exists_cons
  rw [List.mem_cons, not_or] at hc
  simp only [List.append_assoc, List.cons_append]
  exact ⟨c, _, by rw [skipBlanks_append hbefore, skipBlanks_cons hc.2], hc.1⟩

/-- The first member does not end the object. -/
theorem exists_skipBlanks_members {members : List (String × Value)}
    (h : Joined SpellsMember '\x7d' members cs) (rest : List Char) :
    ∃ more, skipBlanks (cs ++ rest) = '"' :: more := by
  obtain ⟨m, part, more, hpart, rfl⟩ := h.exists_first
  obtain ⟨name, -, -, hopening, -⟩ := hpart.exists_opening (more ++ rest)
  exact ⟨name, by rw [List.append_assoc, hopening]⟩

/-! ## Values -/

theorem readValue_of_number {c : Char} (h : c.isDigit ∨ c = '-') :
    readValue loose (fuel + 1) levels (c :: cs) = readNumber loose (c :: cs) := by
  have hother : c ∉ blankChars ++ ['"', '[', '\x7b', 't', 'f', 'n'] := by
    intro hmem
    simp only [blankChars, List.cons_append, List.nil_append, List.mem_cons, List.not_mem_nil,
      or_false] at hmem
    rcases hmem with rfl | rfl | rfl | rfl | rfl | rfl | rfl | rfl | rfl | rfl <;>
      exact absurd h (by decide)
  rw [List.mem_append, not_or] at hother
  rw [readValue, skipBlanks_cons hother.1]
  split <;> simp_all

theorem readValue_array {items : List Value} (h : Joined SpellsElement ']' items cs)
    (hback : ∀ v ∈ items, ReadsBack loose levels v) (hfuel : 2 * cs.length < fuel) :
    readValue loose (fuel + 1) (levels + 1) ('[' :: (cs ++ rest)) = some (.array items, rest) := by
  obtain ⟨c, more, hskip, hc⟩ := exists_skipBlanks_items h rest
  rw [readValue, skipBlanks_cons (by decide)]
  simp only [hskip]
  rw [if_neg (by simp)]
  split
  · next heq => exact absurd (List.cons.inj heq).1 hc
  · rw [Nat.add_sub_cancel, readItems_of_joined h hback hfuel]
    rfl

theorem readValue_object {members : List (String × Value)}
    (h : Joined SpellsMember '\x7d' members cs)
    (hsorted : (members.map Prod.fst).Pairwise (· < ·))
    (hback : ∀ m ∈ members, ReadsBack loose levels m.2) (hfuel : 2 * cs.length < fuel) :
    readValue loose (fuel + 1) (levels + 1) ('\x7b' :: (cs ++ rest)) =
      some (.object members, rest) := by
  obtain ⟨more, hskip⟩ := exists_skipBlanks_members h rest
  rw [readValue, skipBlanks_cons (by decide)]
  simp only [hskip]
  rw [if_neg (by simp), Nat.add_sub_cancel, readMembers_of_joined h hback hfuel, Option.map_some,
    Value.ofMembers, sortMembers_of_sorted hsorted]
  rfl

theorem readValue_emptyArray {blanks : List Char} (h : Blanks blanks) :
    readValue loose (fuel + 1) (levels + 1) ('[' :: (blanks ++ [']'] ++ rest)) =
      some (.array [], rest) := by
  rw [readValue, skipBlanks_cons (by decide), List.append_assoc]
  simp only [skipBlanks_append h, List.singleton_append, skipBlanks_cons (by decide : ']' ∉ _)]
  rw [if_neg (by simp)]

theorem readValue_emptyObject {blanks : List Char} (h : Blanks blanks) :
    readValue loose (fuel + 1) (levels + 1) ('\x7b' :: (blanks ++ ['\x7d'] ++ rest)) =
      some (.object [], rest) := by
  rw [readValue, skipBlanks_cons (by decide), List.append_assoc]
  simp only [skipBlanks_append h, List.singleton_append, skipBlanks_cons (by decide : '\x7d' ∉ _)]
  rw [if_neg (by simp)]

/-- It is enough to read a value with some fuel. -/
theorem readsBack_of_succ (h : ∀ cs, Spells v cs → ∀ fuel rest, 2 * cs.length ≤ fuel + 1 →
    EndsValue rest → readValue loose (fuel + 1) levels (cs ++ rest) = some (v, rest)) :
    ReadsBack loose levels v := by
  intro cs hcs fuel rest hfuel hrest
  obtain ⟨c, more, rfl, -⟩ := hcs.exists_cons
  rw [List.length_cons] at hfuel
  obtain ⟨fuel, rfl⟩ := Nat.exists_eq_add_one_of_ne_zero (by omega : fuel ≠ 0)
  exact h _ hcs fuel rest hfuel hrest

/-- **Readable values are read back**, however they are written. -/
theorem Readable.readsBack (h : Readable levels v) (loose : Bool) : ReadsBack loose levels v := by
  induction h with
  | null => exact readsBack_of_succ fun | _, .null, _, _, _, _ => rfl
  | bool b =>
    refine readsBack_of_succ fun | _, .bool _, _, _, _, _ => ?_
    cases b <;> rfl
  | @int _ n hlow hhigh =>
    refine readsBack_of_succ fun | _, .int _, fuel, rest, _, hrest => ?_
    obtain ⟨c, more, hchars, hc⟩ := toList_toString_int n
    rw [hchars, List.cons_append, readValue_of_number hc, ← List.cons_append, ← hchars]
    exact readNumber_toString hlow hhigh hrest
  | string s =>
    refine readsBack_of_succ fun | _, .string _, fuel, rest, _, _ => ?_
    rw [toList_quote, List.cons_append, List.append_assoc, readValue, skipBlanks_cons (by decide)]
    simp only [List.singleton_append, readString_escaped, Option.map_some]
  | array _ ih =>
    refine readsBack_of_succ fun cs hcs fuel rest hfuel _ => ?_
    cases hcs with
    | emptyArray hblanks => exact readValue_emptyArray hblanks
    | array hitems =>
      rw [List.length_cons] at hfuel
      exact readValue_array hitems ih (by omega)
  | object hsorted _ ih =>
    refine readsBack_of_succ fun cs hcs fuel rest hfuel _ => ?_
    cases hcs with
    | emptyObject hblanks => exact readValue_emptyObject hblanks
    | object hmembers =>
      rw [List.length_cons] at hfuel
      exact readValue_object hmembers hsorted ih (by omega)

/-! ## Texts -/

/-- A text is long enough for the values in it. -/
theorem Readable.exists_readValue_fuelFor (hv : Readable levels v) (loose : Bool)
    (h : SpellsElement v cs) (rest : List Char) (hrest : EndsValue rest)
    (hskip : skipBlanks rest = rest) :
    ∃ left, readValue loose (fuelFor (cs ++ rest)) levels (cs ++ rest) = some (v, left) ∧
      skipBlanks left = rest := by
  refine (hv.readsBack loose).exists_of_element h _ rest ?_ hrest hskip
  rw [fuelFor, List.length_append]
  omega

/-- **Whatever stands for a value** denotes the value. -/
theorem Value.read?_of_spells {text : String} (hv : Readable nestingLimit v)
    (h : SpellsElement v text.toList) : Value.read? text = some v := by
  obtain ⟨left, hread, hskip⟩ := hv.exists_readValue_fuelFor false h [] endsValue_nil rfl
  rw [List.append_nil] at hread
  rw [Value.read?]
  simp only [hread, hskip, Option.bind_eq_bind, Option.bind_some]
  rfl

/-- **A printed value is the value that its text denotes.** -/
theorem Value.read?_compact (h : Readable nestingLimit v) : Value.read? v.compact = some v :=
  Value.read?_of_spells h h.spells_compact.element

section Top

variable {known : List String} {members : List (String × Value)}

theorem readTopMembers_of_joined (h : Joined SpellsMember '\x7d' members cs)
    (hreadable : ∀ m ∈ members, Readable (nestingLimit - 1) m.2) (hfuel : members.length ≤ fuel) :
    readTopMembers known fuel (cs ++ rest) = some (members, rest) := by
  induction h generalizing fuel with
  | @last m cs h =>
    obtain ⟨fuel, rfl⟩ := Nat.exists_eq_add_one_of_ne_zero (by simp at hfuel; omega : fuel ≠ 0)
    obtain ⟨name, colon, value, hopening, hname, hcolon, hvalue, -⟩ :=
      h.exists_opening ('\x7d' :: rest)
    obtain ⟨left, hread, hskip⟩ := (hreadable m List.mem_cons_self).exists_readValue_fuelFor
      (!known.contains m.1) hvalue ('\x7d' :: rest) (endsValue_cons (by decide))
      (skipBlanks_cons (by decide))
    rw [List.append_assoc, List.singleton_append, readTopMembers]
    simp only [hopening, hname, hcolon, hread, hskip, Option.bind_eq_bind, Option.bind_some]
  | @cons m cs members more h _ ih =>
    rw [List.length_cons] at hfuel
    obtain ⟨fuel, rfl⟩ := Nat.exists_eq_add_one_of_ne_zero (by omega : fuel ≠ 0)
    obtain ⟨name, colon, value, hopening, hname, hcolon, hvalue, -⟩ :=
      h.exists_opening (',' :: (more ++ rest))
    obtain ⟨left, hread, hskip⟩ := (hreadable m List.mem_cons_self).exists_readValue_fuelFor
      (!known.contains m.1) hvalue (',' :: (more ++ rest)) (endsValue_cons (by decide))
      (skipBlanks_cons (by decide))
    have hmembers : readTopMembers known fuel (more ++ rest) = some (members, rest) :=
      ih (fun m' hm' => hreadable m' (List.mem_cons_of_mem _ hm')) (by omega)
    rw [List.append_assoc, List.cons_append, readTopMembers]
    simp only [hopening, hname, hcolon, hread, hskip, hmembers, Option.bind_eq_bind,
      Option.bind_some, Option.map_some]

theorem Joined.length_le {α : Type} {Part : α → List Char → Prop} {closing : Char} {as : List α}
    (h : Joined Part closing as cs) : as.length ≤ cs.length := by
  induction h with
  | last h =>
    rw [List.length_append]
    exact Nat.le_add_left _ _
  | cons h _ ih =>
    rw [List.length_append, List.length_cons, List.length_cons]
    omega

/-- **Whatever stands for an object** is the document with its members, whichever are known. -/
theorem Document.read?_of_spells (known : List String) {text : String}
    (hreadable : ∀ m ∈ members, Readable (nestingLimit - 1) m.2)
    (h : SpellsElement (.object members) text.toList) :
    Document.read? known text = some (.object members) := by
  rw [Document.read?]
  generalize text.toList = cs at h
  obtain @⟨before, cs, after, _, hbefore, h, hafter⟩ := h
  have hend : (skipBlanks after).isEmpty := by
    rw [← List.append_nil after, skipBlanks_append hafter]
    rfl
  rw [List.append_assoc]
  cases h with
  | @emptyObject blanks hblanks =>
    simp only [skipBlanks_append hbefore, List.cons_append, List.append_assoc, List.nil_append,
      skipBlanks_cons (by decide : '\x7b' ∉ _), skipBlanks_append hblanks,
      skipBlanks_cons (by decide : '\x7d' ∉ _), Option.bind_eq_bind, Option.bind_some, hend, if_true]
  | @object _ cs hmembers =>
    have hlength := hmembers.length_le
    have hread : readTopMembers known ((before ++ '\x7b' :: (cs ++ after)).length + 1)
        (cs ++ after) = some (members, after) := by
      refine readTopMembers_of_joined hmembers hreadable ?_
      simp only [List.length_append, List.length_cons]
      omega
    obtain ⟨more, hskip⟩ := exists_skipBlanks_members hmembers after
    simp only [skipBlanks_append hbefore, List.cons_append, skipBlanks_cons (by decide : '\x7b' ∉ _),
      hskip, hread, Option.bind_eq_bind, Option.bind_some, hend, if_true]
    rfl

/-- **A printed object** is the document that its text denotes, whichever members are known. -/
theorem Document.read?_compact (known : List String)
    (h : ∀ m ∈ members, Readable (nestingLimit - 1) m.2) :
    Document.read? known (Value.object members).compact = some (.object members) :=
  Document.read?_of_spells known h
    (spells_compact_object fun m hm => (h m hm).spells_compact).element

/-- **An object printed on several lines** is so too. -/
theorem Document.read?_pretty (known : List String)
    (h : ∀ m ∈ members, Readable (nestingLimit - 1) m.2) :
    Document.read? known (Value.object members).pretty = some (.object members) :=
  Document.read?_of_spells known h
    (spells_prettyAt_object fun m hm => (h m hm).spells_prettyAt 1).element

end Top

end MeshDoctor.Json
