import Mathlib.Data.List.Forall2
import MeshDoctor.Proofs.Json.Leaves

/-!
# JSON — how values are written

The grammar of texts: which characters stand for a value, wherever there are blanks between the
parts. Of the numbers, it has the whole ones only.

* `Joined`: parts with commas between them, up to a closing bracket.
* `Spells`, `SpellsElement`, `SpellsMember`: the characters of a value, of a value with blanks around
  it and of a member of an object.
* `Readable`: values without fractions, with numbers of 64 bits, sorted members and limited nesting.
* **`Readable.spells_compact`**, **`Readable.spells_prettyAt`**: both printers keep to the grammar.
-/

namespace MeshDoctor.Json

/-! ## The grammar -/

/-- Only blanks. -/
def Blanks (cs : List Char) : Prop :=
  ∀ c ∈ cs, c ∈ blankChars

/-- Parts with commas between them, up to a closing bracket. -/
inductive Joined {α : Type} (Part : α → List Char → Prop) (closing : Char) :
    List α → List Char → Prop where
  | last {a : α} {cs : List Char} (h : Part a cs) : Joined Part closing [a] (cs ++ [closing])
  | cons {a : α} {cs : List Char} {as : List α} {more : List Char} (h : Part a cs)
    (rest : Joined Part closing as more) : Joined Part closing (a :: as) (cs ++ ',' :: more)

mutual

/-- The characters stand for the value. -/
inductive Spells : Value → List Char → Prop where
  | null : Spells .null "null".toList
  | bool (b : Bool) : Spells (.bool b) (if b then "true" else "false").toList
  | int (n : Int) : Spells (.int n) (toString n).toList
  | string (s : String) : Spells (.string s) (quote s).toList
  | emptyArray {blanks : List Char} (h : Blanks blanks) :
    Spells (.array []) ('[' :: (blanks ++ [']']))
  | array {items : List Value} {cs : List Char} (h : Joined SpellsElement ']' items cs) :
    Spells (.array items) ('[' :: cs)
  | emptyObject {blanks : List Char} (h : Blanks blanks) :
    Spells (.object []) ('\x7b' :: (blanks ++ ['\x7d']))
  | object {members : List (String × Value)} {cs : List Char}
    (h : Joined SpellsMember '\x7d' members cs) : Spells (.object members) ('\x7b' :: cs)

/-- The characters are blanks, then stand for the value, then are blanks. -/
inductive SpellsElement : Value → List Char → Prop where
  | mk {before cs after : List Char} {v : Value} (hbefore : Blanks before) (h : Spells v cs)
    (hafter : Blanks after) : SpellsElement v (before ++ cs ++ after)

/-- The characters are a name between blanks, a colon and a value between blanks. -/
inductive SpellsMember : String × Value → List Char → Prop where
  | mk {before after cs : List Char} {name : String} {v : Value} (hbefore : Blanks before)
    (hafter : Blanks after) (h : SpellsElement v cs) :
    SpellsMember (name, v) (before ++ (quote name).toList ++ after ++ ':' :: cs)

end

/-! ## Blanks -/

theorem blanks_nil : Blanks [] := fun _ hc => nomatch hc

theorem Blanks.append {cs more : List Char} (h : Blanks cs) (hmore : Blanks more) :
    Blanks (cs ++ more) := by
  intro c hc
  rcases List.mem_append.mp hc with hc | hc
  · exact h c hc
  · exact hmore c hc

theorem toList_newline (level : Nat) :
    (Value.newline level).toList = '\n' :: List.replicate (2 * level) ' ' := by
  simp [Value.newline]

theorem blanks_newline (level : Nat) : Blanks (Value.newline level).toList := by
  intro c hc
  rw [toList_newline, List.mem_cons] at hc
  obtain rfl | hc := hc
  · decide
  · rw [List.eq_of_mem_replicate hc]
    decide

theorem Spells.element {v : Value} {cs : List Char} (h : Spells v cs) : SpellsElement v cs := by
  have := SpellsElement.mk blanks_nil h blanks_nil
  rwa [List.nil_append, List.append_nil] at this

/-- Blanks may stand around an element. -/
theorem SpellsElement.pad {before cs after : List Char} {v : Value} (hbefore : Blanks before)
    (h : SpellsElement v cs) (hafter : Blanks after) : SpellsElement v (before ++ cs ++ after) := by
  obtain ⟨hbefore', h, hafter'⟩ := h
  have := SpellsElement.mk (hbefore.append hbefore') h (hafter'.append hafter)
  simpa only [List.append_assoc] using this

/-- Blanks may stand around a member. -/
theorem SpellsMember.pad {before cs after : List Char} {m : String × Value}
    (hbefore : Blanks before) (h : SpellsMember m cs) (hafter : Blanks after) :
    SpellsMember m (before ++ cs ++ after) := by
  obtain @⟨_, _, _, name, _, hbefore', hcolon, h⟩ := h
  have : SpellsMember (name, _) _ := .mk (hbefore.append hbefore') hcolon (h.pad blanks_nil hafter)
  simpa only [List.append_assoc, List.nil_append, List.cons_append] using this

/-! ## Parts with a separator -/

/-- Texts with a comma and the same blanks between them. -/
theorem joined_intercalate {α : Type} {Part : α → List Char → Prop} {closing : Char}
    {gap last : String} {as : List α} {texts : List String}
    (hpad : ∀ a before cs after, Blanks before → Part a cs → Blanks after →
      Part a (before ++ cs ++ after)) (hgap : Blanks gap.toList) (hlast : Blanks last.toList)
    (h : List.Forall₂ (fun a text => Part a text.toList) as texts) (hne : as ≠ []) :
    Joined Part closing as
      ((gap ++ String.intercalate ("," ++ gap) texts ++ last).toList ++ [closing]) := by
  induction h with
  | nil => exact absurd rfl hne
  | @cons a text as texts hpart hrest ih =>
    cases hrest with
    | nil =>
      have hlone : Joined Part closing [a] _ := .last (hpad a _ _ _ hgap hpart hlast)
      simpa only [String.intercalate_singleton, String.toList_append] using hlone
    | @cons a' text' as texts hpart' hrest' =>
      have hjoined := Joined.cons (hpad a _ _ _ hgap hpart blanks_nil) (ih (List.cons_ne_nil _ _))
      have hcomma : ",".toList = [','] := rfl
      simpa only [String.intercalate_cons_cons, String.toList_append, List.append_assoc,
        List.nil_append, List.cons_append, List.append_nil, hcomma] using hjoined

/-! ## Values that can be read back -/

/-- Can a value be read back when this many levels of nesting are left? -/
inductive Readable : (levels : Nat) → Value → Prop where
  | null {levels : Nat} : Readable levels .null
  | bool {levels : Nat} (b : Bool) : Readable levels (.bool b)
  | int {levels : Nat} {n : Int} (hlow : -0x8000000000000000 ≤ n) (hhigh : n ≤ maxWord) :
    Readable levels (.int n)
  | string {levels : Nat} (s : String) : Readable levels (.string s)
  | array {levels : Nat} {items : List Value} (h : ∀ v ∈ items, Readable levels v) :
    Readable (levels + 1) (.array items)
  | object {levels : Nat} {members : List (String × Value)}
    (hsorted : (members.map Prod.fst).Pairwise (· < ·)) (h : ∀ m ∈ members, Readable levels m.2) :
    Readable (levels + 1) (.object members)

namespace Readable

variable {α : Type} {encode : α → Value} {levels : Nat}

/-- An object whose members have these names, in their order. -/
theorem ofNames {members : List (String × Value)} (names : List String)
    (hnames : members.map Prod.fst = names) (hsorted : names.Pairwise (· < ·))
    (h : ∀ m ∈ members, Readable levels m.2) : Readable (levels + 1) (.object members) := by
  subst hnames
  exact .object hsorted h

theorem ofOption (h : ∀ a, Readable levels (encode a)) (o : Option α) :
    Readable levels (.ofOption encode o) := by
  cases o with
  | none => exact .null
  | some a => exact h a

theorem map (h : ∀ a, Readable levels (encode a)) (as : List α) :
    Readable (levels + 1) (.array (as.map encode)) :=
  .array (List.forall_mem_map.mpr fun a _ => h a)

theorem ofTexts (texts : List String) : Readable (levels + 1) (.ofTexts texts) :=
  map .string texts

theorem mono {levels' : Nat} {v : Value} (h : Readable levels v) (hle : levels ≤ levels') :
    Readable levels' v := by
  induction h generalizing levels' with
  | null => exact .null
  | bool b => exact .bool b
  | int hlow hhigh => exact .int hlow hhigh
  | string s => exact .string s
  | array _ ih =>
    obtain ⟨n, rfl⟩ := Nat.exists_eq_add_one_of_ne_zero (by omega : levels' ≠ 0)
    exact .array fun v hv => ih v hv (by omega)
  | object hsorted _ ih =>
    obtain ⟨n, rfl⟩ := Nat.exists_eq_add_one_of_ne_zero (by omega : levels' ≠ 0)
    exact .object hsorted fun m hm => ih m hm (by omega)

end Readable

/-! ## What is printed -/

theorem spells_array (gap last : String) {items : List Value} {write : Value → String}
    (hgap : Blanks gap.toList) (hlast : Blanks last.toList)
    (h : ∀ v ∈ items, Spells v (write v).toList) (hne : items ≠ []) :
    Spells (.array items)
      ("[" ++ (gap ++ String.intercalate ("," ++ gap) (items.map write) ++ last) ++ "]").toList := by
  have hitems : List.Forall₂ (fun v text => SpellsElement v text.toList) items (items.map write) :=
    List.forall₂_map_right_iff.mpr (List.forall₂_same.mpr fun v hv => (h v hv).element)
  rw [String.toList_append, String.toList_append]
  exact .array (joined_intercalate (fun _ _ _ _ hbefore helement hafter =>
    helement.pad hbefore hafter) hgap hlast hitems hne)

theorem spells_object (gap last colon : String) {blanks : List Char}
    {members : List (String × Value)} {write : Value → String} (hgap : Blanks gap.toList)
    (hlast : Blanks last.toList) (hcolon : colon.toList = ':' :: blanks) (hblanks : Blanks blanks)
    (h : ∀ m ∈ members, Spells m.2 (write m.2).toList) (hne : members ≠ []) :
    Spells (.object members)
      ("\x7b" ++ (gap ++ String.intercalate ("," ++ gap)
        (members.map fun m => quote m.1 ++ colon ++ write m.2) ++ last) ++ "\x7d").toList := by
  have hmember : ∀ m ∈ members, SpellsMember m (quote m.1 ++ colon ++ write m.2).toList := by
    rintro ⟨name, v⟩ hm
    have : SpellsMember (name, v) _ :=
      .mk blanks_nil blanks_nil ((h _ hm).element.pad hblanks blanks_nil)
    simpa only [String.toList_append, hcolon, List.append_assoc, List.cons_append, List.append_nil,
      List.nil_append] using this
  have hmembers : List.Forall₂ (fun m text => SpellsMember m text.toList) members
      (members.map fun m => quote m.1 ++ colon ++ write m.2) :=
    List.forall₂_map_right_iff.mpr (List.forall₂_same.mpr hmember)
  rw [String.toList_append, String.toList_append]
  exact .object (joined_intercalate (fun _ _ _ _ hbefore hspelled hafter =>
    hspelled.pad hbefore hafter) hgap hlast hmembers hne)

theorem compactItems_eq_map (items : List Value) :
    Value.compactItems items = items.map Value.compact := by
  induction items with
  | nil => rfl
  | cons v rest ih => rw [Value.compactItems, ih, List.map_cons]

theorem compactMembers_eq_map (members : List (String × Value)) :
    Value.compactMembers members = members.map fun m => quote m.1 ++ ":" ++ m.2.compact := by
  induction members with
  | nil => rfl
  | cons m rest ih => rw [Value.compactMembers, ih, List.map_cons]

theorem prettyItems_eq_map (level : Nat) (items : List Value) :
    Value.prettyItems level items = items.map (Value.prettyAt level) := by
  induction items with
  | nil => rfl
  | cons v rest ih => rw [Value.prettyItems, ih, List.map_cons]

theorem prettyMembers_eq_map (level : Nat) (members : List (String × Value)) :
    Value.prettyMembers level members =
      members.map fun m => quote m.1 ++ ": " ++ m.2.prettyAt level := by
  induction members with
  | nil => rfl
  | cons m rest ih => rw [Value.prettyMembers, ih, List.map_cons]

theorem spells_compact_array {items : List Value} (h : ∀ v ∈ items, Spells v v.compact.toList) :
    Spells (.array items) (Value.array items).compact.toList := by
  cases items with
  | nil => exact .emptyArray blanks_nil
  | cons v rest =>
    have := spells_array "" "" blanks_nil blanks_nil h (List.cons_ne_nil v rest)
    simpa only [Value.compact, compactItems_eq_map, String.append_empty, String.empty_append]
      using this

theorem spells_compact_object {members : List (String × Value)}
    (h : ∀ m ∈ members, Spells m.2 m.2.compact.toList) :
    Spells (.object members) (Value.object members).compact.toList := by
  cases members with
  | nil => exact .emptyObject blanks_nil
  | cons m rest =>
    have := spells_object "" "" ":" blanks_nil blanks_nil rfl blanks_nil h (List.cons_ne_nil m rest)
    simpa only [Value.compact, compactMembers_eq_map, String.append_empty, String.empty_append]
      using this

section Pretty

variable {level : Nat}

theorem spells_prettyAt_array {items : List Value}
    (h : ∀ v ∈ items, Spells v (v.prettyAt (level + 1)).toList) :
    Spells (.array items) ((Value.array items).prettyAt level).toList := by
  cases items with
  | nil => simpa [Value.prettyAt, Value.prettyItems, Value.bracket] using Spells.emptyArray blanks_nil
  | cons v rest =>
    have := spells_array _ _ (blanks_newline (level + 1)) (blanks_newline level) h
      (List.cons_ne_nil v rest)
    simpa only [Value.prettyAt, Value.bracket, prettyItems_eq_map, List.map_cons,
      List.isEmpty_cons, Bool.false_eq_true, if_false, String.append_assoc] using this

theorem spells_prettyAt_object {members : List (String × Value)}
    (h : ∀ m ∈ members, Spells m.2 (m.2.prettyAt (level + 1)).toList) :
    Spells (.object members) ((Value.object members).prettyAt level).toList := by
  cases members with
  | nil =>
    simpa [Value.prettyAt, Value.prettyMembers, Value.bracket] using Spells.emptyObject blanks_nil
  | cons m rest =>
    have hblank : Blanks [' '] := fun c hc => List.mem_singleton.mp hc ▸ by decide
    have := spells_object _ _ ": " (blanks_newline (level + 1)) (blanks_newline level) rfl hblank h
      (List.cons_ne_nil m rest)
    simpa only [Value.prettyAt, Value.bracket, prettyMembers_eq_map, List.map_cons,
      List.isEmpty_cons, Bool.false_eq_true, if_false, String.append_assoc] using this

end Pretty

namespace Readable

variable {levels : Nat} {v : Value}

/-- **The text without blanks** keeps to the grammar. -/
theorem spells_compact (h : Readable levels v) : Spells v v.compact.toList := by
  induction h with
  | null => exact .null
  | bool b => exact .bool b
  | @int _ n _ _ => exact .int n
  | string s => exact .string s
  | array _ ih => exact spells_compact_array ih
  | object _ _ ih => exact spells_compact_object ih

/-- **The text on several lines** keeps to the grammar. -/
theorem spells_prettyAt (h : Readable levels v) (level : Nat) :
    Spells v (v.prettyAt level).toList := by
  induction h generalizing level with
  | null => exact .null
  | bool b => exact .bool b
  | @int _ n _ _ => exact .int n
  | string s => exact .string s
  | array _ ih => exact spells_prettyAt_array fun v hv => ih v hv (level + 1)
  | object _ _ ih => exact spells_prettyAt_object fun m hm => ih m hm (level + 1)

end Readable

end MeshDoctor.Json
