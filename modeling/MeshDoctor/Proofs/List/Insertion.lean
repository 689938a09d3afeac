import Mathlib.Data.List.Forall2
import MeshDoctor.Proofs.Inquiry.Finds

/-!
# Lists — insertion at any positions

* `Inserts extra xs ys`: the list `ys` is `xs` with the items of `extra` put in between.
* `Inserts.filter`, `Inserts.map`: it stays so for the chosen and the changed items.
* **`Inserts.filter_eq`**: a filter that drops the extra items does not see them.
* `mapM_eq_ok_iff_forall₂`, `exists_mapM_eq_ok_iff`, `exists_mem_mapM`, `map_eq_of_mapM`: changes that
  may fail, item by item; `mapM_eq_error_iff`: the first item decides how; `Inserts.mapM`: it stays so
  for the items that they lead to.
-/

namespace MeshDoctor

variable {α β ε : Type}

/-- `ys` is `xs` with `extra` put in at any positions. -/
inductive Inserts : (extra xs ys : List α) → Prop where
  | nil : Inserts [] [] []
  | keep {extra xs ys : List α} (a : α) : Inserts extra xs ys → Inserts extra (a :: xs) (a :: ys)
  | insert {extra xs ys : List α} (a : α) : Inserts extra xs ys → Inserts (a :: extra) xs (a :: ys)

namespace Inserts

variable {extra xs ys : List α}

theorem mem_iff (h : Inserts extra xs ys) {a : α} : a ∈ ys ↔ a ∈ extra ∨ a ∈ xs := by
  induction h with
  | nil => simp
  | keep b _ ih =>
    rw [List.mem_cons, List.mem_cons, ih]
    exact or_left_comm
  | insert b _ ih =>
    rw [List.mem_cons, List.mem_cons, ih]
    exact or_assoc.symm

theorem filter (h : Inserts extra xs ys) (p : α → Bool) :
    Inserts (extra.filter p) (xs.filter p) (ys.filter p) := by
  induction h with
  | nil => exact .nil
  | keep a _ ih =>
    by_cases ha : p a
    · rw [List.filter_cons_of_pos ha, List.filter_cons_of_pos ha]
      exact .keep a ih
    · rw [List.filter_cons_of_neg ha, List.filter_cons_of_neg ha]
      exact ih
  | insert a _ ih =>
    by_cases ha : p a
    · rw [List.filter_cons_of_pos ha, List.filter_cons_of_pos ha]
      exact .insert a ih
    · rw [List.filter_cons_of_neg ha, List.filter_cons_of_neg ha]
      exact ih

theorem map (h : Inserts extra xs ys) (f : α → β) :
    Inserts (extra.map f) (xs.map f) (ys.map f) := by
  induction h with
  | nil => exact .nil
  | keep a _ ih => exact .keep (f a) ih
  | insert a _ ih => exact .insert (f a) ih

theorem eq_of_nil (h : Inserts [] xs ys) : ys = xs := by
  generalize hextra : ([] : List α) = extra at h
  induction h with
  | nil => rfl
  | keep a _ ih => rw [ih hextra]
  | insert a _ _ => cases hextra

/-- **A filter that drops the extra items does not see them.** -/
theorem filter_eq (h : Inserts extra xs ys) {p : α → Bool} (hp : ∀ a ∈ extra, p a = false) :
    ys.filter p = xs.filter p := by
  have hnone : extra.filter p = [] := by
    rw [List.filter_eq_nil_iff]
    intro a ha
    rw [hp a ha]
    exact Bool.false_ne_true
  have hchosen := h.filter p
  rw [hnone] at hchosen
  exact hchosen.eq_of_nil

end Inserts

/-! ## Changes that may fail -/

section Results

variable {f : α → Except ε β} {xs : List α} {bs : List β}

theorem mapM_cons_eq_ok {a : α} :
    (a :: xs).mapM f = .ok bs ↔ ∃ b rest, f a = .ok b ∧ xs.mapM f = .ok rest ∧ bs = b :: rest := by
  rw [List.mapM_cons]
  constructor
  · intro h
    obtain ⟨b, hb, h⟩ := bind_eq_ok.mp h
    obtain ⟨rest, hrest, h⟩ := bind_eq_ok.mp h
    exact ⟨b, rest, hb, hrest, (Except.ok.inj h).symm⟩
  · rintro ⟨b, rest, hb, hrest, rfl⟩
    rw [hb, hrest]
    rfl

/-- A list changes into another one item by item. -/
theorem mapM_eq_ok_iff_forall₂ :
    xs.mapM f = .ok bs ↔ List.Forall₂ (fun a b => f a = .ok b) xs bs := by
  induction xs generalizing bs with
  | nil => simp [pure, Except.pure, eq_comm]
  | cons a xs ih =>
    simp only [mapM_cons_eq_ok, ih, List.forall₂_cons_left_iff]

/-- A list changes without failure if its items do. -/
theorem exists_mapM_eq_ok_iff : (∃ bs, xs.mapM f = .ok bs) ↔ ∀ a ∈ xs, ∃ b, f a = .ok b := by
  induction xs with
  | nil => exact ⟨fun _ => by simp, fun _ => ⟨[], rfl⟩⟩
  | cons a xs ih =>
    rw [List.forall_mem_cons, ← ih]
    simp only [mapM_cons_eq_ok]
    constructor
    · rintro ⟨_, b, rest, hb, hrest, -⟩
      exact ⟨⟨b, hb⟩, rest, hrest⟩
    · rintro ⟨⟨b, hb⟩, rest, hrest⟩
      exact ⟨b :: rest, b, rest, hb, hrest, rfl⟩

/-- A list whose change fails does so by the failure of its first item that does not change. -/
theorem mapM_eq_error_iff {e : ε} :
    xs.mapM f = .error e ↔ ∃ front a back, xs = front ++ a :: back ∧
      (∀ b ∈ front, ∃ c, f b = .ok c) ∧ f a = .error e := by
  constructor
  · intro h
    induction xs with
    | nil => cases h
    | cons a xs ih =>
      rw [List.mapM_cons] at h
      cases hhead : f a with
      | error e' =>
        rw [hhead] at h
        obtain rfl : e' = e := Except.error.inj h
        exact ⟨[], a, xs, rfl, List.forall_mem_nil _, hhead⟩
      | ok b =>
        cases hrest : xs.mapM f with
        | ok rest => simp [hhead, hrest, bind, Except.bind, pure, Except.pure] at h
        | error e' =>
          rw [hhead, hrest] at h
          obtain rfl : e' = e := Except.error.inj h
          obtain ⟨front, a', back, rfl, hfront, hfails⟩ := ih hrest
          exact ⟨a :: front, a', back, rfl, List.forall_mem_cons.mpr ⟨⟨b, hhead⟩, hfront⟩, hfails⟩
  · rintro ⟨front, a, back, rfl, hfront, hfails⟩
    induction front with
    | nil => rw [List.nil_append, List.mapM_cons, hfails]; rfl
    | cons a' front ih =>
      obtain ⟨⟨b, hb⟩, hfront⟩ := List.forall_mem_cons.mp hfront
      rw [List.cons_append, List.mapM_cons, hb, ih hfront]
      rfl

theorem exists_of_mem_mapM (h : xs.mapM f = .ok bs) {b : β} (hb : b ∈ bs) :
    ∃ a ∈ xs, f a = .ok b := by
  induction xs generalizing bs with
  | nil =>
    obtain rfl : [] = bs := Except.ok.inj h
    cases hb
  | cons a xs ih =>
    obtain ⟨b', rest, hb', hrest, rfl⟩ := mapM_cons_eq_ok.mp h
    rcases List.mem_cons.mp hb with rfl | hb
    · exact ⟨a, List.mem_cons_self, hb'⟩
    · obtain ⟨a', ha', hfrom⟩ := ih hrest hb
      exact ⟨a', List.mem_cons_of_mem _ ha', hfrom⟩

theorem exists_mem_mapM (h : xs.mapM f = .ok bs) {a : α} (ha : a ∈ xs) :
    ∃ b ∈ bs, f a = .ok b := by
  induction xs generalizing bs with
  | nil => cases ha
  | cons a' xs ih =>
    obtain ⟨b, rest, hb, hrest, rfl⟩ := mapM_cons_eq_ok.mp h
    rcases List.mem_cons.mp ha with rfl | ha
    · exact ⟨b, List.mem_cons_self, hb⟩
    · obtain ⟨b', hb', hfrom⟩ := ih hrest ha
      exact ⟨b', List.mem_cons_of_mem _ hb', hfrom⟩

theorem map_eq_of_mapM {γ : Type} {g : β → γ} {g' : α → γ} (h : xs.mapM f = .ok bs)
    (hg : ∀ a b, f a = .ok b → g b = g' a) : bs.map g = xs.map g' := by
  induction xs generalizing bs with
  | nil =>
    obtain rfl : [] = bs := Except.ok.inj h
    rfl
  | cons a xs ih =>
    obtain ⟨b, rest, hb, hrest, rfl⟩ := mapM_cons_eq_ok.mp h
    rw [List.map_cons, List.map_cons, hg a b hb, ih hrest]

/-- **If a list changes without failure, so do its extra items and the others**, and the changed
extra items stand between the others. -/
theorem Inserts.mapM {extra ys : List α} {cs : List β} (h : Inserts extra xs ys)
    (hys : ys.mapM f = .ok cs) :
    ∃ more bs, extra.mapM f = .ok more ∧ xs.mapM f = .ok bs ∧ Inserts more bs cs := by
  induction h generalizing cs with
  | nil =>
    obtain rfl : [] = cs := Except.ok.inj hys
    exact ⟨[], [], rfl, rfl, .nil⟩
  | keep a _ ih =>
    obtain ⟨c, rest, hc, hrest, rfl⟩ := mapM_cons_eq_ok.mp hys
    obtain ⟨more, bs, hmore, hbs, hinserts⟩ := ih hrest
    exact ⟨more, c :: bs, hmore, mapM_cons_eq_ok.mpr ⟨c, bs, hc, hbs, rfl⟩, .keep c hinserts⟩
  | insert a _ ih =>
    obtain ⟨c, rest, hc, hrest, rfl⟩ := mapM_cons_eq_ok.mp hys
    obtain ⟨more, bs, hmore, hbs, hinserts⟩ := ih hrest
    exact ⟨c :: more, bs, mapM_cons_eq_ok.mpr ⟨c, more, hc, hmore, rfl⟩, hbs, .insert c hinserts⟩

end Results

end MeshDoctor
