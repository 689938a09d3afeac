import MeshDoctor.Proofs.Inquiry.Faults
import MeshDoctor.Proofs.List.Insertion

/-!
# Inquiries — worlds that list in different orders

Two runs are compared, one in each of two worlds that answer alike but may list in different orders.

* `Alike`: two results are related, or both are missing.
* **`alike_mapM_of_perm`**: a list whose items decode or not does so in any order.
* `World.SameUpToOrder`: the worlds answer alike, up to the order of lists; faults keep this.
* `World.alike_bind`: runs in sequence stay alike.
* `findSome?_eq_of_perm`: the first hit is the same in any order if all hits are the same.
-/

namespace MeshDoctor

variable {α β ε : Type}

/-! ## Results that are alike -/

/-- Two results are alike: both are there and related, or both are missing. -/
inductive Alike (R : α → α → Prop) : Except ε α → Except ε α → Prop where
  | ok {a b : α} (h : R a b) : Alike R (.ok a) (.ok b)
  | error (e e' : ε) : Alike R (.error e) (.error e')

namespace Alike

variable {R : α → α → Prop} {S : β → β → Prop} {x y z : Except ε α}

theorem refl (hR : ∀ a, R a a) (x : Except ε α) : Alike R x x := by
  cases x with
  | ok a => exact .ok (hR a)
  | error e => exact .error e e

theorem trans (hR : ∀ a b c, R a b → R b c → R a c) (hxy : Alike R x y) (hyz : Alike R y z) :
    Alike R x z := by
  cases hxy with
  | ok hab =>
    cases hyz with
    | ok hbc => exact .ok (hR _ _ _ hab hbc)
  | error e e' =>
    cases hyz with
    | error _ e'' => exact .error e e''

theorem bind_of_ok {f g : α → Except ε β} (hx : Alike R x y)
    (hf : ∀ a b, x = .ok a → R a b → Alike S (f a) (g b)) : Alike S (x.bind f) (y.bind g) := by
  cases hx with
  | ok hab => exact hf _ _ rfl hab
  | error e e' => exact .error e e'

theorem bind {f g : α → Except ε β} (hx : Alike R x y) (hf : ∀ a b, R a b → Alike S (f a) (g b)) :
    Alike S (x.bind f) (y.bind g) :=
  hx.bind_of_ok fun a b _ => hf a b

theorem ofFailed {x y : Except Failure α} (hx : Alike R x y) :
    Alike R (Problem.ofFailed x) (Problem.ofFailed y) := by
  cases hx with
  | ok hab => exact .ok hab
  | error e e' => exact .error _ _

end Alike

/-! ## Lists in different orders -/

theorem mapM_cons_bind (f : α → Except ε β) (a : α) (as : List α) :
    (a :: as).mapM f = (f a).bind fun b => (as.mapM f).bind fun bs => .ok (b :: bs) :=
  List.mapM_cons

/-- **A list decodes in every order or in none**, and to the same things. -/
theorem alike_mapM_of_perm {as as' : List α} (h : as.Perm as') (f : α → Except ε β) :
    Alike List.Perm (as.mapM f) (as'.mapM f) := by
  induction h with
  | nil => exact .ok .nil
  | cons a _ ih =>
    rw [mapM_cons_bind, mapM_cons_bind]
    refine (Alike.refl (R := Eq) (fun _ => rfl) (f a)).bind ?_
    rintro b _ rfl
    exact ih.bind fun bs bs' hbs => .ok (hbs.cons b)
  | swap a a' as =>
    -- An item that does not decode may be met first in one order and last in the other.
    simp only [mapM_cons_bind]
    cases f a with
    | ok b =>
      cases f a' with
      | ok b' =>
        cases as.mapM f with
        | ok bs => exact .ok (.swap b b' bs)
        | error e => exact .error e e
      | error e' => exact .error _ _
    | error e =>
      cases f a' with
      | ok b' => exact .error _ _
      | error e' => exact .error _ _
  | trans _ _ ih ih' => exact ih.trans (fun _ _ _ => .trans) ih'

/-- There is a hit in every order or in none. -/
theorem findSome?_found_of_perm {as as' : List α} (h : as.Perm as') (f : α → Option β) :
    (as.findSome? f = none ∧ as'.findSome? f = none) ∨
      ∃ b b', as.findSome? f = some b ∧ as'.findSome? f = some b' := by
  cases hfind : as.findSome? f with
  | none =>
    rw [List.findSome?_eq_none_iff] at hfind
    exact .inl ⟨rfl, List.findSome?_eq_none_iff.mpr fun a ha => hfind a (h.mem_iff.mpr ha)⟩
  | some b =>
    obtain ⟨a, ha, hab⟩ := List.exists_of_findSome?_eq_some hfind
    have hsome : (as'.findSome? f).isSome :=
      List.findSome?_isSome_iff.mpr ⟨a, h.mem_iff.mp ha, by rw [hab]; rfl⟩
    obtain ⟨b', hb'⟩ := Option.isSome_iff_exists.mp hsome
    exact .inr ⟨b, b', rfl, hb'⟩

/-- The first hit does not depend on the order if all hits are the same. -/
theorem findSome?_eq_of_perm {as as' : List α} (h : as.Perm as') {f : α → Option β}
    (hsame : ∀ a ∈ as, ∀ a' ∈ as, ∀ b b', f a = some b → f a' = some b' → b = b') :
    as'.findSome? f = as.findSome? f := by
  obtain ⟨hnone, hnone'⟩ | ⟨b, b', hb, hb'⟩ := findSome?_found_of_perm h f
  · rw [hnone, hnone']
  · obtain ⟨a, ha, hab⟩ := List.exists_of_findSome?_eq_some hb
    obtain ⟨a', ha', hab'⟩ := List.exists_of_findSome?_eq_some hb'
    rw [hb, hb', hsame a ha a' (h.mem_iff.mpr ha') b b' hab hab']

/-! ## Worlds that answer alike -/

/-- The worlds answer alike, up to the order of lists. -/
structure World.SameUpToOrder (w w' : World) : Prop where
  alike_list (kind : String) (q : ListQuery) :
    Alike List.Perm (w (.list kind q) : Except Failure (List Json.Value)) (w' (.list kind q))
  eq_of_ne {r : Request} (hr : ∀ kind q, r ≠ .list kind q) : w' r = w r

namespace World

variable {w w' : World} {R : α → α → Prop} {S : β → β → Prop}

/-- The same faults leave worlds alike. -/
theorem SameUpToOrder.under (h : w.SameUpToOrder w') (F : Faults) :
    (w.under F).SameUpToOrder (w'.under F) where
  alike_list kind q := by
    cases hfault : F.failure? (.list kind q) with
    | some f =>
      rw [under_of_some hfault, under_of_some hfault]
      exact .error f f
    | none =>
      rw [under_of_none hfault, under_of_none hfault]
      exact h.alike_list kind q
  eq_of_ne {r} hr := by
    cases hfault : F.failure? r with
    | some f => rw [under_of_some hfault, under_of_some hfault]
    | none => rw [under_of_none hfault, under_of_none hfault, h.eq_of_ne hr]

/-- What asks for no list finds the same. -/
theorem SameUpToOrder.finds_eq (h : w.SameUpToOrder w') {x : ExceptT ε Inquiry α}
    (hx : ∀ r ∈ w.asks x, ∀ kind q, r ≠ .list kind q) : w'.finds x = w.finds x :=
  finds_congr fun r hr => h.eq_of_ne (hx r hr)

/-- Runs in sequence stay alike. -/
theorem alike_bind {x y : ExceptT ε Inquiry α} {f g : α → ExceptT ε Inquiry β}
    (hx : Alike R (w.finds x) (w'.finds y))
    (hf : ∀ a b, R a b → Alike S (w.finds (f a)) (w'.finds (g b))) :
    Alike S (w.finds (x >>= f)) (w'.finds (y >>= g)) := by
  rw [finds_bind, finds_bind]
  exact hx.bind hf

theorem alike_bind_of_eq {x y : ExceptT ε Inquiry α} {f g : α → ExceptT ε Inquiry β}
    (hx : w'.finds y = w.finds x) (hf : ∀ a, Alike S (w.finds (f a)) (w'.finds (g a))) :
    Alike S (w.finds (x >>= f)) (w'.finds (y >>= g)) := by
  refine alike_bind (R := Eq) ?_ ?_
  · rw [hx]
    exact .refl (fun _ => rfl) _
  · rintro a _ rfl
    exact hf a

theorem alike_liftM {x y : Lookup α} (hx : Alike R (w.finds x) (w'.finds y)) :
    Alike R (w.finds (liftM x : Diagnosis α)) (w'.finds (liftM y : Diagnosis α)) := by
  rw [finds_liftM, finds_liftM]
  exact hx.ofFailed

end World

end MeshDoctor
