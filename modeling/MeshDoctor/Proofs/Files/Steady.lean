import MeshDoctor.Proofs.Files.Machine

/-!
# Files — a machine that knows from the path whether it refuses a file

* `Machine.IsSteady`: such a machine.
* **`Machine.answer_congr`**, `Machine.entry?_writePath_congr`: whether a file is written and what is
  then at its way depends on nothing else that was written.
* `Machine.Apart`: exchanges that write files to places of their own.
* **`Machine.Apart.answers`**, **`Machine.Apart.entry?_perm`**: they could have been made in any order.
-/

namespace MeshDoctor.Machine

open FileTree

variable {m : Machine} {t t' : FileTree} {r : Request} {path : String} {way : List String}
  {es : List Exchange}

/-- Whether the machine refuses to write a file is known from the path. -/
def IsSteady (m : Machine) : Prop :=
  ∀ path text text' t t', m.refusal? (.writePath path text) t = m.refusal? (.writePath path text') t'

section Steady

variable (hsteady : m.IsSteady) {parent : List String} {name : String}
  (hreach : t.Reaches path parent name) (hkeeps : t.KeepsDirectories t')
include hsteady hreach hkeeps

/-- **Whether a file is written depends on its path**, as long as no directory has its place. -/
theorem answer_congr
    (hentry : t'.entry? (t.wayOf path) = some .directory ↔ t.entry? (t.wayOf path) = some .directory)
    (text text' : String) :
    (m.host (.writePath path text') t').1 = (m.host (.writePath path text) t).1 := by
  rw [host, host, hsteady path text' text t' t]
  cases m.refusal? (.writePath path text) t with
  | some e => rfl
  | none =>
    obtain ⟨e, hwrite, hwrite'⟩ | ⟨hwrite, hwrite'⟩ :=
      write_congr hreach hkeeps hentry (Text.encode text) (Text.encode text')
    · simp only [hwrite, hwrite']
      rfl
    · simp only [hwrite, hwrite']
      rfl

theorem entry?_writePath_congr (hentry : t'.entry? (t.wayOf path) = t.entry? (t.wayOf path))
    (text : String) :
    entry? (m.host (.writePath path text) t').2 (t.wayOf path) =
      entry? (m.host (.writePath path text) t).2 (t.wayOf path) := by
  rw [host, host, hsteady path text text t' t]
  cases m.refusal? (.writePath path text) t with
  | some e => exact remove_congr hreach hkeeps hentry
  | none =>
    obtain ⟨e, hwrite, hwrite'⟩ | ⟨hwrite, hwrite'⟩ :=
      write_congr hreach hkeeps (by rw [hentry]) (Text.encode text) (Text.encode text)
    · simp only [hwrite, hwrite']
      exact hentry
    · simp only [hwrite, hwrite']
      rw [entry?_put_self hreach.ne_nil, entry?_put_self hreach.ne_nil]

/-- What a refused file leaves does not depend on its text. -/
theorem entry?_refused_congr (hentry : t'.entry? (t.wayOf path) = t.entry? (t.wayOf path))
    (text' : String) {text : String} {f : Failure}
    (hrefused : (m.host (.writePath path text) t).1 = .error f) :
    entry? (m.host (.writePath path text') t').2 (t.wayOf path) =
      entry? (m.host (.writePath path text) t).2 (t.wayOf path) := by
  rw [host] at hrefused
  rw [host, host, hsteady path text' text t' t]
  cases hrefusal : m.refusal? (.writePath path text) t with
  | some e => exact remove_congr hreach hkeeps hentry
  | none =>
    obtain ⟨e, hwrite, hwrite'⟩ | ⟨hwrite, -⟩ :=
      write_congr hreach hkeeps (by rw [hentry]) (Text.encode text) (Text.encode text')
    · simp only [hwrite, hwrite']
      exact hentry
    · simp only [hrefusal, hwrite] at hrefused
      cases hrefused

/-- **A file is refused in both trees or written in both.** -/
theorem host_writePath_congr (hentries : ∀ way, t'.entry? way = t.entry? way)
    {text text' : String} {answer answer' : Except Failure Unit} {left left' : FileTree}
    (h : m.host (.writePath path text) t = (answer, left))
    (h' : m.host (.writePath path text') t' = (answer', left')) :
    answer' = answer ∧ (∀ way, way ≠ t.wayOf path → left'.entry? way = left.entry? way) ∧
      ((∃ f, answer = .error f) → ∀ way, left'.entry? way = left.entry? way) := by
  have hanswer := answer_congr hsteady hreach hkeeps (by rw [hentries]) text text'
  have hothers : ∀ way, way ≠ t.wayOf path → left'.entry? way = left.entry? way := by
    intro way hne
    have hleft := m.entry?_writePath_of_ne (t := t) hne.symm text
    have hleft' := m.entry?_writePath_of_ne (t := t')
      (by rw [hkeeps.wayOf_eq]; exact hne.symm) text'
    rw [h] at hleft
    rw [h'] at hleft'
    exact (hleft'.trans (hentries way)).trans hleft.symm
  rw [h, h'] at hanswer
  refine ⟨hanswer, hothers, ?_⟩
  rintro ⟨f, rfl⟩ way
  by_cases hway : way = t.wayOf path
  · have hrefused : (m.host (.writePath path text) t).1 = .error f := congrArg Prod.fst h
    have hremains := entry?_refused_congr hsteady hreach hkeeps (hentries _) text' hrefused
    rw [h, h'] at hremains
    rw [hway]
    exact hremains
  · exact hothers way hway

end Steady

/-! ## Only files are written -/

/-- What the machine answers while its files are these. -/
def due (m : Machine) (t : FileTree) : World := fun r => (m.host r t).1

/-- Of the requests about files, all write one. -/
def WritesOnly (es : List Exchange) : Prop :=
  ∀ e ∈ es, e.1.concernsFiles → ∃ path text, e.1 = .writePath path text

theorem sameDirectories_host (m : Machine) (t : FileTree)
    (hr : r.concernsFiles → ∃ path text, r = .writePath path text) :
    t.SameDirectories (m.host r t).2 := by
  cases hconcerns : r.concernsFiles with
  | false =>
    rw [m.host_of_not_concerned hconcerns]
    exact .refl t
  | true =>
    obtain ⟨path, text, rfl⟩ := hr hconcerns
    exact m.sameDirectories_writePath t path text

theorem sameDirectories_steps (hes : WritesOnly es) (h : m.host.Steps t es t') :
    t.SameDirectories t' :=
  h.invariant (fun e he s hs => hs.trans (m.sameDirectories_host s (hes e he))) (.refl t)

theorem entry?_host_of_ne (m : Machine) (hr : r.concernsFiles → ∃ path text, r = .writePath path text)
    (hway : ∀ path, r.written? = some path → t.wayOf path ≠ way) :
    entry? (m.host r t).2 way = t.entry? way := by
  cases hconcerns : r.concernsFiles with
  | false => rw [m.host_of_not_concerned hconcerns]
  | true =>
    obtain ⟨path, text, rfl⟩ := hr hconcerns
    exact m.entry?_writePath_of_ne (hway path rfl) text

theorem entry?_steps_of_ne (hes : WritesOnly es) (h : m.host.Steps t es t')
    (hways : ∀ e ∈ es, ∀ path, e.1.written? = some path → t.wayOf path ≠ way) :
    t'.entry? way = t.entry? way := by
  induction h with
  | nil t => rfl
  | @cons r answer t s₁ t' es hhost hrest ih =>
    have hr : r.concernsFiles → ∃ path text, r = .writePath path text := hes _ List.mem_cons_self
    have hsame := m.sameDirectories_host t hr
    have hstep := m.entry?_host_of_ne hr (hways _ List.mem_cons_self)
    rw [hhost] at hsame hstep
    have hrest' : WritesOnly es := fun e he => hes e (List.mem_cons_of_mem _ he)
    have hways' : ∀ e ∈ es, ∀ path, e.1.written? = some path → s₁.wayOf path ≠ way := by
      intro e he path
      rw [hsame.keeps.wayOf_eq]
      exact hways e (List.mem_cons_of_mem _ he) path
    exact (ih hrest' hways').trans hstep

/-- Each path leads to a place of its own in a directory that is there. -/
structure Apart (t : FileTree) (es : List Exchange) : Prop where
  writesOnly : WritesOnly es
  reaches : ∀ path ∈ paths es, ∃ parent name, t.Reaches path parent name
  nodup : ((paths es).map t.wayOf).Nodup

namespace Apart

theorem perm {es' : List Exchange} (h : Apart t es) (hperm : es.Perm es') : Apart t es' where
  writesOnly e he := h.writesOnly e (hperm.mem_iff.mpr he)
  reaches path hpath := h.reaches path ((hperm.filterMap _).mem_iff.mpr hpath)
  nodup := (((hperm.filterMap _).map _).nodup_iff).mp h.nodup

variable (hapart : Apart t es) (h : m.host.Steps t es t') (hsteady : m.IsSteady)
include hapart h hsteady

/-- **Every answer is the one that was due at the start.** -/
theorem answers : ∀ e ∈ es, e.2 = m.due t e.1 := by
  rintro ⟨r, answer⟩ he
  obtain ⟨before, after, s₁, s₂, hes, hbefore, hhost, -⟩ := h.of_mem he
  rw [due]
  cases hconcerns : r.concernsFiles with
  | false =>
    rw [m.host_of_not_concerned hconcerns] at hhost ⊢
    exact (congrArg Prod.fst hhost).symm
  | true =>
    obtain ⟨path, text, rfl⟩ := hapart.writesOnly _ he hconcerns
    obtain ⟨parent, name, hreach⟩ := hapart.reaches path (mem_paths he)
    have hwrites : WritesOnly before := fun e he' =>
      hapart.writesOnly e (by rw [hes]; exact List.mem_append_left _ he')
    have hsame := sameDirectories_steps hwrites hbefore
    have hcongr := answer_congr hsteady hreach hsame.keeps (hsame.directory_iff _) text text
    rw [hhost] at hcongr
    exact hcongr

/-- **What is written is what would have been written at the start.** -/
theorem entry?_of_mem {path text : String} {answer : Except Failure Unit}
    (he : ⟨.writePath path text, answer⟩ ∈ es) :
    t'.entry? (t.wayOf path) = entry? (m.host (.writePath path text) t).2 (t.wayOf path) := by
  obtain ⟨before, after, s₁, s₂, rfl, hbefore, hhost, hafter⟩ := h.of_mem he
  obtain ⟨parent, name, hreach⟩ := hapart.reaches path (mem_paths he)
  have hnodup := (List.perm_middle.filterMap _).map t.wayOf |>.nodup_iff.mp hapart.nodup
  obtain ⟨hothers, -⟩ := List.nodup_cons.mp hnodup
  have hother : ∀ e ∈ before ++ after, ∀ path', e.1.written? = some path' →
      t.wayOf path' ≠ t.wayOf path := fun e he path' hpath' heq =>
    hothers (List.mem_map.mpr ⟨path', List.mem_filterMap.mpr ⟨e, he, hpath'⟩, heq⟩)
  have hbeforeWrites : WritesOnly before := fun e he' =>
    hapart.writesOnly e (List.mem_append_left _ he')
  have hafterWrites : WritesOnly after := fun e he' =>
    hapart.writesOnly e (List.mem_append_right _ (List.mem_cons_of_mem _ he'))
  have hsame₁ := sameDirectories_steps hbeforeWrites hbefore
  have hentry₁ := entry?_steps_of_ne hbeforeWrites hbefore fun e he' =>
    hother e (List.mem_append_left _ he')
  have hentry₂ := entry?_writePath_congr hsteady hreach hsame₁.keeps hentry₁ text
  have hsame₂ := hsame₁.trans (m.sameDirectories_writePath s₁ path text)
  rw [hhost] at hentry₂ hsame₂
  refine Eq.trans ?_ hentry₂
  refine entry?_steps_of_ne hafterWrites hafter fun e he' path' hpath' => ?_
  rw [hsame₂.keeps.wayOf_eq]
  exact hother e (List.mem_append_right _ he') path' hpath'

/-- **The order makes no difference.** -/
theorem entry?_perm {es' : List Exchange} {t'' : FileTree} (hperm : es.Perm es')
    (h' : m.host.Steps t es' t'') (way : List String) : t''.entry? way = t'.entry? way := by
  by_cases hwritten : ∃ e ∈ es, ∃ path, e.1.written? = some path ∧ t.wayOf path = way
  · obtain ⟨⟨r, answer⟩, he, path, hpath, rfl⟩ := hwritten
    cases r with
    | writePath path' text =>
      obtain rfl : path' = path := Option.some.inj hpath
      rw [hapart.entry?_of_mem h hsteady he,
        (hapart.perm hperm).entry?_of_mem h' hsteady (hperm.mem_iff.mp he)]
    | _ => cases hpath
  · have hways : ∀ e ∈ es, ∀ path, e.1.written? = some path → t.wayOf path ≠ way :=
      fun e he path hpath heq => hwritten ⟨e, he, path, hpath, heq⟩
    rw [entry?_steps_of_ne hapart.writesOnly h hways,
      entry?_steps_of_ne (hapart.perm hperm).writesOnly h' fun e he =>
        hways e (hperm.mem_iff.mpr he)]

end Apart

end MeshDoctor.Machine
