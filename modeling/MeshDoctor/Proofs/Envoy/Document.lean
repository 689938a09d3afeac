import MeshDoctor.Proofs.Envoy.Entries
import MeshDoctor.Proofs.Json.ReadBack
import MeshDoctor.Proofs.Json.Reader

/-!
# Envoy — configuration dumps as documents

* `Lists`, `ListsEntries`: the entries that a document lists, and those that a text lists.
* `entriesOf_eq_some_iff`: they are the entries that are read.
* **`ConfigDump.ofText_reads_sections`**: when a text is read, what is read of it, what is reported
  when it is not, and what does not matter.
-/

namespace MeshDoctor.Envoy

open Json

/-- No member is named `configs`. -/
def NoConfigs (members : List (String × Value)) : Prop :=
  ∀ m ∈ members, m.1 ≠ "configs"

theorem NoConfigs.filter_eq_nil {members : List (String × Value)} (h : NoConfigs members) :
    members.filter (·.1 = "configs") = [] := by
  rw [List.filter_eq_nil_iff]
  intro m hm hname
  exact h m hm (of_decide_eq_true hname)

theorem noConfigs_iff {members : List (String × Value)} :
    NoConfigs members ↔ ∀ m ∈ members, "configs" != m.1 :=
  forall₂_congr fun _ _ => ne_comm.trans bne_iff_ne.symm

/-- A document lists entries as the member `configs` of an object, which it may leave out but not
repeat, or as the only item of a row. -/
inductive Lists : Document → List Value → Prop where
  | absent {members : List (String × Value)} (h : NoConfigs members) : Lists (.object members) []
  | present {front back : List (String × Value)} (entries : List Value) (hfront : NoConfigs front)
    (hback : NoConfigs back) :
    Lists (.object (front ++ ("configs", .array entries) :: back)) entries
  | emptyRow : Lists (.other (.array [])) []
  | row (entries : List Value) : Lists (.other (.array [.array entries])) entries

/-- A text lists entries if it is a document that does. -/
def ListsEntries (text : String) (entries : List Value) : Prop :=
  ∃ document, Document.read? ["configs"] text = some document ∧ Lists document entries

namespace ConfigDump

/-! ## The entries that are read -/

theorem asList_some_eq_some_iff {v : Value} {entries : List Value} :
    asList some v = some entries ↔ v = .array entries := by
  cases v with
  | array items =>
    have hitems : items.mapM some = some items := by
      simpa using List.mapM_pure (m := Option) (f := id) (l := items)
    rw [asList, hitems, Option.some.injEq, Value.array.injEq]
  | _ => simp [asList]

section Members

variable {members front back : List (String × Value)} {entries : List Value}

theorem entriesOf_of_absent (h : NoConfigs members) : entriesOf (.object members) = some [] := by
  rw [entriesOf, h.filter_eq_nil, List.lookup_eq_none_iff.mpr (noConfigs_iff.mp h)]
  rfl

theorem entriesOf_of_once (hfront : NoConfigs front) (hback : NoConfigs back) (v : Value) :
    entriesOf (.object (front ++ ("configs", v) :: back)) = asList some v := by
  have hlookup : (front ++ ("configs", v) :: back).lookup "configs" = some v :=
    List.lookup_eq_some_iff.mpr ⟨front, back, rfl, noConfigs_iff.mp hfront⟩
  have hfilter : (front ++ ("configs", v) :: back).filter (·.1 = "configs") = [("configs", v)] := by
    rw [List.filter_append, hfront.filter_eq_nil, List.filter_cons_of_pos (by simp),
      hback.filter_eq_nil, List.nil_append]
  rw [entriesOf, hfilter, hlookup]
  rfl

theorem entriesOf_of_twice {v : Value} (h : ¬ NoConfigs back) :
    entriesOf (.object (front ++ ("configs", v) :: back)) = none := by
  obtain ⟨m, hm, hname⟩ : ∃ m ∈ back, m.1 = "configs" := by
    simpa [NoConfigs] using h
  have hlength : 0 < (back.filter (·.1 = "configs")).length :=
    List.length_pos_of_mem (List.mem_filter.mpr ⟨hm, decide_eq_true hname⟩)
  rw [entriesOf, if_pos]
  rw [List.filter_append, List.filter_cons_of_pos (by simp), List.length_append, List.length_cons]
  omega

theorem entriesOf_object_eq_some_iff :
    entriesOf (.object members) = some entries ↔ Lists (.object members) entries := by
  constructor
  · intro h
    cases hlookup : members.lookup "configs" with
    | none =>
      have habsent : NoConfigs members := noConfigs_iff.mpr (List.lookup_eq_none_iff.mp hlookup)
      obtain rfl := Option.some.inj ((entriesOf_of_absent habsent).symm.trans h)
      exact .absent habsent
    | some v =>
      obtain ⟨front, back, rfl, hfront⟩ := List.lookup_eq_some_iff.mp hlookup
      rw [← noConfigs_iff] at hfront
      by_cases hback : NoConfigs back
      · rw [entriesOf_of_once hfront hback, asList_some_eq_some_iff] at h
        subst h
        exact .present entries hfront hback
      · rw [entriesOf_of_twice hback] at h
        cases h
  · intro h
    cases h with
    | absent h => exact entriesOf_of_absent h
    | present _ hfront hback =>
      rw [entriesOf_of_once hfront hback]
      exact asList_some_eq_some_iff.mpr rfl

theorem entriesOf_other_eq_some_iff {v : Value} (hv : ∀ members, v ≠ .object members) :
    entriesOf (.other v) = some entries ↔ Lists (.other v) entries := by
  constructor
  · intro h
    match v with
    | .object members => exact absurd rfl (hv members)
    | .array [] =>
      obtain rfl : [] = entries := Option.some.inj h
      exact .emptyRow
    | .array [item] =>
      obtain rfl : item = .array entries := asList_some_eq_some_iff.mp h
      exact .row entries
    | .array (_ :: _ :: _) => cases h
    | .null | .bool _ | .int _ | .real _ | .string _ => cases h
  · intro h
    cases h with
    | emptyRow => rfl
    | row entries => exact asList_some_eq_some_iff.mpr rfl

end Members

/-- The entries that are read of a text are those that it lists. -/
theorem entriesOf_eq_some_iff {text : String} {entries : List Value} :
    (Document.read? ["configs"] text).bind entriesOf = some entries ↔
      ListsEntries text entries := by
  rw [Option.bind_eq_some_iff]
  refine exists_congr fun document => and_congr_right fun hread => ?_
  cases document with
  | object members => exact entriesOf_object_eq_some_iff
  | other v =>
    refine entriesOf_other_eq_some_iff fun members hv => ?_
    rw [hv] at hread
    exact Document.read?_ne_other_object hread

/-! ## Texts -/

section Texts

variable {text : String} {entries : List Value}

theorem ofText_of_listsEntries (h : ListsEntries text entries) :
    ofText text = ofEntries entries := by
  rw [ofText, entriesOf_eq_some_iff.mpr h]

theorem ofText_of_not_listsEntries (h : ∀ entries, ¬ ListsEntries text entries) :
    ofText text = .error ⟨["Invalid config_dump document"], .malformedJson⟩ := by
  have hnone : (Document.read? ["configs"] text).bind entriesOf = none :=
    Option.eq_none_iff_forall_ne_some.mpr fun entries hentries =>
      h entries (entriesOf_eq_some_iff.mp hentries)
  rw [ofText, hnone]

/-- Entries that are readable where they stand are listed by the text that they are printed in. -/
theorem listsEntries_printed (h : ∀ entry ∈ entries, Readable (nestingLimit - 2) entry) :
    ListsEntries (Value.object [("configs", .array entries)]).compact entries := by
  have hreadable : ∀ m ∈ [("configs", Value.array entries)], Readable (nestingLimit - 1) m.2 := by
    rw [List.forall_mem_singleton]
    exact .array h
  have hlists : Lists (.object ([] ++ ("configs", .array entries) :: [])) entries :=
    .present entries (by simp [NoConfigs]) (by simp [NoConfigs])
  exact ⟨_, Document.read?_compact _ hreadable, hlists⟩

/-- A text that is read lists entries. -/
theorem listsEntries_of_ofText {dump : ConfigDump} (h : ofText text = .ok dump) :
    ∃ entries, ListsEntries text entries := by
  by_contra hnone
  rw [ofText_of_not_listsEntries (not_exists.mp hnone)] at h
  cases h

/-- **A text is read if it lists entries of which those of a kind decode**, and then each section is
the one that the last entry of its kind denotes. The first entry that does not decode is reported by
its kind. Entries of no kind do not matter, nor does the order of entries of different kinds. -/
theorem ofText_reads_sections (text : String) :
    ((∃ dump, ofText text = .ok dump) ↔ ∃ entries, ListsEntries text entries ∧ AllDecode entries) ∧
    (∀ dump entries, ofText text = .ok dump → ListsEntries text entries →
      ∀ kind, kind.latest? entries = some (dump.get kind)) ∧
    (∀ front entry back kind, ListsEntries text (front ++ entry :: back) → AllDecode front →
      HasKind kind entry → kind.decode entry = none →
        ofText text = .error ⟨["Failed to parse " ++ kind.name ++ " section"], .malformedJson⟩) ∧
    ((∀ entries, ¬ ListsEntries text entries) →
      ofText text = .error ⟨["Invalid config_dump document"], .malformedJson⟩) ∧
    (∀ entries text' entries' extra, ListsEntries text entries → ListsEntries text' entries' →
      Inserts extra entries entries' → (∀ entry ∈ extra, ∀ kind, ¬ HasKind kind entry) →
        ofText text' = ofText text) ∧
    (∀ dump entries text' entries', ofText text = .ok dump → ListsEntries text entries →
      ListsEntries text' entries' →
        (∀ kind, entries'.filter (HasKind kind ·) = entries.filter (HasKind kind ·)) →
          ofText text' = .ok dump) := by
  refine ⟨⟨?_, ?_⟩, ?_, ?_, ofText_of_not_listsEntries, ?_, ?_⟩
  · rintro ⟨dump, hdump⟩
    obtain ⟨entries, hlists⟩ := listsEntries_of_ofText hdump
    rw [ofText_of_listsEntries hlists] at hdump
    exact ⟨entries, hlists, exists_ofEntries_eq_ok_iff.mp ⟨dump, hdump⟩⟩
  · rintro ⟨entries, hlists, hall⟩
    rw [ofText_of_listsEntries hlists]
    exact exists_ofEntries_eq_ok_iff.mpr hall
  · intro dump entries hdump hlists
    rw [ofText_of_listsEntries hlists] at hdump
    exact latest?_of_ofEntries hdump
  · intro front entry back kind hlists hfront hkind hnone
    rw [ofText_of_listsEntries hlists]
    exact ofEntries_of_undecodable hfront hkind hnone back
  · intro entries text' entries' extra hlists hlists' hinserts hextra
    rw [ofText_of_listsEntries hlists, ofText_of_listsEntries hlists']
    exact ofEntries_of_inserts hinserts hextra
  · intro dump entries text' entries' hdump hlists hlists' hfilter
    rw [ofText_of_listsEntries hlists] at hdump
    rw [ofText_of_listsEntries hlists']
    exact ofEntries_of_filter_eq hfilter hdump

end Texts

/-! ## Secrets that were listed twice -/

/-- The document that lists entries. -/
def document (entries : List Value) : String :=
  (Value.object [("configs", .array entries)]).compact

/-- The entry of one warming secret. -/
def warming (name : String) : Value :=
  .object
    [("@type", .string "envoy.SecretsConfigDump"),
      ("dynamic_warming_secrets", .array [.object [("name", .string name)]])]

/-- The entry of no routes. -/
def noRoutes : Value :=
  .object [("@type", .string "RoutesConfigDump")]

/-- The later list of secrets counts, also with another entry in between or a number in front. -/
theorem ofText_reads_sections_warming :
    ∃ dump, ofText (document [warming "old", noRoutes, warming "new"]) = .ok dump ∧
      dump.warmingSecretNames = ["new"] ∧
      ofText (document [.int 7, warming "old", noRoutes, warming "new"]) = .ok dump ∧
      ofText (document [warming "old", warming "new", noRoutes]) = .ok dump := by
  have hwarming : ∀ name, Readable (nestingLimit - 2) (warming name) := by
    intro name
    have hname : Readable 123 (.object [("name", .string name)]) :=
      .ofNames ["name"] rfl (by decide) (by simp [Readable.string])
    have hsecrets : Readable 124 (.array [.object [("name", .string name)]]) :=
      .array (by simp [hname])
    exact .ofNames ["@type", "dynamic_warming_secrets"] rfl (by decide)
      (by simp [Readable.string, hsecrets])
  have hroutes : Readable (nestingLimit - 2) noRoutes :=
    .ofNames ["@type"] rfl (by decide) (by simp [Readable.string])
  have hseven : Readable (nestingLimit - 2) (.int 7) := .int (by decide) (by decide)
  have hlists : ListsEntries _ [warming "old", noRoutes, warming "new"] :=
    listsEntries_printed (by simp [hwarming, hroutes])
  have hlists' : ListsEntries _ [.int 7, warming "old", noRoutes, warming "new"] :=
    listsEntries_printed (by simp [hwarming, hroutes, hseven])
  have hlists'' : ListsEntries _ [warming "old", warming "new", noRoutes] :=
    listsEntries_printed (by simp [hwarming, hroutes])
  obtain ⟨hok, hlatest, -, -, hinsert, horder⟩ :=
    ofText_reads_sections (document [warming "old", noRoutes, warming "new"])
  obtain ⟨dump, hdump⟩ := hok.mpr ⟨_, hlists, by decide +kernel⟩
  refine ⟨dump, hdump, ?_, ?_, ?_⟩
  · have hsecrets := hlatest dump _ hdump hlists .secrets
    have hnew : SectionKind.latest? .secrets [warming "old", noRoutes, warming "new"] =
        some (⟨[], [⟨"new"⟩]⟩ : SecretsSection) := rfl
    obtain hget : _ = dump.secrets := Option.some.inj (hnew.symm.trans hsecrets)
    rw [warmingSecretNames, ← hget]
    rfl
  · rw [← hdump]
    exact hinsert _ _ _ [.int 7] hlists hlists' (.insert _ (.keep _ (.keep _ (.keep _ .nil))))
      (by decide +kernel)
  · exact horder dump _ _ _ hdump hlists hlists'' (by decide +kernel)

end ConfigDump

end MeshDoctor.Envoy
