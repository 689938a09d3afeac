import Mathlib.Data.List.Induction
import MeshDoctor.Envoy.ConfigDump
import MeshDoctor.Proofs.List.Insertion
import MeshDoctor.Proofs.Text.Pieces

/-!
# Envoy — the entries of a configuration dump

* `IsTypeOf`, `HasKind`: the type of an entry ends with the name of a kind.
* `ConfigDump.get`, `ConfigDump.set`: the section of a kind in a dump.
* `SectionKind.latest?`: the section that the last entry of a kind denotes.
* **`ofEntries_of_allDecode`**: if every entry of a kind decodes, each section is the latest one.
* **`ofEntries_of_undecodable`**: the first entry that does not decode is the one reported.
* `ofEntries_of_inserts`, `ofEntries_of_filter_eq`: entries of no kind do not matter, and neither
  does the order of entries of different kinds.
-/

namespace MeshDoctor.Envoy

open Json

/-! ## Kinds -/

/-- A type is the name of the kind, or ends with it after a dot. No name has a dot. -/
def IsTypeOf (kind : SectionKind) (typeUrl : String) : Prop :=
  typeUrl = kind.name ∨ ∃ front : String, typeUrl = front ++ "." ++ kind.name

/-- An entry has a type of the kind. -/
def HasKind (kind : SectionKind) (entry : Value) : Prop :=
  ∃ typeUrl : String, entry.member? "@type" = some (.string typeUrl) ∧ IsTypeOf kind typeUrl

namespace SectionKind

theorem tailOf_eq_iff {typeUrl tail : String} (hdot : '.' ∉ tail.toList) :
    tailOf typeUrl = tail ↔ typeUrl = tail ∨ ∃ front : String, typeUrl = front ++ "." ++ tail :=
  Text.afterLast_eq_iff.trans (and_iff_right hdot)

theorem dot_notMem_name (kind : SectionKind) : '.' ∉ kind.name.toList := by
  cases kind <;> decide

theorem name_injective {kind kind' : SectionKind} (h : kind.name = kind'.name) : kind = kind' := by
  cases kind <;> cases kind' <;> first | rfl | exact absurd h (by decide)

theorem mem_all (kind : SectionKind) : kind ∈ all := by
  cases kind <;> decide

theorem name_of_ofType? {typeUrl : String} {kind : SectionKind} (h : ofType? typeUrl = some kind) :
    tailOf typeUrl = kind.name := by
  rw [ofType?] at h
  have hname := List.find?_some h
  exact (of_decide_eq_true hname).symm

theorem isTypeOf_iff {typeUrl : String} {kind : SectionKind} :
    IsTypeOf kind typeUrl ↔ ofType? typeUrl = some kind := by
  rw [IsTypeOf, ← tailOf_eq_iff kind.dot_notMem_name]
  refine ⟨fun h => ?_, name_of_ofType?⟩
  cases hfind : ofType? typeUrl with
  | none =>
    have hnone := List.find?_eq_none.mp hfind kind (mem_all kind)
    exact absurd (decide_eq_true h.symm) hnone
  | some kind' => rw [name_injective ((name_of_ofType? hfind).symm.trans h)]

/-- An entry has the kind under which it is read. -/
theorem hasKind_iff {entry : Value} {kind : SectionKind} :
    HasKind kind entry ↔ ofEntry? entry = some kind := by
  rw [HasKind, ofEntry?]
  simp only [Option.bind_eq_some_iff, isTypeOf_iff]
  constructor
  · rintro ⟨typeUrl, hv, htail⟩
    exact ⟨typeUrl, ⟨.string typeUrl, hv, rfl⟩, htail⟩
  · rintro ⟨typeUrl, ⟨v, hv, htext⟩, htail⟩
    cases v with
    | string s =>
      obtain rfl := Option.some.inj htext
      exact ⟨s, hv, htail⟩
    | _ => cases htext

/-- What holds of each kind can be tried kind by kind. -/
instance (p : SectionKind → Prop) [DecidablePred p] : Decidable (∀ kind, p kind) :=
  decidable_of_iff (∀ kind ∈ all, p kind)
    ⟨fun h kind => h kind kind.mem_all, fun h kind _ => h kind⟩

end SectionKind

instance (kind : SectionKind) (entry : Value) : Decidable (HasKind kind entry) :=
  decidable_of_iff _ SectionKind.hasKind_iff.symm

theorem HasKind.unique {kind kind' : SectionKind} {entry : Value} (h : HasKind kind entry)
    (h' : HasKind kind' entry) : kind = kind' := by
  rw [SectionKind.hasKind_iff] at h h'
  exact Option.some.inj (h.symm.trans h')

/-! ## Sections by kind -/

namespace SectionKind

/-- What an entry of a kind denotes. -/
def Section : SectionKind → Type
  | bootstrap => BootstrapSection
  | clusters => ClustersSection
  | listeners => ListenersSection
  | routes => RoutesSection
  | secrets => SecretsSection
  | endpoints => EndpointsSection

/-- Reads the section of a kind. -/
def decode : (kind : SectionKind) → Decoder kind.Section
  | bootstrap => BootstrapSection.decode
  | clusters => ClustersSection.decode
  | listeners => ListenersSection.decode
  | routes => RoutesSection.decode
  | secrets => SecretsSection.decode
  | endpoints => EndpointsSection.decode

/-- The section of a kind that no entry denotes. -/
def empty : (kind : SectionKind) → kind.Section
  | bootstrap => ({} : BootstrapSection)
  | clusters => ({} : ClustersSection)
  | listeners => ({} : ListenersSection)
  | routes => ({} : RoutesSection)
  | secrets => ({} : SecretsSection)
  | endpoints => ({} : EndpointsSection)

/-- The section that the last entry of a kind denotes, if it denotes one; without such an entry the
section is empty. -/
def latest? (kind : SectionKind) (entries : List Value) : Option kind.Section :=
  (entries.filter (HasKind kind ·)).getLast?.elim (some kind.empty) kind.decode

end SectionKind

namespace ConfigDump

/-- The section of a kind. -/
def get (dump : ConfigDump) : (kind : SectionKind) → kind.Section
  | .bootstrap => dump.bootstrap
  | .clusters => dump.clusters
  | .listeners => dump.listeners
  | .routes => dump.routes
  | .secrets => dump.secrets
  | .endpoints => dump.endpoints

/-- The dump with another section of a kind. -/
def set (dump : ConfigDump) : (kind : SectionKind) → kind.Section → ConfigDump
  | .bootstrap, s => { dump with bootstrap := s }
  | .clusters, s => { dump with clusters := s }
  | .listeners, s => { dump with listeners := s }
  | .routes, s => { dump with routes := s }
  | .secrets, s => { dump with secrets := s }
  | .endpoints, s => { dump with endpoints := s }

variable {dump dump' : ConfigDump} {kind : SectionKind}

@[simp] theorem get_set_self (s : kind.Section) : (dump.set kind s).get kind = s := by
  cases kind <;> rfl

theorem get_set_of_ne {kind' : SectionKind} (h : kind ≠ kind') (s : kind.Section) :
    (dump.set kind s).get kind' = dump.get kind' := by
  cases kind <;> cases kind' <;> first | rfl | exact absurd rfl h

@[simp] theorem get_empty : ({} : ConfigDump).get kind = kind.empty := by
  cases kind <;> rfl

theorem ext_get (h : ∀ kind, dump.get kind = dump'.get kind) : dump = dump' := by
  cases dump
  cases dump'
  rw [ConfigDump.mk.injEq]
  exact ⟨h .bootstrap, h .clusters, h .listeners, h .routes, h .secrets, h .endpoints⟩

theorem readSection_eq (entry : Value) :
    readSection kind entry dump = (kind.decode entry).map (dump.set kind) := by
  cases kind <;> rfl

/-! ## One entry -/

variable {entry : Value}

theorem addEntry_of_not_hasKind (h : ∀ kind, ¬ HasKind kind entry) :
    addEntry dump entry = .ok dump := by
  have hnone : SectionKind.ofEntry? entry = none :=
    Option.eq_none_iff_forall_ne_some.mpr fun kind hkind =>
      h kind (SectionKind.hasKind_iff.mpr hkind)
  rw [addEntry, hnone]

theorem addEntry_of_decode {s : kind.Section} (h : HasKind kind entry)
    (hs : kind.decode entry = some s) : addEntry dump entry = .ok (dump.set kind s) := by
  rw [addEntry, SectionKind.hasKind_iff.mp h]
  simp only [readSection_eq, hs, Option.map_some]

/-- What is reported of an entry that does not decode. -/
def undecodable (kind : SectionKind) : Failure :=
  ⟨["Failed to parse " ++ kind.name ++ " section"], .malformedJson⟩

theorem addEntry_of_undecodable (h : HasKind kind entry) (hnone : kind.decode entry = none) :
    addEntry dump entry = .error (undecodable kind) := by
  rw [addEntry, SectionKind.hasKind_iff.mp h]
  simp only [readSection_eq, hnone, Option.map_none, undecodable]

/-! ## Lists of entries -/

/-- Every entry of a kind that is read denotes a section of that kind. -/
def AllDecode (entries : List Value) : Prop :=
  ∀ entry ∈ entries, ∀ kind, HasKind kind entry → (kind.decode entry).isSome

instance (entries : List Value) : Decidable (AllDecode entries) :=
  inferInstanceAs (Decidable (∀ entry ∈ entries, ∀ kind, HasKind kind entry → _))

variable {entries : List Value}

theorem ofEntries_concat (entries : List Value) (entry : Value) :
    ofEntries (entries ++ [entry]) = (ofEntries entries).bind (addEntry · entry) := by
  rw [ofEntries, List.foldlM_append]
  exact congrArg _ (funext fun dump => List.foldlM_cons.trans (bind_pure _))

theorem latest?_concat_of_hasKind (h : HasKind kind entry) :
    kind.latest? (entries ++ [entry]) = kind.decode entry := by
  simp [SectionKind.latest?, List.filter_append, h]

theorem latest?_concat_of_not_hasKind (h : ¬ HasKind kind entry) :
    kind.latest? (entries ++ [entry]) = kind.latest? entries := by
  simp [SectionKind.latest?, List.filter_append, h]

theorem AllDecode.of_concat (h : AllDecode (entries ++ [entry])) :
    AllDecode entries ∧ ∀ kind, HasKind kind entry → (kind.decode entry).isSome := by
  rw [AllDecode, List.forall_mem_append, List.forall_mem_singleton] at h
  exact h

/-- **If every entry of a kind decodes, each section is the one that the last entry of its kind
denotes**, or the empty one. -/
theorem ofEntries_of_allDecode (h : AllDecode entries) :
    ∃ dump, ofEntries entries = .ok dump ∧ ∀ kind, kind.latest? entries = some (dump.get kind) := by
  -- The entries are taken from the left, so the induction is on the entry that is taken last.
  induction entries using List.reverseRecOn with
  | nil => exact ⟨{}, rfl, fun kind => by rw [get_empty]; rfl⟩
  | append_singleton entries entry ih =>
    obtain ⟨hentries, hentry⟩ := h.of_concat
    obtain ⟨dump, hdump, hlatest⟩ := ih hentries
    rw [ofEntries_concat, hdump]
    by_cases hkind : ∃ kind, HasKind kind entry
    · obtain ⟨kind, hkind⟩ := hkind
      obtain ⟨s, hs⟩ := Option.isSome_iff_exists.mp (hentry kind hkind)
      refine ⟨dump.set kind s, addEntry_of_decode hkind hs, fun kind' => ?_⟩
      by_cases hne : kind = kind'
      · subst hne
        rw [latest?_concat_of_hasKind hkind, hs, get_set_self]
      · rw [latest?_concat_of_not_hasKind fun hkind' => hne (hkind.unique hkind'),
          get_set_of_ne hne, hlatest]
    · rw [not_exists] at hkind
      refine ⟨dump, addEntry_of_not_hasKind hkind, fun kind' => ?_⟩
      rw [latest?_concat_of_not_hasKind (hkind kind'), hlatest]

/-- **The first entry of a kind that does not decode is the one reported.** -/
theorem ofEntries_of_undecodable {front : List Value} (hfront : AllDecode front)
    (hkind : HasKind kind entry) (hnone : kind.decode entry = none) (back : List Value) :
    ofEntries (front ++ entry :: back) = .error (undecodable kind) := by
  obtain ⟨dump, hdump, -⟩ := ofEntries_of_allDecode hfront
  rw [ofEntries] at hdump
  rw [ofEntries, List.foldlM_append, hdump]
  exact (List.foldlM_cons (b := dump)).trans
    (congrArg (· >>= fun dump => back.foldlM addEntry dump) (addEntry_of_undecodable hkind hnone))

/-- Either every entry decodes or one is the first that does not. -/
theorem allDecode_or_undecodable (entries : List Value) :
    AllDecode entries ∨ ∃ front entry back kind, entries = front ++ entry :: back ∧
      AllDecode front ∧ HasKind kind entry ∧ kind.decode entry = none := by
  induction entries using List.reverseRecOn with
  | nil => exact .inl fun _ h => nomatch h
  | append_singleton entries entry ih =>
    rcases ih with hentries | ⟨front, first, back, kind, rfl, hfirst⟩
    · by_cases hentry : ∃ kind, HasKind kind entry ∧ kind.decode entry = none
      · obtain ⟨kind, hkind⟩ := hentry
        exact .inr ⟨entries, entry, [], kind, rfl, hentries, hkind⟩
      · refine .inl ?_
        rw [AllDecode, List.forall_mem_append, List.forall_mem_singleton]
        refine ⟨hentries, fun kind hkind => ?_⟩
        rw [Option.isSome_iff_ne_none]
        exact fun hnone => hentry ⟨kind, hkind, hnone⟩
    · exact .inr ⟨front, first, back ++ [entry], kind, by simp, hfirst⟩

theorem exists_ofEntries_eq_ok_iff :
    (∃ dump, ofEntries entries = .ok dump) ↔ AllDecode entries := by
  constructor
  · rintro ⟨dump, hdump⟩
    obtain hall | ⟨front, entry, back, kind, rfl, hfront, hkind, hnone⟩ :=
      allDecode_or_undecodable entries
    · exact hall
    · rw [ofEntries_of_undecodable hfront hkind hnone] at hdump
      cases hdump
  · intro h
    obtain ⟨dump, hdump, -⟩ := ofEntries_of_allDecode h
    exact ⟨dump, hdump⟩

theorem latest?_of_ofEntries (h : ofEntries entries = .ok dump) (kind : SectionKind) :
    kind.latest? entries = some (dump.get kind) := by
  have hall := exists_ofEntries_eq_ok_iff.mp ⟨dump, h⟩
  obtain ⟨dump', hdump', hlatest⟩ := ofEntries_of_allDecode hall
  obtain rfl : dump' = dump := Except.ok.inj (hdump'.symm.trans h)
  exact hlatest kind

/-! ## Entries that do not matter -/

/-- **Entries of no kind that is read do not matter**, wherever they stand. -/
theorem ofEntries_of_inserts {extra entries' : List Value} (h : Inserts extra entries entries')
    (hextra : ∀ entry ∈ extra, ∀ kind, ¬ HasKind kind entry) :
    ofEntries entries' = ofEntries entries := by
  suffices hfold : ∀ dump, entries'.foldlM addEntry dump = entries.foldlM addEntry dump from
    hfold {}
  induction h with
  | nil => exact fun _ => rfl
  | keep entry _ ih =>
    intro dump
    rw [List.foldlM_cons, List.foldlM_cons]
    exact congrArg _ (funext (ih hextra))
  | insert entry _ ih =>
    intro dump
    rw [List.forall_mem_cons] at hextra
    rw [List.foldlM_cons, addEntry_of_not_hasKind hextra.1]
    exact ih hextra.2 dump

/-- **The order of entries of different kinds does not matter**, if all of them decode. -/
theorem ofEntries_of_filter_eq {entries' : List Value}
    (h : ∀ kind, entries'.filter (HasKind kind ·) = entries.filter (HasKind kind ·))
    (hdump : ofEntries entries = .ok dump) : ofEntries entries' = .ok dump := by
  have hall : AllDecode entries' := by
    intro entry hentry kind hkind
    have hmem : entry ∈ entries'.filter (HasKind kind ·) :=
      List.mem_filter.mpr ⟨hentry, decide_eq_true hkind⟩
    rw [h kind] at hmem
    exact exists_ofEntries_eq_ok_iff.mp ⟨dump, hdump⟩ entry (List.mem_filter.mp hmem).1 kind hkind
  obtain ⟨dump', hdump', hlatest⟩ := ofEntries_of_allDecode hall
  have hsame : dump' = dump := by
    refine ext_get fun kind => Option.some.inj ?_
    rw [← hlatest kind, ← latest?_of_ofEntries hdump kind, SectionKind.latest?,
      SectionKind.latest?, h kind]
  rw [hdump', hsame]

end ConfigDump

end MeshDoctor.Envoy
