import MeshDoctor.Proofs.Cluster.Selectors
import MeshDoctor.Proofs.Cluster.Typed
import MeshDoctor.Proofs.Inquiry.Faults
import MeshDoctor.Proofs.List.Insertion
import MeshDoctor.Proofs.Resource.Namespace

/-!
# Clusters — objects that a request does not reach

* `Request.Reaches`: can a request be answered with an object, by its kind and namespace?
* `Snapshot.world_eq_under`: the requests that a snapshot makes fail are faults of its answers.
* `Snapshot.withObjects`: the snapshot with other objects and all else the same.
* **`Snapshot.world_withObjects`**: objects that a request does not reach leave its answer as it is,
  wherever they stand.
* `Snapshot.finds_listAs_of_withObjects`: what a list gains by further objects.
* `Snapshot.mem_list`, `Snapshot.of_get`: what is listed and what is found by name.
* `Snapshot.objectsIn`, `Snapshot.readIn`, `Snapshot.HasReadable`: what lies in a namespace, and what
  is found there.
* `Snapshot.namespace_of_getPod`, `Snapshot.namespace_of_list`: what is found is in the namespace
  that it is looked up in.
-/

namespace MeshDoctor

open Json

/-- Can the request be answered with this object? Only its kind and its namespace count. -/
def Request.Reaches : Request → String × Value → Prop
  | .get kind ns _, o => o.1 = kind ∧ objectNamespace? o.2 = ns
  | .list kind q, o => o.1 = kind ∧ inNamespace q.namespace o.2
  | _, _ => False

namespace Snapshot

variable {c : Snapshot}

/-- The snapshot with other objects. -/
def withObjects (c : Snapshot) (objects : List (String × Value)) : Snapshot := { c with objects }

/-! ## Answers -/

/-- The failures that a snapshot is told to give. -/
def faults (c : Snapshot) : Faults where
  failure? r := (c.failureOf r).map Failure.say
  genuine := by
    intro r f hf
    obtain ⟨message, -, rfl⟩ := Option.map_eq_some_iff.mp hf
    rfl

theorem world_eq_under (c : Snapshot) : c.world = c.answer.under c.faults := by
  funext r
  have hfault : c.faults.failure? r = (c.failureOf r).map Failure.say := rfl
  cases h : c.failureOf r with
  | none =>
    rw [h, Option.map_none] at hfault
    rw [World.under_of_none hfault, world, h]
  | some message =>
    rw [h, Option.map_some] at hfault
    rw [World.under_of_some hfault, world, h]

theorem world_eq_ok {r : Request} {a : r.Answer} (h : c.world r = .ok a) : c.answer r = .ok a := by
  rw [world] at h
  cases hfailure : c.failureOf r with
  | none => rwa [hfailure] at h
  | some message => simp [hfailure] at h

theorem failureOf_of_failures (hc : c.failures = []) (r : Request) : c.failureOf r = none := by
  rw [failureOf, List.findSome?_eq_none_iff, hc]
  exact fun _ _ => rfl

/-- Without failures that are told to it, a snapshot answers from its objects and texts. -/
theorem world_of_failures (hc : c.failures = []) (r : Request) : c.world r = c.answer r := by
  rw [world, failureOf_of_failures hc]

/-! ## Further objects -/

variable {extra objects : List (String × Value)}

theorem inserts_ofKind (h : Inserts extra c.objects objects) (kind : String) :
    Inserts ((extra.filter (·.1 = kind)).map (·.2)) (c.ofKind kind)
      ((c.withObjects objects).ofKind kind) :=
  (h.filter _).map _

/-- A choice among the objects of a kind does not see objects that it leaves out. -/
theorem filter_ofKind (h : Inserts extra c.objects objects) {kind : String} {p : Value → Bool}
    (hp : ∀ o ∈ extra, o.1 = kind → p o.2 = false) :
    ((c.withObjects objects).ofKind kind).filter p = (c.ofKind kind).filter p := by
  refine (inserts_ofKind h kind).filter_eq fun v hv => ?_
  obtain ⟨o, ho, rfl⟩ := List.mem_map.mp hv
  obtain ⟨hmem, hkind⟩ := List.mem_filter.mp ho
  exact hp o hmem (of_decide_eq_true hkind)

theorem get_withObjects (h : Inserts extra c.objects objects) {kind : String} {ns : Option String}
    {name : String} (hr : ∀ o ∈ extra, ¬ (Request.get kind ns name).Reaches o) :
    (c.withObjects objects).get kind ns name = c.get kind ns name := by
  have hmatch : ∀ o ∈ extra, o.1 = kind →
      decide (objectName? o.2 = some name ∧ objectNamespace? o.2 = ns) = false := by
    intro o ho hkind
    rw [decide_eq_false_iff_not]
    exact fun hmatches => hr o ho ⟨hkind, hmatches.2⟩
  -- The first match is the head of all matches.
  simp only [get, ← Bool.decide_and, ← List.head?_filter]
  rw [filter_ofKind h hmatch]

theorem list_withObjects (h : Inserts extra c.objects objects) {kind : String} {q : ListQuery}
    (hr : ∀ o ∈ extra, ¬ (Request.list kind q).Reaches o) :
    (c.withObjects objects).list kind q = c.list kind q := by
  refine filter_ofKind h fun o ho hkind => ?_
  have hns : inNamespace q.namespace o.2 = false :=
    Bool.eq_false_iff.mpr fun hns => hr o ho ⟨hkind, hns⟩
  rw [hns, Bool.false_and, Bool.false_and]

/-- **Objects that a request does not reach leave its answer as it is**, wherever they stand. -/
theorem world_withObjects (h : Inserts extra c.objects objects) {r : Request}
    (hr : ∀ o ∈ extra, ¬ r.Reaches o) : (c.withObjects objects).world r = c.world r := by
  have hanswer : (c.withObjects objects).answer r = c.answer r := by
    cases r with
    | get kind ns name => exact get_withObjects h hr
    | list kind q => exact congrArg Except.ok (list_withObjects h hr)
    | _ => rfl
  rw [world, world, hanswer]
  rfl

/-- What is found depends on the objects that its requests reach. -/
theorem finds_withObjects {α ε : Type} {x : ExceptT ε Inquiry α}
    (h : Inserts extra c.objects objects)
    (hx : ∀ r ∈ c.world.asks x, ∀ o ∈ extra, ¬ r.Reaches o) :
    (c.withObjects objects).world.finds x = c.world.finds x :=
  World.finds_congr fun r hr => world_withObjects h (hx r hr)

/-! ## Further objects in a list -/

section Lists

variable {α : Type} {d : Decoder α} {kind : Kind} {q : ListQuery}

/-- A list gains the further objects that it reaches. -/
theorem exists_inserts_list (h : Inserts extra c.objects objects) (kind : String)
    (q : ListQuery) :
    ∃ more, Inserts more (c.list kind q) ((c.withObjects objects).list kind q) ∧
      ∀ v ∈ more, ∃ o ∈ extra, (Request.list kind q).Reaches o ∧ o.2 = v := by
  refine ⟨_, (inserts_ofKind h kind).filter _, fun v hv => ?_⟩
  obtain ⟨hv, hmeets⟩ := List.mem_filter.mp hv
  obtain ⟨o, ho, rfl⟩ := List.mem_map.mp hv
  obtain ⟨hmem, hkind⟩ := List.mem_filter.mp ho
  simp only [Bool.and_eq_true] at hmeets
  exact ⟨o, hmem, ⟨of_decide_eq_true hkind, hmeets.1.1⟩, rfl⟩

theorem finds_listAs_eq_ok_iff {as : List α} :
    c.world.finds (listAs d kind q) = .ok as ↔
      c.failureOf (.list kind.name q) = none ∧
        (c.list kind.name q).mapM (decodeAs d kind.name) = .ok as := by
  rw [finds_listAs, world]
  cases hserved : c.failureOf (.list kind.name q) with
  | some message => exact iff_of_false (fun h => nomatch h) (fun h => nomatch h.1)
  | none => exact (and_iff_right rfl).symm

/-- What a snapshot with further objects lists without failure, it lists without them, and the rest
comes from further objects that the request reaches. -/
theorem finds_listAs_of_withObjects (h : Inserts extra c.objects objects) {as' : List α}
    (hfound : (c.withObjects objects).world.finds (listAs d kind q) = .ok as') :
    ∃ more as, c.world.finds (listAs d kind q) = .ok as ∧ Inserts more as as' ∧
      ∀ a ∈ more, ∃ o ∈ extra, (Request.list kind.name q).Reaches o ∧ d o.2 = some a := by
  obtain ⟨hserved, hlisted⟩ := finds_listAs_eq_ok_iff.mp hfound
  obtain ⟨vs, hvs, hfrom⟩ := exists_inserts_list h kind.name q
  obtain ⟨more, as, hmore, has, hinserts⟩ := hvs.mapM hlisted
  refine ⟨more, as, finds_listAs_eq_ok_iff.mpr ⟨hserved, has⟩, hinserts, fun a ha => ?_⟩
  obtain ⟨v, hv, hdecode⟩ := exists_of_mem_mapM hmore ha
  obtain ⟨o, ho, hreaches, rfl⟩ := hfrom v hv
  exact ⟨o, ho, hreaches, (decodeAs_eq_ok d).mp hdecode⟩

/-- Further objects that decode do not make a list fail. -/
theorem exists_finds_listAs_withObjects (h : Inserts extra c.objects objects) {as : List α}
    (hfound : c.world.finds (listAs d kind q) = .ok as)
    (hdecodes : ∀ o ∈ extra, (Request.list kind.name q).Reaches o → ∃ a, d o.2 = some a) :
    ∃ as', (c.withObjects objects).world.finds (listAs d kind q) = .ok as' := by
  obtain ⟨hserved, hlisted⟩ := finds_listAs_eq_ok_iff.mp hfound
  obtain ⟨vs, hvs, hfrom⟩ := exists_inserts_list h kind.name q
  have hall : ∀ v ∈ (c.withObjects objects).list kind.name q,
      ∃ a, decodeAs d kind.name v = .ok a := by
    intro v hv
    rcases hvs.mem_iff.mp hv with hv | hv
    · obtain ⟨o, ho, hreaches, rfl⟩ := hfrom v hv
      obtain ⟨a, ha⟩ := hdecodes o ho hreaches
      exact ⟨a, (decodeAs_eq_ok d).mpr ha⟩
    · exact exists_mapM_eq_ok_iff.mp ⟨as, hlisted⟩ v hv
  obtain ⟨as', has'⟩ := exists_mapM_eq_ok_iff.mpr hall
  exact ⟨as', finds_listAs_eq_ok_iff.mpr ⟨hserved, has'⟩⟩

end Lists

/-! ## What is found -/

theorem mem_list {kind : String} {q : ListQuery} {v : Value} :
    v ∈ c.list kind q ↔ v ∈ c.ofKind kind ∧ inNamespace q.namespace v ∧
      matchesLabels q.labels v ∧ matchesFields q.fields v := by
  rw [list, List.mem_filter, Bool.and_eq_true, Bool.and_eq_true, and_assoc]

/-- The objects of a kind that lie in a namespace, in order. -/
def objectsIn (c : Snapshot) (kind ns : String) : List Value :=
  (c.ofKind kind).filter (objectNamespace? · = some ns)

theorem mem_objectsIn {kind ns : String} {v : Value} :
    v ∈ c.objectsIn kind ns ↔ v ∈ c.ofKind kind ∧ objectNamespace? v = some ns := by
  rw [objectsIn, List.mem_filter, decide_eq_true_eq]

theorem list_inNamespace (c : Snapshot) (kind ns : String) :
    c.list kind (.inNamespace ns) = c.objectsIn kind ns := by
  simp [list, objectsIn, ListQuery.inNamespace, inNamespace, matchesLabels, matchesFields]

theorem list_withFields (c : Snapshot) (kind ns selector : String) :
    c.list kind ((ListQuery.inNamespace ns).withFields selector) =
      (c.objectsIn kind ns).filter (matchesFields (some selector)) := by
  rw [objectsIn, List.filter_filter]
  refine List.filter_congr fun v _ => ?_
  simp [ListQuery.inNamespace, ListQuery.withFields, inNamespace, matchesLabels, Bool.and_comm]

theorem list_withLabels (c : Snapshot) (kind ns selector : String) :
    c.list kind ((ListQuery.inNamespace ns).withLabels selector) =
      (c.objectsIn kind ns).filter (matchesLabels (some selector)) := by
  rw [objectsIn, List.filter_filter]
  refine List.filter_congr fun v _ => ?_
  simp [ListQuery.inNamespace, ListQuery.withLabels, inNamespace, matchesFields, Bool.and_comm]

/-- A list that is served and decodes is found. -/
theorem finds_listAs_of_decodes {α : Type} {d : Decoder α} {kind : Kind} {q : ListQuery}
    (hserved : c.failureOf (.list kind.name q) = none)
    (hdecodes : ∀ v ∈ c.list kind.name q, (d v).isSome) :
    c.world.finds (listAs d kind q) = .ok ((c.list kind.name q).filterMap d) :=
  finds_listAs_eq_ok_iff.mpr ⟨hserved, (mapM_decodeAs_eq_ok_iff d).mpr ⟨hdecodes, rfl⟩⟩

/-- The resources of a kind in a namespace, in order. -/
def readIn {α : Type} (c : Snapshot) (d : Decoder α) (kind : Kind) (ns : String) : List α :=
  (c.objectsIn kind.name ns).filterMap d

/-- The objects of a kind in a namespace are listed, and all of them decode. -/
structure HasReadable {α : Type} (c : Snapshot) (d : Decoder α) (kind : Kind) (ns : String) :
    Prop where
  served : c.failureOf (.list kind.name (.inNamespace ns)) = none
  decodes : ∀ v ∈ c.objectsIn kind.name ns, (d v).isSome

theorem HasReadable.finds {α : Type} {d : Decoder α} {kind : Kind} {ns : String}
    (h : c.HasReadable d kind ns) :
    c.world.finds (listAs d kind (.inNamespace ns)) = .ok (c.readIn d kind ns) := by
  rw [readIn, ← list_inNamespace]
  refine finds_listAs_of_decodes h.served ?_
  rw [list_inNamespace]
  exact h.decodes

theorem of_get {kind name : String} {ns : Option String} {v : Value}
    (h : c.world (.get kind ns name) = .ok v) :
    v ∈ c.ofKind kind ∧ objectName? v = some name ∧ objectNamespace? v = ns := by
  have hget : c.get kind ns name = .ok v := world_eq_ok h
  rw [get] at hget
  split at hget
  next object hfound =>
    obtain rfl : object = v := Except.ok.inj hget
    have hmatch := List.find?_some hfound
    simp only [Bool.and_eq_true, decide_eq_true_eq] at hmatch
    exact ⟨List.mem_of_find?_eq_some hfound, hmatch⟩
  next => cases hget

theorem namespace_of_list {kind ns : String} {vs : List Value}
    (h : c.world (.list kind (.inNamespace ns)) = .ok vs) :
    ∀ v ∈ vs, objectNamespace? v = some ns := by
  intro v hv
  have hlist : c.list kind (.inNamespace ns) = vs := Except.ok.inj (world_eq_ok h)
  rw [← hlist, list_inNamespace] at hv
  exact (mem_objectsIn.mp hv).2

theorem namespace_of_getPod {ref : PodRef} {pod : Pod}
    (h : c.world.finds (getPod ref) = .ok pod) : pod.ref.namespace = ref.namespace := by
  rw [getPod, World.finds_within, addContext_eq_ok] at h
  obtain ⟨v, hv, hdecode⟩ := finds_getAs_eq_ok h
  rw [Pod.ref, Pod.namespace_of_decode hdecode, (of_get hv).2.2, Option.getD_some]

end Snapshot

end MeshDoctor
