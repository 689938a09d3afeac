import Mathlib.Data.List.Find
import Mathlib.Data.List.Pairwise
import MeshDoctor.Proofs.Catalogue.Order
import MeshDoctor.Proofs.Suite.Faults

/-!
# Suites — the order of the objects of a cluster

* `SameIdentity`: two objects have kind, namespace and name in common.
* `Snapshot.controllerReleases`: the release lines that the pods of the controller tell.
* `Snapshot.sameUpToOrder_withObjects`: the same objects in another order give the same answers, up
  to the order of lists.
* **`Suite.statuses_of_permutation`**: the verdict of each check does not depend on the order.
-/

namespace MeshDoctor

open Json Envoy

/-- Do two objects have kind, namespace and name in common? Objects without a name do not. -/
def SameIdentity (o o' : String × Value) : Prop :=
  o.1 = o'.1 ∧ objectNamespace? o.2 = objectNamespace? o'.2 ∧
    objectName? o.2 = objectName? o'.2 ∧ (objectName? o.2).isSome

instance (o o' : String × Value) : Decidable (SameIdentity o o') :=
  inferInstanceAs (Decidable (_ ∧ _))

theorem SameIdentity.symm {o o' : String × Value} (h : SameIdentity o o') : SameIdentity o' o := by
  obtain ⟨hkind, hns, hname, hsome⟩ := h
  exact ⟨hkind.symm, hns.symm, hname.symm, hname ▸ hsome⟩

namespace Snapshot

/-- No two objects of one kind have namespace and name in common. -/
def HasDistinctObjects (c : Snapshot) : Prop :=
  c.objects.Pairwise fun o o' => ¬ SameIdentity o o'

instance (c : Snapshot) : Decidable c.HasDistinctObjects :=
  inferInstanceAs (Decidable (List.Pairwise _ _))

/-- The release lines that the pods of the controller tell. -/
def controllerReleases (c : Snapshot) (mesh : Mesh) : List ReleaseLine :=
  ((c.list Kind.pods.name
    ((ListQuery.inNamespace mesh.namespace).withLabels mesh.controllerSelector)).filterMap
      Pod.decode).filterMap ReleaseLine.ofPod?

/-- The pods of the controller tell one release line at most. -/
def HasOneVersion (c : Snapshot) (mesh : Mesh) : Prop :=
  ∀ release ∈ c.controllerReleases mesh, ∀ release' ∈ c.controllerReleases mesh, release = release'

instance (c : Snapshot) (mesh : Mesh) : Decidable (c.HasOneVersion mesh) :=
  inferInstanceAs (Decidable (∀ release ∈ _, _))

/-! ## Answers -/

section Answers

variable {c : Snapshot} {objects : List (String × Value)}

theorem HasDistinctObjects.eq_of_sameIdentity (hdistinct : c.HasDistinctObjects)
    {o o' : String × Value} (ho : o ∈ c.objects) (ho' : o' ∈ c.objects)
    (hsame : SameIdentity o o') : o = o' := by
  have hsymm : Std.Symm fun o o' : String × Value => ¬ SameIdentity o o' :=
    ⟨fun _ _ hnot hsame => hnot hsame.symm⟩
  by_contra hne
  exact hdistinct.forall ho ho' hne hsame

theorem mem_ofKind {kind : String} {v : Value} : v ∈ c.ofKind kind ↔ (kind, v) ∈ c.objects := by
  simp [ofKind]

theorem perm_ofKind (hperm : c.objects.Perm objects) (kind : String) :
    (c.ofKind kind).Perm ((c.withObjects objects).ofKind kind) :=
  (hperm.filter _).map _

theorem perm_list (hperm : c.objects.Perm objects) (kind : String) (q : ListQuery) :
    (c.list kind q).Perm ((c.withObjects objects).list kind q) :=
  (perm_ofKind hperm kind).filter _

/-- With distinct objects there is one candidate at most, so it does not matter where it stands. -/
theorem get_of_perm (hperm : c.objects.Perm objects) (hdistinct : c.HasDistinctObjects)
    (kind : String) (ns : Option String) (name : String) :
    (c.withObjects objects).get kind ns name = c.get kind ns name := by
  have hfind : (c.ofKind kind).find? (fun o => objectName? o = some name && objectNamespace? o = ns)
      = ((c.withObjects objects).ofKind kind).find?
        (fun o => objectName? o = some name && objectNamespace? o = ns) := by
    refine List.find?_eq_find?_of_perm (perm_ofKind hperm kind) ?_
    rintro v ⟨hv, hmatch⟩ v' ⟨hv', hmatch'⟩
    simp only [Bool.and_eq_true, decide_eq_true_eq] at hmatch hmatch'
    have hsame : SameIdentity (kind, v) (kind, v') :=
      ⟨rfl, hmatch.2.trans hmatch'.2.symm, hmatch.1.trans hmatch'.1.symm, by rw [hmatch.1]; rfl⟩
    have heq := hdistinct.eq_of_sameIdentity (mem_ofKind.mp hv) (mem_ofKind.mp hv') hsame
    exact congrArg Prod.snd heq
  rw [get, get, hfind]

/-- The same objects in another order give the same answers, up to the order of lists. -/
theorem sameUpToOrder_withObjects (hperm : c.objects.Perm objects)
    (hdistinct : c.HasDistinctObjects) :
    c.world.SameUpToOrder (c.withObjects objects).world := by
  rw [world_eq_under, world_eq_under]
  refine World.SameUpToOrder.under ?_ c.faults
  refine ⟨fun kind q => .ok (perm_list hperm kind q), fun {r} hr => ?_⟩
  cases r with
  | get kind ns name => exact get_of_perm hperm hdistinct kind ns name
  | list kind q => exact absurd rfl (hr kind q)
  | _ => rfl

theorem HasOneVersion.under {mesh : Mesh} (hone : c.HasOneVersion mesh) (F : Faults) :
    (c.world.under F).HasOneVersion mesh := by
  intro pods hpods
  obtain ⟨vs, hvs, hdecode⟩ := finds_listAs_eq_ok hpods
  have hlist : c.list Kind.pods.name
      ((ListQuery.inNamespace mesh.namespace).withLabels mesh.controllerSelector) = vs := by
    cases hfault : F.failure? (.list Kind.pods.name
        ((ListQuery.inNamespace mesh.namespace).withLabels mesh.controllerSelector)) with
    | some f =>
      rw [World.under_of_some hfault] at hvs
      cases hvs
    | none =>
      rw [World.under_of_none hfault] at hvs
      exact Except.ok.inj (world_eq_ok hvs)
  have hreleases : ∀ pod ∈ pods, ∀ release, ReleaseLine.ofPod? pod = some release →
      release ∈ c.controllerReleases mesh := by
    intro pod hpod release hrelease
    obtain ⟨v, hv, hfrom⟩ := exists_of_mem_mapM hdecode hpod
    rw [decodeAs_eq_ok] at hfrom
    rw [controllerReleases, hlist]
    exact List.mem_filterMap.mpr ⟨pod, List.mem_filterMap.mpr ⟨v, hv, hfrom⟩, hrelease⟩
  intro pod hpod pod' hpod' release release' hrelease hrelease'
  exact hone release (hreleases pod hpod release hrelease) release'
    (hreleases pod' hpod' release' hrelease')

end Answers

end Snapshot

/-! ## Suites -/

namespace Suite

theorem versionOf?_under (F : Faults) (d : Diagnostic) : (d.under F).versionOf? = d.versionOf? := by
  cases d <;> rfl

/-- The checks of a suite depend on the release line of its own mesh only. -/
theorem versionOf?_of_mem {s : Suite} {source destination : PodRef} {url : String}
    {sourceGetter destinationGetter : Option Getter} {ds : List Diagnostic}
    (hds : ds ∈ [s.podToPod source destination sourceGetter destinationGetter,
      s.podToUrl source url sourceGetter, s.ingressToPod destination destinationGetter,
      s.controlPlane, s.validate]) :
    ∀ d ∈ ds, ∀ mesh ∈ d.versionOf?, mesh = s.mesh := by
  simp only [List.mem_cons, List.not_mem_nil, or_false] at hds
  rcases hds with rfl | rfl | rfl | rfl | rfl
  · simp [podToPod, podChecks, namespaceChecks, Diagnostic.versionOf?]
  · simp [podToUrl, Diagnostic.versionOf?]
  · simp [ingressToPod, Diagnostic.versionOf?]
  · intro d hd
    rw [controlPlane, List.mem_append, List.mem_map] at hd
    rcases hd with ⟨component, -, rfl⟩ | hd
    · simp [Diagnostic.versionOf?]
    · revert d
      simp [Diagnostic.versionOf?]
  · simp [validate, Diagnostic.versionOf?]

section Permutation

variable {c : Snapshot} {objects : List (String × Value)} (hperm : c.objects.Perm objects)
  (hdistinct : c.HasDistinctObjects)
include hperm hdistinct

theorem alike_of_permutation (F : Faults) {d : Diagnostic}
    (hone : ∀ mesh ∈ d.versionOf?, c.HasOneVersion mesh) :
    Alike SameStatus ((c.world.under F).finds (d.under F).evaluate)
      (((c.withObjects objects).world.under F).finds (d.under F).evaluate) := by
  have hworlds := (Snapshot.sameUpToOrder_withObjects hperm hdistinct).under F
  refine Diagnostic.alike_evaluate hworlds fun mesh hmesh => ?_
  rw [versionOf?_under] at hmesh
  exact (hone mesh hmesh).under F

/-- **The verdict of a check does not depend on the order in which a cluster lists its objects**,
if no two objects of a kind have one name in a namespace and the pods of the controller tell one
release line. So it is under faults, and for the records of each suite. -/
theorem statuses_of_permutation (s : Suite) (hone : c.HasOneVersion s.mesh)
    (source destination : PodRef) (url : String) (sourceGetter destinationGetter : Option Getter)
    (F : Faults) :
    ∀ ds ∈ [s.podToPod source destination sourceGetter destinationGetter,
        s.podToUrl source url sourceGetter, s.ingressToPod destination destinationGetter,
        s.controlPlane, s.validate],
      (∀ d ∈ ds,
        ((d.under F).outcome? ((c.withObjects objects).world.under F)).map Outcome.status =
          ((d.under F).outcome? (c.world.under F)).map Outcome.status) ∧
      ((s.records (ds.map (·.under F))).run ((c.withObjects objects).world.under F)).map
          (·.status) =
        ((s.records (ds.map (·.under F))).run (c.world.under F)).map (·.status) := by
  intro ds hds
  have hstatus : ∀ d ∈ ds,
      (Outcome.ofResult (((c.withObjects objects).world.under F).finds (d.under F).evaluate)).status
        = (Outcome.ofResult ((c.world.under F).finds (d.under F).evaluate)).status := by
    intro d hd
    have hmesh : ∀ mesh ∈ d.versionOf?, c.HasOneVersion mesh := by
      intro mesh hmesh
      rw [versionOf?_of_mem hds d hd mesh hmesh]
      exact hone
    exact (alike_of_permutation hperm hdistinct F hmesh).status_ofResult.symm
  refine ⟨fun d hd => ?_, ?_⟩
  · rw [Diagnostic.outcome?_eq, Diagnostic.outcome?_eq, Option.map_some, Option.map_some,
      hstatus d hd]
  · rw [run_records, run_records, List.map_map, List.map_map, List.map_map, List.map_map]
    refine List.map_congr_left fun d hd => ?_
    simp only [Function.comp_apply, recordIn_guarded]
    -- A check that is skipped is so in every order.
    cases s.ledger.firstMissing? [toolName, clusterName] with
    | some missing => rfl
    | none => exact hstatus d hd

end Permutation

/-! ## A bookstore in two orders -/

/-- The bookstore with a second pod of the controller, whose image tells the release line. -/
def busyBookstore : Snapshot :=
  bookstore.withObjects <| bookstore.objects ++
    [(Kind.pods.name, .object
      [("metadata", .object
          [("labels", .object [("app", .string "osm-controller")]),
            ("name", .string "osm-controller-2"), ("namespace", .string "osm-system")]),
        ("spec", .object [("containers", .array
          [.object [("image", .string "openservicemesh/osm-controller:v0.11.0"),
            ("name", .string "osm-controller")]])])])]

/-- The suite of the mesh of the bookstore. -/
def bookstoreSuite : Suite := ⟨bookstoreMesh, [], {}⟩

/-- No services can be listed. -/
def unlistedServices : Faults where
  failure? r := if r = .list Kind.services.name (.inNamespace "stock") then some (.say "timeout")
    else none
  genuine := by
    intro r f h
    split at h
    · obtain rfl := Option.some.inj h
      rfl
    · cases h

/-- The bookstore is judged alike from its last object to its first. -/
theorem statuses_of_permutation_bookstore :
    busyBookstore.objects.Perm busyBookstore.objects.reverse ∧
      busyBookstore.HasDistinctObjects ∧ busyBookstore.HasOneVersion bookstoreSuite.mesh ∧
      ((bookstoreSuite.records ((bookstoreSuite.podToPod ⟨"shop", "buyer"⟩ ⟨"stock", "store"⟩ none
          none).map (·.under unlistedServices))).run
        ((busyBookstore.withObjects busyBookstore.objects.reverse).world.under
          unlistedServices)).map (·.status) =
      ((bookstoreSuite.records ((bookstoreSuite.podToPod ⟨"shop", "buyer"⟩ ⟨"stock", "store"⟩ none
          none).map (·.under unlistedServices))).run
        (busyBookstore.world.under unlistedServices)).map (·.status) := by
  have hperm : busyBookstore.objects.Perm busyBookstore.objects.reverse :=
    (List.reverse_perm _).symm
  have hdistinct : busyBookstore.HasDistinctObjects := by decide +kernel
  have hone : busyBookstore.HasOneVersion bookstoreSuite.mesh := by decide +kernel
  exact ⟨hperm, hdistinct, hone, (statuses_of_permutation hperm hdistinct bookstoreSuite hone
    ⟨"shop", "buyer"⟩ ⟨"stock", "store"⟩ "http://example.com/" none none unlistedServices _
    List.mem_cons_self).2⟩

end Suite

end MeshDoctor
