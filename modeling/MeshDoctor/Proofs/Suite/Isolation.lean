import MeshDoctor.Proofs.Catalogue.Scope
import MeshDoctor.Proofs.Suite.Records

/-!
# Suites — other namespaces

* `IsForeign`: the object is in a namespace, and not in one of the given ones.
* `Diagnostic.finds_withObjects`, `Suite.records_withObjects`: foreign objects change neither what a
  check finds nor the records of a suite that is about the given namespaces only.
* **`Suite.records_of_foreign`**: objects of other namespaces cannot influence the diagnosis of a
  path through the mesh, nor that of its control plane.
-/

namespace MeshDoctor

open Json Envoy

/-- Is the object in a namespace other than these? -/
def IsForeign (home : List String) (o : String × Value) : Prop :=
  ∃ ns, objectNamespace? o.2 = some ns ∧ ns ∉ home

variable {home : List String}

theorem Request.StaysIn.not_reaches {r : Request} (h : r.StaysIn home) {o : String × Value}
    (ho : IsForeign home o) : ¬ r.Reaches o := by
  obtain ⟨ns, hns, hforeign⟩ := ho
  intro hreaches
  cases r with
  | get kind asked name =>
    have hsame : asked = some ns := hreaches.2.symm.trans hns
    exact hforeign (h ns hsame)
  | list kind q =>
    obtain ⟨n, hn, hq⟩ := h
    have hsame : objectNamespace? o.2 = some n := by
      have hin := hreaches.2
      rw [hq] at hin
      exact of_decide_eq_true hin
    rw [hns, Option.some.injEq] at hsame
    exact hforeign (hsame ▸ hn)
  | _ => exact hreaches

section Insertion

variable {c : Snapshot} {extra objects : List (String × Value)}
  (h : Inserts extra c.objects objects) (hextra : ∀ o ∈ extra, IsForeign home o)
include h hextra

theorem Diagnostic.finds_withObjects {d : Diagnostic} (hd : d.StaysIn home) :
    (c.withObjects objects).world.finds d.evaluate = c.world.finds d.evaluate := by
  refine Snapshot.finds_withObjects h fun r hr o ho => ?_
  have hstays : r.StaysIn home := d.asksOnly_evaluate hd r hr
  exact hstays.not_reaches (hextra o ho)

/-- Foreign objects do not change the records of checks that are about the given namespaces. -/
theorem Suite.records_withObjects (s : Suite) {ds : List Diagnostic}
    (hds : ∀ d ∈ ds, d.StaysIn home) :
    (s.records ds).run (c.withObjects objects).world = (s.records ds).run c.world := by
  rw [run_records, run_records]
  refine List.map_congr_left fun d hd => ?_
  rw [recordIn_guarded, recordIn_guarded, Diagnostic.finds_withObjects h hextra (hds d hd)]

end Insertion

namespace Suite

/-! ## The namespaces of each suite -/

section Namespaces

variable {s : Suite} {source destination : PodRef}

theorem staysIn_podChecks {pod : PodRef} (h : pod.namespace ∈ home) :
    ∀ d ∈ podChecks pod, d.StaysIn home := by
  simp [podChecks, Diagnostic.StaysIn, h]

theorem staysIn_namespaceChecks {pod : PodRef} (h : pod.namespace ∈ home) :
    ∀ d ∈ s.namespaceChecks pod, d.StaysIn home := by
  simp [namespaceChecks, Diagnostic.StaysIn, h]

theorem staysIn_podToPod (hsource : source.namespace ∈ home)
    (hdestination : destination.namespace ∈ home) (hmesh : s.mesh.namespace ∈ home)
    (sourceGetter destinationGetter : Option Getter) :
    ∀ d ∈ s.podToPod source destination sourceGetter destinationGetter, d.StaysIn home := by
  intro d hd
  simp only [podToPod, List.mem_append] at hd
  rcases hd with (((hd | hd) | hd) | hd) | hd
  · exact staysIn_podChecks hsource d hd
  · exact staysIn_podChecks hdestination d hd
  · exact staysIn_namespaceChecks hsource d hd
  · exact staysIn_namespaceChecks hdestination d hd
  · revert d
    simp [Diagnostic.StaysIn, hsource, hdestination, hmesh]

theorem staysIn_podToUrl (hsource : source.namespace ∈ home) (hmesh : s.mesh.namespace ∈ home)
    (url : String) (getter : Option Getter) :
    ∀ d ∈ s.podToUrl source url getter, d.StaysIn home := by
  simp [podToUrl, Diagnostic.StaysIn, hsource, hmesh]

theorem staysIn_ingressToPod (hdestination : destination.namespace ∈ home)
    (hmesh : s.mesh.namespace ∈ home) (getter : Option Getter) :
    ∀ d ∈ s.ingressToPod destination getter, d.StaysIn home := by
  simp [ingressToPod, Diagnostic.StaysIn, hdestination, hmesh]

theorem staysIn_controlPlane (hmesh : s.mesh.namespace ∈ home) :
    ∀ d ∈ s.controlPlane, d.StaysIn home := by
  intro d hd
  rw [controlPlane, List.mem_append, List.mem_map] at hd
  rcases hd with ⟨component, -, rfl⟩ | hd
  · exact hmesh
  · revert d
    simp [Diagnostic.StaysIn, hmesh]

end Namespaces

/-- **Objects of other namespaces cannot influence a diagnosis**, whatever they hold and wherever
they stand: each record of the four suites is the same with them and without. -/
theorem records_of_foreign (s : Suite) (source destination : PodRef) {c : Snapshot}
    {extra objects : List (String × Value)} (h : Inserts extra c.objects objects)
    (hextra : ∀ o ∈ extra,
      IsForeign [source.namespace, destination.namespace, s.mesh.namespace] o) :
    (∀ sourceGetter destinationGetter : Option Getter,
      (s.records (s.podToPod source destination sourceGetter destinationGetter)).run
          (c.withObjects objects).world =
        (s.records (s.podToPod source destination sourceGetter destinationGetter)).run c.world) ∧
      (∀ (url : String) (getter : Option Getter),
        (s.records (s.podToUrl source url getter)).run (c.withObjects objects).world =
          (s.records (s.podToUrl source url getter)).run c.world) ∧
      (∀ getter : Option Getter,
        (s.records (s.ingressToPod destination getter)).run (c.withObjects objects).world =
          (s.records (s.ingressToPod destination getter)).run c.world) ∧
      (s.records s.controlPlane).run (c.withObjects objects).world =
        (s.records s.controlPlane).run c.world := by
  have hsource : source.namespace ∈
      [source.namespace, destination.namespace, s.mesh.namespace] := by simp
  have hdestination : destination.namespace ∈
      [source.namespace, destination.namespace, s.mesh.namespace] := by simp
  have hmesh : s.mesh.namespace ∈
      [source.namespace, destination.namespace, s.mesh.namespace] := by simp
  refine ⟨fun sourceGetter destinationGetter => ?_, fun url getter => ?_, fun getter => ?_, ?_⟩
  · exact records_withObjects h hextra s
      (staysIn_podToPod hsource hdestination hmesh sourceGetter destinationGetter)
  · exact records_withObjects h hextra s (staysIn_podToUrl hsource hmesh url getter)
  · exact records_withObjects h hextra s (staysIn_ingressToPod hdestination hmesh getter)
  · exact records_withObjects h hextra s (staysIn_controlPlane hmesh)

/-! ## A namesake -/

/-- A pod. -/
def buyer : String × Value :=
  (Kind.pods.name, .object
    [("metadata", .object [("name", .string "buyer"), ("namespace", .string "shop")])])

/-- A pod of the same name in another namespace, with a specification that does not decode. -/
def namesake : String × Value :=
  (Kind.pods.name, .object
    [("metadata", .object [("name", .string "buyer"), ("namespace", .string "elsewhere")]),
      ("spec", .int 3)])

/-- The suite of a mesh that has all prerequisites. -/
def ready : Suite := ⟨⟨"osm-system", "osm", "osm-controller", "osm-mesh-config"⟩, [], {}⟩

/-- A namesake before a pod does not stand in for it. -/
theorem records_of_foreign_namesake :
    IsForeign ["shop", "stock", "osm-system"] namesake ∧
      (ready.records (ready.podToPod ⟨"shop", "buyer"⟩ ⟨"stock", "store"⟩ none none)).run
          ({ objects := [namesake, buyer] } : Snapshot).world =
        (ready.records (ready.podToPod ⟨"shop", "buyer"⟩ ⟨"stock", "store"⟩ none none)).run
          ({ objects := [buyer] } : Snapshot).world := by
  have hforeign : IsForeign ["shop", "stock", "osm-system"] namesake :=
    ⟨"elsewhere", rfl, by decide⟩
  have hinserts : Inserts [namesake] [buyer] [namesake, buyer] := .insert _ (.keep _ .nil)
  have hextra : ∀ o ∈ [namesake], IsForeign ["shop", "stock", "osm-system"] o := by
    intro o ho
    rw [List.mem_singleton.mp ho]
    exact hforeign
  exact ⟨hforeign, (records_of_foreign ready ⟨"shop", "buyer"⟩ ⟨"stock", "store"⟩
    (c := { objects := [buyer] }) hinserts hextra).1 none none⟩

end Suite

end MeshDoctor
