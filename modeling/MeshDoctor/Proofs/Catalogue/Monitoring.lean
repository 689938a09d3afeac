import MeshDoctor.Config.Basic
import MeshDoctor.Proofs.Catalogue.Agreement
import MeshDoctor.Proofs.Cluster.Snapshot
import MeshDoctor.Proofs.Resource.Labels
import MeshDoctor.Proofs.Suite.Records

/-!
# Catalogue — monitored namespaces, by selector and by label

The namespaces of a mesh are listed with a selector that holds the name of the mesh as it is. A comma
in the name divides the selector, so that it asks for something else.

* `mem_monitored_iff`, `not_monitored_of_comma`: what the selector of a mesh lists.
* **`Config.listed_iff_monitored`**: the selector and the label mean the same exactly for the names
  without a comma.
-/

namespace MeshDoctor

open Json

namespace Snapshot

variable {c : Snapshot} (mesh : Mesh) {v : Value} {ns : Namespace}

/-- The objects that the selector of a mesh lists. -/
theorem mem_monitored_iff (hmesh : ',' ∉ mesh.name.toList) (hv : v ∈ c.ofKind Kind.namespaces.name)
    (hdecode : Namespace.decode v = some ns) :
    v ∈ c.list Kind.namespaces.name { labels := some mesh.monitoredSelector } ↔
      ns.monitoredBy? = some mesh.name := by
  rw [Namespace.monitoredBy?, Namespace.label?_of_decode hdecode, mem_list, Mesh.monitoredSelector,
    matchesLabels_iff monitoredByLabel (by decide) (by decide) hmesh]
  exact ⟨fun h => h.2.2.1, fun h => ⟨hv, rfl, h, rfl⟩⟩

/-- No namespace of a mesh with a comma in its name is listed. -/
theorem not_monitored_of_comma (hmesh : ',' ∈ mesh.name.toList)
    (hdecode : Namespace.decode v = some ns)
    (hlisted : v ∈ c.list Kind.namespaces.name { labels := some mesh.monitoredSelector }) :
    ns.monitoredBy? ≠ some mesh.name := by
  have hmatches := (mem_list.mp hlisted).2.2.1
  rw [Namespace.monitoredBy?, Namespace.label?_of_decode hdecode]
  exact textAt?_ne_of_matchesLabels (by decide) (by decide) hmesh hmatches

end Snapshot

/-- A namespace that a mesh monitors. -/
def monitoredObject (mesh : String) : Value :=
  .object [("metadata", .object [("labels", .object [(monitoredByLabel, .string mesh)])])]

theorem Namespace.decode_monitoredObject (mesh : String) :
    decode (monitoredObject mesh) = some ⟨{ labels := some [(monitoredByLabel, mesh)] }⟩ := rfl

namespace Config

/-- **The selector of a mesh lists the namespaces with its label exactly if its name has no comma.**
With a comma it lists none of them. The label is what the check of one namespace looks at. -/
theorem listed_iff_monitored (config : Config) :
    ((∀ (c : Snapshot) (v : Value) (ns : Namespace), v ∈ c.ofKind Kind.namespaces.name →
        Namespace.decode v = some ns →
        (v ∈ c.list Kind.namespaces.name { labels := some config.mesh.monitoredSelector } ↔
          ns.monitoredBy? = some config.meshName)) ↔
      ',' ∉ config.meshName.toList) ∧
    (',' ∈ config.meshName.toList → ∀ (c : Snapshot) (v : Value) (ns : Namespace),
        Namespace.decode v = some ns →
        v ∈ c.list Kind.namespaces.name { labels := some config.mesh.monitoredSelector } →
        ns.monitoredBy? ≠ some config.meshName) ∧
    ∀ (w : World) (name : String) (ns : Namespace), w.finds (getNamespace name) = .ok ns →
      (((Diagnostic.namespaceMonitored name config.meshName).check.recordIn w).status = .pass ↔
        ns.monitoredBy? = some config.meshName) := by
  refine ⟨⟨fun hagree hcomma => ?_, fun hname c v ns hv hdecode => ?_⟩,
    fun hcomma c v ns => Snapshot.not_monitored_of_comma config.mesh hcomma, fun w name ns hns => ?_⟩
  · -- A namespace with the label is not listed, whatever else the selector asks for.
    let c : Snapshot := { objects := [(Kind.namespaces.name, monitoredObject config.meshName)] }
    have hdecode := Namespace.decode_monitoredObject config.meshName
    have hlisted := (hagree c _ _ (by simp [c, Snapshot.ofKind]) hdecode).mpr rfl
    exact Snapshot.not_monitored_of_comma config.mesh hcomma hdecode hlisted rfl
  · exact Snapshot.mem_monitored_iff config.mesh hname hv hdecode
  · rw [Diagnostic.status_recordIn]
    refine Catalogue.namespaceMonitored_eq_pass.trans ⟨?_, fun h => ⟨ns, hns, h⟩⟩
    rintro ⟨found, hfound, hmonitored⟩
    obtain rfl : ns = found := Except.ok.inj (hns.symm.trans hfound)
    exact hmonitored

/-- A shop in the mesh `osm`, with one label more. -/
def tieredShop : Snapshot where
  objects :=
    let labels := [(monitoredByLabel, .string "osm"), ("tier", .string "shop")]
    let annotations := [("openservicemesh.io/sidecar-injection", .string "enabled")]
    [(Kind.namespaces.name, .object
      [("metadata", .object
        [("annotations", .object annotations), ("labels", .object labels),
          ("name", .string "shop")])])]

/-- The shop is listed for another mesh, which the settings may name, and does not count as
monitored by it. -/
theorem listed_for_otherMesh :
    let config : Config := { meshName := "osm,tier" }
    let listed := tieredShop.list Kind.namespaces.name { labels := config.mesh.monitoredSelector }
    config.validate = .ok config ∧ listed = tieredShop.ofKind Kind.namespaces.name ∧
      listed.map (fun v => (Namespace.decode v).bind (·.monitoredBy?)) = [some "osm"] ∧
      ((Diagnostic.namespaceMonitored "shop" config.meshName).check.recordIn
        tieredShop.world).status = .fail ∧
      ((Diagnostic.monitoredNamespacesInjected config.mesh).check.recordIn
        tieredShop.world).status = .pass := by
  decide +kernel

end Config

end MeshDoctor
