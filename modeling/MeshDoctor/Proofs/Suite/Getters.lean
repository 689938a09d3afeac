import MeshDoctor.Proofs.Suite.Records

/-!
# Suites — which sidecar a record is about

Between two pods, two sidecars are read, each with a getter of its own.

* `Suite.sourceReaders`, `Suite.destinationReaders`: the checks that read the sidecar of the source
  and of the destination, with their places in the report.
* `Suite.exchange`: other checks in some places; `Suite.podToPod_exchange_source` and
  `Suite.podToPod_exchange_destination`: another getter changes its readers only.
* **`Suite.records_of_getters`**: the record of a check depends on the getter that it reads and on
  no other, so no record depends on both.
-/

namespace MeshDoctor.Suite

open Envoy

/-! ## Readers -/

variable (s : Suite) (source destination : PodRef)

/-- The checks between two pods that read the sidecar of the source, with their places. -/
def sourceReaders (getter : Option Getter) : List (Nat × Diagnostic) :=
  [(15, .hasListener s.mesh source getter .outbound),
    (16, .hasCluster source destination getter),
    (17, .hasOutboundRoute s.mesh source destination getter),
    (18, .hasDestinationEndpoints source getter),
    (19, .hasSpecificEndpoint source destination getter),
    (21, .noWarmingSecrets source getter)]

/-- The checks between two pods that read the sidecar of the destination, with their places. -/
def destinationReaders (getter : Option Getter) : List (Nat × Diagnostic) :=
  [(20, .hasListener s.mesh destination getter .inbound),
    (22, .noWarmingSecrets destination getter)]

/-- The places of the checks that read the sidecar of the source. -/
def sourcePlaces : List Nat := [15, 16, 17, 18, 19, 21]

/-- The places of the checks that read the sidecar of the destination. -/
def destinationPlaces : List Nat := [20, 22]

/-- The readers of both sidecars stand in their places. -/
theorem getElem?_podToPod {sourceGetter destinationGetter : Option Getter} :
    ∀ p ∈ s.sourceReaders source destination sourceGetter
        ++ s.destinationReaders destination destinationGetter,
      (s.podToPod source destination sourceGetter destinationGetter)[p.1]? = some p.2 := by
  simp only [sourceReaders, destinationReaders, List.cons_append, List.nil_append,
    List.forall_mem_cons]
  exact ⟨rfl, rfl, rfl, rfl, rfl, rfl, rfl, rfl, List.forall_mem_nil _⟩

/-! ## Another getter -/

/-- The checks with others in some places. -/
def exchange (readers : List (Nat × Diagnostic)) (ds : List Diagnostic) : List Diagnostic :=
  readers.foldl (fun ds p => ds.set p.1 p.2) ds

theorem getElem?_exchange {readers : List (Nat × Diagnostic)} {i : Nat}
    (hi : i ∉ readers.map (·.1)) (ds : List Diagnostic) :
    (exchange readers ds)[i]? = ds[i]? := by
  induction readers generalizing ds with
  | nil => rfl
  | cons p rest ih =>
    rw [List.map_cons, List.mem_cons, not_or] at hi
    exact (ih hi.2 (ds.set p.1 p.2)).trans (List.getElem?_set_ne (Ne.symm hi.1))

section Exchange

variable (sourceGetter sourceGetter' destinationGetter destinationGetter' : Option Getter)

theorem podToPod_exchange_source :
    s.podToPod source destination sourceGetter' destinationGetter =
      exchange (s.sourceReaders source destination sourceGetter')
        (s.podToPod source destination sourceGetter destinationGetter) := rfl

theorem podToPod_exchange_destination :
    s.podToPod source destination sourceGetter destinationGetter' =
      exchange (s.destinationReaders destination destinationGetter')
        (s.podToPod source destination sourceGetter destinationGetter) := rfl

end Exchange

/-! ## Records -/

theorem getElem?_records (ds : List Diagnostic) (w : World) (i : Nat) :
    ((s.records ds).run w)[i]? = ds[i]?.map fun d => (d.check.guarded s.ledger).recordIn w := by
  rw [run_records, List.getElem?_map]

section Places

variable (w : World) {i : Nat}

theorem getElem?_records_of_notMem_sourcePlaces (hi : i ∉ sourcePlaces)
    (sourceGetter sourceGetter' destinationGetter : Option Getter) :
    ((s.records (s.podToPod source destination sourceGetter' destinationGetter)).run w)[i]? =
      ((s.records (s.podToPod source destination sourceGetter destinationGetter)).run w)[i]? := by
  rw [getElem?_records, getElem?_records,
    s.podToPod_exchange_source source destination sourceGetter sourceGetter',
    getElem?_exchange hi]

theorem getElem?_records_of_notMem_destinationPlaces (hi : i ∉ destinationPlaces)
    (sourceGetter destinationGetter destinationGetter' : Option Getter) :
    ((s.records (s.podToPod source destination sourceGetter destinationGetter')).run w)[i]? =
      ((s.records (s.podToPod source destination sourceGetter destinationGetter)).run w)[i]? := by
  rw [getElem?_records, getElem?_records,
    s.podToPod_exchange_destination source destination sourceGetter destinationGetter
      destinationGetter',
    getElem?_exchange hi]

end Places

/-- **The record of a check between two pods depends on the getter of one sidecar at most.** The
readers of a sidecar stand in the places given, and with another getter for it all other records
stay as they are. -/
theorem records_of_getters (w : World) :
    let run (sourceGetter destinationGetter : Option Getter) : List Record :=
      (s.records (s.podToPod source destination sourceGetter destinationGetter)).run w
    (∀ sourceGetter destinationGetter,
      (∀ p ∈ s.sourceReaders source destination sourceGetter
          ++ s.destinationReaders destination destinationGetter,
        (run sourceGetter destinationGetter)[p.1]? =
          some ((p.2.check.guarded s.ledger).recordIn w)) ∧
      (run sourceGetter destinationGetter).length = 23) ∧
    (∀ sourceGetter destinationGetter destinationGetter', ∀ i ∉ destinationPlaces,
      (run sourceGetter destinationGetter')[i]? = (run sourceGetter destinationGetter)[i]?) ∧
    (∀ sourceGetter sourceGetter' destinationGetter, ∀ i ∉ sourcePlaces,
      (run sourceGetter' destinationGetter)[i]? = (run sourceGetter destinationGetter)[i]?) ∧
    ∀ i : Nat,
      (∀ sourceGetter destinationGetter destinationGetter',
        (run sourceGetter destinationGetter')[i]? = (run sourceGetter destinationGetter)[i]?) ∨
      ∀ sourceGetter sourceGetter' destinationGetter,
        (run sourceGetter' destinationGetter)[i]? = (run sourceGetter destinationGetter)[i]? := by
  intro run
  have hdestination (sourceGetter destinationGetter destinationGetter' : Option Getter) (i : Nat)
      (hi : i ∉ destinationPlaces) :
      (run sourceGetter destinationGetter')[i]? = (run sourceGetter destinationGetter)[i]? :=
    s.getElem?_records_of_notMem_destinationPlaces source destination w hi _ _ _
  have hsource (sourceGetter sourceGetter' destinationGetter : Option Getter) (i : Nat)
      (hi : i ∉ sourcePlaces) :
      (run sourceGetter' destinationGetter)[i]? = (run sourceGetter destinationGetter)[i]? :=
    s.getElem?_records_of_notMem_sourcePlaces source destination w hi _ _ _
  refine ⟨fun sourceGetter destinationGetter => ⟨?_, ?_⟩, hdestination, hsource, fun i => ?_⟩
  · intro p hp
    exact (s.getElem?_records _ w p.1).trans
      (congrArg _ (s.getElem?_podToPod source destination p hp))
  · exact (congrArg List.length (s.run_records w _)).trans (List.length_map _)
  · -- No place is in both lists.
    by_cases hi : i ∈ destinationPlaces
    · have hother : i ∉ sourcePlaces := by
        revert i
        decide
      exact .inr fun _ _ _ => hsource _ _ _ i hother
    · exact .inl fun _ _ _ => hdestination _ _ _ i hi

end MeshDoctor.Suite
