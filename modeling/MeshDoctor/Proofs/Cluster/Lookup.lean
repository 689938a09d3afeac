import MeshDoctor.Proofs.Cluster.Snapshot

/-!
# Clusters — what is found by name is listed first

A resource is looked up by its name among the objects themselves, and a list is narrowed to a name by
a selector of fields. Both ask for the same, save that no namespace means a resource without one in a
look-up and any namespace in a list.

* `IsFirstOf`: an answer is the first of some objects, and says so when there are none.
* `Snapshot.isFirstOf_get`: a resource is the first object of its name and namespace.
* `ListQuery.ofName`, `Snapshot.list_ofName`: the list that is narrowed to a name.
* **`Snapshot.get_first_of_list`**: what a look-up by name has to do with this list, and what
  selectors ask for.
-/

namespace MeshDoctor

open Json

/-- The answer is the first of the objects; without any it is that the resource does not exist. -/
structure IsFirstOf (answer : Except Failure Value) (objects : List Value) : Prop where
  ok_iff : ∀ v, answer = .ok v ↔ objects.head? = some v
  notFound_iff : (∃ f, answer = .error f ∧ f.isNotFound) ↔ objects = []

/-- The resources of a name, in a namespace if one is asked for. -/
def ListQuery.ofName (ns : Option String) (name : String) : ListQuery :=
  { «namespace» := ns, fields := some ("metadata.name=" ++ name) }

namespace Snapshot

variable (c : Snapshot) (kind : String)

/-- A resource is the first object of its name and namespace. -/
theorem isFirstOf_get (ns : Option String) (name : String) :
    IsFirstOf (c.get kind ns name)
      ((c.ofKind kind).filter fun o => objectName? o = some name && objectNamespace? o = ns) := by
  -- The first match is the head of all matches.
  rw [get, ← List.head?_filter]
  generalize (c.ofKind kind).filter (fun o =>
    objectName? o = some name && objectNamespace? o = ns) = found
  cases found with
  | nil => exact ⟨by simp, by simp [Failure.of, Failure.isNotFound]⟩
  | cons v found => exact ⟨by simp, by simp⟩

variable {name : String}

/-- A list that is narrowed to a name has the objects of this name. -/
theorem list_ofName (ns : Option String) (hname : ',' ∉ name.toList) :
    c.list kind (.ofName ns name) =
      (c.ofKind kind).filter fun o => inNamespace ns o && objectName? o = some name := by
  refine List.filter_congr fun o _ => ?_
  have hfields : matchesFields (some ("metadata.name" ++ "=" ++ name)) o ↔
      objectName? o = some name :=
    matchesFields_iff "metadata.name" (by decide) (by decide) hname o
  rw [Bool.eq_iff_iff, Bool.and_eq_true, Bool.and_eq_true, Bool.and_eq_true, decide_eq_true_eq,
    ← hfields]
  exact and_congr_left fun _ => and_iff_left rfl

/-- In a namespace, a look-up by name gives the first of the list of this name. -/
theorem isFirstOf_list (ns : String) (hname : ',' ∉ name.toList) :
    IsFirstOf (c.get kind (some ns) name) (c.list kind (.ofName (some ns) name)) := by
  have hlist : c.list kind (.ofName (some ns) name) =
      (c.ofKind kind).filter fun o => objectName? o = some name && objectNamespace? o = some ns := by
    rw [c.list_ofName kind (some ns) hname]
    exact List.filter_congr fun o _ => Bool.and_comm _ _
  rw [hlist]
  exact c.isFirstOf_get kind (some ns) name

/-- Without a namespace, it gives the first that has none of the list of this name. -/
theorem isFirstOf_list_without (hname : ',' ∉ name.toList) :
    IsFirstOf (c.get kind none name)
      ((c.list kind (.ofName none name)).filter (objectNamespace? · = none)) := by
  have hlist : (c.list kind (.ofName none name)).filter (objectNamespace? · = none) =
      (c.ofKind kind).filter fun o => objectName? o = some name && objectNamespace? o = none := by
    rw [c.list_ofName kind none hname, List.filter_filter]
    exact List.filter_congr fun o _ => Bool.and_comm _ _
  rw [hlist]
  exact c.isFirstOf_get kind none name

/-- **What is found by name is the first of the list of this name, and is missing if there is none.**
Selectors of labels and of fields are conjunctions of their terms, so that one with two parts asks for
what both do and an empty one for nothing. A name without a comma is one term, and in each namespace
the list narrowed to it starts with the resource of this name. Where no namespace is asked for, the
list has resources of all namespaces and the look-up wants one without: it gives the first of these,
which is the first of the list for a kind whose resources have no namespaces. -/
theorem get_first_of_list :
    (∀ object : Value,
      IsConjunction (fun selector => matchesLabels (some selector) object)
        (fun key value => object.textAt? ["metadata", "labels", key] = some value)
        (fun key => (object.at? ["metadata", "labels", key]).isSome) ∧
      IsConjunction (fun selector => matchesFields (some selector) object)
        (fun path value => object.textAt? (dottedPath path.toList) = some value)
        fun key => (object.at? ["", key]).isSome) ∧
    ∀ c : Snapshot, c.failures = [] → ∀ kind name : String, ',' ∉ name.toList →
      (∀ ns : String, ∃ found : List Value,
        c.world (.list kind (.ofName (some ns) name)) = .ok found ∧
          IsFirstOf (c.world (.get kind (some ns) name)) found) ∧
      ∃ found : List Value, c.world (.list kind (.ofName none name)) = .ok found ∧
        IsFirstOf (c.world (.get kind none name)) (found.filter (objectNamespace? · = none)) ∧
        ((∀ v ∈ c.ofKind kind, objectNamespace? v = none) →
          IsFirstOf (c.world (.get kind none name)) found) := by
  refine ⟨fun object => ⟨isConjunction_matchesLabels object, isConjunction_matchesFields object⟩,
    fun c hc kind name hname => ⟨fun ns => ?_, ?_⟩⟩
  · refine ⟨c.list kind (.ofName (some ns) name), world_of_failures hc _, ?_⟩
    rw [world_of_failures hc]
    exact c.isFirstOf_list kind ns hname
  · have hfirst := c.isFirstOf_list_without kind hname
    refine ⟨c.list kind (.ofName none name), world_of_failures hc _, ?_, fun hwithout => ?_⟩
    · rw [world_of_failures hc]
      exact hfirst
    · have hall : (c.list kind (.ofName none name)).filter (objectNamespace? · = none) =
          c.list kind (.ofName none name) :=
        List.filter_eq_self.mpr fun v hv => decide_eq_true (hwithout v (mem_list.mp hv).1)
      rw [world_of_failures hc, ← hall]
      exact hfirst

end Snapshot

/-- A pod in the stock, of one release or another. -/
def storePod (release : String) : Value :=
  .object [("metadata", .object [("labels", .object [("release", .string release)]),
    ("name", .string "store"), ("namespace", .string "stock")])]

/-- A stock whose store is listed twice. -/
def doubledStock : Snapshot where
  objects := [(Kind.pods.name, storePod "blue"),
    (Kind.namespaces.name, .object [("metadata", .object [("name", .string "stock")])]),
    (Kind.pods.name, storePod "green")]

/-- The store that is listed first is found. -/
theorem get_first_of_list_doubledStock :
    doubledStock.failures = [] ∧ ',' ∉ "store".toList ∧
      doubledStock.world (.list Kind.pods.name (.ofName (some "stock") "store")) =
        .ok [storePod "blue", storePod "green"] ∧
      doubledStock.world (.get Kind.pods.name (some "stock") "store") = .ok (storePod "blue") ∧
      ¬ matchesLabels (some "release=green,release=blue") (storePod "blue") := by
  have hname : ',' ∉ "store".toList := by decide
  have hstore : doubledStock.world (.list Kind.pods.name (.ofName (some "stock") "store")) =
      .ok [storePod "blue", storePod "green"] := rfl
  obtain ⟨hselectors, hlookups⟩ := Snapshot.get_first_of_list
  obtain ⟨found, hfound, hfirst⟩ := (hlookups doubledStock rfl Kind.pods.name "store" hname).1 "stock"
  obtain rfl : [storePod "blue", storePod "green"] = found := Except.ok.inj (hstore.symm.trans hfound)
  refine ⟨rfl, hname, hstore, (hfirst.ok_iff _).mpr rfl, fun hmatches => ?_⟩
  obtain ⟨hgreen, -⟩ :=
    ((hselectors (storePod "blue")).1.append "release=green" "release=blue").mp hmatches
  revert hgreen
  decide +kernel

/-- Where no namespace is asked for, the store is listed but not found. -/
theorem listed_but_not_found_doubledStock :
    doubledStock.failures = [] ∧ ',' ∉ "store".toList ∧
      doubledStock.world (.list Kind.pods.name (.ofName none "store")) =
        .ok [storePod "blue", storePod "green"] ∧
      doubledStock.world (.get Kind.pods.name none "store") =
        .error (.of (.notFound Kind.pods.name "store")) :=
  ⟨rfl, by decide, rfl, rfl⟩

end MeshDoctor
