import MeshDoctor.Proofs.Cluster.Snapshot

/-!
# Clusters — typed access is all or nothing

A list of resources is the answer of the cluster, decoded object by object; the first object that does
not decode fails the whole list. One resource is the object that was answered, decoded. Contexts are
added to failures on the way out and change nothing about what went wrong.

* `DecodesAll`, `DecodesOne`: a result is an answer of the cluster, decoded.
* `listWith`: all resources of a kind, by a decoder that has its own reasons for failure.
* `Lookup.withinAll`, `World.finds_withinAll`: any number of contexts around a failure.
* **`World.decodesAll_listWith`**, **`World.decodesOne_getAs`**: what is found is decoded so.
* **`typed_access_all_or_nothing`**: so it is for every typed look-up.
-/

namespace MeshDoctor

open Json

variable {α : Type}

/-! ## Lists -/

/-- The result is an answer of the cluster, decoded object by object, or a failure. -/
structure DecodesAll (answer : Except Failure (List Value)) (decode : Value → Except Failure α)
    (found : Except Failure (List α)) : Prop where
  ok_iff : (∃ as, found = .ok as) ↔ ∃ vs, answer = .ok vs ∧ ∀ v ∈ vs, ∃ a, decode v = .ok a
  /-- The list has the length and the order of the answer. -/
  item : ∀ vs as, answer = .ok vs → found = .ok as → as.length = vs.length ∧
    ∀ (i : Nat) (hv : i < vs.length) (ha : i < as.length), decode vs[i] = .ok as[i]
  /-- The failure is that of the request, else that of the first object that does not decode. -/
  error_iff : ∀ f, found = .error f ↔ answer = .error f ∨
    ∃ front v back, answer = .ok (front ++ v :: back) ∧
      (∀ u ∈ front, ∃ a, decode u = .ok a) ∧ decode v = .error f

theorem decodesAll_mapM (answer : Except Failure (List Value))
    (decode : Value → Except Failure α) :
    DecodesAll answer decode (answer.bind fun vs => vs.mapM decode) where
  ok_iff := by
    simp only [bind_eq_ok]
    rw [exists_comm]
    simp only [exists_and_left, exists_mapM_eq_ok_iff]
  item := by
    rintro vs as rfl hfound
    obtain ⟨hlength, hitems⟩ := List.forall₂_iff_get.mp (mapM_eq_ok_iff_forall₂.mp hfound)
    exact ⟨hlength.symm, hitems⟩
  error_iff f := by
    rw [bind_eq_error]
    refine or_congr_right ⟨?_, ?_⟩
    · rintro ⟨vs, hvs, hfails⟩
      obtain ⟨front, v, back, rfl, hfront, hv⟩ := mapM_eq_error_iff.mp hfails
      exact ⟨front, v, back, hvs, hfront, hv⟩
    · rintro ⟨front, v, back, hvs, hfront, hv⟩
      exact ⟨_, hvs, mapM_eq_error_iff.mpr ⟨front, v, back, rfl, hfront, hv⟩⟩

/-- All resources of a kind, in the order of the answer, by a decoder that gives reasons of its own. -/
def listWith (decode : Value → Except Failure α) (kind : Kind) (query : ListQuery) :
    Lookup (List α) := do
  let vs ← request (.list kind.name query)
  .ofResult (vs.mapM decode)

theorem listAs_eq_listWith (d : Decoder α) (kind : Kind) (query : ListQuery) :
    listAs d kind query = listWith (decodeAs d kind.name) kind query := rfl

/-- **A list is the whole answer, decoded, or the first failure.** -/
theorem World.decodesAll_listWith (w : World) (decode : Value → Except Failure α) (kind : Kind)
    (query : ListQuery) :
    DecodesAll (w (.list kind.name query)) decode (w.finds (listWith decode kind query)) := by
  have hfinds : w.finds (listWith decode kind query) =
      (w (.list kind.name query)).bind fun vs : List Value => vs.mapM decode := by
    rw [listWith, finds_bind]
    rfl
  rw [hfinds]
  exact decodesAll_mapM _ decode

/-! ## Contexts -/

/-- Adds contexts to a failure on the way, the outermost first. -/
def Lookup.withinAll (contexts : List String) (x : Lookup α) : Lookup α :=
  contexts.foldr within x

theorem Lookup.withinAll_within (contexts : List String) (context : String) (x : Lookup α) :
    (x.within context).withinAll contexts = x.withinAll (contexts ++ [context]) := by
  rw [withinAll, withinAll, List.foldr_append]
  rfl

/-- Contexts come before those that a failure has, and leave its cause as it is. -/
theorem World.finds_withinAll (w : World) (contexts : List String) (x : Lookup α) :
    w.finds (x.withinAll contexts) =
      (w.finds x).mapError fun f => ⟨contexts ++ f.contexts, f.cause⟩ := by
  induction contexts with
  | nil =>
    change w.finds x = _
    cases w.finds x <;> rfl
  | cons context contexts ih =>
    rw [Lookup.withinAll, List.foldr_cons, finds_within, ← Lookup.withinAll, ih]
    cases w.finds x <;> rfl

/-! ## One resource -/

/-- The result is the object that the cluster answered, decoded, or a failure in these contexts. -/
structure DecodesOne (answer : Except Failure Value) (d : Decoder α) (contexts : List String)
    (what : String) (found : Except Failure α) : Prop where
  ok_iff : ∀ a, found = .ok a ↔ ∃ v, answer = .ok v ∧ d v = some a
  error_iff : ∀ f, found = .error f ↔
    (∃ f', answer = .error f' ∧ ⟨contexts ++ f'.contexts, f'.cause⟩ = f) ∨
      ∃ v, answer = .ok v ∧ d v = none ∧
        ⟨contexts ++ ["Failed to decode " ++ what], .malformedJson⟩ = f
  /-- That a resource does not exist is said by the cluster only, and is not lost. -/
  notFound_iff : (∃ f, found = .error f ∧ f.isNotFound) ↔ ∃ f, answer = .error f ∧ f.isNotFound

theorem decodesOne_decodeAs (answer : Except Failure Value) (d : Decoder α)
    (contexts : List String) (what : String) :
    DecodesOne answer d contexts what
      ((answer.bind (decodeAs d what)).mapError fun f => ⟨contexts ++ f.contexts, f.cause⟩) := by
  have herror : ∀ f, (answer.bind (decodeAs d what)).mapError
        (fun f => (⟨contexts ++ f.contexts, f.cause⟩ : Failure)) = .error f ↔
      (∃ f', answer = .error f' ∧ ⟨contexts ++ f'.contexts, f'.cause⟩ = f) ∨
        ∃ v, answer = .ok v ∧ d v = none ∧
          ⟨contexts ++ ["Failed to decode " ++ what], .malformedJson⟩ = f := by
    intro f
    rw [mapError_eq_error]
    constructor
    · rintro ⟨f', hfails, rfl⟩
      obtain hanswer | ⟨v, hv, hdecode⟩ := bind_eq_error.mp hfails
      · exact .inl ⟨f', hanswer, rfl⟩
      · obtain ⟨hnone, rfl⟩ := (decodeAs_eq_error_iff d).mp hdecode
        exact .inr ⟨v, hv, hnone, rfl⟩
    · rintro (⟨f', hanswer, rfl⟩ | ⟨v, hv, hnone, rfl⟩)
      · exact ⟨f', bind_eq_error.mpr (.inl hanswer), rfl⟩
      · exact ⟨_, bind_eq_error.mpr (.inr ⟨v, hv, (decodeAs_eq_error_iff d).mpr ⟨hnone, rfl⟩⟩), rfl⟩
  refine ⟨fun a => ?_, herror, ⟨?_, ?_⟩⟩
  · rw [mapError_eq_ok, bind_eq_ok]
    exact exists_congr fun v => and_congr_right fun _ => decodeAs_eq_ok d
  · rintro ⟨f, hfound, hmissing⟩
    obtain ⟨f', hanswer, rfl⟩ | ⟨v, -, -, rfl⟩ := (herror f).mp hfound
    · exact ⟨f', hanswer, hmissing⟩
    · cases hmissing
  · rintro ⟨f', hanswer, hmissing⟩
    exact ⟨_, (herror _).mpr (.inl ⟨f', hanswer, rfl⟩), hmissing⟩

/-- **One resource is the object that was answered, decoded, or a failure.** -/
theorem World.decodesOne_getAs (w : World) (d : Decoder α) (kind : Kind) (ns : Option String)
    (name : String) (contexts : List String) :
    DecodesOne (w (.get kind.name ns name)) d contexts (kind.name ++ " " ++ name)
      (w.finds ((getAs d kind ns name).withinAll contexts)) := by
  rw [finds_withinAll, finds_getAs]
  exact decodesOne_decodeAs _ d contexts _

/-- So it is in the context that a look-up adds itself. -/
theorem World.decodesOne_within (w : World) (d : Decoder α) (kind : Kind) (ns : Option String)
    (name context : String) (contexts : List String) :
    DecodesOne (w (.get kind.name ns name)) d (contexts ++ [context]) (kind.name ++ " " ++ name)
      (w.finds (((getAs d kind ns name).within context).withinAll contexts)) := by
  rw [Lookup.withinAll_within]
  exact w.decodesOne_getAs d kind ns name _

/-! ## Typed access -/

/-- **Typed access is all or nothing.** A list is found exactly if the request succeeds and every
object decodes, and then it is the answer, decoded object by object in the same order; else the
failure is that of the request, or that of the first object that does not decode, whatever reasons a
decoder gives. One resource is the object that was answered, decoded. That it does not exist is known
in any contexts, and is never the failure of an object that does not decode. -/
theorem typed_access_all_or_nothing (w : World) :
    (∀ {α : Type} (d : Decoder α) (kind : Kind),
      (∀ query, DecodesAll (w (.list kind.name query)) (decodeAs d kind.name)
        (w.finds (listAs d kind query))) ∧
      ∀ ns name contexts, DecodesOne (w (.get kind.name ns name)) d contexts
        (kind.name ++ " " ++ name) (w.finds ((getAs d kind ns name).withinAll contexts))) ∧
    (∀ {α : Type} (decode : Value → Except Failure α) (kind : Kind) (query : ListQuery),
      DecodesAll (w (.list kind.name query)) decode (w.finds (listWith decode kind query))) ∧
    ∀ contexts,
      (∀ pod : PodRef, DecodesOne (w (.get Kind.pods.name (some pod.namespace) pod.name)) Pod.decode
        (contexts ++ ["Failed to get pod " ++ pod.text]) (Kind.pods.name ++ " " ++ pod.name)
        (w.finds ((getPod pod).withinAll contexts))) ∧
      (∀ name, DecodesOne (w (.get Kind.namespaces.name none name)) Namespace.decode
        (contexts ++ ["Failed to get namespace " ++ name]) (Kind.namespaces.name ++ " " ++ name)
        (w.finds ((getNamespace name).withinAll contexts))) ∧
      (∀ ns name, DecodesOne (w (.get Kind.deployments.name (some ns) name)) Deployment.decode
        (contexts ++ ["Failed to get deployment " ++ ns ++ "/" ++ name])
        (Kind.deployments.name ++ " " ++ name)
        (w.finds ((getDeployment ns name).withinAll contexts))) ∧
      ∀ ns name, DecodesOne (w (.get Kind.meshConfigs.name (some ns) name)) MeshConfig.decode
        (contexts ++ ["Failed to get MeshConfig " ++ ns ++ "/" ++ name])
        (Kind.meshConfigs.name ++ " " ++ name)
        (w.finds ((getMeshConfig ns name).withinAll contexts)) := by
  refine ⟨fun d kind => ⟨fun query => ?_, fun ns name contexts => ?_⟩,
    fun decode kind query => ?_,
    fun contexts => ⟨fun pod => ?_, fun name => ?_, fun ns name => ?_, fun ns name => ?_⟩⟩
  · rw [listAs_eq_listWith]
    exact w.decodesAll_listWith _ kind query
  · exact w.decodesOne_getAs d kind ns name contexts
  · exact w.decodesAll_listWith decode kind query
  · exact w.decodesOne_within Pod.decode .pods _ _ _ contexts
  · exact w.decodesOne_within Namespace.decode .namespaces _ _ _ contexts
  · exact w.decodesOne_within Deployment.decode .deployments _ _ _ contexts
  · exact w.decodesOne_within MeshConfig.decode .meshConfigs _ _ _ contexts

/-- A pod in the shop, with some specification. -/
def shopPod (name : String) (spec : Value) : Value :=
  .object [("metadata", .object [("name", .string name), ("namespace", .string "shop")]),
    ("spec", spec)]

/-- A shop in which two of three pods do not decode. -/
def brokenShop : Snapshot where
  objects := [(Kind.pods.name, shopPod "buyer" (.object [])),
    (Kind.pods.name, shopPod "till" (.bool true)), (Kind.pods.name, shopPod "scale" (.int 1))]

/-- The name of a pod, else the name of the object that is none. -/
def podName (v : Value) : Except Failure String :=
  match Pod.decode v with
  | some pod => .ok pod.ref.name
  | none => .error (.say ((objectName? v).getD ""))

/-- The pods of the shop are not listed, because of the second; a missing namespace stays missing. -/
theorem typed_access_all_or_nothing_brokenShop :
    brokenShop.world.finds (listPods {}) =
        .error ⟨["Failed to decode pods"], .malformedJson⟩ ∧
      brokenShop.world.finds (listWith podName .pods {}) = .error (.say "till") ∧
      ∃ f, brokenShop.world.finds ((getNamespace "shop").withinAll ["Failed to inspect the shop"]) =
        .error f ∧ f.isNotFound := by
  have hpods : brokenShop.world (.list Kind.pods.name {}) = .ok ([shopPod "buyer" (.object [])] ++
      shopPod "till" (.bool true) :: [shopPod "scale" (.int 1)]) := rfl
  have hnamespace : brokenShop.world (.get Kind.namespaces.name none "shop") =
      .error (.of (.notFound "namespaces" "shop")) := rfl
  have hbuyer : ∀ {α : Type} {decode : Value → Except Failure α},
      (∃ a, decode (shopPod "buyer" (.object [])) = .ok a) →
        ∀ u ∈ [shopPod "buyer" (.object [])], ∃ a, decode u = .ok a := by
    rintro α decode hdecodes u hu
    obtain rfl := List.mem_singleton.mp hu
    exact hdecodes
  obtain ⟨htyped, hlists, hnamed⟩ := typed_access_all_or_nothing brokenShop.world
  refine ⟨?_, ?_, ?_⟩
  · exact (((htyped Pod.decode .pods).1 {}).error_iff _).mpr
      (.inr ⟨_, _, _, hpods, hbuyer ⟨_, rfl⟩, rfl⟩)
  · exact ((hlists podName .pods {}).error_iff _).mpr
      (.inr ⟨_, _, _, hpods, hbuyer ⟨_, rfl⟩, rfl⟩)
  · exact ((hnamed ["Failed to inspect the shop"]).2.1 "shop").notFound_iff.mpr
      ⟨_, hnamespace, rfl⟩

end MeshDoctor
