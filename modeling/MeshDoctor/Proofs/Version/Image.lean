import MeshDoctor.Proofs.Text.Pieces
import MeshDoctor.Proofs.Version.Components
import MeshDoctor.Text.Radix

/-!
# Controller versions — from the image of a controller

A reference to an image has up to three colons: before the port of its registry, before its tag and
inside its digest. The version is looked for behind the last one.

* `ImageReference`: a reference, by its parts.
* `ReleaseLine.read?_of_noSeparator`, `ReleaseLine.read?_of_slash`: what is no version.
* `ImageReference.imageTag?_bind_read?`: the version behind the last colon of a reference.
* **`ReleaseLine.version_of_image`**: the version of a pod is that of its tag, unless a digest
  hides it.
-/

namespace MeshDoctor

/-! ## References -/

/-- The registry of an image: a host, and a port if it is written. -/
structure ImageRegistry where
  host : String
  port : Option String
  host_free : '/' ∉ host.toList ∧ ':' ∉ host.toList ∧ '@' ∉ host.toList := by decide
  port_numeric : ∀ p ∈ port, p ≠ "" ∧ p.toList.all Char.isDigit := by decide

/-- The digest of an image: an algorithm and a hexadecimal number. -/
structure ImageDigest where
  algorithm : String
  hex : String
  algorithm_free : '/' ∉ algorithm.toList ∧ ':' ∉ algorithm.toList ∧ '@' ∉ algorithm.toList := by
    decide
  hex_digits : hex.toList.all fun c => (Text.hexValue? c).isSome := by decide

/-- A reference to a container image, `[host[:port]/]path[:tag][@algorithm:hex]`. -/
structure ImageReference where
  registry : Option ImageRegistry := none
  path : String
  tag : Option String := none
  digest : Option ImageDigest := none
  path_free : ':' ∉ path.toList ∧ '@' ∉ path.toList := by decide
  tag_free : ∀ t ∈ tag, '/' ∉ t.toList ∧ ':' ∉ t.toList ∧ '@' ∉ t.toList := by decide

/-- The written form of a registry. -/
def ImageRegistry.text (r : ImageRegistry) : String :=
  r.host ++ r.port.elim "" (":" ++ ·) ++ "/"

/-- The written form of a digest. -/
def ImageDigest.text (d : ImageDigest) : String :=
  "@" ++ d.algorithm ++ ":" ++ d.hex

namespace ImageReference

/-- What is written before the tag. -/
def repository (r : ImageReference) : String :=
  r.registry.elim "" (·.text) ++ r.path

/-- The written form of a reference. -/
def text (r : ImageReference) : String :=
  r.repository ++ r.tag.elim "" (":" ++ ·) ++ r.digest.elim "" (·.text)

end ImageReference

/-! ## What is no version -/

namespace ReleaseLine

theorem isSeparator_of_hexValue {c : Char} (h : (Text.hexValue? c).isSome) :
    isSeparator c = false := by
  rw [Bool.eq_false_iff]
  intro hsep
  rcases isSeparator_iff.mp hsep with rfl | rfl | rfl <;> exact absurd h (by decide)

/-- A version has two numbers, and a separator between. -/
theorem read?_of_noSeparator {version : String} (h : ∀ c ∈ version.toList, isSeparator c = false) :
    read? version = none := by
  obtain ⟨bare, hbare⟩ := exists_isBare version
  exact read?_of_isPiece hbare fun c hc => h c (hbare.mem_of_mem hc)

/-- A number that a slash follows does not start a version. -/
theorem read?_of_slash {digits : List Char} (hdigits : ∀ c ∈ digits, c.isDigit) (rest : List Char) :
    read? (String.ofList (digits ++ '/' :: rest)) = none := by
  have hsolid : ∀ c ∈ digits ++ ['/'],
      Text.isBlank c = false ∧ isSeparator c = false ∧ c ≠ 'v' := by
    intro c hc
    rcases List.mem_append.mp hc with hc | hc
    · have hdigit := hdigits c hc
      refine ⟨Text.isBlank_of_isDigit hdigit, isSeparator_of_isDigit hdigit, ?_⟩
      rintro rfl
      exact absurd hdigit (by decide)
    · rw [List.mem_singleton.mp hc]
      decide
  have hbare : IsBare (String.ofList (digits ++ '/' :: rest))
      ((digits ++ ['/']) ++ rest.rdropWhile Text.isBlank) := by
    have hbefore : ∀ c ∈ ([] : List Char), Text.isBlank c := nofun
    have htrimmed := Text.isTrimmed_append hbefore (by simp)
      (fun c hc => (hsolid c (List.mem_of_mem_head? hc)).1)
      (fun c hc => (hsolid c (List.mem_of_mem_getLast? hc)).1) rest
    refine ⟨⟨0, by simpa using htrimmed⟩, ?_⟩
    rw [List.head?_append_of_ne_nil _ (by simp)]
    exact fun hv => (hsolid 'v' (List.mem_of_mem_head? hv)).2.2 rfl
  obtain ⟨piece, more, hrest, hpiece, hmore⟩ := exists_piece (rest.rdropWhile Text.isBlank)
  rw [hrest, ← List.append_assoc] at hbare
  refine hbare.read?_of_isNoNumber ?_ hmore (.inr (.inl ⟨'/', by simp, by decide⟩))
  intro c hc
  rcases List.mem_append.mp hc with hc | hc
  · exact (hsolid c hc).2.1
  · exact hpiece c hc

end ReleaseLine

/-! ## The last colon of a reference -/

namespace ImageReference

open ReleaseLine

variable {r : ImageReference}

theorem imageTag?_append (front : String) {tail : String} (h : ':' ∉ tail.toList) :
    imageTag? (front ++ ":" ++ tail) = some tail := by
  have hchars : (front ++ ":" ++ tail).toList = front.toList ++ ':' :: tail.toList := by simp
  rw [imageTag?, hchars, Text.cutLast_append _ h]
  exact congrArg some String.ofList_toList

/-- Neither a host nor a path has a colon, and what is behind that of a port is no version. -/
theorem imageTag?_repository_bind_read? (r : ImageReference) :
    (imageTag? r.repository).bind read? = none := by
  have hpath : ':' ∉ r.path.toList := r.path_free.1
  rw [repository]
  cases r.registry with
  | none =>
    rw [Option.elim_none, imageTag?, Text.cutLast_eq_none (by simpa using hpath)]
    rfl
  | some registry =>
    have hhost : ':' ∉ registry.host.toList := registry.host_free.2.1
    rw [Option.elim_some, ImageRegistry.text]
    cases hport : registry.port with
    | none =>
      rw [imageTag?, Text.cutLast_eq_none (by simp [hhost, hpath])]
      rfl
    | some port =>
      have hdigits : ∀ c ∈ port.toList, c.isDigit :=
        List.all_eq_true.mp (registry.port_numeric port hport).2
      have hcolon : ':' ∉ (port ++ "/" ++ r.path).toList := by
        have hport : ':' ∉ port.toList := fun hc => absurd (hdigits _ hc) (by decide)
        simp [hport, hpath]
      have htext : registry.host ++ (some port).elim "" (":" ++ ·) ++ "/" ++ r.path =
          registry.host ++ ":" ++ (port ++ "/" ++ r.path) := by
        simp [String.append_assoc]
      rw [htext, imageTag?_append _ hcolon, Option.bind_some]
      have hslash : port ++ "/" ++ r.path =
          String.ofList (port.toList ++ '/' :: r.path.toList) := String.toList_injective (by simp)
      rw [hslash]
      exact read?_of_slash hdigits _

/-- A hexadecimal number is no version. -/
theorem read?_hex (d : ImageDigest) : read? d.hex = none :=
  read?_of_noSeparator fun c hc => isSeparator_of_hexValue (List.all_eq_true.mp d.hex_digits c hc)

/-- The version behind the last colon of a reference is that of its tag, unless there is a digest. -/
theorem imageTag?_bind_read? (r : ImageReference) :
    (imageTag? r.text).bind read? = if r.digest.isSome then none else r.tag.bind read? := by
  rw [text]
  cases r.digest with
  | some d =>
    have hhex : ':' ∉ d.hex.toList := fun hc =>
      absurd (List.all_eq_true.mp d.hex_digits _ hc) (by decide)
    rw [Option.elim_some, ImageDigest.text, ← String.append_assoc, ← String.append_assoc,
      imageTag?_append _ hhex]
    exact read?_hex d
  | none =>
    cases htag : r.tag with
    | some t =>
      have hfree : ':' ∉ t.toList := (r.tag_free t htag).2.1
      rw [Option.elim_none, Option.elim_some, String.append_empty, ← String.append_assoc,
        imageTag?_append _ hfree]
      rfl
    | none =>
      rw [Option.elim_none, Option.elim_none, String.append_empty, String.append_empty]
      exact r.imageTag?_repository_bind_read?

end ImageReference

/-! ## The version of a pod -/

namespace ReleaseLine

/-- **The version of a pod without a version in its labels is that of the tag of its image, unless a
digest hides it.** The port of a registry and the digest are never taken for a version. -/
theorem version_of_image (pod : Pod) (k : Container) (r : ImageReference)
    (hlabel : (pod.label? versionLabel).bind read? = none) (hpod : pod.containers = [k])
    (himage : k.image = some r.text) :
    ofPod? pod = (if r.digest.isSome then none else r.tag.bind read?) ∧
      (ofPod? pod = r.tag.bind read? ↔ (r.digest.isSome → r.tag.bind read? = none)) := by
  have hversion : ofPod? pod = if r.digest.isSome then none else r.tag.bind read? := by
    rw [ofPod?, hlabel, hpod, ← r.imageTag?_bind_read?]
    cases htag : imageTag? r.text with
    | none => simp [himage, htag]
    | some tag => simp [himage, htag]
  refine ⟨hversion, ?_⟩
  rw [hversion]
  cases r.digest.isSome with
  | true => simp [eq_comm]
  | false => simp

/-- The image of a registry with a port. -/
def registryImage : ImageReference where
  registry := some { host := "localhost", port := some "5000" }
  path := "osm/osm-controller"
  tag := some "v0.8.4"

/-- The image of a tag that is pinned by a digest. -/
def pinnedImage : ImageReference where
  path := "openservicemesh/osm-controller"
  tag := some "v0.9.2"
  digest := some { algorithm := "sha256", hex := "5f1c09" }

/-- The controller with this image. Its label states no version. -/
def controllerOf (r : ImageReference) : Pod where
  metadata := { name := "osm-controller-1", labels := some [(versionLabel, "latest")] }
  spec := some ⟨[⟨"osm-controller", some r.text⟩], none⟩
  status := none

/-- The port of the registry is in front of the version. -/
theorem version_of_image_registry :
    let pod := controllerOf registryImage
    (pod.label? versionLabel).bind read? = none ∧
      pod.containers = [⟨"osm-controller", some "localhost:5000/osm/osm-controller:v0.8.4"⟩] ∧
      registryImage.text = "localhost:5000/osm/osm-controller:v0.8.4" ∧
      ofPod? pod = some ⟨0, 8⟩ := by
  intro pod
  have hlabel : (pod.label? versionLabel).bind read? = none := by decide +kernel
  have htext : registryImage.text = "localhost:5000/osm/osm-controller:v0.8.4" := by decide +kernel
  have hversion := (version_of_image pod ⟨"osm-controller", some registryImage.text⟩ registryImage
    hlabel rfl rfl).1
  have htag : registryImage.tag.bind read? = some ⟨0, 8⟩ := by decide +kernel
  exact ⟨hlabel, by rw [← htext]; rfl, htext, hversion.trans htag⟩

/-- The tag is in front of a digest, and the version is not found. -/
theorem no_version_of_pinnedImage :
    let pod := controllerOf pinnedImage
    (pod.label? versionLabel).bind read? = none ∧
      pod.containers =
        [⟨"osm-controller", some "openservicemesh/osm-controller:v0.9.2@sha256:5f1c09"⟩] ∧
      pinnedImage.text = "openservicemesh/osm-controller:v0.9.2@sha256:5f1c09" ∧
      pinnedImage.tag.bind read? = some ⟨0, 9⟩ ∧ ofPod? pod = none := by
  decide +kernel

end ReleaseLine

end MeshDoctor
