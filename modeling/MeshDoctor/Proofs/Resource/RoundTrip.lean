import MeshDoctor.Proofs.Json.Codec
import MeshDoctor.Resource.Policy

/-!
# Resources — policies that are written and read again

* `IdentityRef.inverts` to `MeshConfigSpec.inverts`: each part is decoded from what it is written
  as.
* `Metadata.RoundTrips`: so is the metadata of a resource, which is assumed.
* `Normalises`: what is decoded is written in a normal form.
* **`policies_normalise`**: the policies of a mesh do so.
-/

namespace MeshDoctor

open Json

/-! ## Parts -/

theorem IdentityRef.inverts : Inverts IdentityRef.decode IdentityRef.encode := by
  intro r
  simp [IdentityRef.decode, IdentityRef.encode, List.lookup_cons]

theorem TrafficTargetRule.inverts :
    Inverts TrafficTargetRule.decode TrafficTargetRule.encode := by
  intro r
  simp [TrafficTargetRule.decode, TrafficTargetRule.encode, List.lookup_cons]

theorem TrafficTargetSpec.inverts :
    Inverts TrafficTargetSpec.decode TrafficTargetSpec.encode := by
  intro s
  have hsources := asList_map IdentityRef.inverts s.sources
  have hrules := asList_map TrafficTargetRule.inverts s.rules
  simp [TrafficTargetSpec.decode, TrafficTargetSpec.encode, List.lookup_cons,
    IdentityRef.inverts s.destination, hsources, hrules]

theorem asWeight_toInt (weight : Int64) : asWeight (.int weight.toInt) = some weight := by
  have hint : asInt64 (.int weight.toInt) = some weight.toInt :=
    asInt_int weight.le_toInt weight.toInt_le
  rw [asWeight, hint, Option.map_some, Int64.ofInt_toInt]

theorem SplitBackend.inverts : Inverts SplitBackend.decode SplitBackend.encode := by
  intro b
  simp [SplitBackend.decode, SplitBackend.encode, List.lookup_cons, asWeight_toInt]

theorem TrafficSplitSpec.inverts : Inverts TrafficSplitSpec.decode TrafficSplitSpec.encode := by
  intro s
  have hbackends := asList_map SplitBackend.inverts s.backends
  simp [TrafficSplitSpec.decode, TrafficSplitSpec.encode, List.lookup_cons, hbackends]

theorem asPortNumber_toInt (number : Int32) : asPortNumber (.int number.toInt) = some number := by
  have hint : asInt32 (.int number.toInt) = some number.toInt :=
    asInt_int number.le_toInt number.toInt_le
  rw [asPortNumber, hint, Option.map_some, Int32.ofInt_toInt]

theorem BackendPort.inverts : Inverts BackendPort.decode BackendPort.encode := by
  intro p
  simp [BackendPort.decode, BackendPort.encode, List.lookup_cons, asPortNumber_toInt]

theorem BackendRef.inverts : Inverts BackendRef.decode BackendRef.encode := by
  intro b
  have hport := optional_ofOption BackendPort.inverts (fun _ => Value.noConfusion) b.port
  simp [BackendRef.decode, BackendRef.encode, List.lookup_cons, hport]

theorem IngressBackendSpec.inverts :
    Inverts IngressBackendSpec.decode IngressBackendSpec.encode := by
  intro s
  have hbackends := asList_map BackendRef.inverts s.backends
  have hsources := asList_map IdentityRef.inverts s.sources
  simp [IngressBackendSpec.decode, IngressBackendSpec.encode, List.lookup_cons, hbackends, hsources]

theorem TrafficSettings.inverts : Inverts TrafficSettings.decode TrafficSettings.encode := by
  intro t
  simp [TrafficSettings.decode, TrafficSettings.encode, List.lookup_cons]

theorem MeshConfigSpec.inverts : Inverts MeshConfigSpec.decode MeshConfigSpec.encode := by
  intro s
  simp [MeshConfigSpec.decode, MeshConfigSpec.encode, TrafficSettings.inverts s.traffic]

/-! ## Policies -/

/-- The metadata is decoded from what it is written as. -/
def Metadata.RoundTrips (m : Metadata) : Prop :=
  decode m.encode = some m

instance (m : Metadata) : Decidable m.RoundTrips :=
  inferInstanceAs (Decidable (_ = _))

theorem TrafficTarget.decode_encode {t : TrafficTarget} (h : t.metadata.RoundTrips) :
    decode t.encode = some t := by
  rw [Metadata.RoundTrips] at h
  simp [decode, encode, List.lookup_cons, h, TrafficTargetSpec.inverts t.spec]

theorem TrafficSplit.decode_encode {t : TrafficSplit} (h : t.metadata.RoundTrips) :
    decode t.encode = some t := by
  rw [Metadata.RoundTrips] at h
  simp [decode, encode, List.lookup_cons, h, TrafficSplitSpec.inverts t.spec]

theorem IngressBackend.decode_encode {b : IngressBackend} (h : b.metadata.RoundTrips) :
    decode b.encode = some b := by
  rw [Metadata.RoundTrips] at h
  simp [decode, encode, List.lookup_cons, h, IngressBackendSpec.inverts b.spec]

theorem MeshConfig.decode_encode {c : MeshConfig} (h : c.metadata.RoundTrips) :
    decode c.encode = some c := by
  rw [Metadata.RoundTrips] at h
  simp [decode, encode, List.lookup_cons, h, MeshConfigSpec.inverts c.spec]

/-! ## Normal forms -/

/-- A decoder gives back each value of which `P` holds, and if it reads such a value anywhere, the
value is written in a form that is read as the same value and written in the same form again. -/
def Normalises {α : Type} (d : Decoder α) (encode : α → Value) (P : α → Prop) : Prop :=
  (∀ a, P a → d (encode a) = some a) ∧
    ∀ v a, d v = some a → P a →
      d (encode a) = some a ∧ (d (encode a)).map encode = some (encode a)

theorem normalises_of_decode_encode {α : Type} {d : Decoder α} {encode : α → Value} {P : α → Prop}
    (h : ∀ a, P a → d (encode a) = some a) : Normalises d encode P := by
  refine ⟨h, fun v a _ ha => ⟨h a ha, ?_⟩⟩
  rw [h a ha, Option.map_some]

/-- **What is read of a policy is written in a normal form**, if its metadata is: from an object or
a row, with fields missing or with unknown ones. -/
theorem policies_normalise :
    Normalises IdentityRef.decode IdentityRef.encode (fun _ => True) ∧
    Normalises TrafficTarget.decode TrafficTarget.encode (·.metadata.RoundTrips) ∧
    Normalises TrafficSplit.decode TrafficSplit.encode (·.metadata.RoundTrips) ∧
    Normalises IngressBackend.decode IngressBackend.encode (·.metadata.RoundTrips) ∧
    Normalises MeshConfig.decode MeshConfig.encode (·.metadata.RoundTrips) :=
  ⟨normalises_of_decode_encode fun r _ => IdentityRef.inverts r,
    normalises_of_decode_encode fun _ => TrafficTarget.decode_encode,
    normalises_of_decode_encode fun _ => TrafficSplit.decode_encode,
    normalises_of_decode_encode fun _ => IngressBackend.decode_encode,
    normalises_of_decode_encode fun _ => MeshConfig.decode_encode⟩

/-- A traffic target written as a row, with a field that no one knows. -/
def rowTarget : Value :=
  .array
    [.string "access.smi-spec.io/v1alpha3",
      .object [("labels", .object [("app", .string "store")]), ("name", .string "buyers")],
      .object
        [("comment", .int 7),
          ("sources", .array [.array [.string "ServiceAccount", .string "buyer"]])]]

/-- What it means. -/
def buyersTarget : TrafficTarget where
  apiVersion := "access.smi-spec.io/v1alpha3"
  metadata := { labels := some [("app", "store")], name := some "buyers" }
  spec := { sources := [{ kind := "ServiceAccount", name := "buyer" }] }

/-- The row is written in its normal form. -/
theorem policies_normalise_buyers :
    TrafficTarget.decode rowTarget = some buyersTarget ∧ buyersTarget.metadata.RoundTrips ∧
      TrafficTarget.decode buyersTarget.encode = some buyersTarget ∧
      (TrafficTarget.decode buyersTarget.encode).map TrafficTarget.encode =
        some buyersTarget.encode := by
  have hdecode : TrafficTarget.decode rowTarget = some buyersTarget := by decide +kernel
  have hmetadata : buyersTarget.metadata.RoundTrips := by decide +kernel
  exact ⟨hdecode, hmetadata, policies_normalise.2.1.2 rowTarget buyersTarget hdecode hmetadata⟩

end MeshDoctor
