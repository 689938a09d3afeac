import MeshDoctor.Check.Problem
import MeshDoctor.Resource.Pod

/-!
# Controller versions

A controller is known by its release line, `v` with a major and a minor number. What the checks
expect of a sidecar depends on the release line.

* `ReleaseLine.read?`: the release line of a version such as `v0.10.0-rc.1`.
* `ReleaseLine.ofPod?`: the release line of a controller pod, from its label or an image tag.
* `listenerName`, `routeConfigName`, `trafficTargetVersion`: what a release line expects.
-/

namespace MeshDoctor

/-! ## Release lines -/

/-- A release line of the controller. -/
structure ReleaseLine where
  major : Nat
  minor : Nat
  deriving DecidableEq, Repr

namespace ReleaseLine

/-- The written form of a release line. -/
def text (r : ReleaseLine) : String :=
  "v" ++ toString r.major ++ "." ++ toString r.minor

/-- The characters between the numbers of a version. -/
def isSeparator (c : Char) : Bool :=
  c = '.' || c = '-' || c = '+'

/-- The release line of a version, from the two numbers at its front. -/
def read? (version : String) : Option ReleaseLine :=
  let cs := (Text.trimBlanks version.toList).dropWhile (· = 'v')
  match cs.splitOnP isSeparator with
  | major :: minor :: _ => do
    let major ← Text.readNumeral? UInt32.size major
    let minor ← Text.readNumeral? UInt32.size minor
    some ⟨major, minor⟩
  | _ => none

/-- The tag of an image, what follows its last colon. -/
def imageTag? (image : String) : Option String :=
  (Text.cutLast ':' image.toList).map fun (_, tag) => String.ofList tag

/-- The label that states the version of a workload. -/
def versionLabel : String := "app.kubernetes.io/version"

/-- The release line of a controller pod: that of its label, else of the first image tag that has
one. -/
def ofPod? (pod : Pod) : Option ReleaseLine :=
  match (pod.label? versionLabel).bind read? with
  | some r => some r
  | none => (pod.containers.filterMap fun c => c.image.bind imageTag?).findSome? read?

end ReleaseLine

/-! ## What a release line expects -/

/-- The direction of traffic. -/
inductive Direction where
  | inbound
  | outbound
  deriving DecidableEq, Repr

/-- The word for a direction. -/
def Direction.word : Direction → String
  | .inbound => "inbound"
  | .outbound => "outbound"

/-- The release lines that the checks know how to read. -/
def supportedVersions : List String :=
  ["v0.5", "v0.6", "v0.7", "v0.8", "v0.9", "v0.10", "v0.11"]

/-- Do the checks know this release line? -/
def isSupported (version : String) : Bool :=
  supportedVersions.contains version

/-- The listener for outbound traffic, by release line. -/
def outboundListenerNames : List (String × String) :=
  [("v0.5", "outbound-listener"), ("v0.6", "outbound-listener"), ("v0.7", "outbound-listener"),
    ("v0.8", "outbound-listener"), ("v0.9", "outbound-listener"), ("v0.10", "outbound-listener"),
    ("v0.11", "outbound-listener")]

/-- The listener for inbound traffic, by release line. -/
def inboundListenerNames : List (String × String) :=
  [("v0.5", "inbound-listener"), ("v0.6", "inbound-listener"), ("v0.7", "inbound-listener"),
    ("v0.8", "inbound-listener"), ("v0.9", "inbound-listener"), ("v0.10", "inbound-listener"),
    ("v0.11", "inbound-listener")]

/-- The version of traffic targets, by release line. -/
def trafficTargetVersions : List (String × String) :=
  [("v0.5", "v1alpha2"), ("v0.6", "v1alpha3"), ("v0.7", "v1alpha3"), ("v0.8", "v1alpha3"),
    ("v0.9", "v1alpha3"), ("v0.10", "v1alpha3"), ("v0.11", "v1alpha3")]

/-- The outbound and the inbound route configuration, by release line. -/
def routeConfigNames : List (String × String × String) :=
  [("v0.5", "RDS_Outbound", "RDS_Inbound"), ("v0.6", "RDS_Outbound", "RDS_Inbound"),
    ("v0.7", "RDS_Outbound", "RDS_Inbound"), ("v0.8", "RDS_Outbound", "RDS_Inbound"),
    ("v0.9", "rds-outbound", "rds-inbound"), ("v0.10", "rds-outbound", "rds-inbound"),
    ("v0.11", "rds-outbound", "rds-inbound")]

/-- What a table holds for a release line. -/
def lookUp {α : Type} (table : List (String × α)) (version : String) : Except Problem α :=
  match table.lookup version with
  | some a => .ok a
  | none => .error (.unrecognizedVersion version)

/-- The listener that a release line programs for a direction. -/
def listenerName (version : String) : Direction → Except Problem String
  | .inbound => lookUp inboundListenerNames version
  | .outbound => lookUp outboundListenerNames version

/-- The route configuration that a release line programs for a direction. -/
def routeConfigName (version : String) (direction : Direction) : Except Problem String :=
  (lookUp routeConfigNames version).map fun (outbound, inbound) =>
    match direction with
    | .outbound => outbound
    | .inbound => inbound

/-- The version of traffic targets that a release line supports. -/
def trafficTargetVersion (version : String) : Except Problem String :=
  lookUp trafficTargetVersions version

end MeshDoctor
