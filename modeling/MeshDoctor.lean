import MeshDoctor.Bundle
import MeshDoctor.Catalogue.ControlPlane
import MeshDoctor.Catalogue.Diagnostic
import MeshDoctor.Catalogue.Events
import MeshDoctor.Catalogue.Namespaces
import MeshDoctor.Catalogue.Pods
import MeshDoctor.Catalogue.Policies
import MeshDoctor.Catalogue.Probes
import MeshDoctor.Catalogue.Sidecars
import MeshDoctor.Check.Basic
import MeshDoctor.Check.Outcome
import MeshDoctor.Check.Problem
import MeshDoctor.Check.Record
import MeshDoctor.Cluster.Mesh
import MeshDoctor.Cluster.Snapshot
import MeshDoctor.Cluster.Typed
import MeshDoctor.CommandLine.Basic
import MeshDoctor.CommandLine.Reader
import MeshDoctor.CommandLine.Run
import MeshDoctor.Config.Basic
import MeshDoctor.Config.Document
import MeshDoctor.Config.Load
import MeshDoctor.Envoy.Admin
import MeshDoctor.Envoy.ConfigDump
import MeshDoctor.Envoy.Getter
import MeshDoctor.Failure
import MeshDoctor.Files.Path
import MeshDoctor.Files.Tree
import MeshDoctor.Inquiry.Basic
import MeshDoctor.Inquiry.Request
import MeshDoctor.Json.Binary64
import MeshDoctor.Json.Decode
import MeshDoctor.Json.Printer
import MeshDoctor.Json.Reader
import MeshDoctor.Json.Shape
import MeshDoctor.Json.Value
import MeshDoctor.Kubectl.Client
import MeshDoctor.Kubectl.PortForward
import MeshDoctor.Kubectl.Serve
import MeshDoctor.Kubectl.Tool
import MeshDoctor.Main
import MeshDoctor.PodRef
import MeshDoctor.Polling
import MeshDoctor.Proofs.Catalogue.Faults
import MeshDoctor.Proofs.Check.Ledger
import MeshDoctor.Proofs.Check.Runner
import MeshDoctor.Proofs.Cluster.Typed
import MeshDoctor.Proofs.Inquiry.Faults
import MeshDoctor.Proofs.Inquiry.Finds
import MeshDoctor.Proofs.Suite.Faults
import MeshDoctor.Report.Log
import MeshDoctor.Report.Results
import MeshDoctor.Report.Table
import MeshDoctor.Resource.Builtin
import MeshDoctor.Resource.Metadata
import MeshDoctor.Resource.Owner
import MeshDoctor.Resource.Pod
import MeshDoctor.Resource.Policy
import MeshDoctor.Resource.Shapes.Basic
import MeshDoctor.Resource.Shapes.Builtin
import MeshDoctor.Resource.Shapes.Container
import MeshDoctor.Resource.Shapes.Pod
import MeshDoctor.Resource.Shapes.Volume
import MeshDoctor.Session
import MeshDoctor.Suite
import MeshDoctor.Text.Numeral
import MeshDoctor.Text.Pieces
import MeshDoctor.Text.Radix
import MeshDoctor.Text.Utf8
import MeshDoctor.Text.Width
import MeshDoctor.Time.Date
import MeshDoctor.Time.Instant
import MeshDoctor.Unicode.CodeMap
import MeshDoctor.Unicode.CodeSet
import MeshDoctor.Unicode.Composition
import MeshDoctor.Unicode.Direction
import MeshDoctor.Unicode.DomainForm
import MeshDoctor.Unicode.Joining
import MeshDoctor.Unicode.Mark
import MeshDoctor.Unicode.NormalForm
import MeshDoctor.Unicode.Picture
import MeshDoctor.Unicode.Room
import MeshDoctor.Url.Basic
import MeshDoctor.Url.Domain
import MeshDoctor.Url.Encoding
import MeshDoctor.Url.Host
import MeshDoctor.Url.Path
import MeshDoctor.Url.Punycode
import MeshDoctor.Version
import MeshDoctor.Yaml.Cursor
import MeshDoctor.Yaml.Document
import MeshDoctor.Yaml.Lexer
import MeshDoctor.Yaml.Node
import MeshDoctor.Yaml.Printer
import MeshDoctor.Yaml.Property
import MeshDoctor.Yaml.Resolution
import MeshDoctor.Yaml.Scalar
import MeshDoctor.Yaml.Token
import MeshDoctor.Proofs.Cluster.Snapshot
import MeshDoctor.Proofs.Catalogue.Scope
import MeshDoctor.Proofs.Suite.Isolation
import MeshDoctor.Proofs.Catalogue.Outcomes
import MeshDoctor.Proofs.Catalogue.TrafficPolicy
import MeshDoctor.Proofs.Catalogue.Order
import MeshDoctor.Proofs.Suite.Order
import MeshDoctor.Proofs.Envoy.Entries
import MeshDoctor.Proofs.Json.Reader
import MeshDoctor.Proofs.Envoy.Document
import MeshDoctor.Proofs.Json.Leaves
import MeshDoctor.Proofs.Json.ReadBack
import MeshDoctor.Proofs.Json.Codec
import MeshDoctor.Proofs.Envoy.RoundTrip
import MeshDoctor.Proofs.Resource.RoundTrip
import MeshDoctor.Proofs.Catalogue.Agreement
import MeshDoctor.Proofs.Inquiry.Surroundings
import MeshDoctor.Proofs.Kubectl.Serve
import MeshDoctor.Proofs.Catalogue.Closure
import MeshDoctor.Proofs.Inquiry.Kinds
import MeshDoctor.Proofs.Session.Connect
import MeshDoctor.Proofs.Suite.Consistency
import MeshDoctor.Proofs.CommandLine.ExitStatus
import MeshDoctor.Proofs.Suite.Getters
import MeshDoctor.Proofs.CommandLine.Sidecars
import MeshDoctor.Proofs.Kubectl.Refinement
import MeshDoctor.Proofs.Kubectl.Client
import MeshDoctor.Proofs.Bundle.Failures
import MeshDoctor.Proofs.Bundle.Concurrency
import MeshDoctor.Proofs.Bundle.Completeness
import MeshDoctor.Proofs.Catalogue.Injection
import MeshDoctor.Proofs.Catalogue.Versions
import MeshDoctor.Proofs.Suite.Versions
import MeshDoctor.Proofs.Config.Override
import MeshDoctor.Proofs.Envoy.Admin
import MeshDoctor.Proofs.Version.Image
import MeshDoctor.Proofs.Catalogue.Monitoring
import MeshDoctor.Proofs.Catalogue.Routes
import MeshDoctor.Proofs.Yaml.Scalar
import MeshDoctor.Proofs.Yaml.Lexer
import MeshDoctor.Proofs.Yaml.Document
import MeshDoctor.Proofs.Config.RoundTrip
import MeshDoctor.Proofs.Text.Blanks
import MeshDoctor.Proofs.Text.Numeral
import MeshDoctor.Proofs.Version.Components
import MeshDoctor.Proofs.Cluster.Services
import MeshDoctor.Proofs.Catalogue.Clusters
import MeshDoctor.Proofs.Catalogue.Endpoints
import MeshDoctor.Proofs.Resource.Readiness
import MeshDoctor.Proofs.PodRef
import MeshDoctor.Proofs.Cluster.Pods
import MeshDoctor.Proofs.Cluster.Selection
import MeshDoctor.Proofs.Catalogue.ControllerPods
import MeshDoctor.Proofs.Suite.PodWarnings
import MeshDoctor.Proofs.Catalogue.ServicePolicies
import MeshDoctor.Proofs.Session.Settings
import MeshDoctor.Proofs.Polling.Limit
import MeshDoctor.Proofs.Kubectl.PortForward
import MeshDoctor.Proofs.Catalogue.Probes
import MeshDoctor.Proofs.Cluster.Lookup
import MeshDoctor.Proofs.Cluster.Decoding
import MeshDoctor.Proofs.Kubectl.Options
import MeshDoctor.Proofs.Report.Results
