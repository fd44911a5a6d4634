import LogOperator.Api.Client
import LogOperator.Api.Request
import LogOperator.Api.Response
import LogOperator.Cluster.Store
import LogOperator.Command.Arguments
import LogOperator.Command.Report
import LogOperator.Component.Aggregator
import LogOperator.Component.Blueprint
import LogOperator.Component.Collector
import LogOperator.Component.Dashboard
import LogOperator.Component.Fingerprint
import LogOperator.Component.Identity
import LogOperator.Component.SearchEngine
import LogOperator.Config.Aggregator
import LogOperator.Config.Collector
import LogOperator.Config.Dialect
import LogOperator.Config.Section
import LogOperator.Desired.Build
import LogOperator.Desired.State
import LogOperator.Dict
import LogOperator.Digest
import LogOperator.Document
import LogOperator.Endpoint
import LogOperator.File
import LogOperator.Instant
import LogOperator.Json
import LogOperator.Json.Reader
import LogOperator.Json.Writer
import LogOperator.Main
import LogOperator.Object.Catalog
import LogOperator.Object.Id
import LogOperator.Object.Metadata
import LogOperator.Object.Pod
import LogOperator.Object.Resource
import LogOperator.Object.Shape
import LogOperator.Pipeline.Definition
import LogOperator.Pipeline.Manifest
import LogOperator.Pipeline.Spec
import LogOperator.Pipeline.Validation
import LogOperator.Pipeline.Violation
import LogOperator.Proofs.Api.Agreement
import LogOperator.Proofs.Api.Conveyance
import LogOperator.Proofs.Api.Paths
import LogOperator.Proofs.Api.Registry
import LogOperator.Proofs.Api.Server
import LogOperator.Proofs.Cluster.Admission
import LogOperator.Proofs.Cluster.Calls
import LogOperator.Proofs.Cluster.Log
import LogOperator.Proofs.Component.Fingerprint
import LogOperator.Proofs.Component.Framing
import LogOperator.Proofs.Component.Pods
import LogOperator.Proofs.Config.Destinations
import LogOperator.Proofs.Config.Determination
import LogOperator.Proofs.Config.Directives
import LogOperator.Proofs.Config.Interpolation
import LogOperator.Proofs.Config.Outline
import LogOperator.Proofs.Config.Patterns
import LogOperator.Proofs.Config.Reading
import LogOperator.Proofs.Config.References
import LogOperator.Proofs.Config.Sections
import LogOperator.Proofs.Config.Spelling
import LogOperator.Proofs.Desired.Content
import LogOperator.Proofs.Desired.Difference
import LogOperator.Proofs.Desired.Freshness
import LogOperator.Proofs.Desired.Identities
import LogOperator.Proofs.Desired.Readers
import LogOperator.Proofs.Desired.Slot
import LogOperator.Proofs.Document.Abridgement
import LogOperator.Proofs.Endpoint.Url
import LogOperator.Proofs.Json.RoundTrip
import LogOperator.Proofs.Json.Scalars
import LogOperator.Proofs.Object.Instants
import LogOperator.Proofs.Object.Members
import LogOperator.Proofs.Object.Records
import LogOperator.Proofs.Object.Resources
import LogOperator.Proofs.Object.Shapes
import LogOperator.Proofs.Pipeline.Acceptance
import LogOperator.Proofs.Pipeline.Faults
import LogOperator.Proofs.Pipeline.Normalisation
import LogOperator.Proofs.Pipeline.Restatement
import LogOperator.Proofs.Pipeline.Telling
import LogOperator.Proofs.Pipeline.WellFormed
import LogOperator.Proofs.Pipeline.WrittenForm
import LogOperator.Proofs.Reconcile.Action
import LogOperator.Proofs.Reconcile.Activity
import LogOperator.Proofs.Reconcile.Agreement
import LogOperator.Proofs.Reconcile.Backlog
import LogOperator.Proofs.Reconcile.ColdStart
import LogOperator.Proofs.Reconcile.Convergence
import LogOperator.Proofs.Reconcile.Demand
import LogOperator.Proofs.Reconcile.Drift
import LogOperator.Proofs.Reconcile.Edit
import LogOperator.Proofs.Reconcile.Footprint
import LogOperator.Proofs.Reconcile.Lifecycle
import LogOperator.Proofs.Reconcile.Order
import LogOperator.Proofs.Reconcile.Ownership
import LogOperator.Proofs.Reconcile.Pass
import LogOperator.Proofs.Reconcile.Permissions
import LogOperator.Proofs.Reconcile.Placement
import LogOperator.Proofs.Reconcile.Propagation
import LogOperator.Proofs.Reconcile.Provenance
import LogOperator.Proofs.Reconcile.Rejection
import LogOperator.Proofs.Reconcile.Repair
import LogOperator.Proofs.Reconcile.Report
import LogOperator.Proofs.Reconcile.Restart
import LogOperator.Proofs.Reconcile.Run
import LogOperator.Proofs.Reconcile.Schedule
import LogOperator.Proofs.Reconcile.Stability
import LogOperator.Proofs.Reconcile.Tenancy
import LogOperator.Proofs.Routing.Delivery
import LogOperator.Proofs.Routing.Files
import LogOperator.Proofs.Routing.Gathering
import LogOperator.Proofs.Routing.Table
import LogOperator.Proofs.Routing.Tags
import LogOperator.Proofs.Text.Lines
import LogOperator.Proofs.Text.Names
import LogOperator.Proofs.Text.Newlines
import LogOperator.Proofs.Text.Numerals
import LogOperator.Proofs.Text.Wildcard
import LogOperator.Reconcile.Action
import LogOperator.Reconcile.Error
import LogOperator.Reconcile.Loop
import LogOperator.Reconcile.Pass
import LogOperator.Routing.Table
import LogOperator.Settings
import LogOperator.Text.Class
import LogOperator.Text.Hidden
import LogOperator.Text.Lines
import LogOperator.Text.Numeral
import LogOperator.Text.Quoted
import LogOperator.Toml.Quoted
import LogOperator.Toml.Reader
import LogOperator.Toml.Scalar
import LogOperator.Toml.Table
import LogOperator.Toml.Value
import LogOperator.Yaml.Core
import LogOperator.Yaml.Node
import LogOperator.Yaml.Node.Reader
import LogOperator.Yaml.Property
import LogOperator.Yaml.Scalar
import LogOperator.Yaml.Source
import LogOperator.Yaml.Token
import LogOperator.Yaml.Token.Reader
import LogOperator.Yaml.Value
import LogOperator.Yaml.Writer
