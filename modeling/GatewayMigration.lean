import GatewayMigration.Address
import GatewayMigration.Annotations.All
import GatewayMigration.Annotations.BackendTls
import GatewayMigration.Annotations.Blockers
import GatewayMigration.Annotations.ClientCert
import GatewayMigration.Annotations.ExternalAuthorization
import GatewayMigration.Annotations.FilterNotice
import GatewayMigration.Annotations.Key
import GatewayMigration.Annotations.Parse
import GatewayMigration.Annotations.Pass
import GatewayMigration.Annotations.ProxySettings
import GatewayMigration.Annotations.RateLimit
import GatewayMigration.Annotations.Setting
import GatewayMigration.Annotations.SslRedirect
import GatewayMigration.Annotations.Timeouts
import GatewayMigration.CommandLine.Arguments
import GatewayMigration.CommandLine.Option
import GatewayMigration.CommandLine.Run
import GatewayMigration.Decimal.Binary64
import GatewayMigration.Decimal.Shortest
import GatewayMigration.Document.Diagnostic
import GatewayMigration.Document.Json
import GatewayMigration.Document.Timestamp
import GatewayMigration.Document.Value
import GatewayMigration.Document.Yaml.Construct
import GatewayMigration.Document.Yaml.Cursor
import GatewayMigration.Document.Yaml.Lexer
import GatewayMigration.Document.Yaml.Node
import GatewayMigration.Document.Yaml.Page
import GatewayMigration.Document.Yaml.Printer
import GatewayMigration.Document.Yaml.Property
import GatewayMigration.Document.Yaml.Resolve
import GatewayMigration.Document.Yaml.Scalar
import GatewayMigration.Document.Yaml.Style
import GatewayMigration.Document.Yaml.Token
import GatewayMigration.Emission.EnvoyFilter
import GatewayMigration.Emission.Grant
import GatewayMigration.Emission.Materialize
import GatewayMigration.Emission.RedirectRoute
import GatewayMigration.Files
import GatewayMigration.Gateway.Basic
import GatewayMigration.Gateway.Provenance
import GatewayMigration.Gateway.Schema
import GatewayMigration.Ingress.Basic
import GatewayMigration.Ingress.Schema
import GatewayMigration.Lowering.Group
import GatewayMigration.Lowering.Lower
import GatewayMigration.Lowering.Naming
import GatewayMigration.Main
import GatewayMigration.Manifest.Loader
import GatewayMigration.Manifest.Source
import GatewayMigration.Manifest.Writer
import GatewayMigration.ObjectKey
import GatewayMigration.OrderedMap
import GatewayMigration.Plan.Basic
import GatewayMigration.Plan.Diagnostic
import GatewayMigration.Plan.Schema
import GatewayMigration.Plan.State
import GatewayMigration.Proofs.Annotations.Edits
import GatewayMigration.Proofs.Annotations.Frame
import GatewayMigration.Proofs.Annotations.Aspects
import GatewayMigration.Proofs.Annotations.Settings
import GatewayMigration.Proofs.Collections
import GatewayMigration.Proofs.Emission.Extensions
import GatewayMigration.Proofs.Emission.Filters
import GatewayMigration.Proofs.Emission.Interruption
import GatewayMigration.Proofs.Emission.Materialize
import GatewayMigration.Proofs.Lowering.Delivery
import GatewayMigration.Proofs.Lowering.Gateways
import GatewayMigration.Proofs.Lowering.Groups
import GatewayMigration.Proofs.Lowering.Routes
import GatewayMigration.Proofs.Run.Progress
import GatewayMigration.Proofs.Topology.Attach
import GatewayMigration.Proofs.Topology.Certificates
import GatewayMigration.Proofs.Topology.Listeners
import GatewayMigration.Proofs.Address
import GatewayMigration.Proofs.Url
import GatewayMigration.Report.Fault
import GatewayMigration.Report.FieldError
import GatewayMigration.Report.Notification
import GatewayMigration.Run.Conversion
import GatewayMigration.Run.FeatureRunner
import GatewayMigration.Run.IngressNginx
import GatewayMigration.Run.Progress
import GatewayMigration.Run.Provider
import GatewayMigration.Run.Registry
import GatewayMigration.Schema.Checked
import GatewayMigration.Schema.Codec
import GatewayMigration.Schema.Problem
import GatewayMigration.Schema.Record
import GatewayMigration.Text.Blank
import GatewayMigration.Text.Case
import GatewayMigration.Text.CaseTable
import GatewayMigration.Text.Digit
import GatewayMigration.Text.Integer
import GatewayMigration.Text.Printable
import GatewayMigration.Text.Quoted
import GatewayMigration.Text.Utf8
import GatewayMigration.Topology.Attach
import GatewayMigration.Topology.Layout
import GatewayMigration.Url
import GatewayMigration.Proofs.Annotations.Conflicts
import GatewayMigration.Proofs.Text.Integer
import GatewayMigration.Proofs.Annotations.Completion
import GatewayMigration.Proofs.Topology.Output
import GatewayMigration.Proofs.Topology.Agreement
import GatewayMigration.Proofs.Topology.Integrity
import GatewayMigration.Proofs.Topology.Isolation
import GatewayMigration.Proofs.Annotations.Effects
import GatewayMigration.Proofs.Annotations.Scope
import GatewayMigration.Proofs.Lowering.Locality
import GatewayMigration.Proofs.Planning.Locality
import GatewayMigration.Proofs.Annotations.Values
import GatewayMigration.Proofs.Planning.Confinement
import GatewayMigration.Proofs.Planning.LastWriter
import GatewayMigration.Proofs.Planning.Warnings
import GatewayMigration.Proofs.Planning.Burst
import GatewayMigration.Proofs.Lowering.Hosts
import GatewayMigration.Proofs.Topology.Redirects
import GatewayMigration.Proofs.Emission.FirstFilter
import GatewayMigration.Proofs.Planning.FilterNotice
import GatewayMigration.Proofs.Emission.Promises
import GatewayMigration.Proofs.Emission.Announcements
import GatewayMigration.Proofs.Annotations.Enrichment
import GatewayMigration.Proofs.Annotations.Order
import GatewayMigration.Proofs.Annotations.Repetition
import GatewayMigration.Proofs.Emission.Again
import GatewayMigration.Proofs.Topology.Identity
import GatewayMigration.Proofs.Manifest.Reading
import GatewayMigration.Proofs.Files
import GatewayMigration.Proofs.Text.Utf8
import GatewayMigration.Proofs.Planning.Blockers
import GatewayMigration.Proofs.Run.Conversion
import GatewayMigration.Proofs.CommandLine.ExitCode
import GatewayMigration.Proofs.Planning.Services
import GatewayMigration.Proofs.Planning.Policies
import GatewayMigration.Proofs.Planning.PolicySettings
import GatewayMigration.Proofs.Planning.WellFormed
import GatewayMigration.Proofs.Schema.Record
import GatewayMigration.Proofs.Gateway.RoundTrip
import GatewayMigration.Proofs.Manifest.Flattening
import GatewayMigration.Proofs.Manifest.Location
import GatewayMigration.Proofs.Topology.Provenance
import GatewayMigration.Proofs.Text.Blank
import GatewayMigration.Proofs.Topology.Flags
import GatewayMigration.Proofs.Topology.Replacement
import GatewayMigration.Proofs.Topology.Again
import GatewayMigration.Proofs.Topology.Shapes
import GatewayMigration.Proofs.Lowering.Contributors
import GatewayMigration.Proofs.Lowering.Outcomes
import GatewayMigration.Proofs.Annotations.RouteIndex
import GatewayMigration.Proofs.Topology.InPlace
import GatewayMigration.Proofs.Annotations.Timeouts
import GatewayMigration.Proofs.Annotations.Numbers
import GatewayMigration.Proofs.Gateway.Documents
import GatewayMigration.Proofs.Run.Registration
import GatewayMigration.Proofs.Text.Case
import GatewayMigration.Proofs.Text.Numeral
import GatewayMigration.Proofs.Annotations.BodySize
import GatewayMigration.Proofs.Annotations.ZoneRate
