import AttributeRelease.Attribute
import AttributeRelease.Authority
import AttributeRelease.Cache.Basic
import AttributeRelease.Calendar.Date
import AttributeRelease.Calendar.Reading
import AttributeRelease.Cipher.Aes
import AttributeRelease.Cipher.Blake3
import AttributeRelease.Cipher.Gcm
import AttributeRelease.Derivation
import AttributeRelease.Directory.Basic
import AttributeRelease.Directory.Connector
import AttributeRelease.Distinct
import AttributeRelease.Document.Plugin
import AttributeRelease.Document.Policy
import AttributeRelease.Document.Value
import AttributeRelease.Duration
import AttributeRelease.Escaping
import AttributeRelease.Graph.Basic
import AttributeRelease.Graph.Order
import AttributeRelease.Json.Access
import AttributeRelease.Json.Basic
import AttributeRelease.Json.Parser
import AttributeRelease.Json.Record
import AttributeRelease.Mapping.Basic
import AttributeRelease.Mapping.Rule
import AttributeRelease.Number.Binary64
import AttributeRelease.Number.Decimal
import AttributeRelease.Number.Notation
import AttributeRelease.Number.Shortest
import AttributeRelease.Part
import AttributeRelease.Pattern.Basic
import AttributeRelease.Pattern.Bracket
import AttributeRelease.Pattern.Class
import AttributeRelease.Pattern.Escape
import AttributeRelease.Pattern.Expr
import AttributeRelease.Pattern.Fault
import AttributeRelease.Pattern.Matching
import AttributeRelease.Pattern.Parser
import AttributeRelease.Pattern.Property
import AttributeRelease.Pattern.Replacement
import AttributeRelease.Plugin.Basic
import AttributeRelease.Plugin.Settings
import AttributeRelease.Pool.Basic
import AttributeRelease.Pool.Strategy
import AttributeRelease.Proofs.Attributes
import AttributeRelease.Proofs.Authority.Requested
import AttributeRelease.Proofs.Cache.Digest
import AttributeRelease.Proofs.Cache.Entries
import AttributeRelease.Proofs.Cache.Eviction
import AttributeRelease.Proofs.Cache.History
import AttributeRelease.Proofs.Calendar.Reading
import AttributeRelease.Proofs.Checks
import AttributeRelease.Proofs.Cipher.Gcm
import AttributeRelease.Proofs.Derivation.Scoped
import AttributeRelease.Proofs.Directory.Connections
import AttributeRelease.Proofs.Distinct
import AttributeRelease.Proofs.Graph.Acyclic
import AttributeRelease.Proofs.Graph.Alike
import AttributeRelease.Proofs.Graph.Cycle
import AttributeRelease.Proofs.Graph.Order
import AttributeRelease.Proofs.Graph.Plugins
import AttributeRelease.Proofs.Json.Record
import AttributeRelease.Proofs.Json.Text
import AttributeRelease.Proofs.Mapping.Replacement
import AttributeRelease.Proofs.Number.Decimal
import AttributeRelease.Proofs.Number.Notation
import AttributeRelease.Proofs.Number.Numeral
import AttributeRelease.Proofs.Number.Rounding
import AttributeRelease.Proofs.Number.Shortest
import AttributeRelease.Proofs.Pattern.Anchored
import AttributeRelease.Proofs.Pattern.Brackets
import AttributeRelease.Proofs.Pattern.Enclosed
import AttributeRelease.Proofs.Pattern.Ends
import AttributeRelease.Proofs.Pattern.Lookahead
import AttributeRelease.Proofs.Pattern.Rounds
import AttributeRelease.Proofs.Pattern.Spans
import AttributeRelease.Proofs.Pool.Conservation
import AttributeRelease.Proofs.Pool.Size
import AttributeRelease.Proofs.Pool.Traffic
import AttributeRelease.Proofs.Registry.Acceptance
import AttributeRelease.Proofs.Registry.Addition
import AttributeRelease.Proofs.Registry.Check
import AttributeRelease.Proofs.Registry.Iteration
import AttributeRelease.Proofs.Registry.Order
import AttributeRelease.Proofs.Registry.Principal
import AttributeRelease.Proofs.Release.Acceptance
import AttributeRelease.Proofs.Release.BuiltIn
import AttributeRelease.Proofs.Release.Duality
import AttributeRelease.Proofs.Release.Faults
import AttributeRelease.Proofs.Release.Outcome
import AttributeRelease.Proofs.Release.Policies
import AttributeRelease.Proofs.Release.Selection
import AttributeRelease.Proofs.Release.Shortcut
import AttributeRelease.Proofs.Release.Unnamed
import AttributeRelease.Proofs.RequestCodec
import AttributeRelease.Proofs.Resolution.Acyclic
import AttributeRelease.Proofs.Resolution.Calls
import AttributeRelease.Proofs.Resolution.Cycle
import AttributeRelease.Proofs.Resolution.Dependencies
import AttributeRelease.Proofs.Resolution.Determined
import AttributeRelease.Proofs.Resolution.Evaluation
import AttributeRelease.Proofs.Resolution.Failover
import AttributeRelease.Proofs.Resolution.InProgress
import AttributeRelease.Proofs.Resolution.Once
import AttributeRelease.Proofs.Resolution.Outcome
import AttributeRelease.Proofs.Resolution.Requested
import AttributeRelease.Proofs.Resolution.Required
import AttributeRelease.Proofs.Resolution.Room
import AttributeRelease.Proofs.Resolution.Sequence
import AttributeRelease.Proofs.Resolution.Simulation
import AttributeRelease.Proofs.Resolution.Sound
import AttributeRelease.Proofs.Resolution.Target
import AttributeRelease.Proofs.Resolution.Trace
import AttributeRelease.Proofs.Resolution.Transparency
import AttributeRelease.Proofs.Resolution.Walk
import AttributeRelease.Proofs.Resolution.Yield
import AttributeRelease.Proofs.Sql.Exact
import AttributeRelease.Proofs.Sql.Rows
import AttributeRelease.Proofs.Sql.Shown
import AttributeRelease.Proofs.Sql.Whole
import AttributeRelease.Proofs.Statement.Cached
import AttributeRelease.Proofs.Statement.Data
import AttributeRelease.Proofs.Statement.Filter
import AttributeRelease.Proofs.Statement.Literal
import AttributeRelease.Proofs.Statement.Reload
import AttributeRelease.Proofs.Statement.Shared
import AttributeRelease.Proofs.Template.Outline
import AttributeRelease.Proofs.Template.Plain
import AttributeRelease.Proofs.Template.Segment
import AttributeRelease.Proofs.Text.Base64
import AttributeRelease.Proofs.Text.Blank
import AttributeRelease.Proofs.Text.CharSet
import AttributeRelease.Proofs.Text.Utf8
import AttributeRelease.Proofs.Transient.Exchange
import AttributeRelease.Proofs.Transient.Identifier
import AttributeRelease.Proofs.Transient.Token
import AttributeRelease.Proofs.Value.Codec
import AttributeRelease.Refused
import AttributeRelease.Registry.Basic
import AttributeRelease.Registry.Check
import AttributeRelease.Rehearsal.Basic
import AttributeRelease.Rehearsal.Criterion
import AttributeRelease.Rehearsal.Database
import AttributeRelease.Rehearsal.Directory
import AttributeRelease.Rehearsal.Sealer
import AttributeRelease.Release.Criterion
import AttributeRelease.Release.Engine
import AttributeRelease.Release.Matcher
import AttributeRelease.Release.Policy
import AttributeRelease.Release.Selection
import AttributeRelease.Request
import AttributeRelease.RequestCodec
import AttributeRelease.Resolution.Basic
import AttributeRelease.Resolution.Error
import AttributeRelease.Resolution.Memo
import AttributeRelease.Resolution.Walk
import AttributeRelease.Resolver
import AttributeRelease.Sealing
import AttributeRelease.Settings.Basic
import AttributeRelease.Settings.Reading
import AttributeRelease.Sql.Coerce
import AttributeRelease.Sql.Column
import AttributeRelease.Sql.Connector
import AttributeRelease.Sql.Rows
import AttributeRelease.Sql.Value
import AttributeRelease.Statement.Connector
import AttributeRelease.Template.Basic
import AttributeRelease.Template.Datum
import AttributeRelease.Template.Element
import AttributeRelease.Template.Helper
import AttributeRelease.Template.Layout
import AttributeRelease.Template.Parser
import AttributeRelease.Template.Render
import AttributeRelease.Template.Tag
import AttributeRelease.Text.Age
import AttributeRelease.Text.Base64
import AttributeRelease.Text.Blank
import AttributeRelease.Text.Case
import AttributeRelease.Text.Category
import AttributeRelease.Text.CharSet
import AttributeRelease.Text.Derived
import AttributeRelease.Text.Pieces
import AttributeRelease.Text.Property
import AttributeRelease.Text.Punycode
import AttributeRelease.Text.Script
import AttributeRelease.Text.Utf8
import AttributeRelease.Toml.Basic
import AttributeRelease.Toml.Parser
import AttributeRelease.Toml.Scalar
import AttributeRelease.Transient.Basic
import AttributeRelease.Transient.Plugins
import AttributeRelease.Url.Address
import AttributeRelease.Url.Basic
import AttributeRelease.Url.Domain
import AttributeRelease.Url.DomainTable
import AttributeRelease.Value.Basic
import AttributeRelease.Value.Codec
import AttributeRelease.Value.Debug
import AttributeRelease.Value.Scoped
