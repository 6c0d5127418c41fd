import ShardBalance.Arguments.Basic
import ShardBalance.Call
import ShardBalance.Collections
import ShardBalance.Command.Basic
import ShardBalance.Command.Help
import ShardBalance.Command.Invocation
import ShardBalance.Command.Printout
import ShardBalance.Command.Setup
import ShardBalance.Failure
import ShardBalance.Http.Client
import ShardBalance.Http.Exchange
import ShardBalance.Http.Message
import ShardBalance.Identity
import ShardBalance.Journal
import ShardBalance.Json.Basic
import ShardBalance.Json.Decode
import ShardBalance.Json.Lexer
import ShardBalance.Json.Numeral
import ShardBalance.Json.Parser
import ShardBalance.Json.Printer
import ShardBalance.Json.Quoted
import ShardBalance.Main
import ShardBalance.Number.Duration
import ShardBalance.Number.Dyadic
import ShardBalance.Ordered.Map
import ShardBalance.Ordered.Set
import ShardBalance.Outcome
import ShardBalance.Peer.Resolved
import ShardBalance.Peer.Selector
import ShardBalance.Placement
import ShardBalance.Plan
import ShardBalance.Planning.Draft
import ShardBalance.Planning.Drain
import ShardBalance.Planning.Equalize
import ShardBalance.Planning.Replicate
import ShardBalance.Procedure
import ShardBalance.Proofs.Holders
import ShardBalance.Proofs.Planning.Draft
import ShardBalance.Proofs.Planning.Drain
import ShardBalance.Proofs.Planning.Equalize
import ShardBalance.Proofs.Planning.Replicate
import ShardBalance.Proofs.Plans
import ShardBalance.Proofs.Ring
import ShardBalance.Proofs.Runs
import ShardBalance.Proofs.Worlds
import ShardBalance.Rebalance.Basic
import ShardBalance.Rebalance.Execution
import ShardBalance.Rebalance.Planning
import ShardBalance.Rebalance.Survey
import ShardBalance.Replica
import ShardBalance.Report.Collection
import ShardBalance.Report.Peers
import ShardBalance.Report.Placement
import ShardBalance.Ring.Basic
import ShardBalance.Ring.Sweep
import ShardBalance.Scripted.Basic
import ShardBalance.Scripted.Cluster
import ShardBalance.Scripted.Server
import ShardBalance.Settings
import ShardBalance.Settings.File
import ShardBalance.Text.Blank
import ShardBalance.Text.CombiningClass
import ShardBalance.Text.Composition
import ShardBalance.Text.Decimal
import ShardBalance.Text.Decomposition
import ShardBalance.Text.Direction
import ShardBalance.Text.Hex
import ShardBalance.Text.Joining
import ShardBalance.Text.Mark
import ShardBalance.Text.Search
import ShardBalance.Text.Table
import ShardBalance.Toml.Basic
import ShardBalance.Toml.Decode
import ShardBalance.Toml.Parser
import ShardBalance.Toml.Scalar
import ShardBalance.Toml.Table
import ShardBalance.Toml.Text
import ShardBalance.Transfer.Basic
import ShardBalance.Transfer.Method
import ShardBalance.Url.Basic
import ShardBalance.Url.Domain
import ShardBalance.Url.Domain.Folding
import ShardBalance.Url.Domain.Form
import ShardBalance.Url.Domain.Label
import ShardBalance.Url.Host
import ShardBalance.Url.Ipv4
import ShardBalance.Url.Ipv6
import ShardBalance.Url.Malformed
import ShardBalance.Url.Parser
import ShardBalance.Url.Path
import ShardBalance.Url.Percent
import ShardBalance.Url.Punycode
import ShardBalance.Wire.Collection
import ShardBalance.Wire.Envelope
import ShardBalance.Wire.Fields
import ShardBalance.Wire.Outcome
import ShardBalance.Wire.Peers
import ShardBalance.Wire.Placement
import ShardBalance.Wire.Resolved
import ShardBalance.Wire.Settings
import ShardBalance.Wire.Transfer
import ShardBalance.Proofs.Executions
import ShardBalance.Proofs.FailFast
import ShardBalance.Proofs.Safety
import ShardBalance.Proofs.Deliveries
import ShardBalance.Proofs.Histories
import ShardBalance.Proofs.Emptiness
import ShardBalance.Proofs.Drains
import ShardBalance.Proofs.Resumptions
import ShardBalance.Proofs.Obstacles
import ShardBalance.Proofs.Readiness
import ShardBalance.Proofs.Copies
import ShardBalance.Proofs.Healing
import ShardBalance.Proofs.Planning.Planner
import ShardBalance.Proofs.Parts
import ShardBalance.Proofs.Planning.Gains
import ShardBalance.Proofs.Continuations
import ShardBalance.Proofs.Exchanges
import ShardBalance.Proofs.Cancellations
import ShardBalance.Proofs.Readings
import ShardBalance.Proofs.Courses
import ShardBalance.Proofs.Protocol
import ShardBalance.Proofs.Previews
import ShardBalance.Proofs.Measurements
import ShardBalance.Proofs.Planning.Visits
import ShardBalance.Proofs.Json.Parsing
import ShardBalance.Proofs.Responses
import ShardBalance.Proofs.Wire
import ShardBalance.Proofs.Planning.Rotations
import ShardBalance.Proofs.Planning.Levels
import ShardBalance.Proofs.Placements
import ShardBalance.Proofs.Ring.Histories
import ShardBalance.Proofs.Percent
import ShardBalance.Proofs.Resolutions
import ShardBalance.Proofs.Selectors
import ShardBalance.Proofs.Endpoints
import ShardBalance.Proofs.Collections
import ShardBalance.Proofs.Vacancy
import ShardBalance.Proofs.Ring.Searches
import ShardBalance.Proofs.Json.Revisions
import ShardBalance.Proofs.Revisions
import ShardBalance.Proofs.Planning.Bounds
import ShardBalance.Proofs.Texts
