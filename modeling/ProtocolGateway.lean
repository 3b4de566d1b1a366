import ProtocolGateway.BuiltIn
import ProtocolGateway.BuiltIn.Operations
import ProtocolGateway.CommandLine.Arguments
import ProtocolGateway.CommandLine.FileTree
import ProtocolGateway.CommandLine.Run
import ProtocolGateway.Deadline
import ProtocolGateway.Host
import ProtocolGateway.Http.Headers
import ProtocolGateway.Http.Message
import ProtocolGateway.Http.Service
import ProtocolGateway.Http.Stack
import ProtocolGateway.Http.Verb
import ProtocolGateway.Json
import ProtocolGateway.Log.Event
import ProtocolGateway.Log.Filter
import ProtocolGateway.Log.Level
import ProtocolGateway.Log.Subscriber
import ProtocolGateway.Main
import ProtocolGateway.Metrics
import ProtocolGateway.Peek.Matcher
import ProtocolGateway.Peek.Reading
import ProtocolGateway.Proofs.BuiltIn.Bootstrap
import ProtocolGateway.Proofs.BuiltIn.Front
import ProtocolGateway.Proofs.BuiltIn.Handlers
import ProtocolGateway.Proofs.BuiltIn.HealthRoute
import ProtocolGateway.Proofs.BuiltIn.Launch
import ProtocolGateway.Proofs.BuiltIn.ReservedPaths
import ProtocolGateway.Proofs.Deadline.Exact
import ProtocolGateway.Proofs.Http.Admission
import ProtocolGateway.Proofs.Http.BodyLimit
import ProtocolGateway.Proofs.Http.Forwarding
import ProtocolGateway.Proofs.Http.HealthCheck
import ProtocolGateway.Proofs.Http.Identity
import ProtocolGateway.Proofs.Http.Precedence
import ProtocolGateway.Proofs.Http.Reaching
import ProtocolGateway.Proofs.Http.Reserved
import ProtocolGateway.Proofs.Http.TimeLimit
import ProtocolGateway.Proofs.Http.WholeBodies
import ProtocolGateway.Proofs.Log.LevelText
import ProtocolGateway.Proofs.Log.Rules
import ProtocolGateway.Proofs.Peek.Decision
import ProtocolGateway.Proofs.Peek.Openings
import ProtocolGateway.Proofs.Peek.Persistence
import ProtocolGateway.Proofs.Peek.Reasons
import ProtocolGateway.Proofs.Peek.Replay
import ProtocolGateway.Proofs.Readiness.Board
import ProtocolGateway.Proofs.Readiness.Course
import ProtocolGateway.Proofs.Readiness.Overlap
import ProtocolGateway.Proofs.Readiness.Quiet
import ProtocolGateway.Proofs.Reload.Fixed
import ProtocolGateway.Proofs.Reload.Tracking
import ProtocolGateway.Proofs.Route.Joining
import ProtocolGateway.Proofs.Route.Literal
import ProtocolGateway.Proofs.Route.Lookup
import ProtocolGateway.Proofs.Route.Preference
import ProtocolGateway.Proofs.Settings.Accepted
import ProtocolGateway.Proofs.Settings.Repair
import ProtocolGateway.Proofs.Shipping.Batches
import ProtocolGateway.Proofs.Shipping.Closing
import ProtocolGateway.Proofs.Shipping.Losses
import ProtocolGateway.Proofs.Shipping.Moves
import ProtocolGateway.Proofs.Startup.FailFast
import ProtocolGateway.Proofs.Startup.Launched
import ProtocolGateway.Proofs.Startup.Orderly
import ProtocolGateway.Proofs.Startup.Registering
import ProtocolGateway.Proofs.Teardown.Order
import ProtocolGateway.Proofs.Traffic.Counters
import ProtocolGateway.Proofs.Traffic.Draining
import ProtocolGateway.Proofs.Traffic.HandOver
import ProtocolGateway.Proofs.Traffic.Moves
import ProtocolGateway.Proofs.Traffic.Places
import ProtocolGateway.Proofs.Traffic.Turns
import ProtocolGateway.Proofs.Uri.Below
import ProtocolGateway.Proofs.Uri.Parts
import ProtocolGateway.Proofs.Uri.Reread
import ProtocolGateway.Readiness
import ProtocolGateway.Readiness.Race
import ProtocolGateway.Rehearsal.Handlers
import ProtocolGateway.Rehearsal.Logging
import ProtocolGateway.Rehearsal.Run
import ProtocolGateway.Rehearsal.Script
import ProtocolGateway.Rehearsal.Shipping
import ProtocolGateway.Route.Pattern
import ProtocolGateway.Route.Table
import ProtocolGateway.Settings
import ProtocolGateway.Settings.FromToml
import ProtocolGateway.Settings.Load
import ProtocolGateway.Settings.Problem
import ProtocolGateway.Settings.Watch
import ProtocolGateway.Shipping.Collector
import ProtocolGateway.Shipping.Line
import ProtocolGateway.Shipping.Shipper
import ProtocolGateway.Signal
import ProtocolGateway.SocketAddress
import ProtocolGateway.Startup.Bootstrap
import ProtocolGateway.Startup.Context
import ProtocolGateway.Startup.Launch
import ProtocolGateway.Startup.ModuleError
import ProtocolGateway.Startup.Phase
import ProtocolGateway.Startup.Serving
import ProtocolGateway.SystemError
import ProtocolGateway.Teardown.Shutdown
import ProtocolGateway.Teardown.Stage
import ProtocolGateway.Teardown.Step
import ProtocolGateway.Text.Alphanumeric
import ProtocolGateway.Text.Blank
import ProtocolGateway.Text.Decimal
import ProtocolGateway.Text.Duration
import ProtocolGateway.Text.Quoted
import ProtocolGateway.Text.Shortest
import ProtocolGateway.Text.Utf8
import ProtocolGateway.Toml.Document
import ProtocolGateway.Toml.Scalar
import ProtocolGateway.Toml.Value
import ProtocolGateway.Total
import ProtocolGateway.Traffic.Connections
import ProtocolGateway.Traffic.Demultiplexer
import ProtocolGateway.Traffic.Server
import ProtocolGateway.Traffic.Slots
import ProtocolGateway.Uri
import ProtocolGateway.Uri.Below
import ProtocolGateway.Url
import ProtocolGateway.Url.DomainName
import ProtocolGateway.Proofs.Http.Dispatching
