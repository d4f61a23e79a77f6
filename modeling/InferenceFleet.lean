import InferenceFleet.Binary64.Basic
import InferenceFleet.CommandLine.Command
import InferenceFleet.CommandLine.Grammar
import InferenceFleet.CommandLine.Help
import InferenceFleet.CommandLine.Reading
import InferenceFleet.CommandLine.Said
import InferenceFleet.CommandLine.Token
import InferenceFleet.Config.Document
import InferenceFleet.Config.Environment
import InferenceFleet.Config.Error
import InferenceFleet.Config.Layer
import InferenceFleet.Config.Loading
import InferenceFleet.Config.Overrides
import InferenceFleet.Config.Settings
import InferenceFleet.Config.Source
import InferenceFleet.Config.Validation
import InferenceFleet.Config.Variables
import InferenceFleet.Decimal.Layout
import InferenceFleet.Decimal.Reading
import InferenceFleet.Decimal.Shortest
import InferenceFleet.Document.Decoder
import InferenceFleet.Document.Tree
import InferenceFleet.DomainName.Ascii
import InferenceFleet.DomainName.Direction
import InferenceFleet.DomainName.Direction.Table
import InferenceFleet.DomainName.Joiner
import InferenceFleet.DomainName.Joiner.Table
import InferenceFleet.DomainName.Mapping
import InferenceFleet.DomainName.Mapping.Table
import InferenceFleet.DomainName.Punycode
import InferenceFleet.FailureClass
import InferenceFleet.Files.Error
import InferenceFleet.Files.FileSystem
import InferenceFleet.Files.Path
import InferenceFleet.Files.Replacement
import InferenceFleet.Json.Bytes
import InferenceFleet.Json.Numeral
import InferenceFleet.Json.Quoted
import InferenceFleet.Json.Reader
import InferenceFleet.Json.Writer
import InferenceFleet.Main
import InferenceFleet.Monitor.Batch
import InferenceFleet.Monitor.Config
import InferenceFleet.Monitor.Cycle
import InferenceFleet.Monitor.ErrorWindow
import InferenceFleet.Monitor.Event
import InferenceFleet.Monitor.Fleet
import InferenceFleet.Outside.Connection
import InferenceFleet.Outside.Disk
import InferenceFleet.Outside.Surroundings
import InferenceFleet.Peer.Address
import InferenceFleet.Peer.Basic
import InferenceFleet.Peer.Capability
import InferenceFleet.Peer.Document
import InferenceFleet.Peer.Record
import InferenceFleet.Probe.Error
import InferenceFleet.Probe.Exchange
import InferenceFleet.Probe.HostReadings
import InferenceFleet.Probe.LocalEndpoint
import InferenceFleet.Probe.Payload
import InferenceFleet.Probe.Status
import InferenceFleet.Probe.UrlHost
import InferenceFleet.Probe.Wire
import InferenceFleet.Program.Commands
import InferenceFleet.Program.Daemon
import InferenceFleet.Program.Entry
import InferenceFleet.Program.Error
import InferenceFleet.Program.Host
import InferenceFleet.Program.Session
import InferenceFleet.Program.Settings
import InferenceFleet.Proofs.Interleaving.Consistency
import InferenceFleet.Proofs.Interleaving.Discovery
import InferenceFleet.Proofs.Interleaving.InTime
import InferenceFleet.Proofs.Interleaving.Landing
import InferenceFleet.Proofs.Interleaving.Traffic
import InferenceFleet.Proofs.Interleaving.Undisturbed
import InferenceFleet.Proofs.Monitor.Batch
import InferenceFleet.Proofs.Peer.Reading
import InferenceFleet.Proofs.Registry.Access
import InferenceFleet.Proofs.Registry.Consistency
import InferenceFleet.Proofs.Registry.Keeping
import InferenceFleet.Proofs.Routing.Ranking
import InferenceFleet.Proofs.Routing.RetryWalk
import InferenceFleet.Proofs.Routing.TieredMinimum
import InferenceFleet.Registry.Basic
import InferenceFleet.Registry.Error
import InferenceFleet.Registry.PeerFile
import InferenceFleet.Routing.Attempts
import InferenceFleet.Routing.Document
import InferenceFleet.Routing.Error
import InferenceFleet.Routing.Failure
import InferenceFleet.Routing.Policy
import InferenceFleet.Routing.Request
import InferenceFleet.Routing.Router
import InferenceFleet.Routing.Selection
import InferenceFleet.Routing.Statistics
import InferenceFleet.Routing.Status
import InferenceFleet.Scenario.Run
import InferenceFleet.Scenario.Scene
import InferenceFleet.Scenario.Script
import InferenceFleet.Scenario.Step
import InferenceFleet.Text.Blank
import InferenceFleet.Text.Canonical
import InferenceFleet.Text.Canonical.Table
import InferenceFleet.Text.Digits
import InferenceFleet.Text.Display
import InferenceFleet.Text.Display.Table
import InferenceFleet.Text.Lines
import InferenceFleet.Text.LowerCase
import InferenceFleet.Text.LowerCase.Table
import InferenceFleet.Text.Map
import InferenceFleet.Text.Pieces
import InferenceFleet.Text.Ranges
import InferenceFleet.Text.Set
import InferenceFleet.Time.Clock
import InferenceFleet.Time.Duration
import InferenceFleet.Time.Timestamp
import InferenceFleet.Timeline.Admission
import InferenceFleet.Timeline.CycleRun
import InferenceFleet.Timeline.Loop
import InferenceFleet.Timeline.World
import InferenceFleet.Toml.Moment
import InferenceFleet.Toml.Numeral
import InferenceFleet.Toml.Reader
import InferenceFleet.Toml.Table
import InferenceFleet.Toml.Text
import InferenceFleet.Toml.Value
import InferenceFleet.Proofs.Interleaving.Settling
import InferenceFleet.Proofs.Monitor.Outcomes
import InferenceFleet.Proofs.Timeline.Progress
import InferenceFleet.Proofs.Timeline.Turns
import InferenceFleet.Proofs.Timeline.Cancellation
import InferenceFleet.Proofs.Timeline.Forced
import InferenceFleet.Proofs.Files.Replacement
import InferenceFleet.Proofs.Json.Numeral
import InferenceFleet.Proofs.Json.Quoted
import InferenceFleet.Proofs.Json.RoundTrip
import InferenceFleet.Proofs.Json.Bytes
import InferenceFleet.Proofs.Peer.Record
import InferenceFleet.Proofs.Registry.PeerFile
import InferenceFleet.Proofs.Probe.Soundness
import InferenceFleet.Proofs.Interleaving.Restored
import InferenceFleet.Proofs.Peer.Endpoint
import InferenceFleet.Proofs.Interleaving.Hosts
import InferenceFleet.Proofs.Interleaving.Adding
import InferenceFleet.Proofs.Interleaving.Contest
import InferenceFleet.Proofs.Interleaving.Frame
import InferenceFleet.Proofs.Interleaving.LastSeen
import InferenceFleet.Proofs.Interleaving.Loading
import InferenceFleet.Proofs.Interleaving.Reloading
import InferenceFleet.Proofs.Files.Failing
import InferenceFleet.Proofs.Registry.Restoring
import InferenceFleet.Proofs.Interleaving.Saving
import InferenceFleet.Proofs.Routing.Agreement
import InferenceFleet.Proofs.Interleaving.Reporting
import InferenceFleet.Proofs.Program.Editing
import InferenceFleet.Proofs.Routing.Coverage
import InferenceFleet.Proofs.Config.Priority
import InferenceFleet.Proofs.Timeline.Crew
import InferenceFleet.Proofs.Timeline.Moments
import InferenceFleet.Proofs.Timeline.Serial
import InferenceFleet.Proofs.Timeline.Shutdown
import InferenceFleet.Proofs.Routing.Learned
import InferenceFleet.Proofs.Routing.Retrying
import InferenceFleet.Proofs.Program.Addresses
import InferenceFleet.Proofs.Routing.Classifying
import InferenceFleet.Proofs.Text.Trimmed
import InferenceFleet.Proofs.Text.Bindings
import InferenceFleet.Proofs.Routing.Roles
import InferenceFleet.Proofs.Probe.Verdict
import InferenceFleet.Proofs.Json.Layout
import InferenceFleet.Proofs.Document.Values
import InferenceFleet.Proofs.Interleaving.Unanswered
import InferenceFleet.Proofs.Monitor.ErrorWindow
import InferenceFleet.Proofs.Binary64.Pattern
import InferenceFleet.Proofs.Binary64.Order
import InferenceFleet.Proofs.Binary64.Sign
import InferenceFleet.Proofs.Binary64.Division
import InferenceFleet.Proofs.Probe.HostReadings
