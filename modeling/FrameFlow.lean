import FrameFlow.Blueprint.Basic
import FrameFlow.Blueprint.Build
import FrameFlow.Blueprint.Datum
import FrameFlow.Blueprint.Json
import FrameFlow.Blueprint.Toml
import FrameFlow.Command.Catalogue
import FrameFlow.Command.Error
import FrameFlow.Command.Feed
import FrameFlow.Command.Run
import FrameFlow.Decimal.Numeral
import FrameFlow.Decimal.Reader
import FrameFlow.Decimal.Shortest
import FrameFlow.Decimal.Writer
import FrameFlow.Diagnosis.Negotiation
import FrameFlow.Diagnosis.Plan
import FrameFlow.Diagnosis.Report
import FrameFlow.Diagnosis.Stage
import FrameFlow.Fault
import FrameFlow.Filter.Basic
import FrameFlow.Filter.Buffer
import FrameFlow.Filter.BuiltIn
import FrameFlow.Filter.Head
import FrameFlow.Filter.Mixer
import FrameFlow.Filter.Pad
import FrameFlow.Filter.Script
import FrameFlow.Filter.Sink
import FrameFlow.Filter.Split
import FrameFlow.Filter.Sum
import FrameFlow.Filter.Tray
import FrameFlow.Filter.Volume
import FrameFlow.Flow.Load
import FrameFlow.Flow.Pull
import FrameFlow.Flow.Push
import FrameFlow.Flow.Step
import FrameFlow.Flow.Work
import FrameFlow.Frame.Basic
import FrameFlow.Frame.Samples
import FrameFlow.Frame.Shared
import FrameFlow.Graph.Adjacency
import FrameFlow.Graph.Basic
import FrameFlow.Graph.Error
import FrameFlow.Graph.Handle
import FrameFlow.Graph.Node
import FrameFlow.Graph.Shape
import FrameFlow.Graph.Topology
import FrameFlow.Graph.Trail
import FrameFlow.Graph.Walk
import FrameFlow.Json.Reader
import FrameFlow.Json.Token
import FrameFlow.Json.Value
import FrameFlow.Json.Writer
import FrameFlow.Main
import FrameFlow.Proofs.Graph.Walk
import FrameFlow.Queue
import FrameFlow.Registry
import FrameFlow.Setting.Constraint
import FrameFlow.Setting.Schema
import FrameFlow.Setting.Value
import FrameFlow.Table
import FrameFlow.Text.Blank
import FrameFlow.Text.LowerCase
import FrameFlow.Text.Printable
import FrameFlow.Toml.Item
import FrameFlow.Toml.Moment
import FrameFlow.Toml.Reader
import FrameFlow.Toml.Scalar
import FrameFlow.Toml.Text
import FrameFlow.Toml.Writer
import FrameFlow.Proofs.Graph.Shape
import FrameFlow.Proofs.Flow.Evolution
import FrameFlow.Proofs.Graph.Arena
import FrameFlow.Proofs.Graph.Assembly
import FrameFlow.Proofs.Diagnosis.Negotiation
import FrameFlow.Proofs.Diagnosis.Plan
import FrameFlow.Proofs.Flow.Run
import FrameFlow.Proofs.Reach
import FrameFlow.Proofs.Diagnosis.Configuration
import FrameFlow.Proofs.Flow.Routing
import FrameFlow.Proofs.Flow.Work
import FrameFlow.Proofs.Flow.Channel
import FrameFlow.Proofs.Flow.Running
import FrameFlow.Proofs.Flow.Protocol
import FrameFlow.Proofs.Flow.Isolation
import FrameFlow.Proofs.Flow.Progress
import FrameFlow.Proofs.Stream.Answer
import FrameFlow.Proofs.Stream.Follow
import FrameFlow.Proofs.Stream.Network
import FrameFlow.Proofs.Stream.Start
import FrameFlow.Proofs.Stream.History
import FrameFlow.Proofs.Stream.Tracking
import FrameFlow.Proofs.Stream.Determinacy
import FrameFlow.Proofs.Stream.Meaning
import FrameFlow.Proofs.Stream.Pulling
import FrameFlow.Proofs.Filter.Lawful
import FrameFlow.Proofs.Flow.Session
import FrameFlow.Proofs.Flow.Delivery
import FrameFlow.Proofs.Flow.Faultless
import FrameFlow.Proofs.Flow.Quiet
import FrameFlow.Proofs.Flow.Draining
import FrameFlow.Proofs.Flow.Bounds
import FrameFlow.Proofs.Graph.References
import FrameFlow.Proofs.Consistency
import FrameFlow.Proofs.Flow.Failure
import FrameFlow.Proofs.Flow.Quiescence
import FrameFlow.Proofs.Filter.Options
import FrameFlow.Proofs.Diagnosis.Agreement
import FrameFlow.Proofs.Filter.Formats
import FrameFlow.Proofs.Flow.Formats
import FrameFlow.Proofs.Filter.Soundness
import FrameFlow.Proofs.Flow.Safety
import FrameFlow.Proofs.Flow.Termination
import FrameFlow.Proofs.Graph.Lifecycle
import FrameFlow.Proofs.InPlace
import FrameFlow.Proofs.Intact
import FrameFlow.Proofs.Frozen
import FrameFlow.Proofs.Moves
import FrameFlow.Proofs.Life
import FrameFlow.Proofs.Frame.Pool
import FrameFlow.Proofs.Frame.Sharing
import FrameFlow.Proofs.Blueprint.Described
import FrameFlow.Proofs.Blueprint.Nodes
import FrameFlow.Proofs.Blueprint.Links
import FrameFlow.Proofs.Blueprint.Building
import FrameFlow.Proofs.Json.Quoting
import FrameFlow.Proofs.Json.Tokens
import FrameFlow.Proofs.Json.Reading
import FrameFlow.Proofs.Blueprint.Datum
import FrameFlow.Proofs.Blueprint.Json
import FrameFlow.Proofs.Toml.Quoting
import FrameFlow.Proofs.Toml.Texts
import FrameFlow.Proofs.Toml.Values
import FrameFlow.Proofs.Toml.Documents
import FrameFlow.Proofs.Blueprint.Toml
import FrameFlow.Proofs.Blueprint.RoundTrip
import FrameFlow.Proofs.Filter.Calls
import FrameFlow.Proofs.Mixer.Samples
import FrameFlow.Proofs.Mixer.Pairing
import FrameFlow.Proofs.Mixer.Shortest
import FrameFlow.Proofs.Flow.Closing
import FrameFlow.Proofs.Flow.Collecting
import FrameFlow.Proofs.Graph.Lineage
import FrameFlow.Proofs.Graph.Topology
import FrameFlow.Proofs.Diagnosis.Orders
import FrameFlow.Proofs.Diagnosis.Defects
import FrameFlow.Proofs.Binary64.Whole
import FrameFlow.Proofs.Filter.Resolution
import FrameFlow.Proofs.Filter.Acceptance
import FrameFlow.Proofs.Graph.Staging
import FrameFlow.Proofs.Filter.Timestamps
import FrameFlow.Proofs.Blueprint.Scalars
import FrameFlow.Proofs.Registry
import FrameFlow.Proofs.Flow.WorkingOff
import FrameFlow.Proofs.Flow.Counts
import FrameFlow.Proofs.Flow.Serving
import FrameFlow.Proofs.Command.Feeding
import FrameFlow.Proofs.Command.Rounds
import FrameFlow.Proofs.Command.Running
