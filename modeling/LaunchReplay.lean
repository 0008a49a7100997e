import LaunchReplay.Device.Faulty
import LaunchReplay.Device.Traced
import LaunchReplay.Form.Replay
import LaunchReplay.Form.Validation
import LaunchReplay.Json.Reader
import LaunchReplay.Main
import LaunchReplay.Simulator.Script
import LaunchReplay.Proofs.AliasPlan
import LaunchReplay.Proofs.Device.Steps
import LaunchReplay.Proofs.Simulator.Store
import LaunchReplay.Proofs.Simulator.Launch
import LaunchReplay.Proofs.Replay.Allocation
import LaunchReplay.Proofs.Replay.Binding
import LaunchReplay.Proofs.Replay.Outputs
import LaunchReplay.Proofs.Replay.Acquisition
import LaunchReplay.Proofs.Replay.Aliasing
import LaunchReplay.Proofs.Replay.Stages
import LaunchReplay.Proofs.Replay.Reconstruction
import LaunchReplay.Proofs.Naming.OutputName
import LaunchReplay.Proofs.FileTree.Lookup
import LaunchReplay.Proofs.FileTree.Growth
import LaunchReplay.Proofs.FileTree.Segments
import LaunchReplay.Proofs.FileTree.Confinement
import LaunchReplay.Proofs.FileTree.Rewriting
import LaunchReplay.Proofs.Argument.Table
import LaunchReplay.Proofs.Capture.Artifact
import LaunchReplay.Proofs.Capture.Read
import LaunchReplay.Proofs.Validation.DigestSet
import LaunchReplay.Proofs.Validation.Compare
import LaunchReplay.Proofs.Replay.Writing
import LaunchReplay.Proofs.Replay.Confinement
import LaunchReplay.Proofs.Replay.Rereading
import LaunchReplay.Proofs.Replay.Idle
import LaunchReplay.Proofs.Validation.IdleReplay
import LaunchReplay.Proofs.Simulator.Objects
import LaunchReplay.Proofs.Simulator.WellBound
import LaunchReplay.Proofs.Simulator.Beside
import LaunchReplay.Proofs.Simulator.Refusal
import LaunchReplay.Proofs.Device.InStep
import LaunchReplay.Proofs.Device.Records
import LaunchReplay.Proofs.Device.Lawful
import LaunchReplay.Proofs.Replay.Course
import LaunchReplay.Proofs.Replay.Independence
import LaunchReplay.Proofs.Capture.Scan
import LaunchReplay.Proofs.Validation.Report
import LaunchReplay.Proofs.Validation.OtherEnqueues
import LaunchReplay.Proofs.Notices
import LaunchReplay.Proofs.Command.Run
import LaunchReplay.Proofs.Command.Printing
import LaunchReplay.Proofs.Capture.Claims
import LaunchReplay.Proofs.Capture.Kinds
import LaunchReplay.Proofs.Capture.Frame
import LaunchReplay.Proofs.FileTree.Alike
import LaunchReplay.Proofs.Naming.FileStart
import LaunchReplay.Proofs.Naming.Counter
import LaunchReplay.Proofs.Naming.Distinct
import LaunchReplay.Proofs.Naming.Glob
import LaunchReplay.Proofs.Naming.Position
import LaunchReplay.Proofs.Text.ByteOrder
import LaunchReplay.Proofs.Text.Lines
import LaunchReplay.Proofs.Integer
import LaunchReplay.Proofs.Integer.Exact
import LaunchReplay.Proofs.Replay.Attempts
import LaunchReplay.Proofs.Replay.Order
import LaunchReplay.Proofs.Replay.Room
import LaunchReplay.Proofs.Replay.Files
import LaunchReplay.Proofs.Replay.Repetition
import LaunchReplay.Proofs.Replay.Failure
import LaunchReplay.Proofs.Replay.Slots
import LaunchReplay.Proofs.Replay.Summary
import LaunchReplay.Proofs.Capture.Discovery
import LaunchReplay.Proofs.Naming.NumericOrder
import LaunchReplay.Proofs.Capture.Binaries
import LaunchReplay.Proofs.Validation.ListingOrder
import LaunchReplay.Proofs.Image
import LaunchReplay.Proofs.Image.Metadata
import LaunchReplay.Proofs.Geometry
import LaunchReplay.Proofs.AliasPlan.Canonical
import LaunchReplay.Proofs.Json.Escape
import LaunchReplay.Proofs.Json.RoundTrip
import LaunchReplay.Proofs.Form.Report
import LaunchReplay.Proofs.Simulator.Footprint
import LaunchReplay.Proofs.Replay.Seeds
import LaunchReplay.Proofs.Replay.Bindable
import LaunchReplay.Proofs.Replay.Trials
