import NodeTelemetry.Collector.Basic
import NodeTelemetry.Config.Basic
import NodeTelemetry.Config.Decode
import NodeTelemetry.Config.Environment
import NodeTelemetry.Config.Fault
import NodeTelemetry.Config.KeyPath
import NodeTelemetry.Config.Load
import NodeTelemetry.Config.Setting
import NodeTelemetry.Control.Basic
import NodeTelemetry.Control.Surface
import NodeTelemetry.Disk.Basic
import NodeTelemetry.Disk.Change
import NodeTelemetry.Disk.Following
import NodeTelemetry.Disk.Listing
import NodeTelemetry.Disk.Path
import NodeTelemetry.Disk.Procedure
import NodeTelemetry.Error
import NodeTelemetry.Identity.Load
import NodeTelemetry.Identity.ObjectId
import NodeTelemetry.Identity.Record
import NodeTelemetry.Json.Fault
import NodeTelemetry.Json.Scan
import NodeTelemetry.Json.Skip
import NodeTelemetry.Json.Value
import NodeTelemetry.Keyed
import NodeTelemetry.Notice
import NodeTelemetry.Number.Binary64
import NodeTelemetry.Number.Reader
import NodeTelemetry.Number.Shortest
import NodeTelemetry.Retention.FileName
import NodeTelemetry.Retention.Store
import NodeTelemetry.Role.Basic
import NodeTelemetry.Role.Classification
import NodeTelemetry.Schedule.Loop
import NodeTelemetry.Schedule.Scheduler
import NodeTelemetry.Schedule.State
import NodeTelemetry.Snapshot.Basic
import NodeTelemetry.Snapshot.Printer
import NodeTelemetry.Snapshot.Reader
import NodeTelemetry.Steps
import NodeTelemetry.Text.Blank
import NodeTelemetry.Text.Cased
import NodeTelemetry.Text.Described
import NodeTelemetry.Text.Hex
import NodeTelemetry.Text.LowerCase
import NodeTelemetry.Text.Numeral
import NodeTelemetry.Text.Quoted
import NodeTelemetry.Text.Utf8
import NodeTelemetry.Text.Visible
import NodeTelemetry.Time.CaptureClock
import NodeTelemetry.Time.Span
import NodeTelemetry.Toml.Basic
import NodeTelemetry.Toml.Document
import NodeTelemetry.Toml.Moment
import NodeTelemetry.Toml.Quoted
import NodeTelemetry.Toml.Scalar
import NodeTelemetry.Toml.Statement
import NodeTelemetry.Toml.Table
import NodeTelemetry.Word
import NodeTelemetry.Proofs.Collector.Building
import NodeTelemetry.Proofs.Config.Layers
import NodeTelemetry.Proofs.Config.Leaves
import NodeTelemetry.Proofs.Config.Texts
import NodeTelemetry.Proofs.Control.Linearization
import NodeTelemetry.Proofs.Control.Outstanding
import NodeTelemetry.Proofs.Disk.Change
import NodeTelemetry.Proofs.Disk.Directories
import NodeTelemetry.Proofs.Disk.Faults
import NodeTelemetry.Proofs.Disk.Location
import NodeTelemetry.Proofs.Disk.Stopping
import NodeTelemetry.Proofs.Identity.Acceptance
import NodeTelemetry.Proofs.Identity.Document
import NodeTelemetry.Proofs.Identity.Durability
import NodeTelemetry.Proofs.Identity.Record
import NodeTelemetry.Proofs.Json.Grammar
import NodeTelemetry.Proofs.Json.Layout
import NodeTelemetry.Proofs.Json.Numbers
import NodeTelemetry.Proofs.Json.Reading
import NodeTelemetry.Proofs.Json.Skipping
import NodeTelemetry.Proofs.Json.Values
import NodeTelemetry.Proofs.Number.Reading
import NodeTelemetry.Proofs.Retention.Attempts
import NodeTelemetry.Proofs.Retention.Crash
import NodeTelemetry.Proofs.Retention.Effects
import NodeTelemetry.Proofs.Retention.Enumeration
import NodeTelemetry.Proofs.Retention.Isolation
import NodeTelemetry.Proofs.Retention.Listing
import NodeTelemetry.Proofs.Retention.Names
import NodeTelemetry.Proofs.Retention.Pruning
import NodeTelemetry.Proofs.Retention.Removal
import NodeTelemetry.Proofs.Retention.Spelling
import NodeTelemetry.Proofs.Retention.Window
import NodeTelemetry.Proofs.Retention.Writing
import NodeTelemetry.Proofs.Schedule.Bound
import NodeTelemetry.Proofs.Schedule.Cadence
import NodeTelemetry.Proofs.Schedule.Deadlines
import NodeTelemetry.Proofs.Schedule.Faults
import NodeTelemetry.Proofs.Schedule.Forgetting
import NodeTelemetry.Proofs.Schedule.Ledger
import NodeTelemetry.Proofs.Schedule.Order
import NodeTelemetry.Proofs.Schedule.Pass
import NodeTelemetry.Proofs.Schedule.Refinement
import NodeTelemetry.Proofs.Schedule.Run
import NodeTelemetry.Proofs.Schedule.Settling
import NodeTelemetry.Proofs.Schedule.Shutdown
import NodeTelemetry.Proofs.Schedule.Stages
import NodeTelemetry.Proofs.Schedule.Standstill
import NodeTelemetry.Proofs.Schedule.Steadiness
import NodeTelemetry.Proofs.Schedule.Wakeup
import NodeTelemetry.Proofs.Schedule.Watched
import NodeTelemetry.Proofs.Snapshot.Labels
import NodeTelemetry.Proofs.Snapshot.RoundTrip
import NodeTelemetry.Proofs.Snapshot.Spelling
import NodeTelemetry.Proofs.Text.Codec
import NodeTelemetry.Proofs.Text.Hex
import NodeTelemetry.Proofs.Text.Order
