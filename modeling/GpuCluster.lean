import GpuCluster.Aggregate
import GpuCluster.Broadcast
import GpuCluster.Config
import GpuCluster.Config.Load
import GpuCluster.Config.Settings
import GpuCluster.Device
import GpuCluster.Distribution.Cap
import GpuCluster.Distribution.Split
import GpuCluster.Error
import GpuCluster.Json
import GpuCluster.Json.Assembly
import GpuCluster.Json.Buffer
import GpuCluster.Json.Record
import GpuCluster.Json.Scan
import GpuCluster.Json.Text
import GpuCluster.LogFile
import GpuCluster.LogFilter
import GpuCluster.Number.Binary64
import GpuCluster.Number.Extended
import GpuCluster.Number.Layout
import GpuCluster.Number.Numeral
import GpuCluster.Number.Shortest
import GpuCluster.Number.Total
import GpuCluster.Pattern
import GpuCluster.Pattern.Atom
import GpuCluster.Pattern.Bracket
import GpuCluster.Pattern.Mode
import GpuCluster.Pattern.Row
import GpuCluster.Placement.Assignment
import GpuCluster.Placement.Failure
import GpuCluster.Placement.FirstFit
import GpuCluster.Placement.Request
import GpuCluster.Placement.Search
import GpuCluster.Placement.Solve
import GpuCluster.Placement.Spread
import GpuCluster.Report
import GpuCluster.Sample
import GpuCluster.Sampling.Replay
import GpuCluster.Sampling.Sampler
import GpuCluster.Scalar
import GpuCluster.Score
import GpuCluster.Session.Lifecycle
import GpuCluster.Session.Placement
import GpuCluster.Session.Registry
import GpuCluster.Session.State
import GpuCluster.Session.Telemetry
import GpuCluster.Session.Wire
import GpuCluster.Summary
import GpuCluster.Table
import GpuCluster.Telemetry.Change
import GpuCluster.Telemetry.Collector
import GpuCluster.Text.Alphanumeric
import GpuCluster.Text.Blank
import GpuCluster.Text.Cased
import GpuCluster.Text.LowerCase
import GpuCluster.Text.Ranges
import GpuCluster.Thermal.Executor
import GpuCluster.Thermal.Mode
import GpuCluster.Thermal.Model
import GpuCluster.Thermal.Monitor
import GpuCluster.Timestamp
import GpuCluster.Timestamp.Calendar
import GpuCluster.Timestamp.Rfc3339
import GpuCluster.Toml.Document
import GpuCluster.Toml.Scalar
import GpuCluster.Toml.Value
import GpuCluster.Uuid
import GpuCluster.Window
import GpuCluster.Wire.Config
import GpuCluster.Wire.Device
import GpuCluster.Wire.Envelope
import GpuCluster.Wire.Message
import GpuCluster.Wire.Placement
import GpuCluster.Wire.Sample
import GpuCluster.Wire.Score
import GpuCluster.Wire.Thermal
import GpuCluster.Proofs.Placement.FirstFit
import GpuCluster.Proofs.Placement.Search
import GpuCluster.Proofs.Table
import GpuCluster.Proofs.Placement.Accounting
import GpuCluster.Proofs.Placement.Words
import GpuCluster.Proofs.Placement.Solve
import GpuCluster.Proofs.Placement.Correctness
import GpuCluster.Proofs.Sampling.Tasks
import GpuCluster.Proofs.Session.Calls
import GpuCluster.Proofs.Session.Coherence
import GpuCluster.Proofs.Session.Atomicity
import GpuCluster.Proofs.Number.Order
import GpuCluster.Proofs.Thermal.SteadyReading
import GpuCluster.Proofs.Thermal.Forecast
import GpuCluster.Proofs.Session.Events
import GpuCluster.Proofs.Thermal.Execution
import GpuCluster.Proofs.Session.Changes
import GpuCluster.Proofs.Session.Holdings
import GpuCluster.Proofs.Session.Promises
import GpuCluster.Proofs.Session.Renumbering
import GpuCluster.Proofs.Session.Restart
import GpuCluster.Proofs.Session.Admission
import GpuCluster.Proofs.Number.Numeral
import GpuCluster.Proofs.Json.Text
import GpuCluster.Proofs.Json.Scan
import GpuCluster.Proofs.Json.Record
import GpuCluster.Proofs.Wire.Content
import GpuCluster.Proofs.Wire.Envelope
import GpuCluster.Proofs.Ranking
import GpuCluster.Proofs.Placement.Single
import GpuCluster.Proofs.Session.Selection
import GpuCluster.Proofs.Session.Eligibility
import GpuCluster.Proofs.Number.Extremes
import GpuCluster.Proofs.Placement.Spread
import GpuCluster.Proofs.Placement.Positions
import GpuCluster.Proofs.Session.Enumeration
import GpuCluster.Proofs.Session.Replica
import GpuCluster.Proofs.Number.Finite
import GpuCluster.Proofs.Summary
import GpuCluster.Proofs.Telemetry.Log
import GpuCluster.Proofs.Telemetry.Announcements
import GpuCluster.Proofs.Session.Ownership
import GpuCluster.Proofs.Session.Independence
import GpuCluster.Proofs.Placement.FirstChoice
import GpuCluster.Proofs.Placement.TimeLimit
import GpuCluster.Proofs.Placement.Seating
import GpuCluster.Proofs.Placement.Reports
import GpuCluster.Proofs.Number.Rounding
import GpuCluster.Proofs.Number.Amount
import GpuCluster.Proofs.Distribution.Cap
import GpuCluster.Proofs.Distribution.Partition
import GpuCluster.Proofs.Distribution.Proportion
import GpuCluster.Proofs.Distribution.Filling
import GpuCluster.Proofs.Distribution.Balance
import GpuCluster.Proofs.Number.Rounded
import GpuCluster.Proofs.Score.Monotone
import GpuCluster.Proofs.Telemetry.Hottest
import GpuCluster.Proofs.Thermal.Permits
import GpuCluster.Proofs.Sampling.Visits
import GpuCluster.Proofs.Sampling.Course
import GpuCluster.Proofs.Sampling.Isolation
import GpuCluster.Proofs.Sampling.Restarting
import GpuCluster.Proofs.Placement.Tally
import GpuCluster.Proofs.Placement.Extremes
import GpuCluster.Proofs.Placement.Backtracking
import GpuCluster.Proofs.Thermal.Trajectory
