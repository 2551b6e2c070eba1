import GeoFleet.Catalog.Basic
import GeoFleet.Catalog.Links
import GeoFleet.Catalog.Loading
import GeoFleet.Command.Arguments
import GeoFleet.Command.Check
import GeoFleet.Command.Execution
import GeoFleet.Command.Failure
import GeoFleet.Command.Help
import GeoFleet.Config.Basic
import GeoFleet.Config.Printing
import GeoFleet.Config.Reading
import GeoFleet.Daemon
import GeoFleet.Decimal.Digits
import GeoFleet.Decimal.Layout
import GeoFleet.Decimal.Reading
import GeoFleet.Decimal.Rounding
import GeoFleet.Decimal.Shortest
import GeoFleet.Disk.Basic
import GeoFleet.Disk.Error
import GeoFleet.Disk.Path
import GeoFleet.Document
import GeoFleet.Duration
import GeoFleet.Engine.Basic
import GeoFleet.Engine.Evaluation
import GeoFleet.Engine.Settings
import GeoFleet.Event
import GeoFleet.Geo.Coordinate
import GeoFleet.Geo.Region
import GeoFleet.Host
import GeoFleet.Json.Printing
import GeoFleet.Json.Reading
import GeoFleet.Json.Tree
import GeoFleet.Kind
import GeoFleet.Magnitude
import GeoFleet.Main
import GeoFleet.Metric.Source
import GeoFleet.Metric.Traffic
import GeoFleet.Monitor
import GeoFleet.Placement.Admission
import GeoFleet.Placement.Selection
import GeoFleet.Policy
import GeoFleet.Prometheus.Query
import GeoFleet.Prometheus.Response
import GeoFleet.Proofs.Activity.Calls
import GeoFleet.Proofs.Activity.RunLength
import GeoFleet.Proofs.Activity.Serial
import GeoFleet.Proofs.Activity.Tracker
import GeoFleet.Proofs.Catalog.Edits
import GeoFleet.Proofs.Catalog.History
import GeoFleet.Proofs.Catalog.InPlace
import GeoFleet.Proofs.Catalog.Integrity
import GeoFleet.Proofs.Catalog.Meaning
import GeoFleet.Proofs.Catalog.Relation
import GeoFleet.Proofs.Collections
import GeoFleet.Proofs.Command.Agreement
import GeoFleet.Proofs.Engine.Bounds
import GeoFleet.Proofs.Engine.Crew
import GeoFleet.Proofs.Engine.Dispatch
import GeoFleet.Proofs.Engine.Frame
import GeoFleet.Proofs.Engine.Halves
import GeoFleet.Proofs.Engine.Log
import GeoFleet.Proofs.Engine.Order
import GeoFleet.Proofs.Engine.Registry
import GeoFleet.Proofs.Engine.Restart
import GeoFleet.Proofs.Engine.Streak
import GeoFleet.Proofs.Magnitude
import GeoFleet.Proofs.Placement.Selection
import GeoFleet.Proofs.Rule.Firing
import GeoFleet.Proofs.Rule.Recall
import GeoFleet.Proofs.Rule.Views
import GeoFleet.Proofs.Store.Frames
import GeoFleet.Proofs.Store.Keys
import GeoFleet.Proofs.Store.Listing
import GeoFleet.Proofs.Store.Samples
import GeoFleet.Proofs.Store.Scans
import GeoFleet.Proofs.Store.Stems
import GeoFleet.Rule.Basic
import GeoFleet.Rule.Candidate
import GeoFleet.Rule.Condition
import GeoFleet.Rule.Error
import GeoFleet.Rule.Firing
import GeoFleet.Snapshot
import GeoFleet.Store.Basic
import GeoFleet.Store.Record
import GeoFleet.Store.Table
import GeoFleet.Target
import GeoFleet.Text.Blank
import GeoFleet.Text.Composition
import GeoFleet.Text.Hex
import GeoFleet.Text.Lines
import GeoFleet.Text.Mark
import GeoFleet.Text.Quoted
import GeoFleet.Text.Runs
import GeoFleet.Text.Unprintable
import GeoFleet.Text.Utf8
import GeoFleet.Toml.Printing
import GeoFleet.Toml.Quoted
import GeoFleet.Toml.Reading
import GeoFleet.Toml.Scalar
import GeoFleet.Toml.Tree
import GeoFleet.Tracker
import GeoFleet.Url.Basic
import GeoFleet.Url.Encoding
import GeoFleet.Url.Host
import GeoFleet.Url.Name.Basic
import GeoFleet.Url.Name.Direction
import GeoFleet.Url.Name.Joining
import GeoFleet.Url.Name.Mapping
import GeoFleet.Url.Name.Punycode
import GeoFleet.Proofs.Rule.Arbitration
import GeoFleet.Proofs.Engine.Footprints
import GeoFleet.Proofs.Engine.Twins
import GeoFleet.Proofs.Rule.Extension
import GeoFleet.Proofs.Store.Owners
import GeoFleet.Proofs.Engine.Judgement
import GeoFleet.Proofs.Engine.Orphans
import GeoFleet.Proofs.Engine.Configured
import GeoFleet.Proofs.Text.Trim
import GeoFleet.Proofs.Faults
import GeoFleet.Proofs.Catalog.Loading
import GeoFleet.Proofs.Metric.Batches
import GeoFleet.Proofs.Rounding.Quotient
import GeoFleet.Proofs.Metric.Shares
import GeoFleet.Proofs.Catalog.Applicable
import GeoFleet.Proofs.Rule.Repeats
import GeoFleet.Proofs.Rule.Partway
import GeoFleet.Proofs.Engine.Silence
import GeoFleet.Proofs.Disk.Growth
import GeoFleet.Proofs.Daemon.Stages
import GeoFleet.Proofs.Daemon.Runs
import GeoFleet.Proofs.Metric.Flight
import GeoFleet.Proofs.Metric.Sampling
import GeoFleet.Proofs.Rule.Conjunction
import GeoFleet.Proofs.Placement.Checks
import GeoFleet.Proofs.Placement.Nearest
import GeoFleet.Proofs.Placement.Broadcast
import GeoFleet.Proofs.Duration
import GeoFleet.Proofs.Metric.Ranking
import GeoFleet.Proofs.Store.Filter
import GeoFleet.Proofs.Store.KeyOrder
