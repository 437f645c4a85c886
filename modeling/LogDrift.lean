import LogDrift.Document.Settings
import LogDrift.Document.Window
import LogDrift.Main
import LogDrift.Rehearsal
import LogDrift.Proofs.Map.Ordered
import LogDrift.Proofs.Map.Sorted
import LogDrift.Proofs.Matching.Filing
import LogDrift.Proofs.Session.Course
import LogDrift.Proofs.Frequency.Detection
import LogDrift.Proofs.Frequency.Verdicts
import LogDrift.Proofs.Layout.Position
import LogDrift.Proofs.Matching.Relabelling
import LogDrift.Proofs.Session.Stages
import LogDrift.Proofs.Unknown.Records
import LogDrift.Proofs.Session.Rederivation
import LogDrift.Proofs.Similarity.Centroid
import LogDrift.Proofs.Store.Basic
import LogDrift.Proofs.Session.Totality
import LogDrift.Proofs.Json.Numeral
import LogDrift.Proofs.Json.Quoted
import LogDrift.Proofs.Json.Text
import LogDrift.Proofs.Json.Reading
import LogDrift.Proofs.Json.Decoding
import LogDrift.Proofs.Document.Event
import LogDrift.Proofs.Document.Cluster
import LogDrift.Proofs.Document.Snapshot
import LogDrift.Proofs.Store.Loader
import LogDrift.Proofs.Session.Lineage
import LogDrift.Proofs.Exact.Vector
import LogDrift.Proofs.Similarity.Component
import LogDrift.Proofs.Similarity.Chain
import LogDrift.Proofs.Similarity.Search
import LogDrift.Proofs.Similarity.Connected
import LogDrift.Proofs.Similarity.Matching
import LogDrift.Proofs.Exact.Matching
import LogDrift.Proofs.Session.Unchanged
import LogDrift.Proofs.Store.Keys
import LogDrift.Proofs.Session.Independence
import LogDrift.Proofs.Numeral.Comparison
import LogDrift.Proofs.Numeral.Finite
import LogDrift.Proofs.Json.Leaves
import LogDrift.Proofs.Json.Range
import LogDrift.Proofs.Json.Yield
import LogDrift.Proofs.Document.Proper
import LogDrift.Proofs.Document.Reload
import LogDrift.Proofs.Similarity.Apart
import LogDrift.Proofs.Matching.Own
import LogDrift.Proofs.Matching.Holding
import LogDrift.Proofs.Store.Restored
import LogDrift.Proofs.Session.Replay
import LogDrift.Proofs.Session.Reunion
import LogDrift.Proofs.Matching.Renaming
import LogDrift.Proofs.Session.Purity
import LogDrift.Proofs.Session.Mirror
import LogDrift.Proofs.Session.Repetition
import LogDrift.Proofs.Similarity.Nearest
import LogDrift.Proofs.Similarity.Renaming
import LogDrift.Proofs.Session.Renaming
import LogDrift.Proofs.Remote.Exchange
import LogDrift.Proofs.Execution.Conversation
import LogDrift.Proofs.Execution.Remote
import LogDrift.Proofs.Except
import LogDrift.Proofs.CommandLine.Reading
import LogDrift.Proofs.Execution.Token
import LogDrift.Proofs.Matching.Separation
import LogDrift.Proofs.Unknown.Collection
import LogDrift.Proofs.Exact.Rounding
import LogDrift.Proofs.Unknown.Worst
import LogDrift.Proofs.Unknown.Range
import LogDrift.Proofs.Frequency.Direction
import LogDrift.Proofs.Frequency.Registry
import LogDrift.Proofs.Store.Grouping
import LogDrift.Proofs.Store.Taking
import LogDrift.Proofs.Store.Selection
import LogDrift.Proofs.Matching.Gap
import LogDrift.Proofs.Layout.Order
import LogDrift.Proofs.Session.Arrangement
import LogDrift.Proofs.Unknown.Alert
import LogDrift.Proofs.FirstUses
import LogDrift.Proofs.Similarity.Frequency
import LogDrift.Proofs.Similarity.Difference
import LogDrift.Proofs.Text.Pieces
import LogDrift.Proofs.Similarity.Gram
import LogDrift.Proofs.Remote.Backoff
import LogDrift.Proofs.Numeral.Integer
import LogDrift.Proofs.Document.Label
import LogDrift.Proofs.Json.Members
import LogDrift.Proofs.Document.Record
import LogDrift.Proofs.Execution.Local
import LogDrift.Proofs.Window
import LogDrift.Proofs.Text.Case
import LogDrift.Proofs.Text.Token
import LogDrift.Proofs.Layout.Scaling
import LogDrift.Proofs.Similarity.Distance
import LogDrift.Proofs.Numeral.Decimal
import LogDrift.Proofs.Numeral.Great
import LogDrift.Proofs.Document.Count
import LogDrift.Proofs.Numeral.Wrapping
