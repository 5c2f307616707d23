import TriggerLedger.Binary64.Basic
import TriggerLedger.Binary64.Shortest
import TriggerLedger.Command.Arguments
import TriggerLedger.Command.Clean
import TriggerLedger.Command.Failure
import TriggerLedger.Command.Listing
import TriggerLedger.Command.LookBack
import TriggerLedger.Command.Replaying
import TriggerLedger.Command.Stats
import TriggerLedger.Command.Verbosity
import TriggerLedger.Event.Basic
import TriggerLedger.Event.Codec
import TriggerLedger.Instant.Basic
import TriggerLedger.Instant.Calendar
import TriggerLedger.Instant.Timestamp
import TriggerLedger.Json.Basic
import TriggerLedger.Json.Codec
import TriggerLedger.Json.DecodeError
import TriggerLedger.Json.Literal
import TriggerLedger.Json.Node
import TriggerLedger.Json.Numeral
import TriggerLedger.Json.Record
import TriggerLedger.Main
import TriggerLedger.Number.Power
import TriggerLedger.Proofs.Binary64.Rounding
import TriggerLedger.Proofs.Command.Cleaning
import TriggerLedger.Proofs.Command.DurationGrammar
import TriggerLedger.Proofs.Command.Durations
import TriggerLedger.Proofs.Command.LiveLogs
import TriggerLedger.Proofs.Command.Rates
import TriggerLedger.Proofs.Command.Removal
import TriggerLedger.Proofs.Command.Statistics
import TriggerLedger.Proofs.Command.Tallies
import TriggerLedger.Proofs.Command.Window
import TriggerLedger.Proofs.Event.ReadsBack
import TriggerLedger.Proofs.Event.Records
import TriggerLedger.Proofs.Instant.Calendar
import TriggerLedger.Proofs.Instant.Clock
import TriggerLedger.Proofs.Instant.Timestamp
import TriggerLedger.Proofs.Json.Codecs
import TriggerLedger.Proofs.Json.FirstMember
import TriggerLedger.Proofs.Json.Literal
import TriggerLedger.Proofs.Json.Numeral
import TriggerLedger.Proofs.Json.Printable
import TriggerLedger.Proofs.Json.Reading
import TriggerLedger.Proofs.Json.Records
import TriggerLedger.Proofs.Json.Spacing
import TriggerLedger.Proofs.Json.Yields
import TriggerLedger.Proofs.Replay.Accounting
import TriggerLedger.Proofs.Replay.BatchOrder
import TriggerLedger.Proofs.Replay.Clocks
import TriggerLedger.Proofs.Replay.Deliveries
import TriggerLedger.Proofs.Replay.GeneratedLines
import TriggerLedger.Proofs.Replay.History
import TriggerLedger.Proofs.Replay.Isolation
import TriggerLedger.Proofs.Replay.Languages
import TriggerLedger.Proofs.Replay.LatencyParts
import TriggerLedger.Proofs.Replay.MarkOrder
import TriggerLedger.Proofs.Replay.MarksOnce
import TriggerLedger.Proofs.Replay.Origins
import TriggerLedger.Proofs.Replay.Outlets
import TriggerLedger.Proofs.Replay.Partition
import TriggerLedger.Proofs.Replay.PriorOutcomes
import TriggerLedger.Proofs.Replay.Reports
import TriggerLedger.Proofs.Replay.RequestLines
import TriggerLedger.Proofs.Replay.Rollups
import TriggerLedger.Proofs.Replay.Scripts
import TriggerLedger.Proofs.Replay.Shift
import TriggerLedger.Proofs.Replay.SignificantLines
import TriggerLedger.Proofs.Replay.Times
import TriggerLedger.Proofs.Replay.WellFormed
import TriggerLedger.Proofs.Session.Batches
import TriggerLedger.Proofs.Session.Closing
import TriggerLedger.Proofs.Session.Licenses
import TriggerLedger.Proofs.Session.Marks
import TriggerLedger.Proofs.Store.Appending
import TriggerLedger.Proofs.Store.Calls
import TriggerLedger.Proofs.Store.Catalogue
import TriggerLedger.Proofs.Store.Clients
import TriggerLedger.Proofs.Store.Decoded
import TriggerLedger.Proofs.Store.Entries
import TriggerLedger.Proofs.Store.Files
import TriggerLedger.Proofs.Store.Filing
import TriggerLedger.Proofs.Store.Interruption
import TriggerLedger.Proofs.Store.Listing
import TriggerLedger.Proofs.Store.Names
import TriggerLedger.Proofs.Store.Newest
import TriggerLedger.Proofs.Store.ReadsBack
import TriggerLedger.Proofs.Store.Refinement
import TriggerLedger.Proofs.Store.Separation
import TriggerLedger.Proofs.Store.Sharing
import TriggerLedger.Proofs.Store.Tally
import TriggerLedger.Proofs.Suggestion.Dispositions
import TriggerLedger.Proofs.Suggestion.Judging
import TriggerLedger.Proofs.Suggestion.Summary
import TriggerLedger.Proofs.Text.Digits
import TriggerLedger.Proofs.Text.Lines
import TriggerLedger.Remote.Client
import TriggerLedger.Remote.Request
import TriggerLedger.Script.Delivery
import TriggerLedger.Script.Parse
import TriggerLedger.Script.Replay
import TriggerLedger.Script.Step
import TriggerLedger.Session.Basic
import TriggerLedger.Session.Ledger
import TriggerLedger.Session.Marks
import TriggerLedger.Session.Work
import TriggerLedger.Settings.Basic
import TriggerLedger.Settings.Configuration
import TriggerLedger.Store.Basic
import TriggerLedger.Store.Digest
import TriggerLedger.Store.Directory
import TriggerLedger.Store.Entries
import TriggerLedger.Store.EventId
import TriggerLedger.Store.Log
import TriggerLedger.Store.Memory
import TriggerLedger.Suggestion.Basic
import TriggerLedger.Suggestion.ByIndex
import TriggerLedger.Suggestion.Kind
import TriggerLedger.Suggestion.Language
import TriggerLedger.Suggestion.Verdict
import TriggerLedger.Text.Blank
import TriggerLedger.Text.Inspect
import TriggerLedger.Text.Unseen
import TriggerLedger.Toml.Basic
import TriggerLedger.Toml.Document
import TriggerLedger.Toml.Quoted
import TriggerLedger.Toml.Scalar
