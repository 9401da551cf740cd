import EventFormation.Cluster.Basic
import EventFormation.Clusterer
import EventFormation.Command.Error
import EventFormation.Command.Execution
import EventFormation.Command.Form
import EventFormation.Command.Invocation
import EventFormation.Config.Basic
import EventFormation.Config.Reading
import EventFormation.Config.Writing
import EventFormation.Decimal.Shortest
import EventFormation.Decimal.Style
import EventFormation.Dump.Chunk
import EventFormation.Dump.Summary
import EventFormation.Dump.Writer
import EventFormation.Event
import EventFormation.EventTable
import EventFormation.Fault
import EventFormation.Files.Error
import EventFormation.Files.OpenFile
import EventFormation.Files.Path
import EventFormation.Files.Store
import EventFormation.Formation.Builder
import EventFormation.Hit
import EventFormation.IoError
import EventFormation.Json.Content
import EventFormation.Json.Cursor
import EventFormation.Json.Mistake
import EventFormation.Json.Number
import EventFormation.Json.Printer
import EventFormation.Json.QuotedText
import EventFormation.Json.Reader
import EventFormation.Json.Skip
import EventFormation.Log
import EventFormation.Log.Formation
import EventFormation.Log.Processing
import EventFormation.Main
import EventFormation.Matching.Matcher
import EventFormation.Matching.Pass
import EventFormation.Matching.Rule
import EventFormation.Processing.Processor
import EventFormation.Processing.Statistics
import EventFormation.Readout.Generator
import EventFormation.Readout.Record
import EventFormation.Receive.Channel
import EventFormation.Receive.HandoffQueue
import EventFormation.Receive.Ring
import EventFormation.Receive.SlotBuffer
import EventFormation.Reduction
import EventFormation.Series
import EventFormation.Text.Display
import EventFormation.Text.Number
import EventFormation.Text.Utf8
import EventFormation.TimeSpan
import EventFormation.Proofs.Cluster.Bounds
import EventFormation.Proofs.Event.Slots
import EventFormation.Proofs.Fault
import EventFormation.Proofs.Matching.Walk
import EventFormation.Proofs.Matching.Steps
import EventFormation.Proofs.Matching.Answers
import EventFormation.Proofs.Matching.Runs
import EventFormation.Proofs.Matching.Polls
import EventFormation.Proofs.Config.Checked
import EventFormation.Proofs.Matching.Conservation
import EventFormation.Proofs.Cluster.Groups
import EventFormation.Proofs.Matching.Horizon
import EventFormation.Proofs.Formation.Calls
import EventFormation.Proofs.Formation.Progress
import EventFormation.Proofs.Formation.Safety
import EventFormation.Proofs.Receive.Memory
import EventFormation.Proofs.Receive.Filling
import EventFormation.Proofs.Receive.Queue
import EventFormation.Proofs.Receive.Histories
import EventFormation.Proofs.Receive.Order
import EventFormation.Proofs.Receive.Handover
import EventFormation.Proofs.Matching.Chains
import EventFormation.Proofs.Matching.Distance
import EventFormation.Proofs.Matching.EndWalk
import EventFormation.Proofs.Event.Outline
import EventFormation.Proofs.Matching.EndPolls
import EventFormation.Proofs.Formation.Running
import EventFormation.Proofs.Formation.Outstanding
import EventFormation.Proofs.Matching.Outcomes
import EventFormation.Proofs.Formation.Streams
import EventFormation.Proofs.Formation.Batches
import EventFormation.Proofs.Formation.Accounts
import EventFormation.Proofs.Processing.Handling
import EventFormation.Proofs.Processing.Sessions
import EventFormation.Proofs.Cluster.Reordering
import EventFormation.Proofs.Matching.Reordering
import EventFormation.Proofs.Formation.Reordering
import EventFormation.Proofs.Cluster.Tracks
import EventFormation.Proofs.Matching.Bursts
import EventFormation.Proofs.Event.Tracks
import EventFormation.Proofs.Formation.Bursts
import EventFormation.Proofs.Formation.Tracks
import EventFormation.Proofs.Cluster.Components
import EventFormation.Proofs.Matching.Overflow
import EventFormation.Proofs.Formation.Breaking
import EventFormation.Proofs.Processing.Crashes
import EventFormation.Proofs.Dump.Naming
import EventFormation.Proofs.Dump.Chunks
import EventFormation.Proofs.Dump.Writing
import EventFormation.Proofs.Dump.Reading
import EventFormation.Proofs.Dump.RoundTrip
import EventFormation.Proofs.Matching.Readiness
import EventFormation.Proofs.Readout.Parsing
import EventFormation.Proofs.Receive.Fifo
import EventFormation.Proofs.Matching.Cuts
import EventFormation.Proofs.Formation.Cuts
import EventFormation.Proofs.Matching.Visits
import EventFormation.Proofs.Matching.Candidates
import EventFormation.Proofs.Matching.EndRuns
import EventFormation.Proofs.Matching.Joining
import EventFormation.Proofs.Matching.Pairing
import EventFormation.Proofs.Matching.Repolling
import EventFormation.Proofs.Matching.Questions
import EventFormation.Proofs.Matching.Termination
import EventFormation.Proofs.Matching.Backlog
import EventFormation.Proofs.Matching.GapWalk
import EventFormation.Proofs.Pairs
import EventFormation.Proofs.Matching.Simulation
import EventFormation.Proofs.Cluster.Delays
import EventFormation.Proofs.Event.Delays
import EventFormation.Proofs.Matching.Delays
import EventFormation.Proofs.Formation.Delays
import EventFormation.Proofs.Cluster.Construction
import EventFormation.Proofs.Formation.Interleaving
import EventFormation.Proofs.Event.Extents
import EventFormation.Proofs.Processing.Recording
import EventFormation.Proofs.Event.Changes
import EventFormation.Proofs.Receive.Separation
import EventFormation.Proofs.Readout.Clock
import EventFormation.Proofs.Dump.Counting
import EventFormation.Proofs.Command.Describing
