import EyesFree.Enumeration
import EyesFree.Number.Digit
import EyesFree.Number.Binary
import EyesFree.Number.Shortest
import EyesFree.Number.Numeral
import EyesFree.Number.Text
import EyesFree.Json.Value
import EyesFree.Json.Printer
import EyesFree.Json.Parser
import EyesFree.Json.Codec
import EyesFree.Fault
import EyesFree.Metadata.Geometry
import EyesFree.Metadata.Key
import EyesFree.Metadata.Value
import EyesFree.Metadata.Basic
import EyesFree.Metadata.Capabilities
import EyesFree.Session.State
import EyesFree.Error
import EyesFree.Config
import EyesFree.Pacing
import EyesFree.PacingRun
import EyesFree.Activity
import EyesFree.Capture.Request
import EyesFree.Capture.Event
import EyesFree.Capture.Synthesis
import EyesFree.Capture.Parameters
import EyesFree.Capture.ParametersRun
import EyesFree.Capture.Subscription
import EyesFree.Capture.Channel
import EyesFree.Capture.Replay
import EyesFree.Capture.ReplayRun
import EyesFree.Capture.Sequencer
import EyesFree.Capture.SequencerRun
import EyesFree.Capture.SequencerThreads
import EyesFree.Preview.Surface
import EyesFree.Preview.Source
import EyesFree.Preview.SourceRun
import EyesFree.Preview.SourceUse
import EyesFree.Preview.Output
import EyesFree.Preview.SlotRun
import EyesFree.Preview.WriterRun
import EyesFree.Preview.Relay
import EyesFree.Preview.RelayThreads
import EyesFree.Session.Basic
import EyesFree.Session.Run
import EyesFree.Session.Extender
import EyesFree.Program.Arguments
import EyesFree.Program.Simulation
import EyesFree.Program.Printout
import EyesFree.Program.Moment
import EyesFree.Main
import EyesFree.Proofs.Run
import EyesFree.Proofs.Extent
import EyesFree.Proofs.Channel
import EyesFree.Proofs.Sequencer
import EyesFree.Proofs.Captures
import EyesFree.Proofs.Ledger
import EyesFree.Proofs.Deliveries
import EyesFree.Proofs.Progress
import EyesFree.Proofs.Reports
import EyesFree.Proofs.History
import EyesFree.Proofs.Submission
import EyesFree.Proofs.RelayMoves
import EyesFree.Proofs.RelaySafety
import EyesFree.Proofs.RelayDelivery
import EyesFree.Proofs.Passage
import EyesFree.Proofs.PreviewMoves
import EyesFree.Proofs.FrameArrival
import EyesFree.Proofs.Backlog
import EyesFree.Proofs.Transfer
import EyesFree.Proofs.FrameLog
import EyesFree.Proofs.Custody
import EyesFree.Proofs.FrameAccount
import EyesFree.Proofs.Release
import EyesFree.Proofs.Bundle
import EyesFree.Proofs.Closing
import EyesFree.Proofs.Refusals
import EyesFree.Proofs.Numbering
import EyesFree.Proofs.RepeatingRecord
import EyesFree.Proofs.RepeatingThreads
import EyesFree.Proofs.Holdings
import EyesFree.Proofs.StageMoves
import EyesFree.Proofs.EndSignal
import EyesFree.Proofs.Turnover
import EyesFree.Proofs.Literals
import EyesFree.Proofs.Grammar
import EyesFree.Proofs.Spelling
import EyesFree.Proofs.Codecs
import EyesFree.Proofs.RoundTrip
import EyesFree.Proofs.ReadBack
import EyesFree.Proofs.Provenance
import EyesFree.Proofs.SimulationRun
import EyesFree.Proofs.PrintedEvents
import EyesFree.Proofs.Streaming
import EyesFree.Proofs.Pacing
import EyesFree.Proofs.SimulationTotals
import EyesFree.Proofs.SavedSettings
import EyesFree.Proofs.Publication
import EyesFree.Proofs.BundleEntries
import EyesFree.Proofs.ParametersHistory
import EyesFree.Proofs.ExactIntegers
import EyesFree.Proofs.Target
import EyesFree.Proofs.Agenda
import EyesFree.Proofs.Overflow
import EyesFree.Proofs.ChannelMoves
import EyesFree.Proofs.ChannelAccount
import EyesFree.Proofs.SourceAccount
import EyesFree.Proofs.SlotAccount
import EyesFree.Proofs.Acceptance
import EyesFree.Proofs.PartialSettings
import EyesFree.Proofs.Resolutions
