import Reclaim.CommandLine.Grammar
import Reclaim.CommandLine.Invocation
import Reclaim.CommandLine.Relay
import Reclaim.CommandLine.Run
import Reclaim.Custody
import Reclaim.Decimal.Shortest
import Reclaim.Engine
import Reclaim.Engine.Client
import Reclaim.Engine.Scripted
import Reclaim.Engine.Simulated
import Reclaim.Engine.Turn
import Reclaim.ExitQueue
import Reclaim.Inventory
import Reclaim.Journal
import Reclaim.Journal.Pattern
import Reclaim.Journal.Pattern.Character
import Reclaim.Journal.Pattern.Class
import Reclaim.Journal.Pattern.Manner
import Reclaim.Journal.Threshold
import Reclaim.Json.Fault
import Reclaim.Json.Literal
import Reclaim.Json.Numeral
import Reclaim.Json.Record
import Reclaim.Json.Value
import Reclaim.Keyed
import Reclaim.Lifetime
import Reclaim.LogPath
import Reclaim.Main
import Reclaim.Procedure
import Reclaim.Removal
import Reclaim.Resource
import Reclaim.Scene
import Reclaim.Selector
import Reclaim.Session
import Reclaim.Settings
import Reclaim.Sweep
import Reclaim.Text.Alphabetic
import Reclaim.Text.Basic
import Reclaim.Text.Digits
import Reclaim.Text.Printable
import Reclaim.Text.Terminal
import Reclaim.Text.Utf8
import Reclaim.Wire.Dial
import Reclaim.Wire.Handshake
import Reclaim.Wire.Stream
import Reclaim.Proofs.Holdings
import Reclaim.Proofs.Chronicle
import Reclaim.Proofs.Attempt
import Reclaim.Proofs.Drain
import Reclaim.Proofs.Reclamation
import Reclaim.Proofs.Delivery
import Reclaim.Proofs.Labels
import Reclaim.Proofs.Sweeps
import Reclaim.Proofs.Interleaving
import Reclaim.Proofs.Handover
import Reclaim.Proofs.Lines
import Reclaim.Proofs.Acknowledgment
import Reclaim.Proofs.Form
import Reclaim.Proofs.Fragments
import Reclaim.Proofs.Answers
import Reclaim.Proofs.Runs
import Reclaim.Proofs.Takeover
import Reclaim.Proofs.Connection
import Reclaim.Proofs.Quiet
import Reclaim.Proofs.Testament
import Reclaim.Proofs.Filters
import Reclaim.Proofs.Stamps
import Reclaim.Proofs.Clauses
import Reclaim.Proofs.Agreement
import Reclaim.Proofs.ExitWork
import Reclaim.Proofs.LateTakeover
import Reclaim.Proofs.Locality
import Reclaim.Proofs.Confluence
import Reclaim.Proofs.DrainOrder
import Reclaim.Proofs.Release
import Reclaim.Proofs.Renewal
import Reclaim.Proofs.Client
import Reclaim.Proofs.Absence
import Reclaim.Proofs.NetworkListing
import Reclaim.Proofs.FirstAcknowledgment
import Reclaim.Proofs.Spelling
import Reclaim.Proofs.Skipping
import Reclaim.Proofs.Members
import Reclaim.Proofs.Output
import Reclaim.Proofs.ContainerRemoval
import Reclaim.Proofs.NetworkOutcome
import Reclaim.Proofs.NetworkRemoval
import Reclaim.Proofs.Sending
import Reclaim.Proofs.Agenda
import Reclaim.Proofs.Firing
import Reclaim.Proofs.LabelArguments
import Reclaim.Proofs.Requirements
import Reclaim.Proofs.FailedListing
import Reclaim.Proofs.Bookkeeping
import Reclaim.Proofs.LogPlace
import Reclaim.Proofs.ExitHandler
