import RuntimeStubs.Hex
import RuntimeStubs.Text
import RuntimeStubs.Text.Letter
import RuntimeStubs.Text.ControlSequence
import RuntimeStubs.Sorting
import RuntimeStubs.Address
import RuntimeStubs.Phase
import RuntimeStubs.Stub
import RuntimeStubs.Fault
import RuntimeStubs.Action
import RuntimeStubs.Descriptor
import RuntimeStubs.Registry
import RuntimeStubs.Options
import RuntimeStubs.Archive
import RuntimeStubs.Archive.Snapshot
import RuntimeStubs.Code.Instruction
import RuntimeStubs.Code.Listing
import RuntimeStubs.Sink
import RuntimeStubs.Code.Buffer
import RuntimeStubs.Pattern.Complaint
import RuntimeStubs.Pattern.CharSet
import RuntimeStubs.Pattern.Tree
import RuntimeStubs.Pattern.Cursor
import RuntimeStubs.Pattern.Reading.Escape
import RuntimeStubs.Pattern.Reading.Bracket
import RuntimeStubs.Pattern.Reading
import RuntimeStubs.Pattern.Expression
import RuntimeStubs.Pattern.Meaning
import RuntimeStubs.Pattern.Search
import RuntimeStubs.Pattern.Encoding
import RuntimeStubs.Pattern.Footprint
import RuntimeStubs.Pattern
import RuntimeStubs.Log.Diagnostic
import RuntimeStubs.Log.Filter
import RuntimeStubs.Log
import RuntimeStubs.Listener
import RuntimeStubs.Session.Basic
import RuntimeStubs.Session.Generation
import RuntimeStubs.Bootstrap
import RuntimeStubs.Bootstrap.Worker
import RuntimeStubs.Statistics
import RuntimeStubs.Scenario.Emission
import RuntimeStubs.Scenario.Command
import RuntimeStubs.Scenario.World
import RuntimeStubs.Scenario.Run
import RuntimeStubs.Address.Reading
import RuntimeStubs.Code.StubBody
import RuntimeStubs.CommandLine.Arguments
import RuntimeStubs.CommandLine.Program
import RuntimeStubs.Main
import RuntimeStubs.Proofs.Archive.Invariant
import RuntimeStubs.Proofs.Archive.Validation
import RuntimeStubs.Proofs.Archive.Requests
import RuntimeStubs.Proofs.Archive.Catalogue
import RuntimeStubs.Proofs.Archive.Holding
import RuntimeStubs.Proofs.Archive.RoundTrip
import RuntimeStubs.Proofs.Archive.Deposits
import RuntimeStubs.Proofs.Registry.Calls
import RuntimeStubs.Proofs.Registry.LifeCycle
import RuntimeStubs.Proofs.Registry.Lookup
import RuntimeStubs.Proofs.Registry.Shares
import RuntimeStubs.Proofs.Session.Stepwise
import RuntimeStubs.Proofs.Bootstrap.Timeline
import RuntimeStubs.Proofs.Bootstrap.Freeze
import RuntimeStubs.Proofs.Bootstrap.Reopening
import RuntimeStubs.Proofs.Session.Steps
import RuntimeStubs.Proofs.Session.Operations
import RuntimeStubs.Proofs.Session.Outcomes
import RuntimeStubs.Proofs.Code.Calls
import RuntimeStubs.Proofs.Session.Restoration
import RuntimeStubs.Proofs.Session.Endings
import RuntimeStubs.Proofs.Session.Publication
import RuntimeStubs.Proofs.Session.Requests
import RuntimeStubs.Proofs.Session.LifeCycle
import RuntimeStubs.Proofs.Session.Annals
import RuntimeStubs.Proofs.Session.Lookup
import RuntimeStubs.Proofs.Session.Marks
import RuntimeStubs.Proofs.Session.Standstill
import RuntimeStubs.Proofs.Session.Accounts
import RuntimeStubs.Proofs.Bootstrap.Course
import RuntimeStubs.Proofs.Bootstrap.Inventory
import RuntimeStubs.Proofs.Bootstrap.Remnants
import RuntimeStubs.Proofs.Session.Sharing
import RuntimeStubs.Proofs.Bootstrap.Threads
import RuntimeStubs.Proofs.Bootstrap.Orderless
import RuntimeStubs.Proofs.Session.Layout
import RuntimeStubs.Proofs.Session.Coupling
import RuntimeStubs.Proofs.Session.Attachment
import RuntimeStubs.Proofs.Archive.Extension
import RuntimeStubs.Proofs.Session.Tally
import RuntimeStubs.Proofs.Log.Loudness
import RuntimeStubs.Proofs.Session.Discretion
import RuntimeStubs.Proofs.Bootstrap.Discretion
import RuntimeStubs.Proofs.Scenario.Settings
import RuntimeStubs.Proofs.Scenario.Worlds
import RuntimeStubs.Proofs.Scenario.Discretion
import RuntimeStubs.Proofs.Statistics.Sums
import RuntimeStubs.Proofs.Address.Reading
import RuntimeStubs.Proofs.CommandLine.Routines
import RuntimeStubs.Proofs.CommandLine.Phases
import RuntimeStubs.Proofs.CommandLine.Bootstraps
import RuntimeStubs.Proofs.CommandLine.Asking
import RuntimeStubs.Proofs.CommandLine.Answers
import RuntimeStubs.Proofs.Archive.Acceptance
import RuntimeStubs.Proofs.Archive.Entries
import RuntimeStubs.Proofs.Code.Tape
import RuntimeStubs.Proofs.Session.Atomicity
import RuntimeStubs.Proofs.Code.Decoding
import RuntimeStubs.Proofs.Code.Columns
import RuntimeStubs.Proofs.Code.Disassembly
import RuntimeStubs.Proofs.Session.Provenance
import RuntimeStubs.Proofs.Statistics.Counts
import RuntimeStubs.Proofs.Statistics.Report
import RuntimeStubs.Proofs.Address.Numerals
import RuntimeStubs.Proofs.CommandLine.Lookups
import RuntimeStubs.Proofs.Code.Frames
