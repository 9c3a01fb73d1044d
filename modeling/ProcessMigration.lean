import ProcessMigration.Action
import ProcessMigration.Arguments
import ProcessMigration.Config
import ProcessMigration.Connector
import ProcessMigration.Decimal.Binary64
import ProcessMigration.Decimal.Numeral
import ProcessMigration.Decimal.Shortest
import ProcessMigration.FileError
import ProcessMigration.FileTree
import ProcessMigration.FileTree.Bytes
import ProcessMigration.FileTree.Databases
import ProcessMigration.FlowNode
import ProcessMigration.FlowNode.LookUp
import ProcessMigration.FlowNode.Resolve
import ProcessMigration.Json.Basic
import ProcessMigration.Json.Decode
import ProcessMigration.Json.Printer
import ProcessMigration.Json.Reader
import ProcessMigration.Key
import ProcessMigration.Key.Calls
import ProcessMigration.Main
import ProcessMigration.Mapping.Address
import ProcessMigration.Mapping.Calls
import ProcessMigration.Mapping.Database
import ProcessMigration.Mapping.File
import ProcessMigration.Mapping.History
import ProcessMigration.Mapping.Record
import ProcessMigration.Mapping.Row
import ProcessMigration.Mapping.Store
import ProcessMigration.Migration.Drain
import ProcessMigration.Migration.Environment
import ProcessMigration.Migration.Interruption
import ProcessMigration.Migration.Listing
import ProcessMigration.Migration.Pass
import ProcessMigration.Migration.Preparation
import ProcessMigration.Migration.Rehearsal
import ProcessMigration.Migration.Report
import ProcessMigration.Migration.Run
import ProcessMigration.Migration.RunState
import ProcessMigration.Migration.Session
import ProcessMigration.Migration.Settings
import ProcessMigration.Migration.Trial
import ProcessMigration.Migration.Workspace
import ProcessMigration.Paging
import ProcessMigration.Paging.Calls
import ProcessMigration.Path
import ProcessMigration.Program
import ProcessMigration.Proofs.ActiveTokens
import ProcessMigration.Proofs.AnyFetch
import ProcessMigration.Proofs.Batching
import ProcessMigration.Proofs.Books
import ProcessMigration.Proofs.ByteOrder
import ProcessMigration.Proofs.Calendar
import ProcessMigration.Proofs.Calls
import ProcessMigration.Proofs.Completion
import ProcessMigration.Proofs.Correspondence
import ProcessMigration.Proofs.DatabaseFiles
import ProcessMigration.Proofs.DateFormatting
import ProcessMigration.Proofs.DateOrder
import ProcessMigration.Proofs.DatePatterns
import ProcessMigration.Proofs.Decision
import ProcessMigration.Proofs.Digits
import ProcessMigration.Proofs.Draining
import ProcessMigration.Proofs.EntryReading
import ProcessMigration.Proofs.Enumeration
import ProcessMigration.Proofs.Failures
import ProcessMigration.Proofs.FileRuns
import ProcessMigration.Proofs.Following
import ProcessMigration.Proofs.Gateways
import ProcessMigration.Proofs.GivenJournal
import ProcessMigration.Proofs.HandOverCases
import ProcessMigration.Proofs.HandOverOnce
import ProcessMigration.Proofs.HandOverTwice
import ProcessMigration.Proofs.Independence
import ProcessMigration.Proofs.Interruption
import ProcessMigration.Proofs.Isolation
import ProcessMigration.Proofs.JobDelivery
import ProcessMigration.Proofs.JournalCodec
import ProcessMigration.Proofs.JournalKeys
import ProcessMigration.Proofs.JournalLines
import ProcessMigration.Proofs.JournalText
import ProcessMigration.Proofs.JsonReading
import ProcessMigration.Proofs.JsonText
import ProcessMigration.Proofs.KeyOrder
import ProcessMigration.Proofs.KeyRuns
import ProcessMigration.Proofs.KeyWords
import ProcessMigration.Proofs.Ledger
import ProcessMigration.Proofs.LifeCycle
import ProcessMigration.Proofs.Listing
import ProcessMigration.Proofs.MapEntries
import ProcessMigration.Proofs.MappingTable
import ProcessMigration.Proofs.NumberText
import ProcessMigration.Proofs.Obligations
import ProcessMigration.Proofs.Ownership
import ProcessMigration.Proofs.PagingLoop
import ProcessMigration.Proofs.Passes
import ProcessMigration.Proofs.PipelineOrder
import ProcessMigration.Proofs.PipelineRuns
import ProcessMigration.Proofs.Preparation
import ProcessMigration.Proofs.ReadBack
import ProcessMigration.Proofs.ReaderFuel
import ProcessMigration.Proofs.Registrations
import ProcessMigration.Proofs.RegistrySelection
import ProcessMigration.Proofs.Reopening
import ProcessMigration.Proofs.Repetition
import ProcessMigration.Proofs.Requirements
import ProcessMigration.Proofs.Resumption
import ProcessMigration.Proofs.RetryPass
import ProcessMigration.Proofs.RowOrder
import ProcessMigration.Proofs.RowSurvival
import ProcessMigration.Proofs.Sessions
import ProcessMigration.Proofs.ShrinkingSet
import ProcessMigration.Proofs.SkippedListing
import ProcessMigration.Proofs.SnapshotDocuments
import ProcessMigration.Proofs.SnapshotOrder
import ProcessMigration.Proofs.StackSearch
import ProcessMigration.Proofs.StartDate
import ProcessMigration.Proofs.StartedInstances
import ProcessMigration.Proofs.StoreOrder
import ProcessMigration.Proofs.StoreViews
import ProcessMigration.Proofs.TargetCalls
import ProcessMigration.Proofs.TargetEngine
import ProcessMigration.Proofs.TargetKeys
import ProcessMigration.Proofs.TargetState
import ProcessMigration.Proofs.TreePlaces
import ProcessMigration.Proofs.TreeWalks
import ProcessMigration.Proofs.Trials
import ProcessMigration.Proofs.Triple
import ProcessMigration.Proofs.TwoRuns
import ProcessMigration.Proofs.Undisturbed
import ProcessMigration.Proofs.Walks
import ProcessMigration.Proofs.WorkspaceRuns
import ProcessMigration.SortedMap
import ProcessMigration.Source.Activity
import ProcessMigration.Source.Instance
import ProcessMigration.Source.Search
import ProcessMigration.Source.Snapshot
import ProcessMigration.Source.Stack
import ProcessMigration.Source.Variable
import ProcessMigration.Strategy
import ProcessMigration.Target.Calls
import ProcessMigration.Target.Command
import ProcessMigration.Target.Definition
import ProcessMigration.Target.Engine
import ProcessMigration.Target.Journal
import ProcessMigration.Target.State
import ProcessMigration.Text.Blank
import ProcessMigration.Text.Digits
import ProcessMigration.Text.Lines
import ProcessMigration.Text.Lowercase
import ProcessMigration.Text.Quoted
import ProcessMigration.Time.Calendar
import ProcessMigration.Time.Instant
import ProcessMigration.Time.Pattern
import ProcessMigration.Time.Relaxed
import ProcessMigration.Time.Strict
import ProcessMigration.Time.Zoned
import ProcessMigration.Toml.Reader
import ProcessMigration.Toml.Scalar
import ProcessMigration.Toml.Table
import ProcessMigration.Toml.Text
import ProcessMigration.Validation
import ProcessMigration.Variables.Builtin
import ProcessMigration.Variables.Invocation
import ProcessMigration.Variables.Pipeline
import ProcessMigration.Variables.Registration
import ProcessMigration.Variables.Registry
import ProcessMigration.Variables.Watched
