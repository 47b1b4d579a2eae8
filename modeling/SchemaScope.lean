import SchemaScope.Column
import SchemaScope.CommandLine
import SchemaScope.Completion
import SchemaScope.Connection
import SchemaScope.Decimal.Binary64
import SchemaScope.Decimal.Shortest
import SchemaScope.Dialect
import SchemaScope.Environment
import SchemaScope.Exchange.Schema
import SchemaScope.Exchange.Settings
import SchemaScope.FileTree
import SchemaScope.ForeignKey
import SchemaScope.ForeignKey.Grouping
import SchemaScope.Index.Columns
import SchemaScope.Index.ForeignKeys
import SchemaScope.Inquiry
import SchemaScope.Inspection
import SchemaScope.Json.Number
import SchemaScope.Json.Printer
import SchemaScope.Json.Reader
import SchemaScope.Json.Record
import SchemaScope.Json.Value
import SchemaScope.Main
import SchemaScope.NameSet
import SchemaScope.OrderedMap
import SchemaScope.Program
import SchemaScope.Proofs.ForeignKey.Grouping
import SchemaScope.Proofs.Inquiry
import SchemaScope.Proofs.Sorting
import SchemaScope.Proofs.Sqlite.Keys
import SchemaScope.Proofs.Sqlite.ForeignKeys
import SchemaScope.Proofs.OrderedMap
import SchemaScope.Proofs.Topology.Questions
import SchemaScope.Proofs.Worker.Detail
import SchemaScope.Proofs.Worker.History
import SchemaScope.Proofs.Worker.Installation
import SchemaScope.Proofs.Worker.Moves
import SchemaScope.Proofs.Worker.Readiness
import SchemaScope.Proofs.Worker.Refreshes
import SchemaScope.Proofs.Worker.Rest
import SchemaScope.QueryResult
import SchemaScope.Refresh
import SchemaScope.Repository
import SchemaScope.SchemaCache
import SchemaScope.SchemaError
import SchemaScope.Session
import SchemaScope.Session.Parameters
import SchemaScope.Session.Protocol
import SchemaScope.Session.Server
import SchemaScope.Settings
import SchemaScope.Settings.Load
import SchemaScope.Settings.OfToml
import SchemaScope.Settings.Template
import SchemaScope.Simulation.Script
import SchemaScope.Simulation.Stage
import SchemaScope.SortedMap
import SchemaScope.Sqlite.Catalog
import SchemaScope.Sqlite.Cell
import SchemaScope.Sqlite.Columns
import SchemaScope.Sqlite.Declaration
import SchemaScope.Sqlite.ForeignKeys
import SchemaScope.Sqlite.Repository
import SchemaScope.Sqlite.Token
import SchemaScope.TableName
import SchemaScope.Text.Alphanumeric
import SchemaScope.Text.Blank
import SchemaScope.Text.Canonical
import SchemaScope.Text.Canonical.CombiningClass
import SchemaScope.Text.Canonical.Table
import SchemaScope.Text.Casing
import SchemaScope.Text.CharRanges
import SchemaScope.Text.CodeRun
import SchemaScope.Text.Cursor
import SchemaScope.Text.Dotted
import SchemaScope.Text.EscapeRanges
import SchemaScope.Text.Like
import SchemaScope.Text.Lines
import SchemaScope.Text.LowerCase
import SchemaScope.Text.LowerCaseTable
import SchemaScope.Text.Quoted
import SchemaScope.Text.Utf16
import SchemaScope.Text.Utf8
import SchemaScope.Toml.Document
import SchemaScope.Toml.Scalars
import SchemaScope.Toml.Strings
import SchemaScope.Toml.Tree
import SchemaScope.Toml.Value
import SchemaScope.Topology
import SchemaScope.Uri
import SchemaScope.Uri.Address
import SchemaScope.Uri.Error
import SchemaScope.Uri.Host
import SchemaScope.Uri.Name
import SchemaScope.Uri.Name.Direction
import SchemaScope.Uri.Name.DirectionTable
import SchemaScope.Uri.Name.Folding
import SchemaScope.Uri.Name.FoldingTable
import SchemaScope.Uri.Name.Joining
import SchemaScope.Uri.Name.JoiningTable
import SchemaScope.Uri.Path
import SchemaScope.Uri.Percent
import SchemaScope.Uri.Punycode
import SchemaScope.Worker.State
import SchemaScope.Worker.Step
import SchemaScope.Worker.Turns
import SchemaScope.World
import SchemaScope.Proofs.Worker.Stopping
import SchemaScope.Proofs.Worker.Generations
import SchemaScope.Proofs.Worker.Signals
import SchemaScope.Proofs.Worker.Settling
import SchemaScope.Proofs.Worker.Coalescing
import SchemaScope.Proofs.Worker.Absence
import SchemaScope.Proofs.Worker.Binding
import SchemaScope.Proofs.Session.Runs
import SchemaScope.Proofs.Session.Documents
import SchemaScope.Proofs.Worker.Turns
import SchemaScope.Proofs.Worker.LoopTurn
import SchemaScope.Proofs.Session.Connecting
import SchemaScope.Proofs.Session.Rest
import SchemaScope.Proofs.Session.InFlight
import SchemaScope.Proofs.Session.Unseen
import SchemaScope.Proofs.Index.Columns
import SchemaScope.Proofs.Topology.Merging
import SchemaScope.Proofs.Sqlite.Contents
import SchemaScope.Proofs.Worker.Answers
import SchemaScope.Proofs.Sqlite.Cached
import SchemaScope.Proofs.SchemaCache
import SchemaScope.Proofs.Settings.Template
import SchemaScope.Proofs.Text.Cursor
import SchemaScope.Proofs.Refresh
import SchemaScope.Proofs.Worker.Effect
import SchemaScope.Proofs.Sqlite.Tables
import SchemaScope.Proofs.Sqlite.ColumnsBySchema
import SchemaScope.Proofs.Topology.Installed
import SchemaScope.Proofs.ForeignKey.Pairs
import SchemaScope.Proofs.Completion
import SchemaScope.Proofs.Dialect
import SchemaScope.Proofs.Text.LowerCase
import SchemaScope.Proofs.SortedMap
import SchemaScope.Proofs.Json.Text
import SchemaScope.Proofs.Json.Exchanged
import SchemaScope.Proofs.Exchange
import SchemaScope.Proofs.Index.ForeignKeys
