import SyntaxGraph.Text.Utf8
import SyntaxGraph.Text.Hidden
import SyntaxGraph.Text.Quoted
import SyntaxGraph.Text.Decimal
import SyntaxGraph.Path
import SyntaxGraph.Language
import SyntaxGraph.Span
import SyntaxGraph.Node
import SyntaxGraph.SyntaxTree
import SyntaxGraph.Json.Printer
import SyntaxGraph.Json.Reader
import SyntaxGraph.Json.Skip
import SyntaxGraph.Json.Record
import SyntaxGraph.Export
import SyntaxGraph.Config
import SyntaxGraph.KeepFirst
import SyntaxGraph.Number.Magnitude
import SyntaxGraph.Number.Basic
import SyntaxGraph.Number.Text
import SyntaxGraph.Store.Cell
import SyntaxGraph.Store.Fault
import SyntaxGraph.Store.Database
import SyntaxGraph.Disk.OsError
import SyntaxGraph.Disk.Basic
import SyntaxGraph.Disk.Lookup
import SyntaxGraph.Disk.Edit
import SyntaxGraph.Store.Location
import SyntaxGraph.Store.Settle
import SyntaxGraph.Store.SideFile
import SyntaxGraph.Store.Connection
import SyntaxGraph.Failure
import SyntaxGraph.Message
import SyntaxGraph.Walk
import SyntaxGraph.Index.Report
import SyntaxGraph.Index.Visit
import SyntaxGraph.Index.Run
import SyntaxGraph.Store.Handle
import SyntaxGraph.Action
import SyntaxGraph.Store.Open
import SyntaxGraph.Cache
import SyntaxGraph.Service
import SyntaxGraph.CommandLine.Argument
import SyntaxGraph.CommandLine.Request
import SyntaxGraph.CommandLine.Run
import SyntaxGraph.Main
import SyntaxGraph.Proofs.Filled
import SyntaxGraph.Proofs.Graph
import SyntaxGraph.Proofs.KeepFirst
import SyntaxGraph.Proofs.Rebuild
import SyntaxGraph.Proofs.NodeId
import SyntaxGraph.Proofs.TextExport
import SyntaxGraph.Proofs.WalkOrder
import SyntaxGraph.Proofs.Rooted
import SyntaxGraph.Proofs.Accounting
import SyntaxGraph.Proofs.Collisions
import SyntaxGraph.Proofs.Unindexable
import SyntaxGraph.Proofs.Json.RoundTrip
import SyntaxGraph.Proofs.Json.Truncated
import SyntaxGraph.Proofs.Json.Spellings
import SyntaxGraph.Proofs.Disk.Tree
import SyntaxGraph.Proofs.Disk.Way
import SyntaxGraph.Proofs.Disk.Outside
import SyntaxGraph.Proofs.Store.Use
import SyntaxGraph.Proofs.Store.Serving
import SyntaxGraph.Proofs.Disk.Directories
import SyntaxGraph.Proofs.Service.Site
import SyntaxGraph.Proofs.Service.Touch
import SyntaxGraph.Proofs.Service.Answer
import SyntaxGraph.Proofs.Service.History
import SyntaxGraph.Proofs.Service.Lifetime
import SyntaxGraph.Proofs.Replay
import SyntaxGraph.Proofs.Traversal
import SyntaxGraph.Proofs.Refusals
import SyntaxGraph.Proofs.Children
import SyntaxGraph.Proofs.SourceOrder
import SyntaxGraph.Proofs.Lossy
import SyntaxGraph.Proofs.Disk.Names
import SyntaxGraph.Proofs.Store.Tidy
import SyntaxGraph.Proofs.Spelling
import SyntaxGraph.Proofs.OwnIds
import SyntaxGraph.Proofs.Milestones
import SyntaxGraph.Proofs.Store.Detached
import SyntaxGraph.Proofs.Disk.Arrival
import SyntaxGraph.Proofs.Store.Berth
import SyntaxGraph.Proofs.Store.Resting
import SyntaxGraph.Proofs.Store.Opening
import SyntaxGraph.Proofs.Store.Growth
import SyntaxGraph.Proofs.Store.Seated
import SyntaxGraph.Proofs.Store.Reopening
import SyntaxGraph.Proofs.Canonical
import SyntaxGraph.Proofs.SourceNames
import SyntaxGraph.Proofs.Disk.Found
import SyntaxGraph.Proofs.Disk.Listing
import SyntaxGraph.Proofs.Considered
import SyntaxGraph.Proofs.Disk.Removal
import SyntaxGraph.Proofs.Service.Clearing
