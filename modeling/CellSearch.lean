import CellSearch.Column.Basic
import CellSearch.Column.Binding
import CellSearch.Command.Arguments
import CellSearch.Command.FileTree
import CellSearch.Command.Host
import CellSearch.Command.Line
import CellSearch.Command.Run
import CellSearch.Config.Basic
import CellSearch.Config.File
import CellSearch.Cursor
import CellSearch.Document.Basic
import CellSearch.Document.Decode
import CellSearch.Document.Encode
import CellSearch.Engine.Basic
import CellSearch.Engine.Counters
import CellSearch.Engine.Delta
import CellSearch.Engine.DirtyRows
import CellSearch.Engine.Edit
import CellSearch.Engine.Evaluate
import CellSearch.Error
import CellSearch.Interval
import CellSearch.Json.Write
import CellSearch.Main
import CellSearch.PartitionPoint
import CellSearch.Proofs.Column.Binding
import CellSearch.Proofs.Column.Scope
import CellSearch.Proofs.Config.File
import CellSearch.Proofs.Cursor.Anchor
import CellSearch.Proofs.Cursor.Landing
import CellSearch.Proofs.Cursor.Traversal
import CellSearch.Proofs.Engine.Bounds
import CellSearch.Proofs.Engine.CacheSize
import CellSearch.Proofs.Engine.Call
import CellSearch.Proofs.Engine.Cells
import CellSearch.Proofs.Engine.Check
import CellSearch.Proofs.Engine.Coherence
import CellSearch.Proofs.Engine.Counters
import CellSearch.Proofs.Engine.Current
import CellSearch.Proofs.Engine.DirtyRows
import CellSearch.Proofs.Engine.DirtySet
import CellSearch.Proofs.Engine.EditedSource
import CellSearch.Proofs.Engine.Flush
import CellSearch.Proofs.Engine.HostTable
import CellSearch.Proofs.Engine.Order
import CellSearch.Proofs.Engine.Origin
import CellSearch.Proofs.Engine.Queue
import CellSearch.Proofs.Engine.Recovery
import CellSearch.Proofs.Engine.Rematch
import CellSearch.Proofs.Engine.Replay
import CellSearch.Proofs.Engine.Safety
import CellSearch.Proofs.Engine.Scan
import CellSearch.Proofs.Engine.Session
import CellSearch.Proofs.Engine.Visit
import CellSearch.Proofs.Interval
import CellSearch.Proofs.PartitionPoint
import CellSearch.Proofs.Query.Cache
import CellSearch.Proofs.Query.Combination
import CellSearch.Proofs.Query.Match
import CellSearch.Proofs.Query.Occurrence
import CellSearch.Proofs.Query.Spelling
import CellSearch.Proofs.Query.Terms
import CellSearch.Proofs.Query.WholeTerm
import CellSearch.Proofs.Query.WholeWord
import CellSearch.Proofs.Query.Wildcard
import CellSearch.Proofs.Regex.Bracket
import CellSearch.Proofs.Regex.Escape
import CellSearch.Proofs.Regex.Forward
import CellSearch.Proofs.Regex.Found
import CellSearch.Proofs.Regex.Guarded
import CellSearch.Proofs.Regex.Matches
import CellSearch.Proofs.Regex.Parse
import CellSearch.Proofs.Regex.Reads
import CellSearch.Proofs.Regex.Scan
import CellSearch.Proofs.Regex.Search
import CellSearch.Proofs.Regex.WholeWord
import CellSearch.Proofs.Report.Highlight
import CellSearch.Proofs.Result.Plain
import CellSearch.Proofs.Result.Set
import CellSearch.Proofs.RowSource
import CellSearch.Proofs.Table.Record
import CellSearch.Proofs.Table.RoundTrip
import CellSearch.Proofs.Text.Boundary
import CellSearch.Proofs.Text.Layout
import CellSearch.Proofs.Text.Normalize
import CellSearch.Proofs.Text.RoundTrip
import CellSearch.Proofs.Text.Scan
import CellSearch.Proofs.Text.WhiteSpace
import CellSearch.Proofs.Toml.Delete
import CellSearch.Proofs.Toml.RoundTrip
import CellSearch.Proofs.Toml.Scalar
import CellSearch.Proofs.Unicode.Decomposition
import CellSearch.Proofs.Unicode.WhiteSpace
import CellSearch.Query.Cache
import CellSearch.Query.Descriptor
import CellSearch.Query.Match
import CellSearch.Query.Prepared
import CellSearch.Query.Wildcard
import CellSearch.Regex.Bracket
import CellSearch.Regex.CharSet
import CellSearch.Regex.Escape
import CellSearch.Regex.Flags
import CellSearch.Regex.Parse
import CellSearch.Regex.Scan
import CellSearch.Regex.Search
import CellSearch.Regex.Syntax
import CellSearch.Report.Basic
import CellSearch.Report.Style
import CellSearch.Result.Basic
import CellSearch.Result.Set
import CellSearch.RowSource
import CellSearch.Table.Basic
import CellSearch.Table.Record
import CellSearch.Text.Bytes
import CellSearch.Text.Normalize
import CellSearch.Text.Quoted
import CellSearch.Toml.Read
import CellSearch.Toml.Scalar
import CellSearch.Toml.Text
import CellSearch.Toml.Tree
import CellSearch.Toml.Write
import CellSearch.Unicode.Age
import CellSearch.Unicode.BinaryProperty
import CellSearch.Unicode.CaseFolding
import CellSearch.Unicode.CaseRun
import CellSearch.Unicode.Category
import CellSearch.Unicode.CharClass
import CellSearch.Unicode.CodeSet
import CellSearch.Unicode.Decomposition
import CellSearch.Unicode.Lowercase
import CellSearch.Unicode.Property
import CellSearch.Unicode.Script
import CellSearch.Unicode.Table
import CellSearch.Unicode.WhiteSpace
import CellSearch.Proofs.Engine.DirtySet
import CellSearch.Proofs.Result.Plain
