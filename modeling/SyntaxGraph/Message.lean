import SyntaxGraph.Failure
import SyntaxGraph.Language
import SyntaxGraph.Node

/-!
# Log messages

Everything the program reports while it works, as data.  `Message.level` and `Message.text` give a
message its form.
-/

set_option autoImplicit false
namespace SyntaxGraph

/-- How important a message is. -/
inductive Level where
  | trace
  | debug
  | info
  | warn
  | error
deriving DecidableEq, Repr

/-- The name of a level. -/
def Level.name : Level → String
  | trace => "TRACE"
  | debug => "DEBUG"
  | info => "INFO"
  | warn => "WARN"
  | error => "ERROR"

/-- A message. -/
inductive Message where
  /-- A store was opened. -/
  | opened (p : Path)
  /-- A file holds no graph. -/
  | noGraph (p : Path)
  /-- The graph was cleared. -/
  | cleared
  /-- The grammars of so many languages are ready. -/
  | grammarsReady (n : Nat)
  /-- The walk met something it could not read. -/
  | entrySkipped (p : Path) (e : OsError)
  /-- The store refused a node. -/
  | nodeRefused (id : String) (f : Fault)
  /-- The store refused an edge. -/
  | edgeRefused (e : Edge) (f : Fault)
  /-- A file was indexed, with so many syntax nodes. -/
  | fileIndexed (p : Path) (l : Language) (nodes : Nat)
  /-- A file is not text. -/
  | fileUnreadable (p : Path)
  /-- A file could not be opened. -/
  | fileUnopened (p : Path) (e : OsError)
  /-- So many files have been indexed. -/
  | progress (files : Nat)
  /-- The run is over. -/
  | complete
  | fileTotals (indexed skipped failed : Nat)
  | nodeTotals (inserted ignored : Nat)
  | edgeTotal (n : Nat)
  /-- So many writes were refused. -/
  | refusedTotal (n : Nat)
  /-- The time the run took. -/
  | elapsed
  /-- A project was indexed into the store at a path. -/
  | projectIndexed (p : Path)
  /-- An export failed. -/
  | exportFailed (p : Path) (f : Failure)
  /-- The database file was removed. -/
  | cacheCleared (p : Path)
  /-- The database file could not be removed. -/
  | cacheKept (p : Path) (e : OsError)
  /-- There was no database file. -/
  | noCache (p : Path)
  /-- A file beside the database could not be removed. -/
  | sideFileKept (p : Path) (e : OsError)
  /-- A project is to be indexed. -/
  | indexing (root : Path)
  /-- The database it is to be indexed into. -/
  | database (p : Path)
  /-- An export of so many lines was written to a file. -/
  | exportWritten (lines : Nat) (p : Path)
deriving DecidableEq, Repr

namespace Message

/-- How important a message is. -/
def level : Message → Level
  | nodeRefused _ _ | edgeRefused _ _ => .trace
  | opened _ | noGraph _ | cleared | grammarsReady _ | fileIndexed _ _ _ | noCache _ => .debug
  | progress _ | complete | fileTotals _ _ _ | nodeTotals _ _ | edgeTotal _ | elapsed
  | projectIndexed _ | cacheCleared _ | indexing _ | database _ | exportWritten _ _ => .info
  | entrySkipped _ _ | refusedTotal _ => .warn
  | fileUnreadable _ | fileUnopened _ _ | exportFailed _ _ | cacheKept _ _ | sideFileKept _ _ => .error

/-- The wording of a message.  Times are not measured; they are shown as `<t>`. -/
def text : Message → String
  | opened p => "Opened graph store at " ++ p.quoted
  | noGraph p => "No graph tables in " ++ p.quoted
  | cleared => "Cleared all nodes and edges"
  | grammarsReady n => "Loaded " ++ Decimal.ofNat n ++ " tree-sitter grammars"
  | entrySkipped p e =>
    "Skipping unreadable directory entry: " ++ p.text ++ ": IO error for operation on " ++ p.text ++
      ": " ++ e.message
  | nodeRefused id f => "Node insert failed for " ++ id ++ ": " ++ f.cause
  | edgeRefused e f => "Edge insert failed for " ++ e.parent ++ " -> " ++ e.child ++ ": " ++ f.cause
  | fileIndexed p l n =>
    "Indexed " ++ p.text ++ " (" ++ l.name ++ "): " ++ Decimal.ofNat n ++ " nodes"
  | fileUnreadable p => "GraphDB: read " ++ p.text ++ " failed: stream did not contain valid UTF-8"
  | fileUnopened p e => "GraphDB: read " ++ p.text ++ " failed: " ++ e.message
  | progress n => "Indexed " ++ Decimal.ofNat n ++ " files..."
  | complete => "Indexing complete!"
  | fileTotals indexed skipped failed =>
    "  Files: " ++ Decimal.ofNat indexed ++ " indexed, " ++ Decimal.ofNat skipped ++ " skipped, " ++
      Decimal.ofNat failed ++ " failed"
  | nodeTotals inserted ignored =>
    "  Nodes: " ++ Decimal.ofNat inserted ++ " (" ++ Decimal.ofNat ignored ++ " duplicate ids)"
  | edgeTotal n => "  Edges: " ++ Decimal.ofNat n
  | refusedTotal n => "  Rejected writes: " ++ Decimal.ofNat n
  | elapsed => "  Time: <t>s"
  | projectIndexed p => "GraphDB: AST indexed in sqlite at " ++ p.quoted
  | exportFailed p f => "GraphDB: export from " ++ p.quoted ++ " failed: " ++ f.message
  | cacheCleared p => "GraphDB cache cleared: " ++ p.quoted
  | cacheKept p e => "Failed to clear GraphDB cache " ++ p.quoted ++ ": " ++ e.message
  | noCache p => "No GraphDB cache at " ++ p.quoted
  | sideFileKept p e => "Failed to remove " ++ p.quoted ++ ": " ++ e.message
  | indexing root => "Indexing project: " ++ root.quoted
  | database p => "Database: " ++ p.quoted
  | exportWritten n p => "Wrote " ++ Decimal.ofNat n ++ " lines to " ++ p.quoted

/-- A message with its level in front. -/
def line (m : Message) : String :=
  m.level.name ++ " " ++ m.text

end Message
end SyntaxGraph
