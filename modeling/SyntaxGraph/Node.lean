import SyntaxGraph.Span
import SyntaxGraph.Text.Decimal

/-!
# Nodes and edges of the graph

A node of the graph stands for a syntax node.  Its id names the file, the kind and the place where
the syntax node starts; where it ends is no part of the id, so two syntax nodes of one kind that
start at one place share an id, and the graph keeps only the first of them.
-/

set_option autoImplicit false
namespace SyntaxGraph

/-- The id of a syntax node: `<filepath>@<kind>@<row>@<col>`. -/
def nodeId (filepath kind : String) (start : Point) : String :=
  filepath ++ "@" ++ kind ++ "@" ++ Decimal.ofNat start.row.toNat ++ "@" ++
    Decimal.ofNat start.col.toNat

/-- A node of the graph.  Positions are kept as signed words. -/
structure Node where
  id : String
  filepath : String
  kind : String
  startRow : Int64
  startCol : Int64
  endRow : Int64
  endCol : Int64
deriving DecidableEq, Repr

/-- A parent-to-child edge between node ids. -/
structure Edge where
  parent : String
  child : String
deriving DecidableEq, Repr

namespace Node

/-- A node covering a span.  The words of the span are taken over bit by bit, so a position from
2^63 on becomes negative. -/
def ofSpan (id filepath kind : String) (span : Span) : Node where
  id := id
  filepath := filepath
  kind := kind
  startRow := span.start.row.toInt64
  startCol := span.start.col.toInt64
  endRow := span.stop.row.toInt64
  endCol := span.stop.col.toInt64

/-- The node of a syntax node in a file, under its own id. -/
def ofSyntax (filepath kind : String) (span : Span) : Node :=
  ofSpan (nodeId filepath kind span.start) filepath kind span

/-- The line of a node in a text export:
`<filepath> <kind> <start row>,<start column> <end row>,<end column>`. -/
def contextLine (n : Node) : String :=
  n.filepath ++ " " ++ n.kind ++ " " ++
    Decimal.ofInt n.startRow.toInt ++ "," ++ Decimal.ofInt n.startCol.toInt ++ " " ++
    Decimal.ofInt n.endRow.toInt ++ "," ++ Decimal.ofInt n.endCol.toInt

@[simp] theorem id_ofSyntax (filepath kind : String) (span : Span) :
    (ofSyntax filepath kind span).id = nodeId filepath kind span.start := rfl

@[simp] theorem filepath_ofSyntax (filepath kind : String) (span : Span) :
    (ofSyntax filepath kind span).filepath = filepath := rfl

end Node
end SyntaxGraph
