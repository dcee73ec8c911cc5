import SyntaxGraph.Json.Printer

/-!
# Exports

A list of nodes flattened into one text, either as context lines or as JSON.
-/

set_option autoImplicit false
namespace SyntaxGraph

/-- How an export is written. -/
inductive ExportFormat where
  /-- One context line a node. -/
  | text
  /-- A JSON array of nodes. -/
  | json
deriving DecidableEq, Repr

namespace ExportFormat

/-- The identifier of a format. -/
def name : ExportFormat → String
  | text => "text"
  | json => "json"

/-- The format meant by a text, whatever its case.  Only the letters A to Z have to be lowered: no
other character becomes one of the letters of a format's name. -/
def ofText? (s : String) : Option ExportFormat :=
  match s.map Char.toLower with
  | "text" => some text
  | "txt" => some text
  | "json" => some json
  | _ => none

/-- What is said about a text that means no format. -/
def unknownMessage (s : String) : String :=
  "Unknown export format: " ++ s

/-- The format used where none is asked for. -/
def standard : ExportFormat := text

end ExportFormat

/-- The order of the nodes in an export. -/
inductive ExportOrder where
  /-- The order in which the store holds them. -/
  | natural
  /-- By file path, then start row, then start column. -/
  | sorted
deriving DecidableEq, Repr

/-- Context lines with newlines between them and none at the end. -/
def renderText (ns : List Node) : String :=
  String.intercalate "\n" (ns.map Node.contextLine)

/-- A list of nodes as one text. -/
def renderContext (ns : List Node) : ExportFormat → String
  | .text => renderText ns
  | .json => String.ofList (Json.nodeArray ns)

end SyntaxGraph
