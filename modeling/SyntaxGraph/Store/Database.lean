import SyntaxGraph.Export
import SyntaxGraph.KeepFirst
import SyntaxGraph.Store.Fault

/-!
# Databases

The content of a database file, as far as the graph is concerned: what stands under the names of the
two tables, and the rules that refuse rows.  A file made by someone else may lack a table, may hold
a view under its name, may spell its name otherwise or may lack its last column; each of these shows
in what the operations below answer.

## What is here

* `Database.addNodes?`, `Database.addEdges?`, `Database.addIndex?` — what makes a database ready for
  the graph, where it is missing.
* `Database.insertNode`, `Database.insertEdge` — a node is inserted unless its id is taken, an edge
  always.
* `Database.deleteEdges`, `Database.deleteNodes` — the two halves of clearing.
* `Database.allNodes`, `Database.getNode?`, `Database.allEdges`, `Database.edgesFrom`,
  `Database.stats` — the readers.
-/

set_option autoImplicit false
namespace SyntaxGraph

/-! ## Rows -/

/-- A row of the table of nodes. -/
structure NodeRow where
  id : Cell
  filepath : Cell
  kind : Cell
  startRow : Cell
  startCol : Cell
  endRow : Cell
  endCol : Cell
deriving DecidableEq, Repr

/-- A row of the table of edges. -/
structure EdgeRow where
  parent : Cell
  child : Cell
deriving DecidableEq, Repr

/-- Reads a cell of a column of texts. -/
def readText (index : Nat) (column : String) (c : Cell) : Except Fault String :=
  match c.text? with
  | some s => .ok s
  | none => .error (.columnType c.type index column)

/-- Reads a cell of a column of integers. -/
def readInteger (index : Nat) (column : String) (c : Cell) : Except Fault Int64 :=
  match c.integer? with
  | some n => .ok n
  | none => .error (.columnType c.type index column)

namespace NodeRow

/-- The row of a node. -/
def ofNode (n : Node) : NodeRow where
  id := .text n.id
  filepath := .text n.filepath
  kind := .text n.kind
  startRow := .integer n.startRow
  startCol := .integer n.startCol
  endRow := .integer n.endRow
  endCol := .integer n.endCol

/-- The node in a row; the columns are read from left to right. -/
def node (r : NodeRow) : Except Fault Node := do
  return {
    id := ← readText 0 "id" r.id
    filepath := ← readText 1 "filepath" r.filepath
    kind := ← readText 2 "type" r.kind
    startRow := ← readInteger 3 "start_row" r.startRow
    startCol := ← readInteger 4 "start_col" r.startCol
    endRow := ← readInteger 5 "end_row" r.endRow
    endCol := ← readInteger 6 "end_col" r.endCol }

/-- A row as its columns store it. -/
def stored (r : NodeRow) : NodeRow where
  id := r.id.stored .text
  filepath := r.filepath.stored .text
  kind := r.kind.stored .text
  startRow := r.startRow.stored .integer
  startCol := r.startCol.stored .integer
  endRow := r.endRow.stored .integer
  endCol := r.endCol.stored .integer

/-- The cell of a column, the name of which is given in lower case. -/
def column? (r : NodeRow) : String → Option Cell
  | "id" => some r.id
  | "filepath" => some r.filepath
  | "type" => some r.kind
  | "start_row" => some r.startRow
  | "start_col" => some r.startCol
  | "end_row" => some r.endRow
  | "end_col" => some r.endCol
  | _ => none

/-- The order of sorted exports: by file path, then start row, then start column. -/
def compare (a b : NodeRow) : Ordering :=
  (a.filepath.compare b.filepath).then
    ((a.startRow.compare b.startRow).then (a.startCol.compare b.startCol))

/-- A row that was made from a node holds that node. -/
@[simp] theorem node_ofNode (n : Node) : (ofNode n).node = .ok n := rfl

end NodeRow

namespace EdgeRow

/-- The row of an edge. -/
def ofEdge (e : Edge) : EdgeRow :=
  ⟨.text e.parent, .text e.child⟩

/-- The edge in a row. -/
def edge (r : EdgeRow) : Except Fault Edge := do
  return { parent := ← readText 0 "parent" r.parent, child := ← readText 1 "child" r.child }

/-- A row as its columns store it. -/
def stored (r : EdgeRow) : EdgeRow :=
  ⟨r.parent.stored .text, r.child.stored .text⟩

/-- The cell of a column, the name of which is given in lower case. -/
def column? (r : EdgeRow) : String → Option Cell
  | "parent" => some r.parent
  | "child" => some r.child
  | _ => none

/-- A row that was made from an edge holds that edge. -/
@[simp] theorem edge_ofEdge (e : Edge) : (ofEdge e).edge = .ok e := rfl

end EdgeRow

/-! ## Databases -/

/-- A table. -/
structure Table (ρ : Type) where
  /-- The name as it was spelled when the table was made. -/
  name : String
  /-- Whether the table has its last column. -/
  complete : Bool
  /-- The rows in the order of their insertion. -/
  rows : List ρ
deriving DecidableEq, Repr

/-- What stands under a table's name. -/
inductive Relation (ρ : Type) where
  | table (t : Table ρ)
  | view
deriving DecidableEq, Repr

/-- A rule that refuses the rows of a table in which a column equals a text.  Upper and lower case are
not told apart in the name of the column. -/
structure Rule where
  table : TableName
  column : String
  equals : String
  message : String
deriving DecidableEq, Repr

/-- The content of a database. -/
structure Database where
  nodes : Option (Relation NodeRow)
  edges : Option (Relation EdgeRow)
  rules : List Rule
  /-- Whether the edges are indexed by their parents. -/
  indexed : Bool
  /-- Whether changes go to a log before they go to the file. -/
  logged : Bool
deriving DecidableEq, Repr

/-- What became of an inserted node. -/
inductive InsertOutcome where
  | inserted
  /-- The id was taken; the old row stays. -/
  | ignored
deriving DecidableEq, Repr

/-- The size of a graph. -/
structure Stats where
  nodes : Nat
  edges : Nat
  /-- The number of distinct file paths. -/
  files : Nat
deriving DecidableEq, Repr

/-- A table as the program makes it. -/
def Table.fresh {ρ : Type} (name : TableName) : Table ρ :=
  ⟨name.text, true, []⟩

namespace Database

/-- A database without tables. -/
def blank : Database :=
  ⟨none, none, [], false, false⟩

/-- A database with two empty tables. -/
def fresh : Database :=
  ⟨some (.table (.fresh .nodes)), some (.table (.fresh .edges)), [], true, false⟩

/-- Whether there is a table under a name, spelled exactly so. -/
def isTableNamed {ρ : Type} (name : TableName) : Option (Relation ρ) → Bool
  | some (.table t) => t.name == name.text
  | _ => false

/-- Whether the database holds a graph. -/
def hasGraph (db : Database) : Bool :=
  isTableNamed .nodes db.nodes && isTableNamed .edges db.edges

/-! ### Making tables -/

/-- The database with a table of nodes, if it has nothing under that name. -/
def addNodes? (db : Database) : Option Database :=
  match db.nodes with
  | some _ => none
  | none => some { db with nodes := some (.table (.fresh .nodes)) }

/-- The database with a table of edges, if it has nothing under that name. -/
def addEdges? (db : Database) : Option Database :=
  match db.edges with
  | some _ => none
  | none => some { db with edges := some (.table (.fresh .edges)) }

/-- The database with its edges indexed, if they are not.  A view cannot be indexed. -/
def addIndex? (db : Database) : Except Fault (Option Database) :=
  match db.edges with
  | some .view => .error .viewIndexed
  | _ => .ok (if db.indexed then none else some { db with indexed := true })

/-! ### Writing -/

/-- The table a row is to be written to.  `last` is the name of the table's last column. -/
def target {ρ : Type} (name : TableName) (last : String) :
    Option (Relation ρ) → Except Fault (Table ρ)
  | none => .error (.noTable name)
  | some .view => .error (.isView name)
  | some (.table t) => if t.complete then .ok t else .error (.noColumn name last)

/-- The table that nodes are written to. -/
def nodeTarget (db : Database) : Except Fault (Table NodeRow) :=
  target .nodes "end_col" db.nodes

/-- The table that edges are written to. -/
def edgeTarget (db : Database) : Except Fault (Table EdgeRow) :=
  target .edges "child" db.edges

/-- The names under which a rule may ask for the number of a row. -/
def rowNumberNames : List String :=
  ["rowid", "oid", "_rowid_"]

/-- Whether a rule refuses a row, given by its columns.  A new row has the number -1 as long as it is
not stored, and numbers are compared by value. -/
def isRefusedBy (column? : String → Option Cell) (r : Rule) : Bool :=
  match column? r.column.toLower with
  | some c => c == .text r.equals
  | none => rowNumberNames.contains r.column.toLower && Cell.ofText r.equals == .integer (-1)

/-- The message of a rule that refuses a row, given by its table and its columns. -/
def refusal? (db : Database) (table : TableName)
    (column? : String → Option Cell) : Option String :=
  (db.rules.find? fun r => r.table == table && isRefusedBy column? r).map (·.message)

/-- Adds a row to a table of nodes. -/
def appendNode (db : Database) (t : Table NodeRow) (r : NodeRow) : Database :=
  { db with nodes := some (.table { t with rows := t.rows ++ [r] }) }

/-- Adds a row to a table of edges. -/
def appendEdge (db : Database) (t : Table EdgeRow) (r : EdgeRow) : Database :=
  { db with edges := some (.table { t with rows := t.rows ++ [r] }) }

/-- Inserts a node unless its id is taken. -/
def insertNode (db : Database) (n : Node) : Except Fault (InsertOutcome × Database) :=
  match db.nodeTarget with
  | .error f => .error f
  | .ok t =>
    match db.refusal? .nodes (NodeRow.ofNode n).column? with
    | some message => .error (.rejected message)
    | none =>
      if t.rows.any fun r => r.id = .text n.id then .ok (.ignored, db)
      else .ok (.inserted, db.appendNode t (.ofNode n))

/-- Inserts an edge. -/
def insertEdge (db : Database) (e : Edge) : Except Fault Database :=
  match db.edgeTarget with
  | .error f => .error f
  | .ok t =>
    match db.refusal? .edges (EdgeRow.ofEdge e).column? with
    | some message => .error (.rejected message)
    | none => .ok (db.appendEdge t (.ofEdge e))

/-- Inserts a raw row into the table of nodes; only an id that is null may be there already. -/
def insertNodeRow (db : Database) (r : NodeRow) : Except Fault Database :=
  let r := r.stored
  match db.nodeTarget with
  | .error f => .error f
  | .ok t =>
    match db.refusal? .nodes r.column? with
    | some message => .error (.rejected message)
    | none =>
      if r.id ≠ .null ∧ t.rows.any (fun old => old.id = r.id) then .error (.duplicate t.name)
      else .ok (db.appendNode t r)

/-- Inserts a raw row into the table of edges. -/
def insertEdgeRow (db : Database) (r : EdgeRow) : Except Fault Database :=
  let r := r.stored
  match db.edgeTarget with
  | .error f => .error f
  | .ok t =>
    match db.refusal? .edges r.column? with
    | some message => .error (.rejected message)
    | none => .ok (db.appendEdge t r)

/-- Deletes all edges. -/
def deleteEdges (db : Database) : Except Fault Database :=
  match db.edges with
  | none => .error (.noTable .edges)
  | some .view => .error (.isView .edges)
  | some (.table t) => .ok { db with edges := some (.table { t with rows := [] }) }

/-- Deletes all nodes. -/
def deleteNodes (db : Database) : Except Fault Database :=
  match db.nodes with
  | none => .error (.noTable .nodes)
  | some .view => .error (.isView .nodes)
  | some (.table t) => .ok { db with nodes := some (.table { t with rows := [] }) }

/-! ### Reading -/

/-- The query for all columns of the nodes, which messages quote. -/
def nodeQuery : String :=
  "SELECT id, filepath, type, start_row, start_col, end_row, end_col FROM nodes"

/-- The query for nodes in an order. -/
def orderedQuery : ExportOrder → String
  | .natural => nodeQuery
  | .sorted => nodeQuery ++ " ORDER BY filepath, start_row, start_col"

/-- The rows of the nodes, all columns of which are asked for by `query`. -/
def nodeRows (db : Database) (query : String) : Except Fault (List NodeRow) :=
  match db.nodes with
  | none => .error (.noTable .nodes)
  | some .view => .error (.unknownColumn "filepath" query)
  | some (.table t) => if t.complete then .ok t.rows else .error (.unknownColumn "end_col" query)

/-- The rows of the edges, both columns of which are asked for by `query`. -/
def edgeRows (db : Database) (query : String) : Except Fault (List EdgeRow) :=
  match db.edges with
  | none => .error (.noTable .edges)
  | some .view => .error (.unknownColumn "child" query)
  | some (.table t) => if t.complete then .ok t.rows else .error (.unknownColumn "child" query)

/-- Rows in the order of an export.  Rows that compare equal keep their order. -/
def ordered (order : ExportOrder) (rows : List NodeRow) : List NodeRow :=
  match order with
  | .natural => rows
  | .sorted => rows.mergeSort fun a b => (a.compare b).isLE

/-- All nodes in the given order. -/
def allNodes (db : Database) (order : ExportOrder) : Except Fault (List Node) :=
  match db.nodeRows (orderedQuery order) with
  | .error f => .error f
  | .ok rows => (ordered order rows).mapM NodeRow.node

/-- The node with the given id. -/
def getNode? (db : Database) (id : String) : Except Fault (Option Node) :=
  match db.nodeRows (nodeQuery ++ " WHERE id = ?1") with
  | .error f => .error f
  | .ok rows =>
    match rows.find? fun r => r.id = .text id with
    | none => .ok none
    | some r => r.node.map some

/-- All edges in the order of their insertion. -/
def allEdges (db : Database) : Except Fault (List Edge) :=
  match db.edgeRows "SELECT parent, child FROM edges" with
  | .error f => .error f
  | .ok rows => rows.mapM EdgeRow.edge

/-- The children of a node in the order of their insertion. -/
def edgesFrom (db : Database) (parent : String) : Except Fault (List String) :=
  match db.edgeRows "SELECT child FROM edges WHERE parent = ?1 ORDER BY rowid" with
  | .error f => .error f
  | .ok rows =>
    (rows.filter fun r => r.parent = .text parent).mapM fun r => readText 0 "child" r.child

/-- The number of distinct file paths in rows; null counts for none. -/
def fileCount (rows : List NodeRow) : Nat :=
  (keepFirst id ((rows.map (·.filepath)).filter (· ≠ .null))).length

/-- The size of the graph. -/
def stats (db : Database) : Except Fault Stats :=
  match db.nodes, db.edges with
  | none, _ => .error (.noTable .nodes)
  | _, none => .error (.noTable .edges)
  | some .view, _ =>
    .error (.unknownColumn "filepath" "SELECT COUNT(DISTINCT filepath) FROM nodes")
  | _, some .view => .error (.isView .edges)
  | some (.table n), some (.table e) => .ok ⟨n.rows.length, e.rows.length, fileCount n.rows⟩

/-- All nodes in the given order as one text. -/
def exportContext (db : Database) (order : ExportOrder) (format : ExportFormat) :
    Except Fault String :=
  match db.allNodes order with
  | .error f => .error f
  | .ok ns => .ok (renderContext ns format)

end Database
end SyntaxGraph
