import SyntaxGraph.Store.SideFile

/-!
# Connections

A connection reads and writes a database that other connections share.  Outside a transaction it
works on what is stored.  Inside one it has a view of its own: the database as it was when the
transaction began, with the connection's own changes, which nobody else sees before they are
committed.  Something may stand in the way of changes; when it shows depends on what it is.

Clearing is a batch of four statements: begin a transaction, delete the edges, delete the nodes,
commit.  A statement that fails ends the batch where it is, so the transaction stays open once it has
begun; what the connection reads from then on is that transaction's view, and no second one can be
begun.
-/

set_option autoImplicit false
namespace SyntaxGraph

/-- A connection to a database. -/
structure Connection where
  /-- What stands in the way of changes. -/
  obstacle : Option Obstacle
  /-- What is stored, for all connections alike. -/
  stored : Database
  /-- The view of the open transaction, if there is one. -/
  working : Option Database
  /-- Whether something has been changed. -/
  changed : Bool
deriving DecidableEq, Repr

namespace Connection

/-- A connection outside any transaction. -/
def ofDatabase (obstacle : Option Obstacle) (db : Database) : Connection :=
  ⟨obstacle, db, none, false⟩

/-- The database as the connection sees it. -/
def view (c : Connection) : Database :=
  c.working.getD c.stored

/-- The fault that shows at a stage. -/
def faultAt? (c : Connection) (stage : Stage) : Option Fault :=
  match c.obstacle with
  | some o => if o.stage = stage then some o.fault else none
  | none => none

/-- The fault that shows before a statement looks at what it is to change. -/
def faultBefore? (c : Connection) : Option Fault :=
  c.faultAt? .statement <|> c.faultAt? .transaction

/-- The fault that shows when a statement changes something.  Outside a transaction the change is
stored at once. -/
def faultOfChange? (c : Connection) : Option Fault :=
  c.faultAt? .change <|> (if c.working.isNone then c.faultAt? .commit else none)

/-- Puts a changed database in the place of the one the connection sees. -/
def put (c : Connection) (db : Database) : Connection :=
  match c.working with
  | some _ => { c with working := some db, changed := true }
  | none => { c with stored := db, changed := true }

/-- Changes the database, unless something stands in the way. -/
def change (c : Connection) (db : Database) : Except Fault Unit × Connection :=
  match c.faultOfChange? with
  | some f => (.error f, c)
  | none => (.ok (), c.put db)

/-! ## Rows -/

/-- Inserts a node unless its id is taken.  That the statement makes sense for the table is checked
before that the database may be written. -/
def insertNode (c : Connection) (n : Node) : Except Fault InsertOutcome × Connection :=
  match c.view.nodeTarget, c.faultBefore? with
  | .error f, _ => (.error f, c)
  | .ok _, some f => (.error f, c)
  | .ok _, none =>
    match c.view.insertNode n with
    | .error f => (.error f, c)
    | .ok (.ignored, _) => (.ok .ignored, c)
    | .ok (.inserted, db) =>
      match c.change db with
      | (.error f, c) => (.error f, c)
      | (.ok (), c) => (.ok .inserted, c)

/-- Inserts an edge. -/
def insertEdge (c : Connection) (e : Edge) : Except Fault Unit × Connection :=
  match c.view.edgeTarget, c.faultBefore? with
  | .error f, _ => (.error f, c)
  | .ok _, some f => (.error f, c)
  | .ok _, none =>
    match c.view.insertEdge e with
    | .error f => (.error f, c)
    | .ok db => c.change db

/-! ## Transactions -/

/-- Begins a transaction. -/
def begin (c : Connection) : Except Fault Connection :=
  match c.working with
  | some _ => .error .nestedTransaction
  | none => .ok { c with working := some c.stored }

/-- Ends the open transaction and drops what it changed. -/
def rollback (c : Connection) : Connection :=
  { c with working := none, changed := false }

/-- Ends the open transaction and keeps what it changed.  Changes that cannot be stored are
dropped. -/
def commit (c : Connection) : Except Fault Unit × Connection :=
  match c.changed, c.faultAt? .commit with
  | true, some f => (.error f, c.rollback)
  | _, _ => (.ok (), { c with stored := c.view, working := none })

/-- Deletes all edges and all nodes in one transaction. -/
def clearAll (c : Connection) : Except Fault Unit × Connection :=
  match c.working, c.faultAt? .transaction with
  | some _, _ => (.error .nestedTransaction, c)
  | none, some f => (.error f, c)
  | none, none =>
    let inside (db : Database) : Connection := { c with working := some db }
    match c.stored.deleteEdges, c.faultAt? .statement <|> c.faultAt? .change with
    | .error f, _ => (.error f, inside c.stored)
    | .ok _, some f => (.error f, inside c.stored)
    | .ok db, none =>
      match db.deleteNodes, c.faultAt? .commit with
      | .error f, _ => (.error f, inside db)
      | .ok _, some f => (.error f, c)
      | .ok db, none => (.ok (), { c with stored := db, changed := true })

/-! ## Tables -/

/-- Makes what is missing, if it is. -/
def make (c : Connection) : Option Database → Except Fault Unit × Connection
  | none => (.ok (), c)
  | some db =>
    match c.faultBefore? with
    | some f => (.error f, c)
    | none => c.change db

/-- Makes the tables that are missing and indexes the edges. -/
def ensureTables (c : Connection) : Except Fault Unit × Connection :=
  match c.make c.view.addNodes? with
  | (.error f, c) => (.error f, c)
  | (.ok (), c) =>
    match c.make c.view.addEdges? with
    | (.error f, c) => (.error f, c)
    | (.ok (), c) =>
      match c.view.addIndex? with
      | .error f => (.error f, c)
      | .ok index => c.make index

@[simp] theorem view_ofDatabase (obstacle : Option Obstacle) (db : Database) :
    (ofDatabase obstacle db).view = db := rfl

@[simp] theorem view_put (c : Connection) (db : Database) : (c.put db).view = db := by
  unfold put view
  cases c.working <;> rfl

end Connection
end SyntaxGraph
