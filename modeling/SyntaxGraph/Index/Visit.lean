import SyntaxGraph.Index.Report
import SyntaxGraph.Message
import SyntaxGraph.Store.Database
import SyntaxGraph.SyntaxTree

/-!
# Visiting a syntax tree

A tree is written to the graph in pre-order: each node is inserted, then the edge from its parent,
then the nodes below it.  A node keeps its place in the visit whatever becomes of its row: when its
id is taken or the store refuses it, its edge and its children follow all the same.

## What is here

* `Sink` — the two writes a visit makes, on any kind of store.
* `Visit.enter` — what happens at one node.
* `Visit.run` — the visit with an explicit stack of pending nodes, so that the depth of a tree does
  not matter; the program uses this one.
* `Visit.recurse` — the same visit by recursion on the tree, which says what the stack is to do.
-/

set_option autoImplicit false
namespace SyntaxGraph

/-- A store to which nodes and edges can be written, by the state it is in. -/
structure Sink (σ : Type) where
  insertNode : σ → Node → Except Fault InsertOutcome × σ
  insertEdge : σ → Edge → Except Fault Unit × σ

/-- The rows of a database as a sink; a refused row leaves the database as it was. -/
def Database.sink : Sink Database where
  insertNode db n :=
    match db.insertNode n with
    | .ok (outcome, db') => (.ok outcome, db')
    | .error f => (.error f, db)
  insertEdge db e :=
    match db.insertEdge e with
    | .ok db' => (.ok (), db')
    | .error f => (.error f, db)

/-- How far an index run has come. -/
structure Progress (σ : Type) where
  /-- The store. -/
  store : σ
  /-- The counters. -/
  report : Report
  /-- The messages, in order. -/
  log : List Message

namespace Visit

variable {σ : Type}

/-- Adds a message. -/
def say (s : Progress σ) (m : Message) : Progress σ :=
  { s with log := s.log ++ [m] }

/-- Writes a node and counts what became of it. -/
def writeNode (sink : Sink σ) (n : Node) (s : Progress σ) : Progress σ :=
  match sink.insertNode s.store n with
  | (.ok .inserted, store) =>
    { s with store, report := { s.report with nodesInserted := s.report.nodesInserted + 1 } }
  | (.ok .ignored, store) =>
    { s with store, report := { s.report with nodesIgnored := s.report.nodesIgnored + 1 } }
  | (.error f, store) =>
    say { s with store, report := { s.report with insertErrors := s.report.insertErrors + 1 } }
      (.nodeRefused n.id f)

/-- Writes an edge and counts what became of it. -/
def writeEdge (sink : Sink σ) (e : Edge) (s : Progress σ) : Progress σ :=
  match sink.insertEdge s.store e with
  | (.ok (), store) =>
    { s with store, report := { s.report with edgesInserted := s.report.edgesInserted + 1 } }
  | (.error f, store) =>
    say { s with store, report := { s.report with insertErrors := s.report.insertErrors + 1 } }
      (.edgeRefused e f)

/-- Counts a visited node. -/
def countVisit (s : Progress σ) : Progress σ :=
  { s with report := { s.report with nodesVisited := s.report.nodesVisited + 1 } }

/-- What happens at one node: it is counted and written, and so is the edge from its parent, if it
has one. -/
def enter (sink : Sink σ) (filepath : String) (t : SyntaxTree) (parent : Option String)
    (s : Progress σ) : Progress σ :=
  let s := writeNode sink (t.nodeIn filepath) (countVisit s)
  match parent with
  | none => s
  | some p => writeEdge sink ⟨p, t.idIn filepath⟩ s

/-! ## The visit by recursion -/

mutual

/-- Visits a tree: the node itself, then its children from first to last. -/
def recurse (sink : Sink σ) (filepath : String) (parent : Option String) (s : Progress σ) :
    SyntaxTree → Progress σ
  | .node kind span children =>
    recurseAll sink filepath (nodeId filepath kind span.start)
      (enter sink filepath (.node kind span children) parent s) children

/-- Visits trees with a common parent one after the other. -/
def recurseAll (sink : Sink σ) (filepath parent : String) (s : Progress σ) :
    List SyntaxTree → Progress σ
  | [] => s
  | t :: ts => recurseAll sink filepath parent (recurse sink filepath (some parent) s t) ts

end

/-! ## The visit with a stack -/

/-- A node that waits to be visited, with the id of its parent. -/
abbrev Pending := SyntaxTree × Option String

/-- How many nodes wait on a stack, those below the pending ones included. -/
def pendingSize : List Pending → Nat
  | [] => 0
  | (t, _) :: rest => t.size + pendingSize rest

/-- The children of a node, each with the node's id. -/
def below (filepath : String) (t : SyntaxTree) : List Pending :=
  t.children.map fun c => (c, some (t.idIn filepath))

theorem pendingSize_append (a b : List Pending) :
    pendingSize (a ++ b) = pendingSize a + pendingSize b := by
  induction a with
  | nil => simp [pendingSize]
  | cons x a ih => simp [pendingSize, ih]; omega

theorem pendingSize_map (ts : List SyntaxTree) (p : Option String) :
    pendingSize (ts.map fun c => (c, p)) = SyntaxTree.sizeAll ts := by
  induction ts with
  | nil => rfl
  | cons t ts ih => simp [pendingSize, SyntaxTree.sizeAll, ih]

theorem pendingSize_below (filepath : String) (t : SyntaxTree) :
    pendingSize (below filepath t) + 1 = t.size := by
  cases t
  simp [below, pendingSize_map, SyntaxTree.children, SyntaxTree.size]

/-- Visits the nodes on a stack, topmost first.  The children of a visited node take its place on
top of the stack, the first one topmost. -/
def run (sink : Sink σ) (filepath : String) (stack : List Pending) (s : Progress σ) : Progress σ :=
  match stack with
  | [] => s
  | (t, parent) :: rest => run sink filepath (below filepath t ++ rest) (enter sink filepath t parent s)
termination_by pendingSize stack
decreasing_by
  have := pendingSize_below filepath t
  simp only [pendingSize_append, pendingSize]
  omega

/-- Visits a tree, the root of which has no parent. -/
def tree (sink : Sink σ) (filepath : String) (t : SyntaxTree) (s : Progress σ) : Progress σ :=
  run sink filepath [(t, none)] s

end Visit
end SyntaxGraph
