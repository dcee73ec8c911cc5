import SyntaxGraph.Proofs.KeepFirst
import SyntaxGraph.Proofs.NodeOrder
import SyntaxGraph.Store.Connection

/-!
# Databases that hold a graph

Once a store has been cleared, every row in it was made from a node or an edge.  Its content is then
given by two lists, and what is left of the database is its *frame*: how its tables are named, which
columns they have, and which rules refuse rows.  `Database.fill` puts two lists into a frame, and
every operation on rows becomes an operation on the lists.

## What is here

* `Database.fill` — a database with given nodes and edges; `Database.SameFrame` — databases that
  differ in these only.
* `Database.nodeFault?`, `Database.edgeFault?` — why a row is refused, which is a matter of the frame
  alone.
* `Database.isReady`, `Database.HasTables` — whether both tables are there, with all their columns or
  not.
* `Connection.Clearable`, `Connection.Writable` — whether a connection can be cleared, and written to.
* `Database.insertNode_fill`, `Database.insertEdge_fill`, `Connection.clearAll_eq_ok` — writing.
* `Database.allNodes_fill`, `Database.getNode?_fill`, `Database.allEdges_fill`,
  `Database.edgesFrom_fill`, `Database.stats_fill` — reading; `Database.HoldsRows` says what is there,
  whether or not it can be read.
-/

set_option autoImplicit false
namespace SyntaxGraph

/-- A table with other rows; a view stays as it is. -/
def Relation.fill {ρ : Type} (rows : List ρ) : Relation ρ → Relation ρ
  | .table t => .table { t with rows := rows }
  | .view => .view

namespace Database

/-- A database with other rows, made from nodes and edges. -/
def fill (db : Database) (ns : List Node) (es : List Edge) : Database :=
  { db with
    nodes := db.nodes.map (·.fill (ns.map .ofNode))
    edges := db.edges.map (·.fill (es.map .ofEdge)) }

/-! ## The frame -/

/-- Why a node is refused, if it is. -/
def nodeFault? (db : Database) (n : Node) : Option Fault :=
  match db.nodeTarget with
  | .error f => some f
  | .ok _ => (db.refusal? .nodes (NodeRow.ofNode n).column?).map .rejected

/-- Why an edge is refused, if it is. -/
def edgeFault? (db : Database) (e : Edge) : Option Fault :=
  match db.edgeTarget with
  | .error f => some f
  | .ok _ => (db.refusal? .edges (EdgeRow.ofEdge e).column?).map .rejected

/-- Whether a node is taken, unless its id is there already. -/
def takesNode (db : Database) (n : Node) : Bool :=
  (db.nodeFault? n).isNone

/-- Whether an edge is taken. -/
def takesEdge (db : Database) (e : Edge) : Bool :=
  (db.edgeFault? e).isNone

/-- Whether what stands under a table's name is a table with all its columns. -/
def isWhole {ρ : Type} : Option (Relation ρ) → Bool
  | some (.table t) => t.complete
  | _ => false

/-- Whether both tables are there with all their columns. -/
def isReady (db : Database) : Bool :=
  isWhole db.nodes && isWhole db.edges

/-- Whether two databases differ in their rows at most. -/
def SameFrame (db db' : Database) : Prop :=
  db.fill [] [] = db'.fill [] []

/-- Whether there are tables under both names, whatever columns they have. -/
def HasTables (db : Database) : Prop :=
  ∃ t u, db.nodes = some (.table t) ∧ db.edges = some (.table u)

theorem nodeTarget_fill (db : Database) (ns : List Node) (es : List Edge) :
    (db.fill ns es).nodeTarget =
      db.nodeTarget.map fun t => { t with rows := ns.map .ofNode } := by
  rcases db with ⟨_ | (⟨name, complete, rows⟩ | _), edges, rules, indexed, logged⟩
  · rfl
  · cases complete <;> rfl
  · rfl

theorem edgeTarget_fill (db : Database) (ns : List Node) (es : List Edge) :
    (db.fill ns es).edgeTarget =
      db.edgeTarget.map fun t => { t with rows := es.map .ofEdge } := by
  rcases db with ⟨nodes, _ | (⟨name, complete, rows⟩ | _), rules, indexed, logged⟩
  · rfl
  · cases complete <;> rfl
  · rfl

@[simp] theorem fill_fill (db : Database) (ns ms : List Node) (es fs : List Edge) :
    (db.fill ns es).fill ms fs = db.fill ms fs := by
  rcases db with ⟨_ | (_ | _), _ | (_ | _), rules, indexed, logged⟩ <;> rfl

@[simp] theorem isReady_fill (db : Database) (ns : List Node) (es : List Edge) :
    (db.fill ns es).isReady = db.isReady := by
  rcases db with ⟨_ | (_ | _), _ | (_ | _), rules, indexed, logged⟩ <;> rfl

/-- A database is ready exactly if rows have somewhere to go. -/
theorem isReady_iff (db : Database) :
    db.isReady ↔
      ∃ t u, db.nodes = some (.table t) ∧ db.edges = some (.table u) ∧
        t.complete = true ∧ u.complete = true := by
  rcases db with ⟨_ | (t | _), _ | (u | _), rules, indexed, logged⟩ <;> simp [isReady, isWhole]

/-! ## Writing -/

theorem any_id_map_ofNode (ns : List Node) (id : String) :
    ((ns.map NodeRow.ofNode).any fun r => r.id = .text id) = decide (id ∈ ns.map Node.id) := by
  induction ns with
  | nil => rfl
  | cons n ns ih =>
    rw [List.map_cons, List.any_cons, ih, List.map_cons]
    simp [NodeRow.ofNode, eq_comm]

theorem appendNode_fill {db : Database} {t : Table NodeRow} (h : db.nodeTarget = .ok t)
    (ns : List Node) (es : List Edge) (n : Node) :
    (db.fill ns es).appendNode { t with rows := ns.map .ofNode } (.ofNode n) =
      db.fill (ns ++ [n]) es := by
  rcases db with ⟨_ | (⟨name, complete, rows⟩ | _), edges, rules, indexed, logged⟩
  · cases h
  · cases complete
    · cases h
    · cases h
      simp [appendNode, fill, Relation.fill]
  · cases h

theorem appendEdge_fill {db : Database} {t : Table EdgeRow} (h : db.edgeTarget = .ok t)
    (ns : List Node) (es : List Edge) (e : Edge) :
    (db.fill ns es).appendEdge { t with rows := es.map .ofEdge } (.ofEdge e) =
      db.fill ns (es ++ [e]) := by
  rcases db with ⟨nodes, _ | (⟨name, complete, rows⟩ | _), rules, indexed, logged⟩
  · cases h
  · cases complete
    · cases h
    · cases h
      simp [appendEdge, fill, Relation.fill]
  · cases h

/-- **Inserting a node** is a matter of the frame, and then of the ids that are there. -/
theorem insertNode_fill (db : Database) (ns : List Node) (es : List Edge) (n : Node) :
    (db.fill ns es).insertNode n =
      match db.nodeFault? n with
      | some f => .error f
      | none =>
        if n.id ∈ ns.map Node.id then .ok (.ignored, db.fill ns es)
        else .ok (.inserted, db.fill (ns ++ [n]) es) := by
  rw [insertNode, nodeTarget_fill, nodeFault?]
  cases ht : db.nodeTarget with
  | error f => rfl
  | ok t =>
    have hrefusal : (db.fill ns es).refusal? .nodes (NodeRow.ofNode n).column? =
        db.refusal? .nodes (NodeRow.ofNode n).column? := rfl
    simp only [Except.map, hrefusal]
    cases db.refusal? .nodes (NodeRow.ofNode n).column? with
    | some message => rfl
    | none => simp only [Option.map_none, any_id_map_ofNode, decide_eq_true_eq, appendNode_fill ht]

/-- **Inserting an edge** is a matter of the frame alone. -/
theorem insertEdge_fill (db : Database) (ns : List Node) (es : List Edge) (e : Edge) :
    (db.fill ns es).insertEdge e =
      match db.edgeFault? e with
      | some f => .error f
      | none => .ok (db.fill ns (es ++ [e])) := by
  rw [insertEdge, edgeTarget_fill, edgeFault?]
  cases ht : db.edgeTarget with
  | error f => rfl
  | ok t =>
    have hrefusal : (db.fill ns es).refusal? .edges (EdgeRow.ofEdge e).column? =
        db.refusal? .edges (EdgeRow.ofEdge e).column? := rfl
    simp only [Except.map, hrefusal]
    cases db.refusal? .edges (EdgeRow.ofEdge e).column? with
    | some message => rfl
    | none => simp only [Option.map_none, appendEdge_fill ht]

/-- Deleting all rows leaves the frame, and takes two tables. -/
theorem delete_eq_fill {db db₁ db₂ : Database} (h₁ : db.deleteEdges = .ok db₁)
    (h₂ : db₁.deleteNodes = .ok db₂) : db₂ = db.fill [] [] ∧ db.HasTables := by
  rcases db with ⟨_ | (t | _), _ | (u | _), rules, indexed, logged⟩ <;> cases h₁ <;> cases h₂
  exact ⟨rfl, t, u, rfl, rfl⟩

/-- Tables can be emptied. -/
theorem delete_of_hasTables {db : Database} (h : db.HasTables) :
    ∃ db₁, db.deleteEdges = .ok db₁ ∧ db₁.deleteNodes = .ok (db.fill [] []) := by
  obtain ⟨t, u, ht, hu⟩ := h
  rcases db with ⟨nodes, edges, rules, indexed, logged⟩
  cases ht
  cases hu
  exact ⟨_, rfl, rfl⟩

/-! ## Reading -/

theorem mapM_node_map_ofNode (ns : List Node) :
    (ns.map NodeRow.ofNode).mapM NodeRow.node = .ok ns := by
  induction ns with
  | nil => rfl
  | cons n ns ih =>
    rw [List.map_cons, List.mapM_cons, NodeRow.node_ofNode, ih]
    rfl

theorem mapM_edge_map_ofEdge (es : List Edge) :
    (es.map EdgeRow.ofEdge).mapM EdgeRow.edge = .ok es := by
  induction es with
  | nil => rfl
  | cons e es ih =>
    rw [List.map_cons, List.mapM_cons, EdgeRow.edge_ofEdge, ih]
    rfl

theorem nodeRows_fill {db : Database} (h : db.isReady) (ns : List Node) (es : List Edge)
    (query : String) : (db.fill ns es).nodeRows query = .ok (ns.map .ofNode) := by
  obtain ⟨t, u, ht, -, hc, -⟩ := (isReady_iff db).1 h
  rw [nodeRows, fill, ht]
  exact if_pos hc

theorem edgeRows_fill {db : Database} (h : db.isReady) (ns : List Node) (es : List Edge)
    (query : String) : (db.fill ns es).edgeRows query = .ok (es.map .ofEdge) := by
  obtain ⟨t, u, -, hu, -, hc⟩ := (isReady_iff db).1 h
  rw [edgeRows, fill, hu]
  exact if_pos hc

/-- All nodes, in the order of an export. -/
theorem allNodes_fill {db : Database} (h : db.isReady) (ns : List Node) (es : List Edge)
    (order : ExportOrder) : (db.fill ns es).allNodes order = .ok (Node.ordered order ns) := by
  rw [allNodes, nodeRows_fill h]
  show (ordered order (ns.map .ofNode)).mapM NodeRow.node = _
  rw [ordered_map_ofNode, mapM_node_map_ofNode]

theorem find?_map_ofNode (ns : List Node) (id : String) :
    ((ns.map NodeRow.ofNode).find? fun r => r.id = .text id) =
      (ns.find? fun n => n.id = id).map .ofNode := by
  rw [List.find?_map]
  congr 2
  funext n
  simp [NodeRow.ofNode]

/-- The node with a given id. -/
theorem getNode?_fill {db : Database} (h : db.isReady) (ns : List Node) (es : List Edge)
    (id : String) : (db.fill ns es).getNode? id = .ok (ns.find? fun n => n.id = id) := by
  rw [getNode?, nodeRows_fill h]
  simp only [find?_map_ofNode]
  cases ns.find? fun n => n.id = id <;> rfl

/-- All edges. -/
theorem allEdges_fill {db : Database} (h : db.isReady) (ns : List Node) (es : List Edge) :
    (db.fill ns es).allEdges = .ok es := by
  rw [allEdges, edgeRows_fill h]
  exact mapM_edge_map_ofEdge es

/-- The children of a node, in the order of the edges. -/
theorem edgesFrom_fill {db : Database} (h : db.isReady) (ns : List Node) (es : List Edge)
    (parent : String) :
    (db.fill ns es).edgesFrom parent =
      .ok ((es.filter fun e => e.parent = parent).map Edge.child) := by
  rw [edgesFrom, edgeRows_fill h]
  show ((es.map EdgeRow.ofEdge).filter fun r => r.parent = .text parent).mapM
    (fun r => readText 0 "child" r.child) = _
  induction es with
  | nil => rfl
  | cons e es ih =>
    rw [List.map_cons, List.filter_cons, List.filter_cons]
    by_cases he : e.parent = parent
    · rw [if_pos (by simp [EdgeRow.ofEdge, he]), if_pos (by simpa using he), List.mapM_cons, ih]
      rfl
    · rw [if_neg (by simpa [EdgeRow.ofEdge] using he), if_neg (by simpa using he), ih]

/-- The text of an export. -/
theorem exportContext_fill {db : Database} (h : db.isReady) (ns : List Node) (es : List Edge)
    (order : ExportOrder) (format : ExportFormat) :
    (db.fill ns es).exportContext order format =
      .ok (renderContext (Node.ordered order ns) format) := by
  rw [exportContext, allNodes_fill h]

/-- Whether the rows of the two tables are those of the nodes and edges, in order. -/
def HoldsRows (db : Database) (ns : List Node) (es : List Edge) : Prop :=
  ∃ t u, db.nodes = some (.table t) ∧ db.edges = some (.table u) ∧
    t.rows = ns.map .ofNode ∧ u.rows = es.map .ofEdge

theorem holdsRows_fill {db : Database} (h : db.HasTables) (ns : List Node) (es : List Edge) :
    (db.fill ns es).HoldsRows ns es := by
  obtain ⟨t, u, ht, hu⟩ := h
  refine ⟨{ t with rows := ns.map .ofNode }, { u with rows := es.map .ofEdge }, ?_, ?_, rfl, rfl⟩
  · rw [fill, ht]
    rfl
  · rw [fill, hu]
    rfl

/-- As many files are counted as there are paths. -/
theorem fileCount_map_ofNode (ns : List Node) :
    fileCount (ns.map .ofNode) = (ns.map Node.filepath).toFinset.card := by
  have hpaths : (((ns.map NodeRow.ofNode).map (·.filepath)).filter (· ≠ Cell.null)) =
      (ns.map Node.filepath).map Cell.text := by
    rw [List.map_map, List.map_map, List.filter_eq_self.2]
    · rfl
    · intro cell hcell
      obtain ⟨n, -, rfl⟩ := List.mem_map.1 hcell
      simp [NodeRow.ofNode]
  rw [fileCount, hpaths, length_keepFirst, List.map_id]
  exact card_toFinset_map fun _ _ _ _ h => Cell.text.inj h

/-- The size of the graph, for which no columns are needed. -/
theorem stats_fill {db : Database} (h : db.HasTables) (ns : List Node) (es : List Edge) :
    (db.fill ns es).stats =
      .ok ⟨ns.length, es.length, fileCount (ns.map .ofNode)⟩ := by
  obtain ⟨t, u, ht, hu⟩ := h
  rw [stats, fill, ht, hu]
  simp [Relation.fill]

end Database

namespace Connection

theorem obstacle_eq_none {c : Connection} (h : ∀ stage, c.faultAt? stage = none) :
    c.obstacle = none := by
  cases ho : c.obstacle with
  | none => rfl
  | some o => simpa [faultAt?, ho] using h o.stage

/-- A connection that can be cleared: both tables are there, no transaction is open, and nothing stands
in the way. -/
structure Clearable (c : Connection) : Prop where
  tables : c.stored.HasTables
  idle : c.working = none
  free : c.obstacle = none

/-- **A successful clearing** empties the tables and does nothing else.  Nothing stood in its way at
any stage, and no transaction was open. -/
theorem clearAll_eq_ok {c c' : Connection} (h : c.clearAll = (.ok (), c')) :
    c.Clearable ∧ c' = { c with stored := c.stored.fill [] [], changed := true } := by
  rw [clearAll] at h
  split at h
  · cases h
  · cases h
  · rename_i hw ht
    split at h
    · cases h
    · cases h
    · rename_i db₁ h₁ hsc
      split at h
      · cases h
      · cases h
      · rename_i db₂ h₂ hm
        cases h
        have hsc : c.faultAt? .statement = none ∧ c.faultAt? .change = none := by
          cases hs : c.faultAt? .statement <;> simp_all
        obtain ⟨rfl, htables⟩ := Database.delete_eq_fill h₁ h₂
        refine ⟨⟨htables, hw, obstacle_eq_none fun stage => ?_⟩, rfl⟩
        cases stage with
        | statement => exact hsc.1
        | transaction => exact ht
        | change => exact hsc.2
        | commit => exact hm

theorem clearAll_of_clearable {c : Connection} (h : c.Clearable) :
    c.clearAll = (.ok (), { c with stored := c.stored.fill [] [], changed := true }) := by
  obtain ⟨db₁, h₁, h₂⟩ := Database.delete_of_hasTables h.tables
  simp [clearAll, faultAt?, h.idle, h.free, h₁, h₂]

/-- A connection that can be written to: both tables are there with all their columns, no transaction
is open, and nothing stands in the way. -/
structure Writable (c : Connection) : Prop where
  ready : c.stored.isReady
  idle : c.working = none
  free : c.obstacle = none

/-- A connection that can be written to can be cleared. -/
theorem Writable.clearable {c : Connection} (h : c.Writable) : c.Clearable := by
  obtain ⟨t, u, ht, hu, -, -⟩ := (Database.isReady_iff c.stored).1 h.ready
  exact ⟨⟨t, u, ht, hu⟩, h.idle, h.free⟩

end Connection
end SyntaxGraph
