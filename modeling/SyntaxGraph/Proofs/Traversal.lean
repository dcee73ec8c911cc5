import SyntaxGraph.Proofs.Graph
import SyntaxGraph.Proofs.Replay

/-!
# What a visit asks of the store

A tree is visited with a stack of pending nodes, and every visited node leads to one or two calls of
the store.  `SyntaxTree.writesIn` says by recursion on the tree which calls these are and in which
order: the node, the edge from its parent if it has one, then the calls for its children from the
first to the last.

A visit makes exactly these calls and does nothing else.  To make a call is `Visit.offer`, which also
counts what came of it; a stack stands for the calls of its trees, one tree after the other
(`Visit.pendingWrites`); and to run the stack is to make these calls (`Visit.run_eq_foldl`), just as
it is for the visit by recursion (`Visit.recurse_eq_foldl`).  The list does not depend on the store,
so neither does what is asked of it.

That the calls are these can also be seen from the side of the store: a store under observation keeps
a list of all it is offered (`Sink.observed`), and some of it may be refused (`Sink.refusing`).

The main result is `Visit.tree_eq_recurse`.
-/

set_option autoImplicit false
namespace SyntaxGraph

/-! ## Lists of writes -/

theorem nodesOf_append (a b : List Write) : nodesOf (a ++ b) = nodesOf a ++ nodesOf b :=
  List.filterMap_append

theorem edgesOf_append (a b : List Write) : edgesOf (a ++ b) = edgesOf a ++ edgesOf b :=
  List.filterMap_append

/-- A write is that of a node or that of an edge. -/
theorem length_nodesOf_add (ws : List Write) :
    (nodesOf ws).length + (edgesOf ws).length = ws.length := by
  induction ws with
  | nil => rfl
  | cons w ws ih =>
    rw [List.length_cons, ← ih]
    rcases w with n | e
    · show ((nodesOf ws).length + 1) + (edgesOf ws).length = _
      omega
    · show (nodesOf ws).length + ((edgesOf ws).length + 1) = _
      omega

/-! ## The writes of a tree -/

/-- The writes for the node on top of a stack: the node itself, and the edge from its parent if it
has one. -/
def Visit.writesAt (filepath : String) (x : Pending) : List Write :=
  .node (x.1.nodeIn filepath) :: (edgeTo filepath x).map .edge

namespace SyntaxTree

mutual

/-- The writes for a tree in a file: those for its root, then those for its children, from the first
to the last, with the root as their parent. -/
def writesIn (filepath : String) (parent : Option String) : SyntaxTree → List Write
  | .node kind span children =>
    Visit.writesAt filepath (.node kind span children, parent) ++
      writesBelow filepath (nodeId filepath kind span.start) children

/-- The writes for trees with a common parent, tree by tree. -/
def writesBelow (filepath parent : String) : List SyntaxTree → List Write
  | [] => []
  | t :: ts => writesIn filepath (some parent) t ++ writesBelow filepath parent ts

end

end SyntaxTree

namespace Visit

theorem nodesOf_writesAt (filepath : String) (x : Pending) :
    nodesOf (writesAt filepath x) = [x.1.nodeIn filepath] := by
  rcases x with ⟨t, _ | p⟩ <;> rfl

theorem edgesOf_writesAt (filepath : String) (x : Pending) :
    edgesOf (writesAt filepath x) = edgeTo filepath x := by
  rcases x with ⟨t, _ | p⟩ <;> rfl

/-- The writes that a stack of pending nodes stands for. -/
def pendingWrites (filepath : String) (stack : List Pending) : List Write :=
  stack.flatMap fun x => x.1.writesIn filepath x.2

theorem writesBelow_eq_pendingWrites (filepath parent : String) (ts : List SyntaxTree) :
    SyntaxTree.writesBelow filepath parent ts =
      pendingWrites filepath (ts.map fun c => (c, some parent)) := by
  induction ts with
  | nil => rfl
  | cons t ts ih => rw [SyntaxTree.writesBelow, ih]; rfl

/-- The writes for a tree are those for its root and those its children stand for. -/
theorem writesIn_eq_append (filepath : String) (t : SyntaxTree) (parent : Option String) :
    t.writesIn filepath parent =
      writesAt filepath (t, parent) ++ pendingWrites filepath (below filepath t) := by
  obtain ⟨kind, span, children⟩ := t
  rw [SyntaxTree.writesIn, writesBelow_eq_pendingWrites]
  rfl

end Visit

namespace SyntaxTree

/-! The nodes among the writes are the nodes of the graph, and the edges among them are its edges. -/

mutual

theorem nodesOf_writesIn (filepath : String) (parent : Option String) (t : SyntaxTree) :
    nodesOf (t.writesIn filepath parent) = t.nodesIn filepath := by
  obtain ⟨kind, span, children⟩ := t
  rw [writesIn, nodesOf_append, Visit.nodesOf_writesAt, nodesOf_writesBelow filepath _ children,
    nodesIn]
  rfl

theorem nodesOf_writesBelow (filepath parent : String) (ts : List SyntaxTree) :
    nodesOf (writesBelow filepath parent ts) = nodesInAll filepath ts := by
  rcases ts with _ | ⟨t, ts⟩
  · rfl
  · rw [writesBelow, nodesOf_append, nodesOf_writesIn filepath _ t,
      nodesOf_writesBelow filepath parent ts, nodesInAll]

end

mutual

theorem edgesOf_writesIn (filepath : String) (parent : Option String) (t : SyntaxTree) :
    edgesOf (t.writesIn filepath parent) =
      Visit.edgeTo filepath (t, parent) ++ t.edgesIn filepath := by
  obtain ⟨kind, span, children⟩ := t
  rw [writesIn, edgesOf_append, Visit.edgesOf_writesAt, edgesOf_writesBelow filepath _ children,
    edgesIn]

theorem edgesOf_writesBelow (filepath parent : String) (ts : List SyntaxTree) :
    edgesOf (writesBelow filepath parent ts) = edgesBelow filepath parent ts := by
  rcases ts with _ | ⟨t, ts⟩
  · rfl
  · rw [writesBelow, edgesOf_append, edgesOf_writesIn filepath _ t,
      edgesOf_writesBelow filepath parent ts, edgesBelow]
    rfl

end

/-- There is one write for every node and one for every node but the root. -/
theorem length_writesIn (filepath : String) (t : SyntaxTree) :
    (t.writesIn filepath none).length + 1 = 2 * t.size := by
  have hnodes := length_nodesIn filepath t
  have hedges := length_edgesIn filepath t
  rw [← length_nodesOf_add, nodesOf_writesIn, edgesOf_writesIn,
    show Visit.edgeTo filepath (t, none) = [] from rfl, List.nil_append]
  omega

end SyntaxTree

/-! ## A visit makes the writes -/

namespace Visit

variable {σ : Type}

/-- Makes a write.  A node that is written is a node that is visited. -/
def offer (sink : Sink σ) (s : Progress σ) : Write → Progress σ
  | .node n => writeNode sink n (countVisit s)
  | .edge e => writeEdge sink e s

theorem enter_eq_foldl (sink : Sink σ) (filepath : String) (t : SyntaxTree) (parent : Option String)
    (s : Progress σ) :
    enter sink filepath t parent s = (writesAt filepath (t, parent)).foldl (offer sink) s := by
  rcases parent with _ | p <;> rfl

/-- **Running a stack makes the writes it stands for.**  The writes for the topmost node are made, and
its children take its place. -/
theorem run_eq_foldl (sink : Sink σ) (filepath : String) (stack : List Pending) (s : Progress σ) :
    run sink filepath stack s = (pendingWrites filepath stack).foldl (offer sink) s := by
  induction stack, s using run.induct sink filepath with
  | case1 s =>
    rw [run]
    rfl
  | case2 s t parent rest ih =>
    have hpending : pendingWrites filepath ((t, parent) :: rest) =
        writesAt filepath (t, parent) ++ pendingWrites filepath (below filepath t ++ rest) := by
      rw [pendingWrites, List.flatMap_cons, writesIn_eq_append, List.append_assoc, pendingWrites,
        pendingWrites, List.flatMap_append]
    rw [run, ih, enter_eq_foldl, hpending, List.foldl_append]

mutual

/-- **The visit by recursion makes the writes of the tree.** -/
theorem recurse_eq_foldl (sink : Sink σ) (filepath : String) (parent : Option String)
    (s : Progress σ) (t : SyntaxTree) :
    recurse sink filepath parent s t = (t.writesIn filepath parent).foldl (offer sink) s := by
  obtain ⟨kind, span, children⟩ := t
  rw [recurse, recurseAll_eq_foldl sink filepath _ _ children, enter_eq_foldl,
    SyntaxTree.writesIn, List.foldl_append]

theorem recurseAll_eq_foldl (sink : Sink σ) (filepath parent : String) (s : Progress σ)
    (ts : List SyntaxTree) :
    recurseAll sink filepath parent s ts =
      (SyntaxTree.writesBelow filepath parent ts).foldl (offer sink) s := by
  rcases ts with _ | ⟨t, ts⟩
  · rw [recurseAll, SyntaxTree.writesBelow, List.foldl_nil]
  · rw [recurseAll, recurseAll_eq_foldl sink filepath parent _ ts,
      recurse_eq_foldl sink filepath _ _ t, SyntaxTree.writesBelow, List.foldl_append]

end

theorem tree_eq_foldl (sink : Sink σ) (filepath : String) (t : SyntaxTree) (s : Progress σ) :
    tree sink filepath t s = (t.writesIn filepath none).foldl (offer sink) s := by
  rw [tree, run_eq_foldl, pendingWrites, List.flatMap_singleton]

theorem nodesVisited_offer (sink : Sink σ) (s : Progress σ) (w : Write) :
    (offer sink s w).report.nodesVisited = s.report.nodesVisited + (nodesOf [w]).length := by
  rcases w with n | e
  · rw [offer, writeNode]
    split <;> rfl
  · rw [offer, writeEdge]
    split <;> rfl

/-- Every node that is written counts as visited, whatever became of it. -/
theorem nodesVisited_foldl (sink : Sink σ) (ws : List Write) (s : Progress σ) :
    (ws.foldl (offer sink) s).report.nodesVisited =
      s.report.nodesVisited + (nodesOf ws).length := by
  induction ws generalizing s with
  | nil => rfl
  | cons w ws ih =>
    have hcons : (nodesOf (w :: ws)).length = (nodesOf [w]).length + (nodesOf ws).length := by
      rw [← List.length_append, ← nodesOf_append]
      rfl
    rw [List.foldl_cons, ih, nodesVisited_offer, hcons, Nat.add_assoc]

end Visit

/-! ## The side of the store -/

/-- A store under observation. -/
structure Observed (σ : Type) where
  store : σ
  /-- What the store has been offered, in order. -/
  offers : List Write

/-- A run as it is when its store is under observation. -/
def Progress.observed {σ : Type} (s : Progress σ) (offers : List Write) : Progress (Observed σ) :=
  ⟨⟨s.store, offers⟩, s.report, s.log⟩

namespace Sink

variable {σ : Type}

/-- A store under observation that refuses some of what it is offered, told by number, and deals with
the rest as the store it is. -/
def refusing (sink : Sink σ) (refused : Nat → Option Fault) : Sink (Observed σ) where
  insertNode s n :=
    match refused s.offers.length with
    | some f => (.error f, ⟨s.store, s.offers ++ [.node n]⟩)
    | none =>
      ((sink.insertNode s.store n).1, ⟨(sink.insertNode s.store n).2, s.offers ++ [.node n]⟩)
  insertEdge s e :=
    match refused s.offers.length with
    | some f => (.error f, ⟨s.store, s.offers ++ [.edge e]⟩)
    | none =>
      ((sink.insertEdge s.store e).1, ⟨(sink.insertEdge s.store e).2, s.offers ++ [.edge e]⟩)

/-- A store under observation that refuses no more than it would otherwise. -/
def observed (sink : Sink σ) : Sink (Observed σ) :=
  sink.refusing fun _ => none

end Sink

namespace Visit

variable {σ : Type}

/-- Observing a store adds a write to the list of offers and changes nothing else. -/
theorem offer_observed (sink : Sink σ) (s : Progress σ) (offers : List Write) (w : Write) :
    offer sink.observed (s.observed offers) w = (offer sink s w).observed (offers ++ [w]) := by
  rcases w with n | e
  · simp only [offer, writeNode, countVisit, Sink.observed, Sink.refusing, Progress.observed]
    rcases sink.insertNode s.store n with ⟨f | (_ | _), store⟩ <;> rfl
  · simp only [offer, writeEdge, Sink.observed, Sink.refusing, Progress.observed]
    rcases sink.insertEdge s.store e with ⟨f | _, store⟩ <;> rfl

theorem foldl_offer_observed (sink : Sink σ) (ws : List Write) (s : Progress σ)
    (offers : List Write) :
    ws.foldl (offer sink.observed) (s.observed offers) =
      (ws.foldl (offer sink) s).observed (offers ++ ws) := by
  induction ws generalizing s offers with
  | nil => rw [List.foldl_nil, List.foldl_nil, List.append_nil]
  | cons w ws ih =>
    rw [List.foldl_cons, List.foldl_cons, offer_observed, ih, List.append_assoc,
      List.singleton_append]

/-- **The visit with a stack makes exactly the writes of the visit by recursion.**  Whatever the tree,
the file, the store and how far the run has come, both leave the same.  A store that is watched during
the visit is offered the writes of the tree as the recursion lists them, in this order and no others.
The visit counts every node of the tree, and among the writes there is an edge for every node but the
root. -/
theorem tree_eq_recurse (sink : Sink σ) (filepath : String) (t : SyntaxTree) (s : Progress σ) :
    tree sink filepath t s = recurse sink filepath none s t ∧
      tree sink.observed filepath t (s.observed []) =
        (tree sink filepath t s).observed (t.writesIn filepath none) ∧
      recurse sink.observed filepath none (s.observed []) t =
        (tree sink filepath t s).observed (t.writesIn filepath none) ∧
      (tree sink filepath t s).report.nodesVisited = s.report.nodesVisited + t.size ∧
      (edgesOf (t.writesIn filepath none)).length + 1 = t.size := by
  refine ⟨?_, ?_, ?_, ?_, ?_⟩
  · rw [tree_eq_foldl, recurse_eq_foldl]
  · rw [tree_eq_foldl, tree_eq_foldl, foldl_offer_observed, List.nil_append]
  · rw [recurse_eq_foldl, tree_eq_foldl, foldl_offer_observed, List.nil_append]
  · rw [tree_eq_foldl, nodesVisited_foldl, SyntaxTree.nodesOf_writesIn, SyntaxTree.length_nodesIn]
  · rw [SyntaxTree.edgesOf_writesIn]
    exact SyntaxTree.length_edgesIn filepath t

end Visit
end SyntaxGraph
