import SyntaxGraph.Index.Run
import SyntaxGraph.Proofs.NodeId

/-!
# The graph of a project

What an index run is meant to write, said without a store: the nodes and the edges of each tree by
recursion on the tree, and those of a project by going through its files in the order of the walk.
Ids may be taken several times in these lists; what the store does about it is not said here.

## What is here

* `SyntaxTree.nodesIn`, `SyntaxTree.edgesIn` — the graph of one tree, in pre-order.  There is one
  edge for every node but the root.
* `SyntaxTree.of_mem_nodesIn`, `SyntaxTree.of_mem_edgesIn` — what the nodes of a file have in common,
  and that edges lead from node to node.
* `SyntaxTree.length_nodesIn`, `SyntaxTree.length_edgesIn` — how many there are.
* `ParsedFile`, `Index.parsed` — the files of a walk that are indexed, with their trees.
* `HasPlainKinds.filepath_eq` — ids tell files apart.
* `Index.graphNodes`, `Index.graphEdges` — the graph of a project.
* `Visit.pendingNodes`, `Visit.pendingEdges` — what a stack of pending nodes stands for, with the
  equations `nodesIn_eq_cons` and `edgesIn_eq_pendingEdges` that say how a tree is taken apart.
-/

set_option autoImplicit false
namespace SyntaxGraph

/-! ## The graph of a tree -/

namespace SyntaxTree

mutual

/-- The nodes of a tree in a file: the root, then those below it from the first child to the last. -/
def nodesIn (filepath : String) : SyntaxTree → List Node
  | .node kind span children => Node.ofSyntax filepath kind span :: nodesInAll filepath children

/-- The nodes of trees in a file, tree by tree. -/
def nodesInAll (filepath : String) : List SyntaxTree → List Node
  | [] => []
  | t :: ts => nodesIn filepath t ++ nodesInAll filepath ts

end

mutual

/-- The edges of a tree in a file, each at the place of the node it leads to. -/
def edgesIn (filepath : String) : SyntaxTree → List Edge
  | .node kind span children => edgesBelow filepath (nodeId filepath kind span.start) children

/-- The edges of trees in a file and those that lead to their roots from a common parent. -/
def edgesBelow (filepath parent : String) : List SyntaxTree → List Edge
  | [] => []
  | t :: ts =>
    ⟨parent, t.idIn filepath⟩ :: (edgesIn filepath t ++ edgesBelow filepath parent ts)

end

/-! Every node carries the path of its file and an id made of what it says itself. -/

mutual

theorem of_mem_nodesIn {filepath : String} {n : Node} (t : SyntaxTree)
    (h : n ∈ t.nodesIn filepath) :
    n.filepath = filepath ∧ ∃ start, n.id = nodeId filepath n.kind start := by
  cases t with
  | node kind span children =>
    rw [nodesIn, List.mem_cons] at h
    rcases h with rfl | h
    · exact ⟨rfl, span.start, rfl⟩
    · exact of_mem_nodesInAll children h

theorem of_mem_nodesInAll {filepath : String} {n : Node} (ts : List SyntaxTree)
    (h : n ∈ nodesInAll filepath ts) :
    n.filepath = filepath ∧ ∃ start, n.id = nodeId filepath n.kind start := by
  cases ts with
  | nil => rw [nodesInAll] at h; cases h
  | cons t ts =>
    rw [nodesInAll, List.mem_append] at h
    rcases h with h | h
    · exact of_mem_nodesIn t h
    · exact of_mem_nodesInAll ts h

end

/-! Both ends of an edge are nodes. -/

theorem idIn_mem_nodesIn (filepath : String) (t : SyntaxTree) :
    t.idIn filepath ∈ (t.nodesIn filepath).map Node.id := by
  cases t with
  | node kind span children => exact List.mem_cons_self

mutual

theorem of_mem_edgesIn {filepath : String} {e : Edge} (t : SyntaxTree)
    (h : e ∈ t.edgesIn filepath) :
    e.parent ∈ (t.nodesIn filepath).map Node.id ∧ e.child ∈ (t.nodesIn filepath).map Node.id := by
  cases t with
  | node kind span children =>
    obtain ⟨hparent, hchild⟩ := of_mem_edgesBelow children h
    exact ⟨List.mem_cons.2 hparent, List.mem_cons_of_mem _ hchild⟩

theorem of_mem_edgesBelow {filepath parent : String} {e : Edge} (ts : List SyntaxTree)
    (h : e ∈ edgesBelow filepath parent ts) :
    (e.parent = parent ∨ e.parent ∈ (nodesInAll filepath ts).map Node.id) ∧
      e.child ∈ (nodesInAll filepath ts).map Node.id := by
  cases ts with
  | nil => rw [edgesBelow] at h; cases h
  | cons t ts =>
    rw [edgesBelow, List.mem_cons, List.mem_append] at h
    rw [nodesInAll, List.map_append, List.mem_append, List.mem_append]
    rcases h with rfl | h | h
    · exact ⟨.inl rfl, .inl (idIn_mem_nodesIn filepath t)⟩
    · obtain ⟨hparent, hchild⟩ := of_mem_edgesIn t h
      exact ⟨.inr (.inl hparent), .inl hchild⟩
    · obtain ⟨hparent, hchild⟩ := of_mem_edgesBelow ts h
      exact ⟨hparent.imp_right .inr, .inr hchild⟩

end

/-! Every node counts once, and every node but the root has an edge. -/

mutual

theorem length_nodesIn (filepath : String) (t : SyntaxTree) :
    (t.nodesIn filepath).length = t.size := by
  cases t with
  | node kind span children =>
    rw [nodesIn, List.length_cons, length_nodesInAll filepath children, size]

theorem length_nodesInAll (filepath : String) (ts : List SyntaxTree) :
    (nodesInAll filepath ts).length = sizeAll ts := by
  cases ts with
  | nil => rfl
  | cons t ts =>
    rw [nodesInAll, List.length_append, length_nodesIn filepath t, length_nodesInAll filepath ts,
      sizeAll]

end

mutual

theorem length_edgesIn (filepath : String) (t : SyntaxTree) :
    (t.edgesIn filepath).length + 1 = t.size := by
  cases t with
  | node kind span children => rw [edgesIn, length_edgesBelow filepath _ children, size]

theorem length_edgesBelow (filepath parent : String) (ts : List SyntaxTree) :
    (edgesBelow filepath parent ts).length = sizeAll ts := by
  cases ts with
  | nil => rfl
  | cons t ts =>
    have ht := length_edgesIn filepath t
    have hts := length_edgesBelow filepath parent ts
    rw [edgesBelow, List.length_cons, List.length_append, sizeAll]
    omega

end

end SyntaxTree

/-! ## What a stack stands for -/

namespace Visit

/-- The nodes that a stack of pending nodes leads to. -/
def pendingNodes (filepath : String) (stack : List Pending) : List Node :=
  stack.flatMap fun x => x.1.nodesIn filepath

/-- The edge from the parent of a pending node, if it has one. -/
def edgeTo (filepath : String) (x : Pending) : List Edge :=
  x.2.toList.map fun parent => ⟨parent, x.1.idIn filepath⟩

/-- The edges that a stack of pending nodes leads to. -/
def pendingEdges (filepath : String) (stack : List Pending) : List Edge :=
  stack.flatMap fun x => edgeTo filepath x ++ x.1.edgesIn filepath

theorem pendingNodes_append (filepath : String) (a b : List Pending) :
    pendingNodes filepath (a ++ b) = pendingNodes filepath a ++ pendingNodes filepath b :=
  List.flatMap_append

theorem pendingEdges_append (filepath : String) (a b : List Pending) :
    pendingEdges filepath (a ++ b) = pendingEdges filepath a ++ pendingEdges filepath b :=
  List.flatMap_append

theorem nodesInAll_eq_pendingNodes (filepath : String) (p : Option String) (ts : List SyntaxTree) :
    SyntaxTree.nodesInAll filepath ts = pendingNodes filepath (ts.map fun c => (c, p)) := by
  induction ts with
  | nil => rfl
  | cons t ts ih => rw [SyntaxTree.nodesInAll, ih]; rfl

theorem edgesBelow_eq_pendingEdges (filepath parent : String) (ts : List SyntaxTree) :
    SyntaxTree.edgesBelow filepath parent ts =
      pendingEdges filepath (ts.map fun c => (c, some parent)) := by
  induction ts with
  | nil => rfl
  | cons t ts ih => rw [SyntaxTree.edgesBelow, ih]; rfl

/-- A tree is its root and what its children stand for. -/
theorem nodesIn_eq_cons (filepath : String) (t : SyntaxTree) :
    t.nodesIn filepath = t.nodeIn filepath :: pendingNodes filepath (below filepath t) := by
  cases t with
  | node kind span children =>
    rw [SyntaxTree.nodesIn, nodesInAll_eq_pendingNodes]
    rfl

theorem edgesIn_eq_pendingEdges (filepath : String) (t : SyntaxTree) :
    t.edgesIn filepath = pendingEdges filepath (below filepath t) := by
  cases t with
  | node kind span children =>
    rw [SyntaxTree.edgesIn, edgesBelow_eq_pendingEdges]
    rfl

end Visit

/-! ## The graph of a project -/

/-- A file that is indexed: the text of its path, and its tree. -/
structure ParsedFile where
  filepath : String
  tree : SyntaxTree

namespace ParsedFile

/-- The nodes of a file in pre-order. -/
def nodes (f : ParsedFile) : List Node :=
  f.tree.nodesIn f.filepath

/-- The edges of a file in pre-order. -/
def edges (f : ParsedFile) : List Edge :=
  f.tree.edgesIn f.filepath

/-- The id of the root of a file's tree. -/
def rootId (f : ParsedFile) : String :=
  f.tree.idIn f.filepath

end ParsedFile

/-- Whether the trees of files have plain kinds only. -/
def HasPlainKinds (fs : List ParsedFile) : Prop :=
  ∀ f ∈ fs, ∀ n ∈ f.nodes, IsPlainKind n.kind

/-- Nodes with one id stand in files with one path. -/
theorem HasPlainKinds.filepath_eq {fs : List ParsedFile} (h : HasPlainKinds fs) {f g : ParsedFile}
    (hf : f ∈ fs) (hg : g ∈ fs) {m n : Node} (hm : m ∈ f.nodes) (hn : n ∈ g.nodes)
    (hid : m.id = n.id) : f.filepath = g.filepath := by
  obtain ⟨-, p, hp⟩ := SyntaxTree.of_mem_nodesIn f.tree hm
  obtain ⟨-, q, hq⟩ := SyntaxTree.of_mem_nodesIn g.tree hn
  rw [hp, hq] at hid
  exact (nodeId_injective (h f hf m hm) (h g hg n hn) hid).1

/-- The file the walk reports, if it is indexed: it is a file of a known language that holds text. -/
def Walked.parsed? (parser : Parser) : Walked → Option ParsedFile
  | .file path content =>
    match Language.ofPath? path, Utf8.text? content with
    | some language, some source => some ⟨path.text, parser.parse language source⟩
    | _, _ => none
  | _ => none

namespace Index

/-- The files of a walk that are indexed, in the order of the walk. -/
def parsed (parser : Parser) (ws : List Walked) : List ParsedFile :=
  ws.filterMap (Walked.parsed? parser)

/-- The nodes of a project, file by file. -/
def graphNodes (parser : Parser) (ws : List Walked) : List Node :=
  (parsed parser ws).flatMap ParsedFile.nodes

/-- The edges of a project, file by file. -/
def graphEdges (parser : Parser) (ws : List Walked) : List Edge :=
  (parsed parser ws).flatMap ParsedFile.edges

theorem parsed_cons (parser : Parser) (w : Walked) (ws : List Walked) :
    parsed parser (w :: ws) = (w.parsed? parser).toList ++ parsed parser ws := by
  rw [parsed, List.filterMap_cons]
  cases w.parsed? parser <;> rfl

theorem graphNodes_cons (parser : Parser) (w : Walked) (ws : List Walked) :
    graphNodes parser (w :: ws) =
      (w.parsed? parser).toList.flatMap ParsedFile.nodes ++ graphNodes parser ws := by
  rw [graphNodes, parsed_cons, List.flatMap_append, graphNodes]

theorem graphEdges_cons (parser : Parser) (w : Walked) (ws : List Walked) :
    graphEdges parser (w :: ws) =
      (w.parsed? parser).toList.flatMap ParsedFile.edges ++ graphEdges parser ws := by
  rw [graphEdges, parsed_cons, List.flatMap_append, graphEdges]

end Index

/-! ## A small project

The sources `a.b.c` nest member expressions that start at one place, so their ids collide. -/

namespace Sample

/-- A parser that takes every source for `a.b.c`. -/
def parser : Parser :=
  ⟨fun _ _ => .node "program" ⟨⟨0, 0⟩, ⟨0, 5⟩⟩
    [.node "member" ⟨⟨0, 0⟩, ⟨0, 5⟩⟩
      [.node "member" ⟨⟨0, 0⟩, ⟨0, 3⟩⟩ [], .node "." ⟨⟨0, 3⟩, ⟨0, 4⟩⟩ []]]⟩

/-- A file of the project. -/
def file (name : String) : Walked :=
  .file (Path.ofString name) (Utf8.ofString "a.b.c")

/-- What a walk of the project reports. -/
def walk : List Walked :=
  [.other (Path.ofString "src"), file "src/b.js", file "src/notes.md", file "src/a.ts"]

theorem parsed_walk : Index.parsed parser walk =
    [⟨"src/b.js", parser.parse .javascript "a.b.c"⟩,
      ⟨"src/a.ts", parser.parse .typescript "a.b.c"⟩] := rfl

end Sample
end SyntaxGraph
