import Mathlib.Logic.Relation
import SyntaxGraph.Proofs.Rebuild

/-!
# The indexed graph is closed and rooted

Nodes and edges are written by separate statements, and nothing in the store ties them together.  The
row of a node whose id is taken is dropped, while its edges are kept under the id it shares.  All the
same no edge dangles and no node is cut off: edges name ids, every id of a tree is kept under some
row, and the way from the root of a tree down to a node is a way along ids, whichever of these have
several nodes.

What needs the kinds to be plain is that the row under an id is a row of the right file.

## What is here

* `Reaches` — ways along edges.
* `SyntaxTree.reaches_of_mem_nodesIn` — in a tree every node is reached from the root.
* `HasPlainKinds.exists_kept` — every id of a file is kept, under the path of the file.
* `Rooted` — graphs that are closed and rooted; `HasPlainKinds.rooted` for what is kept of files, and
  `project_rooted` for what a run leaves in the store.
-/

set_option autoImplicit false
namespace SyntaxGraph

/-- Whether an edge leads from the one id to the other. -/
def Joins (es : List Edge) (parent child : String) : Prop :=
  ⟨parent, child⟩ ∈ es

/-- Whether edges lead from the one id to the other, each from a parent to a child. -/
def Reaches (es : List Edge) : String → String → Prop :=
  Relation.ReflTransGen (Joins es)

/-! ## One tree -/

namespace SyntaxTree

mutual

/-- From the root of a tree every node is reached, along the edges of the tree. -/
theorem reaches_of_mem_nodesIn {es : List Edge} {filepath : String} {n : Node} (t : SyntaxTree)
    (hes : t.edgesIn filepath ⊆ es) (hn : n ∈ t.nodesIn filepath) :
    Reaches es (t.idIn filepath) n.id := by
  cases t with
  | node kind span children =>
    rw [nodesIn, List.mem_cons] at hn
    rcases hn with rfl | hn
    · exact .refl
    · exact reaches_of_mem_nodesInAll children hes hn

/-- From the common parent of trees every node of them is reached. -/
theorem reaches_of_mem_nodesInAll {es : List Edge} {filepath parent : String} {n : Node}
    (ts : List SyntaxTree) (hes : edgesBelow filepath parent ts ⊆ es)
    (hn : n ∈ nodesInAll filepath ts) : Reaches es parent n.id := by
  cases ts with
  | nil =>
    rw [nodesInAll] at hn
    cases hn
  | cons t ts =>
    rw [edgesBelow, List.cons_subset, List.append_subset] at hes
    obtain ⟨hedge, ht, hts⟩ := hes
    rw [nodesInAll, List.mem_append] at hn
    rcases hn with hn | hn
    · -- one step to the root of the tree, then down the tree
      have hdown : Reaches es (t.idIn filepath) n.id := reaches_of_mem_nodesIn t ht hn
      exact .head hedge hdown
    · exact reaches_of_mem_nodesInAll ts hts hn

end

end SyntaxTree

/-! ## Files -/

/-- A graph without loose ends: all of it hangs together below the roots of files. -/
structure Rooted (fs : List ParsedFile) (ns : List Node) (es : List Edge) : Prop where
  /-- An id stands for one node. -/
  ids : (ns.map Node.id).Nodup
  /-- The root of every file is there. -/
  roots : ∀ f ∈ fs, ∃ n ∈ ns, n.id = f.rootId ∧ n.filepath = f.filepath
  /-- Both ends of an edge are there, with one path. -/
  closed : ∀ e ∈ es, ∃ m ∈ ns, ∃ n ∈ ns,
    m.id = e.parent ∧ n.id = e.child ∧ m.filepath = n.filepath
  /-- Every node is reached from the root of a file with its path. -/
  reached : ∀ n ∈ ns, ∃ f ∈ fs, f.filepath = n.filepath ∧ Reaches es f.rootId n.id

namespace HasPlainKinds

variable {fs : List ParsedFile}

/-- Every id of a file is kept, and so is the path, though perhaps with another node. -/
theorem exists_kept (h : HasPlainKinds fs) {f : ParsedFile} (hf : f ∈ fs) {id : String}
    (hid : id ∈ f.nodes.map Node.id) :
    ∃ m ∈ keepFirst Node.id (fs.flatMap ParsedFile.nodes), m.id = id ∧ m.filepath = f.filepath := by
  obtain ⟨n, hn, rfl⟩ := List.mem_map.1 hid
  have hall : n.id ∈ (fs.flatMap ParsedFile.nodes).map Node.id :=
    List.mem_map_of_mem (List.mem_flatMap.2 ⟨f, hf, hn⟩)
  rw [← mem_map_keepFirst Node.id] at hall
  obtain ⟨m, hm, hmid⟩ := List.mem_map.1 hall
  -- the kept node may stand in another file, which then has the same path
  obtain ⟨g, hg, hmg⟩ := List.mem_flatMap.1 (mem_of_mem_keepFirst Node.id hm)
  refine ⟨m, hm, hmid, ?_⟩
  rw [(SyntaxTree.of_mem_nodesIn g.tree hmg).1]
  exact h.filepath_eq hg hf hmg hn hmid

/-- **What is kept of files is closed and rooted**, also where ids collide. -/
theorem rooted (h : HasPlainKinds fs) :
    Rooted fs (keepFirst Node.id (fs.flatMap ParsedFile.nodes)) (fs.flatMap ParsedFile.edges) where
  ids := nodup_keepFirst Node.id _
  roots f hf := h.exists_kept hf (SyntaxTree.idIn_mem_nodesIn f.filepath f.tree)
  closed e he := by
    obtain ⟨f, hf, he⟩ := List.mem_flatMap.1 he
    obtain ⟨hparent, hchild⟩ := SyntaxTree.of_mem_edgesIn f.tree he
    obtain ⟨m, hm, hmid, hmpath⟩ := h.exists_kept hf hparent
    obtain ⟨n, hn, hnid, hnpath⟩ := h.exists_kept hf hchild
    exact ⟨m, hm, n, hn, hmid, hnid, hmpath.trans hnpath.symm⟩
  reached n hn := by
    obtain ⟨f, hf, hn⟩ := List.mem_flatMap.1 (mem_of_mem_keepFirst Node.id hn)
    have hes : f.edges ⊆ fs.flatMap ParsedFile.edges :=
      fun e he => List.mem_flatMap.2 ⟨f, hf, he⟩
    exact ⟨f, hf, (SyntaxTree.of_mem_nodesIn f.tree hn).1.symm,
      SyntaxTree.reaches_of_mem_nodesIn f.tree hes hn⟩

end HasPlainKinds

/-! ## Whole runs -/

namespace Index

variable {parser : Parser} {ws : List Walked} {c c' : Connection} {r : Report} {log : List Message}

/-- **The indexed graph is closed and rooted.**  After a run in which no write was refused, both ends
of every stored edge are stored under one path, and every stored node is reached along the stored
edges from the root of an indexed file with the path of the node. -/
theorem project_rooted (hkinds : HasPlainKinds (parsed parser ws))
    (h : project parser ws c = ((.ok r, log), c')) (hr : r.insertErrors = 0) :
    ∃ ns es, c'.view.HoldsRows ns es ∧
      (c'.view.isReady → c'.view.allNodes .natural = .ok ns ∧ c'.view.allEdges = .ok es) ∧
      Rooted (parsed parser ws) ns es := by
  rw [view_of_project h hr]
  refine ⟨_, _, Database.holdsRows_fill (clearable_of_project h).tables _ _, ?_, hkinds.rooted⟩
  intro hready
  rw [Database.isReady_fill] at hready
  exact ⟨Database.allNodes_fill hready _ _ .natural, Database.allEdges_fill hready _ _⟩

/-- In the sample project an id is taken twice in each file. -/
theorem project_rooted_staleStore :
    HasPlainKinds (parsed Sample.parser Sample.walk) ∧
      ∃ r log c', project Sample.parser Sample.walk staleStore = ((.ok r, log), c') ∧
        r.insertErrors = 0 ∧
        ∃ ns es, c'.view.HoldsRows ns es ∧
          (c'.view.isReady → c'.view.allNodes .natural = .ok ns ∧ c'.view.allEdges = .ok es) ∧
          Rooted (parsed Sample.parser Sample.walk) ns es := by
  have hkinds : HasPlainKinds (parsed Sample.parser Sample.walk) := by
    rw [Sample.parsed_walk]
    unfold HasPlainKinds
    decide
  have hr := (written_build Sample.parser Sample.walk staleStore.stored).insertErrors_eq_zero_iff.2
    (takesAll_staleStore _ _)
  exact ⟨hkinds, _, _, _, rfl, hr, project_rooted (c := staleStore) hkinds rfl hr⟩

end Index
end SyntaxGraph
