import SyntaxGraph.Proofs.WalkOrder

/-!
# The edges from a node lead to its children

An edge is written when the node it leads to is visited, so the edges to the children of a node stand
apart from each other, with the edges below each child in between.  Asked for by their parent they
come together again in the order of the children.  Where several nodes share an id, the edges from
all of them are given, in the order in which the nodes they lead to are visited.

The graph of a tree is told here by its nodes themselves, before they have ids: `SyntaxTree.links`
lists all nodes but the root, each with its parent.  Of such a list it can be said which of its
entries belong to one node (`SyntaxTree.filter_links`), and the edges are what the ids make of it
(`SyntaxTree.edgesIn_eq_map_links`).

## What is here

* `SyntaxTree.subtrees`, `SyntaxTree.links` — the nodes of a tree, and those with a parent, both in
  pre-order.
* `ParsedFile.childIds` — the ids of the nodes whose parent has a given id.
* `ToldApart.flatMap_childIds` — only one file has anything to say about an id.
* `project_edgesFrom` — what a store answers after a run.
-/

set_option autoImplicit false
namespace SyntaxGraph

/-! ## Nodes and their parents -/

namespace SyntaxTree

mutual

/-- The nodes of a tree in pre-order, each with all that is below it. -/
def subtrees : SyntaxTree → List SyntaxTree
  | .node kind span children => .node kind span children :: subtreesAll children

/-- The nodes of trees, tree by tree. -/
def subtreesAll : List SyntaxTree → List SyntaxTree
  | [] => []
  | t :: ts => subtrees t ++ subtreesAll ts

end

mutual

/-- The nodes of a tree that have a parent, in pre-order.  The parent is the first of each pair. -/
def links : SyntaxTree → List (SyntaxTree × SyntaxTree)
  | .node kind span children => linksBelow (.node kind span children) children

/-- The nodes of trees with a common parent, tree by tree, each with its parent. -/
def linksBelow (parent : SyntaxTree) : List SyntaxTree → List (SyntaxTree × SyntaxTree)
  | [] => []
  | t :: ts => (parent, t) :: (links t ++ linksBelow parent ts)

end

/-! All nodes but the root have a parent. -/

mutual

theorem subtrees_eq_cons (t : SyntaxTree) : t.subtrees = t :: t.links.map Prod.snd := by
  obtain ⟨kind, span, children⟩ := t
  rw [subtrees, links, subtreesAll_eq_map _ children]

theorem subtreesAll_eq_map (parent : SyntaxTree) (ts : List SyntaxTree) :
    subtreesAll ts = (linksBelow parent ts).map Prod.snd := by
  rcases ts with _ | ⟨t, ts⟩
  · rfl
  · rw [subtreesAll, subtrees_eq_cons t, subtreesAll_eq_map parent ts, linksBelow, List.map_cons,
      List.map_append, List.cons_append]

end

/-! A parent is a node, and what is linked to it are its children. -/

mutual

theorem of_mem_links {l : SyntaxTree × SyntaxTree} (t : SyntaxTree) (h : l ∈ t.links) :
    l.1 ∈ t.subtrees ∧ l.2 ∈ l.1.children := by
  obtain ⟨kind, span, children⟩ := t
  rw [links] at h
  rw [subtrees]
  rcases of_mem_linksBelow children h with ⟨hparent, hchild⟩ | ⟨hparent, hchild⟩
  · rw [hparent]
    exact ⟨List.mem_cons_self, hchild⟩
  · exact ⟨List.mem_cons_of_mem _ hparent, hchild⟩

theorem of_mem_linksBelow {parent : SyntaxTree} {l : SyntaxTree × SyntaxTree}
    (ts : List SyntaxTree) (h : l ∈ linksBelow parent ts) :
    (l.1 = parent ∧ l.2 ∈ ts) ∨ (l.1 ∈ subtreesAll ts ∧ l.2 ∈ l.1.children) := by
  rcases ts with _ | ⟨t, ts⟩
  · rw [linksBelow] at h
    cases h
  · rw [linksBelow, List.mem_cons, List.mem_append] at h
    rw [subtreesAll]
    rcases h with rfl | h | h
    · exact .inl ⟨rfl, List.mem_cons_self⟩
    · obtain ⟨hparent, hchild⟩ := of_mem_links t h
      exact .inr ⟨List.mem_append_left _ hparent, hchild⟩
    · rcases of_mem_linksBelow ts h with ⟨hparent, hchild⟩ | ⟨hparent, hchild⟩
      · exact .inl ⟨hparent, List.mem_cons_of_mem t hchild⟩
      · exact .inr ⟨List.mem_append_right _ hparent, hchild⟩

end

/-! The links from a single node lead to its children, in order.  The predicate tells the node from the
others; in the list of its links the parent may be the node, and then nothing below it is. -/

mutual

theorem filter_links {p : SyntaxTree → Bool} (t : SyntaxTree)
    (h : (t.subtrees.filter p).length ≤ 1) :
    ((t.links.filter fun l => p l.1).map Prod.snd) = (t.subtrees.filter p).flatMap children := by
  obtain ⟨kind, span, ts⟩ := t
  rw [subtrees, List.filter_cons] at h ⊢
  rw [links]
  by_cases hp : p (.node kind span ts) = true
  · rw [if_pos hp, List.length_cons] at h
    have hbelow := filter_linksBelow (p := p) (.node kind span ts) ts (by rw [if_pos hp]; omega)
    rw [if_pos hp] at hbelow
    rw [if_pos hp, hbelow, List.flatMap_cons]
    rfl
  · rw [if_neg hp] at h
    have hbelow := filter_linksBelow (p := p) (.node kind span ts) ts (by rw [if_neg hp]; omega)
    rw [if_neg hp, List.nil_append] at hbelow
    rw [if_neg hp, hbelow]

theorem filter_linksBelow {p : SyntaxTree → Bool} (parent : SyntaxTree) (ts : List SyntaxTree)
    (h : (if p parent then 1 else 0) + ((subtreesAll ts).filter p).length ≤ 1) :
    (((linksBelow parent ts).filter fun l => p l.1).map Prod.snd) =
      (if p parent then ts else []) ++ ((subtreesAll ts).filter p).flatMap children := by
  rcases ts with _ | ⟨t, ts⟩
  · simp [linksBelow, subtreesAll]
  · rw [subtreesAll, List.filter_append, List.length_append] at h
    have ht := filter_links (p := p) t (by omega)
    have hts := filter_linksBelow (p := p) parent ts (by omega)
    rw [linksBelow, List.filter_cons, List.filter_append, subtreesAll, List.filter_append,
      List.flatMap_append]
    by_cases hp : p parent = true
    · have hnone : t.subtrees.filter p = [] := by
        rw [if_pos hp] at h
        exact List.length_eq_zero_iff.1 (by omega)
      rw [if_pos hp] at hts
      rw [if_pos hp, if_pos hp, List.map_cons, List.map_append, ht, hts, hnone]
      rfl
    · rw [if_neg hp, List.nil_append] at hts
      rw [if_neg hp, if_neg hp, List.map_append, ht, hts, List.nil_append]

end

/-! The graph of a tree is what the ids make of its nodes and links. -/

mutual

theorem nodesIn_eq_map_subtrees (filepath : String) (t : SyntaxTree) :
    t.nodesIn filepath = t.subtrees.map (nodeIn filepath) := by
  obtain ⟨kind, span, children⟩ := t
  rw [nodesIn, subtrees, nodesInAll_eq_map_subtreesAll filepath children]
  rfl

theorem nodesInAll_eq_map_subtreesAll (filepath : String) (ts : List SyntaxTree) :
    nodesInAll filepath ts = (subtreesAll ts).map (nodeIn filepath) := by
  rcases ts with _ | ⟨t, ts⟩
  · rfl
  · rw [nodesInAll, subtreesAll, nodesIn_eq_map_subtrees filepath t,
      nodesInAll_eq_map_subtreesAll filepath ts, List.map_append]

end

/-- The edge from a node to a child of it. -/
def edgeOf (filepath : String) (l : SyntaxTree × SyntaxTree) : Edge :=
  ⟨l.1.idIn filepath, l.2.idIn filepath⟩

mutual

theorem edgesIn_eq_map_links (filepath : String) (t : SyntaxTree) :
    t.edgesIn filepath = t.links.map (edgeOf filepath) := by
  obtain ⟨kind, span, children⟩ := t
  rw [edgesIn, links, ← edgesBelow_eq_map_linksBelow filepath _ children]
  rfl

theorem edgesBelow_eq_map_linksBelow (filepath : String) (parent : SyntaxTree)
    (ts : List SyntaxTree) :
    edgesBelow filepath (parent.idIn filepath) ts =
      (linksBelow parent ts).map (edgeOf filepath) := by
  rcases ts with _ | ⟨t, ts⟩
  · rfl
  · rw [edgesBelow, linksBelow, edgesIn_eq_map_links filepath t,
      edgesBelow_eq_map_linksBelow filepath parent ts, List.map_cons, List.map_append]
    rfl

end

end SyntaxTree

/-! ## Files -/

namespace ParsedFile

theorem mem_nodes {f : ParsedFile} {n : Node} :
    n ∈ f.nodes ↔ ∃ u ∈ f.tree.subtrees, u.nodeIn f.filepath = n := by
  rw [nodes, SyntaxTree.nodesIn_eq_map_subtrees, List.mem_map]

/-- The ids of the nodes of a file whose parent has a given id, in pre-order. -/
def childIds (f : ParsedFile) (id : String) : List String :=
  (f.tree.links.filter fun l => l.1.idIn f.filepath = id).map fun l => l.2.idIn f.filepath

/-- They are where the edges from the id lead to. -/
theorem childIds_eq (f : ParsedFile) (id : String) :
    f.childIds id = (f.edges.filter fun e => e.parent = id).map Edge.child := by
  rw [edges, SyntaxTree.edgesIn_eq_map_links, List.filter_map, List.map_map]
  rfl

/-- There are none unless the id is that of a node. -/
theorem childIds_eq_nil {f : ParsedFile} {id : String} (h : id ∉ f.nodes.map Node.id) :
    f.childIds id = [] := by
  rw [childIds_eq, List.map_eq_nil_iff, List.filter_eq_nil_iff]
  intro e he hparent
  rw [decide_eq_true_eq] at hparent
  exact h (hparent ▸ (SyntaxTree.of_mem_edgesIn f.tree he).1)

/-- Those of an id that only one node has are those of its children, in source order. -/
theorem childIds_of_unique {f : ParsedFile} {id : String} {u : SyntaxTree}
    (h : (f.tree.subtrees.filter fun v => v.idIn f.filepath = id) = [u]) :
    f.childIds id = u.children.map (SyntaxTree.idIn f.filepath) := by
  have hlinks := SyntaxTree.filter_links (p := fun v => v.idIn f.filepath = id) f.tree (by rw [h]; rfl)
  rw [h, List.flatMap_singleton] at hlinks
  rw [childIds, ← hlinks, List.map_map]
  rfl

end ParsedFile

/-- Only one file has anything to say about an id. -/
theorem ToldApart.flatMap_childIds {fs : List ParsedFile} (h : ToldApart fs) {f : ParsedFile}
    (hf : f ∈ fs) {id : String} (hid : id ∈ f.nodes.map Node.id) :
    (fs.flatMap fun g => g.childIds id) = f.childIds id := by
  obtain ⟨n, hn, rfl⟩ := List.mem_map.1 hid
  have hother : ∀ g ∈ fs, g.filepath ≠ f.filepath → g.childIds n.id = [] := by
    intro g hg hne
    refine ParsedFile.childIds_eq_nil fun hid => ?_
    obtain ⟨m, hm, hmid⟩ := List.mem_map.1 hid
    exact hne (h.filepath_eq hg hf hm hn hmid)
  have hpaths := h.paths
  obtain ⟨before, after, rfl⟩ := List.append_of_mem hf
  rw [List.map_append, List.map_cons, List.nodup_middle, List.nodup_cons, List.mem_append,
    not_or] at hpaths
  have hnone (part : List ParsedFile) (hpart : part ⊆ before ++ f :: after)
      (hnotin : f.filepath ∉ part.map ParsedFile.filepath) :
      (part.flatMap fun g => g.childIds n.id) = [] := by
    rw [List.flatMap_eq_nil_iff]
    intro g hg
    refine hother g (hpart hg) ?_
    intro heq
    exact hnotin (heq ▸ List.mem_map_of_mem hg)
  rw [List.flatMap_append, List.flatMap_cons, hnone before (by simp) hpaths.1.1,
    hnone after (by intro g hg; simp [hg]) hpaths.1.2, List.nil_append, List.append_nil]

/-! ## Whole runs -/

namespace Index

variable {parser : Parser} {ws : List Walked} {c c' : Connection} {r : Report} {log : List Message}

/-- **The edges from an id lead to the children of its nodes.**  Take a project whose indexed files
have different paths and whose kinds are plain.  After a run in which no write was refused, the store
gives for every id the ids of the nodes whose parent has the id, in the order in which the tree of the
file is visited, and nothing for an id that no node has.  If only one node has the id, this is the
list of its children. -/
theorem project_edgesFrom (hfiles : ToldApart (parsed parser ws)) (hready : c.stored.isReady)
    (h : project parser ws c = ((.ok r, log), c')) (hr : r.insertErrors = 0) (id : String) :
    ∃ children, c'.view.edgesFrom id = .ok children ∧
      (∀ f ∈ parsed parser ws, id ∈ f.nodes.map Node.id → children = f.childIds id) ∧
      ((∀ f ∈ parsed parser ws, id ∉ f.nodes.map Node.id) → children = []) ∧
      ∀ f ∈ parsed parser ws, ∀ u,
        (f.tree.subtrees.filter fun v => v.idIn f.filepath = id) = [u] →
        children = u.children.map (SyntaxTree.idIn f.filepath) := by
  have hanswer := Database.edgesFrom_fill hready (keepFirst Node.id (graphNodes parser ws))
    (graphEdges parser ws) id
  rw [← view_of_project h hr, graphEdges, List.filter_flatMap, List.map_flatMap] at hanswer
  simp only [← ParsedFile.childIds_eq] at hanswer
  refine ⟨_, hanswer, ?_, ?_, ?_⟩
  · intro f hf hid
    exact hfiles.flatMap_childIds hf hid
  · intro hnone
    rw [List.flatMap_eq_nil_iff]
    intro f hf
    exact ParsedFile.childIds_eq_nil (hnone f hf)
  · intro f hf u hu
    have hmem : u ∈ f.tree.subtrees.filter fun v => v.idIn f.filepath = id := by
      rw [hu]
      exact List.mem_singleton_self u
    obtain ⟨hmem, hid⟩ := List.mem_filter.1 hmem
    have hnode : id ∈ f.nodes.map Node.id :=
      List.mem_map.2 ⟨_, ParsedFile.mem_nodes.2 ⟨u, hmem, rfl⟩, of_decide_eq_true hid⟩
    rw [hfiles.flatMap_childIds hf hnode]
    exact ParsedFile.childIds_of_unique hu

/-- One node of `a.b.c` is a program, and two are member expressions that share an id. -/
theorem project_edgesFrom_staleStore :
    ToldApart (parsed Sample.parser Sample.walk) ∧ staleStore.stored.isReady = true ∧
      ∃ r log c', project Sample.parser Sample.walk staleStore = ((.ok r, log), c') ∧
        r.insertErrors = 0 ∧
        c'.view.edgesFrom "src/b.js@program@0@0" = .ok ["src/b.js@member@0@0"] ∧
        c'.view.edgesFrom "src/b.js@member@0@0" =
          .ok ["src/b.js@member@0@0", "src/b.js@.@0@3"] ∧
        c'.view.edgesFrom "src/old.lua@chunk@0@0" = .ok [] := by
  have hfiles : ToldApart (parsed Sample.parser Sample.walk) := by
    rw [Sample.parsed_walk]
    exact ⟨by decide, by decide⟩
  have hready : staleStore.stored.isReady = true := rfl
  have hr := (written_build Sample.parser Sample.walk staleStore.stored).insertErrors_eq_zero_iff.2
    (takesAll_staleStore _ _)
  obtain ⟨log, hrun⟩ := project_of_clearable (c := staleStore)
    (Connection.Writable.clearable ⟨rfl, rfl, rfl⟩) Sample.parser Sample.walk
  have hfile : ⟨"src/b.js", Sample.parser.parse .javascript "a.b.c"⟩ ∈
      parsed Sample.parser Sample.walk := List.mem_cons_self
  have hanswer := project_edgesFrom hfiles hready hrun hr
  obtain ⟨children, hchildren, -, -, hunique⟩ := hanswer "src/b.js@program@0@0"
  obtain ⟨shared, hshared, hof, -, -⟩ := hanswer "src/b.js@member@0@0"
  obtain ⟨stale, hstale, -, hnone, -⟩ := hanswer "src/old.lua@chunk@0@0"
  refine ⟨hfiles, hready, _, log, _, hrun, hr, ?_, ?_, ?_⟩
  · rw [hchildren, hunique _ hfile _ rfl]
    decide
  · rw [hshared, hof _ hfile (by decide)]
    decide
  · rw [hstale, hnone (by rw [Sample.parsed_walk]; decide)]

end Index
end SyntaxGraph
