import Mathlib.Data.Prod.Lex
import SyntaxGraph.Proofs.Children
import SyntaxGraph.Proofs.Rooted

/-!
# The graph goes forward in the source

The edges of a tree form no cycle, but the edges of the graph do: nodes that share an id become one,
and a member expression inside a member expression leads to itself.  Such cycles stay in one place.
An id says where its nodes start, so nodes that become one start at one place of one file; a child
never starts before its parent; hence along the edges of the graph one never goes back in the source,
and who returns to an id has not moved.

That the store keeps positions as signed words does no harm as long as they are small.

## What is here

* `Point.place`, `Node.place` — where something starts, in the order of the source;
  `Node.place_ofSyntax` says that a node starts where its syntax node does.
* `SyntaxTree.InSourceOrder` — what parsers promise of their trees.
* `Precedes` — that an id starts in the same file as another and not after it.
* `FollowsSource` — graphs that go forward in the source, and what follows for their cycles;
  `HasPlainKinds.followsSource` for what is kept of files, and `project_followsSource` for what a run
  leaves in the store.
-/

set_option autoImplicit false
namespace SyntaxGraph

/-! ## Places -/

/-- A point as a place in the order of the source: by row, then by column. -/
def Point.place (p : Point) : ℕ ×ₗ ℕ :=
  toLex (p.row.toNat, p.col.toNat)

/-- Where a node starts, as the store has it. -/
def Node.place (n : Node) : ℤ ×ₗ ℤ :=
  toLex (n.startRow.toInt, n.startCol.toInt)

/-- Whether row and column have 32 bits. -/
def Point.IsNarrow (p : Point) : Prop :=
  p.row.toNat < 2 ^ 32 ∧ p.col.toNat < 2 ^ 32

instance (p : Point) : Decidable p.IsNarrow :=
  inferInstanceAs (Decidable (_ ∧ _))

/-- A word keeps its value when it is taken for a signed one, unless it is too large. -/
theorem toInt_toInt64 {x : UInt64} (h : x.toNat < 2 ^ 63) : x.toInt64.toInt = x.toNat := by
  have hsmall : 2 * x.toBitVec.toNat < 2 ^ 64 := by
    show 2 * x.toNat < 2 ^ 64
    omega
  exact BitVec.toInt_eq_toNat_of_lt hsmall

/-- A node starts where its syntax node does. -/
theorem Node.place_ofSyntax {span : Span} (h : span.start.IsNarrow) (filepath kind : String) :
    (Node.ofSyntax filepath kind span).place =
      toLex ((span.start.row.toNat : ℤ), (span.start.col.toNat : ℤ)) := by
  obtain ⟨hrow, hcol⟩ := h
  have hrow : span.start.row.toInt64.toInt = span.start.row.toNat := toInt_toInt64 (by omega)
  have hcol : span.start.col.toInt64.toInt = span.start.col.toNat := toInt_toInt64 (by omega)
  rw [← hrow, ← hcol]
  rfl

/-- Nodes stand in the order of their syntax nodes. -/
theorem Node.place_le_of_start_le {span span' : Span} (h : span.start.IsNarrow)
    (h' : span'.start.IsNarrow) (hle : span.start.place ≤ span'.start.place)
    (filepath kind kind' : String) :
    (Node.ofSyntax filepath kind span).place ≤ (Node.ofSyntax filepath kind' span').place := by
  rw [Node.place_ofSyntax h, Node.place_ofSyntax h', Prod.Lex.toLex_le_toLex]
  rw [Point.place, Point.place, Prod.Lex.toLex_le_toLex] at hle
  simp only at hle ⊢
  omega

/-- What parsers promise of a tree: positions are small, and no node starts before its parent. -/
structure SyntaxTree.InSourceOrder (t : SyntaxTree) : Prop where
  narrow : ∀ u ∈ t.subtrees, u.span.start.IsNarrow
  forward : ∀ u ∈ t.subtrees, ∀ v ∈ u.children, u.span.start.place ≤ v.span.start.place

/-! ## Graphs that go forward -/

/-- Whether the one id starts in the same file as the other, and not after it. -/
def Precedes (ns : List Node) (id id' : String) : Prop :=
  ∃ m ∈ ns, ∃ n ∈ ns, m.id = id ∧ n.id = id' ∧ m.filepath = n.filepath ∧ m.place ≤ n.place

/-- Whether an edge leads from the one id to the other that starts after it. -/
def Advances (ns : List Node) (es : List Edge) (id id' : String) : Prop :=
  Joins es id id' ∧ ∃ m ∈ ns, ∃ n ∈ ns, m.id = id ∧ n.id = id' ∧ m.place < n.place

/-- A graph that goes forward in the source. -/
structure FollowsSource (ns : List Node) (es : List Edge) : Prop where
  /-- An id stands for one node. -/
  ids : (ns.map Node.id).Nodup
  /-- Both ends of an edge are there, in one file, and the child starts not before the parent. -/
  forward : ∀ e ∈ es, Precedes ns e.parent e.child
  /-- Ids on one cycle start at one place of one file. -/
  cycles : ∀ id id', Relation.TransGen (Joins es) id id' → Relation.TransGen (Joins es) id' id →
    ∃ m ∈ ns, ∃ n ∈ ns, m.id = id ∧ n.id = id' ∧ m.filepath = n.filepath ∧ m.place = n.place
  /-- Edges that advance form no cycle. -/
  acyclic : ∀ id, ¬ Relation.TransGen (Advances ns es) id id

section Forward

variable {ns : List Node} {es : List Edge}

theorem Precedes.trans (hids : (ns.map Node.id).Nodup) {a b c : String} (h : Precedes ns a b)
    (h' : Precedes ns b c) : Precedes ns a c := by
  obtain ⟨m, hm, n, hn, hma, hnb, hpath, hle⟩ := h
  obtain ⟨n', hn', k, hk, hnb', hkc, hpath', hle'⟩ := h'
  obtain rfl := List.inj_on_of_nodup_map hids hn hn' (hnb.trans hnb'.symm)
  exact ⟨m, hm, k, hk, hma, hkc, hpath.trans hpath', hle.trans hle'⟩

/-- Along edges that go forward one goes forward. -/
theorem precedes_of_transGen (hids : (ns.map Node.id).Nodup)
    (h : ∀ e ∈ es, Precedes ns e.parent e.child) {a b : String}
    (hab : Relation.TransGen (Joins es) a b) : Precedes ns a b := by
  induction hab with
  | single hedge => exact h _ hedge
  | tail _ hedge ih => exact ih.trans hids (h _ hedge)

/-- Along edges that advance one advances. -/
theorem place_lt_of_transGen (hids : (ns.map Node.id).Nodup) {a b : String}
    (hab : Relation.TransGen (Advances ns es) a b) :
    ∃ m ∈ ns, ∃ n ∈ ns, m.id = a ∧ n.id = b ∧ m.place < n.place := by
  induction hab with
  | single hstep => exact hstep.2
  | tail _ hstep ih =>
    obtain ⟨m, hm, n, hn, hma, hnb, hlt⟩ := ih
    obtain ⟨-, n', hn', k, hk, hnb', hkc, hlt'⟩ := hstep
    obtain rfl := List.inj_on_of_nodup_map hids hn hn' (hnb.trans hnb'.symm)
    exact ⟨m, hm, k, hk, hma, hkc, hlt.trans hlt'⟩

/-- **Where edges go forward, cycles stay in one place.** -/
theorem followsSource_of_forward (hids : (ns.map Node.id).Nodup)
    (h : ∀ e ∈ es, Precedes ns e.parent e.child) : FollowsSource ns es where
  ids := hids
  forward := h
  cycles := by
    intro id id' hto hback
    obtain ⟨m, hm, n, hn, hmid, hnid, hpath, hle⟩ := precedes_of_transGen hids h hto
    obtain ⟨n', hn', m', hm', hnid', hmid', -, hge⟩ := precedes_of_transGen hids h hback
    obtain rfl := List.inj_on_of_nodup_map hids hm hm' (hmid.trans hmid'.symm)
    obtain rfl := List.inj_on_of_nodup_map hids hn hn' (hnid.trans hnid'.symm)
    exact ⟨m, hm, n, hn, hmid, hnid, hpath, le_antisymm hle hge⟩
  acyclic := by
    intro id hcycle
    obtain ⟨m, hm, n, hn, hmid, hnid, hlt⟩ := place_lt_of_transGen hids hcycle
    obtain rfl := List.inj_on_of_nodup_map hids hm hn (hmid.trans hnid.symm)
    exact lt_irrefl _ hlt

end Forward

/-! ## Files -/

namespace HasPlainKinds

variable {fs : List ParsedFile}

/-- An id tells where its nodes start. -/
theorem start_eq (h : HasPlainKinds fs) {f g : ParsedFile} (hf : f ∈ fs) (hg : g ∈ fs)
    {u v : SyntaxTree} (hu : u ∈ f.tree.subtrees) (hv : v ∈ g.tree.subtrees)
    (hid : u.idIn f.filepath = v.idIn g.filepath) :
    f.filepath = g.filepath ∧ u.span.start = v.span.start := by
  have hplain : ∀ k ∈ fs, ∀ w ∈ k.tree.subtrees, IsPlainKind w.kind := by
    intro k hk w hw
    exact h k hk (w.nodeIn k.filepath) (ParsedFile.mem_nodes.2 ⟨w, hw, rfl⟩)
  obtain ⟨hpath, -, hstart⟩ := nodeId_injective (hplain f hf u hu) (hplain g hg v hv) hid
  exact ⟨hpath, hstart⟩

/-- A node of a file is kept under its id, or another one that starts where it does. -/
theorem exists_kept_place (h : HasPlainKinds fs) {f : ParsedFile} (hf : f ∈ fs) {u : SyntaxTree}
    (hu : u ∈ f.tree.subtrees) :
    ∃ m ∈ keepFirst Node.id (fs.flatMap ParsedFile.nodes),
      m.id = u.idIn f.filepath ∧ m.filepath = f.filepath ∧
        m.place = (u.nodeIn f.filepath).place := by
  have hmem : u.nodeIn f.filepath ∈ f.nodes := ParsedFile.mem_nodes.2 ⟨u, hu, rfl⟩
  obtain ⟨m, hm, hmid, hmpath⟩ := h.exists_kept hf (List.mem_map_of_mem hmem)
  -- the kept node is that of a syntax node with the same id, hence with the same start
  obtain ⟨g, hg, hmg⟩ := List.mem_flatMap.1 (mem_of_mem_keepFirst Node.id hm)
  obtain ⟨v, hv, rfl⟩ := ParsedFile.mem_nodes.1 hmg
  obtain ⟨-, hstart⟩ := h.start_eq hg hf hv hu hmid
  refine ⟨_, hm, hmid, hmpath, ?_⟩
  show toLex (v.span.start.row.toInt64.toInt, v.span.start.col.toInt64.toInt) = _
  rw [hstart]
  rfl

/-- **What is kept of files goes forward in the source**, if their trees do. -/
theorem followsSource (h : HasPlainKinds fs) (hsource : ∀ f ∈ fs, f.tree.InSourceOrder) :
    FollowsSource (keepFirst Node.id (fs.flatMap ParsedFile.nodes))
      (fs.flatMap ParsedFile.edges) := by
  refine followsSource_of_forward (nodup_keepFirst Node.id _) ?_
  intro e he
  obtain ⟨f, hf, he⟩ := List.mem_flatMap.1 he
  rw [ParsedFile.edges, SyntaxTree.edgesIn_eq_map_links] at he
  obtain ⟨⟨u, v⟩, hl, rfl⟩ := List.mem_map.1 he
  obtain ⟨hu, hchild⟩ := SyntaxTree.of_mem_links f.tree hl
  have hv : v ∈ f.tree.subtrees := by
    rw [SyntaxTree.subtrees_eq_cons]
    exact List.mem_cons_of_mem _ (List.mem_map_of_mem hl)
  obtain ⟨m, hm, hmid, hmpath, hmplace⟩ := h.exists_kept_place hf hu
  obtain ⟨n, hn, hnid, hnpath, hnplace⟩ := h.exists_kept_place hf hv
  have hle := (hsource f hf).forward u hu v hchild
  refine ⟨m, hm, n, hn, hmid, hnid, hmpath.trans hnpath.symm, ?_⟩
  rw [hmplace, hnplace]
  exact Node.place_le_of_start_le ((hsource f hf).narrow u hu) ((hsource f hf).narrow v hv) hle _ _ _

end HasPlainKinds

/-! ## Whole runs -/

namespace Index

variable {parser : Parser} {ws : List Walked} {c c' : Connection} {r : Report} {log : List Message}

/-- **The indexed graph goes forward in the source.**  Let kinds be plain, positions small, and no node
start before its parent.  After a run in which no write was refused, along every stored edge the child
starts not before the parent; all ids on a cycle of stored edges start at one place of one file; and
the edges that advance form no cycle. -/
theorem project_followsSource (hkinds : HasPlainKinds (parsed parser ws))
    (hsource : ∀ f ∈ parsed parser ws, f.tree.InSourceOrder)
    (h : project parser ws c = ((.ok r, log), c')) (hr : r.insertErrors = 0) :
    ∃ ns es, c'.view.HoldsRows ns es ∧
      (c'.view.isReady → c'.view.allNodes .natural = .ok ns ∧ c'.view.allEdges = .ok es) ∧
      FollowsSource ns es := by
  rw [view_of_project h hr]
  refine ⟨_, _, Database.holdsRows_fill (clearable_of_project h).tables _ _, ?_,
    hkinds.followsSource hsource⟩
  intro hready
  rw [Database.isReady_fill] at hready
  exact ⟨Database.allNodes_fill hready _ _ .natural, Database.allEdges_fill hready _ _⟩

/-- The two member expressions of `a.b.c` share an id, and it leads to itself. -/
theorem project_followsSource_staleStore :
    HasPlainKinds (parsed Sample.parser Sample.walk) ∧
      (∀ f ∈ parsed Sample.parser Sample.walk, f.tree.InSourceOrder) ∧
      ∃ r log c', project Sample.parser Sample.walk staleStore = ((.ok r, log), c') ∧
        r.insertErrors = 0 ∧
        ∃ ns es, c'.view.allNodes .natural = .ok ns ∧ c'.view.allEdges = .ok es ∧
          Joins es "src/b.js@member@0@0" "src/b.js@member@0@0" ∧ FollowsSource ns es := by
  have hkinds : HasPlainKinds (parsed Sample.parser Sample.walk) := by
    rw [Sample.parsed_walk, HasPlainKinds]
    decide
  have hnarrow : ∀ f ∈ parsed Sample.parser Sample.walk, ∀ u ∈ f.tree.subtrees,
      u.span.start.IsNarrow := by
    rw [Sample.parsed_walk]
    decide
  have hforward : ∀ f ∈ parsed Sample.parser Sample.walk, ∀ u ∈ f.tree.subtrees,
      ∀ v ∈ u.children, u.span.start.place ≤ v.span.start.place := by
    rw [Sample.parsed_walk]
    decide
  have hsource : ∀ f ∈ parsed Sample.parser Sample.walk, f.tree.InSourceOrder :=
    fun f hf => ⟨hnarrow f hf, hforward f hf⟩
  have hr := (written_build Sample.parser Sample.walk staleStore.stored).insertErrors_eq_zero_iff.2
    (takesAll_staleStore _ _)
  obtain ⟨log, hrun⟩ := project_of_clearable (c := staleStore)
    (Connection.Writable.clearable ⟨rfl, rfl, rfl⟩) Sample.parser Sample.walk
  obtain ⟨ns, es, -, hread, hfollows⟩ := project_followsSource hkinds hsource hrun hr
  obtain ⟨hnodes, hedges⟩ := hread (by rw [view_of_project hrun hr]; rfl)
  refine ⟨hkinds, hsource, _, log, _, hrun, hr, ns, es, hnodes, hedges, ?_, hfollows⟩
  -- the edges read are those of the trees
  rw [view_of_project hrun hr, Database.allEdges_fill rfl, Except.ok.injEq] at hedges
  rw [← hedges, graphEdges, Sample.parsed_walk, Joins]
  decide

end Index
end SyntaxGraph
