import SyntaxGraph.Proofs.NodeId
import SyntaxGraph.Proofs.Rebuild

/-!
# The order of the walk does not matter

A directory may be read in any order, and the graph is written in that order.  A sorted export does
not show it.  Ids tell files apart, so the files never compete for an id and each of them keeps the
same nodes wherever it stands in the walk; nodes that tie in the order of the export stand in one
file; and the edges from one node are edges of one file.  So in each of these cases a list that is
made file by file has at most one file that adds anything to it, and the order of the files is not
seen (`flatMap_eq_of_perm`).

The main result is `project_eq_of_walk_perm`, about two runs on two stores that refuse the same rows.
-/

set_option autoImplicit false
namespace SyntaxGraph

/-- Where at most one element adds anything, the order of the elements does not matter. -/
theorem flatMap_eq_of_perm {α β : Type} {g : α → List β} {l m : List α} (h : l.Perm m)
    (hl : l.Pairwise fun x y => g x = [] ∨ g y = []) : l.flatMap g = m.flatMap g := by
  induction h with
  | nil => rfl
  | cons x h ih => rw [List.flatMap_cons, List.flatMap_cons, ih (List.pairwise_cons.1 hl).2]
  | swap x y l =>
    rw [List.flatMap_cons, List.flatMap_cons, List.flatMap_cons, List.flatMap_cons]
    rcases (List.pairwise_cons.1 hl).1 x List.mem_cons_self with hg | hg
    · rw [hg, List.nil_append, List.nil_append]
    · rw [hg, List.nil_append, List.nil_append]
  | trans h₁ h₂ ih₁ ih₂ => exact (ih₁ hl).trans (ih₂ (h₁.pairwise hl Or.symm))

/-! ## Files with different paths -/

/-- Files that can be told apart: no two have one path, and all kinds are plain. -/
structure ToldApart (fs : List ParsedFile) : Prop where
  paths : (fs.map ParsedFile.filepath).Nodup
  kinds : ∀ f ∈ fs, ∀ n ∈ f.nodes, IsPlainKind n.kind

namespace ToldApart

variable {fs fs' : List ParsedFile}

theorem perm (h : ToldApart fs) (hp : fs.Perm fs') : ToldApart fs' :=
  ⟨(hp.map _).nodup_iff.1 h.paths, fun f hf => h.kinds f (hp.mem_iff.2 hf)⟩

/-- Nodes with one id stand in files with one path. -/
theorem filepath_eq (h : ToldApart fs) {f g : ParsedFile} (hf : f ∈ fs) (hg : g ∈ fs) {m n : Node}
    (hm : m ∈ f.nodes) (hn : n ∈ g.nodes) (hid : m.id = n.id) : f.filepath = g.filepath :=
  HasPlainKinds.filepath_eq h.kinds hf hg hm hn hid

/-- Of two files, one adds nothing to a list to which only files with one path add. -/
theorem pairwise_nil {β : Type} (h : ToldApart fs) {g : ParsedFile → List β}
    (hg : ∀ f ∈ fs, ∀ f' ∈ fs, g f ≠ [] → g f' ≠ [] → f.filepath = f'.filepath) :
    fs.Pairwise fun f f' => g f = [] ∨ g f' = [] := by
  refine (List.pairwise_map.1 h.paths).imp_of_mem fun {f f'} hf hf' hne => ?_
  by_contra hboth
  rw [not_or] at hboth
  exact hne (hg f hf f' hf' hboth.1 hboth.2)

/-- Each file keeps its own nodes. -/
theorem keepFirst_nodes (h : ToldApart fs) (p : Node → Bool) :
    keepFirst Node.id ((fs.flatMap ParsedFile.nodes).filter p) =
      fs.flatMap fun f => keepFirst Node.id (f.nodes.filter p) := by
  rw [List.filter_flatMap]
  refine keepFirst_flatMap Node.id ?_
  refine (List.pairwise_map.1 h.paths).imp_of_mem fun {f g} hf hg hne a ha b hb hid => ?_
  exact hne (h.filepath_eq hf hg (List.mem_filter.1 ha).1 (List.mem_filter.1 hb).1 hid.symm)

/-- **The kept nodes in the order of an export**: the order of the files is not seen. -/
theorem ordered_keepFirst_eq (h : ToldApart fs) (hp : fs.Perm fs') (p : Node → Bool) :
    Node.ordered .sorted (keepFirst Node.id ((fs.flatMap ParsedFile.nodes).filter p)) =
      Node.ordered .sorted (keepFirst Node.id ((fs'.flatMap ParsedFile.nodes).filter p)) := by
  refine Node.ordered_sorted_eq fun a => ?_
  rw [h.keepFirst_nodes, (h.perm hp).keepFirst_nodes, ties, ties, List.filter_flatMap,
    List.filter_flatMap]
  -- only the file of `a` has nodes that tie with it
  have hpath {f : ParsedFile} (hf : (keepFirst Node.id (f.nodes.filter p)).filter
      (fun b => a.compare b == .eq) ≠ []) : f.filepath = a.filepath := by
    obtain ⟨n, hn⟩ := List.exists_mem_of_ne_nil _ hf
    obtain ⟨hn, htie⟩ := List.mem_filter.1 hn
    have hn := (List.mem_filter.1 (mem_of_mem_keepFirst Node.id hn)).1
    rw [← (SyntaxTree.of_mem_nodesIn f.tree hn).1]
    exact (Node.filepath_eq_of_compare_eq (by simpa using htie)).symm
  exact flatMap_eq_of_perm hp (h.pairwise_nil fun f _ f' _ hf hf' => (hpath hf).trans (hpath hf').symm)

/-- **The edges from a node**: the order of the files is not seen. -/
theorem edgesFrom_eq (h : ToldApart fs) (hp : fs.Perm fs') (p : Edge → Bool) (parent : String) :
    (((fs.flatMap ParsedFile.edges).filter p).filter fun e => e.parent = parent) =
      ((fs'.flatMap ParsedFile.edges).filter p).filter fun e => e.parent = parent := by
  rw [List.filter_filter, List.filter_filter, List.filter_flatMap, List.filter_flatMap]
  have hnode {f : ParsedFile} (hf : f.edges.filter
      (fun e => decide (e.parent = parent) && p e) ≠ []) : ∃ n ∈ f.nodes, n.id = parent := by
    obtain ⟨e, he⟩ := List.exists_mem_of_ne_nil _ hf
    obtain ⟨he, hpar⟩ := List.mem_filter.1 he
    rw [Bool.and_eq_true, decide_eq_true_eq] at hpar
    rw [← hpar.1]
    exact List.mem_map.1 (SyntaxTree.of_mem_edgesIn f.tree he).1
  refine flatMap_eq_of_perm hp (h.pairwise_nil fun f hf f' hf' hne hne' => ?_)
  obtain ⟨m, hm, hmid⟩ := hnode hne
  obtain ⟨n, hn, hnid⟩ := hnode hne'
  exact h.filepath_eq hf hf' hm hn (hmid.trans hnid.symm)

end ToldApart

/-! ## Two runs -/

/-- Stores that refuse the same rows, for instance because neither refuses any. -/
structure Database.RefusesAs (db db' : Database) : Prop where
  nodes : db.takesNode = db'.takesNode
  edges : db.takesEdge = db'.takesEdge

/-- The counters that are about writes: nodes visited, inserted and ignored, edges, refusals. -/
def Report.writes (r : Report) : Nat × Nat × Nat × Nat × Nat :=
  (r.nodesVisited, r.nodesInserted, r.nodesIgnored, r.edgesInserted, r.insertErrors)

theorem Report.eq_of_files_writes {r r' : Report} (hf : r.files = r'.files)
    (hw : r.writes = r'.writes) : r = r' := by
  cases r
  cases r'
  simp only [files, writes, Prod.mk.injEq] at hf hw
  simp only [mk.injEq]
  omega

/-- The counters of writes do not depend on the order of what was written. -/
theorem Written.writes_eq {db db' : Database} {ns ns' : List Node} {es es' : List Edge}
    {s s' : Progress Database} (h : Written db ns es s) (h' : Written db' ns' es' s')
    (hsame : db.RefusesAs db') (hn : ns.Perm ns') (he : es.Perm es') :
    s.report.writes = s'.report.writes := by
  have hvisited := hn.length_eq
  have hinserted : (keepFirst Node.id (ns.filter db'.takesNode)).length =
      (keepFirst Node.id (ns'.filter db'.takesNode)).length := by
    rw [length_keepFirst, length_keepFirst, List.toFinset_eq_of_perm _ _ ((hn.filter _).map _)]
  have hignored := (hn.filter db'.takesNode).length_eq
  have hedges := (he.filter db'.takesEdge).length_eq
  have hrefused := (hn.filter fun n => !db'.takesNode n).length_eq
  have hrefused' := (he.filter fun e => !db'.takesEdge e).length_eq
  obtain ⟨-, hv, hi, hg, hed, hr⟩ := h
  obtain ⟨-, hv', hi', hg', hed', hr'⟩ := h'
  rw [hsame.nodes] at hi hg hr
  rw [hsame.edges] at hed hr
  simp only [Report.writes, Prod.mk.injEq]
  omega

namespace Index

variable {parser : Parser} {ws ws' : List Walked}

theorem graphNodes_perm (h : ws.Perm ws') : (graphNodes parser ws).Perm (graphNodes parser ws') :=
  (h.filterMap _).flatMap_right _

theorem graphEdges_perm (h : ws.Perm ws') : (graphEdges parser ws).Perm (graphEdges parser ws') :=
  (h.filterMap _).flatMap_right _

/-- The counters of a run do not depend on the order of the walk. -/
theorem report_build_eq {db db' : Database} (hsame : db.RefusesAs db') (h : ws.Perm ws') :
    (build parser ws (db.fill [] [])).report = (build parser ws' (db'.fill [] [])).report := by
  refine Report.eq_of_files_writes ?_ ((written_build parser ws db).writes_eq
    (written_build parser ws' db') hsame (graphNodes_perm h) (graphEdges_perm h))
  rw [build, build, files_entries, files_entries, (h.map Walked.files).sum_eq]

/-- **The order of the walk does not matter.**  Take a project whose indexed files have different
paths and whose kinds are plain, walk it in two orders, and index it in two stores that can be written
to and refuse the same rows.  Both runs succeed with one report; sorted exports, and the edges from
any node, are the same in the two stores; and all edges are the same up to their order. -/
theorem project_eq_of_walk_perm {c c' : Connection} (hperm : ws.Perm ws')
    (hfiles : ToldApart (parsed parser ws)) (hc : c.Writable) (hc' : c'.Writable)
    (hsame : c.stored.RefusesAs c'.stored) :
    ∃ r log log' done done',
      project parser ws c = ((.ok r, log), done) ∧
      project parser ws' c' = ((.ok r, log'), done') ∧
      (∃ ns, done.view.allNodes .sorted = .ok ns ∧ done'.view.allNodes .sorted = .ok ns) ∧
      (∀ format, ∃ text, done.view.exportContext .sorted format = .ok text ∧
        done'.view.exportContext .sorted format = .ok text) ∧
      (∃ es es', done.view.allEdges = .ok es ∧ done'.view.allEdges = .ok es' ∧ es.Perm es') ∧
      ∀ parent, ∃ children, done.view.edgesFrom parent = .ok children ∧
        done'.view.edgesFrom parent = .ok children := by
  obtain ⟨log, h⟩ := project_of_writable hc parser ws
  obtain ⟨log', h'⟩ := project_of_writable hc' parser ws'
  rw [← report_build_eq hsame hperm] at h'
  refine ⟨_, log, log', _, _, h, h', ?_⟩
  -- what each store holds, and that the two hold the same in the order of an export
  have hfs : (parsed parser ws).Perm (parsed parser ws') := hperm.filterMap _
  have hview := (written_build parser ws c.stored).store
  have hview' := (written_build parser ws' c'.stored).store
  rw [← hsame.nodes, ← hsame.edges] at hview'
  have hordered := hfiles.ordered_keepFirst_eq hfs c.stored.takesNode
  simp only [Connection.view, hc.idle, hc'.idle, Option.getD_none, hview, hview']
  refine ⟨⟨_, Database.allNodes_fill hc.ready _ _ _, ?_⟩,
    fun format => ⟨_, Database.exportContext_fill hc.ready _ _ _ _, ?_⟩,
    ⟨_, _, Database.allEdges_fill hc.ready _ _, Database.allEdges_fill hc'.ready _ _,
      (graphEdges_perm hperm).filter _⟩,
    fun parent => ⟨_, Database.edgesFrom_fill hc.ready _ _ _, ?_⟩⟩
  · rw [Database.allNodes_fill hc'.ready, graphNodes, graphNodes, hordered]
  · rw [Database.exportContext_fill hc'.ready, graphNodes, graphNodes, hordered]
  · rw [Database.edgesFrom_fill hc'.ready, graphEdges, graphEdges, hfiles.edgesFrom_eq hfs]

/-- A store with nothing in it. -/
def newStore : Connection :=
  .ofDatabase none Database.fresh

theorem project_eq_of_walk_reverse :
    Sample.walk.Perm Sample.walk.reverse ∧ ToldApart (parsed Sample.parser Sample.walk) ∧
      staleStore.Writable ∧ newStore.Writable ∧ staleStore.stored.RefusesAs newStore.stored ∧
      ∃ r log log' done done',
        project Sample.parser Sample.walk staleStore = ((.ok r, log), done) ∧
        project Sample.parser Sample.walk.reverse newStore = ((.ok r, log'), done') ∧
        (∃ ns, done.view.allNodes .sorted = .ok ns ∧ done'.view.allNodes .sorted = .ok ns) ∧
        (∀ format, ∃ text, done.view.exportContext .sorted format = .ok text ∧
          done'.view.exportContext .sorted format = .ok text) ∧
        (∃ es es', done.view.allEdges = .ok es ∧ done'.view.allEdges = .ok es' ∧ es.Perm es') ∧
        ∀ parent, ∃ children, done.view.edgesFrom parent = .ok children ∧
          done'.view.edgesFrom parent = .ok children := by
  have hparsed : parsed Sample.parser Sample.walk =
      [⟨"src/b.js", Sample.parser.parse .javascript "a.b.c"⟩,
        ⟨"src/a.ts", Sample.parser.parse .typescript "a.b.c"⟩] := rfl
  have hperm := (List.reverse_perm Sample.walk).symm
  have hfiles : ToldApart (parsed Sample.parser Sample.walk) := by
    rw [hparsed]
    exact ⟨by decide, by decide⟩
  have hstale : staleStore.Writable := ⟨rfl, rfl, rfl⟩
  have hnew : newStore.Writable := ⟨rfl, rfl, rfl⟩
  have hsame : staleStore.stored.RefusesAs newStore.stored := ⟨funext fun _ => rfl, funext fun _ => rfl⟩
  exact ⟨hperm, hfiles, hstale, hnew, hsame,
    project_eq_of_walk_perm hperm hfiles hstale hnew hsame⟩

end Index
end SyntaxGraph
