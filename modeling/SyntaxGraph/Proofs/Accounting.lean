import SyntaxGraph.Proofs.Rebuild

/-!
# The report of a run adds up

A run has nine counters, which are kept on different branches: those of files where an entry of the
walk is dealt with, those of nodes and edges where a tree is visited.  At the end they add up, and
they agree with what the store says of itself.

The counters of writes are tied to the graph of the project by `Written`, which is kept through the
visit of a tree and through the walk; how many nodes and edges that graph has is a matter of the
trees alone (`length_graphNodes`, `length_graphEdges`).  The counters of files are sums over the walk
(`Index.files_entries`), and so is what they are compared with (`tallied_sum`).

The main result is `project_accountsFor`.
-/

set_option autoImplicit false
namespace SyntaxGraph

/-! ## Counting files -/

/-- Whether the walk reports a regular file, or a link to one. -/
def Walked.isFile : Walked → Bool
  | .file _ _ => true
  | .unopened _ _ => true
  | _ => false

/-- An entry is seen if it is a file, and indexed if it has a tree; a file that is not indexed is skipped
or fails. -/
theorem Walked.files_eq (parser : Parser) (w : Walked) :
    w.files.1 = (if w.isFile then 1 else 0) ∧ w.files.2.1 = (w.parsed? parser).toList.length ∧
      w.files.1 = w.files.2.1 + w.files.2.2.1 + w.files.2.2.2 := by
  cases w with
  | unreadable path error => exact ⟨rfl, rfl, rfl⟩
  | other path => exact ⟨rfl, rfl, rfl⟩
  | file path content =>
    simp only [files, parsed?]
    cases Language.ofPath? path with
    | none => exact ⟨rfl, rfl, rfl⟩
    | some language => cases Utf8.text? content <;> exact ⟨rfl, rfl, rfl⟩
  | unopened path error =>
    simp only [files, parsed?]
    cases Language.ofPath? path <;> exact ⟨rfl, rfl, rfl⟩

/-- How the counters of files (seen, indexed, skipped, failed) are to stand after a walk: every file
is seen, the indexed ones are those with a tree, and each is counted as one of the three. -/
structure Tallied (parser : Parser) (ws : List Walked) (files : Nat × Nat × Nat × Nat) : Prop where
  seen : files.1 = ws.countP Walked.isFile
  indexed : files.2.1 = (Index.parsed parser ws).length
  split : files.1 = files.2.1 + files.2.2.1 + files.2.2.2

/-- One more entry. -/
theorem Tallied.cons {parser : Parser} {ws : List Walked} {files : Nat × Nat × Nat × Nat}
    (h : Tallied parser ws files) (w : Walked) : Tallied parser (w :: ws) (w.files + files) := by
  obtain ⟨hseen, hindexed, hsplit⟩ := h
  have hparsed : (Index.parsed parser (w :: ws)).length =
      (w.parsed? parser).toList.length + files.2.1 := by
    rw [Index.parsed_cons, List.length_append, hindexed]
  have hcount : (w :: ws).countP Walked.isFile = files.1 + if w.isFile then 1 else 0 := by
    rw [List.countP_cons, hseen]
  obtain ⟨hfile, htree, hone⟩ := w.files_eq parser
  refine ⟨?_, ?_, ?_⟩
  · rw [hcount, Prod.fst_add]
    omega
  · rw [hparsed, Prod.snd_add, Prod.fst_add]
    omega
  · simp only [Prod.fst_add, Prod.snd_add]
    omega

/-- A whole walk. -/
theorem tallied_sum (parser : Parser) (ws : List Walked) :
    Tallied parser ws (ws.map Walked.files).sum := by
  induction ws with
  | nil => exact ⟨rfl, rfl, rfl⟩
  | cons w ws ih => exact ih.cons w

/-! ## Counting nodes and edges -/

namespace Index

/-- A project has as many nodes as its trees together. -/
theorem length_graphNodes (parser : Parser) (ws : List Walked) :
    (graphNodes parser ws).length = ((parsed parser ws).map fun f => f.tree.size).sum := by
  rw [graphNodes, List.length_flatMap]
  simp only [ParsedFile.nodes, SyntaxTree.length_nodesIn]

/-- A project has an edge for every node that is not the root of a file. -/
theorem length_graphEdges (parser : Parser) (ws : List Walked) :
    (graphEdges parser ws).length + (parsed parser ws).length = (graphNodes parser ws).length := by
  rw [length_graphNodes, graphEdges]
  induction parsed parser ws with
  | nil => rfl
  | cons f fs ih =>
    have hf : f.edges.length + 1 = f.tree.size := SyntaxTree.length_edgesIn f.filepath f.tree
    rw [List.flatMap_cons, List.length_append, List.length_cons, List.map_cons, List.sum_cons]
    omega

end Index

/-- How the report of a run is to stand after a walk, if no write was refused. -/
structure Report.AccountsFor (parser : Parser) (ws : List Walked) (r : Report) : Prop where
  seen : r.filesSeen = ws.countP Walked.isFile
  indexed : r.filesIndexed = (Index.parsed parser ws).length
  files : r.filesSeen = r.filesIndexed + r.filesSkipped + r.filesFailed
  /-- All nodes of the trees are visited. -/
  visited : r.nodesVisited = ((Index.parsed parser ws).map fun f => f.tree.size).sum
  /-- As many are inserted as there are ids among them. -/
  inserted : r.nodesInserted = ((Index.graphNodes parser ws).map Node.id).toFinset.card
  nodes : r.nodesVisited = r.nodesInserted + r.nodesIgnored
  /-- Every node has an edge that leads to it, but for the roots of the files. -/
  edges : r.edgesInserted + r.filesIndexed = r.nodesVisited
  errors : r.insertErrors = 0

/-! ## Whole runs -/

namespace Index

variable {parser : Parser} {ws : List Walked} {c c' : Connection} {r : Report} {log : List Message}

/-- The counters of files after a walk. -/
theorem tallied_build (parser : Parser) (ws : List Walked) (db : Database) :
    Tallied parser ws (build parser ws db).report.files := by
  rw [build, files_entries]
  show Tallied parser ws (0 + (ws.map Walked.files).sum)
  rw [zero_add]
  exact tallied_sum parser ws

/-- **The report adds up**, if the store takes all of the graph. -/
theorem accountsFor_build {db : Database}
    (htakes : db.TakesAll (graphNodes parser ws) (graphEdges parser ws)) :
    (build parser ws (db.fill [] [])).report.AccountsFor parser ws := by
  have hw := written_build parser ws db
  have hfiles := tallied_build parser ws (db.fill [] [])
  have hnodes : (graphNodes parser ws).filter db.takesNode = graphNodes parser ws :=
    List.filter_eq_self.2 htakes.nodes
  have hedges : (graphEdges parser ws).filter db.takesEdge = graphEdges parser ws :=
    List.filter_eq_self.2 htakes.edges
  have hvisited := hw.visited
  have hinserted := hw.inserted
  have hignored := hw.ignored
  have hwritten := hw.edges
  have hlength := length_graphEdges parser ws
  have hindexed := hfiles.indexed
  rw [hnodes] at hinserted hignored
  rw [hedges] at hwritten
  refine ⟨hfiles.seen, hindexed, hfiles.split, ?_, ?_, ?_, ?_, hw.insertErrors_eq_zero_iff.2 htakes⟩
  · rw [hvisited, length_graphNodes]
  · rw [hinserted, length_keepFirst]
  · omega
  · change (build parser ws (db.fill [] [])).report.filesIndexed = _ at hindexed
    omega

/-- **The report accounts for everything and agrees with the store.**  Whatever the store held before,
after a run in which no write was refused the counters add up, and the store has as many nodes and
edges as were inserted. -/
theorem project_accountsFor (h : project parser ws c = ((.ok r, log), c'))
    (htakes : c.stored.TakesAll (graphNodes parser ws) (graphEdges parser ws)) :
    r.AccountsFor parser ws ∧
      ∃ stats, c'.view.stats = .ok stats ∧ stats.nodes = r.nodesInserted ∧
        stats.edges = r.edgesInserted := by
  obtain ⟨-, -, hreport, -⟩ := project_eq_ok h
  have haccounts : r.AccountsFor parser ws := hreport ▸ accountsFor_build htakes
  have hstats := Database.stats_fill (clearable_of_project h).tables
    (keepFirst Node.id (graphNodes parser ws)) (graphEdges parser ws)
  rw [← view_of_project h haccounts.errors] at hstats
  refine ⟨haccounts, _, hstats, ?_, ?_⟩
  · rw [haccounts.inserted, length_keepFirst]
  · show (graphEdges parser ws).length = r.edgesInserted
    have hlength := length_graphEdges parser ws
    have hedges := haccounts.edges
    rw [haccounts.indexed, haccounts.visited, ← length_graphNodes] at hedges
    omega

theorem project_accountsFor_staleStore :
    staleStore.stored.TakesAll (graphNodes Sample.parser Sample.walk)
        (graphEdges Sample.parser Sample.walk) ∧
      ∃ r log c', project Sample.parser Sample.walk staleStore = ((.ok r, log), c') ∧
        r.AccountsFor Sample.parser Sample.walk ∧
        ∃ stats, c'.view.stats = .ok stats ∧ stats.nodes = r.nodesInserted ∧
          stats.edges = r.edgesInserted := by
  have htakes := takesAll_staleStore (graphNodes Sample.parser Sample.walk)
    (graphEdges Sample.parser Sample.walk)
  exact ⟨htakes, _, _, _, rfl, project_accountsFor rfl htakes⟩

end Index
end SyntaxGraph
