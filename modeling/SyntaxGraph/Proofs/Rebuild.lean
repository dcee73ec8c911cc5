import Mathlib.Algebra.BigOperators.Group.List.Basic
import Mathlib.Algebra.Group.Prod
import Mathlib.Algebra.Ring.Nat
import SyntaxGraph.Proofs.Filled
import SyntaxGraph.Proofs.Graph
import SyntaxGraph.Proofs.KeepFirst

/-!
# What an index run writes

A run clears the store and then offers it the graph of the project, node by node and edge by edge.
The invariant is `Written`: after the nodes `ns` and the edges `es` have been offered, the store
holds the first of each id among the nodes it takes, and all the edges it takes, and the counters say
so.  One write keeps it (`Written.node`, `Written.edge`), hence one visited node (`Written.enter`),
hence a whole stack (`Written.run`), hence one reported entry (`Written.entry`) and a whole walk
(`Written.entries`).  What the store held before plays no part in it.  No refusal is counted exactly if
the store takes all it is offered (`Written.insertErrors_eq_zero_iff`).

The main result, `project_computes_graph`, is this at the end of a run in which no write was refused.
-/

set_option autoImplicit false
namespace SyntaxGraph

/-- How far a run has come that has offered the nodes `ns` and the edges `es` to a store with the
frame of `db`, which was empty at first. -/
structure Written (db : Database) (ns : List Node) (es : List Edge) (s : Progress Database) :
    Prop where
  store : s.store =
    db.fill (keepFirst Node.id (ns.filter db.takesNode)) (es.filter db.takesEdge)
  visited : s.report.nodesVisited = ns.length
  inserted : s.report.nodesInserted = (keepFirst Node.id (ns.filter db.takesNode)).length
  ignored : s.report.nodesInserted + s.report.nodesIgnored = (ns.filter db.takesNode).length
  edges : s.report.edgesInserted = (es.filter db.takesEdge).length
  refused : s.report.insertErrors =
    (ns.filter fun n => !db.takesNode n).length + (es.filter fun e => !db.takesEdge e).length

/-- Whether none of the nodes and edges is refused. -/
structure Database.TakesAll (db : Database) (ns : List Node) (es : List Edge) : Prop where
  nodes : ∀ n ∈ ns, db.takesNode n
  edges : ∀ e ∈ es, db.takesEdge e

namespace Written

variable {db : Database} {ns : List Node} {es : List Edge} {s : Progress Database}

/-! ## One write -/

/-- What the store makes of one more node. -/
theorem insertNode_eq (h : Written db ns es s) (n : Node) :
    s.store.insertNode n =
      match db.nodeFault? n with
      | some f => .error f
      | none =>
        if n.id ∈ (ns.filter db.takesNode).map Node.id then .ok (.ignored, s.store)
        else .ok (.inserted, db.fill (keepFirst Node.id (ns.filter db.takesNode) ++ [n])
          (es.filter db.takesEdge)) := by
  rw [h.store, Database.insertNode_fill]
  cases db.nodeFault? n with
  | some f => rfl
  | none => simp only [mem_map_keepFirst]

/-- A node that is refused: the store is as it was, and one more write is refused. -/
theorem node_refused (h : Written db ns es s) {n : Node} {f : Fault}
    (hf : db.nodeFault? n = some f) :
    Written db (ns ++ [n]) es (Visit.writeNode Database.sink n (Visit.countVisit s)) := by
  have ht : db.takesNode n = false := by simp [Database.takesNode, hf]
  have htaken : (ns ++ [n]).filter db.takesNode = ns.filter db.takesNode := by
    simp [List.filter_append, ht]
  have hins := h.insertNode_eq n
  simp only [hf] at hins
  simp only [Visit.writeNode, Visit.countVisit, Database.sink, hins, Visit.say]
  refine ⟨?_, by simp [h.visited], ?_, ?_, h.edges, ?_⟩
  · rw [htaken]
    exact h.store
  · rw [htaken]
    exact h.inserted
  · rw [htaken]
    exact h.ignored
  · have hrefused := h.refused
    simp only [List.filter_append, List.filter_cons, ht, List.length_append]
    simp
    omega

/-- A node whose id is there already: nothing is kept of it. -/
theorem node_ignored (h : Written db ns es s) {n : Node} (hf : db.nodeFault? n = none)
    (hid : n.id ∈ (ns.filter db.takesNode).map Node.id) :
    Written db (ns ++ [n]) es (Visit.writeNode Database.sink n (Visit.countVisit s)) := by
  have ht : db.takesNode n = true := by simp [Database.takesNode, hf]
  have htaken : (ns ++ [n]).filter db.takesNode = ns.filter db.takesNode ++ [n] := by
    simp [List.filter_append, ht]
  have hkept : keepFirst Node.id ((ns ++ [n]).filter db.takesNode) =
      keepFirst Node.id (ns.filter db.takesNode) := by
    rw [htaken, keepFirst_concat, if_pos hid]
  have hins := h.insertNode_eq n
  simp only [hf, if_pos hid] at hins
  simp only [Visit.writeNode, Visit.countVisit, Database.sink, hins]
  refine ⟨?_, by simp [h.visited], ?_, ?_, h.edges, ?_⟩
  · rw [hkept]
    exact h.store
  · rw [hkept]
    exact h.inserted
  · have hignored := h.ignored
    rw [htaken, List.length_append]
    simp only [List.length_singleton]
    omega
  · simpa [List.filter_append, ht] using h.refused

/-- A node with a new id is kept. -/
theorem node_inserted (h : Written db ns es s) {n : Node} (hf : db.nodeFault? n = none)
    (hid : n.id ∉ (ns.filter db.takesNode).map Node.id) :
    Written db (ns ++ [n]) es (Visit.writeNode Database.sink n (Visit.countVisit s)) := by
  have ht : db.takesNode n = true := by simp [Database.takesNode, hf]
  have htaken : (ns ++ [n]).filter db.takesNode = ns.filter db.takesNode ++ [n] := by
    simp [List.filter_append, ht]
  have hkept : keepFirst Node.id ((ns ++ [n]).filter db.takesNode) =
      keepFirst Node.id (ns.filter db.takesNode) ++ [n] := by
    rw [htaken, keepFirst_concat, if_neg hid]
  have hins := h.insertNode_eq n
  simp only [hf, if_neg hid] at hins
  simp only [Visit.writeNode, Visit.countVisit, Database.sink, hins]
  refine ⟨by rw [hkept], by simp [h.visited], ?_, ?_, h.edges, ?_⟩
  · rw [hkept, List.length_append, ← h.inserted, List.length_singleton]
  · have hignored := h.ignored
    rw [htaken, List.length_append]
    simp only [List.length_singleton]
    omega
  · simpa [List.filter_append, ht] using h.refused

/-- Visiting and writing a node. -/
theorem node (h : Written db ns es s) (n : Node) :
    Written db (ns ++ [n]) es (Visit.writeNode Database.sink n (Visit.countVisit s)) := by
  cases hf : db.nodeFault? n with
  | some f => exact h.node_refused hf
  | none =>
    by_cases hid : n.id ∈ (ns.filter db.takesNode).map Node.id
    · exact h.node_ignored hf hid
    · exact h.node_inserted hf hid

/-- Writing an edge. -/
theorem edge (h : Written db ns es s) (e : Edge) :
    Written db ns (es ++ [e]) (Visit.writeEdge Database.sink e s) := by
  have hins := Database.insertEdge_fill db (keepFirst Node.id (ns.filter db.takesNode))
    (es.filter db.takesEdge) e
  rw [← h.store] at hins
  have hrefused := h.refused
  cases hf : db.edgeFault? e with
  | some f =>
    have ht : db.takesEdge e = false := by simp [Database.takesEdge, hf]
    have htaken : (es ++ [e]).filter db.takesEdge = es.filter db.takesEdge := by
      simp [List.filter_append, ht]
    simp only [hf] at hins
    simp only [Visit.writeEdge, Database.sink, hins, Visit.say]
    refine ⟨by rw [htaken]; exact h.store, h.visited, h.inserted, h.ignored,
      by rw [htaken]; exact h.edges, ?_⟩
    simp only [List.filter_append, List.filter_cons, ht, List.length_append]
    simp
    omega
  | none =>
    have ht : db.takesEdge e = true := by simp [Database.takesEdge, hf]
    have htaken : (es ++ [e]).filter db.takesEdge = es.filter db.takesEdge ++ [e] := by
      simp [List.filter_append, ht]
    have hrest : ((es ++ [e]).filter fun e => !db.takesEdge e) =
        es.filter fun e => !db.takesEdge e := by
      simp [List.filter_append, ht]
    simp only [hf] at hins
    simp only [Visit.writeEdge, Database.sink, hins]
    refine ⟨by rw [htaken], h.visited, h.inserted, h.ignored, ?_, by rw [hrest]; exact h.refused⟩
    rw [htaken, List.length_append, ← h.edges]
    rfl

/-! ## Trees -/

/-- Visiting one node. -/
theorem enter (h : Written db ns es s) (filepath : String) (t : SyntaxTree)
    (parent : Option String) :
    Written db (ns ++ [t.nodeIn filepath]) (es ++ Visit.edgeTo filepath (t, parent))
      (Visit.enter Database.sink filepath t parent s) := by
  cases parent with
  | none =>
    rw [show Visit.edgeTo filepath (t, none) = [] from rfl, List.append_nil]
    exact h.node _
  | some p => exact (h.node _).edge _

/-- Visiting all that a stack stands for.  The children of the topmost node take its place, so the
lists of what is pending lose exactly what has been written. -/
theorem run (h : Written db ns es s) (filepath : String) (stack : List Visit.Pending) :
    Written db (ns ++ Visit.pendingNodes filepath stack) (es ++ Visit.pendingEdges filepath stack)
      (Visit.run Database.sink filepath stack s) := by
  induction stack, s using Visit.run.induct Database.sink filepath generalizing ns es with
  | case1 s =>
    rw [Visit.run]
    simpa [Visit.pendingNodes, Visit.pendingEdges] using h
  | case2 s t parent rest ih =>
    have hnodes : Visit.pendingNodes filepath ((t, parent) :: rest) =
        t.nodeIn filepath :: Visit.pendingNodes filepath (Visit.below filepath t ++ rest) := by
      rw [Visit.pendingNodes_append, ← List.cons_append, ← Visit.nodesIn_eq_cons]
      rfl
    have hedges : Visit.pendingEdges filepath ((t, parent) :: rest) =
        Visit.edgeTo filepath (t, parent) ++
          Visit.pendingEdges filepath (Visit.below filepath t ++ rest) := by
      rw [Visit.pendingEdges_append, ← Visit.edgesIn_eq_pendingEdges, ← List.append_assoc]
      rfl
    have := ih (h.enter filepath t parent)
    rw [Visit.run, hnodes, hedges, List.append_cons, ← List.append_assoc]
    exact this

/-- Visiting a tree. -/
theorem tree (h : Written db ns es s) (filepath : String) (t : SyntaxTree) :
    Written db (ns ++ t.nodesIn filepath) (es ++ t.edgesIn filepath)
      (Visit.tree Database.sink filepath t s) := by
  have := h.run filepath [(t, none)]
  simpa [Visit.tree, Visit.pendingNodes, Visit.pendingEdges, Visit.edgeTo] using this

end Written

/-! ## Counting files -/

/-- The counters that are about files: seen, indexed, skipped, failed. -/
def Report.files (r : Report) : Nat × Nat × Nat × Nat :=
  (r.filesSeen, r.filesIndexed, r.filesSkipped, r.filesFailed)

namespace Visit

theorem files_writeNode (n : Node) (s : Progress Database) :
    (writeNode Database.sink n s).report.files = s.report.files := by
  rw [writeNode]
  split <;> rfl

theorem files_writeEdge (e : Edge) (s : Progress Database) :
    (writeEdge Database.sink e s).report.files = s.report.files := by
  rw [writeEdge]
  split <;> rfl

theorem files_enter (filepath : String) (t : SyntaxTree) (parent : Option String)
    (s : Progress Database) :
    (enter Database.sink filepath t parent s).report.files = s.report.files := by
  cases parent with
  | none => exact files_writeNode _ _
  | some p => exact (files_writeEdge _ _).trans (files_writeNode _ _)

/-- Visiting counts no files. -/
theorem files_run (filepath : String) (stack : List Pending) (s : Progress Database) :
    (run Database.sink filepath stack s).report.files = s.report.files := by
  induction stack, s using run.induct Database.sink filepath with
  | case1 s => rw [run]
  | case2 s t parent rest ih => rw [run, ih, files_enter]

end Visit

/-- What an entry of a walk adds to the counters of files. -/
def Walked.files : Walked → Nat × Nat × Nat × Nat
  | .file path content =>
    match Language.ofPath? path, Utf8.text? content with
    | none, _ => (1, 0, 1, 0)
    | some _, some _ => (1, 1, 0, 0)
    | some _, none => (1, 0, 0, 1)
  | .unopened path _ =>
    match Language.ofPath? path with
    | none => (1, 0, 1, 0)
    | some _ => (1, 0, 0, 1)
  | _ => 0

namespace Index

theorem announce_report (s : Progress Database) : (announce s).report = s.report := by
  rw [announce]
  split <;> rfl

theorem files_entry (parser : Parser) (s : Progress Database) (w : Walked) :
    (entry parser Database.sink s w).report.files = s.report.files + w.files := by
  cases w with
  | unreadable path error => rfl
  | other path => rfl
  | file path content =>
    cases hl : Language.ofPath? path with
    | none =>
      simp only [entry, regular, Walked.files, hl]
      rfl
    | some language =>
      cases ht : Utf8.text? content with
      | none =>
        simp only [entry, regular, Walked.files, hl, announce_report, file, ht]
        rfl
      | some source =>
        have h := Visit.files_run path.text [(parser.parse language source, none)] (countFile s)
        simp only [Report.files, Prod.mk.injEq] at h
        simp only [entry, regular, Walked.files, hl, announce_report, file, ht, Visit.say, Visit.tree,
          Report.files, h]
        rfl
  | unopened path error =>
    cases hl : Language.ofPath? path with
    | none =>
      simp only [entry, regular, Walked.files, hl]
      rfl
    | some language =>
      simp only [entry, regular, Walked.files, hl, announce_report]
      rfl

/-- The counters of files are sums over the walk. -/
theorem files_entries (parser : Parser) (s : Progress Database) (ws : List Walked) :
    (entries parser Database.sink s ws).report.files =
      s.report.files + (ws.map Walked.files).sum := by
  induction ws generalizing s with
  | nil => simp [entries]
  | cons w ws ih =>
    have hstep : entries parser Database.sink s (w :: ws) =
        entries parser Database.sink (entry parser Database.sink s w) ws := rfl
    rw [hstep, ih, files_entry, List.map_cons, List.sum_cons, add_assoc]

end Index

/-! ## Walks -/

namespace Written

variable {db : Database} {ns : List Node} {es : List Edge} {s : Progress Database}

/-- Only the store and the counters of writes matter. -/
theorem of_eq (h : Written db ns es s) {s' : Progress Database} (hs : s'.store = s.store)
    (hv : s'.report.nodesVisited = s.report.nodesVisited)
    (hi : s'.report.nodesInserted = s.report.nodesInserted)
    (hg : s'.report.nodesIgnored = s.report.nodesIgnored)
    (he : s'.report.edgesInserted = s.report.edgesInserted)
    (hr : s'.report.insertErrors = s.report.insertErrors) : Written db ns es s' :=
  ⟨hs.trans h.store, hv.trans h.visited, hi.trans h.inserted, by rw [hi, hg]; exact h.ignored,
    he.trans h.edges, hr.trans h.refused⟩

/-- Counting a file that cannot be read writes nothing. -/
theorem countFailed (h : Written db ns es s) (m : Message) :
    Written db ns es (Index.countFailed m s) :=
  h.of_eq rfl rfl rfl rfl rfl rfl

/-- Announcing progress changes nothing. -/
theorem announce (h : Written db ns es s) : Written db ns es (Index.announce s) := by
  rw [Index.announce]
  split
  · exact h.of_eq rfl rfl rfl rfl rfl rfl
  · exact h

/-- Dealing with an entry of the walk writes the graph of its file, if it is indexed. -/
theorem entry (h : Written db ns es s) (parser : Parser) (w : Walked) :
    Written db (ns ++ (w.parsed? parser).toList.flatMap ParsedFile.nodes)
      (es ++ (w.parsed? parser).toList.flatMap ParsedFile.edges)
      (Index.entry parser Database.sink s w) := by
  cases w with
  | unreadable path error =>
    simp only [Walked.parsed?, Option.toList_none, List.flatMap_nil, List.append_nil]
    exact h.of_eq rfl rfl rfl rfl rfl rfl
  | other path =>
    simp only [Walked.parsed?, Option.toList_none, List.flatMap_nil, List.append_nil]
    exact h
  | file path content =>
    have hcount : Written db ns es (Index.countFile s) := h.of_eq rfl rfl rfl rfl rfl rfl
    cases hl : Language.ofPath? path with
    | none =>
      simp only [Index.entry, Index.regular, Walked.parsed?, hl, Option.toList_none, List.flatMap_nil,
        List.append_nil]
      exact hcount.of_eq rfl rfl rfl rfl rfl rfl
    | some language =>
      cases ht : Utf8.text? content with
      | none =>
        simp only [Index.entry, Index.regular, Index.file, Walked.parsed?, hl, ht, Option.toList_none,
          List.flatMap_nil, List.append_nil]
        exact (hcount.countFailed _).announce
      | some source =>
        have htree := hcount.tree path.text (parser.parse language source)
        simp only [Index.entry, Index.regular, Walked.parsed?, hl, ht, Option.toList_some, List.flatMap_singleton]
        refine (htree.of_eq ?_ ?_ ?_ ?_ ?_ ?_).announce
        all_goals rw [Index.file, ht]
        all_goals rfl
  | unopened path error =>
    have hcount : Written db ns es (Index.countFile s) := h.of_eq rfl rfl rfl rfl rfl rfl
    simp only [Walked.parsed?, Option.toList_none, List.flatMap_nil, List.append_nil]
    cases hl : Language.ofPath? path with
    | none =>
      simp only [Index.entry, Index.regular, hl]
      exact hcount.of_eq rfl rfl rfl rfl rfl rfl
    | some language =>
      simp only [Index.entry, Index.regular, hl]
      exact (hcount.countFailed _).announce

/-- Dealing with a whole walk writes the graph of the project. -/
theorem entries (h : Written db ns es s) (parser : Parser) (ws : List Walked) :
    Written db (ns ++ Index.graphNodes parser ws) (es ++ Index.graphEdges parser ws)
      (Index.entries parser Database.sink s ws) := by
  induction ws generalizing ns es s with
  | nil =>
    show Written db (ns ++ []) (es ++ []) s
    rwa [List.append_nil, List.append_nil]
  | cons w ws ih =>
    have := ih (h.entry parser w)
    rw [List.append_assoc, List.append_assoc, ← Index.graphNodes_cons,
      ← Index.graphEdges_cons] at this
    exact this

/-- No refusal is counted exactly if there is none. -/
theorem insertErrors_eq_zero_iff (h : Written db ns es s) :
    s.report.insertErrors = 0 ↔ db.TakesAll ns es := by
  rw [h.refused, Nat.add_eq_zero_iff, List.length_eq_zero_iff, List.length_eq_zero_iff,
    List.filter_eq_nil_iff, List.filter_eq_nil_iff]
  constructor
  · rintro ⟨hns, hes⟩
    exact ⟨fun n hn => by simpa using hns n hn, fun e he => by simpa using hes e he⟩
  · rintro ⟨hns, hes⟩
    exact ⟨fun n hn => by simpa using hns n hn, fun e he => by simpa using hes e he⟩

/-- Where no write was refused, the store holds the first node of each id and all edges. -/
theorem store_of_insertErrors_eq_zero (h : Written db ns es s) (hr : s.report.insertErrors = 0) :
    s.store = db.fill (keepFirst Node.id ns) es := by
  obtain ⟨hns, hes⟩ := h.insertErrors_eq_zero_iff.1 hr
  rw [h.store, List.filter_eq_self.2 hns, List.filter_eq_self.2 hes]

end Written

/-! ## Whole runs -/

namespace Index

variable {parser : Parser} {ws : List Walked} {c c' : Connection} {r : Report} {log : List Message}

/-- A run on an emptied store writes the graph of the project. -/
theorem written_build (parser : Parser) (ws : List Walked) (db : Database) :
    Written db (graphNodes parser ws) (graphEdges parser ws)
      (build parser ws (db.fill [] [])) := by
  have hstart : Written db [] [] ⟨db.fill [] [], {}, []⟩ := ⟨rfl, rfl, rfl, rfl, rfl, rfl⟩
  exact hstart.entries parser ws

/-- **What a successful run does**: it empties the store and builds the graph in it. -/
theorem project_eq_ok (h : project parser ws c = ((.ok r, log), c')) :
    c.working = none ∧ c.obstacle = none ∧
      r = (build parser ws (c.stored.fill [] [])).report ∧
      c' = { c with
        stored := (build parser ws (c.stored.fill [] [])).store
        changed := true } := by
  rw [project] at h
  split at h
  · cases h
  · rename_i c₁ hclear
    obtain ⟨hc, rfl⟩ := Connection.clearAll_eq_ok hclear
    cases h
    exact ⟨hc.idle, hc.free, rfl, rfl⟩

/-- A run succeeds only on a connection that can be cleared. -/
theorem clearable_of_project (h : project parser ws c = ((.ok r, log), c')) : c.Clearable := by
  rw [project] at h
  split at h
  · cases h
  · rename_i c₁ hclear
    exact (Connection.clearAll_eq_ok hclear).1

/-- What is seen after a run in which no write was refused. -/
theorem view_of_project (h : project parser ws c = ((.ok r, log), c')) (hr : r.insertErrors = 0) :
    c'.view = c.stored.fill (keepFirst Node.id (graphNodes parser ws)) (graphEdges parser ws) := by
  obtain ⟨hw, -, rfl, rfl⟩ := project_eq_ok h
  rw [Connection.view, hw, Option.getD_none]
  exact (written_build parser ws c.stored).store_of_insertErrors_eq_zero hr

/-- The rows that a run leaves: those of the graph, less what was refused. -/
theorem holdsRows_of_project (h : project parser ws c = ((.ok r, log), c')) :
    c'.view.HoldsRows (keepFirst Node.id ((graphNodes parser ws).filter c.stored.takesNode))
      ((graphEdges parser ws).filter c.stored.takesEdge) := by
  have htables := (clearable_of_project h).tables
  obtain ⟨hw, -, -, rfl⟩ := project_eq_ok h
  rw [Connection.view, hw, Option.getD_none]
  show (build parser ws (c.stored.fill [] [])).store.HoldsRows _ _
  rw [(written_build parser ws c.stored).store]
  exact Database.holdsRows_fill htables _ _

/-- A run on a connection that can be cleared succeeds. -/
theorem project_of_clearable (hc : c.Clearable) (parser : Parser) (ws : List Walked) :
    ∃ log, project parser ws c =
      ((.ok (build parser ws (c.stored.fill [] [])).report, log),
        { c with stored := (build parser ws (c.stored.fill [] [])).store, changed := true }) := by
  rw [project]
  rw [Connection.clearAll_of_clearable hc]
  exact ⟨_, rfl⟩

/-- A run on a connection that can be written to succeeds. -/
theorem project_of_writable (hc : c.Writable) (parser : Parser) (ws : List Walked) :
    ∃ log, project parser ws c =
      ((.ok (build parser ws (c.stored.fill [] [])).report, log),
        { c with stored := (build parser ws (c.stored.fill [] [])).store, changed := true }) :=
  project_of_clearable hc.clearable parser ws

/-- The frame of the store outlasts a run. -/
theorem build_store_fill (db : Database) :
    (build parser ws (db.fill [] [])).store.fill [] [] = db.fill [] [] := by
  rw [(written_build parser ws db).store, Database.fill_fill]

/-- **A run computes the graph of the project**, whatever the store held before: the nodes in the
order of the walk and of the trees, of each id the first, and the edges in the same order, all of
them.  A second run on the same walk succeeds as well and leaves the store as it is. -/
theorem project_computes_graph (hready : c.stored.isReady)
    (h : project parser ws c = ((.ok r, log), c')) (hr : r.insertErrors = 0) :
    c'.view.allNodes .natural = .ok (keepFirst Node.id (graphNodes parser ws)) ∧
      c'.view.allEdges = .ok (graphEdges parser ws) ∧
      ∃ log' c'', project parser ws c' = ((.ok r, log'), c'') ∧ c''.view = c'.view := by
  obtain ⟨hw, ho, rfl, rfl⟩ := project_eq_ok h
  have hstore := (written_build parser ws c.stored).store_of_insertErrors_eq_zero hr
  refine ⟨?_, ?_, ?_⟩
  · rw [Connection.view, hw, Option.getD_none, hstore]
    exact Database.allNodes_fill hready _ _ .natural
  · rw [Connection.view, hw, Option.getD_none, hstore]
    exact Database.allEdges_fill hready _ _
  · have hready' : (build parser ws (c.stored.fill [] [])).store.isReady := by
      rw [hstore, Database.isReady_fill]
      exact hready
    have hagain : Connection.Writable
        { c with stored := (build parser ws (c.stored.fill [] [])).store, changed := true } :=
      ⟨hready', hw, ho⟩
    obtain ⟨log', hagain⟩ := project_of_writable hagain parser ws
    simp only [build_store_fill] at hagain
    exact ⟨log', _, hagain, by simp [Connection.view, hw]⟩

/-- A store with a node and an edge of an earlier run.  The node has an id that the sample project
uses. -/
def staleStore : Connection :=
  .ofDatabase none (Database.fresh.fill
    [.ofSyntax "src/a.ts" "member" ⟨⟨0, 0⟩, ⟨7, 7⟩⟩] [⟨"src/old.lua@chunk@0@0", "gone"⟩])

theorem takesAll_staleStore (ns : List Node) (es : List Edge) : staleStore.stored.TakesAll ns es :=
  ⟨fun _ _ => rfl, fun _ _ => rfl⟩

theorem project_computes_graph_staleStore :
    staleStore.stored.isReady = true ∧
      ∃ r log c', project Sample.parser Sample.walk staleStore = ((.ok r, log), c') ∧
        r.insertErrors = 0 ∧
        c'.view.allNodes .natural =
          .ok (keepFirst Node.id (graphNodes Sample.parser Sample.walk)) ∧
        c'.view.allEdges = .ok (graphEdges Sample.parser Sample.walk) ∧
        ∃ log' c'', project Sample.parser Sample.walk c' = ((.ok r, log'), c'') ∧
          c''.view = c'.view := by
  have hready : staleStore.stored.isReady = true := rfl
  have hr : (build Sample.parser Sample.walk (staleStore.stored.fill [] [])).report.insertErrors =
      0 := by
    rw [(written_build _ _ _).refused]
    rfl
  exact ⟨hready, _, _, _, rfl, hr, project_computes_graph hready rfl hr⟩

end Index
end SyntaxGraph
