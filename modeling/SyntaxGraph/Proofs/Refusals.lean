import SyntaxGraph.Proofs.Traversal

/-!
# A visit outlasts refusals

A store may refuse any of the writes it is offered.  A visit counts the refusal and goes on: the edge
to a refused node and all that is below the node are written under the id it would have had.

Which writes are refused is given by their numbers, so that every set of writes can be meant, and on
top of that the store may have rules of its own.  The invariant is `Endured`: after some writes, all
of them have been offered; those that were not refused, made by themselves, succeed and lead to the
store as it is; and the counters say how many there were of either sort.  One write keeps it
(`Endured.concat`), hence any list of writes does (`Endured.append`), hence the writes of a tree.

What a store refuses by its own rules is a matter of its frame (`SameFrame.takes_eq`), so that it
can be told beforehand.

The main result is `Visit.tree_refusing`.
-/

set_option autoImplicit false
namespace SyntaxGraph

/-! ## Writing to a database -/

namespace Database

/-- Makes a write: a node is inserted unless its id is taken, an edge always. -/
def write (db : Database) : Write → Except Fault Database
  | .node n => (db.insertNode n).map Prod.snd
  | .edge e => db.insertEdge e

/-- Whether the rules of the database let a write pass. -/
def takes (db : Database) : Write → Bool
  | .node n => db.takesNode n
  | .edge e => db.takesEdge e

theorem nodeFault?_fill (db : Database) (ns : List Node) (es : List Edge) (n : Node) :
    (db.fill ns es).nodeFault? n = db.nodeFault? n := by
  rw [nodeFault?, nodeFault?, nodeTarget_fill]
  rcases db.nodeTarget with f | t <;> rfl

theorem edgeFault?_fill (db : Database) (ns : List Node) (es : List Edge) (e : Edge) :
    (db.fill ns es).edgeFault? e = db.edgeFault? e := by
  rw [edgeFault?, edgeFault?, edgeTarget_fill]
  rcases db.edgeTarget with f | t <;> rfl

theorem takes_fill (db : Database) (ns : List Node) (es : List Edge) (w : Write) :
    (db.fill ns es).takes w = db.takes w := by
  rcases w with n | e
  · rw [takes, takes, takesNode, takesNode, nodeFault?_fill]
  · rw [takes, takes, takesEdge, takesEdge, edgeFault?_fill]

/-- Databases with one frame let the same writes pass. -/
theorem SameFrame.takes_eq {db db' : Database} (h : db.SameFrame db') (w : Write) :
    db.takes w = db'.takes w := by
  rw [← takes_fill db [] [], ← takes_fill db' [] [], h]

theorem sameFrame_appendNode {db : Database} {t : Table NodeRow} (h : db.nodeTarget = .ok t)
    (r : NodeRow) : (db.appendNode t r).SameFrame db := by
  rcases db with ⟨_ | (⟨name, complete, rows⟩ | _), edges, rules, indexed, logged⟩
  · cases h
  · cases complete
    · cases h
    · cases h
      rfl
  · cases h

theorem sameFrame_appendEdge {db : Database} {t : Table EdgeRow} (h : db.edgeTarget = .ok t)
    (r : EdgeRow) : (db.appendEdge t r).SameFrame db := by
  rcases db with ⟨nodes, _ | (⟨name, complete, rows⟩ | _), rules, indexed, logged⟩
  · cases h
  · cases complete
    · cases h
    · cases h
      rfl
  · cases h

/-- **What can become of a node**: the rules of the database refuse it, or it is inserted or ignored
and the frame stays. -/
theorem insertNode_cases (db : Database) (n : Node) :
    (db.takesNode n = false ∧ ∃ f, db.insertNode n = .error f) ∨
      (db.takesNode n = true ∧
        ∃ outcome db', db.insertNode n = .ok (outcome, db') ∧ db'.SameFrame db) := by
  rw [takesNode, nodeFault?, insertNode]
  rcases ht : db.nodeTarget with f | t
  · exact .inl ⟨rfl, f, rfl⟩
  · simp only
    rcases db.refusal? .nodes (NodeRow.ofNode n).column? with _ | message
    · simp only
      split
      · exact .inr ⟨rfl, .ignored, db, rfl, rfl⟩
      · exact .inr ⟨rfl, .inserted, _, rfl, sameFrame_appendNode ht _⟩
    · exact .inl ⟨rfl, .rejected message, rfl⟩

/-- **What can become of an edge**: the rules of the database refuse it, or it is inserted and the
frame stays. -/
theorem insertEdge_cases (db : Database) (e : Edge) :
    (db.takesEdge e = false ∧ ∃ f, db.insertEdge e = .error f) ∨
      (db.takesEdge e = true ∧ ∃ db', db.insertEdge e = .ok db' ∧ db'.SameFrame db) := by
  rw [takesEdge, edgeFault?, insertEdge]
  rcases ht : db.edgeTarget with f | t
  · exact .inl ⟨rfl, f, rfl⟩
  · simp only
    rcases db.refusal? .edges (EdgeRow.ofEdge e).column? with _ | message
    · exact .inr ⟨rfl, _, rfl, sameFrame_appendEdge ht _⟩
    · exact .inl ⟨rfl, .rejected message, rfl⟩

/-- Writing leaves the frame. -/
theorem sameFrame_of_write {db db' : Database} {w : Write} (h : db.write w = .ok db') :
    db'.SameFrame db := by
  rcases w with n | e
  · rw [write] at h
    rcases db.insertNode_cases n with ⟨-, f, hf⟩ | ⟨-, outcome, db₁, hok, hframe⟩
    · rw [hf] at h
      cases h
    · rw [hok] at h
      cases h
      exact hframe
  · rw [write] at h
    rcases db.insertEdge_cases e with ⟨-, f, hf⟩ | ⟨-, db₁, hok, hframe⟩
    · rw [hf] at h
      cases h
    · rw [hok] at h
      cases h
      exact hframe

/-- Writing many rows leaves the frame. -/
theorem sameFrame_of_foldlM_write {ws : List Write} {db db' : Database}
    (h : ws.foldlM write db = .ok db') : db'.SameFrame db := by
  induction ws generalizing db with
  | nil =>
    cases h
    rfl
  | cons w ws ih =>
    rw [List.foldlM_cons] at h
    rcases hw : db.write w with f | db₁
    · rw [hw] at h
      cases h
    · rw [hw] at h
      exact (ih h).trans (sameFrame_of_write hw)

/-! ## What is refused -/

/-- Whether the write with a given number is refused: because of its number, or by the rules of the
database. -/
def rejects (db : Database) (refused : Nat → Option Fault) (x : Write × Nat) : Bool :=
  (refused x.2).isSome || !db.takes x.1

/-- The writes that are refused, of those numbered from zero on. -/
def rejected (db : Database) (refused : Nat → Option Fault) (ws : List Write) : List Write :=
  (ws.zipIdx.filter (db.rejects refused)).map Prod.fst

/-- The writes that are not refused. -/
def accepted (db : Database) (refused : Nat → Option Fault) (ws : List Write) : List Write :=
  (ws.zipIdx.filter fun x => !db.rejects refused x).map Prod.fst

variable {db : Database} {refused : Nat → Option Fault} {ws : List Write} {w : Write}

theorem rejected_concat_of_rejects (h : db.rejects refused (w, ws.length) = true) :
    db.rejected refused (ws ++ [w]) = db.rejected refused ws ++ [w] ∧
      db.accepted refused (ws ++ [w]) = db.accepted refused ws := by
  simp [rejected, accepted, List.zipIdx_append, h]

theorem rejected_concat_of_accepts (h : db.rejects refused (w, ws.length) = false) :
    db.rejected refused (ws ++ [w]) = db.rejected refused ws ∧
      db.accepted refused (ws ++ [w]) = db.accepted refused ws ++ [w] := by
  simp [rejected, accepted, List.zipIdx_append, h]

/-- Every write is refused or not. -/
theorem length_accepted_add (db : Database) (refused : Nat → Option Fault) (ws : List Write) :
    (db.accepted refused ws).length + (db.rejected refused ws).length = ws.length := by
  induction ws using List.reverseRecOn with
  | nil => rfl
  | append_singleton ws w ih =>
    rw [List.length_append, List.length_singleton]
    rcases h : db.rejects refused (w, ws.length) with _ | _
    · obtain ⟨hrejected, haccepted⟩ := rejected_concat_of_accepts h
      rw [hrejected, haccepted, List.length_append, List.length_singleton]
      omega
    · obtain ⟨hrejected, haccepted⟩ := rejected_concat_of_rejects h
      rw [hrejected, haccepted, List.length_append, List.length_singleton]
      omega

theorem takes_of_mem_accepted (h : w ∈ db.accepted refused ws) : db.takes w := by
  obtain ⟨x, hx, rfl⟩ := List.mem_map.1 h
  have hpass := (List.mem_filter.1 hx).2
  simp only [rejects, Bool.not_or, Bool.not_not, Bool.and_eq_true] at hpass
  exact hpass.2

/-- Writes that pass, made one after the other on a store to which others have been made, leave what
all of them leave: of each id the first node, and every edge. -/
theorem foldlM_write_after (before ws : List Write) (h : ∀ w ∈ ws, db.takes w) :
    ws.foldlM write (db.after before) = .ok (db.after (before ++ ws)) := by
  induction ws generalizing before with
  | nil =>
    rw [List.append_nil]
    rfl
  | cons w ws ih =>
    have hstep : (db.after before).write w = .ok (db.after (before ++ [w])) := by
      have hw := h w List.mem_cons_self
      rcases w with n | e
      · rw [takes, takesNode, Option.isNone_iff_eq_none] at hw
        rw [write, after, insertNode_fill, hw, after, keptNodes_concat_node, keptEdges_concat_node,
          takesNode, hw]
        by_cases hid : n.id ∈ (db.keptNodes before).map Node.id <;> simp [hid, Except.map]
      · rw [takes, takesEdge, Option.isNone_iff_eq_none] at hw
        rw [write, after, insertEdge_fill, hw, after, keptNodes_concat_edge, keptEdges_concat_edge,
          takesEdge, hw]
        rfl
    have hrest := ih (before ++ [w]) fun v hv => h v (List.mem_cons_of_mem w hv)
    rw [List.append_assoc, List.singleton_append] at hrest
    rw [List.foldlM_cons, hstep]
    exact hrest

end Database

/-! ## What a visit makes of it -/

namespace Visit

variable {refused : Nat → Option Fault} {s : Progress (Observed Database)} {w : Write}

/-- A refused write is counted as such, and the store is as it was. -/
theorem offer_of_rejects (h : s.store.store.rejects refused (w, s.store.offers.length) = true) :
    (offer (Database.sink.refusing refused) s w).store =
        ⟨s.store.store, s.store.offers ++ [w]⟩ ∧
      (offer (Database.sink.refusing refused) s w).report =
        { s.report with
          nodesVisited := s.report.nodesVisited + (nodesOf [w]).length
          insertErrors := s.report.insertErrors + 1 } := by
  rcases w with n | e
  · have hanswer : ∃ f, (Database.sink.refusing refused).insertNode s.store n =
        (.error f, ⟨s.store.store, s.store.offers ++ [.node n]⟩) := by
      rcases hr : refused s.store.offers.length with _ | f
      · rcases s.store.store.insertNode_cases n with ⟨-, f, hf⟩ | ⟨ht, -⟩
        · exact ⟨f, by simp only [Sink.refusing, hr, Database.sink, hf]⟩
        · simp [Database.rejects, Database.takes, hr, ht] at h
      · exact ⟨f, by simp only [Sink.refusing, hr]⟩
    obtain ⟨f, hf⟩ := hanswer
    rw [offer, writeNode, show (countVisit s).store = s.store from rfl, hf]
    exact ⟨rfl, rfl⟩
  · have hanswer : ∃ f, (Database.sink.refusing refused).insertEdge s.store e =
        (.error f, ⟨s.store.store, s.store.offers ++ [.edge e]⟩) := by
      rcases hr : refused s.store.offers.length with _ | f
      · rcases s.store.store.insertEdge_cases e with ⟨-, f, hf⟩ | ⟨ht, -⟩
        · exact ⟨f, by simp only [Sink.refusing, hr, Database.sink, hf]⟩
        · simp [Database.rejects, Database.takes, hr, ht] at h
      · exact ⟨f, by simp only [Sink.refusing, hr]⟩
    obtain ⟨f, hf⟩ := hanswer
    rw [offer, writeEdge, hf]
    exact ⟨rfl, rfl⟩

/-- A write that is not refused is made, and counted by what became of it. -/
theorem offer_of_accepts (h : s.store.store.rejects refused (w, s.store.offers.length) = false) :
    ∃ db, s.store.store.write w = .ok db ∧
      (offer (Database.sink.refusing refused) s w).store = ⟨db, s.store.offers ++ [w]⟩ ∧
      (offer (Database.sink.refusing refused) s w).report.nodesInserted +
          (offer (Database.sink.refusing refused) s w).report.nodesIgnored =
        s.report.nodesInserted + s.report.nodesIgnored + (nodesOf [w]).length ∧
      (offer (Database.sink.refusing refused) s w).report.edgesInserted =
        s.report.edgesInserted + (edgesOf [w]).length ∧
      (offer (Database.sink.refusing refused) s w).report.insertErrors = s.report.insertErrors := by
  rw [Database.rejects, Bool.or_eq_false_iff, Option.isSome_eq_false_iff, Option.isNone_iff_eq_none,
    Bool.not_eq_false'] at h
  obtain ⟨hr, htakes⟩ := h
  rcases w with n | e
  · rcases s.store.store.insertNode_cases n with ⟨ht, -⟩ | ⟨-, outcome, db, hok, -⟩
    · exact absurd htakes (by simp [Database.takes, ht])
    · have hanswer : (Database.sink.refusing refused).insertNode s.store n =
          (.ok outcome, ⟨db, s.store.offers ++ [.node n]⟩) := by
        simp only [Sink.refusing, hr, Database.sink, hok]
      rw [offer, writeNode, show (countVisit s).store = s.store from rfl, hanswer]
      refine ⟨db, by rw [Database.write, hok]; rfl, ?_⟩
      rcases outcome with _ | _
      · exact ⟨rfl, Nat.succ_add _ _, rfl, rfl⟩
      · exact ⟨rfl, rfl, rfl, rfl⟩
  · rcases s.store.store.insertEdge_cases e with ⟨ht, -⟩ | ⟨-, db, hok, -⟩
    · exact absurd htakes (by simp [Database.takes, ht])
    · have hanswer : (Database.sink.refusing refused).insertEdge s.store e =
          (.ok (), ⟨db, s.store.offers ++ [.edge e]⟩) := by
        simp only [Sink.refusing, hr, Database.sink, hok]
      rw [offer, writeEdge, hanswer]
      exact ⟨db, hok, rfl, rfl, rfl, rfl⟩

end Visit

/-- What has come of a run `s` that has made the writes `ws`, of which some were refused. -/
structure Endured (refused : Nat → Option Fault) (s : Progress Database) (ws : List Write)
    (s' : Progress (Observed Database)) : Prop where
  /-- All writes were offered, in order. -/
  offers : s'.store.offers = ws
  /-- Those that were not refused, made by themselves, all succeed and lead to the store. -/
  store : (s.store.accepted refused ws).foldlM Database.write s.store = .ok s'.store.store
  nodes : s'.report.nodesInserted + s'.report.nodesIgnored =
    s.report.nodesInserted + s.report.nodesIgnored + (nodesOf (s.store.accepted refused ws)).length
  edges : s'.report.edgesInserted =
    s.report.edgesInserted + (edgesOf (s.store.accepted refused ws)).length
  errors : s'.report.insertErrors =
    s.report.insertErrors + (s.store.rejected refused ws).length

namespace Endured

variable {refused : Nat → Option Fault} {s : Progress Database} {ws : List Write}
  {s' : Progress (Observed Database)}

/-- One more write. -/
theorem concat (h : Endured refused s ws s') (w : Write) :
    Endured refused s (ws ++ [w]) (Visit.offer (Database.sink.refusing refused) s' w) := by
  obtain ⟨hoffers, hstore, hnodes, hedges, herrors⟩ := h
  -- what the store refuses is as it was told beforehand
  have hsame : s'.store.store.rejects refused (w, s'.store.offers.length) =
      s.store.rejects refused (w, ws.length) := by
    rw [Database.rejects, Database.rejects, hoffers,
      (Database.sameFrame_of_foldlM_write hstore).takes_eq]
  rcases hrejects : s.store.rejects refused (w, ws.length) with _ | _
  · obtain ⟨hrejected, haccepted⟩ := Database.rejected_concat_of_accepts hrejects
    obtain ⟨db, hwrite, hstore', hnodes', hedges', herrors'⟩ :=
      Visit.offer_of_accepts (hsame.trans hrejects)
    refine ⟨?_, ?_, ?_, ?_, ?_⟩
    · rw [hstore', hoffers]
    · rw [hstore', haccepted, List.foldlM_append, hstore]
      show [w].foldlM Database.write s'.store.store = _
      rw [List.foldlM_cons, hwrite]
      rfl
    · rw [hnodes', hnodes, haccepted, nodesOf_append, List.length_append]
      omega
    · rw [hedges', hedges, haccepted, edgesOf_append, List.length_append]
      omega
    · rw [herrors', herrors, hrejected]
  · obtain ⟨hrejected, haccepted⟩ := Database.rejected_concat_of_rejects hrejects
    obtain ⟨hstore', hreport'⟩ := Visit.offer_of_rejects (hsame.trans hrejects)
    refine ⟨?_, ?_, ?_, ?_, ?_⟩
    · rw [hstore', hoffers]
    · rw [hstore', haccepted]
      exact hstore
    · rw [hreport', haccepted]
      exact hnodes
    · rw [hreport', haccepted]
      exact hedges
    · rw [hreport', hrejected, List.length_append, List.length_singleton]
      show s'.report.insertErrors + 1 = _
      omega

/-- Any number of writes more. -/
theorem append (h : Endured refused s ws s') (more : List Write) :
    Endured refused s (ws ++ more)
      (more.foldl (Visit.offer (Database.sink.refusing refused)) s') := by
  induction more generalizing ws s' with
  | nil =>
    rw [List.append_nil]
    exact h
  | cons w more ih =>
    rw [List.append_cons]
    exact ih (h.concat w)

end Endured

namespace Visit

/-- **Refused writes neither stop a visit nor distort it.**  Let a store refuse any of the writes it is
offered, told by number, and any others by its own rules.  All writes of the tree are offered to it
all the same, in their order.  In the end it holds what the writes that were not refused lead to when
they are made by themselves; for a store that was filled by writes since it was cleared, this is of
each id the first node, and every edge.  The counters say how many writes came to what, and together
they account for all of them. -/
theorem tree_refusing (refused : Nat → Option Fault) (filepath : String) (t : SyntaxTree)
    (s : Progress Database) :
    ∃ done, tree (Database.sink.refusing refused) filepath t (s.observed []) = done ∧
      Endured refused s (t.writesIn filepath none) done ∧
      (∀ (db : Database) (before : List Write), s.store = db.after before →
        done.store.store =
          db.after (before ++ s.store.accepted refused (t.writesIn filepath none))) ∧
      done.report.nodesVisited = s.report.nodesVisited + t.size ∧
      done.report.nodesInserted + done.report.nodesIgnored + done.report.edgesInserted +
          done.report.insertErrors + 1 =
        s.report.nodesInserted + s.report.nodesIgnored + s.report.edgesInserted +
          s.report.insertErrors + 2 * t.size := by
  have hstart : Endured refused s [] (s.observed []) := ⟨rfl, rfl, rfl, rfl, rfl⟩
  have hdone := hstart.append (t.writesIn filepath none)
  rw [List.nil_append, ← tree_eq_foldl] at hdone
  refine ⟨_, rfl, hdone, ?_, ?_, ?_⟩
  · intro db before hs
    have htakes : ∀ w ∈ s.store.accepted refused (t.writesIn filepath none), db.takes w := by
      intro w hw
      have hw := Database.takes_of_mem_accepted hw
      rwa [hs, Database.after, Database.takes_fill] at hw
    have hstore := hdone.store
    rw [hs, Database.foldlM_write_after before _ (hs ▸ htakes), Except.ok.injEq] at hstore
    rw [hs]
    exact hstore.symm
  · rw [tree_eq_foldl, nodesVisited_foldl, SyntaxTree.nodesOf_writesIn, SyntaxTree.length_nodesIn]
    rfl
  · have hnodes := hdone.nodes
    have hedges := hdone.edges
    have herrors := hdone.errors
    have hkinds := length_nodesOf_add (s.store.accepted refused (t.writesIn filepath none))
    have hall := s.store.length_accepted_add refused (t.writesIn filepath none)
    have hsize := SyntaxTree.length_writesIn filepath t
    omega

/-- In the tree of `a.b.c` the outer member expression is refused.  The inner one then takes the id they
share, and the edges from it are all there. -/
theorem tree_refusing_member :
    ∃ done,
      tree (Database.sink.refusing fun i => if i = 1 then some .readOnly else none) "a.js"
          (Sample.parser.parse .javascript "a.b.c")
          (Progress.observed ⟨Database.fresh, {}, []⟩ []) = done ∧
        done.report.insertErrors = 1 ∧
        done.store.store.allNodes .natural =
          .ok [.ofSyntax "a.js" "program" ⟨⟨0, 0⟩, ⟨0, 5⟩⟩, .ofSyntax "a.js" "member" ⟨⟨0, 0⟩, ⟨0, 3⟩⟩,
            .ofSyntax "a.js" "." ⟨⟨0, 3⟩, ⟨0, 4⟩⟩] ∧
        done.store.store.edgesFrom "a.js@member@0@0" = .ok ["a.js@member@0@0", "a.js@.@0@3"] := by
  have hfresh : Database.fresh = Database.fresh.after [] := rfl
  obtain ⟨done, hrun, hdone, hstore, -, -⟩ :=
    tree_refusing (fun i => if i = 1 then some .readOnly else none) "a.js"
      (Sample.parser.parse .javascript "a.b.c") ⟨Database.fresh, {}, []⟩
  refine ⟨done, hrun, ?_, ?_, ?_⟩
  · rw [hdone.errors]
    decide
  · rw [hstore Database.fresh [] hfresh]
    decide
  · rw [hstore Database.fresh [] hfresh]
    decide

end Visit
end SyntaxGraph
