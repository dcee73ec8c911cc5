import Mathlib.Data.List.Induction
import SyntaxGraph.Proofs.Store.Serving

/-!
# A store holds what was written to it

A store is written to row by row, or through a writer that keeps its rows to itself until it commits,
and it is read in six ways.  All of them agree with the history of the writes: what counts are the
writes since the store was last cleared, those of a committed writer included and those of a dropped
one left out; of each id the first node is there, and every edge.

The history is a list of calls, and `written` says which of its writes count.  A call keeps the store
in step with it (`Handle.Serves.perform`), hence a list of calls does (`Handle.Serves.performAll`).
Whether a row goes into a transaction or straight into the store makes no difference to what becomes
of it (`Connection.write_eq`), which is why the answers inside a writer follow the same rule.

## What is here

* `Write`, `StoreCall` — the calls, and `StoreCall.perform` — what they do.
* `written` — the writes that count; `Database.keptNodes`, `Database.keptEdges` — the rows they leave.
* `Handle.Replays` — what the readers and the next call answer.
* `Handle.replays_performAll` — that they do, after any calls.
-/

set_option autoImplicit false
namespace SyntaxGraph

/-! ## Calls -/

/-- A row offered to a store. -/
inductive Write where
  | node (n : Node)
  | edge (e : Edge)
deriving DecidableEq, Repr

/-- A call that may change a store. -/
inductive StoreCall where
  /-- One row. -/
  | write (w : Write)
  /-- Rows through a writer, which at the end commits or is dropped. -/
  | batch (ws : List Write) (commits : Bool)
  /-- Clearing. -/
  | clear
deriving DecidableEq, Repr

/-- What becomes of a row. -/
abbrev Answer := Except Fault InsertOutcome

namespace Connection

/-- Writes a row. -/
def write (c : Connection) : Write → Answer × Connection
  | .node n => c.insertNode n
  | .edge e => ((c.insertEdge e).1.map fun _ => .inserted, (c.insertEdge e).2)

/-- Writes rows, one after the other. -/
def writes (c : Connection) : List Write → List Answer × Connection
  | [] => ([], c)
  | w :: ws => ((c.write w).1 :: ((c.write w).2.writes ws).1, ((c.write w).2.writes ws).2)

/-- Writes rows through a writer. -/
def batch (ws : List Write) (commits : Bool) (c : Connection) :
    Except Fault (List Answer) × Connection :=
  match c.begin with
  | .error f => (.error f, c)
  | .ok c =>
    let (answers, c) := c.writes ws
    if commits then
      match c.commit with
      | (.error f, c) => (.error f, c)
      | (.ok (), c) => (.ok answers, c)
    else (.ok answers, c.rollback)

end Connection

namespace StoreCall

/-- Makes a call: what became of its rows, and the handle and the disk after it. -/
def perform (h : Handle) (d : Disk) : StoreCall → Except Fault (List Answer) × Handle × Disk
  | write w => (.ok [(h.applyChange d (·.write w)).1], (h.applyChange d (·.write w)).2)
  | batch ws commits => h.apply d (·.batch ws commits)
  | clear => ((h.apply d (·.clearAll)).1.map fun _ => [], (h.apply d (·.clearAll)).2)

/-- Makes calls, one after the other. -/
def performAll (h : Handle) (d : Disk) (calls : List StoreCall) : Handle × Disk :=
  calls.foldl (fun s call => (call.perform s.1 s.2).2) (h, d)

/-! ## Histories -/

/-- Whether a call clears the store. -/
def isClear : StoreCall → Bool
  | clear => true
  | _ => false

/-- The writes a call counts as.  A writer that is dropped counts as nothing. -/
def counted : StoreCall → List Write
  | write w => [w]
  | batch ws true => ws
  | batch _ false => []
  | clear => []

end StoreCall

/-- The writes that count after some calls: those since the last clearing, and if there was none, also
those before the calls. -/
def written (before : List Write) (calls : List StoreCall) : List Write :=
  (if calls.any StoreCall.isClear then [] else before) ++
    (calls.reverse.takeWhile (!·.isClear)).reverse.flatMap StoreCall.counted

theorem written_nil (before : List Write) : written before [] = before :=
  List.append_nil before

/-- One more call. -/
theorem written_concat (before : List Write) (calls : List StoreCall) (call : StoreCall) :
    written before (calls ++ [call]) =
      if call.isClear then [] else written before calls ++ call.counted := by
  cases hclear : call.isClear with
  | true => simp [written, hclear]
  | false => simp [written, hclear]

/-- The nodes among some writes. -/
def nodesOf (ws : List Write) : List Node :=
  ws.filterMap fun
    | .node n => some n
    | .edge _ => none

/-- The edges among some writes. -/
def edgesOf (ws : List Write) : List Edge :=
  ws.filterMap fun
    | .node _ => none
    | .edge e => some e

namespace Database

/-- The nodes that writes leave in a store: of each id the first, unless it is refused. -/
def keptNodes (db : Database) (ws : List Write) : List Node :=
  keepFirst Node.id ((nodesOf ws).filter db.takesNode)

/-- The edges that writes leave in a store: all that are not refused. -/
def keptEdges (db : Database) (ws : List Write) : List Edge :=
  (edgesOf ws).filter db.takesEdge

/-- What a store with a given frame holds after writes. -/
def after (db : Database) (ws : List Write) : Database :=
  db.fill (db.keptNodes ws) (db.keptEdges ws)

/-- What becomes of a row, after writes. -/
def answer (db : Database) (ws : List Write) : Write → Answer
  | .node n =>
    match db.nodeFault? n with
    | some f => .error f
    | none => .ok (if n.id ∈ (db.keptNodes ws).map Node.id then .ignored else .inserted)
  | .edge e =>
    match db.edgeFault? e with
    | some f => .error f
    | none => .ok .inserted

/-- What becomes of rows one after the other, after writes. -/
def answers (db : Database) (ws : List Write) : List Write → List Answer
  | [] => []
  | w :: more => db.answer ws w :: db.answers (ws ++ [w]) more

/-- What one more node leaves. -/
theorem keptNodes_concat_node (db : Database) (ws : List Write) (n : Node) :
    db.keptNodes (ws ++ [.node n]) =
      if db.takesNode n ∧ n.id ∉ (db.keptNodes ws).map Node.id then db.keptNodes ws ++ [n]
      else db.keptNodes ws := by
  have hnodes : nodesOf (ws ++ [.node n]) = nodesOf ws ++ [n] := by simp [nodesOf]
  rw [keptNodes, hnodes, List.filter_append]
  by_cases ht : db.takesNode n
  · rw [List.filter_cons_of_pos ht, List.filter_nil, keepFirst_concat]
    simp only [keptNodes, mem_map_keepFirst, ht, true_and]
    split <;> simp_all
  · rw [List.filter_cons_of_neg ht, List.filter_nil, List.append_nil, if_neg (by simp [ht])]
    rfl

theorem keptNodes_concat_edge (db : Database) (ws : List Write) (e : Edge) :
    db.keptNodes (ws ++ [.edge e]) = db.keptNodes ws := by
  have hnodes : nodesOf (ws ++ [.edge e]) = nodesOf ws := by simp [nodesOf]
  rw [keptNodes, hnodes, keptNodes]

theorem keptEdges_concat_node (db : Database) (ws : List Write) (n : Node) :
    db.keptEdges (ws ++ [.node n]) = db.keptEdges ws := by
  have hedges : edgesOf (ws ++ [.node n]) = edgesOf ws := by simp [edgesOf]
  rw [keptEdges, hedges, keptEdges]

/-- What one more edge leaves. -/
theorem keptEdges_concat_edge (db : Database) (ws : List Write) (e : Edge) :
    db.keptEdges (ws ++ [.edge e]) =
      if db.takesEdge e then db.keptEdges ws ++ [e] else db.keptEdges ws := by
  have hedges : edgesOf (ws ++ [.edge e]) = edgesOf ws ++ [e] := by simp [edgesOf]
  rw [keptEdges, hedges, List.filter_append, List.filter_singleton]
  split <;> simp_all [keptEdges]

/-- A row that is not inserted leaves nothing. -/
theorem after_concat_of_ne {db : Database} {ws : List Write} {w : Write}
    (h : db.answer ws w ≠ .ok .inserted) : db.after (ws ++ [w]) = db.after ws := by
  cases w with
  | node n =>
    rw [after, after, keptNodes_concat_node, keptEdges_concat_node, if_neg]
    rintro ⟨htakes, hid⟩
    rw [takesNode, Option.isNone_iff_eq_none] at htakes
    rw [answer, htakes] at h
    simp only [if_neg hid] at h
    exact h rfl
  | edge e =>
    rw [after, after, keptNodes_concat_edge, keptEdges_concat_edge, if_neg]
    intro htakes
    rw [takesEdge, Option.isNone_iff_eq_none] at htakes
    rw [answer, htakes] at h
    exact h rfl

end Database

/-! ## Writing -/

namespace Connection

variable {c : Connection} {db : Database} {ws : List Write}

theorem faultBefore?_of_free (hfree : c.obstacle = none) : c.faultBefore? = none := by
  rw [faultBefore?, faultAt?, faultAt?, hfree]
  rfl

theorem change_of_free (hfree : c.obstacle = none) (db : Database) :
    c.change db = (.ok (), c.put db) := by
  have hfault (stage : Stage) : c.faultAt? stage = none := by
    rw [faultAt?, hfree]
  simp [change, faultOfChange?, hfault]

theorem insertNode_of_free (hfree : c.obstacle = none) (n : Node) :
    c.insertNode n =
      match c.view.insertNode n with
      | .error f => (.error f, c)
      | .ok (.ignored, _) => (.ok .ignored, c)
      | .ok (.inserted, db) => (.ok .inserted, c.put db) := by
  rw [insertNode, faultBefore?_of_free hfree]
  cases ht : c.view.nodeTarget with
  | error f => simp only [Database.insertNode, ht]
  | ok t =>
    rcases c.view.insertNode n with f | ⟨_ | _, db⟩
    · rfl
    · simp only [change_of_free hfree]
    · rfl

theorem insertEdge_of_free (hfree : c.obstacle = none) (e : Edge) :
    c.insertEdge e =
      match c.view.insertEdge e with
      | .error f => (.error f, c)
      | .ok db => (.ok (), c.put db) := by
  rw [insertEdge, faultBefore?_of_free hfree]
  cases ht : c.view.edgeTarget with
  | error f => simp only [Database.insertEdge, ht]
  | ok t =>
    rcases c.view.insertEdge e with f | db
    · rfl
    · simp only [change_of_free hfree]

/-- **Writing a row**, inside a transaction or outside: it is answered by what is there, and only a row
that is inserted changes anything. -/
theorem write_eq (hfree : c.obstacle = none) (hview : c.view = db.after ws) (w : Write) :
    c.write w = (db.answer ws w,
      match db.answer ws w with
      | .ok .inserted => c.put (db.after (ws ++ [w]))
      | _ => c) := by
  cases w with
  | node n =>
    rw [write, insertNode_of_free hfree, hview, Database.after, Database.insertNode_fill,
      Database.answer, Database.after, Database.keptNodes_concat_node,
      Database.keptEdges_concat_node, Database.takesNode]
    cases db.nodeFault? n with
    | some f => rfl
    | none => by_cases hid : n.id ∈ (db.keptNodes ws).map Node.id <;> simp [hid]
  | edge e =>
    rw [write, insertEdge_of_free hfree, hview, Database.after, Database.insertEdge_fill,
      Database.answer, Database.after, Database.keptNodes_concat_edge,
      Database.keptEdges_concat_edge, Database.takesEdge]
    cases db.edgeFault? e with
    | some f => rfl
    | none => simp [Except.map]

/-- Whether a connection has come to see a database, and is as it was if it saw it before. -/
def ComesToSee (c : Connection) (db : Database) (c' : Connection) : Prop :=
  c' = c ∧ c.view = db ∨ c' = c.put db

theorem ComesToSee.view_eq {c' : Connection} (h : c.ComesToSee db c') : c'.view = db := by
  rcases h with ⟨rfl, hview⟩ | rfl
  · exact hview
  · exact view_put c db

theorem obstacle_put (c : Connection) (db : Database) : (c.put db).obstacle = c.obstacle := by
  unfold put
  cases c.working <;> rfl

theorem put_put (c : Connection) (db db' : Database) : (c.put db).put db' = c.put db' := by
  unfold put
  cases c.working <;> rfl

theorem ComesToSee.trans {c' c'' : Connection} {db' : Database} (h : c.ComesToSee db c')
    (h' : c'.ComesToSee db' c'') : c.ComesToSee db' c'' := by
  rcases h with ⟨rfl, -⟩ | rfl
  · exact h'
  · rcases h' with ⟨rfl, hview⟩ | rfl
    · rw [view_put] at hview
      exact .inr (by rw [hview])
    · exact .inr (put_put c db db')

/-- Writing a row, as a step. -/
theorem comesToSee_write (hfree : c.obstacle = none) (hview : c.view = db.after ws) (w : Write) :
    c.ComesToSee (db.after (ws ++ [w])) (c.write w).2 := by
  rw [write_eq hfree hview]
  split
  · exact .inr rfl
  · rename_i hanswer
    refine .inl ⟨rfl, ?_⟩
    rw [hview, Database.after_concat_of_ne hanswer]

/-- **Writing rows one after the other.** -/
theorem writes_eq (hfree : c.obstacle = none) (hview : c.view = db.after ws) (more : List Write) :
    (c.writes more).1 = db.answers ws more ∧
      c.ComesToSee (db.after (ws ++ more)) (c.writes more).2 := by
  induction more generalizing c ws with
  | nil => exact ⟨rfl, .inl ⟨rfl, by rw [hview, List.append_nil]⟩⟩
  | cons w more ih =>
    have hstep := comesToSee_write hfree hview w
    have hfree' : (c.write w).2.obstacle = none := by
      rcases hstep with ⟨heq, -⟩ | heq
      · rw [heq, hfree]
      · rw [heq, obstacle_put, hfree]
    obtain ⟨hanswers, hrest⟩ := ih hfree' hstep.view_eq
    refine ⟨?_, ?_⟩
    · rw [writes, Database.answers, hanswers, write_eq hfree hview]
    · rw [writes, List.append_cons]
      exact hstep.trans hrest

/-- **Writing through a writer** that commits is writing; one that is dropped changes nothing. -/
theorem batch_eq (db : Database) (ws more : List Write) (commits : Bool) :
    ∃ c', (ofDatabase none (db.after ws)).batch more commits = (.ok (db.answers ws more), c') ∧
      (ofDatabase none (db.after ws)).ComesToSee
        (db.after (ws ++ (StoreCall.batch more commits).counted)) c' := by
  have hbegin : (ofDatabase none (db.after ws)).begin =
      .ok ⟨none, db.after ws, some (db.after ws), false⟩ := rfl
  have hview : (Connection.mk none (db.after ws) (some (db.after ws)) false).view = db.after ws := rfl
  obtain ⟨hanswers, hsees⟩ := writes_eq rfl hview more
  cases hwrites : writes ⟨none, db.after ws, some (db.after ws), false⟩ more with
  | mk answers c' =>
    rw [hwrites] at hanswers hsees
    subst hanswers
    simp only [batch, hbegin, hwrites]
    cases commits with
    | true =>
      rcases hsees with ⟨rfl, hview⟩ | rfl
      · exact ⟨_, rfl, .inl ⟨rfl, hview⟩⟩
      · exact ⟨_, rfl, .inr rfl⟩
    | false =>
      refine ⟨_, rfl, .inl ⟨?_, ?_⟩⟩
      · rcases hsees with ⟨rfl, -⟩ | rfl <;> rfl
      · rw [StoreCall.counted, List.append_nil]
        rfl

/-- Clearing leaves a store to which nothing has been written. -/
theorem clearAll_after (hready : db.isReady) (ws : List Write) :
    (ofDatabase none (db.after ws)).clearAll =
      (.ok (), (ofDatabase none (db.after ws)).put (db.after [])) := by
  have hwritable : (ofDatabase none (db.after ws)).Writable :=
    ⟨by rw [ofDatabase, Database.after, Database.isReady_fill]; exact hready, rfl, rfl⟩
  rw [clearAll_of_clearable hwritable.clearable]
  simp only [ofDatabase, Database.after, Database.fill_fill]
  rfl

end Connection

/-! ## Histories of a store -/

/-- What becomes of the rows of a call, after writes. -/
def Database.answersTo (db : Database) (ws : List Write) : StoreCall → List Answer
  | .write w => [db.answer ws w]
  | .batch more _ => db.answers ws more
  | .clear => []

namespace Handle

variable {h : Handle} {d : Disk} {db : Database} {ws : List Write}

/-- What comes to be seen on the connection of a store is what the store then holds. -/
theorem Serves.keep (hs : h.Serves d (db.after ws)) {ws' : List Write} {c : Connection}
    (hc : (Connection.ofDatabase none (db.after ws)).ComesToSee (db.after ws') c) :
    (h.keep d c).1.Serves (h.keep d c).2 (db.after ws') := by
  rcases hc with ⟨rfl, hview⟩ | rfl
  · rw [Connection.ofDatabase, hs.keep_self, ← hview]
    exact hs
  · refine hs.put ?_ rfl
    rw [Database.after, Database.isReady_fill]
    have hready := hs.ready
    rwa [Database.after, Database.isReady_fill] at hready

/-- **One call** answers by what is there, and keeps the store in step with the history. -/
theorem Serves.perform (hs : h.Serves d (db.after ws)) (call : StoreCall) :
    (call.perform h d).1 = .ok (db.answersTo ws call) ∧
      (call.perform h d).2.1.Serves (call.perform h d).2.2
        (db.after (if call.isClear then [] else ws ++ call.counted)) := by
  cases call with
  | write w =>
    have hstep := Connection.comesToSee_write (c := .ofDatabase none (db.after ws)) rfl rfl w
    simp only [StoreCall.perform, hs.applyChange, hs.apply]
    exact ⟨by rw [Connection.write_eq rfl rfl]; rfl, hs.keep hstep⟩
  | batch more commits =>
    obtain ⟨c', hbatch, hsees⟩ := Connection.batch_eq db ws more commits
    rw [Connection.ofDatabase] at hbatch
    simp only [StoreCall.perform, hs.apply, hbatch]
    exact ⟨rfl, hs.keep hsees⟩
  | clear =>
    have hready := hs.ready
    rw [Database.after, Database.isReady_fill] at hready
    have hclear := Connection.clearAll_after hready ws
    rw [Connection.ofDatabase] at hclear
    simp only [StoreCall.perform, hs.apply, hclear]
    exact ⟨rfl, hs.keep (.inr rfl)⟩

/-- **Any calls** keep the store in step with the history. -/
theorem Serves.performAll {before : List Write} (hs : h.Serves d (db.after before))
    (calls : List StoreCall) :
    (StoreCall.performAll h d calls).1.Serves (StoreCall.performAll h d calls).2
      (db.after (written before calls)) := by
  induction calls using List.reverseRecOn with
  | nil =>
    rw [written_nil]
    exact hs
  | append_singleton calls call ih =>
    rw [StoreCall.performAll, List.foldl_append, written_concat]
    exact (ih.perform call).2

end Handle

/-! ## Reading -/

/-- A list of nodes sorted by the bytes of the path, then the start row, then the start column as
signed numbers.  Nodes that agree in these keep their order. -/
structure IsStableSort (ns sorted : List Node) : Prop where
  perm : sorted.Perm ns
  ordered : sorted.Pairwise fun a b => a.mayPrecede b
  stable : ∀ a, ties Node.compare a sorted = ties Node.compare a ns

theorem isStableSort_ordered (ns : List Node) : IsStableSort ns (Node.ordered .sorted ns) where
  perm := List.mergeSort_perm ns _
  ordered := List.pairwise_mergeSort (fun _ _ _ => Std.TransCmp.isLE_trans)
    (isLE_total Node.compare) ns
  stable a := ties_mergeSort Node.compare a ns

/-- What a store with a given frame answers after writes.  Reading changes nothing, neither the handle
nor the disk. -/
structure Handle.Replays (h : Handle) (d : Disk) (db : Database) (ws : List Write) : Prop where
  /-- No two nodes have one id. -/
  ids : ((db.keptNodes ws).map Node.id).Nodup
  natural : h.read d (·.allNodes .natural) = (.ok (db.keptNodes ws), h, d)
  sorted : ∃ ns, h.read d (·.allNodes .sorted) = (.ok ns, h, d) ∧ IsStableSort (db.keptNodes ws) ns
  node : ∀ id, h.read d (·.getNode? id) = (.ok ((db.keptNodes ws).find? (·.id = id)), h, d)
  edges : h.read d (·.allEdges) = (.ok (db.keptEdges ws), h, d)
  children : ∀ parent, h.read d (·.edgesFrom parent) =
    (.ok (((db.keptEdges ws).filter (·.parent = parent)).map Edge.child), h, d)
  stats : h.read d (·.stats) =
    (.ok ⟨(db.keptNodes ws).length, (db.keptEdges ws).length,
      ((db.keptNodes ws).map Node.filepath).toFinset.card⟩, h, d)
  /-- A node whose id is there is ignored, and nothing changes. -/
  ignores : ∀ n, db.takesNode n → n.id ∈ (db.keptNodes ws).map Node.id →
    h.applyChange d (·.insertNode n) = (.ok .ignored, h, d)
  /-- A node whose id is not there is inserted. -/
  inserts : ∀ n, db.takesNode n → n.id ∉ (db.keptNodes ws).map Node.id →
    (h.applyChange d (·.insertNode n)).1 = .ok .inserted
  /-- The same goes for every row of a writer, those before it counted, and clearing succeeds. -/
  calls : ∀ call : StoreCall, (call.perform h d).1 = .ok (db.answersTo ws call)

namespace Handle

variable {h : Handle} {d : Disk} {db : Database}

/-- A store in step with a history answers by it. -/
theorem Serves.replays {ws : List Write} (hs : h.Serves d (db.after ws)) :
    h.Replays d db ws := by
  have hready := hs.ready
  rw [Database.after, Database.isReady_fill] at hready
  obtain ⟨t, u, ht, hu, -, -⟩ := (Database.isReady_iff db).1 hready
  have hinsert (n : Node) : h.applyChange d (·.insertNode n) =
      ((Connection.ofDatabase none (db.after ws)).write (.node n) |>.1,
        h.keep d ((Connection.ofDatabase none (db.after ws)).write (.node n)).2) := by
    rw [hs.applyChange, hs.apply]
    rfl
  refine ⟨nodup_keepFirst Node.id _, ?_, ⟨_, ?_, isStableSort_ordered _⟩, fun id => ?_, ?_,
    fun parent => ?_, ?_, fun n htakes hid => ?_, fun n htakes hid => ?_,
    fun call => (hs.perform call).1⟩
  · rw [hs.read, Database.after, Database.allNodes_fill hready]
    rfl
  · rw [hs.read, Database.after, Database.allNodes_fill hready]
  · rw [hs.read, Database.after, Database.getNode?_fill hready]
  · rw [hs.read, Database.after, Database.allEdges_fill hready]
  · rw [hs.read, Database.after, Database.edgesFrom_fill hready]
  · rw [hs.read, Database.after, Database.stats_fill ⟨t, u, ht, hu⟩, Database.fileCount_map_ofNode]
  · rw [Database.takesNode, Option.isNone_iff_eq_none] at htakes
    rw [hinsert, Connection.write_eq rfl rfl]
    simp only [Database.answer, htakes, if_pos hid]
    rw [Connection.ofDatabase, hs.keep_self]
  · rw [Database.takesNode, Option.isNone_iff_eq_none] at htakes
    rw [hinsert, Connection.write_eq rfl rfl]
    simp only [Database.answer, htakes, if_neg hid]

/-- **All readers agree with the history.**  Take a store that can be written to, new or with what
earlier writes have left in it, and make any calls of it, in any order.  Then its readers, and what
it answers to the next call, are given by the writes that count. -/
theorem replays_performAll {before : List Write} (hs : h.Serves d (db.after before))
    (calls : List StoreCall) :
    (StoreCall.performAll h d calls).1.Replays (StoreCall.performAll h d calls).2 db
      (written before calls) :=
  (hs.performAll calls).replays

end Handle

/-! ## A small history -/

namespace Sample

/-- A node that starts where its file starts. -/
def nodeUpTo (kind : String) (stop : Point) : Node :=
  .ofSyntax "a.js" kind ⟨⟨0, 0⟩, stop⟩

/-- An edge between two nodes of the file. -/
def edgeBetween (kind kind' : String) : Edge :=
  ⟨nodeId "a.js" kind ⟨0, 0⟩, nodeId "a.js" kind' ⟨0, 0⟩⟩

/-- Something is written and cleared; then a node is written twice, the second time with another end,
and an edge twice; and at last a writer is dropped. -/
def calls : List StoreCall :=
  [.write (.node (nodeUpTo "comment" ⟨0, 2⟩)), .clear, .write (.node (nodeUpTo "program" ⟨1, 0⟩)),
    .batch [.node (nodeUpTo "program" ⟨7, 7⟩), .node (nodeUpTo "identifier" ⟨0, 1⟩),
      .edge (edgeBetween "program" "identifier"), .edge (edgeBetween "program" "identifier")] true,
    .batch [.node (nodeUpTo "comment" ⟨0, 2⟩)] false]

/-- A disk with a new store, the log of which is open. -/
def shelf : Disk where
  top := [(Utf8.ofString "g", .file 0), (Utf8.ofString "g-wal", .file 1),
    (Utf8.ofString "g-shm", .file 2)]
  contents := [.database { Database.fresh with logged := true }, .bytes [], .bytes indexMark]
  cwd := []
  openLogs := [(0, ⟨some 1, true⟩)]

/-- The handle of that store. -/
def shelved : Handle :=
  ⟨Path.ofString "g", .shared ⟨0, [Utf8.ofString "g"], false, false, false, false,
    some ⟨some 1, true⟩⟩, none⟩

theorem serves_shelved :
    shelved.Serves shelf (Database.after { Database.fresh with logged := true } []) where
  connect := rfl
  ready := rfl
  kept := by
    intro id hid
    cases hid
    decide

end Sample

open Sample in
/-- A private store and one with a log. -/
theorem Handle.replays_performAll_samples :
    Database.fresh.keptNodes (written [] calls) =
        [nodeUpTo "program" ⟨1, 0⟩, nodeUpTo "identifier" ⟨0, 1⟩] ∧
      Database.fresh.keptEdges (written [] calls) =
        [edgeBetween "program" "identifier", edgeBetween "program" "identifier"] ∧
      inMemory.Serves shelf (Database.fresh.after []) ∧
      (StoreCall.performAll inMemory shelf calls).1.Replays
        (StoreCall.performAll inMemory shelf calls).2 .fresh (written [] calls) ∧
      shelved.Serves shelf (Database.after { Database.fresh with logged := true } []) ∧
      (StoreCall.performAll shelved shelf calls).1.Replays
        (StoreCall.performAll shelved shelf calls).2 { Database.fresh with logged := true }
        (written [] calls) := by
  have hmemory : inMemory.Serves shelf (Database.fresh.after []) := serves_own _ shelf rfl
  exact ⟨by decide, by decide, hmemory, replays_performAll hmemory calls, serves_shelved,
    replays_performAll serves_shelved calls⟩

end SyntaxGraph
