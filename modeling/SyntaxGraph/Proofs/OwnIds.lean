import Mathlib.Logic.Relation
import SyntaxGraph.Proofs.Collisions
import SyntaxGraph.Proofs.Refusals
import SyntaxGraph.Proofs.Replay
import SyntaxGraph.Proofs.SourceOrder

/-!
# Rows carry their own ids

The id of a node is made from the unsigned words of a span, and the columns of its row from the same
words taken for signed ones.  Modulo 2^64 nothing is lost, so every row says where its own id comes
from, also where a position has become negative.  Below 2^63 the two readings agree as text: id and
context line show the same digits.

An id can be claimed by several syntax nodes, and the first one keeps its row.  The row is then that of
the first syntax node as a whole, never a mixture.

## What is here

* `Node.CarriesOwnId` — a row whose columns give its id; `SyntaxTree.carriesOwnId_nodeIn` for the row of
  a syntax node.
* `Span.FitsSigned`, `SyntaxTree.shows_nodeIn` — what small positions look like.
* `Rerun` — runs on one store, between which the disk around it may change;
  `Handle.serves_of_reruns` says that the store can still be written to.
* `rows_carry_own_ids` — the rows after any number of runs.
-/

set_option autoImplicit false
namespace SyntaxGraph

/-! ## One row -/

/-- A word taken for a signed one is the same modulo 2^64. -/
theorem toInt_toInt64_emod (x : UInt64) : x.toInt64.toInt % 2 ^ 64 = x.toNat := by
  have hword : x.toInt64.toInt = x.toBitVec.toInt := rfl
  have hnat : x.toNat = x.toBitVec.toNat := rfl
  have hlt := x.toBitVec.isLt
  rw [hword, hnat, BitVec.toInt_eq_toNat_cond]
  split <;> omega

/-- Whether the id of a node is made of the node's own columns, the start being read modulo 2^64. -/
def Node.CarriesOwnId (n : Node) : Prop :=
  ∃ start : Point, (start.row.toNat : ℤ) = n.startRow.toInt % 2 ^ 64 ∧
    (start.col.toNat : ℤ) = n.startCol.toInt % 2 ^ 64 ∧ n.id = nodeId n.filepath n.kind start

/-- Whether all positions of a span are below 2^63. -/
structure Span.FitsSigned (s : Span) : Prop where
  startRow : s.start.row.toNat < 2 ^ 63
  startCol : s.start.col.toNat < 2 ^ 63
  stopRow : s.stop.row.toNat < 2 ^ 63
  stopCol : s.stop.col.toNat < 2 ^ 63

/-- A node that shows a span: in its id and in its context line the start has the same digits, and its
last columns are the end. -/
structure Node.Shows (n : Node) (s : Span) : Prop where
  id : n.id = n.filepath ++ "@" ++ n.kind ++ "@" ++ Decimal.ofNat s.start.row.toNat ++ "@" ++
    Decimal.ofNat s.start.col.toNat
  line : n.contextLine = n.filepath ++ " " ++ n.kind ++ " " ++
    Decimal.ofNat s.start.row.toNat ++ "," ++ Decimal.ofNat s.start.col.toNat ++ " " ++
    Decimal.ofNat s.stop.row.toNat ++ "," ++ Decimal.ofNat s.stop.col.toNat
  endRow : n.endRow.toInt = s.stop.row.toNat
  endCol : n.endCol.toInt = s.stop.col.toNat

/-- A number that is not negative has the text of a natural number. -/
theorem Decimal.ofInt_natCast (n : Nat) : Decimal.ofInt n = Decimal.ofNat n := rfl

namespace SyntaxTree

/-- The row of a syntax node carries its own id. -/
theorem carriesOwnId_nodeIn (filepath : String) (u : SyntaxTree) :
    (u.nodeIn filepath).CarriesOwnId :=
  ⟨u.span.start, (toInt_toInt64_emod _).symm, (toInt_toInt64_emod _).symm, rfl⟩

/-- The row of a syntax node shows its span, if that is small enough. -/
theorem shows_nodeIn (filepath : String) {u : SyntaxTree} (hfits : u.span.FitsSigned) :
    (u.nodeIn filepath).Shows u.span where
  id := rfl
  line := by
    simp only [Node.contextLine, nodeIn, Node.ofSyntax, Node.ofSpan, toInt_toInt64 hfits.startRow,
      toInt_toInt64 hfits.startCol, toInt_toInt64 hfits.stopRow, toInt_toInt64 hfits.stopCol,
      Decimal.ofInt_natCast]
  endRow := toInt_toInt64 hfits.stopRow
  endCol := toInt_toInt64 hfits.stopCol

end SyntaxTree

/-! ## Runs on one store -/

/-- What happens to a store that is indexed again and again: a run, of any project with any parser, or a
change of the disk that leaves the store as it is. -/
inductive Rerun : Handle × Disk → Handle × Disk → Prop
  | run (parser : Parser) (root : Path) (h : Handle) (d : Disk) :
    Rerun (h, d) (Index.onHandle parser root h d).2
  | edit (h : Handle) {d d' : Disk} (hkept : ∀ db, h.Serves d db → h.Serves d' db) :
    Rerun (h, d) (h, d')

namespace Handle

variable {h : Handle} {d : Disk} {db : Database}

/-- **A run on a store that can be written to** succeeds, and leaves one that holds what was built. -/
theorem Serves.onHandle (hs : h.Serves d db) (parser : Parser) (root : Path) :
    ∃ log h' d', Index.onHandle parser root h d =
        ((.ok (Index.build parser (d.walk root) (db.fill [] [])).report, log), h', d') ∧
      h'.Serves d' (Index.build parser (d.walk root) (db.fill [] [])).store := by
  have hwritable : (Connection.mk none db none false).Writable := ⟨hs.ready, rfl, rfl⟩
  obtain ⟨log, hrun⟩ := Index.project_of_writable hwritable parser (d.walk root)
  have hstore := (Index.written_build parser (d.walk root) db).store
  refine ⟨log, _, _, ?_, hs.put ?_ ?_⟩
  · rw [Index.onHandle, hs.connect]
    simp only [hrun]
  · rw [hstore, Database.isReady_fill]
    exact hs.ready
  · rw [hstore]
    rfl

/-- One step leaves a store that can be written to, in the same frame. -/
theorem serves_of_rerun {s s' : Handle × Disk} (hstep : Rerun s s') (hs : s.1.Serves s.2 db) :
    ∃ db', s'.1.Serves s'.2 db' ∧ db'.SameFrame db := by
  cases hstep with
  | run parser root h d =>
    obtain ⟨log, h', d', hrun, hs'⟩ := hs.onHandle parser root
    rw [hrun]
    exact ⟨_, hs', Index.build_store_fill db⟩
  | edit h hkept => exact ⟨db, hkept db hs, rfl⟩

/-- So do any steps. -/
theorem serves_of_reruns {s s' : Handle × Disk} (hsteps : Relation.ReflTransGen Rerun s s')
    (hs : s.1.Serves s.2 db) :
    ∃ db', s'.1.Serves s'.2 db' ∧ db'.SameFrame db := by
  induction hsteps with
  | refl => exact ⟨db, hs, rfl⟩
  | tail _ hstep ih =>
    obtain ⟨db₁, hs₁, hframe⟩ := ih
    obtain ⟨db₂, hs₂, hframe'⟩ := serves_of_rerun hstep hs₁
    exact ⟨db₂, hs₂, hframe'.trans hframe⟩

end Handle

namespace Index

/-- Every node of a project is that of a syntax node of one of its files. -/
theorem exists_of_mem_graphNodes {parser : Parser} {ws : List Walked} {n : Node}
    (hn : n ∈ graphNodes parser ws) :
    ∃ f ∈ parsed parser ws, ∃ u ∈ f.tree.subtrees, u.nodeIn f.filepath = n := by
  obtain ⟨f, hf, hnode⟩ := List.mem_flatMap.1 hn
  exact ⟨f, hf, ParsedFile.mem_nodes.1 hnode⟩

end Index

/-- **Every row carries its own id**, after any number of runs on a store that can be written to, of any
projects with any parsers.  The last run succeeds, the rows are the first of each id among those the
store does not refuse, and every one of them is the row of one syntax node of that run. -/
theorem rows_carry_own_ids {h₀ h : Handle} {d₀ d : Disk} {db₀ : Database} (hs : h₀.Serves d₀ db₀)
    (hpast : Relation.ReflTransGen Rerun (h₀, d₀) (h, d)) (parser : Parser) (root : Path) :
    ∃ report log h' d' ns, Index.onHandle parser root h d = ((.ok report, log), h', d') ∧
      h'.read d' (·.allNodes .natural) = (.ok ns, h', d') ∧
      ns = keepFirst Node.id ((Index.graphNodes parser (d.walk root)).filter db₀.takesNode) ∧
      ∀ n ∈ ns, n.CarriesOwnId ∧
        ∃ f ∈ Index.parsed parser (d.walk root), ∃ u ∈ f.tree.subtrees,
          n = u.nodeIn f.filepath ∧ (u.span.FitsSigned → n.Shows u.span) := by
  obtain ⟨db, hs', hframe⟩ := Handle.serves_of_reruns hpast hs
  obtain ⟨log, h', d', hrun, hserves⟩ := hs'.onHandle parser root
  have hstore := (Index.written_build parser (d.walk root) db).store
  have htakes : db.takesNode = db₀.takesNode := funext fun n => hframe.takes_eq (.node n)
  rw [hstore, htakes] at hserves
  refine ⟨_, log, h', d', _, hrun, ?_, rfl, ?_⟩
  · rw [hserves.read, Database.allNodes_fill hs'.ready]
    rfl
  · intro n hn
    have hgraph : n ∈ Index.graphNodes parser (d.walk root) :=
      List.mem_of_mem_filter (mem_of_mem_keepFirst Node.id hn)
    obtain ⟨f, hf, u, hu, rfl⟩ := Index.exists_of_mem_graphNodes hgraph
    exact ⟨u.carriesOwnId_nodeIn f.filepath, f, hf, u, hu, rfl, u.shows_nodeIn f.filepath⟩

/-! ## A position that becomes negative -/

namespace Sample

/-- A parser whose trees start in the last row there is, and end in the last that fits a signed word. -/
def farParser : Parser :=
  ⟨fun _ _ => .node "program" ⟨⟨18446744073709551615, 3⟩, ⟨9223372036854775807, 0⟩⟩ []⟩

/-- The row of such a tree. -/
def farNode : Node where
  id := "p/a\uFFFD.js@program@18446744073709551615@3"
  filepath := "p/a\uFFFD.js"
  kind := "program"
  startRow := -1
  startCol := 3
  endRow := 9223372036854775807
  endCol := 0

theorem graphNodes_far :
    Index.graphNodes farParser (twins.walk (Path.ofString "p")) = [farNode, farNode] := by
  rw [walk_twins]
  decide

end Sample

open Sample in
/-- A store is filled, and filled again by a parser with far positions. -/
theorem rows_carry_own_ids_far :
    Handle.inMemory.Serves twins .fresh ∧
      ∃ h report log h' d', Relation.ReflTransGen Rerun (Handle.inMemory, twins) (h, twins) ∧
        Index.onHandle farParser (Path.ofString "p") h twins = ((.ok report, log), h', d') ∧
        h'.read d' (·.allNodes .natural) = (.ok [farNode], h', d') ∧ farNode.CarriesOwnId := by
  have hs : Handle.inMemory.Serves twins .fresh := Handle.serves_own _ twins rfl
  have hpast : Relation.ReflTransGen Rerun (Handle.inMemory, twins)
      ((Index.onHandle rootParser (Path.ofString "p") .inMemory twins).2.1, twins) :=
    .single (.run rootParser (Path.ofString "p") .inMemory twins)
  obtain ⟨report, log, h', d', ns, hrun, hread, hns, hrows⟩ :=
    rows_carry_own_ids hs hpast farParser (Path.ofString "p")
  have hns' : ns = [farNode] := by
    rw [hns, graphNodes_far]
    decide
  subst hns'
  exact ⟨hs, _, report, log, h', d', hpast, hrun, hread, (hrows farNode (List.mem_singleton_self _)).1⟩

end SyntaxGraph
