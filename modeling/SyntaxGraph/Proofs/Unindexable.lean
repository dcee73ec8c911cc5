import SyntaxGraph.Proofs.Accounting
import SyntaxGraph.Proofs.WalkOrder

/-!
# What cannot be indexed leaves no trace

A walk reports more than is indexed: places it cannot read, directories and pipes, files of no known
language, files that cannot be opened or are not text.  Each of them is passed over at another point of a run, after other
counters have been kept, and the run goes on with what comes next.  None of them shows in the graph or
in the counters of the graph: a run does there what it would have done had the walk not come across
them.

This is a statement about two runs.  Both write the graph of the files that are indexed, and in the
same order (`Thinned.parsed_eq`); the rest follows from what `Written` says of a run.
-/

set_option autoImplicit false
namespace SyntaxGraph

/-- The entries of a walk that are not indexed, each for its own reason. -/
inductive Walked.Unindexable : Walked → Prop
  /-- The walk could not read it. -/
  | unreadable (path : Path) (error : OsError) : Unindexable (.unreadable path error)
  /-- It is no regular file, and no link to one. -/
  | other (path : Path) : Unindexable (.other path)
  /-- Its name belongs to no language. -/
  | unsupported {path : Path} (content : Bytes) (h : Language.ofPath? path = none) :
      Unindexable (.file path content)
  /-- It cannot be opened. -/
  | unopened (path : Path) (error : OsError) : Unindexable (.unopened path error)
  /-- Its bytes are not UTF-8. -/
  | notText (path : Path) {content : Bytes} (h : Utf8.text? content = none) :
      Unindexable (.file path content)

/-- There is a tree for every other entry, and for no such one. -/
theorem Walked.parsed?_eq_none_iff (parser : Parser) (w : Walked) :
    w.parsed? parser = none ↔ w.Unindexable := by
  constructor
  · intro h
    cases w with
    | unreadable path error => exact .unreadable path error
    | other path => exact .other path
    | unopened path error => exact .unopened path error
    | file path content =>
      cases hl : Language.ofPath? path with
      | none => exact .unsupported content hl
      | some language =>
        cases ht : Utf8.text? content with
        | none => exact .notText path ht
        | some source =>
          rw [parsed?, hl, ht] at h
          cases h
  · intro h
    cases h with
    | unreadable path error => rfl
    | other path => rfl
    | unopened path error => rfl
    | unsupported content hl => rw [parsed?, hl]
    | notText path ht =>
      rw [parsed?, ht]
      cases Language.ofPath? path <;> rfl

/-- `Thinned ws ws'` says that `ws'` is the walk `ws` without some of its entries, none of which can be
indexed. -/
inductive Thinned : List Walked → List Walked → Prop
  | nil : Thinned [] []
  | keep {ws ws' : List Walked} (w : Walked) (h : Thinned ws ws') : Thinned (w :: ws) (w :: ws')
  | drop {ws ws' : List Walked} {w : Walked} (hw : w.Unindexable) (h : Thinned ws ws') :
      Thinned (w :: ws) ws'

/-- The same files are indexed, in the same order. -/
theorem Thinned.parsed_eq {ws ws' : List Walked} (h : Thinned ws ws') (parser : Parser) :
    Index.parsed parser ws = Index.parsed parser ws' := by
  induction h with
  | nil => rfl
  | keep w _ ih => rw [Index.parsed_cons, Index.parsed_cons, ih]
  | drop hw _ ih =>
    rw [Index.parsed_cons, (Walked.parsed?_eq_none_iff parser _).2 hw, ih]
    rfl

namespace Index

variable {parser : Parser} {ws ws' : List Walked}

/-- The graph and the counters that are about it depend on the files that are indexed only. -/
theorem build_eq_of_parsed_eq (h : parsed parser ws = parsed parser ws') (db : Database) :
    (build parser ws (db.fill [] [])).store = (build parser ws' (db.fill [] [])).store ∧
      (build parser ws (db.fill [] [])).report.filesIndexed =
        (build parser ws' (db.fill [] [])).report.filesIndexed ∧
      (build parser ws (db.fill [] [])).report.writes =
        (build parser ws' (db.fill [] [])).report.writes := by
  have hnodes : graphNodes parser ws = graphNodes parser ws' := by rw [graphNodes, graphNodes, h]
  have hedges : graphEdges parser ws = graphEdges parser ws' := by rw [graphEdges, graphEdges, h]
  have hwritten := written_build parser ws db
  have hwritten' := written_build parser ws' db
  refine ⟨?_, ?_, ?_⟩
  · rw [hwritten.store, hwritten'.store, hnodes, hedges]
  · have hindexed := (tallied_build parser ws (db.fill [] [])).indexed
    have hindexed' := (tallied_build parser ws' (db.fill [] [])).indexed
    rw [← h] at hindexed'
    exact hindexed.trans hindexed'.symm
  · exact hwritten.writes_eq hwritten' ⟨rfl, rfl⟩ (.of_eq hnodes) (.of_eq hedges)

/-- **What cannot be indexed leaves no trace.**  Take a walk and leave out some of what it reports, but
nothing that can be indexed; index both in stores that can be cleared and differ in their rows at
most.  Both runs succeed and leave the same in the two stores, in particular the same nodes and the
same edges in the same order; and they agree on how many files were indexed and on all counters of
nodes, edges and refusals. -/
theorem project_eq_of_thinned {c c' : Connection} (hthin : Thinned ws ws') (hc : c.Clearable)
    (hc' : c'.Clearable) (hframe : c.stored.SameFrame c'.stored) :
    ∃ r r' log log' done done',
      project parser ws c = ((.ok r, log), done) ∧
      project parser ws' c' = ((.ok r', log'), done') ∧
      done.view = done'.view ∧
      (done.view.isReady → ∃ ns es,
        done.view.allNodes .natural = .ok ns ∧ done'.view.allNodes .natural = .ok ns ∧
        done.view.allEdges = .ok es ∧ done'.view.allEdges = .ok es) ∧
      r.filesIndexed = r'.filesIndexed ∧ r.writes = r'.writes := by
  obtain ⟨log, h⟩ := project_of_clearable hc parser ws
  obtain ⟨log', h'⟩ := project_of_clearable hc' parser ws'
  rw [Database.SameFrame] at hframe
  rw [← hframe] at h'
  obtain ⟨hstore, hindexed, hwrites⟩ := build_eq_of_parsed_eq (hthin.parsed_eq parser) c.stored
  refine ⟨_, _, log, log', _, _, h, h', ?_, ?_, hindexed, hwrites⟩
  · simp only [Connection.view, hc.idle, hc'.idle, Option.getD_none, hstore]
  · simp only [Connection.view, hc.idle, hc'.idle, Option.getD_none, ← hstore,
      (written_build parser ws c.stored).store, Database.isReady_fill]
    intro hready
    exact ⟨_, _, Database.allNodes_fill hready _ _ _, Database.allNodes_fill hready _ _ _,
      Database.allEdges_fill hready _ _, Database.allEdges_fill hready _ _⟩

/-- A walk of the sample project that comes across all that cannot be indexed. -/
def litteredWalk : List Walked :=
  [.unreadable (Path.ofString "src/gone") .notFound, .other (Path.ofString "src"),
    Sample.file "src/b.js", .other (Path.ofString "src/pipe"), Sample.file "src/notes.md",
    .file (Path.ofString "src/broken.js") [0xff, 0xfe], Sample.file "src/a.ts"]

/-- The same walk without most of it. -/
def tidyWalk : List Walked :=
  [.other (Path.ofString "src"), Sample.file "src/b.js", Sample.file "src/a.ts"]

theorem project_eq_of_thinned_litteredWalk :
    Thinned litteredWalk tidyWalk ∧ staleStore.Clearable ∧ newStore.Clearable ∧
      staleStore.stored.SameFrame newStore.stored ∧
      ∃ r r' log log' done done',
        project Sample.parser litteredWalk staleStore = ((.ok r, log), done) ∧
        project Sample.parser tidyWalk newStore = ((.ok r', log'), done') ∧
        done.view = done'.view ∧
        (done.view.isReady → ∃ ns es,
          done.view.allNodes .natural = .ok ns ∧ done'.view.allNodes .natural = .ok ns ∧
          done.view.allEdges = .ok es ∧ done'.view.allEdges = .ok es) ∧
        r.filesIndexed = r'.filesIndexed ∧ r.writes = r'.writes := by
  have hthin : Thinned litteredWalk tidyWalk :=
    .drop (.unreadable _ _) <| .keep _ <| .keep _ <| .drop (.other _) <|
      .drop (.unsupported _ rfl) <| .drop (.notText _ rfl) <| .keep _ .nil
  have hstale : staleStore.Clearable := ⟨⟨_, _, rfl, rfl⟩, rfl, rfl⟩
  have hnew : newStore.Clearable := ⟨⟨_, _, rfl, rfl⟩, rfl, rfl⟩
  have hframe : staleStore.stored.SameFrame newStore.stored := rfl
  exact ⟨hthin, hstale, hnew, hframe, project_eq_of_thinned hthin hstale hnew hframe⟩

end Index
end SyntaxGraph
