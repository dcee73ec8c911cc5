import Mathlib
import SyntaxGraph.Proofs.Accounting
import SyntaxGraph.Proofs.WalkOrder

/-!
# Which nodes a run drops

A node is dropped when its id is taken.  An id is made of the text of a path, a kind and a place, and
the text of a path is a forgiving reading of its bytes: what is no character becomes U+FFFD.  So two
files with different names may come to share all their ids, and the store then takes them for one.

What is dropped, and how many files the store counts, is therefore a matter of the texts.  Files with
one text compete with each other and with nobody else, and of all their nodes together one is kept
for each kind and start.  As long as no two files have one text, nodes are dropped only because of
others in the same tree.

## What is here

* `SyntaxTree.marks` — the kinds and starts of a tree, which is what its ids are made of besides the
  path.
* `card_ids` — how many ids files have, path by path.
* `Index.project_drops_by_path` — how many nodes a run drops, and how many files the store counts.
* `Sample.twins`, `Index.project_twins` — two files with one text, and that they lose nodes to each
  other.
-/

set_option autoImplicit false
namespace SyntaxGraph

/-! ## What ids are made of -/

namespace SyntaxTree

mutual

/-- The kind and the start of every node of a tree, in pre-order. -/
def marks : SyntaxTree → List (String × Point)
  | .node kind span children => (kind, span.start) :: marksAll children

/-- The kind and the start of every node of some trees, tree by tree. -/
def marksAll : List SyntaxTree → List (String × Point)
  | [] => []
  | t :: ts => marks t ++ marksAll ts

end

mutual

/-- The ids of a tree's nodes are made of its marks. -/
theorem map_nodesIn (filepath : String) (t : SyntaxTree) :
    (t.nodesIn filepath).map (fun n => (n.id, n.kind)) =
      t.marks.map fun m => (nodeId filepath m.1 m.2, m.1) := by
  cases t with
  | node kind span children =>
    rw [nodesIn, marks, List.map_cons, List.map_cons, map_nodesInAll filepath children]
    rfl

theorem map_nodesInAll (filepath : String) (ts : List SyntaxTree) :
    (nodesInAll filepath ts).map (fun n => (n.id, n.kind)) =
      (marksAll ts).map fun m => (nodeId filepath m.1 m.2, m.1) := by
  cases ts with
  | nil => rfl
  | cons t ts =>
    rw [nodesInAll, marksAll, List.map_append, List.map_append, map_nodesIn filepath t,
      map_nodesInAll filepath ts]

end

end SyntaxTree

/-- The ids of a file. -/
theorem ParsedFile.map_id_nodes (f : ParsedFile) :
    f.nodes.map Node.id = f.tree.marks.map fun m => nodeId f.filepath m.1 m.2 := by
  have h := congrArg (List.map Prod.fst) (SyntaxTree.map_nodesIn f.filepath f.tree)
  rw [List.map_map, List.map_map] at h
  exact h

theorem HasPlainKinds.of_mem_marks {fs : List ParsedFile} (h : HasPlainKinds fs) {f : ParsedFile}
    (hf : f ∈ fs) {m : String × Point} (hm : m ∈ f.tree.marks) : IsPlainKind m.1 := by
  have hpair := List.mem_map_of_mem (f := fun m : String × Point => (nodeId f.filepath m.1 m.2, m.1)) hm
  rw [← SyntaxTree.map_nodesIn] at hpair
  obtain ⟨n, hn, heq⟩ := List.mem_map.1 hpair
  rw [Prod.mk.injEq] at heq
  exact heq.2 ▸ h f hf n hn

/-- Files with one path have as many ids as they have marks. -/
theorem card_ids_of_path {fs : List ParsedFile} (h : HasPlainKinds fs) {text : String}
    (htext : ∀ f ∈ fs, f.filepath = text) :
    ((fs.flatMap ParsedFile.nodes).map Node.id).toFinset.card =
      (fs.flatMap fun f => f.tree.marks).toFinset.card := by
  have hids : (fs.flatMap ParsedFile.nodes).map Node.id =
      (fs.flatMap fun f => f.tree.marks).map fun m => nodeId text m.1 m.2 := by
    rw [List.map_flatMap, List.map_flatMap]
    refine List.flatMap_congr fun f hf => ?_
    rw [ParsedFile.map_id_nodes, htext f hf]
  have hplain {m : String × Point} (hm : m ∈ fs.flatMap fun f => f.tree.marks) :
      IsPlainKind m.1 := by
    obtain ⟨f, hf, hm⟩ := List.mem_flatMap.1 hm
    exact h.of_mem_marks hf hm
  rw [hids]
  refine card_toFinset_map fun m hm m' hm' heq => ?_
  obtain ⟨-, hkind, hstart⟩ := nodeId_injective (hplain hm) (hplain hm') heq
  exact Prod.ext hkind hstart

/-! ## Path by path -/

/-- The texts of the paths of files. -/
def pathTexts (fs : List ParsedFile) : List String :=
  fs.map ParsedFile.filepath

/-- The files whose path has a given text. -/
def filesAt (fs : List ParsedFile) (text : String) : List ParsedFile :=
  fs.filter fun f => f.filepath = text

/-- How many nodes are dropped of files with one path: all but one for each kind and start. -/
def dropped (fs : List ParsedFile) : Nat :=
  (fs.map fun f => f.tree.size).sum - (fs.flatMap fun f => f.tree.marks).toFinset.card

theorem mem_filesAt {fs : List ParsedFile} {text : String} {f : ParsedFile} :
    f ∈ filesAt fs text ↔ f ∈ fs ∧ f.filepath = text := by
  rw [filesAt, List.mem_filter, decide_eq_true_eq]

theorem HasPlainKinds.filesAt {fs : List ParsedFile} (h : HasPlainKinds fs) (text : String) :
    HasPlainKinds (filesAt fs text) :=
  fun f hf => h f (mem_filesAt.1 hf).1

/-- Files do not compete for ids unless their paths have one text. -/
theorem card_ids {fs : List ParsedFile} (h : HasPlainKinds fs) :
    ((fs.flatMap ParsedFile.nodes).map Node.id).toFinset.card =
      ∑ text ∈ (pathTexts fs).toFinset,
        ((filesAt fs text).flatMap fun f => f.tree.marks).toFinset.card := by
  have hunion : ((fs.flatMap ParsedFile.nodes).map Node.id).toFinset =
      (pathTexts fs).toFinset.biUnion fun text =>
        (((filesAt fs text).flatMap ParsedFile.nodes).map Node.id).toFinset := by
    ext id
    simp only [List.mem_toFinset, Finset.mem_biUnion, pathTexts, List.mem_map, List.mem_flatMap,
      mem_filesAt]
    constructor
    · rintro ⟨n, ⟨f, hf, hn⟩, rfl⟩
      exact ⟨f.filepath, ⟨f, hf, rfl⟩, n, ⟨f, ⟨hf, rfl⟩, hn⟩, rfl⟩
    · rintro ⟨-, -, n, ⟨f, ⟨hf, -⟩, hn⟩, rfl⟩
      exact ⟨n, ⟨f, hf, hn⟩, rfl⟩
  rw [hunion, Finset.card_biUnion]
  · exact Finset.sum_congr rfl fun text _ =>
      card_ids_of_path (h.filesAt text) fun f hf => (mem_filesAt.1 hf).2
  · -- an id tells the text of the path it was made with
    intro text _ text' _ hne
    simp only [Function.onFun, Finset.disjoint_left, List.mem_toFinset, List.mem_map,
      List.mem_flatMap, mem_filesAt]
    rintro id ⟨n, ⟨f, ⟨hf, rfl⟩, hn⟩, rfl⟩ ⟨m, ⟨g, ⟨hg, rfl⟩, hm⟩, hid⟩
    exact hne (h.filepath_eq hf hg hn hm hid.symm)

/-- A sum over files can be taken path by path. -/
theorem sum_filesAt {fs : List ParsedFile} (size : ParsedFile → Nat) {texts : Finset String}
    (h : ∀ f ∈ fs, f.filepath ∈ texts) :
    ∑ text ∈ texts, ((filesAt fs text).map size).sum = (fs.map size).sum := by
  induction fs with
  | nil => simp [filesAt]
  | cons f fs ih =>
    have hstep (text : String) : ((filesAt (f :: fs) text).map size).sum =
        (if f.filepath = text then size f else 0) + ((filesAt fs text).map size).sum := by
      rw [filesAt, List.filter_cons]
      by_cases hf : f.filepath = text
      · simp [hf, filesAt]
      · simp [hf, filesAt]
    rw [Finset.sum_congr rfl fun text _ => hstep text, Finset.sum_add_distrib,
      ih fun g hg => h g (List.mem_cons_of_mem f hg), Finset.sum_ite_eq,
      if_pos (h f List.mem_cons_self), List.map_cons, List.sum_cons]

/-- Where no two files have one text, each is alone at its path. -/
theorem filesAt_of_nodup {fs : List ParsedFile} (h : (pathTexts fs).Nodup) {f : ParsedFile}
    (hf : f ∈ fs) : filesAt fs f.filepath = [f] := by
  induction fs with
  | nil => cases hf
  | cons g fs ih =>
    obtain ⟨hg, hnodup⟩ := List.nodup_cons.1 h
    have hother {k : ParsedFile} (hk : k ∈ fs) : k.filepath ≠ g.filepath := by
      intro heq
      exact hg (heq ▸ List.mem_map_of_mem hk)
    rcases List.mem_cons.1 hf with rfl | hf
    · have hnone : filesAt fs f.filepath = [] :=
        List.filter_eq_nil_iff.2 fun k hk => by simpa using hother hk
      rw [filesAt, List.filter_cons_of_pos (by simp)]
      exact congrArg (f :: ·) hnone
    · rw [filesAt, List.filter_cons_of_neg (by simpa using (hother hf).symm)]
      exact ih hnodup hf

/-- How many nodes are dropped in all. -/
theorem sum_dropped {fs : List ParsedFile} (h : HasPlainKinds fs) :
    (fs.map fun f => f.tree.size).sum =
      ((fs.flatMap ParsedFile.nodes).map Node.id).toFinset.card +
        ∑ text ∈ (pathTexts fs).toFinset, dropped (filesAt fs text) := by
  have hle (text : String) : ((filesAt fs text).flatMap fun f => f.tree.marks).toFinset.card ≤
      ((filesAt fs text).map fun f => f.tree.size).sum := by
    rw [← card_ids_of_path (h.filesAt text) fun f hf => (mem_filesAt.1 hf).2]
    calc (((filesAt fs text).flatMap ParsedFile.nodes).map Node.id).toFinset.card
        ≤ (((filesAt fs text).flatMap ParsedFile.nodes).map Node.id).length :=
          List.toFinset_card_le _
      _ = ((filesAt fs text).map fun f => f.tree.size).sum := by
          rw [List.length_map, List.length_flatMap]
          simp only [ParsedFile.nodes, SyntaxTree.length_nodesIn]
  rw [card_ids h, ← Finset.sum_add_distrib]
  have htexts : ∀ f ∈ fs, f.filepath ∈ (pathTexts fs).toFinset :=
    fun f hf => List.mem_toFinset.2 (List.mem_map_of_mem hf)
  rw [← sum_filesAt (fun f => f.tree.size) htexts]
  refine Finset.sum_congr rfl fun text _ => ?_
  have := hle text
  rw [dropped]
  omega

/-- Where no two files have one text, nodes are dropped file by file. -/
theorem sum_dropped_of_nodup {fs : List ParsedFile} (h : (pathTexts fs).Nodup) :
    ∑ text ∈ (pathTexts fs).toFinset, dropped (filesAt fs text) =
      (fs.map fun f => f.tree.size - f.tree.marks.toFinset.card).sum := by
  rw [List.sum_toFinset _ h, pathTexts, List.map_map]
  refine congrArg List.sum (List.map_congr_left fun f hf => ?_)
  simp [filesAt_of_nodup h hf, dropped]

/-- The paths of the kept nodes are those of the files. -/
theorem toFinset_filepath_keepFirst {fs : List ParsedFile} (h : HasPlainKinds fs) :
    ((keepFirst Node.id (fs.flatMap ParsedFile.nodes)).map Node.filepath).toFinset =
      (pathTexts fs).toFinset := by
  ext text
  rw [List.mem_toFinset, List.mem_toFinset, pathTexts, List.mem_map, List.mem_map]
  constructor
  · rintro ⟨n, hn, rfl⟩
    obtain ⟨f, hf, hn⟩ := List.mem_flatMap.1 (mem_of_mem_keepFirst Node.id hn)
    exact ⟨f, hf, (SyntaxTree.of_mem_nodesIn f.tree hn).1.symm⟩
  · rintro ⟨f, hf, rfl⟩
    -- the root of the file may have lost its id, but then to a node with the same path
    obtain ⟨n, hn, hid⟩ := List.mem_map.1 (SyntaxTree.idIn_mem_nodesIn f.filepath f.tree)
    have hkept : n.id ∈ (keepFirst Node.id (fs.flatMap ParsedFile.nodes)).map Node.id :=
      (mem_map_keepFirst Node.id).2 (List.mem_map_of_mem (List.mem_flatMap.2 ⟨f, hf, hn⟩))
    obtain ⟨m, hm, hmid⟩ := List.mem_map.1 hkept
    obtain ⟨g, hg, hmg⟩ := List.mem_flatMap.1 (mem_of_mem_keepFirst Node.id hm)
    refine ⟨m, hm, ?_⟩
    rw [(SyntaxTree.of_mem_nodesIn g.tree hmg).1]
    exact h.filepath_eq hg hf hmg hn hmid

/-! ## Whole runs -/

namespace Index

variable {parser : Parser} {ws : List Walked} {c c' : Connection} {r : Report} {log : List Message}

/-- **Nodes are dropped path by path.**  After a run in which no write was refused, the store counts
as many files as the indexed files have path texts, which is all of them exactly if no two have one
text.  The dropped nodes are those that files with one text have more than kinds and starts; where no
two files have one text, this is what each tree has more than kinds and starts. -/
theorem project_drops_by_path (hplain : HasPlainKinds (parsed parser ws))
    (h : project parser ws c = ((.ok r, log), c')) (hr : r.insertErrors = 0) :
    ∃ stats, c'.view.stats = .ok stats ∧
      stats.files = (pathTexts (parsed parser ws)).toFinset.card ∧
      r.nodesIgnored =
        ∑ text ∈ (pathTexts (parsed parser ws)).toFinset,
          dropped (filesAt (parsed parser ws) text) ∧
      (stats.files = r.filesIndexed ↔ (pathTexts (parsed parser ws)).Nodup) ∧
      ((pathTexts (parsed parser ws)).Nodup →
        r.nodesIgnored =
          ((parsed parser ws).map fun f => f.tree.size - f.tree.marks.toFinset.card).sum) := by
  obtain ⟨-, -, hreport, -⟩ := project_eq_ok h
  have htakes : c.stored.TakesAll (graphNodes parser ws) (graphEdges parser ws) :=
    (written_build parser ws c.stored).insertErrors_eq_zero_iff.1 (hreport ▸ hr)
  have haccounts : r.AccountsFor parser ws := hreport ▸ accountsFor_build htakes
  have hstats := Database.stats_fill (clearable_of_project h).tables
    (keepFirst Node.id (graphNodes parser ws)) (graphEdges parser ws)
  rw [← view_of_project h hr, Database.fileCount_map_ofNode, graphNodes,
    toFinset_filepath_keepFirst hplain] at hstats
  have hignored : r.nodesIgnored = ∑ text ∈ (pathTexts (parsed parser ws)).toFinset,
      dropped (filesAt (parsed parser ws) text) := by
    have hnodes := haccounts.nodes
    rw [haccounts.visited, sum_dropped hplain, haccounts.inserted, graphNodes] at hnodes
    omega
  refine ⟨_, hstats, rfl, hignored, ?_, fun hnodup => hignored.trans (sum_dropped_of_nodup hnodup)⟩
  rw [haccounts.indexed, ← List.length_map ParsedFile.filepath]
  exact Multiset.toFinset_card_eq_card_iff_nodup (m := (pathTexts (parsed parser ws) : Multiset String))

theorem project_drops_by_path_staleStore :
    HasPlainKinds (parsed Sample.parser Sample.walk) ∧
      (pathTexts (parsed Sample.parser Sample.walk)).Nodup ∧
      ∃ r log c', project Sample.parser Sample.walk staleStore = ((.ok r, log), c') ∧
        r.insertErrors = 0 ∧ r.nodesIgnored = 2 ∧
        ∃ stats, c'.view.stats = .ok stats ∧ stats.files = r.filesIndexed := by
  have hplain : HasPlainKinds (parsed Sample.parser Sample.walk) := by
    rw [Sample.parsed_walk, HasPlainKinds]
    decide
  have hnodup : (pathTexts (parsed Sample.parser Sample.walk)).Nodup := by
    rw [Sample.parsed_walk]
    decide
  have hr := (accountsFor_build (takesAll_staleStore (graphNodes Sample.parser Sample.walk)
    (graphEdges Sample.parser Sample.walk))).errors
  obtain ⟨log, hrun⟩ := project_of_clearable (c := staleStore)
    (Connection.Writable.clearable ⟨rfl, rfl, rfl⟩) Sample.parser Sample.walk
  obtain ⟨stats, hstats, -, -, hfiles, hignored⟩ := project_drops_by_path hplain hrun hr
  refine ⟨hplain, hnodup, _, log, _, hrun, hr, ?_, stats, hstats, hfiles.2 hnodup⟩
  rw [hignored hnodup, Sample.parsed_walk]
  decide

end Index

/-! ## Two files with one text -/

namespace Sample

/-- The name `a.js` with a byte after the `a` that is no text. -/
def oddName (b : UInt8) : Bytes :=
  [0x61, b, 0x2E, 0x6A, 0x73]

/-- A project of two empty files, the names of which read the same. -/
def twins : Disk where
  top := [(Utf8.ofString "p", .dir [(oddName 0xFF, .file 0), (oddName 0xFE, .file 1)])]
  contents := [.bytes [], .bytes []]
  cwd := []
  openLogs := []

/-- A parser that finds nothing below the root of a tree. -/
def rootParser : Parser :=
  ⟨fun _ _ => .node "program" ⟨⟨0, 0⟩, ⟨0, 0⟩⟩ []⟩

theorem walk_twins : twins.walk (Path.ofString "p") =
    [.other (Path.ofString "p"), .file ⟨Utf8.ofString "p/" ++ oddName 0xFF⟩ [],
      .file ⟨Utf8.ofString "p/" ++ oddName 0xFE⟩ []] := by
  cbv

theorem parsed_twins : Index.parsed rootParser (twins.walk (Path.ofString "p")) =
    [⟨"p/a\uFFFD.js", rootParser.parse .javascript ""⟩,
      ⟨"p/a\uFFFD.js", rootParser.parse .javascript ""⟩] := by
  rw [walk_twins]
  rfl

end Sample

namespace Index

open Sample in
/-- **Files whose names read the same lose nodes to each other**, and the store counts them as one. -/
theorem project_twins :
    HasPlainKinds (parsed rootParser (twins.walk (Path.ofString "p"))) ∧
      ∃ r log c' stats,
        project rootParser (twins.walk (Path.ofString "p")) newStore = ((.ok r, log), c') ∧
        r.insertErrors = 0 ∧ c'.view.stats = .ok stats ∧
        stats.files = 1 ∧ r.filesIndexed = 2 ∧ r.nodesIgnored = 1 ∧
        ((parsed rootParser (twins.walk (Path.ofString "p"))).map fun f =>
          f.tree.size - f.tree.marks.toFinset.card).sum = 0 := by
  have htakes : newStore.stored.TakesAll (graphNodes rootParser (twins.walk (Path.ofString "p")))
      (graphEdges rootParser (twins.walk (Path.ofString "p"))) := ⟨fun _ _ => rfl, fun _ _ => rfl⟩
  have hnew : newStore.Clearable := Connection.Writable.clearable ⟨rfl, rfl, rfl⟩
  obtain ⟨log, hrun⟩ := project_of_clearable hnew rootParser (twins.walk (Path.ofString "p"))
  have haccounts := accountsFor_build htakes
  have hstats := Database.stats_fill hnew.tables
    (keepFirst Node.id (graphNodes rootParser (twins.walk (Path.ofString "p"))))
    (graphEdges rootParser (twins.walk (Path.ofString "p")))
  rw [← view_of_project hrun haccounts.errors, graphNodes, parsed_twins] at hstats
  have hindexed := haccounts.indexed
  have hnodes := haccounts.nodes
  rw [haccounts.visited, haccounts.inserted, graphNodes, parsed_twins] at hnodes
  rw [parsed_twins] at hindexed
  refine ⟨?_, _, log, _, _, hrun, haccounts.errors, hstats, by decide, hindexed, ?_, ?_⟩
  · rw [parsed_twins, HasPlainKinds]
    decide
  · change 2 = 1 + _ at hnodes
    omega
  · rw [parsed_twins]
    decide

end Index
end SyntaxGraph
