import SyntaxGraph.Proofs.Disk.Listing
import SyntaxGraph.Proofs.Milestones

/-!
# The files that a run considers

A run counts every file that the walk finds, and it reads those whose names belong to a language.  Each
of these is reported: it was indexed, or it could not be.  So what the report counts and what the log
tells are the files that the walk finds, and these are known from the disk (`Disk.Considers`): each once,
in the order of the walk.

Paths grow with every directory, and may become too long.  A file with such a path is found and counted,
but cannot be opened; a directory with such a path cannot be listed, and nothing is found in it.

A root counts as the place that it leads to.  There is one exception: a root whose only component is `-`
stands for standard input, and nothing is found there even if a directory has that name.  This is a matter
of the component and not of the spelling, so slashes and dots behind it make no difference.

## What is here

* `Language.knows` — the names that belong to a language.
* `handledFiles` — the files that a log tells of.
* `Index.handledFiles_entries`, `Index.counted_sum` — what a walk adds to the log and to the report.
* `Index.onHandle_considers` — the main result.
-/

set_option autoImplicit false
namespace SyntaxGraph

/-- Whether a path is that of a source file. -/
def Language.knows (p : Path) : Bool :=
  (Language.ofPath? p).isSome

/-- The file that a message tells of: it was indexed, or it could not be. -/
def Message.handled? : Message → Option Path
  | .fileIndexed p _ _ => some p
  | .fileUnreadable p => some p
  | .fileUnopened p _ => some p
  | _ => none

/-- The files that a log tells of, in order. -/
def handledFiles (log : List Message) : List Path :=
  log.filterMap Message.handled?

theorem handledFiles_append (a b : List Message) :
    handledFiles (a ++ b) = handledFiles a ++ handledFiles b :=
  List.filterMap_append

theorem foundFiles_cons (w : Walked) (ws : List Walked) :
    foundFiles (w :: ws) = w.file?.toList ++ foundFiles ws := by
  rw [foundFiles, List.filterMap_cons, foundFiles]
  cases w.file? <;> rfl

namespace Index

/-! ## The log -/

theorem handledFiles_announce (s : Progress Database) :
    handledFiles (announce s).log = handledFiles s.log := by
  rw [announce]
  split
  · exact (handledFiles_append _ _).trans (List.append_nil _)
  · rfl

/-- A file of a known language is told of. -/
theorem handledFiles_file (parser : Parser) (language : Language) (path : Path) (content : Bytes)
    (s : Progress Database) :
    handledFiles (file parser Database.sink language path content s).log =
      handledFiles s.log ++ [path] := by
  rw [file]
  split
  · exact handledFiles_append _ _
  · refine (handledFiles_append _ _).trans (congrArg (· ++ [path]) ?_)
    exact Visit.filterMap_run ⟨fun _ _ => rfl, fun _ _ => rfl⟩ _ _ s

/-- A regular file is told of if it is a source file and dealing with it tells of it. -/
theorem handledFiles_regular {path : Path} {deal : Language → Progress Database → Progress Database}
    (hdeal : ∀ l s, handledFiles (deal l s).log = handledFiles s.log ++ [path])
    (s : Progress Database) :
    handledFiles (regular path deal s).log =
      handledFiles s.log ++ [path].filter Language.knows := by
  rw [List.filter_singleton, Language.knows, regular]
  cases Language.ofPath? path with
  | none => exact (List.append_nil _).symm
  | some language => exact (handledFiles_announce _).trans (hdeal language _)

/-- **One entry** of a walk is told of if it is a source file. -/
theorem handledFiles_entry (parser : Parser) (s : Progress Database) (w : Walked) :
    handledFiles (entry parser Database.sink s w).log =
      handledFiles s.log ++ w.file?.toList.filter Language.knows := by
  cases w with
  | unreadable path error => exact handledFiles_append _ _
  | other path => exact (List.append_nil _).symm
  | file path content => exact handledFiles_regular (fun l => handledFiles_file parser l path content) s
  | unopened path error => exact handledFiles_regular (fun _ s => handledFiles_append s.log _) s

/-- A whole walk. -/
theorem handledFiles_entries (parser : Parser) (s : Progress Database) (ws : List Walked) :
    handledFiles (entries parser Database.sink s ws).log =
      handledFiles s.log ++ (foundFiles ws).filter Language.knows := by
  induction ws generalizing s with
  | nil => exact (List.append_nil _).symm
  | cons w ws ih =>
    have hstep : entries parser Database.sink s (w :: ws) =
        entries parser Database.sink (entry parser Database.sink s w) ws := rfl
    rw [hstep, ih, handledFiles_entry, foundFiles_cons, List.filter_append, List.append_assoc]

/-- The messages at the end of a run tell of no file. -/
theorem handledFiles_summary (r : Report) : handledFiles (summary r) = [] := by
  rw [summary]
  split <;> rfl

/-! ## The report -/

/-- What one entry adds to the counters of files. -/
theorem counted_entry (w : Walked) :
    w.files.1 = w.file?.toList.length ∧
      w.files.2.1 + w.files.2.2.2 = (w.file?.toList.filter Language.knows).length := by
  cases w with
  | unreadable path error => exact ⟨rfl, rfl⟩
  | other path => exact ⟨rfl, rfl⟩
  | file path content =>
    simp only [Walked.files, Walked.file?, Option.toList_some, List.filter_singleton, Language.knows]
    cases Language.ofPath? path with
    | none => exact ⟨rfl, rfl⟩
    | some language => cases Utf8.text? content <;> exact ⟨rfl, rfl⟩
  | unopened path error =>
    simp only [Walked.files, Walked.file?, Option.toList_some, List.filter_singleton, Language.knows]
    cases Language.ofPath? path <;> exact ⟨rfl, rfl⟩

/-- What a whole walk adds to them. -/
theorem counted_sum (ws : List Walked) :
    (ws.map Walked.files).sum.1 = (foundFiles ws).length ∧
      (ws.map Walked.files).sum.2.1 + (ws.map Walked.files).sum.2.2.2 =
        ((foundFiles ws).filter Language.knows).length := by
  induction ws with
  | nil => exact ⟨rfl, rfl⟩
  | cons w ws ih =>
    obtain ⟨hseen, hread⟩ := counted_entry w
    obtain ⟨hseen', hread'⟩ := ih
    rw [List.map_cons, List.sum_cons, foundFiles_cons, List.filter_append, List.length_append,
      List.length_append]
    simp only [Prod.fst_add, Prod.snd_add]
    exact ⟨by omega, by omega⟩

/-! ## Whole runs -/

/-- A run that succeeds counts the files that the walk finds, and tells of the source files among them. -/
theorem considers_of_project (parser : Parser) (ws : List Walked) {c : Connection} (hc : c.Clearable) :
    ∃ r log c', project parser ws c = ((.ok r, log), c') ∧
      r.filesSeen = (foundFiles ws).length ∧
      r.filesIndexed + r.filesFailed = ((foundFiles ws).filter Language.knows).length ∧
      handledFiles log = (foundFiles ws).filter Language.knows := by
  have hfiles := files_entries parser ⟨c.stored.fill [] [], {}, []⟩ ws
  have hlog := handledFiles_entries parser ⟨c.stored.fill [] [], {}, []⟩ ws
  obtain ⟨hseen, hread⟩ := counted_sum ws
  change (build parser ws (c.stored.fill [] [])).report.files = 0 + _ at hfiles
  rw [zero_add] at hfiles
  rw [← hfiles] at hseen hread
  rw [project, Connection.clearAll_of_clearable hc]
  refine ⟨_, _, _, rfl, hseen, hread, ?_⟩
  rw [handledFiles_append, handledFiles_append, handledFiles_summary, List.append_nil]
  exact hlog

/-- A run on a handle that can be connected is a run on the connection. -/
theorem onHandle_of_project {h h₁ : Handle} {d d₁ : Disk} {c c' : Connection} {parser : Parser}
    {root : Path} {result : Except Failure Report × List Message}
    (hconnect : h.connect d = (.ok c, h₁, d₁))
    (hrun : project parser (d₁.walk root) c = (result, c')) :
    onHandle parser root h d = (result, (h₁.keep d₁ c').1, (h₁.keep d₁ c').2) := by
  rw [onHandle, hconnect]
  simp only [hrun]

/-- **The files that a run considers.**  On a store that can be cleared a run succeeds.  Where the disk
then is a tree, there is a list in which every file to be found stands once: the report counts that list,
and those that it counts as indexed or failed, and the log tells of, are the source files in it. -/
theorem onHandle_considers {h h₁ : Handle} {d d₁ : Disk} {c : Connection} (parser : Parser)
    (root : Path) (hconnect : h.connect d = (.ok c, h₁, d₁)) (hc : c.Clearable) (hd : d₁.IsTree) :
    ∃ r log h' d', ∃ seen : List Path, onHandle parser root h d = ((.ok r, log), h', d') ∧ seen.Nodup ∧
      (∀ p, p ∈ seen ↔ d₁.Considers root p) ∧ r.filesSeen = seen.length ∧
      r.filesIndexed + r.filesFailed = (seen.filter Language.knows).length ∧
      handledFiles log = seen.filter Language.knows := by
  obtain ⟨r, log, c', hrun, hseen, hread, hlog⟩ :=
    considers_of_project parser (d₁.walk root) hc
  exact ⟨r, log, _, _, foundFiles (d₁.walk root), onHandle_of_project hconnect hrun,
    Disk.nodup_foundFiles_walk hd root, fun p => Disk.mem_foundFiles_walk hd, hseen, hread, hlog⟩

end Index

/-! ## Two small trees -/

namespace Sample

/-- A project with a link to a link to a file, in a directory of its own, and a link to itself. -/
def tangle : List (Bytes × Entry) :=
  [(Utf8.ofString "a.js", .file 0), (Utf8.ofString "b.js", .link (Path.ofString "a.js")),
    (Utf8.ofString "q", .dir [(Utf8.ofString "c.js", .link (Path.ofString "../b.js"))]),
    (Utf8.ofString "up", .link (Path.ofString "../p"))]

/-- The project and a link that leads to it. -/
def linked : Disk where
  top := [(Utf8.ofString "p", .dir tangle), (Utf8.ofString "r", .link (Path.ofString "p"))]
  contents := [.bytes []]
  cwd := []
  openLogs := []

/-- A directory with the name of standard input. -/
def dashed : Disk where
  top := [(Utf8.ofString "-", .dir [(Utf8.ofString "a.js", .file 0)])]
  contents := [.bytes []]
  cwd := []
  openLogs := []

theorem isTree_linked : linked.IsTree where
  tidy := by
    have hinner : (Entry.dir [(Utf8.ofString "c.js", .link (Path.ofString "../b.js"))]).Named :=
      .dir (by decide) (List.forall_mem_singleton.2 (.link _))
    refine ⟨.dir (by decide) (List.forall_mem_cons.2 ⟨.dir (by decide) ?_, ?_⟩), by decide⟩
    · simp only [tangle, List.forall_mem_cons]
      exact ⟨.file 0, .link _, hinner, .link _, List.forall_mem_nil _⟩
    · exact List.forall_mem_singleton.2 (.link _)
  distinct := by
    have hinner : (Entry.dir [(Utf8.ofString "c.js", .link (Path.ofString "../b.js"))]).Distinct :=
      .dir (by decide) (List.forall_mem_singleton.2 (.link _))
    refine .dir (by decide) (List.forall_mem_cons.2 ⟨.dir (by decide) ?_, ?_⟩)
    · simp only [tangle, List.forall_mem_cons]
      exact ⟨.file 0, .link _, hinner, .link _, List.forall_mem_nil _⟩
    · exact List.forall_mem_singleton.2 (.link _)
  cwd := rfl

theorem isTree_dashed : dashed.IsTree where
  tidy := ⟨.dir (by decide) (List.forall_mem_singleton.2
    (.dir (by decide) (List.forall_mem_singleton.2 (.file 0)))), by decide⟩
  distinct := .dir (by decide) (List.forall_mem_singleton.2
    (.dir (by decide) (List.forall_mem_singleton.2 (.file 0))))
  cwd := rfl

/-- The link to a link, seen from the link to the project. -/
theorem considers_linked :
    linked.Considers (Path.ofString "r") (Path.ofString "r/q/c.js") := by
  have hend : linked.entry? ([Utf8.ofString "p"] ++ [Utf8.ofString "q", Utf8.ofString "c.js"]) =
      some (.link (Path.ofString "../b.js")) := by
    cbv
  have hroot : linked.find (Path.ofString "r") .reach = .ok ([Utf8.ofString "p"], .dir tangle) := by
    cbv
  have hlists : Disk.ListsOn (Path.ofString "r") [Utf8.ofString "q", Utf8.ofString "c.js"] :=
    Disk.listsOn_cons.2 ⟨by decide, Disk.listsOn_cons.2 ⟨by decide, Disk.listsOn_nil _⟩⟩
  refine ⟨by decide, .inr ⟨[Utf8.ofString "p"], tangle, [Utf8.ofString "q", Utf8.ofString "c.js"],
    hroot, List.cons_ne_nil _ _, by decide, ?_, hlists, .inr ⟨⟨_, hend⟩, by cbv⟩⟩⟩
  exact fun above habove _ hne => Disk.isRealDir_of_isPrefix hend habove hne

end Sample

namespace Index

open Sample

theorem onHandle_considers_linked :
    linked.IsTree ∧ ∃ r log h' d', onHandle rootParser (Path.ofString "r") .inMemory linked =
        ((.ok r, log), h', d') ∧
      linked.Considers (Path.ofString "r") (Path.ofString "r/q/c.js") ∧
      0 < r.filesSeen ∧ Path.ofString "r/q/c.js" ∈ handledFiles log := by
  have hclear : (Connection.mk none .fresh none false).Clearable :=
    Connection.Writable.clearable ⟨rfl, rfl, rfl⟩
  have hconnect : Handle.inMemory.connect linked =
      (.ok ⟨none, .fresh, none, false⟩, .inMemory, linked) := rfl
  obtain ⟨r, log, h', d', seen, hrun, -, hseen, hcount, -, hlog⟩ :=
    onHandle_considers rootParser (Path.ofString "r") hconnect hclear isTree_linked
  have hmem := (hseen _).2 considers_linked
  refine ⟨isTree_linked, r, log, h', d', hrun, considers_linked, ?_, ?_⟩
  · rw [hcount]
    exact List.length_pos_of_mem hmem
  · rw [hlog]
    exact List.mem_filter.2 ⟨hmem, by decide⟩

/-- A root that is not spelled `-`, and gives a file, but stands for standard input. -/
theorem onHandle_sees_nothing :
    dashed.IsTree ∧ Path.ofString "-/" ≠ Path.ofString "-" ∧
      dashed.FileFrom (Path.ofString "-/") (Path.ofString "-/a.js") ∧
      ∃ r log h' d', onHandle rootParser (Path.ofString "-/") .inMemory dashed =
        ((.ok r, log), h', d') ∧ r.filesSeen = 0 := by
  have hend : dashed.entry? ([Utf8.ofString "-"] ++ [Utf8.ofString "a.js"]) = some (.file 0) := by
    cbv
  have hroot : dashed.find (Path.ofString "-/") .reach =
      .ok ([Utf8.ofString "-"], .dir [(Utf8.ofString "a.js", .file 0)]) := by
    cbv
  have hfile : dashed.FileFrom (Path.ofString "-/") (Path.ofString "-/a.js") :=
    .inr ⟨[Utf8.ofString "-"], _, [Utf8.ofString "a.js"], hroot, List.cons_ne_nil _ _, by decide,
      fun above habove _ hne => Disk.isRealDir_of_isPrefix hend habove hne,
      Disk.listsOn_cons.2 ⟨by decide, Disk.listsOn_nil _⟩, .inl ⟨0, hend⟩⟩
  have hclear : (Connection.mk none .fresh none false).Clearable :=
    Connection.Writable.clearable ⟨rfl, rfl, rfl⟩
  have hwalk : dashed.walk (Path.ofString "-/") = [] := if_pos (by decide)
  obtain ⟨r, log, c', hrun, hseen, -, -⟩ := considers_of_project rootParser [] hclear
  have hconnect : Handle.inMemory.connect dashed =
      (.ok ⟨none, .fresh, none, false⟩, .inMemory, dashed) := rfl
  rw [← hwalk] at hrun
  exact ⟨isTree_dashed, by decide, hfile, r, log, _, _,
    onHandle_of_project hconnect hrun, hseen⟩

end Index
end SyntaxGraph
