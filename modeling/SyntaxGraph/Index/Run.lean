import SyntaxGraph.Index.Visit
import SyntaxGraph.Store.Handle
import SyntaxGraph.Walk

/-!
# Index runs

A run clears the graph and builds it anew from what the walk reports.  Files that cannot be indexed
are counted and passed over; only the store can make a run fail, and only by refusing to be cleared.

## What is here

* `Index.file`, `Index.entry`, `Index.entries` — one file, one reported entry, all of them.
* `Index.project` — a whole run on a connection.
* `Index.onHandle` — a whole run on an open store, with the walk of a root.
-/

set_option autoImplicit false
namespace SyntaxGraph
namespace Index

variable {σ : Type}

/-- Counts a file that cannot be read, and says so. -/
def countFailed (m : Message) (s : Progress σ) : Progress σ :=
  Visit.say { s with report := { s.report with filesFailed := s.report.filesFailed + 1 } } m

/-- Indexes a file of a known language. -/
def file (parser : Parser) (sink : Sink σ) (language : Language) (path : Path) (content : Bytes)
    (s : Progress σ) : Progress σ :=
  match Utf8.text? content with
  | none => countFailed (.fileUnreadable path) s
  | some source =>
    let visited := Visit.tree sink path.text (parser.parse language source) s
    Visit.say
      { visited with
        report := { visited.report with filesIndexed := visited.report.filesIndexed + 1 } }
      (.fileIndexed path language (visited.report.nodesVisited - s.report.nodesVisited))

/-- Reports how many files have been indexed whenever that is a multiple of a hundred. -/
def announce (s : Progress σ) : Progress σ :=
  if 0 < s.report.filesIndexed ∧ s.report.filesIndexed % 100 = 0 then
    Visit.say s (.progress s.report.filesIndexed)
  else s

/-- Counts a regular file. -/
def countFile (s : Progress σ) : Progress σ :=
  { s with report := { s.report with filesSeen := s.report.filesSeen + 1 } }

/-- Counts a file of no known language. -/
def countSkipped (s : Progress σ) : Progress σ :=
  { s with report := { s.report with filesSkipped := s.report.filesSkipped + 1 } }

/-- Deals with a regular file, given how to deal with one of a known language. -/
def regular (path : Path) (deal : Language → Progress σ → Progress σ) (s : Progress σ) : Progress σ :=
  match Language.ofPath? path with
  | none => countSkipped (countFile s)
  | some language => announce (deal language (countFile s))

/-- Deals with what the walk reports. -/
def entry (parser : Parser) (sink : Sink σ) (s : Progress σ) : Walked → Progress σ
  | .unreadable path error => Visit.say s (.entrySkipped path error)
  | .other _ => s
  | .file path content => regular path (file parser sink · path content) s
  | .unopened path error => regular path (fun _ => countFailed (.fileUnopened path error)) s

/-- Deals with all that the walk reports, in order. -/
def entries (parser : Parser) (sink : Sink σ) (s : Progress σ) (ws : List Walked) : Progress σ :=
  ws.foldl (entry parser sink) s

/-- The messages at the end of a run. -/
def summary (r : Report) : List Message :=
  [.complete, .fileTotals r.filesIndexed r.filesSkipped r.filesFailed,
    .nodeTotals r.nodesInserted r.nodesIgnored, .edgeTotal r.edgesInserted] ++
    (if 0 < r.insertErrors then [.refusedTotal r.insertErrors] else []) ++ [.elapsed]

/-- Builds the graph in a database from what the walk reports. -/
def build (parser : Parser) (ws : List Walked) (db : Database) : Progress Database :=
  entries parser Database.sink ⟨db, {}, []⟩ ws

/-- The message at the start of a run. -/
def opening : List Message :=
  [.grammarsReady Language.all.length]

/-- A whole run: the graph is cleared, and what the walk reports is written in one transaction. -/
def project (parser : Parser) (ws : List Walked) (c : Connection) :
    (Except Failure Report × List Message) × Connection :=
  match c.clearAll with
  | (.error f, c) => ((.error (.store (some .clearing) f), opening), c)
  | (.ok (), c) =>
    let done := build parser ws c.stored
    ((.ok done.report, opening ++ [.cleared] ++ done.log ++ summary done.report),
      { c with stored := done.store })

/-- A whole run on an open store, with the walk of a root. -/
def onHandle (parser : Parser) (root : Path) (h : Handle) (d : Disk) :
    (Except Failure Report × List Message) × Handle × Disk :=
  match h.connect d with
  | (.error f, h, d) => ((.error (.store (some .clearing) f), opening), h, d)
  | (.ok c, h, d) =>
    let (result, c) := project parser (d.walk root) c
    (result, h.keep d c)

end Index
end SyntaxGraph
