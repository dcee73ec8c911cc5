import SyntaxGraph.Proofs.Rebuild
import SyntaxGraph.Proofs.Service.Site
import SyntaxGraph.Service

/-!
# What a service answers from its store

A store that an index run has filled holds a graph, and all of it is in its file (`HoldsGraph`).  Reading
tells the graph as it is and leaves the store as it was, but for an empty log and its index, which stay
behind; another index run puts the graph of its project in the place of the old one.

## What is here

* `Store.Opens`, `Store.openExisting_of_holds`, `Store.openOrCreate_of_holds` — opening.
* `Service.tryExport_of_holds`, `Service.stats_of_holds` — reading; `Service.tryExport_of_none`,
  `Service.stats_of_none`, `Service.exportContext_of_error` — where there is nothing to be read.
* `Service.index_of_opened`, `Service.index_of_error` — an index run, once the store is open or has
  failed to open.
-/

set_option autoImplicit false
namespace SyntaxGraph

/-- A database as the program makes it: two empty tables, and logged. -/
def Database.made : Database :=
  { fresh with logged := true }

/-- A logged database without tables. -/
def Database.bare : Database :=
  { blank with logged := true }

/-- What comes after an action that succeeds. -/
theorem Action.bind_of_ok {α β : Type} {a : Action α} {f : α → Action β} {d d' : Disk} {x : α}
    {log : List Message} (h : a d = ⟨.ok x, d', log⟩) :
    (a >>= f) d = ⟨(f x d').result, (f x d').disk, log ++ (f x d').log⟩ := by
  rw [bind_apply, h]

/-! ## Handles -/

/-- A handle on a file, outside any transaction. -/
def Handle.on (p : Path) (f : OpenFile) : Handle :=
  ⟨p, .shared f, none⟩

namespace Handle

variable {α : Type} {p : Path} {d d' : Disk} {dir : RealPath} {parts : Parts} {id wid : FileId}
  {c c' : Content} {db : Database} {readOnly : Bool}

/-- The connection of a handle whose log has just been opened, or was open. -/
theorem connect_of_lock {h : Handle}
    (hlock : h.lock d = (.ok (), on p (.logging dir id wid readOnly), d'))
    (hopened : Opened d' dir id wid c c') (hdb : Current db c c') :
    h.connect d = (.ok ⟨if readOnly then some .readOnly else none, db, none, false⟩,
      on p (.logging dir id wid readOnly), d') := by
  have hstored : (on p (.logging dir id wid readOnly)).stored? d' = some db :=
    hopened.database?_eq hdb
  have hobstacle : (on p (.logging dir id wid readOnly)).obstacle? d' =
      if readOnly then some .readOnly else none := by
    cases readOnly <;> rfl
  rw [connect, hlock]
  simp only [hstored, hobstacle]
  rfl

theorem connect_of_opened (p : Path) (readOnly : Bool) (hopened : Opened d dir id wid c c')
    (hdb : Current db c c') :
    (on p (.logging dir id wid readOnly)).connect d =
      (.ok ⟨if readOnly then some .readOnly else none, db, none, false⟩,
        on p (.logging dir id wid readOnly), d) := by
  refine connect_of_lock ?_ hopened hdb
  simp only [lock, on, Opened.lock]

/-- The first connection to a store that rests opens its log. -/
theorem connect_of_holds (p : Path) (readOnly : Bool) (hshows : d.Shows dir parts)
    (hdir : Roomy dir) (hparts : parts.Holds id db) (hidle : d.openLogs = []) :
    ∃ wid d', (on p (.plain dir id readOnly none)).connect d =
        (.ok ⟨if readOnly then some .readOnly else none, db, none, false⟩,
          on p (.logging dir id wid readOnly), d') ∧
      Opened d' dir id wid (.database db) (.bytes []) := by
  obtain ⟨wid, d', hlock, hopened⟩ := OpenFile.lock_of_holds readOnly hshows hdir hparts hidle
  refine ⟨wid, d', connect_of_lock ?_ hopened (.inr ⟨rfl, rfl⟩), hopened⟩
  simp only [lock, on, hlock]

/-- What is done on a connection outside any transaction is stored if it changes something. -/
theorem apply_of_connect {h : Handle} {f : OpenFile} {conn : Connection} {o : Option Obstacle}
    {changed : Bool} {g : Connection → Except Fault α × Connection} {r : Except Fault α}
    (hconnect : h.connect d = (.ok conn, on p f, d')) (hg : g conn = (r, ⟨o, db, none, changed⟩)) :
    h.apply d g = (r, on p f, if changed then f.store db d' else d') := by
  rw [apply, hconnect]
  simp only [hg]
  cases changed <;> rfl

theorem read_of_connect {h : Handle} {f : OpenFile} {o : Option Obstacle}
    (hconnect : h.connect d = (.ok ⟨o, db, none, false⟩, on p f, d'))
    (g : Database → Except Fault α) : h.read d g = (g db, on p f, d') :=
  apply_of_connect (g := fun c => (g c.view, c)) hconnect rfl

/-- A store that rests is a logged one already. -/
theorem configure_of_holds (p : Path) (hshows : d.Shows dir parts) (hdir : Roomy dir)
    (hparts : parts.Holds id db) (hidle : d.openLogs = []) :
    ∃ wid d', (on p (.plain dir id false none)).configure d =
        (.ok (), on p (.logging dir id wid false), d') ∧
      Opened d' dir id wid (.database db) (.bytes []) := by
  obtain ⟨wid, d', hlock, hopened⟩ := OpenFile.lock_of_holds false hshows hdir hparts hidle
  have hstored : (OpenFile.logging dir id wid false).database? d' = some db :=
    hopened.database?_eq (.inr ⟨rfl, rfl⟩)
  have hconfigure : (OpenFile.plain dir id false none).configure d =
      (.ok (), .logging dir id wid false, d') := by
    rw [OpenFile.configure, hlock]
    simp only [hstored]
    rfl
  refine ⟨wid, d', ?_, hopened⟩
  simp only [configure, on, hconfigure]

end Handle

/-! ## Opening -/

namespace Store

variable {p : Path} {dir : RealPath} {d : Disk} {parts : Parts} {id : FileId} {c : Content}
  {db : Database}

/-- What backs a store on a plain path is the file at that path. -/
theorem attachOrFail_of_isPlain (hp : p.IsPlain) (hzero : 0 ∉ p.bytes) {access : Access}
    (haccess : access ≠ .memory) :
    attachOrFail p access = Action.change fun d =>
      match d.openFile p ⟨p, access, false, false, false, false⟩ with
      | .error f => (.error (.store (some (.opening p)) f), d)
      | .ok (file, d) => (.ok (.on p file), d) := by
  funext d
  simp only [attachOrFail, Action.change, attach, Location.read_of_isPlain hp hzero haccess]
  cases d.openFile p ⟨p, access, false, false, false, false⟩ with
  | error f => rfl
  | ok opened => rfl

/-- Opening a file that is there. -/
theorem attachOrFail_of_file (hsite : Site p dir true d) (hp : p.IsPlain)
    (hfile : d.shape? (Part.file.place dir) = some (.file id)) {access : Access}
    (haccess : access ≠ .memory) :
    attachOrFail p access d =
      ⟨.ok (.on p (.plain dir id (access == .read) none)), d, []⟩ := by
  have hsettled : d.settle p = some (Part.file.place dir) := hsite.settled
  have hentry := Disk.shape?_eq_file.1 hfile
  rw [attachOrFail_of_isPlain hp (Disk.zero_notMem_of_spellingError? hsite.spelled) haccess]
  simp only [Action.change, Disk.openFile, hsettled, Disk.fileAt, hentry]
  rfl

/-- A store that rests is opened for reading. -/
theorem openExisting_of_holds (hsite : Site p dir true d) (hp : p.IsPlain) (hdir : Roomy dir)
    (hshows : d.Shows dir parts) (hparts : parts.Holds id db) (hgraph : db.hasGraph = true)
    (hidle : d.openLogs = []) :
    ∃ wid d', openExisting p d = ⟨.ok (some (.on p (.logging dir id wid true))), d', []⟩ ∧
      Opened d' dir id wid (.database db) (.bytes []) := by
  have hexists : d.pathExists p = true := by
    rw [hsite.pathExists_eq hp (hshows.shape?_ne_link .file), hshows.shape?_eq, hparts.file]
    rfl
  have hattach : attachOrFail p .read d = ⟨.ok (.on p (.plain dir id true none)), d, []⟩ :=
    attachOrFail_of_file hsite hp (hshows.there .file id _ hparts.file).1 (by decide)
  obtain ⟨wid, d', hconnect, hopened⟩ :=
    Handle.connect_of_holds p true hshows hdir hparts hidle
  have hfound : holdsGraph (.on p (.plain dir id true none)) d =
      (.ok true, .on p (.logging dir id wid true), d') := by
    rw [holdsGraph, Handle.read_of_connect hconnect, hgraph]
  exact ⟨wid, d', openExisting_of_ok hexists hattach hfound, hopened⟩

/-- The tables are there already. -/
theorem ensureTables_fill (o : Option Obstacle) (ns : List Node) (es : List Edge) :
    Connection.ensureTables ⟨o, Database.made.fill ns es, none, false⟩ =
      (.ok (), ⟨o, Database.made.fill ns es, none, false⟩) := rfl

/-- The store at a path is opened for writing: then its log is open, and it holds these rows. -/
def Opens (p : Path) (dir : RealPath) (ns : List Node) (es : List Edge) (d : Disk) : Prop :=
  ∃ id wid c c' d', openOrCreate p d = ⟨.ok (.on p (.logging dir id wid false)), d', [.opened p]⟩ ∧
    Opened d' dir id wid c c' ∧ Current (Database.made.fill ns es) c c'

/-- **A store that rests is opened for writing.** -/
theorem openOrCreate_of_holds (hsite : Site p dir true d) (hp : p.IsPlain) (hdir : Roomy dir)
    (hshows : d.Shows dir parts) {ns : List Node} {es : List Edge}
    (hparts : parts.Holds id (Database.made.fill ns es)) (hidle : d.openLogs = []) :
    Opens p dir ns es d := by
  have hattach : attachOrFail p .create d = ⟨.ok (.on p (.plain dir id false none)), d, []⟩ :=
    attachOrFail_of_file hsite hp (hshows.there .file id _ hparts.file).1 (by decide)
  obtain ⟨wid, d', hconfigure, hopened⟩ := Handle.configure_of_holds p hshows hdir hparts hidle
  have hcurrent : Current (Database.made.fill ns es) (.database (Database.made.fill ns es))
      (.bytes []) := .inr ⟨rfl, rfl⟩
  have htables : ensureTables (.on p (.logging dir id wid false)) d' =
      (.ok (), .on p (.logging dir id wid false), d') :=
    Handle.apply_of_connect (Handle.connect_of_opened p false hopened hcurrent)
      (ensureTables_fill _ ns es)
  exact ⟨id, wid, _, _, d', openOrCreate_of_ok (hsite.makeParent_eq hp) hattach hconfigure htables,
    hopened, hcurrent⟩

/-- A store whose path is too long is not opened for writing. -/
theorem openOrCreate_of_unusable (hsite : Site p dir false d) (hp : p.IsPlain) :
    ∃ f, openOrCreate p d = ⟨.error f, d, []⟩ := by
  have hsettled : d.settle p = none := hsite.settled
  have hattach : attachOrFail p .create d =
      ⟨.error (.store (some (.opening p)) (.cannotOpen (some p))), d, []⟩ := by
    rw [attachOrFail_of_isPlain hp (Disk.zero_notMem_of_spellingError? hsite.spelled) (by decide)]
    simp only [Action.change, Disk.openFile, hsettled]
  rw [openOrCreate, Action.bind_of_ok (hsite.makeParent_eq hp)]
  simp only [Action.bind_apply (attachOrFail p .create), hattach]
  exact ⟨_, rfl⟩

end Store

/-! ## A store with a graph -/

/-- A run on a store that the program made writes the whole graph of the project. -/
theorem Index.project_made (parser : Parser) (ws : List Walked) (ns : List Node) (es : List Edge) :
    ∃ r log, project parser ws ⟨none, Database.made.fill ns es, none, false⟩ =
        ((.ok r, log), ⟨none, Database.made.fill (keepFirst Node.id (graphNodes parser ws))
          (graphEdges parser ws), none, true⟩) ∧
      r.nodesInserted = (keepFirst Node.id (graphNodes parser ws)).length ∧
      r.edgesInserted = (graphEdges parser ws).length := by
  have hwritten := written_build parser ws Database.made
  -- there are no rules, so nothing is refused
  have hnodes : (graphNodes parser ws).filter Database.made.takesNode = graphNodes parser ws :=
    List.filter_eq_self.2 fun _ _ => rfl
  have hedges : (graphEdges parser ws).filter Database.made.takesEdge = graphEdges parser ws :=
    List.filter_eq_self.2 fun _ _ => rfl
  have hwritable : Connection.Writable ⟨none, Database.made.fill ns es, none, false⟩ :=
    ⟨rfl, rfl, rfl⟩
  obtain ⟨log, hproject⟩ := project_of_writable hwritable parser ws
  rw [Database.fill_fill, hwritten.store, hnodes, hedges] at hproject
  exact ⟨_, log, hproject, by rw [hwritten.inserted, hnodes], by rw [hwritten.edges, hedges]⟩

/-- The store in a directory rests and holds a graph. -/
def HoldsGraph (dir : RealPath) (ns : List Node) (es : List Edge) (d : Disk) : Prop :=
  ∃ parts id, d.Shows dir parts ∧ parts.Holds id (Database.made.fill ns es) ∧ d.openLogs = []

theorem HoldsGraph.exists_shows {dir : RealPath} {ns : List Node} {es : List Edge} {d : Disk}
    (h : HoldsGraph dir ns es d) : ∃ parts, d.Shows dir parts ∧ d.openLogs = [] := by
  obtain ⟨parts, id, hshows, -, hidle⟩ := h
  exact ⟨parts, hshows, hidle⟩

namespace Service

variable {s : Service} {dir : RealPath} {d : Disk} {ns : List Node} {es : List Edge}

/-! ## Reading -/

theorem readWith_of_opened {α : Type} {p : Path} {id wid : FileId} {db : Database} {a : α}
    (g : Database → Except Fault α) (hopened : Opened d dir id wid (.database db) (.bytes []))
    (hg : g db = .ok a) :
    readWith g (.on p (.logging dir id wid true)) d =
      ⟨.ok a, (OpenFile.logging dir id wid true).close d, []⟩ := by
  have hconnect := Handle.connect_of_opened p true hopened (.inr ⟨rfl, rfl⟩)
  simp only [readWith, Store.finish, Action.change, Handle.read_of_connect hconnect, hg]
  rfl

/-- **A graph is exported as it is.** -/
theorem tryExport_of_holds (hsite : Site s.path dir true d) (hp : s.path.IsPlain) (hdir : Roomy dir)
    (h : HoldsGraph dir ns es d) (order : ExportOrder) (format : ExportFormat) :
    ∃ d', s.tryExport order format d =
        ⟨.ok (renderContext (Node.ordered order ns) format), d', []⟩ ∧ HoldsGraph dir ns es d' := by
  obtain ⟨parts, id, hshows, hparts, hidle⟩ := h
  obtain ⟨wid, d', hopen, hopened⟩ :=
    Store.openExisting_of_holds hsite hp hdir hshows hparts rfl hidle
  have hexport : (Database.made.fill ns es).exportContext order format =
      .ok (renderContext (Node.ordered order ns) format) :=
    Database.exportContext_fill rfl ns es order format
  have hread := readWith_of_opened (p := s.path) (·.exportContext order format) hopened hexport
  obtain ⟨parts', hshows', hparts', hidle'⟩ := hopened.close_readOnly rfl
  refine ⟨_, ?_, parts', id, hshows', hparts', hidle'⟩
  rw [tryExport, Action.bind_of_ok hopen]
  simp only [hread]
  rfl

/-- **The size of a graph** is told as it is. -/
theorem stats_of_holds (hsite : Site s.path dir true d) (hp : s.path.IsPlain) (hdir : Roomy dir)
    (h : HoldsGraph dir ns es d) :
    ∃ d', s.stats d = ⟨.ok (some ⟨ns.length, es.length, Database.fileCount (ns.map .ofNode)⟩), d', []⟩ ∧
      HoldsGraph dir ns es d' := by
  obtain ⟨parts, id, hshows, hparts, hidle⟩ := h
  obtain ⟨wid, d', hopen, hopened⟩ :=
    Store.openExisting_of_holds hsite hp hdir hshows hparts rfl hidle
  have hstats : (Database.made.fill ns es).stats =
      .ok ⟨ns.length, es.length, Database.fileCount (ns.map .ofNode)⟩ :=
    Database.stats_fill ⟨_, _, rfl, rfl⟩ ns es
  have hread := readWith_of_opened (p := s.path) Database.stats hopened hstats
  obtain ⟨parts', hshows', hparts', hidle'⟩ := hopened.close_readOnly rfl
  refine ⟨_, ?_, parts', id, hshows', hparts', hidle'⟩
  rw [stats, Action.bind_of_ok hopen]
  simp only [Action.bind_of_ok hread]
  rfl

/-- Where there is no store, there are no nodes. -/
theorem tryExport_of_none {d' : Disk} {log : List Message}
    (hopen : Store.openExisting s.path d = ⟨.ok none, d', log⟩) (order : ExportOrder)
    (format : ExportFormat) : s.tryExport order format d = ⟨.ok (renderContext [] format), d', log⟩ := by
  rw [tryExport, Action.bind_of_ok hopen]
  show (⟨.ok (renderContext [] format), d', log ++ []⟩ : Outcome String) = _
  rw [List.append_nil]

/-- Nor is there a size. -/
theorem stats_of_none {d' : Disk} {log : List Message}
    (hopen : Store.openExisting s.path d = ⟨.ok none, d', log⟩) : s.stats d = ⟨.ok none, d', log⟩ := by
  rw [stats, Action.bind_of_ok hopen]
  show (⟨.ok none, d', log ++ []⟩ : Outcome (Option Stats)) = _
  rw [List.append_nil]

/-- An export that succeeds is an export. -/
theorem exportContext_of_tryExport {order : ExportOrder} {format : ExportFormat} {text : String}
    {d' : Disk} {log : List Message} (h : s.tryExport order format d = ⟨.ok text, d', log⟩) :
    s.exportContext order format d = ⟨.ok text, d', log⟩ := by
  have hattempt : (s.tryExport order format).attempt d = ⟨.ok (.ok text), d', log⟩ := by
    rw [Action.attempt, h]
  rw [exportContext, Action.bind_of_ok hattempt]
  show (⟨.ok text, d', log ++ []⟩ : Outcome String) = _
  rw [List.append_nil]

/-- Where there is something that cannot be opened, an export is the empty text. -/
theorem exportContext_of_error {f : Failure} {d' : Disk} {log : List Message}
    (hopen : Store.openExisting s.path d = ⟨.error f, d', log⟩) (order : ExportOrder)
    (format : ExportFormat) :
    s.exportContext order format d = ⟨.ok "", d', log ++ [.exportFailed s.path f]⟩ := by
  have htry : s.tryExport order format d = ⟨.error f, d', log⟩ := by
    rw [tryExport, Action.bind_apply, hopen]
  have hattempt : (s.tryExport order format).attempt d = ⟨.ok (.error f), d', log⟩ := by
    rw [Action.attempt, htry]
  rw [exportContext, Action.bind_of_ok hattempt]
  rfl

/-! ## Indexing -/

/-- An index run opens the store and does on it what there is to do. -/
theorem index_of_indexWith {parser : Parser} {root : Path} {h : Handle} {d' d'' : Disk} {r : Report}
    {log log' : List Message} (hopen : Store.openOrCreate s.path d = ⟨.ok h, d', log⟩)
    (hindex : indexWith parser root h d' = ⟨.ok r, d'', log'⟩) :
    s.index parser root d = ⟨.ok r, d'', log ++ (log' ++ [.projectIndexed s.path])⟩ := by
  rw [index, Action.bind_of_ok hopen]
  simp only [Action.bind_of_ok hindex]
  rfl

/-- **An index run writes the graph of the project** into a store that was opened for writing, and
counts what it writes. -/
theorem index_of_opened {id wid : FileId} {c c' : Content} {d' : Disk} (hdir : Roomy dir)
    (hopen : Store.openOrCreate s.path d =
      ⟨.ok (.on s.path (.logging dir id wid false)), d', [.opened s.path]⟩)
    (hopened : Opened d' dir id wid c c') (hdb : Current (Database.made.fill ns es) c c')
    (parser : Parser) (root : Path) :
    ∃ r d'' log, s.index parser root d = ⟨.ok r, d'', log⟩ ∧
      HoldsGraph dir (keepFirst Node.id (Index.graphNodes parser (d'.walk root)))
        (Index.graphEdges parser (d'.walk root)) d'' ∧
      r.nodesInserted = (keepFirst Node.id (Index.graphNodes parser (d'.walk root))).length ∧
      r.edgesInserted = (Index.graphEdges parser (d'.walk root)).length := by
  obtain ⟨r, log, hproject, hnodes, hedges⟩ := Index.project_made parser (d'.walk root) ns es
  have hindex : indexWith parser root (.on s.path (.logging dir id wid false)) d' =
      ⟨.ok r, (OpenFile.logging dir id wid false).close
        ((OpenFile.logging dir id wid false).store (Database.made.fill
          (keepFirst Node.id (Index.graphNodes parser (d'.walk root)))
          (Index.graphEdges parser (d'.walk root))) d'), log⟩ := by
    simp only [indexWith, Index.onHandle, Handle.connect_of_opened s.path false hopened hdb,
      Bool.false_eq_true, if_false, hproject]
    rfl
  have hstored := hopened.store false (Database.made.fill
    (keepFirst Node.id (Index.graphNodes parser (d'.walk root)))
    (Index.graphEdges parser (d'.walk root)))
  obtain ⟨parts, hshows, hparts, hidle⟩ := hstored.close_writable hdir (.inl rfl) rfl
  exact ⟨r, _, _, index_of_indexWith hopen hindex, ⟨parts, id, hshows, hparts, hidle⟩, hnodes, hedges⟩

/-- An index run fails where the store is not opened. -/
theorem index_of_error {f : Failure} {d' : Disk} {log : List Message}
    (hopen : Store.openOrCreate s.path d = ⟨.error f, d', log⟩) (parser : Parser) (root : Path) :
    s.index parser root d = ⟨.error f, d', log⟩ := by
  rw [index, Action.bind_apply, hopen]

end Service
end SyntaxGraph
