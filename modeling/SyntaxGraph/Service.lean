import SyntaxGraph.Cache
import SyntaxGraph.Config
import SyntaxGraph.Index.Run
import SyntaxGraph.Store.Open

/-!
# The service

The service is the program behind its command line: it indexes projects into the store at one path
and answers from it.  Each operation opens the store anew and closes it at its end.
-/

set_option autoImplicit false
namespace SyntaxGraph

/-- A service on the store at a path. -/
structure Service where
  path : Path
deriving DecidableEq, Repr

namespace Service

/-- A service on the store at a path, the directory of which is made. -/
def create (p : Path) : Action Service := do
  Store.makeParent p
  return ⟨p⟩

/-- A service on the store below a base directory. -/
def ofBase (base : Path) : Action Service :=
  create (Config.databasePath base)

/-- Indexes on an open store and closes it. -/
def indexWith (parser : Parser) (root : Path) (h : Handle) : Action Report := fun d =>
  let ((result, log), h, d) := Index.onHandle parser root h d
  ⟨result, h.close d, log⟩

/-- Indexes a project. -/
def index (parser : Parser) (root : Path) (s : Service) : Action Report := do
  let h ← Store.openOrCreate s.path
  let report ← indexWith parser root h
  Action.say (.projectIndexed s.path)
  return report

/-- Reads from an open store and closes it. -/
def readWith {α : Type} (f : Database → Except Fault α) (h : Handle) : Action α :=
  Store.finish (fun h d => h.read d f) h

/-- All nodes as one text.  Where there is no graph there are no nodes. -/
def tryExport (order : ExportOrder) (format : ExportFormat) (s : Service) : Action String := do
  match ← Store.openExisting s.path with
  | none => return renderContext [] format
  | some h => readWith (·.exportContext order format) h

/-- All nodes as one text.  A failure is reported and gives the empty text. -/
def exportContext (order : ExportOrder) (format : ExportFormat) (s : Service) : Action String := do
  match ← (s.tryExport order format).attempt with
  | .ok text => return text
  | .error f =>
    Action.say (.exportFailed s.path f)
    return ""

/-- The size of the graph; `none` if there is none. -/
def stats (s : Service) : Action (Option Stats) := do
  match ← Store.openExisting s.path with
  | none => return none
  | some h =>
    let stats ← readWith Database.stats h
    return some stats

/-- Removes the database. -/
def clear (s : Service) : Action Unit := fun d =>
  let (d, log) := Cache.clear s.path d
  ⟨.ok (), d, log⟩

end Service
end SyntaxGraph
