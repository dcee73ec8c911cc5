import SyntaxGraph.Path

/-!
# Where the database lives

The database file stands at a fixed place below a base directory.  The base directory is the one
asked for, or else the user's data directory.
-/

set_option autoImplicit false
namespace SyntaxGraph
namespace Config

/-- The variables of the environment that matter here; `none` where one is unset. -/
structure Environment where
  /-- The user's home directory. -/
  home : Option Path
  /-- The user's data directory. -/
  dataHome : Option Path
  /-- The base directory asked for. -/
  dataDir : Option Path
deriving Repr

/-- The database file below a base directory. -/
def databasePath (base : Path) : Path :=
  (base.joinText "sqlite").joinText "graphdb.sqlite"

/-- The base directory used where none is asked for.  A data directory counts only if its path is
absolute, a home directory only if its path is not empty. -/
def defaultBase (env : Environment) : Path :=
  match env.dataHome.filter Path.isAbsolute with
  | some d => d.joinText "astgraph"
  | none =>
    match env.home.filter (fun h => h.bytes ≠ []) with
    | some h => (h.joinText ".local/share").joinText "astgraph"
    | none => Path.ofString ".astgraph"

/-- The base directory asked for, or the default. -/
def base (env : Environment) (asked : Option Path) : Path :=
  asked.getD (defaultBase env)

end Config
end SyntaxGraph
