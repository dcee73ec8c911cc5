import SyntaxGraph.Action
import SyntaxGraph.Disk.Edit
import SyntaxGraph.Store.SideFile

/-!
# Removing the database

The database file is removed together with the files that may stand beside it.  Nothing of this
fails: what cannot be removed is reported.  A database file that cannot be removed keeps the files
beside it.
-/

set_option autoImplicit false
namespace SyntaxGraph
namespace Cache

/-- The files that may stand beside a database. -/
def sideFiles (p : Path) : List Path :=
  [logSuffix, indexSuffix].map fun suffix => ⟨p.bytes ++ Utf8.ofString suffix⟩

/-- Removes a file if its path leads somewhere: the disk afterwards, and the error if it stays. -/
def remove (d : Disk) (p : Path) : Disk × Option OsError :=
  if d.pathExists p then
    match d.unlink p with
    | .ok d => (d, none)
    | .error e => (d, some e)
  else (d, none)

/-- Removes files one after the other. -/
def removeSideFiles (d : Disk) : List Path → Disk × List Message
  | [] => (d, [])
  | p :: ps =>
    let (d, error) := remove d p
    let (d, log) := removeSideFiles d ps
    (d, error.toList.map (.sideFileKept p) ++ log)

/-- Removes the database file at a path and the files beside it. -/
def clear (p : Path) (d : Disk) : Disk × List Message :=
  let first := if d.pathExists p then Message.cacheCleared p else .noCache p
  match remove d p with
  | (d, some e) => (d, [.cacheKept p e])
  | (d, none) =>
    let (d, log) := removeSideFiles d (sideFiles p)
    (d, first :: log)

end Cache
end SyntaxGraph
