import SyntaxGraph.Disk.Lookup

/-!
# Walking a project

The walk visits everything below a root, in the order of the directories.  Directories are descended
into, links below the root are not; nothing is left out because of its name or because of an ignore
file.  The root itself may be a file, and a link in its place is followed.  The root `-` stands for
standard input and holds nothing.

Each entry is reported under the root's spelling followed by the names that lead to it.  That may be
longer than a path may be: then a regular file cannot be opened, and a directory cannot be listed.
-/

set_option autoImplicit false
namespace SyntaxGraph

/-- What the walk reports. -/
inductive Walked where
  /-- The root, or a directory below it, cannot be read. -/
  | unreadable (path : Path) (error : OsError)
  /-- A regular file, or a link to one, with its bytes. -/
  | file (path : Path) (content : Bytes)
  /-- A regular file that cannot be opened. -/
  | unopened (path : Path) (error : OsError)
  /-- Anything else. -/
  | other (path : Path)
deriving DecidableEq, Repr

namespace Disk

mutual

/-- What the walk reports for an entry and all below it. -/
def walkEntry (d : Disk) (p : Path) : Entry → List Walked
  | .file id =>
    if pathLimit < p.bytes.length then [.unopened p .nameTooLong]
    else [.file p (d.content id).raw]
  | .link _ => if d.isFile p then [.file p (d.fileBytes p)] else [.other p]
  | .pipe => [.other p]
  | .dir es =>
    .other p ::
      if pathLimit < p.bytes.length then [.unreadable p .nameTooLong] else d.walkEntries p es

/-- What the walk reports for the entries of a directory. -/
def walkEntries (d : Disk) (p : Path) : List (Bytes × Entry) → List Walked
  | [] => []
  | x :: es => d.walkNamed p x ++ d.walkEntries p es

/-- What the walk reports for a named entry of a directory. -/
def walkNamed (d : Disk) (p : Path) : Bytes × Entry → List Walked
  | (n, e) => d.walkEntry (p.join ⟨n⟩) e

end

/-- Whether a root stands for standard input. -/
def isStandardInput (root : Path) : Bool :=
  root.components == [.name (Utf8.ofString "-")]

/-- What the walk of a root reports. -/
def walk (d : Disk) (root : Path) : List Walked :=
  if isStandardInput root then []
  else if d.isFile root then [.file root (d.fileBytes root)]
  else
    match d.find root .inspect with
    | .error e => [.unreadable root e]
    | .ok (_, .link _) =>
      match d.find root .reach with
      | .error e => [.unreadable root e]
      | .ok (_, e) => d.walkEntry root e
    | .ok (_, e) => d.walkEntry root e

end Disk
end SyntaxGraph
