import SyntaxGraph.Path
import SyntaxGraph.Store.Database

/-!
# Disks

A disk is a tree of named entries: directories, regular files, symbolic links and named pipes.  A
regular file is an entry that points to a content; the content outlives the entry, so a database
that is open stays usable when its file is removed.  The disk also knows which logs are open, because
connections to one database notice each other.

## What is here

* `Entry`, `Disk` — the tree, the contents, and the directory that relative paths start from.
* `RealPath` — the names that lead from the root to an entry, without links, `.` or `..`.
* `Disk.entry?`, `Disk.setEntry` — reading and changing the tree at a real path.
-/

set_option autoImplicit false
namespace SyntaxGraph

/-- Which content a regular file has. -/
abbrev FileId := Nat

/-- The names that lead from the root directory to an entry. -/
abbrev RealPath := List Bytes

/-- What stands under a name. -/
inductive Entry where
  | file (id : FileId)
  | link (target : Path)
  | pipe
  | dir (entries : List (Bytes × Entry))
deriving Repr

instance : Inhabited Entry := ⟨.dir []⟩

/-- The content of a regular file. -/
inductive Content where
  | bytes (bs : Bytes)
  | database (db : Database)
  /-- The log of a database, with the database as it is once the log is carried over. -/
  | log (db : Database)
deriving Repr

/-- The first bytes of every database file. -/
def databaseMark : Bytes :=
  Utf8.ofString "SQLite format 3" ++ [0x00, 0xFF]

/-- The first bytes of every log. -/
def logMark : Bytes :=
  [0x37, 0x7F, 0x06, 0x82]

/-- The first bytes of every index of a log. -/
def indexMark : Bytes :=
  [0x18, 0xE2, 0x2D, 0x00]

/-- The bytes of a content.  Of a database and of a log they are not modelled beyond the mark they
start with, which is not text. -/
def Content.raw : Content → Bytes
  | bytes bs => bs
  | database _ => databaseMark
  | log _ => logMark

/-- A log that a connection has open. -/
structure OpenLog where
  /-- The file of the log; `none` if a pipe stands in its place. -/
  file : Option FileId
  /-- Whether the index of the log may be written. -/
  writable : Bool
deriving DecidableEq, Repr

/-- A file system with a working directory. -/
structure Disk where
  /-- The entries of the root directory. -/
  top : List (Bytes × Entry)
  /-- The contents of regular files, by number. -/
  contents : List Content
  /-- The working directory. -/
  cwd : RealPath
  /-- The logs that connections have open, each with the database file it belongs to. -/
  openLogs : List (FileId × OpenLog)
deriving Repr

/-! ## Entries of a directory -/

/-- The entry under a name. -/
def getName (es : List (Bytes × Entry)) (n : Bytes) : Option Entry :=
  es.lookup n

/-- Puts an entry under a name, in the place of the old one or at the end. -/
def putName (es : List (Bytes × Entry)) (n : Bytes) (e : Entry) : List (Bytes × Entry) :=
  match es with
  | [] => [(n, e)]
  | (m, old) :: es => if m = n then (n, e) :: es else (m, old) :: putName es n e

/-- Removes the entry under a name. -/
def eraseName (es : List (Bytes × Entry)) (n : Bytes) : List (Bytes × Entry) :=
  es.filter fun x => x.1 ≠ n

/-- Puts an entry under a name, or removes what is there. -/
def setName (es : List (Bytes × Entry)) (n : Bytes) : Option Entry → List (Bytes × Entry)
  | some e => putName es n e
  | none => eraseName es n

/-- The entry at a real path below a directory. -/
def Entry.at? : Entry → RealPath → Option Entry
  | e, [] => some e
  | .dir es, n :: ns =>
    match getName es n with
    | some e => e.at? ns
    | none => none
  | _, _ :: _ => none

/-- Changes what stands at a real path below a directory; nothing if the way there is missing. -/
def setAt (es : List (Bytes × Entry)) : RealPath → Option Entry → List (Bytes × Entry)
  | [], _ => es
  | [n], new => setName es n new
  | n :: ns, new =>
    match getName es n with
    | some (.dir sub) => putName es n (.dir (setAt sub ns new))
    | _ => es

namespace Disk

/-- The entry at a real path. -/
def entry? (d : Disk) (real : RealPath) : Option Entry :=
  (Entry.dir d.top).at? real

/-- Changes what stands at a real path. -/
def setEntry (d : Disk) (real : RealPath) (new : Option Entry) : Disk :=
  { d with top := setAt d.top real new }

/-- The content of a regular file. -/
def content (d : Disk) (id : FileId) : Content :=
  d.contents[id]?.getD (.bytes [])

/-- Changes the content of a regular file. -/
def setContent (d : Disk) (id : FileId) (c : Content) : Disk :=
  { d with contents := d.contents.set id c }

/-- Removes what stands at a real path, unless it is a directory. -/
def dropFile (d : Disk) (real : RealPath) : Disk :=
  match d.entry? real with
  | some (.dir _) => d
  | some _ => d.setEntry real none
  | none => d

/-- Makes a regular file at a real path. -/
def addFile (d : Disk) (real : RealPath) (c : Content) : FileId × Disk :=
  (d.contents.length,
    { d.setEntry real (some (.file d.contents.length)) with contents := d.contents ++ [c] })

/-- The spelling of a real path. -/
def spell (real : RealPath) : Path :=
  ⟨if real = [] then [Path.slash] else real.flatMap fun n => Path.slash :: n⟩

/-- The working directory as a path. -/
def cwdPath (d : Disk) : Path :=
  spell d.cwd

/-- A disk that holds nothing but the way to its working directory. -/
def empty (cwd : RealPath) : Disk where
  top :=
    match cwd with
    | [] => []
    | n :: ns => [(n, ns.foldr (fun m e => .dir [(m, e)]) (.dir []))]
  contents := []
  cwd := cwd
  openLogs := []

end Disk
end SyntaxGraph
