import SyntaxGraph.Disk.Lookup

/-!
# Changing the tree

Making directories, writing files and removing entries.  Each operation answers with the disk as it
leaves it, also when it fails: making a directory with its ancestors may have made some of them.
-/

set_option autoImplicit false
namespace SyntaxGraph

/-- A path split before its last step. -/
structure LastStep where
  /-- The steps before the last. -/
  before : List Bytes
  /-- The last step. -/
  name : Bytes
  /-- Whether slashes follow it. -/
  slashes : Bool
deriving DecidableEq, Repr

/-- The last step of a path, unless it has none. -/
def Path.lastStep? (p : Path) : Option LastStep :=
  match ((Path.splitSlash p.bytes).filter (· ≠ [])).reverse with
  | [] => none
  | n :: ns => some ⟨ns.reverse, n, p.bytes.getLast? = some Path.slash⟩

/-- Whether a step names an entry, and is not `.` or `..`. -/
def isName (n : Bytes) : Bool :=
  n != [Path.dot] && n != [Path.dot, Path.dot]

namespace Disk

/-- The directory that the steps before the last lead to. -/
def directoryOf (d : Disk) (p : Path) (last : LastStep) : Except OsError RealPath :=
  match spellingError? p with
  | some e => .error e
  | none =>
    match d.descend .reach linkLimit (d.origin p) (last.before ++ [[]]) with
    | .error e => .error e
    | .ok (.missing _ _) => .error .notFound
    | .ok (.found real _) => .ok real

/-- Makes a directory. -/
def makeDir (d : Disk) (p : Path) : Except OsError Disk :=
  match p.lastStep? with
  | none => .error ((spellingError? p).getD .alreadyExists)
  | some last =>
    match d.directoryOf p last with
    | .error e => .error e
    | .ok dir =>
      if isName last.name ∧ nameLimit < last.name.length then .error .nameTooLong
      else if isName last.name ∧ (d.entry? (dir ++ [last.name])).isNone then
        .ok (d.setEntry (dir ++ [last.name]) (some (.dir [])))
      else .error .alreadyExists

/-- Makes a directory, unless it exists.  The empty path stands for the working directory. -/
def ensureDir (d : Disk) (p : Path) : Except OsError Unit × Disk :=
  if p.bytes = [] then (.ok (), d)
  else
    match d.makeDir p with
    | .ok d => (.ok (), d)
    | .error e => (if d.isDir p then .ok () else .error e, d)

/-- Makes a directory, unless it exists, given its proper ancestors, nearest first: they are made
too if it turns out that one is missing. -/
def makeDirBelow (d : Disk) (p : Path) : List Path → Except OsError Unit × Disk
  | [] => d.ensureDir p
  | q :: rest =>
    match d.ensureDir p with
    | (.error .notFound, _) =>
      match makeDirBelow d q rest with
      | (.error e, d) => (.error e, d)
      | (.ok (), d) => d.ensureDir p
    | done => done

/-- Makes a directory with its ancestors. -/
def makeDirs (d : Disk) (p : Path) : Except OsError Unit × Disk :=
  d.makeDirBelow p p.ancestors

/-- Puts a content into a file, which is made if it is missing. -/
def writeContent (d : Disk) (p : Path) (c : Content) : Except OsError Disk :=
  match d.locate p .write with
  | .error e => .error e
  | .ok (.missing dir n) => .ok (d.addFile (dir ++ [n]) c).2
  | .ok (.found _ (.file id)) => .ok (d.setContent id c)
  | .ok (.found _ (.dir _)) => .error .isADirectory
  | .ok (.found _ _) => .ok d

/-- Writes bytes to a file, which is made if it is missing. -/
def writeFile (d : Disk) (p : Path) (bs : Bytes) : Except OsError Disk :=
  d.writeContent p (.bytes bs)

/-- Removes an entry that is no directory; a link is removed and not followed. -/
def unlink (d : Disk) (p : Path) : Except OsError Disk :=
  match p.lastStep? with
  | none => .error ((spellingError? p).getD .isADirectory)
  | some last =>
    match d.directoryOf p last with
    | .error e => .error e
    | .ok dir =>
      if isName last.name ∧ nameLimit < last.name.length then .error .nameTooLong
      else if isName last.name then
        match d.entry? (dir ++ [last.name]) with
        | none => .error .notFound
        | some (.dir _) => .error .isADirectory
        | some _ =>
          if last.slashes then .error .notADirectory
          else .ok (d.setEntry (dir ++ [last.name]) none)
      else .error .isADirectory

/-- Puts a new entry where a path leads, unless something is there. -/
def makeEntry (d : Disk) (p : Path) (e : Entry) : Except OsError Disk :=
  match d.locate p .inspect with
  | .error e => .error e
  | .ok (.found _ _) => .error .alreadyExists
  | .ok (.missing dir n) => .ok (d.setEntry (dir ++ [n]) (some e))

/-- Removes an entry with all that is below it; links are not followed. -/
def removeAll (d : Disk) (p : Path) : Except OsError Disk :=
  match d.find p .inspect with
  | .error e => .error e
  | .ok (real, _) => .ok (d.setEntry real none)

end Disk
end SyntaxGraph
