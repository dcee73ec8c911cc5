import SyntaxGraph.Disk.Lookup
import SyntaxGraph.Store.Location

/-!
# The file of a store

The name of a store's file is first settled into a real path: `.` and repeated slashes are dropped,
`..` takes back the step before it even if that step leads nowhere, and links are replaced by their
targets.  So a slash at the end does not matter here, unlike everywhere else.  The real path has to
leave room for the names of the files that come to stand beside the store's own.

## What is here

* `Disk.settle` — the real path of a path.
* `OpenFile` — the file of a store, once it is open.
* `Disk.openFile` — opens the file at a location, or makes it.
-/

set_option autoImplicit false
namespace SyntaxGraph

/-- An open database file. -/
structure OpenFile where
  id : FileId
  /-- Where the file was opened. -/
  real : RealPath
  /-- Whether the file may only be read. -/
  readOnly : Bool
  /-- Whether the file is promised not to change, and is read as it stands. -/
  immutable : Bool
  /-- Whether the file is used without locks, which rules a log out. -/
  unlocked : Bool
  /-- Whether the index of the log is kept apart from all files. -/
  fileless : Bool
  /-- The log of the database, once it is open. -/
  log : Option OpenLog
deriving DecidableEq, Repr

namespace Disk

/-- How many links are replaced while one path is settled. -/
def settleLimit : Nat := 201

/-- How many bytes a path may have while it is settled. -/
def settlingRoom : Nat := 511

/-- How many bytes a settled path may have. -/
def settledRoom : Nat := 504

/-- How many bytes the spelling of a real path has; the root has none here. -/
def spelledLength (real : RealPath) : Nat :=
  real.foldr (fun n total => n.length + 1 + total) 0

/-- Settles steps from the real path `here`; `none` if a step goes below something that is no
directory, a name or the path is too long, or there are too many links. -/
def settleSteps (d : Disk) (links : Nat) (here : RealPath) (steps : List Bytes) : Option RealPath :=
  match steps with
  | [] => some here
  | n :: rest =>
    if isStay n then d.settleSteps links here rest
    else if n = [Path.dot, Path.dot] then d.settleSteps links here.dropLast rest
    else if settlingRoom < spelledLength (here ++ [n]) then none
    else
      match d.entry? here with
      | none => d.settleSteps links (here ++ [n]) rest
      | some (.dir _) =>
        if nameLimit < n.length then none
        else
          match d.entry? (here ++ [n]) with
          | some (.link target) =>
            match links with
            | 0 => none
            | links + 1 =>
              d.settleSteps links (if target.isAbsolute then [] else here)
                (Path.splitSlash target.bytes ++ rest)
          | _ => d.settleSteps links (here ++ [n]) rest
      | some _ => none
termination_by (links, steps.length)

/-- The real path of a path; the root directory is none. -/
def settle (d : Disk) (p : Path) : Option RealPath :=
  match d.settleSteps settleLimit (d.origin p) (Path.splitSlash p.bytes) with
  | none => none
  | some real => if real = [] ∨ settledRoom < spelledLength real then none else some real

/-- Whether there is a directory at a real path. -/
def isRealDir (d : Disk) (real : RealPath) : Bool :=
  match d.entry? real with
  | some (.dir _) => true
  | _ => false

/-- The file at a real path: the number of its content, and the disk with the file. -/
def fileAt (d : Disk) (p : Path) (access : Access) (real : RealPath) :
    Except Fault (FileId × Disk) :=
  match d.entry? real with
  | some (.file id) => .ok (id, d)
  | some (.dir _) =>
    .error (if access = .read then .inaccessible .read else .cannotOpen (some p))
  | some .pipe => .error (.inaccessible .read)
  | some (.link _) => .error (.cannotOpen (some p))
  | none =>
    if access = .create ∧ d.isRealDir real.dropLast then .ok (d.addFile real (.bytes []))
    else .error (.cannotOpen (some p))

/-- Opens the file at a location, which was read off the path `p`. -/
def openFile (d : Disk) (p : Path) (l : Location) : Except Fault (OpenFile × Disk) :=
  match d.settle l.name with
  | none => .error (.cannotOpen (some p))
  | some real =>
    match d.fileAt p l.access real with
    | .error f => .error f
    | .ok (id, d) =>
      .ok (⟨id, real, l.access == .read, l.immutable, l.unlocked, l.fileless, none⟩, d)

/-! ### What is opened -/

variable {d d' : Disk} {p : Path} {real : RealPath}

/-- Files are opened or made, and nothing else is. -/
theorem fileAt_eq_ok {access : Access} {id : FileId} (h : d.fileAt p access real = .ok (id, d')) :
    d.entry? real = some (.file id) ∧ d' = d ∨
      d.entry? real = none ∧ id = d.contents.length ∧ d' = (d.addFile real (.bytes [])).2 := by
  rw [fileAt] at h
  split at h
  · rename_i he
    cases h
    exact .inl ⟨he, rfl⟩
  · cases h
  · cases h
  · cases h
  · rename_i he
    split at h
    · cases h
      exact .inr ⟨he, rfl, rfl⟩
    · cases h

/-- The file that is opened stands where the path is settled. -/
theorem openFile_eq_ok {l : Location} {f : OpenFile} (h : d.openFile p l = .ok (f, d')) :
    ∃ real id, d.settle l.name = some real ∧ d.fileAt p l.access real = .ok (id, d') ∧
      f = ⟨id, real, l.access == .read, l.immutable, l.unlocked, l.fileless, none⟩ := by
  rw [openFile] at h
  split at h
  · cases h
  · rename_i real hreal
    split at h
    · cases h
    · rename_i id d₁ hfile
      cases h
      exact ⟨real, id, hreal, hfile, rfl⟩

end Disk
end SyntaxGraph
