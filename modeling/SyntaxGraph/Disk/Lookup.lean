import SyntaxGraph.Disk.Basic
import SyntaxGraph.Disk.OsError

/-!
# Finding what a path leads to

A path is followed step by step from the root or the working directory.  A symbolic link on the way
is replaced by its target; the one at the end only if it is to be followed.  The number of links is
limited, which is also what makes following a circle of links come to an end.  A name that is too
long is refused where it is looked up, and a path that is too long before it is followed.

Slashes at the end of a path count as one more step, which is empty: what comes before it must be a
directory, and a link there is followed.  A file cannot be made under a name with a slash after it,
whether the slash stands in the path or in the target of a link at its end.
-/

set_option autoImplicit false
namespace SyntaxGraph

/-- The steps of a path.  The last one is empty if slashes end the path. -/
def Path.steps (p : Path) : List Bytes :=
  (Path.splitSlash p.bytes).filter (· ≠ []) ++
    (if p.bytes.getLast? = some Path.slash then [[]] else [])

/-- Whether a step stays where it is. -/
def isStay (n : Bytes) : Bool :=
  n == [] || n == [Path.dot]

/-- Where following a path ends. -/
inductive Place where
  /-- At an entry. -/
  | found (real : RealPath) (entry : Entry)
  /-- At a name that is missing in an existing directory. -/
  | missing (directory : RealPath) (name : Bytes)
deriving Repr

/-- What a path is followed for. -/
inductive Purpose where
  /-- What stands at its end, be it a link. -/
  | inspect
  /-- What it leads to; a link at its end is followed. -/
  | reach
  /-- A file to be written, and made if it is missing; a link at its end is followed. -/
  | write
deriving DecidableEq, Repr

namespace Disk

/-- How many links are followed on the way of one path. -/
def linkLimit : Nat := 40

/-- How many bytes a name may have. -/
def nameLimit : Nat := 255

/-- How many bytes a path may have. -/
def pathLimit : Nat := 4095

/-- Follows steps from the directory `here`.  `links` is how many links may still be followed. -/
def descend (d : Disk) (purpose : Purpose) (links : Nat) (here : RealPath) (steps : List Bytes) :
    Except OsError Place :=
  match steps with
  | [] => .ok (.found here ((d.entry? here).getD (.dir [])))
  | n :: rest =>
    if isStay n then d.descend purpose links here rest
    else if n = [Path.dot, Path.dot] then d.descend purpose links here.dropLast rest
    else if purpose = .write ∧ rest = [[]] then .error .isADirectory
    else if nameLimit < n.length then .error .nameTooLong
    else
      match d.entry? (here ++ [n]) with
      | none => if rest = [] then .ok (.missing here n) else .error .notFound
      | some (.dir _) => d.descend purpose links (here ++ [n]) rest
      | some (.link target) =>
        if rest = [] ∧ purpose = .inspect then .ok (.found (here ++ [n]) (.link target))
        else
          match links with
          | 0 => .error .tooManyLinks
          | links + 1 =>
            d.descend purpose links (if target.isAbsolute then [] else here) (target.steps ++ rest)
      | some e => if rest = [] then .ok (.found (here ++ [n]) e) else .error .notADirectory
termination_by (links, steps.length)

/-- What is wrong with the spelling of a path, before it is followed. -/
def spellingError? (p : Path) : Option OsError :=
  if p.bytes.contains 0 then some .zeroByte
  else if p.bytes = [] then some .notFound
  else if pathLimit < p.bytes.length then some .nameTooLong
  else none

/-- The directory a path starts from. -/
def origin (d : Disk) (p : Path) : RealPath :=
  if p.isAbsolute then [] else d.cwd

/-- Follows a path. -/
def locate (d : Disk) (p : Path) (purpose : Purpose) : Except OsError Place :=
  match spellingError? p with
  | some e => .error e
  | none => d.descend purpose linkLimit (d.origin p) p.steps

/-- The entry a path leads to, and where it is. -/
def find (d : Disk) (p : Path) (purpose : Purpose) : Except OsError (RealPath × Entry) :=
  match d.locate p purpose with
  | .error e => .error e
  | .ok (.missing _ _) => .error .notFound
  | .ok (.found real e) => .ok (real, e)

/-- Whether a path leads to something, links followed. -/
def pathExists (d : Disk) (p : Path) : Bool :=
  match d.find p .reach with
  | .ok _ => true
  | .error _ => false

/-- Whether a path leads to a regular file, links followed. -/
def isFile (d : Disk) (p : Path) : Bool :=
  match d.find p .reach with
  | .ok (_, .file _) => true
  | _ => false

/-- Whether a path leads to a directory, links followed. -/
def isDir (d : Disk) (p : Path) : Bool :=
  match d.find p .reach with
  | .ok (_, .dir _) => true
  | _ => false

/-- The bytes of the regular file a path leads to; none if it leads to no such file. -/
def fileBytes (d : Disk) (p : Path) : Bytes :=
  match d.find p .reach with
  | .ok (_, .file id) => (d.content id).raw
  | _ => []

/-! ### What is found -/

variable {d : Disk} {p : Path} {purpose : Purpose} {x : RealPath} {e : Entry}

/-- Something is found at the end of a path that is well spelled. -/
theorem find_eq_ok_iff :
    d.find p purpose = .ok (x, e) ↔ spellingError? p = none ∧
      d.descend purpose linkLimit (d.origin p) p.steps = .ok (.found x e) := by
  unfold find locate
  cases spellingError? p with
  | some error => simp
  | none =>
    simp only [true_and]
    cases d.descend purpose linkLimit (d.origin p) p.steps with
    | error error => simp
    | ok place => cases place <;> simp

theorem pathExists_iff : d.pathExists p ↔ ∃ x e, d.find p .reach = .ok (x, e) := by
  rw [pathExists]
  cases d.find p .reach with
  | error error => simp
  | ok found =>
    obtain ⟨x, e⟩ := found
    simp

theorem isFile_iff : d.isFile p ↔ ∃ x id, d.find p .reach = .ok (x, .file id) := by
  rw [isFile]
  cases d.find p .reach with
  | error error => simp
  | ok found =>
    obtain ⟨x, e⟩ := found
    cases e <;> simp

theorem isDir_iff : d.isDir p ↔ ∃ x es, d.find p .reach = .ok (x, .dir es) := by
  rw [isDir]
  cases d.find p .reach with
  | error error => simp
  | ok found =>
    obtain ⟨x, e⟩ := found
    cases e <;> simp

end Disk
end SyntaxGraph
