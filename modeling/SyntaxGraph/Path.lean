import SyntaxGraph.Text.Quoted

/-!
# Paths

A path is a byte sequence in which slashes separate names.  Two views of it matter.  Its *spelling*
is what is joined, shown and stored.  Its *components* are what it means: repeated slashes and inner
`.` disappear, `..` stays, because what it stands for depends on the links on the way.

## What is here

* `Path.components`, `Path.fileName?`, `Path.extension?` — the meaning of a spelling.
* `Path.join`, `Path.ancestors`, `Path.parent?` — new spellings from old ones.  An ancestor is
  spelled by an initial part of the path, so it keeps doubled slashes inside.
* `Path.resolve` — the canonical spelling of a path, seen from a working directory.
-/

set_option autoImplicit false
namespace SyntaxGraph

/-- A path, by its spelling. -/
structure Path where
  bytes : Bytes
deriving DecidableEq, Repr, Inhabited

namespace Path

/-- The byte that separates names. -/
def slash : UInt8 := 0x2F

/-- The byte in front of an extension. -/
def dot : UInt8 := 0x2E

/-- The path spelled by a text. -/
def ofString (s : String) : Path :=
  ⟨Utf8.ofString s⟩

/-- The path as text, with U+FFFD for what is not text. -/
def text (p : Path) : String :=
  Utf8.lossy p.bytes

/-- The path between quotes, as messages show it. -/
def quoted (p : Path) : String :=
  Quoted.ofBytes p.bytes

/-- Whether the path starts at the root directory. -/
def isAbsolute (p : Path) : Bool :=
  p.bytes.head? == some slash

/-! ## Segments -/

/-- The stretches between slashes: one more than there are slashes. -/
def splitSlash : Bytes → List Bytes
  | [] => [[]]
  | b :: bs =>
    if b = slash then [] :: splitSlash bs
    else
      match splitSlash bs with
      | [] => [[b]]
      | s :: ss => (b :: s) :: ss

/-- Segments with slashes between them. -/
def joinSlash (ss : List Bytes) : Bytes :=
  List.intercalate [slash] ss

theorem splitSlash_ne_nil (bs : Bytes) : splitSlash bs ≠ [] := by
  cases bs with
  | nil => simp [splitSlash]
  | cons b bs =>
    simp only [splitSlash]
    split
    · simp
    · split <;> simp

/-- Splitting loses nothing. -/
theorem joinSlash_splitSlash (bs : Bytes) : joinSlash (splitSlash bs) = bs := by
  induction bs with
  | nil => rfl
  | cons b bs ih =>
    simp only [splitSlash]
    split
    · rename_i h
      cases hs : splitSlash bs with
      | nil => exact absurd hs (splitSlash_ne_nil bs)
      | cons s ss =>
        rw [hs] at ih
        simp [joinSlash, List.intercalate, List.intersperse] at ih ⊢
        exact ⟨h.symm, ih⟩
    · cases hs : splitSlash bs with
      | nil => exact absurd hs (splitSlash_ne_nil bs)
      | cons s ss =>
        rw [hs] at ih
        cases ss <;> simp_all [joinSlash, List.intercalate, List.intersperse]

/-! ## Components -/

/-- A step of a path. -/
inductive Component where
  /-- The root directory. -/
  | root
  /-- A leading `.` of a relative path. -/
  | current
  /-- The directory above, `..`. -/
  | parent
  /-- An entry of the directory reached so far. -/
  | name (n : Bytes)
deriving DecidableEq, Repr

/-- What a segment means inside a path: nothing if it is empty or `.`. -/
def Component.ofSegment? : Bytes → Option Component
  | [] => none
  | s => if s = [dot] then none else if s = [dot, dot] then some .parent else some (.name s)

/-- The spelling of a component. -/
def Component.bytes : Component → Bytes
  | .root => [slash]
  | .current => [dot]
  | .parent => [dot, dot]
  | .name n => n

/-- The components of a path. -/
def components (p : Path) : List Component :=
  let start :=
    if p.isAbsolute then [Component.root]
    else if (splitSlash p.bytes).head? = some [dot] then [Component.current]
    else []
  start ++ (splitSlash p.bytes).filterMap Component.ofSegment?

/-- The name of the entry the path leads to, if its last component is a name. -/
def fileName? (p : Path) : Option Bytes :=
  match p.components.getLast? with
  | some (.name n) => some n
  | _ => none

/-- What follows the last dot of a name, unless that dot is its first byte. -/
def nameExtension? (n : Bytes) : Option Bytes :=
  match n.reverse.dropWhile (· ≠ dot) with
  | _ :: _ :: _ => some (n.reverse.takeWhile (· ≠ dot)).reverse
  | _ => none

/-- The extension of the path's file name. -/
def extension? (p : Path) : Option Bytes :=
  p.fileName?.bind nameExtension?

/-! ## New paths from old ones -/

/-- `q` seen from the directory `p`: `q` itself if it is absolute, else the two spellings with
a slash between them unless `p` is empty or ends in one. -/
def join (p q : Path) : Path :=
  if q.isAbsolute then q
  else if p.bytes = [] ∨ p.bytes.getLast? = some slash then ⟨p.bytes ++ q.bytes⟩
  else ⟨p.bytes ++ slash :: q.bytes⟩

/-- Joins a name given as text. -/
def joinText (p : Path) (s : String) : Path :=
  p.join (ofString s)

/-- Whether a segment contributes no component unless it stands first. -/
def isBlank (s : Bytes) : Bool :=
  s == [] || s == [dot]

/-- Drops the blank segments at the end.  The list is reversed; the first segment of the path, which
is the last of the list, stays. -/
def trimBlank : List Bytes → List Bytes
  | s :: t :: rest => if isBlank s then trimBlank (t :: rest) else s :: t :: rest
  | ss => ss

/-- The path spelled by reversed segments, without blank segments at its end. -/
def ofReversed (ss : List Bytes) : Path :=
  match (trimBlank ss).reverse with
  | [[]] => ⟨[slash]⟩
  | trimmed => ⟨joinSlash trimmed⟩

/-- The proper ancestors of a path given by its reversed segments, nearest first. -/
def outer : List Bytes → List Path
  | [] => []
  | [s] => if s = [] then [] else [⟨[]⟩]
  | s :: t :: rest =>
    if isBlank s then outer (t :: rest) else ofReversed (t :: rest) :: outer (t :: rest)

/-- The proper ancestors of a path, nearest first.  A relative path ends in the empty one. -/
def ancestors (p : Path) : List Path :=
  outer (splitSlash p.bytes).reverse

/-- The nearest ancestor. -/
def parent? (p : Path) : Option Path :=
  p.ancestors.head?

/-! ## Canonical spelling -/

/-- The path with the given components. -/
def ofComponents (cs : List Component) : Path :=
  cs.foldl (fun p c => p.join ⟨c.bytes⟩) ⟨[]⟩

/-- The path made absolute. -/
def absolute (cwd p : Path) : Path :=
  if p.isAbsolute then p else cwd.join p

/-- The canonical spelling of `p` seen from `cwd`: absolute, with single slashes, without `.`. -/
def resolve (cwd p : Path) : Path :=
  ofComponents ((absolute cwd p).components.filter (· ≠ .current))

end Path
end SyntaxGraph
