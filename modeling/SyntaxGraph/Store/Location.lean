import SyntaxGraph.Store.Fault

/-!
# Where a store path leads

The store reads the path it is given in a way of its own.  A path that begins with `file:` is taken
apart: an authority, which must be this machine, the name of the file, and after a `?` options of the
form `name=value` between `&`; a `#` ends it all.  In each of these parts `%` and two digits stand for
a byte, and a zero byte so written ends the part.  Any other path is the name of a file as it stands.

The empty name, the name `:memory:` and the option `mode=memory` mean no file at all: such a store is
private and forgotten when it is closed.

## What is here

* `Location.Spelled` — a path taken apart.
* `Location.read` — where a path leads, and how the file there may be used.
-/

set_option autoImplicit false
namespace SyntaxGraph

/-- What may be done with the file of a store. -/
inductive Access where
  /-- It is read. -/
  | read
  /-- It is read and written. -/
  | write
  /-- It is read and written, and made if it is missing. -/
  | create
  /-- There is no file. -/
  | memory
deriving DecidableEq, Repr

/-- How far an access goes.  One that is asked for must not go farther than the one in force. -/
def Access.reach : Access → Nat
  | read => 1
  | write => 2
  | create => 6
  | memory => 128

/-- Where a store path leads. -/
structure Location where
  /-- The name of the file. -/
  name : Path
  access : Access
  /-- Whether no file backs the store. -/
  isPrivate : Bool
  /-- Whether the file is promised not to change. -/
  immutable : Bool
  /-- Whether the file is used without locks, which rules a log out. -/
  unlocked : Bool
  /-- Whether the index of a log is kept apart from all files. -/
  fileless : Bool
deriving DecidableEq, Repr

namespace Location

/-! ## Taking a path apart -/

/-- The value of a digit in base sixteen, given as a byte. -/
def hexValue? (b : UInt8) : Option UInt8 :=
  if 0x30 ≤ b ∧ b ≤ 0x39 then some (b - 0x30)
  else if 0x61 ≤ b ∧ b ≤ 0x66 then some (b - 0x61 + 10)
  else if 0x41 ≤ b ∧ b ≤ 0x46 then some (b - 0x41 + 10)
  else none

/-- Reads a part up to the first byte at which it stops: the part, and the bytes from there on. -/
def readPart (stops : UInt8 → Bool) : Bytes → Bytes × Bytes
  | 0x25 :: a :: b :: rest =>
    match hexValue? a, hexValue? b with
    | some x, some y =>
      if x * 16 + y = 0 then ([], rest.dropWhile fun c => !stops c)
      else
        let (part, rest) := readPart stops rest
        ((x * 16 + y) :: part, rest)
    | _, _ =>
      let (part, rest) := readPart stops (a :: b :: rest)
      (0x25 :: part, rest)
  | c :: rest =>
    if stops c then ([], c :: rest)
    else
      let (part, rest) := readPart stops rest
      (c :: part, rest)
  | [] => ([], [])

/-- The byte between the name of the file and the options. -/
def query : UInt8 := 0x3F

/-- The byte between two options. -/
def ampersand : UInt8 := 0x26

/-- The byte between the name of an option and its value. -/
def equalsSign : UInt8 := 0x3D

/-- The byte that ends the path. -/
def hashSign : UInt8 := 0x23

/-- Reads options.  One without a name is passed over.  The first argument bounds their number. -/
def readOptionsWithin : Nat → Bytes → List (Bytes × Bytes)
  | 0, _ => []
  | n + 1, bs =>
    match readPart (fun c => c == equalsSign || c == ampersand) bs with
    | ([], []) => []
    | (name, []) => [(name, [])]
    | ([], c :: rest) =>
      readOptionsWithin n (if c = ampersand then rest else (rest.dropWhile (· ≠ ampersand)).drop 1)
    | (name, c :: rest) =>
      if c = ampersand then (name, []) :: readOptionsWithin n rest
      else
        let (value, rest) := readPart (· == ampersand) rest
        (name, value) :: readOptionsWithin n (rest.drop 1)

/-- Reads options.  Every option takes a byte, so the bound is never reached. -/
def readOptions (bs : Bytes) : List (Bytes × Bytes) :=
  readOptionsWithin (bs.length + 1) bs

/-- A path taken apart. -/
structure Spelled where
  name : Bytes
  options : List (Bytes × Bytes)
deriving DecidableEq, Repr

/-- The mark of a path that is to be taken apart. -/
def mark : Bytes :=
  Utf8.ofString "file:"

/-- The authority after the mark, with the bytes after it; there is none unless two slashes stand in
front of it. -/
def authority : Bytes → Bytes × Bytes
  | 0x2F :: 0x2F :: rest => (rest.takeWhile (· ≠ Path.slash), rest.dropWhile (· ≠ Path.slash))
  | bs => ([], bs)

/-- Takes a path apart. -/
def spelled (p : Path) : Except Fault Spelled :=
  if mark.isPrefixOf p.bytes then
    let (host, bs) := authority (p.bytes.drop mark.length)
    if host ≠ [] ∧ host ≠ Utf8.ofString "localhost" then .error (.badAuthority (Utf8.lossy host))
    else
      let (name, rest) := readPart (· == query) (bs.takeWhile (· ≠ hashSign))
      .ok ⟨name, readOptions (rest.drop 1)⟩
  else .ok ⟨p.bytes, []⟩

/-! ## Options -/

/-- The access a value of the option `mode` stands for. -/
def accessNamed? (value : String) : Option Access :=
  match value with
  | "ro" => some .read
  | "rw" => some .write
  | "rwc" => some .create
  | "memory" => some .memory
  | _ => none

/-- The access in force after an option. -/
def adjust (access : Access) (option : Bytes × Bytes) : Except Fault Access :=
  let value := Utf8.lossy option.2
  match Utf8.lossy option.1 with
  | "cache" =>
    if value = "shared" ∨ value = "private" then .ok access else .error (.unknownMode "cache" value)
  | "mode" =>
    match accessNamed? value with
    | none => .error (.unknownMode "access" value)
    | some asked =>
      if asked ≠ .memory ∧ access.reach < asked.reach then .error (.modeNotAllowed value)
      else .ok asked
  | _ => .ok access

/-- The value of the first option with a name. -/
def option? (options : List (Bytes × Bytes)) (name : String) : Option String :=
  (options.lookup (Utf8.ofString name)).map Utf8.lossy

/-- Whether a character is a digit in base sixteen. -/
def isHexDigit (c : Char) : Bool :=
  c.isDigit || ('a' ≤ c.toLower && c.toLower ≤ 'f')

/-- The value of digits in base sixteen. -/
def hexNumber (ds : List Char) : Nat :=
  ds.foldl (fun n c => n * 16 + if c.isDigit then c.toNat - 48 else c.toLower.toNat - 87) 0

/-- The number that characters start with, in base sixteen after `0x`. -/
def leadingNumber (cs : List Char) : Nat :=
  let decimal := Decimal.value (cs.takeWhile Char.isDigit)
  match cs with
  | '0' :: x :: rest =>
    if x.toLower = 'x' ∧ rest.head?.any isHexDigit then hexNumber (rest.takeWhile isHexDigit)
    else decimal
  | _ => decimal

/-- Whether a value of an option means yes: it does if it starts with a signed word of 32 bits whose
low byte is not zero, and if it is one of three words. -/
def isYes (value : String) : Bool :=
  if value.toList.head?.any Char.isDigit then
    let n := leadingNumber value.toList
    n ≤ 2147483647 && n % 256 != 0
  else ["on", "yes", "true"].contains value.toLower

/-- Whether an option is there and means yes. -/
def isSet (options : List (Bytes × Bytes)) (name : String) : Bool :=
  ((option? options name).map isYes).getD false

/-- The kinds of file systems that may be asked for. -/
def systems : List String :=
  ["unix", "unix-none", "unix-dotfile", "unix-excl", "memdb"]

/-- The kinds of file systems that know no log. -/
def systemsWithoutLog : List String :=
  ["unix-none", "unix-dotfile"]

/-- The kind of file system asked for: the last one counts. -/
def system (options : List (Bytes × Bytes)) : String :=
  (option? options.reverse "vfs").getD "unix"

/-- Where a path leads that has been taken apart. -/
def ofSpelled (access : Access) (s : Spelled) : Except Fault Location :=
  match s.options.foldlM adjust access with
  | .error f => .error f
  | .ok access =>
    if systems.contains (system s.options) then
      .ok {
        name := ⟨s.name⟩
        access := access
        isPrivate := s.name == [] || s.name == Utf8.ofString ":memory:" || access == .memory ||
          system s.options == "memdb"
        immutable := isSet s.options "immutable"
        unlocked := isSet s.options "nolock" || systemsWithoutLog.contains (system s.options)
        fileless := system s.options == "unix-excl" }
    else .error (.unknownSystem (system s.options))

/-- Where a path leads, if the file is to be used as `access` says. -/
def read (p : Path) (access : Access) : Except Fault Location :=
  match p.bytes.idxOf? 0 with
  | some position => .error (.zeroByte position)
  | none =>
    match spelled p with
    | .error f => .error f
    | .ok s => ofSpelled access s

end Location
end SyntaxGraph
