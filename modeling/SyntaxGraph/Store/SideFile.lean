import SyntaxGraph.Store.Settle

/-!
# Files beside a store

Three files may stand beside the file of a store, under its name with a suffix.  The *journal* holds
what a change replaces, for as long as the change is being made.  The *log* holds changes that have
not been carried over into the file; the *index* of the log is shared by all who have the log open.

A database says in its own file whether it is logged.  If it is, or if a log is found beside it, the
log is opened before anything else is done, and stays open until the connection is closed.

## What is here

* `OpenFile.lock` — what happens before a statement: a journal left behind is dealt with, and the log
  is opened.
* `OpenFile.database?` — the database as it is now, in the log or in the file.
* `OpenFile.obstacle?` — what stands in the way of a change.
* `OpenFile.store` — stores a changed database.
* `OpenFile.configure` — makes the database a logged one.
* `OpenFile.close` — closes the file; the last one to have the log open carries it over.
-/

set_option autoImplicit false
namespace SyntaxGraph

/-- How the name of the log goes on. -/
def logSuffix : String := "-wal"

/-- How the name of the index of the log goes on. -/
def indexSuffix : String := "-shm"

/-- How the name of the journal goes on. -/
def journalSuffix : String := "-journal"

/-- The real path of a file beside another: its name goes on with a suffix. -/
def beside (real : RealPath) (suffix : String) : RealPath :=
  real.dropLast ++ real.getLast?.toList.map (· ++ Utf8.ofString suffix)

/-- The database in a content.  A file that is empty, or holds no more than a single byte, is a
database without tables. -/
def Content.database? : Content → Option Database
  | database db => some db
  | bytes [] => some .blank
  | bytes [_] => some .blank
  | _ => none

/-- Whether a content is a database that has nothing in it yet. -/
def Content.isBlank : Content → Bool
  | bytes [] => true
  | bytes [_] => true
  | _ => false

/-- When it shows that a database cannot be changed. -/
inductive Stage where
  /-- With every statement that would change something. -/
  | statement
  /-- When a transaction begins that is to change something. -/
  | transaction
  /-- With the first change. -/
  | change
  /-- When changes are to be stored. -/
  | commit
deriving DecidableEq, Repr

/-- What stands in the way of a change. -/
structure Obstacle where
  stage : Stage
  fault : Fault
deriving DecidableEq, Repr

/-- The obstacle of a database that may only be read. -/
def Obstacle.readOnly : Obstacle :=
  ⟨.statement, .readOnly⟩

namespace Disk

/-- Whether there is something at a real path, links followed.  An empty file counts for nothing. -/
def holdsSomething (d : Disk) (real : RealPath) : Bool :=
  match d.find (spell real) .reach with
  | .ok (_, .file id) => (d.content id).raw ≠ []
  | .ok _ => true
  | .error _ => false

/-- Whether the name at the end of a real path is too long. -/
def isNameTooLong (real : RealPath) : Bool :=
  real.getLast?.any fun n => nameLimit < n.length

end Disk

namespace OpenFile

/-- Whether the file has nothing in it. -/
def isBlank (f : OpenFile) (d : Disk) : Bool :=
  (d.content f.id).isBlank

/-- Whether the file still stands where it was opened. -/
def isInPlace (f : OpenFile) (d : Disk) : Bool :=
  match d.find (Disk.spell f.real) .reach with
  | .ok (_, .file id) => id = f.id
  | _ => false

/-! ## The journal -/

/-- The journal's place. -/
def journal (f : OpenFile) : RealPath :=
  beside f.real journalSuffix

/-- Deals with a journal that was left behind.  Beside a blank file it means nothing and is removed.
Beside a database it tells of a change that was not finished, unless it begins with a zero byte: it
is removed too, which takes the right to write. -/
def settleJournal (f : OpenFile) (d : Disk) : Except Fault Disk :=
  if !d.holdsSomething f.journal then .ok d
  else if f.isBlank d then .ok (if f.readOnly then d else d.dropFile f.journal)
  else if !d.pathExists (Disk.spell f.real) then .error (.inaccessible .inspect)
  else
    match d.entry? f.journal with
    | some (.dir _) => .error (.inaccessible .read)
    | some (.link _) => .error (if f.readOnly then .hotJournal else .cannotOpen none)
    | some (.file id) =>
      if (d.content id).raw.head? = some 0 then .ok d
      else if f.readOnly then .error .hotJournal
      else .ok (d.dropFile f.journal)
    | _ => .ok d

/-! ## The log -/

/-- The place of the log. -/
def logPlace (f : OpenFile) : RealPath :=
  beside f.real logSuffix

/-- The place of the index of the log. -/
def indexPlace (f : OpenFile) : RealPath :=
  beside f.real indexSuffix

/-- Opens the file of the log, or makes it; `none` stands for a pipe. -/
def openLogFile (f : OpenFile) (d : Disk) : Except Fault (Option FileId × Disk) :=
  if Disk.isNameTooLong f.logPlace then .error (.cannotOpen none)
  else
    match d.entry? f.logPlace with
    | some (.file id) => .ok (some id, d)
    | some .pipe => .ok (none, d)
    | some _ => .error (.cannotOpen none)
    | none =>
      let (id, d) := d.addFile f.logPlace (.bytes [])
      .ok (some id, d)

/-- Opens the index of the log, or makes it, unless another connection has it open: whether it may be
written. -/
def openIndex (f : OpenFile) (d : Disk) : Except Fault (Bool × Disk) :=
  match d.openLogs.lookup f.id with
  | some other => .ok (other.writable, d)
  | none =>
    if f.fileless then .ok (true, d)
    else
      match d.entry? f.indexPlace with
      | some (.file id) => .ok (true, d.setContent id (.bytes indexMark))
      | some (.dir _) => .ok (false, d)
      | some .pipe => .error (.inaccessible .openIndex)
      | some (.link _) => .error (.cannotOpen none)
      | none => .ok (true, (d.addFile f.indexPlace (.bytes indexMark)).2)

/-- Whether another connection has a log open that this one does not see. -/
def missesLog (d : Disk) (id : FileId) (file : Option FileId) : Bool :=
  match d.openLogs.lookup id with
  | some ⟨some other, _⟩ =>
    file ≠ some other &&
      match d.content other with
      | .log _ => true
      | _ => false
  | _ => false

/-- Opens the log.  Where it cannot be opened, what was made on the way stays. -/
def openLog (f : OpenFile) (d : Disk) : Except Fault Unit × OpenFile × Disk :=
  if f.unlocked then (.error (.cannotOpen none), f, d)
  else if !d.pathExists (Disk.spell f.real) then (.error (.inaccessible .inspect), f, d)
  else
    match f.openLogFile d with
    | .error e => (.error e, f, d)
    | .ok (file, d) =>
      match f.openIndex d with
      | .error e => (.error e, f, d)
      | .ok (writable, d) =>
        let log : OpenLog := ⟨file, writable⟩
        (if missesLog d f.id file then .error (.inaccessible .readBeyond) else .ok (),
          { f with log := some log }, { d with openLogs := d.openLogs ++ [(f.id, log)] })

/-- Whether the file says that its database is logged. -/
def isLogged (f : OpenFile) (d : Disk) : Bool :=
  match d.content f.id with
  | .database db => db.logged
  | _ => false

/-- Opens the log if there is a reason to.  A log beside a blank file means nothing and is removed. -/
def seekLog (f : OpenFile) (d : Disk) : Except Fault Unit × OpenFile × Disk :=
  if d.holdsSomething f.logPlace then
    if f.isBlank d then
      if d.isRealDir f.logPlace then (.error (.inaccessible .delete), f, d)
      else (.ok (), f, d.dropFile f.logPlace)
    else f.openLog d
  else if f.isLogged d then f.openLog d
  else (.ok (), f, d)

/-- What happens before a statement.  Once the log is open, and where the file is promised not to
change, nothing is left to be done. -/
def lock (f : OpenFile) (d : Disk) : Except Fault Unit × OpenFile × Disk :=
  if f.log.isSome || f.immutable then (.ok (), f, d)
  else
    match f.settleJournal d with
    | .error e => (.error e, f, d)
    | .ok d => f.seekLog d

/-! ## Reading and writing -/

/-- The database in the log, if there is one. -/
def loggedDatabase? (f : OpenFile) (d : Disk) : Option Database :=
  match f.log with
  | some ⟨some id, _⟩ =>
    match d.content id with
    | .log db => some db
    | _ => none
  | _ => none

/-- The database as it is now; `none` if the file holds something else. -/
def database? (f : OpenFile) (d : Disk) : Option Database :=
  match f.loggedDatabase? d with
  | some db => some db
  | none => (d.content f.id).database?

/-- What stands in the way of making a journal. -/
def journalFault? (f : OpenFile) (d : Disk) : Option Fault :=
  if !f.isBlank d && !f.isInPlace d then some .moved
  else if !d.pathExists (Disk.spell f.real) then some (.inaccessible .inspect)
  else if Disk.isNameTooLong f.journal then some (.cannotOpen none)
  else
    match d.entry? f.journal with
    | some (.dir _) => some (.cannotOpen none)
    | some (.link _) => some (.cannotOpen none)
    | _ => none

/-- What stands in the way of a change. -/
def obstacle? (f : OpenFile) (d : Disk) : Option Obstacle :=
  if f.readOnly || f.immutable then some .readOnly
  else
    match f.log with
    | some log =>
      if !log.writable then some ⟨.transaction, .readOnly⟩
      else if log.file.isNone then some ⟨.commit, .inaccessible .write⟩
      else none
    | none => (f.journalFault? d).map (⟨.change, ·⟩)

/-- Stores a changed database: in the log, if it is open, and else in the file, by way of a journal
that is removed at the end. -/
def store (f : OpenFile) (db : Database) (d : Disk) : Disk :=
  match f.log with
  | some ⟨some id, _⟩ => d.setContent id (.log db)
  | some ⟨none, _⟩ => d
  | none => (d.setContent f.id (.database db)).dropFile f.journal

/-- Makes the database a logged one, unless its log is open already or there can be none. -/
def configure (f : OpenFile) (d : Disk) : Except Fault Unit × OpenFile × Disk :=
  match f.lock d with
  | (.error e, f, d) => (.error e, f, d)
  | (.ok (), f, d) =>
    match f.database? d with
    | none => (.error .notADatabase, f, d)
    | some db =>
      if f.log.isSome || f.immutable || f.unlocked then (.ok (), f, d)
      else
        match f.obstacle? d with
        | some o => (.error o.fault, f, d)
        | none => (.ok (), f, f.store { db with logged := true } d)

/-- Whether closing the file carries the log over.  It does so if the file may be written, is still in
its place and is nobody else's. -/
def carriesOver (f : OpenFile) (log : OpenLog) (d : Disk) : Bool :=
  !f.readOnly && log.writable && f.isInPlace d && !d.openLogs.any (·.1 = f.id)

/-- Carries the log over into the file and removes it with its index. -/
def carryOver (f : OpenFile) (d : Disk) : Disk :=
  let d :=
    match f.loggedDatabase? d with
    | some db => d.setContent f.id (.database db)
    | none => d
  let d := d.dropFile f.logPlace
  if f.fileless then d else d.dropFile f.indexPlace

/-- Closes the file. -/
def close (f : OpenFile) (d : Disk) : Disk :=
  match f.log with
  | none => d
  | some log =>
    let d := { d with openLogs := d.openLogs.erase (f.id, log) }
    if f.carriesOver log d then f.carryOver d else d

end OpenFile
end SyntaxGraph
