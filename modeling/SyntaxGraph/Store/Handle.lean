import SyntaxGraph.Store.Connection

/-!
# Handles

A handle is an open store: the path it was opened with, what backs it, and the transaction that is
open on it, if any.  Handles on one file share its content.  A handle that is closed takes its open
transaction with it.

## What is here

* `Handle.connect` — the handle as a connection to the content its backing has now.
* `Handle.apply`, `Handle.read` — an operation on that connection, and the handle and the disk after
  it.
* `Handle.close` — the disk after the handle is closed.
-/

set_option autoImplicit false
namespace SyntaxGraph

/-- What a store is backed by. -/
inductive Backing where
  /-- Nothing but the store itself. -/
  | own (db : Database) (readOnly : Bool)
  /-- A file. -/
  | shared (file : OpenFile)
deriving Repr

/-- An open store. -/
structure Handle where
  /-- The path as it was given. -/
  path : Path
  backing : Backing
  /-- The view of the open transaction, if there is one. -/
  working : Option Database
deriving Repr

namespace Handle

variable {α : Type}

/-- The handle of a private store that no file backs. -/
def inMemory : Handle :=
  ⟨Path.ofString ":memory:", .own .fresh false, none⟩

/-- Whether the store may only be read. -/
def readOnly (h : Handle) : Bool :=
  match h.backing with
  | .own _ readOnly => readOnly
  | .shared f => f.readOnly

/-- What happens before a statement.  Inside a transaction it has happened. -/
def lock (h : Handle) (d : Disk) : Except Fault Unit × Handle × Disk :=
  match h.working, h.backing with
  | none, .shared f =>
    let (result, f, d) := f.lock d
    (result, { h with backing := .shared f }, d)
  | _, _ => (.ok (), h, d)

/-- The content of the store, as its backing has it. -/
def stored? (h : Handle) (d : Disk) : Option Database :=
  match h.backing with
  | .own db _ => some db
  | .shared f => f.database? d

/-- What stands in the way of a change. -/
def obstacle? (h : Handle) (d : Disk) : Option Obstacle :=
  match h.backing with
  | .own _ readOnly => if readOnly then some .readOnly else none
  | .shared f => f.obstacle? d

/-- The handle as a connection.  There is none if the content cannot be read as a database. -/
def connect (h : Handle) (d : Disk) : Except Fault Connection × Handle × Disk :=
  match h.lock d with
  | (.error f, h, d) => (.error f, h, d)
  | (.ok (), h, d) =>
    match h.stored? d with
    | none => (.error .notADatabase, h, d)
    | some db => (.ok ⟨h.obstacle? d, db, h.working, false⟩, h, d)

/-- The handle and the disk after the connection was used. -/
def keep (h : Handle) (d : Disk) (c : Connection) : Handle × Disk :=
  let h := { h with working := c.working }
  if c.changed && c.working.isNone then
    match h.backing with
    | .own _ readOnly => ({ h with backing := .own c.stored readOnly }, d)
    | .shared f => (h, f.store c.stored d)
  else (h, d)

/-- Does something on the handle's connection. -/
def apply (h : Handle) (d : Disk) (f : Connection → Except Fault α × Connection) :
    Except Fault α × Handle × Disk :=
  match h.connect d with
  | (.error e, h, d) => (.error e, h, d)
  | (.ok c, h, d) =>
    let (result, c) := f c
    (result, h.keep d c)

/-- Reads from the store. -/
def read (h : Handle) (d : Disk) (f : Database → Except Fault α) : Except Fault α × Handle × Disk :=
  h.apply d fun c => (f c.view, c)

/-- Does something that changes rows.  A store that may only be read refuses it, and does not look at
the files beside it first. -/
def applyChange (h : Handle) (d : Disk) (f : Connection → Except Fault α × Connection) :
    Except Fault α × Handle × Disk :=
  if h.readOnly then
    match h.stored? d with
    | none => (.error .readOnly, h, d)
    | some db => ((f ⟨some .readOnly, db, h.working, false⟩).1, h, d)
  else h.apply d f

/-- Makes the database a logged one. -/
def configure (h : Handle) (d : Disk) : Except Fault Unit × Handle × Disk :=
  match h.backing with
  | .own _ _ => (.ok (), h, d)
  | .shared f =>
    let (result, f, d) := f.configure d
    (result, { h with backing := .shared f }, d)

/-- Closes the handle. -/
def close (h : Handle) (d : Disk) : Disk :=
  match h.backing with
  | .own _ _ => d
  | .shared f => f.close d

end Handle
end SyntaxGraph
