import SyntaxGraph.Path
import SyntaxGraph.Store.Cell

/-!
# Faults of the store

What can go wrong inside the store, as causes.  The wording of each cause, and the general class
with its code that is reported along with it, stand in one place here.
-/

set_option autoImplicit false
namespace SyntaxGraph

/-- The tables of the graph. -/
inductive TableName where
  | nodes
  | edges
deriving DecidableEq, Repr

/-- The name of a table. -/
def TableName.text : TableName → String
  | nodes => "nodes"
  | edges => "edges"

/-- What was being done to a file when it could not be done. -/
inductive FileAccess where
  | read
  /-- Reading where the file has ended. -/
  | readBeyond
  | write
  | inspect
  | delete
  /-- Opening the index of a log. -/
  | openIndex
deriving DecidableEq, Repr

/-- The code of a failed access and its description. -/
def FileAccess.code : FileAccess → Nat × String
  | read => (266, "Error reading from disk")
  | readBeyond => (522, "Unable to obtain number of requested bytes (file truncated?)")
  | write => (778, "Error writing to disk")
  | inspect => (1802, "Error invoking fstat to get file metadata")
  | delete => (2570, "I/O error within xDelete of a VFS object")
  | openIndex =>
    (4618, "I/O error within the xShmMap method (trying to open a new shared-memory segment)")

/-- A cause of failure inside the store. -/
inductive Fault where
  /-- The database may only be read. -/
  | readOnly
  /-- A journal was left behind, and the database may only be read. -/
  | hotJournal
  /-- The file of the database is no longer where it was opened. -/
  | moved
  /-- A file cannot be opened: the one at the given path, or one beside it. -/
  | cannotOpen (path : Option Path)
  /-- The file holds something else than a database. -/
  | notADatabase
  /-- A file cannot be accessed. -/
  | inaccessible (access : FileAccess)
  /-- The path holds a zero byte at the given place. -/
  | zeroByte (position : Nat)
  /-- The path names another machine. -/
  | badAuthority (name : String)
  /-- An option of the path has no such value. -/
  | unknownMode (option value : String)
  /-- An option of the path asks for more than is allowed. -/
  | modeNotAllowed (value : String)
  /-- The path asks for a kind of file system that is not known. -/
  | unknownSystem (name : String)
  /-- The table does not exist. -/
  | noTable (table : TableName)
  /-- The table is a view. -/
  | isView (table : TableName)
  /-- The edges are a view, which cannot be indexed. -/
  | viewIndexed
  /-- A row is written with a column that the table lacks. -/
  | noColumn (table : TableName) (column : String)
  /-- A column is asked for that the table lacks. -/
  | unknownColumn (column query : String)
  /-- A transaction is open already. -/
  | nestedTransaction
  /-- A rule of the database refuses the row. -/
  | rejected (message : String)
  /-- A row with this id exists. -/
  | duplicate (table : String)
  /-- A cell holds a value of another type than its column. -/
  | columnType (type : CellType) (index : Nat) (column : String)
deriving DecidableEq, Repr

namespace Fault

/-- Where a column is first mentioned in a query, counted in bytes. -/
def offset (column query : String) : Nat :=
  match query.splitOn column with
  | before :: _ => before.utf8ByteSize
  | [] => 0

/-- The wording of a cause. -/
def cause : Fault → String
  | readOnly => "attempt to write a readonly database"
  | hotJournal => "attempt to write a readonly database"
  | moved => "attempt to write a readonly database"
  | cannotOpen none => "unable to open database file"
  | cannotOpen (some path) => "unable to open database file: " ++ path.text
  | notADatabase => "file is not a database"
  | inaccessible _ => "disk I/O error"
  | zeroByte position => "nul byte found in provided data at position: " ++ Decimal.ofNat position
  | badAuthority name => "invalid uri authority: " ++ name
  | unknownMode option value => "no such " ++ option ++ " mode: " ++ value
  | modeNotAllowed value => "access mode not allowed: " ++ value
  | unknownSystem name => "no such vfs: " ++ name
  | noTable table => "no such table: " ++ table.text
  | isView table => "cannot modify " ++ table.text ++ " because it is a view"
  | viewIndexed => "views may not be indexed"
  | noColumn table column => "table " ++ table.text ++ " has no column named " ++ column
  | unknownColumn column query =>
    "no such column: " ++ column ++ " in " ++ query ++ " at offset " ++
      Decimal.ofNat (offset column query)
  | nestedTransaction => "cannot start a transaction within a transaction"
  | rejected message => message
  | duplicate table => "UNIQUE constraint failed: " ++ table ++ ".id"
  | columnType type index column =>
    "Invalid column type " ++ type.name ++ " at index: " ++ Decimal.ofNat index ++ ", name: " ++ column

/-- The general class of a cause: its code and its description.  A value of the wrong type and a path
that is none belong to no class. -/
def code? : Fault → Option (Nat × String)
  | readOnly => some (8, "Attempt to write a readonly database")
  | hotJournal =>
    some (776, "Database has hot journal that must be rolled back (requires write access)")
  | moved => some (1032, "Database cannot be modified because database file has moved")
  | cannotOpen _ => some (14, "Unable to open the database file")
  | notADatabase => some (26, "File opened that is not a database file")
  | inaccessible access => some access.code
  | modeNotAllowed _ => some (3, "Access permission denied")
  | zeroByte _ => none
  | rejected _ => some (1811, "A RAISE function within a trigger fired")
  | duplicate _ => some (1555, "A PRIMARY KEY constraint failed")
  | columnType _ _ _ => none
  | _ => some (1, "SQL error or missing database")

/-- The class of a cause, in words. -/
def codeText (code : Nat × String) : String :=
  "Error code " ++ Decimal.ofNat code.1 ++ ": " ++ code.2

/-- The lines said about a fault: the cause, then its class.  A zero byte is said twice. -/
def lines : Fault → List String
  | zeroByte position => [(zeroByte position).cause, (zeroByte position).cause]
  | f => f.cause :: f.code?.toList.map codeText

end Fault
end SyntaxGraph
