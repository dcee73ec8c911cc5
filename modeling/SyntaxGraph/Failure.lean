import SyntaxGraph.Disk.OsError
import SyntaxGraph.Store.Fault

/-!
# Failures

A failure is a cause together with what was being done when it arose.  Its lines go from the general
to the particular.
-/

set_option autoImplicit false
namespace SyntaxGraph

/-- What was being done. -/
inductive Activity where
  | creatingDirectory (p : Path)
  | opening (p : Path)
  | configuring
  | preparingTables
  | readingSchema (p : Path)
  | clearing
  | writingExport (p : Path)
deriving DecidableEq, Repr

/-- That an activity failed, in words. -/
def Activity.text : Activity → String
  | creatingDirectory p => "Failed to create data directory " ++ p.quoted
  | opening p => "Failed to open database at " ++ p.quoted
  | configuring => "Failed to configure database"
  | preparingTables => "Failed to initialize graph schema"
  | readingSchema p => "Failed to read schema of " ++ p.quoted
  | clearing => "Failed to clear graph"
  | writingExport p => "Failed to write context to " ++ p.quoted

/-- A failed operation. -/
inductive Failure where
  /-- The file system refused. -/
  | os (doing : Activity) (error : OsError)
  /-- The store refused. -/
  | store (doing : Option Activity) (fault : Fault)
deriving DecidableEq, Repr

namespace Failure

/-- What is said about a failure, line by line. -/
def lines : Failure → List String
  | os doing error => [doing.text, error.message]
  | store doing fault => doing.toList.map Activity.text ++ fault.lines

/-- What is said about a failure, in one line. -/
def message (f : Failure) : String :=
  String.intercalate ": " f.lines

end Failure
end SyntaxGraph
