/-!
# Reports of index runs
-/

set_option autoImplicit false
namespace SyntaxGraph

/-- The counters of an index run. -/
structure Report where
  /-- Regular files found by the walk. -/
  filesSeen : Nat := 0
  /-- Files parsed and written to the graph. -/
  filesIndexed : Nat := 0
  /-- Files of no known language. -/
  filesSkipped : Nat := 0
  /-- Files that are not text. -/
  filesFailed : Nat := 0
  nodesVisited : Nat := 0
  nodesInserted : Nat := 0
  /-- Nodes whose id was taken. -/
  nodesIgnored : Nat := 0
  edgesInserted : Nat := 0
  /-- Writes the store refused. -/
  insertErrors : Nat := 0
deriving DecidableEq, Repr

end SyntaxGraph
