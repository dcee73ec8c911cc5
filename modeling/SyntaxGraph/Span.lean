/-!
# Source positions

Rows and columns count from zero, and a column counts the bytes before it in its row.
-/

set_option autoImplicit false
namespace SyntaxGraph

/-- A place in a source text. -/
structure Point where
  row : UInt64
  col : UInt64
deriving DecidableEq, Repr, Inhabited

/-- The stretch of source text a syntax node covers. -/
structure Span where
  start : Point
  stop : Point
deriving DecidableEq, Repr, Inhabited

end SyntaxGraph
