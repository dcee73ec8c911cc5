import SyntaxGraph.Language
import SyntaxGraph.Node

/-!
# Syntax trees

The tree a parser gives for a source text.  Parsing itself is a capability handed to the program: a
function from a language and a text to a tree, which marks broken code inside the tree and so never
fails.
-/

set_option autoImplicit false
namespace SyntaxGraph

/-- A syntax node with its children in source order. -/
inductive SyntaxTree where
  | node (kind : String) (span : Span) (children : List SyntaxTree)
deriving Repr, Inhabited

namespace SyntaxTree

/-- What kind of syntax the node is. -/
def kind : SyntaxTree → String
  | node k _ _ => k

/-- The stretch of source the node covers. -/
def span : SyntaxTree → Span
  | node _ s _ => s

/-- The nodes right below. -/
def children : SyntaxTree → List SyntaxTree
  | node _ _ cs => cs

/-- The id the node has in a file. -/
def idIn (filepath : String) (t : SyntaxTree) : String :=
  nodeId filepath t.kind t.span.start

/-- The graph node of the syntax node in a file. -/
def nodeIn (filepath : String) (t : SyntaxTree) : Node :=
  Node.ofSyntax filepath t.kind t.span

mutual

/-- The number of nodes of a tree. -/
def size : SyntaxTree → Nat
  | node _ _ cs => sizeAll cs + 1

/-- The number of nodes of a list of trees. -/
def sizeAll : List SyntaxTree → Nat
  | [] => 0
  | t :: ts => size t + sizeAll ts

end

@[simp] theorem nodeIn_id (filepath : String) (t : SyntaxTree) :
    (t.nodeIn filepath).id = t.idIn filepath := rfl

end SyntaxTree

/-- The parsing capability. -/
structure Parser where
  parse : Language → String → SyntaxTree

namespace Parser

/-- Parses in the language with the given identifier; `none` if no language has it. -/
def parseNamed? (parser : Parser) (language source : String) : Option SyntaxTree :=
  (Language.ofName? language).map fun l => parser.parse l source

end Parser
end SyntaxGraph
