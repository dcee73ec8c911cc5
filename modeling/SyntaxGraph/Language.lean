import SyntaxGraph.Path

/-!
# Languages

The languages whose files are indexed, and how a file name tells which one it is written in.
Matching is exact: a name in capitals belongs to no language.
-/

set_option autoImplicit false
namespace SyntaxGraph

/-- A language with a grammar. -/
inductive Language where
  | lua
  | javascript
  | typescript
  | tsx
deriving DecidableEq, Repr

namespace Language

/-- Every language, in the order in which they are listed. -/
def all : List Language :=
  [lua, javascript, typescript, tsx]

/-- The identifier of a language, in messages and in JSON. -/
def name : Language → String
  | lua => "lua"
  | javascript => "javascript"
  | typescript => "typescript"
  | tsx => "tsx"

/-- The extensions of a language's files, without the dot. -/
def extensions : Language → List String
  | lua => ["lua"]
  | javascript => ["js", "jsx"]
  | typescript => ["ts"]
  | tsx => ["tsx"]

/-- The language with the given identifier. -/
def ofName? (s : String) : Option Language :=
  all.find? (·.name = s)

/-- A text without its leading dot, if it has one. -/
def dropDot (s : String) : String :=
  match s.toList with
  | '.' :: rest => String.ofList rest
  | _ => s

/-- The language of an extension, given with or without its dot. -/
def ofExtension? (ext : String) : Option Language :=
  all.find? fun l => (dropDot ext) ∈ l.extensions

/-- The language of a file. -/
def ofPath? (p : Path) : Option Language :=
  (p.extension?.bind Utf8.text?).bind ofExtension?

theorem mem_all (l : Language) : l ∈ all := by
  cases l <;> decide

theorem ofName?_name (l : Language) : ofName? l.name = some l := by
  cases l <;> decide

end Language
end SyntaxGraph
