import SyntaxGraph.Node

/-!
# Writing nodes as JSON

A list of nodes is written with two blanks of indentation, one member a line, and no newline at the
end.  Inside strings only what must be escaped is escaped.
-/

set_option autoImplicit false
namespace SyntaxGraph
namespace Json

/-- A control character by its four-digit code. -/
def unicodeEscape (c : Char) : List Char :=
  ['\\', 'u', '0', '0', Nat.digitChar (c.toNat / 16), Nat.digitChar (c.toNat % 16)]

/-- A character inside a string. -/
def escape (c : Char) : List Char :=
  if c = '"' then ['\\', '"']
  else if c = '\\' then ['\\', '\\']
  else if c.toNat = 0x08 then ['\\', 'b']
  else if c.toNat = 0x0C then ['\\', 'f']
  else if c = '\n' then ['\\', 'n']
  else if c = '\r' then ['\\', 'r']
  else if c = '\t' then ['\\', 't']
  else if c.toNat < 0x20 then unicodeEscape c
  else [c]

/-- A string literal. -/
def quote (s : String) : List Char :=
  ['"'] ++ s.toList.flatMap escape ++ ['"']

/-- A member of an object, on a line of its own. -/
def member (key : String) (value : List Char) : List Char :=
  "    ".toList ++ quote key ++ [':', ' '] ++ value

/-- Items with a comma and a newline between them. -/
def commaLines (items : List (List Char)) : List Char :=
  List.intercalate [',', '\n'] items

/-- The members of a node in the order in which they are written. -/
def nodeMembers (n : Node) : List (List Char) :=
  [member "id" (quote n.id),
   member "filepath" (quote n.filepath),
   member "type" (quote n.kind),
   member "start_row" (Decimal.signed n.startRow.toInt),
   member "start_col" (Decimal.signed n.startCol.toInt),
   member "end_row" (Decimal.signed n.endRow.toInt),
   member "end_col" (Decimal.signed n.endCol.toInt)]

/-- A node as an object inside the list. -/
def nodeObject (n : Node) : List Char :=
  "  \x7b\n".toList ++ commaLines (nodeMembers n) ++ "\n  \x7d".toList

/-- A list of nodes. -/
def nodeArray : List Node → List Char
  | [] => ['[', ']']
  | ns => ['[', '\n'] ++ commaLines (ns.map nodeObject) ++ ['\n', ']']

end Json
end SyntaxGraph
