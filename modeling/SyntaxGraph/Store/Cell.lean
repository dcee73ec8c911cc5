import SyntaxGraph.Number.Text
import SyntaxGraph.Text.Utf8

/-!
# Cells

A cell of a table holds a value of one of five types, whatever the type of its column: the column
only bends a value towards its own type when it is stored.  Reading a cell as the column's type can
therefore fail.
-/

set_option autoImplicit false
namespace SyntaxGraph

/-- A value in a table. -/
inductive Cell where
  | null
  | integer (n : Int64)
  | real (x : Number)
  | text (s : String)
  | blob (bs : Bytes)
deriving DecidableEq, Repr

/-- The type of a value, as error messages name it. -/
inductive CellType where
  | null
  | integer
  | real
  | text
  | blob
deriving DecidableEq, Repr

/-- The name of a type. -/
def CellType.name : CellType → String
  | null => "Null"
  | integer => "Integer"
  | real => "Real"
  | text => "Text"
  | blob => "Blob"

/-- The type of a column. -/
inductive ColumnType where
  | text
  | integer
deriving DecidableEq, Repr

namespace Cell

/-- The type of a value. -/
def type : Cell → CellType
  | null => .null
  | integer _ => .integer
  | real _ => .real
  | text _ => .text
  | blob _ => .blob

/-- A number as it stands in a column of integers. -/
def ofNumber (x : Number) : Cell :=
  match x.int? with
  | some i => integer (Int64.ofInt i)
  | none => real x

/-- A text as it stands in a column of integers: the integer it spells, if that is a signed word, or
else the number it denotes. -/
def ofText (s : String) : Cell :=
  match (Number.wholeText? s).filter Decimal.isSignedWord, Number.ofText? s with
  | some i, _ => integer (Int64.ofInt i)
  | none, some x => ofNumber x
  | none, none => text s

/-- A value as a column stores it: a column of texts turns numbers into texts, a column of integers
turns texts that denote a number, and numbers without a fraction, into integers. -/
def stored : ColumnType → Cell → Cell
  | .text, integer n => text (Decimal.ofInt n.toInt)
  | .text, real x => text x.text
  | .integer, real x => ofNumber x
  | .integer, text s => ofText s
  | _, c => c

/-! ## The order of values -/

/-- The rank of a value's type: null, then numbers, then texts, then blobs. -/
def rank : Cell → Nat
  | null => 0
  | integer _ => 1
  | real _ => 1
  | text _ => 2
  | blob _ => 3

/-- A value as a number; zero if it is none. -/
def number : Cell → Number
  | integer n => .ofInt n.toInt
  | real x => x
  | _ => .ofInt 0

/-- The bytes of a value that has some. -/
def bytes : Cell → Bytes
  | text s => Utf8.ofString s
  | blob bs => bs
  | _ => []

/-- Orders values by type, numbers among themselves by value, and texts and blobs by bytes. -/
def compare (a b : Cell) : Ordering :=
  (Ord.compare a.rank b.rank).then ((a.number.compare b.number).then (Ord.compare a.bytes b.bytes))

/-! ## Reading -/

/-- The text in a cell. -/
def text? : Cell → Option String
  | text s => some s
  | _ => none

/-- The integer in a cell. -/
def integer? : Cell → Option Int64
  | integer n => some n
  | _ => none

end Cell
end SyntaxGraph
