import SyntaxGraph.Path

/-!
# The form of an argument

What an argument is can be seen from how it begins, before it is known which options there are.
-/

set_option autoImplicit false
namespace SyntaxGraph
namespace CommandLine

/-- The byte `=`. -/
def equals : UInt8 := 0x3D

/-- An argument by its form. -/
inductive Argument where
  /-- Two dashes alone: no option follows. -/
  | separator
  /-- Two dashes and a name, with a value after the first `=` if there is one. -/
  | long (name : Bytes) (value : Option Bytes)
  /-- One dash and letters. -/
  | short (letters : Bytes)
  /-- Anything else, a single dash included. -/
  | plain
deriving DecidableEq, Repr

/-- A name and the value attached to it. -/
def splitValue (bs : Bytes) : Bytes × Option Bytes :=
  match bs.dropWhile (· ≠ equals) with
  | [] => (bs, none)
  | _ :: value => (bs.takeWhile (· ≠ equals), some value)

/-- The form of an argument. -/
def Argument.ofBytes (bs : Bytes) : Argument :=
  match bs with
  | 0x2D :: 0x2D :: [] => separator
  | 0x2D :: 0x2D :: rest => long (splitValue rest).1 (splitValue rest).2
  | 0x2D :: b :: rest => short (b :: rest)
  | _ => plain

end CommandLine
end SyntaxGraph
