import SyntaxGraph.Text.Hidden
import SyntaxGraph.Text.Utf8

/-!
# Quoted text

The form in which messages show a path: between double quotes, with everything escaped that would
make the quotation ambiguous or leave no mark of its own, and with broken bytes shown one by one.
-/

set_option autoImplicit false
namespace SyntaxGraph
namespace Quoted

/-- The digits of `n` in base sixteen, in lower case and without padding. -/
def hexDigits (n : Nat) : List Char :=
  Nat.toDigits 16 n

/-- A byte as two digits in upper case. -/
def hexByte (b : UInt8) : List Char :=
  [(Nat.digitChar (b.toNat / 16)).toUpper, (Nat.digitChar (b.toNat % 16)).toUpper]

/-- A character inside the quotes.  Where no short escape is made for it, a hidden character is shown
by its number. -/
def escape (c : Char) : List Char :=
  if c = '"' then ['\\', '"']
  else if c = '\\' then ['\\', '\\']
  else if c = '\n' then ['\\', 'n']
  else if c = '\t' then ['\\', 't']
  else if c = '\r' then ['\\', 'r']
  else if c.toNat = 0 then ['\\', '0']
  else if isHidden c then
    ['\\', 'u', '\x7b'] ++ hexDigits c.toNat ++ ['\x7d']
  else [c]

/-- A piece of a byte sequence inside the quotes. -/
def piece : Utf8.Piece → List Char
  | .char c => escape c
  | .broken bs => bs.flatMap fun b => ['\\', 'x'] ++ hexByte b

/-- A byte sequence between double quotes. -/
def ofBytes (bs : Bytes) : String :=
  String.ofList (['"'] ++ (Utf8.pieces bs).flatMap piece ++ ['"'])

end Quoted
end SyntaxGraph
