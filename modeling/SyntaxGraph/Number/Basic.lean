import SyntaxGraph.Number.Magnitude
import SyntaxGraph.Text.Decimal

/-!
# Numbers

A number that need not be an integer: a magnitude with a sign, or an infinity.

## What is here

* `Number.compare` — the order of numbers by value.
* `Number.int?` — the integer a number is stored as, where it is one.
-/

set_option autoImplicit false
namespace SyntaxGraph

/-- A number, or an infinity. -/
inductive Number where
  | finite (negative : Bool) (magnitude : Magnitude)
  | infinite (negative : Bool)
deriving DecidableEq, Repr

namespace Number

/-- An integer as a number. -/
def ofInt (i : Int) : Number :=
  .finite (i < 0) (.ofNat i.natAbs)

/-- Where a number lies: below all finite numbers, among them, or above them. -/
def zone : Number → Int
  | finite _ _ => 0
  | infinite negative => if negative then -1 else 1

/-- The mantissa of a number with its sign, over the exponent it has in common with another. -/
def signed (negative : Bool) (m : Nat) : Int :=
  if negative then -(m : Int) else m

/-- Compares by value. -/
def compare : Number → Number → Ordering
  | finite a x, finite b y =>
    let (m, n) := Magnitude.aligned x y
    Ord.compare (signed a m) (signed b n)
  | x, y => Ord.compare x.zone y.zone

/-- The integer a number is equal to, if it lies strictly between the two extreme signed words. -/
def int? : Number → Option Int
  | infinite _ => none
  | finite negative x =>
    match x.nat? with
    | none => none
    | some n =>
      let i := signed negative n
      if Decimal.isSignedWord (i - 1) ∧ Decimal.isSignedWord (i + 1) then some i else none

end Number
end SyntaxGraph
