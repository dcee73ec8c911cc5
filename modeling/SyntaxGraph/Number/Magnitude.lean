/-!
# Binary magnitudes

A magnitude is a natural number times a power of two.  Sums and products of magnitudes are exact;
what makes them fit a register is rounding, to a number of bits that count or to a grid of powers of
two.  A value half way between two neighbours goes to the one with the even mantissa.

## What is here

* `Magnitude.roundAt`, `Magnitude.roundBits` — rounding to a grid, and to so many bits.
* `Magnitude.quotient` — a quotient with enough bits that rounding it once rounds the true one.
* `Magnitude.tenTo` — a power of ten to so many bits.
* `Magnitude.double`, `Magnitude.isDouble` — rounding to a double of 53 bits, and whether the result
  is in range.
* `Magnitude.compare` — the order by value.
-/

set_option autoImplicit false
namespace SyntaxGraph

/-- The number `mantissa * 2 ^ exponent`. -/
structure Magnitude where
  mantissa : Nat
  exponent : Int
deriving DecidableEq, Repr

namespace Magnitude

/-- A natural number as a magnitude. -/
def ofNat (n : Nat) : Magnitude :=
  ⟨n, 0⟩

/-- A power of two. -/
def twoTo (n : Nat) : Nat :=
  Nat.pow 2 n

/-- How many bits a natural number has. -/
def bitCount (n : Nat) : Nat :=
  if n = 0 then 0 else n.log2 + 1

/-- The product of two magnitudes. -/
def mul (x y : Magnitude) : Magnitude :=
  ⟨x.mantissa * y.mantissa, x.exponent + y.exponent⟩

/-- The mantissas of two magnitudes over their smaller exponent. -/
def aligned (x y : Magnitude) : Nat × Nat :=
  let e := min x.exponent y.exponent
  (x.mantissa * twoTo (x.exponent - e).toNat, y.mantissa * twoTo (y.exponent - e).toNat)

/-- Compares by value. -/
def compare (x y : Magnitude) : Ordering :=
  Ord.compare (aligned x y).1 (aligned x y).2

/-- Whether one magnitude is less than another. -/
def isLess (x y : Magnitude) : Bool :=
  x.compare y == .lt

/-- The natural number a magnitude reaches. -/
def floor (x : Magnitude) : Nat :=
  if 0 ≤ x.exponent then x.mantissa * twoTo x.exponent.toNat
  else x.mantissa / twoTo (-x.exponent).toNat

/-- The natural number a magnitude is equal to, if there is one. -/
def nat? (x : Magnitude) : Option Nat :=
  if x.exponent < 0 ∧ x.mantissa % twoTo (-x.exponent).toNat ≠ 0 then none else some x.floor

/-! ## Rounding -/

/-- A quotient by a power of two, rounded to the nearest; a half goes to the even neighbour. -/
def nearest (m shift : Nat) : Nat :=
  let q := m / twoTo shift
  let r := m % twoTo shift
  match Ord.compare (2 * r) (twoTo shift) with
  | .lt => q
  | .gt => q + 1
  | .eq => if q % 2 = 0 then q else q + 1

/-- Rounds to a multiple of `2 ^ grid`. -/
def roundAt (grid : Int) (x : Magnitude) : Magnitude :=
  if grid ≤ x.exponent then x else ⟨nearest x.mantissa (grid - x.exponent).toNat, grid⟩

/-- Rounds to so many bits that count. -/
def roundBits (bits : Nat) (x : Magnitude) : Magnitude :=
  x.roundAt (x.exponent + bitCount x.mantissa - bits)

/-- A product rounded to so many bits. -/
def mulRounded (bits : Nat) (x y : Magnitude) : Magnitude :=
  (x.mul y).roundBits bits

/-- A quotient to at least `bits` bits and one more: its last bit is set if anything is left, so
rounding it to fewer bits is rounding the true quotient. -/
def quotient (bits : Nat) (x y : Magnitude) : Magnitude :=
  let shift := bitCount y.mantissa + bits
  let m := x.mantissa * twoTo shift
  let q := m / y.mantissa
  ⟨2 * q + (if m % y.mantissa = 0 then 0 else 1), x.exponent - y.exponent - shift - 1⟩

/-- A power of ten, rounded to so many bits. -/
def tenTo (bits : Nat) : Int → Magnitude
  | .ofNat n => (ofNat (Nat.pow 10 n)).roundBits bits
  | .negSucc n => (quotient (bits + 2) (ofNat 1) (ofNat (Nat.pow 10 (n + 1)))).roundBits bits

/-! ## Doubles -/

/-- How many bits of a double count. -/
def doubleBits : Nat := 53

/-- The exponent of the smallest positive double. -/
def doubleGrid : Int := -1074

/-- The largest double. -/
def largestDouble : Magnitude :=
  ⟨twoTo 53 - 1, 971⟩

/-- Rounds to a double, as if doubles had no largest one. -/
def double (x : Magnitude) : Magnitude :=
  x.roundAt (max (x.exponent + bitCount x.mantissa - doubleBits) doubleGrid)

/-- Whether a magnitude is no larger than the largest double. -/
def isDouble (x : Magnitude) : Bool :=
  !largestDouble.isLess x

/-- The quotient of two doubles as a double. -/
def divDouble (x y : Magnitude) : Magnitude :=
  (quotient (doubleBits + 2) x y).double

end Magnitude
end SyntaxGraph
