import SyntaxGraph.Number.Basic

/-!
# Text of numbers

How a number that need not be an integer is written, and which number a text denotes.  Both work in
a register of 64 bits: a decimal exponent is taken away or put on in steps of a hundred, ten and one,
and each step is a product rounded to the register.  So the last digits of very large and very small
numbers depend on the steps, which are therefore part of the rule.

## What is here

* `Number.text` — a number as text: at most fifteen digits that count, always with a point.
* `Number.ofText?` — the number a text denotes, with blanks around it allowed.
* `Number.wholeText?` — the integer a text spells without a point or an exponent.
-/

set_option autoImplicit false
namespace SyntaxGraph
namespace Number

/-- How many bits the register has. -/
def registerBits : Nat := 64

/-- A power of ten in the register. -/
def powerOfTen (e : Int) : Magnitude :=
  Magnitude.tenTo registerBits e

/-- Multiplies the register by a power of ten. -/
def scale (e : Int) (x : Magnitude) : Magnitude :=
  Magnitude.mulRounded registerBits x (powerOfTen e)

/-! ## The digits of a number -/

/-- A magnitude in the register, and the decimal exponent that was taken from it. -/
structure Scaled where
  value : Magnitude
  exponent : Int
deriving DecidableEq, Repr

/-- Takes the exponent `e` from the register. -/
def Scaled.take (e : Int) (s : Scaled) : Scaled :=
  ⟨scale (-e) s.value, s.exponent + e⟩

/-- Takes the exponent `e` as long as the register is at least `10 ^ bound`, or, for a negative `e`,
less than that.  The first argument bounds the number of steps. -/
def Scaled.repeat (e bound : Int) : Nat → Scaled → Scaled
  | 0, s => s
  | n + 1, s =>
    if s.value.isLess (powerOfTen bound) = decide (e < 0) then (s.take e).repeat e bound n else s

/-- Brings a positive number into the range from `10 ^ 17` to `10 ^ 19`. -/
def settled (x : Magnitude) : Scaled :=
  let s : Scaled := ⟨x, 0⟩
  if x.isLess (powerOfTen 19) then
    ((s.repeat (-100) (-97) 4).repeat (-10) 7 12).repeat (-1) 17 12
  else ((s.repeat 100 119 4).repeat 10 29 12).repeat 1 19 12

/-- Digits without the zeros at their end. -/
def significant (ds : List Char) : List Char :=
  (ds.reverse.dropWhile (· = '0')).reverse

/-- The first fifteen digits of a natural number, rounded by the sixteenth, and how many digits the
number has after that. -/
def firstFifteen (n : Nat) : List Char × Nat :=
  let width := (Decimal.digits n).length
  if width ≤ 15 then (Decimal.digits n, width)
  else
    let q := (n / Nat.pow 10 (width - 16) + 5) / 10
    let ds := Decimal.digits q
    (ds, ds.length + (width - 15))

/-- The digits of a positive number that count, and the exponent of the first. -/
def digits (x : Magnitude) : List Char × Int :=
  let s := settled x
  let (ds, width) := firstFifteen s.value.floor
  (significant ds, width + s.exponent - 1)

/-! ## Layout -/

/-- Digits, or a zero if there are none. -/
def orZero (ds : List Char) : List Char :=
  if ds = [] then ['0'] else ds

/-- An exponent with its sign and at least two digits. -/
def exponentText (e : Int) : List Char :=
  let ds := Decimal.digits e.natAbs
  (if e < 0 then ['e', '-'] else ['e', '+']) ++ (if ds.length < 2 then '0' :: ds else ds)

/-- Digits with a point, the first of which has the exponent `e`.  The exponent is written where it
is below -4 or above 14. -/
def layout (ds : List Char) (e : Int) : List Char :=
  if e < -4 ∨ 14 < e then
    ds.take 1 ++ ['.'] ++ orZero (ds.drop 1) ++ exponentText e
  else if 0 ≤ e then
    let width := e.toNat + 1
    ds.take width ++ List.replicate (width - ds.length) '0' ++ ['.'] ++ orZero (ds.drop width)
  else
    ['0', '.'] ++ List.replicate ((-e).toNat - 1) '0' ++ ds

/-- A number as text. -/
def text : Number → String
  | infinite negative => if negative then "-Inf" else "Inf"
  | finite negative x =>
    if x.mantissa = 0 then "0.0"
    else
      let (ds, e) := digits x
      String.ofList ((if negative then ['-'] else []) ++ layout ds e)

/-! ## The number a text denotes -/

/-- The blanks that may stand around a number. -/
def isBlank (c : Char) : Bool :=
  c == ' ' || (0x09 ≤ c.toNat && c.toNat ≤ 0x0D)

/-- A sign and the characters after it. -/
def sign : List Char → Bool × List Char
  | '-' :: cs => (true, cs)
  | '+' :: cs => (false, cs)
  | cs => (false, cs)

/-- The value of an exponent's digits.  From ten thousand on they are no longer told apart. -/
def exponentValue (ds : List Char) : Nat :=
  ds.foldl (fun e c => if e < 10000 then e * 10 + (c.toNat - '0'.toNat) else 10000) 0

/-- The exponent at the end of a number: zero if there is none. -/
def exponent? : List Char → Option Int
  | [] => some 0
  | c :: cs =>
    let ds := (sign cs).2
    if (c = 'e' ∨ c = 'E') ∧ ds ≠ [] ∧ ds.all Char.isDigit then
      some (signed (sign cs).1 (exponentValue ds))
    else none

/-- Digits read so far as a number, and the decimal exponent that goes with it. -/
structure Reading where
  number : Nat
  exponent : Int
deriving DecidableEq, Repr

/-- From here on no further digit fits. -/
def fullFrom : Nat := 922337203685477579

/-- Reads a digit before the point.  One that does not fit shifts the point. -/
def Reading.wholeDigit (r : Reading) (c : Char) : Reading :=
  if r.number < fullFrom then ⟨r.number * 10 + (c.toNat - '0'.toNat), r.exponent⟩
  else ⟨r.number, r.exponent + 1⟩

/-- Reads a digit after the point.  One that does not fit is dropped. -/
def Reading.fractionDigit (r : Reading) (c : Char) : Reading :=
  if r.number < fullFrom then ⟨r.number * 10 + (c.toNat - '0'.toNat), r.exponent - 1⟩ else r

/-- Moves a positive exponent into the number as far as the number stays a word. -/
def absorb : Nat → Reading → Reading
  | 0, r => r
  | n + 1, r =>
    if 0 < r.exponent ∧ r.number < 1844674407370955161 then
      absorb n ⟨r.number * 10, r.exponent - 1⟩
    else r

/-- Moves zeros at the end of the number into a negative exponent. -/
def release : Nat → Reading → Reading
  | 0, r => r
  | n + 1, r =>
    if r.exponent < 0 ∧ r.number % 10 = 0 then release n ⟨r.number / 10, r.exponent + 1⟩ else r

/-- Puts a decimal exponent on a magnitude, in steps of a hundred, ten and one. -/
def putOn (x : Magnitude) (e : Int) : Magnitude :=
  let step := if e < 0 then -1 else 1
  let times (n : Nat) (power : Int) (x : Magnitude) : Magnitude :=
    Nat.repeat (scale (step * power)) n x
  times (e.natAbs % 10) 1 (times (e.natAbs % 100 / 10) 10 (times (e.natAbs / 100) 100 x))

/-- The double that a reading denotes; `none` if it is beyond the largest one. -/
def Reading.double? (r : Reading) : Option Magnitude :=
  if r.number = 0 then some (.ofNat 0)
  else
    let r := release 20 (absorb 20 r)
    let x := putOn (.ofNat r.number) r.exponent
    if r.exponent = 0 ∨ x.isDouble then some x.double else none

/-- The number a text denotes. -/
def ofText? (s : String) : Option Number :=
  let cs := ((s.toList.dropWhile isBlank).reverse.dropWhile isBlank).reverse
  let body := (sign cs).2
  let whole := body.takeWhile Char.isDigit
  let afterWhole := body.dropWhile Char.isDigit
  let fraction :=
    match afterWhole with
    | '.' :: rest => rest.takeWhile Char.isDigit
    | _ => []
  let afterFraction :=
    match afterWhole with
    | '.' :: rest => rest.dropWhile Char.isDigit
    | rest => rest
  if whole = [] ∧ fraction = [] then none
  else
    match exponent? afterFraction with
    | none => none
    | some e =>
      let r := fraction.foldl Reading.fractionDigit (whole.foldl Reading.wholeDigit ⟨0, 0⟩)
      match Reading.double? ⟨r.number, r.exponent + e⟩ with
      | none => some (.infinite (sign cs).1)
      | some x => some (.finite (sign cs).1 x)

/-- The integer that a text spells with nothing but a sign and digits, if it does. -/
def wholeText? (s : String) : Option Int :=
  let cs := ((s.toList.dropWhile isBlank).reverse.dropWhile isBlank).reverse
  let ds := (sign cs).2
  if ds ≠ [] ∧ ds.all Char.isDigit then some (signed (sign cs).1 (Decimal.value ds)) else none

end Number
end SyntaxGraph
