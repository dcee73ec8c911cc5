import Mathlib.Data.List.Basic
import SyntaxGraph.Json.Printer
import SyntaxGraph.Proofs.Json.Grammar

/-!
# Written tokens are read back

The printer has one way to write a string or an integer, and the grammar has many.  What the printer
writes is one of those (`spells_escape`, `numberText_signed`), so the reader takes it for one token
and gives back the string or the integer together with whatever characters come after it.

The reader refuses numbers beyond the largest double before it looks whether they are integers, so
reading an integer back needs that no word is that large (`isSome_number?_of_le`).

## What is here

* `charText_escape`, `spells_escape` — strings.
* `wholeText_digits` — the digits of a number.
* `Magnitude.isDouble_of_lt` — rounding to a double leaves small numbers small.
* `numberText_signed`, `Literal.int?_ofInt` — integers.
* `Scalar.written`, `Scalar.token`, `readScalar_written` — what a member holds.
-/

set_option autoImplicit false
namespace SyntaxGraph
namespace Json

/-! ## Strings -/

/-- A control character is written by its code. -/
theorem hexCode_control {c : Char} (h : c.toNat < 0x20) :
    HexCode c.toNat ['0', '0', Nat.digitChar (c.toNat / 16), Nat.digitChar (c.toNat % 16)] := by
  have hlower {v : Nat} (hv : v < 16) : (Nat.digitChar v).toLower = Nat.digitChar v := by
    interval_cases v <;> rfl
  have hfirst : c.toNat / 0x1000 = 0 := by omega
  have hsecond : c.toNat / 0x100 % 0x10 = 0 := by omega
  have hthird : c.toNat / 0x10 % 0x10 = c.toNat / 16 := by omega
  refine ⟨by omega, ?_⟩
  rw [hfirst, hsecond, hthird, List.map_cons, List.map_cons, List.map_cons, List.map_cons,
    hlower (by omega), hlower (by omega)]
  rfl

/-- **A character is written** in one of the ways there are. -/
theorem charText_escape (c : Char) : CharText c (escape c) := by
  have hcode {n : Nat} (h : c.toNat = n) : c = Char.ofNat n := by rw [← h, Char.ofNat_toNat]
  unfold escape
  split_ifs with hq hb hbell hfeed hn hr ht hc
  · exact .letter (by rw [hq]; decide)
  · exact .letter (by rw [hb]; decide)
  · exact .letter (by rw [hcode hbell]; decide)
  · exact .letter (by rw [hcode hfeed]; decide)
  · exact .letter (by rw [hn]; decide)
  · exact .letter (by rw [hr]; decide)
  · exact .letter (by rw [ht]; decide)
  · exact .code (hexCode_control hc)
  · exact .plain hq hb (by omega)

theorem spells_escape (cs : List Char) : Spells cs (cs.flatMap escape) := by
  induction cs with
  | nil => exact .nil
  | cons c cs ih => exact .cons (charText_escape c) ih

/-- **A string is read back**, up to its closing quote. -/
theorem readChars_flatMap_escape (cs r : List Char) :
    readChars (cs.flatMap escape ++ '"' :: r) = .ok (cs, r) :=
  readChars_spells (spells_escape cs) r

/-! ## Digits -/

theorem isDigit_of_mem_digits {n : Nat} {c : Char} (h : c ∈ Decimal.digits n) : isDigit c :=
  Nat.isDigit_of_mem_toDigits (by decide) (by decide) h

/-- Only the digits of zero begin with a zero. -/
theorem head?_digits_ne_zero {n : Nat} (h : n ≠ 0) : (Decimal.digits n).head? ≠ some '0' := by
  induction n using Nat.strongRecOn with
  | ind n ih =>
    rw [Decimal.digits, Nat.toDigits_eq_if (by decide)]
    split
    · rw [List.head?_cons, ne_eq, Option.some.injEq, Nat.digitChar_eq_zero]
      exact h
    · rw [List.head?_append_of_ne_nil _ Nat.toDigits_ne_nil]
      exact ih (n / 10) (by omega) (by omega)

/-- Digits stand before the point as they are. -/
theorem wholeText_digits (n : Nat) : WholeText (Decimal.digits n) := by
  refine ⟨⟨Nat.toDigits_ne_nil, fun c => isDigit_of_mem_digits⟩, fun hzero => ?_⟩
  by_cases hn : n = 0
  · rw [hn]
    rfl
  · exact absurd hzero (head?_digits_ne_zero hn)

theorem le_ofDigitChars (ds : List Char) (n : Nat) : n ≤ Nat.ofDigitChars 10 ds n := by
  induction ds generalizing n with
  | nil => exact Nat.le_refl n
  | cons d ds ih =>
    rw [Nat.ofDigitChars_cons]
    exact Nat.le_trans (by omega) (ih _)

/-- Digits that fit a word are all gathered. -/
theorem gather_eq {ds : List Char} {n : Nat} (h : Nat.ofDigitChars 10 ds n ≤ wordLimit) :
    gather n ds = (Nat.ofDigitChars 10 ds n, []) := by
  induction ds generalizing n with
  | nil => rfl
  | cons d ds ih =>
    rw [Nat.ofDigitChars_cons] at h ⊢
    have hstep : n * 10 + (d.toNat - '0'.toNat) = 10 * n + (d.toNat - '0'.toNat) := by omega
    rw [gather, hstep, if_pos (Nat.le_trans (le_ofDigitChars ds _) h), ih h]

/-! ## Small numbers are doubles -/

end Json

namespace Magnitude

theorem nearest_le (m shift : Nat) : nearest m shift ≤ m + 1 := by
  have h : m / twoTo shift ≤ m := Nat.div_le_self _ _
  simp only [nearest]
  split
  · omega
  · omega
  · split <;> omega

theorem bitCount_le {m b : Nat} (h : m < 2 ^ b) : bitCount m ≤ b := by
  rw [bitCount]
  split
  · exact Nat.zero_le b
  · rename_i hm
    exact (Nat.log2_lt hm).2 h

/-- Rounding to a double moves a number by one place at most, and its exponent by no more places than
it has bits. -/
theorem double_le {x : Magnitude} {b : Nat} (h : x.mantissa < 2 ^ b) (he : 0 ≤ x.exponent) :
    x.double.mantissa ≤ x.mantissa + 1 ∧ 0 ≤ x.double.exponent ∧
      x.double.exponent ≤ x.exponent + b := by
  have hb := bitCount_le h
  unfold double roundAt
  split
  · exact ⟨Nat.le_succ _, he, by omega⟩
  · rename_i hgrid
    refine ⟨nearest_le _ _, ?_, ?_⟩
    · show 0 ≤ max _ _
      omega
    · show max (_ : Int) doubleGrid ≤ _
      simp only [doubleGrid, doubleBits] at hgrid ⊢
      omega

/-- Numbers with few bits are far below the largest double. -/
theorem isDouble_of_lt {x : Magnitude} (h : x.mantissa < 2 ^ 200) (he : 0 ≤ x.exponent)
    (he' : x.exponent ≤ 700) : x.isDouble := by
  have hmin : min largestDouble.exponent x.exponent = x.exponent := by
    show min 971 x.exponent = _
    omega
  have hshift : 200 ≤ (971 - x.exponent).toNat := by omega
  have hle : x.mantissa ≤ (twoTo 53 - 1) * twoTo (971 - x.exponent).toNat := by
    calc x.mantissa ≤ 2 ^ 200 := Nat.le_of_lt h
      _ ≤ twoTo (971 - x.exponent).toNat := Nat.pow_le_pow_right (by decide) hshift
      _ ≤ (twoTo 53 - 1) * twoTo (971 - x.exponent).toNat := Nat.le_mul_of_pos_left _ (by decide)
  have hless : largestDouble.isLess x = false := by
    rw [isLess, compare, aligned, hmin, Int.sub_self]
    have hone : x.mantissa * twoTo (0 : Int).toNat = x.mantissa := Nat.mul_one _
    rw [hone]
    exact beq_eq_false_iff_ne.2 fun hc => absurd (Nat.compare_eq_lt.1 hc) (Nat.not_lt.2 hle)
  rw [isDouble, hless]
  rfl

end Magnitude

namespace Json

/-- No word is beyond the largest double. -/
theorem isSome_number?_of_le {n : Nat} (h : n ≤ wordLimit) (negative : Bool) :
    (Literal.number? ⟨negative, Decimal.digits n, none, none⟩).isSome := by
  have hgather : gather 0 (Decimal.digits n) = (n, []) := by
    have hvalue : Nat.ofDigitChars 10 (Decimal.digits n) 0 = n := Decimal.value_digits n
    rw [gather_eq (by rw [hvalue]; exact h), hvalue]
  have hput : (putExponent? (Magnitude.ofNat n).double (.ofNat 0)).isSome := by
    have hlt : n < 2 ^ 64 := Nat.lt_of_le_of_lt h (by decide)
    obtain ⟨hm, he, he'⟩ := Magnitude.double_le (x := .ofNat n) hlt (Int.le_refl 0)
    generalize (Magnitude.ofNat n).double = x at hm he he'
    have hm : x.mantissa ≤ n + 1 := hm
    have he' : x.exponent ≤ 0 + 64 := he'
    -- the power of ten is one, so the product is rounded once more and stays small
    have hone : x.mul (tenTo 0) = x := by
      rw [show tenTo 0 = ⟨1, 0⟩ from rfl, Magnitude.mul, Nat.mul_one, Int.add_zero]
    obtain ⟨hym, hye, hye'⟩ := Magnitude.double_le (x := x) (b := 65) (by omega) he
    have hdouble : x.double.isDouble := Magnitude.isDouble_of_lt (by omega) hye (by omega)
    show (if x.mantissa = 0 then some x else if exponentLimit < 0 then none
      else if (x.mul (tenTo 0)).double.isDouble then some (x.mul (tenTo 0)).double
      else none).isSome
    rw [hone, if_neg (Nat.not_lt_zero exponentLimit), if_pos hdouble]
    split <;> rfl
  simp only [Literal.number?, Option.getD_none, hgather, gather, List.length_nil]
  rw [Option.isSome_map]
  exact hput

/-! ## Integers -/

/-- The literal an integer is written as. -/
def Literal.ofInt : Int → Literal
  | .ofNat n => ⟨false, Decimal.digits n, none, none⟩
  | .negSucc n => ⟨true, Decimal.digits (n + 1), none, none⟩

/-- **An integer is written** as a literal. -/
theorem numberText_signed (i : Int) : NumberText (.ofInt i) (Decimal.signed i) := by
  cases i with
  | ofNat n =>
    have h := NumberText.positive (wholeText_digits n) .none .none
    rwa [List.append_nil, List.append_nil] at h
  | negSucc n =>
    have h := NumberText.negative (wholeText_digits (n + 1)) .none .none
    rwa [List.append_nil, List.append_nil] at h

theorem Literal.int?_ofInt (i : Int) : (Literal.ofInt i).int? = some i := by
  cases i with
  | ofNat n =>
    show some (Decimal.value (Decimal.digits n) : Int) = _
    rw [Decimal.value_digits]
    rfl
  | negSucc n =>
    show (if Decimal.value (Decimal.digits (n + 1)) = 0 then none
      else some (-(Decimal.value (Decimal.digits (n + 1)) : Int))) = _
    rw [Decimal.value_digits, if_neg (Nat.succ_ne_zero n)]
    rfl

/-- No signed word is beyond the largest double. -/
theorem Literal.isSome_number?_ofInt {i : Int} (h : i.natAbs ≤ wordLimit) :
    (Literal.ofInt i).number?.isSome := by
  cases i with
  | ofNat n => exact isSome_number?_of_le h false
  | negSucc n => exact isSome_number?_of_le h true

/-! ## Values of members -/

namespace Scalar

/-- The type of a scalar. -/
def type : Scalar → ScalarType
  | text _ => .text
  | signed _ => .signed
  | unsigned _ => .unsigned

/-- A scalar as it is written. -/
def written : Scalar → List Char
  | text s => quote s
  | signed n => Decimal.signed n.toInt
  | unsigned n => Decimal.signed n.toNat

/-- The token a scalar is read from.  A number with a fraction or an exponent is no integer to the
reader, whatever its value, and neither is `-0`; so there is one literal for each integer. -/
def token : Scalar → Token
  | text s => .text s.toList
  | signed n => .number (.ofInt n.toInt)
  | unsigned n => .number (.ofInt n.toNat)

end Scalar

theorem isSignedWord_toInt (n : Int64) : Decimal.isSignedWord n.toInt := by
  have hlo := n.le_toInt
  have hhi := n.toInt_lt
  simp only [Decimal.isSignedWord, Bool.and_eq_true, decide_eq_true_eq]
  omega

theorem isUnsignedWord_toNat (n : UInt64) : Decimal.isUnsignedWord n.toNat := by
  have hhi := n.toNat_lt
  simp only [Decimal.isUnsignedWord, Bool.and_eq_true, decide_eq_true_eq]
  omega

theorem Scalar.ofToken?_token (v : Scalar) : ofToken? v.type v.token = some v := by
  cases v with
  | text s => simp only [type, token, ofToken?, String.ofList_toList]
  | signed n =>
    simp only [type, token, ofToken?, Literal.int?_ofInt, if_pos (isSignedWord_toInt n),
      Int64.ofInt_toInt]
  | unsigned n =>
    simp only [type, token, ofToken?, Literal.int?_ofInt, if_pos (isUnsignedWord_toNat n),
      Int.toNat_natCast, UInt64.ofNat_toNat]

/-- **A scalar is written** as a value that begins with its token. -/
theorem Scalar.tokenText_written (v : Scalar) : TokenText v.token v.written := by
  cases v with
  | text s => exact .text (spells_escape s.toList)
  | signed n =>
    refine .number (numberText_signed _) (Literal.isSome_number?_ofInt ?_)
    have hlo := n.le_toInt
    have hhi := n.toInt_lt
    simp only [wordLimit]
    omega
  | unsigned n =>
    refine .number (numberText_signed _) (Literal.isSome_number?_ofInt ?_)
    have hhi := n.toNat_lt
    simp only [wordLimit]
    omega

/-- **A scalar is read back** from the way it is written. -/
theorem readScalar_written (v : Scalar) {r : List Char} (h : EndsNumber r) :
    readScalar v.type (v.written ++ r) = .ok (v, r) := by
  rw [readScalar_tokenText v.tokenText_written h, v.ofToken?_token, Read.orMismatch]

end Json
end SyntaxGraph
