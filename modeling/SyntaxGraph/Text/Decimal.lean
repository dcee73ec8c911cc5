/-!
# Decimal text

Whole numbers as they stand in node ids, context lines, exports and messages: no leading zeros, and
a minus sign in front of the negative ones.
-/

set_option autoImplicit false
namespace SyntaxGraph
namespace Decimal

/-- The digits of a natural number, most significant first. -/
def digits (n : Nat) : List Char :=
  Nat.toDigits 10 n

/-- The characters of an integer. -/
def signed : Int → List Char
  | .ofNat n => digits n
  | .negSucc n => '-' :: digits (n + 1)

/-- A natural number as text. -/
def ofNat (n : Nat) : String :=
  String.ofList (digits n)

/-- An integer as text. -/
def ofInt (i : Int) : String :=
  String.ofList (signed i)

/-- The number a run of digits denotes. -/
def value (ds : List Char) : Nat :=
  Nat.ofDigitChars 10 ds 0

/-- Whether an integer fits a signed word of 64 bits. -/
def isSignedWord (i : Int) : Bool :=
  -9223372036854775808 ≤ i && i ≤ 9223372036854775807

/-- Whether an integer fits an unsigned word of 64 bits. -/
def isUnsignedWord (i : Int) : Bool :=
  0 ≤ i && i ≤ 18446744073709551615

/-- Digits denote the number they were made from. -/
theorem value_digits (n : Nat) : value (digits n) = n :=
  Nat.ofDigitChars_ten_toDigits

end Decimal
end SyntaxGraph
