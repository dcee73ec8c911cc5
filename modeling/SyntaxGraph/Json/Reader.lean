import SyntaxGraph.Number.Basic

/-!
# Reading JSON tokens

A reader takes the characters that are left and gives what it read together with the characters
after it, or the cause why it stopped.  Text is read from left to right and the first problem
decides, so the order of the checks below is part of what they mean.

## What is here

* `Json.Cause` — the three ways in which reading stops.
* `Json.readChars` — the rest of a string literal after its opening quote.
* `Json.readNumber` — a number literal, split into its parts.
* `Json.Literal.number?` — the number a literal denotes.
* `Json.readToken` — the token a value begins with.
-/

set_option autoImplicit false
namespace SyntaxGraph
namespace Json

/-- Why reading stopped. -/
inductive Cause where
  /-- The characters do not form JSON. -/
  | malformed
  /-- The characters end too early. -/
  | ended
  /-- The JSON is fine so far, and not of the expected shape. -/
  | mismatch
deriving DecidableEq, Repr

/-- What was read, and the characters after it. -/
abbrev Read (α : Type) := Except Cause (α × List Char)

/-! ## Blanks and words -/

/-- The characters that may stand between tokens. -/
def isBlank (c : Char) : Bool :=
  c == ' ' || c == '\n' || c == '\t' || c == '\r'

/-- The characters from the first that is no blank. -/
def skipBlanks (s : List Char) : List Char :=
  s.dropWhile isBlank

/-- Reads the given characters and gives those after them. -/
def readWord : List Char → List Char → Except Cause (List Char)
  | [], s => .ok s
  | _ :: _, [] => .error .ended
  | w :: ws, c :: s => if c = w then readWord ws s else .error .malformed

/-! ## String literals -/

/-- The value of a digit in base sixteen. -/
def hexValue? (c : Char) : Option Nat :=
  if '0' ≤ c ∧ c ≤ '9' then some (c.toNat - '0'.toNat)
  else if 'a' ≤ c ∧ c ≤ 'f' then some (c.toNat - 'a'.toNat + 10)
  else if 'A' ≤ c ∧ c ≤ 'F' then some (c.toNat - 'A'.toNat + 10)
  else none

/-- The number of bytes characters take. -/
def byteCount (s : List Char) : Nat :=
  s.foldr (fun c n => c.utf8Size + n) 0

/-- Reads the four digits of a `\u` escape.  The characters end too early only if fewer than four
bytes are left. -/
def readHex (s : List Char) : Read Nat :=
  match s with
  | a :: b :: c :: d :: rest =>
    match hexValue? a, hexValue? b, hexValue? c, hexValue? d with
    | some a, some b, some c, some d => .ok (((a * 16 + b) * 16 + c) * 16 + d, rest)
    | _, _, _, _ => .error .malformed
  | _ => .error (if byteCount s < 4 then .ended else .malformed)

/-- Whether a code unit is the first half of a pair. -/
def isHighSurrogate (n : Nat) : Bool :=
  0xD800 ≤ n && n ≤ 0xDBFF

/-- Whether a code unit is the second half of a pair. -/
def isLowSurrogate (n : Nat) : Bool :=
  0xDC00 ≤ n && n ≤ 0xDFFF

/-- Reads the second half of a pair, given the first. -/
def readLowSurrogate (high : Nat) (s : List Char) : Read Char :=
  match s with
  | [] => .error .ended
  | '\\' :: [] => .error .ended
  | '\\' :: 'u' :: rest =>
    match readHex rest with
    | .error e => .error e
    | .ok (low, rest) =>
      if isLowSurrogate low then
        .ok (Char.ofNat (0x10000 + (high - 0xD800) * 0x400 + (low - 0xDC00)), rest)
      else .error .malformed
  | _ => .error .malformed

/-- The character of an escape of two characters. -/
def shortEscape? (c : Char) : Option Char :=
  if c = '"' then some '"'
  else if c = '\\' then some '\\'
  else if c = '/' then some '/'
  else if c = 'b' then some (Char.ofNat 0x08)
  else if c = 'f' then some (Char.ofNat 0x0C)
  else if c = 'n' then some '\n'
  else if c = 'r' then some '\r'
  else if c = 't' then some '\t'
  else none

/-- Reads an escape after its backslash. -/
def readEscape (s : List Char) : Read Char :=
  match s with
  | [] => .error .ended
  | c :: rest =>
    if c = 'u' then
      match readHex rest with
      | .error e => .error e
      | .ok (n, rest) =>
        if isHighSurrogate n then readLowSurrogate n rest
        else if isLowSurrogate n then .error .malformed
        else .ok (Char.ofNat n, rest)
    else
      match shortEscape? c with
      | some c => .ok (c, rest)
      | none => .error .malformed

theorem length_of_readHex {s r : List Char} {n : Nat} (h : readHex s = .ok (n, r)) :
    r.length < s.length := by
  unfold readHex at h
  split at h
  · split at h
    · simp only [Except.ok.injEq, Prod.mk.injEq] at h
      simp [← h.2]
      omega
    · simp at h
  · simp at h

theorem length_of_readLowSurrogate {high : Nat} {s r : List Char} {c : Char}
    (h : readLowSurrogate high s = .ok (c, r)) : r.length < s.length := by
  unfold readLowSurrogate at h
  split at h
  · simp at h
  · simp at h
  · split at h
    · simp at h
    · rename_i hx
      have := length_of_readHex hx
      split at h
      · simp only [Except.ok.injEq, Prod.mk.injEq] at h
        rw [← h.2]
        simp
        omega
      · simp at h
  · simp at h

theorem length_of_readEscape {s r : List Char} {c : Char} (h : readEscape s = .ok (c, r)) :
    r.length < s.length := by
  unfold readEscape at h
  split at h
  · simp at h
  · split at h
    · split at h
      · simp at h
      · rename_i hx
        have hlen := length_of_readHex hx
        split at h
        · have := length_of_readLowSurrogate h
          simp
          omega
        · split at h
          · simp at h
          · simp only [Except.ok.injEq, Prod.mk.injEq] at h
            rw [← h.2]
            simp
            omega
    · split at h
      · simp only [Except.ok.injEq, Prod.mk.injEq] at h
        simp [← h.2]
      · simp at h

/-- Reads a string literal after its opening quote.  Control characters must be escaped, and halves
of pairs must come in pairs. -/
def readChars (s : List Char) : Read (List Char) :=
  match s with
  | [] => .error .ended
  | c :: rest =>
    if c = '"' then .ok ([], rest)
    else if c = '\\' then
      match h : readEscape rest with
      | .error e => .error e
      | .ok (c, rest) =>
        have := length_of_readEscape h
        match readChars rest with
        | .error e => .error e
        | .ok (cs, r) => .ok (c :: cs, r)
    else if c.toNat < 0x20 then .error .malformed
    else
      match readChars rest with
      | .error e => .error e
      | .ok (cs, r) => .ok (c :: cs, r)
termination_by s.length
decreasing_by all_goals simp_all <;> omega

/-! ## Number literals -/

/-- A number literal in its parts. -/
structure Literal where
  /-- Whether a minus sign stands in front. -/
  negative : Bool
  /-- The digits before the point. -/
  whole : List Char
  /-- The digits after the point, if there is one. -/
  fraction : Option (List Char)
  /-- The exponent, if there is one. -/
  exponent : Option Int
deriving DecidableEq, Repr

/-- Whether a character is a decimal digit. -/
def isDigit (c : Char) : Bool :=
  '0' ≤ c && c ≤ '9'

/-- Reads one digit or more.  `short` is the cause given where the characters end before the first. -/
def readDigits (short : Cause) (s : List Char) : Read (List Char) :=
  match s with
  | [] => .error short
  | c :: _ =>
    if isDigit c then .ok (s.takeWhile isDigit, s.dropWhile isDigit) else .error .malformed

/-- Reads the digits before the point: a single zero, or digits that do not start with one. -/
def readWhole (short : Cause) (s : List Char) : Read (List Char) :=
  match s with
  | '0' :: rest =>
    match rest with
    | c :: _ => if isDigit c then .error .malformed else .ok (['0'], rest)
    | [] => .ok (['0'], rest)
  | s => readDigits short s

/-- Reads a point and the digits after it, if there is a point. -/
def readFraction (short : Cause) (s : List Char) : Read (Option (List Char)) :=
  match s with
  | '.' :: rest =>
    match readDigits short rest with
    | .error e => .error e
    | .ok (ds, r) => .ok (some ds, r)
  | s => .ok (none, s)

/-- The sign in front of an exponent: whether it is a minus, and the characters after it. -/
def exponentSign : List Char → Bool × List Char
  | '-' :: rest => (true, rest)
  | '+' :: rest => (false, rest)
  | s => (false, s)

/-- Reads an exponent, if there is one. -/
def readExponent (short : Cause) (s : List Char) : Read (Option Int) :=
  match s with
  | [] => .ok (none, [])
  | c :: rest =>
    if c = 'e' ∨ c = 'E' then
      match readDigits short (exponentSign rest).2 with
      | .error e => .error e
      | .ok (ds, r) =>
        let n : Int := Decimal.value ds
        .ok (some (if (exponentSign rest).1 then -n else n), r)
    else .ok (none, s)

/-- Reads a number literal after its sign. -/
def readUnsigned (short : Cause) (negative : Bool) (s : List Char) : Read Literal :=
  match readWhole short s with
  | .error e => .error e
  | .ok (whole, s) =>
    match readFraction short s with
    | .error e => .error e
    | .ok (fraction, s) =>
      match readExponent short s with
      | .error e => .error e
      | .ok (exponent, s) => .ok (⟨negative, whole, fraction, exponent⟩, s)

/-- Reads a number literal.  `short` is the cause given where the characters end inside it. -/
def readNumber (short : Cause) (s : List Char) : Read Literal :=
  match s with
  | '-' :: rest => readUnsigned short true rest
  | s => readUnsigned short false s

/-! ### The number a literal denotes

The digits are gathered in a word of 64 bits, and the rest is a decimal exponent.  A digit before the
point that does not fit shifts the point, and so do those after it up to the point; a digit after the
point that does not fit is dropped with those after it. -/

/-- The largest word that digits are gathered in. -/
def wordLimit : Nat := 18446744073709551615

/-- Gathers digits as long as they fit: the word, and the digits that are left. -/
def gather (n : Nat) : List Char → Nat × List Char
  | [] => (n, [])
  | c :: cs =>
    let m := n * 10 + (c.toNat - '0'.toNat)
    if m ≤ wordLimit then gather m cs else (n, c :: cs)

/-- The largest decimal exponent of a double. -/
def exponentLimit : Nat := 308

/-- A power of ten as a double. -/
def tenTo (n : Nat) : Magnitude :=
  Magnitude.tenTo Magnitude.doubleBits n

/-- Divides a double by a power of ten, in steps that are doubles themselves. -/
def divideByTenTo (x : Magnitude) (n : Nat) : Magnitude :=
  if n ≤ exponentLimit then x.divDouble (tenTo n)
  else if x.mantissa = 0 then x
  else divideByTenTo (x.divDouble (tenTo exponentLimit)) (n - exponentLimit)
termination_by n
decreasing_by simp [exponentLimit] at *; omega

/-- Puts a decimal exponent on a double; `none` if the result is beyond the largest one. -/
def putExponent? (x : Magnitude) : Int → Option Magnitude
  | .negSucc n => some (divideByTenTo x (n + 1))
  | .ofNat n =>
    if x.mantissa = 0 then some x
    else if exponentLimit < n then none
    else
      let y := (x.mul (tenTo n)).double
      if y.isDouble then some y else none

/-- The number a literal denotes; `none` if it is beyond the largest double. -/
def Literal.number? (l : Literal) : Option Number :=
  let fraction := l.fraction.getD []
  let (n, wholeLeft) := gather 0 l.whole
  let (n, fractionLeft) := gather n fraction
  let point : Int := wholeLeft.length + fractionLeft.length - fraction.length
  (putExponent? (Magnitude.ofNat n).double (l.exponent.getD 0 + point)).map (.finite l.negative)

/-- The whole number a literal denotes, if it is written as one; `-0` is not. -/
def Literal.int? (l : Literal) : Option Int :=
  match l.fraction, l.exponent with
  | none, none =>
    if l.negative then
      if Decimal.value l.whole = 0 then none else some (-(Decimal.value l.whole : Int))
    else some (Decimal.value l.whole)
  | _, _ => none

/-! ## Tokens -/

/-- The token a value begins with. -/
inductive Token where
  | text (cs : List Char)
  | number (l : Literal)
  /-- One of the words `null`, `true`, `false`. -/
  | word (w : String)
  | openArray
  | openObject
deriving DecidableEq, Repr

/-- Reads the rest of a word. -/
def readWordToken (w : String) (rest : List Char) (s : List Char) : Read Token :=
  match readWord rest s with
  | .error e => .error e
  | .ok r => .ok (.word w, r)

/-- Reads the token a value begins with, after any blanks. -/
def readToken (s : List Char) : Read Token :=
  match skipBlanks s with
  | [] => .error .ended
  | c :: rest =>
    if c = '"' then
      match readChars rest with
      | .error e => .error e
      | .ok (cs, r) => .ok (.text cs, r)
    else if c = '[' then .ok (.openArray, rest)
    else if c = '\x7b' then .ok (.openObject, rest)
    else if c = 'n' then readWordToken "null" ['u', 'l', 'l'] rest
    else if c = 't' then readWordToken "true" ['r', 'u', 'e'] rest
    else if c = 'f' then readWordToken "false" ['a', 'l', 's', 'e'] rest
    else if c = '-' ∨ isDigit c then
      match readNumber .ended (c :: rest) with
      | .error e => .error e
      | .ok (l, r) => if l.number?.isNone then .error .malformed else .ok (.number l, r)
    else .error .malformed

end Json
end SyntaxGraph
