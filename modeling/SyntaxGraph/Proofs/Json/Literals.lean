import Mathlib.Data.List.DropRight
import Mathlib.Data.List.TakeWhile
import Mathlib.Tactic.IntervalCases
import SyntaxGraph.Json.Skip

/-!
# String and number literals

JSON leaves a choice in how a literal is written.  Most characters of a string may stand for
themselves or be escaped by their code, some also by a letter, and those beyond the first 65536 codes
are escaped in two halves; digits in base sixteen come in either case.  A number may have a fraction
and an exponent.  This file says which texts are literals (`Spells`, `LiteralText`, `NumberText`),
without a word on how they are read, and then that the reader takes every one of them.

A string literal need not denote a string: an escaped half of a pair may stand alone.  A reader that
wants the string refuses such a literal, while one that skips it does not look.  Hence two relations:
`Spells` knows the characters, `LiteralText` only where the literal ends.

## What is here

* `Blank`, `HexCode`, `escapes` — blanks, codes of four digits, and escapes by a letter.
* `Spells`, `readChars_spells` — literals of a string, and reading them.
* `LiteralText`, `skipChars_literalText` — any string literals, and skipping them.
* `NumberText`, `readNumber_numberText` — number literals.
-/

set_option autoImplicit false
namespace SyntaxGraph
namespace Json

/-! ## Blanks -/

theorem skipBlanks_cons_of_isBlank {c : Char} (h : isBlank c) (s : List Char) :
    skipBlanks (c :: s) = skipBlanks s :=
  List.dropWhile_cons_of_pos h

theorem skipBlanks_cons {c : Char} (h : isBlank c = false) (s : List Char) :
    skipBlanks (c :: s) = c :: s :=
  List.dropWhile_cons_of_neg (by rw [h]; exact Bool.false_ne_true)

theorem skipBlanks_skipBlanks (s : List Char) : skipBlanks (skipBlanks s) = skipBlanks s :=
  List.dropWhile_idempotent _ s

/-- Characters that are all blanks. -/
def Blank (s : List Char) : Prop :=
  ∀ c ∈ s, isBlank c

theorem blank_nil : Blank [] :=
  fun _ hc => absurd hc List.not_mem_nil

theorem blank_of_all {s : List Char} (h : s.all isBlank) : Blank s :=
  fun c hc => List.all_eq_true.1 h c hc

theorem Blank.of_isPrefix {p s : List Char} (hs : Blank s) (hp : p <+: s) : Blank p :=
  fun c hc => hs c (hp.subset hc)

theorem Blank.skipBlanks {b : List Char} (hb : Blank b) : Json.skipBlanks b = [] :=
  List.dropWhile_eq_nil_iff.2 hb

theorem skipBlanks_append {b : List Char} (hb : Blank b) (s : List Char) :
    skipBlanks (b ++ s) = skipBlanks s :=
  List.dropWhile_append_of_pos hb

/-- Characters at which a number ends. -/
def EndsNumber (s : List Char) : Prop :=
  ∀ c ∈ s.head?, isDigit c = false ∧ c ≠ '.' ∧ c ≠ 'e' ∧ c ≠ 'E'

theorem endsNumber_cons {c : Char} (hd : isDigit c = false) (hp : c ≠ '.') (he : c ≠ 'e')
    (hE : c ≠ 'E') (s : List Char) : EndsNumber (c :: s) := by
  intro c' hc
  rw [List.head?_cons, Option.mem_some_iff] at hc
  subst hc
  exact ⟨hd, hp, he, hE⟩

theorem endsNumber_of_isBlank {c : Char} (h : isBlank c) :
    ∀ s, EndsNumber (c :: s) := by
  simp only [isBlank, Bool.or_eq_true, beq_iff_eq] at h
  obtain ((rfl | rfl) | rfl) | rfl := h
  all_goals exact endsNumber_cons (by decide) (by decide) (by decide) (by decide)

/-- A number ends at a blank, or where what comes after the blanks ends it. -/
theorem endsNumber_append {b r : List Char} (hb : Blank b) (hr : EndsNumber r) :
    EndsNumber (b ++ r) := by
  cases b with
  | nil => exact hr
  | cons c b => exact endsNumber_of_isBlank (hb c List.mem_cons_self) _

theorem Blank.endsNumber {b : List Char} (hb : Blank b) : EndsNumber b := by
  have hend : EndsNumber [] := fun c hc => absurd hc (Option.not_mem_none c)
  have h := endsNumber_append hb hend
  rwa [List.append_nil] at h

/-! ## Codes -/

/-- The four digits of a number in base sixteen, each in either case. -/
def HexCode (n : Nat) (ds : List Char) : Prop :=
  n < 0x10000 ∧ ds.map Char.toLower =
    [Nat.digitChar (n / 0x1000), Nat.digitChar (n / 0x100 % 0x10), Nat.digitChar (n / 0x10 % 0x10),
      Nat.digitChar (n % 0x10)]

theorem hexValue?_digitChar {n : Nat} (h : n < 16) : hexValue? (Nat.digitChar n) = some n := by
  interval_cases n <;> rfl

theorem hexValue?_of_toLower {c : Char} {v : Nat} (hv : v < 16)
    (h : c.toLower = Nat.digitChar v) : hexValue? c = some v := by
  by_cases hupper : c.val ≥ 'A'.val ∧ c.val ≤ 'Z'.val
  · have hlo : 65 ≤ c.toNat := hupper.1
    have hhi : c.toNat ≤ 90 := hupper.2
    have hlower : c.toNat + 32 = (Nat.digitChar v).toNat := by
      have hsum : c.toLower.toNat = (c.val + ('a'.val - 'A'.val)).toNat :=
        congrArg Char.toNat (dif_pos hupper)
      have hmod : (c.val + ('a'.val - 'A'.val)).toNat = (c.toNat + 32) % 2 ^ 32 := rfl
      rw [h] at hsum
      omega
    -- the decimal digits have smaller codes than any lower-case letter
    have hten : 10 ≤ v := by
      by_contra hlt
      rw [Nat.toNat_digitChar_of_lt_ten (by omega)] at hlower
      omega
    have hc : c = Char.ofNat ((Nat.digitChar v).toNat - 32) := by
      rw [← hlower, Nat.add_sub_cancel, Char.ofNat_toNat]
    rw [hc]
    interval_cases v <;> rfl
  · have hsame : c.toLower = c := dif_neg hupper
    rw [← hsame, h, hexValue?_digitChar hv]

/-- **A code is read**, up to what comes after its digits. -/
theorem readHex_hexCode {n : Nat} {ds : List Char} (h : HexCode n ds) (r : List Char) :
    readHex (ds ++ r) = .ok (n, r) := by
  obtain ⟨hn, hds⟩ := h
  obtain ⟨a, ds, rfl, ha, hds⟩ := List.map_eq_cons_iff.1 hds
  obtain ⟨b, ds, rfl, hb, hds⟩ := List.map_eq_cons_iff.1 hds
  obtain ⟨c, ds, rfl, hc, hds⟩ := List.map_eq_cons_iff.1 hds
  obtain ⟨d, ds, rfl, hd, hds⟩ := List.map_eq_cons_iff.1 hds
  rw [List.map_eq_nil_iff] at hds
  subst hds
  have hcode : ((n / 0x1000 * 16 + n / 0x100 % 0x10) * 16 + n / 0x10 % 0x10) * 16 + n % 0x10 = n := by
    omega
  simp only [List.cons_append, List.nil_append, readHex, hexValue?_of_toLower (by omega) ha,
    hexValue?_of_toLower (by omega) hb, hexValue?_of_toLower (by omega) hc,
    hexValue?_of_toLower (by omega) hd, hcode]

/-! ## Strings -/

/-- The escapes by a letter: what stands after the backslash, and the character that is meant. -/
def escapes : List (Char × Char) :=
  [('"', '"'), ('\\', '\\'), ('/', '/'), ('b', '\x08'), ('f', '\x0c'), ('n', '\n'), ('r', '\r'),
    ('t', '\t')]

/-- The ways to write a character inside a string literal. -/
inductive CharText (c : Char) : List Char → Prop
  | plain (hq : c ≠ '"') (hb : c ≠ '\\') (hc : 0x20 ≤ c.toNat) : CharText c [c]
  | letter {e : Char} (he : (e, c) ∈ escapes) : CharText c ['\\', e]
  | code {ds : List Char} (h : HexCode c.toNat ds) : CharText c ('\\' :: 'u' :: ds)
  /-- A character beyond the codes of four digits, in two halves. -/
  | pair {ds ds' : List Char} (hc : 0x10000 ≤ c.toNat)
      (hhigh : HexCode (0xD800 + (c.toNat - 0x10000) / 0x400) ds)
      (hlow : HexCode (0xDC00 + (c.toNat - 0x10000) % 0x400) ds') :
      CharText c ('\\' :: 'u' :: (ds ++ '\\' :: 'u' :: ds'))

/-- The ways to write characters between the quotes of a string literal. -/
inductive Spells : List Char → List Char → Prop
  | nil : Spells [] []
  | cons {c : Char} {t cs s : List Char} (ht : CharText c t) (hs : Spells cs s) :
      Spells (c :: cs) (t ++ s)

/-- A character in front of what was read. -/
def Read.push (c : Char) : Read (List Char) → Read (List Char)
  | .error e => .error e
  | .ok (cs, r) => .ok (c :: cs, r)

theorem readChars_close (r : List Char) : readChars ('"' :: r) = .ok ([], r) := by
  rw [readChars, if_pos rfl]

/-- A character that stands for itself. -/
theorem readChars_plain {c : Char} (hq : c ≠ '"') (hb : c ≠ '\\') (hc : 0x20 ≤ c.toNat)
    (s : List Char) : readChars (c :: s) = (readChars s).push c := by
  rw [readChars, if_neg hq, if_neg hb, if_neg (by omega)]
  cases readChars s <;> rfl

/-- An escape. -/
theorem readChars_escaped {c : Char} {s r : List Char} (h : readEscape s = .ok (c, r)) :
    readChars ('\\' :: s) = (readChars r).push c := by
  rw [readChars, if_neg (by decide), if_pos rfl]
  split
  · rename_i e he
    rw [h] at he
    cases he
  · rename_i c' r' he
    rw [h] at he
    cases he
    cases readChars r <;> rfl

theorem shortEscape?_of_mem {e c : Char} (h : (e, c) ∈ escapes) :
    e ≠ 'u' ∧ shortEscape? e = some c := by
  simp only [escapes, List.mem_cons, Prod.mk.injEq, List.not_mem_nil, or_false] at h
  obtain ⟨rfl, rfl⟩ | ⟨rfl, rfl⟩ | ⟨rfl, rfl⟩ | ⟨rfl, rfl⟩ | ⟨rfl, rfl⟩ | ⟨rfl, rfl⟩ | ⟨rfl, rfl⟩ |
    ⟨rfl, rfl⟩ := h
  all_goals exact ⟨by decide, rfl⟩

/-- No character has the code of a half of a pair. -/
theorem not_isSurrogate (c : Char) :
    isHighSurrogate c.toNat = false ∧ isLowSurrogate c.toNat = false := by
  have hvalid : c.toNat < 0xD800 ∨ 0xDFFF < c.toNat := by
    obtain h | h := c.valid
    · exact .inl h
    · exact .inr h.1
  simp only [isHighSurrogate, isLowSurrogate, Bool.and_eq_false_iff, decide_eq_false_iff_not]
  omega

theorem readEscape_code {c : Char} {ds : List Char} (h : HexCode c.toNat ds) (s : List Char) :
    readEscape ('u' :: (ds ++ s)) = .ok (c, s) := by
  obtain ⟨hhigh, hlow⟩ := not_isSurrogate c
  rw [readEscape, if_pos rfl, readHex_hexCode h]
  simp only [hhigh, hlow, Bool.false_eq_true, if_false, Char.ofNat_toNat]

theorem readEscape_pair {c : Char} {ds ds' : List Char} (hc : 0x10000 ≤ c.toNat)
    (hhigh : HexCode (0xD800 + (c.toNat - 0x10000) / 0x400) ds)
    (hlow : HexCode (0xDC00 + (c.toNat - 0x10000) % 0x400) ds') (s : List Char) :
    readEscape ('u' :: (ds ++ '\\' :: 'u' :: (ds' ++ s))) = .ok (c, s) := by
  have hmax : c.toNat < 0x110000 := by
    obtain h | h := c.valid
    · exact Nat.lt_trans h (by decide)
    · exact h.2
  have hishigh : isHighSurrogate (0xD800 + (c.toNat - 0x10000) / 0x400) := by
    simp only [isHighSurrogate, Bool.and_eq_true, decide_eq_true_eq]
    omega
  have hislow : isLowSurrogate (0xDC00 + (c.toNat - 0x10000) % 0x400) := by
    simp only [isLowSurrogate, Bool.and_eq_true, decide_eq_true_eq]
    omega
  -- the two halves put together again
  have hcode : 0x10000 + (0xD800 + (c.toNat - 0x10000) / 0x400 - 0xD800) * 0x400 +
      (0xDC00 + (c.toNat - 0x10000) % 0x400 - 0xDC00) = c.toNat := by
    omega
  rw [readEscape, if_pos rfl, readHex_hexCode hhigh]
  simp only [hishigh, if_true, readLowSurrogate, readHex_hexCode hlow, hislow, hcode,
    Char.ofNat_toNat]

/-- **A character is read** however it is written. -/
theorem readChars_charText {c : Char} {t : List Char} (h : CharText c t) (s : List Char) :
    readChars (t ++ s) = (readChars s).push c := by
  cases h with
  | plain hq hb hc => exact readChars_plain hq hb hc s
  | @letter e he =>
    obtain ⟨hu, hmeant⟩ := shortEscape?_of_mem he
    have hread : readEscape (e :: s) = .ok (c, s) := by
      rw [readEscape, if_neg hu]
      simp only [hmeant]
    exact readChars_escaped hread
  | code h => exact readChars_escaped (readEscape_code h s)
  | pair hc hhigh hlow =>
    have hread := readEscape_pair hc hhigh hlow s
    rw [List.cons_append, List.cons_append, List.append_assoc]
    exact readChars_escaped hread

/-- **A string literal is read** up to its closing quote. -/
theorem readChars_spells {cs s : List Char} (h : Spells cs s) (r : List Char) :
    readChars (s ++ '"' :: r) = .ok (cs, r) := by
  induction h with
  | nil => exact readChars_close r
  | cons ht _ ih =>
    rw [List.append_assoc, readChars_charText ht, ih]
    rfl

/-! ## Strings that are skipped -/

/-- One character or one escape of a string literal.  Any four digits make an escape. -/
inductive UnitText : List Char → Prop
  | plain {c : Char} (hq : c ≠ '"') (hb : c ≠ '\\') (hc : 0x20 ≤ c.toNat) : UnitText [c]
  | letter {e c : Char} (he : (e, c) ∈ escapes) : UnitText ['\\', e]
  | code {n : Nat} {ds : List Char} (h : HexCode n ds) : UnitText ('\\' :: 'u' :: ds)

/-- What may stand between the quotes of a string literal. -/
inductive LiteralText : List Char → Prop
  | nil : LiteralText []
  | cons {t s : List Char} (ht : UnitText t) (hs : LiteralText s) : LiteralText (t ++ s)

/-- What spells characters is a string literal. -/
theorem Spells.literalText {cs s : List Char} (h : Spells cs s) : LiteralText s := by
  induction h with
  | nil => exact .nil
  | cons ht _ ih =>
    cases ht with
    | plain hq hb hc => exact .cons (.plain hq hb hc) ih
    | letter he => exact .cons (.letter he) ih
    | code h => exact .cons (.code h) ih
    | pair _ hhigh hlow =>
      rw [← List.cons_append, ← List.cons_append, List.append_assoc]
      exact .cons (.code hhigh) (.cons (.code hlow) ih)

theorem skipChars_escaped {s r : List Char} (h : skipEscape s = .ok r) :
    skipChars ('\\' :: s) = skipChars r := by
  rw [skipChars, if_neg (by decide), if_pos rfl]
  split
  · rename_i e he
    rw [h] at he
    cases he
  · rename_i r' he
    rw [h] at he
    cases he
    rfl

theorem skipChars_unitText {t : List Char} (h : UnitText t) (s : List Char) :
    skipChars (t ++ s) = skipChars s := by
  cases h with
  | plain hq hb hc =>
    rw [List.singleton_append, skipChars, if_neg hq, if_neg hb, if_neg (by omega)]
  | @letter e _ he =>
    obtain ⟨hu, hmeant⟩ := shortEscape?_of_mem he
    have hskip : skipEscape (e :: s) = .ok s := by
      rw [skipEscape, if_neg hu]
      simp only [hmeant]
    exact skipChars_escaped hskip
  | @code _ ds h =>
    have hskip : skipEscape ('u' :: (ds ++ s)) = .ok s := by
      rw [skipEscape, if_pos rfl, readHex_hexCode h]
    exact skipChars_escaped hskip

/-- **A string literal is skipped** up to its closing quote. -/
theorem skipChars_literalText {s : List Char} (h : LiteralText s) (r : List Char) :
    skipChars (s ++ '"' :: r) = .ok r := by
  induction h with
  | nil => rw [List.nil_append, skipChars, if_pos rfl]
  | cons ht _ ih => rw [List.append_assoc, skipChars_unitText ht, ih]

/-! ## Numbers -/

/-- One decimal digit or more. -/
def Digits (ds : List Char) : Prop :=
  ds ≠ [] ∧ ∀ c ∈ ds, isDigit c

/-- The digits before the point: only zero itself begins with a zero. -/
def WholeText (ds : List Char) : Prop :=
  Digits ds ∧ (ds.head? = some '0' → ds = ['0'])

/-- What may stand for the digits after the point. -/
inductive FractionText : Option (List Char) → List Char → Prop
  | none : FractionText none []
  | some {ds : List Char} (h : Digits ds) : FractionText (some ds) ('.' :: ds)

/-- What may stand for an exponent. -/
inductive ExponentText : Option Int → List Char → Prop
  | none : ExponentText none []
  | unsigned {e : Char} {ds : List Char} (he : e = 'e' ∨ e = 'E') (h : Digits ds) :
      ExponentText (some (Decimal.value ds)) (e :: ds)
  | plus {e : Char} {ds : List Char} (he : e = 'e' ∨ e = 'E') (h : Digits ds) :
      ExponentText (some (Decimal.value ds)) (e :: '+' :: ds)
  | minus {e : Char} {ds : List Char} (he : e = 'e' ∨ e = 'E') (h : Digits ds) :
      ExponentText (some (-(Decimal.value ds : Int))) (e :: '-' :: ds)

/-- The texts of number literals, with the parts of each. -/
inductive NumberText : Literal → List Char → Prop
  | positive {w f e : List Char} {fraction : Option (List Char)} {exponent : Option Int}
      (hw : WholeText w) (hf : FractionText fraction f) (he : ExponentText exponent e) :
      NumberText ⟨false, w, fraction, exponent⟩ (w ++ (f ++ e))
  | negative {w f e : List Char} {fraction : Option (List Char)} {exponent : Option Int}
      (hw : WholeText w) (hf : FractionText fraction f) (he : ExponentText exponent e) :
      NumberText ⟨true, w, fraction, exponent⟩ ('-' :: (w ++ (f ++ e)))

/-- Characters that do not go on with digits. -/
def EndsDigits (s : List Char) : Prop :=
  ∀ c ∈ s.head?, isDigit c = false

theorem endsDigits_cons {c : Char} (h : isDigit c = false) (s : List Char) : EndsDigits (c :: s) := by
  intro c' hc
  rw [List.head?_cons, Option.mem_some_iff] at hc
  rwa [← hc]

theorem EndsNumber.endsDigits {s : List Char} (h : EndsNumber s) : EndsDigits s :=
  fun c hc => (h c hc).1

theorem Digits.exists_cons {ds : List Char} (h : Digits ds) :
    ∃ d ds', ds = d :: ds' ∧ isDigit d := by
  obtain ⟨d, ds', rfl⟩ := List.exists_cons_of_ne_nil h.1
  exact ⟨d, ds', rfl, h.2 d List.mem_cons_self⟩

section Read

variable {short : Cause} {ds r : List Char}

theorem readDigits_append (h : Digits ds) (hr : EndsDigits r) :
    readDigits short (ds ++ r) = .ok (ds, r) := by
  have htake : (ds ++ r).takeWhile isDigit = ds ∧ (ds ++ r).dropWhile isDigit = r := by
    rw [List.takeWhile_append_of_pos h.2, List.dropWhile_append_of_pos h.2]
    cases r with
    | nil => exact ⟨List.append_nil _, rfl⟩
    | cons c r =>
      have hc : ¬isDigit c = true := by rw [hr c rfl]; exact Bool.false_ne_true
      rw [List.takeWhile_cons_of_neg hc, List.dropWhile_cons_of_neg hc]
      exact ⟨List.append_nil _, rfl⟩
  obtain ⟨d, ds', rfl, hd⟩ := h.exists_cons
  rw [List.cons_append] at htake ⊢
  rw [readDigits, if_pos hd, htake.1, htake.2]

theorem readWhole_append (h : WholeText ds) (hr : EndsDigits r) :
    readWhole short (ds ++ r) = .ok (ds, r) := by
  by_cases hzero : ds.head? = some '0'
  · rw [h.2 hzero]
    cases r with
    | nil => rfl
    | cons c r =>
      have hc := hr c rfl
      simp [readWhole, hc]
  · unfold readWhole
    split
    · rename_i rest hs
      refine absurd ?_ hzero
      rw [← List.head?_append_of_ne_nil ds h.1.1, hs]
      rfl
    · exact readDigits_append h.1 hr

theorem readFraction_append {fraction : Option (List Char)} {f : List Char}
    (h : FractionText fraction f) (hr : EndsDigits r) (hpoint : r.head? ≠ some '.') :
    readFraction short (f ++ r) = .ok (fraction, r) := by
  cases h with
  | none =>
    rw [List.nil_append]
    unfold readFraction
    split
    · exact (hpoint rfl).elim
    · rfl
  | some h => simp only [List.cons_append, readFraction, readDigits_append h hr]

theorem exponentSign_of_isDigit {d : Char} (h : isDigit d) (s : List Char) :
    exponentSign (d :: s) = (false, d :: s) := by
  unfold exponentSign
  split
  · rename_i hs
    rw [(List.cons.inj hs).1] at h
    exact absurd h (by decide)
  · rename_i hs
    rw [(List.cons.inj hs).1] at h
    exact absurd h (by decide)
  · rfl

theorem readExponent_append {exponent : Option Int} {e : List Char} (h : ExponentText exponent e)
    (hr : EndsNumber r) : readExponent short (e ++ r) = .ok (exponent, r) := by
  cases h with
  | none =>
    cases r with
    | nil => rfl
    | cons c r =>
      rw [List.nil_append, readExponent, if_neg]
      rintro (rfl | rfl)
      · exact (hr 'e' rfl).2.2.1 rfl
      · exact (hr 'E' rfl).2.2.2 rfl
  | unsigned he h =>
    obtain ⟨d, ds', rfl, hd⟩ := h.exists_cons
    rw [List.cons_append, readExponent, if_pos he]
    simp only [List.cons_append, exponentSign_of_isDigit hd]
    rw [← List.cons_append]
    simp only [readDigits_append h hr.endsDigits]
    rfl
  | plus he h =>
    rw [List.cons_append, readExponent, if_pos he]
    simp only [List.cons_append, exponentSign, readDigits_append h hr.endsDigits]
    rfl
  | minus he h =>
    rw [List.cons_append, readExponent, if_pos he]
    simp only [List.cons_append, exponentSign, readDigits_append h hr.endsDigits]
    rfl

/-- An exponent begins with a letter. -/
theorem ExponentText.head {exponent : Option Int} {e : List Char} (h : ExponentText exponent e)
    (hr : EndsNumber r) : EndsDigits (e ++ r) ∧ (e ++ r).head? ≠ some '.' := by
  have hletter {c : Char} (hc : c = 'e' ∨ c = 'E') (s : List Char) :
      EndsDigits (c :: s) ∧ (c :: s).head? ≠ some '.' := by
    rw [List.head?_cons]
    obtain rfl | rfl := hc
    · exact ⟨endsDigits_cons rfl s, by decide⟩
    · exact ⟨endsDigits_cons rfl s, by decide⟩
  cases h with
  | none => exact ⟨hr.endsDigits, fun h => (hr '.' h).2.1 rfl⟩
  | unsigned he _ => exact hletter he _
  | plus he _ => exact hletter he _
  | minus he _ => exact hletter he _

theorem FractionText.endsDigits {fraction : Option (List Char)} {f : List Char}
    (h : FractionText fraction f) (hr : EndsDigits r) : EndsDigits (f ++ r) := by
  cases h with
  | none => exact hr
  | some _ => exact endsDigits_cons rfl _

theorem readUnsigned_append {negative : Bool} {w f e : List Char} {fraction : Option (List Char)}
    {exponent : Option Int} (hw : WholeText w) (hf : FractionText fraction f)
    (he : ExponentText exponent e) (hr : EndsNumber r) :
    readUnsigned short negative (w ++ (f ++ e) ++ r) = .ok (⟨negative, w, fraction, exponent⟩, r) := by
  obtain ⟨hdigits, hpoint⟩ := he.head hr
  rw [List.append_assoc, List.append_assoc, readUnsigned,
    readWhole_append hw (hf.endsDigits hdigits)]
  simp only [readFraction_append hf hdigits hpoint, readExponent_append he hr]

/-- A number literal begins with a minus sign or a digit. -/
theorem NumberText.exists_cons {l : Literal} {t : List Char} (h : NumberText l t) :
    ∃ c s, t = c :: s ∧ (c = '-' ∨ isDigit c) := by
  cases h with
  | positive hw hf he =>
    obtain ⟨d, ds', rfl, hd⟩ := hw.1.exists_cons
    exact ⟨d, _, rfl, .inr hd⟩
  | negative => exact ⟨'-', _, rfl, .inl rfl⟩

/-- **A number literal is read** up to where it ends. -/
theorem readNumber_numberText {l : Literal} {t : List Char} (h : NumberText l t)
    (hr : EndsNumber r) : readNumber short (t ++ r) = .ok (l, r) := by
  cases h with
  | positive hw hf he =>
    obtain ⟨d, ds', rfl, hd⟩ := hw.1.exists_cons
    rw [← readUnsigned_append hw hf he hr]
    unfold readNumber
    split
    · rename_i hs
      rw [List.cons_append, List.cons_append] at hs
      rw [(List.cons.inj hs).1] at hd
      exact absurd hd (by decide)
    · rfl
  | negative hw hf he => exact readUnsigned_append hw hf he hr

end Read

end Json
end SyntaxGraph
