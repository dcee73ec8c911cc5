import SyntaxGraph.Json.Record
import SyntaxGraph.Proofs.Json.Literals

/-!
# The grammar of JSON

`Derives` is the grammar of JSON values over characters, with blanks wherever they may stand.  There
is one relation for all parts of the grammar, indexed by the part, so that one induction speaks of
values, of the elements of arrays and of the members of objects at once; what the skipping reader
makes of each part is the motive of that induction (`Part.Skips`).

The reader is given a number of calls it may make.  A text needs at most two for each of its
characters, one for a value and one for the loop around it, and the bound is carried along as part of
the motive.

`TokenText` is the part of the grammar that a reader of records looks at: the values whose first token
it can read.  A value that is no token text has a string with half of a pair in it or a number beyond
the largest double, and can only be skipped.

## What is here

* `Derives` — values, elements, and members.
* `Derives.skips`, `skipValue_element` — every value is skipped.
* `TokenText`, `readScalar_tokenText` — values of members.
-/

set_option autoImplicit false
namespace SyntaxGraph
namespace Json

/-! ## Values -/

/-- The parts of the grammar. -/
inductive Part where
  | value
  /-- A value with blanks around it. -/
  | element
  /-- The elements of an array, one or more. -/
  | elements
  /-- The members of an object, one or more. -/
  | members

/-- The words that are values. -/
def words : List String :=
  ["null", "true", "false"]

/-- A key between its quotes, up to the colon after it. -/
def keyText (a k b : List Char) : List Char :=
  a ++ '"' :: (k ++ '"' :: (b ++ [':']))

/-- **The grammar of JSON.** -/
inductive Derives : Part → List Char → Prop
  | word {w : String} (hw : w ∈ words) : Derives .value w.toList
  | string {s : List Char} (hs : LiteralText s) : Derives .value ('"' :: (s ++ ['"']))
  | number {l : Literal} {t : List Char} (ht : NumberText l t) : Derives .value t
  | emptyArray {b : List Char} (hb : Blank b) : Derives .value ('[' :: (b ++ [']']))
  | array {t : List Char} (ht : Derives .elements t) : Derives .value ('[' :: (t ++ [']']))
  | emptyObject {b : List Char} (hb : Blank b) : Derives .value ('\x7b' :: (b ++ ['\x7d']))
  | object {t : List Char} (ht : Derives .members t) : Derives .value ('\x7b' :: (t ++ ['\x7d']))
  | padded {a t b : List Char} (ha : Blank a) (ht : Derives .value t) (hb : Blank b) :
      Derives .element (a ++ (t ++ b))
  | lastElement {t : List Char} (ht : Derives .element t) : Derives .elements t
  | nextElement {t u : List Char} (ht : Derives .element t) (hu : Derives .elements u) :
      Derives .elements (t ++ ',' :: u)
  | lastMember {a k b t : List Char} (ha : Blank a) (hk : LiteralText k) (hb : Blank b)
      (ht : Derives .element t) : Derives .members (keyText a k b ++ t)
  | nextMember {a k b t u : List Char} (ha : Blank a) (hk : LiteralText k) (hb : Blank b)
      (ht : Derives .element t) (hu : Derives .members u) :
      Derives .members (keyText a k b ++ (t ++ ',' :: u))

/-- A character that can begin a value. -/
def OpensValue (c : Char) : Prop :=
  isBlank c = false ∧ c ≠ ',' ∧ c ≠ ']'

/-- The first character of a number opens nothing else. -/
theorem ne_of_number {c x : Char} (h : c = '-' ∨ isDigit c) (hx : ¬(x = '-' ∨ isDigit x)) :
    c ≠ x :=
  fun hc => hx (hc ▸ h)

theorem opensValue_of_number {c : Char} (h : c = '-' ∨ isDigit c) : OpensValue c := by
  refine ⟨?_, ne_of_number h (by decide), ne_of_number h (by decide)⟩
  rw [isBlank, beq_false_of_ne (ne_of_number h (by decide)),
    beq_false_of_ne (ne_of_number h (by decide)), beq_false_of_ne (ne_of_number h (by decide)),
    beq_false_of_ne (ne_of_number h (by decide))]
  rfl

theorem Derives.exists_cons {t : List Char} (h : Derives .value t) :
    ∃ c s, t = c :: s ∧ OpensValue c := by
  cases h with
  | word hw =>
    simp only [words, List.mem_cons, List.not_mem_nil, or_false] at hw
    obtain rfl | rfl | rfl := hw
    all_goals exact ⟨_, _, rfl, by decide, by decide, by decide⟩
  | number ht =>
    obtain ⟨c, s, rfl, hc⟩ := ht.exists_cons
    exact ⟨c, s, rfl, opensValue_of_number hc⟩
  | string => exact ⟨_, _, rfl, by decide, by decide, by decide⟩
  | emptyArray => exact ⟨_, _, rfl, by decide, by decide, by decide⟩
  | array => exact ⟨_, _, rfl, by decide, by decide, by decide⟩
  | emptyObject => exact ⟨_, _, rfl, by decide, by decide, by decide⟩
  | object => exact ⟨_, _, rfl, by decide, by decide, by decide⟩

/-- The elements of an array begin with a value, after some blanks. -/
theorem Derives.skipBlanks_elements {p : Part} {t : List Char} (h : Derives p t)
    (hp : p = .element ∨ p = .elements) (r : List Char) :
    ∃ c s, skipBlanks (t ++ r) = c :: s ∧ OpensValue c := by
  induction h generalizing r with
  | padded ha ht hb =>
    obtain ⟨c, s, rfl, hc⟩ := ht.exists_cons
    rw [List.append_assoc, skipBlanks_append ha, List.append_assoc, List.cons_append,
      skipBlanks_cons hc.1]
    exact ⟨c, _, rfl, hc⟩
  | lastElement _ ih => exact ih (.inl rfl) r
  | nextElement _ _ ih _ =>
    rw [List.append_assoc]
    exact ih (.inl rfl) _
  | word | string | number | emptyArray | array | emptyObject | object => simp at hp
  | lastMember | nextMember => simp at hp

theorem skipBlanks_keyText {a : List Char} (ha : Blank a) (k b r : List Char) :
    skipBlanks (keyText a k b ++ r) = '"' :: (k ++ '"' :: (b ++ ':' :: r)) := by
  have htext : keyText a k b ++ r = a ++ '"' :: (k ++ '"' :: (b ++ ':' :: r)) := by
    simp [keyText]
  rw [htext, skipBlanks_append ha, skipBlanks_cons rfl]

/-- The members of an object begin with a quote, after some blanks. -/
theorem Derives.skipBlanks_members {t : List Char} (h : Derives .members t) (r : List Char) :
    ∃ s, skipBlanks (t ++ r) = '"' :: s := by
  cases h with
  | lastMember ha =>
    rw [List.append_assoc, skipBlanks_keyText ha]
    exact ⟨_, rfl⟩
  | nextMember ha =>
    rw [List.append_assoc, skipBlanks_keyText ha]
    exact ⟨_, rfl⟩

theorem readColon_append {b : List Char} (hb : Blank b) (r : List Char) :
    readColon (b ++ ':' :: r) = .ok r := by
  rw [readColon, skipBlanks_append hb, skipBlanks_cons rfl]
  rfl

/-! ## Skipping -/

/-- Characters that end a value: a comma or a closing bracket or brace. -/
def Closes (c : Char) : Prop :=
  c = ',' ∨ c = ']' ∨ c = '\x7d'

theorem Closes.endsNumber {c : Char} (h : Closes c) (s : List Char) : EndsNumber (c :: s) := by
  obtain rfl | rfl | rfl := h
  all_goals exact endsNumber_cons (by decide) (by decide) (by decide) (by decide) s

theorem Closes.skipBlanks_append {c : Char} {b : List Char} (h : Closes c) (hb : Blank b)
    (s : List Char) : skipBlanks (b ++ c :: s) = c :: s := by
  rw [Json.skipBlanks_append hb]
  obtain rfl | rfl | rfl := h
  all_goals exact skipBlanks_cons rfl s

/-- What skipping makes of a text of each part, if it is allowed enough calls. -/
def Part.Skips : Part → List Char → Prop
  | value, t => ∀ n r, 2 * t.length ≤ n → EndsNumber r → skipValueWithin n (t ++ r) = .ok r
  | element, t => ∀ n c r, 2 * t.length ≤ n → Closes c →
      ∃ s, skipValueWithin n (t ++ c :: r) = .ok s ∧ skipBlanks s = c :: r
  | elements, t => ∀ n r, 2 * t.length + 1 ≤ n → skipItemsWithin n (t ++ ']' :: r) = .ok r
  | members, t => ∀ n r, 2 * t.length + 1 ≤ n → skipMembersWithin n (t ++ '\x7d' :: r) = .ok r

theorem readWord_append (w r : List Char) : readWord w (w ++ r) = .ok r := by
  induction w with
  | nil => rfl
  | cons c w ih => rw [List.cons_append, readWord, if_pos rfl, ih]

theorem skipValueWithin_skipBlanks (n : Nat) (s : List Char) :
    skipValueWithin n (skipBlanks s) = skipValueWithin n s := by
  cases n with
  | zero => rfl
  | succ n => rw [skipValueWithin, skipValueWithin, skipBlanks_skipBlanks]

theorem skipItemsWithin_skipBlanks (n : Nat) (s : List Char) :
    skipItemsWithin n (skipBlanks s) = skipItemsWithin n s := by
  cases n with
  | zero => rfl
  | succ n => rw [skipItemsWithin, skipItemsWithin, skipValueWithin_skipBlanks]

theorem skipMembersWithin_skipBlanks (n : Nat) (s : List Char) :
    skipMembersWithin n (skipBlanks s) = skipMembersWithin n s := by
  cases n with
  | zero => rfl
  | succ n => rw [skipMembersWithin, skipMembersWithin, skipBlanks_skipBlanks]

/-! One call of each of the three functions: what it finds decides what it calls. -/

section Step

variable {n : Nat} {s t u v : List Char}

theorem skipValueWithin_word {w : String} (hw : w ∈ words) :
    skipValueWithin (n + 1) (w.toList ++ s) = .ok s := by
  simp only [words, List.mem_cons, List.not_mem_nil, or_false] at hw
  obtain rfl | rfl | rfl := hw
  · exact readWord_append ['u', 'l', 'l'] s
  · exact readWord_append ['r', 'u', 'e'] s
  · exact readWord_append ['a', 'l', 's', 'e'] s

theorem skipValueWithin_string : skipValueWithin (n + 1) ('"' :: s) = skipChars s := rfl

theorem skipValueWithin_number {l : Literal} (ht : NumberText l t) (hs : EndsNumber s) :
    skipValueWithin (n + 1) (t ++ s) = .ok s := by
  have hread : readNumber .malformed (t ++ s) = .ok (l, s) := readNumber_numberText ht hs
  obtain ⟨c, u, rfl, hc⟩ := ht.exists_cons
  have hne {x : Char} := ne_of_number (x := x) hc
  rw [List.cons_append] at hread ⊢
  rw [skipValueWithin, skipBlanks_cons (opensValue_of_number hc).1]
  simp only [if_neg (hne (x := '"') (by decide)), if_neg (hne (x := '[') (by decide)),
    if_neg (hne (x := '\x7b') (by decide)), if_neg (hne (x := 'n') (by decide)),
    if_neg (hne (x := 't') (by decide)), if_neg (hne (x := 'f') (by decide)), if_pos hc, hread]

theorem skipValueWithin_emptyArray (hs : skipBlanks s = ']' :: t) :
    skipValueWithin (n + 1) ('[' :: s) = .ok t := by
  rw [skipValueWithin, skipBlanks_cons rfl]
  simp only [hs]
  rfl

theorem skipValueWithin_array {c : Char} (hs : skipBlanks s = c :: t) (hc : c ≠ ']') :
    skipValueWithin (n + 1) ('[' :: s) = skipItemsWithin n s := by
  rw [skipValueWithin, skipBlanks_cons rfl]
  simp only [Char.reduceEq, if_false, if_true]
  rw [← skipItemsWithin_skipBlanks n s, hs]
  split
  · rename_i hcons
    exact absurd (List.cons.inj hcons).1 hc
  · rfl

theorem skipValueWithin_emptyObject (hs : skipBlanks s = '\x7d' :: t) :
    skipValueWithin (n + 1) ('\x7b' :: s) = .ok t := by
  rw [skipValueWithin, skipBlanks_cons rfl]
  simp only [hs]
  rfl

theorem skipValueWithin_object {c : Char} (hs : skipBlanks s = c :: t) (hc : c ≠ '\x7d') :
    skipValueWithin (n + 1) ('\x7b' :: s) = skipMembersWithin n s := by
  rw [skipValueWithin, skipBlanks_cons rfl]
  simp only [Char.reduceEq, if_false, if_true]
  rw [← skipMembersWithin_skipBlanks n s, hs]
  split
  · rename_i hcons
    exact absurd (List.cons.inj hcons).1 hc
  · rfl

theorem skipItemsWithin_close (hs : skipValueWithin n s = .ok t) (ht : skipBlanks t = ']' :: u) :
    skipItemsWithin (n + 1) s = .ok u := by
  simp only [skipItemsWithin, hs, ht]

theorem skipItemsWithin_comma (hs : skipValueWithin n s = .ok t) (ht : skipBlanks t = ',' :: u) :
    skipItemsWithin (n + 1) s = skipItemsWithin n u := by
  simp only [skipItemsWithin, hs, ht]

variable {a k b : List Char}

theorem skipMembersWithin_close (ha : Blank a) (hk : LiteralText k) (hb : Blank b)
    (hs : skipValueWithin n s = .ok t) (ht : skipBlanks t = '\x7d' :: u) :
    skipMembersWithin (n + 1) (keyText a k b ++ s) = .ok u := by
  simp only [skipMembersWithin, skipBlanks_keyText ha, skipChars_literalText hk,
    readColon_append hb, hs, ht]

theorem skipMembersWithin_comma (ha : Blank a) (hk : LiteralText k) (hb : Blank b)
    (hs : skipValueWithin n s = .ok t) (ht : skipBlanks t = ',' :: u) :
    skipMembersWithin (n + 1) (keyText a k b ++ s) = skipMembersWithin n u := by
  simp only [skipMembersWithin, skipBlanks_keyText ha, skipChars_literalText hk,
    readColon_append hb, hs, ht]

end Step

theorem length_keyText (a k b : List Char) : 3 ≤ (keyText a k b).length := by
  simp only [keyText, List.length_append, List.length_cons]
  omega

/-- **Every text of the grammar is skipped.** -/
theorem Derives.skips {p : Part} {t : List Char} (h : Derives p t) : p.Skips t := by
  induction h with
  | @word w hw =>
    intro n r hn _
    have hpos : 0 < w.toList.length := by
      simp only [words, List.mem_cons, List.not_mem_nil, or_false] at hw
      obtain rfl | rfl | rfl := hw <;> decide
    obtain ⟨n, rfl⟩ := Nat.exists_eq_add_one.2 (show 0 < n by omega)
    exact skipValueWithin_word hw
  | @string s hs =>
    intro n r hn _
    rw [List.length_cons] at hn
    obtain ⟨n, rfl⟩ := Nat.exists_eq_add_one.2 (show 0 < n by omega)
    rw [List.cons_append, List.append_assoc, skipValueWithin_string]
    exact skipChars_literalText hs r
  | number ht =>
    intro n r hn hr
    obtain ⟨c, s, rfl, -⟩ := ht.exists_cons
    rw [List.length_cons] at hn
    obtain ⟨n, rfl⟩ := Nat.exists_eq_add_one.2 (show 0 < n by omega)
    exact skipValueWithin_number ht hr
  | emptyArray hb =>
    intro n r hn _
    rw [List.length_cons] at hn
    obtain ⟨n, rfl⟩ := Nat.exists_eq_add_one.2 (show 0 < n by omega)
    rw [List.cons_append, List.append_assoc]
    refine skipValueWithin_emptyArray ?_
    rw [skipBlanks_append hb]
    rfl
  | array ht ih =>
    intro n r hn _
    simp only [List.length_cons, List.length_append, List.length_nil] at hn
    obtain ⟨n, rfl⟩ := Nat.exists_eq_add_one.2 (show 0 < n by omega)
    obtain ⟨c, s, hs, -, -, hc⟩ := ht.skipBlanks_elements (.inr rfl) (']' :: r)
    rw [List.cons_append, List.append_assoc, List.singleton_append, skipValueWithin_array hs hc]
    exact ih n r (by omega)
  | emptyObject hb =>
    intro n r hn _
    rw [List.length_cons] at hn
    obtain ⟨n, rfl⟩ := Nat.exists_eq_add_one.2 (show 0 < n by omega)
    rw [List.cons_append, List.append_assoc]
    refine skipValueWithin_emptyObject ?_
    rw [skipBlanks_append hb]
    rfl
  | object ht ih =>
    intro n r hn _
    simp only [List.length_cons, List.length_append, List.length_nil] at hn
    obtain ⟨n, rfl⟩ := Nat.exists_eq_add_one.2 (show 0 < n by omega)
    obtain ⟨s, hs⟩ := ht.skipBlanks_members ('\x7d' :: r)
    rw [List.cons_append, List.append_assoc, List.singleton_append,
      skipValueWithin_object hs (by decide)]
    exact ih n r (by omega)
  | @padded a t b ha ht hb ih =>
    intro n c r hn hc
    simp only [List.length_append] at hn
    refine ⟨b ++ c :: r, ?_, hc.skipBlanks_append hb r⟩
    rw [List.append_assoc, List.append_assoc, ← skipValueWithin_skipBlanks, skipBlanks_append ha,
      skipValueWithin_skipBlanks]
    exact ih n _ (by omega) (endsNumber_append hb (hc.endsNumber r))
  | lastElement ht ih =>
    intro n r hn
    obtain ⟨n, rfl⟩ := Nat.exists_eq_add_one.2 (show 0 < n by omega)
    obtain ⟨s, hs, hclose⟩ := ih n ']' r (by omega) (.inr (.inl rfl))
    exact skipItemsWithin_close hs hclose
  | nextElement ht hu iht ihu =>
    intro n r hn
    simp only [List.length_append, List.length_cons] at hn
    obtain ⟨n, rfl⟩ := Nat.exists_eq_add_one.2 (show 0 < n by omega)
    rw [List.append_assoc, List.cons_append]
    obtain ⟨s, hs, hcomma⟩ := iht n ',' _ (by omega) (.inl rfl)
    rw [skipItemsWithin_comma hs hcomma]
    exact ihu n r (by omega)
  | @lastMember a k b t ha hk hb ht ih =>
    intro n r hn
    have hkey := length_keyText a k b
    simp only [List.length_append] at hn
    obtain ⟨n, rfl⟩ := Nat.exists_eq_add_one.2 (show 0 < n by omega)
    obtain ⟨s, hs, hclose⟩ := ih n '\x7d' r (by omega) (.inr (.inr rfl))
    rw [List.append_assoc]
    exact skipMembersWithin_close ha hk hb hs hclose
  | @nextMember a k b t u ha hk hb ht hu iht ihu =>
    intro n r hn
    have hkey := length_keyText a k b
    simp only [List.length_append, List.length_cons] at hn
    obtain ⟨n, rfl⟩ := Nat.exists_eq_add_one.2 (show 0 < n by omega)
    rw [List.append_assoc, List.append_assoc, List.cons_append]
    obtain ⟨s, hs, hcomma⟩ := iht n ',' _ (by omega) (.inl rfl)
    rw [skipMembersWithin_comma ha hk hb hs hcomma]
    exact ihu n r (by omega)

/-- **A value with blanks around it is skipped**, up to the character that ends it. -/
theorem skipValue_element {t : List Char} (h : Derives .element t) {c : Char} (hc : Closes c)
    (r : List Char) : ∃ s, skipValue (t ++ c :: r) = .ok s ∧ skipBlanks s = c :: r := by
  refine h.skips _ c r ?_ hc
  simp only [List.length_append]
  omega

/-! ## Values that are read -/

/-- The texts of values that a reader of tokens gets past, each with the token it begins with. -/
inductive TokenText : Token → List Char → Prop
  | text {cs s : List Char} (hs : Spells cs s) : TokenText (.text cs) ('"' :: (s ++ ['"']))
  | number {l : Literal} {t : List Char} (ht : NumberText l t) (hfits : l.number?.isSome) :
      TokenText (.number l) t
  | word {w : String} (hw : w ∈ words) : TokenText (.word w) w.toList
  | array {t : List Char} (ht : Derives .value ('[' :: t)) : TokenText .openArray ('[' :: t)
  | object {t : List Char} (ht : Derives .value ('\x7b' :: t)) : TokenText .openObject ('\x7b' :: t)

/-- What begins with a token is a value. -/
theorem TokenText.derives {token : Token} {t : List Char} (h : TokenText token t) :
    Derives .value t := by
  cases h with
  | text hs => exact .string hs.literalText
  | number ht => exact .number ht
  | word hw => exact .word hw
  | array ht => exact ht
  | object ht => exact ht

theorem readToken_skipBlanks (s : List Char) : readToken (skipBlanks s) = readToken s := by
  rw [readToken, readToken, skipBlanks_skipBlanks]

theorem readScalar_skipBlanks (type : ScalarType) (s : List Char) :
    readScalar type (skipBlanks s) = readScalar type s := by
  rw [readScalar, readScalar, readToken_skipBlanks]

theorem readToken_text {cs s : List Char} (hs : Spells cs s) (r : List Char) :
    readToken ('"' :: (s ++ ['"']) ++ r) = .ok (.text cs, r) := by
  rw [List.cons_append, List.append_assoc, List.singleton_append, readToken, skipBlanks_cons rfl]
  simp only [if_true, readChars_spells hs]

theorem readToken_number {l : Literal} {t r : List Char} (ht : NumberText l t)
    (hfits : l.number?.isSome) (hr : EndsNumber r) :
    readToken (t ++ r) = .ok (.number l, r) := by
  have hread : readNumber .ended (t ++ r) = .ok (l, r) := readNumber_numberText ht hr
  have hnone : ¬l.number?.isNone = true := by
    rw [Option.isNone_iff_eq_none, ← Option.not_isSome_iff_eq_none, not_not]
    exact hfits
  obtain ⟨c, u, rfl, hc⟩ := ht.exists_cons
  have hne {x : Char} := ne_of_number (x := x) hc
  rw [List.cons_append] at hread ⊢
  rw [readToken, skipBlanks_cons (opensValue_of_number hc).1]
  simp only [if_neg (hne (x := '"') (by decide)), if_neg (hne (x := '[') (by decide)),
    if_neg (hne (x := '\x7b') (by decide)), if_neg (hne (x := 'n') (by decide)),
    if_neg (hne (x := 't') (by decide)), if_neg (hne (x := 'f') (by decide)), if_pos hc, hread,
    if_neg hnone]

theorem readToken_word {w : String} (hw : w ∈ words) (r : List Char) :
    readToken (w.toList ++ r) = .ok (.word w, r) := by
  have hread {c : Char} {rest : List Char} (hw : w.toList = c :: rest) :
      readWordToken w rest (rest ++ r) = .ok (.word w, r) := by
    simp only [readWordToken, readWord_append]
  simp only [words, List.mem_cons, List.not_mem_nil, or_false] at hw
  obtain rfl | rfl | rfl := hw
  · exact hread rfl
  · exact hread rfl
  · exact hread rfl

/-- What a reader gives that has come to `s`: what it was to give, or else a mismatch. -/
def Read.orMismatch {α : Type} (a : Option α) (s : List Char) : Read α :=
  match a with
  | some a => .ok (a, s)
  | none => .error .mismatch

theorem readScalar_of_readToken {token : Token} {s r : List Char}
    (h : readToken s = .ok (token, r)) (type : ScalarType) :
    readScalar type s = Read.orMismatch (Scalar.ofToken? type token) r := by
  cases hv : Scalar.ofToken? type token <;> simp only [readScalar, h, hv, Read.orMismatch]

/-- **A value of a member is read** if its token is of the wanted type, and is a mismatch if not. -/
theorem readScalar_tokenText {token : Token} {t r : List Char} (h : TokenText token t)
    (hr : EndsNumber r) (type : ScalarType) :
    readScalar type (t ++ r) = Read.orMismatch (Scalar.ofToken? type token) r := by
  cases h with
  | text hs => exact readScalar_of_readToken (readToken_text hs r) type
  | number ht hfits => exact readScalar_of_readToken (readToken_number ht hfits hr) type
  | word hw => exact readScalar_of_readToken (readToken_word hw r) type
  | @array t ht =>
    have htoken : readToken ('[' :: t ++ r) = .ok (.openArray, t ++ r) := rfl
    rw [readScalar_of_readToken htoken]
    cases type <;> rfl
  | @object t ht =>
    have htoken : readToken ('\x7b' :: t ++ r) = .ok (.openObject, t ++ r) := rfl
    rw [readScalar_of_readToken htoken]
    cases type <;> rfl

end Json
end SyntaxGraph
