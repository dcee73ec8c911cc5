import SyntaxGraph.Proofs.Json.RoundTrip

/-!
# Exports that break off

An export that breaks off is never taken for a shorter one: no proper prefix of the JSON text of a
list of nodes decodes, and the cause is always that the characters end.

It is not true that every reader fails on a prefix of what was written for it.  The first digits of a
number are a number again, and a reader that is given no more takes them for the whole.  What all
readers have in common is that they *run out* (`Read.RunsOut`): they ask for a character where none
is left, or they have used the last one, so that whoever reads on asks for the next.  This is carried
from strings and integers to members, and there it becomes an error, because a member is never the
last thing in an export.

## What is here

* `prefix_append_cases` — a prefix of two pieces stops in the first one or in the second.
* `readChars_cut`, `readScalar_cut` — strings, and what a member holds.
* `readMembersWithin_cut`, `readNodesWithin_cut` — the loops over members and over nodes.
* `decodeNodes_truncated` — a whole export.
-/

set_option autoImplicit false
namespace SyntaxGraph
namespace Json

theorem prefix_append_cases {p u v : List Char} (h : p <+: u ++ v) :
    p <+: u ∨ ∃ q, p = u ++ q ∧ q <+: v := by
  obtain ⟨r, hr⟩ := h
  obtain ⟨w, hu, -⟩ | ⟨q, hp, hv⟩ := List.append_eq_append_iff.1 hr
  · exact .inl ⟨w, hu.symm⟩
  · exact .inr ⟨q, hp, r, hv.symm⟩

/-- A reader runs out of characters: it asks for one more than there are, or it leaves nothing but
blanks. -/
def Read.RunsOut {α : Type} (x : Read α) : Prop :=
  x = .error .ended ∨ ∃ a r, x = .ok (a, r) ∧ Blank r

/-! ## Strings -/

theorem readChars_nil : readChars [] = .error .ended := by
  rw [readChars]

theorem readChars_escape_ended {s : List Char} (h : readEscape s = .error .ended) :
    readChars ('\\' :: s) = .error .ended := by
  rw [readChars, if_neg (by decide), if_pos rfl]
  split
  · rename_i e he
    exact congrArg Except.error (Except.error.inj (he.symm.trans h))
  · rename_i he
    rw [h] at he
    cases he

/-- Four digits take four bytes at least. -/
theorem readHex_ended {s : List Char} (h : byteCount s < 4) : readHex s = .error .ended := by
  unfold readHex
  split
  · rename_i a b c d rest
    have ha := a.utf8Size_pos
    have hb := b.utf8Size_pos
    have hc := c.utf8Size_pos
    have hd := d.utf8Size_pos
    simp only [byteCount, List.foldr_cons] at h
    omega
  · rw [if_pos h]

theorem byteCount_le_of_isPrefix {p s : List Char} (h : p <+: s) : byteCount p ≤ byteCount s := by
  obtain ⟨r, rfl⟩ := h
  induction p with
  | nil => exact Nat.zero_le _
  | cons c p ih =>
    simp only [byteCount, List.cons_append, List.foldr_cons] at ih ⊢
    omega

/-- The ways in which a character is written. -/
theorem escape_cases (c : Char) :
    escape c = [c] ∨ (∃ x, escape c = ['\\', x]) ∨ (c.toNat < 0x20 ∧ escape c = unicodeEscape c) := by
  generalize hwritten : escape c = written
  unfold escape at hwritten
  split_ifs at hwritten with _ _ _ _ _ _ _ hc
  all_goals subst hwritten
  any_goals exact .inr (.inl ⟨_, rfl⟩)
  · exact .inr (.inr ⟨hc, rfl⟩)
  · exact .inl rfl

/-- The code of a control character breaks off before its last digit. -/
theorem readEscape_unicode_cut {c : Char} (hc : c.toNat < 0x20) {p : List Char}
    (hp : p <+: ['u', '0', '0', Nat.digitChar (c.toNat / 16)]) : readEscape p = .error .ended := by
  obtain rfl | ⟨q, rfl, hq⟩ := List.prefix_cons_iff.1 hp
  · rfl
  · have hbytes : byteCount ['0', '0', Nat.digitChar (c.toNat / 16)] = 3 := by
      obtain h | h : c.toNat / 16 = 0 ∨ c.toNat / 16 = 1 := by omega
      all_goals rw [h]; rfl
    have hle := byteCount_le_of_isPrefix hq
    rw [readEscape, if_pos rfl, readHex_ended (by omega)]

/-- A character that breaks off. -/
theorem readChars_escape_cut {c : Char} {p : List Char} (hp : p <+: escape c)
    (hne : p ≠ escape c) : readChars p = .error .ended := by
  obtain h | ⟨x, h⟩ | ⟨hc, h⟩ := escape_cases c
  · rw [h] at hp hne
    have hp : p <+: [] := (List.prefix_concat_iff.1 hp).resolve_left hne
    rw [List.prefix_nil.1 hp, readChars_nil]
  · rw [h] at hp hne
    have hp : p <+: ['\\'] := (List.prefix_concat_iff.1 hp).resolve_left hne
    obtain rfl | ⟨q, rfl, hq⟩ := List.prefix_cons_iff.1 hp
    · exact readChars_nil
    · rw [List.prefix_nil.1 hq]
      exact readChars_escape_ended rfl
  · rw [h] at hp hne
    have hp : p <+: ['\\', 'u', '0', '0', Nat.digitChar (c.toNat / 16)] :=
      (List.prefix_concat_iff.1 hp).resolve_left hne
    obtain rfl | ⟨q, rfl, hq⟩ := List.prefix_cons_iff.1 hp
    · exact readChars_nil
    · exact readChars_escape_ended (readEscape_unicode_cut hc hq)

/-- **A string that breaks off** before its closing quote. -/
theorem readChars_cut {cs p : List Char} (hp : p <+: cs.flatMap escape) :
    readChars p = .error .ended := by
  induction cs generalizing p with
  | nil =>
    rw [List.prefix_nil.1 hp, readChars_nil]
  | cons c cs ih =>
    rw [List.flatMap_cons] at hp
    by_cases hc : p <+: escape c ∧ p ≠ escape c
    · exact readChars_escape_cut hc.1 hc.2
    · obtain ⟨q, rfl, hq⟩ : ∃ q, p = escape c ++ q ∧ q <+: cs.flatMap escape := by
        obtain h | h := prefix_append_cases hp
        · have heq : p = escape c := not_not.1 fun hne => hc ⟨h, hne⟩
          exact ⟨[], heq.trans (List.append_nil _).symm, List.nil_prefix⟩
        · exact h
      rw [readChars_charText (charText_escape c), ih hq]
      rfl

/-! ## Integers -/

/-- The first digits of a number are the digits of a number no larger. -/
theorem exists_eq_digits {n : Nat} {p : List Char} (hp : p <+: Decimal.digits n) (hne : p ≠ []) :
    ∃ m ≤ n, p = Decimal.digits m := by
  induction n using Nat.strongRecOn with
  | ind n ih =>
    have hstep := Nat.toDigits_eq_if (b := 10) (n := n) (by decide)
    rw [Decimal.digits, hstep] at hp
    split at hp
    · rename_i hlt
      have hp : p <+: [] ++ [Nat.digitChar n] := hp
      obtain rfl | hp := List.prefix_concat_iff.1 hp
      · exact ⟨n, Nat.le_refl n, by rw [Decimal.digits, hstep, if_pos hlt]; rfl⟩
      · exact absurd (List.prefix_nil.1 hp) hne
    · rename_i hge
      obtain rfl | hp := List.prefix_concat_iff.1 hp
      · exact ⟨n, Nat.le_refl n, by rw [Decimal.digits, hstep, if_neg hge]⟩
      · obtain ⟨m, hm, rfl⟩ := ih (n / 10) (by omega) hp
        exact ⟨m, by omega, rfl⟩

/-- The first characters of an integer are those of an integer no farther from zero, or they stop
before its first digit. -/
theorem prefix_signed_cases {i : Int} {p : List Char} (hp : p <+: Decimal.signed i) :
    p = [] ∨ p = ['-'] ∨ ∃ j, min i 0 ≤ j ∧ j ≤ max i 0 ∧ p = Decimal.signed j := by
  by_cases hne : p = []
  · exact .inl hne
  · refine .inr ?_
    cases i with
    | ofNat n =>
      obtain ⟨m, hm, rfl⟩ := exists_eq_digits hp hne
      exact .inr ⟨m, by omega, by simp only [Int.ofNat_eq_natCast]; omega, rfl⟩
    | negSucc n =>
      obtain rfl | ⟨q, rfl, hq⟩ := List.prefix_cons_iff.1 hp
      · exact absurd rfl hne
      · by_cases hq' : q = []
        · exact .inl (by rw [hq'])
        · obtain ⟨m, hm, rfl⟩ := exists_eq_digits hq hq'
          -- digits that begin a number other than zero do not begin with a zero
          have hm0 : m ≠ 0 := by
            rintro rfl
            obtain ⟨r, hr⟩ := hq
            refine head?_digits_ne_zero (Nat.succ_ne_zero n) ?_
            rw [← hr]
            rfl
          obtain ⟨m, rfl⟩ := Nat.exists_eq_succ_of_ne_zero hm0
          exact .inr ⟨.negSucc m, by omega, by omega, rfl⟩

/-! ## Values of members -/

/-- A string of which the closing quote is missing. -/
theorem readScalar_quote_cut (type : ScalarType) {s : String} {p : List Char}
    (hp : p <+: '"' :: s.toList.flatMap escape) : readScalar type p = .error .ended := by
  obtain rfl | ⟨q, rfl, hq⟩ := List.prefix_cons_iff.1 hp
  · rfl
  · rw [readScalar, readToken, skipBlanks_cons rfl]
    simp only [if_true, readChars_cut hq]

/-- **A value of a member that breaks off.** -/
theorem readScalar_cut {v : Scalar} {p : List Char} (hp : p <+: v.written) :
    (readScalar v.type p).RunsOut := by
  have hwhole (v : Scalar) : (readScalar v.type v.written).RunsOut := by
    have h := readScalar_written v blank_nil.endsNumber
    rw [List.append_nil] at h
    exact .inr ⟨v, [], h, blank_nil⟩
  cases v with
  | text s =>
    -- only the closing quote makes a string a value
    have hquote : (Scalar.text s).written = ('"' :: s.toList.flatMap escape) ++ ['"'] := rfl
    rw [hquote] at hp
    obtain rfl | hp := List.prefix_concat_iff.1 hp
    · exact hwhole (.text s)
    · exact .inl (readScalar_quote_cut _ hp)
  | signed n =>
    have hp : p <+: Decimal.signed n.toInt := hp
    obtain rfl | rfl | ⟨j, hlo, hhi, rfl⟩ := prefix_signed_cases hp
    · exact .inl rfl
    · exact .inl rfl
    · have hword : (Int64.ofInt j).toInt = j := by
        have hmin := n.le_toInt
        have hmax := n.toInt_lt
        exact Int64.toInt_ofInt_of_le (by omega) (by omega)
      have h := hwhole (.signed (Int64.ofInt j))
      rwa [Scalar.written, hword] at h
  | unsigned n =>
    have hp : p <+: Decimal.signed (n.toNat : Int) := hp
    obtain rfl | rfl | ⟨j, hlo, hhi, rfl⟩ := prefix_signed_cases hp
    · exact .inl rfl
    · exact .inl rfl
    · have hword : ((UInt64.ofNat j.toNat).toNat : Int) = j := by
        have hmax := n.toNat_lt
        have hlt : j.toNat < UInt64.size := by
          rw [UInt64.size]
          omega
        rw [UInt64.toNat_ofNat_of_lt' hlt]
        omega
      have h := hwhole (.unsigned (UInt64.ofNat j.toNat))
      rwa [Scalar.written, hword] at h

/-! ## Members -/

/-- **A member that breaks off**, anywhere after the opening quote of its key. -/
theorem readMember_cut {schema : Schema} {seen : Members} {m : String × Scalar} {p : List Char}
    (htype : schema.lookup m.1 = some m.2.type) (hnew : seen.lookup m.1 = none)
    (hp : p <+: memberText m) : (readMember schema seen p).RunsOut := by
  obtain h | ⟨q, rfl, hq⟩ := prefix_append_cases hp
  · rw [readMember, readChars_cut h]
    exact .inl rfl
  obtain rfl | ⟨q, rfl, hcolon⟩ := List.prefix_cons_iff.1 hq
  · rw [List.append_nil, readMember, readChars_cut List.prefix_rfl]
    exact .inl rfl
  -- the key is complete, and what is left begins with the colon
  rw [readMember, readChars_flatMap_escape]
  simp only [String.ofList_toList, htype, hnew, Option.isSome_none]
  obtain rfl | ⟨q, rfl, hblank⟩ := List.prefix_cons_iff.1 hcolon
  · exact .inl rfl
  have hread : readColon (':' :: q) = .ok q := rfl
  have hscalar : (readScalar m.2.type q).RunsOut := by
    obtain rfl | ⟨q, rfl, hvalue⟩ := List.prefix_cons_iff.1 hblank
    · exact .inl rfl
    · rw [← readScalar_skipBlanks, skipBlanks_cons_of_isBlank rfl, readScalar_skipBlanks]
      exact readScalar_cut hvalue
  rw [hread]
  obtain h | ⟨v, r, h, hr⟩ := hscalar
  · exact .inl (by simp only [h]; rfl)
  · exact .inr ⟨seen ++ [(m.1, v)], r, by simp only [h]; rfl, hr⟩

theorem readMembersWithin_blank {schema : Schema} {seen : Members} {s : List Char} (n : Nat)
    (hs : Blank s) : readMembersWithin schema n seen s = .error .ended := by
  cases n with
  | zero => rfl
  | succ n => simp only [readMembersWithin, hs.skipBlanks]

/-- A member after which nothing comes, complete or not, is not enough. -/
theorem readMembersWithin_runsOut {schema : Schema} {seen : Members} {s t : List Char} (n : Nat)
    (hs : skipBlanks s = '"' :: t) (ht : (readMember schema seen t).RunsOut) :
    readMembersWithin schema n seen s = .error .ended := by
  cases n with
  | zero => rfl
  | succ n =>
    obtain h | ⟨ms, r, h, hr⟩ := ht
    · simp only [readMembersWithin, hs, h]
    · simp only [readMembersWithin, hs, h, hr.skipBlanks]

/-- A line that breaks off. -/
theorem readMembersWithin_line_cut {schema : Schema} {seen : Members} {m : String × Scalar}
    {p : List Char} (n : Nat) (htype : schema.lookup m.1 = some m.2.type)
    (hnew : seen.lookup m.1 = none) (hp : p <+: memberLine m) :
    readMembersWithin schema n seen p = .error .ended := by
  rw [memberLine_eq] at hp
  obtain hp | ⟨q, rfl, hq⟩ := prefix_append_cases hp
  · exact readMembersWithin_blank n ((blank_of_all rfl).of_isPrefix hp)
  obtain rfl | ⟨q, rfl, hmember⟩ := List.prefix_cons_iff.1 hq
  · exact readMembersWithin_blank n (blank_of_all rfl)
  · exact readMembersWithin_runsOut n rfl (readMember_cut htype hnew hmember)

/-- **Members that break off** before the closing brace. -/
theorem readMembersWithin_cut {schema : Schema} {seen ms : Members} {m : String × Scalar}
    {p close : List Char} {n : Nat} (hfits : Members.Fits schema (seen ++ m :: ms))
    (hclose : Blank close)
    (hp : p <+: memberLine m ++ ((ms.map memberLine).flatMap nextLine ++ close)) :
    readMembersWithin schema n seen p = .error .ended := by
  induction ms generalizing seen m n p with
  | nil =>
    obtain hp | ⟨q, rfl, hq⟩ := prefix_append_cases hp
    · exact readMembersWithin_line_cut n hfits.lookup_type hfits.lookup_eq_none hp
    · have hblank := hclose.of_isPrefix hq
      have hm := readMember_memberText hfits.lookup_type hfits.lookup_eq_none
        hblank.endsNumber
      exact readMembersWithin_runsOut n (skipBlanks_memberLine m q) (.inr ⟨_, _, hm, hblank⟩)
  | cons next ms ih =>
    obtain hp | ⟨q, rfl, hq⟩ := prefix_append_cases hp
    · exact readMembersWithin_line_cut n hfits.lookup_type hfits.lookup_eq_none hp
    have hrest : ((next :: ms).map memberLine).flatMap nextLine ++ close =
        ',' :: '\n' :: (memberLine next ++ ((ms.map memberLine).flatMap nextLine ++ close)) := by
      simp [nextLine]
    rw [hrest] at hq
    obtain rfl | ⟨q, rfl, hnext⟩ := List.prefix_cons_iff.1 hq
    · rw [List.append_nil]
      exact readMembersWithin_line_cut n hfits.lookup_type hfits.lookup_eq_none List.prefix_rfl
    have hends : EndsNumber (',' :: q) :=
      endsNumber_cons (by decide) (by decide) (by decide) (by decide) q
    have hm := readMember_memberText hfits.lookup_type hfits.lookup_eq_none hends
    cases n with
    | zero => rfl
    | succ n =>
      rw [readMembersWithin_comma n (skipBlanks_memberLine m _) hm (skipBlanks_cons rfl q)]
      obtain rfl | ⟨q, rfl, hlines⟩ := List.prefix_cons_iff.1 hnext
      · exact readMembersWithin_blank n blank_nil
      · rw [readMembersWithin_newline]
        refine ih ?_ hlines
        rw [List.append_assoc]
        exact hfits

/-- Characters on which members run out do not begin with a closing brace. -/
theorem readObject_ended {schema : Schema} {s : List Char}
    (h : ∀ n, readMembersWithin schema n [] s = .error .ended) :
    readObject schema s = .error .ended := by
  unfold readObject
  split
  · rename_i rest hs
    have hone := h 1
    simp only [readMembersWithin, hs] at hone
    cases hone
  · rw [readMembersWithin_skipBlanks, h]

/-- An object with members on lines of their own that breaks off before its closing brace, from the
character after its opening brace on. -/
theorem readObject_cut {schema : Schema} {ms : Members} {p : List Char} (hne : ms ≠ [])
    (hfits : Members.Fits schema ms)
    (hp : p <+: '\n' :: (commaLines (ms.map memberLine) ++ "\n  ".toList)) :
    readObject schema p = .error .ended := by
  obtain ⟨m, ms, rfl⟩ := List.exists_cons_of_ne_nil hne
  refine readObject_ended fun n => ?_
  obtain rfl | ⟨q, rfl, hq⟩ := List.prefix_cons_iff.1 hp
  · exact readMembersWithin_blank n blank_nil
  · rw [List.map_cons, commaLines_cons, List.append_assoc] at hq
    rw [readMembersWithin_newline]
    exact readMembersWithin_cut hfits (blank_of_all rfl) hq

/-! ## Nodes -/

theorem readNode_blank {s : List Char} (hs : Blank s) : readNode s = .error .ended := by
  rw [← readNode_skipBlanks, hs.skipBlanks]
  rfl

/-- **A node that breaks off.** -/
theorem readNode_cut {node : Node} {p : List Char} (hp : p <+: nodeObject node)
    (hne : p ≠ nodeObject node) : readNode p = .error .ended := by
  have hobject : nodeObject node = "  ".toList ++ ('\x7b' ::
      '\n' :: (commaLines ((nodeRecord node).map memberLine) ++ "\n  ".toList)) ++ ['\x7d'] := by
    have h := nodeObject_append node []
    rw [List.append_nil, List.append_nil] at h
    rw [h, List.append_assoc, List.cons_append, List.cons_append, List.append_assoc]
    rfl
  rw [hobject] at hp hne
  have hopen := (List.prefix_concat_iff.1 hp).resolve_left hne
  obtain hblank | ⟨q, rfl, hbrace⟩ := prefix_append_cases hopen
  · exact readNode_blank ((blank_of_all rfl).of_isPrefix hblank)
  obtain rfl | ⟨q, rfl, hmembers⟩ := List.prefix_cons_iff.1 hbrace
  · exact readNode_blank (blank_of_all rfl)
  · have htoken : readToken ("  ".toList ++ '\x7b' :: q) = .ok (.openObject, q) := rfl
    have hcut := readObject_cut (List.cons_ne_nil _ _) (fits_nodeRecord node) hmembers
    rw [readNode, readRecord, htoken]
    simp only [hcut]

theorem readNodesWithin_blank {s : List Char} (n : Nat) (hs : Blank s) :
    readNodesWithin n s = .error .ended := by
  cases n with
  | zero => rfl
  | succ n => simp only [readNodesWithin, readNode_blank hs]

/-- A node after which nothing comes is not enough. -/
theorem readNodesWithin_alone {node : Node} {s t : List Char} (n : Nat)
    (hs : readNode s = .ok (node, t)) (ht : Blank t) :
    readNodesWithin n s = .error .ended := by
  cases n with
  | zero => rfl
  | succ n => simp only [readNodesWithin, hs, ht.skipBlanks]

theorem readNodesWithin_line_cut {node : Node} {p : List Char} (n : Nat)
    (hp : p <+: nodeObject node) : readNodesWithin n p = .error .ended := by
  by_cases hne : p = nodeObject node
  · have hnode := readNode_nodeObject node []
    rw [List.append_nil] at hnode
    rw [hne]
    exact readNodesWithin_alone n hnode blank_nil
  · cases n with
    | zero => rfl
    | succ n => simp only [readNodesWithin, readNode_cut hp hne]

/-- A comma after which the nodes run out. -/
theorem readNodesWithin_comma_ended {node : Node} {s t u : List Char} (n : Nat)
    (hs : readNode s = .ok (node, t)) (ht : skipBlanks t = ',' :: u)
    (hu : ∀ n, readNodesWithin n u = .error .ended) : readNodesWithin n s = .error .ended := by
  cases n with
  | zero => rfl
  | succ n =>
    simp only [readNodesWithin, hs, ht]
    split
    · rfl
    · rename_i hclose
      have hone := hu 1
      rw [← readNodesWithin_skipBlanks, hclose] at hone
      cases hone
    · rw [readNodesWithin_skipBlanks, hu]

/-- **Nodes that break off** before the closing bracket. -/
theorem readNodesWithin_cut {node : Node} {nodes : List Node} {p close : List Char} (n : Nat)
    (hclose : Blank close)
    (hp : p <+: nodeObject node ++ ((nodes.map nodeObject).flatMap nextLine ++ close)) :
    readNodesWithin n p = .error .ended := by
  induction nodes generalizing node n p with
  | nil =>
    obtain hp | ⟨q, rfl, hq⟩ := prefix_append_cases hp
    · exact readNodesWithin_line_cut n hp
    · exact readNodesWithin_alone n (readNode_nodeObject node q)
        (hclose.of_isPrefix hq)
  | cons next nodes ih =>
    obtain hp | ⟨q, rfl, hq⟩ := prefix_append_cases hp
    · exact readNodesWithin_line_cut n hp
    have hrest : ((next :: nodes).map nodeObject).flatMap nextLine ++ close =
        ',' :: '\n' :: (nodeObject next ++ ((nodes.map nodeObject).flatMap nextLine ++ close)) := by
      simp [nextLine]
    rw [hrest] at hq
    obtain rfl | ⟨q, rfl, hnext⟩ := List.prefix_cons_iff.1 hq
    · rw [List.append_nil]
      exact readNodesWithin_line_cut n List.prefix_rfl
    refine readNodesWithin_comma_ended n (readNode_nodeObject node _) (skipBlanks_cons rfl q)
      fun n => ?_
    obtain rfl | ⟨q, rfl, hlines⟩ := List.prefix_cons_iff.1 hnext
    · exact readNodesWithin_blank n blank_nil
    · rw [readNodesWithin_newline]
      exact ih n hlines

/-! ## Exports -/

/-- An array of which the nodes run out. -/
theorem readNodes_ended {s : List Char} (h : ∀ n, readNodesWithin n s = .error .ended) :
    readNodes ('[' :: s) = .error .ended := by
  have htoken : readToken ('[' :: s) = .ok (.openArray, s) := rfl
  rw [readNodes, htoken]
  simp only
  split
  · rfl
  · rename_i hclose
    have hone := h 1
    rw [← readNodesWithin_skipBlanks, hclose] at hone
    cases hone
  · rw [readNodesWithin_skipBlanks, h]

/-- **An array of nodes that breaks off.** -/
theorem readNodes_cut {ns : List Node} {p : List Char} (hp : p <+: nodeArray ns)
    (hne : p ≠ nodeArray ns) : readNodes p = .error .ended := by
  cases ns with
  | nil =>
    have hopen : p <+: ['['] := (List.prefix_concat_iff.1 hp).resolve_left hne
    obtain rfl | ⟨q, rfl, hq⟩ := List.prefix_cons_iff.1 hopen
    · rfl
    · rw [List.prefix_nil.1 hq]
      rfl
  | cons node nodes =>
    have harray : nodeArray (node :: nodes) = '[' :: '\n' ::
        (nodeObject node ++ ((nodes.map nodeObject).flatMap nextLine ++ ['\n'])) ++ [']'] := by
      simp [nodeArray, commaLines_cons]
    rw [harray] at hp hne
    have hopen := (List.prefix_concat_iff.1 hp).resolve_left hne
    obtain rfl | ⟨q, rfl, hbreak⟩ := List.prefix_cons_iff.1 hopen
    · rfl
    refine readNodes_ended fun n => ?_
    obtain rfl | ⟨q, rfl, hlines⟩ := List.prefix_cons_iff.1 hbreak
    · exact readNodesWithin_blank n blank_nil
    · rw [readNodesWithin_newline]
      exact readNodesWithin_cut n (blank_of_all rfl) hlines

/-- **An export that breaks off is refused**, wherever it breaks off, and always because its
characters end. -/
theorem decodeNodes_truncated {ns : List Node} {text : String}
    (hcut : text.toList <+: (renderContext ns .json).toList)
    (hne : text ≠ renderContext ns .json) : decodeNodes text = .error .ended := by
  rw [renderContext, String.toList_ofList] at hcut
  have hshort : text.toList ≠ nodeArray ns := by
    intro h
    exact hne (String.toList_inj.1 (by rw [h, renderContext, String.toList_ofList]))
  rw [decodeNodes, decode, readNodes_cut hcut hshort]

/-- An export that breaks off between the digits of a row: what is left of them is a row too, and the
code of the control character before them is complete. -/
theorem decodeNodes_truncated_digits :
    let text := "[\n  \x7b\n    \"id\": \"\\u0001\",\n    \"filepath\": \"a.js\",\n" ++
      "    \"type\": \"@\",\n    \"start_row\": -1"
    let ns := [⟨"\x01", "a.js", "@", -12, 0, 0, 0⟩]
    text.toList <+: (renderContext ns .json).toList ∧ text ≠ renderContext ns .json ∧
      decodeNodes text = .error .ended := by
  intro text ns
  have hcut : text.toList <+: (renderContext ns .json).toList := by
    rw [renderContext, String.toList_ofList]
    decide +kernel
  have hne : text ≠ renderContext ns .json := by
    intro h
    have hlength := congrArg String.length h
    rw [renderContext, String.length_ofList] at hlength
    exact absurd hlength (by decide +kernel)
  exact ⟨hcut, hne, decodeNodes_truncated hcut hne⟩

end Json
end SyntaxGraph
