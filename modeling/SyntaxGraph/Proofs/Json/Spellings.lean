import Mathlib.Data.List.Nodup
import SyntaxGraph.Proofs.Json.RoundTrip

/-!
# The spellings of a record

A record has many JSON texts.  As an object its members may stand in any order, between members of
other keys that hold whatever they like, and every key, string and blank may be written as JSON
allows; as an array it is the values alone, in the order of the schema.  This file proves that a
decoder takes all of them for the same record, and that an object in which a key of the schema is
missing or stands twice is a mismatch and not malformed, wherever in the object that shows.

The reader goes through the members of an object once and keeps what it has seen.  One member either
adds to that or is refused (`Members.take?`), so what it makes of an object is a fold over its
members; the rest is about this fold and not about characters.

## What is here

* `ObjectText`, `ArrayText` — texts of objects and arrays, with what they hold.
* `decode_objectText`, `decode_arrayText` — what a decoder makes of them.
* `foldlM_take?_eq_some`, `keys_of_foldlM_take?` — the fold over members, what it takes and leaves.
* `Describes.takesSpellings` — records in general.
* `decode_takes_spellings` — nodes, edges and spans.
-/

set_option autoImplicit false
namespace SyntaxGraph
namespace Json

/-! ## Texts of objects and arrays -/

/-- What can be said of the value of a member: the token it begins with, if a reader of tokens gets
past it, or only that it is a value. -/
inductive ContentText : Option Token → List Char → Prop
  | token {token : Token} {t : List Char} (h : TokenText token t) : ContentText (some token) t
  | any {t : List Char} (h : Derives .value t) : ContentText none t

/-- A member of an object under its key, with blanks around its parts. -/
inductive MemberText : String × Option Token → List Char → Prop
  | mk {key : String} {content : Option Token} {a k b c t d : List Char} (ha : Blank a)
      (hk : Spells key.toList k) (hb : Blank b) (hc : Blank c) (ht : ContentText content t)
      (hd : Blank d) : MemberText (key, content) (keyText a k b ++ (c ++ (t ++ d)))

/-- Members of an object with commas between them, in the order of the text. -/
inductive MembersText : List (String × Option Token) → List Char → Prop
  | last {m : String × Option Token} {t : List Char} (ht : MemberText m t) : MembersText [m] t
  | next {m : String × Option Token} {ms : List (String × Option Token)} {t u : List Char}
      (ht : MemberText m t) (hu : MembersText ms u) : MembersText (m :: ms) (t ++ ',' :: u)

/-- The texts of an object with the given members. -/
inductive ObjectText : List (String × Option Token) → List Char → Prop
  | empty {a b c : List Char} (ha : Blank a) (hb : Blank b) (hc : Blank c) :
      ObjectText [] (a ++ '\x7b' :: (b ++ '\x7d' :: c))
  | members {ms : List (String × Option Token)} {a t c : List Char} (ha : Blank a)
      (ht : MembersText ms t) (hc : Blank c) : ObjectText ms (a ++ '\x7b' :: (t ++ '\x7d' :: c))

/-- Values of an array with commas between them. -/
inductive ItemsText : List Token → List Char → Prop
  | last {token : Token} {a t b : List Char} (ha : Blank a) (ht : TokenText token t)
      (hb : Blank b) : ItemsText [token] (a ++ (t ++ b))
  | next {token : Token} {tokens : List Token} {a t b u : List Char} (ha : Blank a)
      (ht : TokenText token t) (hb : Blank b) (hu : ItemsText tokens u) :
      ItemsText (token :: tokens) (a ++ (t ++ (b ++ ',' :: u)))

/-- The texts of an array with the given values, of which there is one at least. -/
inductive ArrayText : List Token → List Char → Prop
  | mk {tokens : List Token} {a t c : List Char} (ha : Blank a) (ht : ItemsText tokens t)
      (hc : Blank c) : ArrayText tokens (a ++ '[' :: (t ++ ']' :: c))

/-! ## Reading members -/

/-- Whether a key is one of a schema. -/
def Schema.knows (schema : Schema) (key : String) : Bool :=
  (schema.lookup key).isSome

/-- What a member makes of those before it, if it is not refused. -/
def Members.take? (schema : Schema) (seen : Members) (m : String × Option Token) : Option Members :=
  match schema.lookup m.1 with
  | none => some seen
  | some type =>
    if (seen.lookup m.1).isSome then none
    else (m.2.bind (Scalar.ofToken? type)).map fun v => seen ++ [(m.1, v)]

/-- A member can be read if its key is not of the schema or its value begins with a token. -/
def Schema.CanRead (schema : Schema) (m : String × Option Token) : Prop :=
  schema.knows m.1 → m.2.isSome

theorem ContentText.derives {content : Option Token} {t : List Char} (h : ContentText content t) :
    Derives .value t := by
  cases h with
  | token h => exact h.derives
  | any h => exact h

section Member

variable {schema : Schema} {seen : Members} {m : String × Option Token}
  {ms : List (String × Option Token)} {t : List Char}

/-- **A member is read**, however it is written. -/
theorem MemberText.readMember_eq (h : MemberText m t) (hm : schema.CanRead m) (seen : Members)
    {c : Char} (hc : Closes c) (r : List Char) :
    ∃ u s, skipBlanks (t ++ c :: r) = '"' :: u ∧ skipBlanks s = c :: r ∧
      readMember schema seen u = Read.orMismatch (Members.take? schema seen m) s := by
  obtain @⟨key, content, a, k, b, e, t, d, ha, hk, hb, he, ht, hd⟩ := h
  have htext : keyText a k b ++ (e ++ (t ++ d)) ++ c :: r =
      keyText a k b ++ (e ++ (t ++ d) ++ c :: r) := List.append_assoc _ _ _
  rw [htext, skipBlanks_keyText ha]
  cases htype : schema.lookup key with
  | none =>
    obtain ⟨s, hskip, hs⟩ := skipValue_element (.padded he ht.derives hd) hc r
    refine ⟨_, s, rfl, hs, ?_⟩
    simp only [readMember, readChars_spells hk, String.ofList_toList, htype, readColon_append hb,
      hskip, Members.take?, Read.orMismatch]
  | some type =>
    refine ⟨_, d ++ c :: r, rfl, hc.skipBlanks_append hd r, ?_⟩
    simp only [readMember, readChars_spells hk, String.ofList_toList, htype, Members.take?]
    by_cases hseen : (seen.lookup key).isSome
    · rw [if_pos hseen, if_pos hseen]
      rfl
    · rw [if_neg hseen, if_neg hseen]
      cases ht with
      | any =>
        have hknows : schema.knows key := by rw [Schema.knows, htype]; rfl
        exact absurd (hm hknows) Bool.false_ne_true
      | token ht =>
        have hscalar := readScalar_tokenText ht (endsNumber_append hd (hc.endsNumber r)) type
        simp only [readColon_append hb]
        rw [List.append_assoc, List.append_assoc, ← readScalar_skipBlanks, skipBlanks_append he,
          readScalar_skipBlanks, hscalar]
        cases hv : Scalar.ofToken? type _ <;> simp [hv, Read.orMismatch]

/-- **Members are read** up to the closing brace: they are folded from left to right, and the first
that is refused ends it. -/
theorem MembersText.readMembersWithin_eq (h : MembersText ms t) (hms : ∀ m ∈ ms, schema.CanRead m)
    (n : Nat) (hn : ms.length ≤ n) (r : List Char) :
    readMembersWithin schema n seen (t ++ '\x7d' :: r) =
      Read.orMismatch (ms.foldlM (Members.take? schema) seen) r := by
  induction h generalizing seen n with
  | @last m t ht =>
    obtain ⟨n, rfl⟩ := Nat.exists_eq_add_one.2 hn
    obtain ⟨u, s, hu, hs, hread⟩ := ht.readMember_eq (hms m List.mem_cons_self) seen
      (.inr (.inr rfl)) r
    rw [readMembersWithin, hu]
    simp only [hread, List.foldlM_cons, List.foldlM_nil]
    cases Members.take? schema seen m with
    | none => rfl
    | some seen' =>
      simp only [Read.orMismatch, hs]
      rfl
  | @next m ms t u ht _ ih =>
    obtain ⟨n, rfl⟩ := Nat.exists_eq_add_one.2 (Nat.zero_lt_of_lt hn)
    rw [List.append_assoc, List.cons_append]
    obtain ⟨v, s, hv, hs, hread⟩ := ht.readMember_eq (hms m List.mem_cons_self) seen
      (.inl rfl) (u ++ '\x7d' :: r)
    rw [readMembersWithin, hv]
    simp only [hread, List.foldlM_cons]
    cases Members.take? schema seen m with
    | none => rfl
    | some seen' =>
      simp only [Read.orMismatch, hs]
      exact ih (fun m hm => hms m (List.mem_cons_of_mem _ hm)) n (Nat.le_of_succ_le_succ hn)

theorem MemberText.skipBlanks_append (h : MemberText m t) (s : List Char) :
    ∃ u, skipBlanks (t ++ s) = '"' :: u ∧ s.length < u.length := by
  obtain @⟨key, content, a, k, b, e, t, d, ha, hk, hb, he, ht, hd⟩ := h
  rw [List.append_assoc, skipBlanks_keyText ha]
  refine ⟨_, rfl, ?_⟩
  simp only [List.length_append, List.length_cons]
  omega

theorem MembersText.length_le (h : MembersText ms t) : ms.length ≤ t.length := by
  induction h with
  | last ht =>
    obtain @⟨key, content, a, k, b, e, t, d⟩ := ht
    have hkey := length_keyText a k b
    simp only [List.length_append, List.length_singleton]
    omega
  | next _ _ ih =>
    simp only [List.length_append, List.length_cons]
    omega

/-- There are no more members than characters after the first quote. -/
theorem MembersText.skipBlanks_append (h : MembersText ms t) (s : List Char) :
    ∃ u, skipBlanks (t ++ s) = '"' :: u ∧ ms.length ≤ u.length + 1 := by
  cases h with
  | last ht =>
    obtain ⟨u, hu, -⟩ := ht.skipBlanks_append s
    exact ⟨u, hu, Nat.le_add_left 1 u.length⟩
  | @next m ms t v ht hv =>
    obtain ⟨u, hu, hlength⟩ := ht.skipBlanks_append (',' :: v ++ s)
    have hle := hv.length_le
    simp only [List.length_append, List.length_cons] at hlength
    rw [List.append_assoc]
    refine ⟨u, hu, ?_⟩
    rw [List.length_cons]
    omega

theorem MembersText.readObject_eq (h : MembersText ms t) (hms : ∀ m ∈ ms, schema.CanRead m)
    (r : List Char) :
    readObject schema (t ++ '\x7d' :: r) =
      Read.orMismatch (ms.foldlM (Members.take? schema) []) r := by
  obtain ⟨u, hu, hlength⟩ := h.skipBlanks_append ('\x7d' :: r)
  rw [readObject_eq_readMembersWithin hu]
  exact h.readMembersWithin_eq hms _ (Nat.le_succ_of_le hlength) r

end Member

/-! ## Reading values of an array -/

/-- The first value of an array. -/
theorem nextWanted_first {c : Char} {s t : List Char} (hc : OpensValue c)
    (hs : skipBlanks s = c :: t) : nextWanted true s = .ok (c :: t) := by
  unfold nextWanted
  rw [hs]
  split
  · rename_i hnil
    cases hnil
  · rename_i hclose
    exact absurd (List.cons.inj hclose).1 hc.2.2
  · rename_i hcomma
    exact absurd (List.cons.inj hcomma).1 hc.2.1
  · rfl

/-- A value after the comma. -/
theorem nextWanted_comma {c : Char} {s t u : List Char} (hc : OpensValue c)
    (hs : skipBlanks s = ',' :: t) (ht : skipBlanks t = c :: u) :
    nextWanted false s = .ok (c :: u) := by
  simp only [nextWanted, hs, ht, Bool.false_eq_true, if_false]
  split
  · rename_i hnil
    cases hnil
  · rename_i hclose
    exact absurd (List.cons.inj hclose).1 hc.2.2
  · rfl

theorem ItemsText.skipBlanks_append {tokens : List Token} {t : List Char} (h : ItemsText tokens t)
    (r : List Char) : ∃ c s, skipBlanks (t ++ r) = c :: s ∧ OpensValue c := by
  cases h with
  | last ha ht =>
    obtain ⟨c, s, rfl, hc⟩ := ht.derives.exists_cons
    rw [List.append_assoc, Json.skipBlanks_append ha]
    exact ⟨c, _, skipBlanks_cons hc.1 _, hc⟩
  | next ha ht =>
    obtain ⟨c, s, rfl, hc⟩ := ht.derives.exists_cons
    rw [List.append_assoc, Json.skipBlanks_append ha]
    exact ⟨c, _, skipBlanks_cons hc.1 _, hc⟩

/-- A value is read, up to the blanks after it. -/
theorem readScalar_item {v : Scalar} {a t r : List Char} (ha : Blank a)
    (ht : TokenText v.token t) (hr : EndsNumber r) :
    readScalar v.type (skipBlanks (a ++ (t ++ r))) = .ok (v, r) := by
  rw [Json.skipBlanks_append ha, readScalar_skipBlanks, readScalar_tokenText ht hr,
    v.ofToken?_token, Read.orMismatch]

/-- **Values are read** up to the closing bracket. -/
theorem ItemsText.readValues_eq {tokens : List Token} {t : List Char} (h : ItemsText tokens t)
    {ms : Members} (hms : ms.map (fun m => m.2.token) = tokens) {first : Bool} {s r : List Char}
    (hs : nextWanted first s = .ok (skipBlanks (t ++ ']' :: r))) :
    readValues first (ms.map fun m => (m.1, m.2.type)) s = .ok (ms, r) := by
  induction h generalizing ms first s with
  | @last token a t b ha ht hb =>
    obtain ⟨m, ms, rfl, rfl, hnil⟩ := List.map_eq_cons_iff.1 hms
    rw [List.map_eq_nil_iff] at hnil
    subst hnil
    have hclose : Closes ']' := .inr (.inl rfl)
    have hitem := readScalar_item ha ht (endsNumber_append hb (hclose.endsNumber r))
    rw [List.append_assoc, List.append_assoc] at hs
    have hend : readClose (b ++ ']' :: r) = .ok r := by
      rw [readClose, hclose.skipBlanks_append hb]
      rfl
    simp only [List.map_cons, List.map_nil, readValues, hs, hitem, hend]
  | @next token tokens a t b u ha ht hb hu ih =>
    obtain ⟨m, ms, rfl, rfl, hrest⟩ := List.map_eq_cons_iff.1 hms
    have hcomma : Closes ',' := .inl rfl
    have hitem := readScalar_item ha ht
      (endsNumber_append hb (hcomma.endsNumber (u ++ ']' :: r)))
    rw [List.append_assoc, List.append_assoc, List.append_assoc, List.cons_append] at hs
    obtain ⟨c, v, hv, hc⟩ := hu.skipBlanks_append (']' :: r)
    have hnext := nextWanted_comma hc (hcomma.skipBlanks_append hb _) hv
    rw [← hv] at hnext
    simp only [List.map_cons, readValues, hs, hitem, ih hrest hnext]

/-! ## Whole texts -/

/-- A value, or a mismatch if there is none. -/
def orMismatch {α : Type} : Option α → Except Cause α
  | some a => .ok a
  | none => .error .mismatch

section Decode

variable {α : Type} {schema : Schema} {build : Members → Option α} {s t c : List Char}
  {ms : Option Members}

theorem decode_eq_orMismatch {read : List Char → Read α} {text : String} {a : Option α}
    (hc : Blank c) (h : read text.toList = Read.orMismatch a c) :
    decode read text = orMismatch a := by
  rw [decode, h]
  cases a with
  | none => rfl
  | some a => simp only [Read.orMismatch, hc.skipBlanks, if_true, orMismatch]

theorem readRecord_openObject (htoken : readToken s = .ok (.openObject, t))
    (hread : readObject schema t = Read.orMismatch ms c) :
    readRecord schema build s = Read.orMismatch (ms.bind build) c := by
  rw [readRecord, htoken]
  simp only [hread]
  cases ms <;> rfl

theorem readRecord_openArray (htoken : readToken s = .ok (.openArray, t))
    (hread : readValues true schema t = Read.orMismatch ms c) :
    readRecord schema build s = Read.orMismatch (ms.bind build) c := by
  rw [readRecord, htoken]
  simp only [hread]
  cases ms <;> rfl

/-- **An object is decoded** as its members say. -/
theorem decode_objectText {text : String} {ms : List (String × Option Token)}
    (h : ObjectText ms text.toList) (hms : ∀ m ∈ ms, schema.CanRead m) :
    decode (readRecord schema build) text =
      orMismatch ((ms.foldlM (Members.take? schema) []).bind build) := by
  have htoken {a s : List Char} (ha : Blank a) :
      readToken (a ++ '\x7b' :: s) = .ok (.openObject, s) := by
    rw [← readToken_skipBlanks, skipBlanks_append ha]
    rfl
  generalize htext : text.toList = s at h
  cases h with
  | @empty a b c ha hb hc =>
    have hread : readObject schema (b ++ '\x7d' :: c) = Read.orMismatch (some []) c := by
      rw [readObject, skipBlanks_append hb]
      rfl
    refine decode_eq_orMismatch hc ?_
    rw [htext]
    exact readRecord_openObject (htoken ha) hread
  | members ha ht hc =>
    refine decode_eq_orMismatch hc ?_
    rw [htext]
    exact readRecord_openObject (htoken ha) (ht.readObject_eq hms _)

/-- **An array is decoded** as its values say. -/
theorem decode_arrayText {text : String} {ms : Members}
    (h : ArrayText (ms.map fun m => m.2.token) text.toList) :
    decode (readRecord (ms.map fun m => (m.1, m.2.type)) build) text = orMismatch (build ms) := by
  generalize htokens : (ms.map fun m => m.2.token) = tokens at h
  generalize htext : text.toList = s at h
  obtain @⟨a, t, c, ha, ht, hc⟩ := h
  have htoken : readToken (a ++ '[' :: (t ++ ']' :: c)) = .ok (.openArray, t ++ ']' :: c) := by
    rw [← readToken_skipBlanks, skipBlanks_append ha]
    rfl
  obtain ⟨d, u, hu, hd⟩ := ht.skipBlanks_append (']' :: c)
  have hfirst := nextWanted_first hd hu
  rw [← hu] at hfirst
  have hread : readValues true (ms.map fun m => (m.1, m.2.type)) (t ++ ']' :: c) =
      Read.orMismatch (some ms) c := ht.readValues_eq htokens hfirst
  refine decode_eq_orMismatch hc ?_
  rw [htext]
  exact readRecord_openArray htoken hread

end Decode

/-! ## The fold over members -/

section Fold

variable {schema : Schema} {seen seen' : Members} {ms : List (String × Option Token)}

/-- The members under keys of a schema. -/
def Schema.known (schema : Schema) (ms : List (String × Option Token)) :
    List (String × Option Token) :=
  ms.filter fun m => schema.knows m.1

/-- A member that holds a scalar, as it stands in a text. -/
def spelled (m : String × Scalar) : String × Option Token :=
  (m.1, some m.2.token)

/-- The scalar a member holds, under its key. -/
def Schema.scalar? (schema : Schema) (m : String × Option Token) : Option (String × Scalar) :=
  (schema.lookup m.1).bind fun type => (m.2.bind (Scalar.ofToken? type)).map fun v => (m.1, v)

theorem take?_of_not_knows {m : String × Option Token} (h : ¬schema.knows m.1) :
    Members.take? schema seen m = some seen := by
  rw [Schema.knows, Option.not_isSome_iff_eq_none] at h
  simp only [Members.take?, h]

theorem take?_of_knows {m : String × Option Token} (h : schema.knows m.1) :
    Members.take? schema seen m =
      if (seen.lookup m.1).isSome then none else (schema.scalar? m).map fun x => seen ++ [x] := by
  obtain ⟨type, htype⟩ := Option.isSome_iff_exists.1 h
  simp only [Members.take?, Schema.scalar?, htype, Option.bind_some, Option.map_map]
  rfl

theorem scalar?_of_not_knows {m : String × Option Token} (h : ¬schema.knows m.1) :
    schema.scalar? m = none := by
  rw [Schema.knows, Option.not_isSome_iff_eq_none] at h
  rw [Schema.scalar?, h]
  rfl

theorem fst_of_scalar? {m : String × Option Token} {x : String × Scalar}
    (h : schema.scalar? m = some x) : x.1 = m.1 := by
  obtain ⟨type, -, h⟩ := Option.bind_eq_some_iff.1 h
  obtain ⟨v, -, rfl⟩ := Option.map_eq_some_iff.1 h
  rfl

theorem isSome_lookup_iff {β : Type} {l : List (String × β)} {key : String} :
    (l.lookup key).isSome ↔ key ∈ l.map Prod.fst := by
  rw [← not_iff_not, Option.not_isSome_iff_eq_none, List.lookup_eq_none_iff]
  simp only [bne_iff_ne, List.mem_map, not_exists, not_and]
  exact ⟨fun h x hx hkey => h x hx hkey.symm, fun h x hx hkey => h x hx hkey.symm⟩

theorem known_cons_of_knows {m : String × Option Token} (h : schema.knows m.1) :
    schema.known (m :: ms) = m :: schema.known ms :=
  List.filter_cons_of_pos h

theorem known_cons_of_not_knows {m : String × Option Token} (h : ¬schema.knows m.1) :
    schema.known (m :: ms) = schema.known ms :=
  List.filter_cons_of_neg h

/-- Members of a schema that hold scalars, no two under the same key, are all taken. -/
theorem foldlM_take?_eq_some (hscalar : ∀ m ∈ schema.known ms, (schema.scalar? m).isSome)
    (hkeys : (seen.map Prod.fst ++ (schema.known ms).map Prod.fst).Nodup) :
    ms.foldlM (Members.take? schema) seen = some (seen ++ ms.filterMap schema.scalar?) := by
  induction ms generalizing seen with
  | nil => rw [List.filterMap_nil, List.append_nil]; rfl
  | cons m ms ih =>
    rw [List.foldlM_cons]
    by_cases hm : schema.knows m.1
    · rw [known_cons_of_knows hm] at hscalar hkeys
      obtain ⟨x, hx⟩ := Option.isSome_iff_exists.1 (hscalar m List.mem_cons_self)
      have hnew : ¬(seen.lookup m.1).isSome := by
        rw [isSome_lookup_iff]
        intro hmem
        exact (List.nodup_append.1 hkeys).2.2 m.1 hmem m.1 List.mem_cons_self rfl
      rw [take?_of_knows hm, if_neg hnew, hx, List.filterMap_cons_some hx]
      refine (ih (fun y hy => hscalar y (List.mem_cons_of_mem _ hy)) ?_).trans ?_
      · rw [List.map_append, List.map_singleton, fst_of_scalar? hx, List.append_assoc]
        exact hkeys
      · rw [List.append_assoc]
        rfl
    · rw [known_cons_of_not_knows hm] at hscalar hkeys
      rw [take?_of_not_knows hm, List.filterMap_cons_none (scalar?_of_not_knows hm)]
      exact ih hscalar hkeys

/-- What is left of members that are all taken: those under keys of the schema, none of them twice. -/
theorem keys_of_foldlM_take? (h : ms.foldlM (Members.take? schema) seen = some seen')
    (hseen : (seen.map Prod.fst).Nodup) :
    seen'.map Prod.fst = seen.map Prod.fst ++ (schema.known ms).map Prod.fst ∧
      (seen'.map Prod.fst).Nodup := by
  induction ms generalizing seen with
  | nil =>
    cases h
    exact ⟨(List.append_nil _).symm, hseen⟩
  | cons m ms ih =>
    rw [List.foldlM_cons] at h
    by_cases hm : schema.knows m.1
    · rw [take?_of_knows hm] at h
      split at h
      · cases h
      · rename_i hnew
        obtain ⟨_, htaken, h⟩ := Option.bind_eq_some_iff.1 h
        obtain ⟨x, hx, rfl⟩ := Option.map_eq_some_iff.1 htaken
        rw [isSome_lookup_iff] at hnew
        have hkeys : (seen ++ [x]).map Prod.fst = seen.map Prod.fst ++ [m.1] := by
          rw [List.map_append, List.map_singleton, fst_of_scalar? hx]
        have hmore : ((seen ++ [x]).map Prod.fst).Nodup := by
          rw [hkeys, ← List.concat_eq_append]
          exact List.Nodup.concat hnew hseen
        obtain ⟨heq, hnodup⟩ := ih h hmore
        rw [hkeys, List.append_assoc] at heq
        rw [known_cons_of_knows hm]
        exact ⟨heq, hnodup⟩
    · rw [take?_of_not_knows hm] at h
      rw [known_cons_of_not_knows hm]
      exact ih h hseen

end Fold

/-! ## Records -/

/-- What a decoder of records has to know of them: the members each comes to, and that a record is
built from the values under its keys and not without one of them. -/
structure Describes {α : Type} (schema : Schema) (build : Members → Option α)
    (record : α → Members) : Prop where
  schema_eq (a : α) : (record a).map (fun m => (m.1, m.2.type)) = schema
  nodup_keys : (schema.map Prod.fst).Nodup
  build_of_lookup {a : α} {ms : Members} (h : ∀ m ∈ record a, ms.lookup m.1 = some m.2) :
    build ms = some a
  build_eq_none {ms : Members} {key : String} (hkey : key ∈ schema.map Prod.fst)
    (h : ms.lookup key = none) : build ms = none

/-- **What a decoder makes of the spellings of a record.** -/
structure TakesSpellings {α : Type} (decode : String → Except Cause α) (schema : Schema)
    (record : α → Members) : Prop where
  /-- An object with the members of a record, in any order and between members of any other keys,
  is that record. -/
  object {a : α} {ms : List (String × Option Token)} {text : String}
    (htext : ObjectText ms text.toList) (hms : (schema.known ms).Perm ((record a).map spelled)) :
    decode text = .ok a
  /-- An array of the values of a record, in the order of the schema, is that record. -/
  array {a : α} {text : String}
    (htext : ArrayText ((record a).map fun m => m.2.token) text.toList) : decode text = .ok a
  /-- An object in which some key of the schema does not stand exactly once is a mismatch. -/
  refused {ms : List (String × Option Token)} {text : String} {key : String}
    (htext : ObjectText ms text.toList) (hms : ∀ m ∈ ms, schema.CanRead m)
    (hkey : key ∈ schema.map Prod.fst) (hcount : (ms.map Prod.fst).count key ≠ 1) :
    decode text = .error .mismatch

section Record

variable {α : Type} {schema : Schema} {build : Members → Option α} {record : α → Members}

theorem lookup_of_mem {β : Type} {l : List (String × β)} (hkeys : (l.map Prod.fst).Nodup)
    {m : String × β} (hm : m ∈ l) : l.lookup m.1 = some m.2 := by
  obtain ⟨before, after, rfl⟩ := List.append_of_mem hm
  rw [List.map_append, List.map_cons] at hkeys
  refine List.lookup_eq_some_iff.2 ⟨before, after, rfl, fun x hx => bne_iff_ne.2 fun heq => ?_⟩
  exact (List.nodup_append.1 hkeys).2.2 x.1 (List.mem_map_of_mem hx) m.1 List.mem_cons_self heq.symm

namespace Describes

theorem map_fst_record (h : Describes schema build record) (a : α) :
    (record a).map Prod.fst = schema.map Prod.fst := by
  rw [← h.schema_eq a, List.map_map]
  rfl

/-- Members that hold what those of a record hold make that record. -/
theorem build_of_perm (h : Describes schema build record) {a : α} {ms : Members}
    (hms : ms.Perm (record a)) : build ms = some a := by
  have hkeys : (ms.map Prod.fst).Nodup := by
    rw [(hms.map Prod.fst).nodup_iff, h.map_fst_record]
    exact h.nodup_keys
  exact h.build_of_lookup fun m hm => lookup_of_mem hkeys (hms.mem_iff.2 hm)

theorem scalar?_spelled (h : Describes schema build record) {a : α} {m : String × Scalar}
    (hm : m ∈ record a) : schema.scalar? (spelled m) = some m := by
  have hmem : (m.1, m.2.type) ∈ schema := by
    rw [← h.schema_eq a]
    exact List.mem_map_of_mem hm
  have htype : schema.lookup m.1 = some m.2.type := lookup_of_mem h.nodup_keys hmem
  simp only [Schema.scalar?, spelled, htype, Option.bind_some, m.2.ofToken?_token, Option.map_some]

/-- The fold over members that are those of a record, but for others and for their order. -/
theorem foldlM_take?_of_perm (h : Describes schema build record) {a : α}
    {ms : List (String × Option Token)}
    (hms : (schema.known ms).Perm ((record a).map spelled)) :
    ∃ ms', ms.foldlM (Members.take? schema) [] = some ms' ∧ ms'.Perm (record a) := by
  have hscalar : ∀ m ∈ schema.known ms, (schema.scalar? m).isSome := by
    intro m hm
    obtain ⟨x, hx, rfl⟩ := List.mem_map.1 (hms.mem_iff.1 hm)
    rw [h.scalar?_spelled hx]
    rfl
  have hkeys : ((schema.known ms).map Prod.fst).Nodup := by
    have hfst : (record a).map (Prod.fst ∘ spelled) = (record a).map Prod.fst := rfl
    rw [(hms.map Prod.fst).nodup_iff, List.map_map, hfst, h.map_fst_record]
    exact h.nodup_keys
  refine ⟨_, foldlM_take?_eq_some hscalar hkeys, ?_⟩
  -- members of other keys hold no scalar, so only those of the schema come through
  have hknown : ms.filterMap schema.scalar? = (schema.known ms).filterMap schema.scalar? := by
    rw [Schema.known, List.filterMap_filter]
    refine List.filterMap_congr fun m _ => ?_
    split
    · rfl
    · rename_i hm
      exact scalar?_of_not_knows hm
  have hrecord : ((record a).map spelled).filterMap schema.scalar? = record a := by
    rw [List.filterMap_map]
    refine (List.filterMap_congr fun m hm => ?_).trans List.filterMap_some
    exact h.scalar?_spelled hm
  rw [List.nil_append, hknown, ← hrecord]
  exact hms.filterMap _

/-- A record is not built from members of which one is missing or stands twice. -/
theorem bind_build_eq_none (h : Describes schema build record)
    {ms : List (String × Option Token)} {key : String} (hkey : key ∈ schema.map Prod.fst)
    (hcount : (ms.map Prod.fst).count key ≠ 1) :
    (ms.foldlM (Members.take? schema) []).bind build = none := by
  cases hfold : ms.foldlM (Members.take? schema) [] with
  | none => rfl
  | some ms' =>
    obtain ⟨hkeys, hnodup⟩ := keys_of_foldlM_take? hfold List.nodup_nil
    have hknows : schema.knows key := isSome_lookup_iff.2 hkey
    have hfilter : (schema.known ms).map Prod.fst = (ms.map Prod.fst).filter schema.knows := by
      rw [List.filter_map]
      rfl
    have hcount' : (ms'.map Prod.fst).count key = (ms.map Prod.fst).count key := by
      rw [hkeys, List.map_nil, List.nil_append, hfilter, List.count_filter hknows]
    have hmissing : key ∉ ms'.map Prod.fst := by
      intro hmem
      exact hcount (hcount' ▸ List.count_eq_one_of_mem hnodup hmem)
    refine h.build_eq_none hkey ?_
    rw [← Option.not_isSome_iff_eq_none, isSome_lookup_iff]
    exact hmissing

/-- **A decoder of records takes all spellings of a record.** -/
theorem takesSpellings (h : Describes schema build record) :
    TakesSpellings (decode (readRecord schema build)) schema record where
  object {a ms text} htext hms := by
    have hread : ∀ m ∈ ms, schema.CanRead m := by
      intro m hm hknows
      have hknown : m ∈ schema.known ms := List.mem_filter.2 ⟨hm, hknows⟩
      obtain ⟨x, -, rfl⟩ := List.mem_map.1 (hms.mem_iff.1 hknown)
      rfl
    obtain ⟨ms', hfold, hperm⟩ := h.foldlM_take?_of_perm hms
    rw [decode_objectText htext hread, hfold, Option.bind_some, h.build_of_perm hperm]
    rfl
  array {a text} htext := by
    rw [← h.schema_eq a, decode_arrayText htext, h.build_of_perm (List.Perm.refl _)]
    rfl
  refused htext hread hkey hcount := by
    rw [decode_objectText htext hread, h.bind_build_eq_none hkey hcount]
    rfl

end Describes

end Record

/-! ## Nodes, edges and spans -/

theorem describes_node : Describes nodeSchema nodeOfMembers? nodeRecord where
  schema_eq a := rfl
  nodup_keys := by decide
  build_of_lookup h := by
    simp only [nodeRecord, List.mem_cons, List.not_mem_nil, or_false, forall_eq_or_imp,
      forall_eq] at h
    obtain ⟨hid, hpath, hkind, hsr, hsc, her, hec⟩ := h
    simp only [nodeOfMembers?, Members.text?, Members.signed?, hid, hpath, hkind, hsr, hsc, her, hec]
    rfl
  build_eq_none hkey h := by
    simp only [nodeSchema, List.map_cons, List.map_nil, List.mem_cons, List.not_mem_nil,
      or_false] at hkey
    obtain rfl | rfl | rfl | rfl | rfl | rfl | rfl := hkey
    all_goals simp [nodeOfMembers?, Members.text?, Members.signed?, h]

/-- The members an edge comes to. -/
def edgeRecord (e : Edge) : Members :=
  [("parent", .text e.parent), ("child", .text e.child)]

theorem describes_edge : Describes edgeSchema edgeOfMembers? edgeRecord where
  schema_eq a := rfl
  nodup_keys := by decide
  build_of_lookup h := by
    simp only [edgeRecord, List.mem_cons, List.not_mem_nil, or_false, forall_eq_or_imp,
      forall_eq] at h
    obtain ⟨hparent, hchild⟩ := h
    simp only [edgeOfMembers?, Members.text?, hparent, hchild]
    rfl
  build_eq_none hkey h := by
    simp only [edgeSchema, List.map_cons, List.map_nil, List.mem_cons, List.not_mem_nil,
      or_false] at hkey
    obtain rfl | rfl := hkey
    all_goals simp [edgeOfMembers?, Members.text?, h]

/-- The members a span comes to. -/
def spanRecord (s : Span) : Members :=
  [("start_row", .unsigned s.start.row), ("start_col", .unsigned s.start.col),
   ("end_row", .unsigned s.stop.row), ("end_col", .unsigned s.stop.col)]

theorem describes_span : Describes spanSchema spanOfMembers? spanRecord where
  schema_eq a := rfl
  nodup_keys := by decide
  build_of_lookup h := by
    simp only [spanRecord, List.mem_cons, List.not_mem_nil, or_false, forall_eq_or_imp,
      forall_eq] at h
    obtain ⟨hsr, hsc, her, hec⟩ := h
    simp only [spanOfMembers?, Members.unsigned?, hsr, hsc, her, hec]
    rfl
  build_eq_none hkey h := by
    simp only [spanSchema, List.map_cons, List.map_nil, List.mem_cons, List.not_mem_nil,
      or_false] at hkey
    obtain rfl | rfl | rfl | rfl := hkey
    all_goals simp [spanOfMembers?, Members.unsigned?, h]

/-- **Every spelling of a node, an edge or a span is decoded**, and an object in which a key is
missing or stands twice is a mismatch. -/
theorem decode_takes_spellings :
    TakesSpellings decodeNode nodeSchema nodeRecord ∧
      TakesSpellings decodeEdge edgeSchema edgeRecord ∧
      TakesSpellings decodeSpan spanSchema spanRecord :=
  ⟨describes_node.takesSpellings, describes_edge.takesSpellings, describes_span.takesSpellings⟩

/-- An edge with its members the other way round, an escape in a key, and a member that can only be
skipped. -/
def scrambledEdge : String :=
  "\x7b \"x\" : [1.5e3, \"\\ud800\"] ,\n\"child\":\"b\", \"p\\u0061rent\" : \"\\/\"\x7d "

theorem objectText_scrambledEdge :
    ObjectText [("x", none), ("child", some (.text ['b'])), ("parent", some (.text ['/']))]
      scrambledEdge.toList := by
  have hspace : Blank [' '] := blank_of_all rfl
  have hnewline : Blank ['\n'] := blank_of_all rfl
  have hdigit (c : Char) (hc : isDigit c) : Digits [c] :=
    ⟨List.cons_ne_nil c [], fun d hd => List.mem_singleton.1 hd ▸ hc⟩
  have hnumber : Derives .value "1.5e3".toList :=
    .number (.positive ⟨hdigit '1' rfl, by decide⟩ (.some (hdigit '5' rfl))
      (.unsigned (.inl rfl) (hdigit '3' rfl)))
  have hcode : HexCode 0xD800 "d800".toList := ⟨by decide, by decide⟩
  have hhalf : Derives .value "\"\\ud800\"".toList := .string (.cons (.code hcode) .nil)
  have hskipped : Derives .value "[1.5e3, \"\\ud800\"]".toList :=
    .array (.nextElement (.padded blank_nil hnumber blank_nil)
      (.lastElement (.padded hspace hhalf blank_nil)))
  have hx : MemberText ("x", none) " \"x\" : [1.5e3, \"\\ud800\"] ".toList :=
    .mk hspace (spells_escape "x".toList) hspace hspace
      (.any hskipped) hspace
  have hchild : MemberText ("child", some (.text ['b'])) "\n\"child\":\"b\"".toList :=
    .mk hnewline (spells_escape "child".toList) blank_nil blank_nil
      (.token (.text (spells_escape ['b']))) blank_nil
  have hletter : HexCode 'a'.toNat "0061".toList := ⟨by decide, by decide⟩
  have hkey : Spells "parent".toList "p\\u0061rent".toList :=
    .cons (.plain (by decide) (by decide) (by decide))
      (.cons (.code hletter) (spells_escape "rent".toList))
  have hparent : MemberText ("parent", some (.text ['/'])) " \"p\\u0061rent\" : \"\\/\"".toList :=
    .mk hspace hkey hspace hspace
      (.token (.text (.cons (.letter (e := '/') (by decide)) .nil))) blank_nil
  have hobject := ObjectText.members blank_nil (.next hx (.next hchild (.last hparent)))
    hspace
  have htext : scrambledEdge.toList = [] ++ '\x7b' ::
      ((" \"x\" : [1.5e3, \"\\ud800\"] ".toList ++ ',' :: ("\n\"child\":\"b\"".toList ++
        ',' :: " \"p\\u0061rent\" : \"\\/\"".toList)) ++ '\x7d' :: [' ']) := by
    decide +kernel
  rw [htext]
  exact hobject

/-- An edge without a parent. -/
def halfEdge : String :=
  "\x7b\"child\":\"b\"\x7d"

theorem objectText_halfEdge : ObjectText [("child", some (.text ['b']))] halfEdge.toList :=
  .members blank_nil
    (.last (.mk blank_nil (spells_escape "child".toList) blank_nil
      blank_nil (.token (.text (spells_escape ['b']))) blank_nil))
    blank_nil

theorem decode_takes_spellings_edges :
    (∃ ms, ObjectText ms scrambledEdge.toList ∧
      (edgeSchema.known ms).Perm ((edgeRecord ⟨"/", "b"⟩).map spelled) ∧
      decodeEdge scrambledEdge = .ok ⟨"/", "b"⟩) ∧
    (∃ ms, ObjectText ms halfEdge.toList ∧ (ms.map Prod.fst).count "parent" ≠ 1 ∧
      decodeEdge halfEdge = .error .mismatch) := by
  have hperm : (edgeSchema.known [("x", none), ("child", some (.text ['b'])),
      ("parent", some (.text ['/']))]).Perm ((edgeRecord ⟨"/", "b"⟩).map spelled) :=
    .swap _ _ []
  have hread : ∀ m ∈ [("child", some (Token.text ['b']))], edgeSchema.CanRead m := by
    simp [Schema.CanRead]
  have hkey : "parent" ∈ edgeSchema.map Prod.fst := by decide
  have hcount : ([("child", some (Token.text ['b']))].map Prod.fst).count "parent" ≠ 1 := by decide
  exact ⟨⟨_, objectText_scrambledEdge, hperm,
      decode_takes_spellings.2.1.object objectText_scrambledEdge hperm⟩,
    ⟨_, objectText_halfEdge, hcount,
      decode_takes_spellings.2.1.refused objectText_halfEdge hread hkey hcount⟩⟩

end Json
end SyntaxGraph
