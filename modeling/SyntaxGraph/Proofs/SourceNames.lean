import SyntaxGraph.Language
import SyntaxGraph.Proofs.Resolve

/-!
# The names of source files

A path tells a language in three steps, each with a rule of its own.  Its file name is the last of its
components, for which slashes and `.` at the end do not count.  The extension of a name is what follows
its last dot, unless that dot comes first.  And an extension is looked up as text, with or without a
dot in front.

Together they come to one rule: the file name is something, a dot, and one of the extensions of the
language (`Language.ofPath?_eq_some_iff`).  The three steps agree because an extension is plain ASCII
without a dot: it is read back from its bytes and from no others, no dot is ever taken off, and the last
dot of the name is the one before it.  What stands before that dot may be any bytes at all.

## What is here

* `Path.EndsIn`, `Path.fileName?_eq_some_iff` — the last component of a path.
* `Path.nameExtension?_eq_some_iff` — the extension of a name.
* `Utf8.bytes_of_text?` — ASCII text is read from its own bytes only.
* `Language.recognises_names` — the main result.
-/

set_option autoImplicit false
namespace SyntaxGraph

/-! ## The last component -/

namespace Path

/-- A path whose last component is `n`, once the slashes and the `.` behind it are dropped. -/
def EndsIn (p : Path) (n : Bytes) : Prop :=
  ∃ (front : Bytes) (tail : List Bytes),
    p.bytes = front ++ n ++ tail.flatMap (slash :: ·) ∧ (front = [] ∨ front.getLast? = some slash) ∧
      IsSegment n ∧ ∀ s ∈ tail, s = [] ∨ s = [dot]

/-- The segments of a path that ends in a name. -/
theorem endsIn_iff {p : Path} {n : Bytes} :
    p.EndsIn n ↔ ∃ front tail, splitSlash p.bytes = front ++ n :: tail ∧ IsSegment n ∧
      ∀ s ∈ tail, s = [] ∨ s = [dot] := by
  constructor
  · rintro ⟨front, tail, hbytes, hfront, hn, htail⟩
    have hplain : ∀ s ∈ tail, slash ∉ s := by
      intro s hs
      rcases htail s hs with rfl | rfl <;> decide
    have hsplit := splitSlash_flatMap hn.plain hplain
    rw [List.append_assoc] at hbytes
    rcases hfront with rfl | hslash
    · exact ⟨[], tail, by rw [hbytes, List.nil_append, hsplit, List.nil_append], hn, htail⟩
    · obtain ⟨init, rfl⟩ := List.getLast?_eq_some_iff.1 hslash
      refine ⟨splitSlash init, tail, ?_, hn, htail⟩
      rw [hbytes, List.append_assoc, List.singleton_append, splitSlash_append, hsplit]
  · rintro ⟨front, tail, hsplit, hn, htail⟩
    have hbytes : p.bytes = joinSlash (front ++ n :: tail) := by
      rw [← hsplit, joinSlash_splitSlash]
    cases front with
    | nil =>
      refine ⟨[], tail, ?_, .inl rfl, hn, htail⟩
      rw [hbytes, List.nil_append, joinSlash, intercalate_cons, List.nil_append]
    | cons s front =>
      refine ⟨s ++ front.flatMap (slash :: ·) ++ [slash], tail, ?_, .inr ?_, hn, htail⟩
      · rw [hbytes, List.cons_append, joinSlash, intercalate_cons, List.flatMap_append,
          List.flatMap_cons]
        simp only [List.append_assoc, List.cons_append, List.nil_append]
      · rw [List.getLast?_concat]

/-- There is one last component at most. -/
theorem EndsIn.unique {p : Path} {n n' : Bytes} (h : p.EndsIn n) (h' : p.EndsIn n') : n = n' := by
  have hlast {m : Bytes} (hm : p.EndsIn m) : (solid (splitSlash p.bytes)).getLast? = some m := by
    obtain ⟨front, tail, hsplit, hsegment, htail⟩ := endsIn_iff.1 hm
    have hblank : solid tail = [] := by
      rw [solid, List.filter_eq_nil_iff]
      intro s hs
      rcases htail s hs with rfl | rfl <;> decide
    have hsolid : solid (front ++ m :: tail) = solid front ++ [m] := by
      rw [← hblank, solid, List.filter_append, List.filter_cons_of_pos (by simp [hsegment.solid])]
      rfl
    rw [hsplit, hsolid, List.getLast?_concat]
  exact Option.some_inj.1 ((hlast h).symm.trans (hlast h'))

theorem isStay_iff {n : Bytes} : isStay n ↔ n = [] ∨ n = [dot] := by
  simp [isStay]

/-- What a segment means, by cases. -/
theorem ofSegment?_eq_ite (s : Bytes) :
    Component.ofSegment? s =
      if isStay s then none else if s = [dot, dot] then some .parent else some (.name s) := by
  cases s with
  | nil => rfl
  | cons b s =>
    have hstay : isStay (b :: s) ↔ b :: s = [dot] := by simp [isStay_iff]
    simp only [Component.ofSegment?, hstay]

theorem ofSegment?_eq_none {s : Bytes} : Component.ofSegment? s = none ↔ s = [] ∨ s = [dot] := by
  rw [ofSegment?_eq_ite, ← isStay_iff]
  split_ifs <;> simp_all

theorem ofSegment?_eq_name {s n : Bytes} :
    Component.ofSegment? s = some (.name n) ↔ s = n ∧ isStay s = false ∧ s ≠ [dot, dot] := by
  rw [ofSegment?_eq_ite]
  split_ifs <;> simp_all

/-- **The file name of a path** is its last component, unless that is `..` -/
theorem fileName?_eq_some_iff {p : Path} {n : Bytes} :
    p.fileName? = some n ↔ p.EndsIn n ∧ n ≠ [dot, dot] := by
  -- what a path starts with is no name, so its segments decide
  have hstart : p.fileName? = some n ↔
      ((splitSlash p.bytes).filterMap Component.ofSegment?).getLast? = some (.name n) := by
    rw [fileName?, components, List.getLast?_append]
    cases ((splitSlash p.bytes).filterMap Component.ofSegment?).getLast? with
    | none => split_ifs <;> simp
    | some c => cases c <;> simp
  rw [hstart, List.getLast?_filterMap, List.findSome?_eq_some_iff, endsIn_iff]
  constructor
  · rintro ⟨tail, s, front, hrev, hs, htail⟩
    obtain ⟨rfl, hstay, hup⟩ := ofSegment?_eq_name.1 hs
    have hsplit : splitSlash p.bytes = front.reverse ++ s :: tail.reverse := by
      rw [← List.reverse_reverse (splitSlash p.bytes), hrev]
      simp
    have hmem : s ∈ splitSlash p.bytes := by rw [hsplit]; simp
    refine ⟨⟨front.reverse, tail.reverse, hsplit, ⟨hstay, fun hslash => ?_⟩, fun t ht => ?_⟩, hup⟩
    · exact (of_mem_splitSlash hmem hslash).2 rfl
    · exact ofSegment?_eq_none.1 (htail t (List.mem_reverse.1 ht))
  · rintro ⟨⟨front, tail, hsplit, hn, htail⟩, hup⟩
    refine ⟨tail.reverse, n, front.reverse, ?_, ofSegment?_eq_name.2 ⟨rfl, hn.solid, hup⟩, ?_⟩
    · rw [hsplit]
      simp
    · exact fun t ht => ofSegment?_eq_none.2 (htail t (List.mem_reverse.1 ht))

/-! ## The extension -/

/-- **The extension of a name** is what follows its last dot, and something stands before that. -/
theorem nameExtension?_eq_some_iff {n e : Bytes} :
    nameExtension? n = some e ↔ ∃ stem, n = stem ++ dot :: e ∧ stem ≠ [] ∧ dot ∉ e := by
  rw [nameExtension?]
  constructor
  · intro h
    split at h
    · rename_i b c rest hdrop
      cases h
      have hdot : b = dot := by
        have hhead := List.head?_dropWhile_not (· ≠ dot) n.reverse
        rw [hdrop] at hhead
        simpa using hhead
      refine ⟨(c :: rest).reverse, ?_, by simp, fun hmem => ?_⟩
      · have hcut : n.reverse.takeWhile (· ≠ dot) ++ n.reverse.dropWhile (· ≠ dot) = n.reverse :=
          List.takeWhile_append_dropWhile
        rw [hdrop, hdot] at hcut
        have hn := congrArg List.reverse hcut
        rw [List.reverse_reverse] at hn
        refine hn.symm.trans ?_
        rw [List.reverse_append, List.reverse_cons, List.append_assoc, List.singleton_append]
      · have hall := List.all_eq_true.1 (List.all_takeWhile (p := (· ≠ dot)) (l := n.reverse))
        simpa using hall dot (List.mem_reverse.1 hmem)
    · cases h
  · rintro ⟨stem, rfl, hstem, hdot⟩
    have hplain : ∀ b ∈ e.reverse, decide (b ≠ dot) = true := by
      intro b hb
      rw [decide_eq_true_eq]
      rintro rfl
      exact hdot (List.mem_reverse.1 hb)
    have hreverse : (stem ++ dot :: e).reverse = e.reverse ++ dot :: stem.reverse := by simp
    obtain ⟨b, rest, hrest⟩ : ∃ b rest, stem.reverse = b :: rest :=
      List.exists_cons_of_ne_nil fun hnil => hstem (List.reverse_eq_nil_iff.1 hnil)
    rw [hreverse, List.takeWhile_append_of_pos hplain, List.dropWhile_append_of_pos hplain, hrest]
    simp

end Path

/-! ## Reading ASCII -/

namespace Utf8

/-- An ASCII character is written as the byte it was read from. -/
theorem utf8EncodeChar_of_ascii {b : UInt8} (hb : b < 0x80) :
    String.utf8EncodeChar (Char.ofNat b.toNat) = [b] := by
  have hlt : b.toNat < 0x80 := UInt8.lt_iff_toNat_lt.1 hb
  have hval : (Char.ofNat b.toNat).val.toNat = b.toNat := toNat_of_ascii hb
  rw [String.utf8EncodeChar]
  simp only [hval]
  rw [if_pos (by omega), UInt8.ofNat_toNat]

/-- **ASCII text is read from its own bytes only.** -/
theorem bytes_of_text? {bs : Bytes} {s : String} (h : text? bs = some s)
    (hs : ∀ c ∈ s.toList, IsAscii c) : bs = ofString s := by
  obtain ⟨cs, hcs, rfl⟩ := Option.map_eq_some_iff.1 h
  rw [String.toList_ofList] at hs
  rw [ofString, String.toList_ofList]
  clear h
  induction bs generalizing cs with
  | nil =>
    cases hcs
    rfl
  | cons b bs ih =>
    rcases pieces_cons b bs with ⟨hb, hpieces⟩ | ⟨x, xs, hpieces, hx⟩
    · rw [hpieces, List.mapM_cons] at hcs
      obtain ⟨c, hc, hrest⟩ := Option.bind_eq_some_iff.1 hcs
      obtain ⟨cs', hcs', hcons⟩ := Option.bind_eq_some_iff.1 hrest
      cases hc
      cases hcons
      rw [encode, List.flatMap_cons, utf8EncodeChar_of_ascii hb, List.singleton_append, ← encode,
        ← ih cs' hcs' fun c hc => hs c (List.mem_cons_of_mem _ hc)]
    · -- the first character would be one of several bytes
      rw [hpieces, List.mapM_cons] at hcs
      obtain ⟨c, hc, hrest⟩ := Option.bind_eq_some_iff.1 hcs
      obtain ⟨cs', -, hcons⟩ := Option.bind_eq_some_iff.1 hrest
      cases hcons
      cases x with
      | char c' =>
        cases hc
        exact absurd (hs _ List.mem_cons_self) hx
      | broken bs' => cases hc

end Utf8

/-! ## The language of a name -/

namespace Language

/-- A path whose file name is something, a dot, and an extension of the language. -/
def Names (l : Language) (p : Path) : Prop :=
  ∃ stem, ∃ e ∈ l.extensions, p.EndsIn (stem ++ Path.dot :: Utf8.ofString e) ∧ stem ≠ []

/-- A text that is ASCII without a dot and without a slash, and is read back from its bytes. -/
structure IsPlain (e : String) : Prop where
  ascii : ∀ c ∈ e.toList, Utf8.IsAscii c
  nonempty : Utf8.ofString e ≠ []
  dot : Path.dot ∉ Utf8.ofString e
  slash : Path.slash ∉ Utf8.ofString e
  read : Utf8.text? (Utf8.ofString e) = some e
  kept : dropDot e = e

theorem isPlain_of_mem {l : Language} {e : String} (he : e ∈ l.extensions) : IsPlain e := by
  have hascii : ∀ l ∈ all, ∀ e ∈ l.extensions,
      e.toList.all fun c => decide (Utf8.IsAscii c) := by
    decide
  have hbytes : ∀ l ∈ all, ∀ e ∈ l.extensions, Utf8.ofString e ≠ [] ∧ Path.dot ∉ Utf8.ofString e ∧
      Path.slash ∉ Utf8.ofString e ∧ Utf8.text? (Utf8.ofString e) = some e ∧ dropDot e = e := by
    decide
  obtain ⟨nonempty, dot, slash, read, kept⟩ := hbytes l (mem_all l) e he
  refine ⟨fun c hc => ?_, nonempty, dot, slash, read, kept⟩
  exact of_decide_eq_true (List.all_eq_true.1 (hascii l (mem_all l) e he) c hc)

/-- A name with an extension does not end in a dot. -/
theorem IsPlain.ne_concat_dot {e : String} (he : IsPlain e) {stem n : Bytes} :
    stem ++ Path.dot :: Utf8.ofString e ≠ n ++ [Path.dot] := by
  intro h
  have hends := congrArg List.getLast? h
  rw [List.getLast?_concat, List.getLast?_append_of_ne_nil _ (List.cons_ne_nil _ _),
    List.getLast?_cons_of_ne_nil he.nonempty] at hends
  exact he.dot (List.mem_of_mem_getLast? hends)

/-- A name with an extension is a segment. -/
theorem IsPlain.isSegment {e : String} (he : IsPlain e) {stem : Bytes} (hstem : stem ≠ [])
    (hslash : Path.slash ∉ stem) : Path.IsSegment (stem ++ Path.dot :: Utf8.ofString e) where
  solid := by
    obtain ⟨b, stem, rfl⟩ := List.exists_cons_of_ne_nil hstem
    rw [← Bool.not_eq_true, Path.isStay_iff]
    simp
  plain := by
    rw [List.mem_append, List.mem_cons]
    rintro (h | h | h)
    · exact hslash h
    · exact absurd h (by decide)
    · exact he.slash h

/-- No extension belongs to two languages. -/
theorem eq_of_mem_extensions {l l' : Language} {e : String} (he : e ∈ l.extensions)
    (he' : e ∈ l'.extensions) : l = l' := by
  have hall : ∀ l ∈ all, ∀ l' ∈ all, ∀ e ∈ l.extensions, e ∈ l'.extensions → l = l' := by
    decide
  exact hall l (mem_all l) l' (mem_all l') e he he'

theorem ofExtension?_eq_some_iff {t : String} {l : Language} :
    ofExtension? t = some l ↔ dropDot t ∈ l.extensions := by
  rw [ofExtension?]
  constructor
  · intro h
    simpa using List.find?_some h
  · intro h
    cases hfound : all.find? fun l => dropDot t ∈ l.extensions with
    | none =>
      have hnone := List.find?_eq_none.1 hfound l (mem_all l)
      simp [h] at hnone
    | some l' =>
      have hl' : dropDot t ∈ l'.extensions := by simpa using List.find?_some hfound
      rw [eq_of_mem_extensions hl' h]

theorem dropDot_dot (s : String) : dropDot ("." ++ s) = s := by
  have hlist : ("." ++ s).toList = '.' :: s.toList := String.toList_append
  rw [dropDot, hlist]
  exact String.ofList_toList

theorem dropDot_eq_or (s : String) : dropDot s = s ∨ s.toList = '.' :: (dropDot s).toList := by
  rw [dropDot]
  split
  · rename_i rest hs
    exact .inr (by rw [hs, String.toList_ofList])
  · exact .inl rfl

/-- A text that stands behind the last dot of a name belongs to a language if it is an extension: no dot
is there to be dropped. -/
theorem ofExtension?_text? {bs : Bytes} (hdot : Path.dot ∉ bs) {l : Language} :
    (Utf8.text? bs).bind ofExtension? = some l ↔ ∃ e ∈ l.extensions, bs = Utf8.ofString e := by
  constructor
  · intro h
    obtain ⟨t, ht, hl⟩ := Option.bind_eq_some_iff.1 h
    have he := ofExtension?_eq_some_iff.1 hl
    have hascii := (isPlain_of_mem he).ascii
    rcases dropDot_eq_or t with hsame | hcut
    · rw [hsame] at he hascii
      exact ⟨t, he, Utf8.bytes_of_text? ht hascii⟩
    · have hbytes := Utf8.bytes_of_text? ht (by
        rw [hcut]
        exact List.forall_mem_cons.2 ⟨⟨by decide, by decide⟩, hascii⟩)
      rw [hbytes, Utf8.ofString, hcut] at hdot
      exact absurd List.mem_cons_self hdot
  · rintro ⟨e, he, rfl⟩
    have hplain := isPlain_of_mem he
    rw [hplain.read, Option.bind_some, ofExtension?_eq_some_iff, hplain.kept]
    exact he

/-- **A path is of a language** if its file name is something, a dot, and one of its extensions. -/
theorem ofPath?_eq_some_iff {p : Path} {l : Language} : ofPath? p = some l ↔ l.Names p := by
  have hcut : ofPath? p = some l ↔ ∃ bs, p.extension? = some bs ∧
      (Utf8.text? bs).bind ofExtension? = some l := by
    rw [ofPath?, Option.bind_assoc, Option.bind_eq_some_iff]
  rw [hcut]
  constructor
  · rintro ⟨bs, hext, hl⟩
    obtain ⟨n, hname, hbs⟩ := Option.bind_eq_some_iff.1 hext
    obtain ⟨hends, -⟩ := Path.fileName?_eq_some_iff.1 hname
    obtain ⟨stem, rfl, hstem, hdot⟩ := Path.nameExtension?_eq_some_iff.1 hbs
    obtain ⟨e, he, rfl⟩ := (ofExtension?_text? hdot).1 hl
    exact ⟨stem, e, he, hends, hstem⟩
  · rintro ⟨stem, e, he, hends, hstem⟩
    have hplain := isPlain_of_mem he
    have hup : stem ++ Path.dot :: Utf8.ofString e ≠ [Path.dot] ++ [Path.dot] :=
      hplain.ne_concat_dot
    refine ⟨Utf8.ofString e, ?_, (ofExtension?_text? hplain.dot).2 ⟨e, he, rfl⟩⟩
    rw [Path.extension?, Path.fileName?_eq_some_iff.2 ⟨hends, hup⟩]
    exact Path.nameExtension?_eq_some_iff.2 ⟨stem, rfl, hstem, hplain.dot⟩

/-- **The names of source files.**  A path is of a language exactly if its file name is something, a dot,
and one of the extensions of that language.  There is then only one such language.  A name whose only dot
comes first, or whose last byte is a dot, belongs to none; what stands before the dot may be any bytes.
And an extension is known with a dot in front and without. -/
theorem recognises_names :
    (∀ p (l : Language), ofPath? p = some l ↔ l.Names p) ∧
    (∀ p (l l' : Language), l.Names p → l'.Names p → l = l') ∧
    (∀ (p : Path) n, p.EndsIn (Path.dot :: n) → Path.dot ∉ n → ofPath? p = none) ∧
    (∀ (p : Path) n, p.EndsIn (n ++ [Path.dot]) → ofPath? p = none) ∧
    (∀ stem (l : Language) e, stem ≠ [] → Path.slash ∉ stem → e ∈ l.extensions →
      ofPath? ⟨stem ++ Path.dot :: Utf8.ofString e⟩ = some l) ∧
    ∀ (l : Language) e, e ∈ l.extensions →
      ofExtension? e = some l ∧ ofExtension? ("." ++ e) = some l := by
  refine ⟨fun p l => ofPath?_eq_some_iff, fun p l l' h h' => ?_, fun p n hends hdot => ?_,
    fun p n hends => ?_, fun stem l e hstem hslash he => ?_, fun l e he => ⟨?_, ?_⟩⟩
  · exact Option.some_inj.1 ((ofPath?_eq_some_iff.2 h).symm.trans (ofPath?_eq_some_iff.2 h'))
  · refine Option.eq_none_iff_forall_ne_some.2 fun l hl => ?_
    obtain ⟨stem, e, -, hends', hstem⟩ := ofPath?_eq_some_iff.1 hl
    -- the dot before the extension would have to be the first
    obtain ⟨b, stem, rfl⟩ := List.exists_cons_of_ne_nil hstem
    have htail := (List.cons.inj (hends.unique hends')).2
    rw [htail] at hdot
    exact hdot (by simp)
  · refine Option.eq_none_iff_forall_ne_some.2 fun l hl => ?_
    obtain ⟨stem, e, he, hends', -⟩ := ofPath?_eq_some_iff.1 hl
    exact (isPlain_of_mem he).ne_concat_dot (hends'.unique hends)
  · have hsegment := (isPlain_of_mem he).isSegment hstem hslash
    exact ofPath?_eq_some_iff.2 ⟨stem, e, he, ⟨[], [], by simp, .inl rfl, hsegment, by simp⟩, hstem⟩
  · rw [ofExtension?_eq_some_iff, (isPlain_of_mem he).kept]
    exact he
  · rw [ofExtension?_eq_some_iff, dropDot_dot]
    exact he

end Language
end SyntaxGraph
